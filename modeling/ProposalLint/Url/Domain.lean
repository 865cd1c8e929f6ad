import ProposalLint.Text.Case
import ProposalLint.Url.Compatibility
import ProposalLint.Url.Direction
import ProposalLint.Url.Joining
import ProposalLint.Url.Punycode

namespace ProposalLint.Url

namespace Domain

-- These letters are left alone although other letters fold to the same key.
def isKept (c : Char) : Bool :=
  c == 'ß' || c == 'ς'

def mapChar (c : Char) : List Char :=
  if c.toNat < 128 then [c.toLower]
  else if isKept c || refused.contains c then [c]
  else if ignored.contains c then []
  else (compatible.text? c).getD (Text.foldChar c)

def isAscii (cs : List Char) : Bool :=
  cs.all (·.toNat < 128)

-- The text that is read for another one: in lower case, without characters that stand for others,
-- and with marks joined to their letters.
def normalForm (cs : List Char) : List Char :=
  let mapped := cs.flatMap mapChar
  if isAscii mapped then mapped else Composition.compose mapped

def splitDots (cs : List Char) : List (List Char) :=
  cs.splitOn '.'

-- No label starts with a mark or holds a refused character.
def isFine (label : List Char) : Bool :=
  !label.any (fun c => 128 ≤ c.toNat && refused.contains c) && !(label.head?.any isMark)
    && Joining.isFine [] label

-- The label in ASCII and the text that it stands for.
def label? (label : List Char) : Option (List Char × List Char) :=
  match label with
  | 'x' :: 'n' :: '-' :: '-' :: code => do
    let text ← Punycode.decode? code
    if text.isEmpty || isAscii text || !isFine text || normalForm text != text then none
    some (label, text)
  | _ =>
    if isAscii label then some (label, label)
    else if isFine label then some ('x' :: 'n' :: '-' :: '-' :: Punycode.encode label, label)
    else none

-- Characters that no domain has.
def isForbidden (c : Char) : Bool :=
  c.toNat ≤ 32 || c.toNat == 127 || "#%/:<>?@[\\]^|".toList.contains c

-- The name in ASCII, unless a label breaks a rule. The rules and the tables are those of UTS 46 in
-- version 15.1, without transitional forms and with the checks of joiners and directions.
def toAscii? (cs : List Char) : Option (List Char) := do
  let labels ← (splitDots (normalForm cs)).mapM label?
  let name := ['.'].intercalate (labels.map (·.1))
  if name.any isForbidden || !Direction.isFine (labels.map (·.2)) then none else some name

end Domain
end ProposalLint.Url
