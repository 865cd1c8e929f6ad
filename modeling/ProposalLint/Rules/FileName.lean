import ProposalLint.Rules.FrontMatter

namespace ProposalLint.Rules

def isDigit (c : Char) : Bool :=
  '0' ≤ c && c ≤ '9'

-- The digits of a number without a zero in front.
def isNumeral : List Char → Bool
  | [] => false
  | c :: cs => isDigit c && c != '0' && cs.all isDigit

-- A name that is `sip-N.md` as a whole.
def isProposalName (name : String) : Bool :=
  match name.toList with
  | 's' :: 'i' :: 'p' :: '-' :: rest =>
    match rest.reverse with
    | 'd' :: 'm' :: '.' :: number => isNumeral number.reverse
    | _ => false
  | _ => false

def filename : Rule :=
  .single "filename" "File name must be in sip-N.md format" "root" () fun c root => do
    if let some path := c.path then
      if !c.fileName?.any isProposalName then
        Action.report root.node
          ("File \"" ++ path ++ "\" doesn't have a filename in \"sip-N.md\" format")

-- The number that a name ending in `sip-N.md` has; it must fit in 64 bits.
def proposalNumber? (name : String) : Option Nat :=
  match name.toList.reverse with
  | 'd' :: 'm' :: '.' :: rest =>
    let digits := (rest.takeWhile isDigit).reverse
    match rest.dropWhile isDigit with
    | '-' :: 'p' :: 'i' :: 's' :: _ =>
      let n := digits.foldl (fun n c => 10 * n + (c.toNat - 48)) 0
      if isNumeral digits && n < 18446744073709551616 then some n else none
    | _ => none
  | _ => none

-- The number in a preamble, if it is one that is not negative.
def preambleNumber? (preamble : Yaml.Value) : Option Nat :=
  match (preamble.untagged.field? "sip").map Yaml.Value.untagged with
  | some (.int n) => if 0 ≤ n then some n.toNat else none
  | _ => none

def preambleFilename : Rule :=
  preambleRule "preamble-filename" "Preamble sip number must match the filename"
    fun c v preamble => do
      if let some number := preambleNumber? preamble then
        if let some name := c.fileName? then
          if proposalNumber? name != some number then
            Action.report v.node "Front-matter property \"sip\" doesn't match the filename number"

end ProposalLint.Rules
