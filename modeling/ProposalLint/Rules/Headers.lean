import ProposalLint.Preamble.Schema
import ProposalLint.Rules.FrontMatter
import ProposalLint.Rules.World

namespace ProposalLint

def World.schema (world : World) : Preamble.Schema where
  today := world.today
  address? := world.address?

namespace Rules

open Preamble

def preambleData (schema : Schema) : Rule :=
  preambleRule "preamble-data" "Preamble headers must follow the schema" fun _ v preamble =>
    (failures schema preamble).forM fun f => Action.report v.node f.message

-- The name at the start of a line that a colon follows.
def headerName? (line : List Char) : Option String :=
  let isNameChar (c : Char) := ('a' ≤ c && c ≤ 'z') || c == '-'
  match line.takeWhile isNameChar, line.dropWhile isNameChar with
  | c :: cs, ':' :: _ => if c == '-' then none else some (String.ofList (c :: cs))
  | _, _ => none

-- The known headers in the order in which a text has them at line starts.
def headersOf (text : String) : List Header :=
  (text.toList.splitOn '\n').filterMap fun line => (headerName? line).bind Header.ofName?

-- The first header that stands behind one of a higher rank.
def misplaced? : List Header → (last : Nat := 0) → Option Header
  | [], _ => none
  | h :: hs, last => if h.rank < last then some h else misplaced? hs h.rank

def preambleOrder : Rule :=
  preambleRule "preamble-order"
    "Preamble headers must follow sip, title, status, discussions-to, author, created, updated"
    fun _ v _ => do
      if let some h := misplaced? (headersOf (v.node.value.getD "")) then
        Action.report v.node ("Front-matter property \"" ++ h.name ++ "\" is not in proper order")

end Rules
end ProposalLint
