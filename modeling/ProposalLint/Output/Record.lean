import ProposalLint.Engine.Batch
import ProposalLint.Json.Parser

namespace ProposalLint

namespace Json

-- The members of a record under their names, or in their order.
def members? (names : List String) : Json → Option (List Json)
  | object ms => names.mapM fun name => ms.lookup name
  | array items => if items.length = names.length then some items else none
  | _ => none

-- A whole number of at most 64 bits.
def word? (j : Json) : Option Nat :=
  j.natural?.filter (· < 18446744073709551616)

end Json

namespace Message

def toJson (m : Message) : Json :=
  .object [("ruleId", .string m.ruleId), ("message", .string m.text), ("line", .natural m.line),
    ("column", .natural m.column)]

def ofJson? (j : Json) : Option Message := do
  match ← j.members? ["ruleId", "message", "line", "column"] with
  | [ruleId, text, line, column] =>
    return ⟨← ruleId.string?, ← text.string?, ← line.word?, ← column.word?⟩
  | _ => none

end Message

namespace FileResult

def toJson (r : FileResult) : Json :=
  .object [("filePath", .string r.path), ("messages", .array (r.messages.map Message.toJson))]

def ofJson? (j : Json) : Option FileResult := do
  match ← j.members? ["filePath", "messages"] with
  | [path, messages] => return ⟨← path.string?, ← (← messages.array?).mapM Message.ofJson?⟩
  | _ => none

end FileResult

namespace LintResult

def toJson (r : LintResult) : Json :=
  .object [("files", .array (r.files.map FileResult.toJson))]

def ofJson? (j : Json) : Option LintResult := do
  match ← j.members? ["files"] with
  | [files] => return ⟨← (← files.array?).mapM FileResult.ofJson?⟩
  | _ => none

-- The record on lines of its own.
def renderJson (r : LintResult) : String :=
  r.toJson.pretty ++ "\n"

end LintResult
end ProposalLint
