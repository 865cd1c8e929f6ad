import ProposalLint.Engine.Batch

namespace ProposalLint.LintResult

def reportEntry (path : String) (m : Message) : String :=
  "error[" ++ m.ruleId ++ "]: " ++ m.text ++ "\n  -> " ++ path ++ ":" ++ toString m.line ++ ":" ++
    toString m.column ++ "\n\n"

-- All messages, and how many there are.
def renderText (r : LintResult) : String :=
  String.join (r.messages.map fun (path, m) => reportEntry path m) ++ "Found " ++
    toString r.messageCount ++ " problem(s) in " ++ toString r.filesChecked ++ " file(s)\n"

def compactLine (path : String) (m : Message) : String :=
  path ++ ":" ++ m.display ++ "\n"

-- One line a message.
def renderCompact (r : LintResult) : String :=
  String.join (r.messages.map fun (path, m) => compactLine path m)

end ProposalLint.LintResult
