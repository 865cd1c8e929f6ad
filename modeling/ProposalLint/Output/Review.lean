import ProposalLint.Engine.Batch

namespace ProposalLint.LintResult

-- Documents inside the workspace are named from there.
def reviewPath (workspace : Option String) (path : String) : String :=
  (workspace.bind (Path.below? · path)).getD path

def reviewEntry (path : String) (m : Message) : String :=
  "- " ++ m.text ++ " <span style=\"color:gray\">(" ++ m.ruleId ++ ")</span>\n\n  ➔ [`" ++ path ++ ":" ++
    toString m.line ++ "`](" ++ path ++ ")"

-- Nothing is said when there is nothing wrong.
def renderReview (workspace : Option String) (r : LintResult) : String :=
  if r.hasErrors then
    "SIP validation failed with following errors:\n\n" ++
      "\n\n".intercalate (r.messages.map fun (path, m) => reviewEntry (reviewPath workspace path) m) ++
      "\n"
  else
    ""

end ProposalLint.LintResult
