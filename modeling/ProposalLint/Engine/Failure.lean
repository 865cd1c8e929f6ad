namespace ProposalLint

-- A failure inside a rule.
inductive RuleError where
  -- A report was made while no rule was running.
  | noActiveRule
  | config (text : String)
  | io (text : String)
  | other (text : String)
deriving DecidableEq, Inhabited, Repr

namespace RuleError

def message : RuleError → String
  | noActiveRule => "report() called outside of an active rule invocation"
  | config text => "invalid rule configuration: " ++ text
  | io text => "IO error: " ++ text
  | other text => text

end RuleError

-- How a validator can end other than well.
inductive Fault where
  | error (cause : RuleError)
  | panic
deriving DecidableEq, Inhabited, Repr

-- A failure of a whole run.
inductive EngineError where
  | duplicateRule (id : String)
  | create (rule : String) (cause : RuleError)
  | validator (rule kind : String) (cause : RuleError)
  | panicked (rule : String)
  -- The setup of a rule panicked, which nothing catches.
  | aborted (rule : String)
  | missingPosition (rule kind : String)
  | io (path cause : String)
deriving DecidableEq, Inhabited, Repr

namespace EngineError

def message : EngineError → String
  | duplicateRule id => "Duplicate rule id: " ++ id
  | create rule cause => "Rule " ++ rule ++ " failed to initialize: " ++ cause.message
  | validator rule kind cause =>
    "Rule " ++ rule ++ " failed on " ++ kind ++ " node: " ++ cause.message
  | panicked rule | aborted rule => "Rule " ++ rule ++ " panicked"
  | missingPosition rule kind =>
    "Rule " ++ rule ++ " reported a " ++ kind ++ " node without a position"
  | io path cause => "Failed to read " ++ path ++ ": " ++ cause

end EngineError
end ProposalLint
