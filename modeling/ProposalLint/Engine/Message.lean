import ProposalLint.Document.Node

namespace ProposalLint

-- A finding at a line and column, with the rule that made it.
structure Message where
  ruleId : String
  text : String
  line : Nat
  column : Nat
deriving DecidableEq, Inhabited, Repr

namespace Message

-- The message on one line.
def display (m : Message) : String :=
  toString m.line ++ ":" ++ toString m.column ++ ": [" ++ m.ruleId ++ "] " ++ m.text

end Message

-- What a validator says about a node.
structure Finding where
  node : Node
  text : String
deriving Inhabited, Repr

-- A finding as it is kept: with the rule that made it, and what matters of the node.
structure Report where
  ruleId : String
  text : String
  kind : Kind
  position : Option Position
deriving DecidableEq, Inhabited, Repr

namespace Report

-- Messages stand at the end of the node; a node without a position has no message.
def message? (r : Report) : Option Message :=
  r.position.map fun p => ⟨r.ruleId, r.text, p.stop.line, p.stop.column⟩

end Report

namespace Finding

def report (rule : String) (f : Finding) : Report :=
  ⟨rule, f.text, f.node.kind, f.node.position⟩

end Finding
end ProposalLint
