import ProposalLint.Document.Node

namespace ProposalLint

inductive Selector where
  | any
  | kind (name : String)
deriving DecidableEq, Inhabited, Repr

namespace Selector

-- A star selects every node, any other text the nodes of the kind with that name.
def ofText (text : String) : Selector :=
  if text = "*" then any else kind text

def text : Selector → String
  | any => "*"
  | kind name => name

def selects (s : Selector) (n : Node) : Bool :=
  match s with
  | any => true
  | kind name => n.kind.name == name

end Selector
end ProposalLint
