import ProposalLint.Document.Node

namespace ProposalLint

-- A node that was built.
inductive Built where
  | leaf (id : NodeId) (kind : Kind) (position : Option Position) (payload : Payload)
  | branch (id : NodeId) (kind : Kind) (position : Option Position) (payload : Payload)
      (children : List Built)
deriving Inhabited, Repr

namespace Built

def id : Built → NodeId
  | leaf id _ _ _ | branch id _ _ _ _ => id

def children : Built → List Built
  | leaf .. => []
  | branch _ _ _ _ cs => cs

mutual

-- The document tree, which knows no identities.
def node : Built → Node
  | leaf _ k p d => .leaf k p d
  | branch _ k p d cs => .branch k p d (nodes cs)

def nodes : List Built → List Node
  | [] => []
  | b :: bs => node b :: nodes bs

end

mutual

def preorder : Built → List Built
  | leaf i k p d => [leaf i k p d]
  | branch i k p d cs => branch i k p d cs :: preorders cs

def preorders : List Built → List Built
  | [] => []
  | b :: bs => preorder b ++ preorders bs

end

def visit (b : Built) : Visit where
  id := b.id
  node := b.node

-- A tree as a walk passes it, with the identities that its nodes were built with.
def visits (b : Built) : List Visit :=
  b.preorder.map visit

end Built

-- A node in the making. It is a leaf as long as it has no list of children.
structure Builder where
  kind : Kind
  position : Option Position := none
  payload : Payload := .none
  children : Option (List Built)

namespace Builder

-- A node of a parent kind has a list of children from the start.
def ofKind (kind : Kind) : Builder where
  kind := kind
  children := if kind.isParent then some [] else none

def adopt (b : Builder) (cs : List Built) : Builder :=
  { b with children := some (b.children.getD [] ++ cs) }

def build (b : Builder) (id : NodeId) : Built :=
  match b.children with
  | none => .leaf id b.kind b.position b.payload
  | some cs => .branch id b.kind b.position b.payload cs

end Builder

-- All that was built so far, in the order in which the nodes took their identities.
structure Workshop where
  next : NodeId := 1
  built : List Built := []

namespace Workshop

def build (w : Workshop) (b : Builder) : Workshop where
  next := w.next + 1
  built := w.built ++ [b.build w.next]

-- A node can only be put over nodes that there are.
inductive Reachable : Workshop → Prop
  | start : Reachable {}
  | build (h : Reachable w) (hb : ∀ c ∈ b.children.getD [], c ∈ w.built) : Reachable (w.build b)

end Workshop
end ProposalLint
