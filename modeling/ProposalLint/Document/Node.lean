import ProposalLint.Document.Kind
import ProposalLint.Document.Position

namespace ProposalLint

inductive Payload where
  | none
  | literal (value : String)
  | heading (depth : Nat)
  | code (lang : Option String) (value : String)
  | resource (url : String) (title : Option String)
  | definition (identifier : String) (url : String) (title : Option String)
  | list (ordered : Bool) (start : Option Nat)
  | footnote (label : String)
deriving DecidableEq, Inhabited, Repr

inductive Node where
  | leaf (kind : Kind) (position : Option Position) (payload : Payload)
  | branch (kind : Kind) (position : Option Position) (payload : Payload) (children : List Node)
deriving Inhabited, Repr

namespace Node

-- A node of a parent kind is a branch from the start, any other one only once it has children.
def make (kind : Kind) (position : Option Position) (payload : Payload) (children : List Node) :
    Node :=
  if kind.isParent || !children.isEmpty then
    branch kind position payload children
  else
    leaf kind position payload

def kind : Node → Kind
  | leaf k _ _ | branch k _ _ _ => k

def position : Node → Option Position
  | leaf _ p _ | branch _ p _ _ => p

def payload : Node → Payload
  | leaf _ _ d | branch _ _ d _ => d

def children : Node → List Node
  | leaf .. => []
  | branch _ _ _ cs => cs

def isLeaf : Node → Bool
  | leaf .. => true
  | branch .. => false

def value (n : Node) : Option String :=
  match n.payload with
  | .literal value | .code _ value => some value
  | _ => none

def url (n : Node) : Option String :=
  match n.payload with
  | .resource url _ | .definition _ url _ => some url
  | _ => none

def depth (n : Node) : Option Nat :=
  match n.payload with
  | .heading depth => some depth
  | _ => none

mutual

def preorder : Node → List Node
  | leaf k p d => [leaf k p d]
  | branch k p d cs => branch k p d cs :: preorders cs

def preorders : List Node → List Node
  | [] => []
  | n :: ns => preorder n ++ preorders ns

end

mutual

def size : Node → Nat
  | leaf .. => 1
  | branch _ _ _ cs => 1 + sizes cs

def sizes : List Node → Nat
  | [] => 0
  | n :: ns => size n + sizes ns

end

theorem sizes_append (ms ns : List Node) : sizes (ms ++ ns) = sizes ms + sizes ns := by
  induction ms with
  | nil => simp [sizes]
  | cons m ms ih => simp [sizes, ih, Nat.add_assoc]

theorem size_eq_sizes_children (n : Node) : n.size = 1 + sizes n.children := by
  cases n <;> simp [size, children, sizes]

-- The top of the stack is visited first and leaves its children in its place.
def walkStack : List Node → List Node
  | [] => []
  | n :: rest => n :: walkStack (n.children ++ rest)
termination_by stack => sizes stack
decreasing_by
  simp only [sizes, sizes_append, size_eq_sizes_children n]
  omega

-- A node, then its descendants, depth first and from left to right.
def walk (n : Node) : List Node :=
  walkStack [n]

-- What a node itself adds to the text of the tree it stands in.
def ownText (n : Node) : String :=
  match n.kind with
  | .text | .inlineCode => n.value.getD ""
  | _ => ""

-- The text of all `text` and `inlineCode` nodes in order.
def textContent (n : Node) : String :=
  String.join (n.walk.map ownText)

end Node

abbrev NodeId := Nat

-- A node at its place in a document; the identity tells it from equal nodes elsewhere.
structure Visit where
  id : NodeId
  node : Node
deriving Inhabited

namespace Visit

-- The node and its descendants, numbered in the order of the walk.
def walk (v : Visit) : List Visit :=
  v.node.walk.zipIdx v.id |>.map fun (n, id) => ⟨id, n⟩

-- The children take the numbers that the walk of their parent gives them.
def childrenFrom (first : NodeId) : List Node → List Visit
  | [] => []
  | n :: ns => ⟨first, n⟩ :: childrenFrom (first + n.size) ns

def children (v : Visit) : List Visit :=
  childrenFrom (v.id + 1) v.node.children

end Visit
end ProposalLint
