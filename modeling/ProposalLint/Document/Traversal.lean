import ProposalLint.Document.Node

namespace ProposalLint

theorem Node.sizes_reverse (ns : List Node) : sizes ns.reverse = sizes ns := by
  induction ns with
  | nil => rfl
  | cons n ns ih => simp [sizes_append, sizes, ih, Nat.add_comm]

namespace Visit

-- How many nodes are still to come with these trees on the stack.
def remaining (stack : List Visit) : Nat :=
  Node.sizes (stack.map (·.node))

theorem map_node_childrenFrom (first : NodeId) (ns : List Node) :
    (childrenFrom first ns).map (·.node) = ns := by
  induction ns generalizing first with
  | nil => rfl
  | cons n ns ih => simp [childrenFrom, ih]

theorem remaining_pop {stack : List Visit} (h : stack.getLast? = some v) :
    remaining (stack.dropLast ++ v.children.reverse) < remaining stack := by
  have ⟨rest, hr⟩ := List.getLast?_eq_some_iff.mp h
  have hs := Node.size_eq_sizes_children v.node
  simp only [remaining, hr, List.dropLast_concat, List.map_append, List.map_reverse, children,
    map_node_childrenFrom, Node.sizes_append, Node.sizes_reverse, List.map_singleton, Node.sizes]
  omega

-- The node on top of the stack leaves its children there, the first one on top.
def collect (found stack : List Visit) : List Visit :=
  match h : stack.getLast? with
  | none => found
  | some v =>
    have := remaining_pop h
    collect (found ++ [v]) (stack.dropLast ++ v.children.reverse)
termination_by remaining stack

-- All nodes of a tree, for one who keeps them.
def walkShared (v : Visit) : List Visit :=
  collect [] [v]

end Visit

structure Walk where
  stack : List Visit

namespace Walk

def ofTop (v : Visit) : Walk where
  stack := [v]

-- The next node, and the iterator behind it.
def next? (w : Walk) : Option (Visit × Walk) :=
  w.stack.getLast?.map fun v => (v, ⟨w.stack.dropLast ++ v.children.reverse⟩)

-- What an iterator gives, one node after the other, until it gives none.
inductive Yields : Walk → List Visit → Prop
  | done (h : w.next? = none) : Yields w []
  | more (h : w.next? = some (v, rest)) (hr : Yields rest vs) : Yields w (v :: vs)

end Walk
end ProposalLint
