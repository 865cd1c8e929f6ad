import ProposalLint.Document.Traversal
import ProposalLint.Proofs.Document.Walk
import ProposalLint.Proofs.Markdown.VisibleText

namespace ProposalLint

namespace Node

theorem preorders_eq_flatMap (ns : List Node) : preorders ns = ns.flatMap preorder := by
  induction ns <;> simp_all [preorders]

mutual

theorem length_preorder : (n : Node) → n.preorder.length = n.size
  | leaf .. => by simp [preorder, size]
  | branch _ _ _ cs => by simp [preorder, size, length_preorders cs, Nat.add_comm]

theorem length_preorders : (ns : List Node) → (preorders ns).length = sizes ns
  | [] => by simp [preorders, sizes]
  | n :: ns => by simp [preorders, sizes, length_preorder n, length_preorders ns]

end

end Node

namespace Visit

-- A row of trees that are numbered one behind the other is listed with the same numbers.
theorem flatMap_walk_childrenFrom (first : NodeId) (ns : List Node) :
    (childrenFrom first ns).flatMap walk =
      ((Node.preorders ns).zipIdx first).map fun (n, id) => ⟨id, n⟩ := by
  induction ns generalizing first
  case nil => simp [childrenFrom, Node.preorders]
  case cons n ns ih =>
    rw [childrenFrom, List.flatMap_cons, ih, walk, Node.walk_eq_preorder, Node.preorders,
      List.zipIdx_append, List.map_append, Node.length_preorder, Nat.add_comm]

-- A node comes first, then its children from left to right, each with all that is below it.
theorem walk_eq_cons_flatMap (v : Visit) : v.walk = v :: v.children.flatMap walk := by
  rw [children, flatMap_walk_childrenFrom, walk, Node.walk_eq_preorder, Node.preorder_eq_cons]
  simp

-- What is still to be listed, from the top of the stack down.
def pending (stack : List Visit) : List Visit :=
  stack.reverse.flatMap walk

theorem pending_pop {stack : List Visit} (h : stack.getLast? = some v) :
    pending stack = v :: pending (stack.dropLast ++ v.children.reverse) := by
  have ⟨rest, hr⟩ := List.getLast?_eq_some_iff.mp h
  simp [pending, hr, walk_eq_cons_flatMap v]

-- Both loops take the same node off the same stack in each round, and the list of what is pending
-- gets shorter by that node.
theorem collect_yields (found stack : List Visit) :
    collect found stack = found ++ pending stack ∧ (Walk.mk stack).Yields (pending stack) := by
  induction found, stack using collect.induct
  case case1 found stack h =>
    have he : stack = [] := List.getLast?_eq_none_iff.mp h
    subst he
    exact ⟨by simp [collect, pending], .done rfl⟩
  case case2 found stack v h _ ih =>
    have ⟨hc, hy⟩ := ih
    have hn : (Walk.mk stack).next? = some (v, ⟨stack.dropLast ++ v.children.reverse⟩) := by
      simp [Walk.next?, h]
    rw [pending_pop h]
    refine ⟨?_, .more hn hy⟩
    rw [collect]
    split
    case h_1 hnone => simp [h] at hnone
    case h_2 w hw =>
      obtain rfl : v = w := Option.some.inj (h ▸ hw)
      simp [hc]

end Visit

-- An iterator gives one list of nodes only.
theorem Walk.Yields.unique {w : Walk} (h : w.Yields vs) (hu : w.Yields us) : vs = us := by
  induction h generalizing us
  case done hn =>
    cases hu
    case done => rfl
    case more hm => simp [hn] at hm
  case more hn _ ih =>
    cases hu
    case done hm => simp [hn] at hm
    case more hr hm =>
      obtain ⟨rfl, rfl⟩ := Prod.mk.inj (Option.some.inj (hn ▸ hm))
      rw [ih hr]

-- The iterator and the loop come to an end at all trees and list the same nodes: a node comes in
-- front of its children, which come from left to right. Each node is listed once. So the text of a
-- node is its own text and then the texts of its children.
theorem Visit.walks_eq_preorder (v : Visit) :
    (∀ vs, (Walk.ofTop v).Yields vs ↔ vs = v.walk) ∧
      v.walkShared = v.walk ∧
      v.walk = v :: v.children.flatMap walk ∧
      v.walk.map (·.node) = v.node.preorder ∧
      v.node.preorder = v.node :: v.node.children.flatMap Node.preorder ∧
      (v.walk.map (·.id)).Nodup ∧
      v.node.textContent =
        (if v.node.kind = .text ∨ v.node.kind = .inlineCode then v.node.value.getD "" else "") ++
          String.join (v.node.children.map Node.textContent) := by
  have ⟨hc, hy⟩ := collect_yields [] [v]
  have hp : pending [v] = v.walk := by simp [pending]
  rw [hp] at hc hy
  refine ⟨fun vs => ⟨fun h => h.unique hy, fun h => h ▸ hy⟩, hc, v.walk_eq_cons_flatMap,
    v.map_node_walk, ?preorder, v.map_id_walk_nodup, ?text⟩
  case preorder => rw [Node.preorder_eq_cons, Node.preorders_eq_flatMap]
  case text =>
    rw [Node.textContent_eq, Node.textOf]
    cases hk : v.node.kind <;> simp [Node.ownText, hk]

end ProposalLint
