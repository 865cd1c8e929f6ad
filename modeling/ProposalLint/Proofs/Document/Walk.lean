import ProposalLint.Document.Node

namespace ProposalLint.Node

theorem preorder_eq_cons (n : Node) : n.preorder = n :: preorders n.children := by
  cases n <;> simp [preorder, preorders, children]

theorem preorders_append (ms ns : List Node) :
    preorders (ms ++ ns) = preorders ms ++ preorders ns := by
  induction ms <;> simp_all [preorders]

-- The nodes on the stack are the trees that are still to be listed, so that one round of the loop
-- takes the first node off the list.
theorem walkStack_eq_preorders (stack : List Node) : walkStack stack = preorders stack := by
  induction stack using walkStack.induct
  case case1 => simp [walkStack, preorders]
  case case2 n rest ih =>
    rw [walkStack, ih, preorders_append, preorders, preorder_eq_cons, List.cons_append]

theorem walk_eq_preorder (n : Node) : n.walk = n.preorder := by
  simp [walk, walkStack_eq_preorders, preorders]

theorem mem_preorders : n ∈ preorders ns ↔ ∃ m ∈ ns, n ∈ m.preorder := by
  induction ns <;> simp_all [preorders]

-- What holds of all nodes of a tree holds of its top and of all nodes of the trees below it.
theorem forall_mem_preorder {p : Node → Prop} {n : Node} :
    (∀ m ∈ n.preorder, p m) ↔ p n ∧ ∀ c ∈ n.children, ∀ m ∈ c.preorder, p m := by
  simp only [preorder_eq_cons n, List.forall_mem_cons, mem_preorders]
  exact and_congr_right' ⟨fun h c hc m hm => h m ⟨c, hc, hm⟩, fun h m ⟨c, hc, hm⟩ => h c hc m hm⟩

theorem self_mem_preorder (n : Node) : n ∈ n.preorder := by
  simp [preorder_eq_cons]

mutual

theorem mem_preorder_trans (hn : n ∈ m.preorder) :
    (root : Node) → m ∈ root.preorder → n ∈ root.preorder
  | leaf .., hm => by simp_all [preorder]
  | branch .., hm => by
    simp only [preorder, List.mem_cons] at hm ⊢
    exact hm.elim (by intro h; simpa [h, preorder] using hn) (.inr <| mem_preorders_trans hn _ ·)

theorem mem_preorders_trans (hn : n ∈ m.preorder) :
    (ns : List Node) → m ∈ preorders ns → n ∈ preorders ns
  | [], hm => by simp [preorders] at hm
  | root :: ns, hm => by
    simp only [preorders, List.mem_append] at hm ⊢
    exact hm.imp (mem_preorder_trans hn root) (mem_preorders_trans hn ns)

end

end ProposalLint.Node

namespace ProposalLint.Visit

theorem map_node_walk (v : Visit) : v.walk.map (·.node) = v.node.preorder := by
  simp [walk, Node.walk_eq_preorder, Function.comp_def]

theorem walk_eq_cons (v : Visit) :
    ∃ rest, v.walk = v :: rest ∧ rest.map (·.node) = Node.preorders v.node.children := by
  rw [walk, Node.walk_eq_preorder, Node.preorder_eq_cons, List.zipIdx_cons, List.map_cons]
  exact ⟨_, rfl, by simp [Function.comp_def]⟩

theorem map_id_walk_nodup (v : Visit) : (v.walk.map (·.id)).Nodup := by
  simp [walk, Function.comp_def, List.nodup_range']

end ProposalLint.Visit
