import Mathlib.Data.List.Nodup
import ProposalLint.Document.Built
import ProposalLint.Proofs.Document.Walk

namespace ProposalLint

namespace Built

variable {b m t : Built} {bs : List Built}

theorem preorder_eq_cons (b : Built) : b.preorder = b :: preorders b.children := by
  cases b <;> simp [preorder, preorders, children]

theorem mem_preorders : m ∈ preorders bs ↔ ∃ b ∈ bs, m ∈ b.preorder := by
  induction bs <;> simp_all [preorders]

mutual

theorem map_node_preorder : (b : Built) → b.preorder.map node = b.node.preorder
  | leaf .. => by simp [preorder, node, Node.preorder]
  | branch _ _ _ _ bs => by simp [preorder, node, Node.preorder, map_node_preorders bs]

theorem map_node_preorders : (bs : List Built) →
    (preorders bs).map node = Node.preorders (nodes bs)
  | [] => by simp [preorders, nodes, Node.preorders]
  | b :: bs => by
    simp [preorders, nodes, Node.preorders, map_node_preorder b, map_node_preorders bs]

end

-- The walk over a document is the one over what was built.
theorem map_node_visits (b : Built) : b.visits.map (·.node) = b.node.walk := by
  rw [visits, List.map_map, Node.walk_eq_preorder, ← map_node_preorder]
  rfl

end Built

namespace Builder

variable {b : Builder}

@[simp]
theorem id_build (b : Builder) (id : NodeId) : (b.build id).id = id := by
  unfold build
  split <;> rfl

theorem children_build (b : Builder) (id : NodeId) :
    (b.build id).children = b.children.getD [] := by
  unfold build
  split <;> simp_all [Built.children]

-- What the readers of documents put together is what a builder makes that adopts the children.
theorem node_build_ofKind (k : Kind) (p : Option Position) (d : Payload) (cs : List Built)
    (id : NodeId) :
    let b : Builder := { ofKind k with position := p, payload := d }
    ((if cs.isEmpty then b else b.adopt cs).build id).node = .make k p d (Built.nodes cs) := by
  cases cs
  case nil => by_cases hk : k.isParent <;> simp [ofKind, build, Built.node, Node.make, Built.nodes, hk]
  case cons c cs => by_cases hk : k.isParent <;>
    simp [ofKind, adopt, build, Built.node, Node.make, Built.nodes, hk]

end Builder

namespace Workshop

variable {w : Workshop} {b : Builder} {m n t : Built}

-- The nodes were numbered as they were built, and all that is below one was built, too.
structure Sound (w : Workshop) : Prop where
  next   : w.next = w.built.length + 1
  ids    : w.built.map Built.id = List.range' 1 w.built.length
  closed : ∀ t ∈ w.built, ∀ m ∈ t.preorder, m ∈ w.built

namespace Sound

theorem start : Sound {} where
  next   := rfl
  ids    := rfl
  closed := by simp

theorem build (s : w.Sound) (hb : ∀ c ∈ b.children.getD [], c ∈ w.built) : (w.build b).Sound where
  next := by simp [Workshop.build, s.next]
  ids := by simp [Workshop.build, s.ids, s.next, List.range'_concat, Nat.add_comm]
  closed := by
    intro t ht m hm
    have hw : w.built ⊆ (w.build b).built := List.subset_append_left _ _
    cases List.mem_append.mp ht
    case inl ht => exact hw (s.closed t ht m hm)
    case inr ht =>
      have ht := List.mem_singleton.mp ht
      rw [ht, Built.preorder_eq_cons, Builder.children_build, List.mem_cons,
        Built.mem_preorders] at hm
      cases hm
      case inl he => exact List.mem_append_right _ (List.mem_singleton.mpr he)
      case inr hm =>
        have ⟨c, hc, hm⟩ := hm
        exact hw (s.closed c (hb c hc) m hm)

theorem ids_nodup (s : w.Sound) : (w.built.map Built.id).Nodup :=
  s.ids ▸ List.nodup_range'

-- A node is told by its identity.
theorem eq_of_id (s : w.Sound) (hm : m ∈ w.built) (hn : n ∈ w.built) (h : m.id = n.id) : m = n :=
  List.inj_on_of_nodup_map s.ids_nodup hm hn h

theorem id_lt (s : w.Sound) (hm : m ∈ w.built) : m.id < w.next := by
  have hi : m.id ∈ w.built.map Built.id := List.mem_map_of_mem hm
  have ⟨_, hlt⟩ := List.mem_range'_1.mp (s.ids ▸ hi)
  rwa [s.next, Nat.add_comm]

-- The counter of 64 bits starts over behind its last number, which no two of so few nodes notice.
theorem words_nodup (s : w.Sound) (h : w.built.length ≤ UInt64.size) :
    (w.built.map fun b => UInt64.ofNat b.id).Nodup := by
  have hw : w.built.map (fun b => UInt64.ofNat b.id) =
      (List.range' 1 w.built.length).map UInt64.ofNat := by
    rw [← s.ids, List.map_map]
    rfl
  rw [hw]
  refine List.Nodup.map_on (fun i hi j hj he => ?_) List.nodup_range'
  have he := congrArg UInt64.toNat he
  simp only [UInt64.toNat_ofNat', List.mem_range'_1] at he hi hj
  simp only [UInt64.size] at h
  omega

end Sound

-- The forms in which identities are kept: as they are, or in words as long as these are enough.
inductive Keeps (w : Workshop) : (NodeId → NodeId) → Prop
  | plain : Keeps w id
  | words : (w.built.length ≤ UInt64.size) → Keeps w fun i => (UInt64.ofNat i).toNat

-- A node is told by its identity in each of these forms.
theorem Keeps.eq_of_form {form : NodeId → NodeId} (h : w.Keeps form) (s : w.Sound)
    (hm : m ∈ w.built) (hn : n ∈ w.built) (he : form m.id = form n.id) : m = n := by
  cases h
  case plain    => exact s.eq_of_id hm hn he
  case words hl => exact List.inj_on_of_nodup_map (s.words_nodup hl) hm hn (UInt64.toNat_inj.mp he)

theorem Reachable.sound (h : w.Reachable) : w.Sound := by
  induction h
  case start       => exact .start
  case build hb ih => exact ih.build hb

-- Something is built on top of what there is.
def Before (w v : Workshop) : Prop :=
  v.Reachable ∧ w.built <+: v.built

theorem Before.next_le (hw : w.Reachable) (h : Before w v) : w.next ≤ v.next := by
  rw [hw.sound.next, h.left.sound.next]
  exact Nat.succ_le_succ h.right.length_le

mutual

-- Each tree can be built at any time, of new nodes only.
theorem Reachable.exists_node {w : Workshop} (hw : w.Reachable) : (n : Node) → ∃ v t,
    Before w v ∧ t ∈ v.built ∧ t.node = n ∧ ∀ m ∈ t.preorder, w.next ≤ m.id
  | .leaf k p d => by
    have hv : (w.build ⟨k, p, d, none⟩).Reachable := hw.build (by simp)
    refine ⟨_, .leaf w.next k p d, ⟨hv, List.prefix_append _ _⟩, ?_, rfl, ?_⟩
    · simp [Workshop.build, Builder.build]
    · simp [Built.preorder, Built.id]
  | .branch k p d cs => by
    obtain ⟨v, ts, hv, hts, rfl, hid⟩ := hw.exists_nodes cs
    have hb : (v.build ⟨k, p, d, some ts⟩).Reachable := hv.left.build (by simpa using hts)
    refine ⟨_, .branch v.next k p d ts, ⟨hb, hv.right.trans (List.prefix_append _ _)⟩, ?_, rfl, ?_⟩
    · simp [Workshop.build, Builder.build]
    · simpa [Built.preorder, Built.id] using ⟨hv.next_le hw, hid⟩

theorem Reachable.exists_nodes {w : Workshop} (hw : w.Reachable) : (ns : List Node) → ∃ v ts,
    Before w v ∧ (∀ t ∈ ts, t ∈ v.built) ∧ Built.nodes ts = ns ∧
      ∀ m ∈ Built.preorders ts, w.next ≤ m.id
  | [] => ⟨w, [], ⟨hw, List.prefix_refl _⟩, by simp, rfl, by simp [Built.preorders]⟩
  | n :: ns => by
    obtain ⟨v, t, hv, ht, rfl, hid⟩ := hw.exists_node n
    obtain ⟨u, ts, hu, hts, rfl, hids⟩ := hv.left.exists_nodes ns
    refine ⟨u, t :: ts, ⟨hu.left, hv.right.trans hu.right⟩, ?_, rfl, ?_⟩
    · exact List.forall_mem_cons.mpr ⟨hu.right.subset ht, hts⟩
    · intro m hm
      cases List.mem_append.mp hm
      case inl hm => exact hid m hm
      case inr hm => exact Nat.le_trans (hv.next_le hw) (hids m hm)

end

end Workshop
end ProposalLint
