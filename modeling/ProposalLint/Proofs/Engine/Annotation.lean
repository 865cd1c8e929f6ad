import Mathlib.Data.List.Induction
import ProposalLint.Engine.Annotation
import ProposalLint.Proofs.Document.Built
import ProposalLint.Proofs.Lookup

namespace ProposalLint

-- What is kept for a node.
def Node.kept? (n : Node) : Option Annotation :=
  if n.kind = .yaml then some (.ofText (n.value.getD "")) else none

theorem Node.isSome_kept? {n : Node} : n.kept?.isSome ↔ n.kind = .yaml := by
  simp only [kept?]
  split <;> simp_all

-- A blank text holds null, any other one what it says, if it says anything.
theorem Node.kept?_eq_some {n : Node} {x : Annotation} :
    n.kept? = some x ↔ n.kind = .yaml ∧
      let text := n.value.getD ""
      if (Text.trim text).isEmpty then x = .parsed .null
      else x = (Yaml.parse text).elim .invalid .parsed := by
  simp only [kept?, Annotation.ofText]
  by_cases hk : n.kind = .yaml
  case neg => simp [hk]
  case pos =>
    simp only [hk, if_true, true_and, Option.some.injEq]
    split
    case isTrue => exact eq_comm
    case isFalse => cases Yaml.parse (n.value.getD "") <;> exact eq_comm

-- A node as a walk passes it, with its identity in another form.
def Visit.keep (form : NodeId → NodeId) (v : Visit) : Visit where
  id := form v.id
  node := v.node

namespace Annotations

variable {id : NodeId} {x : Annotation} {u v : Visit} {vs : List Visit}

-- The identities that have an entry.
def ids (a : Annotations) : List NodeId :=
  a.entries.map Prod.fst

theorem at?_insert (a : Annotations) (id : NodeId) (x : Annotation) (v : Visit) :
    (a.insert id x).at? v = if v.id = id then some x else a.at? v := by
  simp only [at?, insert, List.lookup_append]
  split
  case isTrue h => rw [h, lookup_filter_self, Option.none_or, List.lookup_cons_self]
  case isFalse h =>
    have hk : (v.id == id) = false := by simp [h]
    rw [lookup_filter_ne h, List.lookup_cons, hk, List.lookup_nil, Option.or_none]

theorem ids_insert (a : Annotations) (id : NodeId) (x : Annotation) :
    (a.insert id x).ids = a.ids.filter (· != id) ++ [id] := by
  simp [ids, insert, List.filter_map, Function.comp_def]

theorem add_eq (a : Annotations) (v : Visit) :
    a.add v = v.node.kept?.elim a (a.insert v.id) := by
  rw [add, Node.kept?]
  split <;> rfl

theorem at?_add (a : Annotations) (u v : Visit) :
    (a.add u).at? v = if u.id = v.id then u.node.kept?.or (a.at? v) else a.at? v := by
  rw [add_eq]
  cases u.node.kept?
  case none => simp
  case some => simp [at?_insert, eq_comm]

theorem mem_ids_add (a : Annotations) (v : Visit) :
    id ∈ (a.add v).ids ↔ id ∈ a.ids ∨ v.node.kind = .yaml ∧ v.id = id := by
  rw [add_eq, ← Node.isSome_kept?]
  cases v.node.kept?
  case none => simp
  case some => simp [ids_insert]; tauto

theorem ids_add_nodup {a : Annotations} (h : a.ids.Nodup) (v : Visit) : (a.add v).ids.Nodup := by
  rw [add_eq]
  cases v.node.kept?
  case none => exact h
  case some => simpa [ids_insert, List.nodup_append] using h.filter _

theorem ofVisits_concat (vs : List Visit) (v : Visit) :
    ofVisits (vs ++ [v]) = (ofVisits vs).add v := by
  simp [ofVisits]

-- No identity has two entries.
theorem ids_ofVisits_nodup (vs : List Visit) : (ofVisits vs).ids.Nodup := by
  induction vs using List.reverseRecOn
  case nil => exact List.nodup_nil
  case append_singleton vs v ih => exact ofVisits_concat vs v ▸ ids_add_nodup ih v

-- An identity has an entry if a `yaml` node has the identity.
theorem mem_ids_ofVisits :
    id ∈ (ofVisits vs).ids ↔ ∃ v ∈ vs, v.node.kind = .yaml ∧ v.id = id := by
  induction vs using List.reverseRecOn
  case nil => simp [ofVisits, ids]
  case append_singleton vs v ih =>
    rw [ofVisits_concat, mem_ids_add, ih]
    simp [or_and_right, exists_or]

-- If no other node that the walk passes has the identity of a node, its entry is its own.
theorem at?_ofVisits (h : ∀ u ∈ vs, u.id = v.id → u = v) :
    (ofVisits vs).at? v = some x ↔ v ∈ vs ∧ v.node.kept? = some x := by
  induction vs using List.reverseRecOn
  case nil => simp [ofVisits, at?]
  case append_singleton vs u ih =>
    have ih := ih fun w hw => h w (by simp [hw])
    rw [ofVisits_concat, at?_add, List.mem_append, List.mem_singleton]
    split
    case isTrue hid =>
      obtain rfl := h u (by simp) hid
      cases hx : u.node.kept?
      case none => simp_all
      case some => simp
    case isFalse hid =>
      have hne : v ≠ u := fun he => hid (he ▸ rfl)
      simp [ih, hne]

theorem at?_ofVisits_of_mem (h : ∀ u ∈ vs, u.id = v.id → u = v) (hv : v ∈ vs) :
    (ofVisits vs).at? v = v.node.kept? := by
  apply Option.ext
  intro x
  rw [at?_ofVisits h]
  simp [hv]

-- Walks over equal trees give the same answers, with whatever identities the trees come.
theorem map_at?_ofVisits (h : ∀ u ∈ vs, ∀ v ∈ vs, u.id = v.id → u = v) :
    vs.map (ofVisits vs).at? = (vs.map (·.node)).map Node.kept? := by
  rw [List.map_map]
  exact List.map_congr_left fun v hv => at?_ofVisits_of_mem (fun u hu => h u hu v hv) hv

-- If the identities of a walk differ, no entry is lost.
theorem entries_ofVisits (h : (vs.map (·.id)).Nodup) : (ofVisits vs).entries =
    vs.filterMap fun v => v.node.kept?.map fun x => (v.id, x) := by
  induction vs using List.reverseRecOn
  case nil => rfl
  case append_singleton vs v ih =>
    rw [List.map_append, List.nodup_append] at h
    have ⟨hvs, _, hne⟩ := h
    have hf : ∀ e ∈ (ofVisits vs).entries, e.1 ≠ v.id := by
      intro e he
      have ⟨u, hu, _, hid⟩ := mem_ids_ofVisits.mp (List.mem_map_of_mem he)
      exact hid ▸ hne u.id (List.mem_map_of_mem hu) v.id (by simp)
    rw [ofVisits_concat, add_eq, List.filterMap_append, ← ih hvs]
    cases hx : v.node.kept?
    case none => simp [hx]
    case some => simpa [hx, insert] using hf

theorem collect_eq_ofVisits (root : Visit) : collect root = ofVisits root.walk := by
  have he := entries_ofVisits root.map_id_walk_nodup
  have hc : (collect root).entries = (ofVisits root.walk).entries := by
    rw [he, collect]
    apply List.filterMap_congr
    intro v _
    rw [Node.kept?]
    split <;> rfl
  exact congrArg Annotations.mk hc

-- The table that rules are given has one entry for each `yaml` node.
theorem ids_collect (root : Visit) :
    (collect root).ids = (root.walk.filter (·.node.kind = .yaml)).map (·.id) := by
  rw [ids, collect]
  generalize root.walk = vs
  induction vs
  case nil => rfl
  case cons v vs ih =>
    by_cases hk : v.node.kind = .yaml
    case pos => simp [hk, ih]
    case neg => simp [hk, ih]

section Built

variable {w : Workshop} {m t : Built} {form : NodeId → NodeId}

theorem mem_visits (hw : w.Reachable) (hf : w.Keeps form) (ht : t ∈ w.built) (hm : m ∈ w.built) :
    m.visit.keep form ∈ t.visits.map (Visit.keep form) ↔ m ∈ t.preorder := by
  rw [Built.visits, List.map_map]
  refine ⟨fun h => ?_, List.mem_map_of_mem⟩
  obtain ⟨n, hn, he⟩ := List.mem_map.mp h
  have hid : form n.id = form m.id := congrArg Visit.id he
  exact hf.eq_of_form hw.sound (hw.sound.closed t ht n hn) hm hid ▸ hn

-- A walk passes no other node with the identity of a node.
theorem eq_visit_of_id (hw : w.Reachable) (hf : w.Keeps form) (ht : t ∈ w.built)
    (hm : m ∈ w.built) :
    ∀ u ∈ t.visits.map (Visit.keep form), u.id = form m.id → u = m.visit.keep form := by
  intro u hu hid
  rw [Built.visits, List.map_map] at hu
  obtain ⟨n, hn, he⟩ := List.mem_map.mp hu
  subst he
  have hid : form n.id = form m.id := hid
  rw [hf.eq_of_form hw.sound (hw.sound.closed t ht n hn) hm hid]
  rfl

theorem at?_visits (hw : w.Reachable) (hf : w.Keeps form) (ht : t ∈ w.built) (hm : m ∈ w.built) :
    (ofVisits (t.visits.map (Visit.keep form))).at? (m.visit.keep form) = some x ↔
      m ∈ t.preorder ∧ m.node.kept? = some x := by
  rw [at?_ofVisits (eq_visit_of_id hw hf ht hm), mem_visits hw hf ht hm]
  rfl

theorem map_node_keep (form : NodeId → NodeId) (t : Built) :
    (t.visits.map (Visit.keep form)).map (·.node) = t.node.walk := by
  rw [List.map_map, ← t.map_node_visits]
  rfl

theorem map_at?_visits (hw : w.Reachable) (hf : w.Keeps form) (ht : t ∈ w.built) :
    let visits := t.visits.map (Visit.keep form)
    visits.map (ofVisits visits).at? = t.node.walk.map Node.kept? := by
  intro visits
  rw [map_at?_ofVisits, map_node_keep]
  intro u hu v hv hid
  have ⟨n, hn, he⟩ : ∃ n ∈ t.preorder, n.visit.keep form = v := by
    simpa [visits, Built.visits] using hv
  subst he
  exact eq_visit_of_id hw hf ht (hw.sound.closed t ht n hn) u hu hid

theorem map_at?_collect (root : Visit) :
    root.walk.map (collect root).at? = root.node.walk.map Node.kept? := by
  rw [collect_eq_ofVisits, map_at?_ofVisits, Visit.map_node_walk, Node.walk_eq_preorder]
  exact fun u hu v hv hid => List.inj_on_of_nodup_map root.map_id_walk_nodup hu hv hid

-- Whatever documents are read and whatever nodes are built by hand, in whatever order, all nodes have
-- different identities, also in words of 64 bits as long as these are enough. So the table of a tree,
-- with identities in either form, has one entry for each of its `yaml` nodes and no other one, and of
-- all nodes that there are, these are found in it with what their own text says: null if it is blank,
-- and else its value or that it has none. The table of a document whose nodes are numbered in the
-- order of its walk gives the same answers.
theorem ofVisits_built (h : w.Reachable) :
    (w.built.map Built.id).Nodup ∧
      (w.built.length ≤ UInt64.size → (w.built.map fun b => UInt64.ofNat b.id).Nodup) ∧
      (∀ n : Node, ∃ (later : Workshop) (t : Built), w.Before later ∧ t ∈ later.built ∧
        t.node = n ∧ ∀ m ∈ t.preorder, m ∉ w.built) ∧
      ∀ form, w.Keeps form → ∀ t ∈ w.built,
        let visits := t.visits.map (Visit.keep form)
        let table := ofVisits visits
        (∀ m ∈ t.preorder, m ∈ w.built) ∧
        visits.map (·.node) = t.node.walk ∧
        table.ids.Nodup ∧
        (∀ id, id ∈ table.ids ↔ ∃ m ∈ t.preorder, m.node.kind = .yaml ∧ form m.id = id) ∧
        (∀ m ∈ w.built, ∀ x, table.at? (m.visit.keep form) = some x ↔
          m ∈ t.preorder ∧ m.node.kind = .yaml ∧
            let text := m.node.value.getD ""
            if (Text.trim text).isEmpty then x = .parsed .null
            else x = (Yaml.parse text).elim .invalid .parsed) ∧
        ∀ first, let root : Visit := ⟨first, t.node⟩
          collect root = ofVisits root.walk ∧
            (collect root).ids = (root.walk.filter (·.node.kind = .yaml)).map (·.id) ∧
            root.walk.map (collect root).at? = visits.map table.at? := by
  refine ⟨h.sound.ids_nodup, h.sound.words_nodup, fun n => ?later, fun form hf t ht => ?table⟩
  case later =>
    have ⟨v, t, hv, ht, hn, hid⟩ := h.exists_node n
    exact ⟨v, t, hv, ht, hn,
      fun m hm hw => absurd (h.sound.id_lt hw) (Nat.not_lt.mpr (hid m hm))⟩
  case table =>
    refine ⟨h.sound.closed t ht, map_node_keep form t, ids_ofVisits_nodup _, fun id => ?ids,
      fun m hm x => ?answer, fun first => ⟨collect_eq_ofVisits _, ids_collect _, ?alike⟩⟩
    case ids => simp [mem_ids_ofVisits, Built.visits, Built.visit, Visit.keep]
    case answer =>
      rw [at?_visits h hf ht hm, Node.kept?_eq_some]
    case alike => rw [map_at?_collect, map_at?_visits h hf ht]

-- Two blank blocks in one document and a third one in another. Nothing but their identities, here in
-- words, tells them apart.
theorem ofVisits_built_of_equal_blocks :
    let word (id : NodeId) : NodeId := (UInt64.ofNat id).toNat
    let block := { Builder.ofKind .yaml with payload := .literal " " }
    let first := (Builder.ofKind .root).adopt [block.build 1, block.build 2]
    let second := (Builder.ofKind .root).adopt [block.build 4]
    let w := ((((({} : Workshop).build block).build block).build first).build block).build second
    let table := ofVisits ((first.build 3).visits.map (Visit.keep word))
    w.Reachable ∧ w.Keeps word ∧
      table.at? ((block.build 1).visit.keep word) = some (.parsed .null) ∧
      table.at? ((block.build 2).visit.keep word) = some (.parsed .null) ∧
      table.at? ((block.build 4).visit.keep word) = none := by
  intro word block first second w table
  have hblock : block.children.getD [] = [] := by simp [block, Builder.ofKind, Kind.isParent]
  have hw : w.Reachable := by
    refine .build (.build (.build (.build (.build .start ?_) ?_) ?_) ?_) ?_
    all_goals simp [hblock, first, second, Builder.adopt, Builder.ofKind, Kind.isParent,
      Workshop.build]
  have hb : w.built = [block.build 1, block.build 2, first.build 3, block.build 4, second.build 5] :=
    rfl
  have hf : w.Keeps word := .words (by simp [hb, UInt64.size])
  have hp : (first.build 3).preorder = [first.build 3, block.build 1, block.build 2] := rfl
  have hnull : ∀ id, (block.build id).node.kept? = some (.parsed .null) := by
    have ht : (Text.trim " ").isEmpty := by decide +kernel
    intro id
    have hn : (block.build id).node = .leaf .yaml none (.literal " ") := rfl
    simp [hn, Node.kept?, Node.kind, Node.value, Node.payload, Annotation.ofText, ht]
  obtain ⟨_, _, _, ht⟩ := ofVisits_built hw
  obtain ⟨_, _, _, _, answer, _⟩ := ht word hf (first.build 3) (by simp [hb])
  have found : ∀ id, block.build id ∈ w.built → block.build id ∈ (first.build 3).preorder →
      table.at? ((block.build id).visit.keep word) = some (.parsed .null) := fun id hm hi =>
    (answer _ hm _).mpr ⟨hi, Node.kept?_eq_some.mp (hnull id)⟩
  refine ⟨hw, hf, found 1 (by simp [hb]) (by simp [hp]), found 2 (by simp [hb]) (by simp [hp]), ?_⟩
  rw [Option.eq_none_iff_forall_ne_some]
  intro x hx
  obtain ⟨hm, _⟩ := (answer (block.build 4) (by simp [hb]) x).mp hx
  have hid : 4 ∈ (first.build 3).preorder.map Built.id := List.mem_map_of_mem hm
  simp [hp, Builder.id_build] at hid

end Built

end Annotations
end ProposalLint
