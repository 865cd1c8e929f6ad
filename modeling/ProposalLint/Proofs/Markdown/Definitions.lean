import ProposalLint.Proofs.Markdown.Shape
import ProposalLint.Proofs.Markdown.TrimmedSpan

namespace ProposalLint

section Sorting

variable {α : Type} {key : α → Nat} {l m : List α}

-- The order in which elements are sorted by their keys.
def byKey (key : α → Nat) (a b : α) : Bool :=
  key a ≤ key b

theorem byKey_trans (key : α → Nat) (a b c : α) (hab : byKey key a b) (hbc : byKey key b c) :
    byKey key a c := by
  simp only [byKey, decide_eq_true_eq] at hab hbc ⊢
  exact hab.trans hbc

theorem byKey_total (key : α → Nat) (a b : α) : byKey key a b || byKey key b a := by
  simpa [byKey] using Nat.le_total (key a) (key b)

theorem pairwise_mergeSort_byKey (key : α → Nat) (l : List α) :
    (l.mergeSort (byKey key)).Pairwise fun a b => key a ≤ key b := by
  simpa [byKey] using List.pairwise_mergeSort (byKey_trans key) (byKey_total key) l

-- Elements with the same key stay in their order.
theorem filter_mergeSort_byKey (key : α → Nat) (l : List α) (k : Nat) :
    (l.mergeSort (byKey key)).filter (key · = k) = l.filter (key · = k) := by
  have hk : (l.filter (key · = k)).Pairwise fun a b => byKey key a b := by
    simp only [List.pairwise_filter, decide_eq_true_eq, byKey]
    exact List.pairwise_of_forall fun a b ha hb => Nat.le_of_eq (ha.trans hb.symm)
  have hs : (l.filter (key · = k)).Sublist (l.mergeSort (byKey key)) :=
    List.sublist_mergeSort (byKey_trans key) (byKey_total key) hk List.filter_sublist
  have hf : (l.filter (key · = k)).Sublist ((l.mergeSort (byKey key)).filter (key · = k)) := by
    simpa using hs.filter (key · = k)
  have hl := ((List.mergeSort_perm l (byKey key)).filter (key · = k)).length_eq
  exact (hf.eq_of_length hl.symm).symm

theorem head_mem_of_filter_eq (h : ∀ k, (a :: l).filter (key · = k) = m.filter (key · = k)) :
    a ∈ m := by
  have ha : a ∈ (a :: l).filter (key · = key a) := by simp
  rw [h] at ha
  exact List.mem_of_mem_filter ha

-- Two elements with the same key stand in the order that they had before.
theorem pair_sublist_of_mergeSort (h : [a, b].Sublist (l.mergeSort (byKey key)))
    (hk : key a = key b) : [a, b].Sublist l := by
  have hf := h.filter (key · = key b)
  rw [filter_mergeSort_byKey] at hf
  have hs : [a, b].Sublist (l.filter (key · = key b)) := by simpa [hk] using hf
  exact hs.trans List.filter_sublist

-- A sorted list is told by its elements of each key.
theorem eq_of_filter_eq (hl : l.Pairwise fun a b => key a ≤ key b)
    (hm : m.Pairwise fun a b => key a ≤ key b)
    (h : ∀ k, l.filter (key · = k) = m.filter (key · = k)) : l = m := by
  induction l generalizing m
  case nil =>
    cases m
    case nil => rfl
    case cons b m => exact absurd (head_mem_of_filter_eq fun k => (h k).symm) List.not_mem_nil
  case cons a l ih =>
    cases m
    case nil => exact absurd (head_mem_of_filter_eq h) List.not_mem_nil
    case cons b m =>
      have ⟨hal, hl'⟩ := List.pairwise_cons.mp hl
      have ⟨hbm, hm'⟩ := List.pairwise_cons.mp hm
      have hab : key a ≤ key b := by
        cases List.mem_cons.mp (head_mem_of_filter_eq fun k => (h k).symm)
        case inl he => rw [he]
        case inr hb => exact hal b hb
      have hba : key b ≤ key a := by
        cases List.mem_cons.mp (head_mem_of_filter_eq h)
        case inl he => rw [he]
        case inr ha => exact hbm a ha
      have hk : key b = key a := Nat.le_antisymm hba hab
      have he : a = b := by simpa [hk] using congrArg List.head? (h (key a))
      subst he
      have ht : ∀ k, l.filter (key · = k) = m.filter (key · = k) := by
        intro k
        have := h k
        by_cases ha : key a = k
        case pos => simpa [ha] using this
        case neg => simpa [ha] using this
      rw [ih hl' hm' ht]

-- Where all keys are different, there is one element of each key at most.
theorem filter_eq_of_perm (hp : m.Perm l) (hl : (l.map key).Nodup) (k : Nat) :
    m.filter (key · = k) = l.filter (key · = k) := by
  have hf := hp.filter (key · = k)
  have hk : ∀ a ∈ l.filter (key · = k), key a = k := by simp
  have hn : ((l.filter (key · = k)).map key).Nodup := hl.sublist (List.filter_sublist.map key)
  generalize l.filter (key · = k) = same at hf hk hn
  cases same
  case nil => exact hf.eq_nil
  case cons a same =>
    cases same
    case nil => exact hf.eq_singleton
    case cons b same =>
      have ha := hk a (by simp)
      have hb := hk b (by simp)
      simp [ha, hb] at hn

end Sorting

namespace Markdown

variable {source : String} {chars : List Char}

theorem startOffset_make (k : Kind) (span : Span) (d : Payload) (cs : List Node) :
    startOffset (.make k (some (Position.locate chars span)) d cs) =
      min span.start (utf8Length chars) := by
  simp [startOffset, Position.locate, Point.locate]

-- The node of a definition.
def nodeOf (source : String) (d : Definition) : Node :=
  (definitionNode source source.toList d).2

@[simp]
theorem kind_nodeOf (d : Definition) : (nodeOf source d).kind = .definition := by
  simp [nodeOf, definitionNode]

theorem definitionNode_eq (d : Definition) :
    definitionNode source source.toList d = (startOffset (nodeOf source d), nodeOf source d) := by
  have hle : (trimSpan source ⟨d.span.1, d.span.2⟩).start ≤ source.utf8ByteSize := by
    simp only [trimSpan]
    omega
  have hs : startOffset (nodeOf source d) = (trimSpan source ⟨d.span.1, d.span.2⟩).start := by
    rw [nodeOf, definitionNode, startOffset_make, utf8Length_toList, Nat.min_eq_left hle]
  rw [hs]
  rfl

-- A definition starts where its range starts.
theorem startOffset_nodeOf {d : Definition} (h₁ : d.span.1 ≤ d.span.2)
    (h₂ : d.span.2 ≤ source.utf8ByteSize) : startOffset (nodeOf source d) = d.span.1 := by
  have he : (definitionNode source source.toList d).1 = startOffset (nodeOf source d) := by
    rw [definitionNode_eq]
  rw [← he]
  simp only [definitionNode, trimSpan]
  omega

section Merge

variable {ns : List Node} {ds es : List Definition}

-- All nodes are sorted by where they start, the definitions behind the other ones.
theorem mergeDefinitions_eq (h : ds ≠ []) (ns : List Node) :
    mergeDefinitions source source.toList ns ds =
      (ns ++ ds.map (nodeOf source)).mergeSort (byKey startOffset) := by
  let tag := fun n : Node => (startOffset n, n)
  have hd : ds.map (definitionNode source source.toList) = (ds.map (nodeOf source)).map tag := by
    simp [definitionNode_eq, tag]
  have hs : ((ns ++ ds.map (nodeOf source)).map tag).mergeSort (fun a b => a.1 ≤ b.1) =
      ((ns ++ ds.map (nodeOf source)).mergeSort (byKey startOffset)).map tag :=
    (List.map_mergeSort (f := tag) fun _ _ _ _ => rfl).symm
  simp only [mergeDefinitions, List.isEmpty_iff, h, if_false, hd]
  rw [← List.map_append, hs, List.map_map]
  exact List.map_id _

-- At each offset the other nodes stand in front of a definition.
theorem filter_mergeDefinitions (source : String) (h : ds ≠ []) (ns : List Node) (k : Nat) :
    (mergeDefinitions source source.toList ns ds).filter (startOffset · = k) =
      ns.filter (startOffset · = k) ++ (ds.map (nodeOf source)).filter (startOffset · = k) := by
  rw [mergeDefinitions_eq h, filter_mergeSort_byKey, List.filter_append]

theorem mergeDefinitions_sorted (source : String) (h : ds ≠ []) (ns : List Node) :
    (mergeDefinitions source source.toList ns ds).Pairwise
      fun m n => startOffset m ≤ startOffset n := by
  rw [mergeDefinitions_eq h]
  exact pairwise_mergeSort_byKey startOffset _

-- Definitions that start at different offsets can come in any order.
theorem mergeDefinitions_eq_of_perm (h : ds ≠ []) (hp : es.Perm ds)
    (hd : (ds.map fun d => startOffset (nodeOf source d)).Nodup) (ns : List Node) :
    mergeDefinitions source source.toList ns es = mergeDefinitions source source.toList ns ds := by
  have he : es ≠ [] := by
    rintro rfl
    exact h hp.nil_eq.symm
  have hd : ((ds.map (nodeOf source)).map startOffset).Nodup := by simpa [Function.comp_def] using hd
  apply eq_of_filter_eq (mergeDefinitions_sorted source he ns) (mergeDefinitions_sorted source h ns)
  intro k
  rw [filter_mergeDefinitions source he, filter_mergeDefinitions source h,
    filter_eq_of_perm (hp.map (nodeOf source)) hd]

theorem filter_nodeOf (ds : List Definition) (p : Node → Bool) :
    ((ds.map (nodeOf source)).filter p).filter (·.kind ≠ .definition) = [] := by
  simp only [List.filter_eq_nil_iff, List.mem_filter, List.mem_map]
  rintro _ ⟨⟨d, _, rfl⟩, _⟩
  simp

-- The other nodes keep their order, if it goes by their offsets.
theorem filter_kind_mergeDefinitions (h : ds ≠ []) (hn : ∀ n ∈ ns, n.kind ≠ .definition)
    (hs : ns.Pairwise fun m n => startOffset m ≤ startOffset n) :
    (mergeDefinitions source source.toList ns ds).filter (·.kind ≠ .definition) = ns := by
  apply eq_of_filter_eq ((mergeDefinitions_sorted source h ns).filter _) hs
  intro k
  rw [List.filter_comm, filter_mergeDefinitions source h, List.filter_append, filter_nodeOf,
    List.append_nil, List.filter_eq_self]
  intro n hm
  simpa using hn n (List.mem_of_mem_filter hm)

-- A definition in front of another node starts in front of it, too.
theorem mergeDefinitions_front (h : ds ≠ []) (hn : ∀ n ∈ ns, n.kind ≠ .definition) :
    (mergeDefinitions source source.toList ns ds).Pairwise fun m n =>
      m.kind = .definition → n.kind ≠ .definition → startOffset m < startOffset n := by
  have hp : (ns ++ ds.map (nodeOf source)).Pairwise
      fun m n => m.kind = .definition → n.kind = .definition := by
    refine List.pairwise_append.mpr ⟨?others, ?definitions, ?both⟩
    case others => exact List.pairwise_of_forall_mem_list fun m hm _ _ hd => absurd hd (hn m hm)
    case definitions => exact List.pairwise_of_forall_mem_list (by simp)
    case both => exact fun m hm _ _ hd => absurd hd (hn m hm)
  have hs := mergeDefinitions_sorted source h ns
  rw [mergeDefinitions_eq h] at hs ⊢
  refine List.pairwise_iff_forall_sublist.mpr fun {m n} hmn hm hd => ?_
  have hle : startOffset m ≤ startOffset n := by simpa using hs.sublist hmn
  refine Nat.lt_of_le_of_ne hle fun he => hd ?_
  exact List.pairwise_pair.mp (hp.sublist (pair_sublist_of_mergeSort hmn he)) hm

-- A node at the start of the text that comes first stays first.
theorem head?_mergeDefinitions (h : ds ≠ []) (h0 : startOffset n = 0) (ns : List Node) :
    (mergeDefinitions source source.toList (n :: ns) ds).head? = some n := by
  have hs := mergeDefinitions_sorted source h (n :: ns)
  have hf := filter_mergeDefinitions source h (n :: ns) 0
  generalize mergeDefinitions source source.toList (n :: ns) ds = merged at hs hf
  have hn : n ∈ merged.filter (startOffset · = 0) := by simp [hf, h0]
  cases merged
  case nil => simp at hn
  case cons m merged =>
    have hm : startOffset m = 0 := by
      cases List.mem_cons.mp (List.mem_of_mem_filter hn)
      case inl he => rw [← he, h0]
      case inr hr => exact Nat.le_zero.mp (h0 ▸ List.rel_of_pairwise_cons hs hr)
    simpa [hm, h0] using congrArg List.head? hf

end Merge

section Document

theorem Tag.node_kind_ne_definition (tag : Tag) : tag.node.1 ≠ .definition := by
  cases tag
  case metadata style => cases style <;> simp [node]
  all_goals simp [node]

-- No event stands for a definition.
theorem Event.kind_ne_definition {event : Event} {markup : Bool} {span : Span}
    (h : .node n ∈ (event.portion? chars markup span).toList) : n.kind ≠ .definition := by
  cases event <;> simp only [portion?] at h
  case html => split at h <;> simp_all [portion?.leaf]
  all_goals simp_all [portion?.leaf]

theorem Item.kind_ne_definition {i : Item} {markup : Bool}
    (h : .node n ∈ i.portions source chars markup) : n.kind ≠ .definition := by
  cases i
  case content event _ span => exact Event.kind_ne_definition h
  case element tag span items =>
    have he : n = elementNode source chars tag span
        (portionsOf source chars (tag = .html) items) := by
      simpa [portions] using h
    simpa [he] using tag.node_kind_ne_definition

theorem kind_ne_definition_of_mem_portionsOf {items : List Item} {markup : Bool}
    (h : .node n ∈ portionsOf source chars markup items) : n.kind ≠ .definition := by
  induction items
  case nil => simp [portionsOf] at h
  case cons i is ih =>
    rw [portionsOf] at h
    exact (List.mem_append.mp h).elim Item.kind_ne_definition ih

theorem kind_ne_definition_of_mem_rootFrame (events : List Located) :
    ∀ n ∈ (rootFrame source chars events).children, n.kind ≠ .definition := by
  have ⟨items, hi⟩ := exists_eventsOf_eq_completion events
  rw [rootFrame_children source chars hi]
  refine (forall_mem_gather fun r => ?_).mpr fun n hn => ?_
  · simp [TextRun.node]
  · exact kind_ne_definition_of_mem_portionsOf hn

-- What stands at the top of a document before definitions come in between.
def otherNodes (source : String) (front : Option Span) (events : List Located) : List Node :=
  front.toList.map (frontNode source source.toList) ++
    (rootFrame source source.toList events).children

theorem kind_ne_definition_of_mem_otherNodes (source : String) (front : Option Span)
    (events : List Located) : ∀ n ∈ otherNodes source front events, n.kind ≠ .definition := by
  refine List.forall_mem_append.mpr ⟨?_, kind_ne_definition_of_mem_rootFrame events⟩
  cases front <;> simp [frontNode]

theorem treeOf_eq_make (source : String) (front : Option Span) (events : List Located)
    (ds : List Definition) : treeOf source source.toList front ⟨events, ds⟩ =
      .make .root (some (Position.locate source.toList ⟨0, source.utf8ByteSize⟩)) .none
        (mergeDefinitions source source.toList (otherNodes source front events) ds) := by
  have ⟨items, hi⟩ := exists_eventsOf_eq_completion events
  rw [treeOf_eq_document source source.toList front ⟨events, ds⟩ hi, document, topNodes,
    otherNodes, rootFrame_children source source.toList hi]

theorem start_of_emptyFront? (h : emptyFront? chars = some span) : span.start = 0 := by
  unfold emptyFront? at h
  split at h
  case h_1 =>
    split at h
    case isTrue => simp [← Option.some.inj h]
    case isFalse => simp at h
  case h_2 => simp at h

-- The definitions of a document come as a table without an order. Its tree is the same for all
-- orders. At the top, the definitions and the other nodes stand each once, by their offsets, other
-- nodes in front of a definition at the same offset. If the other nodes are in the order of their
-- offsets, they keep it, and an empty metadata block stays first.
theorem treeOf_definitions (source : String) (front : Option Span) (events : List Located)
    (table : List Definition) (h : table ≠ [])
    (hd : (table.map fun d => startOffset (nodeOf source d)).Nodup) :
    let tree := treeOf source source.toList front ⟨events, table⟩
    let others := otherNodes source front events
    (∀ order, order.Perm table → treeOf source source.toList front ⟨events, order⟩ = tree) ∧
      tree.children.Perm (others ++ table.map (nodeOf source)) ∧
      tree.children.Pairwise (fun m n => startOffset m ≤ startOffset n) ∧
      (others.Pairwise (fun m n => startOffset m ≤ startOffset n) →
        tree.children.filter (·.kind ≠ .definition) = others) ∧
      tree.children.Pairwise (fun m n =>
        m.kind = .definition → n.kind ≠ .definition → startOffset m < startOffset n) ∧
      ∀ span, emptyFront? source.toList = some span → front = some span →
        tree.children.head? = some (frontNode source source.toList span) := by
  intro tree others
  have hc : tree.children = mergeDefinitions source source.toList others table := by
    simp only [tree, treeOf_eq_make, Node.children_make, others]
  have hn := kind_ne_definition_of_mem_otherNodes source front events
  rw [hc]
  refine ⟨?order, ?perm, mergeDefinitions_sorted source h others, filter_kind_mergeDefinitions h hn,
    mergeDefinitions_front h hn, ?first⟩
  case order =>
    intro order hp
    simp only [tree, treeOf_eq_make]
    rw [mergeDefinitions_eq_of_perm h hp hd]
  case perm => exact mergeDefinitions_perm source source.toList others table
  case first =>
    intro span he hf
    have h0 : startOffset (frontNode source source.toList span) = 0 := by
      rw [frontNode, startOffset_make]
      simp [trimSpan, start_of_emptyFront? he]
    have ho : others = frontNode source source.toList span ::
        (rootFrame source source.toList events).children := by
      simp [others, otherNodes, hf]
    rw [ho]
    exact head?_mergeDefinitions h h0 _

-- A heading between two definitions behind an empty metadata block. The table has the second
-- definition first.
theorem treeOf_definitions_of_swapped :
    let source := "---\n---\n[a]: b\n\n# H\n\n[c]: d\n"
    let front : Span := ⟨0, 8⟩
    let events : List Located := [(.enter (.heading 1), ⟨16, 20⟩), (.text "H", ⟨18, 19⟩),
      (.leave, ⟨16, 20⟩)]
    let a : Definition := ⟨"a", "b", none, (8, 14)⟩
    let c : Definition := ⟨"c", "d", none, (21, 27)⟩
    ([c, a].map fun d => startOffset (nodeOf source d)).Nodup ∧
      emptyFront? source.toList = some front ∧
      treeOf source source.toList (some front) ⟨events, [a, c]⟩ =
        treeOf source source.toList (some front) ⟨events, [c, a]⟩ ∧
      (treeOf source source.toList (some front) ⟨events, [c, a]⟩).children.head? =
        some (frontNode source source.toList front) := by
  intro source front events a c
  have ha : startOffset (nodeOf source a) = 8 := startOffset_nodeOf (by decide) (by decide)
  have hc : startOffset (nodeOf source c) = 21 := startOffset_nodeOf (by decide) (by decide)
  have hd : ([c, a].map fun d => startOffset (nodeOf source d)).Nodup := by simp [ha, hc]
  have hf : emptyFront? source.toList = some front := by
    subst source front
    rfl
  obtain ⟨order, _, _, _, _, first⟩ :=
    treeOf_definitions source (some front) events [c, a] (by simp) hd
  exact ⟨hd, hf, order [a, c] (List.Perm.swap c a []), first front hf rfl⟩

end Document
end Markdown
end ProposalLint
