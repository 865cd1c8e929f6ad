import ProposalLint.Proofs.Markdown.Paragraphs
import ProposalLint.Proofs.Markdown.VisibleText

namespace ProposalLint

-- Nodes of these kinds have a text of their own.
def Kind.holdsText : Kind → Bool
  | yaml | text | inlineCode | html | code => true
  | _ => false

namespace Node

-- Two neighbours that are not both texts.
def Apart (m n : Node) : Prop :=
  m.kind = .text → n.kind ≠ .text

-- What the kind of a node tells about it: whether it has a list of children, that it has a text,
-- and what it does not hold.
structure Sound (n : Node) : Prop where
  leaf  : n.isLeaf ↔ ¬n.kind.isParent
  value : n.kind.holdsText → n.value.isSome
  item  : n.kind = .listItem → ∀ c ∈ n.children, ¬c.kind.isPhrasing

-- A node below the top of a document.
structure Inner (n : Node) : Prop extends Sound n where
  kind  : n.kind ≠ .root
  texts : n.children.IsChain Apart

-- A tree below the top of a document.
def Nested (n : Node) : Prop :=
  ∀ m ∈ n.preorder, m.Inner

theorem nested_iff {n : Node} : n.Nested ↔ n.Inner ∧ ∀ c ∈ n.children, c.Nested :=
  forall_mem_preorder

theorem isLeaf_make (h : ¬k.isParent → cs = []) : (make k p d cs).isLeaf ↔ ¬k.isParent := by
  cases hk : k.isParent
  case true => simp [make, hk, isLeaf]
  case false => simp [make, h (by simp [hk]), hk, isLeaf]

theorem sound_make (hl : ¬k.isParent → cs = []) (hv : k.holdsText → (make k p d cs).value.isSome)
    (hi : k = .listItem → ∀ c ∈ cs, ¬c.kind.isPhrasing) : (make k p d cs).Sound where
  leaf := by simpa using isLeaf_make hl
  value := by simpa using hv
  item := by simpa using hi

theorem nested_make (hs : (make k p d cs).Sound) (hk : k ≠ .root) (ht : cs.IsChain Apart)
    (hc : ∀ c ∈ cs, c.Nested) : (make k p d cs).Nested :=
  nested_iff.mpr ⟨⟨hs, by simpa using hk, by simpa using ht⟩, by simpa using hc⟩

-- A node that stands for one event has no children.
theorem nested_make_nil (hk : ¬k.isParent) (hv : k.holdsText → (make k p d []).value.isSome) :
    (make k p d []).Nested := by
  refine nested_make (sound_make (fun _ => rfl) hv (by simp)) ?_ .nil (by simp)
  exact fun h => hk (h ▸ rfl)

-- A node that is no text is apart from all others.
theorem isChain_of_forall {ns : List Node} (h : ∀ n ∈ ns, n.kind ≠ .text) : ns.IsChain Apart := by
  induction ns
  case nil => exact .nil
  case cons n ns ih =>
    have ⟨hn, hns⟩ := List.forall_mem_cons.mp h
    exact List.isChain_cons.mpr ⟨fun _ _ ht => absurd ht hn, ih hns⟩

end Node

namespace Markdown

open Node

section Gather

variable {chars : List Char} {ps : List Portion}

theorem node_mem_behindTexts : .node n ∈ behindTexts ps ↔ .node n ∈ ps := by
  fun_induction behindTexts ps <;> simp_all

-- Texts become text nodes, and the other nodes stay.
theorem forall_mem_gather {q : Node → Prop} (ht : ∀ r : TextRun, q (r.node chars)) :
    (∀ n ∈ gather chars ps, q n) ↔ ∀ n, .node n ∈ ps → q n := by
  fun_induction gather chars ps
  case case1 => simp
  case case2 n ps ih => simp [ih]
  case case3 r ps ih => simp [ih, ht, node_mem_behindTexts]

-- Behind some texts there is a node, if there is anything.
theorem node_of_head?_gather (h : n ∈ (gather chars (behindTexts ps)).head?) : .node n ∈ ps := by
  fun_induction behindTexts ps
  case case1 ih => exact List.mem_cons_of_mem _ (ih h)
  case case2 ps hn =>
    cases ps
    case nil => simp [gather] at h
    case cons p ps =>
      cases p
      case text r => exact absurd rfl (hn r ps)
      case node m => simp_all [gather]

theorem textNode_nested (chars : List Char) (r : TextRun) : (r.node chars).Nested := by
  apply nested_make_nil
  · simp [Kind.isParent]
  · simp [Node.value]

-- Texts are joined until something else comes.
theorem gather_isChain (chars : List Char) (h : ∀ n, .node n ∈ ps → n.kind ≠ .text) :
    (gather chars ps).IsChain Apart := by
  fun_induction gather chars ps
  case case1 => exact .nil
  case case2 n ps ih =>
    have hn := h n (by simp)
    refine List.isChain_cons.mpr ⟨fun _ _ ht => absurd ht hn, ih fun m hm => h m ?_⟩
    exact List.mem_cons_of_mem _ hm
  case case3 r ps ih =>
    refine List.isChain_cons.mpr ⟨fun m hm _ => h m ?_, ih fun m hm => h m ?_⟩
    · exact List.mem_cons_of_mem _ (node_of_head?_gather hm)
    · exact List.mem_cons_of_mem _ (node_mem_behindTexts.mp hm)

end Gather

section Wrap

variable {run ns : List Node}

theorem paragraphOf_nested (ht : run.IsChain Apart) (h : ∀ n ∈ run, n.Nested) :
    (paragraphOf run).Nested := by
  have hs : (paragraphOf run).Sound := by
    constructor <;> simp [paragraphOf, Node.isLeaf, Node.kind, Kind.isParent, Kind.holdsText]
  exact nested_iff.mpr ⟨⟨hs, by simp [paragraphOf, Node.kind], ht⟩, h⟩

theorem closeRun_nested (ht : run.IsChain Apart) (h : ∀ n ∈ run, n.Nested) :
    ∀ n ∈ closeRun run, n.Nested := by
  unfold closeRun
  split
  case isTrue => simp
  case isFalse => exact List.forall_mem_singleton.mpr (paragraphOf_nested ht h)

-- The new paragraphs of a list item hold pieces of what it had.
theorem wrapFrom_nested (ht : (run ++ ns).IsChain Apart) (h : ∀ n ∈ run ++ ns, n.Nested) :
    ∀ n ∈ wrapFrom run ns, n.Nested := by
  fun_induction wrapFrom run ns
  case case1 run => exact closeRun_nested (by simpa using ht) (by simpa using h)
  case case2 ih => exact ih (by simpa using ht) (by simpa using h)
  case case3 run n ns hn ih =>
    obtain ⟨hr, hns⟩ := List.forall_mem_append.mp h
    obtain ⟨hc, hns⟩ := List.forall_mem_cons.mp hns
    have htail : (n :: ns).IsChain Apart := ht.right_of_append
    refine List.forall_mem_append.mpr ⟨closeRun_nested ht.left_of_append hr, ?_⟩
    exact List.forall_mem_cons.mpr ⟨hc, ih htail.tail (by simpa using hns)⟩

end Wrap

namespace Tag

-- What can stand directly in an element. Blocks of code and metadata hold text, blocks of markup
-- hold text and markup.
def admits (tag : Tag) : Event → Bool
  | .text _ | .softBreak => true
  | .html _ => !tag.isRaw || tag = .html
  | _ => !tag.isRaw

-- No element is a document or a text.
theorem node_kind (tag : Tag) : tag.node.1 ≠ .root ∧ tag.node.1 ≠ .text := by
  cases tag
  case metadata style => cases style <;> simp [node]
  all_goals simp [node]

end Tag

-- The innermost element around an event can hold it.
def Fits (p : List Tag × Event) : Prop :=
  ∀ tag ∈ p.1.head?, tag.admits p.2

-- In blocks of code, metadata and markup there is nothing but what they can hold.
def Admitted (events : List Located) : Prop :=
  ∀ p ∈ scopes [] events, Fits p

section Elements

variable {source : String} {chars : List Char} {ps : List Portion}

@[simp]
theorem kind_elementNode (tag : Tag) (span : Span) (ps : List Portion) :
    (elementNode source chars tag span ps).kind = tag.node.1 := by
  simp [elementNode]

@[simp]
theorem children_elementNode (tag : Tag) (span : Span) (ps : List Portion) :
    (elementNode source chars tag span ps).children = tag.children chars ps := by
  simp [elementNode]

-- The nodes among some portions are trees, and none of them is a text.
def Solid (ps : List Portion) : Prop :=
  ∀ n, .node n ∈ ps → n.Nested ∧ n.kind ≠ .text

theorem Solid.append (hp : Solid ps) (hq : Solid qs) : Solid (ps ++ qs) :=
  fun n hn => (List.mem_append.mp hn).elim (hp n) (hq n)

theorem Solid.gather (h : Solid ps) (chars : List Char) :
    (∀ n ∈ gather chars ps, n.Nested) ∧ (gather chars ps).IsChain Apart :=
  ⟨(forall_mem_gather (textNode_nested chars)).mpr fun n hn => (h n hn).left,
    gather_isChain chars fun n hn => (h n hn).right⟩

-- What an element needs of its content. In a raw block there are no nodes at all.
structure Content (tag : Tag) (ps : List Portion) : Prop where
  solid : Solid ps
  raw   : tag.isRaw → plainNodes ps = []

namespace Content

theorem wrapped (c : Content tag ps) :
    ∀ n ∈ wrapPhrasing (gather chars ps), n.Nested ∧ ¬n.kind.isPhrasing := by
  have ⟨hn, ht⟩ := c.solid.gather chars
  have hw : ∀ n ∈ wrapPhrasing (gather chars ps), n.Nested :=
    wrapFrom_nested (by simpa using ht) (by simpa using hn)
  exact fun n hm => ⟨hw n hm, not_isPhrasing_of_mem_wrapPhrasing hm⟩

theorem children_nested (c : Content tag ps) : ∀ n ∈ tag.children chars ps, n.Nested := by
  unfold Tag.children
  split
  case h_1 | h_2 | h_3 => simp [c.raw rfl]
  case h_4 => simp
  case h_5 => exact fun n hn => (c.wrapped n hn).left
  case h_6 => exact (c.solid.gather chars).left

theorem children_isChain (c : Content tag ps) : (tag.children chars ps).IsChain Apart := by
  unfold Tag.children
  split
  case h_1 | h_2 | h_3 => simp [c.raw rfl]
  case h_4 => exact .nil
  case h_5 =>
    refine isChain_of_forall fun n hn ht => (c.wrapped n hn).right ?_
    simp [ht, Kind.isPhrasing]
  case h_6 => exact (c.solid.gather chars).right

-- Only the kinds of raw blocks and of images are those of no parents.
theorem children_eq_nil (c : Content tag ps) (h : ¬tag.node.1.isParent) :
    tag.children chars ps = [] := by
  cases tag <;> simp only [Tag.node, Kind.isParent, not_true_eq_false] at h
  case image => rfl
  all_goals exact c.raw rfl

theorem sound (c : Content tag ps) (source : String) (chars : List Char) (span : Span) :
    (elementNode source chars tag span ps).Sound := by
  refine sound_make c.children_eq_nil ?value ?item
  case value =>
    cases tag <;> simp [Tag.node, Tag.finalPayload, Node.value, Kind.holdsText]
  case item =>
    cases tag <;> simp only [Tag.node, reduceCtorEq, false_implies]
    case item => exact fun _ n hn => (c.wrapped n hn).right
    case metadata style => cases style <;> simp

theorem elementNode_nested (c : Content tag ps) (source : String) (chars : List Char)
    (span : Span) : (elementNode source chars tag span ps).Nested :=
  nested_make (c.sound source chars span) tag.node_kind.left c.children_isChain c.children_nested

end Content

theorem solid_leaf (hk : ¬k.isParent) (ht : k ≠ .text)
    (hv : k.holdsText → (make k (some (Position.locate chars span)) d []).value.isSome) :
    Solid (Event.portion?.leaf chars span k d).toList := by
  intro n hn
  have he : n = make k (some (Position.locate chars span)) d [] := by
    simpa [Event.portion?.leaf] using hn
  exact he ▸ ⟨nested_make_nil hk hv, by simpa using ht⟩

theorem solid_portion? (event : Event) (markup : Bool) (span : Span) :
    Solid (event.portion? chars markup span).toList := by
  cases event <;> simp only [Event.portion?]
  case html value =>
    split
    case isTrue => simp [Solid]
    case isFalse => exact solid_leaf (by simp [Kind.isParent]) (by simp) (by simp [Node.value])
  case text | softBreak | taskMark | enter | leave => simp [Solid]
  all_goals
    apply solid_leaf
    · simp [Kind.isParent]
    · simp
    · simp [Node.value, Kind.holdsText]

-- What a raw block can hold is text for it.
theorem plainNodes_portion? {tag : Tag} {event : Event} (hr : tag.isRaw)
    (h : tag.admits event) (chars : List Char) (span : Span) :
    plainNodes (event.portion? chars (tag = .html) span).toList = [] := by
  cases event <;> simp only [Tag.admits, hr, Bool.not_true, Bool.false_or, Bool.false_eq_true] at h
  case html => simp [Event.portion?, plainNodes, h]
  all_goals rfl

theorem plainNodes_portionsOf (hr : tag.isRaw) (items : List Item)
    (h : ∀ p ∈ scopesOf (tag :: opened) items, Fits p) :
    plainNodes (portionsOf source chars (tag = .html) items) = [] := by
  induction items
  case nil => rfl
  case cons i is ih =>
    rw [scopesOf] at h
    have ⟨hi, his⟩ := List.forall_mem_append.mp h
    rw [portionsOf, plainNodes_append, ih his, List.append_nil]
    cases i
    case content event _ span =>
      have hf : Fits (tag :: opened, event) := hi _ (by simp [Item.scopes])
      exact plainNodes_portion? hr (hf tag (by simp)) chars span
    case element inner span items =>
      have hf : Fits (tag :: opened, .enter inner) := hi _ (by simp [Item.scopes])
      have := hf tag (by simp)
      simp [Tag.admits, hr] at this

mutual

-- By induction on the nesting. What is open around an item matters for raw blocks only.
theorem solid_portions (source : String) (chars : List Char) (markup : Bool) : (i : Item) →
    (∀ p ∈ i.scopes opened, Fits p) → Solid (i.portions source chars markup)
  | .content event _ span, _ => solid_portion? event markup span
  | .element tag span items, h => by
    have hi := (List.forall_mem_cons.mp h).right
    have c : Content tag (portionsOf source chars (tag = .html) items) :=
      ⟨solid_portionsOf source chars (tag = .html) items hi,
        fun hr => plainNodes_portionsOf hr items hi⟩
    intro n hn
    have he : n = elementNode source chars tag span
        (portionsOf source chars (tag = .html) items) := by
      simpa [Item.portions] using hn
    exact he ▸ ⟨c.elementNode_nested source chars span, by simpa using tag.node_kind.right⟩

theorem solid_portionsOf (source : String) (chars : List Char) (markup : Bool) :
    (is : List Item) → (∀ p ∈ scopesOf opened is, Fits p) →
    Solid (portionsOf source chars markup is)
  | [], _ => by simp [Solid, portionsOf]
  | i :: is, h => by
    rw [scopesOf] at h
    have ⟨hi, his⟩ := List.forall_mem_append.mp h
    rw [portionsOf]
    exact (solid_portions source chars markup i hi).append
      (solid_portionsOf source chars markup is his)

end

end Elements

section Document

variable {source : String} {chars : List Char}

theorem frontNode_nested (span : Span) : (frontNode source chars span).Nested := by
  apply nested_make_nil
  · simp [Kind.isParent]
  · simp [Node.value]

theorem definitionNode_nested (d : Definition) : (definitionNode source chars d).2.Nested := by
  simp only [definitionNode]
  apply nested_make_nil
  · simp [Kind.isParent]
  · simp [Kind.holdsText]

theorem topNodes_nested (source : String) (chars : List Char) (front : Option Span)
    (h : ∀ p ∈ scopesOf [] items, Fits p) :
    (∀ n ∈ topNodes source chars front items, n.Nested) ∧
      (topNodes source chars front items).IsChain Apart := by
  have ⟨hn, hc⟩ := (solid_portionsOf source chars false items h).gather chars
  cases front
  case none => exact ⟨by simpa [topNodes] using hn, by simpa [topNodes] using hc⟩
  case some span =>
    refine ⟨List.forall_mem_cons.mpr ⟨frontNode_nested span, hn⟩,
      List.isChain_cons.mpr ⟨fun _ _ ht => ?_, hc⟩⟩
    simp [frontNode] at ht

theorem document_sound (front : Option Span) (definitions : List Definition)
    (h : ∀ n ∈ topNodes source chars front items, n.Nested) :
    (document source chars front definitions items).Sound ∧
      ∀ c ∈ (document source chars front definitions items).children, c.Nested := by
  constructor
  · exact sound_make (by simp [Kind.isParent]) (by simp [Kind.holdsText]) (by simp)
  · intro c hc
    rw [document, children_make, (mergeDefinitions_perm ..).mem_iff] at hc
    cases List.mem_append.mp hc
    case inl hc => exact h c hc
    case inr hc =>
      obtain ⟨d, _, rfl⟩ := List.mem_map.mp hc
      exact definitionNode_nested d

-- Whatever the stream, if raw blocks in it hold what they can hold, the tree has one root at its
-- top, all nodes have positions and what their kinds tell, and no two texts are neighbours. At the
-- top that holds before definitions come in between.
theorem treeOf_shape (source : String) (chars : List Char) (front : Option Span) (s : Stream)
    (h : Admitted s.events) :
    let tree := treeOf source chars front s
    let top := front.toList.map (frontNode source chars) ++
      (rootFrame source chars s.events).children
    tree.kind = .root ∧ (∀ n ∈ tree.preorder, n.position.isSome ∧ n.Sound) ∧
      (∀ n ∈ preorders tree.children, n.Inner) ∧
      tree.children = mergeDefinitions source chars top s.definitions ∧ top.IsChain Apart := by
  intro tree top
  have ⟨items, hi⟩ := exists_eventsOf_eq_completion s.events
  have hd : tree = document source chars front s.definitions items :=
    treeOf_eq_document source chars front s hi
  have ht : top = topNodes source chars front items := by
    simp [top, topNodes, rootFrame_children source chars hi]
  have hf : ∀ p ∈ scopesOf [] items, Fits p := by
    rw [← scopes_eq_scopesOf hi]
    exact h
  obtain ⟨hn, hc⟩ := topNodes_nested source chars front hf
  obtain ⟨hs, hk⟩ := document_sound front s.definitions hn
  rw [← hd] at hs hk
  have hinner : ∀ n ∈ preorders tree.children, n.Inner := by
    intro n hm
    obtain ⟨c, hc, hm⟩ := mem_preorders.mp hm
    exact hk c hc n hm
  refine ⟨by simp [hd, document], fun n hm => ⟨?_, ?_⟩, hinner, by simp [hd, document, ht], ht ▸ hc⟩
  · have hp : tree.Placed chars := treeOf_placed front s
    obtain ⟨_, _, hp⟩ := hp n hm
    simp [hp]
  · rw [preorder_eq_cons] at hm
    cases List.mem_cons.mp hm
    case inl he => exact he ▸ hs
    case inr hm => exact (hinner n hm).toSound

-- Metadata, a block of markup, and a list item with text in two pieces, emphasis, an image and a
-- block of code.
theorem treeOf_shape_of_blocks :
    let source := "---\nk: v\n---\n<p>\n\n- a\n  b*c*![d](e)\n\n      g\n[h]: i\n"
    let s : Stream := ⟨[(.enter (.metadata .dashes), ⟨0, 12⟩), (.text "k: v\n", ⟨4, 9⟩),
      (.leave, ⟨0, 12⟩), (.enter .html, ⟨13, 17⟩), (.html "<p>\n", ⟨13, 17⟩), (.leave, ⟨13, 17⟩),
      (.enter (.list none), ⟨18, 44⟩), (.enter .item, ⟨18, 44⟩), (.text "a", ⟨20, 21⟩),
      (.softBreak, ⟨21, 22⟩), (.text "b", ⟨24, 25⟩), (.enter .emphasis, ⟨25, 28⟩),
      (.text "c", ⟨26, 27⟩), (.leave, ⟨25, 28⟩), (.enter (.image "e" ""), ⟨28, 35⟩),
      (.text "d", ⟨30, 31⟩), (.leave, ⟨28, 35⟩), (.enter (.code none), ⟨43, 45⟩),
      (.text "g\n", ⟨43, 45⟩), (.leave, ⟨43, 45⟩), (.leave, ⟨18, 44⟩), (.leave, ⟨18, 44⟩)],
      [⟨"h", "i", none, (45, 51)⟩]⟩
    let tree := treeOf source source.toList none s
    Admitted s.events ∧ tree.kind = .root ∧ (∀ n ∈ tree.preorder, n.position.isSome ∧ n.Sound) ∧
      ∀ n ∈ preorders tree.children, n.Inner := by
  intro source s tree
  have h : Admitted s.events := by
    simp [s, Admitted, scopes, Fits, Tag.admits, Tag.isRaw]
  obtain ⟨hk, hs, hn, _⟩ := treeOf_shape source source.toList none s h
  exact ⟨h, hk, hs, hn⟩

end Document
end Markdown
end ProposalLint
