import ProposalLint.Proofs.Markdown.Chunks
import ProposalLint.Proofs.Markdown.Shape

namespace ProposalLint.Markdown

-- Elements that stand in a line of text.
def Tag.isInline : Tag → Bool
  | emphasis | strong | strikethrough | link .. | image .. => true
  | _ => false

-- Content that stands in a line of text.
def Event.isInline : Event → Bool
  | text _ | softBreak | hardBreak | code _ | html _ | footnoteReference _ => true
  | _ => false

-- A run of inline content. What is opened in it is closed in it.
inductive InlineRun : List Located → Prop
  | nil : InlineRun []
  | content {event : Event} {run : List Located} (span : Span) :
      event.isInline → InlineRun run → InlineRun ((event, span) :: run)
  | element {tag : Tag} {inside run : List Located} (opened closed : Span) :
      tag.isInline → InlineRun inside → InlineRun run →
      InlineRun ((.enter tag, opened) :: inside ++ (.leave, closed) :: run)

-- Items that stand in a line of text.
def Item.isInline : Item → Bool
  | .content event _ _ => event.isInline
  | .element tag _ _ => tag.isInline

theorem Event.isContent_of_isInline {event : Event} (h : event.isInline) : event.isContent := by
  cases event <;> simp_all [isInline, isContent]

-- The items of a run. Over which range an element is closed does not matter.
theorem InlineRun.exists_items (h : InlineRun run) (source : String) (chars : List Char) :
    ∃ items, (∀ i ∈ items, i.isInline) ∧ (items = [] ↔ run = []) ∧
      (∀ opened rest, scopes opened (run ++ rest) = scopesOf opened items ++ scopes opened rest) ∧
      Agree source chars run (eventsOf items) := by
  induction h
  case nil => exact ⟨[], by simp, by simp, by simp [scopesOf], fun _ => rfl⟩
  case content event run span he _ ih =>
    have hc := Event.isContent_of_isInline he
    have ⟨items, hi, _, hs, hf⟩ := ih
    refine ⟨.content event hc span :: items, ?_, by simp, ?_, ?_⟩
    · exact List.forall_mem_cons.mpr ⟨he, hi⟩
    · simp [scopesOf, Item.scopes, scopes_content hc, hs]
    · exact fun stack => by simp [eventsOf, Item.events, hf _]
  case element tag inside run opened closed ht _ _ ih₁ ih₂ =>
    have ⟨inner, _, _, hs₁, hf₁⟩ := ih₁
    have ⟨items, hi, _, hs₂, hf₂⟩ := ih₂
    refine ⟨.element tag opened inner :: items, ?_, by simp, ?_, ?_⟩
    · exact List.forall_mem_cons.mpr ⟨ht, hi⟩
    · simp [scopesOf, Item.scopes, scopes, hs₁, hs₂]
    · exact fun stack => by simp [eventsOf, Item.events, handle, hf₁ _, hf₂ _]

namespace Portion

-- Whether a portion goes into a paragraph of a list item.
def isPhrasing : Portion → Bool
  | text _ => true
  | node n => n.kind.isPhrasing

def isMarkup : Portion → Bool
  | text _ => false
  | node n => n.kind = .html

end Portion

section Items

variable {i : Item} {items : List Item}

-- What lies in an element of a run does not stand directly in it.
theorem not_mem_scopesOf_cons (tag : Tag) (items : List Item) (event : Event) :
    ([], event) ∉ scopesOf (tag :: opened) items := by
  intro h
  have ho : (tag :: opened).any fun _ => true := by simp
  have := any_of_mem_scopesOf ho items _ h
  simp at this

-- Each item of a run is one portion. Markup is markup only outside of elements.
theorem Item.portions_of_isInline (h : i.isInline) (source : String) (chars : List Char) :
    ∃ p, i.portions source chars false = [p] ∧ (p.isPhrasing ∨ p.isMarkup) ∧
      (p.isMarkup ↔ ∃ value, ([], .html value) ∈ i.scopes []) := by
  cases i
  case content event hc span =>
    cases event <;> simp only [isInline, Event.isInline, Bool.false_eq_true] at h
    all_goals
      refine ⟨_, rfl, ?_, ?_⟩
      all_goals simp [Portion.isPhrasing, Portion.isMarkup, Kind.isPhrasing, Item.scopes]
  case element tag span items =>
    refine ⟨.node (elementNode source chars tag span (portionsOf source chars (tag = .html) items)),
      by rw [Item.portions], ?_⟩
    have hs : ∀ value, ([], .html value) ∉ (Item.element tag span items).scopes [] := by
      simp [Item.scopes, not_mem_scopesOf_cons]
    cases tag <;> simp only [isInline, Tag.isInline, Bool.false_eq_true] at h
    all_goals
      simp [Portion.isPhrasing, Portion.isMarkup, Tag.node, Kind.isPhrasing, hs]

theorem portionsOf_of_isInline (h : ∀ i ∈ items, i.isInline) (source : String)
    (chars : List Char) :
    (∀ p ∈ portionsOf source chars false items, p.isPhrasing ∨ p.isMarkup) ∧
      ((∃ p ∈ portionsOf source chars false items, p.isMarkup) ↔
        ∃ value, ([], .html value) ∈ scopesOf [] items) := by
  induction items
  case nil => simp [portionsOf, scopesOf]
  case cons i is ih =>
    have ⟨hi, his⟩ := List.forall_mem_cons.mp h
    have ⟨p, hp, hk, hm⟩ := Item.portions_of_isInline hi source chars
    have ⟨hks, hms⟩ := ih his
    simp only [portionsOf, hp, scopesOf, List.cons_append, List.nil_append, List.mem_append,
      exists_or]
    refine ⟨List.forall_mem_cons.mpr ⟨hk, hks⟩, ?_⟩
    simp [hm, hms]

theorem portionsOf_eq_nil_iff (h : ∀ i ∈ items, i.isInline) (source : String)
    (chars : List Char) : portionsOf source chars false items = [] ↔ items = [] := by
  cases items
  case nil => simp [portionsOf]
  case cons i is =>
    have ⟨p, hp, _⟩ := Item.portions_of_isInline (h i (by simp)) source chars
    simp [portionsOf, hp]

end Items

section Wrap

variable {chars : List Char} {ps : List Portion} {run ns : List Node}

theorem mem_gather_of_node (h : .node n ∈ ps) : n ∈ gather chars ps := by
  fun_induction gather chars ps
  case case1 => cases h
  case case2 m ps ih =>
    have h : n = m ∨ .node n ∈ ps := by simpa using h
    exact List.mem_cons.mpr (h.imp_right ih)
  case case3 r ps ih =>
    have h : .node n ∈ ps := by simpa using h
    exact List.mem_cons_of_mem _ (ih (node_mem_behindTexts.mpr h))

theorem gather_ne_nil (h : ps ≠ []) : gather chars ps ≠ [] := by
  unfold gather
  split <;> simp_all

theorem wrapFrom_of_phrasing (h : ∀ n ∈ ns, n.kind.isPhrasing) :
    wrapFrom run ns = closeRun (run ++ ns) := by
  induction ns generalizing run
  case nil => simp [wrapFrom]
  case cons n ns ih =>
    obtain ⟨hn, hns⟩ := List.forall_mem_cons.mp h
    simp [wrapFrom, hn, ih hns]

theorem mem_wrapFrom (h : n ∈ ns) (hn : ¬n.kind.isPhrasing) : n ∈ wrapFrom run ns := by
  induction ns generalizing run
  case nil => cases h
  case cons m ns ih =>
    unfold wrapFrom
    cases List.mem_cons.mp h
    case inl h => simp [← h, hn]
    case inr h => split <;> simp [ih h]

theorem wrapPhrasing_of_phrasing (h : ∀ n ∈ ns, n.kind.isPhrasing) (hn : ns ≠ []) :
    wrapPhrasing ns = [paragraphOf ns] := by
  simp [wrapPhrasing, wrapFrom_of_phrasing h, closeRun, hn]

-- Content without markup becomes one paragraph, and markup stands beside the paragraphs.
theorem wrapPhrasing_whole_iff (hk : ∀ p ∈ ps, p.isPhrasing ∨ p.isMarkup) :
    (∃ n, wrapPhrasing (gather chars ps) = [n] ∧ n.kind = .paragraph ∧
      n.children = gather chars ps) ↔ ps ≠ [] ∧ ∀ p ∈ ps, ¬p.isMarkup := by
  constructor
  case mp =>
    intro ⟨m, hm, hpar, _⟩
    constructor
    case left =>
      intro hp
      simp [hp, gather, wrapPhrasing, wrapFrom, closeRun] at hm
    case right =>
      intro p hmem hmark
      cases p
      case text => simp [Portion.isMarkup] at hmark
      case node n =>
        have hn : n.kind = .html := by simpa [Portion.isMarkup] using hmark
        have hg : n ∈ gather chars ps := mem_gather_of_node hmem
        have hw : n ∈ wrapPhrasing (gather chars ps) :=
          mem_wrapFrom hg (by simp [hn, Kind.isPhrasing])
        have he : n = m := by simpa [hm] using hw
        simp [← he, hn] at hpar
  case mpr =>
    rintro ⟨hp, h⟩
    have hn : ∀ n, .node n ∈ ps → n.kind.isPhrasing :=
      fun n hn => (hk _ hn).resolve_right (h _ hn)
    have hg : ∀ n ∈ gather chars ps, n.kind.isPhrasing :=
      (forall_mem_gather fun r => by simp [TextRun.node, Kind.isPhrasing]).mpr hn
    exact ⟨_, wrapPhrasing_of_phrasing hg (gather_ne_nil hp), rfl, rfl⟩

end Wrap

section ListItems

variable {source : String} {chars : List Char} {run : List Located} {items : List Item}

-- An element with the given content.
def enclosed (tag : Tag) (opened closed : Span) (run : List Located) : List Located :=
  (.enter tag, opened) :: run ++ [(.leave, closed)]

theorem Agree.enclosed (h : Agree source chars run (eventsOf items)) (tag : Tag)
    (opened closed : Span) :
    Agree source chars (enclosed tag opened closed run)
      (eventsOf [.element tag opened items]) := by
  intro stack
  simp [Markdown.enclosed, eventsOf, Item.events, h _, handle]

theorem foldl_handle_enclosed (h : Agree source chars run (eventsOf items)) (tag : Tag)
    (opened closed : Span) (top : Frame) (rest : List Frame) :
    (enclosed tag opened closed run).foldl (handle source chars) (top :: rest) =
      top.pushNode chars (elementNode source chars tag opened
        (portionsOf source chars (tag = .html) items)) :: rest := by
  rw [h.enclosed tag opened closed, foldl_handle_eventsOf]
  rfl

-- A run of inline content in a list item, directly and in a paragraph. The first item has the one
-- paragraph of the second, with the same nodes in it, if and only if there is content and no markup
-- stands directly in it. Each node of markup takes the content apart.
theorem tightItem_whole_iff (source : String) (chars : List Char) (top : Frame) (rest : List Frame)
    (opened closed begun ended : Span) (h : InlineRun run) :
    ∃ tight loose paragraph : Node,
      (enclosed .item opened closed run).foldl (handle source chars) (top :: rest) =
        top.pushNode chars tight :: rest ∧
      (enclosed .item opened closed (enclosed .paragraph begun ended run)).foldl
        (handle source chars) (top :: rest) = top.pushNode chars loose :: rest ∧
      tight.kind = .listItem ∧ loose.kind = .listItem ∧
      loose.children = [paragraph] ∧ paragraph.kind = .paragraph ∧
      tight.children = wrapPhrasing paragraph.children ∧
      ((∃ p, tight.children = [p] ∧ p.kind = .paragraph ∧ p.children = paragraph.children) ↔
        run ≠ [] ∧ ∀ value, ([], .html value) ∉ scopes [] run) := by
  have ⟨items, hi, hn, hs, hf⟩ := h.exists_items source chars
  have hs : scopes [] run = scopesOf [] items := by simpa [scopes] using hs [] []
  let ps := portionsOf source chars false items
  have hp : ps = [] ↔ run = [] := (portionsOf_eq_nil_iff hi source chars).trans hn
  have ⟨hk, hm⟩ := portionsOf_of_isInline hi source chars
  refine ⟨elementNode source chars .item opened ps,
    elementNode source chars .item opened [.node (elementNode source chars .paragraph begun ps)],
    elementNode source chars .paragraph begun ps, ?tight, ?loose, ?_⟩
  case tight => exact foldl_handle_enclosed hf .item opened closed top rest
  case loose =>
    exact foldl_handle_enclosed (hf.enclosed .paragraph begun ended) .item opened closed top rest
  simp only [kind_elementNode, children_elementNode, Tag.node, Tag.children, true_and]
  refine ⟨?paragraph, ?whole⟩
  case paragraph => simp [gather, wrapPhrasing, wrapFrom, closeRun, Tag.node, Kind.isPhrasing]
  case whole =>
    have hm : (∀ p ∈ ps, ¬p.isMarkup) ↔ ∀ value, ([], .html value) ∉ scopes [] run := by
      rw [hs, ← not_exists, ← hm]
      simp [ps]
    rw [wrapPhrasing_whole_iff hk, ← hm, ← hp.ne]

-- Markup in emphasis does not stand directly in the run.
theorem tightItem_whole_iff_of_emphasis :
    let source := "- a*<b>*\n"
    let run : List Located := [(.text "a", ⟨2, 3⟩), (.enter .emphasis, ⟨3, 8⟩),
      (.html "<b>", ⟨4, 7⟩), (.leave, ⟨3, 8⟩)]
    let list := Frame.ofTag (.list none) ⟨0, 9⟩
    InlineRun run ∧ run ≠ [] ∧ (∀ value, ([], .html value) ∉ scopes [] run) ∧
      ∃ item paragraph,
        (enclosed .item ⟨0, 9⟩ ⟨0, 9⟩ run).foldl (handle source source.toList) [list] =
          [list.pushNode source.toList item] ∧
        item.children = [paragraph] ∧ paragraph.kind = .paragraph := by
  intro source run list
  have hr : InlineRun run := .content _ rfl (.element _ _ rfl (.content _ rfl .nil) .nil)
  have hs : ∀ value, ([], .html value) ∉ scopes [] run := by simp [run, scopes]
  have ⟨item, _, _, hi, _, _, _, _, _, _, hw⟩ := tightItem_whole_iff source source.toList list []
    ⟨0, 9⟩ ⟨0, 9⟩ ⟨2, 9⟩ ⟨2, 9⟩ hr
  have ⟨p, hp, hk, _⟩ := hw.mpr ⟨by simp [run], hs⟩
  exact ⟨hr, by simp [run], hs, item, p, hi, hp, hk⟩

-- A line break written as markup takes the text of an item apart, though it is inline content. In a
-- paragraph it does not.
theorem tightItem_apart_of_markup :
    let source := "- a<br>b\n"
    let run : List Located := [(.text "a", ⟨2, 3⟩), (.html "<br>", ⟨3, 7⟩), (.text "b", ⟨7, 8⟩)]
    let kinds := fun events : List Located =>
      let list := enclosed (.list none) ⟨0, 9⟩ ⟨0, 9⟩ (enclosed .item ⟨0, 9⟩ ⟨0, 9⟩ events)
      ((treeOf source source.toList none ⟨list, []⟩).preorder.filter (·.kind = .listItem)).map
        fun item => item.children.map Node.kind
    InlineRun run ∧ run ≠ [] ∧ kinds run = [[.paragraph, .html, .paragraph]] ∧
      kinds (enclosed .paragraph ⟨2, 9⟩ ⟨2, 9⟩ run) = [[.paragraph]] := by
  intro source run kinds
  have hr : InlineRun run := .content _ rfl (.content _ rfl (.content _ rfl .nil))
  refine ⟨hr, by simp [run], ?tight, ?loose⟩
  case tight =>
    subst kinds run source
    decide +kernel
  case loose =>
    subst kinds run source
    decide +kernel

end ListItems
end ProposalLint.Markdown
