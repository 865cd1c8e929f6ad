import ProposalLint.Proofs.Markdown.Nesting
import ProposalLint.Proofs.Markdown.Placed

namespace ProposalLint

namespace Node

-- The text of a row of trees.
def textOf (ns : List Node) : String :=
  String.join (ns.map textContent)

@[simp]
theorem textOf_nil : textOf [] = "" :=
  rfl

@[simp]
theorem textOf_cons (n : Node) (ns : List Node) :
    textOf (n :: ns) = n.textContent ++ textOf ns := by
  simp [textOf]

@[simp]
theorem textOf_append (ms ns : List Node) : textOf (ms ++ ns) = textOf ms ++ textOf ns := by
  simp [textOf]

theorem join_preorders (ns : List Node) : String.join ((preorders ns).map ownText) = textOf ns := by
  induction ns
  case nil => rfl
  case cons n ns ih => simp [preorders, ih, textContent, walk_eq_preorder]

theorem textContent_eq (n : Node) : n.textContent = n.ownText ++ textOf n.children := by
  simp [textContent, walk_eq_preorder, preorder_eq_cons, join_preorders]

-- Only text and inline code have text of their own.
theorem textContent_make (ht : k ≠ .text) (hc : k ≠ .inlineCode) :
    (make k p d cs).textContent = textOf cs := by
  have ho : (make k p d cs).ownText = "" := by
    unfold ownText
    split <;> simp_all
  rw [textContent_eq, ho, children_make, String.empty_append]

end Node

namespace Markdown

open Node

namespace Event

-- The text that an event shows.
def ownText : Event → String
  | text value | code value => value
  | softBreak => "\n"
  | _ => ""

-- What a block of raw text is made of.
def isRawContent : Event → Bool
  | text _ | softBreak | html _ => true
  | _ => false

end Event

-- Elements whose content is not shown: images, and blocks of code, markup or metadata.
def Tag.hidesText : Tag → Bool
  | image .. | code _ | html | metadata _ => true
  | _ => false

theorem Tag.hidesText_of_isRaw (h : isRaw tag) : hidesText tag := by
  cases tag <;> simp_all [isRaw, hidesText]

-- The events of a stream but for the ends, each with the elements that it lies in, innermost first.
def scopes : (opened : List Tag) → List Located → List (List Tag × Event)
  | _, [] => []
  | opened, (.enter tag, _) :: events => (opened, .enter tag) :: scopes (tag :: opened) events
  | opened, (.leave, _) :: events => scopes opened.tail events
  | opened, (event, _) :: events => (opened, event) :: scopes opened events

def shownText : List Tag × Event → String
  | (opened, event) => if opened.any Tag.hidesText then "" else event.ownText

-- The texts in a stream that lie in no image and in no block of code, markup or metadata.
def streamText (events : List Located) : String :=
  String.join ((scopes [] events).map shownText)

-- Blocks of code, markup or metadata hold text and markup only.
def RawBlocksPlain (events : List Located) : Prop :=
  ∀ p ∈ scopes [] events, p.1.any Tag.isRaw → p.2.isRawContent

section Scopes

theorem scopes_content (h : event.isContent) (opened : List Tag) (events : List Located) :
    scopes opened ((event, span) :: events) = (opened, event) :: scopes opened events := by
  cases event <;> simp_all [scopes, Event.isContent]

-- What the completion adds or drops is not in the scope of anything.
theorem scopes_completion (events : List Located) (spans : List Span) (opened : List Tag)
    (h : opened.length = spans.length) :
    scopes opened (completion spans events) = scopes opened events := by
  induction events generalizing spans opened
  case nil =>
    induction spans generalizing opened
    case nil => rfl
    case cons span spans ih => exact ih opened.tail (by simp [h])
  case cons e events ih =>
    have ⟨event, span⟩ := e
    by_cases hc : event.isContent
    case pos => rw [completion_content hc, scopes_content hc, scopes_content hc, ih spans opened h]
    case neg =>
      cases event <;> simp [Event.isContent] at hc
      case enter tag =>
        simp only [completion, scopes]
        rw [ih (span :: spans) (tag :: opened) (by simp [h])]
      case leave =>
        cases spans
        case nil =>
          have ho := List.length_eq_zero_iff.mp h
          subst ho
          exact ih [] [] rfl
        case cons spans => exact ih spans opened.tail (by simp [h])

mutual

def Item.scopes (opened : List Tag) : Item → List (List Tag × Event)
  | .content event _ _ => [(opened, event)]
  | .element tag _ items => (opened, .enter tag) :: scopesOf (tag :: opened) items

def scopesOf (opened : List Tag) : List Item → List (List Tag × Event)
  | [] => []
  | i :: is => i.scopes opened ++ scopesOf opened is

end

mutual

theorem scopes_events (opened : List Tag) (rest : List Located) : (i : Item) →
    scopes opened (i.events ++ rest) = i.scopes opened ++ scopes opened rest
  | .content event hc span => by simp [Item.events, Item.scopes, scopes_content hc]
  | .element tag span items => by
    simp [Item.events, Item.scopes, scopes, scopes_eventsOf (tag :: opened) _ items]

theorem scopes_eventsOf (opened : List Tag) (rest : List Located) : (is : List Item) →
    scopes opened (eventsOf is ++ rest) = scopesOf opened is ++ scopes opened rest
  | [] => rfl
  | i :: is => by
    simp [eventsOf, scopesOf, scopes_events opened _ i, scopes_eventsOf opened rest is]

end

-- The scopes of a stream follow the nesting of its balanced reading.
theorem scopes_eq_scopesOf (h : eventsOf items = completion [] events) :
    scopes [] events = scopesOf [] items := by
  have := scopes_eventsOf [] [] items
  rw [← scopes_completion events [] [] rfl, ← h]
  simpa [scopes] using this

mutual

theorem any_of_mem_scopes {q : Tag → Bool} (h : opened.any q) : (i : Item) →
    ∀ p ∈ i.scopes opened, p.1.any q
  | .content .. => by simpa [Item.scopes] using h
  | .element tag _ items => by
    have ht : (tag :: opened).any q := by rw [List.any_cons, h, Bool.or_true]
    rw [Item.scopes]
    exact List.forall_mem_cons.mpr ⟨h, any_of_mem_scopesOf ht items⟩

theorem any_of_mem_scopesOf {q : Tag → Bool} (h : opened.any q) : (is : List Item) →
    ∀ p ∈ scopesOf opened is, p.1.any q
  | [] => by simp [scopesOf]
  | i :: is => by
    simp only [scopesOf]
    exact List.forall_mem_append.mpr ⟨any_of_mem_scopes h i, any_of_mem_scopesOf h is⟩

end

-- Nothing is shown of what lies in an element that hides its text.
theorem join_shownText_of_hidden (h : opened.any Tag.hidesText) (items : List Item) :
    String.join ((scopesOf opened items).map shownText) = "" := by
  have hs : ∀ p ∈ scopesOf opened items, shownText p = "" := by
    intro p hp
    rw [shownText, if_pos (any_of_mem_scopesOf h items p hp)]
  rw [List.map_congr_left hs]
  generalize scopesOf opened items = ps
  induction ps <;> simp_all

end Scopes

namespace Portion

def textContent : Portion → String
  | text r => r.value
  | node n => n.textContent

end Portion

-- The text of some portions.
def textOfPortions (ps : List Portion) : String :=
  String.join (ps.map (·.textContent))

section Portions

variable {source : String} {chars : List Char}

@[simp]
theorem textOfPortions_nil : textOfPortions [] = "" :=
  rfl

@[simp]
theorem textOfPortions_cons (p : Portion) (ps : List Portion) :
    textOfPortions (p :: ps) = p.textContent ++ textOfPortions ps := by
  simp [textOfPortions]

@[simp]
theorem textOfPortions_append (ps qs : List Portion) :
    textOfPortions (ps ++ qs) = textOfPortions ps ++ textOfPortions qs := by
  simp [textOfPortions]

theorem foldl_join_value (rs : List TextRun) (r : TextRun) :
    (rs.foldl TextRun.join r).value = r.value ++ String.join (rs.map (·.value)) := by
  induction rs generalizing r
  case nil => simp
  case cons s rs ih => simp [ih, TextRun.join, String.append_assoc]

theorem textOfPortions_texts (ps : List Portion) : textOfPortions ps =
    String.join ((leadingTexts ps).map (·.value)) ++ textOfPortions (behindTexts ps) := by
  fun_induction behindTexts ps
  case case1 r ps ih =>
    simp [leadingTexts, Portion.textContent, ih, String.append_assoc]
  case case2 ps h =>
    have hn : leadingTexts ps = [] := by
      unfold leadingTexts
      split
      case h_1 => exact absurd rfl (h _ _)
      case h_2 => rfl
    simp [hn]

theorem textContent_textNode (r : TextRun) : (r.node chars).textContent = r.value := by
  simp [TextRun.node, Node.make, Kind.isParent, Node.textContent_eq, Node.ownText, Node.kind,
    Node.value, Node.payload, Node.children]

-- Joining texts to nodes loses nothing.
theorem textOf_gather (chars : List Char) (ps : List Portion) :
    textOf (gather chars ps) = textOfPortions ps := by
  fun_induction gather chars ps
  case case1 => rfl
  case case2 n ps ih => simp [ih, Portion.textContent]
  case case3 r ps ih =>
    have ht := textOfPortions_texts ps
    rw [textOf_cons, textContent_textNode, foldl_join_value, ih, String.append_assoc, ← ht,
      textOfPortions_cons, Portion.textContent]

theorem textOf_closeRun (run : List Node) : textOf (closeRun run) = textOf run := by
  unfold closeRun
  split
  case isTrue h => simp [List.isEmpty_iff.mp h]
  case isFalse => simp [paragraphOf, Node.textContent_eq, Node.ownText, Node.kind, Node.children]

theorem textOf_wrapFrom (run ns : List Node) :
    textOf (wrapFrom run ns) = textOf run ++ textOf ns := by
  fun_induction wrapFrom run ns
  case case1 => simp [textOf_closeRun]
  case case2 ih => simp [ih, String.append_assoc]
  case case3 ih => simp [ih, textOf_closeRun]

theorem Tag.children_of_isRaw (h : isRaw tag) (ps : List Portion) :
    tag.children chars ps = plainNodes ps := by
  cases tag <;> simp only [isRaw, Bool.false_eq_true] at h
  all_goals rfl

-- What hides its text and is not raw is an image.
theorem Tag.children_of_hidesText (h : hidesText tag) (hr : ¬isRaw tag) (ps : List Portion) :
    tag.children chars ps = [] := by
  cases tag <;> simp only [hidesText, isRaw, Bool.false_eq_true, not_true_eq_false] at h hr
  case image => rfl

theorem Tag.textOf_children (h : ¬hidesText tag) (chars : List Char) (ps : List Portion) :
    textOf (tag.children chars ps) = textOfPortions ps := by
  rw [← textOf_gather chars]
  cases tag <;> simp only [hidesText, not_true_eq_false] at h
  case item => simp [children, wrapPhrasing, textOf_wrapFrom]
  all_goals rfl

theorem textContent_elementNode (tag : Tag) (span : Span) (ps : List Portion) :
    (elementNode source chars tag span ps).textContent = textOf (tag.children chars ps) := by
  apply Node.textContent_make
  · cases tag
    case metadata style => cases style <;> simp [Tag.node]
    all_goals simp [Tag.node]
  · cases tag
    case metadata style => cases style <;> simp [Tag.node]
    all_goals simp [Tag.node]

theorem plainNodes_append (ps qs : List Portion) :
    plainNodes (ps ++ qs) = plainNodes ps ++ plainNodes qs := by
  simp [plainNodes]

theorem textOf_plainNodes_portion? {event : Event} (h : event.isRawContent) (markup : Bool)
    (span : Span) : textOf (plainNodes (event.portion? chars markup span).toList) = "" := by
  cases event <;> simp only [Event.isRawContent, Bool.false_eq_true] at h
  case text | softBreak => rfl
  case html value =>
    cases markup
    case true => rfl
    case false =>
      simp [Event.portion?, Event.portion?.leaf, plainNodes, Node.textContent_make]

-- A block of raw text that holds nothing else has no node with text in it.
theorem textOf_plainNodes_portionsOf (source : String) (chars : List Char) (markup : Bool)
    (items : List Item) (h : ∀ p ∈ scopesOf opened items, p.2.isRawContent) :
    textOf (plainNodes (portionsOf source chars markup items)) = "" := by
  induction items
  case nil => rfl
  case cons i is ih =>
    rw [scopesOf] at h
    have ⟨hi, his⟩ := List.forall_mem_append.mp h
    rw [portionsOf, plainNodes_append, textOf_append, ih his, String.append_empty]
    cases i
    case content event _ span =>
      exact textOf_plainNodes_portion? (by simpa [Item.scopes] using hi) markup span
    case element => simp [Item.scopes, Event.isRawContent] at hi

theorem textOfPortions_portion? {event : Event} (h : event.isContent) (span : Span) :
    textOfPortions (event.portion? chars false span).toList = event.ownText := by
  cases event <;> simp only [Event.isContent, Bool.false_eq_true] at h
  case code value =>
    simp [Event.portion?, Event.portion?.leaf, Portion.textContent, Event.ownText, Node.make,
      Kind.isParent, Node.textContent_eq, Node.ownText, Node.kind, Node.value, Node.payload,
      Node.children]
  all_goals
    simp [Event.portion?, Event.portion?.leaf, Portion.textContent, Event.ownText,
      Node.textContent_make]

mutual

-- Where nothing around it hides it, an item shows the texts of its events.
theorem textOfPortions_portions (hv : ¬opened.any Tag.hidesText) : (i : Item) →
    (∀ p ∈ i.scopes opened, p.1.any Tag.isRaw → p.2.isRawContent) →
    textOfPortions (i.portions source chars false) =
      String.join ((i.scopes opened).map shownText)
  | .content event hc span, _ => by
    simp [Item.portions, textOfPortions_portion? hc, Item.scopes, shownText, hv]
  | .element tag span items, hp => by
    have hi := (List.forall_mem_cons.mp hp).right
    have he : shownText (opened, .enter tag) = "" := by simp [shownText, Event.ownText]
    simp only [Item.portions, Item.scopes, textOfPortions_cons, Portion.textContent,
      textContent_elementNode, textOfPortions_nil, String.append_empty, List.map_cons,
      String.join_cons, he, String.empty_append]
    by_cases hr : tag.isRaw
    case pos =>
      have ho : (tag :: opened).any Tag.isRaw := by rw [List.any_cons, hr, Bool.true_or]
      have hh : (tag :: opened).any Tag.hidesText := by
        rw [List.any_cons, Tag.hidesText_of_isRaw hr, Bool.true_or]
      rw [join_shownText_of_hidden hh]
      rw [Tag.children_of_isRaw hr]
      have hraw : ∀ p ∈ scopesOf (tag :: opened) items, p.2.isRawContent :=
        fun p hm => hi p hm (any_of_mem_scopesOf ho items p hm)
      exact textOf_plainNodes_portionsOf source chars (tag = .html) items hraw
    case neg =>
      by_cases hh : tag.hidesText
      case pos =>
        have ho : (tag :: opened).any Tag.hidesText := by rw [List.any_cons, hh, Bool.true_or]
        rw [join_shownText_of_hidden ho, Tag.children_of_hidesText hh hr, textOf_nil]
      case neg =>
        have ho : ¬(tag :: opened).any Tag.hidesText := by
          rwa [List.any_cons, Bool.eq_false_iff.mpr hh, Bool.false_or]
        have hm : decide (tag = .html) = false := by
          simp only [decide_eq_false_iff_not]
          exact fun h => hr (h ▸ rfl)
        rw [Tag.textOf_children hh, hm, textOfPortions_portionsOf ho items hi]

theorem textOfPortions_portionsOf (hv : ¬opened.any Tag.hidesText) : (is : List Item) →
    (∀ p ∈ scopesOf opened is, p.1.any Tag.isRaw → p.2.isRawContent) →
    textOfPortions (portionsOf source chars false is) =
      String.join ((scopesOf opened is).map shownText)
  | [], _ => rfl
  | i :: is, hp => by
    rw [scopesOf] at hp
    have ⟨hi, his⟩ := List.forall_mem_append.mp hp
    simp [portionsOf, scopesOf, textOfPortions_portions hv i hi,
      textOfPortions_portionsOf hv is his]

end

end Portions

section Definitions

variable {source : String} {chars : List Char}

theorem textOf_filter (ns : List Node) :
    textOf (ns.filter (·.textContent ≠ "")) = textOf ns := by
  induction ns
  case nil => rfl
  case cons n ns ih =>
    by_cases h : n.textContent = ""
    case pos => simp_all
    case neg => simp_all

-- Nodes that show nothing can be put among others as long as these keep their order.
theorem textOf_of_sublist {ms ns es : List Node} (hs : ns.Sublist ms) (hp : ms.Perm (ns ++ es))
    (he : ∀ n ∈ es, n.textContent = "") : textOf ms = textOf ns := by
  have hn : es.filter (·.textContent ≠ "") = [] := by simpa [List.filter_eq_nil_iff] using he
  have hf := (hp.filter (·.textContent ≠ "")).length_eq
  rw [List.filter_append, hn, List.append_nil] at hf
  rw [← textOf_filter ms, ← textOf_filter ns, (hs.filter _).eq_of_length hf.symm]

theorem textContent_definitionNode (d : Definition) :
    (definitionNode source chars d).2.textContent = "" := by
  simp [definitionNode, Node.textContent_make]

-- Sorting leaves nodes alone whose order goes by their offsets already.
theorem sublist_mergeDefinitions {ms ns : List Node} (hs : ms.Sublist ns)
    (h : (ms.map startOffset).Pairwise (· ≤ ·)) (definitions : List Definition) :
    ms.Sublist (mergeDefinitions source chars ns definitions) := by
  unfold mergeDefinitions
  split
  case isTrue => exact hs
  case isFalse =>
    let tag := fun n : Node => (startOffset n, n)
    let defined := definitions.map (definitionNode source chars)
    let le := fun a b : Nat × Node => decide (a.1 ≤ b.1)
    have hsub : (ms.map tag).Sublist ((ns.map tag ++ defined).mergeSort le) := by
      apply List.sublist_mergeSort
      · simpa [le] using fun _ _ _ => Nat.le_trans
      · simpa [le] using Nat.le_total
      · simpa [tag, le, List.pairwise_map] using h
      · exact (hs.map tag).trans (List.sublist_append_left _ defined)
    simpa [tag, Function.comp_def] using hsub.map Prod.snd

theorem textOf_mergeDefinitions {ns : List Node} (h : (ns.map startOffset).Pairwise (· ≤ ·))
    (definitions : List Definition) :
    textOf (mergeDefinitions source chars ns definitions) = textOf ns := by
  refine textOf_of_sublist (sublist_mergeDefinitions (.refl ns) h definitions)
    (mergeDefinitions_perm source chars ns definitions) ?_
  simp only [List.forall_mem_map]
  exact fun d _ => textContent_definitionNode d

end Definitions

section Document

variable {source : String} {chars : List Char}

theorem textContent_document (front : Option Span) (definitions : List Definition)
    (hs : ((topNodes source chars front items).map startOffset).Pairwise (· ≤ ·))
    (hp : ∀ p ∈ scopesOf [] items, p.1.any Tag.isRaw → p.2.isRawContent) :
    (document source chars front definitions items).textContent =
      String.join ((scopesOf [] items).map shownText) := by
  have hf : textOf (front.toList.map (frontNode source chars)) = "" := by
    cases front <;> simp [frontNode, Node.textContent_make]
  rw [document, Node.textContent_make (by simp) (by simp), textOf_mergeDefinitions hs, topNodes,
    textOf_append, hf, textOf_gather, textOfPortions_portionsOf (by simp) items hp,
    String.empty_append]

-- Every stream of events is completed to a balanced one in one way, and its tree is that of the
-- elements of the balanced stream. If raw blocks hold nothing else and the nodes at the top stand
-- in the order of their offsets, its text is that of the events.
theorem treeOf_nesting (source : String) (chars : List Char) (front : Option Span) (s : Stream) :
    ∃ items, eventsOf items = completion [] s.events ∧
      (∀ others, eventsOf others = completion [] s.events → others = items) ∧
      treeOf source chars front s = document source chars front s.definitions items ∧
      (RawBlocksPlain s.events →
        ((topNodes source chars front items).map startOffset).Pairwise (· ≤ ·) →
        (treeOf source chars front s).textContent = streamText s.events) := by
  have ⟨items, h⟩ := exists_eventsOf_eq_completion s.events
  have he := treeOf_eq_document source chars front s h
  refine ⟨items, h, fun others ho => eventsOf_injective (ho.trans h.symm), he, ?_⟩
  intro hp hs
  rw [RawBlocksPlain, scopes_eq_scopesOf h] at hp
  rw [he, streamText, scopes_eq_scopesOf h, textContent_document front s.definitions hs hp]

-- A stream that closes what is not open, and leaves a list, its item and a block of code open.
theorem treeOf_nesting_of_unbalanced :
    let source := "a\nb\n\n- c`d`![e](f)\n\n      g\n[h]: i\n"
    let s : Stream := ⟨[(.leave, ⟨0, 0⟩), (.enter .paragraph, ⟨0, 4⟩), (.text "a", ⟨0, 1⟩),
      (.softBreak, ⟨1, 2⟩), (.text "b", ⟨2, 3⟩), (.leave, ⟨0, 4⟩), (.leave, ⟨0, 4⟩),
      (.enter (.list none), ⟨5, 29⟩), (.enter .item, ⟨5, 29⟩), (.text "c", ⟨7, 8⟩),
      (.code "d", ⟨8, 11⟩), (.enter (.image "f" ""), ⟨11, 18⟩), (.text "e", ⟨13, 14⟩),
      (.leave, ⟨11, 18⟩), (.enter (.code none), ⟨26, 28⟩), (.text "g\n", ⟨26, 28⟩)],
      [⟨"h", "i", none, (28, 34)⟩]⟩
    let items : List Item := [.element .paragraph ⟨0, 4⟩ [.content (.text "a") rfl ⟨0, 1⟩,
        .content .softBreak rfl ⟨1, 2⟩, .content (.text "b") rfl ⟨2, 3⟩],
      .element (.list none) ⟨5, 29⟩ [.element .item ⟨5, 29⟩ [.content (.text "c") rfl ⟨7, 8⟩,
        .content (.code "d") rfl ⟨8, 11⟩,
        .element (.image "f" "") ⟨11, 18⟩ [.content (.text "e") rfl ⟨13, 14⟩],
        .element (.code none) ⟨26, 28⟩ [.content (.text "g\n") rfl ⟨26, 28⟩]]]]
    RawBlocksPlain s.events ∧ eventsOf items = completion [] s.events ∧
      ((topNodes source source.toList none items).map startOffset).Pairwise (· ≤ ·) ∧
      treeOf source source.toList none s =
        document source source.toList none s.definitions items ∧
      (treeOf source source.toList none s).textContent = "a\nbcd" := by
  intro source s items
  have hp : RawBlocksPlain s.events := by
    subst s
    simp [RawBlocksPlain, scopes, Tag.isRaw, Event.isRawContent]
  have hi : eventsOf items = completion [] s.events := by
    subst s items
    rfl
  have hs : ((topNodes source source.toList none items).map startOffset).Pairwise (· ≤ ·) := by
    have : (topNodes source source.toList none items).map startOffset = [0, 5] := by
      subst source items
      decide +kernel
    rw [this]
    decide
  have ht : streamText s.events = "a\nbcd" := by
    subst s
    rfl
  obtain ⟨items', _, hu, he, htext⟩ := treeOf_nesting source source.toList none s
  have hii := hu items hi
  subst hii
  exact ⟨hp, hi, hs, he, ht ▸ htext hp hs⟩

end Document
end Markdown
end ProposalLint
