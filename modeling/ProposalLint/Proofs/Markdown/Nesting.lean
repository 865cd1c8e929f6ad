import ProposalLint.Markdown.Tree
import ProposalLint.Proofs.Markdown.Forest

namespace ProposalLint.Markdown

-- What an item is for the element around it: text that still has to be joined to its neighbours, or
-- a node.
inductive Portion where
  | text (run : TextRun)
  | node (node : Node)

namespace TextRun

-- Two texts in a row, as one that reaches from the start of the first to the end of the second.
def join (r s : TextRun) : TextRun :=
  ⟨r.value ++ s.value, ⟨r.span.start, s.span.stop⟩⟩

def node (chars : List Char) (r : TextRun) : Node :=
  .make .text (some (Position.locate chars r.span)) (.literal r.value) []

end TextRun

-- The texts that portions begin with.
def leadingTexts : List Portion → List TextRun
  | .text r :: ps => r :: leadingTexts ps
  | _ => []

-- What stands behind them.
def behindTexts : List Portion → List Portion
  | .text _ :: ps => behindTexts ps
  | ps => ps

theorem length_behindTexts_le (ps : List Portion) : (behindTexts ps).length ≤ ps.length := by
  fun_induction behindTexts ps
  case case1 ih => exact Nat.le_succ_of_le ih
  case case2 => exact Nat.le_refl _

-- One node for each longest run of texts, and the other nodes as they are.
def gather (chars : List Char) : List Portion → List Node
  | [] => []
  | .node n :: ps => n :: gather chars ps
  | .text r :: ps =>
    ((leadingTexts ps).foldl TextRun.join r).node chars :: gather chars (behindTexts ps)
termination_by ps => ps.length
decreasing_by
  · simp
  · exact Nat.lt_succ_of_le (length_behindTexts_le ps)

-- The text of a block whose content is not marked up.
def rawText (ps : List Portion) : String :=
  String.join <| ps.filterMap fun
    | .text r => some r.value
    | .node _ => none

-- The nodes among some portions.
def plainNodes (ps : List Portion) : List Node :=
  ps.filterMap fun
    | .text _ => none
    | .node n => some n

namespace Tag

-- Blocks whose content is not marked up.
def isRaw : Tag → Bool
  | code _ | html | metadata _ => true
  | _ => false

def finalPayload (tag : Tag) (ps : List Portion) : Payload :=
  match tag with
  | code info => .code (info.bind Text.firstWord?) (stripNewline (rawText ps))
  | html | metadata _ => .literal (stripNewline (rawText ps))
  | tag => tag.node.2

def children (chars : List Char) (tag : Tag) (ps : List Portion) : List Node :=
  match tag with
  | code _ | html | metadata _ => plainNodes ps
  | image .. => []
  | item => wrapPhrasing (gather chars ps)
  | _ => gather chars ps

end Tag

section
variable (source : String) (chars : List Char)

-- What an event is in an element. In a block of markup also markup is text.
def Event.portion? (markup : Bool) (span : Span) : Event → Option Portion
  | text value => some (.text ⟨value, span⟩)
  | softBreak => some (.text ⟨"\n", span⟩)
  | html value => if markup then some (.text ⟨value, span⟩) else leaf .html (.literal value)
  | code value => leaf .inlineCode (.literal value)
  | hardBreak => leaf .break .none
  | thematicBreak => leaf .thematicBreak .none
  | footnoteReference label => leaf .footnoteReference (.footnote label)
  | taskMark | enter _ | leave => none
where
  leaf (kind : Kind) (payload : Payload) : Option Portion :=
    some (.node (.make kind (some (Position.locate chars span)) payload []))

-- The node of an element with the given content.
def elementNode (tag : Tag) (span : Span) (ps : List Portion) : Node :=
  .make tag.node.1 (some (Position.locate chars (trimSpan source span))) (tag.finalPayload ps)
    (tag.children chars ps)

mutual

def Item.portions (markup : Bool) : Item → List Portion
  | .content event _ span => (event.portion? chars markup span).toList
  | .element tag span items =>
    [.node (elementNode source chars tag span (portionsOf (tag = .html) items))]

-- The portions of the content of an element, in its order.
def portionsOf (markup : Bool) : List Item → List Portion
  | [] => []
  | i :: is => i.portions markup ++ portionsOf markup is

end

def frontNode (span : Span) : Node :=
  .make .yaml (some (Position.locate chars (trimSpan source span))) (.literal "") []

-- The nodes at the top of a document: a metadata block of nothing, if there is one, and the
-- content.
def topNodes (front : Option Span) (items : List Item) : List Node :=
  front.toList.map (frontNode source chars) ++ gather chars (portionsOf source chars false items)

-- The document that has some content, with definitions put in between.
def document (front : Option Span) (definitions : List Definition) (items : List Item) : Node :=
  .make .root (some (Position.locate chars ⟨0, source.utf8ByteSize⟩)) .none
    (mergeDefinitions source chars (topNodes source chars front items) definitions)

end

section Gather

variable {chars : List Char}

theorem gather_join (r s : TextRun) (ps : List Portion) :
    gather chars (.text r :: .text s :: ps) = gather chars (.text (r.join s) :: ps) := by
  simp only [gather, leadingTexts, behindTexts, List.foldl_cons]

theorem gather_text_node (r : TextRun) (n : Node) (ps : List Portion) :
    gather chars (.text r :: .node n :: ps) = r.node chars :: n :: gather chars ps := by
  simp [gather, leadingTexts, behindTexts]

theorem gather_text (r : TextRun) : gather chars [.text r] = [r.node chars] := by
  simp [gather, leadingTexts, behindTexts]

end Gather

namespace Frame

variable {source : String} {chars : List Char} {f : Frame}

-- The frame of an element after one more portion of its content.
def push (chars : List Char) (f : Frame) : Portion → Frame
  | .text r => f.pushText r.value r.span
  | .node n => f.pushNode chars n

def pushAll (chars : List Char) (f : Frame) (ps : List Portion) : Frame :=
  ps.foldl (push chars) f

-- A text that is not a node yet.
def pending (f : Frame) : List Portion :=
  f.text.toList.map .text

-- Whether markup is text for the frame.
def isRawHtml (f : Frame) : Bool :=
  f.literal.isSome && f.kind = .html

-- What content does not change of a frame.
structure Alike (f g : Frame) : Prop where
  kind    : g.kind = f.kind
  payload : g.payload = f.payload
  span    : g.span = f.span
  literal : g.literal.isSome = f.literal.isSome

namespace Alike

theorem refl (f : Frame) : Alike f f :=
  ⟨rfl, rfl, rfl, rfl⟩

theorem trans (h₁ : Alike f g) (h₂ : Alike g h) : Alike f h where
  kind := h₂.kind.trans h₁.kind
  payload := h₂.payload.trans h₁.payload
  span := h₂.span.trans h₁.span
  literal := h₂.literal.trans h₁.literal

theorem isRawHtml (h : Alike f g) : g.isRawHtml = f.isRawHtml := by
  simp [Frame.isRawHtml, h.kind, h.literal]

end Alike

theorem flush_alike (f : Frame) (chars : List Char) : Alike f (f.flush chars) := by
  unfold flush
  split <;> exact ⟨rfl, rfl, rfl, rfl⟩

theorem push_alike (f : Frame) (chars : List Char) (p : Portion) : Alike f (f.push chars p) := by
  cases p
  case text r =>
    simp only [push, pushText]
    split
    case h_1 h => exact ⟨rfl, rfl, rfl, by simp [h]⟩
    case h_2 => split <;> exact ⟨rfl, rfl, rfl, rfl⟩
  case node n =>
    have ⟨hk, hp, hs, hl⟩ := f.flush_alike chars
    exact ⟨hk, hp, hs, hl⟩

theorem pushAll_alike (f : Frame) (chars : List Char) (ps : List Portion) :
    Alike f (f.pushAll chars ps) := by
  induction ps generalizing f
  case nil => exact .refl f
  case cons p ps ih => exact (f.push_alike chars p).trans (ih (f.push chars p))

-- Outside of blocks of raw text, the children and the pending text stand for the portions so far.
theorem flush_pushAll_children (h : f.literal = none) (chars : List Char) (ps : List Portion) :
    ((f.pushAll chars ps).flush chars).children = f.children ++ gather chars (f.pending ++ ps) := by
  induction ps generalizing f
  case nil =>
    cases ht : f.text
    case none => simp [pushAll, flush, pending, ht, gather]
    case some r => simp [pushAll, flush, pending, ht, gather_text, TextRun.node]
  case cons p ps ih =>
    have hl : (f.push chars p).literal = none := by
      simpa [h] using (f.push_alike chars p).literal
    rw [pushAll, List.foldl_cons, ← pushAll, ih hl]
    cases p
    case text s =>
      cases ht : f.text
      case none => simp [push, pushText, h, ht, pending]
      case some r =>
        simp only [push, pushText, h, ht, pending, Option.toList_some, List.map_cons, List.map_nil,
          List.cons_append, List.nil_append, gather_join]
        rfl
    case node n =>
      cases ht : f.text
      case none => simp [push, pushNode, flush, ht, pending, gather]
      case some r => simp [push, pushNode, flush, ht, pending, gather_text_node, TextRun.node]

-- In a block of raw text, texts are never pending.
theorem pushAll_of_literal (h : f.literal = some value) (ht : f.text = none) (chars : List Char)
    (ps : List Portion) :
    (f.pushAll chars ps).text = none ∧
      (f.pushAll chars ps).literal = some (value ++ rawText ps) ∧
      (f.pushAll chars ps).children = f.children ++ plainNodes ps := by
  induction ps generalizing f value
  case nil => simp [pushAll, h, ht, rawText, plainNodes]
  case cons p ps ih =>
    rw [pushAll, List.foldl_cons, ← pushAll]
    cases p
    case text r =>
      have hp : f.push chars (.text r) = { f with literal := some (value ++ r.value) } := by
        simp [push, pushText, h]
      rw [hp]
      have ⟨h₁, h₂, h₃⟩ := ih (f := { f with literal := some (value ++ r.value) }) rfl ht
      exact ⟨h₁, by simpa [rawText, String.append_assoc] using h₂, by simpa [plainNodes] using h₃⟩
    case node n =>
      have hp : f.push chars (.node n) = { f with children := f.children ++ [n] } := by
        simp [push, pushNode, flush, ht]
      rw [hp]
      have ⟨h₁, h₂, h₃⟩ := ih (f := { f with children := f.children ++ [n] }) h ht
      exact ⟨h₁, by simpa [rawText] using h₂, by simpa [plainNodes] using h₃⟩

theorem ofTag_literal (tag : Tag) (span : Span) :
    (ofTag tag span).literal = if tag.isRaw then some "" else none := by
  cases tag
  case metadata style => cases style <;> rfl
  all_goals rfl

theorem ofTag_isRawHtml (tag : Tag) (span : Span) :
    (ofTag tag span).isRawHtml = decide (tag = .html) := by
  cases tag
  case metadata style => cases style <;> rfl
  all_goals rfl

theorem flush_text (f : Frame) (chars : List Char) : (f.flush chars).text = none := by
  unfold flush
  split
  case h_1 => rfl
  case h_2 h => exact h

theorem flush_of_text_eq_none (h : f.text = none) : f.flush chars = f := by
  simp [flush, h]

theorem finish_of_isRaw (hr : tag.isRaw) (span : Span) (ps : List Portion) :
    ((ofTag tag span).pushAll chars ps).finish source chars =
      elementNode source chars tag span ps := by
  have hl : (ofTag tag span).literal = some "" := by simp [ofTag_literal, hr]
  have ha := (ofTag tag span).pushAll_alike chars ps
  have ⟨ht, hv, hc⟩ := pushAll_of_literal hl rfl chars ps
  simp only [finish, flush_of_text_eq_none ht, finalPayload, ha.kind, ha.payload, ha.span, hv, hc,
    elementNode]
  cases tag <;> simp only [Tag.isRaw, Bool.false_eq_true] at hr
  case metadata style =>
    cases style <;> simp [ofTag, ofKind, Tag.node, Tag.finalPayload, Tag.children]
  all_goals simp [ofTag, ofKind, Tag.node, Tag.finalPayload, Tag.children]

theorem finish_of_not_isRaw (hr : ¬tag.isRaw) (span : Span) (ps : List Portion) :
    ((ofTag tag span).pushAll chars ps).finish source chars =
      elementNode source chars tag span ps := by
  have hl : (ofTag tag span).literal = none := by simp [ofTag_literal, hr]
  have ha := ((ofTag tag span).pushAll_alike chars ps).trans
    (flush_alike _ chars)
  have hv : (flush chars ((ofTag tag span).pushAll chars ps)).literal = none := by
    simpa [hl] using ha.literal
  have hc := flush_pushAll_children hl chars ps
  simp only [finish, finalPayload, ha.kind, ha.payload, ha.span, hv, hc, elementNode]
  cases tag <;> simp only [Tag.isRaw, not_true_eq_false] at hr
  all_goals simp [ofTag, ofKind, pending, Tag.node, Tag.finalPayload, Tag.children]

-- Once its content is complete, an element becomes the node that its content makes.
theorem finish_pushAll (tag : Tag) (span : Span) (ps : List Portion) :
    ((ofTag tag span).pushAll chars ps).finish source chars =
      elementNode source chars tag span ps := by
  by_cases hr : tag.isRaw
  case pos => exact finish_of_isRaw hr span ps
  case neg => exact finish_of_not_isRaw hr span ps

end Frame

section Simulation

variable {source : String} {chars : List Char}

theorem inHtmlBlock_cons (top : Frame) (rest : List Frame) :
    inHtmlBlock (top :: rest) = top.isRawHtml :=
  rfl

theorem handle_content (h : event.isContent) (span : Span) (top : Frame) (rest : List Frame) :
    handle source chars (top :: rest) (event, span) =
      top.pushAll chars (event.portion? chars top.isRawHtml span).toList :: rest := by
  cases event <;> simp only [Event.isContent, Bool.false_eq_true] at h
  case html value =>
    rw [handle, inHtmlBlock_cons]
    cases top.isRawHtml
    case true => rfl
    case false => rfl
  all_goals rfl

mutual

-- An item leaves the stack as it is, but for the innermost frame, which gets its portions.
theorem foldl_handle_events (top : Frame) (rest : List Frame) : (i : Item) →
    i.events.foldl (handle source chars) (top :: rest) =
      top.pushAll chars (i.portions source chars top.isRawHtml) :: rest
  | .content event hc span => by
    simpa [Item.events, Item.portions] using handle_content hc span top rest
  | .element tag span items => by
    have hi := foldl_handle_eventsOf (Frame.ofTag tag span) (top :: rest) items
    simp only [Item.events, List.cons_append, List.foldl_cons, List.foldl_append, handle, hi,
      List.foldl_nil, pop, Frame.ofTag_isRawHtml, Frame.finish_pushAll, Item.portions]
    rfl

theorem foldl_handle_eventsOf (top : Frame) (rest : List Frame) : (items : List Item) →
    (eventsOf items).foldl (handle source chars) (top :: rest) =
      top.pushAll chars (portionsOf source chars top.isRawHtml items) :: rest
  | [] => rfl
  | i :: is => by
    have ha := top.pushAll_alike chars (i.portions source chars top.isRawHtml)
    rw [eventsOf, List.foldl_append, foldl_handle_events top rest i,
      foldl_handle_eventsOf _ rest is, ha.isRawHtml, portionsOf, Frame.pushAll, Frame.pushAll,
        Frame.pushAll, List.foldl_append]

end

theorem length_handle_content (h : event.isContent) (span : Span) (stack : List Frame) :
    (handle source chars stack (event, span)).length = stack.length := by
  cases stack
  case nil => cases event <;> simp_all [handle, Event.isContent, pushLeaf, pushValue, inHtmlBlock]
  case cons top rest => simp [handle_content h]

-- The ends that the completion adds are what the folding of the stack does.
theorem foldl_handle_completion (source : String) (chars : List Char) (events : List Located)
    (opened : List Span) (stack : List Frame) (h : stack.length = opened.length + 1) :
    (completion opened events).foldl (handle source chars) stack =
      [fold source chars (events.foldl (handle source chars) stack)] := by
  induction events generalizing opened stack
  case nil =>
    induction opened generalizing stack
    case nil =>
      obtain ⟨root, hr⟩ := List.length_eq_one_iff.mp h
      simp [hr, completion, fold]
    case cons span opened ih =>
      obtain ⟨top, rest, rfl⟩ := List.exists_cons_of_length_eq_add_one h
      obtain ⟨parent, rest, rfl⟩ := List.exists_cons_of_length_eq_add_one (Nat.succ.inj h)
      have := ih (parent.pushNode chars (top.finish source chars) :: rest) (by simpa using h)
      simpa [completion, handle, pop, fold] using this
  case cons e events ih =>
    obtain ⟨event, span⟩ := e
    by_cases hc : event.isContent
    case pos =>
      rw [completion_content hc, List.foldl_cons, List.foldl_cons]
      exact ih _ _ ((length_handle_content hc span stack).trans h)
    case neg =>
      cases event <;> simp [Event.isContent] at hc
      case enter tag => exact ih (span :: opened) _ (by simpa [handle] using h)
      case leave =>
        cases opened
        case nil =>
          obtain ⟨root, hr⟩ := List.length_eq_one_iff.mp h
          subst hr
          exact ih [] [root] h
        case cons opened =>
          obtain ⟨top, rest, rfl⟩ := List.exists_cons_of_length_eq_add_one h
          obtain ⟨parent, rest, rfl⟩ := List.exists_cons_of_length_eq_add_one (Nat.succ.inj h)
          exact ih opened _ (by simpa [handle, pop] using h)

variable (source : String) (chars : List Char) {events : List Located} {items : List Item}

-- Whatever is read, the root ends up with the blocks of the balanced stream.
theorem rootFrame_eq (h : eventsOf items = completion [] events) :
    rootFrame source chars events = (((Frame.ofKind .root .none ⟨0, source.utf8ByteSize⟩).pushAll
      chars (portionsOf source chars false items)).flush chars) := by
  have hs := foldl_handle_completion source chars events []
    [Frame.ofKind .root .none ⟨0, source.utf8ByteSize⟩] rfl
  rw [← h, foldl_handle_eventsOf] at hs
  rw [rootFrame, ← List.singleton_inj.mp hs]
  rfl

theorem rootFrame_children (h : eventsOf items = completion [] events) :
    (rootFrame source chars events).children =
      gather chars (portionsOf source chars false items) := by
  rw [rootFrame_eq source chars h, Frame.flush_pushAll_children rfl]
  rfl

theorem treeOf_eq_document (front : Option Span) (s : Stream)
    (h : eventsOf items = completion [] s.events) :
    treeOf source chars front s = document source chars front s.definitions items := by
  have hr := rootFrame_eq source chars h
  have hc := rootFrame_children source chars h
  have ha := ((Frame.ofKind .root .none ⟨0, source.utf8ByteSize⟩).pushAll_alike chars
    (portionsOf source chars false items)).trans (Frame.flush_alike _ chars)
  have ht := ((Frame.ofKind .root .none ⟨0, source.utf8ByteSize⟩).pushAll chars
    (portionsOf source chars false items)).flush_text chars
  rw [← hr] at ha ht
  have hl : (rootFrame source chars s.events).literal = none := by
    simpa [Frame.ofKind, isLiteral] using ha.literal
  simp only [treeOf, Frame.finish, Frame.flush, ht, ha.kind, ha.span, Frame.finalPayload,
    ha.payload, hl, document]
  cases front
  all_goals simp [hc, Frame.ofKind, topNodes, frontNode]

end Simulation
end ProposalLint.Markdown
