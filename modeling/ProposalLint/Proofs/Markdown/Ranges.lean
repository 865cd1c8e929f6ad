import ProposalLint.Proofs.Markdown.Definitions

namespace ProposalLint

-- Two points of a text in their order, by their offsets and for a reader.
def Point.NotAfter (p q : Point) : Prop :=
  ∃ a b, p.offset = some a ∧ q.offset = some b ∧ a ≤ b ∧ ¬q.Before p

theorem Point.offset_locate (h : o ≤ utf8Length chars) : (locate chars o).offset = some o := by
  simp [locate, h]

theorem Point.not_before_self (p : Point) : ¬p.Before p := by
  simp [Before]

theorem Point.Before.asymm {p q : Point} (h : p.Before q) : ¬q.Before p := by
  simp only [Before] at h ⊢
  omega

theorem Point.locate_notAfter (ha : IsBoundary chars a) (hb : IsBoundary chars b) (h : a ≤ b) :
    (locate chars a).NotAfter (locate chars b) := by
  refine ⟨a, b, offset_locate ha.le, offset_locate hb.le, h, ?_⟩
  cases Nat.lt_or_eq_of_le h
  case inl h => exact (locate_before ha hb h).asymm
  case inr h => exact h ▸ not_before_self _

namespace Node

-- The place of a node is in a text of the given size, and starts no later than it ends.
def Forward (size : Nat) (n : Node) : Prop :=
  ∃ p stop, n.position = some p ∧ p.start.NotAfter p.stop ∧ p.stop.offset = some stop ∧ stop ≤ size

-- The first node ends no later than the second one starts.
def Precedes (m n : Node) : Prop :=
  ∃ p q, m.position = some p ∧ n.position = some q ∧ p.stop.NotAfter q.start

-- A node, all nodes below it and the order of their children.
def Orderly (size : Nat) (n : Node) : Prop :=
  ∀ m ∈ n.preorder, m.Forward size ∧ m.children.Pairwise Precedes

theorem orderly_iff {size : Nat} {n : Node} : n.Orderly size ↔
    (n.Forward size ∧ n.children.Pairwise Precedes) ∧ ∀ c ∈ n.children, c.Orderly size :=
  forall_mem_preorder

-- The node has its place over a range of the text.
structure Over (chars : List Char) (span : Span) (n : Node) : Prop where
  position : n.position = some (Position.locate chars span)
  whole    : span.Whole chars

variable {chars : List Char} {m n : Node} {s t : Span}

theorem Over.forward (h : Over chars s n) : n.Forward (utf8Length chars) :=
  ⟨_, s.stop, h.position, Point.locate_notAfter h.whole.start h.whole.stop h.whole.le,
    Point.offset_locate h.whole.stop.le, h.whole.stop.le⟩

theorem Over.precedes (hm : Over chars s m) (hn : Over chars t n) (h : s.stop ≤ t.start) :
    m.Precedes n :=
  ⟨_, _, hm.position, hn.position, Point.locate_notAfter hm.whole.stop hn.whole.start h⟩

theorem Over.startOffset (h : Over chars s n) : Markdown.startOffset n = s.start := by
  simp [Markdown.startOffset, h.position, Position.locate, Point.offset_locate h.whole.start.le]

theorem over_make (h : s.Whole chars) (k : Kind) (d : Payload) (cs : List Node) :
    Over chars s (make k (some (Position.locate chars s)) d cs) :=
  ⟨position_make, h⟩

-- Trees in a row between two offsets.
inductive InRow (chars : List Char) : Nat → Nat → List Node → Prop
  | nil {lo hi : Nat} : lo ≤ hi → InRow chars lo hi []
  | cons {lo hi : Nat} {span : Span} {n : Node} {ns : List Node} :
      Over chars span n → n.Orderly (utf8Length chars) → lo ≤ span.start →
      InRow chars span.stop hi ns → InRow chars lo hi (n :: ns)

namespace InRow

variable {lo mid hi : Nat} {ms ns : List Node}

theorem le (h : InRow chars lo hi ns) : lo ≤ hi := by
  induction h
  case nil h => exact h
  case cons ho _ hs _ ih => exact (hs.trans ho.whole.le).trans ih

theorem mono_right (h : InRow chars lo mid ns) (hm : mid ≤ hi) : InRow chars lo hi ns := by
  induction h
  case nil h => exact .nil (h.trans hm)
  case cons ho hn hs _ ih => exact .cons ho hn hs (ih hm)

theorem mono_left (h : InRow chars mid hi ns) (hl : lo ≤ mid) : InRow chars lo hi ns := by
  cases h
  case nil h => exact .nil (hl.trans h)
  case cons ho hn hs hr => exact .cons ho hn (hl.trans hs) hr

theorem append (hm : InRow chars lo mid ms) :
    InRow chars mid hi ns → InRow chars lo hi (ms ++ ns) := by
  induction hm
  case nil h => exact fun hn => hn.mono_left h
  case cons ho hd hs _ ih => exact fun hn => .cons ho hd hs (ih hn)

theorem exists_of_append (h : InRow chars lo hi (ms ++ ns)) :
    ∃ mid, InRow chars lo mid ms ∧ InRow chars mid hi ns := by
  induction ms generalizing lo
  case nil => exact ⟨lo, .nil (Nat.le_refl lo), h⟩
  case cons m ms ih =>
    obtain _ | ⟨ho, hd, hs, hr⟩ := h
    have ⟨mid, hm, hn⟩ := ih hr
    exact ⟨mid, .cons ho hd hs hm, hn⟩

theorem single (ho : Over chars s n) (hn : n.Orderly (utf8Length chars)) :
    InRow chars s.start s.stop [n] :=
  .cons ho hn (Nat.le_refl _) (.nil (Nat.le_refl _))

theorem orderly (h : InRow chars lo hi ns) : ∀ n ∈ ns, n.Orderly (utf8Length chars) := by
  induction h
  case nil => simp
  case cons hn _ _ ih => exact List.forall_mem_cons.mpr ⟨hn, ih⟩

-- Everything in a row has its place behind the start of the row.
theorem spans (h : InRow chars lo hi ns) : ∀ n ∈ ns, ∃ span, Over chars span n ∧ lo ≤ span.start := by
  induction h
  case nil => simp
  case cons lo hi span n ns ho _ hs _ ih =>
    refine List.forall_mem_cons.mpr ⟨⟨span, ho, hs⟩, fun n hn => ?_⟩
    have ⟨t, ht, hst⟩ := ih n hn
    exact ⟨t, ht, (hs.trans ho.whole.le).trans hst⟩

theorem precedes (h : InRow chars lo hi ns) : ns.Pairwise Precedes := by
  induction h
  case nil => exact .nil
  case cons ho _ _ hr ih =>
    refine List.pairwise_cons.mpr ⟨fun n hn => ?_, ih⟩
    have ⟨_, ht, hst⟩ := hr.spans n hn
    exact ho.precedes ht hst

theorem startOffsets (h : InRow chars lo hi ns) : (ns.map Markdown.startOffset).Pairwise (· ≤ ·) := by
  induction h
  case nil => exact .nil
  case cons ho _ _ hr ih =>
    refine List.pairwise_cons.mpr ⟨List.forall_mem_map.mpr fun n hn => ?_, ih⟩
    have ⟨_, ht, hst⟩ := hr.spans n hn
    rw [ho.startOffset, ht.startOffset]
    exact ho.whole.le.trans hst

-- A row that is not empty reaches from the start of its first node to the end of its last one.
theorem exists_ends (h : InRow chars lo hi ns) (hn : ns ≠ []) : ∃ start stop,
    lo ≤ start ∧ start ≤ stop ∧ stop ≤ hi ∧ IsBoundary chars start ∧ IsBoundary chars stop ∧
      (ns.head?.bind position).map Position.start = some (Point.locate chars start) ∧
      (ns.getLast?.bind position).map Position.stop = some (Point.locate chars stop) := by
  induction h
  case nil => exact absurd rfl hn
  case cons lo hi span n ns ho _ hs hr ih =>
    by_cases he : ns = []
    case pos =>
      subst he
      refine ⟨span.start, span.stop, hs, ho.whole.le, hr.le, ho.whole.start, ho.whole.stop, ?_, ?_⟩
      · simp [ho.position, Position.locate]
      · simp [ho.position, Position.locate]
    case neg =>
      obtain ⟨start, stop, hst, hle, hhi, _, hb, _, hl⟩ := ih he
      refine ⟨span.start, stop, hs, (ho.whole.le.trans hst).trans hle, hhi, ho.whole.start, hb, ?_, ?_⟩
      · simp [ho.position, Position.locate]
      · rwa [List.getLast?_cons_of_ne_nil he]

end InRow

-- A node over a row of trees.
theorem Over.orderly (ho : Over chars s n) (hr : InRow chars lo hi n.children) :
    n.Orderly (utf8Length chars) :=
  orderly_iff.mpr ⟨⟨ho.forward, hr.precedes⟩, hr.orderly⟩

theorem make_nil_orderly (h : s.Whole chars) (k : Kind) (d : Payload) :
    (make k (some (Position.locate chars s)) d []).Orderly (utf8Length chars) := by
  have hr : InRow chars 0 0 (make k (some (Position.locate chars s)) d []).children := by
    rw [children_make]
    exact .nil (Nat.le_refl 0)
  exact (over_make h k d []).orderly hr

end Node

namespace Markdown

open Node

variable {source : String} {chars : List Char}

section Wrap

variable {run ns : List Node} {lo hi : Nat}

theorem closeRun_row (h : InRow chars lo hi run) : InRow chars lo hi (closeRun run) := by
  unfold closeRun
  split
  case isTrue => exact .nil h.le
  case isFalse hn =>
    have ⟨start, stop, hs, hle, he, hbs, hbe, hfirst, hlast⟩ := h.exists_ends (by simpa using hn)
    have ho : Over chars ⟨start, stop⟩ (paragraphOf run) := by
      refine ⟨?_, hbs, hbe, hle⟩
      rw [paragraphOf, hfirst, hlast]
      rfl
    exact .cons ho (ho.orderly h) hs (.nil he)

-- The paragraphs of a list item take the places of what they hold.
theorem wrapFrom_row (h : InRow chars lo hi (run ++ ns)) : InRow chars lo hi (wrapFrom run ns) := by
  fun_induction wrapFrom run ns generalizing lo
  case case1 => exact closeRun_row (by simpa using h)
  case case2 ih => exact ih (by simpa using h)
  case case3 run n ns _ ih =>
    obtain ⟨mid, hr, hns⟩ := h.exists_of_append
    obtain _ | ⟨ho, hn, hs, ht⟩ := hns
    exact (closeRun_row hr).append (.cons ho hn hs (ih ht))

end Wrap

namespace Frame

variable {f : Frame} {upTo later : Nat} {span : Span} {n : Node}

-- The content of a frame up to an offset: its children in a row, and behind them a pending text.
structure Filled (chars : List Char) (upTo : Nat) (f : Frame) : Prop where
  span    : f.span.Whole chars
  content : ∃ mid ≤ upTo, InRow chars f.span.start mid f.children ∧
    ∀ run ∈ f.text, run.span.Whole chars ∧ mid ≤ run.span.start ∧ run.span.stop ≤ upTo

namespace Filled

theorem mono (h : f.Filled chars upTo) (hl : upTo ≤ later) : f.Filled chars later := by
  have ⟨mid, hm, hr, ht⟩ := h.content
  refine ⟨h.span, mid, hm.trans hl, hr, fun run hrun => ?_⟩
  have ⟨hw, hs, he⟩ := ht run hrun
  exact ⟨hw, hs, he.trans hl⟩

theorem flush_row (h : f.Filled chars upTo) :
    InRow chars f.span.start upTo (f.flush chars).children := by
  have ⟨mid, hm, hr, ht⟩ := h.content
  unfold flush
  split
  case h_1 run hrun =>
    have ⟨hw, hs, he⟩ := ht run hrun
    have hn := InRow.single (over_make hw .text (.literal run.value) []) (make_nil_orderly hw _ _)
    exact hr.append ((hn.mono_left hs).mono_right he)
  case h_2 => exact hr.mono_right hm

theorem pushNode (h : f.Filled chars upTo) (ho : Over chars span n)
    (hn : n.Orderly (utf8Length chars)) (hs : upTo ≤ span.start) :
    (f.pushNode chars n).Filled chars span.stop := by
  have ha := f.flush_alike chars
  refine ⟨?_, span.stop, Nat.le_refl _, ?_, ?_⟩
  · simpa [Frame.pushNode, ha.span] using h.span
  · simpa [Frame.pushNode, ha.span] using h.flush_row.append ((InRow.single ho hn).mono_left hs)
  · simp [Frame.pushNode, flush_text]

theorem pushText (h : f.Filled chars upTo) (hw : span.Whole chars) (hs : upTo ≤ span.start)
    (value : String) : (f.pushText value span).Filled chars span.stop := by
  have hle := hs.trans hw.le
  have ⟨mid, hm, hr, ht⟩ := h.content
  unfold Frame.pushText
  split
  case h_1 => exact ⟨h.span, (h.mono hle).content⟩
  case h_2 =>
    split
    case h_1 run hrun =>
      have ⟨hwr, hsr, her⟩ := ht run hrun
      have hlr : run.span.start ≤ span.stop := (hwr.le.trans her).trans hle
      refine ⟨h.span, mid, hm.trans hle, hr, fun joined hj => ?_⟩
      obtain rfl := Option.some.inj hj
      exact ⟨⟨hwr.start, hw.stop, hlr⟩, hsr, Nat.le_refl _⟩
    case h_2 =>
      refine ⟨h.span, mid, hm.trans hle, hr, fun first hf => ?_⟩
      obtain rfl := Option.some.inj hf
      exact ⟨hw, hm.trans hs, Nat.le_refl _⟩

theorem leaf (h : f.Filled chars upTo) (hw : span.Whole chars) (hs : upTo ≤ span.start)
    (k : Kind) (d : Payload) :
    (f.pushNode chars (.make k (some (Position.locate chars span)) d [])).Filled chars span.stop :=
  h.pushNode (over_make hw k d []) (make_nil_orderly hw k d) hs

-- An event is put behind what there is.
theorem portion (h : f.Filled chars upTo) (hw : span.Whole chars) (hs : upTo ≤ span.start)
    (event : Event) (markup : Bool) :
    (f.pushAll chars (event.portion? chars markup span).toList).Filled chars span.stop := by
  cases event
  case text | softBreak => exact h.pushText hw hs _
  case html =>
    cases markup
    case true => exact h.pushText hw hs _
    case false => exact h.leaf hw hs _ _
  case code | hardBreak | thematicBreak | footnoteReference => exact h.leaf hw hs _ _
  case taskMark | enter | leave => exact h.mono (hs.trans hw.le)

-- The node of an element starts where the element starts, and ends with something visible.
theorem finish (h : f.Filled source.toList upTo) (hk : f.kind ≠ .root) :
    Over source.toList (trimSpan source f.span) (f.finish source source.toList) ∧
      (f.finish source source.toList).Orderly (utf8Length source.toList) := by
  have ha := f.flush_alike source.toList
  have hr := h.flush_row
  have ho : Over source.toList (trimSpan source f.span) (f.finish source source.toList) := by
    refine ⟨?_, (trimSpan_trimmed h.span).whole⟩
    simp [Frame.finish, ha.kind, ha.span, hk]
  have hc : InRow source.toList f.span.start upTo (f.finish source source.toList).children := by
    simp only [Frame.finish, children_make]
    split
    case h_1 => exact wrapFrom_row hr
    case h_2 => exact .nil hr.le
    case h_3 => exact hr
  exact ⟨ho, ho.orderly hc⟩

theorem ofTag (h : span.Whole chars) (tag : Tag) : (ofTag tag span).Filled chars span.start :=
  ⟨h, span.start, Nat.le_refl _, .nil (Nat.le_refl _), by simp [Frame.ofTag, ofKind]⟩

end Filled
end Frame

-- A balanced stream between two offsets: its ranges are one behind the other, and the range of an
-- element is around its content.
inductive Laid (chars : List Char) : Nat → Nat → List Located → Prop
  | nil {lo hi : Nat} : lo ≤ hi → Laid chars lo hi []
  | content {lo hi : Nat} {event : Event} {span : Span} {events : List Located} :
      event.isContent → span.Whole chars → lo ≤ span.start → Laid chars span.stop hi events →
      Laid chars lo hi ((event, span) :: events)
  | element {lo hi : Nat} {tag : Tag} {span : Span} {inside events : List Located}
      (closed : Span) :
      span.Whole chars → lo ≤ span.start → Laid chars span.start span.stop inside →
      Laid chars span.stop hi events →
      Laid chars lo hi ((.enter tag, span) :: inside ++ (.leave, closed) :: events)

-- The frames around an element of some kind and range, and the stream behind the content of the
-- element. Each frame is filled up to the element in it.
inductive Around (chars : List Char) : Kind → Span → List Frame → List Located → Prop
  | document {kind : Kind} {span : Span} : Around chars kind span [] []
  | element {kind : Kind} {span : Span} {parent : Frame} {rest : List Frame}
      {behind outer : List Located} (closed : Span) :
      kind ≠ .root → span.Whole chars → parent.Filled chars span.start →
      Laid chars span.stop parent.span.stop behind →
      Around chars parent.kind parent.span rest outer →
      Around chars kind span (parent :: rest) ((.leave, closed) :: behind ++ outer)

-- Some open frames and the stream that goes on with them.
inductive Underway (chars : List Char) : List Frame → List Located → Prop
  | intro {next : Nat} {top : Frame} {rest : List Frame} {inside outer : List Located} :
      top.Filled chars next → Laid chars next top.span.stop inside →
      Around chars top.kind top.span rest outer → Underway chars (top :: rest) (inside ++ outer)

section Steps

variable {stack : List Frame} {events before after : List Located} {e : Located}

theorem kind_pushNode (f : Frame) (n : Node) : (f.pushNode chars n).kind = f.kind :=
  (f.push_alike chars (.node n)).kind

theorem span_pushNode (f : Frame) (n : Node) : (f.pushNode chars n).span = f.span :=
  (f.push_alike chars (.node n)).span

-- Each event leaves the frames filled, one behind the other.
theorem Underway.step (h : Underway source.toList stack (e :: events)) :
    Underway source.toList (handle source source.toList stack e) events := by
  generalize hs : e :: events = stream at h
  obtain @⟨next, top, rest, inside, outer, hf, hl, ha⟩ := h
  obtain hle | @⟨_, _, event, span, _, hc, hw, hle, hin⟩ |
    @⟨_, _, tag, span, inside, behind, closed, hw, hle, hin, hb⟩ := hl
  case nil =>
    -- The content is complete, so the element is closed.
    obtain _ | ⟨closed, hk, hw, hp, hb, ho⟩ := ha
    case document => simp at hs
    case element =>
      obtain ⟨rfl, rfl⟩ := List.cons.inj hs
      have ⟨hn, hd⟩ := hf.finish hk
      have ht := trimSpan_trimmed hw
      have hp' := (hp.pushNode hn hd (Nat.le_of_eq ht.start.symm)).mono ht.stop
      exact .intro hp' (by rwa [span_pushNode]) (by rwa [span_pushNode, kind_pushNode])
  case content =>
    obtain ⟨rfl, rfl⟩ := List.cons.inj hs
    rw [handle_content hc]
    have hal := top.pushAll_alike source.toList
      (event.portion? source.toList top.isRawHtml span).toList
    exact .intro (hf.portion hw hle event _) (by rwa [hal.span]) (by rwa [hal.kind, hal.span])
  case element =>
    simp only [List.cons_append, List.append_assoc, List.cons.injEq] at hs
    obtain ⟨rfl, rfl⟩ := hs
    have htop : (Frame.ofTag tag span).kind ≠ .root := tag.node_kind.left
    exact .intro (.ofTag hw tag) hin (.element closed htop hw (hf.mono hle) hb ha)

-- What holds at the start of a stream holds after each part of it.
theorem Underway.run (h : Underway source.toList stack (before ++ after)) :
    Underway source.toList (before.foldl (handle source source.toList) stack) after := by
  induction before generalizing stack
  case nil => exact h
  case cons e before ih => exact ih h.step

theorem Around.filled {k : Kind} {s : Span} (h : Around chars k s stack events) :
    ∀ f ∈ stack, ∃ upTo, f.Filled chars upTo := by
  induction h
  case document => simp
  case element hp _ _ ih => exact List.forall_mem_cons.mpr ⟨⟨_, hp⟩, ih⟩

theorem Underway.filled (h : Underway chars stack events) :
    ∀ f ∈ stack, ∃ upTo, f.Filled chars upTo := by
  obtain ⟨hf, _, ha⟩ := h
  exact List.forall_mem_cons.mpr ⟨⟨_, hf⟩, ha.filled⟩

-- At the end only the document is open.
theorem Underway.single (h : Underway chars stack []) : ∃ top, stack = [top] := by
  generalize hs : [] = stream at h
  obtain ⟨_, _, ha⟩ := h
  obtain ⟨_, rfl⟩ := List.append_eq_nil_iff.mp hs.symm
  cases ha
  exact ⟨_, rfl⟩

-- Where an element is closed, its node ends with something visible.
theorem Underway.closes (h : Underway source.toList stack ((.leave, closed) :: events)) :
    ∃ top parent rest span, stack = top :: parent :: rest ∧
      (top.finish source source.toList).position = some (Position.locate source.toList span) ∧
      Sharp source.toList span := by
  generalize hs : (.leave, closed) :: events = stream at h
  obtain @⟨next, top, rest, inside, outer, hf, hl, ha⟩ := h
  obtain _ | ⟨hc, _, _, _⟩ | _ := hl
  case nil =>
    obtain _ | ⟨_, hk, hw, _, _, _⟩ := ha
    case document => simp at hs
    case element =>
      exact ⟨top, _, _, _, rfl, (hf.finish hk).left.position, (trimSpan_trimmed hw).sharp⟩
  case content =>
    obtain ⟨he, _⟩ := List.cons.inj hs
    obtain ⟨rfl, rfl⟩ := Prod.mk.inj he
    simp [Event.isContent] at hc
  case element => simp at hs

end Steps

-- The frame of a document.
def documentFrame (source : String) : Frame :=
  .ofKind .root .none ⟨0, source.utf8ByteSize⟩

theorem documentFrame_filled (source : String) :
    (documentFrame source).Filled source.toList 0 := by
  have hstop : IsBoundary source.toList source.utf8ByteSize :=
    ⟨source.toList, [], by simp, (utf8Length_toList source).symm⟩
  exact ⟨⟨⟨[], _, rfl, rfl⟩, hstop, Nat.zero_le _⟩, 0, Nat.le_refl 0, .nil (Nat.le_refl 0),
    by simp [documentFrame, Frame.ofKind]⟩

theorem Laid.underway {events : List Located}
    (h : Laid source.toList 0 source.utf8ByteSize events) :
    Underway source.toList [documentFrame source] events := by
  have hu := Underway.intro (documentFrame_filled source) h .document
  rwa [List.append_nil] at hu

theorem Laid.rootFrame_row {events : List Located}
    (h : Laid source.toList 0 source.utf8ByteSize events) :
    ∃ lo hi, InRow source.toList lo hi (rootFrame source source.toList events).children := by
  have hu : Underway source.toList [documentFrame source] (events ++ []) := by
    simpa using h.underway
  have ⟨top, ht⟩ := hu.run.single
  have ⟨upTo, hf⟩ := hu.run.filled top (by simp [ht])
  have hr : rootFrame source source.toList events = top.flush source.toList := by
    rw [rootFrame, ← documentFrame, ht, fold]
  exact ⟨_, _, hr ▸ hf.flush_row⟩

-- If the ranges of a balanced stream are in order, so are the places of the nodes that come of it:
-- each starts no later than it ends, inside the text, and neighbours do not overlap. This holds of
-- the tree, in which definitions and an empty metadata block are put among the nodes of the stream,
-- and of all that is built at any time. Where an element is closed, its node has no blanks at its
-- end.
theorem treeOf_ranges (source : String) (front : Option Span) (definitions : List Definition)
    (h : Laid source.toList 0 source.utf8ByteSize events) :
    let built := (rootFrame source source.toList events).children
    let tree := treeOf source source.toList front ⟨events, definitions⟩
    let stackAfter := fun events : List Located =>
      events.foldl (handle source source.toList) [documentFrame source]
    tree.children.Perm (otherNodes source front events ++ definitions.map (nodeOf source)) ∧
      built.Sublist tree.children ∧ built.Pairwise Precedes ∧
      (∀ n ∈ preorders built, n.Forward source.utf8ByteSize ∧ n.children.Pairwise Precedes) ∧
      (∀ before after, events = before ++ after → ∀ f ∈ stackAfter before,
        (f.flush source.toList).children.Pairwise Precedes ∧
        ∀ n ∈ preorders (f.flush source.toList).children,
          n.Forward source.utf8ByteSize ∧ n.children.Pairwise Precedes) ∧
      ∀ before closed after, events = before ++ (.leave, closed) :: after →
        ∃ top parent rest span, stackAfter before = top :: parent :: rest ∧
          stackAfter (before ++ [(.leave, closed)]) =
            parent.pushNode source.toList (top.finish source source.toList) :: rest ∧
          (top.finish source source.toList).position =
            some (Position.locate source.toList span) ∧
          Sharp source.toList span := by
  intro built tree stackAfter
  have hnodes : ∀ {lo hi ns}, InRow source.toList lo hi ns →
      ∀ n ∈ preorders ns, n.Forward source.utf8ByteSize ∧ n.children.Pairwise Precedes := by
    intro lo hi ns hr n hn
    have ⟨top, ht, hn⟩ := mem_preorders.mp hn
    exact utf8Length_toList source ▸ hr.orderly top ht n hn
  obtain ⟨lo, hi, hr⟩ := h.rootFrame_row
  have hc : tree.children = mergeDefinitions source source.toList (otherNodes source front events)
      definitions := by
    simp only [tree, treeOf_eq_make, children_make]
  refine ⟨?perm, ?sublist, hr.precedes, hnodes hr, ?frames, ?closes⟩
  case perm => exact hc ▸ mergeDefinitions_perm source source.toList _ definitions
  case sublist =>
    rw [hc]
    exact sublist_mergeDefinitions (List.sublist_append_right _ _) hr.startOffsets definitions
  case frames =>
    intro before after he f hf
    obtain ⟨upTo, hf⟩ := (he ▸ h.underway).run.filled f hf
    exact ⟨hf.flush_row.precedes, hnodes hf.flush_row⟩
  case closes =>
    intro before closed after he
    obtain ⟨top, parent, rest, span, hs, hp, hsharp⟩ := (he ▸ h.underway).run.closes
    refine ⟨top, parent, rest, span, hs, ?_, hp, hsharp⟩
    simp only [stackAfter, List.foldl_append, hs]
    rfl

-- A list item of two lines that ends in emphasis, with a definition behind the list. The range of
-- the list reaches over the end of the line, and its node does not.
theorem treeOf_ranges_of_item :
    let source := "- a\n  b *c*\n[h]: i\n"
    let before : List Located := [(.enter (.list none), ⟨0, 12⟩), (.enter .item, ⟨0, 12⟩),
      (.text "a", ⟨2, 3⟩), (.softBreak, ⟨3, 4⟩), (.text "b ", ⟨6, 8⟩),
      (.enter .emphasis, ⟨8, 11⟩), (.text "c", ⟨9, 10⟩), (.leave, ⟨8, 11⟩), (.leave, ⟨0, 12⟩)]
    let events := before ++ [(.leave, ⟨0, 12⟩)]
    let built := (rootFrame source source.toList events).children
    Laid source.toList 0 source.utf8ByteSize events ∧
      built.Sublist (treeOf source source.toList none ⟨events, [⟨"h", "i", none, (12, 18)⟩]⟩).children ∧
      (∀ n ∈ preorders built, n.Forward 19 ∧ n.children.Pairwise Precedes) ∧
      ∃ top span, (before.foldl (handle source source.toList) [documentFrame source]).head? =
        some top ∧ (top.finish source source.toList).position =
          some (Position.locate source.toList span) ∧ Sharp source.toList span := by
  intro source before events built
  have hb : ∀ k ∈ List.range 20, IsBoundary source.toList k := by
    have hk : ∀ k ∈ List.range 20, utf8Length (source.toList.take k) = k := by
      subst source
      decide +kernel
    exact fun k hm => hk k hm ▸ isBoundary_take k source.toList
  have hw : ∀ start stop, start ≤ stop → stop ∈ List.range 20 →
      Span.Whole source.toList ⟨start, stop⟩ := by
    intro start stop hle hm
    exact ⟨hb start (List.mem_range.mpr (hle.trans_lt (List.mem_range.mp hm))), hb stop hm, hle⟩
  have hemphasis : Laid source.toList 8 11 [(.text "c", ⟨9, 10⟩)] :=
    .content rfl (hw 9 10 (by decide) (by decide)) (by decide) (.nil (by decide))
  have hend : Laid source.toList 8 12 ((.enter .emphasis, ⟨8, 11⟩) :: [(.text "c", ⟨9, 10⟩)] ++
      [(.leave, ⟨8, 11⟩)]) :=
    .element ⟨8, 11⟩ (hw 8 11 (by decide) (by decide)) (by decide) hemphasis (.nil (by decide))
  have hitem : Laid source.toList 0 12 ((.text "a", ⟨2, 3⟩) :: (.softBreak, ⟨3, 4⟩) ::
      (.text "b ", ⟨6, 8⟩) :: _) :=
    .content rfl (hw 2 3 (by decide) (by decide)) (by decide) <|
    .content rfl (hw 3 4 (by decide) (by decide)) (by decide) <|
    .content rfl (hw 6 8 (by decide) (by decide)) (by decide) hend
  have hlist : Laid source.toList 0 12 ((.enter .item, ⟨0, 12⟩) :: _ ++ [(.leave, ⟨0, 12⟩)]) :=
    .element ⟨0, 12⟩ (hw 0 12 (by decide) (by decide)) (Nat.le_refl 0) hitem
      (.nil (Nat.le_refl 12))
  have h : Laid source.toList 0 source.utf8ByteSize events :=
    .element ⟨0, 12⟩ (hw 0 12 (by decide) (by decide)) (Nat.le_refl 0) hlist (.nil (by decide))
  obtain ⟨_, hs, _, hn, _, hc⟩ := treeOf_ranges source none [⟨"h", "i", none, (12, 18)⟩] h
  obtain ⟨top, parent, rest, span, hst, _, hp, hsharp⟩ := hc before ⟨0, 12⟩ [] rfl
  exact ⟨h, hs, hn, top, span, congrArg List.head? hst, hp, hsharp⟩

end Markdown
end ProposalLint
