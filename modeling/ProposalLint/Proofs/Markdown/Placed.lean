import ProposalLint.Markdown.Tree
import ProposalLint.Proofs.Document.Walk

namespace ProposalLint

namespace Node

variable {chars : List Char} {n : Node}

-- The node is between two points of the text.
def HasPlace (chars : List Char) (n : Node) : Prop :=
  ∃ start stop, n.position = some ⟨Point.locate chars start, Point.locate chars stop⟩

-- All nodes of the tree have their places.
def Placed (chars : List Char) (n : Node) : Prop :=
  ∀ m ∈ n.preorder, m.HasPlace chars

theorem placed_iff :
    n.Placed chars ↔ n.HasPlace chars ∧ ∀ m ∈ n.children, m.Placed chars :=
  forall_mem_preorder

theorem Placed.hasPlace (h : n.Placed chars) : n.HasPlace chars :=
  h n n.self_mem_preorder

@[simp]
theorem kind_make : (make k p d cs).kind = k := by
  unfold make
  split <;> rfl

@[simp]
theorem position_make : (make k p d cs).position = p := by
  unfold make
  split <;> rfl

@[simp]
theorem payload_make : (make k p d cs).payload = d := by
  unfold make
  split <;> rfl

@[simp]
theorem children_make : (make k p d cs).children = cs := by
  unfold make
  split
  case isTrue => rfl
  case isFalse h => simp_all [children]

theorem placed_make (span : Span) (h : ∀ n ∈ cs, n.Placed chars) :
    (make k (some (Position.locate chars span)) d cs).Placed chars :=
  placed_iff.mpr ⟨⟨span.start, span.stop, position_make⟩, by simpa using h⟩

theorem placed_make_nil (span : Span) :
    (make k (some (Position.locate chars span)) d []).Placed chars :=
  placed_make span (by simp)

end Node

namespace Markdown

variable {source : String} {chars : List Char} {run ns : List Node}

theorem paragraphOf_placed (hr : run ≠ []) (h : ∀ n ∈ run, n.Placed chars) :
    (paragraphOf run).Placed chars := by
  have ⟨start, _, hs⟩ := (h _ (List.head_mem hr)).hasPlace
  have ⟨_, stop, he⟩ := (h _ (List.getLast_mem hr)).hasPlace
  refine Node.placed_iff.mpr ⟨⟨start, stop, ?_⟩, h⟩
  rw [paragraphOf, List.head?_eq_some_head hr, List.getLast?_eq_some_getLast hr]
  simp only [Option.bind_some, hs, he, Option.map_some]
  rfl

theorem closeRun_placed (h : ∀ n ∈ run, n.Placed chars) : ∀ n ∈ closeRun run, n.Placed chars := by
  unfold closeRun
  split
  case isTrue => simp
  case isFalse hr => simpa using paragraphOf_placed (by simpa using hr) h

theorem wrapFrom_placed (hr : ∀ n ∈ run, n.Placed chars) (h : ∀ n ∈ ns, n.Placed chars) :
    ∀ n ∈ wrapFrom run ns, n.Placed chars := by
  induction ns generalizing run
  case nil => exact closeRun_placed hr
  case cons n ns ih =>
    have ⟨hn, hns⟩ := List.forall_mem_cons.mp h
    unfold wrapFrom
    split
    case isTrue => exact ih (List.forall_mem_append.mpr ⟨hr, by simpa using hn⟩) hns
    case isFalse =>
      refine List.forall_mem_append.mpr ⟨closeRun_placed hr, ?_⟩
      exact List.forall_mem_cons.mpr ⟨hn, ih (by simp) hns⟩

namespace Frame

variable {f : Frame}

def Placed (chars : List Char) (f : Frame) : Prop :=
  ∀ n ∈ f.children, n.Placed chars

theorem ofKind_placed {s : Span} : (ofKind k d s).Placed chars := by
  simp [Placed, ofKind]

theorem pushText_placed {s : Span} (h : f.Placed chars) : (f.pushText value s).Placed chars := by
  unfold pushText
  split
  case h_1 => exact h
  case h_2 => split <;> exact h

theorem flush_placed (h : f.Placed chars) : (f.flush chars).Placed chars := by
  unfold flush
  split
  case h_1 run _ =>
    refine List.forall_mem_append.mpr ⟨h, ?_⟩
    simpa using Node.placed_make_nil run.span
  case h_2 => exact h

theorem pushNode_placed (h : f.Placed chars) (hn : n.Placed chars) :
    (f.pushNode chars n).Placed chars :=
  List.forall_mem_append.mpr ⟨flush_placed h, by simpa using hn⟩

theorem finish_placed (h : f.Placed chars) : (f.finish source chars).Placed chars := by
  refine Node.placed_make _ ?_
  have hf := flush_placed h
  split
  -- Only in a list item nodes are made that stand for no event.
  case h_1 => exact wrapFrom_placed (by simp) hf
  case h_2 => simp
  case h_3 => exact hf

end Frame

variable {stack : List Frame}

theorem pushLeaf_placed (h : ∀ f ∈ stack, f.Placed chars) :
    ∀ f ∈ pushLeaf chars stack kind payload span, f.Placed chars := by
  unfold pushLeaf
  split
  case h_1 =>
    have ⟨ht, hr⟩ := List.forall_mem_cons.mp h
    refine List.forall_mem_cons.mpr ⟨Frame.pushNode_placed ht ?_, hr⟩
    exact Node.placed_make_nil span
  case h_2 => simp

theorem pushValue_placed (h : ∀ f ∈ stack, f.Placed chars) :
    ∀ f ∈ pushValue stack value span, f.Placed chars := by
  unfold pushValue
  split
  case h_1 =>
    have ⟨ht, hr⟩ := List.forall_mem_cons.mp h
    exact List.forall_mem_cons.mpr ⟨Frame.pushText_placed ht, hr⟩
  case h_2 => simp

-- The innermost frame becomes a node of the next one.
theorem finish_top_placed (h : ∀ f ∈ top :: parent :: stack, f.Placed chars) :
    ∀ f ∈ parent.pushNode chars (top.finish source chars) :: stack, f.Placed chars := by
  simp only [List.forall_mem_cons] at h ⊢
  have ⟨ht, hp, hs⟩ := h
  exact ⟨Frame.pushNode_placed hp (Frame.finish_placed ht), hs⟩

theorem pop_placed (h : ∀ f ∈ stack, f.Placed chars) :
    ∀ f ∈ pop source chars stack, f.Placed chars := by
  unfold pop
  split
  case h_1 => exact finish_top_placed h
  case h_2 => exact h

-- An event leaves only frames whose nodes have positions.
theorem handle_placed (h : ∀ f ∈ stack, f.Placed chars) (event : Located) :
    ∀ f ∈ handle source chars stack event, f.Placed chars := by
  have ⟨event, span⟩ := event
  cases event
  case enter => exact List.forall_mem_cons.mpr ⟨Frame.ofKind_placed, h⟩
  case leave => exact pop_placed h
  case text | softBreak => exact pushValue_placed h
  case code | footnoteReference | hardBreak | thematicBreak => exact pushLeaf_placed h
  case html =>
    simp only [handle]
    split
    case isTrue => exact pushValue_placed h
    case isFalse => exact pushLeaf_placed h
  case taskMark => exact h

theorem foldl_handle_placed (events : List Located) (h : ∀ f ∈ stack, f.Placed chars) :
    ∀ f ∈ events.foldl (handle source chars) stack, f.Placed chars := by
  induction events generalizing stack
  case nil => exact h
  case cons event events ih => exact ih (handle_placed h event)

theorem fold_placed (h : ∀ f ∈ stack, f.Placed chars) : (fold source chars stack).Placed chars := by
  fun_induction fold source chars stack
  case case1 => exact Frame.ofKind_placed
  case case2 => exact h _ (by simp)
  case case3 ih => exact ih (finish_top_placed h)

theorem rootFrame_placed (events : List Located) : (rootFrame source chars events).Placed chars :=
  Frame.flush_placed <| fold_placed <| foldl_handle_placed events <|
    List.forall_mem_singleton.mpr Frame.ofKind_placed

theorem definitionNode_placed (d : Definition) :
    (definitionNode source chars d).2.Placed chars := by
  simp only [definitionNode]
  exact Node.placed_make_nil _

-- Merging neither loses nor repeats a node.
theorem mergeDefinitions_perm (source : String) (chars : List Char) (ns : List Node)
    (definitions : List Definition) :
    (mergeDefinitions source chars ns definitions).Perm
      (ns ++ definitions.map fun d => (definitionNode source chars d).2) := by
  unfold mergeDefinitions
  split
  case isTrue h => simp [List.isEmpty_iff.mp h]
  case isFalse =>
    have hp := (List.mergeSort_perm ((ns.map fun n => (startOffset n, n)) ++
      definitions.map (definitionNode source chars)) fun a b => a.1 ≤ b.1).map Prod.snd
    simpa [Function.comp_def] using hp

theorem mergeDefinitions_placed (h : ∀ n ∈ ns, n.Placed chars) (definitions : List Definition) :
    ∀ n ∈ mergeDefinitions source chars ns definitions, n.Placed chars := by
  intro n hn
  cases List.mem_append.mp ((mergeDefinitions_perm source chars ns definitions).mem_iff.mp hn)
  case inl hn => exact h n hn
  case inr hn =>
    have ⟨d, _, he⟩ := List.mem_map.mp hn
    exact he ▸ definitionNode_placed d

-- Whatever the stream of events is, each node of its tree has a position.
theorem treeOf_placed (front : Option Span) (s : Stream) :
    (treeOf source chars front s).Placed chars := by
  unfold treeOf
  apply Frame.finish_placed
  apply mergeDefinitions_placed
  have h : (rootFrame source chars s.events).Placed chars := rootFrame_placed s.events
  cases front
  case none => exact h
  case some span => exact List.forall_mem_cons.mpr ⟨Node.placed_make_nil _, h⟩

end Markdown
end ProposalLint
