import ProposalLint.Markdown.Tree

namespace ProposalLint.Markdown

-- The stream with each run of texts joined to one, which reaches from the start of the first to the
-- end of the last.
def joinTexts : List Located → List Located
  | (.text s, p) :: (.text t, q) :: events =>
    joinTexts ((.text (s ++ t), ⟨p.start, q.stop⟩) :: events)
  | event :: events => event :: joinTexts events
  | [] => []
termination_by events => events.length

-- Two streams that do the same to whatever is open.
def Agree (source : String) (chars : List Char) (es fs : List Located) : Prop :=
  ∀ stack, es.foldl (handle source chars) stack = fs.foldl (handle source chars) stack

-- Raw text and pending text both grow at the end, and a pending text keeps its start.
theorem Frame.pushText_pushText (f : Frame) (s t : String) (p q : Span) :
    (f.pushText s p).pushText t q = f.pushText (s ++ t) ⟨p.start, q.stop⟩ := by
  cases hl : f.literal
  case some => simp [pushText, hl, String.append_assoc]
  case none => cases ht : f.text <;> simp [pushText, hl, ht, String.append_assoc]

section

variable (source : String) (chars : List Char)

-- Whatever is open, two texts do what their join does.
theorem handle_text_text (stack : List Frame) (s t : String) (p q : Span) :
    handle source chars (handle source chars stack (.text s, p)) (.text t, q) =
      handle source chars stack (.text (s ++ t), ⟨p.start, q.stop⟩) := by
  cases stack
  case nil => rfl
  case cons top rest => simp [handle, pushValue, Frame.pushText_pushText]

theorem agree_split (before after : List Located) (s t : String) (p q : Span) :
    Agree source chars (before ++ (.text s, p) :: (.text t, q) :: after)
      (before ++ (.text (s ++ t), ⟨p.start, q.stop⟩) :: after) := by
  intro stack
  simp only [List.foldl_append, List.foldl_cons, handle_text_text]

theorem agree_joinTexts (events : List Located) : Agree source chars (joinTexts events) events := by
  intro stack
  fun_induction joinTexts events generalizing stack
  case case1 s p t q events ih => simp only [ih, List.foldl_cons, handle_text_text]
  case case2 event events _ ih => simp only [List.foldl_cons, ih]
  case case3 => rfl

-- A tree depends on its stream through the frames that the stream leaves.
theorem Agree.treeOf_eq {es fs : List Located} (h : Agree source chars es fs)
    (front : Option Span) (definitions : List Definition) :
    treeOf source chars front ⟨es, definitions⟩ = treeOf source chars front ⟨fs, definitions⟩ := by
  simp only [treeOf, rootFrame, h _]

-- How a stream cuts its texts does not show in the tree: neither one cut anywhere nor all of them
-- together make a difference.
theorem treeOf_chunks (front : Option Span) (definitions : List Definition) :
    (∀ before after s t a b c,
      treeOf source chars front
          ⟨before ++ (.text s, ⟨a, b⟩) :: (.text t, ⟨b, c⟩) :: after, definitions⟩ =
        treeOf source chars front ⟨before ++ (.text (s ++ t), ⟨a, c⟩) :: after, definitions⟩) ∧
    ∀ events, treeOf source chars front ⟨joinTexts events, definitions⟩ =
      treeOf source chars front ⟨events, definitions⟩ := by
  constructor
  case left =>
    intro before after s t a b c
    have h := agree_split source chars before after s t ⟨a, b⟩ ⟨b, c⟩
    exact h.treeOf_eq source chars front definitions
  case right =>
    intro events
    have h := agree_joinTexts source chars events
    exact h.treeOf_eq source chars front definitions

end
end ProposalLint.Markdown
