import ProposalLint.Output.Format
import ProposalLint.Proofs.Attempts
import ProposalLint.Proofs.Document.Offset

namespace ProposalLint

-- The span is that of one character of the text.
def IsCharacter (source : List Char) (span : Span) : Prop :=
  ∃ before c after, source = before ++ c :: after ∧
    span = ⟨utf8Length before, utf8Length before + c.utf8Size⟩

namespace IsCharacter

variable {source : List Char} {span : Span}

theorem start (h : IsCharacter source span) : IsBoundary source span.start := by
  have ⟨before, c, after, hs, he⟩ := h
  exact ⟨before, c :: after, hs, by rw [he]⟩

theorem start_lt_stop (h : IsCharacter source span) : span.start < span.stop := by
  have ⟨before, c, _, _, he⟩ := h
  simpa [he] using c.utf8Size_pos

end IsCharacter

namespace Message

-- The text in front of a place can always be cut out. Its last character is what the span covers.
theorem exists_highlight? (m : Message) (source : List Char) :
    ∃ span, m.highlight? source = some span ∧ span.stop = offsetFor source m.line m.column ∧
      (span = ⟨0, 0⟩ ∨ IsCharacter source span) := by
  have ⟨before, after, hs, ho⟩ := isBoundary_offsetFor source m.line m.column
  have hc : slice? source ⟨0, utf8Length before⟩ = some before := by
    simpa [hs, utf8Length] using slice?_append [] before after
  refine ⟨⟨utf8Length before.dropLast, utf8Length before⟩, by simp [highlight?, ho, hc],
    ho.symm, ?_⟩
  cases List.eq_nil_or_concat before
  case inl hb => simp [hb, utf8Length]
  case inr hb =>
    obtain ⟨init, c, hb⟩ := hb
    exact .inr ⟨init, c, after, by simp [hs, hb], by simp [hb, utf8Length]⟩

-- Whatever line and column a message gives, its place is between two characters or at an end of the
-- text, later lines and columns are not in front of earlier ones, and the span of the message is
-- the one character that ends at its place. At the start of the text, and only there, it is empty.
theorem highlight?_marks_character (source : List Char) :
    (∀ line column, IsBoundary source (offsetFor source line column) ∧
      offsetFor source line column ≤ utf8Length source) ∧
    (∀ l₁ c₁ l₂ c₂, toLex (l₁, max c₁ 1) ≤ toLex (l₂, max c₂ 1) →
      offsetFor source l₁ c₁ ≤ offsetFor source l₂ c₂) ∧
    ∀ m : Message, ∃ span, m.highlight? source = some span ∧
      span.stop = offsetFor source m.line m.column ∧
      IsBoundary source span.start ∧ IsBoundary source span.stop ∧
      (span.start = span.stop ↔ span.stop = 0) ∧
      (span.stop ≠ 0 → IsCharacter source span) := by
  refine ⟨fun line column => ?_, fun _ _ _ _ h => offsetFor_le_offsetFor h source, fun m => ?_⟩
  · have hb := isBoundary_offsetFor source line column
    exact ⟨hb, hb.le⟩
  · have ⟨span, hh, hs, hc⟩ := m.exists_highlight? source
    have hb := isBoundary_offsetFor source m.line m.column
    rw [← hs] at hb
    refine ⟨span, hh, hs, ?_⟩
    cases hc
    case inl he => simpa [he] using hb
    case inr hc =>
      have hl := hc.start_lt_stop
      exact ⟨hc.start, hb, by omega, fun _ => hc⟩

-- Two lines, of which the first ends in a wide character. A column behind the end of a line leads
-- to the next line, and the greatest line and column of 64 bits to the end of the text.
theorem highlight?_marks_character_of_wide :
    let source := ['a', 'é', '\n', '𝄞']
    let m : Message := ⟨"r", "t", 18446744073709551615, 18446744073709551615⟩
    toLex (1, max 9 1) ≤ toLex (2, max 0 1) ∧ m.highlight? source = some ⟨4, 8⟩ ∧
      offsetFor source 1 9 ≤ offsetFor source 2 0 ∧ IsCharacter source ⟨4, 8⟩ := by
  intro source m
  have hl : toLex (1, max 9 1) ≤ toLex (2, max 0 1) := by decide
  have hm : m.highlight? source = some ⟨4, 8⟩ := by decide
  have ⟨_, order, spans⟩ := highlight?_marks_character source
  have ⟨span, hs, _, _, _, _, hc⟩ := spans m
  cases hm.symm.trans hs
  exact ⟨hl, hm, order 1 9 2 0 hl, hc (by decide)⟩

end Message

namespace LintResult

theorem exists_drawMessage (path source : String) (m : Message) :
    ∃ drawing, drawMessage path source m = .ok drawing := by
  have ⟨span, hh, _⟩ := m.exists_highlight? source.toList
  exact ⟨Drawing.draw m path source.toList span ++ "\n",
    by simp [drawMessage, Drawing.render?, hh]⟩

theorem exists_drawFile {fs : FileSystem} {f : FileResult}
    (h : ¬f.isClean → ∃ source, fs.readText f.path = .ok source) :
    ∃ drawing, drawFile fs f = .ok drawing := by
  by_cases hc : f.isClean
  case pos => exact ⟨"", by simp [drawFile, hc]⟩
  case neg =>
    have ⟨source, hs⟩ := h hc
    have hm : ∀ m ∈ f.messages, ∃ drawing, drawMessage f.path source m = .ok drawing :=
      fun m _ => exists_drawMessage f.path source m
    have ⟨drawings, hd⟩ := mapM_ok_of_forall hm
    exact ⟨String.join drawings, by simp [drawFile, hc, hs, hd, Except.map]⟩

-- Whatever the messages are, they can be drawn if the documents can be read.
theorem exists_renderDrawing (r : LintResult) (fs : FileSystem)
    (h : ∀ f ∈ r.files, ¬f.isClean → ∃ source, fs.readText f.path = .ok source) :
    ∃ text, r.renderDrawing fs = .ok text := by
  have ⟨drawings, hd⟩ := mapM_ok_of_forall fun f hf => exists_drawFile (h f hf)
  exact ⟨String.join drawings, by simp [renderDrawing, hd, Except.map]⟩

end LintResult
end ProposalLint
