import Mathlib.Data.List.DropRight
import Mathlib.Data.String.Basic
import ProposalLint.Markdown.Tree
import ProposalLint.Proofs.Document.Offset

namespace ProposalLint

theorem utf8Length_eq_utf8Len (cs : List Char) : utf8Length cs = String.utf8Len cs := by
  induction cs
  case nil => rfl
  case cons c cs ih => rw [utf8Length, String.utf8Len_cons, ih, Nat.add_comm]

theorem utf8Length_toList (source : String) : utf8Length source.toList = source.utf8ByteSize := by
  rw [utf8Length_eq_utf8Len, String.utf8Len_toList]

-- Both ends of a range are between characters, in their order.
structure Span.Whole (chars : List Char) (span : Span) : Prop where
  start : IsBoundary chars span.start
  stop  : IsBoundary chars span.stop
  le    : span.start ≤ span.stop

theorem Span.Whole.exists_parts (h : Whole chars span) : ∃ before inside after,
    chars = before ++ inside ++ after ∧ span.start = utf8Length before ∧
      span.stop = utf8Length (before ++ inside) := by
  have ⟨before, rest, hs, hstart⟩ := h.start
  have ⟨upTo, after, ht, hstop⟩ := h.stop
  have hle := h.le
  cases List.append_eq_append_iff.mp (hs.symm.trans ht)
  case inl hm =>
    have ⟨inside, hu, _⟩ := hm
    exact ⟨before, inside, after, by rw [ht, hu], hstart, by rw [hstop, hu]⟩
  case inr hm =>
    -- The range is empty.
    have ⟨more, hb, hr⟩ := hm
    have hm : utf8Length more = 0 := by
      rw [hstart, hstop, hb, utf8Length_append] at hle
      omega
    refine ⟨before, [], rest, by simp [hs], hstart, ?_⟩
    rw [hstop, List.append_nil, hb, utf8Length_append, hm, Nat.add_zero]

namespace Markdown

variable {source : String} {before inside after : List Char}

theorem slice_eq (h : source.toList = before ++ inside ++ after) :
    slice source (utf8Length before) (utf8Length (before ++ inside)) = String.ofList inside := by
  have hs : source = String.ofList (before ++ inside ++ after) := by
    rw [← h, String.ofList_toList]
  rw [slice, hs, utf8Length_append, utf8Length_eq_utf8Len, utf8Length_eq_utf8Len]
  exact String.extract_of_valid before inside after

theorem trimEnd_ofList (cs : List Char) :
    Text.trimEnd (String.ofList cs) = String.ofList (cs.rdropWhile Text.isWhitespace) := by
  rw [Text.trimEnd, String.toList_ofList]
  rfl

theorem trimSpan_eq (h : source.toList = before ++ inside ++ after) :
    trimSpan source ⟨utf8Length before, utf8Length (before ++ inside)⟩ =
      ⟨utf8Length before, utf8Length (before ++ inside.rdropWhile Text.isWhitespace)⟩ := by
  have hsize : source.utf8ByteSize = utf8Length (before ++ inside) + utf8Length after := by
    rw [← utf8Length_toList, h, utf8Length_append]
  have hstop : min (utf8Length (before ++ inside)) source.utf8ByteSize =
      utf8Length (before ++ inside) := by omega
  have hstart : min (utf8Length before) (utf8Length (before ++ inside)) = utf8Length before := by
    rw [utf8Length_append]
    omega
  simp only [trimSpan, hstop, hstart, slice_eq h, trimEnd_ofList]
  rw [← utf8Length_toList, String.toList_ofList, utf8Length_append]

-- A range that is empty, or has something other than a blank at its end.
def Sharp (chars : List Char) (span : Span) : Prop :=
  span.start = span.stop ∨ ∃ before c after, chars = before ++ c :: after ∧
    span.start ≤ utf8Length before ∧ span.stop = utf8Length before + c.utf8Size ∧
    ¬Text.isWhitespace c

-- What is left of a range without the blanks at its end.
structure Trimmed (chars : List Char) (span trimmed : Span) : Prop where
  whole : trimmed.Whole chars
  start : trimmed.start = span.start
  stop  : trimmed.stop ≤ span.stop
  sharp : Sharp chars trimmed

theorem trimSpan_trimmed {span : Span} (h : span.Whole source.toList) :
    Trimmed source.toList span (trimSpan source span) := by
  obtain ⟨before, inside, after, hs, hstart, hstop⟩ := h.exists_parts
  have hspan : span = ⟨utf8Length before, utf8Length (before ++ inside)⟩ := by
    rw [← hstart, ← hstop]
  obtain ⟨blanks, hi⟩ := List.rdropWhile_prefix Text.isWhitespace inside
  have hlast := List.rdropWhile_last_not Text.isWhitespace inside
  rw [hspan, trimSpan_eq hs]
  generalize inside.rdropWhile Text.isWhitespace = kept at hi hlast
  have hs : source.toList = before ++ kept ++ (blanks ++ after) := by simp [hs, ← hi]
  constructor
  case whole =>
    exact ⟨⟨before, kept ++ (blanks ++ after), by simp [hs], rfl⟩, ⟨before ++ kept, _, hs, rfl⟩,
      by simp⟩
  case start => rfl
  case stop => simp [← hi]
  case sharp =>
    cases List.eq_nil_or_concat kept
    case inl hk => simp [Sharp, hk]
    case inr hk =>
      obtain ⟨init, c, hk⟩ := hk
      refine .inr ⟨before ++ init, c, blanks ++ after, by simp [hs, hk], by simp, ?_, ?_⟩
      · simp [hk, utf8Length, Nat.add_assoc]
      · simpa [hk] using hlast (by simp [hk])

end Markdown
end ProposalLint
