import Mathlib.Data.Prod.Lex
import ProposalLint.Proofs.Document.Place

namespace ProposalLint

section Boundaries

variable {source : List Char}

theorem IsBoundary.le (h : IsBoundary source offset) : offset ≤ utf8Length source := by
  have ⟨before, after, hs, ho⟩ := h
  simp [hs, ho]

theorem IsBoundary.append_left (h : IsBoundary source offset) (text : List Char) :
    IsBoundary (text ++ source) (utf8Length text + offset) := by
  have ⟨before, after, hs, ho⟩ := h
  exact ⟨text ++ before, after, by simp [hs], by simp [ho]⟩

theorem isBoundary_take (n : Nat) (cs : List Char) : IsBoundary cs (utf8Length (cs.take n)) :=
  ⟨cs.take n, cs.drop n, by simp, rfl⟩

theorem utf8Length_take_le (h : m ≤ n) (cs : List Char) :
    utf8Length (cs.take m) ≤ utf8Length (cs.take n) := by
  have hb := isBoundary_take m (cs.take n)
  rw [List.take_take, Nat.min_eq_left h] at hb
  exact hb.le

end Boundaries

section Offsets

variable {lines : List (List Char)}

theorem flatten_splitLines (source : List Char) : (splitLines source).flatten = source := by
  fun_induction splitLines source <;> simp_all

-- A column leads to a character of its line, or to the end of it.
theorem isBoundary_offsetIn (line column : Nat) (lines : List (List Char)) :
    IsBoundary lines.flatten (offsetIn line column lines) := by
  fun_induction offsetIn line column lines
  case case1 => exact ⟨[], [], rfl, rfl⟩
  case case2 text lines _ =>
    have ⟨before, after, hs, ho⟩ := isBoundary_take (column - 1) text
    exact ⟨before, after ++ lines.flatten, by rw [List.flatten_cons, hs, List.append_assoc], ho⟩
  case case3 text lines _ ih => exact ih.append_left text

theorem isBoundary_offsetFor (source : List Char) (line column : Nat) :
    IsBoundary source (offsetFor source line column) := by
  unfold offsetFor
  split
  case isTrue => exact ⟨[], source, rfl, rfl⟩
  case isFalse =>
    have h := isBoundary_offsetIn line column (splitLines source)
    rwa [flatten_splitLines] at h

-- No column of a line leads behind the start of the next one.
theorem offsetIn_first_le (h : line ≤ 1) (column : Nat) (text : List Char) :
    offsetIn line column (text :: lines) ≤ utf8Length text := by
  simpa [offsetIn, h] using (isBoundary_take (column - 1) text).le

theorem offsetIn_later (h : ¬line ≤ 1) (column : Nat) (text : List Char) :
    offsetIn line column (text :: lines) =
      utf8Length text + offsetIn (line - 1) column lines := by
  simp [offsetIn, h]

theorem offsetIn_le_offsetIn (h₁ : 1 ≤ l₁) (h : l₁ < l₂ ∨ l₁ = l₂ ∧ c₁ - 1 ≤ c₂ - 1)
    (lines : List (List Char)) : offsetIn l₁ c₁ lines ≤ offsetIn l₂ c₂ lines := by
  induction lines generalizing l₁ l₂
  case nil => simp [offsetIn]
  case cons text lines ih =>
    by_cases hl₂ : l₂ ≤ 1
    case pos =>
      have hl₁ : l₁ ≤ 1 := by omega
      have hc : c₁ - 1 ≤ c₂ - 1 := by omega
      simpa [offsetIn, hl₁, hl₂] using utf8Length_take_le hc text
    case neg =>
      rw [offsetIn_later hl₂]
      by_cases hl₁ : l₁ ≤ 1
      case pos => exact Nat.le_add_right_of_le (offsetIn_first_le hl₁ c₁ text)
      case neg =>
        rw [offsetIn_later hl₁]
        exact Nat.add_le_add_left (ih (by omega) (by omega)) (utf8Length text)

theorem offsetFor_le_offsetFor (h : toLex (l₁, max c₁ 1) ≤ toLex (l₂, max c₂ 1))
    (source : List Char) : offsetFor source l₁ c₁ ≤ offsetFor source l₂ c₂ := by
  have h : l₁ < l₂ ∨ l₁ = l₂ ∧ max c₁ 1 ≤ max c₂ 1 := Prod.Lex.toLex_le_toLex.mp h
  by_cases h₁ : l₁ = 0
  case pos => simp [offsetFor, h₁]
  case neg =>
    have h₂ : l₂ ≠ 0 := by omega
    simp only [offsetFor, h₁, h₂, if_false]
    exact offsetIn_le_offsetIn (by omega) (by omega) (splitLines source)

end Offsets

end ProposalLint
