import Mathlib.Data.List.Basic
import ProposalLint.Text.Quoted
import ProposalLint.Yaml.Value

namespace ProposalLint

-- A character that is no digit stands in no numeral.
theorem not_mem_toDigits {x : Char} (hx : ∀ n, Nat.digitChar n ≠ x) (hb : 1 < b) (n : Nat) :
    x ∉ Nat.toDigits b n := by
  induction n using Nat.strongRecOn
  case _ n ih =>
    by_cases hn : n < b
    case pos => simpa [Nat.toDigits_of_lt_base hn] using (hx n).symm
    case neg =>
      rw [Nat.toDigits_of_base_le hb (Nat.le_of_not_lt hn)]
      simpa [(hx _).symm] using ih _ (Nat.div_lt_self (by omega) hb)

theorem line_feed_not_mem_toDigits (hb : 1 < b) (n : Nat) : '\n' ∉ Nat.toDigits b n :=
  not_mem_toDigits (by simp) hb n

-- A text without a line feed.
def OneLine (s : String) : Prop :=
  '\n' ∉ s.toList

instance : Decidable (OneLine s) :=
  inferInstanceAs (Decidable ('\n' ∉ s.toList))

@[simp]
theorem oneLine_append : OneLine (s ++ t) ↔ OneLine s ∧ OneLine t := by
  simp [OneLine]

theorem oneLine_ofList : OneLine (String.ofList cs) ↔ '\n' ∉ cs := by
  simp [OneLine]

@[simp]
theorem oneLine_nat (n : Nat) : OneLine n.repr := by
  rw [Nat.repr_eq_ofList_toDigits, oneLine_ofList]
  exact line_feed_not_mem_toDigits (by decide) n

@[simp]
theorem oneLine_int (n : Int) : OneLine n.repr := by
  rw [Int.repr_eq_if]
  split
  case isTrue => exact oneLine_nat n.toNat
  case isFalse => exact oneLine_append.mpr ⟨by decide, oneLine_nat (-n).toNat⟩

theorem Text.line_feed_not_mem_escapeShown (c : Char) : '\n' ∉ escapeShown c := by
  have hex : '\n' ∉ hexDigits c.toNat := line_feed_not_mem_toDigits (by decide) c.toNat
  unfold escapeShown
  grind

-- Quoting leaves no line feed, whatever is quoted.
@[simp]
theorem oneLine_quoted (s : String) : OneLine (Text.quoted s) := by
  rw [Text.quoted, oneLine_ofList]
  simp [Text.line_feed_not_mem_escapeShown]

namespace Decimal

theorem line_feed_not_mem_dropZeros (h : '\n' ∉ ds) (k : Int) : '\n' ∉ (dropZeros ds k).digits := by
  fun_induction dropZeros ds k
  case case1 ih => exact ih (List.not_mem_of_not_mem_cons h)
  case case2 => simpa using h

theorem line_feed_not_mem_shortest (m : Nat) (e : Int) : '\n' ∉ (shortest m e).digits :=
  line_feed_not_mem_dropZeros (by simpa using line_feed_not_mem_toDigits (by decide) _) _

namespace Digits

variable {d : Digits}

theorem line_feed_not_mem_positional (h : '\n' ∉ d.digits) : '\n' ∉ d.positional := by
  have hz (n : Int) : '\n' ∉ zeros n := by simp [zeros]
  unfold positional
  grind [List.mem_of_mem_take, List.mem_of_mem_drop]

theorem line_feed_not_mem_scientific (h : '\n' ∉ d.digits) : '\n' ∉ d.scientific := by
  have he : '\n' ∉ (toString (d.whole - 1)).toList := oneLine_int _
  unfold scientific
  grind

end Digits
end Decimal

@[simp]
theorem Yaml.oneLine_floatText (x : Binary64) : OneLine (floatText x) := by
  cases x
  case nan => decide
  case infinite negative => cases negative <;> decide
  case finite negative m e =>
    have hs := Decimal.line_feed_not_mem_shortest m e
    have hp := Decimal.Digits.line_feed_not_mem_positional hs
    have hc := Decimal.Digits.line_feed_not_mem_scientific hs
    rw [floatText, oneLine_ofList]
    grind [finiteText]

end ProposalLint
