import Mathlib.Algebra.Group.Nat.Defs
import Mathlib.Data.List.Induction
import ProposalLint.Calendar.Reading

namespace ProposalLint.Date

variable {n m w : Nat} {cs : List Char}

-- A number in so many digits.
def fixedDigits : Nat → Nat → List Char
  | 0, _ => []
  | w + 1, n => fixedDigits w (n / 10) ++ [Nat.digitChar (n % 10)]

-- A given number of digits and nothing else.
structure Digits (w : Nat) (cs : List Char) : Prop where
  length : cs.length = w
  digit  : ∀ c ∈ cs, isDigit c

-- The number that digits stand for.
def value (cs : List Char) : Nat :=
  cs.foldl (fun n c => 10 * n + (c.toNat - 48)) 0

theorem isDigit_iff : isDigit c ↔ 48 ≤ c.toNat ∧ c.toNat ≤ 57 := by
  simp only [isDigit, Bool.and_eq_true, decide_eq_true_eq, Char.le_def, UInt32.le_iff_toNat_le]
  rfl

theorem isDigit_digitChar (h : n < 10) : isDigit n.digitChar := by
  rw [isDigit_iff, Nat.toNat_digitChar_of_lt_ten h]
  omega

theorem digitChar_of_isDigit (h : isDigit c) : (c.toNat - 48).digitChar = c := by
  have ⟨h₁, h₂⟩ := isDigit_iff.mp h
  rw [← Char.toNat_inj, Nat.toNat_digitChar_of_lt_ten (by omega)]
  omega

theorem digits_fixedDigits (w n : Nat) : Digits w (fixedDigits w n) := by
  induction w generalizing n
  case zero => exact ⟨rfl, by simp [fixedDigits]⟩
  case succ w ih =>
    have ⟨hl, hd⟩ := ih (n / 10)
    refine ⟨by simp [fixedDigits, hl], ?_⟩
    rw [fixedDigits, List.forall_mem_append, List.forall_mem_singleton]
    exact ⟨hd, isDigit_digitChar (by omega)⟩

theorem value_concat : value (cs ++ [c]) = 10 * value cs + (c.toNat - 48) := by
  simp [value]

theorem value_fixedDigits (h : n < 10 ^ w) : value (fixedDigits w n) = n := by
  induction w generalizing n
  case zero =>
    have hn : n = 0 := by simpa using h
    exact hn.symm
  case succ w ih =>
    rw [Nat.pow_succ] at h
    rw [fixedDigits, value_concat, ih (by omega), Nat.toNat_digitChar_of_lt_ten (by omega)]
    omega

theorem Digits.of_concat (h : Digits w (cs ++ [c])) :
    w = cs.length + 1 ∧ Digits cs.length cs ∧ isDigit c := by
  have ⟨hl, hd⟩ := h
  rw [List.forall_mem_append, List.forall_mem_singleton] at hd
  exact ⟨by simpa using hl.symm, ⟨rfl, hd.left⟩, hd.right⟩

theorem fixedDigits_value (h : Digits w cs) : fixedDigits w (value cs) = cs := by
  induction cs using List.reverseRec generalizing w
  case nil => exact h.length ▸ rfl
  case append_singleton cs c ih =>
    have ⟨hw, hcs, hc⟩ := h.of_concat
    have ⟨hlow, hhigh⟩ := isDigit_iff.mp hc
    have hdiv : (10 * value cs + (c.toNat - 48)) / 10 = value cs := by omega
    have hmod : (10 * value cs + (c.toNat - 48)) % 10 = c.toNat - 48 := by omega
    rw [hw, fixedDigits, value_concat, hdiv, hmod, ih hcs, digitChar_of_isDigit hc]

theorem value_lt (h : Digits w cs) : value cs < 10 ^ w := by
  induction cs using List.reverseRec generalizing w
  case nil => exact Nat.pow_pos (by decide)
  case append_singleton cs c ih =>
    have ⟨hw, hcs, hc⟩ := h.of_concat
    have ⟨hlow, hhigh⟩ := isDigit_iff.mp hc
    have hlt := ih hcs
    rw [hw, value_concat, Nat.pow_succ]
    omega

theorem toList_padded_eq (w n : Nat) : (padded w n).toList =
    List.replicate (w - (Nat.toDigits 10 n).length) '0' ++ Nat.toDigits 10 n := by
  rw [padded, Nat.toString_eq_ofList_toDigits]
  simp

-- A number that is short enough is filled up with zeros.
theorem toList_padded (h : n < 10 ^ (w + 1)) :
    (padded (w + 1) n).toList = fixedDigits (w + 1) n := by
  induction w generalizing n
  case zero =>
    have hn : n < 10 := by simpa using h
    rw [toList_padded_eq, Nat.toDigits_of_lt_base hn, fixedDigits, Nat.mod_eq_of_lt hn]
    rfl
  case succ w ih =>
    rw [Nat.pow_succ] at h
    rw [fixedDigits, ← ih (by omega), toList_padded_eq, toList_padded_eq]
    by_cases hn : n < 10
    case pos =>
      -- All digits but the last are zeros.
      have hz : Nat.toDigits 10 (n / 10) = ['0'] := by
        rw [Nat.div_eq_of_lt hn]
        rfl
      rw [hz, Nat.toDigits_of_lt_base hn, Nat.mod_eq_of_lt hn]
      simp [List.replicate_succ']
    case neg =>
      rw [Nat.toDigits_of_base_le (by decide) (Nat.le_of_not_lt hn), List.length_append,
        ← List.append_assoc]
      simp

section Bytes

variable {as bs xs ys : List UInt8}

def bytes (cs : List Char) : List UInt8 :=
  cs.flatMap String.utf8EncodeChar

theorem toList_toUTF8 (text : String) : text.toUTF8.data.toList = bytes text.toList := by
  rw [String.toUTF8, ← String.utf8Encode_toList, List.utf8Encode, bytes]
  simp

theorem append_lt_append_iff (h : as.length = bs.length) :
    as ++ xs < bs ++ ys ↔ as < bs ∨ as = bs ∧ xs < ys := by
  induction as generalizing bs
  case nil =>
    cases bs
    case nil => simp
    case cons => cases h
  case cons a as ih =>
    cases bs
    case nil => cases h
    case cons b bs =>
      have ih := ih (Nat.succ.inj h)
      simp only [List.cons_append, List.cons_lt_cons_iff, ih, List.cons.injEq]
      grind

theorem bytes_fixedDigits_succ (w n : Nat) : bytes (fixedDigits (w + 1) n) =
    bytes (fixedDigits w (n / 10)) ++ [UInt8.ofNat (48 + n % 10)] := by
  have hd : ∀ k < 10, String.utf8EncodeChar k.digitChar = [UInt8.ofNat (48 + k)] := by decide
  rw [fixedDigits, bytes, List.flatMap_append, List.flatMap_singleton, hd _ (by omega)]
  rfl

theorem length_bytes_fixedDigits (w n : Nat) : (bytes (fixedDigits w n)).length = w := by
  induction w generalizing n
  case zero => rfl
  case succ w ih => rw [bytes_fixedDigits_succ, List.length_append, ih, List.length_singleton]

theorem byte_of_digit : ∀ a < 10, ∀ b < 10,
    ([UInt8.ofNat (48 + a)] = [UInt8.ofNat (48 + b)] ↔ a = b) ∧
    ([UInt8.ofNat (48 + a)] < [UInt8.ofNat (48 + b)] ↔ a < b) := by
  decide

theorem bytes_fixedDigits_inj (hn : n < 10 ^ w) (hm : m < 10 ^ w) :
    bytes (fixedDigits w n) = bytes (fixedDigits w m) ↔ n = m := by
  refine ⟨fun h => ?_, fun h => by rw [h]⟩
  induction w generalizing n m
  case zero =>
    rw [Nat.pow_zero] at hn hm
    omega
  case succ w ih =>
    rw [Nat.pow_succ] at hn hm
    rw [bytes_fixedDigits_succ, bytes_fixedDigits_succ] at h
    have ⟨hfront, hlast⟩ := List.append_inj h (by simp [length_bytes_fixedDigits])
    have hdiv := ih (by omega) (by omega) hfront
    have hmod := (byte_of_digit (n % 10) (by omega) (m % 10) (by omega)).left.mp hlast
    omega

-- Numbers in the same number of digits are ordered like their bytes.
theorem bytes_fixedDigits_lt_iff (hn : n < 10 ^ w) (hm : m < 10 ^ w) :
    bytes (fixedDigits w n) < bytes (fixedDigits w m) ↔ n < m := by
  induction w generalizing n m
  case zero =>
    rw [Nat.pow_zero] at hn hm
    exact iff_of_false (List.lt_irrefl _) (by omega)
  case succ w ih =>
    rw [Nat.pow_succ] at hn hm
    have hlast := (byte_of_digit (n % 10) (by omega) (m % 10) (by omega)).right
    rw [bytes_fixedDigits_succ, bytes_fixedDigits_succ,
      append_lt_append_iff (by simp [length_bytes_fixedDigits]), ih (by omega) (by omega),
      bytes_fixedDigits_inj (by omega) (by omega), hlast]
    omega

end Bytes

end ProposalLint.Date
