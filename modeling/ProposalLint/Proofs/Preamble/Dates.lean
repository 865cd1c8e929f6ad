import Mathlib.Data.Prod.Lex
import Mathlib.Tactic.IntervalCases
import ProposalLint.Preamble.Schema
import ProposalLint.Proofs.Attempts
import ProposalLint.Proofs.Calendar.Digits

namespace ProposalLint

namespace Date

-- How long the months of a year are.
def monthLengths (year : Int) : List Nat :=
  let february := if 4 ∣ year ∧ (100 ∣ year → 400 ∣ year) then 29 else 28
  [31, february, 31, 30, 31, 30, 31, 31, 30, 31, 30, 31]

-- A day that the calendar has.
structure OnCalendar (d : Date) : Prop where
  month  : 1 ≤ d.month
  day    : 1 ≤ d.day
  length : ∃ n, (monthLengths d.year)[d.month - 1]? = some n ∧ d.day ≤ n

-- Days are ordered by year, month and day.
def key (d : Date) : Int ×ₗ Nat ×ₗ Nat :=
  toLex (d.year, toLex (d.month, d.day))

-- Four digits, two and two.
def iso (d : Date) : List Char :=
  fixedDigits 4 d.year.toNat ++ '-' :: (fixedDigits 2 d.month ++ '-' :: fixedDigits 2 d.day)

-- A text that is a day of the years 0 to 9999, written in full.
structure Denotes (s : String) (d : Date) : Prop where
  onCalendar : d.OnCalendar
  low        : 0 ≤ d.year
  high       : d.year ≤ 9999
  written    : s.toList = d.iso

theorem before_iff {a b : Date} : a.before b ↔ a.key < b.key := by
  simp [before, key, Prod.Lex.toLex_lt_toLex]

theorem getElem?_monthLengths (h₁ : 1 ≤ m) (h₂ : m ≤ 12) :
    (monthLengths y)[m - 1]? = some (daysIn y m) := by
  have hleap : isLeap y ↔ 4 ∣ y ∧ (100 ∣ y → 400 ∣ y) := by
    simp only [isLeap, Bool.and_eq_true, Bool.or_eq_true, beq_iff_eq, bne_iff_ne]
    omega
  interval_cases m <;> simp [monthLengths, daysIn, hleap]

theorem onCalendar_iff : OnCalendar ⟨y, m, n⟩ ↔ 1 ≤ m ∧ m ≤ 12 ∧ 1 ≤ n ∧ n ≤ daysIn y m := by
  constructor
  case mp =>
    intro ⟨hm, hn, k, hk, hle⟩
    have hlast : m ≤ 12 := by
      have ⟨hlt, _⟩ := List.getElem?_eq_some_iff.mp hk
      simp only [monthLengths, List.length_cons, List.length_nil] at hlt
      omega
    rw [getElem?_monthLengths hm hlast] at hk
    cases hk
    exact ⟨hm, hlast, hn, hle⟩
  case mpr =>
    intro ⟨hm, hlast, hn, hle⟩
    exact ⟨hm, hn, daysIn y m, getElem?_monthLengths hm hlast, hle⟩

theorem ofYmd?_eq_some_iff :
    ofYmd? y m n = some d ↔ d = ⟨y, m, n⟩ ∧ inRange y ∧ d.OnCalendar := by
  have hif : ofYmd? y m n = some d ↔ (inRange y ∧ OnCalendar ⟨y, m, n⟩) ∧ ⟨y, m, n⟩ = d := by
    simp [ofYmd?, onCalendar_iff, and_assoc]
  rw [hif]
  constructor
  · rintro ⟨⟨hr, hc⟩, rfl⟩
    exact ⟨rfl, hr, hc⟩
  · rintro ⟨rfl, hr, hc⟩
    exact ⟨⟨hr, hc⟩, rfl⟩

theorem daysIn_le (y : Int) (m : Nat) : daysIn y m ≤ 31 := by
  unfold daysIn
  split <;> grind

section Reading

variable {cs : List Char} {w : Nat}

theorem trimStartList_digits (h : Digits (w + 1) cs) (rest : List Char) :
    Text.trimStartList (cs ++ rest) = cs ++ rest := by
  cases cs
  case nil => cases h.length
  case cons c cs =>
    have hc := isDigit_iff.mp (h.digit c List.mem_cons_self)
    have hblank : Text.isWhitespace c = false := by
      unfold Text.isWhitespace
      grind
    rw [Text.trimStartList, List.cons_append, List.dropWhile_cons_of_neg (by simp [hblank])]

theorem digits_append (h : Digits (w + 1) cs) (hw : w < 18) (rest : List Char) :
    digits (some (w + 1)) (cs ++ rest) = .ok (value cs, rest) := by
  have hfound : ((cs ++ rest).takeWhile isDigit).take (w + 1) = cs := by
    rw [List.takeWhile_append_of_pos h.digit, ← h.length, List.take_left]
  have hne : cs ≠ [] := fun he => by simpa [he] using h.length
  have hnumber : number cs = .ok (value cs) := by
    have hlt : value cs < 10 ^ (w + 1) := value_lt h
    have hle : 10 ^ (w + 1) ≤ 10 ^ 18 := Nat.pow_le_pow_right (by decide) hw
    rw [number, if_neg]
    · rfl
    · change ¬9223372036854775807 < value cs
      omega
  simp [digits, hfound, hne, hnumber, Bind.bind, Except.bind, Pure.pure, Except.pure]

theorem signedYear_append (h : Digits 4 cs) (rest : List Char) :
    signedYear (cs ++ rest) = .ok (value cs, rest) := by
  have hread := digits_append h (by decide) rest
  cases cs
  case nil => cases h.length
  case cons c cs =>
    have hc := h.digit c List.mem_cons_self
    rw [List.cons_append] at hread ⊢
    unfold signedYear
    split
    case h_1 he =>
      cases he
      exact absurd hc (by decide)
    case h_2 he =>
      cases he
      exact absurd hc (by decide)
    case h_3 =>
      rw [hread]
      rfl

theorem ranged_eq_ok (h : low ≤ n ∧ n ≤ high) : ranged low high n = .ok () := by
  simp [ranged, h]

-- What is left to check when all characters are in their places.
theorem read_eq {s : String} (hy : Digits 4 ys) (hm : Digits 2 ms) (hd : Digits 2 ds)
    (ht : s.toList = ys ++ '-' :: (ms ++ '-' :: ds)) : read s = (do
      ranged 1 12 (value ms)
      ranged 1 31 (value ds)
      match ofYmd? (value ys) (value ms) (value ds) with
        | some d => return d
        | none => throw .outOfRange) := by
  have hyear : ranged (-2147483648) 2147483647 (value ys) = .ok () := by
    have := value_lt hy
    exact ranged_eq_ok (by omega)
  have hday : digits (some 2) (Text.trimStartList ds) = .ok (value ds, []) := by
    have htrim := trimStartList_digits hd []
    have hread := digits_append hd (by decide) []
    rw [List.append_nil] at htrim hread
    rw [htrim, hread]
  simp only [read, ht, trimStartList_digits hy, signedYear_append hy, Bind.bind, Except.bind,
    hyear, hyphen, trimStartList_digits hm, digits_append hm (by decide), hday]
  rfl

theorem read_eq_ok_iff {s : String} (hy : Digits 4 ys) (hm : Digits 2 ms) (hd : Digits 2 ds)
    (ht : s.toList = ys ++ '-' :: (ms ++ '-' :: ds)) :
    read s = .ok d ↔ ofYmd? (value ys) (value ms) (value ds) = some d := by
  rw [read_eq hy hm hd ht]
  cases ho : ofYmd? (value ys) (value ms) (value ds)
  case none =>
    simp only [bind_eq_ok_iff]
    simp [throw, throwThe, MonadExceptOf.throw]
  case some date =>
    obtain ⟨rfl, _, hc⟩ := ofYmd?_eq_some_iff.mp ho
    have ⟨hm₁, hm₂, hd₁, hd₂⟩ := onCalendar_iff.mp hc
    have hlast := daysIn_le (value ys) (value ms)
    rw [ranged_eq_ok (by omega), ranged_eq_ok (by omega), Option.some_inj]
    exact ⟨Except.ok.inj, congrArg Except.ok⟩

end Reading

-- The parts of a day fit into the digits they are given.
theorem Denotes.bounds (h : Denotes s d) :
    d.year.toNat < 10 ^ 4 ∧ d.month < 10 ^ 2 ∧ d.day < 10 ^ 2 := by
  have ⟨_, hm, _, hd⟩ := onCalendar_iff.mp h.onCalendar
  have hlast := daysIn_le d.year d.month
  have hhigh := h.high
  omega

theorem Denotes.text_eq (h : Denotes s d) : d.text = s := by
  have ⟨hy, hm, hd⟩ := h.bounds
  have hlow := h.low
  have hhigh := h.high
  have hyear : d.year.natAbs = d.year.toNat := by omega
  rw [← String.toList_inj, h.written, Date.text, if_neg (by omega), if_neg (by omega), hyear]
  simp [iso, toList_padded hy, toList_padded hm, toList_padded hd]

theorem bytes_iso (d : Date) : bytes d.iso = bytes (fixedDigits 4 d.year.toNat) ++
    45 :: (bytes (fixedDigits 2 d.month) ++ 45 :: bytes (fixedDigits 2 d.day)) := by
  have hhyphen : String.utf8EncodeChar '-' = [45] := by decide
  simp [bytes, iso, hhyphen]

theorem Denotes.lt_iff (h : Denotes s d) (h' : Denotes s' d') :
    d.key < d'.key ↔ s.toUTF8.data.toList < s'.toUTF8.data.toList := by
  have ⟨hy, hm, hd⟩ := h.bounds
  have ⟨hy', hm', hd'⟩ := h'.bounds
  have hlow := h.low
  have hlow' := h'.low
  have hyear : d.year < d'.year ↔ d.year.toNat < d'.year.toNat := by omega
  have hyear' : d.year = d'.year ↔ d.year.toNat = d'.year.toNat := by omega
  have hlength : ∀ w n m, (bytes (fixedDigits w n)).length = (bytes (fixedDigits w m)).length := by
    simp [length_bytes_fixedDigits]
  simp only [toList_toUTF8, h.written, h'.written, bytes_iso, append_lt_append_iff (hlength ..),
    List.cons_lt_cons_iff, bytes_fixedDigits_lt_iff hy hy', bytes_fixedDigits_lt_iff hm hm',
    bytes_fixedDigits_lt_iff hd hd', bytes_fixedDigits_inj hy hy', bytes_fixedDigits_inj hm hm',
    key, Prod.Lex.toLex_lt_toLex, hyear, hyear']
  simp

end Date

namespace Preamble

variable {today d : Date} {text : String}

theorem date?_eq_some_iff_of_digits (hy : Date.Digits 4 ys) (hm : Date.Digits 2 ms)
    (hd : Date.Digits 2 ds) (ht : text.toList = ys ++ '-' :: (ms ++ '-' :: ds)) :
    date? today text = some d ↔
      Date.ofYmd? (Date.value ys) (Date.value ms) (Date.value ds) = some d ∧ ¬today.before d := by
  obtain ⟨a, b, c, e, rfl⟩ := List.length_eq_four.mp hy.length
  obtain ⟨f, g, rfl⟩ := List.length_eq_two.mp hm.length
  obtain ⟨i, j, rfl⟩ := List.length_eq_two.mp hd.length
  have hall : [a, b, c, e, f, g, i, j].all Date.isDigit := by
    rw [List.all_eq_true]
    have := hy.digit
    have := hm.digit
    have := hd.digit
    grind
  rw [← Date.read_eq_ok_iff hy hm hd ht, date?, ht]
  simp only [List.cons_append, List.nil_append, hall, if_true]
  cases Date.read text <;> grind

theorem exists_digits_of_date? (h : date? today text = some d) : ∃ ys ms ds,
    Date.Digits 4 ys ∧ Date.Digits 2 ms ∧ Date.Digits 2 ds ∧
    text.toList = ys ++ '-' :: (ms ++ '-' :: ds) := by
  unfold date? at h
  split at h
  case h_1 a b c e f g i j ht =>
    split at h
    case isTrue hall =>
      have hall := List.all_eq_true.mp hall
      exact ⟨[a, b, c, e], [f, g], [i, j], ⟨rfl, by grind⟩, ⟨rfl, by grind⟩, ⟨rfl, by grind⟩, ht⟩
    case isFalse => cases h
  case h_2 => cases h

theorem not_before_iff : ¬today.before d ↔ d.key ≤ today.key := by
  rw [Date.before_iff, not_lt]

theorem date?_eq_some_iff_denotes :
    date? today text = some d ↔ Date.Denotes text d ∧ d.key ≤ today.key := by
  constructor
  case mp =>
    intro h
    obtain ⟨ys, ms, ds, hy, hm, hd, ht⟩ := exists_digits_of_date? h
    obtain ⟨ho, hb⟩ := (date?_eq_some_iff_of_digits hy hm hd ht).mp h
    obtain ⟨rfl, _, hc⟩ := Date.ofYmd?_eq_some_iff.mp ho
    have hlt := Date.value_lt hy
    refine ⟨⟨hc, by simp, ?_, ?_⟩, not_before_iff.mp hb⟩
    · change (Date.value ys : Int) ≤ 9999
      omega
    · rw [ht, Date.iso, Int.toNat_natCast, Date.fixedDigits_value hy, Date.fixedDigits_value hm,
        Date.fixedDigits_value hd]
  case mpr =>
    intro ⟨h, hb⟩
    have ⟨hy, hm, hd⟩ := h.bounds
    have hrange : Date.inRange d.year := by
      have hlow := h.low
      have hhigh := h.high
      simp only [Date.inRange, Bool.and_eq_true, decide_eq_true_eq]
      omega
    rw [date?_eq_some_iff_of_digits (Date.digits_fixedDigits ..) (Date.digits_fixedDigits ..)
      (Date.digits_fixedDigits ..) h.written, Date.value_fixedDigits hy, Date.value_fixedDigits hm,
      Date.value_fixedDigits hd, Int.toNat_of_nonneg h.low, Date.ofYmd?_eq_some_iff]
    exact ⟨⟨rfl, hrange, h.onCalendar⟩, not_before_iff.mpr hb⟩

-- The only text that is taken for a day is the one it is written as, and the day must not be after
-- today. So days and their texts have the same order.
theorem date?_denotes (today : Date) (text : String) :
    (∀ d, date? today text = some d ↔ Date.Denotes text d ∧ d.key ≤ today.key) ∧
    (∀ d, date? today text = some d → d.text = text) ∧
    ∀ today' text' d d', date? today text = some d → date? today' text' = some d' →
      (d.key < d'.key ↔ text.toUTF8.data.toList < text'.toUTF8.data.toList) := by
  refine ⟨fun d => date?_eq_some_iff_denotes, fun d h => ?_, fun today' text' d d' h h' => ?_⟩
  · exact (date?_eq_some_iff_denotes.mp h).left.text_eq
  · have hd := (date?_eq_some_iff_denotes.mp h).left
    have hd' := (date?_eq_some_iff_denotes.mp h').left
    exact hd.lt_iff hd'

-- A leap day that is today, and a day before it.
theorem date?_denotes_of_leap_day :
    let leap : Date := ⟨2000, 2, 29⟩
    let last : Date := ⟨1999, 12, 31⟩
    date? leap "2000-02-29" = some leap ∧ date? leap "1999-12-31" = some last ∧
    Date.Denotes "2000-02-29" leap ∧ leap.text = "2000-02-29" ∧
    (last.key < leap.key ↔ "1999-12-31".toUTF8.data.toList < "2000-02-29".toUTF8.data.toList) := by
  intro leap last
  have hleap : date? leap "2000-02-29" = some leap := by decide +kernel
  have hlast : date? leap "1999-12-31" = some last := by decide +kernel
  have ⟨hiff, htext, _⟩ := date?_denotes leap "2000-02-29"
  have ⟨_, _, horder⟩ := date?_denotes leap "1999-12-31"
  exact ⟨hleap, hlast, ((hiff leap).mp hleap).left, htext leap hleap,
    horder leap "2000-02-29" last leap hlast hleap⟩

end Preamble

end ProposalLint
