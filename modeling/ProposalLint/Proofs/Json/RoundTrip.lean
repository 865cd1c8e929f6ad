import Mathlib.Data.List.Forall2
import ProposalLint.Json.Parser

namespace ProposalLint.Json

section Strings

theorem hexValue?_hexDigit : ∀ n < 16, hexValue? (hexDigit n) = some n := by
  decide

theorem readEscape_code (h : c.toNat < 32) (rest : List Char) :
    readEscape ('0' :: '0' :: hexDigit (c.toNat / 16) :: hexDigit (c.toNat % 16) :: rest) =
      some (c, rest) := by
  have hz : hexValue? '0' = some 0 := by decide
  have hd := hexValue?_hexDigit (c.toNat / 16) (by omega)
  have hm := hexValue?_hexDigit (c.toNat % 16) (by omega)
  have hn : c.toNat / 16 * 16 + c.toNat % 16 = c.toNat := Nat.div_add_mod' ..
  have hlow : ¬(0xD800 ≤ c.toNat ∧ c.toNat < 0xDC00) := by omega
  have hhigh : ¬(0xDC00 ≤ c.toNat ∧ c.toNat < 0xE000) := by omega
  simp [readEscape, readUnit, hz, hd, hm, hn, hlow, hhigh]

-- Each way to write a character is read as that character.
theorem readStringAux_escapeChar (c : Char) (fuel : Nat) (seen rest : List Char) :
    readStringAux (fuel + 1) seen (escapeChar c ++ rest) = readStringAux fuel (c :: seen) rest := by
  unfold escapeChar
  split_ifs
  case pos | pos | pos | pos | pos | pos | pos => subst c; simp [readStringAux]
  case pos h => simp [readStringAux, readEscape_code h]
  case neg hq hb _ _ _ _ _ hc => simp [readStringAux, hq, hb, hc]

theorem readStringAux_escaped {cs : List Char} (h : cs.length < fuel) (seen rest : List Char) :
    readStringAux fuel seen (cs.flatMap escapeChar ++ '"' :: rest) =
      some (seen.reverse ++ cs, rest) := by
  induction cs generalizing fuel seen
  case nil =>
    obtain ⟨fuel, rfl⟩ := Nat.exists_eq_succ_of_ne_zero (Nat.ne_zero_of_lt h)
    simp [readStringAux]
  case cons c cs ih =>
    obtain ⟨fuel, rfl⟩ := Nat.exists_eq_succ_of_ne_zero (Nat.ne_zero_of_lt h)
    rw [List.flatMap_cons, List.append_assoc, readStringAux_escapeChar,
      ih (Nat.lt_of_succ_lt_succ h)]
    simp

theorem length_le_length_escaped (cs : List Char) : cs.length ≤ (cs.flatMap escapeChar).length := by
  have hc (c : Char) : 1 ≤ (escapeChar c).length := by
    unfold escapeChar
    split_ifs <;> simp
  induction cs
  case nil => simp
  case cons c cs ih =>
    have := hc c
    simp only [List.length_cons, List.flatMap_cons, List.length_append]
    omega

theorem readString_escaped (s : String) (rest : List Char) :
    readString (s.toList.flatMap escapeChar ++ '"' :: rest) = some (s, rest) := by
  have hl := length_le_length_escaped s.toList
  have hf : s.toList.length < (s.toList.flatMap escapeChar ++ '"' :: rest).length + 1 := by
    simp only [List.length_append]
    omega
  rw [readString, readStringAux_escaped hf]
  simp

theorem toList_quote (s : String) :
    (quote s).toList = '"' :: (s.toList.flatMap escapeChar ++ ['"']) := by
  simp [quote]

end Strings

-- A text that cannot go on with a number in front of it.
def EndsNumber (rest : List Char) : Prop :=
  ∀ c ∈ rest.head?, ¬c.isDigit ∧ c ≠ '.' ∧ c ≠ 'e' ∧ c ≠ 'E'

section Numbers

variable {rest : List Char}

theorem digitsValue_toDigits (n : Nat) : digitsValue (Nat.toDigits 10 n) = n := by
  have h := @Nat.ofDigitChars_ten_toDigits n
  simp only [Nat.ofDigitChars_eq_foldl, Nat.mul_comm 10] at h
  exact h

theorem head?_toDigits_ne_zero (h : 0 < n) : (Nat.toDigits 10 n).head? ≠ some '0' := by
  induction n using Nat.strongRecOn
  case _ n ih =>
    by_cases hn : n < 10
    case pos =>
      rw [Nat.toDigits_of_lt_base hn]
      have digit : ∀ n < 10, 0 < n → n.digitChar ≠ '0' := by decide
      simpa using digit n hn h
    case neg =>
      have hq := ih (n / 10) (by omega) (by omega)
      rw [Nat.toDigits_of_base_le (by decide) (Nat.le_of_not_lt hn), List.head?_append]
      cases hd : (Nat.toDigits 10 (n / 10)).head?
      case none => exact absurd (List.head?_eq_none_iff.mp hd) Nat.toDigits_ne_nil
      case some d => simpa [hd] using hq

theorem readFraction_of_ends (h : EndsNumber rest) : readFraction rest = some ([], rest) := by
  unfold readFraction
  split
  case h_1 => exact absurd rfl (h '.' rfl).right.left
  case h_2 => rfl

theorem readExponent_of_ends (h : EndsNumber rest) : readExponent rest = some ([], rest) := by
  unfold readExponent
  split
  case h_1 c _ =>
    have ⟨_, _, he, hE⟩ := h c rfl
    simp [he, hE]
  case h_2 => rfl

-- A number is written without leading zeros, so that all of its digits are read.
theorem readNumber_toDigits (n : Nat) (h : EndsNumber rest) :
    readNumber (Nat.toDigits 10 n ++ rest) = some (natural n, rest) := by
  have hdigit : ∀ c ∈ Nat.toDigits 10 n, c.isDigit :=
    fun c hc => Nat.isDigit_of_mem_toDigits (by decide) (by decide) hc
  have hzero : ¬(1 < (Nat.toDigits 10 n).length ∧ (Nat.toDigits 10 n).head? = some '0') := by
    intro ⟨hl, hh⟩
    by_cases hn : n < 10
    case pos => simp [Nat.toDigits_of_lt_base hn] at hl
    case neg => exact head?_toDigits_ne_zero (by omega) hh
  have htake : (Nat.toDigits 10 n ++ rest).takeWhile Char.isDigit = Nat.toDigits 10 n := by
    rw [List.takeWhile_append_of_pos hdigit]
    cases rest
    case nil => simp
    case cons c _ => simp [(h c rfl).left]
  have hdrop : (Nat.toDigits 10 n ++ rest).dropWhile Char.isDigit = rest := by
    rw [List.dropWhile_append_of_pos hdigit]
    cases rest
    case nil => simp
    case cons c _ => simp [(h c rfl).left]
  have hvalue := digitsValue_toDigits n
  cases he : Nat.toDigits 10 n
  case nil => exact absurd he Nat.toDigits_ne_nil
  case cons d ds =>
    rw [he] at hdigit hzero htake hdrop hvalue
    have hsign : d ≠ '-' := by
      intro hd
      simpa [hd] using hdigit d List.mem_cons_self
    unfold readNumber
    split
    case h_1 sign cs hm =>
      have hm : [] = sign ∧ d :: ds ++ rest = cs := by simpa [hsign] using hm
      obtain ⟨rfl, rfl⟩ := hm
      rw [htake, hdrop, if_neg (by simpa using hzero), readFraction_of_ends h]
      simp [readExponent_of_ends h, hvalue]

end Numbers

section Readers

variable {bs cs rest : List Char}

theorem skipBlanks_append (h : ∀ c ∈ bs, isBlank c) (cs : List Char) :
    skipBlanks (bs ++ cs) = skipBlanks cs :=
  List.dropWhile_append_of_pos h

theorem skipBlanks_cons (h : ¬isBlank c) (cs : List Char) : skipBlanks (c :: cs) = c :: cs :=
  List.dropWhile_cons_of_neg h

theorem skipBlanks_skipBlanks (cs : List Char) : skipBlanks (skipBlanks cs) = skipBlanks cs := by
  induction cs
  case nil => rfl
  case cons c cs ih =>
    by_cases h : isBlank c
    case pos => simpa [skipBlanks, h] using ih
    case neg => simp [skipBlanks, h]

-- Blanks in front make no difference to any of the readers.

theorem readValue_skipBlanks (fuel : Nat) (cs : List Char) :
    readValue fuel (skipBlanks cs) = readValue fuel cs := by
  cases fuel
  case zero => simp [readValue]
  case succ => simp only [readValue, skipBlanks_skipBlanks]

theorem readItems_skipBlanks (fuel : Nat) (cs : List Char) :
    readItems fuel (skipBlanks cs) = readItems fuel cs := by
  cases fuel
  case zero => simp [readItems]
  case succ => simp only [readItems, readValue_skipBlanks]

theorem readMembers_skipBlanks (fuel : Nat) (cs : List Char) :
    readMembers fuel (skipBlanks cs) = readMembers fuel cs := by
  cases fuel
  case zero => simp [readMembers]
  case succ => simp only [readMembers, skipBlanks_skipBlanks]

theorem readItems_append (h : ∀ c ∈ bs, isBlank c) (fuel : Nat) (cs : List Char) :
    readItems fuel (bs ++ cs) = readItems fuel cs := by
  rw [← readItems_skipBlanks, skipBlanks_append h, readItems_skipBlanks]

theorem readMembers_append (h : ∀ c ∈ bs, isBlank c) (fuel : Nat) (cs : List Char) :
    readMembers fuel (bs ++ cs) = readMembers fuel cs := by
  rw [← readMembers_skipBlanks, skipBlanks_append h, readMembers_skipBlanks]

theorem readValue_string (fuel : Nat) (s : String) (rest : List Char) :
    readValue (fuel + 1) ((quote s).toList ++ rest) = some (string s, rest) := by
  have hq := @skipBlanks_cons '"' (by decide)
  simp [readValue, toList_quote, hq, readString_escaped]

theorem readValue_digit (h : c.isDigit) (fuel : Nat) (cs : List Char) :
    readValue (fuel + 1) (c :: cs) = readNumber (c :: cs) := by
  have hb : ¬isBlank c := by
    intro hb
    simp only [isBlank, Bool.or_eq_true, decide_eq_true_eq] at hb
    obtain ((hb | hb) | hb) | hb := hb <;> simp [hb] at h
  simp only [readValue, skipBlanks_cons hb]
  split <;> simp_all

theorem readValue_natural (fuel n : Nat) (h : EndsNumber rest) :
    readValue (fuel + 1) ((toString n).toList ++ rest) = some (natural n, rest) := by
  have hn := readNumber_toDigits n h
  rw [Nat.toString_eq_ofList_toDigits, String.toList_ofList]
  cases he : Nat.toDigits 10 n
  case nil => exact absurd he Nat.toDigits_ne_nil
  case cons d ds =>
    have hd : d.isDigit := Nat.isDigit_of_mem_toDigits (b := 10) (n := n) (by decide) (by decide)
      (he ▸ List.mem_cons_self)
    rw [he] at hn
    exact (readValue_digit hd fuel _).trans hn

-- What can be read as items or members does not start with the bracket that closes them.

theorem readItems_closing (fuel : Nat) (cs : List Char) : readItems fuel (']' :: cs) = none := by
  have hb := @skipBlanks_cons ']' (by decide)
  rcases fuel with _ | _ | fuel <;> simp [readItems, readValue, hb, readNumber]

theorem readMembers_closing (fuel : Nat) (cs : List Char) :
    readMembers fuel ('\x7d' :: cs) = none := by
  have hb := @skipBlanks_cons '\x7d' (by decide)
  cases fuel <;> simp [readMembers, hb]

theorem readValue_array (h : readItems fuel cs = some (xs, rest)) :
    readValue (fuel + 1) ('[' :: cs) = some (array xs, rest) := by
  have hb := @skipBlanks_cons '[' (by decide)
  simp only [readValue, hb]
  split
  case h_1 he => simp [← readItems_skipBlanks fuel cs, he, readItems_closing] at h
  case h_2 => simp [readItems_skipBlanks, h]

theorem readValue_object (h : readMembers fuel cs = some (ms, rest)) :
    readValue (fuel + 1) ('\x7b' :: cs) = some (object ms, rest) := by
  have hb := @skipBlanks_cons '\x7b' (by decide)
  simp only [readValue, hb]
  split
  case h_1 he => simp [← readMembers_skipBlanks fuel cs, he, readMembers_closing] at h
  case h_2 => simp [readMembers_skipBlanks, h]

end Readers

-- `Reads text v` says that `text` is read as `v`, no matter what comes behind it. Each bracket takes
-- two steps, one to open the value and one to go to its first part.
def Reads (text : List Char) (v : Json) : Prop :=
  ∀ fuel rest, EndsNumber rest → 2 * (text ++ rest).length < fuel →
    readValue fuel (text ++ rest) = some (v, rest)

theorem endsNumber_cons (h : ¬c.isDigit ∧ c ≠ '.' ∧ c ≠ 'e' ∧ c ≠ 'E') (cs : List Char) :
    EndsNumber (c :: cs) := by
  simpa [EndsNumber] using h

theorem endsNumber_append (h : ∀ c ∈ bs, isBlank c) (hc : EndsNumber cs) :
    EndsNumber (bs ++ cs) := by
  cases bs
  case nil => exact hc
  case cons b bs =>
    have hb := h b List.mem_cons_self
    simp only [isBlank, Bool.or_eq_true, decide_eq_true_eq] at hb
    refine endsNumber_cons ?_ _
    obtain ((hb | hb) | hb) | hb := hb <;> simp [hb]

-- `ReadsMember text m` says that `text` is the name of `m`, a colon and a text that is read as its
-- value.
def ReadsMember (text : List Char) (m : String × Json) : Prop :=
  ∃ value, text = (quote m.1).toList ++ ':' :: ' ' :: value ∧ Reads value m.2

section Parts

variable {text r nl nl' : List Char} {texts : List (List Char)}

theorem readItems_last (hx : Reads text x) (hf : 2 * (text ++ r).length < fuel)
    (he : EndsNumber r) (hr : skipBlanks r = ']' :: rest) :
    readItems (fuel + 1) (text ++ r) = some ([x], rest) := by
  simp [readItems, hx fuel r he hf, hr]

theorem readItems_more (hx : Reads text x) (hf : 2 * (text ++ ',' :: r).length < fuel)
    (hr : readItems fuel r = some (xs, rest)) :
    readItems (fuel + 1) (text ++ ',' :: r) = some (x :: xs, rest) := by
  have hv := hx fuel (',' :: r) (endsNumber_cons (by decide) r) hf
  simp [readItems, hv, skipBlanks_cons (c := ',') (by decide), hr]

-- Items with a comma and blanks between them.
theorem readItems_of_reads (hn : ∀ c ∈ nl, isBlank c) (hn' : ∀ c ∈ nl', isBlank c)
    (hx : Reads text x) (h : List.Forall₂ Reads texts xs) (rest : List Char)
    (hf : 2 * (List.intercalate (',' :: nl) (text :: texts) ++ (nl' ++ ']' :: rest)).length <
      fuel) :
    readItems (fuel + 1) (List.intercalate (',' :: nl) (text :: texts) ++ (nl' ++ ']' :: rest)) =
      some (x :: xs, rest) := by
  induction h generalizing text x fuel
  case nil =>
    have he : EndsNumber (nl' ++ ']' :: rest) :=
      endsNumber_append hn' (endsNumber_cons (by decide) _)
    rw [List.intercalate_singleton] at hf ⊢
    refine readItems_last hx hf he ?_
    rw [skipBlanks_append hn', skipBlanks_cons (by decide)]
  case cons text' x' texts xs hx' _ ih =>
    obtain ⟨fuel, rfl⟩ := Nat.exists_eq_succ_of_ne_zero (Nat.ne_zero_of_lt hf)
    rw [List.intercalate_cons_cons, List.append_assoc, List.append_assoc, List.cons_append] at hf ⊢
    have hf' : 2 * (List.intercalate (',' :: nl) (text' :: texts) ++
        (nl' ++ ']' :: rest)).length < fuel := by
      simp only [List.length_append, List.length_cons] at hf ⊢
      omega
    exact readItems_more hx hf ((readItems_append hn _ _).trans (ih hx' hf'))

theorem readMember (hm : ReadsMember text m) (hf : 2 * (text ++ r).length < fuel)
    (he : EndsNumber r) :
    ∃ r' r'', skipBlanks (text ++ r) = '"' :: r' ∧ readString r' = some (m.1, ':' :: r'') ∧
      readValue fuel r'' = some (m.2, r) := by
  have ⟨value, ht, hv⟩ := hm
  rw [ht] at hf ⊢
  refine ⟨m.1.toList.flatMap escapeChar ++ '"' :: ':' :: ' ' :: (value ++ r),
    ' ' :: (value ++ r), ?_, readString_escaped .., ?_⟩
  case refine_1 => simp [toList_quote, skipBlanks_cons (c := '"') (by decide)]
  case refine_2 =>
    have hb : ∀ c ∈ [' '], isBlank c := by simp [isBlank]
    rw [← readValue_skipBlanks, ← List.singleton_append, skipBlanks_append hb,
      readValue_skipBlanks]
    refine hv fuel r he ?_
    simp only [List.length_append, List.length_cons] at hf ⊢
    omega

theorem readMembers_last (hm : ReadsMember text m) (hf : 2 * (text ++ r).length < fuel)
    (he : EndsNumber r) (hr : skipBlanks r = '\x7d' :: rest) :
    readMembers (fuel + 1) (text ++ r) = some ([m], rest) := by
  have ⟨_, _, hq, hs, hv⟩ := readMember hm hf he
  simp [readMembers, hq, hs, skipBlanks_cons (c := ':') (by decide), hv, hr]

theorem readMembers_more (hm : ReadsMember text m) (hf : 2 * (text ++ ',' :: r).length < fuel)
    (hr : readMembers fuel r = some (ms, rest)) :
    readMembers (fuel + 1) (text ++ ',' :: r) = some (m :: ms, rest) := by
  have ⟨_, _, hq, hs, hv⟩ := readMember hm hf (endsNumber_cons (by decide) r)
  simp [readMembers, hq, hs, skipBlanks_cons (c := ':') (by decide), hv,
    skipBlanks_cons (c := ',') (by decide), hr]

theorem readMembers_of_reads (hn : ∀ c ∈ nl, isBlank c) (hn' : ∀ c ∈ nl', isBlank c)
    (hm : ReadsMember text m) (h : List.Forall₂ ReadsMember texts ms) (rest : List Char)
    (hf : 2 * (List.intercalate (',' :: nl) (text :: texts) ++ (nl' ++ '\x7d' :: rest)).length <
      fuel) :
    readMembers (fuel + 1)
        (List.intercalate (',' :: nl) (text :: texts) ++ (nl' ++ '\x7d' :: rest)) =
      some (m :: ms, rest) := by
  induction h generalizing text m fuel
  case nil =>
    have he : EndsNumber (nl' ++ '\x7d' :: rest) :=
      endsNumber_append hn' (endsNumber_cons (by decide) _)
    rw [List.intercalate_singleton] at hf ⊢
    refine readMembers_last hm hf he ?_
    rw [skipBlanks_append hn', skipBlanks_cons (by decide)]
  case cons text' m' texts ms hm' _ ih =>
    obtain ⟨fuel, rfl⟩ := Nat.exists_eq_succ_of_ne_zero (Nat.ne_zero_of_lt hf)
    rw [List.intercalate_cons_cons, List.append_assoc, List.append_assoc, List.cons_append] at hf ⊢
    have hf' : 2 * (List.intercalate (',' :: nl) (text' :: texts) ++
        (nl' ++ '\x7d' :: rest)).length < fuel := by
      simp only [List.length_append, List.length_cons] at hf ⊢
      omega
    exact readMembers_more hm hf ((readMembers_append hn _ _).trans (ih hm' hf'))

theorem reads_items (hn : ∀ c ∈ nl, isBlank c) (hn' : ∀ c ∈ nl', isBlank c) (hx : Reads text x)
    (h : List.Forall₂ Reads texts xs) :
    Reads ('[' :: (nl ++ (List.intercalate (',' :: nl) (text :: texts) ++ (nl' ++ [']']))))
      (array (x :: xs)) := by
  intro fuel rest he hf
  simp only [List.cons_append, List.append_assoc, List.nil_append, List.length_append,
    List.length_cons] at hf ⊢
  obtain ⟨fuel, rfl⟩ := Nat.exists_eq_add_of_le' (m := 2) (n := fuel) (by omega)
  refine readValue_array ((readItems_append hn _ _).trans (readItems_of_reads hn hn' hx h rest ?_))
  simp only [List.length_append, List.length_cons]
  omega

theorem reads_members (hn : ∀ c ∈ nl, isBlank c) (hn' : ∀ c ∈ nl', isBlank c)
    (hm : ReadsMember text m) (h : List.Forall₂ ReadsMember texts ms) :
    Reads ('\x7b' :: (nl ++ (List.intercalate (',' :: nl) (text :: texts) ++ (nl' ++ ['\x7d']))))
      (object (m :: ms)) := by
  intro fuel rest he hf
  simp only [List.cons_append, List.append_assoc, List.nil_append, List.length_append,
    List.length_cons] at hf ⊢
  obtain ⟨fuel, rfl⟩ := Nat.exists_eq_add_of_le' (m := 2) (n := fuel) (by omega)
  refine readValue_object
    ((readMembers_append hn _ _).trans (readMembers_of_reads hn hn' hm h rest ?_))
  simp only [List.length_append, List.length_cons]
  omega

end Parts

-- A value in which no number is given by its text.
inductive Plain : Json → Prop
  | null : Plain null
  | bool : Plain (bool b)
  | natural : Plain (natural n)
  | string : Plain (string s)
  | array : (∀ x ∈ xs, Plain x) → Plain (array xs)
  | object : (∀ m ∈ ms, Plain m.2) → Plain (object ms)

section Pretty

variable {v : Json}

theorem prettyItems_eq_map (depth : Nat) (xs : List Json) :
    prettyItems depth xs = xs.map (prettyAt depth) := by
  induction xs
  case nil => simp [prettyItems]
  case cons x xs ih => simp [prettyItems, ih]

theorem prettyMembers_eq_map (depth : Nat) (ms : List (String × Json)) :
    prettyMembers depth ms = ms.map fun m => quote m.1 ++ ": " ++ prettyAt depth m.2 := by
  induction ms
  case nil => simp [prettyMembers]
  case cons m ms ih => simp [prettyMembers, ih]

theorem isBlank_of_mem_newline (depth : Nat) : ∀ c ∈ (newline depth).toList, isBlank c := by
  simp [newline, isBlank]

theorem toList_block (opening closing : String) (depth : Nat) (part : String)
    (parts : List String) :
    (block opening closing depth (part :: parts)).toList = opening.toList ++
      ((newline (depth + 1)).toList ++
        (List.intercalate (',' :: (newline (depth + 1)).toList)
          (part.toList :: parts.map String.toList) ++
            ((newline depth).toList ++ closing.toList))) := by
  simp [block, String.toList_intercalate]

theorem forall₂_map_left {β : Type} {R : α → β → Prop} {f : β → α} {xs : List β}
    (h : ∀ x ∈ xs, R (f x) x) : List.Forall₂ R (xs.map f) xs := by
  rw [List.forall₂_map_left_iff]
  exact List.forall₂_same.mpr h

theorem reads_array (h : ∀ x ∈ xs, ∀ depth, Reads (prettyAt depth x).toList x) (depth : Nat) :
    Reads (prettyAt depth (array xs)).toList (array xs) := by
  rw [prettyAt, prettyItems_eq_map]
  cases xs
  case nil =>
    intro fuel rest _ hf
    obtain ⟨fuel, rfl⟩ := Nat.exists_eq_succ_of_ne_zero (Nat.ne_zero_of_lt hf)
    simp [block, readValue, skipBlanks_cons (c := '[') (by decide),
      skipBlanks_cons (c := ']') (by decide)]
  case cons x xs =>
    have ⟨hx, hxs⟩ := List.forall_mem_cons.mp h
    rw [List.map_cons, toList_block, List.map_map]
    exact reads_items (isBlank_of_mem_newline _) (isBlank_of_mem_newline _) (hx _)
      (forall₂_map_left fun x hm => hxs x hm _)

theorem reads_object (h : ∀ m ∈ ms, ∀ depth, Reads (prettyAt depth m.2).toList m.2) (depth : Nat) :
    Reads (prettyAt depth (object ms)).toList (object ms) := by
  have hmember (m : String × Json) (hm : ∀ depth, Reads (prettyAt depth m.2).toList m.2) :
      ReadsMember (quote m.1 ++ ": " ++ prettyAt (depth + 1) m.2).toList m :=
    ⟨_, by simp, hm (depth + 1)⟩
  rw [prettyAt, prettyMembers_eq_map]
  cases ms
  case nil =>
    intro fuel rest _ hf
    obtain ⟨fuel, rfl⟩ := Nat.exists_eq_succ_of_ne_zero (Nat.ne_zero_of_lt hf)
    simp [block, readValue, skipBlanks_cons (c := '\x7b') (by decide),
      skipBlanks_cons (c := '\x7d') (by decide)]
  case cons m ms =>
    have ⟨hm, hms⟩ := List.forall_mem_cons.mp h
    rw [List.map_cons, toList_block, List.map_map]
    exact reads_members (isBlank_of_mem_newline _) (isBlank_of_mem_newline _) (hmember m hm)
      (forall₂_map_left fun m hm => hmember m (hms m hm))

theorem reads_prettyAt (h : Plain v) (depth : Nat) : Reads (prettyAt depth v).toList v := by
  induction h generalizing depth
  case array xs _ ih => exact reads_array ih depth
  case object ms _ ih => exact reads_object ih depth
  all_goals
    intro fuel rest he hf
    obtain ⟨fuel, rfl⟩ := Nat.exists_eq_succ_of_ne_zero (Nat.ne_zero_of_lt hf)
    rw [prettyAt]
  case null => simp [readValue, skipBlanks_cons (c := 'n') (by decide)]
  case bool b =>
    cases b
    case true => simp [readValue, skipBlanks_cons (c := 't') (by decide)]
    case false => simp [readValue, skipBlanks_cons (c := 'f') (by decide)]
  case natural n => exact readValue_natural fuel n he
  case string s => exact readValue_string fuel s rest

-- What is written on lines of its own is read as what it was.
theorem parse?_pretty (h : Plain v) : parse? (v.pretty ++ "\n") = some v := by
  have ht : (v.pretty ++ "\n").toList = v.pretty.toList ++ ['\n'] := by simp
  have hv : readValue (2 * (v.pretty.toList ++ ['\n']).length + 2) (v.pretty.toList ++ ['\n']) =
      some (v, ['\n']) :=
    reads_prettyAt h 0 _ _ (endsNumber_cons (by decide) _) (Nat.lt_add_of_pos_right (by decide))
  rw [parse?, ht, hv]
  rfl

end Pretty
end ProposalLint.Json
