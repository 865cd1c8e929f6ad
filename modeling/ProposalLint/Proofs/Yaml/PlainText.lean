import Mathlib.Data.List.DropRight
import ProposalLint.Yaml.Scalar

namespace ProposalLint.Yaml

-- A word ends in front of these characters.
def endsHere (cs : List Char) : Bool :=
  Cursor.isOrEnd (fun x => isBlank x || isBreak x) cs.head?

-- Something else than a blank or a break, or the end of the text.
def isSettled (cs : List Char) : Bool :=
  cs.head?.all fun x => !isBlank x && !isBreak x

-- A line ends where the text does, or with a line feed. The next line may not start with a gap.
def isLineEnd : List Char → Bool
  | [] => true
  | x :: cs => x == '\n' && isSettled cs

-- What may stand in a plain scalar on one line: no comment, no colon at the end of a word and no
-- line break cuts it short.
def isPlainText (afterBlank : Bool) : List Char → Bool
  | [] => true
  | x :: cs =>
    isAllowed x && !isBreak x && !(x == ':' && endsHere cs) && !(x == '#' && afterBlank)
      && isPlainText (isBlank x) cs

theorem endsHere_append (h : endsHere tail) (cs : List Char) :
    endsHere (cs ++ tail) = endsHere cs := by
  cases cs <;> simp_all [endsHere, Cursor.isOrEnd]

theorem endsHere_of_isLineEnd (h : isLineEnd tail) : endsHere tail := by
  cases tail
  case nil => rfl
  case cons => simp_all [isLineEnd, endsHere, Cursor.isOrEnd, isBreak]

theorem isPlainText_right (h : isPlainText b (cs ++ ds)) : ∃ b', isPlainText b' ds := by
  induction cs generalizing b
  case nil => exact ⟨b, h⟩
  case cons x cs ih => exact ih (b := isBlank x) (by simp_all [isPlainText])

theorem isPlainText_behind_blanks (h : isPlainText b (bs ++ cs)) (hb : bs.all isBlank)
    (hne : bs ≠ []) : isPlainText true cs := by
  induction bs generalizing b
  case nil => contradiction
  case cons x bs ih =>
    have ⟨hx, hb⟩ : isBlank x ∧ bs.all isBlank := by simpa using hb
    have h' : isPlainText true (bs ++ cs) := by simp_all [isPlainText]
    cases hbs : bs
    case nil => simpa [hbs] using h'
    case cons => exact ih h' hb (by simp [hbs])

theorem head?_dropWhile_all (p : Char → Bool) (cs : List Char) :
    (cs.dropWhile p).head?.all (!p ·) := by
  have := List.head?_dropWhile_not p cs
  cases h : (cs.dropWhile p).head? <;> simp_all

theorem toNat_of_isNameChar (hx : isNameChar x) : 45 ≤ x.toNat ∧ x.toNat ≤ 122 := by
  delta isNameChar Char.isAlphanum Char.isAlpha Char.isUpper Char.isLower Char.isDigit at hx
  simp only [Bool.or_eq_true, Bool.and_eq_true, decide_eq_true_eq, beq_iff_eq, ge_iff_le,
    UInt32.le_iff_toNat_le, Char.toNat_val] at hx
  rcases hx with (h | rfl) | rfl
  · simp only [Char.reduceToNat] at h
    omega
  · decide
  · decide

theorem ne_of_isNameChar (hx : isNameChar x) (y : Char) (hy : isNameChar y = false) : x ≠ y := by
  rintro rfl
  simp_all

theorem forall_ne_of_isNameChar (hx : isNameChar x) (cs : List Char)
    (h : cs.all fun y => !isNameChar y) : ∀ y ∈ cs, x ≠ y :=
  fun y hy => ne_of_isNameChar hx y (by simpa using List.all_eq_true.mp h y hy)

namespace Cursor

variable {c : Cursor}

-- The cursor behind some characters of the same line.
def past (c : Cursor) (n : Nat) : Cursor :=
  ⟨c.rest.drop n, c.index + n, c.line, c.column + n⟩

@[simp]
theorem past_zero (c : Cursor) : c.past 0 = c :=
  rfl

@[simp]
theorem past_past (c : Cursor) (m n : Nat) : (c.past m).past n = c.past (m + n) := by
  simp [past, Nat.add_assoc]

theorem skip_eq_past (c : Cursor) : c.skip = c.past 1 := by
  simp [past, skip]

theorem rest_past (h : c.rest = cs ++ ds) : (c.past cs.length).rest = ds := by
  simp [past, h]

theorem endsWord_one (h : c.rest = x :: cs) : c.endsWord 1 = endsHere cs := by
  simp [endsWord, endsHere, peekAt, h, List.head?_eq_getElem?]

theorem peek_cons (h : c.rest = x :: cs) : c.peek = some x := by
  simp [peek, h]

theorem peek_nil (h : c.rest = []) : c.peek = none := by
  simp [peek, h]

theorem atAnyDocumentMark_eq_false (h : 0 < c.column) : c.atAnyDocumentMark = false := by
  simp [atAnyDocumentMark, atDocumentMark, Nat.ne_of_gt h]

end Cursor

namespace Gap

theorem scan_append {c : Cursor} {g : Gap} (hc : c.rest = bs ++ cs) (hb : bs.all isBlank)
    (hg : g.broken = false) (indent fuel : Nat) :
    scan indent (bs.length + fuel) c g =
      scan indent fuel (c.past bs.length) { g with blanks := g.blanks ++ bs } := by
  induction bs generalizing c g
  case nil => simp
  case cons x bs ih =>
    have ⟨hx, hb⟩ : isBlank x ∧ bs.all isBlank := by simpa using hb
    have hs : c.skip.rest = bs ++ cs := by simp [Cursor.skip, hc]
    rw [List.length_cons, Nat.add_right_comm, scan, c.peek_cons hc]
    simp only [hx, hg, Bool.false_and, Bool.false_eq_true, if_false, if_true]
    rw [ih hs hb (by simp [addBlank, hg])]
    simp [addBlank, hg, c.skip_eq_past, Nat.add_comm]

theorem scan_settled {c : Cursor} (h : isSettled c.rest) (indent fuel : Nat) (g : Gap) :
    scan indent (fuel + 1) c g = some (c, g) := by
  unfold isSettled at h
  cases hc : c.rest
  case nil => simp [scan, c.peek_nil hc]
  case cons x cs => simp_all [scan, c.peek_cons hc]

-- Blanks between two words.
theorem scan_blanks {c : Cursor} {g : Gap} (hc : c.rest = bs ++ cs) (hb : bs.all isBlank)
    (hs : isSettled cs) (hg : g.broken = false) (indent : Nat) :
    scan indent (c.rest.length + 1) c g =
      some (c.past bs.length, { g with blanks := g.blanks ++ bs }) := by
  rw [hc, List.length_append, Nat.add_assoc, scan_append hc hb hg]
  exact scan_settled (by rwa [Cursor.rest_past hc]) ..

-- Blanks at the end of a line.
theorem scan_line {c : Cursor} {g : Gap} (hc : c.rest = bs ++ '\n' :: cs) (hb : bs.all isBlank)
    (hs : isSettled cs) (hg : g.broken = false) (indent : Nat) :
    ∃ c' g', scan indent (c.rest.length + 1) c g = some (c', g') ∧
      c'.rest = cs ∧ c'.column = 0 ∧ g'.broken := by
  have hp := Cursor.rest_past hc
  have ⟨c', hn, hr, hcol⟩ :
      ∃ c', (c.past bs.length).skipBreak = c' ∧ c'.rest = cs ∧ c'.column = 0 := by
    simp [Cursor.skipBreak, hp, isBreak]
  refine ⟨c', addBreak { g with blanks := g.blanks ++ bs } (c.past bs.length), ?_, hr, hcol, ?_⟩
  · rw [hc, List.length_append, Nat.add_assoc, scan_append hc hb hg, List.length_cons, scan,
      (c.past bs.length).peek_cons hp]
    simp only [hn, isBlank, isBreak]
    exact scan_settled (by rwa [hr]) ..
  · simp [addBreak, hg]

end Gap

namespace Scalar

-- Where a word of plain text ends: at a blank, at a line break, or at a colon that ends it.
def stopsWord : List Char → Bool
  | [] => true
  | x :: cs => isBlank x || isBreak x || (x == ':' && endsHere cs)

def wordLength : List Char → Nat
  | [] => 0
  | x :: cs => if stopsWord (x :: cs) then 0 else wordLength cs + 1

theorem plainWord_eq {c : Cursor} (hfuel : c.rest.length < fuel) (done : List Char) :
    plainWord false fuel c done =
      some (c.past (wordLength c.rest), (c.rest.take (wordLength c.rest)).reverse ++ done) := by
  generalize hc : c.rest = cs at hfuel ⊢
  induction cs generalizing c fuel done
  case nil =>
    have ⟨fuel, hf⟩ := Nat.exists_eq_add_one.mpr (Nat.zero_lt_of_lt hfuel)
    simp [hf, plainWord, c.peek_nil hc, wordLength]
  case cons x cs ih =>
    have ⟨fuel, hf⟩ := Nat.exists_eq_add_one.mpr (Nat.zero_lt_of_lt hfuel)
    subst hf
    have hs : c.skip.rest = cs := by simp [Cursor.skip, hc]
    simp only [plainWord, c.peek_cons hc, c.endsWord_one hc, Bool.false_and, Bool.or_false,
      Bool.false_eq_true, if_false]
    rw [ih (x :: done) hs (by simpa using hfuel), wordLength, stopsWord]
    by_cases hx : isBlank x || isBreak x
    · simp [hx]
    · by_cases hk : x == ':' && endsHere cs
      · simp [hx, hk]
      · simp [hx, hk, c.skip_eq_past, Nat.add_comm 1]

-- Inside a plain text only blanks end a word.
theorem wordLength_append (h : isPlainText b cs) (ht : endsHere tail) :
    wordLength (cs ++ tail) = (cs.takeWhile (!isBlank ·)).length := by
  induction cs generalizing b
  case nil => cases tail <;> simp_all [wordLength, stopsWord, endsHere, Cursor.isOrEnd]
  case cons x cs ih =>
    simp only [isPlainText, Bool.and_eq_true, Bool.not_eq_true'] at h
    have ⟨⟨⟨⟨_, hx⟩, hk⟩, _⟩, hcs⟩ := h
    have hs : stopsWord (x :: (cs ++ tail)) = isBlank x := by
      simp only [stopsWord, endsHere_append ht, hx, hk, Bool.or_false]
    rw [List.cons_append, wordLength, hs, ih hcs]
    by_cases hx : isBlank x <;> simp [hx]

theorem plainWord_append {c : Cursor} (hc : c.rest = cs ++ tail) (h : isPlainText b cs)
    (ht : endsHere tail) :
    plainWord false (c.rest.length + 1) c [] =
      some (c.past (cs.takeWhile (!isBlank ·)).length, (cs.takeWhile (!isBlank ·)).reverse) := by
  rw [plainWord_eq (Nat.lt_succ_self _), hc, wordLength_append h ht]
  have hp : (cs.takeWhile (!isBlank ·)) <+: cs ++ tail :=
    (List.takeWhile_prefix _).trans (List.prefix_append ..)
  rw [← List.prefix_iff_eq_take.mp hp, List.append_nil]

-- The text without the blanks at its end.
def trimmed (cs : List Char) : List Char :=
  cs.rdropWhile isBlank

theorem trimmed_blanks (h : bs.all isBlank) : trimmed bs = [] := by
  simpa [trimmed] using h

theorem trimmed_append (h : w.all (!isBlank ·)) (hne : w ≠ []) (gap cs : List Char) :
    trimmed (gap ++ (w ++ cs)) = gap ++ w ++ trimmed cs := by
  have ⟨x, w', hw⟩ := List.exists_cons_of_ne_nil (List.reverse_ne_nil_iff.mpr hne)
  have hx : isBlank x = false := by
    have hmem : x ∈ w := List.mem_reverse.mp (hw ▸ List.mem_cons_self)
    simpa using List.all_eq_true.mp h x hmem
  have hw' : w = w'.reverse ++ [x] := by simp [← List.reverse_inj, hw]
  simp only [trimmed, List.rdropWhile, List.reverse_append, hw, List.dropWhile_append]
  split
  case isTrue he => simp [hx, hw', List.isEmpty_iff.mp he]
  case isFalse => simp [hw']

-- What the reader does behind a word.
def plainRest (fuel : Nat) (c : Cursor) (g : Gap) (text : List Char) :
    Option (Cursor × List Char × Bool) :=
  if !(c.satisfies fun x => isBlank x || isBreak x) then some (c, text, g.broken)
  else do
    let (c', g) ← Gap.scan 1 (c.rest.length + 1) c g
    if c'.column < 1 then some (c', text, g.broken) else plainFrom false 1 fuel c' g text

theorem plainFrom_word {c : Cursor} {g : Gap} (hc : c.rest = cs ++ tail) (hcol : 0 < c.column)
    (hcs : isPlainText true cs) (ht : isLineEnd tail) (hg : g.broken = false) (fuel : Nat)
    (text : List Char) :
    plainFrom false 1 (fuel + 1) c g text =
      let word := cs.takeWhile (!isBlank ·)
      if word.isEmpty then plainRest fuel (c.past word.length) g text
      else plainRest fuel (c.past word.length) {} (word.reverse ++ g.blanks.reverse ++ text) := by
  have hhash : c.is '#' = false := by
    simp only [Cursor.is, Cursor.peek, hc, beq_eq_false_iff_ne]
    cases cs
    case nil => cases tail <;> simp_all [isLineEnd]
    case cons x cs => simp_all [isPlainText]
  rw [plainFrom, Cursor.atAnyDocumentMark_eq_false hcol, hhash,
    plainWord_append hc hcs (endsHere_of_isLineEnd ht)]
  cases cs.takeWhile (!isBlank ·)
  case nil => simp [plainRest]
  case cons => simp [plainRest, Gap.fold, hg]

theorem plainRest_blanks {c : Cursor} {g : Gap} (hc : c.rest = bs ++ cs) (hcol : 0 < c.column)
    (hb : bs.all isBlank) (hne : bs ≠ []) (hs : isSettled cs) (hg : g.broken = false)
    (fuel : Nat) (text : List Char) :
    plainRest fuel c g text =
      plainFrom false 1 fuel (c.past bs.length) { g with blanks := g.blanks ++ bs } text := by
  have hsat : c.satisfies fun x => isBlank x || isBreak x := by
    cases bs <;> simp_all [Cursor.satisfies, Cursor.peek]
  rw [plainRest, hsat, Gap.scan_blanks hc hb hs hg]
  simp [Cursor.past, Nat.ne_of_gt hcol]

theorem plainRest_nil {c : Cursor} {g : Gap} (hc : c.rest = []) (hg : g.broken = false)
    (fuel : Nat) (text : List Char) : plainRest fuel c g text = some (c, text, false) := by
  simp [plainRest, Cursor.satisfies, c.peek_nil hc, hg]

theorem plainFrom_nil {c : Cursor} {g : Gap} (hc : c.rest = []) (hcol : 0 < c.column)
    (hg : g.broken = false) (fuel : Nat) (text : List Char) :
    plainFrom false 1 (fuel + 1) c g text = some (c, text, false) := by
  have hc' : c.rest = [] ++ [] := hc
  rw [plainFrom_word hc' hcol rfl rfl hg]
  exact plainRest_nil hc hg fuel text

-- Nothing but blanks is left of the line.
theorem plainRest_line {c : Cursor} {g : Gap} (hc : c.rest = bs ++ tail) (hcol : 0 < c.column)
    (hb : bs.all isBlank) (ht : isLineEnd tail) (hg : g.broken = false)
    (hfuel : bs.length ≤ fuel) (text : List Char) :
    ∃ c', plainRest fuel c g text = some (c', text, !tail.isEmpty) ∧
      c'.rest = tail.tail ∧ (tail ≠ [] → c'.column = 0) := by
  cases tail
  case nil =>
    have hr := Cursor.rest_past hc
    refine ⟨c.past bs.length, ?_, hr, by simp⟩
    by_cases hbs : bs = []
    case pos =>
      subst hbs
      exact plainRest_nil hc hg ..
    case neg =>
      obtain ⟨fuel, hf⟩ := Nat.exists_eq_add_one.mpr
        (Nat.lt_of_lt_of_le (List.length_pos_iff.mpr hbs) hfuel)
      rw [plainRest_blanks hc hcol hb hbs rfl hg, hf]
      exact plainFrom_nil hr (Nat.lt_add_right _ hcol) (by exact hg) ..
  case cons x next =>
    simp only [isLineEnd, Bool.and_eq_true, beq_iff_eq] at ht
    obtain ⟨rfl, hs⟩ := ht
    obtain ⟨c', g', hscan, hr, hcol', hbr⟩ := Gap.scan_line hc hb hs hg 1
    have hsat : c.satisfies fun x => isBlank x || isBreak x := by
      cases bs <;> simp_all [Cursor.satisfies, Cursor.peek, isBreak]
    refine ⟨c', ?_, hr, fun _ => hcol'⟩
    simp [plainRest, hsat, hscan, hcol', hbr]

-- A text of words: a word and blanks, behind which the text ends or goes on with words.
inductive Words : List Char → Prop
  | last : (w ≠ []) → (w.all (!isBlank ·)) → (bs.all isBlank) → Words (w ++ bs)
  | more : (w ≠ []) → (w.all (!isBlank ·)) → (bs ≠ []) → (bs.all isBlank) → Words cs →
      Words (w ++ (bs ++ cs))

namespace Words

theorem exists_head (h : Words cs) : ∃ x ds, cs = x :: ds ∧ isBlank x = false := by
  cases h
  case last hne hw _ | more hne hw _ _ _ =>
    obtain ⟨x, w, rfl⟩ := List.exists_cons_of_ne_nil hne
    exact ⟨x, _, rfl, by simp_all⟩

-- A word, the blanks behind it, and a rest that begins with a word again.
theorem exists_split (hne : cs ≠ []) (hh : cs.head?.all (!isBlank ·)) : ∃ w bs v,
    cs = w ++ (bs ++ v) ∧ w ≠ [] ∧ w.all (!isBlank ·) ∧ bs.all isBlank ∧
      v.head?.all (!isBlank ·) ∧ (v ≠ [] → bs ≠ []) := by
  let u := cs.dropWhile (!isBlank ·)
  have hu : u.takeWhile isBlank ++ u.dropWhile isBlank = u := List.takeWhile_append_dropWhile
  have huh : u.head?.all (!!isBlank ·) := head?_dropWhile_all ..
  have hvh : (u.dropWhile isBlank).head?.all (!isBlank ·) := head?_dropWhile_all ..
  refine ⟨cs.takeWhile (!isBlank ·), u.takeWhile isBlank, u.dropWhile isBlank, ?whole, ?word,
    List.all_takeWhile, List.all_takeWhile, hvh, fun hv hnil => ?blanks⟩
  case whole =>
    rw [hu]
    exact List.takeWhile_append_dropWhile.symm
  case word =>
    obtain ⟨x, ds, rfl⟩ := List.exists_cons_of_ne_nil hne
    have hx : isBlank x = false := by simpa using hh
    simp [hx]
  case blanks =>
    -- The rest would begin where the word ends, with a blank.
    rw [hnil, List.nil_append] at hu
    rw [hu] at hv hvh
    obtain ⟨x, ds, he⟩ := List.exists_cons_of_ne_nil hv
    simp_all

-- Every text that does not begin with a blank is one of words.
theorem of_head? (hne : cs ≠ []) (hh : cs.head?.all (!isBlank ·)) : Words cs := by
  induction hn : cs.length using Nat.strong_induction_on generalizing cs
  case h n ih =>
    have ⟨w, bs, v, hcs, hwne, hw, hbs, hvh, hbne⟩ := exists_split hne hh
    subst hcs
    by_cases hv : v = []
    case pos =>
      rw [hv, List.append_nil]
      exact .last hwne hw hbs
    case neg =>
      have hlen : v.length < n := by
        have := List.length_pos_iff.mpr hwne
        rw [← hn, List.length_append, List.length_append]
        omega
      exact .more hwne hw (hbne hv) hbs (ih v.length hlen hv hvh rfl)

end Words

theorem takeWhile_word {w cs : List Char} (hw : w.all (!isBlank ·)) (h : cs.head?.all isBlank) :
    (w ++ cs).takeWhile (!isBlank ·) = w := by
  rw [List.takeWhile_append_of_pos (by simpa using hw)]
  cases cs <;> simp_all

-- One round of the reader takes in a word, and leaves what is behind it.
theorem plainFrom_cons {c : Cursor} {g : Gap} (hc : c.rest = w ++ u ++ tail) (hcol : 0 < c.column)
    (hcs : isPlainText true (w ++ u)) (hne : w ≠ []) (hw : w.all (!isBlank ·))
    (hu : u.head?.all isBlank) (ht : isLineEnd tail) (hg : g.broken = false) (fuel : Nat)
    (text : List Char) :
    plainFrom false 1 (fuel + 1) c g text =
      plainRest fuel (c.past w.length) {} (w.reverse ++ g.blanks.reverse ++ text) := by
  rw [plainFrom_word hc hcol hcs ht hg]
  simp only [takeWhile_word hw hu]
  exact if_neg (by simpa using hne)

theorem isSettled_append (h : Words cs) (hcs : isPlainText b cs) (tail : List Char) :
    isSettled (cs ++ tail) := by
  obtain ⟨x, ds, rfl, hx⟩ := h.exists_head
  simp only [isPlainText, Bool.and_eq_true] at hcs
  simp [isSettled, hx, hcs]

theorem plainFrom_words {c : Cursor} {g : Gap} (h : Words cs) (hc : c.rest = cs ++ tail)
    (hcol : 0 < c.column) (hcs : isPlainText true cs) (ht : isLineEnd tail)
    (hg : g.broken = false) (hfuel : cs.length ≤ fuel) (text : List Char) :
    ∃ c', plainFrom false 1 (fuel + 1) c g text =
        some (c', (trimmed (g.blanks ++ cs)).reverse ++ text, !tail.isEmpty) ∧
      c'.rest = tail.tail ∧ (tail ≠ [] → c'.column = 0) := by
  induction h generalizing c g fuel text
  case last w bs hne hw hbs =>
    have hu : bs.head?.all isBlank := by cases bs <;> simp_all
    have hr : (c.past w.length).rest = bs ++ tail :=
      Cursor.rest_past (by rw [hc, List.append_assoc])
    have hlen : bs.length ≤ fuel := by
      rw [List.length_append] at hfuel
      omega
    rw [plainFrom_cons hc hcol hcs hne hw hu ht hg, trimmed_append hw hne, trimmed_blanks hbs]
    simpa using plainRest_line hr (Nat.lt_add_right _ hcol) hbs ht rfl hlen _
  case more w bs cs hne hw hbne hbs h ih =>
    have hu : (bs ++ cs).head?.all isBlank := by cases bs <;> simp_all
    have hr : (c.past w.length).rest = bs ++ (cs ++ tail) :=
      Cursor.rest_past (by rw [hc, List.append_assoc, List.append_assoc])
    have hcol' : 0 < (c.past w.length).column := Nat.lt_add_right _ hcol
    have ⟨_, hp⟩ := isPlainText_right hcs
    have hcs' : isPlainText true cs := isPlainText_behind_blanks hp hbs hbne
    have hpos := List.length_pos_iff.mpr hbne
    simp only [List.length_append] at hfuel
    have ⟨fuel, hf⟩ : ∃ f, fuel = f + 1 := Nat.exists_eq_add_one.mpr (by omega)
    subst hf
    have htext : (trimmed (g.blanks ++ (w ++ (bs ++ cs)))).reverse ++ text =
        (trimmed ([] ++ bs ++ cs)).reverse ++ (w.reverse ++ g.blanks.reverse ++ text) := by
      simp [trimmed_append hw hne]
    rw [plainFrom_cons hc hcol hcs hne hw hu ht hg, htext,
      plainRest_blanks hr hcol' hbs hbne (isSettled_append h hcs' tail) rfl]
    exact ih (Cursor.rest_past hr) (Nat.lt_add_right _ hcol') hcs' rfl (by omega) _

theorem plainFrom_line {c : Cursor} {g : Gap} (hc : c.rest = cs ++ tail) (hcol : 0 < c.column)
    (hcs : isPlainText true cs) (hh : cs.head?.all (!isBlank ·)) (ht : isLineEnd tail)
    (hg : g.broken = false) (hb : g.blanks.all isBlank) (hfuel : cs.length ≤ fuel)
    (text : List Char) :
    ∃ c', plainFrom false 1 (fuel + 1) c g text =
        some (c', (trimmed (g.blanks ++ cs)).reverse ++ text, !tail.isEmpty) ∧
      c'.rest = tail.tail ∧ (tail ≠ [] → c'.column = 0) := by
  by_cases hne : cs = []
  case pos =>
    subst hne
    rw [plainFrom_word hc hcol hcs ht hg, List.append_nil, trimmed_blanks hb]
    exact plainRest_line hc hcol rfl ht hg (Nat.zero_le fuel) text
  case neg => exact plainFrom_words (.of_head? hne hh) hc hcol hcs ht hg hfuel text

theorem plain_line {c : Cursor} (hc : c.rest = cs ++ tail) (hcol : 0 < c.column)
    (hcs : isPlainText true cs) (hh : cs.head?.all (!isBlank ·)) (ht : isLineEnd tail) :
    ∃ c', plain false 1 c = some (c', String.ofList (trimmed cs), !tail.isEmpty) ∧
      c'.rest = tail.tail ∧ (tail ≠ [] → c'.column = 0) := by
  have hfuel : cs.length ≤ c.rest.length := by simp [hc]
  have ⟨c', he, hc'⟩ := plainFrom_line (g := {}) hc hcol hcs hh ht rfl rfl hfuel []
  exact ⟨c', by simp [plain, he], hc'⟩

theorem stopsWord_name (hx : isNameChar x) (cs : List Char) : stopsWord (x :: cs) = false := by
  have hne := forall_ne_of_isNameChar hx
    [' ', '\t', '\n', '\r', '\u0085', '\u2028', '\u2029', ':'] (by decide)
  simp_all [stopsWord, isBlank, isBreak]

theorem wordLength_name (hn : name.all isNameChar) (hm : endsHere more) :
    wordLength (name ++ ':' :: more) = name.length := by
  induction name
  case nil => simp [wordLength, stopsWord, hm]
  case cons x name ih =>
    have ⟨hx, hn⟩ : isNameChar x ∧ name.all isNameChar := by simpa using hn
    rw [List.cons_append, wordLength, stopsWord_name hx, ih hn]
    rfl

-- A word that a colon ends.
theorem plain_name {c : Cursor} (hc : c.rest = x :: name ++ ':' :: more)
    (hn : (x :: name).all isNameChar) (hx : x ≠ '-') (hm : endsHere more) (indent : Nat) :
    plain false indent c =
      some (c.past (x :: name).length, String.ofList (x :: name), false) := by
  have hx' : isNameChar x := by simp_all
  have hmark : c.atAnyDocumentMark = false := by
    have := ne_of_isNameChar hx' '.' rfl
    simp [Cursor.atAnyDocumentMark, Cursor.atDocumentMark, hc, hx, this]
  have hhash : c.is '#' = false := by
    have := ne_of_isNameChar hx' '#' rfl
    simp [Cursor.is, Cursor.peek, hc, this]
  have hend : (c.past (x :: name).length).satisfies (fun x => isBlank x || isBreak x) = false := by
    rw [Cursor.satisfies, Cursor.peek_cons (Cursor.rest_past hc)]
    rfl
  rw [plain, plainFrom, hmark, hhash, plainWord_eq (Nat.lt_succ_self _), hc, wordLength_name hn hm]
  simp only [Bool.or_self, Bool.false_eq_true, if_false, Option.bind_eq_bind, Option.bind_some,
    hend]
  simp [Gap.fold]

end Scalar
end ProposalLint.Yaml
