import Mathlib.Data.List.Basic
import Mathlib.Data.List.Forall2
import Mathlib.Data.List.TakeWhile
import ProposalLint.Preamble.Author

namespace ProposalLint.Preamble

namespace Author

-- A name begins with a word character; dots and blanks may follow.
inductive Name : List Char → Prop
  | mk : Text.isWord c → (∀ d ∈ cs, d = '.' ∨ Text.isWord d ∨ Text.isWhitespace d) → Name (c :: cs)

-- A mail address has something on both sides of an `@`, and no line feed.
inductive Address : List Char → Prop
  | mk : x ≠ [] → y ≠ [] → '\n' ∉ x → '\n' ∉ y → Address (x ++ '@' :: y)

-- Letters and digits, each with at most one hyphen in front.
inductive Groups : Nat → List Char → Prop
  | nil    : Groups 0 []
  | plain  : (c.isAlpha ∨ Text.isDecimalDigit c) → Groups n cs → Groups (n + 1) (c :: cs)
  | hyphen : (c.isAlpha ∨ Text.isDecimalDigit c) → Groups n cs → Groups (n + 1) ('-' :: c :: cs)

inductive Account : List Char → Prop
  | mk : (c.isAlpha ∨ Text.isDecimalDigit c) → Groups n cs → n ≤ 38 → Account (c :: cs)

-- How an account is marked as one.
def mark (account : List Char) : List Char :=
  '(' :: '@' :: (account ++ [')'])

-- The ways to write an author, with the account that is told.
inductive Written : List Char → Option (List Char) → Prop
  | name    : Name n → Written n none
  | address : Name n → Address a → Written (n ++ ' ' :: '<' :: (a ++ ['>'])) none
  | account : Name n → Account u → Written (n ++ mark u) (some u)
  | both    : Name n → Address a → Account u →
      Written (n ++ ' ' :: '<' :: (a ++ '>' :: ' ' :: mark u)) (some u)

section Account

variable {cs u : List Char}

theorem isAccountChar_iff : isAccountChar c ↔ c.isAlpha ∨ Text.isDecimalDigit c := by
  simp [isAccountChar]

theorem accountGroups_eq_some_iff : accountGroups cs = some n ↔ Groups n cs := by
  constructor
  case mp =>
    intro h
    fun_induction accountGroups cs generalizing n
    case case1 =>
      cases h
      exact .nil
    case case2 c cs hc ih =>
      have ⟨m, hm, hn⟩ := Option.map_eq_some_iff.mp h
      exact hn ▸ .hyphen (isAccountChar_iff.mp hc) (ih hm)
    case case4 c cs _ hc ih =>
      have ⟨m, hm, hn⟩ := Option.map_eq_some_iff.mp h
      exact hn ▸ .plain (isAccountChar_iff.mp hc) (ih hm)
    all_goals cases h
  case mpr =>
    intro h
    induction h
    case nil => rfl
    case plain c n cs hc _ ih =>
      have hne : c ≠ '-' := by
        rintro rfl
        revert hc
        decide
      rw [accountGroups, if_pos (isAccountChar_iff.mpr hc), ih]
      · rfl
      · exact fun _ _ he => absurd he hne
    case hyphen c n cs hc _ ih =>
      rw [accountGroups, if_pos (isAccountChar_iff.mpr hc), ih]
      rfl

theorem isAccount_iff : isAccount cs ↔ Account cs := by
  constructor
  case mp =>
    intro h
    cases cs
    case nil => cases h
    case cons c cs =>
      simp only [isAccount, Bool.and_eq_true, Option.any_eq_true, decide_eq_true_eq] at h
      obtain ⟨hc, n, hg, hn⟩ := h
      exact .mk (isAccountChar_iff.mp hc) (accountGroups_eq_some_iff.mp hg) hn
  case mpr =>
    intro h
    cases h
    case mk hc hg hn =>
      simp [isAccount, isAccountChar_iff.mpr hc, accountGroups_eq_some_iff.mpr hg, hn]

theorem isAccountMark_iff : isAccountMark cs ↔ ∃ u, Account u ∧ cs = mark u := by
  constructor
  case mp =>
    intro h
    unfold isAccountMark at h
    split at h
    case h_1 cs =>
      simp only [Bool.and_eq_true, beq_iff_eq, isAccount_iff] at h
      have ⟨u, hu⟩ := List.getLast?_eq_some_iff.mp h.left
      refine ⟨u, ?_, by rw [mark, hu]⟩
      simpa [hu] using h.right
    case h_2 => cases h
  case mpr =>
    intro ⟨u, hu, he⟩
    simp [he, mark, isAccountMark, isAccount_iff.mpr hu]

theorem Groups.paren_not_mem (h : Groups n cs) : '(' ∉ cs := by
  have hchar : ∀ c : Char, c.isAlpha ∨ Text.isDecimalDigit c → c ≠ '(' := by
    rintro _ hc rfl
    revert hc
    decide
  induction h
  case nil => exact List.not_mem_nil
  case plain hc _ ih => simpa [ih] using (hchar _ hc).symm
  case hyphen hc _ ih => simpa [ih] using (hchar _ hc).symm

theorem Account.paren_not_mem (h : Account u) : '(' ∉ u := by
  cases h
  case mk hc hg _ => exact (Groups.plain hc hg).paren_not_mem

end Account

section Address

variable {cs a front behind : List Char}

theorem isAddress_iff : isAddress cs ↔ Address cs := by
  simp only [isAddress, Bool.and_eq_true, Bool.not_eq_true', List.contains_eq_mem,
    decide_eq_true_eq, decide_eq_false_iff_not]
  constructor
  case mp =>
    rintro ⟨hline, hat⟩
    -- The first and the last character are left out of the search for the `@`.
    cases cs
    case nil => cases hat
    case cons c cs =>
      obtain rfl | ⟨mid, d, rfl⟩ := cs.eq_nil_or_concat'
      · cases hat
      · obtain ⟨x, y, hmid⟩ := List.append_of_mem (show '@' ∈ mid by simpa using hat)
        have he : c :: (mid ++ [d]) = (c :: x) ++ '@' :: (y ++ [d]) := by simp [hmid]
        rw [he] at hline ⊢
        refine .mk (by simp) (by simp) ?_ ?_
        · exact fun hm => hline (List.mem_append_left _ hm)
        · exact fun hm => hline (List.mem_append_right _ (List.mem_cons_of_mem _ hm))
  case mpr =>
    intro h
    cases h
    case mk x y hx hy hx' hy' =>
      obtain ⟨c, x, rfl⟩ := List.exists_cons_of_ne_nil hx
      obtain rfl | ⟨y, d, rfl⟩ := y.eq_nil_or_concat'
      · exact absurd rfl hy
      · have hmid : ((c :: x) ++ '@' :: (y ++ [d])).drop 1 = (x ++ '@' :: y) ++ [d] := by simp
        rw [hmid, List.dropLast_concat]
        exact ⟨by simp_all, by simp⟩

-- The last parenthesis of a text cuts it in two.
theorem paren_cases (cs : List Char) :
    '(' ∉ cs ∨ ∃ front behind, cs = front ++ '(' :: behind ∧ '(' ∉ behind := by
  by_cases h : '(' ∈ cs
  case pos =>
    have ⟨xs, ys, he, hn⟩ := List.eq_append_cons_of_mem (List.mem_reverse.mpr h)
    refine .inr ⟨ys.reverse, xs.reverse, ?_, by simpa using hn⟩
    rw [← cs.reverse_reverse, he]
    simp
  case neg => exact .inl h

theorem takeWhile_of_paren (h : '(' ∉ behind) :
    (front ++ '(' :: behind).reverse.takeWhile (· != '(') = behind.reverse := by
  have hall : ∀ c ∈ behind.reverse, (c != '(') = true := by grind
  simp [List.takeWhile_append_of_pos hall]

theorem addressTail?_paren_iff (hb : '(' ∉ behind)
    (hl : (front ++ '(' :: behind).getLast? ≠ some '>') :
    addressTail? (front ++ '(' :: behind) = some b ↔ b = true ∧
      ∃ a, front = a ++ ['>', ' '] ∧ isAccountMark ('(' :: behind) ∧ isAddress a := by
  have hfront : (front ++ '(' :: behind).length - behind.length - 1 = front.length := by
    simp only [List.length_append, List.length_cons]
    omega
  rw [addressTail?, if_neg (by simpa using hl)]
  simp only [takeWhile_of_paren hb, List.reverse_reverse, hfront, List.take_left]
  split
  case h_1 address hf =>
    have hcut : ∀ a, front = a ++ ['>', ' '] ↔ address.reverse = a := by
      intro a
      rw [← front.reverse_reverse, hf]
      simp
    cases b <;> simp [hcut]
  case h_2 hne =>
    refine iff_of_false nofun ?_
    rintro ⟨_, a, rfl, _⟩
    exact hne a.reverse (by simp)

theorem addressTail?_of_not_mem (hb : '(' ∉ cs) (hl : cs.getLast? ≠ some '>') :
    addressTail? cs = none := by
  have hall : cs.reverse.takeWhile (· != '(') = cs.reverse :=
    List.takeWhile_eq_self_iff.mpr (by grind)
  rw [addressTail?, if_neg (by simpa using hl)]
  simp [hall]

theorem addressTail?_eq_some_iff : addressTail? cs = some b ↔
    (b = false ∧ ∃ a, Address a ∧ cs = a ++ ['>']) ∨
    (b = true ∧ ∃ a u, Address a ∧ Account u ∧ cs = a ++ '>' :: ' ' :: mark u) := by
  constructor
  case mp =>
    intro h
    by_cases hl : cs.getLast? = some '>'
    case pos =>
      obtain ⟨a, rfl⟩ := List.getLast?_eq_some_iff.mp hl
      have ⟨ha, hb⟩ : Address a ∧ false = b := by
        simpa [addressTail?, isAddress_iff] using h
      exact .inl ⟨hb.symm, a, ha, rfl⟩
    case neg =>
      obtain hn | ⟨front, behind, rfl, hn⟩ := paren_cases cs
      · cases (addressTail?_of_not_mem hn hl).symm.trans h
      · have ⟨hb, a, hf, hm, ha⟩ := (addressTail?_paren_iff hn hl).mp h
        have ⟨u, hu, hmark⟩ := isAccountMark_iff.mp hm
        refine .inr ⟨hb, a, u, isAddress_iff.mp ha, hu, ?_⟩
        rw [hmark, hf, List.append_assoc]
        rfl
  case mpr =>
    rintro (⟨rfl, a, ha, rfl⟩ | ⟨rfl, a, u, ha, hu, rfl⟩)
    · simp [addressTail?, isAddress_iff.mpr ha]
    · have hcut : a ++ '>' :: ' ' :: mark u =
          (a ++ ['>', ' ']) ++ '(' :: ('@' :: (u ++ [')'])) := by
        simp [mark]
      have hmark : isAccountMark ('(' :: '@' :: (u ++ [')'])) := isAccountMark_iff.mpr ⟨u, hu, rfl⟩
      rw [hcut, addressTail?_paren_iff (by simpa using hu.paren_not_mem)
        (by simp [List.getLast?_cons])]
      exact ⟨rfl, a, rfl, hmark, isAddress_iff.mpr ha⟩

end Address

section Name

variable {cs n rest : List Char}

theorem name_iff : Name cs ↔ cs.head?.any Text.isWord ∧ ∀ c ∈ cs, isNameChar c := by
  constructor
  case mp =>
    intro h
    cases h
    case mk hc hcs => simp_all [isNameChar, or_assoc]
  case mpr =>
    intro ⟨hc, hall⟩
    cases cs
    case nil => cases hc
    case cons c cs =>
      refine .mk (by simpa using hc) fun d hd => ?_
      simpa [isNameChar, or_assoc] using hall d (List.mem_cons_of_mem _ hd)

theorem name_append_blank_iff : Name (n ++ [' ']) ↔ Name n := by
  have hword : Text.isWord ' ' = false := by decide
  have hname : isNameChar ' ' = true := by decide
  rw [name_iff, name_iff]
  cases n <;> simp [hword, hname, or_imp, forall_and]

theorem hasAccount?_append_iff (hn : Name n) (hr : ∀ c ∈ rest.head?, isNameChar c = false) :
    hasAccount? (n ++ rest) = some b ↔ (b = false ∧ rest = []) ∨
      (∃ tail, rest = '<' :: tail ∧ n.getLast? = some ' ' ∧ addressTail? tail = some b) ∨
      (b = true ∧ isAccountMark rest) := by
  have ⟨hword, hall⟩ := name_iff.mp hn
  have htake : rest.takeWhile isNameChar = [] := by
    cases rest <;> simp_all
  have hdrop : rest.dropWhile isNameChar = rest := by
    cases rest <;> simp_all
  rw [hasAccount?, List.takeWhile_append_of_pos hall, List.dropWhile_append_of_pos hall, htake,
    hdrop, List.append_nil]
  simp only [hword, Bool.not_true, Bool.false_eq_true, if_false, beq_iff_eq]
  split
  case h_1 => simp [isAccountMark, eq_comm]
  case h_2 tail => simp [isAccountMark]
  case h_3 hne hlt =>
    have hlt : ∀ tail, rest ≠ '<' :: tail := fun tail he => hlt tail he
    grind

theorem exists_name_of_hasAccount? (h : hasAccount? cs = some b) :
    ∃ n rest, cs = n ++ rest ∧ Name n ∧ ∀ c ∈ rest.head?, isNameChar c = false := by
  refine ⟨cs.takeWhile isNameChar, cs.dropWhile isNameChar, List.takeWhile_append_dropWhile.symm,
    name_iff.mpr ⟨?_, fun c hc => List.mem_takeWhile_imp hc⟩, ?_⟩
  · unfold hasAccount? at h
    grind
  · intro c hc
    have := List.head?_dropWhile_not isNameChar cs
    grind

theorem hasAccount?_eq_some_iff : hasAccount? cs = some b ↔ ∃ h, Written cs h ∧ h.isSome = b := by
  have hless : isNameChar '<' = false := by decide
  have hparen : isNameChar '(' = false := by decide
  constructor
  case mp =>
    intro h
    obtain ⟨n, rest, rfl, hn, hr⟩ := exists_name_of_hasAccount? h
    obtain ⟨rfl, rfl⟩ | ⟨tail, rfl, hl, ht⟩ | ⟨rfl, hm⟩ := (hasAccount?_append_iff hn hr).mp h
    · exact ⟨none, by simpa using .name hn, rfl⟩
    · obtain ⟨n, rfl⟩ := List.getLast?_eq_some_iff.mp hl
      have hn := name_append_blank_iff.mp hn
      rw [List.append_assoc, List.singleton_append]
      obtain ⟨rfl, a, ha, rfl⟩ | ⟨rfl, a, u, ha, hu, rfl⟩ := addressTail?_eq_some_iff.mp ht
      · exact ⟨none, .address hn ha, rfl⟩
      · exact ⟨some u, .both hn ha hu, rfl⟩
    · obtain ⟨u, hu, rfl⟩ := isAccountMark_iff.mp hm
      exact ⟨some u, .account hn hu, rfl⟩
  case mpr =>
    rintro ⟨h, hw, rfl⟩
    cases hw
    case name hn =>
      rw [← cs.append_nil, hasAccount?_append_iff hn (by simp)]
      exact .inl ⟨rfl, rfl⟩
    case address n a hn ha =>
      have hn := name_append_blank_iff.mpr hn
      rw [List.append_cons, hasAccount?_append_iff hn (by simpa using hless)]
      refine .inr (.inl ⟨_, rfl, by simp, ?_⟩)
      exact addressTail?_eq_some_iff.mpr (.inl ⟨rfl, a, ha, rfl⟩)
    case account n u hn hu =>
      rw [hasAccount?_append_iff hn (by simpa [mark] using hparen)]
      exact .inr (.inr ⟨rfl, isAccountMark_iff.mpr ⟨u, hu, rfl⟩⟩)
    case both n a u hn ha hu =>
      have hn := name_append_blank_iff.mpr hn
      rw [List.append_cons, hasAccount?_append_iff hn (by simpa using hless)]
      refine .inr (.inl ⟨_, rfl, by simp, ?_⟩)
      exact addressTail?_eq_some_iff.mpr (.inr ⟨rfl, a, u, ha, hu, rfl⟩)

end Name

def WellFormed (cs : List Char) : Prop :=
  ∃ told, Written cs told

-- An author whose last words are an account.
def Signed (cs : List Char) : Prop :=
  ∃ front u, Account u ∧ cs = front ++ mark u

namespace Written

variable {cs : List Char} {told told' : Option (List Char)}

theorem getLast?_ne (h : Written cs none) : cs.getLast? ≠ some ')' := by
  cases h
  case name hn =>
    intro hl
    have hname : isNameChar ')' = false := by decide
    have := (name_iff.mp hn).right ')' (List.mem_of_getLast? hl)
    simp_all
  case address => simp [List.getLast?_cons]

theorem exists_mark (h : Written cs (some u)) : ∃ front, Account u ∧ cs = front ++ mark u := by
  cases h
  case account n hn hu => exact ⟨n, hu, rfl⟩
  case both n a hn ha hu => exact ⟨n ++ ' ' :: '<' :: (a ++ ['>', ' ']), hu, by simp⟩

theorem isSome_iff (h : Written cs told) : told.isSome ↔ Signed cs := by
  cases told
  case none =>
    refine iff_of_false (by simp) ?_
    rintro ⟨front, u, -, rfl⟩
    exact h.getLast?_ne (by simp [mark, List.getLast?_cons])
  case some u =>
    have ⟨front, hu, he⟩ := h.exists_mark
    exact iff_of_true rfl ⟨front, u, hu, he⟩

-- However an author is taken apart, the account is the same.
theorem unique (h : Written cs told) (h' : Written cs told') : told = told' := by
  have hsome : told.isSome = told'.isSome := by
    rw [Bool.eq_iff_iff, h.isSome_iff, h'.isSome_iff]
  cases told <;> cases told'
  case some.some u u' =>
    obtain ⟨front, hu, rfl⟩ := h.exists_mark
    have ⟨front', hu', he⟩ := h'.exists_mark
    have hb : '(' ∉ '@' :: (u ++ [')']) := by simpa using hu.paren_not_mem
    have hb' : '(' ∉ '@' :: (u' ++ [')']) := by simpa using hu'.paren_not_mem
    have hbehind := (takeWhile_of_paren hb).symm.trans (he ▸ takeWhile_of_paren hb')
    simpa using hbehind
  all_goals simp_all

end Written

theorem hasAccount?_eq_none_iff : hasAccount? cs = none ↔ ¬WellFormed cs := by
  rw [Option.eq_none_iff_forall_ne_some]
  simp [hasAccount?_eq_some_iff, WellFormed]

theorem hasAccount?_eq_true_iff : hasAccount? cs = some true ↔ WellFormed cs ∧ Signed cs := by
  rw [hasAccount?_eq_some_iff]
  constructor
  case mp =>
    intro ⟨told, hw, hs⟩
    exact ⟨⟨told, hw⟩, hw.isSome_iff.mp hs⟩
  case mpr =>
    intro ⟨⟨told, hw⟩, hs⟩
    exact ⟨told, hw, hw.isSome_iff.mpr hs⟩

end Author

-- A text without the blanks around it.
structure Trims (cs piece : List Char) : Prop where
  blanks : ∃ before after, cs = before ++ piece ++ after ∧
    (∀ c ∈ before, Text.isWhitespace c) ∧ ∀ c ∈ after, Text.isWhitespace c
  first  : ∀ c ∈ piece.head?, Text.isWhitespace c = false
  last   : ∀ c ∈ piece.getLast?, Text.isWhitespace c = false

theorem trims_trimmed (cs : List Char) : Trims cs (trimmed cs) := by
  have hfront : cs.takeWhile Text.isWhitespace ++ Text.trimStartList cs = cs :=
    List.takeWhile_append_dropWhile
  have hback : trimmed cs ++ ((Text.trimStartList cs).reverse.takeWhile Text.isWhitespace).reverse =
      Text.trimStartList cs := by
    rw [trimmed, Text.trimEndList, ← List.reverse_append, List.takeWhile_append_dropWhile,
      List.reverse_reverse]
  refine ⟨⟨cs.takeWhile Text.isWhitespace,
    ((Text.trimStartList cs).reverse.takeWhile Text.isWhitespace).reverse, ?_, ?_, ?_⟩, ?_, ?_⟩
  · rw [List.append_assoc, hback, hfront]
  · exact fun c hc => List.mem_takeWhile_imp hc
  · exact fun c hc => List.mem_takeWhile_imp (List.mem_reverse.mp hc)
  · intro c hc
    have hc : c ∈ (Text.trimStartList cs).head? := by
      rw [← hback, List.head?_append]
      simp_all
    have := List.head?_dropWhile_not Text.isWhitespace cs
    grind [Text.trimStartList]
  · intro c hc
    have := List.head?_dropWhile_not Text.isWhitespace (Text.trimStartList cs).reverse
    rw [trimmed, Text.trimEndList, List.getLast?_reverse] at hc
    grind

-- What is wrong with authors, told by how each of them is written.
structure Judged (authors : List (List Char)) (problem : Option String) : Prop where
  malformed : problem = some "is malformed" ↔ ∃ a ∈ authors, ¬Author.WellFormed a
  fine      : problem = none ↔
    (∀ a ∈ authors, Author.WellFormed a) ∧ ∃ a ∈ authors, Author.Signed a
  noAccount : problem = some "doesn't have at least one GitHub account" ↔
    (∀ a ∈ authors, Author.WellFormed a) ∧ ∀ a ∈ authors, ¬Author.Signed a
  certain   : ∀ a ∈ authors, ∀ told, Author.Written a told →
    (told.isSome ↔ Author.Signed a) ∧ ∀ told', Author.Written a told' → told' = told

theorem judged_of_hasAccount? (authors : List (List Char)) :
    Judged authors (Option.map AuthorProblem.reason
      (if none ∈ authors.map Author.hasAccount? then some .malformed
      else if some true ∈ authors.map Author.hasAccount? then none else some .noAccount)) := by
  have hnone : none ∈ authors.map Author.hasAccount? ↔ ∃ a ∈ authors, ¬Author.WellFormed a := by
    simp [Author.hasAccount?_eq_none_iff]
  have htrue : some true ∈ authors.map Author.hasAccount? ↔
      ∃ a ∈ authors, Author.WellFormed a ∧ Author.Signed a := by
    simp [Author.hasAccount?_eq_true_iff]
  have hcertain : ∀ a ∈ authors, ∀ told, Author.Written a told →
      (told.isSome ↔ Author.Signed a) ∧ ∀ told', Author.Written a told' → told' = told :=
    fun a _ told hw => ⟨hw.isSome_iff, fun told' hw' => hw'.unique hw⟩
  by_cases hbad : ∃ a ∈ authors, ¬Author.WellFormed a
  case pos =>
    have hall : ¬∀ a ∈ authors, Author.WellFormed a := by simpa using hbad
    rw [if_pos (hnone.mpr hbad)]
    exact ⟨iff_of_true rfl hbad, iff_of_false nofun fun h => hall h.left,
      iff_of_false (by simp [AuthorProblem.reason]) fun h => hall h.left, hcertain⟩
  case neg =>
    have hall : ∀ a ∈ authors, Author.WellFormed a := by simpa using hbad
    rw [if_neg (mt hnone.mp hbad)]
    by_cases hsigned : ∃ a ∈ authors, Author.Signed a
    case pos =>
      have ⟨a, ha, hs⟩ := hsigned
      rw [if_pos (htrue.mpr ⟨a, ha, hall a ha, hs⟩)]
      exact ⟨iff_of_false nofun hbad, iff_of_true rfl ⟨hall, hsigned⟩,
        iff_of_false nofun fun h => h.right a ha hs, hcertain⟩
    case neg =>
      have hnot : ¬∃ a ∈ authors, Author.WellFormed a ∧ Author.Signed a :=
        fun ⟨a, ha, _, hs⟩ => hsigned ⟨a, ha, hs⟩
      rw [if_neg (mt htrue.mp hnot)]
      exact ⟨iff_of_false (by simp [AuthorProblem.reason]) hbad,
        iff_of_false nofun fun h => hsigned h.right,
        iff_of_true rfl ⟨hall, fun a ha hs => hsigned ⟨a, ha, hs⟩⟩, hcertain⟩

-- One malformed author decides, wherever it stands; then one account is enough.
theorem authorProblem?_judged (text : String) :
    ∃ authors, List.Forall₂ Trims (text.toList.splitOn ',') authors ∧
      Judged authors ((authorProblem? text).map AuthorProblem.reason) := by
  refine ⟨(text.toList.splitOn ',').map trimmed, ?_, ?_⟩
  · rw [List.forall₂_map_right_iff, List.forall₂_same]
    exact fun cs _ => trims_trimmed cs
  · have h := judged_of_hasAccount? ((text.toList.splitOn ',').map trimmed)
    simpa [authorProblem?, Function.comp_def] using h

end ProposalLint.Preamble
