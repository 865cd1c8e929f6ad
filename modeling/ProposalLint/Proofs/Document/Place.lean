import Mathlib.Data.List.Basic
import ProposalLint.Document.Position

namespace ProposalLint

-- An offset in front of a character, or at the end of the text.
def IsBoundary (source : List Char) (offset : Nat) : Prop :=
  ∃ before after, source = before ++ after ∧ offset = utf8Length before

section Bytes

theorem line_feed_size : '\n'.utf8Size = 1 :=
  rfl

variable (cs ds : List Char)

@[simp]
theorem utf8Length_append : utf8Length (cs ++ ds) = utf8Length cs + utf8Length ds := by
  induction cs
  case nil => simp [utf8Length]
  case cons ih => simp [utf8Length, ih, Nat.add_assoc]

@[simp]
theorem dropBytes?_append : dropBytes? (utf8Length cs) (cs ++ ds) = some ds := by
  induction cs
  case nil => simp [utf8Length, dropBytes?]
  case cons c cs ih =>
    have ⟨k, hk⟩ := Nat.exists_eq_add_one.mpr c.utf8Size_pos
    simp [utf8Length, hk, Nat.add_right_comm k 1, dropBytes?, ih]

@[simp]
theorem takeBytes?_append : takeBytes? (utf8Length cs) (cs ++ ds) = some cs := by
  induction cs
  case nil => simp [utf8Length, takeBytes?]
  case cons c cs ih =>
    have ⟨k, hk⟩ := Nat.exists_eq_add_one.mpr c.utf8Size_pos
    simp [utf8Length, hk, Nat.add_right_comm k 1, takeBytes?, ih]

theorem of_takeBytes?_eq_some (h : takeBytes? n cs = some ds) :
    ∃ es, cs = ds ++ es ∧ n = utf8Length ds := by
  fun_induction takeBytes? n cs generalizing ds
  case case1 cs =>
    cases h
    exact ⟨cs, rfl, rfl⟩
  case case2 => simp at h
  case case3 n c cs hc ih =>
    have ⟨ds', hd, he⟩ := Option.map_eq_some_iff.mp h
    have ⟨es, hs, hn⟩ := ih _ hd
    subst he
    exact ⟨es, by simp [hs], by simp only [utf8Length]; omega⟩
  case case4 => simp at h

theorem slice?_append (es : List Char) :
    slice? (cs ++ ds ++ es) ⟨utf8Length cs, utf8Length (cs ++ ds)⟩ = some ds := by
  simp [slice?]

end Bytes

def unlines (lines : List (List Char)) : List Char :=
  lines.flatMap (· ++ ['\n'])

@[simp]
theorem unlines_nil : unlines [] = [] :=
  rfl

@[simp]
theorem unlines_cons : unlines (l :: lines) = l ++ '\n' :: unlines lines := by
  simp [unlines]

@[simp]
theorem unlines_append : unlines (ls ++ ms) = unlines ls ++ unlines ms := by
  simp [unlines]

-- In front of a place in a text stand some whole lines and the beginning of one more.
structure Place (before : List Char) (lines : List (List Char)) (last : List Char) : Prop where
  before : before = unlines lines ++ last
  lines  : ∀ l ∈ lines, '\n' ∉ l
  last   : '\n' ∉ last

namespace Place

variable {before last : List Char} {lines : List (List Char)}

theorem nil : Place [] [] [] where
  before := rfl
  lines := by simp
  last := by simp

theorem line_feed (p : Place before lines last) :
    Place (before ++ ['\n']) (lines ++ [last]) [] where
  before := by simp [p.before, unlines]
  lines := by
    simp only [List.mem_append, List.mem_singleton]
    exact fun l h => h.elim (p.lines l) (· ▸ p.last)
  last := by simp

theorem char (p : Place before lines last) (h : c ≠ '\n') :
    Place (before ++ [c]) lines (last ++ [c]) where
  before := by simp [p.before]
  lines := p.lines
  last := by simpa [h.symm] using p.last

-- The place behind one more character.
theorem snoc (p : Place before lines last) (c : Char) :
    ∃ lines' last', Place (before ++ [c]) lines' last' ∧ (lines.length < lines'.length ∨
      lines.length = lines'.length ∧ last.length < last'.length) := by
  by_cases h : c = '\n'
  case pos => exact ⟨_, _, h ▸ p.line_feed, by simp⟩
  case neg => exact ⟨_, _, p.char h, by simp⟩

theorem append (p : Place before lines last) (more : List Char) :
    ∃ lines' last', Place (before ++ more) lines' last' ∧ (lines.length < lines'.length ∨
      lines.length = lines'.length ∧ last.length ≤ last'.length) := by
  induction more generalizing before lines last
  case nil => exact ⟨lines, last, by simpa using p, by simp⟩
  case cons c more ih =>
    have ⟨_, _, p₁, h₁⟩ := p.snoc c
    have ⟨lines', last', p₂, h₂⟩ := ih p₁
    refine ⟨lines', last', List.append_cons .. ▸ p₂, ?_⟩
    omega

-- What comes later is on a later line, or on the same line in a later column.
theorem append_cons (p : Place before lines last) (c : Char) (more : List Char) :
    ∃ lines' last', Place (before ++ c :: more) lines' last' ∧ (lines.length < lines'.length ∨
      lines.length = lines'.length ∧ last.length < last'.length) := by
  have ⟨_, _, p₁, h₁⟩ := p.snoc c
  have ⟨lines', last', p₂, h₂⟩ := p₁.append more
  refine ⟨lines', last', List.append_cons .. ▸ p₂, ?_⟩
  omega

theorem of_before (before : List Char) : ∃ lines last, Place before lines last := by
  have ⟨lines, last, p, _⟩ := Place.nil.append before
  exact ⟨lines, last, p⟩

end Place

section Starts

variable (offset : Nat) (cs ds : List Char) (lines : List (List Char))

theorem lineStartsFrom_append : lineStartsFrom offset (cs ++ ds) =
    lineStartsFrom offset cs ++ lineStartsFrom (offset + utf8Length cs) ds := by
  induction cs generalizing offset
  case nil => simp [lineStartsFrom, utf8Length]
  case cons c cs ih =>
    simp only [List.cons_append, lineStartsFrom, ih, utf8Length, ← Nat.add_assoc]
    split
    case isTrue h => simp [h, line_feed_size]
    case isFalse => rfl

theorem lineStartsFrom_eq_nil (h : '\n' ∉ cs) : lineStartsFrom offset cs = [] := by
  induction cs generalizing offset
  case nil => rfl
  case cons c cs ih =>
    have ⟨hc, hcs⟩ : c ≠ '\n' ∧ '\n' ∉ cs := by simpa [eq_comm] using h
    simp [lineStartsFrom, hc, ih _ hcs]

theorem bounds_of_mem_lineStartsFrom (h : start ∈ lineStartsFrom offset cs) :
    offset < start ∧ start ≤ offset + utf8Length cs := by
  induction cs generalizing offset
  case nil => simp [lineStartsFrom] at h
  case cons c cs ih =>
    have := c.utf8Size_pos
    simp only [lineStartsFrom, utf8Length] at h ⊢
    split at h
    case isTrue =>
      cases h
      case head => omega
      case tail h =>
        have := ih _ h
        omega
    case isFalse =>
      have := ih _ h
      omega

theorem le_of_mem_lineStartsFrom_cons (h : start ∈ lineStartsFrom offset (c :: cs)) :
    offset + c.utf8Size ≤ start := by
  simp only [lineStartsFrom] at h
  split at h
  case isTrue hc =>
    rw [hc, line_feed_size]
    cases h
    case head => exact Nat.le_refl _
    case tail h => exact Nat.le_of_lt (bounds_of_mem_lineStartsFrom _ _ h).left
  case isFalse => exact Nat.le_of_lt (bounds_of_mem_lineStartsFrom _ _ h).left

-- As much of a text as ends at an offset or in front of it. No line starts between the two.
theorem exists_append_before (h : offset ≤ limit) : ∃ before after, cs = before ++ after ∧
    offset + utf8Length before ≤ limit ∧
    ∀ start ∈ lineStartsFrom (offset + utf8Length before) after, limit < start := by
  induction cs generalizing offset
  case nil => exact ⟨[], [], rfl, h, by simp [lineStartsFrom]⟩
  case cons c cs ih =>
    by_cases hc : offset + c.utf8Size ≤ limit
    case pos =>
      have ⟨before, after, hs, hb, ha⟩ := ih (offset + c.utf8Size) hc
      refine ⟨c :: before, after, by simp [hs], ?_, ?_⟩
      all_goals simpa only [utf8Length, ← Nat.add_assoc]
    case neg =>
      refine ⟨[], c :: cs, rfl, h, fun start hm => ?_⟩
      have := le_of_mem_lineStartsFrom_cons _ _ hm
      simp only [utf8Length] at this
      omega

-- Behind each of some whole lines starts a line.
theorem lineStartsFrom_unlines (h : ∀ l ∈ lines, '\n' ∉ l) :
    (lineStartsFrom offset (unlines lines)).length = lines.length ∧
      (offset :: lineStartsFrom offset (unlines lines))[lines.length]? =
        some (offset + utf8Length (unlines lines)) := by
  induction lines generalizing offset
  case nil => simp [lineStartsFrom, utf8Length]
  case cons l lines ih =>
    have ⟨hl, hls⟩ := List.forall_mem_cons.mp h
    have ⟨hn, hg⟩ := ih (offset + utf8Length l + 1) hls
    have he : lineStartsFrom offset (unlines (l :: lines)) = (offset + utf8Length l + 1) ::
        lineStartsFrom (offset + utf8Length l + 1) (unlines lines) := by
      simp [lineStartsFrom_append, lineStartsFrom_eq_nil _ _ hl, lineStartsFrom]
    have hu : utf8Length (unlines (l :: lines)) =
        utf8Length l + 1 + utf8Length (unlines lines) := by
      simp [utf8Length, line_feed_size, Nat.add_assoc]
    rw [he, hu, List.length_cons, List.length_cons, List.getElem?_cons_succ]
    exact ⟨by rw [hn], by rw [hg, Nat.add_assoc, Nat.add_assoc, Nat.add_assoc]⟩

end Starts

namespace Place

variable {before last : List Char} {lines : List (List Char)}

theorem lineStarts_length (p : Place before lines last) :
    (lineStarts before).length = lines.length + 1 := by
  simp [p.before, lineStarts, lineStartsFrom_append, lineStartsFrom_eq_nil _ _ p.last,
    (lineStartsFrom_unlines 0 lines p.lines).left]

-- The lines that start up to an offset are those in front of the place before it, and the one that
-- the place is on, if no line starts in between.
theorem findIdx_lineStarts (p : Place before lines last) (hb : utf8Length before ≤ offset)
    (hr : ∀ start ∈ lineStartsFrom (utf8Length before) rest, offset < start) :
    (lineStarts (before ++ rest)).findIdx (offset < ·) = lines.length + 1 := by
  have hs : lineStarts (before ++ rest) =
      lineStarts before ++ lineStartsFrom (utf8Length before) rest := by
    simp [lineStarts, lineStartsFrom_append]
  have hb : ∀ start ∈ lineStarts before, ¬offset < start := by
    intro start h
    cases h
    case head => simp
    case tail h =>
      have := (bounds_of_mem_lineStartsFrom _ _ h).right
      omega
  have hi : (lineStarts before).findIdx (offset < ·) = (lineStarts before).length :=
    List.findIdx_eq_length_of_false (by simpa using hb)
  have hz : (lineStartsFrom (utf8Length before) rest).findIdx (offset < ·) = 0 := by
    generalize lineStartsFrom (utf8Length before) rest = starts at hr
    cases starts
    case nil => rfl
    case cons => simp [List.findIdx_cons, hr _ List.mem_cons_self]
  rw [hs, List.findIdx_append, hi, hz, p.lineStarts_length]
  simp

theorem getD_lineStarts (p : Place before lines last) (rest : List Char) :
    (lineStarts (before ++ rest)).getD lines.length 0 = utf8Length (unlines lines) := by
  have ⟨hn, hg⟩ := lineStartsFrom_unlines 0 lines p.lines
  have hs : lineStarts (before ++ rest) = (0 :: lineStartsFrom 0 (unlines lines)) ++
      lineStartsFrom (utf8Length (unlines lines)) (last ++ rest) := by
    simp [p.before, lineStarts, lineStartsFrom_append]
  rw [hs, List.getD_eq_getElem?_getD, List.getElem?_append_left (by simp [hn]), hg]
  simp

theorem locate (p : Place before lines last) (rest : List Char) :
    Point.locate (before ++ rest) (utf8Length before) =
      ⟨lines.length + 1, last.length + 1, some (utf8Length before)⟩ := by
  have ho : min (utf8Length before) (utf8Length (before ++ rest)) = utf8Length before := by simp
  have hl : slice? (before ++ rest) ⟨utf8Length (unlines lines), utf8Length before⟩ =
      some last := by
    rw [p.before]
    exact slice?_append ..
  have hi := p.findIdx_lineStarts (Nat.le_refl _)
    fun start h => (bounds_of_mem_lineStartsFrom _ rest h).left
  simp only [Point.locate, ho, hi, Nat.add_sub_cancel, p.getD_lineStarts, hl, Option.map_some,
    Option.getD_some]

end Place

section Lines

theorem splitLines_line (h : '\n' ∉ l) (rest : List Char) :
    splitLines (l ++ '\n' :: rest) = (l ++ ['\n']) :: splitLines rest := by
  induction l
  case nil => simp [splitLines]
  case cons c l ih =>
    have ⟨hc, hl⟩ : c ≠ '\n' ∧ '\n' ∉ l := by simpa [eq_comm] using h
    simp [splitLines, hc, ih hl]

-- What has no line feed is the beginning of the first line.
theorem splitLines_append (h : '\n' ∉ l) (hr : l ++ rest ≠ []) :
    ∃ line lines, splitLines (l ++ rest) = (l ++ line) :: lines := by
  induction l
  case nil =>
    cases rest
    case nil => contradiction
    case cons c rest =>
      simp only [List.nil_append, splitLines]
      split
      case isTrue => exact ⟨_, _, rfl⟩
      case isFalse => split <;> exact ⟨_, _, rfl⟩
  case cons c l ih =>
    have ⟨hc, hl⟩ : c ≠ '\n' ∧ '\n' ∉ l := by simpa [eq_comm] using h
    simp only [List.cons_append, splitLines, hc, if_false]
    by_cases he : l ++ rest = []
    case pos =>
      have ⟨hl, hr⟩ := List.append_eq_nil_iff.mp he
      exact ⟨[], [], by simp [hl, hr, splitLines]⟩
    case neg =>
      have ⟨line, lines, hs⟩ := ih hl he
      exact ⟨line, lines, by simp [hs]⟩

theorem offsetIn_unlines (h : ∀ l ∈ lines, '\n' ∉ l) (column : Nat) (rest : List Char) :
    offsetIn (lines.length + 1) column (splitLines (unlines lines ++ rest)) =
      utf8Length (unlines lines) + offsetIn 1 column (splitLines rest) := by
  induction lines
  case nil => simp [utf8Length]
  case cons l lines ih =>
    have ⟨hl, hls⟩ := List.forall_mem_cons.mp h
    simp only [unlines_cons, List.append_assoc, List.cons_append, splitLines_line hl, offsetIn,
      List.length_cons, Nat.add_sub_cancel, ih hls]
    simp [utf8Length, Nat.add_assoc]

theorem offsetIn_first (h : '\n' ∉ l) (rest : List Char) :
    offsetIn 1 (l.length + 1) (splitLines (l ++ rest)) = utf8Length l := by
  by_cases hr : l ++ rest = []
  case pos =>
    have ⟨hl, hr⟩ := List.append_eq_nil_iff.mp hr
    simp [hl, hr, splitLines, offsetIn, utf8Length]
  case neg =>
    have ⟨line, lines, hs⟩ := splitLines_append h hr
    simp [hs, offsetIn]

end Lines

namespace Place

variable {before last : List Char} {lines : List (List Char)}

theorem offsetFor (p : Place before lines last) (rest : List Char) :
    ProposalLint.offsetFor (before ++ rest) (lines.length + 1) (last.length + 1) =
      utf8Length before := by
  simp [ProposalLint.offsetFor, p.before, offsetIn_unlines p.lines, offsetIn_first p.last]

theorem splitOn_unlines (h : ∀ l ∈ lines, '\n' ∉ l) (hl : '\n' ∉ last) :
    (unlines lines ++ last).splitOn '\n' = lines ++ [last] := by
  induction lines
  case nil => simpa using List.splitOn_eq_singleton hl
  case cons l lines ih =>
    have ⟨hn, hs⟩ := List.forall_mem_cons.mp h
    rw [unlines_cons, List.append_assoc, List.cons_append,
      List.splitOn_append_cons_self_of_not_mem hn, ih hs, List.cons_append]

theorem splitOn (p : Place before lines last) : before.splitOn '\n' = lines ++ [last] := by
  rw [p.before]
  exact splitOn_unlines p.lines p.last

theorem line_of_splitOn (p : Place before lines last) (h : (before.splitOn '\n')[n]? = some text) :
    '\n' ∉ text ∧ n ≤ lines.length ∧ ∃ rest, before = unlines (lines.take n) ++ text ++ rest := by
  rw [p.splitOn] at h
  have ⟨hn, ht⟩ := List.getElem?_eq_some_iff.mp h
  by_cases hl : n < lines.length
  case pos =>
    rw [List.getElem_append_left hl] at ht
    have hd : lines = lines.take n ++ text :: lines.drop (n + 1) := by
      rw [← ht, ← List.drop_eq_getElem_cons hl, List.take_append_drop]
    refine ⟨p.lines text (ht ▸ List.getElem_mem _), Nat.le_of_lt hl,
      '\n' :: unlines (lines.drop (n + 1)) ++ last, ?_⟩
    rw [p.before]
    nth_rewrite 1 [hd]
    simp
  case neg =>
    have he : n = lines.length := by
      rw [List.length_append, List.length_singleton] at hn
      omega
    rw [List.getElem_append_right (Nat.le_of_not_lt hl)] at ht
    have ht : last = text := by simpa [he] using ht
    exact ⟨ht ▸ p.last, Nat.le_of_eq he, [], by simp [p.before, he, ht]⟩

-- Each place on a line of a text has the lines in front of it.
theorem of_splitOn (h : (source.splitOn '\n')[n]? = some text) (column : Nat) :
    ∃ before lines rest, Place before lines (text.take column) ∧ lines.length = n ∧
      source = before ++ rest := by
  have ⟨lines, last, p⟩ := of_before source
  have ⟨ht, hn, rest, hs⟩ := p.line_of_splitOn h
  refine ⟨_, lines.take n, text.drop column ++ rest, ⟨rfl, ?lines, ?last⟩, ?length, ?source⟩
  case lines => exact fun l hm => p.lines l (List.mem_of_mem_take hm)
  case last => exact fun hm => ht (List.mem_of_mem_take hm)
  case length => exact List.length_take_of_le hn
  case source =>
    rw [hs, List.append_assoc, List.append_assoc, ← List.append_assoc (text.take column),
      List.take_append_drop]

end Place

-- The order in which a reader comes to points.
def Point.Before (p q : Point) : Prop :=
  p.line < q.line ∨ p.line = q.line ∧ p.column < q.column

section Inverse

variable {source : List Char}

theorem offsetFor_locate (h : IsBoundary source offset) :
    let p := Point.locate source offset
    offsetFor source p.line p.column = offset := by
  have ⟨before, after, hs, ho⟩ := h
  have ⟨lines, last, p⟩ := Place.of_before before
  rw [hs, ho, p.locate]
  exact p.offsetFor after

theorem locate_offsetFor (h : (source.splitOn '\n')[line]? = some text)
    (hc : column ≤ text.length) :
    let p := Point.locate source (offsetFor source (line + 1) (column + 1))
    p.line = line + 1 ∧ p.column = column + 1 := by
  have ⟨before, lines, rest, p, hl, hs⟩ := Place.of_splitOn h column
  have hn : (text.take column).length = column := List.length_take_of_le hc
  have ho := p.offsetFor rest
  rw [hl, hn, ← hs] at ho
  have hp := p.locate rest
  rw [hl, hn, ← hs] at hp
  simp [ho, hp]

theorem append_cons_of_lt {before₁ before₂ after₁ after₂ : List Char}
    (hs : before₁ ++ after₁ = before₂ ++ after₂) (h : utf8Length before₁ < utf8Length before₂) :
    ∃ c more, before₂ = before₁ ++ c :: more := by
  cases List.append_eq_append_iff.mp hs
  case inl hm =>
    have ⟨more, hm, _⟩ := hm
    cases more
    case nil => simp [hm] at h
    case cons => exact ⟨_, _, hm⟩
  case inr hm =>
    have ⟨more, hm, _⟩ := hm
    rw [hm, utf8Length_append] at h
    omega

theorem locate_before (h₁ : IsBoundary source o₁) (h₂ : IsBoundary source o₂) (h : o₁ < o₂) :
    (Point.locate source o₁).Before (Point.locate source o₂) := by
  have ⟨before₁, after₁, hs₁, ho₁⟩ := h₁
  have ⟨before₂, after₂, hs₂, ho₂⟩ := h₂
  have ⟨lines, last, p⟩ := Place.of_before before₁
  have ⟨c, more, hb⟩ := append_cons_of_lt (hs₁.symm.trans hs₂) (ho₁ ▸ ho₂ ▸ h)
  have ⟨lines', last', p', hp⟩ := p.append_cons c more
  rw [← hb] at p'
  have hl₁ := p.locate after₁
  have hl₂ := p'.locate after₂
  rw [← hs₁, ← ho₁] at hl₁
  rw [← hs₂, ← ho₂] at hl₂
  simp only [Point.Before, hl₁, hl₂]
  omega

end Inverse

-- Every offset has the line and column of one between characters: its own, or the start of its
-- line.
theorem locate_eq_boundary (source : List Char) (offset : Nat) : ∃ o, IsBoundary source o ∧
    (Point.locate source offset).line = (Point.locate source o).line ∧
    (Point.locate source offset).column = (Point.locate source o).column := by
  let limit := min offset (utf8Length source)
  have ⟨before, after, hs, hb, ha⟩ := exists_append_before 0 source (Nat.zero_le limit)
  rw [Nat.zero_add] at hb ha
  have ⟨lines, last, p⟩ := Place.of_before before
  have hi := p.findIdx_lineStarts hb ha
  have hd := p.getD_lineStarts after
  rw [← hs] at hi hd
  have hl : source = unlines lines ++ (last ++ after) := by rw [hs, p.before, List.append_assoc]
  have hp : Point.locate source offset = ⟨lines.length + 1,
      ((slice? source ⟨utf8Length (unlines lines), limit⟩).map List.length).getD 0 + 1,
      some limit⟩ := by
    simp only [Point.locate, limit, hi, Nat.add_sub_cancel, hd]
  -- There are characters between the start of the line and the offset only if it cuts none.
  cases hc : slice? source ⟨utf8Length (unlines lines), limit⟩
  case none =>
    have start : Place (unlines lines) lines [] := ⟨by simp, p.lines, by simp⟩
    have hq := start.locate (last ++ after)
    rw [← hl] at hq
    refine ⟨_, ⟨unlines lines, last ++ after, hl, rfl⟩, ?_⟩
    simp [hp, hq, hc]
  case some text =>
    rw [slice?, hl, dropBytes?_append, Option.bind_some] at hc
    have ⟨rest, ht, hn⟩ := of_takeBytes?_eq_some _ _ hc
    have hle : utf8Length (unlines lines) ≤ limit := by
      rw [p.before, utf8Length_append] at hb
      omega
    refine ⟨limit, ⟨unlines lines ++ text, rest, by simp [hl, ht], ?offset⟩, ?place⟩
    case offset => rw [utf8Length_append, ← hn, Nat.add_sub_cancel' hle]
    case place => simp [Point.locate, limit]

-- Offsets between characters and the lines and columns of a text stand for each other, and in the
-- same order. A text has as many lines as line starts, the last one maybe empty.
theorem locate_offsetFor_inverse (source : List Char) :
    (∀ offset, IsBoundary source offset → let p := Point.locate source offset
      offsetFor source p.line p.column = offset) ∧
    (source.splitOn '\n').length = (lineStarts source).length ∧
    (∀ line column text, 1 ≤ line → (source.splitOn '\n')[line - 1]? = some text →
      1 ≤ column → column ≤ text.length + 1 →
      let p := Point.locate source (offsetFor source line column)
      p.line = line ∧ p.column = column) ∧
    ∀ o₁ o₂, IsBoundary source o₁ → IsBoundary source o₂ → o₁ < o₂ →
      (Point.locate source o₁).Before (Point.locate source o₂) := by
  refine ⟨fun _ => offsetFor_locate, ?lines, ?places, fun _ _ => locate_before⟩
  case lines =>
    have ⟨_, _, p⟩ := Place.of_before source
    simp [p.splitOn, p.lineStarts_length]
  case places =>
    intro line column text hl ht hc hn
    have := locate_offsetFor ht (Nat.sub_le_of_le_add hn)
    rwa [Nat.sub_add_cancel hl, Nat.sub_add_cancel hc] at this

-- A text of four lines: the first has a wide character and ends in a carriage return, the second
-- and the last are empty.
theorem locate_offsetFor_inverse_of_lines :
    let source := ['é', '!', '\r', '\n', '\n', 'x', '\n']
    (IsBoundary source 2 ∧ IsBoundary source 8 ∧
      source.splitOn '\n' = [['é', '!', '\r'], [], ['x'], []]) ∧
    (let p := Point.locate source 8; offsetFor source p.line p.column = 8) ∧
    (let p := Point.locate source (offsetFor source 1 4); p.line = 1 ∧ p.column = 4) ∧
    (Point.locate source 2).Before (Point.locate source 8) := by
  intro source
  have h₂ : IsBoundary source 2 := ⟨['é'], _, rfl, rfl⟩
  have h₈ : IsBoundary source 8 := ⟨source, [], rfl, rfl⟩
  have ⟨there, _, back, order⟩ := locate_offsetFor_inverse source
  exact ⟨⟨h₂, h₈, rfl⟩, there 8 h₈,
    back 1 4 ['é', '!', '\r'] (by decide) rfl (by decide) (by decide),
    order 2 8 h₂ h₈ (by decide)⟩

end ProposalLint
