import ProposalLint.Proofs.Yaml.PlainText
import ProposalLint.Yaml.Token

namespace ProposalLint.Yaml

-- A name that may stand in front of a colon as it is.
def isKeyName : List Char → Bool
  | [] => false
  | x :: name => (x :: name).all isNameChar && x != '-' && name.length < 1024

-- What may stand behind the colon: blanks, and then maybe a plain text on the same line.
def isPlainValue (value : List Char) : Bool :=
  let body := value.dropWhile isBlank
  endsHere value && isPlainText true body
    && body.head?.all fun x => !isBlank x && !Lexer.isIndicator x

-- A line `name: value` with a plain name and a plain value.
structure PlainLine where
  name : List Char
  value : List Char
  isName : isKeyName name
  isValue : isPlainValue value

namespace PlainLine

variable (line : PlainLine) (lines : List PlainLine)

def text : List Char :=
  line.name ++ ':' :: line.value

-- The value without the blanks in front.
def body : List Char :=
  line.value.dropWhile isBlank

-- The value without the blanks around it.
def content : List Char :=
  Scalar.trimmed line.body

-- A line without a value has no token for it.
def valueTokens : List Token :=
  if line.body.isEmpty then [] else [.scalar (String.ofList line.content) true]

def tokens : List Token :=
  [.key, .scalar (String.ofList line.name) true, .value] ++ line.valueTokens

-- The text of some lines, without a line feed behind the last.
def textOf : List Char :=
  ['\n'].intercalate (lines.map text)

-- What stands behind a line if these lines follow.
def behind : List Char :=
  if lines.isEmpty then [] else '\n' :: textOf lines

@[simp]
theorem tail_behind : (behind lines).tail = textOf lines := by
  cases lines <;> rfl

theorem textOf_cons : textOf (line :: lines) = line.text ++ behind lines := by
  cases lines <;> simp [textOf, behind]

theorem exists_name : ∃ x name, line.name = x :: name ∧ (x :: name).all isNameChar ∧ x ≠ '-' ∧
    (x :: name).length ≤ 1024 := by
  have hn := line.isName
  cases h : line.name
  case nil => simp [h, isKeyName] at hn
  case cons x name =>
    simp only [h, isKeyName, Bool.and_eq_true, bne_iff_ne, decide_eq_true_eq] at hn
    exact ⟨x, name, rfl, hn.1.1, hn.1.2, hn.2⟩

theorem blanks_append_body : line.value.takeWhile isBlank ++ line.body = line.value :=
  List.takeWhile_append_dropWhile

theorem plainValue : endsHere line.value ∧ isPlainText true line.body ∧
    line.body.head?.all fun x => !isBlank x && !Lexer.isIndicator x := by
  simpa only [isPlainValue, Bool.and_eq_true, and_assoc, body] using line.isValue

end PlainLine

theorem Cursor.skipWhile_eq_past {c : Cursor} {p : Char → Bool} (h : c.rest = bs ++ cs)
    (hb : bs.all p) (hcs : cs.head?.all (!p ·)) : c.skipWhile p = c.past bs.length := by
  have hp := List.all_eq_true.mp hb
  have ht : cs.takeWhile p = [] := by cases cs <;> simp_all
  have hd : cs.dropWhile p = cs := by cases cs <;> simp_all
  simp [skipWhile, past, h, List.takeWhile_append_of_pos hp, List.dropWhile_append_of_pos hp, ht,
    hd]

namespace Lexer

variable {l l' l'' : Lexer} {x : Char} {name bs cs w tail : List Char} {first : Bool}
  {ts : List Token}

-- Reading on from here adds these tokens.
def Reads (l : Lexer) (ts : List Token) : Prop :=
  ∀ fuel, l.cursor.rest.length < fuel → run fuel l = some (l.tokens ++ ts)

-- At the start of a line of the outermost mapping, which the first line still has to open, or at
-- the end of the text.
structure AtLine (l : Lexer) (cs : List Char) (first : Bool) : Prop where
  rest : l.cursor.rest = cs
  column : cs ≠ [] → l.cursor.column = 0
  keyAllowed : cs ≠ [] → l.keyAllowed = true
  candidates : l.candidates = [none]
  blocks : (l.indent, l.outer) = if first then (-1, []) else (0, [-1])

-- Behind the colon of a line.
structure BehindName (l : Lexer) (cs : List Char) : Prop where
  rest : l.cursor.rest = cs
  index : 0 < l.cursor.index
  column : 0 < l.cursor.column
  keyAllowed : l.keyAllowed = false
  candidates : l.candidates = [none]
  blocks : (l.indent, l.outer) = (0, [-1])

-- A token starts here.
def isStart (cs : List Char) : Bool :=
  cs.head?.all fun x => !isBlank x && !isBreak x && x != '#' && x != '\ufeff'

theorem skipGap_start (h : isStart l.cursor.rest) (fuel : Nat) : skipGap (fuel + 1) l = l := by
  have ⟨⟨cs, i, n, k⟩, slots, indent, outer, keyAllowed, candidates⟩ := l
  cases cs <;> simp_all [skipGap, isStart, isBlank, Cursor.is, Cursor.peek, Cursor.skipWhile,
    Cursor.skipComment, Cursor.satisfies]

theorem run_of_skipGap (h : skipGap (l.cursor.rest.length + 1) l = l') (hs : isStart l'.cursor.rest)
    (fuel : Nat) : run (fuel + 1) l = run (fuel + 1) l' := by
  rw [run, run, h, skipGap_start hs]

theorem expire_none (h : l.candidates = [none]) : l.expire = some l := by
  have ⟨_, _, _, _, _, _⟩ := l
  simp_all [expire]

theorem outdentTo_of_le (h : l.indent ≤ column) : l.outdentTo column = l := by
  unfold outdentTo
  cases l.outer <;> simp [closeBlocks, Int.not_lt.mpr h]

-- One round takes in one token.
theorem run_token (hgap : skipGap (l.cursor.rest.length + 1) l = l') (hexp : l'.expire = some l')
    (hind : l'.indent ≤ l'.cursor.column) (hrest : l'.cursor.rest = x :: cs)
    (htok : l'.token x = some l'') (fuel : Nat) : run (fuel + 1) l = run fuel l'' := by
  simp [run, hgap, hexp, outdentTo_of_le hind, Cursor.peek_cons hrest, htok]

theorem token_plain (hx : isIndicator x = false) (hb : isBlank x = false)
    (hm : l.cursor.atAnyDocumentMark = false) : l.token x = l.plainItem := by
  have ⟨hd, hp⟩ : l.cursor.atDocumentMark '-' = false ∧ l.cursor.atDocumentMark '.' = false := by
    simpa [Cursor.atAnyDocumentMark] using hm
  have hs : l.startsPlain x := by simp [startsPlain, hx, hb]
  have hne : ∀ y ∈ "-?:,[]\x7b\x7d#&*!|>'\"%@\x60".toList, x ≠ y := by
    rintro y hy rfl
    simp_all [isIndicator]
  simp at hne
  simp [token, hd, hp, hs, hne]

theorem reads_nil (h : l.AtLine [] false) : l.Reads [.blockEnd] := by
  intro fuel hfuel
  have ⟨fuel, hf⟩ := Nat.exists_eq_add_one.mpr (Nat.zero_lt_of_lt hfuel)
  subst hf
  have ⟨hindent, houter⟩ := Prod.mk.inj h.blocks
  have hle : l.indent ≤ l.cursor.column := by simp [hindent]
  rw [run, skipGap_start (by rw [h.rest]; rfl), expire_none h.candidates]
  simp only [Option.bind_eq_bind, Option.bind_some, outdentTo_of_le hle, Cursor.peek_nil h.rest]
  simp [finish, outdentTo, inFlow, dropCandidate, closeBlocks, h.candidates, hindent, houter,
    tokens, emit]

theorem isIndicator_name (hx : isNameChar x) (hne : x ≠ '-') : isIndicator x = false := by
  have h := forall_ne_of_isNameChar hx "?:,[]\x7b\x7d#&*!|>'\"%@\x60".toList (by decide)
  simp_all [isIndicator]

theorem isStart_name (hx : isNameChar x) (cs : List Char) : isStart (x :: cs) := by
  have h := forall_ne_of_isNameChar hx
    [' ', '\t', '\n', '\r', '\u0085', '\u2028', '\u2029', '#', '\ufeff'] (by decide)
  simp_all [isStart, isBlank, isBreak]

theorem AtLine.indent_le (hl : l.AtLine cs first) : l.indent ≤ 0 := by
  have := hl.blocks
  cases first <;> simp_all

-- Behind a name, which is a key if a colon follows.
def behindKey (l : Lexer) (name : List Char) (first : Bool) : Lexer :=
  { l.emit (.scalar (String.ofList name) true) with
    cursor := l.cursor.past name.length
    keyAllowed := false
    candidates := [some ⟨!first, l.slots.length, l.cursor.index, l.cursor.line, 0⟩] }

theorem run_name (hl : l.AtLine (x :: name ++ ':' :: cs) first) (hall : (x :: name).all isNameChar)
    (hx : x ≠ '-') (hcs : endsHere cs) (fuel : Nat) :
    run (fuel + 1) l = run fuel (l.behindKey (x :: name) first) := by
  have hx' : isNameChar x := by simp_all
  have hstart : isStart l.cursor.rest := hl.rest ▸ isStart_name hx' _
  have hblank : isBlank x = false := by
    have := isStart_name hx' []
    simp_all [isStart]
  have hmark : l.cursor.atAnyDocumentMark = false := by
    have := ne_of_isNameChar hx' '.' rfl
    simp [Cursor.atAnyDocumentMark, Cursor.atDocumentMark, hl.rest, hx, this]
  have hcol : l.cursor.column = 0 := hl.column (by simp)
  have hreq : (l.indent == 0) = !first := by
    have := hl.blocks
    cases first <;> simp_all
  refine run_token (skipGap_start hstart _) (expire_none hl.candidates) ?_ hl.rest ?_ fuel
  · have := hl.indent_le
    omega
  · rw [token_plain (isIndicator_name hx' hx) hblank hmark]
    simp [plainItem, saveCandidate, dropCandidate, hl.keyAllowed, inFlow, hl.candidates, hcol, hreq,
      Scalar.plain_name hl.rest hall hx hcs, behindKey, emit]

theorem expire_behindKey (h : name.length ≤ 1024) (l : Lexer) (first : Bool) :
    (l.behindKey name first).expire = some (l.behindKey name first) := by
  simp [expire, behindKey, emit, Cursor.past, Nat.not_lt.mpr h]

-- The colon puts the marks of a key in front of the name.
theorem valueMark_behindKey (hl : l.AtLine (name ++ ':' :: cs) first) :
    ∃ l' : Lexer, (l.behindKey name first).valueMark = some l' ∧ l'.BehindName cs ∧
      l'.tokens = l.tokens ++ (if first then [Token.blockMappingStart] else []) ++
        [.key, .scalar (String.ofList name) true, .value] := by
  have hblocks := hl.blocks
  have hrest := Cursor.rest_past hl.rest
  refine ⟨_, rfl, ?_, ?_⟩
  · cases first <;> constructor <;>
      simp_all [behindKey, mark, indentTo, insertBefore, emit, inFlow, Nat.repeat, Cursor.skip]
  · cases first <;>
      simp_all [behindKey, mark, indentTo, insertBefore, emit, inFlow, tokens]

theorem run_key (hl : l.AtLine (x :: name ++ ':' :: cs) first) (hall : (x :: name).all isNameChar)
    (hx : x ≠ '-') (hlen : (x :: name).length ≤ 1024) (hcs : endsHere cs) (fuel : Nat) :
    ∃ l' : Lexer, run (fuel + 2) l = run fuel l' ∧ l'.BehindName cs ∧
      l'.tokens = l.tokens ++ (if first then [Token.blockMappingStart] else []) ++
        [.key, .scalar (String.ofList (x :: name)) true, .value] := by
  have hrest : (l.behindKey (x :: name) first).cursor.rest = ':' :: cs := Cursor.rest_past hl.rest
  have hcol : 0 < (l.behindKey (x :: name) first).cursor.column := by
    simp [behindKey, Cursor.past, ← Nat.add_assoc]
  have htok : (l.behindKey (x :: name) first).token ':' =
      (l.behindKey (x :: name) first).valueMark := by
    have hmark := Cursor.atAnyDocumentMark_eq_false hcol
    simp only [Cursor.atAnyDocumentMark, Bool.or_eq_false_iff] at hmark
    simp [token, hmark, Cursor.endsWord_one hrest, hcs]
  obtain ⟨l', hmark, hl', htokens⟩ := valueMark_behindKey hl
  refine ⟨l', ?_, hl', htokens⟩
  rw [run_name hl hall hx hcs]
  refine run_token (skipGap_start (by rw [hrest]; rfl) _) (expire_behindKey hlen l first) ?_ hrest
    (htok.trans hmark) fuel
  exact Int.le_trans hl.indent_le (Int.natCast_nonneg _)

-- Behind a name tabs are blanks too.
theorem skipGap_blanks (hl : l.BehindName (bs ++ cs)) (hb : bs.all isBlank)
    (hcs : cs.head?.all fun x => !isBlank x && x != '#') (fuel : Nat) :
    skipGap (fuel + 1) l =
      if cs.head?.any isBreak then
        skipGap fuel { l with cursor := (l.cursor.past bs.length).skipBreak, keyAllowed := true }
      else { l with cursor := l.cursor.past bs.length } := by
  have hindex : (l.cursor.index == 0) = false := by simpa using Nat.ne_of_gt hl.index
  have hskip : (l.cursor.skipWhile fun x => x == ' ' || (true && x == '\t')) =
      l.cursor.past bs.length := by
    apply Cursor.skipWhile_eq_past hl.rest (by simpa [isBlank] using hb)
    cases cs <;> simp_all [isBlank]
  have hrest := Cursor.rest_past hl.rest
  have hcomment : (l.cursor.past bs.length).skipComment = l.cursor.past bs.length := by
    cases cs <;> simp_all [Cursor.skipComment, Cursor.is, Cursor.peek]
  have hsat : (l.cursor.past bs.length).satisfies isBreak = cs.head?.any isBreak := by
    rw [Cursor.satisfies, Cursor.peek, hrest]
  have hflow : l.inFlow = false := by simp [inFlow, hl.candidates]
  simp only [skipGap, hindex, hl.keyAllowed, hflow, Bool.false_and, Bool.false_eq_true, if_false,
    Bool.not_false, Bool.or_true, hskip, hcomment, hsat]

-- The token of a value.
theorem run_value (hl : l.BehindName (bs ++ (x :: w ++ tail))) (hb : bs.all isBlank)
    (hw : isPlainText true (x :: w)) (hx : isBlank x = false ∧ isIndicator x = false)
    (ht : isLineEnd tail) (fuel : Nat) :
    ∃ l' : Lexer, run (fuel + 1) l = run fuel l' ∧ l'.AtLine tail.tail false ∧
      l'.tokens = l.tokens ++ [.scalar (String.ofList (Scalar.trimmed (x :: w))) true] := by
  have hindent : l.indent = 0 := (Prod.mk.inj hl.blocks).1
  have hrest := Cursor.rest_past hl.rest
  have hcol : 0 < (l.cursor.past bs.length).column := Nat.lt_add_right _ hl.column
  have hgap : skipGap (l.cursor.rest.length + 1) l =
      { l with cursor := l.cursor.past bs.length } := by
    have hhash : x ≠ '#' := by
      rintro rfl
      simp [isIndicator] at hx
    have hbreak : isBreak x = false := by simp_all [isPlainText]
    rw [skipGap_blanks hl hb (by simp [hx, hhash])]
    simp [hbreak]
  obtain ⟨c, hplain, hc, hcol'⟩ := Scalar.plain_line hrest hcol hw (by simp [hx]) ht
  have htok : { l with cursor := l.cursor.past bs.length }.token x =
      some { l.emit (.scalar (String.ofList (Scalar.trimmed (x :: w))) true) with
        cursor := c, keyAllowed := !tail.isEmpty } := by
    rw [token_plain hx.2 hx.1 (Cursor.atAnyDocumentMark_eq_false hcol)]
    simp [plainItem, saveCandidate, hl.keyAllowed, inFlow, hl.candidates, hindent, hplain, emit]
  refine ⟨_, run_token hgap (expire_none hl.candidates) (by simp [hindent]) hrest htok fuel, ?_, ?_⟩
  · refine ⟨hc, fun h => hcol' ?_, fun h => ?_, hl.candidates, hl.blocks⟩ <;>
      cases tail <;> simp_all
  · simp [tokens, emit]

-- Without a value, the reader goes on to the next line at once.
theorem run_blanks (hl : l.BehindName (bs ++ tail)) (hb : bs.all isBlank) (ht : isLineEnd tail)
    (hs : isStart tail.tail) (fuel : Nat) :
    ∃ l', run (fuel + 1) l = run (fuel + 1) l' ∧ l'.AtLine tail.tail false ∧
      l'.tokens = l.tokens := by
  have hrest := Cursor.rest_past hl.rest
  cases tail
  case nil =>
    have hgap := skipGap_blanks hl hb rfl l.cursor.rest.length
    refine ⟨{ l with cursor := l.cursor.past bs.length }, ?_, ?_, rfl⟩
    · exact run_of_skipGap (by rw [hgap]; rfl) (by rw [hrest]; rfl) fuel
    · exact ⟨hrest, by simp, by simp, hl.candidates, hl.blocks⟩
  case cons x cs =>
    simp only [isLineEnd, Bool.and_eq_true, beq_iff_eq] at ht
    obtain ⟨rfl, -⟩ := ht
    obtain ⟨c, hc, hc', hcol⟩ : ∃ c, (l.cursor.past bs.length).skipBreak = c ∧ c.rest = cs ∧
        c.column = 0 := by
      simp [Cursor.skipBreak, hrest, isBreak]
    have hgap := skipGap_blanks hl hb (by rfl) l.cursor.rest.length
    have hpos : l.cursor.rest.length = bs.length + cs.length + 1 := by simp [hl.rest, Nat.add_assoc]
    refine ⟨{ l with cursor := c, keyAllowed := true }, ?_, ?_, rfl⟩
    · refine run_of_skipGap ?_ (by rwa [hc']) fuel
      rw [hgap, hpos, hc]
      exact skipGap_start (by rwa [hc']) _
    · exact ⟨hc', fun _ => hcol, fun _ => rfl, hl.candidates, hl.blocks⟩

-- A value on the line of its name is read up to the next line.
theorem reads_value {line : PlainLine} (hl : l.BehindName (line.value ++ tail))
    (ht : isLineEnd tail) (hs : isStart tail.tail)
    (next : ∀ l' : Lexer, l'.AtLine tail.tail false → l'.Reads ts) :
    l.Reads (line.valueTokens ++ ts) := by
  have ⟨_, hplain, hhead⟩ := line.plainValue
  have hb : (line.value.takeWhile isBlank).all isBlank := List.all_takeWhile
  rw [← line.blanks_append_body, List.append_assoc] at hl
  intro fuel hfuel
  have ⟨fuel, hf⟩ := Nat.exists_eq_add_one.mpr (Nat.zero_lt_of_lt hfuel)
  subst hf
  rw [hl.rest] at hfuel
  cases hw : line.body
  case nil =>
    rw [hw] at hl hfuel
    have ⟨l', hrun, hl', htokens⟩ := run_blanks hl hb ht hs fuel
    have hlen : l'.cursor.rest.length < fuel + 1 := by
      simp only [hl'.rest, List.length_tail, List.nil_append, List.length_append] at hfuel ⊢
      omega
    rw [hrun, next l' hl' _ hlen, htokens, PlainLine.valueTokens, hw]
    rfl
  case cons x w =>
    rw [hw] at hl hfuel
    have hx : isBlank x = false ∧ isIndicator x = false := by
      simpa [hw] using hhead
    have ⟨l', hrun, hl', htokens⟩ := run_value hl hb (hw ▸ hplain) hx ht fuel
    have hlen : l'.cursor.rest.length < fuel := by
      simp only [hl'.rest, List.length_tail, List.length_append, List.length_cons] at hfuel ⊢
      omega
    rw [hrun, next l' hl' _ hlen, htokens, PlainLine.valueTokens, PlainLine.content, hw]
    simp

theorem reads_line {line : PlainLine} (hl : l.AtLine (line.text ++ tail) first)
    (ht : isLineEnd tail) (hs : isStart tail.tail)
    (next : ∀ l' : Lexer, l'.AtLine tail.tail false → l'.Reads ts) :
    l.Reads ((if first then [Token.blockMappingStart] else []) ++ line.tokens ++ ts) := by
  have ⟨x, name, hname, hall, hx, hshort⟩ := line.exists_name
  have hvalue : endsHere (line.value ++ tail) := by
    rw [endsHere_append (endsHere_of_isLineEnd ht)]
    exact line.plainValue.1
  rw [PlainLine.text, List.append_assoc, List.cons_append, hname] at hl
  intro fuel hfuel
  rw [hl.rest] at hfuel
  simp only [List.length_append, List.length_cons] at hfuel
  have ⟨fuel, hf⟩ : ∃ f, fuel = f + 2 := ⟨fuel - 2, by omega⟩
  subst hf
  have ⟨l', hrun, hl', htokens⟩ := run_key hl hall hx hshort hvalue fuel
  have hlen : l'.cursor.rest.length < fuel := by
    simp only [hl'.rest, List.length_append]
    omega
  rw [hrun, reads_value hl' ht hs next fuel hlen, htokens, PlainLine.tokens, hname]
  simp

theorem isStart_textOf (lines : List PlainLine) : isStart (PlainLine.textOf lines) := by
  cases lines
  case nil => rfl
  case cons line lines =>
    have ⟨x, name, hname, hall, _⟩ := line.exists_name
    rw [PlainLine.textOf_cons, PlainLine.text, hname]
    exact isStart_name (List.all_eq_true.mp hall x List.mem_cons_self) _

theorem isLineEnd_behind (lines : List PlainLine) : isLineEnd (PlainLine.behind lines) := by
  cases lines
  case nil => rfl
  case cons line lines =>
    have h := isStart_textOf (line :: lines)
    unfold isStart at h
    cases hs : PlainLine.textOf (line :: lines) <;>
      simp_all [PlainLine.behind, isLineEnd, isSettled]

theorem reads_textOf (lines : List PlainLine) (hl : l.AtLine (PlainLine.textOf lines) false) :
    l.Reads (lines.flatMap PlainLine.tokens ++ [.blockEnd]) := by
  induction lines generalizing l
  case nil => exact reads_nil hl
  case cons line lines ih =>
    rw [PlainLine.textOf_cons] at hl
    rw [List.flatMap_cons, List.append_assoc]
    exact reads_line hl (isLineEnd_behind lines) (by simpa using isStart_textOf lines)
      fun l' hl' => ih (by simpa using hl')

end Lexer

theorem isAllowed_name (hx : isNameChar x) : isAllowed x := by
  have := toNat_of_isNameChar hx
  simp only [isAllowed, Bool.or_eq_true, Bool.and_eq_true, decide_eq_true_eq, beq_iff_eq]
  omega

theorem isAllowed_blank (hx : isBlank x) : isAllowed x := by
  simp only [isBlank, Bool.or_eq_true, beq_iff_eq] at hx
  rcases hx with rfl | rfl <;> decide

theorem isAllowed_plainText (h : isPlainText b cs) : cs.all isAllowed := by
  induction cs generalizing b
  case nil => rfl
  case cons x cs ih =>
    simp only [isPlainText, Bool.and_eq_true] at h
    rw [List.all_cons, h.1.1.1.1, ih h.2]
    rfl

theorem not_isBreak_of_plainText (h : isPlainText b cs) : ∀ x ∈ cs, isBreak x = false := by
  induction cs generalizing b
  case nil => simp
  case cons x cs ih =>
    simp only [isPlainText, Bool.and_eq_true, Bool.not_eq_true'] at h
    exact List.forall_mem_cons.mpr ⟨h.1.1.1.2, ih h.2⟩

namespace PlainLine

theorem isAllowed_text (line : PlainLine) : line.text.all isAllowed := by
  have ⟨x, name, hname, hall, _⟩ := line.exists_name
  have hn : line.name.all isAllowed :=
    hname ▸ List.all_eq_true.mpr fun y hy => isAllowed_name (List.all_eq_true.mp hall y hy)
  have hb : (line.value.takeWhile isBlank).all isAllowed :=
    List.all_eq_true.mpr fun y hy => isAllowed_blank (List.mem_takeWhile_imp hy)
  rw [text, List.all_append, List.all_cons, hn, ← line.blanks_append_body, List.all_append, hb,
    isAllowed_plainText line.plainValue.2.1]
  rfl

theorem isAllowed_textOf (lines : List PlainLine) : (textOf lines).all isAllowed := by
  induction lines
  case nil => rfl
  case cons line lines ih =>
    rw [textOf_cons, List.all_append, line.isAllowed_text]
    unfold behind
    split
    case isTrue => rfl
    case isFalse => simpa [isAllowed] using ih

theorem line_feed_not_mem_text (line : PlainLine) : '\n' ∉ line.text := by
  have ⟨x, name, hname, hn, _⟩ := line.exists_name
  rw [text, List.mem_append, List.mem_cons, ← line.blanks_append_body, List.mem_append]
  rintro (h | h | h | h)
  · exact ne_of_isNameChar (List.all_eq_true.mp hn _ (hname ▸ h)) '\n' rfl rfl
  · cases h
  · cases List.mem_takeWhile_imp h
  · cases not_isBreak_of_plainText line.plainValue.2.1 _ h

theorem splitOn_textOf (line : PlainLine) (lines : List PlainLine) :
    (textOf (line :: lines)).splitOn '\n' = (line :: lines).map text := by
  induction lines generalizing line
  case nil =>
    rw [textOf_cons]
    simpa [behind] using List.splitOn_eq_singleton line.line_feed_not_mem_text
  case cons next lines ih =>
    rw [textOf_cons, behind, if_neg (by simp),
      List.splitOn_append_cons_self_of_not_mem line.line_feed_not_mem_text, ih]
    rfl

end PlainLine

theorem Token.scan_textOf (line : PlainLine) (lines : List PlainLine) :
    Token.scan (String.ofList (PlainLine.textOf (line :: lines))) =
      some (.blockMappingStart :: ((line :: lines).flatMap PlainLine.tokens ++ [.blockEnd])) := by
  let l : Lexer := { cursor := Cursor.start (String.ofList (PlainLine.textOf (line :: lines))) }
  have hl : l.AtLine (line.text ++ PlainLine.behind lines) true :=
    ⟨by simp [l, Cursor.start, PlainLine.textOf_cons], fun _ => rfl, fun _ => rfl, rfl, rfl⟩
  have hreads := Lexer.reads_line hl (Lexer.isLineEnd_behind lines)
    (by simpa using Lexer.isStart_textOf lines)
    fun l' hl' => Lexer.reads_textOf lines (by simpa using hl')
  rw [Token.scan, if_pos (by simpa using PlainLine.isAllowed_textOf (line :: lines))]
  simpa [l, Lexer.tokens] using hreads _ (by simp [l, Cursor.start])

end ProposalLint.Yaml
