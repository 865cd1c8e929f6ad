import ProposalLint.Yaml.Scalar

namespace ProposalLint.Yaml

-- Indentation is explicit: every block collection has a start and an end token, and a key is marked
-- even where only the colon after it shows that it is one.
inductive Token where
  | version (major minor : Nat)
  | tagPrefix (handle start : String)
  | documentStart
  | documentEnd
  | blockSequenceStart
  | blockMappingStart
  | blockEnd
  | flowSequenceStart
  | flowSequenceEnd
  | flowMappingStart
  | flowMappingEnd
  | blockEntry
  | flowEntry
  | key
  | value
  | alias (name : String)
  | anchor (name : String)
  | tag (handle suffix : String)
  | scalar (text : String) (plain : Bool)
deriving DecidableEq, Inhabited, Repr

-- A token that turns out to be a key if a colon follows it on the same line. A required one stands
-- where nothing but a key may stand.
structure Candidate where
  required : Bool
  slot : Nat
  index : Nat
  line : Nat
  column : Nat

-- A token with those put before it later on.
structure Slot where
  before : List Token := []
  token : Token

structure Lexer where
  cursor : Cursor
  -- The latest token comes first.
  slots : List Slot := []
  indent : Int := -1
  outer : List Int := []
  keyAllowed : Bool := true
  -- One for each open flow collection, the innermost first, and one for the block around them.
  candidates : List (Option Candidate) := [none]

namespace Lexer

def inFlow (l : Lexer) : Bool :=
  1 < l.candidates.length

def emit (l : Lexer) (t : Token) : Lexer :=
  { l with slots := { token := t } :: l.slots }

-- The tokens in the order in which they stand.
def tokens (l : Lexer) : List Token :=
  l.slots.reverse.flatMap fun s => s.before ++ [s.token]

def insertBefore (l : Lexer) (slot : Nat) (t : Token) : Lexer :=
  let add (s : Slot) : Slot := { s with before := t :: s.before }
  { l with slots := l.slots.modify (l.slots.length - 1 - slot) add }

-- A key must end on its line and within 1024 characters.
def expire (l : Lexer) : Option Lexer := do
  let keep (k : Option Candidate) : Option (Option Candidate) :=
    match k with
    | none => some none
    | some k =>
      if k.line < l.cursor.line || k.index + 1024 < l.cursor.index then
        if k.required then none else some none
      else some (some k)
  some { l with candidates := ← l.candidates.mapM keep }

def dropCandidate (l : Lexer) : Option Lexer :=
  match l.candidates with
  | some k :: ks => if k.required then none else some { l with candidates := none :: ks }
  | _ => some l

def saveCandidate (l : Lexer) : Option Lexer := do
  if !l.keyAllowed then some l
  else
    let required := !l.inFlow && l.indent == Int.ofNat l.cursor.column
    let l' ← l.dropCandidate
    let k : Candidate := ⟨required, l.slots.length, l.cursor.index, l.cursor.line, l.cursor.column⟩
    some { l' with candidates := some k :: l'.candidates.tail }

-- Opens a block collection if the column is deeper than the current one.
def indentTo (l : Lexer) (column : Nat) (add : Lexer → Lexer) : Lexer :=
  if l.inFlow || Int.ofNat column ≤ l.indent then l
  else add { l with indent := Int.ofNat column, outer := l.indent :: l.outer }

def closeBlocks (l : Lexer) (column : Int) : List Int → Lexer
  | [] => l
  | i :: is =>
    if column < l.indent then closeBlocks { l.emit .blockEnd with indent := i, outer := is } column is
    else l

-- Ends the block collections that are indented deeper than the column.
def outdentTo (l : Lexer) (column : Int) : Lexer :=
  if l.inFlow then l else l.closeBlocks column l.outer

-- Skips blanks, comments and line breaks.
def skipGap : Nat → Lexer → Lexer
  | 0, l => l
  | fuel + 1, l =>
    let c := if l.cursor.index == 0 && l.cursor.is '\ufeff' then l.cursor.skip else l.cursor
    let tabs := l.inFlow || !l.keyAllowed
    let c := (c.skipWhile fun x => x == ' ' || (tabs && x == '\t')).skipComment
    if c.satisfies isBreak then
      skipGap fuel { l with cursor := c.skipBreak, keyAllowed := l.keyAllowed || !l.inFlow }
    else { l with cursor := c }

def number? (c : Cursor) : Option (Cursor × Nat) :=
  let isDigit (x : Char) := '0' ≤ x && x ≤ '9'
  let ds := c.rest.takeWhile isDigit
  if ds.isEmpty || 9 < ds.length then none
  else some (c.skipWhile isDigit, ds.foldl (fun n d => 10 * n + (d.toNat - 48)) 0)

def tagHandle? (c : Cursor) : Option (Cursor × List Char) :=
  if !c.is '!' then none
  else
    let c := c.skip
    let name := c.rest.takeWhile isNameChar
    let c := c.skipWhile isNameChar
    if c.is '!' then some (c.skip, '!' :: name ++ ['!']) else some (c, '!' :: name)

def isUriChar (verbatim : Bool) (x : Char) : Bool :=
  isNameChar x || ";/?:@&=+$.%!~*'()".toList.contains x
    || (verbatim && (x == ',' || x == '[' || x == ']'))

-- The bytes of one character, each written as a percent sign and two digits.
def uriBytes : Nat → List Char → Option (List Nat)
  | 0, _ => some []
  | n + 1, '%' :: a :: b :: cs => do
    let byte := 16 * (← Scalar.hexValue? a) + (← Scalar.hexValue? b)
    return byte :: (← uriBytes n cs)
  | _, _ => none

def uriEscape? (cs : List Char) : Option (Char × Nat) := do
  let [lead] ← uriBytes 1 cs | none
  let width ←
    if lead < 0x80 then some 1
    else if 0xC0 ≤ lead && lead < 0xE0 then some 2
    else if 0xE0 ≤ lead && lead < 0xF0 then some 3
    else if 0xF0 ≤ lead && lead < 0xF8 then some 4
    else none
  let bytes ← uriBytes width cs
  let text ← String.fromUTF8? ⟨(bytes.map Nat.toUInt8).toArray⟩
  let [x] := text.toList | none
  some (x, 3 * width)

def uriFrom (verbatim : Bool) : Nat → Cursor → List Char → Option (Cursor × List Char)
  | 0, _, _ => none
  | fuel + 1, c, uri =>
    match c.peek with
    | some x =>
      if !isUriChar verbatim x then some (c, uri.reverse)
      else if x == '%' then do
        let (y, n) ← uriEscape? c.rest
        uriFrom verbatim fuel (Nat.repeat Cursor.skip n c) (y :: uri)
      else uriFrom verbatim fuel c.skip (x :: uri)
    | none => some (c, uri.reverse)

def uri (verbatim : Bool) (c : Cursor) : Option (Cursor × List Char) :=
  uriFrom verbatim (c.rest.length + 1) c []

-- A directive line, after the percent sign.
def directive (c : Cursor) : Option (Cursor × Token) := do
  let name := c.rest.takeWhile isNameChar
  let c := c.skipWhile isNameChar
  if name.isEmpty || !c.endsWord 0 then none
  let (c, token) ← if name == ['Y', 'A', 'M', 'L'] then versionValue c
    else if name == ['T', 'A', 'G'] then tagValue c
    else none
  let c := c.skipBlanks.skipComment
  if !c.endsLine then none
  some (c.skipBreak, token)
where
  versionValue (c : Cursor) : Option (Cursor × Token) := do
    let (c, major) ← number? c.skipBlanks
    if !c.is '.' then none
    let (c, minor) ← number? c.skip
    some (c, .version major minor)
  tagValue (c : Cursor) : Option (Cursor × Token) := do
    let (c, handle) ← tagHandle? c.skipBlanks
    if handle.getLast? != some '!' || !c.satisfies isBlank then none
    let (c, start) ← uri true c.skipBlanks
    if start.isEmpty || !c.endsWord 0 then none
    some (c, .tagPrefix (String.ofList handle) (String.ofList start))

-- A tag: verbatim in angle brackets, or a handle and a suffix.
def tagToken (inFlow : Bool) (c : Cursor) : Option (Cursor × Token) := do
  let (c, handle, suffix) ← if c.peekAt 1 == some '<' then verbatim c.skip.skip else short c
  if !(inFlow && c.is ',') && !c.endsWord 0 then none
  some (c, .tag (String.ofList handle) (String.ofList suffix))
where
  verbatim (c : Cursor) : Option (Cursor × List Char × List Char) := do
    let (c, suffix) ← uri true c
    if suffix.isEmpty || !c.is '>' then none
    some (c.skip, [], suffix)
  short (c : Cursor) : Option (Cursor × List Char × List Char) := do
    let (c, handle) ← tagHandle? c
    if 1 < handle.length && handle.getLast? == some '!' then
      let (c, suffix) ← uri false c
      if suffix.isEmpty then none
      some (c, handle, suffix)
    else
      let (c, rest) ← uri false c
      let suffix := handle.tail ++ rest
      if suffix.isEmpty then some (c, [], ['!']) else some (c, ['!'], suffix)

def nameToken (c : Cursor) (token : String → Token) : Option (Cursor × Token) :=
  let name := c.rest.takeWhile isNameChar
  let c := c.skipWhile isNameChar
  if name.isEmpty || !(c.endsWord 0 || c.satisfies ("?:,]\x7d%@\x60".toList.contains ·)) then none
  else some (c, token (String.ofList name))

-- Takes in one token that stands for itself.
def mark (l : Lexer) (length : Nat) (t : Token) (keyAllowed : Bool) : Lexer :=
  { l.emit t with cursor := Nat.repeat Cursor.skip length l.cursor, keyAllowed := keyAllowed }

def documentMark (l : Lexer) (t : Token) : Option Lexer := do
  some ((← (l.outdentTo (-1)).dropCandidate).mark 3 t false)

def openFlow (l : Lexer) (t : Token) : Option Lexer := do
  let l := (← l.saveCandidate).mark 1 t true
  some { l with candidates := none :: l.candidates }

def closeFlow (l : Lexer) (t : Token) : Option Lexer := do
  let l := (← l.dropCandidate).mark 1 t false
  some { l with candidates := if l.inFlow then l.candidates.tail else l.candidates }

def blockEntry (l : Lexer) : Option Lexer := do
  if !l.inFlow && !l.keyAllowed then none
  let l := l.indentTo l.cursor.column (·.emit .blockSequenceStart)
  some ((← l.dropCandidate).mark 1 .blockEntry true)

def keyMark (l : Lexer) : Option Lexer := do
  if !l.inFlow && !l.keyAllowed then none
  let l := l.indentTo l.cursor.column (·.emit .blockMappingStart)
  let l ← l.dropCandidate
  some (l.mark 1 .key (!l.inFlow))

def valueMark (l : Lexer) : Option Lexer :=
  match l.candidates with
  | some k :: ks =>
    let l := { l with candidates := none :: ks }.insertBefore k.slot .key
    let l := l.indentTo k.column (·.insertBefore k.slot .blockMappingStart)
    some (l.mark 1 .value false)
  | _ =>
    if !l.inFlow && !l.keyAllowed then none
    else
      let l := l.indentTo l.cursor.column (·.emit .blockMappingStart)
      some (l.mark 1 .value (!l.inFlow))

-- A token that may be a key.
def item (l : Lexer) (read : Cursor → Option (Cursor × Token)) : Option Lexer := do
  let l ← l.saveCandidate
  let (c, t) ← read l.cursor
  some { l.emit t with cursor := c, keyAllowed := false }

def plainItem (l : Lexer) : Option Lexer := do
  let l ← l.saveCandidate
  let (c, text, broken) ← Scalar.plain l.inFlow (l.indent + 1).toNat l.cursor
  some { l.emit (.scalar text true) with cursor := c, keyAllowed := broken }

def quotedItem (l : Lexer) (quote : Char) : Option Lexer :=
  l.item fun c => (Scalar.quoted quote c).map fun (c, text) => (c, .scalar text false)

def blockItem (l : Lexer) (literal : Bool) : Option Lexer := do
  let l ← l.dropCandidate
  let (c, text) ← Scalar.block literal l.indent l.cursor
  some { l.emit (.scalar text false) with cursor := c, keyAllowed := true }

def directiveLine (l : Lexer) : Option Lexer := do
  let l ← (l.outdentTo (-1)).dropCandidate
  let (c, t) ← directive l.cursor.skip
  some { l.emit t with cursor := c, keyAllowed := false }

-- No plain scalar starts with one of these, with exceptions for the first three.
def isIndicator (x : Char) : Bool :=
  "-?:,[]\x7b\x7d#&*!|>'\"%@\x60".toList.contains x

def startsPlain (l : Lexer) (x : Char) : Bool :=
  !(isBlank x || isIndicator x)
    || (x == '-' && !(l.cursor.peekAt 1).any isBlank)
    || (!l.inFlow && (x == '?' || x == ':') && !l.cursor.endsWord 1)

-- Reads the token that starts with `x`, the character at hand.
def token (l : Lexer) (x : Char) : Option Lexer :=
  let c := l.cursor
  if c.column == 0 && x == '%' then l.directiveLine
  else if c.atDocumentMark '-' then l.documentMark .documentStart
  else if c.atDocumentMark '.' then l.documentMark .documentEnd
  else if x == '[' then l.openFlow .flowSequenceStart
  else if x == '\x7b' then l.openFlow .flowMappingStart
  else if x == ']' then l.closeFlow .flowSequenceEnd
  else if x == '\x7d' then l.closeFlow .flowMappingEnd
  else if x == ',' then do some ((← l.dropCandidate).mark 1 .flowEntry true)
  else if x == '-' && c.endsWord 1 then l.blockEntry
  else if x == '?' && (l.inFlow || c.endsWord 1) then l.keyMark
  else if x == ':' && (l.inFlow || c.endsWord 1) then l.valueMark
  else if x == '*' then l.item fun c => nameToken c.skip .alias
  else if x == '&' then l.item fun c => nameToken c.skip .anchor
  else if x == '!' then l.item (tagToken l.inFlow)
  else if x == '|' && !l.inFlow then l.blockItem true
  else if x == '>' && !l.inFlow then l.blockItem false
  else if x == '\'' then l.quotedItem '\''
  else if x == '"' then l.quotedItem '"'
  else if l.startsPlain x then l.plainItem
  else none

-- The end of the text ends all blocks; a key still wanted is an error.
def finish (l : Lexer) : Option (List Token) := do
  let l ← (l.outdentTo (-1)).dropCandidate
  some l.tokens

def run : Nat → Lexer → Option (List Token)
  | 0, _ => none
  | fuel + 1, l => do
    let l ← (skipGap (l.cursor.rest.length + 1) l).expire
    let l := l.outdentTo l.cursor.column
    match l.cursor.peek with
    | none => l.finish
    | some x => run fuel (← l.token x)

end Lexer

-- The tokens of a text, unless it breaks a rule.
def Token.scan (text : String) : Option (List Token) :=
  if text.toList.all isAllowed then
    Lexer.run (text.length + 1) { cursor := Cursor.start text }
  else none

end ProposalLint.Yaml
