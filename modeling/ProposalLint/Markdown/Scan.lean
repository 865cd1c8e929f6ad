import ProposalLint.Markdown.Window
import ProposalLint.Markdown.Entities

namespace ProposalLint.Markdown.Scan

variable (w : Window)

-- Past a thematic break: three or more of one of `*`, `-`, `_` with only blanks between.
def thematicBreak? (i : Nat) : Option Nat :=
  match w.at? i with
  | some c =>
    if (c == '*' || c == '-' || c == '_') && i + 3 ≤ w.stop then
      let j := w.skipWhile (fun d => d == c || d == ' ' || d == '\t') i
      let marks := (List.range (j - i)).countP fun k => w.has (i + k) c
      if marks ≥ 3 then eol? w j else none
    else none
  | none => none

-- The level of a heading that starts with one to six `#`.
def atxLevel? (i : Nat) : Option Nat :=
  let j := run w '#' i
  let level := j - i
  let ends := match w.at? j with
    | some c => isSpace c
    | none => true
  if 1 ≤ level && level ≤ 6 && ends then some level else none

-- Past the underline of a heading, and the level it gives.
def underline? (i : Nat) : Option (Nat × Nat) :=
  let line (c : Char) (level : Nat) := (blankLine? w (run w c i)).map (·, level)
  match w.at? i with
  | some '=' => line '=' 1
  | some '-' => line '-' 2
  | _ => none

-- The character and the length of an opening code fence.
def codeFence? (i : Nat) : Option (Char × Nat) :=
  match w.at? i with
  | some c =>
    if c == '\x60' || c == '~' then
      let j := run w c i
      let info := w.upTo (nextLine w j)
      if j - i < 3 then none
      else if c == '\x60' && (info.find? '\x60' j).isSome then none
      else some (c, j - i)
    else none
  | none => none

-- Past a closing code fence; the end of the text closes every fence.
def closingFence? (c : Char) (count : Nat) (i : Nat) : Option Nat :=
  if i ≥ w.stop then some i
  else
    let j := run w c i
    if j - i < count then none
    else
      let j := run w ' ' j
      (eol? w j).map fun _ => j

-- Past the fence that closes a metadata block.
def closingMetadata? (i : Nat) : Option Nat :=
  if run w '-' i - i == 3 || run w '.' i - i == 3 then
    let j := run w ' ' (i + 3)
    (eol? w j).map fun _ => j
  else none

-- Some line from `i` on closes the metadata block; the line behind `i` may be nothing else.
def metadataCloses (first : Bool) (i : Nat) : Nat → Bool
  | 0 => false
  | fuel + 1 =>
    if i < w.stop then
      let j := nextLine w i
      let closed := (closingMetadata? w j).isSome
      if first && (closed || (blankLine? w j).isSome) then false
      else closed || metadataCloses false j fuel
    else false

-- A metadata block starts here: a line of three dashes, a line with content, a closing fence.
def opensMetadata (i : Nat) : Bool :=
  let j := run w '-' i
  let line := nextLine w j
  let blank := (w.upTo line).skipWhile (fun c => isSpace c && c != '\x0b') j == line
  j - i == 3 && blank && metadataCloses w true j (w.stop + 1)

def decimal (limit : Nat) (i : Nat) : Nat × Nat :=
  go limit i 0
where
  go : Nat → Nat → Nat → Nat × Nat
  | 0, i, n => (i, n)
  | fuel + 1, i, n =>
    match w.at? i with
    | some c => if c.isDigit then go fuel (i + 1) (n * 10 + (c.toNat - 48)) else (i, n)
    | none => (i, n)

-- The offset behind a list marker, its character and its number.
def listMarker? (i : Nat) : Option (Nat × Char × Nat) := do
  let c ← w.at? i
  let (j, c, number) ←
    if c == '-' || c == '+' || c == '*' then
      some (i + 1, c, 0)
    else if c.isDigit then
      let (j, n) := decimal w 9 i
      match w.at? j with
      | some '.' => some (j + 1, '.', n)
      | some ')' => some (j + 1, ')', n)
      | _ => none
    else none
  let (_, spaces) := indent w 5 j
  if spaces == 0 && (eol? w j).isNone then none
  else return (j, c, number)

def blockTags : List String := [
  "address", "article", "aside", "base", "basefont", "blockquote", "body", "caption", "center",
  "col", "colgroup", "dd", "details", "dialog", "dir", "div", "dl", "dt", "fieldset",
  "figcaption", "figure", "footer", "form", "frame", "frameset", "h1", "h2", "h3", "h4", "h5",
  "h6", "head", "header", "hr", "html", "iframe", "legend", "li", "link", "main", "menu",
  "menuitem", "nav", "noframes", "ol", "optgroup", "option", "p", "param", "search", "section",
  "summary", "table", "tbody", "td", "tfoot", "th", "thead", "title", "tr", "track",
  "ul"
]

def hasAllIgnoringCase (i : Nat) : List Char → Bool
  | [] => true
  | c :: cs =>
    (match w.at? i with
     | some d => d.toLower == c
     | none => false) && hasAllIgnoringCase (i + 1) cs

-- What closes the HTML block that starts with the `<` in front of `i`, for blocks that run on to a
-- mark of their own.
def htmlCloser? (i : Nat) : Option String :=
  let raw := ["pre", "style", "script", "textarea"].find? fun tag =>
    hasAllIgnoringCase w i tag.toList &&
      (match w.at? (i + tag.length) with
       | some c => isSpace c || c == '>'
       | none => true)
  match raw with
  | some tag => some ("</" ++ tag ++ ">")
  | none =>
    if w.hasAll i ['!', '-', '-'] then some "-->"
    else if w.has i '?' then some "?>"
    else if w.hasAll i "![CDATA[".toList then some "]]>"
    else if w.has i '!' && (w.at? (i + 1)).any isAlpha then some ">"
    else none

-- The `<` in front of `i` opens or closes one of the tags that make a block.
def isBlockTag (i : Nat) : Bool :=
  let i := if w.has i '/' then i + 1 else i
  let j := w.skipWhile isAlnum i
  let name := (w.slice i j).map Char.toLower
  blockTags.contains name &&
    (match w.at? j with
     | none | some ' ' | some '\t' | some '\r' | some '\n' | some '>' => true
     | some '/' => w.has (j + 1) '>'
     | some _ => false)

structure DelimiterRow where
  next : Nat
  columns : Nat

-- What was seen of a delimiter row: closed columns, and marks in the column that is still open.
structure DelimiterState where
  columns : Nat := 0
  pipe : Bool
  dash : Bool := false
  columnDash : Bool := false
  fresh : Bool := true

-- The line of dashes, colons and pipes under a table's first row. It has a pipe and a dash, and
-- each column that a pipe closes has a dash.
def delimiterRow? (i : Nat) : Option DelimiterRow :=
  let (i, spaces) := indent w 4 i
  if spaces > 3 || i ≥ w.stop then none
  else
    let pipe := w.has i '|'
    go (w.stop + 1) (if pipe then i + 1 else i) { pipe }
where
  go : Nat → Nat → DelimiterState → Option DelimiterRow
  | 0, _, _ => none
  | fuel + 1, i, s =>
    match eol? w i with
    | some next =>
      if s.pipe && s.dash then some ⟨next, if s.fresh then s.columns else s.columns + 1⟩ else none
    | none =>
      match w.at? i with
      | some ' ' => go fuel (i + 1) s
      | some ':' => go fuel (i + 1) { s with fresh := false }
      | some '-' => go fuel (i + 1) { s with fresh := false, dash := true, columnDash := true }
      | some '|' =>
        if s.columnDash then
          go fuel (i + 1)
            { s with columns := s.columns + 1, pipe := true, columnDash := false, fresh := true }
        else none
      | _ => none

-- How many cells the pipes of a line make; a pipe at either end of the line bounds none.
def cellCount (pipes start lastPipe : Nat) : Nat :=
  let pipes := if w.has (blanks w start) '|' then pipes - 1 else pipes
  if (blankLine? w (lastPipe + 1)).isSome then pipes else pipes + 1

def hexadecimal (limit : Nat) (i : Nat) : Nat × Nat :=
  go limit i 0
where
  go : Nat → Nat → Nat → Nat × Nat
  | 0, i, n => (i, n)
  | fuel + 1, i, n =>
    match w.at? i with
    | some c =>
      if c.isDigit then go fuel (i + 1) (n * 16 + (c.toNat - 48))
      else if 'a' ≤ c.toLower && c.toLower ≤ 'f' then
        go fuel (i + 1) (n * 16 + (c.toLower.toNat - 87))
      else (i, n)
    | none => (i, n)

def ofCode (code : Nat) : Char :=
  if code = 0 then '\ufffd'
  else if h : code.isValidChar then Char.ofNatAux code h
  else '\ufffd'

-- A character reference: the offset behind it and what it stands for.
def entity? (i : Nat) : Option (Nat × String) :=
  if w.has (i + 1) '#' then
    let hex := w.has (i + 2) 'x' || w.has (i + 2) 'X'
    let start := if hex then i + 3 else i + 2
    let (j, code) := if hex then hexadecimal w 6 start else decimal w 7 start
    if j = start || !w.has j ';' then none
    else some (j + 1, (ofCode code).toString)
  else
    let j := w.skipWhile isAlnum (i + 1)
    if w.has j ';' then
      (Entities.lookup (w.slice (i + 1) j)).map (j + 1, ·)
    else none

end ProposalLint.Markdown.Scan
