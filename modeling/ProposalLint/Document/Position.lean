namespace ProposalLint

-- Lines and columns count from one, columns in characters, the offset in bytes.
structure Point where
  line : Nat
  column : Nat
  offset : Option Nat := none
deriving DecidableEq, Inhabited, Repr

-- The end is the point just behind the last character.
structure Position where
  start : Point
  stop : Point
deriving DecidableEq, Inhabited, Repr

-- A range of bytes in a text.
structure Span where
  start : Nat
  stop : Nat
deriving DecidableEq, Inhabited, Repr

def utf8Length : List Char → Nat
  | [] => 0
  | c :: cs => c.utf8Size + utf8Length cs

-- What stands behind so many bytes, if they are whole characters of the text.
def dropBytes? : Nat → List Char → Option (List Char)
  | 0, cs => some cs
  | _ + 1, [] => none
  | n + 1, c :: cs => if c.utf8Size ≤ n + 1 then dropBytes? (n + 1 - c.utf8Size) cs else none

def takeBytes? : Nat → List Char → Option (List Char)
  | 0, _ => some []
  | _ + 1, [] => none
  | n + 1, c :: cs =>
    if c.utf8Size ≤ n + 1 then (takeBytes? (n + 1 - c.utf8Size) cs).map (c :: ·) else none

-- The characters in a range of bytes; there are none to give if it cuts one.
def slice? (source : List Char) (span : Span) : Option (List Char) :=
  (dropBytes? span.start source).bind (takeBytes? (span.stop - span.start))

-- The places behind the line breaks of a text that begins at byte `offset`.
def lineStartsFrom (offset : Nat) : List Char → List Nat
  | [] => []
  | c :: cs =>
    if c = '\n' then (offset + 1) :: lineStartsFrom (offset + 1) cs
    else lineStartsFrom (offset + c.utf8Size) cs

-- Where the lines of a text start.
def lineStarts (source : List Char) : List Nat :=
  0 :: lineStartsFrom 0 source

namespace Point

-- The point at a byte offset; an offset behind the end stands for the end. An offset inside a
-- character is put at the start of its line.
def locate (source : List Char) (offset : Nat) : Point :=
  let offset := min offset (utf8Length source)
  let starts := lineStarts source
  -- As many lines start at the offset or in front of it.
  let line := starts.findIdx fun start => offset < start
  let column := ((slice? source ⟨starts.getD (line - 1) 0, offset⟩).map List.length).getD 0 + 1
  ⟨line, column, some offset⟩

end Point

namespace Position

def locate (source : List Char) (span : Span) : Position :=
  ⟨Point.locate source span.start, Point.locate source span.stop⟩

end Position

-- The lines of a text, each with the line feed that ends it.
def splitLines : List Char → List (List Char)
  | [] => []
  | c :: cs =>
    if c = '\n' then [c] :: splitLines cs
    else
      match splitLines cs with
      | line :: lines => (c :: line) :: lines
      | [] => [[c]]

-- Bytes in front of a line and column of the given lines. A line feed is the last character of its
-- line.
def offsetIn (line column : Nat) : List (List Char) → Nat
  | [] => 0
  | text :: lines =>
    if line ≤ 1 then utf8Length (text.take (column - 1))
    else utf8Length text + offsetIn (line - 1) column lines

-- The byte offset of a line and column. Line zero is the start of the text, a line behind the last
-- one is its end, and a column behind the end of a line is the start of the next line.
def offsetFor (source : List Char) (line column : Nat) : Nat :=
  if line = 0 then 0 else offsetIn line column (splitLines source)

end ProposalLint
