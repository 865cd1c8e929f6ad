namespace ProposalLint.Yaml

-- The characters still to come, how many came before, and the line and column reached.
structure Cursor where
  rest : List Char
  index : Nat
  line : Nat
  column : Nat
deriving Inhabited

def isBreak (c : Char) : Bool :=
  c == '\n' || c == '\r' || c == '\u0085' || c == '\u2028' || c == '\u2029'

def isBlank (c : Char) : Bool :=
  c == ' ' || c == '\t'

-- Letters, digits, `_` and `-` make up names of anchors, directives and tag handles.
def isNameChar (c : Char) : Bool :=
  c.isAlphanum || c == '_' || c == '-'

-- Control characters are not allowed anywhere.
def isAllowed (c : Char) : Bool :=
  let n := c.toNat
  n == 9 || n == 10 || n == 13 || (32 ≤ n && n ≤ 126) || n == 0x85 || (0xA0 ≤ n && n ≤ 0xFFFD)
    || 0x10000 ≤ n

namespace Cursor

def start (text : String) : Cursor :=
  ⟨text.toList, 0, 0, 0⟩

def peek (c : Cursor) : Option Char :=
  c.rest.head?

def peekAt (c : Cursor) (n : Nat) : Option Char :=
  c.rest[n]?

def atEnd (c : Cursor) : Bool :=
  c.rest.isEmpty

def is (c : Cursor) (x : Char) : Bool :=
  c.peek == some x

-- A test that also holds at the end of the text.
def isOrEnd (p : Char → Bool) : Option Char → Bool
  | none => true
  | some x => p x

def endsWord (c : Cursor) (n : Nat) : Bool :=
  isOrEnd (fun x => isBlank x || isBreak x) (c.peekAt n)

def endsLine (c : Cursor) : Bool :=
  isOrEnd isBreak c.peek

def satisfies (c : Cursor) (p : Char → Bool) : Bool :=
  c.peek.any p

def skip (c : Cursor) : Cursor :=
  { c with rest := c.rest.tail, index := c.index + 1, column := c.column + 1 }

-- The two characters of a carriage return with a line feed are one line break.
def skipBreak (c : Cursor) : Cursor :=
  match c.rest with
  | '\r' :: '\n' :: rest => ⟨rest, c.index + 2, c.line + 1, 0⟩
  | x :: rest => if isBreak x then ⟨rest, c.index + 1, c.line + 1, 0⟩ else c
  | [] => c

-- What the line break at hand stands for: a line feed, or itself if it is a separator.
def breakChars (c : Cursor) : List Char :=
  match c.peek with
  | some x =>
    if x == '\u2028' || x == '\u2029' then [x] else if isBreak x then ['\n'] else []
  | none => []

-- Skips all characters of one line that satisfy `p`; no line break may satisfy it.
def skipWhile (c : Cursor) (p : Char → Bool) : Cursor :=
  let n := (c.rest.takeWhile p).length
  { c with rest := c.rest.dropWhile p, index := c.index + n, column := c.column + n }

def skipBlanks (c : Cursor) : Cursor :=
  c.skipWhile isBlank

def skipComment (c : Cursor) : Cursor :=
  if c.is '#' then c.skipWhile (!isBreak ·) else c

-- Three dashes or points at the start of a line, as a word of their own.
def atDocumentMark (c : Cursor) (mark : Char) : Bool :=
  c.column == 0 && c.rest.take 3 == [mark, mark, mark] && c.endsWord 3

def atAnyDocumentMark (c : Cursor) : Bool :=
  c.atDocumentMark '-' || c.atDocumentMark '.'

end Cursor
end ProposalLint.Yaml
