import ProposalLint.Text.Punctuation

namespace ProposalLint.Markdown

-- The bytes of a text, with everything from `stop` on out of sight. Scanners take a window and an
-- offset and give back an offset, so nothing is copied on the way.
structure Window where
  bytes : ByteArray
  stop : Nat

namespace Window

def ofString (s : String) : Window :=
  ⟨s.toByteArray, s.utf8ByteSize⟩

-- The same bytes, seen no further than `stop`.
def upTo (w : Window) (stop : Nat) : Window :=
  { w with stop := min w.stop stop }

-- The byte at an offset as a character; only ASCII characters mean what they show.
def at? (w : Window) (i : Nat) : Option Char :=
  if i < w.stop then (w.bytes[i]?).map fun b => Char.ofNat b.toNat else none

def has (w : Window) (i : Nat) (c : Char) : Bool :=
  w.at? i == some c

-- The characters of `word` stand at `i`.
def hasAll (w : Window) (i : Nat) : List Char → Bool
  | [] => true
  | c :: cs => w.has i c && w.hasAll (i + 1) cs

-- The first offset from `i` on where `p` fails, at most `stop`.
def skipWhile (w : Window) (p : Char → Bool) (i : Nat) : Nat :=
  if i < w.stop then
    match w.at? i with
    | some c => if p c then w.skipWhile p (i + 1) else i
    | none => i
  else i
termination_by w.stop - i

-- How many bytes directly in front of `i`, and not in front of `floor`, satisfy `p`.
def countBack (w : Window) (p : Char → Bool) (floor i : Nat) : Nat :=
  match i with
  | 0 => 0
  | i + 1 =>
    if floor ≤ i then
      match w.at? i with
      | some c => if p c then w.countBack p floor i + 1 else 0
      | none => 0
    else 0

-- The first offset from `i` on where `c` stands.
def find? (w : Window) (c : Char) (i : Nat) : Option Nat :=
  let j := w.skipWhile (· != c) i
  if w.has j c then some j else none

-- The characters of `word` stand somewhere from `i` on in front of `stop`.
def contains (w : Window) (word : List Char) (i : Nat) : Bool :=
  if i < w.stop then
    w.hasAll i word || w.contains word (i + 1)
  else false
termination_by w.stop - i

def slice (w : Window) (start stop : Nat) : String :=
  String.fromUTF8? (w.bytes.extract start stop) |>.getD ""

-- Continuation bytes of an encoded character start with the bits 10.
def isContinuation (b : UInt8) : Bool :=
  b &&& 0xC0 == 0x80

def boundaryBefore (w : Window) : Nat → Nat
  | 0 => 0
  | i + 1 =>
    match w.bytes[i]? with
    | some b => if isContinuation b then w.boundaryBefore i else i
    | none => i

-- The whole character that ends at `i`.
def charBefore? (w : Window) (i : Nat) : Option Char :=
  if i = 0 then none
  else (w.slice (w.boundaryBefore i) i).toList.head?

-- The whole character that starts at `i`.
def charAfter? (w : Window) (i : Nat) : Option Char :=
  match w.bytes[i]? with
  | some b =>
    let width := if b < 0x80 then 1 else if b < 0xE0 then 2 else if b < 0xF0 then 3 else 4
    (w.slice i (i + width)).toList.head?
  | none => none

end Window

def isBlank (c : Char) : Bool :=
  c == ' ' || c == '\t' || c == '\x0b' || c == '\x0c'

def isSpace (c : Char) : Bool :=
  isBlank c || c == '\n' || c == '\r'

def isAlpha (c : Char) : Bool :=
  c.isAlpha

def isAlnum (c : Char) : Bool :=
  c.isAlphanum

namespace Scan

variable (w : Window)

def blanks (i : Nat) : Nat :=
  w.skipWhile isBlank i

-- Past the run of `c` that starts at `i`.
def run (c : Char) (i : Nat) : Nat :=
  w.skipWhile (· == c) i

-- Past the line end at `i`, which the end of the text counts as.
def eol? (i : Nat) : Option Nat :=
  match w.at? i with
  | none => some i
  | some '\n' => some (i + 1)
  | some '\r' => some (if w.has (i + 1) '\n' then i + 2 else i + 1)
  | some _ => none

-- Past the rest of a line that holds nothing but blanks.
def blankLine? (i : Nat) : Option Nat :=
  eol? w (blanks w i)

-- Past the next line feed.
def nextLine (i : Nat) : Nat :=
  match w.find? '\n' i with
  | some j => j + 1
  | none => max i w.stop

-- Leading spaces up to `limit` columns: the offset behind them and their width.
def indent (limit : Nat) (i : Nat) : Nat × Nat :=
  go (limit + 1) i 0
where
  go : Nat → Nat → Nat → Nat × Nat
  | 0, i, spaces => (i, spaces)
  | fuel + 1, i, spaces =>
    if spaces ≥ limit then (i, spaces)
    else
      match w.at? i with
      | some ' ' => go fuel (i + 1) (spaces + 1)
      | some '\t' =>
        let wide := spaces + (4 - spaces % 4)
        if wide > limit then (i, spaces) else go fuel (i + 1) wide
      | _ => (i, spaces)

end Scan
end ProposalLint.Markdown
