import ProposalLint.Markdown.Scan

namespace ProposalLint.Markdown

-- Containers hold other blocks; lists hold items only.
inductive Container where
  | quote
  | list (tight : Bool) (marker : Char) (start : Nat)
  | item (indent : Nat)
  | footnote (label : String)
deriving Inhabited

-- A place in the leading part of a line. `pending` columns of the last tab are still unused.
structure Cursor where
  ix : Nat
  tabStart : Nat
  pending : Nat

namespace Cursor

def start (ix : Nat) : Cursor :=
  ⟨ix, ix, 0⟩

variable (w : Window)

-- Uses up to `n` columns and gives back how many were wanting.
def takeSpaces (c : Cursor) (n : Nat) : Cursor × Nat :=
  let used := min c.pending n
  go n { c with pending := c.pending - used } (n - used)
where
  go : Nat → Cursor → Nat → Cursor × Nat
  | 0, c, n => (c, n)
  | fuel + 1, c, n =>
    if n = 0 then (c, 0)
    else
      match w.at? c.ix with
      | some ' ' => go fuel { c with ix := c.ix + 1 } (n - 1)
      | some '\t' =>
        let spaces := 4 - (c.ix - c.tabStart) % 4
        let used := min spaces n
        go fuel ⟨c.ix + 1, c.ix + 1, spaces - used⟩ (n - used)
      | _ => (c, n)

-- Skips up to `n` columns and says how many there were.
def spacesUpTo (c : Cursor) (n : Nat) : Cursor × Nat :=
  let (c, wanting) := c.takeSpaces w n
  (c, n - wanting)

-- Skips `n` columns, or as many as there are, and says whether all were there.
def spaces (c : Cursor) (n : Nat) : Cursor × Bool :=
  let (c, wanting) := c.takeSpaces w n
  (c, wanting == 0)

def allSpaces (c : Cursor) : Cursor :=
  { c with ix := w.skipWhile (fun d => d == ' ' || d == '\t') c.ix, pending := 0 }

def atEol (c : Cursor) : Bool :=
  match w.at? c.ix with
  | none | some '\n' | some '\r' => true
  | some _ => false

-- Past a quote mark and the one space that belongs to it.
def quoteMark? (c : Cursor) : Option Cursor :=
  let (c, _) := c.spaces w 3
  if w.has c.ix '>' then some ({ c with ix := c.ix + 1 }.spaces w 1).1 else none

structure ListMark where
  cursor : Cursor
  marker : Char
  number : Nat
  -- Columns that the lines of the item are indented by.
  indent : Nat

-- The text of an item starts behind its mark, unless four more columns make it code.
def itemText (c : Cursor) (marker : Char) (number indent : Nat) : ListMark :=
  if (Scan.blankLine? w c.ix).isSome then ⟨c, marker, number, indent⟩
  else
    let (behind, extra) := c.spacesUpTo w 4
    if extra < 4 then ⟨behind, marker, number, indent + extra⟩ else ⟨c, marker, number, indent⟩

def listMark? (c : Cursor) : Option ListMark :=
  let (c, indent) := c.spacesUpTo w 4
  if indent ≥ 4 then none
  else
    match w.at? c.ix with
    | some d =>
      if d == '-' || d == '+' || d == '*' then
        if (Scan.thematicBreak? w c.ix).isSome then none
        else
          let (behind, spaced) := { c with ix := c.ix + 1 }.spaces w 1
          if spaced || behind.atEol w then some (behind.itemText w d 0 (indent + 2)) else none
      else if d.isDigit then
        let (j, number) := Scan.decimal w 9 c.ix
        match w.at? j with
        | some e =>
          if e == '.' || e == ')' then
            let (behind, spaced) := { c with ix := j + 1 }.spaces w 1
            if spaced || behind.atEol w then
              some (behind.itemText w e number (indent + 1 + (j + 1 - c.ix)))
            else none
          else none
        | none => none
      else none
    | none => none

-- Past a task mark `[ ]` or `[x]` that a blank follows.
def taskMark? (c : Cursor) : Option Cursor :=
  let (c, _) := c.spacesUpTo w 3
  let box := match w.at? (c.ix + 1) with
    | some d => isBlank d || d == 'x' || d == 'X'
    | none => false
  if w.has c.ix '[' && box && w.has (c.ix + 2) ']' && (w.at? (c.ix + 3)).any isBlank then
    some { c with ix := c.ix + 3 }
  else none

-- A bracket that could open a task mark but is the end of the text is passed over.
def openTaskMark (c : Cursor) : Cursor :=
  let (behind, _) := c.spacesUpTo w 3
  if w.has behind.ix '[' && behind.ix + 1 == w.stop then { behind with ix := behind.ix + 1 } else c

-- Whether the line goes on with the container; lists go on with their items.
def continues (c : Cursor) : Container → Option Cursor
  | .quote => c.quoteMark? w
  | .item indent => indented c indent
  | .footnote _ => indented c 4
  | .list .. => some c
where
  indented (c : Cursor) (n : Nat) : Option Cursor :=
    let (behind, enough) := c.spaces w n
    if enough || behind.atEol w then some behind else none

-- Skips the marks of the containers that the line continues, outermost first, and counts them.
def skipContainers (c : Cursor) : List Container → Cursor × Nat
  | [] => (c, 0)
  | k :: ks =>
    match c.continues w k with
    | some c =>
      let (c, n) := skipContainers c ks
      (c, n + 1)
    | none => (c, 0)

end Cursor

-- The offset behind the container marks of the line that starts at `i`.
def skipMarks (w : Window) (containers : List Container) (i : Nat) : Nat :=
  ((Cursor.start i).skipContainers w containers).1.ix

end ProposalLint.Markdown
