import ProposalLint.Markdown.Reference

namespace ProposalLint.Markdown

section
variable (w : Window)

-- The label of a footnote whose text starts behind it. It stays on one line.
def footnoteLabel? (inTable : Bool) (i : Nat) : Option Label :=
  if w.hasAll i ['[', '^'] then
    match labelFrom? w inTable (fun _ => none) (i + 2) with
    | some label => if w.has label.next ':' then some label else none
    | none => none
  else none

-- A mark at `i` that ends a paragraph. A list ends one only with an item that has text and, if it
-- is ordered, the number one, unless the line has left the paragraph's container anyway. Any list
-- ends a table.
def interrupts (inContainer inTable : Bool) (i : Nat) : Bool :=
  (Scan.eol? w i).isSome
    || (Scan.thematicBreak? w i).isSome
    || (Scan.atxLevel? w i).isSome
    || (Scan.codeFence? w i).isSome
    || w.has i '>'
    || (match Scan.listMarker? w i with
        | some (j, marker, number) =>
          !inContainer || inTable ||
            ((marker == '*' || marker == '-' || marker == '+' || number == 1)
              && (Scan.blankLine? w j).isNone)
        | none => false)
    || (w.has i '<' && ((Scan.htmlCloser? w (i + 1)).isSome || Scan.isBlockTag w (i + 1)))
    || (footnoteLabel? w inTable i).isSome

-- How the line at `i` stands to the open containers: behind their marks, and whether it continues
-- all of them.
def enterLine (containers : List Container) (i : Nat) : Cursor × Bool :=
  let (c, n) := (Cursor.start i).skipContainers w containers
  (c, n == containers.length)

-- The table that the line at `next` makes of the one in front of it.
def tableHead? (containers : List Container) (pipes start lastPipe next : Nat) :
    Option Scan.DelimiterRow :=
  let (c, inside) := enterLine w containers next
  if inside then
    match Scan.delimiterRow? w c.ix with
    | some row => if row.columns = Scan.cellCount w pipes start lastPipe then some row else none
    | none => none
  else none

structure PipeCount where
  pipes : Nat
  last : Nat
  -- The next line, if there is one.
  next : Option Nat

-- The pipes of a line that no backslash is in front of.
def countPipes : Nat → Nat → Bool → PipeCount → PipeCount
  | 0, _, _, acc => acc
  | fuel + 1, i, escaped, acc =>
    match w.at? i with
    | none => acc
    | some '\\' => countPipes fuel (i + 1) true acc
    | some '|' =>
      countPipes fuel (i + 1) false
        (if escaped then acc else { acc with pipes := acc.pipes + 1, last := i })
    | some c =>
      if c == '\n' || c == '\r' then { acc with next := Scan.eol? w i }
      else countPipes fuel (i + 1) false acc

-- A table whose first line starts with a pipe ends a paragraph too.
def interruptsByTable (containers : List Container) (i : Nat) : Bool :=
  if w.has i '|' then
    let count := countPipes w (w.stop + 1) i false ⟨0, i, none⟩
    match count.next with
    | some next => (tableHead? w containers count.pipes i count.last next).isSome
    | none => false
  else false

def interruptsParagraph (containers : List Container) (inContainer : Bool) (i : Nat) : Bool :=
  interrupts w inContainer false i || interruptsByTable w containers i

-- Where the line at `i` goes on with something that could still be a paragraph: behind the
-- container marks and at most four columns. An underline that is not lazy would make a heading of
-- it.
def continuation? (containers : List Container) (lazyUnderline : Bool) (i : Nat) : Option Nat :=
  let (c, inside) := enterLine w containers i
  let (behind, deep) := c.spaces w 4
  let underlined := (inside || lazyUnderline) && (Scan.underline? w behind.ix).isSome
  if !deep && (interruptsParagraph w containers inside behind.ix || underlined) then none
  else some behind.ix

end
end ProposalLint.Markdown
