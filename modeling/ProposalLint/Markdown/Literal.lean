import ProposalLint.Markdown.Html
import ProposalLint.Markdown.Interrupt
import ProposalLint.Document.Position

namespace ProposalLint.Markdown

-- A piece of the body of a code, HTML or metadata block.
inductive Chunk where
  | source (span : Span)
  -- Blanks that are left of a tab.
  | blanks (offset count : Nat)
deriving Inhabited

section
variable (w : Window)

-- A line of a literal block, without the carriage return in front of its line feed.
def literalLine (body : Array Chunk) (spaces start stop : Nat) : Array Chunk :=
  let body := if spaces > 0 then body.push (.blanks start spaces) else body
  if stop ≥ 2 && w.has (stop - 2) '\r' then
    (body.push (.source ⟨start, stop - 2⟩)).push (.source ⟨stop - 1, stop⟩)
  else body.push (.source ⟨start, stop⟩)

structure Literal where
  body : Array Chunk
  -- Where the block ends and where the text goes on.
  stop : Nat
  next : Nat
  -- Blank lines that are not part of the block were read behind it.
  trailingBlank : Bool := false

-- The lines of indented code. Blank lines belong to it only if more code follows, so they wait
-- in `pending`.
def indentedCode (containers : List Container) :
    Nat → (body pending : Array Chunk) → (ix stop spaces : Nat) → (blank : Bool) → Literal
  | 0, body, _, ix, stop, _, blank => ⟨body, stop, ix, blank⟩
  | fuel + 1, body, pending, ix, stop, spaces, blank =>
    let next := Scan.nextLine w ix
    let pending := literalLine w pending spaces ix next
    let (body, pending, stop) :=
      if blank then (body, pending, stop) else (body ++ pending, #[], next)
    let (c, inside) := enterLine w containers next
    let (behind, wide) := c.spaces w 4
    if !inside || !(wide || behind.atEol w) || behind.ix ≥ w.stop then ⟨body, stop, next, blank⟩
    else
      indentedCode containers fuel body pending behind.ix stop behind.pending
        (Scan.blankLine? w behind.ix).isSome

def fencedCode (containers : List Container) (indent : Nat) (fence : Char) (count : Nat) :
    Nat → Array Chunk → Nat → Literal
  | 0, body, ix => { body, stop := ix, next := ix }
  | fuel + 1, body, ix =>
    let (c, inside) := enterLine w containers ix
    if !inside then { body, stop := ix, next := ix }
    else
      let (c, _) := c.spaces w indent
      let (close, deep) := c.spaces w (4 - indent)
      match if deep then none else Scan.closingFence? w fence count close.ix with
      | some stop => { body, stop, next := (Scan.blankLine? w stop).getD stop }
      | none =>
        let next := Scan.nextLine w c.ix
        fencedCode containers indent fence count fuel (literalLine w body c.pending c.ix next) next

def metadataBlock (containers : List Container) : Nat → Array Chunk → Nat → Literal
  | 0, body, ix => { body, stop := ix, next := ix }
  | fuel + 1, body, ix =>
    let finish (stop : Nat) : Literal := { body, stop, next := (Scan.blankLine? w stop).getD stop }
    let (c, inside) := enterLine w containers ix
    if !inside then finish ix
    else
      match Scan.closingMetadata? w ix with
      | some stop => finish stop
      | none =>
        let next := Scan.nextLine w c.ix
        metadataBlock containers fuel (literalLine w body c.pending c.ix next) next

-- An HTML block runs on to the line that holds its closing mark.
def htmlToMark (containers : List Container) (closer : List Char) :
    Nat → Array Chunk → (ix spaces : Nat) → Literal
  | 0, body, ix, _ => { body, stop := ix, next := ix }
  | fuel + 1, body, ix, spaces =>
    let next := Scan.nextLine w ix
    let body := literalLine w body spaces ix next
    let (c, inside) := enterLine w containers next
    if !inside || (w.upTo next).contains closer ix then { body, stop := next, next }
    else if c.ix ≥ w.stop then { body, stop := c.ix, next }
    else htmlToMark containers closer fuel body c.ix c.pending

-- An HTML block runs on to the next blank line.
def htmlToBlank (containers : List Container) : Nat → Array Chunk → (ix spaces : Nat) → Literal
  | 0, body, ix, _ => { body, stop := ix, next := ix }
  | fuel + 1, body, ix, spaces =>
    let next := Scan.nextLine w ix
    let body := literalLine w body spaces ix next
    let (c, inside) := enterLine w containers next
    if !inside || c.atEol w then { body, stop := next, next }
    else if (Scan.blankLine? w c.ix).isSome then { body, stop := c.ix, next }
    else htmlToBlank containers fuel body c.ix c.pending

def fencedBlock (containers : List Container) (ix indent : Nat) (fence : Char) (count : Nat) :
    String × Literal :=
  let start := Scan.blanks w (ix + count)
  let next := Scan.nextLine w start
  let stop := next - w.countBack isSpace start next
  (unescape false (w.slice start stop), fencedCode w containers indent fence count (w.stop + 1) #[] next)

-- HTML that fills whole lines from `ix` on, where `spaces` columns stand in front of it.
def htmlBlock? (containers : List Container) (ix spaces : Nat) : Option Literal :=
  let fuel := w.stop + 1
  if w.has ix '<' then
    match Scan.htmlCloser? w (ix + 1) with
    | some closer => some (htmlToMark w containers closer.toList fuel #[] ix spaces)
    | none =>
      if Scan.isBlockTag w (ix + 1) || Html.isLoneTag w ix then
        some (htmlToBlank w containers fuel #[] ix spaces)
      else none
  else none

end
end ProposalLint.Markdown
