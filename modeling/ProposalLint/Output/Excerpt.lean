import ProposalLint.Engine.Message

namespace ProposalLint

namespace Message

-- The character in front of the place of a message; nothing at the start of the text. A place inside
-- a character would have no text in front of it.
def highlight? (m : Message) (source : List Char) : Option Span :=
  let stop := offsetFor source m.line m.column
  (slice? source ⟨0, stop⟩).map fun before => ⟨utf8Length before.dropLast, stop⟩

end Message

-- The characters that begin inside a range of bytes.
def sliceFrom (span : Span) : List Char → (offset : Nat) → List Char
  | [], _ => []
  | c :: cs, offset =>
    let rest := sliceFrom span cs (offset + c.utf8Size)
    if span.start ≤ offset && offset < span.stop then c :: rest else rest

-- The line breaks of a text: a newline, a carriage return, or both together.
def lineBreaks : List Char → (offset : Nat) → List Span
  | [], _ => []
  | '\r' :: '\n' :: cs, offset => ⟨offset, offset + 2⟩ :: lineBreaks cs (offset + 2)
  | c :: cs, offset =>
    if c = '\n' || c = '\r' then ⟨offset, offset + 1⟩ :: lineBreaks cs (offset + 1)
    else lineBreaks cs (offset + c.utf8Size)

-- A line of an excerpt; the length counts its line break, the text does not hold it.
structure ExcerptLine where
  number : Nat
  start : Nat
  length : Nat
  text : List Char
deriving DecidableEq, Inhabited, Repr

-- Lines end at newlines only. `text` has the latest character first. A last line that ends in a
-- carriage return keeps the number of the line before.
def excerptLines (number start length : Nat) (text : List Char) : List Char → List ExcerptLine
  | [] => []
  | '\r' :: '\n' :: cs =>
    ⟨number + 1, start, length + 2, text.reverse⟩ ::
      excerptLines (number + 1) (start + length + 2) 0 [] cs
  | '\n' :: cs =>
    ⟨number + 1, start, length + 1, text.reverse⟩ ::
      excerptLines (number + 1) (start + length + 1) 0 [] cs
  | [c] =>
    [⟨if c = '\r' then number else number + 1, start, length + c.utf8Size, (c :: text).reverse⟩]
  | c :: cs => excerptLines number start (length + c.utf8Size) (c :: text) cs

-- `line` and `column` tell where the span begins, in lines and bytes from one.
structure Excerpt where
  line : Nat
  column : Nat
  lines : List ExcerptLine
deriving DecidableEq, Inhabited, Repr

namespace Excerpt

-- The lines of a span with one line in front and what follows up to the second line break.
def around (source : List Char) (span : Span) : Excerpt :=
  let breaks := lineBreaks source 0
  let before := breaks.filter (·.stop ≤ span.start)
  let starts := 0 :: before.map (·.stop)
  let inBreak := breaks.any fun b => b.start < span.start && span.start < b.stop
  let after := breaks.filter (span.stop - 1 < ·.start)
  let start := starts.getD (before.length - 1) 0
  let stop := (after[1]?.map (·.stop)).getD (utf8Length source)
  { line := before.length + 1
    column := span.start - starts.getLastD 0 - (if inBreak then 1 else 0) + 1
    lines := excerptLines (before.length - 1) start 0 [] (sliceFrom ⟨start, stop⟩ source 0) }

end Excerpt
end ProposalLint
