import ProposalLint.Document.Position

namespace ProposalLint.Markdown

inductive MetadataStyle where
  | dashes
  | pluses
deriving DecidableEq, Inhabited, Repr

inductive Tag where
  | paragraph
  | heading (level : Nat)
  | quote
  -- Fenced code has an info string, indented code has none.
  | code (info : Option String)
  | html
  -- An ordered list has a number to start with.
  | list (start : Option Nat)
  | item
  | footnote (label : String)
  | table
  | tableHead
  | tableRow
  | tableCell
  | emphasis
  | strong
  | strikethrough
  | link (url title : String)
  | image (url title : String)
  | metadata (style : MetadataStyle)
deriving DecidableEq, Inhabited, Repr

inductive Event where
  | enter (tag : Tag)
  | leave
  | text (value : String)
  | code (value : String)
  | html (value : String)
  | footnoteReference (label : String)
  | softBreak
  | hardBreak
  | thematicBreak
  | taskMark
deriving DecidableEq, Inhabited, Repr

-- An event and the range it covers.
abbrev Located := Event × Span

end ProposalLint.Markdown
