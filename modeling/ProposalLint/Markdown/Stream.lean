import ProposalLint.Markdown.Event
import ProposalLint.Markdown.Inline

namespace ProposalLint.Markdown

def element (span : Span) (tag : Tag) (content : List Located) : List Located :=
  (.enter tag, span) :: content ++ [(.leave, span)]

def Style.tag : Style → Tag
  | .emphasis => .emphasis
  | .strong => .strong
  | .strikethrough => .strikethrough

mutual

def inlineEvents : Inline → List Located
  | .text span value => [(.text value, span)]
  | .code span value => [(.code value, span)]
  | .html span value => [(.html value, span)]
  | .softBreak span => [(.softBreak, span)]
  | .hardBreak span => [(.hardBreak, span)]
  | .footnote span label => [(.footnoteReference label, span)]
  | .nested events => events
  | .styled span style children => element span style.tag (inlinesEvents children)
  | .link span image url title children =>
    element span (if image then .image url title else .link url title) (inlinesEvents children)

def inlinesEvents : List Inline → List Located
  | [] => []
  | i :: is => inlineEvents i ++ inlinesEvents is

end

-- What holds for the whole text while its blocks are turned into events.
structure Outline where
  window : Window
  definitions : Array Definition
  footnotes : Array String

namespace Outline

variable (o : Outline)

-- Inline markup reaches no further than the end of its block.
def content (containers : List Container) (inTable : Bool) (stop : Nat) (tokens : Array Token) :
    List Located :=
  inlinesEvents <| inlines ⟨o.window.upTo stop, containers, inTable, o.definitions, o.footnotes⟩ tokens

def chunk : Chunk → Located
  | .source span => (.text (o.window.slice span.start span.stop), span)
  | .blanks offset count => (.text (String.ofList (List.replicate count ' ')), ⟨offset, offset⟩)

def htmlChunk : Chunk → Located
  | .source span => (.html (o.window.slice span.start span.stop), span)
  | .blanks offset count => (.text (String.ofList (List.replicate count ' ')), ⟨offset, offset⟩)

def leafEvents (containers : List Container) (span : Span) : Leaf → List Located
  | .paragraph tokens => element span .paragraph (o.content containers false span.stop tokens)
  | .heading level tokens =>
    element span (.heading level) (o.content containers false span.stop tokens)
  | .code info body => element span (.code info) (body.toList.map o.chunk)
  | .html body => element span .html (body.toList.map o.htmlChunk)
  | .metadata body => element span (.metadata .dashes) (body.toList.map o.chunk)
  | .thematicBreak => [(.thematicBreak, span)]
  | .taskMark => [(.taskMark, span)]

def rowEvents (containers : List Container) (tag : Tag) (row : Row) : List Located :=
  element row.span tag <| row.cells.toList.flatMap fun cell =>
    element cell.span .tableCell (o.content containers true cell.span.stop cell.tokens)

def containerTag : Container → Tag
  | .quote => .quote
  | .list _ marker start => .list (if marker == '.' || marker == ')' then some start else none)
  | .item _ => .item
  | .footnote label => .footnote label

def isTight : Container → Bool
  | .list tight _ _ => tight
  | _ => false

def isItem : Container → Bool
  | .item _ => true
  | _ => false

mutual

-- `tight` says whether the block stands in a tight list. The text of an item of such a list is one,
-- whatever blocks stand between its parts.
def blockEvents (containers : List Container) (tight : Bool) : Block → List Located
  | .leaf span leaf => o.leafEvents containers span leaf
  | .table span head rows =>
    element span .table
      (o.rowEvents containers .tableHead head
        ++ rows.toList.flatMap (o.rowEvents containers .tableRow))
  | .container span container blocks =>
    let inner := containers ++ [container]
    element span (containerTag container)
      (if tight && isItem container then
        o.content inner false span.stop (itemTokens inner blocks).toArray
      else blocksEvents inner (isTight container) blocks)

def blocksEvents (containers : List Container) (tight : Bool) : List Block → List Located
  | [] => []
  | b :: bs => blockEvents containers tight b ++ blocksEvents containers tight bs

-- The paragraphs of an item without their bounds, and its other blocks as tokens among their text.
def itemTokens (containers : List Container) : List Block → List Token
  | [] => []
  | b :: bs =>
    (match b with
     | .leaf _ (.paragraph tokens) => tokens.toList
     | b => [⟨b.span, .nested (blockEvents containers false b)⟩]) ++ itemTokens containers bs

end

end Outline

structure Stream where
  events : List Located
  definitions : List Definition

-- The events of a text and its link definitions.
def stream (source : String) : Stream :=
  let w := Window.ofString source
  let built := blocks w
  let outline : Outline := ⟨w, built.definitions, built.footnotes⟩
  ⟨outline.blocksEvents [] false built.blocks.toList, built.definitions.toList⟩

end ProposalLint.Markdown
