import ProposalLint.Markdown.Stream
import ProposalLint.Document.Node

namespace ProposalLint.Markdown

-- A run of text events that will be one node.
structure TextRun where
  value : String
  span : Span
deriving Inhabited

-- An element that is still open. A stack of frames takes the events one by one.
structure Frame where
  kind : Kind
  payload : Payload
  span : Span
  children : List Node := []
  text : Option TextRun := none
  -- Raw text of a block whose content is not marked up.
  literal : Option String
deriving Inhabited

def slice (source : String) (start stop : Nat) : String :=
  String.Pos.Raw.extract source ⟨start⟩ ⟨stop⟩

-- Leaves out the blanks at the end of a span.
def trimSpan (source : String) (span : Span) : Span :=
  let stop := min span.stop source.utf8ByteSize
  let start := min span.start stop
  ⟨start, start + (Text.trimEnd (slice source start stop)).utf8ByteSize⟩

def stripNewline (value : String) : String :=
  let cs := value.toList
  if cs.getLast? = some '\n' then String.ofList cs.dropLast else value

-- Inline content in a list item is gathered into paragraphs.

def paragraphOf (run : List Node) : Node :=
  let start := run.head?.bind Node.position |>.map Position.start
  let stop := run.getLast?.bind Node.position |>.map Position.stop
  let position := match start, stop with
    | some start, some stop => some ⟨start, stop⟩
    | _, _ => none
  .branch .paragraph position .none run

def closeRun (run : List Node) : List Node :=
  if run.isEmpty then [] else [paragraphOf run]

-- `run` holds the phrasing nodes since the last other node.
def wrapFrom (run : List Node) : List Node → List Node
  | [] => closeRun run
  | n :: ns =>
    if n.kind.isPhrasing then wrapFrom (run ++ [n]) ns
    else closeRun run ++ n :: wrapFrom [] ns

-- Groups neighbouring phrasing nodes into paragraphs.
def wrapPhrasing (children : List Node) : List Node :=
  wrapFrom [] children

-- What a tag opens: the kind of the node and its payload.
def Tag.node : Tag → Kind × Payload
  | paragraph => (.paragraph, .none)
  | heading level => (.heading, .heading level)
  | quote => (.blockquote, .none)
  | code info => (.code, .code (info.bind Text.firstWord?) "")
  | html => (.html, .none)
  | list start => (.list, .list start.isSome start)
  | item => (.listItem, .none)
  | footnote label => (.footnoteDefinition, .footnote label)
  | table => (.table, .none)
  | tableHead | tableRow => (.tableRow, .none)
  | tableCell => (.tableCell, .none)
  | emphasis => (.emphasis, .none)
  | strong => (.strong, .none)
  | strikethrough => (.delete, .none)
  | link url title => (.link, resource url title)
  | image url title => (.image, resource url title)
  | metadata .dashes => (.yaml, .none)
  | metadata .pluses => (.other "toml", .none)
where
  resource (url title : String) : Payload :=
    .resource url (if title.isEmpty then none else some title)

-- Kinds whose content is kept as raw text.
def isLiteral : Kind → Bool
  | .yaml | .code | .html | .other _ => true
  | _ => false

namespace Frame

def ofKind (kind : Kind) (payload : Payload) (span : Span) : Frame where
  kind
  payload
  span
  literal := if isLiteral kind then some "" else none

def ofTag (tag : Tag) (span : Span) : Frame :=
  ofKind tag.node.1 tag.node.2 span

def pushText (f : Frame) (value : String) (span : Span) : Frame :=
  match f.literal with
  | some text => { f with literal := some (text ++ value) }
  | none =>
    match f.text with
    | some run => { f with text := some ⟨run.value ++ value, ⟨run.span.start, span.stop⟩⟩ }
    | none => { f with text := some ⟨value, span⟩ }

def flush (chars : List Char) (f : Frame) : Frame :=
  match f.text with
  | some run =>
    let node := Node.make .text (some (Position.locate chars run.span)) (.literal run.value) []
    { f with children := f.children ++ [node], text := none }
  | none => f

def pushNode (chars : List Char) (f : Frame) (n : Node) : Frame :=
  let f := f.flush chars
  { f with children := f.children ++ [n] }

def finalPayload (f : Frame) : Payload :=
  match f.payload, f.literal with
  | .code lang _, some value => .code lang (stripNewline value)
  | .none, some value => .literal (stripNewline value)
  | payload, _ => payload

-- The node of an element that is complete. Of an image only the target is kept.
def finish (source : String) (chars : List Char) (f : Frame) : Node :=
  let f := f.flush chars
  let span := if f.kind = .root then f.span else trimSpan source f.span
  let children := match f.kind with
    | .listItem => wrapPhrasing f.children
    | .image => []
    | _ => f.children
  .make f.kind (some (Position.locate chars span)) f.finalPayload children

end Frame

section
variable (source : String) (chars : List Char)

-- The frames, innermost first; the last one is the root and stays open.
def pushLeaf (stack : List Frame) (kind : Kind) (payload : Payload) (span : Span) : List Frame :=
  match stack with
  | top :: rest =>
    top.pushNode chars (.make kind (some (Position.locate chars span)) payload []) :: rest
  | [] => []

def pushValue (stack : List Frame) (value : String) (span : Span) : List Frame :=
  match stack with
  | top :: rest => top.pushText value span :: rest
  | [] => []

def pop : List Frame → List Frame
  | top :: parent :: rest => parent.pushNode chars (top.finish source chars) :: rest
  | stack => stack

def inHtmlBlock : List Frame → Bool
  | top :: _ => top.literal.isSome && top.kind = .html
  | [] => false

def handle (stack : List Frame) : Located → List Frame
  | (.enter tag, span) => Frame.ofTag tag span :: stack
  | (.leave, _) => pop source chars stack
  | (.text value, span) => pushValue stack value span
  | (.softBreak, span) => pushValue stack "\n" span
  | (.code value, span) => pushLeaf chars stack .inlineCode (.literal value) span
  | (.html value, span) =>
    if inHtmlBlock stack then pushValue stack value span
    else pushLeaf chars stack .html (.literal value) span
  | (.hardBreak, span) => pushLeaf chars stack .break .none span
  | (.thematicBreak, span) => pushLeaf chars stack .thematicBreak .none span
  | (.footnoteReference label, span) =>
    pushLeaf chars stack .footnoteReference (.footnote label) span
  | (.taskMark, _) => stack

-- Closes what is still open; gives the root's frame.
def fold : List Frame → Frame
  | [] => Frame.ofKind .root .none ⟨0, source.utf8ByteSize⟩
  | [root] => root
  | top :: parent :: rest => fold (parent.pushNode chars (top.finish source chars) :: rest)
termination_by stack => stack.length

def rootFrame (events : List Located) : Frame :=
  (fold source chars
    (events.foldl (handle source chars) [Frame.ofKind .root .none ⟨0, source.utf8ByteSize⟩])).flush
      chars

def definitionNode (d : Definition) : Nat × Node :=
  let span := trimSpan source ⟨d.span.1, d.span.2⟩
  (span.start,
    .make .definition (some (Position.locate chars span))
      (.definition (Text.toLowercase d.label) d.url d.title) [])

def startOffset (n : Node) : Nat :=
  (n.position.bind fun p => p.start.offset).getD 0

-- Puts the definitions among the other nodes, by their offsets and behind nodes at the same one.
def mergeDefinitions (children : List Node) (definitions : List Definition) : List Node :=
  if definitions.isEmpty then children
  else
    let tagged := children.map fun n => (startOffset n, n)
    ((tagged ++ definitions.map (definitionNode source chars)).mergeSort
      fun a b => a.1 ≤ b.1).map Prod.snd

-- The tree of a stream of events. `front` is an empty metadata block that opens the text.
def treeOf (front : Option Span) (s : Stream) : Node :=
  let root := rootFrame source chars s.events
  let children := match front with
    | some span =>
      .make .yaml (some (Position.locate chars (trimSpan source span))) (.literal "") []
        :: root.children
    | none => root.children
  { root with children := mergeDefinitions source chars children s.definitions }.finish source chars

end

def isFence (line : List Char) : Bool :=
  (line.reverse.dropWhile fun c => c = '\n' || c = '\r').reverse == ['-', '-', '-']

-- Two fences with nothing between them at the start of a text.
def emptyFront? (chars : List Char) : Option Span :=
  match splitLines chars with
  | first :: second :: _ =>
    if isFence first && isFence second then some ⟨0, utf8Length (first ++ second)⟩ else none
  | _ => none

-- Blanks in place of everything but line breaks.
def blankOut (chars : List Char) (count : Nat) : List Char :=
  (chars.take count).map (fun c => if c = '\n' || c = '\r' then c else ' ') ++ chars.drop count

-- The tree of a Markdown text. An empty metadata block at its start is hidden from the block
-- structure, where it would read as two thematic breaks.
def parse (source : String) : Node :=
  let chars := source.toList
  match emptyFront? chars with
  | some span => treeOf source chars (some span) (stream (String.ofList (blankOut chars span.stop)))
  | none => treeOf source chars none (stream source)

end ProposalLint.Markdown
