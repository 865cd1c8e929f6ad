import ProposalLint.Markdown.Definition
import ProposalLint.Markdown.Literal
import ProposalLint.Markdown.Token

namespace ProposalLint.Markdown

inductive Leaf where
  | paragraph (tokens : Array Token)
  | heading (level : Nat) (tokens : Array Token)
  | code (info : Option String) (body : Array Chunk)
  | html (body : Array Chunk)
  | metadata (body : Array Chunk)
  | thematicBreak
  | taskMark
deriving Inhabited

structure Cell where
  span : Span
  tokens : Array Token
deriving Inhabited

structure Row where
  span : Span
  cells : Array Cell
deriving Inhabited

inductive Block where
  | leaf (span : Span) (leaf : Leaf)
  | table (span : Span) (head : Row) (rows : Array Row)
  | container (span : Span) (container : Container) (blocks : List Block)
deriving Inhabited

def Block.span : Block → Span
  | .leaf span _ => span
  | .table span _ _ => span
  | .container span _ _ => span

-- A container that later lines may still add to.
structure Open where
  container : Container
  start : Nat
  blocks : Array Block
deriving Inhabited

structure Builder where
  -- Finished blocks outside of any container.
  blocks : Array Block := #[]
  -- Open containers, innermost first.
  stack : List Open := []
  -- Set while the innermost item has had nothing but its mark: the offset behind the mark's line.
  emptyItem : Option Nat := none
  lastLineBlank : Bool := false
  definitions : Array Definition := #[]
  footnotes : Array String := #[]

namespace Builder

def containers (b : Builder) : List Container :=
  (b.stack.map Open.container).reverse

def add (b : Builder) (block : Block) : Builder :=
  match b.stack with
  | top :: rest => { b with stack := { top with blocks := top.blocks.push block } :: rest }
  | [] => { b with blocks := b.blocks.push block }

def addLeaf (b : Builder) (start stop : Nat) (leaf : Leaf) : Builder :=
  b.add (.leaf ⟨start, stop⟩ leaf)

def enter (b : Builder) (start : Nat) (container : Container) : Builder :=
  { b with stack := ⟨container, start, #[]⟩ :: b.stack }

-- Closes the innermost container at `stop`. With a tight list its last item is over too.
def leave (b : Builder) (stop : Nat) : Builder :=
  match b.stack with
  | top :: rest =>
    let emptyItem := match top.container with
      | .list true _ _ => none
      | _ => b.emptyItem
    { b with stack := rest, emptyItem }.add
      (.container ⟨top.start, stop⟩ top.container top.blocks.toList)
  | [] => b

def leaveAll (stop : Nat) : Nat → Builder → Builder
  | 0, b => b
  | n + 1, b => leaveAll stop n (b.leave stop)

def mapTop (f : Container → Container) (b : Builder) : Builder :=
  match b.stack with
  | top :: rest => { b with stack := { top with container := f top.container } :: rest }
  | [] => b

def loosen : Container → Container
  | .list _ marker start => .list false marker start
  | k => k

def inItem (b : Builder) : Bool :=
  match b.stack with
  | ⟨.item _, _, _⟩ :: _ => true
  | _ => false

def inList (b : Builder) : Bool :=
  match b.stack with
  | ⟨.list .., _, _⟩ :: _ => true
  | _ => false

-- An item starts with at most one blank line: one that is still empty then is closed.
def closeEmptyItem (b : Builder) : Builder :=
  let b := match b.emptyItem with
    | some stop => if b.lastLineBlank && b.inItem then b.leave stop else b
    | none => b
  { b with emptyItem := none }

-- A blank line between the blocks of an item makes its list loose.
def loosenOuter (b : Builder) : Builder :=
  if b.lastLineBlank then
    let b := match b.stack with
      | top :: list :: rest =>
        { b with stack := top :: { list with container := loosen list.container } :: rest }
      | _ => b
    { b with lastLineBlank := false }
  else b

-- Ends a list before a block that is not one of its items.
def closeList (b : Builder) (ix : Nat) : Builder :=
  let b := b.closeEmptyItem
  let b := if b.inList then b.leave ix else b
  b.loosenOuter

-- Goes on with the open list if the marker fits, else starts a new one.
def continueList (b : Builder) (start : Nat) (marker : Char) (number : Nat) : Builder :=
  let b := b.closeEmptyItem
  let fits := match b.stack with
    | ⟨.list _ existing _, _, _⟩ :: _ => existing == marker
    | _ => false
  if fits then
    if b.lastLineBlank then { b.mapTop loosen with lastLineBlank := false } else b
  else
    let b := if b.stack.isEmpty then b else b.closeList start
    { b.enter start (.list true marker number) with lastLineBlank := false }

end Builder

section
variable (w : Window)

-- Headings

def setLastStop (tokens : Array Token) (stop : Nat) : Array Token :=
  tokens.modify (tokens.size - 1) fun t => { t with span.stop := stop }

-- Where the text of a heading ends when its closing run of `#` is left out.
def headingStop (start stop : Nat) : Nat :=
  let trailing := w.countBack (fun c => c == '\n' || c == '\r' || c == ' ') start stop
  let limit := stop - trailing
  let closer := limit - w.countBack (· == '#') start limit
  if closer ≤ start then start
  else
    let spaces := w.countBack (· == ' ') start closer
    if spaces > 0 then closer - spaces else limit

def atxHeading (containers : List Container) (b : Builder) (start level : Nat) : Builder × Nat :=
  let ix := start + level
  match Scan.eol? w ix with
  | some next => (b.addLeaf start next (.heading level #[]), next)
  | none =>
    let ix := Scan.blanks w ix
    let line := lexLine w containers .plain ix
    let tokens := match line.stop.slash? w with
      | some span => pushText line.tokens span.start span.stop
      | none => line.tokens
    let tokens := setLastStop tokens (headingStop w ix line.next)
    (b.addLeaf start line.next (.heading level tokens), line.next)

-- Tables

def tableCells (columns : Nat) : Nat → Array Cell → Nat → Array Cell × Nat
  | 0, cells, ix => (cells, ix)
  | fuel + 1, cells, ix =>
    let start := if w.has ix '|' then ix + 1 else ix
    let text := Scan.blanks w start
    match Scan.eol? w text with
    | some next => (cells, next)
    | none =>
      let line := lexLine w [] .cells text
      let cells := if cells.size < columns then cells.push ⟨⟨start, line.next⟩, line.tokens⟩ else cells
      tableCells columns fuel cells line.next

-- A row has as many cells as the table has columns.
def tableRow (columns ix : Nat) (cells : Array Cell) (next : Nat) : Row :=
  let missing := Array.replicate (columns - cells.size) ⟨⟨next, next⟩, #[]⟩
  ⟨⟨ix, next⟩, cells ++ missing⟩

-- The table ends with the first line that is no row. A lone pipe is none.
def tableRows (containers : List Container) (columns : Nat) :
    Nat → Array Row → Nat → Array Row × Nat
  | 0, rows, ix => (rows, ix)
  | fuel + 1, rows, ix =>
    let (c, inside) := enterLine w containers ix
    let c := c.allSpaces w
    if !inside || interrupts w inside true c.ix then (rows, ix)
    else
      let (cells, next) := tableCells w columns (w.stop + 1) #[] c.ix
      if cells.isEmpty then (rows, ix)
      else tableRows containers columns fuel (rows.push (tableRow columns c.ix cells next)) next

-- Paragraphs

-- Reads lines until one ends the paragraph. The first may turn out to be the head of a table, and
-- an underline turns what was read into a heading.
def paragraph (containers : List Container) (start : Nat) :
    Nat → Array Token → Nat → Block × Nat
  | 0, tokens, ix => (.leaf ⟨start, ix⟩ (.paragraph tokens), ix)
  | fuel + 1, tokens, ix =>
    let line := lexLine w containers (if ix = start then .maybeHead else .plain) ix
    match line.stop with
    | .table row =>
      let (cells, behind) := tableCells w row.columns (w.stop + 1) #[] ix
      let head := tableRow row.columns ix cells behind
      let (rows, next) := tableRows w containers row.columns (w.stop + 1) #[] line.next
      (.table ⟨start, next⟩ head rows, next)
    | stop =>
      let tokens := tokens ++ line.tokens
      let next := line.next
      -- A backslash in front of the line end is text when the paragraph ends with it.
      let slash := stop.slash? w
      let closed := match slash with
        | some span => pushText tokens span.start (span.start + 1)
        | none => tokens
      let finish : Block × Nat := (.leaf ⟨start, next⟩ (.paragraph closed), next)
      let (c, inside) := enterLine w containers next
      let (behind, deep) := c.spaces w 4
      let underline? := if deep || !inside then none else Scan.underline? w behind.ix
      match underline? with
      | some (stop, level) =>
        let last := match tokens.back? with
          | some t => t.span.stop
          | none => next
        let trimmed := setLastStop tokens (last - w.countBack isBlank start last)
        let tokens := if slash.isSome then closed else trimmed
        (.leaf ⟨start, stop⟩ (.heading level tokens), stop)
      | none =>
        if !deep && interruptsParagraph w containers inside behind.ix then finish
        else
          let text := behind.allSpaces w
          if text.atEol w then finish
          else
            let tokens := match stop with
              | .break token => tokens.push token
              | _ => tokens
            paragraph containers start fuel tokens text.ix

-- Lines

-- New containers at the start of a line. Lists and quotes start in front of the blanks before their
-- mark. Gives the place behind the marks, or the offset to go on from when the line was used up.
def openContainers : Nat → Builder → Nat → Cursor → Builder × (Nat × Cursor ⊕ Nat)
  | 0, b, start, c => (b, .inl (start, c))
  | fuel + 1, b, start, c =>
    let (spaced, indent) := c.spacesUpTo w 4
    match if indent < 4 then footnoteLabel? w false spaced.ix else none with
    | some label =>
      let place := spaced.ix
      let b := b.closeList place
      let b := match b.stack with
        | ⟨.footnote _, _, _⟩ :: _ => b.leave place
        | _ => b
      let b := { b with footnotes := b.footnotes.push label.text }
      let next := Scan.blanks w (label.next + 1)
      openContainers fuel (b.enter place (.footnote label.text)) next (Cursor.start next)
    | none =>
      match c.listMark? w with
      | some mark =>
        let b := b.continueList c.ix mark.marker mark.number
        let b := b.enter c.ix (.item mark.indent)
        let behind := mark.cursor.ix
        match Scan.blankLine? w behind with
        | some next => ({ b with emptyItem := some next }, .inr next)
        | none =>
          match mark.cursor.taskMark? w with
          | some task =>
            openContainers fuel (b.addLeaf behind task.ix .taskMark) start task
          | none => openContainers fuel b start (mark.cursor.openTaskMark w)
      | none =>
        match c.quoteMark? w with
        | some behind =>
          openContainers fuel ((b.closeList start).enter c.ix .quote) start behind
        | none => (b, .inl (start, c))

def blankLine (b : Builder) : Builder :=
  match b.stack with
  | ⟨.quote, _, _⟩ :: _ => b
  | ⟨.item _, _, _⟩ :: _ =>
    let b := if b.emptyItem.isSome then b.mapTop fun _ => .item 0 else b
    { b with lastLineBlank := true }
  | _ => { b with lastLineBlank := true }

def addDefinition (b : Builder) (d : Definition) : Builder :=
  if b.definitions.any fun e => Text.foldCase e.label == Text.foldCase d.label then b
  else { b with definitions := b.definitions.push d }

-- Definitions one after the other. They stand in for the start of a paragraph: unless the line
-- behind them starts another block, it goes on with that paragraph even if it has left the
-- containers. Gives the offset of such a block on the left, that of the paragraph on the right.
def definitions (containers : List Container) : Nat → Builder → Nat → Builder × (Nat ⊕ Nat)
  | 0, b, ix => (b, .inr ix)
  | fuel + 1, b, ix =>
    match definition? w containers ix with
    | none => (b, .inr ix)
    | some (behind, d) =>
      let b := addDefinition b d
      match Scan.blankLine? w behind with
      | none => (b, .inl behind)
      | some line =>
        let (c, inside) := enterLine w containers line
        let (c, deep) := c.spaces w 4
        if !deep && interruptsParagraph w containers inside c.ix then (b, .inl line)
        else definitions containers fuel b (c.allSpaces w).ix

-- The block that starts at the cursor, on a line that is not blank.
def leafBlock (b : Builder) (start : Nat) (c : Cursor) : Builder × Nat :=
  let b := b.closeList start
  let containers := b.containers
  let fuel := w.stop + 1
  let remaining := c.pending
  let (c, indent) := c.spacesUpTo w 4
  let ix := c.ix
  if indent ≥ 4 then
    let code := indentedCode w containers fuel #[] #[] ix ix c.pending false
    let b := b.addLeaf ix code.stop (.code none code.body)
    ({ b with lastLineBlank := code.trailingBlank }, code.next)
  else if indent = 0 && Scan.opensMetadata w ix then
    let block := metadataBlock w containers fuel #[] (Scan.nextLine w (ix + 3))
    (b.addLeaf ix block.stop (.metadata block.body), block.next)
  else if let some block := htmlBlock? w containers ix (max remaining indent) then
    (b.addLeaf ix block.stop (.html block.body), block.next)
  else if let some next := Scan.thematicBreak? w ix then
    (b.addLeaf ix next .thematicBreak, next)
  else if let some level := Scan.atxLevel? w ix then
    atxHeading w containers b ix level
  else if let some (fence, count) := Scan.codeFence? w ix then
    let (info, code) := fencedBlock w containers ix indent fence count
    (b.addLeaf ix code.stop (.code (some info) code.body), code.next)
  else
    match definitions w containers fuel b ix with
    | (b, .inl next) => (b, next)
    | (b, .inr ix) =>
      let (block, next) := paragraph w containers ix fuel #[] ix
      (b.add block, next)

def step (b : Builder) (start : Nat) : Builder × Nat :=
  let (c, n) := (Cursor.start start).skipContainers w b.containers
  let b := Builder.leaveAll start (b.stack.length - n) b
  match openContainers w (w.stop + 1) b start c with
  | (b, .inr next) => (b, next)
  | (b, .inl (start, c)) =>
    match Scan.blankLine? w c.ix with
    | some next => (blankLine b, next)
    | none => leafBlock w b start c

def steps : Nat → Builder → Nat → Builder
  | 0, b, ix => Builder.leaveAll ix b.stack.length b
  | fuel + 1, b, ix =>
    if ix < w.stop then
      let (b, next) := step w b ix
      steps fuel b next
    else Builder.leaveAll ix b.stack.length b

-- The blocks of a text, with its link definitions and the labels of its footnotes.
def blocks : Builder :=
  steps w (w.stop + 1) {} 0

end
end ProposalLint.Markdown
