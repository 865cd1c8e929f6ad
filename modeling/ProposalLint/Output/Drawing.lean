import ProposalLint.Output.Excerpt
import ProposalLint.Text.Wrap

namespace ProposalLint.Drawing

def pageWidth : Nat := 198
def tabWidth : Nat := 4

def blanks (n : Nat) : String :=
  String.ofList (List.replicate n ' ')

def alignRight (width : Nat) (s : String) : String :=
  blanks (width - s.length) ++ s

-- The widths of characters from a column on. A tab reaches to the next stop, and colour codes take
-- no room.
def widths (column : Nat) (inCode : Bool) : List Char → List Nat
  | [] => []
  | c :: cs =>
    if inCode then 0 :: widths column (c != 'm') cs
    else if c = '\t' then
      let w := tabWidth - column % tabWidth
      w :: widths (column + w) false cs
    else if c = '\x1b' then 0 :: widths column true cs
    else Text.columns c :: widths (column + Text.columns c) false cs

-- Tabs are drawn as blanks.
def drawText (text : List Char) : String :=
  String.ofList <| (text.zip (widths 0 false text)).flatMap fun (c, w) =>
    if c = '\t' then List.replicate w ' ' else [c]

-- The column of a byte offset; all that lies behind the text is one column.
def columnOf (line : ExcerptLine) (offset : Nat) : Nat :=
  let index := offset - line.start
  let width := (widths 0 false (sliceFrom ⟨0, index⟩ line.text 0)).foldl (· + ·) 0
  if utf8Length line.text < index then width + 1 else width

def mark (n : Nat) : String :=
  String.ofList (List.replicate n '^')

-- The mark below the span and the column that its label hangs from.
def underline (line : ExcerptLine) (span : Span) : String × Nat :=
  let start := columnOf line span.start
  let isEmpty := span.stop == span.start
  let stop := if isEmpty then start + 1 else max (columnOf line span.stop) (start + 1)
  let middle := (start + stop) / 2
  (blanks start ++ mark (middle - start) ++ (if isEmpty then "^" else "|") ++
    mark (stop - middle - 1), middle)

-- A label of one line stands at a hook, one of several lines beside a bar.
def labelLines (label : String) : List String :=
  match (label.toList.splitOn '\n').map String.ofList with
  | [] => []
  | [l] => ["`-- " ++ l]
  | l :: ls => ("`-| " ++ l) :: ls.map ("  | " ++ ·)

def isOn (line : ExcerptLine) (span : Span) : Bool :=
  line.start ≤ span.start && span.start < line.start + line.length

def drawLine (width : Nat) (span : Span) (label : String) (line : ExcerptLine) : List String :=
  let text := " " ++ alignRight width (toString line.number) ++ " | " ++ drawText line.text
  if isOn line span then
    let margin := " " ++ blanks width ++ " : "
    let (marks, middle) := underline line span
    text :: (margin ++ marks) :: (labelLines label).map fun l => margin ++ blanks middle ++ l
  else
    [text]

-- A message drawn with the lines around a span.
def draw (m : Message) (name : String) (source : List Char) (span : Span) : String :=
  let excerpt := Excerpt.around source span
  let width := (toString ((excerpt.lines.getLast?.map (·.number)).getD 0)).length
  let title := Text.fill (pageWidth - 4) "  x " "  | " m.text
  let place := name ++ ":" ++ toString excerpt.line ++ ":" ++ toString excerpt.column
  let frame := [blanks (width + 2) ++ ",-[" ++ place ++ "]"] ++
    excerpt.lines.flatMap (drawLine width span m.ruleId) ++ [blanks (width + 2) ++ "`----"]
  "\n".intercalate (title :: frame) ++ "\n"

-- A message as a drawing of its own, if there is a character to mark.
def render? (m : Message) (name source : String) : Option String :=
  (m.highlight? source.toList).map (draw m name source.toList)

end ProposalLint.Drawing
