import ProposalLint.Markdown.Line

namespace ProposalLint.Markdown.Html

-- What was read so far: the offset reached, and the text in front of `mark` if container marks at
-- line starts had to be left out.
structure Reading where
  i : Nat
  mark : Nat
  text : String := ""

section
variable (w : Window)

-- At a line start, leaves out the container marks. Without a rule for new lines a tag has to stay on
-- its line.
def crossLine (newline : Option (Nat → Nat)) (r : Reading) (next : Nat) : Option Reading :=
  match newline with
  | none => none
  | some skip =>
    let j := skip next
    if j > next then some ⟨j, j, r.text ++ w.slice r.mark next⟩
    else some { r with i := next }

-- Blanks and line ends. The end of the text is no line end here.
def space? (newline : Option (Nat → Nat)) : Nat → Reading → Option Reading
  | 0, _ => none
  | fuel + 1, r =>
    let r := { r with i := Scan.blanks w r.i }
    match w.at? r.i with
    | none => none
    | some c =>
      if c == '\n' || c == '\r' then
        match (Scan.eol? w r.i).bind (crossLine w newline r) with
        | some r => space? newline fuel r
        | none => none
      else some r

def quotedValue? (newline : Option (Nat → Nat)) (quote : Char) : Nat → Reading → Option Reading
  | 0, _ => none
  | fuel + 1, r =>
    match w.at? r.i with
    | none => none
    | some c =>
      if c == quote then some { r with i := r.i + 1 }
      else if c == '\n' || c == '\r' then
        match (Scan.eol? w r.i).bind (crossLine w newline r) with
        | some r => quotedValue? newline quote fuel r
        | none => none
      else quotedValue? newline quote fuel { r with i := r.i + 1 }

def isUnquoted (c : Char) : Bool :=
  !("'\" =><\x60\n\r".toList.contains c)

def value? (newline : Option (Nat → Nat)) (r : Reading) : Option Reading :=
  match w.at? r.i with
  | none => none
  | some c =>
    if c == '"' || c == '\'' then quotedValue? w newline c (w.stop + 1) { r with i := r.i + 1 }
    else if isUnquoted c then some { r with i := w.skipWhile isUnquoted r.i }
    else none

def attribute? (newline : Option (Nat → Nat)) (r : Reading) : Option Reading :=
  let starts := match w.at? r.i with
    | some c => isAlpha c || c == '_' || c == ':'
    | none => false
  if starts then
    let stop := w.skipWhile
      (fun c => isAlnum c || c == '_' || c == '.' || c == ':' || c == '-') (r.i + 1)
    let named := { r with i := stop }
    match space? w newline (w.stop + 1) named with
    | none => none
    | some spaced =>
      if w.has spaced.i '=' then
        (space? w newline (w.stop + 1) { spaced with i := spaced.i + 1 }).bind (value? w newline)
      else some named
  else none

def attributes? (newline : Option (Nat → Nat)) : Nat → Reading → Option Reading
  | 0, _ => none
  | fuel + 1, r =>
    match space? w newline (w.stop + 1) r with
    | none => none
    | some spaced =>
      if w.has spaced.i '/' || w.has spaced.i '>' then some spaced
      else if spaced.i = r.i then none
      else (attribute? w newline spaced).bind (attributes? newline fuel)

-- An opening or closing tag whose `<` stands at `start`: the offset behind it, and its text if
-- container marks were left out of it.
def tag? (newline : Option (Nat → Nat)) (start : Nat) : Option (Nat × Option String) := do
  let closing := w.has (start + 1) '/'
  let name := if closing then start + 2 else start + 1
  if !(w.at? name).any isAlpha then none
  let r : Reading := { i := w.skipWhile (fun c => isAlnum c || c == '-') name, mark := start }
  let r ← if closing then some r else attributes? w newline (w.stop + 1) r
  let i := Scan.blanks w r.i
  let i := if !closing && w.has i '/' then i + 1 else i
  if w.has i '>' then
    return (i + 1, if r.mark = start then none else some (r.text ++ w.slice r.mark (i + 1)))
  else none

-- A complete tag with nothing but blanks behind it on its line.
def isLoneTag (start : Nat) : Bool :=
  match tag? w none start with
  | some (next, _) => (Scan.blankLine? w next).isSome
  | none => false

def findWord? (word : List Char) : Nat → Nat → Option Nat
  | 0, _ => none
  | fuel + 1, i =>
    if i < w.stop then
      if w.hasAll i word then some (i + word.length) else findWord? word fuel (i + 1)
    else none

-- Past the first run of closing brackets, if a `>` follows it at once.
def sectionStop? (i : Nat) : Option Nat :=
  match w.find? ']' i with
  | none => none
  | some j =>
    let k := Scan.run w ']' j
    if w.has k '>' then some (k + 1) else none

-- HTML whose `<` stands in front of `i`.
def inline? (skip : Nat → Nat) (i : Nat) : Option (Nat × Option String) :=
  if w.has i '!' then
    -- The dashes that open a comment may be those that close it.
    (if w.hasAll (i + 1) ['-', '-'] then findWord? w "-->".toList (w.stop + 1) (i + 1)
    else if w.hasAll (i + 1) "[CDATA[".toList then sectionStop? w (i + 8)
    else if (w.at? (i + 1)).any isAlpha then
      (w.find? '>' (i + 1)).map (· + 1)
    else none).map (·, none)
  else if w.has i '?' then
    (findWord? w ['?', '>'] (w.stop + 1) (i + 1)).map (·, none)
  else tag? w (some skip) (i - 1)

end
end ProposalLint.Markdown.Html
