import ProposalLint.Yaml.Cursor

namespace ProposalLint.Yaml

-- Blanks and line breaks inside a scalar, not yet known to belong to it.
structure Gap where
  blanks : List Char := []
  first : List Char := []
  others : List Char := []
  broken : Bool := false

namespace Gap

-- What a gap stands for between two words: blanks as they are, one line break as a blank, and of
-- several breaks all but the first.
def fold (g : Gap) : List Char :=
  if !g.broken then g.blanks
  else if g.first == ['\n'] then (if g.others.isEmpty then [' '] else g.others)
  else g.first ++ g.others

def addBreak (g : Gap) (c : Cursor) : Gap :=
  if g.broken then { g with others := g.others ++ c.breakChars }
  else { g with blanks := [], first := c.breakChars, broken := true }

def addBlank (g : Gap) (x : Char) : Gap :=
  if g.broken then g else { g with blanks := g.blanks ++ [x] }

-- Takes in blanks and line breaks as far as they go. A tab before column `indent` of a new line is
-- refused.
def scan (indent : Nat) : Nat → Cursor → Gap → Option (Cursor × Gap)
  | 0, _, _ => none
  | fuel + 1, c, g =>
    match c.peek with
    | some x =>
      if isBlank x then
        if g.broken && x == '\t' && c.column < indent then none
        else scan indent fuel c.skip (g.addBlank x)
      else if isBreak x then scan indent fuel c.skipBreak (g.addBreak c)
      else some (c, g)
    | none => some (c, g)

end Gap

namespace Scalar

def isFlowMark (x : Char) : Bool :=
  x == ',' || x == '[' || x == ']' || x == '\x7b' || x == '\x7d'

-- One unbroken run of a plain scalar.
def plainWord (inFlow : Bool) : Nat → Cursor → List Char → Option (Cursor × List Char)
  | 0, _, _ => none
  | fuel + 1, c, word =>
    match c.peek with
    | none => some (c, word)
    | some x =>
      if isBlank x || isBreak x then some (c, word)
      else if inFlow && x == ':' && (c.peekAt 1).any (fun y => isFlowMark y || y == '?') then none
      else if (x == ':' && c.endsWord 1) || (inFlow && isFlowMark x) then some (c, word)
      else plainWord inFlow fuel c.skip (x :: word)

-- `text` is kept in reverse. The flag says whether the scalar is followed by a line break.
def plainFrom (inFlow : Bool) (indent : Nat) :
    Nat → Cursor → Gap → List Char → Option (Cursor × List Char × Bool)
  | 0, _, _, _ => none
  | fuel + 1, c, g, text =>
    if c.atAnyDocumentMark || c.is '#' then some (c, text, g.broken)
    else do
      let (c', word) ← plainWord inFlow (c.rest.length + 1) c []
      let (text, g) := if word.isEmpty then (text, g) else (word ++ g.fold.reverse ++ text, {})
      if !(c'.satisfies fun x => isBlank x || isBreak x) then some (c', text, g.broken)
      else
        let (c', g) ← Gap.scan indent (c'.rest.length + 1) c' g
        if !inFlow && c'.column < indent then some (c', text, g.broken)
        else plainFrom inFlow indent fuel c' g text

def plain (inFlow : Bool) (indent : Nat) (c : Cursor) : Option (Cursor × String × Bool) := do
  let (c', text, broken) ← plainFrom inFlow indent (c.rest.length + 1) c {} []
  some (c', String.ofList text.reverse, broken)

def hexValue? (x : Char) : Option Nat :=
  if '0' ≤ x && x ≤ '9' then some (x.toNat - 48)
  else if 'a' ≤ x && x ≤ 'f' then some (x.toNat - 87)
  else if 'A' ≤ x && x ≤ 'F' then some (x.toNat - 55)
  else none

def hexNumber? (cs : List Char) : Option Nat :=
  cs.foldl (fun n c => do return 16 * (← n) + (← hexValue? c)) (some 0)

-- The code of a character, written with a fixed number of digits.
def charCode? (cs : List Char) (count : Nat) : Option Char := do
  if cs.length < count then none
  let n ← hexNumber? (cs.take count)
  if (0xD800 ≤ n && n ≤ 0xDFFF) || 0x10FFFF < n then none
  some (Char.ofNat n)

-- The character that an escape stands for and how many characters follow the backslash.
def escape? : List Char → Option (Char × Nat)
  | 'x' :: cs => (charCode? cs 2).map (·, 3)
  | 'u' :: cs => (charCode? cs 4).map (·, 5)
  | 'U' :: cs => (charCode? cs 8).map (·, 9)
  | x :: _ => (simple? x).map (·, 1)
  | [] => none
where
  simple? : Char → Option Char
  | '0' => some '\x00'
  | 'a' => some '\x07'
  | 'b' => some '\x08'
  | 't' | '\t' => some '\t'
  | 'n' => some '\n'
  | 'v' => some '\x0b'
  | 'f' => some '\x0c'
  | 'r' => some '\r'
  | 'e' => some '\x1b'
  | ' ' => some ' '
  | '"' => some '"'
  | '/' => some '/'
  | '\\' => some '\\'
  | 'N' => some '\u0085'
  | '_' => some '\u00a0'
  | 'L' => some '\u2028'
  | 'P' => some '\u2029'
  | _ => none

-- One unbroken run of a quoted scalar. The flag is set if an escaped line break ends it.
def quotedWord (quote : Char) : Nat → Cursor → List Char → Option (Cursor × List Char × Bool)
  | 0, _, _ => none
  | fuel + 1, c, word =>
    match c.peek with
    | none => some (c, word, false)
    | some x =>
      if isBlank x || isBreak x then some (c, word, false)
      else if x == '\'' && quote == '\'' && c.peekAt 1 == some '\'' then
        quotedWord quote fuel c.skip.skip ('\'' :: word)
      else if x == quote then some (c, word, false)
      else if x == '\\' && quote == '"' then
        if (c.peekAt 1).any isBreak then some (c.skip.skipBreak, word, true)
        else do
          let (y, n) ← escape? c.rest.tail
          quotedWord quote fuel (Nat.repeat Cursor.skip (n + 1) c) (y :: word)
      else quotedWord quote fuel c.skip (x :: word)

def quotedFrom (quote : Char) : Nat → Cursor → List Char → Option (Cursor × List Char)
  | 0, _, _ => none
  | fuel + 1, c, text =>
    if c.atAnyDocumentMark || c.atEnd then none
    else do
      let (c, word, escaped) ← quotedWord quote (c.rest.length + 1) c []
      let text := word ++ text
      if c.is quote then some (c.skip, text)
      else
        let (c, g) ← Gap.scan 0 (c.rest.length + 1) c { broken := escaped }
        quotedFrom quote fuel c (g.fold.reverse ++ text)

def quoted (quote : Char) (c : Cursor) : Option (Cursor × String) := do
  let c := c.skip
  let (c, text) ← quotedFrom quote (c.rest.length + 1) c []
  some (c, String.ofList text.reverse)

inductive Chomping where
  | clip
  | strip
  | keep
deriving DecidableEq

def chomping? : Option Char → Option Chomping
  | some '+' => some .keep
  | some '-' => some .strip
  | _ => none

def indentDigit? (c : Cursor) : Option Nat :=
  match c.peek with
  | some x => if '0' ≤ x && x ≤ '9' then some (x.toNat - 48) else none
  | none => none

-- The header of a block: how its end is cut and by how much it is indented (zero: not said). A zero
-- may not be written.
def header (c : Cursor) : Option (Cursor × Chomping × Nat) :=
  match chomping? c.peek with
  | some chomping =>
    let c := c.skip
    match indentDigit? c with
    | some 0 => none
    | some n => some (c.skip, chomping, n)
    | none => some (c, chomping, 0)
  | none =>
    match indentDigit? c with
    | some 0 => none
    | some n =>
      let c := c.skip
      match chomping? c.peek with
      | some chomping => some (c.skip, chomping, n)
      | none => some (c, .clip, n)
    | none => some (c, .clip, 0)

-- Empty lines of a block; `deepest` is the greatest indentation among them and the next line.
def emptyLines (indent : Nat) :
    Nat → Cursor → Nat → List Char → Option (Cursor × Nat × List Char)
  | 0, _, _, _ => none
  | fuel + 1, c, deepest, breaks =>
    let spaces := (c.rest.takeWhile (· == ' ')).length
    let spaces := if indent = 0 then spaces else min spaces (indent - c.column)
    let c := Nat.repeat Cursor.skip spaces c
    let deepest := max deepest c.column
    if (indent = 0 || c.column < indent) && c.is '\t' then none
    else if c.satisfies isBreak then
      emptyLines indent fuel c.skipBreak deepest (breaks ++ c.breakChars)
    else some (c, deepest, breaks)

def takeLine (c : Cursor) : Cursor × List Char :=
  (c.skipWhile (!isBreak ·), c.rest.takeWhile (!isBreak ·))

structure Block where
  text : List Char
  first : List Char
  others : List Char

-- The lines of a block. In a folded one a line break between two lines that start with no blank
-- becomes a blank, or goes if empty lines follow it.
def blockLines (literal : Bool) (indent : Nat) :
    Nat → Cursor → Bool → Block → Option (Cursor × Block)
  | 0, _, _, _ => none
  | fuel + 1, c, afterBlank, b =>
    if c.column != indent || c.atEnd then some (c, b)
    else
      let blank := c.satisfies isBlank
      let joint :=
        if !literal && b.first == ['\n'] && !afterBlank && !blank then
          (if b.others.isEmpty then [' '] else [])
        else b.first
      let (c', line) := takeLine c
      let text := line.reverse ++ b.others.reverse ++ joint.reverse ++ b.text
      do
        let next := c'.skipBreak
        let (next, _, others) ← emptyLines indent (next.rest.length + 1) next 0 []
        blockLines literal indent fuel next blank ⟨text, c'.breakChars, others⟩

def block (literal : Bool) (parent : Int) (c : Cursor) : Option (Cursor × String) := do
  let (c, chomping, increment) ← header c.skip
  let c := c.skipBlanks.skipComment
  if !c.endsLine then none
  let c := c.skipBreak
  let given : Nat := if increment = 0 then 0 else ((max parent 0) + Int.ofNat increment).toNat
  let (c, deepest, breaks) ← emptyLines given (c.rest.length + 1) c 0 []
  let indent := if given = 0 then max (max deepest (parent + 1).toNat) 1 else given
  let (c, b) ← blockLines literal indent (c.rest.length + 1) c false ⟨[], [], breaks⟩
  let text := if chomping = .strip then b.text else b.first.reverse ++ b.text
  let text := if chomping = .keep then b.others.reverse ++ text else text
  some (c, String.ofList text.reverse)

end Scalar
end ProposalLint.Yaml
