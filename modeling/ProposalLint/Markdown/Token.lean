import ProposalLint.Markdown.Event
import ProposalLint.Markdown.Interrupt
import ProposalLint.Text.Whitespace

namespace ProposalLint.Markdown

inductive Mark where
  | text
  -- Text that differs from what the source says at this place.
  | value (text : String)
  | delimiter (char : Char) (opens closes : Bool)
  -- The backslash in front of an escaped run is not part of its span.
  | ticks (escaped : Bool)
  | angle
  | linkOpen
  | imageOpen
  -- A bracket that was tried as a reference before is not tried again.
  | linkClose (tried : Bool)
  | softBreak
  | hardBreak
  -- A whole block among the text of a tight item.
  | nested (events : List Located)
deriving Inhabited

structure Token where
  span : Span
  mark : Mark
deriving Inhabited

namespace Token

def width (t : Token) : Nat :=
  t.span.stop - t.span.start

end Token

def pushText (tokens : Array Token) (start stop : Nat) : Array Token :=
  if start < stop then tokens.push ⟨⟨start, stop⟩, .text⟩ else tokens

namespace Delimiter

-- What stands on either side of a run decides whether it can open or close emphasis. A run of `*`
-- and a run of two `~` may stand inside a word, other runs may not.
def inWord (c : Char) (count : Nat) : Bool :=
  c == '*' || (c == '~' && count > 1)

def opens (w : Window) (c : Char) (i count : Nat) : Bool :=
  match w.charAfter? (i + count) with
  | none => false
  | some next =>
    if Text.isWhitespace next then false
    else
      match w.charBefore? i with
      | none => true
      | some prev =>
        if c == '*' && !Text.isPunctuation next then true
        else if c == '~' && count > 1 then true
        else if c == '~' && prev == '~' && !Text.isPunctuation next then true
        else Text.isWhitespace prev || Text.isPunctuation prev

def closes (w : Window) (c : Char) (i count : Nat) : Bool :=
  match w.charBefore? i with
  | none => false
  | some prev =>
    if Text.isWhitespace prev then false
    else
      match w.charAfter? (i + count) with
      | none => true
      | some next =>
        if inWord c count && !Text.isPunctuation prev then true
        else if c == '~' && prev == '~' then true
        else Text.isWhitespace next || Text.isPunctuation next

end Delimiter

-- What the pipes of a line mean.
inductive Pipes where
  -- Nothing.
  | plain
  -- The line may be the first of a table.
  | maybeHead
  -- They end table cells, as the line end does.
  | cells
deriving DecidableEq

inductive LineEnd where
  | none
  | break (token : Token)
  | table (row : Scan.DelimiterRow)

-- The span of a line end that a backslash makes hard.
def LineEnd.slash? (w : Window) : LineEnd → Option Span
  | .break ⟨span, .hardBreak⟩ => if w.has span.start '\\' then some span else Option.none
  | _ => Option.none

structure Lexed where
  next : Nat
  stop : LineEnd
  tokens : Array Token

structure LexState where
  i : Nat
  -- Start of the text that is not in a token yet.
  mark : Nat
  tokens : Array Token
  pipes : Nat := 0
  lastPipe : Nat

namespace LexState

-- Closes the pending text at `stop`.
def flush (s : LexState) (stop : Nat) : LexState :=
  { s with tokens := pushText s.tokens s.mark stop, mark := stop }

-- Adds a token that reaches from the current place to `stop` and goes on behind it.
def take (s : LexState) (stop : Nat) (mark : Mark) : LexState :=
  let s := s.flush s.i
  { s with tokens := s.tokens.push ⟨⟨s.i, stop⟩, mark⟩, mark := stop, i := stop }

end LexState

section
variable (w : Window) (containers : List Container)

def lexLineEnd (mode : Pipes) (start : Nat) (s : LexState) (next : Nat) : Lexed :=
  let ix := s.i
  let slashes := w.countBack (· == '\\') 0 ix
  if slashes % 2 == 1 && next < w.stop then
    ⟨next, .break ⟨⟨ix - 1, next⟩, .hardBreak⟩, (s.flush (ix - 1)).tokens⟩
  else
    let head? :=
      if mode = .maybeHead ∧ s.pipes > 0 then
        tableHead? w containers s.pipes start s.lastPipe next
      else none
    match head? with
    | some row => ⟨row.next, .table row, s.tokens⟩
    | none =>
      let blanks := w.countBack isBlank 0 ix
      let token : Token :=
        if blanks ≥ 2 then ⟨⟨ix - blanks, next⟩, .hardBreak⟩ else ⟨⟨ix, next⟩, .softBreak⟩
      ⟨next, .break token, (s.flush (ix - blanks)).tokens⟩

-- A backslash directly in front of a pipe always escapes it.
def isEscaped (i : Nat) : Bool :=
  i > 0 && w.has (i - 1) '\\'

def lexSpecial (mode : Pipes) (s : LexState) (c : Char) : LexState :=
  let i := s.i
  match c with
  | '\\' =>
    if mode = .cells && w.hasAll (i + 1) ['\\', '|'] then
      { s.flush i with i := i + 3, mark := i + 2 }
    else if (w.at? (i + 1)).any Text.isAsciiPunctuation then
      let s := s.flush i
      if w.has (i + 1) '\x60' then
        let s := { s with i := i + 1, mark := i + 1 }
        s.take (Scan.run w '\x60' (i + 1)) (.ticks true)
      else { s with i := i + 2, mark := i + 1 }
    else { s with i := i + 1 }
  | '*' | '_' | '~' =>
    let j := Scan.run w c i
    let opens := Delimiter.opens w c i (j - i)
    let closes := Delimiter.closes w c i (j - i)
    if (opens || closes) && (c != '~' || j - i ≤ 2) then s.take j (.delimiter c opens closes)
    else { s with i := j }
  | '\x60' => s.take (Scan.run w '\x60' i) (.ticks false)
  | '<' => if w.has (i + 1) '\\' then { s with i := i + 1 } else s.take (i + 1) .angle
  | '!' => if w.has (i + 1) '[' then s.take (i + 2) .imageOpen else { s with i := i + 1 }
  | '[' => s.take (i + 1) .linkOpen
  | ']' => s.take (i + 1) (.linkClose false)
  | '&' =>
    match Scan.entity? w i with
    | some (j, value) => s.take j (.value value)
    | none => { s with i := i + 1 }
  | '|' =>
    if isEscaped w i then { s with i := i + 1 }
    else { s with i := i + 1, pipes := s.pipes + 1, lastPipe := i }
  | _ => { s with i := i + 1 }

-- The tokens of the line that starts at `start`, how it ends and where the next one starts.
def lexLine (mode : Pipes) (start : Nat) : Lexed :=
  go (w.stop + 1) ⟨start, start, #[], 0, start⟩
where
  finish (s : LexState) : Lexed :=
    let blanks := w.countBack isBlank s.mark s.i
    ⟨s.i, .none, (s.flush (s.i - blanks)).tokens⟩
  go : Nat → LexState → Lexed
  | 0, s => finish s
  | fuel + 1, s =>
    match w.at? s.i with
    | none => finish s
    | some c =>
      if c == '\n' || c == '\r' then
        if mode = .cells then finish s
        else
          match Scan.eol? w s.i with
          | some next => lexLineEnd w containers mode start s next
          | none => finish s
      else if c == '|' && mode = .cells && !isEscaped w s.i then finish s
      else go fuel (lexSpecial w mode s c)

end
end ProposalLint.Markdown
