import ProposalLint.Calendar.Date
import ProposalLint.Decimal.Literal
import ProposalLint.Toml.Value

namespace ProposalLint.Toml

abbrev Chars := List Char

def isBlank (c : Char) : Bool :=
  c == ' ' || c == '\t'

def skipBlanks (cs : Chars) : Chars :=
  cs.dropWhile isBlank

-- Tabs are the only controls that texts and comments may hold.
def isPlain (c : Char) : Bool :=
  c == '\t' || (32 ≤ c.toNat && c.toNat != 127)

-- A comment up to the end of its line, if one starts here.
def skipComment : Chars → Chars
  | '#' :: cs => cs.dropWhile isPlain
  | cs => cs

def newline? : Chars → Option Chars
  | '\n' :: cs => some cs
  | '\r' :: '\n' :: cs => some cs
  | _ => none

-- The rest of a line that may hold nothing more but a comment.
def endOfLine? (cs : Chars) : Option Chars :=
  match skipComment (skipBlanks cs) with
  | [] => some []
  | rest => newline? rest

-- Blanks, comments and line breaks.
def skipGapFrom : Nat → Chars → Chars
  | 0, cs => cs
  | fuel + 1, cs =>
    let rest := skipComment (skipBlanks cs)
    match newline? rest with
    | some rest => skipGapFrom fuel rest
    | none => rest

def skipGap (cs : Chars) : Chars :=
  skipGapFrom (cs.length + 1) cs

def hexValue? (c : Char) : Option Nat :=
  if '0' ≤ c && c ≤ '9' then some (c.toNat - 48)
  else if 'a' ≤ c && c ≤ 'f' then some (c.toNat - 87)
  else if 'A' ≤ c && c ≤ 'F' then some (c.toNat - 55)
  else none

def codeChar? (digits : Chars) (count : Nat) : Option Char := do
  if digits.length != count then none
  let n ← digits.foldlM (fun n c => (hexValue? c).map (16 * n + ·)) 0
  if (0xD800 ≤ n && n ≤ 0xDFFF) || 0x10FFFF < n then none
  some (Char.ofNat n)

-- The character that an escape stands for, after the backslash.
def escape? : Chars → Option (Char × Chars)
  | 'b' :: cs => some ('\x08', cs)
  | 't' :: cs => some ('\t', cs)
  | 'n' :: cs => some ('\n', cs)
  | 'f' :: cs => some ('\x0c', cs)
  | 'r' :: cs => some ('\r', cs)
  | '"' :: cs => some ('"', cs)
  | '\\' :: cs => some ('\\', cs)
  | 'u' :: cs => (codeChar? (cs.take 4) 4).map (·, cs.drop 4)
  | 'U' :: cs => (codeChar? (cs.take 8) 8).map (·, cs.drop 8)
  | _ => none

-- A text in double quotes on one line; `text` is in reverse.
def basicFrom : Nat → Chars → Chars → Option (String × Chars)
  | 0, _, _ => none
  | fuel + 1, cs, text =>
    match cs with
    | '"' :: rest => some (String.ofList text.reverse, rest)
    | '\\' :: rest => do
      let (c, rest) ← escape? rest
      basicFrom fuel rest (c :: text)
    | c :: rest => if isPlain c then basicFrom fuel rest (c :: text) else none
    | [] => none

-- A text in single quotes on one line.
def literalText? (cs : Chars) : Option (String × Chars) :=
  match cs.dropWhile fun c => isPlain c && c != '\'' with
  | '\'' :: rest => some (String.ofList (cs.takeWhile fun c => isPlain c && c != '\''), rest)
  | _ => none

-- Three quotes end a long text; up to two more in front of them belong to it.
def longEnd? (quote : Char) (cs : Chars) : Option (Chars × Chars) :=
  let n := (cs.takeWhile (· == quote)).length
  if n < 3 then none
  else if 5 < n then none
  else some (List.replicate (n - 3) quote, cs.drop n)

-- Blanks and line breaks.
def skipBlankLines : Nat → Chars → Chars
  | 0, cs => cs
  | fuel + 1, cs =>
    match newline? (skipBlanks cs) with
    | some rest => skipBlankLines fuel rest
    | none => skipBlanks cs

-- A backslash at the end of a line joins it with the next line that is not blank.
def joined? (cs : Chars) : Option Chars :=
  (newline? (skipBlanks cs)).map fun rest => skipBlankLines (rest.length + 1) rest

def longFrom (quote : Char) : Nat → Chars → Chars → Option (String × Chars)
  | 0, _, _ => none
  | fuel + 1, cs, text =>
    match cs with
    | [] => none
    | c :: rest =>
      if c == quote then
        match longEnd? quote cs with
        | some (more, rest) => some (String.ofList (text.reverse ++ more), rest)
        | none =>
          if 2 < (cs.takeWhile (· == quote)).length then none
          else longFrom quote fuel rest (c :: text)
      else if c == '\\' && quote == '"' then
        match joined? rest with
        | some rest => longFrom quote fuel rest text
        | none => do
          let (x, rest) ← escape? rest
          longFrom quote fuel rest (x :: text)
      else
        match newline? cs with
        | some rest => longFrom quote fuel rest ('\n' :: text)
        | none => if isPlain c then longFrom quote fuel rest (c :: text) else none

-- A line break right after the opening quotes does not count.
def longText? (quote : Char) (cs : Chars) : Option (String × Chars) :=
  let cs := (newline? cs).getD cs
  longFrom quote (cs.length + 1) cs []

-- A text of one of the four kinds.
def text? : Chars → Option (String × Chars)
  | '"' :: '"' :: '"' :: cs => longText? '"' cs
  | '\'' :: '\'' :: '\'' :: cs => longText? '\'' cs
  | '"' :: cs => basicFrom (cs.length + 1) cs []
  | '\'' :: cs => literalText? cs
  | _ => none

def isKeyChar (c : Char) : Bool :=
  c.isAlphanum || c == '_' || c == '-'

def simpleKey? (cs : Chars) : Option (String × Chars) :=
  match cs with
  | '"' :: rest => basicFrom (rest.length + 1) rest []
  | '\'' :: rest => literalText? rest
  | _ =>
    match cs.takeWhile isKeyChar with
    | [] => none
    | name => some (String.ofList name, cs.drop name.length)

def keyFrom : Nat → Chars → List String → Option (List String × Chars)
  | 0, _, _ => none
  | fuel + 1, cs, parts => do
    let (part, rest) ← simpleKey? (skipBlanks cs)
    match skipBlanks rest with
    | '.' :: rest => keyFrom fuel rest (part :: parts)
    | rest => some ((part :: parts).reverse, rest)

-- A key, its parts divided by points; it has fewer than eighty.
def key? (cs : Chars) : Option (List String × Chars) :=
  keyFrom 80 cs []

namespace Number

-- Underscores may stand between two digits only.
def digits? (isDigit : Char → Bool) (cs : Chars) : Option Chars :=
  let parts := cs.splitOn '_'
  if parts.all fun p => !p.isEmpty && p.all isDigit then some parts.flatten else none

def inRange (n : Int) : Option Value :=
  if -9223372036854775808 ≤ n && n ≤ 9223372036854775807 then some (.integer n) else none

def radix? (radix : Nat) (cs : Chars) : Option Value := do
  let ds ← digits? (fun c => (hexValue? c).any (· < radix)) cs
  inRange (Int.ofNat (ds.foldl (fun n c => radix * n + (hexValue? c).getD 0) 0))

def sign (cs : Chars) : Bool × Chars :=
  match cs with
  | '-' :: rest => (true, rest)
  | '+' :: rest => (false, rest)
  | _ => (false, cs)

-- The digits before the point have no zero in front.
def whole? (cs : Chars) : Option Chars := do
  let ds ← digits? Decimal.isDigit cs
  match ds with
  | '0' :: _ :: _ => none
  | _ => some ds

def integer? (negative : Bool) (cs : Chars) : Option Value := do
  let n := Int.ofNat (Decimal.natOf (← whole? cs))
  inRange (if negative then -n else n)

def exponent? : Chars → Option Chars
  | [] => some []
  | e :: cs =>
    if e != 'e' && e != 'E' then none
    else do
      let (negative, ds) := sign cs
      let ds ← digits? Decimal.isDigit ds
      some ('e' :: (if negative then ['-'] else []) ++ ds)

def fraction? : Chars → Option Chars
  | [] => some []
  | '.' :: cs => do
    let ds ← digits? Decimal.isDigit (cs.takeWhile fun c => c != 'e' && c != 'E')
    some ('.' :: ds)
  | _ => none

-- A number with a point or an exponent. One too great to be held is refused, one too low is the
-- negative infinity.
def float? (negative : Bool) (cs : Chars) : Option Value := do
  let isMark (c : Char) := c == '.' || c == 'e' || c == 'E'
  let ds ← whole? (cs.takeWhile (!isMark ·))
  let behind := cs.dropWhile (!isMark ·)
  if behind.isEmpty then none
  let fraction ← fraction? (behind.takeWhile fun c => c != 'e' && c != 'E')
  let exponent ← exponent? (behind.dropWhile fun c => c != 'e' && c != 'E')
  let x ← Decimal.unsigned? negative (ds ++ fraction ++ exponent)
  if x == .infinite false then none else some (.float x)

def special? (negative : Bool) : Chars → Option Value
  | ['i', 'n', 'f'] => some (.float (.infinite negative))
  | ['n', 'a', 'n'] => some (.float .nan)
  | _ => none

def value? (cs : Chars) : Option Value :=
  match cs with
  | '0' :: 'x' :: ds => radix? 16 ds
  | '0' :: 'o' :: ds => radix? 8 ds
  | '0' :: 'b' :: ds => radix? 2 ds
  | _ =>
    let (negative, ds) := sign cs
    (special? negative ds).or ((integer? negative ds).or (float? negative ds))

end Number

namespace Moment

def number? (low high : Nat) (cs : Chars) : Option Nat :=
  if cs.all Decimal.isDigit then
    let n := Decimal.natOf cs
    if low ≤ n && n ≤ high then some n else none
  else none

def date? : Chars → Option String
  | [a, b, c, d, '-', e, f, '-', g, h] => do
    let year ← number? 0 9999 [a, b, c, d]
    let month ← number? 1 12 [e, f]
    let day ← number? 1 (Date.daysIn (Int.ofNat year) month) [g, h]
    some (Date.text ⟨Int.ofNat year, month, day⟩)
  | _ => none

-- Nine digits after the point are kept, and no zeros at their end.
def fraction? : Chars → Option String
  | [] => some ""
  | '.' :: ds =>
    if ds.isEmpty || !ds.all Decimal.isDigit then none
    else
      match (((ds.take 9).reverse.dropWhile (· == '0')).reverse) with
      | [] => some ""
      | ds => some ("." ++ String.ofList ds)
  | _ => none

def time? : Chars → Option String
  | a :: b :: ':' :: c :: d :: ':' :: e :: f :: rest => do
    let hour ← number? 0 23 [a, b]
    let minute ← number? 0 59 [c, d]
    let second ← number? 0 60 [e, f]
    let fraction ← fraction? rest
    some (":".intercalate ([hour, minute, second].map (Date.padded 2)) ++ fraction)
  | _ => none

def offset? : Chars → Option String
  | ['Z'] | ['z'] => some "Z"
  | [s, a, b, ':', c, d] => do
    if s != '+' && s != '-' then none
    let hour ← number? 0 23 [a, b]
    let minute ← number? 0 59 [c, d]
    let sign := if s == '-' && hour + minute != 0 then "-" else "+"
    some (sign ++ Date.padded 2 hour ++ ":" ++ Date.padded 2 minute)
  | _ => none

def isOffsetStart (c : Char) : Bool :=
  c == 'Z' || c == 'z' || c == '+' || c == '-'

-- A date, a time, or both with or without an offset, in one form for each.
def text? (cs : Chars) : Option String :=
  match time? cs with
  | some time => some time
  | none => do
    let date ← date? (cs.take 10)
    match cs.drop 10 with
    | [] => some date
    | mark :: rest =>
      if mark != 'T' && mark != 't' && mark != ' ' then none
      else
        let time ← time? (rest.takeWhile (!isOffsetStart ·))
        match rest.dropWhile (!isOffsetStart ·) with
        | [] => some (date ++ "T" ++ time)
        | offset => do some (date ++ "T" ++ time ++ (← offset? offset))

end Moment

def isWordChar (c : Char) : Bool :=
  c.isAlphanum || c == '_' || c == '+' || c == '-' || c == '.' || c == ':'

-- A blank may stand between a date and a time.
def word (cs : Chars) : Chars × Chars :=
  let first := cs.takeWhile isWordChar
  let rest := cs.dropWhile isWordChar
  match rest with
  | ' ' :: a :: b :: ':' :: more =>
    if (Moment.date? first).isSome && Decimal.isDigit a && Decimal.isDigit b then
      let time := (a :: b :: ':' :: more).takeWhile isWordChar
      (first ++ ' ' :: time, (a :: b :: ':' :: more).dropWhile isWordChar)
    else (first, rest)
  | _ => (first, rest)

-- A truth value, number or date.
def word? (cs : Chars) : Option (Value × Chars) := do
  let (w, rest) := word cs
  let value ← match String.ofList w with
    | "true" => some (.bool true)
    | "false" => some (.bool false)
    | _ => (Number.value? w).or ((Moment.text? w).map .datetime)
  some (value, rest)

end ProposalLint.Toml
