import ProposalLint.Json.Value

namespace ProposalLint.Json

def isBlank (c : Char) : Bool :=
  c = ' ' || c = '\n' || c = '\r' || c = '\t'

def skipBlanks (cs : List Char) : List Char :=
  cs.dropWhile isBlank

def hexValue? (c : Char) : Option Nat :=
  if '0' ≤ c ∧ c ≤ '9' then some (c.toNat - 48)
  else if 'a' ≤ c ∧ c ≤ 'f' then some (c.toNat - 87)
  else if 'A' ≤ c ∧ c ≤ 'F' then some (c.toNat - 55)
  else none

def readUnit : List Char → Option (Nat × List Char)
  | a :: b :: c :: d :: rest => do
    let a ← hexValue? a
    let b ← hexValue? b
    let c ← hexValue? c
    let d ← hexValue? d
    return (((a * 16 + b) * 16 + c) * 16 + d, rest)
  | _ => none

-- A code behind `\u`; two units of a surrogate pair make one character.
def readEscape (cs : List Char) : Option (Char × List Char) := do
  let (unit, rest) ← readUnit cs
  if 0xD800 ≤ unit ∧ unit < 0xDC00 then
    match rest with
    | '\\' :: 'u' :: rest => do
      let (low, rest) ← readUnit rest
      if 0xDC00 ≤ low ∧ low < 0xE000 then
        return (Char.ofNat (0x10000 + (unit - 0xD800) * 0x400 + (low - 0xDC00)), rest)
      else
        none
    | _ => none
  else if 0xDC00 ≤ unit ∧ unit < 0xE000 then
    none
  else
    return (Char.ofNat unit, rest)

-- The characters of a string up to its closing quote, the latest first in `seen`.
def readStringAux : Nat → List Char → List Char → Option (List Char × List Char)
  | 0, _, _ => none
  | _ + 1, _, [] => none
  | fuel + 1, seen, c :: rest =>
    if c = '"' then some (seen.reverse, rest)
    else if c = '\\' then
      match rest with
      | '"' :: rest => readStringAux fuel ('"' :: seen) rest
      | '\\' :: rest => readStringAux fuel ('\\' :: seen) rest
      | '/' :: rest => readStringAux fuel ('/' :: seen) rest
      | 'n' :: rest => readStringAux fuel ('\n' :: seen) rest
      | 'r' :: rest => readStringAux fuel ('\r' :: seen) rest
      | 't' :: rest => readStringAux fuel ('\t' :: seen) rest
      | 'b' :: rest => readStringAux fuel ('\x08' :: seen) rest
      | 'f' :: rest => readStringAux fuel ('\x0c' :: seen) rest
      | 'u' :: rest =>
        match readEscape rest with
        | some (c, rest) => readStringAux fuel (c :: seen) rest
        | none => none
      | _ => none
    else if c.toNat < 32 then none
    else readStringAux fuel (c :: seen) rest

def readString (cs : List Char) : Option (String × List Char) :=
  (readStringAux (cs.length + 1) [] cs).map fun (s, rest) => (String.ofList s, rest)

def digitsValue (ds : List Char) : Nat :=
  ds.foldl (fun n d => n * 10 + (d.toNat - 48)) 0

def readFraction : List Char → Option (List Char × List Char)
  | '.' :: rest =>
    let ds := rest.takeWhile Char.isDigit
    if ds.isEmpty then none else some ('.' :: ds, rest.dropWhile Char.isDigit)
  | rest => some ([], rest)

def readExponent : List Char → Option (List Char × List Char)
  | e :: rest =>
    if e = 'e' ∨ e = 'E' then
      let (sign, rest) := match rest with
        | '+' :: rest => (['+'], rest)
        | '-' :: rest => (['-'], rest)
        | rest => ([], rest)
      let ds := rest.takeWhile Char.isDigit
      if ds.isEmpty then none else some (e :: sign ++ ds, rest.dropWhile Char.isDigit)
    else
      some ([], e :: rest)
  | [] => some ([], [])

def readNumber (cs : List Char) : Option (Json × List Char) := do
  let (sign, cs) := match cs with
    | '-' :: rest => (['-'], rest)
    | rest => ([], rest)
  let ds := cs.takeWhile Char.isDigit
  let rest := cs.dropWhile Char.isDigit
  if ds.isEmpty ∨ (ds.length > 1 ∧ ds.head? = some '0') then none
  let (fraction, rest) ← readFraction rest
  let (exponent, rest) ← readExponent rest
  if sign.isEmpty ∧ fraction.isEmpty ∧ exponent.isEmpty then
    return (natural (digitsValue ds), rest)
  else
    return (number (String.ofList (sign ++ ds ++ fraction ++ exponent)), rest)

mutual

-- The depth of values that may still be opened is bounded by the length of the text.
def readValue : Nat → List Char → Option (Json × List Char)
  | 0, _ => none
  | fuel + 1, cs =>
    match skipBlanks cs with
    | 'n' :: 'u' :: 'l' :: 'l' :: rest => some (null, rest)
    | 't' :: 'r' :: 'u' :: 'e' :: rest => some (bool true, rest)
    | 'f' :: 'a' :: 'l' :: 's' :: 'e' :: rest => some (bool false, rest)
    | '"' :: rest => (readString rest).map fun (s, rest) => (string s, rest)
    | '[' :: rest =>
      match skipBlanks rest with
      | ']' :: rest => some (array [], rest)
      | rest => (readItems fuel rest).map fun (xs, rest) => (array xs, rest)
    | '\x7b' :: rest =>
      match skipBlanks rest with
      | '\x7d' :: rest => some (object [], rest)
      | rest => (readMembers fuel rest).map fun (ms, rest) => (object ms, rest)
    | rest => readNumber rest

def readItems : Nat → List Char → Option (List Json × List Char)
  | 0, _ => none
  | fuel + 1, cs => do
    let (x, rest) ← readValue fuel cs
    match skipBlanks rest with
    | ',' :: rest => do
      let (xs, rest) ← readItems fuel rest
      return (x :: xs, rest)
    | ']' :: rest => return ([x], rest)
    | _ => none

def readMembers : Nat → List Char → Option (List (String × Json) × List Char)
  | 0, _ => none
  | fuel + 1, cs => do
    let (name, rest) ← match skipBlanks cs with
      | '"' :: rest => readString rest
      | _ => none
    let (x, rest) ← match skipBlanks rest with
      | ':' :: rest => readValue fuel rest
      | _ => none
    match skipBlanks rest with
    | ',' :: rest => do
      let (ms, rest) ← readMembers fuel rest
      return ((name, x) :: ms, rest)
    | '\x7d' :: rest => return ([(name, x)], rest)
    | _ => none

end

-- A text that holds one value and nothing else but blanks.
def parse? (text : String) : Option Json := do
  let cs := text.toList
  let (value, rest) ← readValue (2 * cs.length + 2) cs
  if (skipBlanks rest).isEmpty then some value else none

end ProposalLint.Json
