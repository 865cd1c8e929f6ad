import ProposalLint.Calendar.Date
import ProposalLint.Text.Whitespace

namespace ProposalLint.Date

inductive ReadError where
  | tooShort
  | invalid
  | outOfRange
  | tooLong
deriving DecidableEq, Inhabited, Repr

namespace ReadError

def message : ReadError → String
  | tooShort => "premature end of input"
  | invalid => "input contains invalid characters"
  | outOfRange => "input is out of range"
  | tooLong => "trailing input"

end ReadError

def isDigit (c : Char) : Bool :=
  '0' ≤ c && c ≤ '9'

-- The numbers read here are kept in 64 bits.
def number (cs : List Char) : Except ReadError Nat :=
  let n := cs.foldl (fun n c => 10 * n + (c.toNat - 48)) 0
  if 9223372036854775807 < n then .error .outOfRange else .ok n

-- The digits in front, at least one and at most `width` if a width is given.
def digits (width : Option Nat) (cs : List Char) : Except ReadError (Nat × List Char) := do
  let found := cs.takeWhile isDigit
  let taken := match width with
    | some w => found.take w
    | none => found
  if cs.isEmpty then throw .tooShort
  if taken.isEmpty then throw .invalid
  return (← number taken, cs.drop taken.length)

def hyphen : List Char → Except ReadError (List Char)
  | '-' :: cs => .ok cs
  | [] => .error .tooShort
  | _ => .error .invalid

def signedYear (cs : List Char) : Except ReadError (Int × List Char) := do
  match cs with
  | '-' :: ds =>
    let (n, rest) ← digits none ds
    return (-Int.ofNat n, rest)
  | '+' :: ds =>
    let (n, rest) ← digits none ds
    return (Int.ofNat n, rest)
  | ds =>
    let (n, rest) ← digits (some 4) ds
    return (Int.ofNat n, rest)

def ranged (low high : Int) (n : Int) : Except ReadError Unit :=
  if low ≤ n && n ≤ high then .ok () else .error .outOfRange

-- Reads a date of the form year-month-day; the first thing wrong in the text decides the error.
-- Leading zeros may be left out and blanks may stand before each number; a year with a sign may
-- have any number of digits.
def read (s : String) : Except ReadError Date := do
  let (year, cs) ← signedYear (Text.trimStartList s.toList)
  ranged (-2147483648) 2147483647 year
  let cs ← hyphen cs
  let (month, cs) ← digits (some 2) (Text.trimStartList cs)
  ranged 1 12 month
  let cs ← hyphen cs
  let (day, cs) ← digits (some 2) (Text.trimStartList cs)
  ranged 1 31 day
  if !cs.isEmpty then throw .tooLong
  match ofYmd? year month day with
  | some d => return d
  | none => throw .outOfRange

end ProposalLint.Date
