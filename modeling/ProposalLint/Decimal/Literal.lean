import ProposalLint.Decimal.Binary64

namespace ProposalLint.Decimal

def isDigit (c : Char) : Bool :=
  '0' ≤ c && c ≤ '9'

def digitValue (c : Char) : Nat :=
  c.toNat - 48

def natOf (ds : List Char) : Nat :=
  ds.foldl (fun n d => 10 * n + digitValue d) 0

-- An exponent too long to matter is cut off.
def exponent? (cs : List Char) : Option Int :=
  let (negative, ds) := match cs with
    | '-' :: ds => (true, ds)
    | '+' :: ds => (false, ds)
    | ds => (false, ds)
  if ds.isEmpty || !ds.all isDigit then none
  else
    let n := Int.ofNat (natOf ((ds.dropWhile (· == '0')).take 12))
    some (if negative then -n else n)

-- The part after the digits: nothing or an exponent.
def tail? : List Char → Option Int
  | [] => some 0
  | 'e' :: cs | 'E' :: cs => exponent? cs
  | _ => none

-- A literal without a sign. At least one digit stands before or after the point.
def unsigned? (negative : Bool) (cs : List Char) : Option Binary64 := do
  let whole := cs.takeWhile isDigit
  let (fraction, rest) := match cs.dropWhile isDigit with
    | '.' :: rest => (rest.takeWhile isDigit, rest.dropWhile isDigit)
    | rest => ([], rest)
  if whole.isEmpty && fraction.isEmpty then none
  let e ← tail? rest
  some (Binary64.ofDecimal negative (natOf (whole ++ fraction)) (e - Int.ofNat fraction.length))

-- A literal that may have a sign.
def literal? : List Char → Option Binary64
  | '-' :: cs => unsigned? true cs
  | '+' :: cs => unsigned? false cs
  | cs => unsigned? false cs

end ProposalLint.Decimal
