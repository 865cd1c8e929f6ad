import ProposalLint.Decimal.Binary64

namespace ProposalLint.Decimal

-- `digits` times ten to the `exponent`.
structure Digits where
  digits : List Char
  exponent : Int
deriving Inhabited, Repr

-- All numbers that read back lie between `low` and `high`, as multiples of `1 / den`.
structure Interval where
  low : Nat
  value : Nat
  high : Nat
  den : Nat
  closed : Bool

namespace Interval

def ofFinite (mantissa : Nat) (exponent : Int) : Interval :=
  -- Below a power of two the numbers are twice as dense.
  let below := if mantissa = 4503599627370496 && -1074 < exponent then 1 else 2
  let (unit, den) := Binary64.scale 1 4 exponent
  ⟨(4 * mantissa - below) * unit, 4 * mantissa * unit, (4 * mantissa + 2) * unit, den,
    mantissa % 2 == 0⟩

def holds (i : Interval) (num den : Nat) : Bool :=
  let x := num * i.den
  let low := i.low * den
  let high := i.high * den
  if i.closed then low ≤ x && x ≤ high else low < x && x < high

end Interval

-- Ten to the power `k` as a quotient.
def powerOfTen (k : Int) : Nat × Nat :=
  if 0 ≤ k then (Nat.pow 10 k.toNat, 1) else (1, Nat.pow 10 (-k).toNat)

-- The grid point with step `10 ^ k` that reads back and is nearest to the value, if one does.
def onGrid (i : Interval) (k : Int) : Option Nat :=
  let (up, down) := powerOfTen k
  let num := i.value * down
  let den := i.den * up
  let low := num / den
  let rest := num % den
  let lowHolds := i.holds (low * up) down
  let highHolds := i.holds ((low + 1) * up) down
  match lowHolds, highHolds with
  | true, true =>
    if 2 * rest < den || (2 * rest == den && low % 2 == 0) then some low else some (low + 1)
  | true, false => some low
  | false, true => some (low + 1)
  | false, false => none

-- Tries ever finer grids.
def search (i : Interval) : Nat → Int → Nat × Int
  | 0, k => (0, k)
  | fuel + 1, k =>
    match onGrid i k with
    | some digits => if digits = 0 then search i fuel (k - 1) else (digits, k)
    | none => search i fuel (k - 1)

def dropZeros : List Char → Int → Digits
  | '0' :: ds, k => dropZeros ds (k + 1)
  | ds, k => ⟨ds.reverse, k⟩

-- The fewest digits that read back as a finite number that is not zero, and of those the nearest.
def shortest (mantissa : Nat) (exponent : Int) : Digits :=
  let i := Interval.ofFinite mantissa exponent
  let top := Int.ofNat (Binary64.digitCount (i.value / i.den)) -
    (if i.value / i.den = 0 then Int.ofNat (Binary64.digitCount (i.den / i.value)) else 0)
  let (digits, k) := search i 24 (top + 1)
  dropZeros (Nat.toDigits 10 digits).reverse k

def zeros (n : Int) : List Char :=
  List.replicate n.toNat '0'

namespace Digits

-- How many digits stand before the point.
def whole (d : Digits) : Int :=
  Int.ofNat d.digits.length + d.exponent

-- Without an exponent; a whole number has no point.
def positional (d : Digits) : List Char :=
  if 0 ≤ d.exponent then d.digits ++ zeros d.exponent
  else if 0 < d.whole then d.digits.take d.whole.toNat ++ '.' :: d.digits.drop d.whole.toNat
  else '0' :: '.' :: zeros (-d.whole) ++ d.digits

-- With one digit before the point and an exponent.
def scientific (d : Digits) : List Char :=
  let exponent := (toString (d.whole - 1)).toList
  match d.digits with
  | [c] => c :: 'e' :: exponent
  | c :: cs => c :: '.' :: cs ++ 'e' :: exponent
  | [] => []

end Digits
end ProposalLint.Decimal
