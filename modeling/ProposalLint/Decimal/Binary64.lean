namespace ProposalLint

-- A binary floating point number of double precision, held exactly. A finite number is `mantissa`
-- times two to the `exponent`; the mantissa has at most 53 bits.
inductive Binary64 where
  | finite (negative : Bool) (mantissa : Nat) (exponent : Int)
  | infinite (negative : Bool)
  | nan
deriving DecidableEq, Inhabited, Repr

namespace Binary64

def zero (negative : Bool) : Binary64 :=
  finite negative 0 (-1074)

def isFinite : Binary64 → Bool
  | finite .. => true
  | _ => false

-- Equality of numbers: the two zeros are equal.
def same : Binary64 → Binary64 → Bool
  | finite s m e, finite s' m' e' => (m == 0 && m' == 0) || (s == s' && m == m' && e == e')
  | a, b => a == b

-- The whole number nearest to a quotient, the even one of two.
def roundQuotient (num den : Nat) : Nat :=
  let q := num / den
  let twice := 2 * (num % den)
  if twice < den then q
  else if den < twice then q + 1
  else q + q % 2

-- A quotient times a power of two, as a quotient.
def scale (num den : Nat) (exponent : Int) : Nat × Nat :=
  if 0 ≤ exponent then (num * Nat.pow 2 exponent.toNat, den)
  else (num, den * Nat.pow 2 (-exponent).toNat)

-- The power of two that leaves 53 bits before the point, or the least there is.
def exponentOf (num den : Nat) : Int :=
  let guess : Int := Int.ofNat num.log2 - Int.ofNat den.log2 - 52
  let (n, d) := scale num den (-guess)
  max (-1074) (if n < d * 4503599627370496 then guess - 1 else guess)

-- The number nearest to `num / den`; from the upper end of the range on it is infinite.
def ofQuotient (negative : Bool) (num den : Nat) : Binary64 :=
  if num = 0 then zero negative
  else
    let e := exponentOf num den
    let (n, d) := scale num den (-e)
    let m := roundQuotient n d
    let (m, e) := if m = 9007199254740992 then (4503599627370496, e + 1) else (m, e)
    if 971 < e then infinite negative else finite negative m e

def digitCount (n : Nat) : Nat :=
  (Nat.toDigits 10 n).length

-- The number nearest to `digits` times ten to the `exponent`. Far outside the range the answer is
-- known without the power of ten.
def ofDecimal (negative : Bool) (digits : Nat) (exponent : Int) : Binary64 :=
  let top : Int := Int.ofNat (digitCount digits) + exponent
  if digits = 0 || top < -400 then zero negative
  else if 400 < top then infinite negative
  else if 0 ≤ exponent then ofQuotient negative (digits * Nat.pow 10 exponent.toNat) 1
  else ofQuotient negative digits (Nat.pow 10 (-exponent).toNat)

end Binary64
end ProposalLint
