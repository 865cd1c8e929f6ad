namespace ProposalLint

-- A day of the Gregorian calendar, extended to all years; `ofYmd?` makes only those that exist.
structure Date where
  year : Int
  month : Nat
  day : Nat
deriving DecidableEq, Inhabited, Repr

namespace Date

def isLeap (year : Int) : Bool :=
  year % 4 == 0 && (year % 100 != 0 || year % 400 == 0)

def daysIn (year : Int) (month : Nat) : Nat :=
  match month with
  | 2 => if isLeap year then 29 else 28
  | 4 | 6 | 9 | 11 => 30
  | _ => 31

-- Years are kept within a range that is wide enough for any use.
def inRange (year : Int) : Bool :=
  -262143 ≤ year && year ≤ 262142

def ofYmd? (year : Int) (month day : Nat) : Option Date :=
  if inRange year && 1 ≤ month && month ≤ 12 && 1 ≤ day && day ≤ daysIn year month then
    some ⟨year, month, day⟩
  else none

-- Whether one day comes before another.
def before (a b : Date) : Bool :=
  a.year < b.year || (a.year == b.year && (a.month < b.month || (a.month == b.month && a.day < b.day)))

def padded (width n : Nat) : String :=
  let digits := toString n
  String.ofList (List.replicate (width - digits.length) '0') ++ digits

-- Year, month and day, divided by hyphens. A year beyond four digits shows its sign.
def text (d : Date) : String :=
  let year :=
    if d.year < 0 then "-" ++ padded 4 d.year.natAbs
    else if 9999 < d.year then "+" ++ padded 4 d.year.natAbs
    else padded 4 d.year.natAbs
  year ++ "-" ++ padded 2 d.month ++ "-" ++ padded 2 d.day

end Date
end ProposalLint
