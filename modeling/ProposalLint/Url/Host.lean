import ProposalLint.Url.Domain
import ProposalLint.Url.Percent

namespace ProposalLint.Url

inductive Host where
  | domain (name : String)
  | ipv4 (address : Nat)
  | ipv6 (pieces : List Nat)
deriving DecidableEq, Inhabited, Repr

namespace Host

def digitsOf? (radix : Nat) (cs : List Char) : Option Nat :=
  cs.foldl (fun n c => do
    let d ← Percent.hexValue? c
    if d < radix then return radix * (← n) + d else none) (some 0)

-- One part of a numeric address: decimal, octal after a zero, or hexadecimal.
def part? : List Char → Option Nat
  | [] => none
  | '0' :: 'x' :: cs | '0' :: 'X' :: cs => digitsOf? 16 cs
  | '0' :: c :: cs => digitsOf? 8 (c :: cs)
  | cs => digitsOf? 10 cs

def dropLastEmpty (parts : List (List Char)) : List (List Char) :=
  if 1 < parts.length && parts.getLast? == some [] then parts.dropLast else parts

def endsInNumber (name : List Char) : Bool :=
  match (dropLastEmpty (Domain.splitDots name)).getLast? with
  | some last =>
    (!last.isEmpty && last.all fun c => '0' ≤ c && c ≤ '9') || (part? last).isSome
  | none => false

-- The last part fills all the bytes that the others leave.
def ipv4? (name : List Char) : Option Nat := do
  let numbers ← (dropLastEmpty (Domain.splitDots name)).mapM part?
  let last ← numbers.getLast?
  let first := numbers.dropLast
  if 3 < first.length || first.any (255 < ·) then none
  if Nat.pow 256 (4 - first.length) ≤ last then none
  some (first.zipIdx.foldl (fun sum (n, i) => sum + n * Nat.pow 256 (3 - i)) last)

-- A whole number below 256 in decimal digits, without a zero in front.
def byte? (cs : List Char) : Option Nat :=
  match cs with
  | [] => none
  | '0' :: _ :: _ => none
  | _ => if 3 < cs.length then none else (digitsOf? 10 cs).filter (· < 256)

def piece? (cs : List Char) : Option (List Nat) :=
  if cs.isEmpty || 4 < cs.length then none else (digitsOf? 16 cs).map ([·])

-- Pieces between colons; the last of all may be four bytes with points.
def pieces? (last : Bool) : List (List Char) → Option (List Nat)
  | [] => some []
  | [cs] =>
    if last && cs.contains '.' then
      match (Domain.splitDots cs).mapM byte? with
      | some [a, b, c, d] => some [256 * a + b, 256 * c + d]
      | _ => none
    else piece? cs
  | cs :: rest => do return (← piece? cs) ++ (← pieces? last rest)

def splitColons (cs : List Char) : List (List Char) :=
  if cs.isEmpty then [] else cs.splitOn ':'

-- The places where two colons stand together.
def gap? : List Char → Option (List Char × List Char)
  | ':' :: ':' :: cs => some ([], cs)
  | c :: cs => (gap? cs).map fun (before, behind) => (c :: before, behind)
  | [] => none

def ipv6? (cs : List Char) : Option (List Nat) :=
  match gap? cs with
  | some (before, behind) => do
    let a ← pieces? false (splitColons before)
    let b ← pieces? true (splitColons behind)
    if 7 < a.length + b.length then none
    some (a ++ List.replicate (8 - a.length - b.length) 0 ++ b)
  | none => do
    let a ← pieces? true (splitColons cs)
    if a.length == 8 then some a else none

-- A host as it stands in an address; brackets hold the long kind of numeric address. A name whose
-- last part is a number must be an address.
def parse? (cs : List Char) : Option Host :=
  match cs with
  | '[' :: rest =>
    if rest.getLast? == some ']' then (ipv6? rest.dropLast).map ipv6 else none
  | _ => do
    let name ← Domain.toAscii? (← Percent.decode? cs)
    if name.isEmpty then none
    else if endsInNumber name then (ipv4? name).map ipv4
    else some (domain (String.ofList name))

-- The first longest run of two zeros or more: where it starts and its length.
def longestZeros (pieces : List Nat) : Nat × Nat :=
  go 0 pieces (0, 0)
where
  go (i : Nat) : List Nat → Nat × Nat → Nat × Nat
  | [], best => best
  | p :: ps, best =>
    let run := ((p :: ps).takeWhile (· == 0)).length
    go (i + 1) ps (if best.2 < run && 1 < run then (i, run) else best)

def hexText (n : Nat) : String :=
  String.ofList (Nat.toDigits 16 n)

def text : Host → String
  | domain name => name
  | ipv4 n =>
    ".".intercalate ([n / 16777216, n / 65536 % 256, n / 256 % 256, n % 256].map toString)
  | ipv6 pieces =>
    let (first, run) := longestZeros pieces
    let join (ps : List Nat) := ":".intercalate (ps.map hexText)
    let body := if run = 0 then join pieces
      else join (pieces.take first) ++ "::" ++ join (pieces.drop (first + run))
    "[" ++ body ++ "]"

end Host
end ProposalLint.Url
