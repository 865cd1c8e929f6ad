namespace ProposalLint.Url.Punycode

def digitChar (d : Nat) : Char :=
  if d < 26 then Char.ofNat (97 + d) else Char.ofNat (22 + d)

def digitValue? (c : Char) : Option Nat :=
  if 'a' ≤ c && c ≤ 'z' then some (c.toNat - 97)
  else if 'A' ≤ c && c ≤ 'Z' then some (c.toNat - 65)
  else if '0' ≤ c && c ≤ '9' then some (c.toNat - 22)
  else none

-- The least value at which the digit at place `k` is followed by another one.
def threshold (k bias : Nat) : Nat :=
  min 26 (max 1 (k - bias))

def adaptFrom (k delta : Nat) : Nat :=
  if 455 < delta then adaptFrom (k + 36) (delta / 35) else k + 36 * delta / (delta + 38)
termination_by delta
decreasing_by omega

def adapt (delta count : Nat) (first : Bool) : Nat :=
  let delta := if first then delta / 700 else delta / 2
  adaptFrom 0 (delta + delta / count)

-- One difference: the digits from place `k` on, and what follows them.
def readDelta (bias : Nat) : List Char → (k weight value : Nat) → Option (Nat × List Char)
  | [], _, _, _ => none
  | c :: cs, k, weight, value => do
    let d ← digitValue? c
    let value := value + d * weight
    let t := threshold k bias
    if d < t then some (value, cs) else readDelta bias cs (k + 36) (weight * (36 - t)) value

def insertAt (x : Char) : Nat → List Char → List Char
  | 0, cs => x :: cs
  | n + 1, c :: cs => c :: insertAt x n cs
  | _ + 1, [] => [x]

def decodeFrom : Nat → List Char → (code index bias : Nat) → (first : Bool) → List Char →
    Option (List Char)
  | _, [], _, _, _, _, out => some out
  | 0, _, _, _, _, _, _ => none
  | fuel + 1, cs, code, index, bias, first, out => do
    let (delta, rest) ← readDelta bias cs 36 1 0
    let count := out.length + 1
    let total := index + delta
    let code := code + total / count
    if 0x10FFFF < code || (0xD800 ≤ code && code ≤ 0xDFFF) then none
    let place := total % count
    decodeFrom fuel rest code (place + 1) (adapt delta count first) false
      (insertAt (Char.ofNat code) place out)

-- The label that a text stands for.
def decode? (cs : List Char) : Option (List Char) :=
  let behind := (cs.reverse.takeWhile (· != '-')).reverse
  let basic := if behind.length == cs.length then [] else cs.take (cs.length - behind.length - 1)
  if cs.all (·.toNat < 128) then decodeFrom (cs.length + 1) behind 128 0 72 true basic else none

def writeDelta (bias : Nat) : Nat → (k value : Nat) → List Char
  | 0, _, _ => []
  | fuel + 1, k, value =>
    let t := threshold k bias
    if value < t then [digitChar value]
    else
      digitChar (t + (value - t) % (36 - t)) :: writeDelta bias fuel (k + 36) ((value - t) / (36 - t))

structure Writer where
  delta : Nat
  bias : Nat
  handled : Nat
  out : List Char

-- Writes all places of one code.
def writeCode (basic code : Nat) (w : Writer) (c : Char) : Writer :=
  if c.toNat < code then { w with delta := w.delta + 1 }
  else if c.toNat == code then
    { delta := 0
      bias := adapt w.delta (w.handled + 1) (w.handled == basic)
      handled := w.handled + 1
      out := w.out ++ writeDelta w.bias (w.delta + 1) 36 w.delta }
  else w

def writeCodes (cs : List Char) (basic : Nat) : List Nat → (next : Nat) → Writer → Writer
  | [], _, w => w
  | code :: codes, next, w =>
    let w := { w with delta := w.delta + (code - next) * (w.handled + 1) }
    let w := cs.foldl (writeCode basic code) w
    writeCodes cs basic codes (code + 1) { w with delta := w.delta + 1 }

-- The ASCII characters come first, then the others as differences of variable length, in the order
-- of their codes.
def encode (cs : List Char) : List Char :=
  let basic := cs.filter (·.toNat < 128)
  let codes := ((cs.filter (128 ≤ ·.toNat)).map Char.toNat).mergeSort.eraseDups
  let w := writeCodes cs basic.length codes 128 ⟨0, 72, basic.length, []⟩
  basic ++ (if basic.isEmpty then [] else ['-']) ++ w.out

end ProposalLint.Url.Punycode
