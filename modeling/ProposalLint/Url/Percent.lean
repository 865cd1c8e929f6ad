namespace ProposalLint.Url.Percent

def upperHex (n : Nat) : Char :=
  if n < 10 then Char.ofNat (48 + n) else Char.ofNat (55 + n)

def encodeByte (b : UInt8) : List Char :=
  ['%', upperHex (b.toNat / 16), upperHex (b.toNat % 16)]

-- Characters of the set are encoded, and so are controls and all beyond ASCII.
def encodeChar (set : List Char) (c : Char) : List Char :=
  if c.toNat < 32 || 126 < c.toNat || set.contains c then
    (String.singleton c).toUTF8.toList.flatMap encodeByte
  else [c]

def encode (set : List Char) (cs : List Char) : List Char :=
  cs.flatMap (encodeChar set)

def hexValue? (c : Char) : Option Nat :=
  if '0' ≤ c && c ≤ '9' then some (c.toNat - 48)
  else if 'a' ≤ c && c ≤ 'f' then some (c.toNat - 87)
  else if 'A' ≤ c && c ≤ 'F' then some (c.toNat - 55)
  else none

def decodeBytes : List Char → List UInt8
  | [] => []
  | '%' :: a :: b :: cs =>
    match hexValue? a, hexValue? b with
    | some x, some y => Nat.toUInt8 (16 * x + y) :: decodeBytes cs
    | _, _ => '%'.toUInt8 :: decodeBytes (a :: b :: cs)
  | c :: cs => (String.singleton c).toUTF8.toList ++ decodeBytes cs

-- The decoded text, if it is one; a percent sign without digits stands for itself.
def decode? (cs : List Char) : Option (List Char) :=
  (String.fromUTF8? ⟨(decodeBytes cs).toArray⟩).map String.toList

end ProposalLint.Url.Percent
