import ProposalLint.Decimal.Shortest

namespace ProposalLint.Yaml

inductive Value where
  | null
  | bool (value : Bool)
  | int (value : Int)
  | float (value : Binary64)
  | string (value : String)
  | list (items : List Value)
  | map (entries : List (Value × Value))
  | tagged (tag : String) (value : Value)
deriving Inhabited, Repr

namespace Value

mutual

-- Equality of values. The order in which the keys of a mapping were written does not count.
def same : Value → Value → Bool
  | null, null => true
  | bool a, bool b => a == b
  | int a, int b => a == b
  | float a, float b => a.same b
  | string a, string b => a == b
  | list as, list bs => sameItems as bs
  | map as, map bs => as.length == bs.length && within as bs
  | tagged t a, tagged u b => t == u && same a b
  | _, _ => false

def sameItems : List Value → List Value → Bool
  | [], [] => true
  | a :: as, b :: bs => same a b && sameItems as bs
  | _, _ => false

def within : List (Value × Value) → List (Value × Value) → Bool
  | [], _ => true
  | (k, v) :: as, bs => bs.any (fun b => same k b.1 && same v b.2) && within as bs

end

-- The value without its tags.
def untagged : Value → Value
  | tagged _ v => untagged v
  | v => v

def string? : Value → Option String
  | string s => some s
  | _ => none

-- What a mapping has under a text key.
def field? (name : String) : Value → Option Value
  | map entries => (entries.find? fun e => e.1.string? == some name).map (·.2)
  | _ => none

end Value

-- Positional up to sixteen digits before the point and five after it, and always a point there.
def finiteText (d : Decimal.Digits) : List Char :=
  if 0 ≤ d.exponent && d.whole ≤ 16 then d.positional ++ ['.', '0']
  else if -5 < d.whole && d.whole ≤ 16 then d.positional
  else d.scientific

def floatText : Binary64 → String
  | .nan => ".nan"
  | .infinite negative => if negative then "-.inf" else ".inf"
  | .finite negative m e =>
    let text := if m = 0 then ['0', '.', '0'] else finiteText (Decimal.shortest m e)
    String.ofList (if negative then '-' :: text else text)

end ProposalLint.Yaml
