import ProposalLint.Decimal.Shortest

namespace ProposalLint.Toml

inductive Value where
  | string (value : String)
  | integer (value : Int)
  | float (value : Binary64)
  | bool (value : Bool)
  | datetime (text : String)
  | array (items : List Value)
  | table (entries : List (String × Value))
deriving Inhabited, Repr

namespace Value

def string? : Value → Option String
  | string s => some s
  | _ => none

def integer? : Value → Option Int
  | integer n => some n
  | _ => none

def bool? : Value → Option Bool
  | bool b => some b
  | _ => none

def strings? : Value → Option (List String)
  | array items => items.mapM string?
  | _ => none

-- A date counts as the text it is shown as.
def text? : Value → Option String
  | string s | datetime s => some s
  | _ => none

def texts? : Value → Option (List String)
  | array items => items.mapM text?
  | _ => none

-- A date counts as a table too, with its text under one reserved key.
def entries? : Value → Option (List (String × Value))
  | table entries => some entries
  | datetime s => some [("$__toml_private_datetime", string s)]
  | _ => none

end Value

-- A float as it is shown: without an exponent, and whole numbers without a point.
def floatText : Binary64 → String
  | .nan => "NaN"
  | .infinite negative => if negative then "-inf" else "inf"
  | .finite negative m e =>
    let text := if m = 0 then ['0'] else (Decimal.shortest m e).positional
    String.ofList (if negative then '-' :: text else text)

end ProposalLint.Toml
