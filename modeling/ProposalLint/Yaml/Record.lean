import ProposalLint.Json.Value
import ProposalLint.Yaml.Value

namespace ProposalLint.Yaml.Value

mutual

-- Keeps all that JSON alone would lose: the kind of a number, keys that are no texts, and tags.
def toJson : Value → Json
  | null => .null
  | bool b => .bool b
  | int n => .object [("int", .string (toString n))]
  | float x => .object [("float", .string (floatText x))]
  | string s => .string s
  | list items => .object [("list", .array (itemsToJson items))]
  | map entries => .object [("map", .array (entriesToJson entries))]
  | tagged tag v => .object [("tag", .string tag), ("value", toJson v)]

def itemsToJson : List Value → List Json
  | [] => []
  | v :: vs => toJson v :: itemsToJson vs

def entriesToJson : List (Value × Value) → List Json
  | [] => []
  | (k, v) :: es => .array [toJson k, toJson v] :: entriesToJson es

end

end ProposalLint.Yaml.Value
