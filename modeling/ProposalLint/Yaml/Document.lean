import ProposalLint.Decimal.Literal
import ProposalLint.Yaml.Event
import ProposalLint.Yaml.Value

namespace ProposalLint.Yaml

namespace Plain

def isNull (s : String) : Bool :=
  s == "null" || s == "Null" || s == "NULL" || s == "~"

def bool? (s : String) : Option Bool :=
  if s == "true" || s == "True" || s == "TRUE" then some true
  else if s == "false" || s == "False" || s == "FALSE" then some false
  else none

def isDigit (radix : Nat) (c : Char) : Bool :=
  (Scalar.hexValue? c).any (· < radix)

def natOf? (radix : Nat) (cs : List Char) : Option Nat :=
  if cs.isEmpty || !cs.all (isDigit radix) then none
  else some (cs.foldl (fun n c => radix * n + (Scalar.hexValue? c).getD 0) 0)

-- A zero before other digits makes a text and not a number.
def hasLeadingZero (cs : List Char) : Bool :=
  let ds := match cs with
    | '-' :: ds | '+' :: ds => ds
    | ds => ds
  1 < ds.length && ds.head? == some '0' && ds.all (isDigit 10)

def radix? : List Char → Option (Nat × List Char)
  | '0' :: 'x' :: cs => some (16, cs)
  | '0' :: 'o' :: cs => some (8, cs)
  | '0' :: 'b' :: cs => some (2, cs)
  | _ => none

-- A whole number, whatever its size.
def integer? (cs : List Char) : Option Int :=
  let (negative, digits) := match cs with
    | '-' :: ds => (true, ds)
    | '+' :: ds => (false, ds)
    | ds => (false, ds)
  let magnitude :=
    match radix? digits with
    | some (radix, ds) => natOf? radix ds
    | none => if hasLeadingZero cs then none else natOf? 10 digits
  magnitude.map fun n => if negative then -Int.ofNat n else Int.ofNat n

-- Numbers of 64 bits are values, longer ones of 128 bits are refused, and from there on a number is
-- no whole number any more.
inductive Whole where
  | value (n : Int)
  | refused
  | none

def whole (s : String) : Whole :=
  match integer? s.toList with
  | some n =>
    if -9223372036854775808 ≤ n && n ≤ 18446744073709551615 then .value n
    else if -170141183460469231731687303715884105728 ≤ n
        && n ≤ 340282366920938463463374607431768211455 then .refused
    else .none
  | .none => .none

def float? (s : String) : Option Binary64 :=
  let cs := s.toList
  let (unsigned, fine) := match cs with
    | '+' :: ds => (ds, !(ds.head? == some '+' || ds.head? == some '-'))
    | ds => (ds, true)
  let u := String.ofList unsigned
  if !fine then none
  else if u == ".inf" || u == ".Inf" || u == ".INF" then some (.infinite false)
  else if s == "-.inf" || s == "-.Inf" || s == "-.INF" then some (.infinite true)
  else if s == ".nan" || s == ".NaN" || s == ".NAN" then some .nan
  else (Decimal.literal? unsigned).filter Binary64.isFinite

-- What a plain scalar without a tag means.
def value? (s : String) : Option Value :=
  if s.isEmpty || isNull s then some .null
  else
    match bool? s with
    | some b => some (.bool b)
    | none =>
      match whole s with
      | .value n => some (.int n)
      | .refused => none
      | .none =>
        if hasLeadingZero s.toList then some (.string s)
        else
          match float? s with
          | some x => some (.float x)
          | none => some (.string s)

end Plain

def untaggedScalar? (text : String) (plain : Bool) : Option Value :=
  if plain then Plain.value? text else some (.string text)

-- The tags of the basic types make a scalar that type or fail; others make it a text.
def typedScalar? (tag text : String) : Option Value :=
  match tag with
  | "tag:yaml.org,2002:bool" => (Plain.bool? text).map .bool
  | "tag:yaml.org,2002:int" =>
    match Plain.whole text with
    | .value n => some (.int n)
    | _ => none
  | "tag:yaml.org,2002:float" => (Plain.float? text).map .float
  | "tag:yaml.org,2002:null" => if Plain.isNull text then some .null else none
  | _ => some (.string text)

-- Without the exclamation mark in front, unless that is all there is.
def unmarked : List Char → List Char
  | '!' :: c :: cs => c :: cs
  | cs => cs

-- A tag of the document's own, which starts with an exclamation mark. One more mark than that does
-- not count.
def ownTag? (tag : Option String) : Option String := do
  let tag ← tag
  match tag.toList with
  | '!' :: cs => some (String.ofList ('!' :: unmarked (unmarked ('!' :: cs))))
  | _ => none

namespace Document

-- Where to read on, and how many aliases were followed.
structure Place where
  position : Nat
  jumps : Nat

abbrev Reader := Place → Option (Value × Place)

variable (events : Array Event) (targets : List (Nat × Nat))

def advance (p : Place) : Place :=
  { p with position := p.position + 1 }

-- An alias is read at its anchor, and reading goes on after the alias.
def follow (read : Reader) : Reader := fun p =>
  match events[p.position]? with
  | some (.alias id) => do
    if events.size * 100 < p.jumps + 1 then none
    let target ← targets.lookup id
    let (v, q) ← read ⟨target, p.jumps + 1⟩
    some (v, ⟨p.position + 1, q.jumps⟩)
  | _ => read p

def itemsWith (read : Reader) : Nat → Place → List Value → Option (List Value × Place)
  | 0, _, _ => none
  | fuel + 1, p, items =>
    if events[p.position]? == some .sequenceEnd then some (items.reverse, advance p)
    else do
      let (v, p) ← read p
      itemsWith read fuel p (v :: items)

-- No key may come twice.
def entriesWith (read : Reader) :
    Nat → Place → List (Value × Value) → Option (List (Value × Value) × Place)
  | 0, _, _ => none
  | fuel + 1, p, entries =>
    if events[p.position]? == some .mappingEnd then some (entries.reverse, advance p)
    else do
      let (k, p) ← read p
      if entries.any (fun e => e.1.same k) then none
      let (v, p) ← read p
      entriesWith read fuel p ((k, v) :: entries)

-- What stands at a place that is no alias, with at most so many levels of collections.
def content : Nat → Reader := fun depth p =>
  let wrap (tag : Option String) (v : Value) : Value :=
    match ownTag? tag with
    | some tag => .tagged tag v
    | none => v
  match events[p.position]?, depth with
  | some (.scalar tag text plain), _ => do
    let v ← match tag with
      | none => untaggedScalar? text plain
      | some t =>
        if (ownTag? tag).isSome then untaggedScalar? text plain else typedScalar? t text
    some (wrap tag v, advance p)
  | some (.sequenceStart tag), depth + 1 => do
    let read := follow events targets (content depth)
    let (items, p) ← itemsWith events read (events.size + 1) (advance p) []
    some (wrap tag (.list items), p)
  | some (.mappingStart tag), depth + 1 => do
    let read := follow events targets (content depth)
    let (entries, p) ← entriesWith events read (events.size + 1) (advance p) []
    some (wrap tag (.map entries), p)
  | _, _ => none

end Document

-- The value of a text; an empty text is null. There is none where the text breaks a rule of the
-- format, has two documents, repeats a key, nests too deep or repeats too much through aliases.
def parse (text : String) : Option Value := do
  let s ← Events.ofTokens? (← Token.scan text)
  if s.events.isEmpty then some .null
  else
    let events := s.events.toArray
    let (v, _) ← Document.follow events s.targets (Document.content events s.targets 128) ⟨0, 0⟩
    some v

end ProposalLint.Yaml
