import ProposalLint.Toml.Scan

namespace ProposalLint.Toml

-- What stands under a key while a file is read. An implicit table was made for the sake of one
-- inside it, a dotted one by a key with points.
inductive Item where
  | value (value : Value)
  | table (implicit dotted : Bool) (entries : List (String × Item))
  | tables (tables : List (List (String × Item)))
deriving Inhabited

-- A table may be defined once; dotted keys and headers may not define the same one.
structure Table where
  implicit : Bool := false
  dotted : Bool := false
  entries : List (String × Item) := []
deriving Inhabited

namespace Item

mutual

def toValue : Item → Value
  | value v => v
  | table _ _ entries => .table (entriesValues entries)
  | tables ts => .array (tablesValues ts)

def entriesValues : List (String × Item) → List (String × Value)
  | [] => []
  | (key, item) :: es => (key, toValue item) :: entriesValues es

def tablesValues : List (List (String × Item)) → List Value
  | [] => []
  | t :: ts => .table (entriesValues t) :: tablesValues ts

end

end Item

namespace Table

def item (t : Table) : Item :=
  .table t.implicit t.dotted t.entries

def put (t : Table) (key : String) (i : Item) : Table :=
  if (t.entries.lookup key).isSome then
    { t with entries := t.entries.map fun (k, old) => if k == key then (k, i) else (k, old) }
  else { t with entries := t.entries ++ [(key, i)] }

-- Changes the table that a path leads to. Missing tables on the way are made; of several tables
-- under one key the last counts.
def descend (dotted : Bool) (change : Table → Option Table) : List String → Table → Option Table
  | [], t => change t
  | key :: path, t =>
    match t.entries.lookup key with
    | none => do some (t.put key (← descend dotted change path ⟨true, dotted, []⟩).item)
    | some (.value _) => none
    | some (.table implicit isDotted entries) =>
      if dotted && !implicit then none
      else do some (t.put key (← descend dotted change path ⟨implicit, isDotted, entries⟩).item)
    | some (.tables ts) =>
      match ts.getLast? with
      | none => none
      | some last => do
        let last ← descend dotted change path ⟨false, false, last⟩
        some (t.put key (.tables (ts.dropLast ++ [last.entries])))

-- Adds a value under a dotted key.
def insert (path : List String) (v : Value) (t : Table) : Option Table := do
  let key ← path.getLast?
  let add (target : Table) : Option Table :=
    if target.dotted == path.dropLast.isEmpty || (target.entries.lookup key).isSome then none
    else some (target.put key (.value v))
  t.descend true add path.dropLast

-- Opens a table by its header.
def define (path : List String) (t : Table) : Option Table := do
  let key ← path.getLast?
  let add (parent : Table) : Option Table :=
    match parent.entries.lookup key with
    | none => some (parent.put key (.table false false []))
    | some (.table true false entries) => some (parent.put key (.table false false entries))
    | some _ => none
  t.descend false add path.dropLast

-- Opens one more table of a list by its header.
def append (path : List String) (t : Table) : Option Table := do
  let key ← path.getLast?
  let add (parent : Table) : Option Table :=
    match parent.entries.lookup key with
    | none => some (parent.put key (.tables [[]]))
    | some (.tables ts) => some (parent.put key (.tables (ts ++ [[]])))
    | some _ => none
  t.descend false add path.dropLast

end Table

mutual

-- A value, nested less than eighty levels deep.
def value? : Nat → (depth : Nat) → Chars → Option (Value × Chars)
  | 0, _, _ => none
  | fuel + 1, depth, cs =>
    match cs with
    | '"' :: _ | '\'' :: _ => (text? cs).map fun (s, rest) => (.string s, rest)
    | '[' :: rest => if depth < 79 then items? fuel (depth + 1) (skipGap rest) [] else none
    | '\x7b' :: rest =>
      if 79 ≤ depth then none
      else
        match skipBlanks rest with
        | '\x7d' :: rest => some (.table [], rest)
        | rest => pairs? fuel (depth + 1) rest {}
    | _ => word? cs

-- The items of an array; a comma may follow the last one.
def items? : Nat → (depth : Nat) → Chars → List Value → Option (Value × Chars)
  | 0, _, _, _ => none
  | fuel + 1, depth, cs, items =>
    match cs with
    | ']' :: rest => some (.array items.reverse, rest)
    | _ => do
      let (v, rest) ← value? fuel depth cs
      match skipGap rest with
      | ',' :: rest => items? fuel depth (skipGap rest) (v :: items)
      | ']' :: rest => some (.array (v :: items).reverse, rest)
      | _ => none

-- The pairs of a table on one line.
def pairs? : Nat → (depth : Nat) → Chars → Table → Option (Value × Chars)
  | 0, _, _, _ => none
  | fuel + 1, depth, cs, t => do
    let (key, rest) ← key? cs
    let '=' :: rest := rest | none
    let (v, rest) ← value? fuel depth (skipBlanks rest)
    let t ← t.insert key v
    match skipBlanks rest with
    | ',' :: rest => pairs? fuel depth (skipBlanks rest) t
    | '\x7d' :: rest => some (t.item.toValue, rest)
    | _ => none

end

-- The file so far, and the table that lines add to.
structure Reading where
  root : Table := {}
  current : List String := []

namespace Reading

def header? (cs : Chars) (close : Chars) : Option (List String × Chars) := do
  let (key, rest) ← key? cs
  if rest.take close.length == close then endOfLine? (rest.drop close.length) |>.map (key, ·)
  else none

def pair? (r : Reading) (cs : Chars) : Option (Reading × Chars) := do
  let (key, rest) ← key? cs
  let '=' :: rest := rest | none
  let (v, rest) ← value? (2 * rest.length + 2) 0 (skipBlanks rest)
  let rest ← endOfLine? rest
  let root ← r.root.descend false (·.insert key v) r.current
  some ({ r with root := root }, rest)

-- One line, which starts with something that is no blank.
def line? (r : Reading) (cs : Chars) : Option (Reading × Chars) :=
  match cs with
  | '[' :: '[' :: rest => do
    let (key, rest) ← header? rest [']', ']']
    some (⟨← r.root.append key, key⟩, rest)
  | '[' :: rest => do
    let (key, rest) ← header? rest [']']
    some (⟨← r.root.define key, key⟩, rest)
  | _ => r.pair? cs

def lines? : Nat → Reading → Chars → Option Reading
  | 0, _, _ => none
  | fuel + 1, r, cs =>
    match skipGap cs with
    | [] => some r
    | rest => do
      let (r, rest) ← r.line? rest
      lines? fuel r rest

end Reading

-- The table that a file describes, unless it breaks a rule.
def parse (text : String) : Option (List (String × Value)) := do
  let cs := match text.toList with
    | '\ufeff' :: cs => cs
    | cs => cs
  let r ← Reading.lines? (cs.length + 1) {} cs
  some (Item.entriesValues r.root.entries)

end ProposalLint.Toml
