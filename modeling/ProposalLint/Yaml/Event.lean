import ProposalLint.Yaml.Token

namespace ProposalLint.Yaml

inductive Event where
  | alias (id : Nat)
  | scalar (tag : Option String) (text : String) (plain : Bool)
  | sequenceStart (tag : Option String)
  | sequenceEnd
  | mappingStart (tag : Option String)
  | mappingEnd
deriving DecidableEq, Inhabited, Repr

structure Events where
  tokens : List Token
  -- The latest event comes first.
  events : List Event := []
  prefixes : List (String × String) := []
  anchors : List (String × Nat) := []
  targets : List (Nat × Nat) := []

namespace Events

def next? (s : Events) : Option Token :=
  s.tokens.head?

def drop (s : Events) : Events :=
  { s with tokens := s.tokens.tail }

def emit (s : Events) (e : Event) : Events :=
  { s with events := e :: s.events }

-- An empty node.
def empty (s : Events) : Events :=
  s.emit (.scalar none "" true)

-- A new anchor takes the number of anchors known so far. An alias refers to a number, which stands
-- for the latest event it was given to.
def bind (s : Events) : Option String → Events
  | none => s
  | some name =>
    let id := s.anchors.length
    { s with
      anchors := (name, id) :: s.anchors.filter (·.1 != name)
      targets := (id, s.events.length) :: s.targets }

def is (s : Events) (t : Token) : Bool :=
  s.next? == some t

def isOneOf (s : Events) (ts : List Token) : Bool :=
  ts.any s.is

structure Properties where
  anchor : Option String := none
  tag : Option (String × String) := none

-- An anchor and a tag, in any order.
def properties (s : Events) : Events × Properties :=
  match s.tokens with
  | .anchor a :: .tag h x :: ts => ({ s with tokens := ts }, ⟨some a, some (h, x)⟩)
  | .tag h x :: .anchor a :: ts => ({ s with tokens := ts }, ⟨some a, some (h, x)⟩)
  | .anchor a :: ts => ({ s with tokens := ts }, ⟨some a, none⟩)
  | .tag h x :: ts => ({ s with tokens := ts }, ⟨none, some (h, x)⟩)
  | _ => (s, {})

def resolveTag (s : Events) : Option (String × String) → Option (Option String)
  | none => some none
  | some ("", suffix) => some (some suffix)
  | some (handle, suffix) => (s.prefixes.lookup handle).map fun start => some (start ++ suffix)

mutual

-- A node. Block collections may not stand inside flow collections; an entry mark without
-- indentation starts a sequence where a mapping has its keys and values.
def node : Nat → Events → ( inBlock : Bool) → (indentless : Bool) → Option Events
  | 0, _, _, _ => none
  | fuel + 1, s, inBlock, indentless =>
    match s.next? with
    | some (.alias name) => do
      let id ← s.anchors.lookup name
      some (s.drop.emit (.alias id))
    | _ => do
      let (s, p) := s.properties
      let tag ← s.resolveTag p.tag
      let b := s.bind p.anchor
      match s.next? with
      | some .blockEntry =>
        if indentless then indentlessEntries fuel (b.emit (.sequenceStart tag))
        else bare b p tag
      | some (.scalar text plain) => some (b.drop.emit (.scalar tag text plain))
      | some .flowSequenceStart => flowEntries fuel (b.drop.emit (.sequenceStart tag)) true
      | some .flowMappingStart => flowPairs fuel (b.drop.emit (.mappingStart tag)) true
      | some .blockSequenceStart =>
        if inBlock then blockEntries fuel (b.drop.emit (.sequenceStart tag)) else bare b p tag
      | some .blockMappingStart =>
        if inBlock then blockPairs fuel (b.drop.emit (.mappingStart tag)) else bare b p tag
      | _ => bare b p tag

-- Properties may stand without a node.
def bare (b : Events) (p : Properties) (tag : Option String) : Option Events :=
  if p.anchor.isSome || p.tag.isSome then some (b.emit (.scalar tag "" true)) else none

def blockEntries : Nat → Events → Option Events
  | 0, _ => none
  | fuel + 1, s =>
    match s.next? with
    | some .blockEntry => do
      let s := s.drop
      let s ← if s.isOneOf [.blockEntry, .blockEnd] then some s.empty else node fuel s true false
      blockEntries fuel s
    | some .blockEnd => some (s.drop.emit .sequenceEnd)
    | _ => none

def indentlessEntries : Nat → Events → Option Events
  | 0, _ => none
  | fuel + 1, s =>
    match s.next? with
    | some .blockEntry => do
      let s := s.drop
      let s ← if s.isOneOf [.blockEntry, .key, .value, .blockEnd] then some s.empty
        else node fuel s true false
      indentlessEntries fuel s
    | _ => some (s.emit .sequenceEnd)

def blockPairs : Nat → Events → Option Events
  | 0, _ => none
  | fuel + 1, s =>
    match s.next? with
    | some .key => do
      let s := s.drop
      let s ← blockPart fuel s
      let s ← if s.is .value then blockPart fuel s.drop else some s.empty
      blockPairs fuel s
    | some .blockEnd => some (s.drop.emit .mappingEnd)
    | _ => none

-- A key or a value of a block mapping.
def blockPart : Nat → Events → Option Events
  | 0, _ => none
  | fuel + 1, s =>
    if s.isOneOf [.key, .value, .blockEnd] then some s.empty else node fuel s true true

def flowEntries : Nat → Events → (first : Bool) → Option Events
  | 0, _, _ => none
  | fuel + 1, s, first =>
    if s.is .flowSequenceEnd then some (s.drop.emit .sequenceEnd)
    else if !first && !s.is .flowEntry then none
    else
      let s := if first then s else s.drop
      if s.is .key then do
        let s := s.drop.emit (.mappingStart none)
        -- An empty key takes the token that shows it along.
        let s ← if s.isOneOf [.value, .flowEntry, .flowSequenceEnd] then some s.drop.empty
          else node fuel s false false
        let s ← flowValue fuel s .flowSequenceEnd
        flowEntries fuel (s.emit .mappingEnd) false
      else if s.is .flowSequenceEnd then some (s.drop.emit .sequenceEnd)
      else do flowEntries fuel (← node fuel s false false) false

def flowPairs : Nat → Events → (first : Bool) → Option Events
  | 0, _, _ => none
  | fuel + 1, s, first =>
    if s.is .flowMappingEnd then some (s.drop.emit .mappingEnd)
    else if !first && !s.is .flowEntry then none
    else
      let s := if first then s else s.drop
      if s.is .key then do
        let s := s.drop
        let s ← if s.isOneOf [.value, .flowEntry, .flowMappingEnd] then some s.empty
          else node fuel s false false
        flowPairs fuel (← flowValue fuel s .flowMappingEnd) false
      else if s.is .flowMappingEnd then some (s.drop.emit .mappingEnd)
      else do flowPairs fuel (← node fuel s false false).empty false

-- The value of a pair in a flow collection that ends with `close`.
def flowValue : Nat → Events → (close : Token) → Option Events
  | 0, _, _ => none
  | fuel + 1, s, close =>
    if s.is .value then
      let s := s.drop
      if s.isOneOf [.flowEntry, close] then some s.empty else node fuel s false false
    else some s.empty

end

-- Directives before a document: one version at most, and no tag handle twice.
def directives : List Token → (version : Bool) → List (String × String) →
    Option (List Token × List (String × String))
  | .version major minor :: ts, version, ps =>
    if version || major != 1 || (minor != 1 && minor != 2) then none
    else directives ts true ps
  | .tagPrefix handle start :: ts, version, ps =>
    if (ps.lookup handle).isSome then none else directives ts version ((handle, start) :: ps)
  | ts, _, ps => some (ts, ps ++ [("!", "!"), ("!!", "tag:yaml.org,2002:")])

-- Where the one document starts, and whether it may be empty.
def opening (tokens : List Token) : Option (Events × Bool) := do
  let (rest, prefixes) ← directives tokens false []
  match tokens, rest with
  | .version .. :: _, .documentStart :: ts
  | .tagPrefix .. :: _, .documentStart :: ts
  | .documentStart :: _, _ :: ts => some ({ tokens := ts, prefixes := prefixes }, true)
  | .version .. :: _, _ | .tagPrefix .. :: _, _ => none
  | _, ts => some ({ tokens := ts, prefixes := prefixes }, false)

-- The events of a text with one document, or none if it has none.
def ofTokens? (tokens : List Token) : Option Events :=
  if tokens.isEmpty then some { tokens := [] }
  else do
    let (s, mayBeEmpty) ← opening tokens
    let isMark : Token → Bool
      | .version .. | .tagPrefix .. | .documentStart | .documentEnd => true
      | _ => false
    let s ← if mayBeEmpty && (s.next?.all isMark) then some s.empty
      else node (4 * tokens.length + 4) s true false
    if s.tokens.all (· == .documentEnd) then some { s with events := s.events.reverse } else none

end Events
end ProposalLint.Yaml
