import ProposalLint.Markdown.Block

namespace ProposalLint.Markdown

inductive Style where
  | emphasis
  | strong
  | strikethrough
deriving DecidableEq, Inhabited

inductive Inline where
  | text (span : Span) (value : String)
  | code (span : Span) (value : String)
  | html (span : Span) (value : String)
  | softBreak (span : Span)
  | hardBreak (span : Span)
  | footnote (span : Span) (label : String)
  | styled (span : Span) (style : Style) (children : List Inline)
  | link (span : Span) (image : Bool) (url title : String) (children : List Inline)
  -- A block among the text of a tight item.
  | nested (events : List Located)
deriving Inhabited

-- An inline, or a run of delimiters that may still become emphasis. `count` of the run's
-- characters are left, from `start` on.
inductive Piece where
  | done (inline : Inline)
  | run (char : Char) (start count length : Nat) (opens closes : Bool)
deriving Inhabited

-- Emphasis

namespace Emphasis

structure Opener where
  char : Char
  -- The run's place among the pieces.
  index : Nat
  count : Nat
  length : Nat
  both : Bool
deriving Inhabited

-- Below these depths of the stack no opener can match any more, by character, length modulo three
-- and whether the closing run can open too.
structure Floors where
  underscore : Array Nat := #[0, 0, 0]
  underscoreOnly : Nat := 0
  asterisk : Array Nat := #[0, 0, 0]
  asteriskOnly : Nat := 0
  tilde : Nat := 0

namespace Floors

def get (f : Floors) (c : Char) (length : Nat) (both : Bool) : Nat :=
  let pick (mod : Array Nat) (only : Nat) :=
    let floor := mod.getD (length % 3) 0
    if both then floor else min floor only
  if c == '_' then pick f.underscore f.underscoreOnly
  else if c == '*' then pick f.asterisk f.asteriskOnly
  else f.tilde

def set (f : Floors) (c : Char) (length : Nat) (both : Bool) (floor : Nat) : Floors :=
  if c == '_' then
    if both then { f with underscore := f.underscore.setIfInBounds (length % 3) floor }
    else { f with underscoreOnly := floor }
  else if c == '*' then
    let f := { f with asterisk := f.asterisk.setIfInBounds (length % 3) floor }
    if both then f else { f with asteriskOnly := floor }
  else { f with tilde := floor }

def cap (f : Floors) (depth : Nat) : Floors where
  underscore := f.underscore.map (min depth)
  underscoreOnly := min depth f.underscoreOnly
  asterisk := f.asterisk.map (min depth)
  asteriskOnly := min depth f.asteriskOnly
  tilde := min depth f.tilde

end Floors

structure State where
  pieces : Array Piece := #[]
  stack : Array Opener := #[]
  floors : Floors := {}

-- Runs of the same character match, unless one of them could both open and close and their lengths
-- add up to a multiple of three that the lengths themselves are not.
def fits (c : Char) (length : Nat) (both : Bool) (o : Opener) : Bool :=
  if c == '~' && length != o.length then false
  else o.char == c &&
    ((!both && !o.both) || (length + o.length) % 3 != 0 || length % 3 == 0)

-- The latest opener that fits, with its depth in the stack.
def findOpener (s : State) (c : Char) (length : Nat) (both : Bool) : Option (Opener × Nat) :=
  let floor := min s.stack.size (s.floors.get c length both)
  (s.stack.toList.zipIdx.drop floor).reverse.find? fun (o, _) => fits c length both o

def plain (w : Window) : Piece → Inline
  | .done inline => inline
  | .run _ start count _ _ _ => .text ⟨start, start + count⟩ (w.slice start (start + count))

-- Wraps the content in as many pairs of delimiters as both runs have, two at a time where there are
-- two, from the inside out. `left` is the end of the opening run, `right` the start of the closing
-- one.
def wrap (c : Char) : Nat → (left right : Nat) → List Inline → List Inline
  | 0, _, _, inner => inner
  | 1, left, right, inner =>
    let style := if c == '~' then Style.strikethrough else Style.emphasis
    [.styled ⟨left - 1, right + 1⟩ style inner]
  | n + 2, left, right, inner =>
    let style := if c == '~' then Style.strikethrough else Style.strong
    wrap c n (left - 2) (right + 2) [.styled ⟨left - 2, right + 2⟩ style inner]

-- Matches a closing run against openers until it is used up or none fits.
def close (w : Window) (c : Char) (length : Nat) (both : Bool) :
    Nat → State → (start count : Nat) → State × Nat × Nat
  | 0, s, start, count => (s, start, count)
  | fuel + 1, s, start, count =>
    if count = 0 then (s, start, count)
    else
      match findOpener s c length both with
      | none => ({ s with floors := s.floors.set c length both s.stack.size }, start, count)
      | some (opener, depth) =>
        let used := min count opener.count
        let inner := (s.pieces.extract (opener.index + 1) s.pieces.size).toList.map (plain w)
        let left := match s.pieces[opener.index]? with
          | some (.run _ i n _ _ _) => i + n
          | _ => 0
        let rest := opener.count - used
        let pieces := s.pieces.extract 0 opener.index
        let pieces :=
          if rest > 0 then
            pieces.push (.run c (left - opener.count) rest opener.length true opener.both)
          else pieces
        let pieces := (wrap c used left start inner).foldl (fun ps i => ps.push (.done i)) pieces
        let stack := s.stack.extract 0 depth
        let floors := s.floors.cap depth
        let stack := if rest > 0 then stack.push { opener with count := rest } else stack
        close w c length both fuel ⟨pieces, stack, floors⟩ (start + used) (count - used)

def add (w : Window) (s : State) (piece : Piece) : State :=
  match piece with
  | .done _ => { s with pieces := s.pieces.push piece }
  | .run c start count length opens closes =>
    let both := opens && closes
    let (s, start, count) :=
      if closes then close w c length both (count + 1) s start count else (s, start, count)
    if count = 0 then s
    else
      let stack :=
        if opens then s.stack.push ⟨c, s.pieces.size, count, length, both⟩ else s.stack
      { s with pieces := s.pieces.push (.run c start count length opens closes), stack }

-- Turns matching runs into emphasis and the others into text.
def resolve (w : Window) (pieces : Array Piece) : List Inline :=
  (pieces.foldl (add w) {}).pieces.toList.map (plain w)

end Emphasis

-- Code spans

-- The text of a code span: line ends become spaces, and one space at either end falls away unless
-- there is nothing else. A line end of two characters becomes two spaces.
def codeText (w : Window) (containers : List Container) (inTable : Bool) (start stop : Nat) :
    String :=
  let raw := go (stop + 1) start start ""
  let cs := raw.toList
  if cs.head? = some ' ' && cs.getLast? = some ' ' && cs.any (· != ' ') then
    String.ofList (cs.drop 1).dropLast
  else raw
where
  go : Nat → Nat → Nat → String → String
  | 0, _, mark, out => out ++ w.slice mark stop
  | fuel + 1, i, mark, out =>
    if i ≥ stop then out ++ w.slice mark stop
    else
      match w.at? i with
      | some '\n' | some '\r' =>
        let next := min stop (skipMarks (w.upTo stop) containers (i + 1))
        go fuel next next (out ++ w.slice mark i ++ " ")
      | some '\\' =>
        if inTable && w.has (i + 1) '|' then
          go fuel (i + 2) (i + 2) (out ++ w.slice mark i ++ "|")
        else go fuel (i + 1) mark out
      | _ => go fuel (i + 1) mark out

-- Links

inductive LinkState where
  | link
  | image
  -- Links hold no links: an opening bracket in front of one is only text.
  | disabled
deriving DecidableEq, Inhabited

structure LinkOpener where
  index : Nat
  span : Span
  state : LinkState
deriving Inhabited

-- What links and footnotes may refer to, and where the text stands.
structure Scope where
  window : Window
  containers : List Container
  inTable : Bool
  definitions : Array Definition
  footnotes : Array String

namespace Scope

def definition? (s : Scope) (label : String) : Option Definition :=
  s.definitions.find? fun d => Text.foldCase d.label == Text.foldCase label

def hasFootnote (s : Scope) (label : String) : Bool :=
  s.footnotes.any fun l => Text.foldCase l == Text.foldCase label

end Scope

-- An absolute link in pointed brackets: the offset behind it and its address.
def autolink? (w : Window) (start : Nat) : Option (Nat × String) :=
  (uri?).orElse fun _ => email?
where
  uri? : Option (Nat × String) :=
    if (w.at? start).any isAlpha then
      let colon := w.skipWhile (fun c => isAlnum c || c == '.' || c == '-' || c == '+') start
      let scheme := colon - start
      if w.has colon ':' && 2 ≤ scheme && scheme ≤ 32 then
        let stop := w.skipWhile (fun c => c.toNat > 0x20 && c != '<' && c != '>') (colon + 1)
        if w.has stop '>' then some (stop + 1, w.slice start stop) else none
      else none
    else none
  email? : Option (Nat × String) :=
    let sign := w.skipWhile (fun c => isAlnum c || ".!#$%&'*+/=?^_\x60\x7b|\x7d~-".toList.contains c) start
    if w.has sign '@' && sign > start then
      match domain (w.stop + 1) (sign + 1) with
      | some stop => if w.has stop '>' then some (stop + 1, w.slice start stop) else none
      | none => none
    else none
  domain : Nat → Nat → Option Nat
  | 0, _ => none
  | fuel + 1, i =>
    let stop := w.skipWhile (fun c => isAlnum c || c == '-') i
    if stop = i || stop - i > 63 || w.has i '-' || w.has (stop - 1) '-' then none
    else if w.has stop '.' then domain fuel (stop + 1)
    else some stop

-- The title of an inline link. Line starts are skipped with the help of the tokens behind.
def linkTitle? (w : Window) (inTable : Bool) (rest : List Token) (start : Nat) :
    Option (Nat × String) :=
  match w.at? start with
  | some opening =>
    match closingQuote? opening with
    | some closing => go opening closing (w.stop + 1) (start + 1) (start + 1) ""
    | none => none
  | none => none
where
  go (opening closing : Char) : Nat → Nat → Nat → String → Option (Nat × String)
  | 0, _, _, _ => none
  | fuel + 1, i, mark, out =>
    match w.at? i with
    | none => none
    | some c =>
      if c == closing then some (i + 1, out ++ w.slice mark i)
      else if c == opening then none
      else
        let jump? :=
          if c == '\n' || c == '\r' then
            match rest.dropWhile (fun t => t.span.stop ≤ i + 1) with
            | t :: _ => if t.span.start > i then some t.span.start else none
            | [] => none
          else none
        match jump? with
        | some j => go opening closing fuel j j (out ++ w.slice mark i ++ "\n")
        | none =>
          match if c == '&' then Scan.entity? w i else none with
          | some (j, value) => go opening closing fuel j j (out ++ w.slice mark i ++ value)
          | none =>
            -- In a table the pipe takes the place of two backslashes in front of it, and it escapes
            -- what they would.
            if inTable && c == '\\' && w.hasAll (i + 1) ['\\', '|'] then
              if (w.at? (i + 3)).any Text.isAsciiPunctuation then
                go opening closing fuel (i + 4) (i + 3) (out ++ w.slice mark i)
              else go opening closing fuel (i + 3) (i + 2) (out ++ w.slice mark i)
            else if c == '\\' && (w.at? (i + 1)).any Text.isAsciiPunctuation then
              go opening closing fuel (i + 2) (i + 1) (out ++ w.slice mark i)
            else go opening closing fuel (i + 1) mark out

structure Target where
  next : Nat
  url : String
  title : String

-- The deepest parentheses in a destination that may hold others.
def maxNestedParens : Nat := 5

-- The parenthesised part of an inline link.
def inlineTarget? (s : Scope) (rest : List Token) (start : Nat) : Option Target := do
  let w := s.window
  if !w.has start '(' then none
  let separator (i : Nat) : Nat :=
    let i := Scan.blanks w i
    let i := match Scan.eol? w i with
      | some j => skipMarks w s.containers j
      | none => i
    Scan.blanks w i
  let (i, url) ← destination? w maxNestedParens (separator (start + 1))
  let i := separator i
  let (i, title) := match linkTitle? w s.inTable rest i with
    | some (j, title) => (separator j, title)
    | none => (i, "")
  if w.has i ')' then return ⟨i + 1, unescape s.inTable url, title⟩ else none

inductive Reference where
  | link (label : Label)
  | footnote (label : Label)

-- The label whose opening bracket stands at `start`.
def reference? (s : Scope) (w : Window) (start : Nat) : Option Reference :=
  if !w.has start '[' || start + 2 > w.stop then none
  else
    let footnote? :=
      if w.has (start + 1) '^' && !w.has (start + 2) ']' then
        labelFrom? w s.inTable (fun _ => none) (start + 2)
      else none
    match footnote? with
    | some label => some (.footnote label)
    | none =>
      (labelFrom? w s.inTable (fun j => some (skipMarks w s.containers j)) (start + 1)).map .link

-- The tokens behind `i`; one that `i` cuts keeps its end.
def skipTokens (rest : List Token) (i : Nat) : List Token :=
  match rest.dropWhile (fun t => t.span.stop ≤ i) with
  | t :: ts => { t with span.start := max t.span.start i } :: ts
  | [] => []

theorem length_skipTokens_le (rest : List Token) (i : Nat) :
    (skipTokens rest i).length ≤ rest.length := by
  have h := (List.dropWhile_sublist (fun t : Token => t.span.stop ≤ i) (l := rest)).length_le
  unfold skipTokens
  split <;> simp_all

-- A block whose start was cut off by what is in front of it has a smaller range.
def relocate (span : Span) : List Located → List Located
  | [] => []
  | [(e, _)] => [(e, span)]
  | (e, _) :: rest =>
    (e, span) :: (rest.dropLast ++ (rest.getLast?.map fun (e, _) => (e, span)).toList)

structure Links where
  pieces : Array Piece := #[]
  -- Opening brackets that no closing one was found for yet, the latest first.
  openers : List LinkOpener := []

namespace Links

def push (l : Links) (inline : Inline) : Links :=
  { l with pieces := l.pieces.push (.done inline) }

def pushText (l : Links) (w : Window) (span : Span) : Links :=
  l.push (.text span (w.slice span.start span.stop))

def pushOpener (l : Links) (w : Window) (span : Span) (state : LinkState) : Links :=
  { l.pushText w span with openers := ⟨l.pieces.size, span, state⟩ :: l.openers }

-- Makes a link of everything behind its opening bracket.
def closeLink (l : Links) (w : Window) (opener : LinkOpener) (stop : Nat) (url title : String) :
    Links :=
  let inner := Emphasis.resolve w (l.pieces.extract (opener.index + 1) l.pieces.size)
  let image := opener.state = .image
  let link := Inline.link ⟨opener.span.start, stop⟩ image url title inner
  let disable (o : LinkOpener) :=
    if o.state = .link then { o with state := LinkState.disabled } else o
  { pieces := (l.pieces.extract 0 opener.index).push (.done link)
    openers := if image then l.openers else l.openers.map disable }

-- Makes a footnote reference of everything behind its opening bracket. Behind an exclamation mark
-- only the closing bracket counts as its place.
def closeFootnote (l : Links) (opener : LinkOpener) (span : Span) (label : String) : Links :=
  let pieces := l.pieces.extract 0 opener.index
  let pieces :=
    if opener.state = .image then
      (pieces.push (.done (.text opener.span "!"))).push (.done (.footnote span label))
    else pieces.push (.done (.footnote ⟨opener.span.start, span.stop⟩ label))
  ⟨pieces, []⟩

end Links

-- Marks the bracket that ends at `stop` as tried.
def markTried (stop : Nat) : List Token → List Token
  | [] => []
  | t :: ts =>
    if t.span.stop < stop then t :: markTried stop ts
    else { t with mark := .linkClose true } :: ts

theorem length_markTried (stop : Nat) (ts : List Token) : (markTried stop ts).length = ts.length := by
  induction ts with
  | nil => rfl
  | cons t ts ih => unfold markTried; split <;> simp [ih]

-- Where the tokens behind a closing bracket go on.
inductive Onward where
  | here
  | past (i : Nat)
  -- Behind an empty pair of brackets.
  | pastPair
  -- Behind the bracket that ends at `stop`.
  | pastLabel (stop : Nat)
  -- Here, with the bracket that ends at `stop` tried as a reference.
  | tried (stop : Nat)

namespace Onward

def apply (rest : List Token) : Onward → List Token
  | here => rest
  | past i => skipTokens rest i
  | pastPair => rest.drop 2
  | pastLabel stop => (rest.dropWhile fun t => t.span.stop < stop).drop 1
  | tried stop => markTried stop rest

theorem length_apply_le (rest : List Token) (o : Onward) : (o.apply rest).length ≤ rest.length := by
  cases o with
  | here => exact Nat.le_refl _
  | past i => exact length_skipTokens_le rest i
  | pastPair => simp [apply]
  | pastLabel stop =>
    have h := (List.dropWhile_sublist (fun t : Token => decide (t.span.stop < stop)) (l := rest)).length_le
    simp only [apply, List.length_drop]
    omega
  | tried stop => exact Nat.le_of_eq (length_markTried stop rest)

end Onward

-- A bracket that another label follows.
def closeFull (s : Scope) (l : Links) (opener : LinkOpener) (label : Label) (span : Span)
    (rest : List Token) : Links × Onward :=
  let w := s.window
  if rest.all (fun t => t.span.stop < label.next) then (l.pushText w span, .here)
  else
    match s.definition? label.text with
    | some d => (l.closeLink w opener label.next d.url (d.title.getD ""), .pastLabel label.next)
    | none => (l.pushText w span, .tried label.next)

-- A bracket whose own text is the label.
def closeShort (s : Scope) (l : Links) (opener : LinkOpener) (span : Span) (behind : Onward) :
    Links × Onward :=
  let w := s.window
  let asText := (l.pushText w span, Onward.here)
  match reference? s (w.upTo span.stop) (opener.span.stop - 1) with
  | some (.footnote label) =>
    if label.next = span.stop && s.hasFootnote label.text then
      (l.closeFootnote opener span label.text, .here)
    else asText
  | some (.link label) =>
    if label.next = span.stop then
      match s.definition? label.text with
      | some d => (l.closeLink w opener label.next d.url (d.title.getD ""), behind)
      | none => asText
    else asText
  | none => asText

-- A closing bracket: an inline link, a reference to a definition or a footnote, or only text.
def closeBracket (s : Scope) (l : Links) (span : Span) (tried : Bool) (rest : List Token) :
    Links × Onward :=
  let w := s.window
  match l.openers with
  | [] => (l.pushText w span, .here)
  | opener :: openers =>
    let l := { l with openers }
    if opener.state = .disabled then (l.pushText w span, .here)
    else
      match inlineTarget? s rest span.stop with
      | some target =>
        (l.closeLink w opener target.next target.url target.title, .past target.next)
      | none =>
        let follow := match rest with
          | t :: _ => t.span.start
          | [] => w.stop
        if w.hasAll follow ['[', ']'] then
          if tried then (l.pushText w span, .here) else closeShort s l opener span .pastPair
        else
          match reference? s w follow with
          | some (.link label) => closeFull s l opener label span rest
          -- In front of a footnote the brackets are text.
          | some (.footnote _) => (l.pushText w span, .here)
          | none =>
            if tried then (l.pushText w span, .here) else closeShort s l opener span .here

-- Finds the run of ticks that closes a code span.
def closingTicks? (count : Nat) : List Token → Option (Token × List Token)
  | [] => none
  | t :: ts =>
    match t.mark with
    | .ticks _ => if t.width = count then some (t, ts) else closingTicks? count ts
    | _ => closingTicks? count ts

theorem closingTicks?_length_lt {count : Nat} {ts rest : List Token} {t : Token}
    (h : closingTicks? count ts = some (t, rest)) : rest.length < ts.length := by
  induction ts with
  | nil => simp [closingTicks?] at h
  | cons u us ih =>
    unfold closingTicks? at h
    split at h
    · split at h
      · simp only [Option.some.injEq, Prod.mk.injEq] at h
        simp [h.2]
      · have := ih h; simp only [List.length_cons]; omega
    · have := ih h; simp only [List.length_cons]; omega

-- Settles code, HTML and links, which bind tighter than emphasis.
def links (s : Scope) (l : Links) (tokens : List Token) : Links :=
  let w := s.window
  match tokens with
  | [] => l
  | t :: rest =>
    let asText := l.pushText w t.span
    match t.mark with
    | .text => links s asText rest
    | .value text => links s (l.push (.text t.span text)) rest
    | .softBreak => links s (l.push (.softBreak t.span)) rest
    | .hardBreak => links s (l.push (.hardBreak t.span)) rest
    | .nested events => links s (l.push (.nested (relocate t.span events))) rest
    | .delimiter c opens closes =>
      let run := Piece.run c t.span.start t.width t.width opens closes
      links s { l with pieces := l.pieces.push run } rest
    | .angle =>
      let skip := skipMarks w s.containers
      let found? := match rest with
        | [] => none
        | u :: _ =>
          match autolink? w u.span.start with
          | some (next, url) =>
            let text := Inline.text ⟨t.span.start + 1, next - 1⟩ url
            some (next, Inline.link ⟨t.span.start, next⟩ false url "" [text])
          | none =>
            (Html.inline? w skip u.span.start).map fun (next, text) =>
              (next, Inline.html ⟨t.span.start, next⟩ (text.getD (w.slice t.span.start next)))
      match found? with
      | some (next, inline) => links s (l.push inline) (skipTokens rest next)
      | none => links s asText rest
    | .ticks escaped =>
      let count := if escaped then t.width - 1 else t.width
      match h : if count = 0 then none else closingTicks? count rest with
      | some (close, behind) =>
        let text := codeText w s.containers s.inTable t.span.stop close.span.start
        let start := if escaped then t.span.start + 1 else t.span.start
        let l := if escaped then l.pushText w ⟨t.span.start, start⟩ else l
        links s (l.push (.code ⟨start, close.span.stop⟩ text)) behind
      | none => links s asText rest
    | .linkOpen => links s (l.pushOpener w t.span .link) rest
    | .imageOpen => links s (l.pushOpener w t.span .image) rest
    | .linkClose tried =>
      let (l, onward) := closeBracket s l t.span tried rest
      links s l (onward.apply rest)
termination_by tokens.length
decreasing_by
  all_goals simp only [List.length_cons]
  all_goals try omega
  · have := length_skipTokens_le rest next; omega
  · split at h
    · simp at h
    · have := closingTicks?_length_lt h; omega
  · have := Onward.length_apply_le rest onward; omega

-- The inlines that the tokens of a block stand for. Emphasis is matched among what the links leave.
def inlines (s : Scope) (tokens : Array Token) : List Inline :=
  Emphasis.resolve s.window (links s {} tokens.toList).pieces

end ProposalLint.Markdown
