import ProposalLint.Discovery.Glob
import ProposalLint.Text.Whitespace

namespace ProposalLint

-- Stars and question marks never stand for a slash, and patterns are compared byte by byte.
inductive PathToken where
  | byte (b : UInt8)
  | anyByte
  | anyName
  | leadingComponents
  | innerComponents
  | lastComponents
  | set (negated : Bool) (ranges : List (UInt8 × UInt8))
deriving DecidableEq, Inhabited, Repr

namespace PathToken

def slash : UInt8 := 47

def bytesOf (c : Char) : List UInt8 :=
  (String.singleton c).toUTF8.toList

-- What follows each slash.
def afterSlashes : List UInt8 → List (List UInt8)
  | [] => []
  | b :: bs => if b = slash then bs :: afterSlashes bs else afterSlashes bs

-- What is left when bytes up to the next slash are dropped, one by one.
def nameSuffixes : List UInt8 → List (List UInt8)
  | [] => [[]]
  | b :: bs => if b = slash then [b :: bs] else (b :: bs) :: nameSuffixes bs

def inRanges (b : UInt8) (rs : List (UInt8 × UInt8)) : Bool :=
  rs.any fun (lo, hi) => lo ≤ b && b ≤ hi

-- Whether tokens stand for a path.
def covers : List PathToken → List UInt8 → Bool
  | [], bs => bs.isEmpty
  | anyName :: ts, bs => (nameSuffixes bs).any fun rest => covers ts rest
  | leadingComponents :: ts, bs =>
    covers ts bs || (afterSlashes bs).any fun rest => covers ts rest
  | _ :: _, [] => false
  | byte a :: ts, b :: bs => a == b && covers ts bs
  | anyByte :: ts, b :: bs => b != slash && covers ts bs
  | innerComponents :: ts, b :: bs =>
    b == slash && (covers ts bs || (afterSlashes bs).any fun rest => covers ts rest)
  | lastComponents :: ts, b :: bs =>
    b == slash && (Glob.suffixes bs).any fun rest => covers ts rest
  | set negated rs :: ts, b :: bs => (negated != inRanges b rs) && covers ts bs

end PathToken

-- Choices between braces that are being read. `done` are the branches that are complete, `current`
-- the forms of the branch that is being read, each with its latest token first.
structure Branches where
  done : List (List PathToken) := []
  current : List (List PathToken) := [[]]
deriving DecidableEq, Inhabited, Repr

namespace Branches

def isEmpty (b : Branches) : Bool :=
  b.current.all List.isEmpty

def push (b : Branches) (t : PathToken) : Branches :=
  { b with current := b.current.map (t :: ·) }

def pushAll (b : Branches) (ts : List PathToken) : Branches :=
  ts.foldl push b

def pop (b : Branches) : Branches :=
  { b with current := b.current.map List.tail }

def last? (b : Branches) : Option PathToken :=
  b.current.head?.bind List.head?

-- An empty branch is no choice.
def close (b : Branches) : List (List PathToken) :=
  b.done ++ b.current.filter (!·.isEmpty)

-- Appends one of several forms.
def choose (b : Branches) (forms : List (List PathToken)) : Branches :=
  if forms.isEmpty then b
  else { b with current := b.current.flatMap fun c => forms.map (· ++ c) }

end Branches

namespace IgnorePattern

def byteRanges (lo hi : Char) : List (UInt8 × UInt8) :=
  let single (b : UInt8) := (b, b)
  if lo = hi then (PathToken.bytesOf lo).map single
  else
    let low := PathToken.bytesOf lo
    let high := PathToken.bytesOf hi
    low.dropLast.map single ++ [(low.getLastD 0, high.headD 0)] ++ high.tail.map single

-- The ranges between brackets. A dash between two characters makes a range of them; `ranges` has
-- the latest one first.
def setRanges (ranges : List (Char × Char)) (inRange : Bool) : List Char → Option (List (Char × Char))
  | [] => some (if inRange then ('-', '-') :: ranges else ranges).reverse
  | c :: cs =>
    match ranges, inRange with
    | (lo, _) :: before, true => if c < lo then none else setRanges ((lo, c) :: before) false cs
    | _ :: _, false =>
      if c = '-' then setRanges ranges true cs else setRanges ((c, c) :: ranges) false cs
    | [], _ => setRanges [(c, c)] false cs

inductive SetReading where
  | unclosed
  | invalid
  | set (t : PathToken) (rest : List Char)

def setBody (negated : Bool) : List Char → SetReading
  | [] => .unclosed
  | c :: cs =>
    match Glob.upToBracket cs with
    | none => if (setRanges [] false (c :: cs)).isSome then .unclosed else .invalid
    | some (body, rest) =>
      match setRanges [] false (c :: body) with
      | none => .invalid
      | some ranges => .set (.set negated (ranges.flatMap fun (lo, hi) => byteRanges lo hi)) rest

theorem length_lt_of_setBody {negated : Bool} {cs rest : List Char} {t : PathToken}
    (h : setBody negated cs = .set t rest) : rest.length < cs.length := by
  unfold setBody at h
  split at h
  · cases h
  · split at h
    · split at h <;> cases h
    · next found =>
      have := Glob.length_lt_of_upToBracket found
      split at h
      · cases h
      · cases h
        simp
        omega

-- A set of characters behind an opening bracket.
def readSet : List Char → SetReading
  | '!' :: cs => setBody true cs
  | '^' :: cs => setBody true cs
  | cs => setBody false cs

theorem length_lt_of_readSet {cs rest : List Char} {t : PathToken}
    (h : readSet cs = .set t rest) : rest.length < cs.length := by
  unfold readSet at h
  split at h
  · exact Nat.lt_succ_of_lt (length_lt_of_setBody h)
  · exact Nat.lt_succ_of_lt (length_lt_of_setBody h)
  · exact length_lt_of_setBody h

-- Two stars, given what stands in front of them and behind. The rest begins behind the slash that
-- belongs to them.
def stars (last : Option Char) (outer : List Branches) (b : Branches) (cs : List Char) :
    Branches × Bool :=
  let apart := b.pushAll [.anyName, .anyName]
  if b.isEmpty then
    match cs with
    | [] => (b.push .leadingComponents, false)
    | c :: _ => if c = '/' then (b.push .leadingComponents, true) else (apart, false)
  else if last != some '/' && (outer.isEmpty || (last != some ',' && last != some '\x7b')) then
    (apart, false)
  else
    let ends := match cs with
      | [] => some true
      | c :: _ =>
        if (c = ',' || c = '\x7d') && !outer.isEmpty then some true
        else if c = '/' then some false
        else none
    match ends with
    | none => (apart, false)
    | some atEnd =>
      let token := match b.last? with
        | some .leadingComponents => .leadingComponents
        | some .lastComponents => .lastComponents
        | _ => if atEnd then .lastComponents else .innerComponents
      (b.pop.push token, !atEnd)

-- Reads a pattern into its forms; `outer` are the choices around the one being read.
def formsFrom (last : Option Char) (outer : List Branches) (b : Branches) (isOpen : Bool) :
    List Char → Option (List (List PathToken))
  | [] => if outer.isEmpty then some (b.current.map List.reverse) else none
  | '?' :: cs => formsFrom (some '?') outer (b.push .anyByte) isOpen cs
  | '*' :: '*' :: cs =>
    match stars last outer b cs, cs with
    | (b, true), _ :: cs => formsFrom (some '/') outer b isOpen cs
    | (b, _), cs => formsFrom (some '*') outer b isOpen cs
  | '*' :: cs => formsFrom (some '*') outer (b.push .anyName) isOpen cs
  | '[' :: cs =>
    if isOpen then formsFrom (some '[') outer (b.pushAll ((PathToken.bytesOf '[').map .byte)) true cs
    else match h : readSet cs with
      | .unclosed => formsFrom (some '[') outer (b.pushAll ((PathToken.bytesOf '[').map .byte)) true cs
      | .invalid => none
      | .set t rest =>
        have := length_lt_of_readSet h
        formsFrom (some ']') outer (b.push t) isOpen rest
  | '\\' :: c :: cs => formsFrom (some c) outer (b.pushAll ((PathToken.bytesOf c).map .byte)) isOpen cs
  | '\\' :: [] => none
  | c :: cs =>
    if c = '\x7b' then formsFrom (some c) (b :: outer) {} isOpen cs
    else if c = '\x7d' then
      match outer with
      | [] => none
      | o :: outer => formsFrom (some c) outer (o.choose b.close) isOpen cs
    else if c = ',' && !outer.isEmpty then
      formsFrom (some c) outer { done := b.close } isOpen cs
    else
      formsFrom (some c) outer (b.pushAll ((PathToken.bytesOf c).map .byte)) isOpen cs
termination_by cs => cs.length
decreasing_by
  all_goals simp only [List.length_cons]
  all_goals omega

def forms? (text : List Char) : Option (List (List PathToken)) :=
  formsFrom none [] {} false text

end IgnorePattern

-- `keeps` marks a line that takes paths back in.
structure IgnoreRule where
  keeps : Bool
  directoriesOnly : Bool
  forms : List (List PathToken)
deriving DecidableEq, Inhabited, Repr

namespace IgnoreRule

-- Blanks at the end do not count, unless the last one is escaped.
def trimLine (cs : List Char) : List Char :=
  match cs.reverse with
  | ' ' :: '\\' :: _ => cs
  | _ => Text.trimEndList cs

-- A pattern without a slash stands for names in all directories.
def anchor (isRooted : Bool) (cs : List Char) : List Char :=
  if isRooted || cs.contains '/' || cs = ['*', '*'] then cs else '*' :: '*' :: '/' :: cs

-- Two stars at the end stand for what is inside, not for the directory itself.
def closeEnd (cs : List Char) : List Char :=
  if ['*', '*', '/'].isPrefixOf cs.reverse then cs ++ ['/', '*'] else cs

def ofPattern? (keeps : Bool) (isRooted : Bool) (cs : List Char) : Option IgnoreRule :=
  let directoriesOnly := cs.getLast? == some '/'
  let cs := if directoriesOnly then cs.dropLast else cs
  let cs := if directoriesOnly && cs.getLast? == some '\\' then cs.dropLast else cs
  (IgnorePattern.forms? (closeEnd (anchor isRooted cs))).map fun forms =>
    ⟨keeps, directoriesOnly, forms⟩

-- The rule of a line, if it has one that can be read.
def ofLine? (line : List Char) : Option IgnoreRule :=
  match line with
  | '#' :: _ => none
  | _ =>
    match trimLine line with
    | [] => none
    | '\\' :: '!' :: cs => ofPattern? false false ('!' :: cs)
    | '\\' :: '#' :: cs => ofPattern? false false ('#' :: cs)
    | '!' :: '/' :: cs => ofPattern? true true cs
    | '!' :: cs => ofPattern? true false cs
    | '/' :: cs => ofPattern? false true cs
    | cs => ofPattern? false false cs

-- Two stars alone stand for everything.
def coversForm (path : List UInt8) (form : List PathToken) : Bool :=
  form = [.leadingComponents] || PathToken.covers form path

def appliesTo (r : IgnoreRule) (path : List UInt8) (isDirectory : Bool) : Bool :=
  (!r.directoriesOnly || isDirectory) && r.forms.any (coversForm path)

end IgnoreRule

-- The rules of an ignore file, in their order.
abbrev IgnoreFile := List IgnoreRule

namespace IgnoreFile

-- Reading stops at the first line that is no text. A carriage return belongs to the end of a line,
-- and the last line has none.
def textLines : List (List UInt8) → List (List Char)
  | [] => []
  | l :: ls =>
    match String.fromUTF8? ⟨l.toArray⟩ with
    | none => []
    | some line =>
      let cs := line.toList
      (if cs.getLast? == some '\r' && !ls.isEmpty then cs.dropLast else cs) :: textLines ls

def parse (bytes : List UInt8) : IgnoreFile :=
  let lines := match textLines (bytes.splitOn 10) with
    | cs :: ls => cs.dropWhile (· == '\uFEFF') :: ls
    | [] => []
  lines.filterMap IgnoreRule.ofLine?

-- What the last rule for a path says: whether it is left out.
def verdict (f : IgnoreFile) (path : List UInt8) (isDirectory : Bool) : Option Bool :=
  (f.reverse.find? (·.appliesTo path isDirectory)).map (!·.keeps)

end IgnoreFile
end ProposalLint
