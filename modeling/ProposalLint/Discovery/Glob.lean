namespace ProposalLint

-- A question mark stands for one character, a star for any text, brackets for one character of a
-- set, and two stars that fill a component for any number of components.
inductive GlobToken where
  | char (c : Char)
  | anyChar
  | oneOf (ranges : List (Char × Char))
  | noneOf (ranges : List (Char × Char))
  | anySequence
  | anyComponents
deriving DecidableEq, Inhabited, Repr

inductive GlobFault where
  | tooManyStars
  | starsInName
  | openRange
deriving DecidableEq, Inhabited, Repr

namespace GlobFault

def message : GlobFault → String
  | tooManyStars => "wildcards are either regular `*` or recursive `**`"
  | starsInName => "recursive wildcards must form a single path component"
  | openRange => "invalid range pattern"

end GlobFault

structure GlobError where
  position : Nat
  fault : GlobFault
deriving DecidableEq, Inhabited, Repr

namespace GlobError

def message (e : GlobError) : String :=
  "Pattern syntax error near position " ++ toString e.position ++ ": " ++ e.fault.message

end GlobError

structure Glob where
  text : String
  tokens : List GlobToken
deriving DecidableEq, Inhabited, Repr

namespace Glob

-- The characters up to a closing bracket, and those behind it.
def upToBracket : List Char → Option (List Char × List Char)
  | [] => none
  | c :: cs =>
    if c = ']' then some ([], cs)
    else (upToBracket cs).map fun (body, rest) => (c :: body, rest)

theorem length_lt_of_upToBracket {cs body rest : List Char}
    (h : upToBracket cs = some (body, rest)) : rest.length < cs.length := by
  induction cs generalizing body with
  | nil => simp [upToBracket] at h
  | cons c cs ih =>
    unfold upToBracket at h
    split at h
    · simp_all
    · obtain ⟨⟨body', rest'⟩, found, same⟩ := Option.map_eq_some_iff.1 h
      cases same
      have := ih found
      simp
      omega

-- Two characters around a dash are the ends of a range.
def ranges : List Char → List (Char × Char)
  | lo :: '-' :: hi :: cs => (lo, hi) :: ranges cs
  | c :: cs => (c, c) :: ranges cs
  | [] => []

-- The set that begins behind an opening bracket, how many characters it takes and what follows. Its
-- first character always belongs to it.
def bracketed? : List Char → Option (GlobToken × Nat × List Char)
  | '!' :: c :: cs =>
    (upToBracket cs).map fun (body, rest) => (.noneOf (ranges (c :: body)), body.length + 3, rest)
  | '!' :: [] => none
  | c :: cs =>
    (upToBracket cs).map fun (body, rest) => (.oneOf (ranges (c :: body)), body.length + 2, rest)
  | [] => none

theorem length_lt_of_bracketed? {cs rest : List Char} {t : GlobToken} {used : Nat}
    (h : bracketed? cs = some (t, used, rest)) : rest.length < cs.length := by
  unfold bracketed? at h
  split at h
  · obtain ⟨⟨body, rest'⟩, found, same⟩ := Option.map_eq_some_iff.1 h
    cases same
    have := length_lt_of_upToBracket found
    simp
    omega
  · cases h
  · obtain ⟨⟨body, rest'⟩, found, same⟩ := Option.map_eq_some_iff.1 h
    cases same
    have := length_lt_of_upToBracket found
    simp
    omega
  · cases h

-- `seen` has the latest token first.
def pushComponents : List GlobToken → List GlobToken
  | .anyComponents :: t :: seen => .anyComponents :: t :: seen
  | seen => .anyComponents :: seen

def tokensFrom (position : Nat) (last : Option Char) (seen : List GlobToken) :
    List Char → Except GlobError (List GlobToken)
  | [] => .ok seen.reverse
  | '?' :: cs => tokensFrom (position + 1) (some '?') (.anyChar :: seen) cs
  | '*' :: '*' :: '*' :: _ => .error ⟨position + 2, .tooManyStars⟩
  | '*' :: '*' :: cs =>
    if position = 0 || last == some '/' then
      match cs with
      | [] => .ok (pushComponents seen).reverse
      | c :: cs =>
        if c = '/' then tokensFrom (position + 3) (some '/') (pushComponents seen) cs
        else .error ⟨position + 2, .starsInName⟩
    else
      .error ⟨position - 1, .starsInName⟩
  | '*' :: cs => tokensFrom (position + 1) (some '*') (.anySequence :: seen) cs
  | '[' :: cs =>
    match h : bracketed? cs with
    | some (t, used, rest) =>
      have := length_lt_of_bracketed? h
      tokensFrom (position + used + 1) (some ']') (t :: seen) rest
    | none => .error ⟨position, .openRange⟩
  | c :: cs => tokensFrom (position + 1) (some c) (.char c :: seen) cs
termination_by cs => cs.length
decreasing_by
  all_goals simp only [List.length_cons]
  all_goals omega

def parse (text : String) : Except GlobError Glob :=
  (tokensFrom 0 none [] text.toList).map fun tokens => ⟨text, tokens⟩

def isPlain (g : Glob) : Bool :=
  g.tokens.all fun
    | .char _ => true
    | _ => false

def isComponents (g : Glob) : Bool :=
  g.tokens.contains .anyComponents

def suffixes {α : Type} : List α → List (List α)
  | [] => [[]]
  | a :: as => (a :: as) :: suffixes as

-- What follows each slash.
def afterSlashes : List Char → List (List Char)
  | [] => []
  | c :: cs => if c = '/' then cs :: afterSlashes cs else afterSlashes cs

def inRanges (c : Char) (rs : List (Char × Char)) : Bool :=
  rs.any fun (lo, hi) => lo ≤ c && c ≤ hi

-- Whether tokens stand for a text. Two stars stand for nothing, for components with the slash
-- behind them, or for all that is left.
def covers : List GlobToken → List Char → Bool
  | [], cs => cs.isEmpty
  | .anySequence :: ts, cs => (suffixes cs).any fun rest => covers ts rest
  | .anyComponents :: ts, cs =>
    covers ts cs || (afterSlashes cs).any (fun rest => covers ts rest) || covers ts []
  | _ :: _, [] => false
  | .char d :: ts, c :: cs => c == d && covers ts cs
  | .anyChar :: ts, _ :: cs => covers ts cs
  | .oneOf rs :: ts, c :: cs => inRanges c rs && covers ts cs
  | .noneOf rs :: ts, c :: cs => !inRanges c rs && covers ts cs

def matchesText (g : Glob) (s : String) : Bool :=
  covers g.tokens s.toList

end Glob
end ProposalLint
