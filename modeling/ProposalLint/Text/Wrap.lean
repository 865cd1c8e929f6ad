import ProposalLint.Text.LineBreak
import ProposalLint.Text.Word

namespace ProposalLint.Text

-- A word and the number of spaces that follow it.
structure SpacedWord where
  letters : List Char
  spaces : Nat := 0
deriving DecidableEq, Inhabited, Repr

namespace SpacedWord

def ofPiece (piece : List Char) : SpacedWord :=
  let letters := (piece.reverse.dropWhile (· == ' ')).reverse
  ⟨letters, piece.length - letters.length⟩

def width (w : SpacedWord) : Nat :=
  textColumns w.letters

def spread (w : SpacedWord) : List Char :=
  w.letters ++ List.replicate w.spaces ' '

end SpacedWord

-- Pieces that end in a hyphen stay with what follows: hyphens are looked at word by word.
def joinHyphens : List (List Char) → List (List Char)
  | [] => []
  | p :: ps =>
    match joinHyphens ps with
    | [] => [p]
    | q :: qs =>
      if p.getLast? == some '-' || p.getLast? == some '\xad' then (p ++ q) :: qs else p :: q :: qs

-- Cuts letters behind each hyphen between two word characters.
def hyphenCuts (before : Option Char) (piece : List Char) : List Char → List (List Char)
  | [] => if piece.isEmpty then [] else [piece.reverse]
  | '-' :: c :: cs =>
    if before.any isWord && before != some '_' && isWord c && c != '_' then
      ('-' :: piece).reverse :: hyphenCuts (some '-') [] (c :: cs)
    else
      hyphenCuts (some '-') ('-' :: piece) (c :: cs)
  | c :: cs => hyphenCuts (some c) (c :: piece) cs

-- Cuts letters into parts of at most the given width.
def widthCuts (width used : Nat) (piece : List Char) : List Char → List (List Char)
  | [] => if piece.isEmpty then [] else [piece.reverse]
  | c :: cs =>
    if 0 < used && width < used + columns c then
      piece.reverse :: widthCuts width (columns c) [c] cs
    else
      widthCuts width (used + columns c) (c :: piece) cs

-- The parts of a word, the last one with its spaces.
def respace (w : SpacedWord) (parts : List (List Char)) : List SpacedWord :=
  match parts.getLast? with
  | none => [w]
  | some last => parts.dropLast.map (⟨·, 0⟩) ++ [⟨last, w.spaces⟩]

def words (width : Nat) (line : List Char) : List SpacedWord :=
  let found := (joinHyphens (cuts line)).map SpacedWord.ofPiece
  let found := found.flatMap fun w => respace w (hyphenCuts none [] w.letters)
  found.flatMap fun w =>
    if width < w.width then respace w (widthCuts width 0 [] w.letters) else [w]

-- Puts words on lines, each on the current line if it still fits there.
def arrange (width : Nat) (used : Nat) (line : List SpacedWord) :
    List SpacedWord → List (List SpacedWord)
  | [] => [line]
  | w :: ws =>
    if width < used + w.width && !line.isEmpty then
      line :: arrange width (w.width + w.spaces) [w] ws
    else
      arrange width (used + w.width + w.spaces) (line ++ [w]) ws

-- Spaces at the end of a line are dropped.
def joinWords (line : List SpacedWord) : List Char :=
  match line.getLast? with
  | none => []
  | some last => line.dropLast.flatMap SpacedWord.spread ++ last.letters

-- The lines of one paragraph.
def wrapLine (width : Nat) (line : List Char) : List (List Char) :=
  (arrange width 0 [⟨[], 0⟩] (words width line)).map joinWords

-- A text in lines of at most the given width, each behind an indentation of its own.
def fill (width : Nat) (first rest : String) (text : String) : String :=
  let lines := (text.toList.splitOn '\n').flatMap (wrapLine width)
  match lines with
  | [] => ""
  | l :: ls =>
    "\n".intercalate ((first ++ String.ofList l) :: ls.map fun l => rest ++ String.ofList l)

end ProposalLint.Text
