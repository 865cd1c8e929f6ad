import ProposalLint.Markdown.Line
import ProposalLint.Text.Case

namespace ProposalLint.Markdown

-- Backslashes in front of punctuation fall away and character references are replaced. In a table
-- the pipe takes both of two backslashes with it.
def unescape (inTable : Bool) (s : String) : String :=
  let w := Window.ofString s
  go w (w.stop + 1) 0 0 ""
where
  go (w : Window) : Nat → Nat → Nat → String → String
  | 0, _, mark, out => out ++ w.slice mark w.stop
  | fuel + 1, i, mark, out =>
    match w.at? i with
    | none => out ++ w.slice mark w.stop
    | some '\\' =>
      if inTable && w.hasAll (i + 1) ['\\', '|'] then
        go w fuel (i + 3) (i + 2) (out ++ w.slice mark i)
      else if (w.at? (i + 1)).any Text.isAsciiPunctuation then
        go w fuel (i + 2) (i + 1) (out ++ w.slice mark i)
      else go w fuel (i + 1) mark out
    | some '&' =>
      match Scan.entity? w i with
      | some (j, value) => go w fuel j j (out ++ w.slice mark i ++ value)
      | none => go w fuel (i + 1) mark out
    | some '\r' => go w fuel (i + 1) (i + 1) (out ++ w.slice mark i)
    | some _ => go w fuel (i + 1) mark out

structure Label where
  -- Behind the closing bracket.
  next : Nat
  text : String

structure LabelState where
  i : Nat
  mark : Nat
  text : String
  blank : Bool
  length : Nat

-- A run of blanks in a label; a second line end in it closes nothing. The last component says
-- whether the run has to be written as one space.
def labelBlanks (w : Window) (newline : Nat → Option Nat) :
    Nat → Nat → Bool → Nat → Option (Nat × Nat)
  | 0, _, _, _ => none
  | fuel + 1, i, broken, weight =>
    match w.at? i with
    | some c =>
      if isSpace c then
        match Scan.eol? w i with
        | some j =>
          if broken then none
          else
            match newline j with
            | some k => labelBlanks w newline fuel k true (weight + 2)
            | none => none
        | none => labelBlanks w newline fuel (i + 1) broken (weight + if c == ' ' then 1 else 2)
      else some (i, weight)
    | none => some (i, weight)

def labelMaxLength : Nat := 1000

def trimBlanks (s : String) : String :=
  String.ofList <| (s.toList.dropWhile isSpace).reverse.dropWhile isSpace |>.reverse

-- The label whose text starts at `start`; `newline` gives the offset at which its next line goes on.
-- Only blanks, escapes and bytes outside of ASCII count towards the length.
def labelFrom? (w : Window) (inTable : Bool) (newline : Nat → Option Nat) (start : Nat) :
    Option Label :=
  go (w.stop + 1) ⟨start, start, "", true, 0⟩
where
  go : Nat → LabelState → Option Label
  | 0, _ => none
  | fuel + 1, s =>
    if s.length ≥ labelMaxLength then none
    else
      match w.at? s.i with
      | none | some '[' => none
      | some ']' =>
        if s.blank then none
        else some ⟨s.i + 1, trimBlanks (s.text ++ w.slice s.mark s.i)⟩
      | some c =>
        if inTable && c == '\\' && w.has (s.i + 1) '|' then
          go fuel { s with
            i := s.i + 2, mark := s.i + 1, text := s.text ++ w.slice s.mark s.i
            blank := false, length := s.length + 2 }
        else if inTable && c == '|' && s.i > start && w.has (s.i - 1) '\\' then
          go fuel { s with
            i := s.i + 1, mark := s.i, text := s.text ++ w.slice s.mark (s.i - 1), blank := false }
        else if c == '\\' && (w.at? (s.i + 1)).any Text.isAsciiPunctuation then
          go fuel { s with i := s.i + 2, blank := false, length := s.length + 2 }
        else if isSpace c then
          match labelBlanks w newline (w.stop + 1) s.i false 0 with
          | none => none
          | some (j, weight) =>
            if weight > 1 then
              go fuel { s with
                i := j, mark := j, text := s.text ++ w.slice s.mark s.i ++ " "
                length := s.length + (j - s.i) }
            else go fuel { s with i := j, length := s.length + 1 }
        else
          go fuel { s with
            i := s.i + 1, blank := false
            length := if c.toNat < 0x80 then s.length else s.length + 1 }

-- A link destination: the offset behind it and its text without the pointed brackets. Parentheses
-- in it are balanced; inside of more than `depth` no other may open.
def destination? (w : Window) (depth start : Nat) : Option (Nat × String) :=
  if w.has start '<' then pointed (w.stop + 1) (start + 1) else plain (w.stop + 1) start 0
where
  pointed : Nat → Nat → Option (Nat × String)
  | 0, _ => none
  | fuel + 1, i =>
    match w.at? i with
    | none | some '\n' | some '\r' | some '<' => none
    | some '>' => some (i + 1, w.slice (start + 1) i)
    | some '\\' =>
      if (w.at? (i + 1)).any Text.isAsciiPunctuation then pointed fuel (i + 2)
      else pointed fuel (i + 1)
    | some _ => pointed fuel (i + 1)
  plain : Nat → Nat → Nat → Option (Nat × String)
  | 0, _, _ => none
  | fuel + 1, i, nest =>
    let done := if nest = 0 then some (i, w.slice start i) else none
    match w.at? i with
    | none => done
    | some '(' => if nest > depth then none else plain fuel (i + 1) (nest + 1)
    | some ')' => if nest = 0 then done else plain fuel (i + 1) (nest - 1)
    | some '\\' =>
      if (w.at? (i + 1)).any Text.isAsciiPunctuation then plain fuel (i + 2) nest
      else plain fuel (i + 1) nest
    | some c => if c.toNat ≤ 0x20 then done else plain fuel (i + 1) nest

def closingQuote? : Char → Option Char
  | '"' => some '"'
  | '\'' => some '\''
  | '(' => some ')'
  | _ => none

end ProposalLint.Markdown
