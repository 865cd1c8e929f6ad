import ProposalLint.Markdown.Interrupt

namespace ProposalLint.Markdown

-- A link definition with the span it was read from.
structure Definition where
  label : String
  url : String
  title : Option String
  span : Nat × Nat
deriving Inhabited

section
variable (w : Window) (containers : List Container)

def definitionLabel? (i : Nat) : Option Label :=
  labelFrom? w false (continuation? w containers false) i

-- Blanks and at most one line end: the offset behind them and whether a line ended.
def definitionSpace? (i : Nat) : Option (Nat × Bool) :=
  let i := Scan.blanks w i
  match Scan.eol? w i with
  | none => some (i, false)
  | some next =>
    match continuation? w containers true next with
    | none => none
    | some j =>
      let k := Scan.blanks w j
      if (Scan.eol? w k).isSome then none else some (k, true)

-- The title of a definition: the offset behind it and its text without the quotes. Its lines lose
-- their leading blanks, and none of them is blank.
def definitionTitle? (start : Nat) : Option (Nat × String) :=
  match (w.at? start).bind closingQuote? with
  | some close => go close (w.stop + 1) (start + 1) (start + 1) ""
  | none => none
where
  go (close : Char) : Nat → Nat → Nat → String → Option (Nat × String)
  | 0, _, _, _ => none
  | fuel + 1, i, mark, out =>
    match w.at? i with
    | none => none
    | some c =>
      if c == '(' && close == ')' then none
      else if c == '\n' || c == '\r' then
        match (Scan.eol? w i).bind (continuation? w containers true) with
        | none => none
        | some j =>
          let k := w.skipWhile (fun d => d == ' ' || d == '\t') j
          if (Scan.blankLine? w k).isSome then none
          else go close fuel k k (out ++ w.slice mark i ++ "\n")
      else if c == '\\' then
        let atEol := w.has (i + 1) '\n' || w.has (i + 1) '\r'
        go close fuel (if atEol then i + 1 else i + 2) mark out
      else if c == close then some (i + 1, out ++ w.slice mark i)
      else go close fuel (i + 1) mark out

-- A link definition: the offset behind it and what it defines. A title on a line of its own that
-- turns out to be none is left to what follows.
def definition? (start : Nat) : Option (Nat × Definition) := do
  if !w.has start '[' then none
  let label ← definitionLabel? w containers (start + 1)
  if !w.has label.next ':' then none
  let (i, _) ← definitionSpace? w containers (label.next + 1)
  let (stop, url) ← destination? w 1 i
  if stop = i then none
  let bare : Definition := ⟨label.text, unescape false url, none, (start, stop)⟩
  match definitionSpace? w containers stop with
  | none => return (stop, bare)
  | some (j, broken) =>
    if j = stop then none
    else
      let fallback := if broken then some (stop, bare) else none
      match definitionTitle? w containers j with
      | some (behind, title) =>
        if (Scan.blankLine? w behind).isSome then
          return (behind, { bare with title := some (unescape false title), span := (start, behind) })
        else fallback
      | none => fallback

end
end ProposalLint.Markdown
