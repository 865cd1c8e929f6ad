import ProposalLint.Text.Width

namespace ProposalLint.Text

inductive BreakClass where
  | mandatory
  | space
  | zeroWidthSpace
  | wordJoiner
  | glue
  | combining
  | joiner
  | opening
  | closing
  | parenthesis
  | quotation
  | exclamation
  | infixSeparator
  | slash
  | hyphen
  | breakAfter
  | breakBefore
  | breakBoth
  | nonstarter
  | inseparable
  | numeric
  | amountBefore
  | amountAfter
  | ideographic
  | letter
deriving DecidableEq, Inhabited, Repr

namespace BreakClass

def ofAscii (c : Char) : BreakClass :=
  if c = ' ' then space
  else if c = '\t' || c = '|' then breakAfter
  else if c = '\n' || c = '\r' || c = '\x0b' || c = '\x0c' then mandatory
  else if c.toNat < 32 || c.toNat == 127 then combining
  else if c.isDigit then numeric
  else if c = '"' || c = '\'' then quotation
  else if c = '(' || c = '[' || c = '\x7b' then opening
  else if c = ')' || c = ']' then parenthesis
  else if c = '\x7d' then closing
  else if c = '!' || c = '?' then exclamation
  else if c = ',' || c = '.' || c = ':' || c = ';' then infixSeparator
  else if c = '/' then slash
  else if c = '-' then hyphen
  else if c = '$' || c = '+' || c = '\\' then amountBefore
  else if c = '%' then amountAfter
  else letter

def openings : List Char :=
  ['¡', '¿', '‚', '„', '〈', '《', '「', '『', '【', '〔', '（', '［', '｛']

def closings : List Char :=
  ['、', '。', '〉', '》', '」', '』', '】', '〕', '）', '］', '｝', '，', '．']

def quotations : List Char :=
  ['«', '»', '‘', '’', '‛', '“', '”', '‟', '‹', '›']

-- The class of a character beyond ASCII; what is not listed breaks like a letter, or between any
-- two of them if it is wide.
def ofOther (c : Char) : BreakClass :=
  let n := c.toNat
  if n == 0x85 || n == 0x2028 || n == 0x2029 then mandatory
  else if n == 0x200B then zeroWidthSpace
  else if n == 0x2060 || n == 0xFEFF then wordJoiner
  else if n == 0xA0 || n == 0x2007 || n == 0x2011 || n == 0x202F then glue
  else if n == 0x200D then joiner
  else if quotations.contains c then quotation
  else if openings.contains c then opening
  else if closings.contains c then closing
  else if n == 0xAD || n == 0x2010 || n == 0x2012 || n == 0x2013 || n == 0x3000 then breakAfter
  else if (0x2000 ≤ n && n ≤ 0x200A) || n == 0x1680 || n == 0x205F then breakAfter
  else if n == 0xB4 then breakBefore
  else if n == 0x2014 then breakBoth
  else if n == 0x2024 || n == 0x2025 || n == 0x2026 then inseparable
  else if n == 0xA3 || n == 0xA5 || n == 0xB1 || n == 0x20AC || n == 0x2116 then amountBefore
  else if n == 0xA2 || n == 0xB0 || n == 0x2030 || n == 0x2032 || n == 0x2033 then amountAfter
  else if n == 0xFF01 || n == 0xFF1F then exclamation
  else if n == 0x3005 || n == 0x301C || n == 0x30FB || n == 0x30FC || n == 0xFF1A || n == 0xFF1B then
    nonstarter
  else if zeroWidth.contains c || isControl c then combining
  else if doubleWidth.contains c then ideographic
  else letter

def ofChar (c : Char) : BreakClass :=
  if c.toNat < 128 then ofAscii c else ofOther c

end BreakClass

open BreakClass in
-- Whether a line may be cut between two characters that stand side by side.
def cutsBeside (last next : BreakClass) : Bool :=
  let word (k : BreakClass) := k == letter
  let amount (k : BreakClass) := k == amountBefore || k == amountAfter
  let closed (k : BreakClass) := k == closing || k == parenthesis
  if last == wordJoiner || last == glue || last == joiner then false
  else if next == glue then last == breakAfter || last == hyphen
  else if last == quotation || next == quotation then false
  else if next == breakAfter || next == hyphen || next == nonstarter || last == breakBefore then false
  else if next == inseparable then false
  else if (word last && next == numeric) || (last == numeric && word next) then false
  else if last == amountBefore && next == ideographic then false
  else if last == ideographic && next == amountAfter then false
  else if (amount last && word next) || (word last && amount next) then false
  else if (closed last || last == numeric) && amount next then false
  else if amount last && (next == opening || next == numeric) then false
  else if next == numeric then
    !(last == hyphen || last == infixSeparator || last == numeric || last == slash
      || last == parenthesis)
  else if word next then !(word last || last == infixSeparator || last == parenthesis)
  else if next == opening then !(word last || last == numeric)
  else true

open BreakClass in
-- Whether a line may be cut in front of a character; `last` is the last one that is no space, and
-- `apart` tells that spaces follow it.
def cutsBefore (last : BreakClass) (apart : Bool) (next : BreakClass) : Bool :=
  if last == mandatory && !apart then true
  else if next == mandatory || next == space || next == zeroWidthSpace then false
  else if last == zeroWidthSpace then true
  else if next == wordJoiner then false
  else if next == closing || next == parenthesis || next == exclamation || next == infixSeparator
      || next == slash then false
  else if last == opening then false
  else if last == quotation && next == opening then false
  else if (last == closing || last == parenthesis) && next == nonstarter then false
  else if last == breakBoth && next == breakBoth then false
  else apart || cutsBeside last next

-- A mark belongs to the character in front of it.
def attaches (last : BreakClass) (apart : Bool) (next : BreakClass) : Bool :=
  (next == .combining || next == .joiner) && !apart && last != .mandatory && last != .zeroWidthSpace

def resolved (k : BreakClass) : BreakClass :=
  if k == .combining then .letter else k

-- The pieces between cuts; `piece` holds the latest characters, the last one first.
def cutFrom (last : BreakClass) (apart : Bool) (piece : List Char) : List Char → List (List Char)
  | [] => if piece.isEmpty then [] else [piece.reverse]
  | c :: cs =>
    let next := BreakClass.ofChar c
    if attaches last apart next then
      cutFrom (if next == .joiner then .joiner else last) false (c :: piece) cs
    else if next == .space then
      cutFrom last true (c :: piece) cs
    else if cutsBefore last apart (resolved next) then
      piece.reverse :: cutFrom (resolved next) false [c] cs
    else
      cutFrom (resolved next) false (c :: piece) cs

-- A text in pieces, one for each place where a line may end.
def cuts : List Char → List (List Char)
  | [] => []
  | c :: cs =>
    let first := BreakClass.ofChar c
    if first == .space then cutFrom .letter true [c] cs
    else cutFrom (resolved first) false [c] cs

end ProposalLint.Text
