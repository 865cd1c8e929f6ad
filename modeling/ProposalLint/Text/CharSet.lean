namespace ProposalLint.Text

-- Ranges of code points, both ends included.
structure CharSet where
  ranges : Array (Nat × Nat)

namespace CharSet

def contains (s : CharSet) (c : Char) : Bool :=
  s.ranges.any fun (lo, hi) => lo ≤ c.toNat && c.toNat ≤ hi

end CharSet

-- Texts for characters, in rows that begin with the code of a character. The texts for it and those
-- that follow it are parted by blanks; a slash stands where there is none.
structure CharTexts where
  rows : Array (Nat × String)

namespace CharTexts

def split (texts : String) : List (List Char) :=
  texts.toList.splitOn ' '

def text? (t : CharTexts) (c : Char) : Option (List Char) := do
  let (first, texts) ← t.rows.findRev? (·.1 ≤ c.toNat)
  (split texts)[c.toNat - first]?.filter (· != ['/'])

-- The character that a text is for.
def char? (t : CharTexts) (text : List Char) : Option Char :=
  t.rows.findSome? fun (first, texts) =>
    ((split texts).findIdx? (· == text)).map fun i => Char.ofNat (first + i)

end CharTexts
end ProposalLint.Text
