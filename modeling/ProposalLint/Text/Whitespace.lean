namespace ProposalLint.Text

def isWhitespace (c : Char) : Bool :=
  let n := c.toNat
  (9 ≤ n && n ≤ 13) || n == 32 || n == 0x85 || n == 0xA0 || n == 0x1680
    || (0x2000 ≤ n && n ≤ 0x200A) || n == 0x2028 || n == 0x2029 || n == 0x202F || n == 0x205F
    || n == 0x3000

def trimStartList (cs : List Char) : List Char :=
  cs.dropWhile isWhitespace

def trimEndList (cs : List Char) : List Char :=
  (cs.reverse.dropWhile isWhitespace).reverse

def trimEnd (s : String) : String :=
  String.ofList (trimEndList s.toList)

def trim (s : String) : String :=
  String.ofList (trimEndList (trimStartList s.toList))

-- The first word of a text, if it has one.
def firstWord? (s : String) : Option String :=
  match (trimStartList s.toList).takeWhile (!isWhitespace ·) with
  | [] => none
  | word => some (String.ofList word)

end ProposalLint.Text
