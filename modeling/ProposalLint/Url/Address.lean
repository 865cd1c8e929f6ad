namespace ProposalLint.Url

-- What a parser tells about an address.
structure Address where
  scheme : String
  host : Option String := none
  -- The normal form.
  text : String
deriving DecidableEq, Inhabited, Repr

-- Tells what a text is as an address, if it is one.
abbrev Parser := (text : String) → Option Address

namespace Address

def isWeb (a : Address) : Bool :=
  a.scheme = "http" || a.scheme = "https"

-- What is asked of a server: the address without its fragment. In a normal form the sign in front
-- of the fragment stands nowhere else.
def requestText (a : Address) : String :=
  String.ofList (a.text.toList.takeWhile (· ≠ '#'))

end Address
end ProposalLint.Url
