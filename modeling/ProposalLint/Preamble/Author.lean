import ProposalLint.Text.Whitespace
import ProposalLint.Text.Word

namespace ProposalLint.Preamble

namespace Author

def isNameChar (c : Char) : Bool :=
  c == '.' || Text.isWord c || Text.isWhitespace c

def isAccountChar (c : Char) : Bool :=
  c.isAlpha || Text.isDecimalDigit c

-- How many characters of an account follow, each with at most one hyphen in front.
def accountGroups : List Char → Option Nat
  | [] => some 0
  | '-' :: c :: cs => if isAccountChar c then (accountGroups cs).map (· + 1) else none
  | c :: cs => if isAccountChar c then (accountGroups cs).map (· + 1) else none

-- The name of an account has one to 39 letters and digits, with single hyphens between them.
def isAccount : List Char → Bool
  | [] => false
  | c :: cs => isAccountChar c && (accountGroups cs).any (· ≤ 38)

-- `(@account)` and nothing else.
def isAccountMark : List Char → Bool
  | '(' :: '@' :: cs => cs.getLast? == some ')' && isAccount cs.dropLast
  | _ => false

-- A mail address has something on both sides of an `@`, all on one line.
def isAddress (cs : List Char) : Bool :=
  !cs.contains '\n' && (cs.drop 1).dropLast.contains '@'

-- What follows the opening bracket of a mail address. The last parenthesis starts the account.
def addressTail? (cs : List Char) : Option Bool :=
  if cs.getLast? == some '>' then if isAddress cs.dropLast then some false else none
  else
    let behind := (cs.reverse.takeWhile (· != '(')).reverse
    let front := cs.take (cs.length - behind.length - 1)
    match front.reverse with
    | ' ' :: '>' :: address =>
      if isAccountMark ('(' :: behind) && isAddress address.reverse then some true else none
    | _ => none

-- Whether a well-formed author has an account; nothing for a malformed one. An author is a name,
-- then maybe a mail address in angle brackets, then maybe an account in parentheses; the account
-- may also follow the name.
def hasAccount? (cs : List Char) : Option Bool :=
  let name := cs.takeWhile isNameChar
  if !name.head?.any Text.isWord then none
  else
    match cs.dropWhile isNameChar with
    | [] => some false
    | '<' :: rest => if name.getLast? == some ' ' then addressTail? rest else none
    | mark => if isAccountMark mark then some true else none

end Author

inductive AuthorProblem where
  | malformed
  | noAccount
deriving DecidableEq, Inhabited, Repr

namespace AuthorProblem

def reason : AuthorProblem → String
  | malformed => "is malformed"
  | noAccount => "doesn't have at least one GitHub account"

end AuthorProblem

def trimmed (cs : List Char) : List Char :=
  Text.trimEndList (Text.trimStartList cs)

-- What is wrong with a list of authors divided by commas.
def authorProblem? (text : String) : Option AuthorProblem :=
  let authors := (text.toList.splitOn ',').map fun cs => Author.hasAccount? (trimmed cs)
  if authors.contains none then some .malformed
  else if authors.contains (some true) then none
  else some .noAccount

end ProposalLint.Preamble
