import ProposalLint.Url.Address
import ProposalLint.Url.Host

namespace ProposalLint.Url

structure WebAddress where
  secure : Bool
  user : List Char := []
  password : List Char := []
  host : Host
  port : Option Nat := none
  path : List (List Char) := []
  query : Option (List Char) := none
  fragment : Option (List Char) := none
deriving DecidableEq, Inhabited, Repr

namespace WebAddress

def isControlOrSpace (c : Char) : Bool :=
  c.toNat ≤ 32

-- Controls and blanks around an address, and tabs and line breaks inside it, do not count.
def clean (s : String) : List Char :=
  let cs := ((s.toList.dropWhile isControlOrSpace).reverse.dropWhile isControlOrSpace).reverse
  cs.filter fun c => !(c == '\t' || c == '\n' || c == '\r')

def isSchemeChar (c : Char) : Bool :=
  c.isAlphanum || c == '+' || c == '-' || c == '.'

-- The scheme in lower case and what follows its colon.
def scheme? (cs : List Char) : Option (String × List Char) :=
  match cs.dropWhile isSchemeChar with
  | ':' :: rest =>
    if cs.head?.any Char.isAlpha then
      some (String.ofList ((cs.takeWhile isSchemeChar).map Char.toLower), rest)
    else none
  | _ => none

def isSlash (c : Char) : Bool :=
  c == '/' || c == '\\'

def endsAuthority (c : Char) : Bool :=
  isSlash c || c == '?' || c == '#'

-- The part before the last `@`, and the rest.
def splitUser (cs : List Char) : Option (List Char) × List Char :=
  let behind := (cs.reverse.takeWhile (· != '@')).reverse
  if behind.length == cs.length then (none, cs)
  else (some (cs.take (cs.length - behind.length - 1)), behind)

-- The host ends at the first colon outside brackets.
def hostChars : Bool → List Char → List Char × List Char
  | _, [] => ([], [])
  | inside, c :: cs =>
    if c == ':' && !inside then ([], c :: cs)
    else
      let inside := if c == '[' then true else if c == ']' then false else inside
      let (host, rest) := hostChars inside cs
      (c :: host, rest)

-- A port, if digits follow the colon; the default one is left out.
def port? (secure : Bool) : List Char → Option (Option Nat)
  | [] => some none
  | ':' :: ds =>
    if ds.isEmpty then some none
    else if !ds.all fun c => '0' ≤ c && c ≤ '9' then none
    else
      let n := ds.foldl (fun n d => 10 * n + (d.toNat - 48)) 0
      if 65535 < n then none
      else if n == (if secure then 443 else 80) then some none
      else some (some n)
  | _ => none

def userSet : List Char := " \"<>\x60#?\x7b\x7d/:;=@[\\]^|".toList

def pathSet : List Char := " \"<>\x60#?\x7b\x7d".toList

def querySet : List Char := " \"#<>'".toList

def fragmentSet : List Char := " \"<>\x60".toList

def isDot (s : List Char) : Bool :=
  s == ['.'] || String.ofList (s.map Char.toLower) == "%2e"

def isDoubleDot (s : List Char) : Bool :=
  let t := String.ofList (s.map Char.toLower)
  t == ".." || t == ".%2e" || t == "%2e." || t == "%2e%2e"

-- The segments with dots resolved; `done` holds them in reverse.
def segments : List (List Char) → List (List Char) → List (List Char)
  | [], done => done.reverse
  | [s], done =>
    if isDoubleDot s then ([] :: done.tail).reverse
    else if isDot s then ([] :: done).reverse
    else (Percent.encode pathSet s :: done).reverse
  | s :: rest, done =>
    if isDoubleDot s then segments rest done.tail
    else if isDot s then segments rest done
    else segments rest (Percent.encode pathSet s :: done)

def pathOf (cs : List Char) : List (List Char) :=
  let cs := if cs.head?.any isSlash then cs.tail else cs
  segments ((cs.map fun c => if c == '\\' then '/' else c).splitOn '/') []

-- What stands before the first such character, and what stands behind it if there is one.
def cut (x : Char) (cs : List Char) : List Char × Option (List Char) :=
  match cs.dropWhile (· != x) with
  | [] => (cs, none)
  | _ :: rest => (cs.takeWhile (· != x), some rest)

def ofRest? (secure : Bool) (rest : List Char) : Option WebAddress := do
  let rest := rest.dropWhile isSlash
  let authority := rest.takeWhile (!endsAuthority ·)
  let (info, place) := splitUser authority
  let (hostText, portText) := hostChars false place
  if hostText.isEmpty then none
  let host ← Host.parse? hostText
  let port ← port? secure portText
  let (user, password) := cut ':' (info.getD [])
  let (rest, fragment) := cut '#' (rest.drop authority.length)
  let (path, query) := cut '?' rest
  return {
    secure, host, port
    user := Percent.encode userSet user
    password := Percent.encode userSet (password.getD [])
    path := pathOf path
    query := query.map (Percent.encode querySet)
    fragment := fragment.map (Percent.encode fragmentSet) }

-- The address that a text is, if it is one of the web.
def parse? (s : String) : Option WebAddress :=
  match scheme? (clean s) with
  | some ("http", rest) => ofRest? false rest
  | some ("https", rest) => ofRest? true rest
  | _ => none

def credentials (a : WebAddress) : List Char :=
  if a.user.isEmpty && a.password.isEmpty then []
  else a.user ++ (if a.password.isEmpty then [] else ':' :: a.password) ++ ['@']

-- What is asked of a server: the address without its fragment.
def requestText (a : WebAddress) : String :=
  (if a.secure then "https://" else "http://") ++ String.ofList a.credentials ++ a.host.text
    ++ (a.port.map fun n => ":" ++ toString n).getD ""
    ++ String.ofList (a.path.flatMap ('/' :: ·))
    ++ (a.query.map fun q => "?" ++ String.ofList q).getD ""

-- The normal form. Addresses that differ only in case of the host, default ports, dot segments or
-- escapes that need no escape have the same one.
def text (a : WebAddress) : String :=
  a.requestText ++ (a.fragment.map fun f => "#" ++ String.ofList f).getD ""

def address (a : WebAddress) : Address where
  scheme := if a.secure then "https" else "http"
  host := some a.host.text
  text := a.text

end WebAddress

-- Reads the addresses of the web; others are taken for none.
def Address.parse? : Parser :=
  fun s => (WebAddress.parse? s).map (·.address)

end ProposalLint.Url
