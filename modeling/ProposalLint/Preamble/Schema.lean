import ProposalLint.Calendar.Reading
import ProposalLint.Preamble.Author
import ProposalLint.Text.Quoted
import ProposalLint.Url.Web
import ProposalLint.Yaml.Value

namespace ProposalLint.Preamble

-- The headers in the order in which they must stand.
inductive Header where
  | sip
  | title
  | status
  | discussionsTo
  | author
  | created
  | updated
deriving DecidableEq, Inhabited, Repr

namespace Header

def name : Header → String
  | sip => "sip"
  | title => "title"
  | status => "status"
  | discussionsTo => "discussions-to"
  | author => "author"
  | created => "created"
  | updated => "updated"

def all : List Header :=
  [sip, title, status, discussionsTo, author, created, updated]

def ofName? (name : String) : Option Header :=
  all.find? (·.name == name)

def rank (h : Header) : Nat :=
  all.idxOf h

end Header

def statuses : List String :=
  ["Draft", "Review", "Implementation", "Final", "Withdrawn", "Living"]

-- A date that is not after today, written with four, two and two digits.
def date? (today : Date) (text : String) : Option Date :=
  match text.toList with
  | [a, b, c, d, '-', e, f, '-', g, h] =>
    if [a, b, c, d, e, f, g, h].all Date.isDigit then
      match Date.read text with
      | .ok date => if today.before date then none else some date
      | .error _ => none
    else none
  | _ => none

-- A value in the words of a message.
def describe : Yaml.Value → String
  | .null => "null"
  | .bool b => if b then "true" else "false"
  | .int n => toString n
  | .float x => Yaml.floatText x
  | .string s => Text.quoted s
  | .list _ => "a list"
  | .map _ => "an object"
  | .tagged tag _ => "a value tagged " ++ tag

inductive Failure where
  | notObject (received : Yaml.Value)
  | unknown (key : Yaml.Value)
  | missing (header : Header)
  | notPositive (header : Header)
  | notInteger (header : Header)
  | notNumber (header : Header) (received : Yaml.Value)
  | notString (header : Header) (received : Yaml.Value)
  | notStatus (header : Header) (received : Yaml.Value)
  | notWebAddress (header : Header)
  | badAuthors (header : Header) (problem : AuthorProblem)
  | notDate (header : Header)
  | updatedBeforeCreated
  | livingWithoutUpdated
deriving Inhabited

namespace Failure

def property (name reason : String) : String :=
  "Front-matter property \"" ++ name ++ "\" " ++ reason

def keyName : Yaml.Value → String
  | .string s => s
  | other => describe other

def message : Failure → String
  | notObject v => "Front-matter expected an object, but received: " ++ describe v
  | unknown key => property (keyName key) "is not an allowed header"
  | missing h => property h.name "is required"
  | notPositive h => property h.name "not a positive number"
  | notInteger h => property h.name "not an integer"
  | notNumber h v => property h.name ("expected a number, but received: " ++ describe v)
  | notString h v => property h.name ("expected a string, but received: " ++ describe v)
  | notStatus h v =>
    property h.name
      ("expected one of " ++ ", ".intercalate statuses ++ ", but received: " ++ describe v)
  | notWebAddress h => property h.name "not a valid http/https url"
  | badAuthors h p => property h.name p.reason
  | notDate h => property h.name "not a valid iso-8601 date"
  | updatedBeforeCreated => property Header.updated.name "is earlier than \"created\""
  | livingWithoutUpdated =>
    "Front-matter has status of \"Living\" but doesn't have \"updated\" preamble header"

end Failure

-- What the headers are checked against.
structure Schema where
  today : Date
  address? : Url.Parser := Url.Address.parse?
deriving Inhabited

-- What is wrong with a header that is there, not counting the other headers.
def checkSip : Yaml.Value → Option Failure
  | .int n => if n ≤ 0 then some (.notPositive .sip) else none
  | .float _ => some (.notInteger .sip)
  | other => some (.notNumber .sip other)

def checkTitle : Yaml.Value → Option Failure
  | .string _ => none
  | other => some (.notString .title other)

def checkStatus : Yaml.Value → Option Failure
  | .string s => if statuses.contains s then none else some (.notStatus .status (.string s))
  | other => some (.notStatus .status other)

def checkDiscussionsTo (address? : Url.Parser) : Yaml.Value → Option Failure
  | .string s =>
    if (address? s).any (·.isWeb) then none else some (.notWebAddress .discussionsTo)
  | other => some (.notString .discussionsTo other)

def checkAuthor : Yaml.Value → Option Failure
  | .string s => (authorProblem? s).map (.badAuthors .author)
  | other => some (.notString .author other)

-- Dates may have tags.
def dateOf? (today : Date) (v : Yaml.Value) : Option Date := do
  date? today (← v.untagged.string?)

def checkDate (h : Header) (today : Date) (v : Yaml.Value) : Option Failure :=
  if (dateOf? today v).isSome then none else some (.notDate h)

def check (schema : Schema) : Header → Yaml.Value → Option Failure
  | .sip => checkSip
  | .title => checkTitle
  | .status => checkStatus
  | .discussionsTo => checkDiscussionsTo schema.address?
  | .author => checkAuthor
  | .created => checkDate .created schema.today
  | .updated => checkDate .updated schema.today

def isOptional : Header → Bool
  | .discussionsTo | .updated => true
  | _ => false

-- What is wrong with one header of a preamble.
def headerFailure? (schema : Schema) (preamble : Yaml.Value) (h : Header) : Option Failure :=
  match preamble.field? h.name with
  | some v => check schema h v
  | none => if isOptional h then none else some (.missing h)

def isKnown (key : Yaml.Value) : Bool :=
  (key.untagged.string?.bind Header.ofName?).isSome

-- What is wrong between headers that are right by themselves.
def crossFailures (schema : Schema) (preamble : Yaml.Value) : List Failure :=
  let date (h : Header) : Option Date := do dateOf? schema.today (← preamble.field? h.name)
  let updated := date .updated
  let early := match date .created, updated with
    | some created, some updated => updated.before created
    | _, _ => false
  let living := (preamble.field? "status").bind (·.untagged.string?) == some "Living"
  (if early then [.updatedBeforeCreated] else [])
    ++ (if living && updated.isNone then [.livingWithoutUpdated] else [])

-- All that is wrong with a preamble: unknown headers in their order, then the known ones. Headers
-- are compared only when each is right by itself.
def failures (schema : Schema) (preamble : Yaml.Value) : List Failure :=
  match preamble.untagged with
  | .map entries =>
    let unknown := (entries.map (·.1)).filter (!isKnown ·)
    let found := unknown.map .unknown ++ Header.all.filterMap (headerFailure? schema (.map entries))
    if found.isEmpty then crossFailures schema (.map entries) else found
  | _ => [.notObject preamble]

end ProposalLint.Preamble
