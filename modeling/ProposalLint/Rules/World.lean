import ProposalLint.Calendar.Date
import ProposalLint.Files.FileSystem
import ProposalLint.Url.Web

namespace ProposalLint

-- A question to the version history of the directory that a document is in.
inductive HistoryQuery where
  | insideWorkTree
  | shallowRepository
  -- The day of the last change to a file.
  | lastChange (file : String)
deriving DecidableEq, Inhabited, Repr

inductive HistoryReply where
  -- There is no program to ask, or no directory to ask it in.
  | notFound
  | notStarted (cause : String)
  | exited (success : Bool) (output : String)
deriving DecidableEq, Inhabited, Repr

inductive WebMethod where
  | head
  | get
deriving DecidableEq, Inhabited, Repr

namespace WebMethod

def name : WebMethod → String
  | head => "HEAD"
  | get => "GET"

end WebMethod

-- What rules can ask about the world outside the document.
structure World where
  today : Date
  -- What texts are as addresses.
  address? : Url.Parser := Url.Address.parse?
  history : (directory : String) → HistoryQuery → HistoryReply := fun _ _ => .notFound
  -- The status a server answers with, if it can be reached.
  web : WebMethod → (url : String) → Option Nat := fun _ _ => none
  -- How the checks of the links under a node get on: which of them takes a step next. Those that
  -- are left go on one after another.
  turns : (root : Nat) → List Nat := fun _ => []
deriving Inhabited

-- A program that answers questions starts only in a directory.
def HistoryReply.startedIn (fs : FileSystem) (answer : HistoryQuery → HistoryReply)
    (directory : String) (q : HistoryQuery) : HistoryReply :=
  match fs.find directory with
  | .ok (.directory _) => answer q
  | .ok (.file _) => .notStarted FileError.notDirectory.message
  | .error .notFound => .notFound
  | .error e => .notStarted e.message

end ProposalLint
