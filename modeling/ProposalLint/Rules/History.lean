import ProposalLint.Calendar.Reading
import ProposalLint.Preamble.Schema
import ProposalLint.Rules.FrontMatter
import ProposalLint.Rules.World

namespace ProposalLint.Rules

-- What the header is compared with.
inductive Reference where
  | fixed (date : Date)
  | lastChange
deriving DecidableEq, Inhabited, Repr

-- What the history knows about a file.
inductive LastChange where
  | changed (date : Date)
  | unavailable
  | noRepository
  | shallow
  | uncommitted
deriving DecidableEq, Inhabited, Repr

namespace LastChange

def note? : LastChange → Option String
  | changed _ => none
  | unavailable => some "git is not available, skipping git check"
  | noRepository => some "The file is not in a git repository"
  | shallow =>
    some "File is located in shallow repository. Can't get correct last edited time"
  | uncommitted => some "File is not committed to git repository"

end LastChange

-- The arguments of the program that is asked a question.
def arguments : HistoryQuery → List String
  | .insideWorkTree => ["rev-parse", "--is-inside-work-tree"]
  | .shallowRepository => ["rev-parse", "--is-shallow-repository"]
  | .lastChange file => ["log", "-1", "--format=%as", "--", file]

-- Puts a question to the history of a directory.
def ask (world : World) (directory : String) (q : HistoryQuery) : Action Bool HistoryReply := do
  Action.launch ⟨"git", directory, arguments q⟩
  return world.history directory q

-- The trimmed output of a successful call; a call that could not be made is an error.
def output : HistoryReply → Action Bool (Option String)
  | .notFound => Action.fail (.io FileError.notFound.message)
  | .notStarted cause => Action.fail (.io cause)
  | .exited true output => return some (Text.trim output)
  | .exited false _ => return none

def directoryOf (path : String) : String :=
  match Path.parent? path with
  | some parent => if parent.isEmpty then "." else parent
  | none => "."

-- Reads the day of a change, if there was one.
def readChange : Option String → Action Bool LastChange
  | none | some "" => return .uncommitted
  | some text =>
    match Date.read text with
    | .ok date => return .changed date
    | .error e =>
      Action.fail (.other ("unexpected git date " ++ Text.quoted text ++ ": " ++ e.message))

-- Asks when a file was last changed. The first question may find nobody to answer it.
def lastChange (world : World) (path : String) : Action Bool LastChange := do
  let some file := Path.fileName? path | return .uncommitted
  let inside ← ask world (directoryOf path) .insideWorkTree
  if inside = .notFound then return .unavailable
  if (← output inside) != some "true" then return .noRepository
  let shallow ← ask world (directoryOf path) .shallowRepository
  if (← output shallow) == some "true" then return .shallow
  let log ← ask world (directoryOf path) (.lastChange file)
  readChange (← output log)

-- The date that `updated` must not be before, if there is one.
def referenceDate (world : World) (c : Context) : Reference → Action Bool (Option Date)
  | .fixed date => return some date
  | .lastChange => do
    let some path := c.path | return none
    match ← lastChange world path with
    | .changed date => return some date
    | other =>
      other.note?.forM fun text => Action.note (.info text)
      return none

def updatedDate? (today : Date) (preamble : Yaml.Value) : Option Date :=
  (preamble.untagged.field? "updated").bind (Preamble.dateOf? today)

-- Compares the header with the date it must not be before.
def checkUpdated (world : World) (reference : Reference) (c : Context) (v : Visit)
    (preamble : Yaml.Value) : Action Bool Unit := do
  if let some updated := updatedDate? world.today preamble then
    if let some date ← referenceDate world c reference then
      if updated.before date then
        Action.report v.node
          "The \"updated\" preamble property is older than last git updated time"

def gitUpdated (world : World) (reference : Reference := .lastChange) : Rule :=
  preambleRule "git-updated" "Preamble \"updated\" must not be older than the last git change"
    (checkUpdated world reference)

end ProposalLint.Rules
