import ProposalLint.Engine.Run
import ProposalLint.Files.FileSystem

namespace ProposalLint

-- The messages of one document.
structure FileResult where
  path : String
  messages : List Message
deriving DecidableEq, Inhabited, Repr

namespace FileResult

def isClean (r : FileResult) : Bool :=
  r.messages.isEmpty

end FileResult

structure LintResult where
  files : List FileResult := []
deriving DecidableEq, Inhabited, Repr

namespace LintResult

def hasErrors (r : LintResult) : Bool :=
  r.files.any (!·.isClean)

def messageCount (r : LintResult) : Nat :=
  r.files.foldr (fun f n => f.messages.length + n) 0

def filesChecked (r : LintResult) : Nat :=
  r.files.length

-- All messages with the document they are about.
def messages (r : LintResult) : List (String × Message) :=
  r.files.flatMap fun f => f.messages.map (f.path, ·)

def summary (r : LintResult) : String :=
  "Validation complete: " ++ toString r.messageCount ++ " message(s) in " ++
    toString r.filesChecked ++ " file(s)"

end LintResult

-- What remains of checking documents: the results or the first failure, the log and the requests.
structure BatchOutcome where
  result : Except EngineError LintResult
  notes : List Note := []
  requests : List String := []
deriving Inhabited

namespace Engine

-- Reads a document and checks it.
def validateFile (e : Engine) (fs : FileSystem) (path : String)
    (s : Scheduler := Scheduler.rounds) : Outcome :=
  match fs.readText path with
  | .ok source => e.validateSource source (some path) s
  | .error cause => ⟨.error (.io path cause.message), {}, []⟩

def validateFrom (e : Engine) (fs : FileSystem) (s : Scheduler) : List String → LintResult →
    List Note → List String → BatchOutcome
  | [], r, notes, requests => ⟨.ok r, notes ++ [.info r.summary], requests⟩
  | path :: paths, r, notes, requests =>
    let outcome := e.validateFile fs path s
    let notes := notes ++ outcome.trace.notes
    let requests := requests ++ outcome.trace.requests
    match outcome.result with
    | .error cause => ⟨.error cause, notes, requests⟩
    | .ok ms => validateFrom e fs s paths ⟨r.files ++ [⟨path, ms⟩]⟩ notes requests

-- Checks documents in their order.
def validateFiles (e : Engine) (fs : FileSystem) (paths : List String)
    (s : Scheduler := Scheduler.rounds) : BatchOutcome :=
  e.validateFrom fs s paths {} [] []

end Engine
end ProposalLint
