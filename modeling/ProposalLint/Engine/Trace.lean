import ProposalLint.Engine.Annotation
import ProposalLint.Engine.Failure
import ProposalLint.Engine.Message
import ProposalLint.Files.Path

namespace ProposalLint

-- What is known about the document of a run.
structure Context where
  path : Option String := none
  annotations : Annotations := {}
deriving Inhabited

namespace Context

def fileName? (c : Context) : Option String :=
  c.path.bind Path.fileName?

-- The value of a front matter block that could be read.
def parsed? (c : Context) (v : Visit) : Option Yaml.Value :=
  (c.annotations.at? v).bind Annotation.value?

end Context

-- A line of the log.
inductive Note where
  | info (text : String)
  | warn (text : String)
deriving DecidableEq, Inhabited, Repr

-- What can be seen of the call of a validator from outside.
inductive CallEvent where
  | called
  | reported (finding : Finding)
  | ended (fault : Option Fault)
deriving Inhabited, Repr

namespace CallEvent

def finding? : CallEvent → Option Finding
  | reported f => some f
  | _ => none

def fault? : CallEvent → Option Fault
  | ended fault => fault
  | _ => none

end CallEvent

-- An event, and the place among the validators of its rule of the one it comes from.
structure Turn where
  validator : Nat
  event : CallEvent
deriving Inhabited, Repr

-- What happened while one rule had its turn on one node.
structure Dispatch where
  visit : Visit
  rule : String
  turns : List Turn := []
deriving Inhabited

namespace Dispatch

def findings (d : Dispatch) : List Finding :=
  d.turns.filterMap (·.event.finding?)

def reports (d : Dispatch) : List Report :=
  d.findings.map (·.report d.rule)

-- The fault of the call that was the first to end in one.
def fault? (d : Dispatch) : Option Fault :=
  d.turns.findSome? (·.event.fault?)

end Dispatch

-- A program that is started in a directory. It counts whether or not there is such a program.
structure Launch where
  program : String
  directory : String
  arguments : List String
deriving DecidableEq, Inhabited, Repr

-- The record of a run. `current` is the rule whose validators are running.
structure Trace where
  current : Option String := none
  reports : List Report := []
  notes : List Note := []
  requests : List String := []
  launches : List Launch := []
  dispatches : List Dispatch := []
deriving Inhabited

namespace Trace

-- A finding goes to the rule that is running and is refused if none is.
def stamp (t : Trace) (f : Finding) : Except RuleError Report :=
  match t.current with
  | some id => .ok (f.report id)
  | none => .error .noActiveRule

def enter (t : Trace) (rule : String) : Trace :=
  { t with current := some rule }

def leave (t : Trace) : Trace :=
  { t with current := none }

def record (t : Trace) (d : Dispatch) : Trace :=
  { t with dispatches := t.dispatches ++ [d] }

end Trace
end ProposalLint
