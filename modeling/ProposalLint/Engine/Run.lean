import ProposalLint.Config.Basic
import ProposalLint.Engine.Pool
import ProposalLint.Engine.Rule
import ProposalLint.Markdown.Tree

namespace ProposalLint

structure Engine where
  rules : List Rule
  config : Config := {}

-- A rule that is ready for one run.
structure ActiveRule where
  id : String
  State : Type
  state : State
  validators : List (Validator State)

-- What a run leaves: its result, its trace and the rules whose setup was started.
structure Outcome where
  result : Except EngineError (List Message)
  trace : Trace
  created : List String
deriving Inhabited

-- The first text that was there before.
def firstRepeated? : List String → (seen : List String := []) → Option String
  | [], _ => none
  | x :: xs, seen => if seen.contains x then some x else firstRepeated? xs (x :: seen)

-- Where a run stands between two dispatches.
structure RunState (s : Scheduler) where
  trace : Trace := {}
  schedule : s.State := s.start

namespace ActiveRule

variable {s : Scheduler}

def ofSetup (id : String) {σ : Type} (s : Setup σ) : ActiveRule where
  id := id
  State := σ
  state := s.state
  validators := s.validators

-- One call for each validator; only those that select the node have something to do.
def calls (r : ActiveRule) (v : Visit) : List (Call r.State) :=
  r.validators.map fun w => if w.selects v.node then .waiting (w.start v) else .closed

-- The pool of a rule that becomes the current one for a node.
def pool (r : ActiveRule) (v : Visit) (t : Trace) : Pool r.State where
  calls := r.calls v
  running := ⟨t.enter r.id, r.state⟩

def error (r : ActiveRule) (v : Visit) : Fault → EngineError
  | .error cause => .validator r.id v.node.kind.name cause
  | .panic => .panicked r.id

-- Runs the calls of one rule on one node. The rule is the current one meanwhile.
def dispatch (r : ActiveRule) (v : Visit) (c : RunState s) :
    ActiveRule × RunState s × Option EngineError :=
  let pool := r.pool v c.trace
  if pool.openCalls.isEmpty then
    (r, { c with trace := c.trace.record ⟨v, r.id, []⟩ }, none)
  else
    let settled := pool.settle s (s.enter c.schedule pool.openCalls)
    let trace := settled.2.running.trace.leave.record ⟨v, r.id, settled.2.turns⟩
    ({ r with state := settled.2.running.state }, ⟨trace, settled.1⟩,
      settled.2.fault.map (r.error v))

end ActiveRule

section
variable {s : Scheduler}

-- Lets the rules run on a node in their order, up to the first that fails.
def dispatchAll (v : Visit) : List ActiveRule → RunState s →
    List ActiveRule × RunState s × Option EngineError
  | [], c => ([], c, none)
  | r :: rs, c =>
    match r.dispatch v c with
    | (r, c, some e) => (r :: rs, c, some e)
    | (r, c, none) =>
      let (rs, c, e) := dispatchAll v rs c
      (r :: rs, c, e)

def visitAll : List Visit → List ActiveRule → RunState s → RunState s × Option EngineError
  | [], _, c => (c, none)
  | v :: vs, rs, c =>
    match dispatchAll v rs c with
    | (_, c, some e) => (c, some e)
    | (rs, c, none) => visitAll vs rs c

end

-- Sets up the rules in their order, up to the first that fails.
def createAll (c : Context) : List Rule → Trace → (created : List String) →
    Except EngineError (List ActiveRule) × Trace × List String
  | [], t, created => (.ok [], t, created)
  | r :: rs, t, created =>
    let created := created ++ [r.id]
    match (r.create c).run ⟨t, ()⟩ with
    | (.ok setup, running) =>
      match createAll c rs running.trace created with
      | (.ok active, t, created) => (.ok (ActiveRule.ofSetup r.id setup :: active), t, created)
      | failed => failed
    | (.error (.error cause), running) => (.error (.create r.id cause), running.trace, created)
    | (.error .panic, running) => (.error (.aborted r.id), running.trace, created)

def messages (reports : List Report) : Except EngineError (List Message) :=
  reports.mapM fun r =>
    match r.message? with
    | some m => .ok m
    | none => .error (.missingPosition r.ruleId r.kind.name)

namespace Engine

-- An engine over rules with different names.
def build (rules : List Rule) (config : Config := {}) : Except EngineError Engine :=
  match firstRepeated? (rules.map (·.id)) with
  | some id => .error (.duplicateRule id)
  | none => .ok ⟨rules, config⟩

def active (e : Engine) : List Rule :=
  e.rules.filter fun r => e.config.isEnabled r.id

-- Checks a document tree. The scheduler decides between validators that run side by side.
def validateTree (e : Engine) (root : Node) (path : Option String)
    (s : Scheduler := Scheduler.rounds) : Outcome :=
  match firstRepeated? (e.active.map (·.id)) with
  | some id => ⟨.error (.duplicateRule id), {}, []⟩
  | none =>
    let top : Visit := ⟨0, root⟩
    let context : Context := ⟨path, Annotations.collect top⟩
    match createAll context e.active {} [] with
    | (.error cause, t, created) => ⟨.error cause, t, created⟩
    | (.ok rules, t, created) =>
      match visitAll top.walk rules { trace := t : RunState s } with
      | (c, some cause) => ⟨.error cause, c.trace, created⟩
      | (c, none) => ⟨messages c.trace.reports, c.trace, created⟩

-- Reads a document and checks it.
def validateSource (e : Engine) (source : String) (path : Option String)
    (s : Scheduler := Scheduler.rounds) : Outcome :=
  e.validateTree (Markdown.parse source) path s

end Engine
end ProposalLint
