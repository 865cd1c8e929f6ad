import ProposalLint.Engine.Rule
import ProposalLint.Yaml.Record

namespace ProposalLint.Script

inductive Step where
  | report (text : String)
  | reportChildren (text : String)
  -- Reports on the first call only.
  | once (text : String)
  | calls
  -- Reports the current rule and how many reports there are.
  | state
  | path
  | content
  | yaml
  -- Reports on a node that is in no document.
  | detached (text : String)
  | error (cause : RuleError)
  | panic
  -- Lets the other validators of the rule run.
  | yield
deriving DecidableEq, Inhabited

-- A list of steps to take on every node; the calls are counted within a run.
structure ScriptValidator where
  selector : String
  -- Only such a validator lets others run.
  sharing : Bool
  steps : List Step
deriving Inhabited

structure ScriptRule where
  id : String
  create : List Step := []
  validators : List ScriptValidator := []
deriving Inhabited

def detachedNode : Node :=
  .leaf .text none .none

def annotationText (c : Context) (v : Visit) : String :=
  match c.annotations.at? v with
  | none => "none"
  | some .invalid => "invalid"
  | some (.parsed value) => value.toJson.compact

variable {σ : Type}

-- One step on a node, in the call with the given number.
def Step.run (c : Context) (v : Visit) (sharing : Bool) (call : Nat) : Step → Action σ Unit
  | report text => Action.report v.node text
  | reportChildren text => v.node.children.forM fun child => Action.report child text
  | once text => if call = 0 then Action.report v.node text else pure ()
  | calls => Action.report v.node ("call " ++ toString call)
  | state => do
    let rule ← Action.currentRule
    let count ← Action.reportCount
    Action.report v.node (rule.getD "-" ++ " " ++ toString count)
  | path => Action.report v.node (c.path.getD "-" ++ " " ++ c.fileName?.getD "-")
  | content => Action.report v.node v.node.textContent
  | yaml => Action.report v.node (annotationText c v)
  | detached text => Action.report detachedNode text
  | error cause => Action.fail cause
  | panic => Action.panic
  | yield => if sharing then Action.yield else pure ()

-- The state holds for each validator how often it was called.
def ScriptValidator.validator (c : Context) (w : ScriptValidator) (index : Nat) :
    Validator (List Nat) where
  selector := w.selector
  start v := do
    let counts ← Action.update fun counts => counts.set index (counts.getD index 0 + 1)
    w.steps.forM (Step.run c v w.sharing (counts.getD index 0))

def ScriptRule.rule (s : ScriptRule) : Rule where
  id := s.id
  State := List Nat
  create c := do
    s.create.forM (Step.run c ⟨0, detachedNode⟩ false 0)
    return {
      state := List.replicate s.validators.length 0
      validators := s.validators.zipIdx.map fun (w, i) => w.validator c i }

end ProposalLint.Script
