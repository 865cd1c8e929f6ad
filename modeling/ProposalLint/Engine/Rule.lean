import ProposalLint.Engine.Action
import ProposalLint.Engine.Selector
import ProposalLint.Text.Quoted

namespace ProposalLint

-- A validator is called on the nodes that its selector selects.
structure Validator (σ : Type) where
  selector : String
  start : Visit → Action σ Unit

namespace Validator

variable {σ : Type}

def selects (v : Validator σ) (n : Node) : Bool :=
  (Selector.ofText v.selector).selects n

-- Texts in quotes, in brackets.
def listText (texts : List String) : String :=
  "[" ++ ", ".intercalate (texts.map Text.quoted) ++ "]"

end Validator

-- What a rule has ready for one run.
structure Setup (σ : Type) where
  state : σ
  validators : List (Validator σ)

-- A rule. Its state lives for one run and is made by `create`, which runs while no rule is active.
structure Rule where
  id : String
  description : String := ""
  State : Type
  create : Context → Action Unit (Setup State)

namespace Rule

-- A rule with one validator and a state that starts out fixed.
def single {σ : Type} (id description selector : String) (state : σ)
    (work : Context → Visit → Action σ Unit) : Rule where
  id := id
  description := description
  State := σ
  create context := pure ⟨state, [⟨selector, work context⟩]⟩

-- What a rule sets up when nothing has been recorded yet.
def setup (r : Rule) (c : Context) : Except Fault (Setup r.State) :=
  ((r.create c).run ⟨{}, ()⟩).1

-- The selectors of the validators that a rule sets up.
def selectors (r : Rule) (c : Context) : List String :=
  match r.setup c with
  | .ok setup => setup.validators.map (·.selector)
  | .error _ => []

end Rule
end ProposalLint
