import ProposalLint.Toml.Value

namespace ProposalLint

structure RuleConfig where
  enabled : Option Bool := none
  options : List (String × Toml.Value) := []
deriving Inhabited, Repr

structure Config where
  preset : Option String := none
  included : List String := ["sips/sip-*.md"]
  excluded : List String := []
  rules : List (String × RuleConfig) := []
deriving Inhabited, Repr

namespace RuleConfig

def option? (c : RuleConfig) (key : String) : Option Toml.Value :=
  c.options.lookup key

-- An option that is a text.
def string? (c : RuleConfig) (key : String) : Option String :=
  (c.option? key).bind (·.string?)

-- An option as a text, where a date counts as the text it is shown as.
def text? (c : RuleConfig) (key : String) : Option String :=
  (c.option? key).bind (·.text?)

def texts? (c : RuleConfig) (key : String) : Option (List String) :=
  (c.option? key).bind (·.texts?)

def integer? (c : RuleConfig) (key : String) : Option Int :=
  (c.option? key).bind (·.integer?)

-- An option that is a whole number below 256.
def byte? (c : RuleConfig) (key : String) : Option Int :=
  (c.integer? key).filter fun n => 0 ≤ n && n < 256

def bool? (c : RuleConfig) (key : String) : Option Bool :=
  (c.option? key).bind (·.bool?)

end RuleConfig

namespace Config

def rule? (c : Config) (id : String) : Option RuleConfig :=
  c.rules.lookup id

-- A rule is enabled unless it is turned off.
def isEnabled (c : Config) (id : String) : Bool :=
  ((c.rule? id).bind (·.enabled)).getD true

end Config
end ProposalLint
