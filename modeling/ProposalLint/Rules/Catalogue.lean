import ProposalLint.Config.Basic
import ProposalLint.Rules.Copyright
import ProposalLint.Rules.FileName
import ProposalLint.Rules.Headers
import ProposalLint.Rules.History
import ProposalLint.Rules.Links

namespace ProposalLint

-- The rules by name.
inductive RuleName where
  | yaml
  | preambleExists
  | preambleData
  | preambleOrder
  | preambleFilename
  | filename
  | copyright
  | gitUpdated
  | badLink
deriving DecidableEq, Inhabited, Repr

namespace RuleName

def id : RuleName → String
  | yaml => "yaml"
  | preambleExists => "preamble-exists"
  | preambleData => "preamble-data"
  | preambleOrder => "preamble-order"
  | preambleFilename => "preamble-filename"
  | filename => "filename"
  | copyright => "copyright"
  | gitUpdated => "git-updated"
  | badLink => "bad-link"

-- All rules in the order of the catalogue.
def all : List RuleName :=
  [yaml, preambleExists, preambleData, preambleOrder, preambleFilename, filename, copyright,
    gitUpdated, badLink]

def ofId? (id : String) : Option RuleName :=
  all.find? (·.id == id)

end RuleName

inductive Preset where
  -- All rules that need no network.
  | recommended
  | strict
  | minimal
deriving DecidableEq, Inhabited, Repr

namespace Preset

def name : Preset → String
  | recommended => "recommended"
  | strict => "strict"
  | minimal => "minimal"

def ofName (name : String) : Except RuleError Preset :=
  match name with
  | "recommended" => .ok recommended
  | "strict" => .ok strict
  | "minimal" => .ok minimal
  | other => .error (.config ("unknown preset \"" ++ other ++ "\""))

def rules : Preset → List RuleName
  | recommended => RuleName.all.filter (· != .badLink)
  | strict => RuleName.all
  | minimal => [.filename, .copyright, .preambleExists]

end Preset

-- What the rules with options are set to.
structure RuleSettings where
  links : Rules.LinkLimits := {}
  reference : Rules.Reference := .lastChange
deriving DecidableEq, Inhabited, Repr

namespace RuleName

open Rules

def rule (world : World) (s : RuleSettings := {}) : RuleName → Rule
  | yaml => Rules.validYaml
  | preambleExists => Rules.preambleExists
  | preambleData => Rules.preambleData world.schema
  | preambleOrder => Rules.preambleOrder
  | preambleFilename => Rules.preambleFilename
  | filename => Rules.filename
  | copyright => Rules.copyright
  | gitUpdated => Rules.gitUpdated world s.reference
  | badLink => Rules.badLink world s.links

-- A whole number option that is not negative.
def natural (c : RuleConfig) (key : String) (default : Nat) : Except RuleError Nat :=
  match c.option? key with
  | none => .ok default
  | some v =>
    match v.integer? with
    | some (.ofNat n) => .ok n
    | _ => .error (.config ("option \"" ++ key ++ "\" must be a non-negative integer"))

def linkLimits (c : RuleConfig) : Except RuleError LinkLimits := do
  let defaults : LinkLimits := {}
  return {
    maxConcurrent := ← natural c "max_concurrent" defaults.maxConcurrent
    timeoutSeconds := ← natural c "timeout_secs" defaults.timeoutSeconds
    minIntervalMilliseconds := ← natural c "min_interval_ms" defaults.minIntervalMilliseconds }

def reference (c : RuleConfig) : Except RuleError Reference :=
  match c.string? "reference_date" with
  | none => .ok .lastChange
  | some text =>
    match Date.read text with
    | .ok date => .ok (.fixed date)
    | .error e =>
      .error (.config ("git-updated reference_date \"" ++ text ++ "\": " ++ e.message))

-- The settings that a rule takes from its configuration.
def settings (c : RuleConfig) : RuleName → Except RuleError RuleSettings
  | badLink => return { links := ← linkLimits c }
  | gitUpdated => return { reference := ← reference c }
  | _ => return {}

end RuleName

namespace Config

-- The rules that a configuration selects: those of the preset, then others that it turns on.
def selected (c : Config) : Except RuleError (List RuleName) := do
  let preset ← match c.preset with
    | some name => Preset.ofName name
    | none => .ok .recommended
  let isAsked (r : RuleName) : Bool := (c.rule? r.id).bind (·.enabled) == some true
  return preset.rules ++ RuleName.all.filter fun r => isAsked r && !preset.rules.contains r

-- The selected rules with their settings. Those that are turned off are kept here.
def choice (c : Config) : Except RuleError (List (RuleName × RuleSettings)) := do
  (← c.selected).mapM fun name => do
    return (name, ← name.settings ((c.rule? name.id).getD {}))

def rulesOf (world : World) (c : Config) : Except RuleError (List Rule) :=
  c.choice.map (List.map fun (name, s) => name.rule world s)

end Config
end ProposalLint
