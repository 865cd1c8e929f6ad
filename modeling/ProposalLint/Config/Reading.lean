import ProposalLint.Config.Basic
import ProposalLint.Toml.Document

namespace ProposalLint

namespace Config

-- A value that may be absent but must have a shape if it is there.
def shaped {α : Type} (read : Toml.Value → Option α) (default : α) : Option Toml.Value → Option α
  | none => some default
  | some v => read v

def ruleConfig? (v : Toml.Value) : Option RuleConfig := do
  let entries ← v.entries?
  let enabled ← shaped (fun v => v.bool?.map some) none (entries.lookup "enabled")
  some ⟨enabled, entries.filter (·.1 != "enabled")⟩

def rules? (v : Toml.Value) : Option (List (String × RuleConfig)) := do
  (← v.entries?).mapM fun (id, v) => (ruleConfig? v).map (id, ·)

-- The two lists of patterns, in their order or by name.
def documents? (c : Config) (v : Toml.Value) : Option Config := do
  let (included, excluded) ← match v with
    | .array items => some (items[0]?, items[1]?)
    | _ => v.entries?.map fun entries => (entries.lookup "include", entries.lookup "exclude")
  some { c with
    included := ← shaped (·.strings?) c.included included
    excluded := ← shaped (·.strings?) c.excluded excluded }

def ofTable? (entries : List (String × Toml.Value)) : Option Config := do
  let preset ← shaped (fun v => v.string?.map some) none (entries.lookup "preset")
  let rules ← shaped rules? [] (entries.lookup "rules")
  let c : Config := { preset := preset, rules := rules }
  shaped (documents? c) c (entries.lookup "validator")

-- The configuration that a text describes. Keys that mean nothing are passed over, but what is
-- known must have the right shape.
def parse (text : String) : Option Config := do
  ofTable? (← Toml.parse text)

end Config
end ProposalLint
