import ProposalLint.Rules.Catalogue

namespace ProposalLint

def padRight (width : Nat) (s : String) : String :=
  s ++ String.ofList (List.replicate (width - s.length) ' ')

def ruleLine (world : World) (n : RuleName) : String :=
  padRight 20 n.id ++ " " ++ (n.rule world).description ++ "\n"

def presetLine (p : Preset) : String :=
  "  " ++ padRight 12 p.name ++ " - " ++ ", ".intercalate (p.rules.map (·.id)) ++
    (if p = default then " (default)" else "") ++ "\n"

-- All rules with what they ask for, and the presets.
def ruleListing (world : World) : String :=
  "Available rules:\n\n" ++ padRight 20 "Id" ++ " Description\n" ++
    String.ofList (List.replicate 80 '-') ++ "\n" ++
    String.join (RuleName.all.map (ruleLine world)) ++
    "\nPresets:\n" ++
    String.join ([Preset.recommended, .strict, .minimal].map presetLine) ++
    "\nUse --rules to filter specific rules, e.g.:\n  sip-lint check --rules preamble-data,copyright\n"

def initialConfig : String := "\n".intercalate [
  "# sip-lint configuration",
  "",
  "# Rule preset: \"minimal\", \"recommended\" (default) or \"strict\"",
  "preset = \"recommended\"",
  "",
  "[validator]",
  "# Documents validated when no paths are given",
  "include = [\"sips/sip-*.md\"]",
  "",
  "# Glob patterns to skip",
  "exclude = []",
  "",
  "# Rule configurations",
  "# Each rule can be enabled or disabled and take options",
  "",
  "# [rules.git-updated]",
  "# enabled = true",
  "# reference_date = \"2024-01-31\"  # compare against a fixed date instead of git",
  "",
  "# [rules.bad-link]",
  "# enabled = true",
  "# max_concurrent = 8",
  "# timeout_secs = 10",
  "# min_interval_ms = 100",
  ""]

end ProposalLint
