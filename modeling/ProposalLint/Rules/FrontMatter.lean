import ProposalLint.Engine.Rule

namespace ProposalLint.Rules

def validYaml : Rule :=
  .single "yaml" "Front-matter must be valid YAML" "yaml" () fun c v => do
    if let some .invalid := c.annotations.at? v then
      Action.report v.node "Front-matter is not valid YAML"

-- The blocks under a node that hold a value.
def preambles (c : Context) (root : Visit) : List Visit :=
  root.walk.filter fun v => v.node.kind = .yaml && (c.parsed? v).isSome

def preambleExists : Rule :=
  .single "preamble-exists" "Document must have exactly one preamble" "root" () fun c root => do
    let found := preambles c root
    if found.isEmpty then
      Action.report root.node "No preamble found"
    (found.drop 1).forM fun extra => Action.report extra.node "Too many preambles"

-- Runs once in a run: on the first block that holds a value. The state says whether it was met.
def onFirst (c : Context) (work : Visit → Yaml.Value → Action Bool Unit) (v : Visit) :
    Action Bool Unit := do
  if let some preamble := c.parsed? v then
    if !(← Action.update fun _ => true) then
      work v preamble

-- A rule about the preamble of a document.
def preambleRule (id description : String)
    (work : Context → Visit → Yaml.Value → Action Bool Unit) : Rule :=
  .single id description "yaml" false fun c => onFirst c (work c)

end ProposalLint.Rules
