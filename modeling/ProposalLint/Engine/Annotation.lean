import ProposalLint.Document.Node
import ProposalLint.Text.Whitespace
import ProposalLint.Yaml.Document

namespace ProposalLint

-- A block holds a value or is no valid data.
inductive Annotation where
  | parsed (value : Yaml.Value)
  | invalid
deriving Inhabited

namespace Annotation

-- A blank block holds null.
def ofText (text : String) : Annotation :=
  if (Text.trim text).isEmpty then parsed .null
  else
    match Yaml.parse text with
    | some value => parsed value
    | none => invalid

def value? : Annotation → Option Yaml.Value
  | parsed value => some value
  | invalid => none

end Annotation

-- Kept by the identity of the node; the blocks are read before any rule runs.
structure Annotations where
  entries : List (NodeId × Annotation) := []
deriving Inhabited

namespace Annotations

-- One entry for each `yaml` node under the given one.
def collect (root : Visit) : Annotations where
  entries := root.walk.filterMap fun v =>
    if v.node.kind = .yaml then some (v.id, Annotation.ofText (v.node.value.getD "")) else none

-- What was kept for the same identity before is lost.
def insert (a : Annotations) (id : NodeId) (entry : Annotation) : Annotations where
  entries := a.entries.filter (·.1 != id) ++ [(id, entry)]

-- The entry for a node, if it is a `yaml` node.
def add (a : Annotations) (v : Visit) : Annotations :=
  if v.node.kind = .yaml then a.insert v.id (.ofText (v.node.value.getD "")) else a

-- The table of the nodes that a walk passes, whatever identities they have.
def ofVisits (vs : List Visit) : Annotations :=
  vs.foldl add {}

def at? (a : Annotations) (v : Visit) : Option Annotation :=
  a.entries.lookup v.id

def size (a : Annotations) : Nat :=
  a.entries.length

end Annotations
end ProposalLint
