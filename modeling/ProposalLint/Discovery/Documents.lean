import ProposalLint.Discovery.Search
import ProposalLint.Discovery.Walk

namespace ProposalLint

-- An input or an exclusion that is no pattern.
inductive DiscoveryError where
  | exclusion (pattern : String) (cause : GlobError)
  | input (pattern : String) (cause : GlobError)
deriving DecidableEq, Inhabited, Repr

namespace DiscoveryError

def chain : DiscoveryError → List String
  | exclusion pattern cause => ["Invalid exclude pattern: " ++ pattern, cause.message]
  | input pattern cause => ["Invalid glob pattern: " ++ pattern, cause.message]

end DiscoveryError

-- Puts a path into a list in order; of two spellings of one path the first stays.
def insertPath (path : String) : List String → List String
  | [] => [path]
  | p :: ps =>
    match Path.order path p with
    | .lt => path :: p :: ps
    | .eq => p :: ps
    | .gt => p :: insertPath path ps

def parseExclusions (patterns : List String) : Except DiscoveryError (List Glob) :=
  patterns.mapM fun p => (Glob.parse p).mapError (.exclusion p)

-- A pattern excludes a path as it is spelled, without a dot in front, or by its name.
def isExcluded (exclusions : List Glob) (path : String) : Bool :=
  let relative := (Path.below? "." path).getD path
  exclusions.any fun g =>
    g.matchesText path || g.matchesText relative || (Path.fileName? path).any g.matchesText

namespace FileSystem

-- The files that one input leads to.
def documentsOf (fs : FileSystem) (input : String) : Except DiscoveryError (List String) :=
  if fs.isDirectory input then .ok (fs.markdownFiles input)
  else if fs.isFile input then .ok [input]
  else match GlobPath.parse input with
    | .ok p => .ok (fs.glob p)
    | .error cause => .error (.input input cause)

-- The documents that inputs lead to, or those of `included` if there are no inputs: in order, each
-- once, and without those that are excluded.
def discover (fs : FileSystem) (inputs included excluded : List String) :
    Except DiscoveryError (List String) := do
  let exclusions ← parseExclusions excluded
  let inputs := if inputs.isEmpty then included else inputs
  let found ← inputs.mapM fs.documentsOf
  let documents := found.flatten.foldl (fun ps p => insertPath p ps) []
  return documents.filter (!isExcluded exclusions ·)

end FileSystem
end ProposalLint
