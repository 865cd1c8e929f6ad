import ProposalLint.Discovery.Glob
import ProposalLint.Files.FileSystem

namespace ProposalLint

-- A pattern in components, from the root or from the current directory.
structure GlobPath where
  isAbsolute : Bool
  parts : List Glob
  directoriesOnly : Bool
deriving DecidableEq, Inhabited, Repr

namespace GlobPath

-- Components divided by slashes, where an empty last one does not count.
def splitParts (cs : List Char) : List String :=
  let parts := (cs.splitOn '/').map String.ofList
  if parts.getLast? == some "" then parts.dropLast else parts

-- One run of components is as good as several in a row.
def mergeComponents : List Glob → List Glob
  | g :: h :: gs =>
    if g.isComponents && h.isComponents then mergeComponents (h :: gs)
    else g :: mergeComponents (h :: gs)
  | gs => gs

def parse (text : String) : Except GlobError GlobPath := do
  let _ ← Glob.parse text
  let isAbsolute := Path.isAbsolute text
  let body := if isAbsolute then text.toList.drop 1 else text.toList
  let parts ← (splitParts body).mapM Glob.parse
  let parts := if body.isEmpty then parts ++ [⟨"", []⟩] else parts
  return ⟨isAbsolute, mergeComponents parts, text.toList.getLast? == some '/'⟩

end GlobPath

namespace FileSystem

-- A path inside a directory; what is in the current directory has no further name for it.
def inside (path name : String) : String :=
  if Path.components path == [.current] then name else Path.join path name

mutual

def below (path : String) : Entry → List (String × Entry)
  | .file _ => []
  | .directory entries => belowAll path entries

def belowAll (path : String) : List (String × Entry) → List (String × Entry)
  | [] => []
  | (name, e) :: es => (inside path name, e) :: (below (inside path name) e ++ belowAll path es)

end

def childrenOf (fs : FileSystem) (path : String) : List (String × Entry) :=
  match fs.find path with
  | .ok (.directory entries) => entries
  | _ => []

def descendants (fs : FileSystem) (path : String) : List (String × Entry) :=
  belowAll path (fs.childrenOf path)

-- Directories are found under a dot or two only if the pattern begins with a dot.
def dotNames (g : Glob) : List String :=
  if g.tokens.head? == some (.char '.') then ["..", "."].filter g.matchesText else []

-- A name without wildcards is looked up, so that it may also be a dot or two.
def expandName (fs : FileSystem) (g : Glob) (path : String) : List String :=
  if g.isPlain then
    let next := inside path g.text
    let isThere := if g.text == "." || g.text == ".." then fs.isDirectory path
      else (fs.find next).isOk
    if isThere then [next] else []
  else if fs.isDirectory path then
    (dotNames g).map (Path.join path) ++ ((fs.childrenOf path).map (·.1)).filterMap fun name =>
      if g.matchesText name then some (inside path name) else none
  else
    []

-- The paths that components lead to from a path.
def expand (fs : FileSystem) : List Glob → String → List String
  | [], path => [path]
  | [g], path =>
    if g.isComponents then
      (fs.descendants path).filterMap fun (p, e) => if e.isDirectory then some p else none
    else
      fs.expandName g path
  | g :: h :: gs, path =>
    if g.isComponents then
      ((fs.descendants path).map (·.1)).flatMap fun p =>
        if (Path.fileName? p).any h.matchesText then expand fs gs p else []
    else
      (fs.expandName g path).flatMap fun p => expand fs (h :: gs) p

-- The files that a pattern leads to.
def glob (fs : FileSystem) (p : GlobPath) : List String :=
  if p.directoriesOnly then []
  else (fs.expand p.parts (if p.isAbsolute then "/" else ".")).filter fs.isFile

end FileSystem
end ProposalLint
