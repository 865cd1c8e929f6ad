import ProposalLint.Discovery.IgnoreRule
import ProposalLint.Files.FileSystem

namespace ProposalLint

-- What a directory says about the paths below it.
structure IgnoreScope where
  place : List String
  general : IgnoreFile := []
  versioned : IgnoreFile := []
  unshared : IgnoreFile := []
  isRepository : Bool := false
deriving Inhabited, Repr

namespace IgnoreScope

def rulesAt (names : List String) (e : Entry) : IgnoreFile :=
  match e.at? names with
  | some (.file bytes) => IgnoreFile.parse bytes
  | _ => []

def ofEntry (place : List String) (e : Entry) : IgnoreScope :=
  { place := place
    general := rulesAt [".ignore"] e
    versioned := rulesAt [".gitignore"] e
    unshared := rulesAt [".git", "info", "exclude"] e
    isRepository := (e.child? ".git").isSome || (e.child? ".jj").isSome }

-- What one of the files of a scope says about a place below it.
def verdict (file : IgnoreScope → IgnoreFile) (s : IgnoreScope) (place : List String)
    (isDirectory : Bool) : Option Bool :=
  (file s).verdict ("/".intercalate (place.drop s.place.length)).toUTF8.toList isDirectory

end IgnoreScope

-- The scopes up to the nearest repository, that one included.
def repositoryScopes : List IgnoreScope → List IgnoreScope
  | [] => []
  | s :: ss => if s.isRepository then [s] else s :: repositoryScopes ss

-- Whether a place is left out. The nearest scope comes first, and general rules come before those
-- of a repository.
def isIgnored (scopes : List IgnoreScope) (place : List String) (isDirectory : Bool) : Bool :=
  let ask (file : IgnoreScope → IgnoreFile) (ss : List IgnoreScope) : Option Bool :=
    ss.findSome? fun s => s.verdict file place isDirectory
  let inRepository := if scopes.any (·.isRepository) then repositoryScopes scopes else []
  ((ask (·.general) scopes).or ((ask (·.versioned) inRepository).or
    (ask (·.unshared) inRepository))).getD false

mutual

-- The Markdown files below an entry.
def markdownBelow (scopes : List IgnoreScope) (place : List String) (path : String) :
    Entry → List String
  | .file _ => if Path.extension? path == some "md" then [path] else []
  | .directory entries =>
    markdownAmong (IgnoreScope.ofEntry place (.directory entries) :: scopes) place path entries

def markdownAmong (scopes : List IgnoreScope) (place : List String) (path : String) :
    List (String × Entry) → List String
  | [] => []
  | (name, e) :: es =>
    (if isIgnored scopes (place ++ [name]) e.isDirectory then []
      else markdownBelow scopes (place ++ [name]) (Path.join path name) e)
      ++ markdownAmong scopes place path es

end

namespace FileSystem

-- The scopes of the directories above a place, the nearest one first.
def scopesAbove (fs : FileSystem) (place : List String) : List IgnoreScope :=
  ((List.range place.length).filterMap fun n =>
    (fs.root.at? (place.take n)).map (IgnoreScope.ofEntry (place.take n))).reverse

-- The Markdown files in a directory, spelled from the path that is given for it.
def markdownFiles (fs : FileSystem) (path : String) : List String :=
  match fs.locate path with
  | .error _ => []
  | .ok place =>
    match fs.root.at? place with
    | some e => markdownBelow (fs.scopesAbove place) place path e
    | none => []

end FileSystem
end ProposalLint
