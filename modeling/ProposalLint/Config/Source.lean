import ProposalLint.Config.Reading
import ProposalLint.Engine.Trace
import ProposalLint.Files.FileSystem

namespace ProposalLint

namespace Path

def ancestorsFrom : Nat → String → List String
  | 0, path => [path]
  | n + 1, path =>
    path :: match parent? path with
      | some p => ancestorsFrom n p
      | none => []

-- A path and all that it lies in, the path itself first.
def ancestors (path : String) : List String :=
  ancestorsFrom (components path).length path

end Path

inductive ConfigSource where
  | explicit (path : String)
  | project (path : String)
  | user (path : String)
  | builtIn
deriving DecidableEq, Inhabited, Repr

inductive ConfigError where
  | unreadable (path : String) (cause : FileError)
  | malformed
deriving DecidableEq, Inhabited, Repr

namespace ConfigError

def chain : ConfigError → List String
  | unreadable path cause =>
    ["Failed to read config file " ++ path ++ ": " ++ cause.message, cause.message]
  | malformed => ["Failed to parse config:"]

end ConfigError

namespace ConfigSource

def fileNames : List String := ["sip-lint.toml", ".sip-lint.toml"]

def path? : ConfigSource → Option String
  | explicit path | project path | user path => some path
  | builtIn => none

-- The configuration files that a directory may hold, the preferred one first.
def candidates (directory : String) : List String :=
  fileNames.map (Path.join directory)

-- Finds the configuration for a run in a directory.
def resolve (fs : FileSystem) (userDirectory : Option String) (directory : String)
    (asked : Option String) : ConfigSource :=
  match asked with
  | some path => explicit path
  | none =>
    let start := match fs.locate directory with
      | .ok names => "/" ++ "/".intercalate names
      | .error _ => directory
    match ((Path.ancestors start).flatMap candidates).find? fs.isFile with
    | some path => project path
    | none =>
      match (userDirectory.map (Path.join · "config.toml")).filter fs.isFile with
      | some path => user path
      | none => builtIn

-- What is logged when the configuration is read.
def notes : ConfigSource → List Note
  | user path => [.info ("Using global config: " ++ path)]
  | _ => []

-- Reads the configuration.
def load (fs : FileSystem) (s : ConfigSource) : Except (String × ConfigError) Config :=
  match s.path? with
  | none => .ok {}
  | some path =>
    match fs.readText path with
    | .error cause => .error (path, .unreadable path cause)
    | .ok text =>
      match Config.parse text with
      | some c => .ok c
      | none => .error (path, .malformed)

def loadErrorChain (path : String) (e : ConfigError) : List String :=
  ("Failed to load config: " ++ path) :: e.chain

end ConfigSource
end ProposalLint
