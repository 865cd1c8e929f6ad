import ProposalLint.Config.Source
import ProposalLint.Discovery.Documents
import ProposalLint.Program.Arguments
import ProposalLint.Program.Listing

namespace ProposalLint

-- All that a run of the program can see besides its arguments.
structure Surroundings where
  files : FileSystem
  configDirectory : Option String := none
  home : Option String := none
  workspace : Option String := none
  world : World
deriving Inhabited

namespace Surroundings

-- The directory of the configuration of the user.
def userDirectory (s : Surroundings) : Option String :=
  s.configDirectory.or (s.home.map (Path.join · ".sip-lint"))

end Surroundings

-- Why the program gives up. A complaint tells what went wrong and then its causes.
inductive Failure where
  | complaint (chain : List String)
  | crash
deriving DecidableEq, Inhabited, Repr

namespace RuleError

def chain : RuleError → List String
  | .io text => ["IO error: " ++ text, text]
  | .other text => [text, text]
  | e => [e.message]

end RuleError

namespace EngineError

def causes : EngineError → List String
  | .create _ cause => cause.chain
  | .validator _ _ cause => cause.chain
  | .io _ cause => [cause]
  | _ => []

def failure (context : String) : EngineError → Failure
  | .aborted _ => .crash
  | e => .complaint (context :: e.message :: e.causes)

end EngineError

namespace RenderError

def failure : RenderError → Failure
  | .unreadable path cause => .complaint ["Failed to read " ++ path, cause.message]
  | .aborted _ => .crash

end RenderError

namespace Failure

-- Lines behind the first one are indented like it.
def indented (first : String) (rest : Nat) (text : String) : String :=
  let margin := "\n" ++ String.ofList (List.replicate rest ' ')
  first ++ margin.intercalate ((text.toList.splitOn '\n').map String.ofList)

-- A single cause stands alone, several are numbered.
def causeLines : List String → List String
  | [cause] => [indented "    " 4 cause]
  | causes => causes.zipIdx.map fun (cause, n) =>
    let number := toString n
    indented (String.ofList (List.replicate (5 - number.length) ' ') ++ number ++ ": ") 7 cause

-- The text of a complaint.
def report : List String → String
  | [] => ""
  | [text] => "Error: " ++ text
  | text :: causes => "Error: " ++ text ++ "\n\nCaused by:\n" ++ "\n".intercalate (causeLines causes)

end Failure

-- What a run of the program comes to.
structure ProgramResult where
  code : Nat
  output : String := ""
  complaint : Option String := none
  files : FileSystem
deriving Inhabited

namespace ProgramResult

def ofFailure (files : FileSystem) (output : String) : Failure → ProgramResult
  | .complaint chain =>
    { code := 1, output := output, complaint := some (Text.trimEnd (Failure.report chain)), files := files }
  | .crash => { code := 101, output := output, files := files }

end ProgramResult

namespace Surroundings

def splitNames (list : String) : List String :=
  (list.toList.splitOn ',').map fun cs => Text.trim (String.ofList cs)

-- The rules for a check; names select from all rules, whatever the preset is.
def checkRules (s : Surroundings) (c : Config) (names : Option String) :
    Except Failure (List Rule) :=
  let configured (c : Config) : Except Failure (List Rule) :=
    (c.rulesOf s.world).mapError fun e => .complaint ("Failed to configure rules" :: e.chain)
  match names with
  | none => configured c
  | some list =>
    (configured { c with preset := some Preset.strict.name }).map
      (List.filter fun r => (splitNames list).contains r.id)

-- The configuration of a run in the current directory.
def loadConfig (s : Surroundings) (asked : Option String) : Except Failure Config :=
  ((ConfigSource.resolve s.files s.userDirectory "." asked).load s.files).mapError
    fun (path, e) => .complaint (ConfigSource.loadErrorChain path e)

def validate (s : Surroundings) (c : Config) (rules : List Rule) (documents : List String) :
    Except Failure LintResult :=
  match Engine.build rules c with
  | .error e => .error (e.failure "Failed to build engine")
  | .ok engine =>
    (engine.validateFiles s.files documents).result.mapError (·.failure "Validation failed")

-- Finds and checks the documents.
def lint (s : Surroundings) (config : Option String) (r : CheckRequest) : Except Failure LintResult :=
  match s.loadConfig config with
  | .error e => .error e
  | .ok c =>
    match s.checkRules c r.rules with
    | .error e => .error e
    | .ok rules =>
      match s.files.discover r.paths c.included (c.excluded ++ r.excluded) with
      | .error e => .error (.complaint e.chain)
      | .ok documents => s.validate c rules documents

-- Prints results in each form, up to one that fails.
def printAll (s : Surroundings) (r : LintResult) (output : String) :
    List Format → String × Option Failure
  | [] => (output, none)
  | f :: fs =>
    match r.render s.files s.workspace f with
    | .ok text => s.printAll r (output ++ text) fs
    | .error e => (output, some e.failure)

def check (s : Surroundings) (config : Option String) (r : CheckRequest) : ProgramResult :=
  match s.lint config r with
  | .error e => .ofFailure s.files "" e
  | .ok result =>
    match s.printAll result "" r.formats with
    | (output, some e) => .ofFailure s.files output e
    | (output, none) => { code := if result.hasErrors then 1 else 0, output := output, files := s.files }

-- Writes the first configuration of a project.
def init (s : Surroundings) (force : Bool) : ProgramResult :=
  let path := "sip-lint.toml"
  if (s.files.find path).isOk && !force then
    .ofFailure s.files "" (.complaint
      ["Configuration file already exists at " ++ path ++ ". Use --force to overwrite."])
  else
    match s.files.write path initialConfig with
    | .error e => .ofFailure s.files "" (.complaint [e.message])
    | .ok files =>
      { code := 0
        output := "Created sip-lint.toml\n\nNext steps:\n  1. Edit sip-lint.toml to configure rules\n"
          ++ "  2. Run: sip-lint check\n"
        files := files }

def versionText : String := "sip-lint 0.3.0\n"

def helpText : String :=
  "Usage: sip-lint [OPTIONS] <COMMAND>\n\nCommands:\n  check       Validate documents\n"
    ++ "  list-rules  List available rules\n  init        Initialize configuration file\n"

-- Runs the program.
def run (s : Surroundings) (arguments : List String) : ProgramResult :=
  match Invocation.parse arguments with
  | .error .usage => { code := 2, files := s.files }
  | .error .help => { code := 0, output := helpText, files := s.files }
  | .error .version => { code := 0, output := versionText, files := s.files }
  | .ok { config, command, .. } =>
    match command with
    | .check request => s.check config request
    | .listRules => { code := 0, output := ruleListing s.world, files := s.files }
    | .init force => s.init force

end Surroundings
end ProposalLint
