import ProposalLint.Output.Format

namespace ProposalLint

structure CheckRequest where
  paths : List String := []
  formats : List Format := [.text]
  rules : Option String := none
  excluded : List String := []
deriving DecidableEq, Inhabited, Repr

inductive Command where
  | check (request : CheckRequest)
  | listRules
  | init (force : Bool)
deriving DecidableEq, Inhabited, Repr

structure Invocation where
  verbose : Bool := false
  config : Option String := none
  command : Command
deriving DecidableEq, Inhabited, Repr

-- Why nothing is run.
inductive ArgumentStop where
  | usage
  | help
  | version
deriving DecidableEq, Inhabited, Repr

inductive Switch where
  | verbose
  | config
  | format
  | rules
  | exclude
  | force
  | help
  | version
deriving DecidableEq, Inhabited, Repr

namespace Switch

def long : Switch → String
  | verbose => "verbose"
  | config => "config"
  | format => "format"
  | rules => "rules"
  | exclude => "exclude"
  | force => "force"
  | help => "help"
  | version => "version"

def short? : Switch → Option Char
  | verbose => some 'v'
  | config => some 'c'
  | format => some 'f'
  | exclude => some 'e'
  | help => some 'h'
  | version => some 'V'
  | rules | force => none

def takesValue : Switch → Bool
  | config | format | rules | exclude => true
  | verbose | force | help | version => false

def repeats : Switch → Bool
  | format | exclude => true
  | _ => false

-- Formats may be listed with commas between them.
def formats? (value : String) : Option (List Format) :=
  ((value.toList.splitOn ',').map String.ofList).mapM Format.ofName?

def accepts (value : String) : Switch → Bool
  | config => !value.isEmpty
  | format => (formats? value).isSome
  | _ => true

end Switch

-- What may be given at a place of the command line.
structure Grammar where
  switches : List Switch
  takesPaths : Bool := false
  commands : List String := []
deriving Inhabited, Repr

namespace Grammar

def program : Grammar :=
  { switches := [.verbose, .config, .help, .version]
    commands := ["check", "list-rules", "init", "help"] }

def check : Grammar :=
  { switches := [.format, .rules, .exclude, .verbose, .config, .help], takesPaths := true }

def listRules : Grammar :=
  { switches := [.verbose, .config, .help] }

def init : Grammar :=
  { switches := [.force, .verbose, .config, .help] }

end Grammar

-- What was given: switches with their values, paths, and the command with what follows it.
structure Given where
  switches : List (Switch × String) := []
  paths : List String := []
  command : Option (String × List String) := none
deriving Inhabited, Repr

namespace Given

def has (g : Given) (s : Switch) : Bool :=
  g.switches.any (·.1 == s)

def values (g : Given) (s : Switch) : List String :=
  (g.switches.filter (·.1 == s)).map (·.2)

def value? (g : Given) (s : Switch) : Option String :=
  (g.values s).head?

-- Records a switch; help and version end the reading.
def record (g : Given) (s : Switch) (value : String) : Except ArgumentStop Given :=
  if s == .help then .error .help
  else if s == .version then .error .version
  else if (g.has s && !s.repeats) || !s.accepts value then .error .usage
  else .ok { g with switches := g.switches ++ [(s, value)] }

end Given

-- An argument that can be the value of the switch in front of it.
def isValue (a : String) : Bool :=
  a == "-" || a.toList.head? != some '-'

namespace Grammar

-- A switch by its long name, with a value behind an equals sign or still to come.
def readLong (g : Grammar) (given : Given) (cs : List Char) :
    Except ArgumentStop (Given × Option Switch) :=
  let name := String.ofList (cs.takeWhile (· != '='))
  let attached := match cs.dropWhile (· != '=') with
    | _ :: value => some (String.ofList value)
    | [] => none
  match g.switches.find? (·.long == name), attached with
  | none, _ => .error .usage
  | some s, none => if s.takesValue then .ok (given, some s) else (given.record s "").map (·, none)
  | some s, some value => if s.takesValue then (given.record s value).map (·, none) else .error .usage

-- Switches by their letters; the value of the last one may follow it at once.
def readShort (g : Grammar) (given : Given) :
    List Char → Except ArgumentStop (Given × Option Switch)
  | [] => .ok (given, none)
  | c :: cs =>
    match g.switches.find? (·.short? == some c) with
    | none => .error .usage
    | some s =>
      if s.takesValue then
        match cs with
        | [] => .ok (given, some s)
        | '=' :: value => (given.record s (String.ofList value)).map (·, none)
        | value => (given.record s (String.ofList value)).map (·, none)
      else
        match given.record s "" with
        | .ok given => readShort g given cs
        | .error stop => .error stop

-- Reads arguments; `pending` waits for its value. Options stand before or behind the command and
-- among its paths; two dashes end the options.
def read (g : Grammar) (given : Given) (pending : Option Switch) :
    List String → Except ArgumentStop Given
  | [] => if pending.isSome then .error .usage else .ok given
  | a :: rest =>
    match pending with
    | some s =>
      if isValue a then
        match given.record s a with
        | .ok given => g.read given none rest
        | .error stop => .error stop
      else
        .error .usage
    | none =>
      if g.commands.contains a then .ok { given with command := some (a, rest) }
      else if a == "--" then
        if rest.isEmpty || g.takesPaths then .ok { given with paths := given.paths ++ rest }
        else .error .usage
      else if isValue a then
        if g.takesPaths then g.read { given with paths := given.paths ++ [a] } none rest
        else .error .usage
      else
        let step := match a.toList with
          | '-' :: '-' :: cs => g.readLong given cs
          | cs => g.readShort given (cs.drop 1)
        match step with
        | .ok (given, pending) => g.read given pending rest
        | .error stop => .error stop

end Grammar

namespace Command

def ofGiven (name : String) (g : Given) : Command :=
  match name with
  | "check" =>
    let formats := (g.values .format).flatMap fun v => (Switch.formats? v).getD []
    .check
      { paths := g.paths
        formats := if formats.isEmpty then [.text] else formats
        rules := g.value? .rules
        excluded := g.values .exclude }
  | "init" => .init (g.has .force)
  | _ => .listRules

end Command

namespace Invocation

def grammarOf (command : String) : Grammar :=
  match command with
  | "check" => .check
  | "init" => .init
  | _ => .listRules

-- Help is there for the program and for one command at a time.
def helpStop : List String → ArgumentStop
  | [] => .help
  | [name] => if Grammar.program.commands.contains name then .help else .usage
  | _ => .usage

-- Reads a command line. A configuration behind the command counts more than one in front.
def parse (arguments : List String) : Except ArgumentStop Invocation := do
  let outer ← Grammar.program.read {} none arguments
  match outer.command with
  | none => throw .usage
  | some ("help", names) => throw (helpStop names)
  | some (name, rest) =>
    let inner ← (grammarOf name).read {} none rest
    return {
      verbose := outer.has .verbose || inner.has .verbose
      config := (inner.value? .config).or (outer.value? .config)
      command := .ofGiven name inner }

end Invocation
end ProposalLint
