import Std.Time
import ProposalLint.Program.Run

namespace ProposalLint

-- Copies what is at a path, with all that is below it.
partial def copyEntry (fs : FileSystem) (path : String) : IO FileSystem := do
  let place := (← IO.currentDir) / path
  if ← place.isDir then
    let fs := fs.put path (.directory [])
    (← place.readDir).foldlM (fun fs e => copyEntry fs (Path.join path e.fileName)) fs
  else if ← place.pathExists then
    return fs.put path (.file (← IO.FS.readBinFile place).toList)
  else
    return fs

-- The files above the working directory that can matter for a run.
def filesAbove (directory : String) : List String :=
  ((Path.ancestors directory).drop 1).flatMap fun d =>
    [".ignore", ".gitignore", ".git/HEAD", ".git/info/exclude"].map (Path.join d)
      ++ ConfigSource.candidates d

-- Arguments that lead out of the working directory.
def outerPaths (arguments : List String) : List String :=
  arguments.filter fun a => Path.isAbsolute a || (Path.components a).contains .parent

def copyFiles (s : Surroundings) (arguments : List String) : IO Surroundings := do
  let configs := (s.userDirectory.map (Path.join · "config.toml")).toList
  let paths := "." :: filesAbove s.files.cwdPath ++ configs ++ outerPaths arguments
  return { s with files := ← paths.foldlM copyEntry s.files }

def run (arguments : List String) : IO UInt32 := do
  let cwd := (← IO.currentDir).toString
  let now ← Std.Time.PlainDate.now
  let files : FileSystem := { cwd := (Path.pieces cwd).filter (· != "") }
  let around : Surroundings :=
    { files := files.put "." (.directory [])
      configDirectory := ← IO.getEnv "SIP_LINT_CONFIG_DIR"
      home := ← IO.getEnv "HOME"
      workspace := ← IO.getEnv "GITHUB_WORKSPACE"
      world := { today := ⟨now.year.toInt, now.month.toInt.toNat, now.day.toInt.toNat⟩ } }
  let before ← copyFiles around arguments
  let result := before.run arguments
  let config := "sip-lint.toml"
  if let .ok text := result.files.readText config then
    if (before.files.readText config).toOption != some text then
      IO.FS.writeFile config text
  IO.print result.output
  if let some complaint := result.complaint then
    IO.eprintln complaint
  return result.code.toUInt32

end ProposalLint

def main (arguments : List String) : IO UInt32 :=
  ProposalLint.run arguments
