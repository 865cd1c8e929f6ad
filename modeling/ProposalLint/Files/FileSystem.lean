import ProposalLint.Files.Path

namespace ProposalLint

inductive Entry where
  | file (bytes : List UInt8)
  | directory (entries : List (String × Entry))
deriving Inhabited, Repr

-- A tree of files from the root down, and the directory that relative paths start from.
structure FileSystem where
  root : Entry := .directory []
  cwd : List String := []
deriving Inhabited, Repr

inductive FileError where
  | notFound
  | notDirectory
  | isDirectory
  | nameTooLong
  | nulInName
  | notText
deriving DecidableEq, Inhabited, Repr

namespace FileError

def message : FileError → String
  | notFound => "No such file or directory (os error 2)"
  | notDirectory => "Not a directory (os error 20)"
  | isDirectory => "Is a directory (os error 21)"
  | nameTooLong => "File name too long (os error 36)"
  | nulInName => "file name contained an unexpected NUL byte"
  | notText => "stream did not contain valid UTF-8"

end FileError

namespace Entry

def isDirectory : Entry → Bool
  | directory _ => true
  | file _ => false

def child? (name : String) : Entry → Option Entry
  | directory entries => entries.lookup name
  | file _ => none

-- What names lead to, one inside the other.
def at? : List String → Entry → Option Entry
  | [], e => some e
  | name :: names, e => (e.child? name).bind (at? names)

-- Puts an entry at a place; directories on the way to it are made.
def put (new : Entry) : List String → Entry → Entry
  | [], _ => new
  | name :: names, e =>
    let entries := match e with
      | directory entries => entries
      | file _ => []
    let inner := put new names ((entries.lookup name).getD (directory []))
    directory (entries.filter (·.1 != name) ++ [(name, inner)])

def remove : List String → Entry → Entry
  | [], e => e
  | [name], directory entries => directory (entries.filter (·.1 != name))
  | name :: names, directory entries =>
    directory (entries.map fun (n, e) => if n == name then (n, remove names e) else (n, e))
  | _, e => e

end Entry

namespace FileSystem

-- One part of a path leads on from a directory only.
def walkPiece (fs : FileSystem) (place : List String) (piece : String) :
    Except FileError (List String) := do
  match fs.root.at? place with
  | some (.directory _) => pure ()
  | some (.file _) => throw .notDirectory
  | none => throw .notFound
  if piece == "" || piece == "." then return place
  if piece == ".." then return place.dropLast
  if 255 < piece.utf8ByteSize then throw .nameTooLong
  let next := place ++ [piece]
  if (fs.root.at? next).isSome then return next else throw .notFound

-- The names that a path leads through from the root, without detours.
def locate (fs : FileSystem) (path : String) : Except FileError (List String) := do
  if path.toList.contains '\x00' then throw .nulInName
  if path.isEmpty then throw .notFound
  let start := if Path.isAbsolute path then [] else fs.cwd
  (Path.pieces path).foldlM fs.walkPiece start

def find (fs : FileSystem) (path : String) : Except FileError Entry := do
  match fs.root.at? (← fs.locate path) with
  | some e => return e
  | none => throw .notFound

def isDirectory (fs : FileSystem) (path : String) : Bool :=
  match fs.find path with
  | .ok e => e.isDirectory
  | .error _ => false

def isFile (fs : FileSystem) (path : String) : Bool :=
  match fs.find path with
  | .ok e => !e.isDirectory
  | .error _ => false

-- The text of a file.
def readText (fs : FileSystem) (path : String) : Except FileError String := do
  match ← fs.find path with
  | .directory _ => throw .isDirectory
  | .file bytes =>
    match String.fromUTF8? ⟨bytes.toArray⟩ with
    | some text => return text
    | none => throw .notText

-- The absolute path of the directory that relative paths start from.
def cwdPath (fs : FileSystem) : String :=
  "/" ++ "/".intercalate fs.cwd

-- The names of a path that need not lead anywhere yet.
def target (fs : FileSystem) (path : String) : List String :=
  let start := if Path.isAbsolute path then [] else fs.cwd
  (Path.pieces path).foldl (fun place piece =>
    if piece == "" || piece == "." then place
    else if piece == ".." then place.dropLast
    else place ++ [piece]) start

def put (fs : FileSystem) (path : String) (e : Entry) : FileSystem :=
  { fs with root := Entry.put e (fs.target path) fs.root }

def remove (fs : FileSystem) (path : String) : FileSystem :=
  { fs with root := Entry.remove (fs.target path) fs.root }

-- Writes a file; a directory in its place is left alone.
def write (fs : FileSystem) (path : String) (text : String) : Except FileError FileSystem :=
  if fs.isDirectory path then .error .isDirectory
  else .ok (fs.put path (.file text.toUTF8.toList))

end FileSystem
end ProposalLint
