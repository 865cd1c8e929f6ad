namespace ProposalLint.Path

inductive Component where
  | root
  | current
  | parent
  | normal (name : String)
deriving DecidableEq, Inhabited, Repr

namespace Component

def text : Component → String
  | root => "/"
  | current => "."
  | parent => ".."
  | normal name => name

def rank : Component → Nat
  | root => 0
  | current => 1
  | parent => 2
  | normal _ => 3

-- The root comes first, names come last and in the order of their characters.
def order (a b : Component) : Ordering :=
  (compare a.rank b.rank).then (compare a.text b.text)

end Component

def isAbsolute (path : String) : Bool :=
  path.toList.head? == some '/'

def pieces (path : String) : List String :=
  (path.toList.splitOn '/').map String.ofList

def component? (piece : String) : Option Component :=
  if piece == "" || piece == "." then none
  else if piece == ".." then some .parent
  else some (.normal piece)

-- Empty components and single dots do not count, except for a dot at the very start.
def components (path : String) : List Component :=
  let body := (pieces path).filterMap component?
  if isAbsolute path then .root :: body
  else if (pieces path).head? == some "." then .current :: body
  else body

def orderComponents : List Component → List Component → Ordering
  | [], [] => .eq
  | [], _ :: _ => .lt
  | _ :: _, [] => .gt
  | a :: as, b :: bs => (a.order b).then (orderComponents as bs)

-- Paths are ordered component by component.
def order (a b : String) : Ordering :=
  orderComponents (components a) (components b)

-- The name of what a path leads to, if it ends in a name.
def fileName? (path : String) : Option String :=
  match (components path).getLast? with
  | some (.normal name) => some name
  | _ => none

-- What follows the last dot of the name, unless the name begins with that dot.
def extension? (path : String) : Option String := do
  let name ← fileName? path
  let back := name.toList.reverse
  match back.dropWhile (· != '.') with
  | [] | [_] => none
  | _ => some (String.ofList (back.takeWhile (· != '.')).reverse)

-- Drops what does not count at the end of a path given in reverse.
def dropTail : List Char → List Char
  | '/' :: [] => ['/']
  | '/' :: cs => dropTail cs
  | '.' :: '/' :: [] => ['/']
  | '.' :: '/' :: cs => dropTail cs
  | cs => cs

-- The path without its last component, if it has one to lose.
def parent? (path : String) : Option String :=
  match (components path).getLast? with
  | none | some .root => none
  | some _ =>
    let rest := (dropTail path.toList.reverse).dropWhile (· != '/')
    some (String.ofList (dropTail rest).reverse)

-- A path put after another one; an absolute path stands alone.
def join (base path : String) : String :=
  if isAbsolute path || base.isEmpty then path
  else if base.toList.getLast? == some '/' then base ++ path
  else base ++ "/" ++ path

def isFiller (piece : String) : Bool :=
  piece == "" || piece == "."

-- Drops pieces until the given number of those that count are gone.
def dropCounted : Nat → List String → List String
  | _, [] => []
  | 0, ps => ps
  | n + 1, p :: ps => if isFiller p then dropCounted (n + 1) ps else dropCounted n ps

def trimPieces (ps : List String) : List String :=
  (ps.reverse.dropWhile isFiller).reverse

-- The rest of a path below another one, compared by components.
def below? (base path : String) : Option String :=
  let bs := components base
  if !bs.isPrefixOf (components path) then none
  else
    let leads := isAbsolute path || (pieces path).head? == some "."
    if bs.isEmpty then
      let body := "/".intercalate (trimPieces ((pieces path).drop 1))
      let head := (pieces path).headD ""
      some (if isAbsolute path then "/" ++ body else if body.isEmpty then head else head ++ "/" ++ body)
    else
      let body := if leads then dropCounted (bs.length - 1) ((pieces path).drop 1)
        else dropCounted bs.length (pieces path)
      some ("/".intercalate (trimPieces (body.dropWhile isFiller)))

end ProposalLint.Path
