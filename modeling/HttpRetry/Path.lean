import HttpRetry.Fault.Basic
import HttpRetry.Surroundings

/-!
# Paths

A path leads step by step from where the library runs to a file or a directory.
Steps lead on from directories only, and no step's name may be too long. Names are
bytes, and a text that cannot be bytes of a name leads nowhere.
-/

namespace HttpRetry.Path

def steps (path : String) : List String :=
  ((path.toList.splitOn '/').filter fun step => step ≠ [] ∧ step ≠ ['.']).map String.ofList

def isAbsolute (path : String) : Bool :=
  path.toList.head? = some '/'

def normal (path : String) : String :=
  let slashes := (path.toList.takeWhile (· = '/')).length
  let root := if slashes = 0 then "" else if slashes = 2 then "//" else "/"
  let text := root ++ "/".intercalate (steps path)
  if text.isEmpty then "." else text

/-- The name of a file of the surroundings: its steps as they come back from bytes. -/
def fileName (path : String) : String :=
  "/".intercalate ((steps path).map Utf8.throughBytes)

/-! ## Home directories -/

def homeVariable : String := "HOME"

def defaultHome : String := "/root"

/-- A normal path with a home directory in place of a tilde that begins it. No other
user has one. -/
def expandHome (s : Surroundings) (path : String) : Except Fault String :=
  match steps path with
  | first :: rest =>
    if isAbsolute path || first.toList.head? ≠ some '~' then .ok path
    else
      let home := (s.readVariable homeVariable).getD defaultHome
      if first ≠ "~" || home.toList.head? = some '~' then .error .noHome
      else
        let home := if (steps home).isEmpty && !home.startsWith "." then "/" else home
        .ok (normal ("/".intercalate (home :: rest)))
  | [] => .ok path

/-! ## Following a path -/

inductive Place where
  /-- Below the directory in which the library runs, by these names, the last one first. -/
  | below (names : List String)
  /-- In a directory around it, of which nothing else is known. -/
  | around
deriving DecidableEq

namespace Place

def node (s : Surroundings) : Place → Option FileNode
  | below [] | around => some .directory
  | below names =>
    let path := "/".intercalate names.reverse
    match s.readFile path with
    | some node => some node
    | none =>
      if s.files.any fun entry => (path ++ "/").toList.isPrefixOf entry.1.toList then
        some .directory
      else none

def entries (s : Surroundings) : Place → List (String × FileNode)
  | around => []
  | below above => s.files.filterMap fun (path, node) =>
    match (steps path).reverse with
    | name :: names => if names = above then some (name, node) else none
    | [] => none

def up : Place → Place
  | below (_ :: names) => below names
  | below [] | around => around

def down (name : String) : Place → Option Place
  | below names => some (below (name :: names))
  | around => none

end Place

/-- The most bytes that the name of a step may have. -/
def maxNameLength : Nat := 255

def maxLength : Nat := 4095

def follow (s : Surroundings) (path : String) :
    Place → List String → Except Fault (Option Place)
  | place, [] => .ok (if (place.node s).isSome then some place else none)
  | place, step :: rest =>
    if place.node s ≠ some .directory then .ok none
    else if step = ".." then follow s path place.up rest
    else if maxNameLength < (Utf8.encode step).length then .error (.nameTooLong path)
    else
      match place.down (Utf8.throughBytes step) with
      | some next => follow s path next rest
      | none => .ok none

def placeAt (s : Surroundings) (path : String) : Except Fault (Option Place) :=
  let start := if isAbsolute path then Place.around else .below []
  if !Utf8.isEncodable path || path.toList.contains '\x00' then .ok none
  else if maxLength < (Utf8.encode path).length then .error (.nameTooLong path)
  else follow s path start (steps path)

def nodeAt (s : Surroundings) (path : String) : Except Fault (Option FileNode) :=
  (placeAt s path).map fun place => place.bind (·.node s)

end HttpRetry.Path
