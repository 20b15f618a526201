import Rampart.Error
import Rampart.Text.Cut
import Rampart.Text.Utf8

/-!
# File trees

Files and directories as a finite map from paths, with the working directory as its root. Paths are
read the way an operating system reads them: names are taken between slashes, a point stays, two
points go back to the directory above, and nothing lies beneath a file. A path from the root of the
system leads to no file of the tree, and neither does one that climbs above the working directory.
Links between files and rights to read or write them are left out.
-/

namespace Rampart

/-- What stands at a path. -/
inductive FileNode where
  | file (bytes : List UInt8)
  | directory
  deriving DecidableEq, Repr

/-- Files and directories by the names that lead to them. The directories above an entry exist
without being listed. -/
structure FileTree where
  entries : List (List String × FileNode)

namespace FileTree

/-- The names of a path. -/
def names (path : String) : List String :=
  ((Text.splitAt '/' path.toList).map String.ofList).filter fun n => !(n.isEmpty || n == ".")

/-- The tree of some paths. -/
def ofList (entries : List (String × FileNode)) : FileTree :=
  ⟨entries.map fun e => (names e.1, e.2)⟩

/-- A tree without files. -/
def empty : FileTree := ⟨[]⟩

/-- What stands behind some names that contain no steps back. -/
def node? (t : FileTree) (place : List String) : Option FileNode :=
  match t.entries.lookup place with
  | some n => some n
  | none =>
    if place.isEmpty || t.entries.any fun e => place.isPrefixOf e.1 then some .directory else none

/-- Follows names from a directory. -/
def walk (t : FileTree) (place : List String) : List String → Except ResourceError (List String)
  | [] => .ok place
  | name :: rest =>
    match t.node? place with
    | some .directory =>
      if name = ".." then
        if place.isEmpty then .error .missing else walk t place.dropLast rest
      else walk t (place ++ [name]) rest
    | some (.file _) => .error .notDirectory
    | none => .error .missing

/-- What stands at a path. -/
def find (t : FileTree) (path : String) : Except ResourceError FileNode :=
  let cs := path.toList
  if cs.contains '\x00' then .error .invalidName
  else if cs.isEmpty then .error .missing
  else if cs.head? = some '/' then
    if names path = [] then .ok .directory else .error .missing
  else
    match t.walk [] (names path) with
    | .error e => .error e
    | .ok place =>
      match t.node? place with
      | some (.file bytes) =>
        let last := (Text.splitAt '/' cs).getLast?
        if last = some [] ∨ last = some ['.'] then .error .notDirectory else .ok (.file bytes)
      | some .directory => .ok .directory
      | none => .error .missing

/-- Something stands at the path. -/
def contains (t : FileTree) (path : String) : Bool :=
  match t.find path with
  | .ok _ => true
  | .error _ => false

/-- A directory stands at the path. -/
def isDirectory (t : FileTree) (path : String) : Bool :=
  match t.find path with
  | .ok .directory => true
  | _ => false

/-- The text of a file. -/
def readText (t : FileTree) (path : String) : Except ResourceError String :=
  match t.find path with
  | .error e => .error e
  | .ok .directory => .error .directory
  | .ok (.file bytes) =>
    match Text.decode? bytes with
    | some cs => .ok (String.ofList cs)
    | none => .error .notText

/-- The name of a file that stands directly in the directory at a place. -/
def directName? (place : List String) (e : List String × FileNode) : Option String :=
  match e.2, e.1.getLast? with
  | .file _, some name => if e.1.dropLast = place then some name else none
  | _, _ => none

/-- The names of the files that stand directly in a directory, in the order of the entries. -/
def filesIn (t : FileTree) (path : String) : List String :=
  if path.toList.head? = some '/' then []
  else
    match t.walk [] (names path) with
    | .error _ => []
    | .ok place => t.entries.filterMap (directName? place)

/-- The tree after a file is written, if the path leads into a directory and not to one. -/
def write? (t : FileTree) (path : String) (bytes : List UInt8) : Option FileTree :=
  match t.walk [] (names path).dropLast, (names path).getLast? with
  | .ok directory, some name =>
    let place := directory ++ [name]
    let endsInName := (Text.splitAt '/' path.toList).getLast? = some name.toList
    if path.toList.head? = some '/' ∨ path.toList.contains '\x00' ∨ ¬endsInName ∨ name = ".." then none
    else if t.node? directory ≠ some .directory ∨ t.node? place = some .directory then none
    else some ⟨(place, .file bytes) :: t.entries.filter (·.1 != place)⟩
  | _, _ => none

end FileTree

end Rampart
