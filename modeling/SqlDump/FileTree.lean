-- A tree of files and folders, and paths in it. A path with a slash in front leads from the root of all files,
-- any other one from the working folder. A file holds bytes and has one place, whatever paths lead to it: there
-- are no links and no devices.

namespace SqlDump

inductive Node
  | file (bytes : List UInt8)
  | folder
deriving DecidableEq, Repr

/-- A place in the tree: the names on the way from the root of all files. -/
abbrev Place := List String

/-- The files and folders below the root, and the folder where the program runs. That one and those above it
are there without an entry. -/
structure FileTree where
  entries : List (Place × Node) := []
  working : Place := []
deriving DecidableEq, Repr

namespace FileTree

/-- What stands at a place. The working folder is a folder, and so are all on the way to it from the root. -/
def at? (t : FileTree) (place : Place) : Option Node :=
  if place <+: t.working then some .folder else t.entries.lookup place

/-- The tree with a node at a place. -/
def put (t : FileTree) (place : Place) (node : Node) : FileTree :=
  if t.entries.any (·.1 == place) then
    { t with entries := t.entries.map fun e => if e.1 == place then (place, node) else e }
  else { t with entries := t.entries ++ [(place, node)] }

/-! ## Paths -/

/-- The length in bytes that a path stays below. -/
def pathLimit : Nat := 4096

/-- The steps of a path. A slash that doubles another, or stands at an end of the path, is a step to the folder
itself. An empty path, one that is too long and one with a null character have no steps. -/
def steps? (path : String) : Option (List String) :=
  let text := path.toList
  if text.isEmpty || pathLimit ≤ path.utf8ByteSize || text.contains '\x00' then none
  else some ((text.splitOn '/').map fun s => if s.isEmpty then "." else String.ofList s)

/-- The place where a path starts: the root with a slash in front, the working folder without. -/
def start (t : FileTree) (path : String) : Place :=
  if path.toList.head? = some '/' then [] else t.working

/-- The place one step further. A step up takes the last name away; above the root is the root itself. -/
def stepFrom (place : Place) (s : String) : Place :=
  if s = "." then place else if s = ".." then place.dropLast else place ++ [s]

/-- Follows steps from a place. Each step must lead from a folder to something. -/
def walk (t : FileTree) : Place → List String → Option Place
  | place, [] => some place
  | place, s :: rest =>
    let next := stepFrom place s
    if t.at? place = some .folder ∧ (t.at? next).isSome then t.walk next rest else none

/-- The place that a path leads to, where something stands. -/
def locate (t : FileTree) (path : String) : Option Place := (steps? path).bind (t.walk (t.start path))

/-- What stands at the end of a path. -/
def node? (t : FileTree) (path : String) : Option Node := (t.locate path).bind t.at?

/-- The bytes of the file at the end of a path. -/
def fileAt? (t : FileTree) (path : String) : Option (List UInt8) :=
  match t.node? path with
  | some (.file bytes) => some bytes
  | _ => none

/-- The place where a file can be made or emptied: in a folder that is there, under a name that is no
folder. A name takes at most 255 bytes. -/
def creationPlace? (t : FileTree) (path : String) : Option Place := do
  let steps ← steps? path
  let name ← steps.getLast?
  let folder ← t.walk (t.start path) steps.dropLast
  if t.at? folder = some .folder ∧ name ≠ "." ∧ name ≠ ".." ∧ name.utf8ByteSize ≤ 255
      ∧ t.at? (folder ++ [name]) ≠ some .folder then
    some (folder ++ [name])
  else none

end FileTree

end SqlDump
