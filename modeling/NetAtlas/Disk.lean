import NetAtlas.Failure
import NetAtlas.Path

/-!
A tree of files and directories in memory. Paths are followed name by name, so each name but the
last has to lead into a directory, also in front of two dots.
-/

namespace NetAtlas

/-- A place on a disk: the names on the way from the root. -/
abbrev Place := List String

inductive Entry where
  | file (content : List UInt8)
  | directory
deriving DecidableEq

structure Disk where
  entries : List (Place × Entry)
  /-- Where paths begin that are not absolute. -/
  working : Place

namespace Disk

/-- What is at a place. The root is always a directory. -/
def entry? (d : Disk) (place : Place) : Option Entry :=
  if place = [] then some .directory else d.entries.lookup place

/-- Puts an entry at a place, instead of what is there. -/
def set (d : Disk) (place : Place) (e : Entry) : Disk :=
  { d with entries := (place, e) :: d.entries.filter fun (other, _) => other ≠ place }

def erase (d : Disk) (place : Place) : Disk :=
  { d with entries := d.entries.filter fun (other, _) => other ≠ place }

/-- Follows names from a place. -/
def follow (d : Disk) (path : String) : Place → List String → Except AccessError Place
  | here, [] => .ok here
  | here, name :: rest =>
    match d.entry? here with
    | some .directory => d.follow path (if name = ".." then here.dropLast else here ++ [name]) rest
    | some (.file _) => .error (.notADirectory path)
    | none => .error (.notFound path)

/-- The place that a path leads to; there may be nothing yet. -/
def placeOf (d : Disk) (path : String) : Except AccessError Place :=
  d.follow path (if Path.isAbsolute path then [] else d.working)
    ((Path.names path.toList).map String.ofList)

/-- What a path leads to, if it leads anywhere. -/
def find? (d : Disk) (path : String) : Option Entry :=
  match d.placeOf path with
  | .ok place => d.entry? place
  | .error _ => none

/-- The content of a file. -/
def read (d : Disk) (path : String) : Except AccessError (List UInt8) := do
  match d.entry? (← d.placeOf path) with
  | some (.file content) => .ok content
  | some .directory => .error (.isADirectory path)
  | none => .error (.notFound path)

/-- Writes a file, new or in place of an old one, in a directory that is there. -/
def write (d : Disk) (path : String) (content : List UInt8) : Except AccessError Disk := do
  let place ← d.placeOf path
  match d.entry? place, d.entry? place.dropLast with
  | some .directory, _ => .error (.isADirectory path)
  | _, some .directory => .ok (d.set place (.file content))
  | _, some (.file _) => .error (.notADirectory path)
  | _, none => .error (.notFound path)

/-- Makes a directory in one that is there. -/
def makeDirectory (d : Disk) (path : String) : Except AccessError Disk := do
  let place ← d.placeOf path
  match d.entry? place with
  | some _ => .error (.alreadyThere path)
  | none => .ok (d.set place .directory)

/-- Removes a file. -/
def remove (d : Disk) (path : String) : Except AccessError Disk := do
  let place ← d.placeOf path
  match d.entry? place with
  | some (.file _) => .ok (d.erase place)
  | some .directory => .error (.isADirectory path)
  | none => .error (.notFound path)

/-- An empty disk but for a working directory, and the directories that it is in. -/
def empty (working : Place) : Disk :=
  ⟨(List.range working.length).map fun n => (working.take (n + 1), .directory), working⟩

/-- The files of a disk, with their places. -/
def files (d : Disk) : List (Place × List UInt8) :=
  d.entries.filterMap fun (place, e) =>
    match e with
    | .file content => some (place, content)
    | .directory => none

end Disk

end NetAtlas
