import NetAtlas.Command.Message
import NetAtlas.Notice
import NetAtlas.Path
import NetAtlas.Picture

/-!
What commands ask of the machine they run on.
-/

namespace NetAtlas

/-- A machine with files, a clock and a painter of pictures, that passes on what it is told. -/
class Host (m : Type → Type) where
  read : String → m (Except AccessError (List UInt8))
  isThere : String → m Bool
  isDirectory : String → m Bool
  /-- Makes a directory in one that is there. -/
  makeDirectory : String → m (Except AccessError Unit)
  /-- Writes a file, new or in place of an old one, in a directory that is there. -/
  write : String → List UInt8 → m (Except AccessError Unit)
  remove : String → m (Except AccessError Unit)
  /-- The absolute path of the directory that relative paths begin in. -/
  workingDirectory : m String
  /-- The time of the day and its date. -/
  now : m String
  /-- Seconds since some time in the past. -/
  seconds : m Float
  /-- A number that nobody foresees. -/
  entropy : m Nat
  /-- The content of an image file, unless the painter does not know the format. -/
  paint : String → Picture → m (Option (List UInt8))
  report : Notice → m Unit
  say : Message → m Unit

namespace Host

variable {m : Type → Type} [Monad m] [Host m]

/-- Makes a directory in one that is there; a directory that is there already will do. -/
def settle (path : String) : m (Except AccessError Unit) := do
  match ← makeDirectory path with
  | .ok () => return .ok ()
  | .error (.notFound missing) => return .error (.notFound missing)
  | .error e => return if ← isDirectory path then .ok () else .error e

/-- Makes a directory and so many of those it is in as are missing. -/
def settleFrom (path : String) : (levels : Nat) → m (Except AccessError Unit)
  | 0 => settle path
  | levels + 1 => do
    match ← settle path with
    | .error (.notFound _) =>
      match ← settleFrom (Path.parent path) levels with
      | .ok () => settle path
      | .error e => return .error e
    | done => return done

/-- Makes a directory and all that it is in. -/
def makeDirectories (path : String) : m (Except AccessError Unit) :=
  settleFrom path (Path.names path.toList).length

/-- Writes a file and makes the directories that it is in. -/
def writeInto (path : String) (content : List UInt8) : m (Except AccessError Unit) := do
  match ← makeDirectories (Path.parent path) with
  | .ok () => write path content
  | .error e => return .error e

end Host

end NetAtlas
