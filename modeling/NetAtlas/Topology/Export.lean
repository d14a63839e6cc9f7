import NetAtlas.Host
import NetAtlas.Topology.File

/-!
Writing topologies, and maps of them, to files.
-/

namespace NetAtlas

variable {m : Type → Type} [Monad m] [Host m]

/-- The path that an image is written to. Without a format in its name it is given one. -/
def imagePath (path : String) : String :=
  if Path.format path = "" then
    String.ofList (path.toList.reverse.dropWhile (· = '.')).reverse ++ ".png"
  else path

/-- The format of an image, by the name of its file. -/
def imageFormat (path : String) : String := lowered (Path.format (imagePath path))

/-- Paints a picture to a file and says what went wrong. -/
def paintTo (path : String) (picture : Picture) : m (Except String Unit) := do
  if !picture.hasShape then return .error "picture without a shape"
  match ← Host.makeDirectories (Path.parent path) with
  | .error e => return .error e.message
  | .ok () =>
    match ← Host.paint (imageFormat path) picture with
    | none => return .error s!"Format '{imageFormat path}' is not supported"
    | some content => return (← Host.write (imagePath path) content).mapError (·.message)

namespace Topology

/-- Removes what is at a path, after something went wrong there, and says so. -/
def discard (path cause : String) : m Failure := do
  if ← Host.isThere path then
    match ← Host.remove path with
    | .ok () => return .mapExport path cause
    | .error e => return .access e
  else return .mapExport path cause

/-- Paints the map of a topology to a file. There has to be a node to show. -/
def exportMap (t : Topology) (p : Projector Float) (path : String) (dotsPerInch : Float)
    (labelled : Bool) : m (Except Failure Unit) := do
  if t.nodes.isEmpty then
    return .error (.fault (.rejected "Cannot create map: topology has no nodes"))
  else
    match Picture.ofTopology p t dotsPerInch labelled with
    | .error f => return .error (.fault f)
    | .ok picture =>
      match ← paintTo path picture with
      | .ok () =>
        Host.report (.mapSaved path)
        return .ok ()
      | .error cause => return .error (← discard path cause)

/-- Writes a topology to a file. -/
def save (t : Topology) (path : String) (indent : Option Nat) : m (Except Failure Unit) := do
  let text := t.fileText indent
  Host.report (.savingTopology path)
  match ← Host.writeInto path text.toUTF8.toList with
  | .ok () =>
    Host.report (t.savedNotice text.utf8ByteSize)
    return .ok ()
  | .error e => return .error (.access e)

end Topology

end NetAtlas
