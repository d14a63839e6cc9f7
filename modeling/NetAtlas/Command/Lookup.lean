import NetAtlas.Command.Task
import NetAtlas.Location.Resolve
import NetAtlas.Settings.Summary

/-!
The commands that answer questions: where places are, where points fall on the map, and what the
settings are.
-/

namespace NetAtlas.Command

variable {m : Type → Type} [Monad m] [Host m]

/-- What is known about the city that a text means. -/
def aboutLocation (g : Gazetteer) (text : String) : Message :=
  match g.resolve? text with
  | some city => .found text city
  | none => .notFound text

def locateAll (settings : String) (locations : List String) : Work m Nat :=
  withSettings settings fun s => do
    let g ← gazetteerOf s
    locations.forM fun text => say (aboutLocation g text)
    return success

/-- Why a point is not where the bare curve would put it. -/
def aboutPlacement (p : Projector Float) (latitude longitude : Float) : List Message :=
  match p.pinAt latitude longitude, p.nudgeAt latitude longitude with
  | some _, _ => [.pinned]
  | none, some n => [.nudged n.name]
  | none, none => []

def projectPoint (settings : String) (latitude longitude : Float) : Work m Nat :=
  withSettings settings fun s => ended do
    let p ← projectorOf s
    let place ← loaded ((p.onScreen latitude longitude).mapError .fault, [])
    sure (say (.position place))
    (aboutPlacement p latitude longitude).forM fun msg => sure (say msg)

def showSettings (settings : String) : Work m Nat :=
  withSettings settings fun s => ended do
    let found ← sure (ask (Host.isThere s.sources.gazetteer))
    let text ← loaded ((s.summary found).mapError .fault, [])
    sure (say (.summary text))

end NetAtlas.Command
