import NetAtlas.Geography
import NetAtlas.Number.Arithmetic
import NetAtlas.Projection.MapFile
import NetAtlas.Settings

/-!
Projectors of the settings, calibrated by the map that the settings name.
-/

namespace NetAtlas.Projector

/-- A setting that has to be a number. -/
def settingOf (v : Value) : Read Float :=
  match v.number? with
  | some n => n.toFloat
  | none => .error .wrongType

/-- The projector of the settings on a given map. -/
def ofSettings (base : BaseMap Float) (s : ProjectionSettings) : Read (Projector Float) := do
  let width ← settingOf s.viewWidth
  let height ← settingOf s.viewHeight
  let latitude ← settingOf s.maxLatitude
  match s.precision.integer? with
  | some precision => return shipped base width height latitude precision
  | none => .error (.needsInteger s.precision)

/-- The map of a file, given its path and what reading it gave. Without a file it is the default
map. -/
def mapOf (map? : Option (String × Except AccessError (List UInt8))) :
    Except Failure (BaseMap Float) × List Notice :=
  match map? with
  | some (path, file) => MapFile.loadOrDefault path file
  | none => (.ok .default, [])

/-- The projector of the settings, on the map of a file. -/
def load (s : ProjectionSettings) (map? : Option (String × Except AccessError (List UInt8))) :
    Except Failure (Projector Float) × List Notice :=
  match mapOf map? with
  | (.error e, notices) => (.error e, notices)
  | (.ok base, notices) => ((ofSettings base s).mapError .fault, notices)

end NetAtlas.Projector
