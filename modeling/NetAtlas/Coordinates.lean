import NetAtlas.Value.Reading

/-!
Places on the globe, in degrees.
-/

namespace NetAtlas

structure Coordinates where
  latitude : Float
  longitude : Float
deriving DecidableEq, Inhabited

namespace Coordinates

def zero : Coordinates := ⟨0.0, 0.0⟩

/-- Devices that have not been placed are at latitude and longitude zero. -/
def isZero (c : Coordinates) : Bool := c.latitude == 0.0 && c.longitude == 0.0

def toValue (c : Coordinates) : Value :=
  .record [("latitude", .float c.latitude), ("longitude", .float c.longitude)]

/-- Latitude and longitude among the entries of a larger record. -/
def ofEntries (es : List (Atom × Value)) : Read Coordinates := do
  let latitude ← floatField es "latitude"
  let longitude ← floatField es "longitude"
  return ⟨latitude, longitude⟩

/-- What counts as false stands for the zero coordinates. -/
def ofField (es : List (Atom × Value)) (name : String) : Read Coordinates :=
  match fieldOf? es name with
  | some v => if v.truthy then v.entries >>= ofEntries else ofEntries []
  | none => ofEntries []

end Coordinates

end NetAtlas
