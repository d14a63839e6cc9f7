import NetAtlas.Coordinates
import NetAtlas.Device.Label

/-!
What an inventory knows about the equipment of a device. Field names are accepted in two
spellings, and a field that holds nothing counts as missing.
-/

namespace NetAtlas

structure Equipment where
  name : String
  role : Role
  status : Status
  location : String
  coordinates : Coordinates
  vendor : Option Value
  model : Option Value
  address : Option Value
deriving Inhabited

/-- The first of the named fields that holds something. -/
def firstField? (es : List (Atom × Value)) (names : List String) : Option Value :=
  names.findSome? fun name =>
    match fieldOf? es name with
    | some .null => none
    | found => found

/-- The first of the named fields that holds something, as a float; zero if none is a number. -/
def firstFloat (es : List (Atom × Value)) (names : List String) : Read Float :=
  match firstField? es names with
  | some v => (·.getD 0.0) <$> v.toFloat
  | none => .ok 0.0

namespace Equipment

def hasCoordinates (e : Equipment) : Bool := !e.coordinates.isZero

def toValue (e : Equipment) : Value :=
  .record
    ([("sys_name", .text e.name), ("device_type", .text e.role.name),
      ("device_status", .text e.status.name), ("location", .text e.location),
      ("latitude", .float e.coordinates.latitude), ("longitude", .float e.coordinates.longitude)]
      ++ [("vendor", e.vendor), ("model", e.model), ("ip_address", e.address)].filterMap
        fun (name, v?) => v?.map fun v => (name, v))

/-- The location text; what counts as false is no location. -/
def locationOf (es : List (Atom × Value)) : String :=
  match firstField? es ["location"] with
  | some v => if v.truthy then v.plainForm else ""
  | none => ""

def ofEntries (es : List (Atom × Value)) : Read Equipment := do
  let role ← Role.read ((firstField? es ["device_type", "deviceType"]).getD .null)
  let status ← Status.read ((firstField? es ["device_status", "deviceStatus"]).getD .null)
  let latitude ← firstFloat es ["latitude", "lat"]
  let longitude ← firstFloat es ["longitude", "lng", "lon"]
  return {
    role, status
    name := ((firstField? es ["sys_name", "sysName", "name"]).getD (.text "")).plainForm
    location := locationOf es
    coordinates := ⟨latitude, longitude⟩
    vendor := firstField? es ["vendor"]
    model := firstField? es ["model"]
    address := firstField? es ["ip_address", "ipAddress"] }

def ofValue (v : Value) : Read Equipment := v.entries >>= ofEntries

end Equipment

end NetAtlas
