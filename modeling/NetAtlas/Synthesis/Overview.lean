import NetAtlas.Device
import NetAtlas.Settings
import NetAtlas.Synthesis.Edges
import NetAtlas.Synthesis.Estimate

/-!
What follows from the devices without drawing anything: nodes, statistics, health and bounds.
-/

namespace NetAtlas

namespace Device

def isEquipped (d : Device) : Bool := d.equipment.isSome

def isOnline (d : Device) : Bool :=
  match d.equipment with
  | some e => e.status = .online
  | none => false

/-- The node of a device with equipment. -/
def node? (d : Device) : Option Node :=
  d.equipment.map fun e =>
    { id := d.id
      name := e.name
      role := e.role
      status := e.status
      location := e.location
      coordinates := e.coordinates
      capabilities :=
        { routing := e.role = .router
          switching := e.role = .switch
          firewall := e.role = .firewall
          loadBalancing := e.role = .loadBalancer } }

/-- Where the device has been placed, if it has. -/
def place? (d : Device) : Option Coordinates :=
  match d.equipment with
  | some e => if e.hasCoordinates then some e.coordinates else none
  | none => none

end Device

namespace Synthesis

def nodesOf (devices : List Device) : List Node := devices.filterMap Device.node?

def activeCount (devices : List Device) : Nat := devices.countP Device.isOnline

/-- The share of pairs that are joined, if there are pairs. -/
def density (edges : Number) (nodes : Nat) : Read Float := do
  let pairs := Float.ofNat (nodes * (nodes - 1)) / 2.0
  if pairs == 0.0 then return 0.0
  let count ← edges.toFloat
  return count / pairs

/-- Counts of nodes, with the estimated number of edges. -/
def statisticsOf (s : SynthesisSettings) (devices : List Device) : Read Statistics := do
  let divisor ← s.divisor.numeric
  let edges ← estimatedEdges (.int devices.length) divisor
  let share ← density edges devices.length
  return {
    totalNodes := devices.length
    activeNodes := activeCount devices
    totalEdges := edges
    activeEdges := edges
    density := share }

/-- The percentage of active devices. -/
def score (devices : List Device) : Float :=
  if devices.isEmpty then 0.0
  else 100.0 * Float.ofNat (activeCount devices) / Float.ofNat devices.length

def healthOf (s : SynthesisSettings) (now : String) (devices : List Device) : Read Health := do
  let healthy ← s.healthy.numeric
  let warning ← s.warning.numeric
  let points := score devices
  return ⟨.ofScore (.float points) healthy warning, points, now⟩

/-- The lesser of two floats; what is no number prevails. -/
def least (a b : Float) : Float := if a.isNaN then a else if b.isNaN then b else if b < a then b else a

/-- The greater of two floats; what is no number prevails. -/
def greatest (a b : Float) : Float :=
  if a.isNaN then a else if b.isNaN then b else if a < b then b else a

/-- The box around some places, the first of which is `c`. -/
def frame (zoom : Value) (c : Coordinates) (cs : List Coordinates) : Bounds :=
  let latitudes := cs.map (·.latitude)
  let longitudes := cs.map (·.longitude)
  let south := latitudes.foldl least c.latitude
  let west := longitudes.foldl least c.longitude
  let north := latitudes.foldl greatest c.latitude
  let east := longitudes.foldl greatest c.longitude
  { northEast := ⟨north, east⟩
    southWest := ⟨south, west⟩
    center := ⟨(south + north) / 2.0, (west + east) / 2.0⟩
    zoom }

/-- The box around all devices that have been placed. -/
def boundsOf (s : SynthesisSettings) (devices : List Device) : Bounds :=
  match devices.filterMap Device.place? with
  | [] => ⟨.zero, .zero, .zero, s.zoom⟩
  | c :: cs => frame s.zoom c cs

end Synthesis

end NetAtlas
