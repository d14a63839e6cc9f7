import NetAtlas.Coordinates
import NetAtlas.Device.Label

/-!
Nodes of a topology.
-/

namespace NetAtlas

/-- What a node can do. -/
structure Capabilities where
  routing : Bool
  switching : Bool
  firewall : Bool
  loadBalancing : Bool
deriving DecidableEq, Inhabited

structure Node where
  id : String
  name : String
  role : Role
  status : Status
  location : String
  coordinates : Coordinates
  capabilities : Capabilities
deriving DecidableEq, Inhabited

namespace Capabilities

def toValue (c : Capabilities) : Value :=
  .record
    [("routing", .bool c.routing), ("switching", .bool c.switching),
     ("firewall", .bool c.firewall), ("load_balancing", .bool c.loadBalancing)]

/-- A capability is there when its field counts as true. -/
def ofEntries (es : List (Atom × Value)) : Capabilities :=
  let has (name : String) : Bool := ((fieldOf? es name).getD (.bool false)).truthy
  ⟨has "routing", has "switching", has "firewall", has "load_balancing"⟩

end Capabilities

namespace Node

def toValue (n : Node) : Value :=
  .record
    [("node_id", .text n.id), ("name", .text n.name), ("node_type", .text n.role.name),
     ("status", .text n.status.name), ("location", .text n.location),
     ("latitude", .float n.coordinates.latitude), ("longitude", .float n.coordinates.longitude),
     ("capabilities", n.capabilities.toValue)]

def capabilitiesOf (es : List (Atom × Value)) : Read Capabilities :=
  match fieldOf? es "capabilities" with
  | some v => if v.truthy then Capabilities.ofEntries <$> v.entries else .ok (.ofEntries [])
  | none => .ok (.ofEntries [])

def ofValue (v : Value) : Read Node := do
  let es ← v.entries
  let id ← requiredText es "node_id"
  let role ← Role.ofValue ((fieldOf? es "node_type").getD (.text "unknown"))
  let status ← Status.ofValue ((fieldOf? es "status").getD (.text "unknown"))
  let coordinates ← Coordinates.ofEntries es
  let capabilities ← capabilitiesOf es
  return {
    id, role, status, coordinates, capabilities
    name := textField es "name" ""
    location := textField es "location" "" }

end Node

end NetAtlas
