import NetAtlas.Device.Equipment
import NetAtlas.Device.Link

/-!
Managed devices.
-/

namespace NetAtlas

structure Device where
  id : String
  /-- Nothing for a device that the inventory only knows by its id. -/
  equipment : Option Equipment
  links : List Link
deriving Inhabited

namespace Device

def toValue (d : Device) : Value :=
  .record
    [("id", .text d.id), ("equipment", (d.equipment.map (·.toValue)).getD .null),
     ("links", .list (d.links.map (·.toValue)))]

/-- The equipment section under either of its names. -/
def equipmentOf (es : List (Atom × Value)) : Read (Option Equipment) :=
  match (fieldOf? es "equipment").or (fieldOf? es "equipmentinfo") with
  | some (.mapping part) => some <$> Equipment.ofEntries part
  | _ => .ok none

def linksOf (es : List (Atom × Value)) : Read (List Link) := do
  match fieldOf? es "links" with
  | some v => if v.truthy then (← v.items).mapM Link.ofValue else return []
  | none => return []

def ofEntries (es : List (Atom × Value)) : Read Device := do
  let equipment ← equipmentOf es
  let links ← linksOf es
  let id ← requiredText es "id"
  return { id, equipment, links }

def ofValue (v : Value) : Read Device := v.entries >>= ofEntries

end Device

end NetAtlas
