import NetAtlas.Device
import NetAtlas.Location
import NetAtlas.Location.Country
import NetAtlas.Notice

/-!
Finding the city that a location text means, and placing devices there.
-/

namespace NetAtlas

/-- The city of a location: in the country it names, if there is one, else of its name alone. -/
def Gazetteer.locate? (g : Gazetteer) (l : Location) : Option City :=
  if l.city = "" then none
  else
    match l.country with
    | some country => ((countryKeys country).findSome? (g.findIn? l.city)).or (g.find? l.city)
    | none => g.find? l.city

/-- The city that a text means. -/
def Gazetteer.resolve? (g : Gazetteer) (text : String) : Option City :=
  g.locate? (.ofText text)

namespace Device

/-- Moves the device to the city of its location, and reports how that went. A device without
equipment or location is left alone; one whose location means no city stays where it is. -/
def relocate (g : Gazetteer) (d : Device) : Device × Bool × List Notice :=
  match d.equipment with
  | none => (d, false, [])
  | some e =>
    if trimmed e.location = "" then (d, false, [])
    else
      match g.resolve? e.location with
      | none => (d, false, [.notLocated d.id e.location])
      | some city =>
        ({ d with equipment := some { e with coordinates := city.coordinates } }, true,
          [.located d.id city.coordinates e.location])

end Device

/-- Moves all devices to the cities of their locations, and counts those that were moved. -/
def relocateAll (g : Gazetteer) : List Device → List Device × Nat × List Notice
  | [] => ([], 0, [])
  | d :: ds =>
    let (d, moved, notices) := d.relocate g
    let (ds, count, more) := relocateAll g ds
    (d :: ds, (if moved then 1 else 0) + count, notices ++ more)

end NetAtlas
