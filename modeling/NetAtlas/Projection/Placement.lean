import NetAtlas.Projection
import NetAtlas.Topology

/-!
Where the nodes of a topology stand in a viewport.
-/

namespace NetAtlas

/-- Adds the place of a node; one that is there already keeps its rank and moves. -/
def placeNode {α : Type} (places : List (String × α)) (id : String) (place : α) :
    List (String × α) :=
  if places.any (fun (other, _) => other = id) then
    places.map fun (other, old) => if other = id then (other, place) else (other, old)
  else places ++ [(id, place)]

/-- The places of all nodes in order of their first occurrence. -/
def Projector.placements (p : Projector Float) (t : Topology) :
    Read (List (String × Point Float)) :=
  t.nodes.foldlM (fun places n => do
    let place ← p.onScreen n.coordinates.latitude n.coordinates.longitude
    return placeNode places n.id place) []

end NetAtlas
