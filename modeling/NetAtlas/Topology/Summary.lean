import NetAtlas.Coordinates

/-!
What a topology says about itself as a whole: counts, health, and the frame around its nodes.
-/

namespace NetAtlas

structure Statistics where
  totalNodes : Int
  activeNodes : Int
  /-- An estimate, and no integer when the settings divide by a float. -/
  totalEdges : Number
  activeEdges : Number
  density : Float
deriving DecidableEq, Inhabited

inductive HealthLevel where
  | healthy
  | warning
  | critical
deriving DecidableEq, Inhabited, Repr

structure Health where
  level : HealthLevel
  score : Float
  assessedAt : String
deriving DecidableEq, Inhabited

/-- The box around the nodes, its centre, and how close to look. -/
structure Bounds where
  northEast : Coordinates
  southWest : Coordinates
  center : Coordinates
  zoom : Value
deriving Inhabited

namespace Statistics

def toValue (s : Statistics) : Value :=
  .record
    [("total_nodes", .int s.totalNodes), ("active_nodes", .int s.activeNodes),
     ("total_edges", s.totalEdges.toValue), ("active_edges", s.activeEdges.toValue),
     ("network_density", .float s.density)]

def ofValue (v : Value) : Read Statistics := do
  let es ← v.entries
  let totalNodes ← intField es "total_nodes" 0
  let activeNodes ← intField es "active_nodes" 0
  let totalEdges ← intField es "total_edges" 0
  let activeEdges ← intField es "active_edges" 0
  let density ← floatField es "network_density"
  return ⟨totalNodes, activeNodes, .int totalEdges, .int activeEdges, density⟩

end Statistics

namespace HealthLevel

def name : HealthLevel → String
  | .healthy => "healthy"
  | .warning => "warning"
  | .critical => "critical"

def ofName? (s : String) : Option HealthLevel :=
  [.healthy, .warning, .critical].find? fun l : HealthLevel => l.name = s

def ofValue (v : Value) : Read HealthLevel :=
  match v with
  | .text s =>
    match ofName? s with
    | some l => .ok l
    | none => .error (.notAmong v "HealthLevel")
  | _ => .error (.notAmong v "HealthLevel")

end HealthLevel

namespace Health

def toValue (h : Health) : Value :=
  .record
    [("level", .text h.level.name), ("score", .float h.score), ("assessed_at", .text h.assessedAt)]

def ofValue (v : Value) : Read Health := do
  let es ← v.indexed
  let level ← required es "level" >>= HealthLevel.ofValue
  let score ← floatField es "score"
  return ⟨level, score, textField es "assessed_at" ""⟩

end Health

namespace Bounds

/-- No node has been placed. -/
def isUnset (b : Bounds) : Bool := b.northEast.isZero && b.southWest.isZero

def toValue (b : Bounds) : Value :=
  .record
    [("north_east", b.northEast.toValue), ("south_west", b.southWest.toValue),
     ("center", b.center.toValue), ("zoom_level", b.zoom)]

def ofValue (v : Value) : Read Bounds := do
  let es ← v.entries
  let northEast ← Coordinates.ofField es "north_east"
  let southWest ← Coordinates.ofField es "south_west"
  let center ← Coordinates.ofField es "center"
  let zoom ← intField es "zoom_level" 8
  return ⟨northEast, southWest, center, .int zoom⟩

end Bounds

end NetAtlas
