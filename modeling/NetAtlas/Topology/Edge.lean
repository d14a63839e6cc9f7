import NetAtlas.Value.Reading

/-!
Undirected edges between nodes.
-/

namespace NetAtlas

structure Edge where
  id : String
  source : String
  target : String
  weight : Float
  cost : Int
  label : String
  medium : String
  status : String
deriving DecidableEq, Inhabited

namespace Edge

/-- The edge has the node at one of its ends. -/
def touches (e : Edge) (id : String) : Bool := e.source == id || e.target == id

/-- The edge runs between two nodes, in either direction. -/
def joins (e : Edge) (a b : String) : Bool :=
  (e.source == a && e.target == b) || (e.source == b && e.target == a)

/-- The distinct ends in order of their names. -/
def ends (e : Edge) : List String :=
  if e.source = e.target then [e.source]
  else if e.source < e.target then [e.source, e.target]
  else [e.target, e.source]

def toValue (e : Edge) : Value :=
  .record
    [("edge_id", .text e.id), ("source", .text e.source), ("target", .text e.target),
     ("edge_type", .text e.medium), ("status", .text e.status), ("weight", .float e.weight),
     ("cost", .int e.cost), ("label", .text e.label)]

def ofValue (v : Value) : Read Edge := do
  let es ← v.indexed
  let id ← requiredText es "edge_id"
  let source ← requiredText es "source"
  let target ← requiredText es "target"
  let weight ← floatField es "weight"
  let cost ← intField es "cost" 0
  return {
    id, source, target, weight, cost
    label := textField es "label" ""
    medium := textField es "edge_type" "physical"
    status := textField es "status" "up" }

end Edge

end NetAtlas
