import NetAtlas.Topology.Edge
import NetAtlas.Topology.Node
import NetAtlas.Topology.Summary

/-!
Topologies: the nodes and edges that stand for a fleet of devices, and what they come to.
-/

namespace NetAtlas

structure Topology where
  /-- The key it is kept under, which the settings may choose freely. -/
  id : Value
  name : String
  medium : String
  nodes : List Node
  edges : List Edge
  statistics : Statistics
  health : Health
  bounds : Bounds
  lastUpdated : String
deriving Inhabited

namespace Topology

def defaultId : String := "topo"

def defaultName : String := "Generated Network Topology"

def defaultMedium : String := "physical"

def nodeIds (t : Topology) : List String := t.nodes.map (·.id)

def toValue (t : Topology) : Value :=
  .record
    [("topology_id", t.id), ("name", .text t.name), ("topology_type", .text t.medium),
     ("nodes", .list (t.nodes.map (·.toValue))), ("edges", .list (t.edges.map (·.toValue))),
     ("statistics", t.statistics.toValue), ("health", t.health.toValue),
     ("bounds", t.bounds.toValue), ("last_updated", .text t.lastUpdated)]

def nodesOf (es : List (Atom × Value)) : Read (List Node) := do
  (← ((fieldOf? es "nodes").getD (.list [])).items).mapM Node.ofValue

def edgesOf (es : List (Atom × Value)) : Read (List Edge) := do
  (← ((fieldOf? es "edges").getD (.list [])).items).mapM Edge.ofValue

def ofValue (v : Value) : Read Topology := do
  let es ← v.entries
  let nodes ← nodesOf es
  let edges ← edgesOf es
  let statistics ← Statistics.ofValue ((fieldOf? es "statistics").getD (.record []))
  let health ← required es "health" >>= Health.ofValue
  let bounds ← Bounds.ofValue ((fieldOf? es "bounds").getD (.record []))
  return {
    nodes, edges, statistics, health, bounds
    id := .text (textField es "topology_id" defaultId)
    name := textField es "name" defaultName
    medium := textField es "topology_type" defaultMedium
    lastUpdated := textField es "last_updated" "" }

end Topology

end NetAtlas
