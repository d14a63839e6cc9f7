import NetAtlas.Fault

/-!
What can be wrong with the structure of a topology.
-/

namespace NetAtlas

inductive Issue where
  | duplicateIds
  | selfLoop (edge : String)
  | unknownNode (edge node : String)
  | duplicateEdge (source target : String)
  | isolated (nodes : List String)
deriving DecidableEq, Repr

def Issue.text : Issue → String
  | .duplicateIds => "Duplicate node ids"
  | .selfLoop edge => "Self-loop edge " ++ edge
  | .unknownNode edge node => s!"Edge {edge} references unknown node {node}"
  | .duplicateEdge source target => s!"Duplicate edge between {source} and {target}"
  | .isolated nodes => s!"{nodes.length} nodes without edges: " ++ ", ".intercalate nodes

end NetAtlas
