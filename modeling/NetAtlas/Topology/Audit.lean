import NetAtlas.Notice
import NetAtlas.Topology

/-!
Checking the structure of a topology.
-/

namespace NetAtlas

namespace Topology

/-- Issues of the edges, of which those in `seen` come first. An end of an edge is known from then
on, whether there is a node for it or not. -/
def edgeIssues (ids : List String) (seen : List Edge) : List Edge → List Issue
  | [] => []
  | e :: es =>
    if e.source = e.target then .selfLoop e.id :: edgeIssues ids seen es
    else
      let unknown := [e.source, e.target].filter fun id =>
        !ids.contains id && !seen.any fun f => f.touches id
      unknown.map (.unknownNode e.id)
        ++ (if seen.any fun f => f.joins e.source e.target then
              [.duplicateEdge e.source e.target]
            else [])
        ++ edgeIssues ids (seen ++ [e]) es

/-- All names of nodes, those that only edges mention included. -/
def mentioned (t : Topology) : List String :=
  let proper := t.edges.filter fun e => e.source != e.target
  (t.nodeIds ++ proper.flatMap fun e => [e.source, e.target]).eraseDups

/-- The nodes at which no edge ends, in order of their names. -/
def isolatedNodes (t : Topology) : List String :=
  let proper := t.edges.filter fun e => e.source != e.target
  (t.nodeIds.eraseDups.filter fun id => !proper.any fun e => e.touches id).mergeSort

def idIssues (t : Topology) : List Issue :=
  if t.nodeIds.eraseDups.length = t.nodeIds.length then [] else [.duplicateIds]

/-- A single node may stand alone. -/
def isolationIssues (t : Topology) : List Issue :=
  if t.mentioned.length < 2 ∨ t.isolatedNodes = [] then [] else [.isolated t.isolatedNodes]

/-- What is wrong with the structure: repeated nodes, edges that lead nowhere, to themselves or
where another one leads, and nodes without edges. -/
def issues (t : Topology) : List Issue :=
  t.idIssues ++ edgeIssues t.nodeIds [] t.edges ++ t.isolationIssues

/-- What is reported about the structure. -/
def auditNotices (t : Topology) : List Notice :=
  if t.issues.isEmpty then [.valid t.id] else t.issues.map (.violated t.id)

end Topology

end NetAtlas
