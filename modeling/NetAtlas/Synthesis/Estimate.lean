import NetAtlas.Number.Arithmetic
import NetAtlas.Topology.Summary

/-!
Figures that follow from counts alone: how many edges to expect, and what a share of active devices
means for the health of a network.
-/

namespace NetAtlas

/-- Edges to expect between `n` nodes: enough to connect them, and one more for each `divisor`
nodes. -/
def estimatedEdges (n divisor : Number) : Read Number := do
  if n.less (.int 1) then return .int 0
  let tree ← n.sub (.int 1)
  let extra ← n.floorDiv divisor
  tree.add extra

/-- A score is judged by two thresholds, each of which counts as reached. -/
def HealthLevel.ofScore (score healthy warning : Number) : HealthLevel :=
  if healthy.lessOrSame score then .healthy
  else if warning.lessOrSame score then .warning
  else .critical

end NetAtlas
