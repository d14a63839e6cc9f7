import NetAtlas.Number.Arithmetic
import NetAtlas.Random.Source
import NetAtlas.Settings

/-!
Edges between devices. A first pass gives every device an edge, a second one tries some more pairs
at random. Both leave out pairs that are joined already, so the edges form a simple graph.
-/

namespace NetAtlas

/-- The number that a setting has to be. -/
def Value.numeric (v : Value) : Read Number :=
  match v.number? with
  | some n => .ok n
  | none => .error .wrongType

/-- The integer that a number is. Another number is refused for a reason. -/
def Number.whole (reason : String) : Number → Read Int
  | .int n => .ok n
  | .float x => do
    let n ← (Value.float x).toInt
    if (Number.int n).same (.float x) then return n else .error (.rejected reason)

namespace Random

variable {σ : Type} [WordSource σ]

/-- A float between two settings. -/
def uniform (range : Value × Value) : Drawing σ Float := do
  let low ← check range.1.numeric
  let high ← check range.2.numeric
  let span ← check (high.sub low)
  let share ← draw unit
  let offset ← check (span.mul (.float share))
  check (low.add offset >>= Number.toFloat)

/-- There are integers from `low` up to but not including `stop`. -/
def checkBounds (low stop : Int) : Read Unit :=
  if low < stop then .ok ()
  else .error (.rejected s!"empty range for randrange() ({low}, {stop}, {stop - low})")

/-- An integer between two settings, both included. -/
def between (range : Value × Value) : Drawing σ Int := do
  let high ← check range.2.numeric
  let stop ← check (high.add (.int 1))
  let low ← check (range.1.numeric >>= Number.whole "non-integer arg 1 for randrange()")
  let stop ← check (stop.whole "non-integer stop for randrange()")
  check (checkBounds low stop)
  draw (integer low (stop - 1))

end Random

def Edges.joined (edges : List Edge) (a b : String) : Bool := edges.any fun e => e.joins a b

def Edges.touched (edges : List Edge) (id : String) : Bool := edges.any fun e => e.touches id

namespace Synthesis

variable {σ : Type} [WordSource σ]

/-- A new edge with weight and cost drawn from the ranges of the settings. -/
def newEdge (s : SynthesisSettings) (source target : String) : Drawing σ Edge := do
  let weight ← Random.uniform s.weights
  let cost ← Random.between s.costs
  return {
    source, target, weight, cost
    id := s!"edge-{source}-{target}"
    label := s!"Link {source} to {target}"
    medium := "physical"
    status := "up" }

/-- The first other device that is not joined to this one. -/
def firstTarget? (ids : List String) (edges : List Edge) (id : String) : Option String :=
  ids.find? fun other => other != id && !Edges.joined edges id other

/-- Goes through the pending devices and gives each that has no edge yet one to the first other
device. -/
def connectEach (s : SynthesisSettings) (ids : List String) :
    (pending : List String) → List Edge → Drawing σ (List Edge)
  | [], edges => return edges
  | id :: pending, edges =>
    if Edges.touched edges id then connectEach s ids pending edges
    else
      match firstTarget? ids edges id with
      | none => connectEach s ids pending edges
      | some other => do
        let e ← newEdge s id other
        connectEach s ids pending (edges ++ [e])

/-- Draws pairs of devices, and joins those that are distinct and not joined yet. -/
def joinSome (s : SynthesisSettings) (ids : List String) :
    (attempts : Nat) → List Edge → Drawing σ (List Edge)
  | 0, edges => return edges
  | attempts + 1, edges => do
    let a ← draw (Random.choice ids)
    let b ← draw (Random.choice ids)
    if a = b ∨ Edges.joined edges a b then joinSome s ids attempts edges
    else
      let e ← newEdge s a b
      joinSome s ids attempts (edges ++ [e])

/-- How many more pairs to try for so many devices. -/
def attempts (s : SynthesisSettings) (devices : Nat) : Read Nat := do
  let divisor ← s.divisor.numeric
  match ← (Number.int devices).floorDiv divisor with
  | .int n => return n.toNat
  | n => .error (.needsInteger n.toValue)

/-- The edges between devices with the given ids, which may repeat. -/
def connect (s : SynthesisSettings) (ids : List String) : Drawing σ (List Edge) := do
  if ids.length < 2 then return []
  let edges ← connectEach s ids ids []
  let more ← check (attempts s ids.length)
  joinSome s ids more edges

end Synthesis

end NetAtlas
