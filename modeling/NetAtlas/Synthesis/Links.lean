import NetAtlas.Device
import NetAtlas.Geography
import NetAtlas.Synthesis.Edges

/-!
Links of each device to others, with simulated measurements.
-/

namespace NetAtlas.Synthesis

variable {σ : Type} [WordSource σ]

/-- The distance of two devices. One that has not been placed may be anywhere, and two at the same
place are near. -/
def drawDistance (source target : Device) : StateM σ Float := do
  match source.equipment, target.equipment with
  | some a, some b =>
    if a.hasCoordinates && b.hasCoordinates then
      let distance := a.coordinates.distanceKm b.coordinates
      if distance < 1.0 then
        let near ← Random.integer 1 50
        return Float.ofInt near
      else return distance
    else
      let anywhere ← Random.integer 100 1099
      return Float.ofInt anywhere
  | _, _ => return 0.0

/-- The name of a device, or its id if it has none. -/
def displayName (d : Device) : String :=
  match d.equipment with
  | some e => e.name
  | none => d.id

/-- The `i`-th link of a device, to one of the targets. -/
def drawLink (s : SynthesisSettings) (d : Device) (targets : List Device) (i : Nat) :
    StateM σ Link := do
  let target ← Random.choice targets
  let bandwidth ← Random.choice s.bandwidths
  let utilization ← Random.unit
  let latency ← Random.unit
  let distance ← drawDistance d target
  let days ← Random.below 365
  let hours ← Random.below 24
  let errorRate ← Random.unit
  let availability ← Random.unit
  return {
    bandwidth, distance
    id := s!"link-{d.id}-{target.id}-{i}"
    name := s!"Link to {displayName target}"
    source := d.id
    target := target.id
    utilization := utilization * 80.0
    latency := latency * 50.0 + 1.0
    uptime := s!"{days}d {hours}h"
    errorRate := errorRate * 0.1
    availability := 95.0 + availability * 5.0
    status := "active"
    medium := "ethernet" }

/-- The links numbered from `i` on, `count` of them. -/
def drawLinksFrom (s : SynthesisSettings) (d : Device) (targets : List Device) (i : Nat) :
    (count : Nat) → StateM σ (List Link)
  | 0 => return []
  | count + 1 => do
    let link ← drawLink s d targets i
    let links ← drawLinksFrom s d targets (i + 1) count
    return link :: links

/-- The links of a device to devices of other id in its fleet; none if there are no others. -/
def drawLinks (s : SynthesisSettings) (fleet : List Device) (d : Device) :
    Drawing σ (List Link) := do
  let targets := fleet.filter fun other => other.id != d.id
  if targets.isEmpty then return []
  let count ← Random.between s.linkCounts
  draw (drawLinksFrom s d targets 0 count.toNat)

/-- Replaces the links of the chosen devices. A fault ends it: the device where it came up has lost
its links, and those after it are as before. -/
def relink (s : SynthesisSettings) (fleet : List Device) (chosen : Device → Bool) :
    List Device → σ → (Read Unit × List Device) × σ
  | [], source => ((.ok (), []), source)
  | d :: ds, source =>
    if chosen d then
      match (drawLinks s fleet d).run source with
      | (.ok links, source) =>
        let ((outcome, rest), source) := relink s fleet chosen ds source
        ((outcome, { d with links } :: rest), source)
      | (.error f, source) => ((.error f, { d with links := [] } :: ds), source)
    else
      let ((outcome, rest), source) := relink s fleet chosen ds source
      ((outcome, d :: rest), source)

end NetAtlas.Synthesis
