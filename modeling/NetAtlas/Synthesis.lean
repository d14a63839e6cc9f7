import NetAtlas.Location.Resolve
import NetAtlas.Synthesis.Links
import NetAtlas.Synthesis.Overview

/-!
Synthesis of a topology from a fleet of devices. The devices are placed first; nodes and figures
follow from them, edges and links are drawn.
-/

namespace NetAtlas

/-- What a synthesis leaves behind, also when it ends in a fault. -/
structure Synthesized (σ : Type) where
  outcome : Read (Option Topology)
  devices : List Device
  source : σ
  notices : List Notice

namespace Synthesis

variable {σ : Type} [WordSource σ]

/-- The parts of a topology of devices that have been placed, all but the time. -/
def assemble (s : SynthesisSettings) (now : String) (fleet : List Device) : Drawing σ Topology := do
  let edges ← connect s (fleet.map (·.id))
  let statistics ← check (statisticsOf s fleet)
  let health ← check (healthOf s now fleet)
  return {
    edges, statistics, health
    id := .text Topology.defaultId
    name := Topology.defaultName
    medium := Topology.defaultMedium
    nodes := nodesOf fleet
    bounds := boundsOf s fleet
    lastUpdated := now }

/-- Synthesis from devices that have been placed, some of which have equipment. -/
def ofPlaced (s : SynthesisSettings) (now : String) (devices : List Device) (source : σ)
    (notices : List Notice) : Synthesized σ :=
  let fleet := devices.filter Device.isEquipped
  match (assemble s now fleet).run source with
  | (.error f, source) => { outcome := .error f, devices, source, notices }
  | (.ok t, source) =>
    match relink s fleet Device.isEquipped devices source with
    | ((.error f, devices), source) => { outcome := .error f, devices, source, notices }
    | ((.ok _, devices), source) =>
      { outcome := .ok (some t), devices, source
        notices := notices ++ [.generated t.nodes.length t.edges.length t.health] }

/-- The notice about devices that take no part, if there are any. -/
def aboutBare (devices : List Device) : List Notice :=
  let bare := devices.countP fun d => !d.isEquipped
  if bare = 0 then [] else [.withoutEquipment bare]

/-- The topology of a fleet of devices, which are placed and get new links. There is none without a
device that has equipment. -/
def run (g : Gazetteer) (s : SynthesisSettings) (now : String) (devices : List Device)
    (source : σ) : Synthesized σ :=
  if devices.isEmpty then { outcome := .ok none, devices, source, notices := [.noDevices] }
  else if !devices.any Device.isEquipped then
    { outcome := .ok none, devices, source, notices := aboutBare devices ++ [.noEquipment] }
  else
    let (placed, found, notices) := relocateAll g devices
    ofPlaced s now placed source
      (aboutBare devices ++ notices ++ [.locatedCount found (devices.countP Device.isEquipped)])

end Synthesis

end NetAtlas
