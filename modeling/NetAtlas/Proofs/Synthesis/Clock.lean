import NetAtlas.Proofs.Synthesis.Outcome

/-!
What the clock does to a synthesis: it stamps the topology and its health, and nothing else. What is
drawn and what the devices come to is the same at any time.
-/

namespace NetAtlas

namespace Health

def stamped (now : String) (h : Health) : Health := { h with assessedAt := now }

end Health

namespace Topology

/-- The topology as if made at another time. -/
def stamped (now : String) (t : Topology) : Topology :=
  { t with lastUpdated := now, health := t.health.stamped now }

/-- The topology without its timestamps. -/
def undated (t : Topology) : Topology := t.stamped ""

end Topology

namespace Synthesis

variable {σ : Type} [WordSource σ] {s : SynthesisSettings}

theorem healthOf_eq_stamped (now : String) (devices : List Device) :
    healthOf s now devices = Health.stamped now <$> healthOf s "" devices := by
  rw [healthOf, healthOf]
  cases s.healthy.numeric with
  | error fault => rfl
  | ok healthy =>
    cases s.warning.numeric with
    | error fault => rfl
    | ok warning => rfl

theorem assemble_eq_stamped (now : String) (fleet : List Device) :
    (assemble s now fleet : Drawing σ Topology) = Topology.stamped now <$> assemble s "" fleet := by
  simp only [assemble, map_bind, map_pure, healthOf_eq_stamped now, ← Drawing.map_check,
    bind_map_left]
  rfl

/-- Runs that differ in the clock only end with the same devices and the same source, and what they
    give differs in timestamps only. -/
theorem ofPlaced_clock (now now' : String) (devices : List Device) (source : σ)
    (notices notices' : List Notice) :
    let m := ofPlaced s now devices source notices
    let m' := ofPlaced s now' devices source notices'
    m.source = m'.source ∧ m.devices = m'.devices ∧
      Option.map Topology.undated <$> m.outcome = Option.map Topology.undated <$> m'.outcome := by
  intro m m'
  simp only [m, m', ofPlaced, assemble_eq_stamped now, assemble_eq_stamped now', Drawing.run_map]
  rcases (assemble s "" (devices.filter Device.isEquipped)).run source with ⟨_ | t, middle⟩
  · exact ⟨rfl, rfl, rfl⟩
  · dsimp only
    rcases relink s (devices.filter Device.isEquipped) Device.isEquipped devices middle with
      ⟨⟨_ | _, devices⟩, source⟩
    · exact ⟨rfl, rfl, rfl⟩
    · exact ⟨rfl, rfl, rfl⟩

theorem run_clock (g : Gazetteer) (now now' : String) (devices : List Device) (source : σ) :
    let m := run g s now devices source
    let m' := run g s now' devices source
    m.source = m'.source ∧ m.devices = m'.devices ∧
      Option.map Topology.undated <$> m.outcome = Option.map Topology.undated <$> m'.outcome := by
  intro m m'
  cases hany : devices.any Device.isEquipped with
  | false =>
    obtain ⟨notices, hrun⟩ := run_of_bare g s now source hany
    obtain ⟨notices', hrun'⟩ := run_of_bare g s now' source hany
    simp only [m, m', hrun, hrun', and_self]
  | true =>
    obtain ⟨notices, hrun⟩ := run_of_equipped g s now source hany
    obtain ⟨notices', hrun'⟩ := run_of_equipped g s now' source hany
    simp only [m, m', hrun, hrun']
    exact ofPlaced_clock now now' _ source _ _

/-- When there is nothing to show, nothing was drawn. -/
theorem source_of_outcome_eq_none {g : Gazetteer} {now : String} {devices : List Device} {source : σ}
    (h : (run g s now devices source).outcome = .ok none) :
    (run g s now devices source).source = source := by
  obtain ⟨notices, hrun⟩ := run_of_bare g s now source (outcome_eq_none_iff.mp h)
  rw [hrun]

end Synthesis

end NetAtlas
