import NetAtlas.Proofs.Synthesis.Edges
import NetAtlas.Proofs.Synthesis.Outcome
import NetAtlas.Proofs.Topology.Audit

/-!
The audit of what a synthesis makes. The edges form a simple graph that leaves no id alone, so there
is nothing to find but repeated ids.
-/

namespace NetAtlas

namespace Synthesis

variable {σ : Type} [WordSource σ] {s : SynthesisSettings}

theorem nodeIds_of_assembled {now : String} {devices : List Device} {source : σ} {t : Topology}
    (h : Assembled s now (devices.filter Device.isEquipped) source t) :
    t.nodeIds = fleetIds devices := by
  have hfleet : fleetIds (devices.filter Device.isEquipped) = fleetIds devices := by
    rw [fleetIds, List.filter_filter]
    simp [fleetIds]
  rw [Topology.nodeIds, h.nodes, map_id_nodesOf, hfleet]

/-- Whatever the settings are and whatever is drawn, the topology that a synthesis ends with passes
    its audit if the ids of the devices with equipment differ, and if they do not, the repetition is
    the one issue that is found. -/
theorem issues_of_run (g : Gazetteer) (s : SynthesisSettings) (now : String)
    (devices : List Device) (source : σ) (t : Topology)
    (h : (run g s now devices source).outcome = .ok (some t)) :
    t.issues.map Issue.text =
      if ((devices.filter Device.isEquipped).map (·.id)).Nodup then []
      else ["Duplicate node ids"] := by
  have hassembled := assembled_of_run h
  have hids : t.nodeIds = fleetIds devices := by
    rw [nodeIds_of_assembled hassembled, fleetIds_relocateAll]
  obtain ⟨rest, hedges⟩ := hassembled.edges
  rw [← fleetIds, fleetIds_relocateAll, ← hids] at hedges
  rw [Topology.issues_eq_idIssues (simple_of_connect hedges) (connects_of_connect hedges),
    Topology.idIssues_eq, hids, apply_ite (List.map Issue.text)]
  rfl

/-- Two devices of one id and one of another, and between them one without equipment. -/
def twins : List Device :=
  let gear : Equipment :=
    ⟨"core", .router, .online, "Atlantis, DC-1", .zero, none, none, none⟩
  [⟨"r1", some gear, []⟩, ⟨"b1", none, []⟩, ⟨"s1", some gear, []⟩, ⟨"r1", some gear, []⟩]

theorem issues_of_run_twins :
    ∃ t, (run .empty .default "" twins (Twister.ofSeed 7)).outcome = .ok (some t) ∧
      t.issues.map Issue.text = ["Duplicate node ids"] := by
  have hmade : ∃ t, (run .empty .default "" twins (Twister.ofSeed 7)).outcome = .ok (some t) :=
    exists_topology_of_drawable drawable_default rfl rfl (by decide) rfl rfl rfl _
  obtain ⟨t, hrun⟩ := hmade
  have hissues := issues_of_run .empty .default "" twins (Twister.ofSeed 7) t hrun
  rw [if_neg (by decide)] at hissues
  exact ⟨t, hrun, hissues⟩

end Synthesis

end NetAtlas
