import NetAtlas.Proofs.Synthesis.Drawable
import NetAtlas.Synthesis

/-!
What stands behind a topology: the devices with equipment, placed, and the edges drawn between
their ids. Placing devices changes neither their ids nor which of them have equipment.
-/

namespace NetAtlas

namespace Device

theorem id_relocate (g : Gazetteer) (d : Device) : (d.relocate g).1.id = d.id := by
  rw [relocate]
  split
  · rfl
  · split
    · rfl
    · split <;> rfl

theorem isEquipped_relocate (g : Gazetteer) (d : Device) :
    (d.relocate g).1.isEquipped = d.isEquipped := by
  rw [relocate]
  split
  · rfl
  · rename_i e he
    split
    · rfl
    · split
      · rfl
      · rw [isEquipped, isEquipped, he, Option.isSome_some, Option.isSome_some]

end Device

theorem relocateAll_fst (g : Gazetteer) (devices : List Device) :
    (relocateAll g devices).1 = devices.map fun d => (d.relocate g).1 := by
  induction devices with
  | nil => rfl
  | cons d devices ih =>
    rw [List.map_cons, ← ih]
    rfl

namespace Synthesis

/-- The ids of the devices that take part in a synthesis. -/
def fleetIds (devices : List Device) : List String :=
  (devices.filter Device.isEquipped).map (·.id)

theorem fleetIds_relocateAll (g : Gazetteer) (devices : List Device) :
    fleetIds (relocateAll g devices).1 = fleetIds devices := by
  rw [fleetIds, relocateAll_fst, List.filter_map, List.map_map, fleetIds]
  congr 1
  · funext d
    exact d.id_relocate g
  · congr 1
    funext d
    exact d.isEquipped_relocate g

theorem map_id_nodesOf (devices : List Device) :
    (nodesOf devices).map (·.id) = fleetIds devices := by
  rw [nodesOf, fleetIds]
  induction devices with
  | nil => rfl
  | cons d devices ih =>
    cases hequipment : d.equipment with
    | none =>
      rw [List.filterMap_cons_none (by rw [Device.node?, hequipment, Option.map_none]), ih,
        List.filter_cons_of_neg (by rw [Device.isEquipped, hequipment]; exact Bool.false_ne_true)]
    | some e =>
      have hnode : d.node?.map (·.id) = some d.id := by
        rw [Device.node?, hequipment]
        rfl
      obtain ⟨node, hnode, hid⟩ := Option.map_eq_some_iff.mp hnode
      rw [List.filterMap_cons_some hnode, List.map_cons, ih, hid,
        List.filter_cons_of_pos (by rw [Device.isEquipped, hequipment]; rfl), List.map_cons]

theorem any_isEquipped_eq_false_iff {devices : List Device} :
    devices.any Device.isEquipped = false ↔ ∀ d ∈ devices, d.equipment = none := by
  rw [List.any_eq_false]
  refine forall_congr' fun d => imp_congr_right fun _ => ?_
  rw [Device.isEquipped, Option.not_isSome_iff_eq_none]

variable {σ : Type} [WordSource σ] {s : SynthesisSettings}

/-- The parts of a topology, and where each of them comes from. -/
structure Assembled (s : SynthesisSettings) (now : String) (fleet : List Device) (source : σ)
    (t : Topology) : Prop where
  nodes : t.nodes = nodesOf fleet
  edges : ∃ rest, (connect s (fleet.map (·.id))).run source = (.ok t.edges, rest)
  statistics : statisticsOf s fleet = .ok t.statistics
  health : healthOf s now fleet = .ok t.health
  bounds : t.bounds = boundsOf s fleet

theorem assembled_of_assemble {now : String} {fleet : List Device} {source rest : σ}
    {t : Topology} (hrun : (assemble s now fleet).run source = (.ok t, rest)) :
    Assembled s now fleet source t := by
  rw [assemble] at hrun
  obtain ⟨edges, afterEdges, hedges, hrun⟩ := Drawing.run_bind_eq_ok_iff.mp hrun
  obtain ⟨statistics, _, hstatistics, hrun⟩ := Drawing.run_bind_eq_ok_iff.mp hrun
  obtain ⟨health, _, hhealth, hrun⟩ := Drawing.run_bind_eq_ok_iff.mp hrun
  obtain ⟨rfl, _⟩ := Drawing.run_pure_eq_ok_iff.mp hrun
  exact ⟨rfl, ⟨afterEdges, hedges⟩, congrArg Prod.fst hstatistics, congrArg Prod.fst hhealth, rfl⟩

/-- Without a device that has equipment, a synthesis leaves everything as it is. -/
theorem run_of_bare (g : Gazetteer) (s : SynthesisSettings) (now : String) (source : σ)
    {devices : List Device} (hbare : devices.any Device.isEquipped = false) :
    ∃ notices, run g s now devices source = { outcome := .ok none, devices, source, notices } := by
  rw [run]
  split
  · exact ⟨_, rfl⟩
  · rw [if_pos (by rw [hbare]; rfl)]
    exact ⟨_, rfl⟩

/-- With one, it goes on with the placed devices. -/
theorem run_of_equipped (g : Gazetteer) (s : SynthesisSettings) (now : String) (source : σ)
    {devices : List Device} (hequipped : devices.any Device.isEquipped = true) :
    ∃ notices, run g s now devices source =
      ofPlaced s now (relocateAll g devices).1 source notices := by
  have hsome : ¬ devices.isEmpty = true := by
    rw [List.isEmpty_iff]
    rintro rfl
    exact absurd hequipped (by simp)
  rw [run, if_neg hsome, if_neg (by simp [hequipped])]
  exact ⟨_, rfl⟩

theorem outcome_ofPlaced_of_error {now : String} {devices : List Device} {source rest : σ}
    {f : Fault} (notices : List Notice)
    (hfault : (assemble s now (devices.filter Device.isEquipped)).run source = (.error f, rest)) :
    (ofPlaced s now devices source notices).outcome = .error f := by
  simp only [ofPlaced, hfault]

/-- What has been assembled comes out as soon as all links are renewed. -/
theorem outcome_ofPlaced_of_ok {now : String} {devices : List Device} {source rest : σ}
    {t : Topology} (notices : List Notice)
    (hmade : (assemble s now (devices.filter Device.isEquipped)).run source = (.ok t, rest)) :
    (ofPlaced s now devices source notices).outcome = (fun _ => some t) <$>
      (relink s (devices.filter Device.isEquipped) Device.isEquipped devices rest).1.1 := by
  simp only [ofPlaced, hmade]
  rcases relink s (devices.filter Device.isEquipped) Device.isEquipped devices rest with
    ⟨⟨_ | _, _⟩, _⟩
  · rfl
  · rfl

/-- The devices end with links that were drawn for those with equipment. -/
def Relinked (s : SynthesisSettings) (devices linked : List Device) : Prop :=
  ∃ source rest : σ, relink s (devices.filter Device.isEquipped) Device.isEquipped devices source =
    ((.ok (), linked), rest)

/-- Once devices are placed, there is a fault, or a topology that has been assembled from them, and
    they have been linked anew. -/
theorem ofPlaced_cases (s : SynthesisSettings) (now : String) (devices : List Device) (source : σ)
    (notices : List Notice) :
    let m := ofPlaced s now devices source notices
    (∃ f, m.outcome = .error f) ∨
      ∃ t, m.outcome = .ok (some t) ∧ Assembled s now (devices.filter Device.isEquipped) source t ∧
        Relinked (σ := σ) s devices m.devices := by
  intro m
  rcases hmade : (assemble s now (devices.filter Device.isEquipped)).run source with ⟨f | t, middle⟩
  · exact .inl ⟨f, outcome_ofPlaced_of_error notices hmade⟩
  · rcases hlinked : relink s (devices.filter Device.isEquipped) Device.isEquipped devices middle with
      ⟨⟨f | _, linked⟩, rest⟩
    · refine .inl ⟨f, ?_⟩
      rw [outcome_ofPlaced_of_ok notices hmade, hlinked]
      rfl
    · refine .inr ⟨t, ?_, assembled_of_assemble hmade, middle, rest, ?_⟩
      · rw [outcome_ofPlaced_of_ok notices hmade, hlinked]
        rfl
      · simp only [m, ofPlaced, hmade, hlinked]

/-- There is nothing to show exactly when no device has equipment. -/
theorem outcome_eq_none_iff {g : Gazetteer} {now : String} {devices : List Device} {source : σ} :
    (run g s now devices source).outcome = .ok none ↔ devices.any Device.isEquipped = false := by
  cases hany : devices.any Device.isEquipped with
  | false =>
    obtain ⟨notices, hrun⟩ := run_of_bare g s now source hany
    simp [hrun]
  | true =>
    obtain ⟨notices, hrun⟩ := run_of_equipped g s now source hany
    rcases ofPlaced_cases s now (relocateAll g devices).1 source notices with
      ⟨_, houtcome⟩ | ⟨_, houtcome, _, _⟩ <;>
      simp [hrun, houtcome]

/-- A topology has devices with equipment behind it. -/
theorem any_isEquipped_of_run {g : Gazetteer} {now : String} {devices : List Device} {source : σ}
    {t : Topology} (h : (run g s now devices source).outcome = .ok (some t)) :
    devices.any Device.isEquipped = true := by
  cases hany : devices.any Device.isEquipped with
  | true => rfl
  | false =>
    rw [outcome_eq_none_iff.mpr hany] at h
    exact absurd h (by simp)

/-- A synthesis that ends with a topology has assembled it from the placed devices, and has linked
    them anew. -/
theorem assembled_and_relinked_of_run {g : Gazetteer} {now : String} {devices : List Device}
    {source : σ} {t : Topology} (h : (run g s now devices source).outcome = .ok (some t)) :
    Assembled s now ((relocateAll g devices).1.filter Device.isEquipped) source t ∧
      Relinked (σ := σ) s (relocateAll g devices).1 (run g s now devices source).devices := by
  obtain ⟨notices, hrun⟩ := run_of_equipped g s now source (any_isEquipped_of_run h)
  rw [hrun] at h ⊢
  obtain ⟨_, houtcome⟩ | ⟨_, houtcome, hassembled, hrelinked⟩ :=
    ofPlaced_cases s now (relocateAll g devices).1 source notices
  · exact absurd (houtcome.symm.trans h) (by simp)
  · obtain rfl := Option.some.inj (Except.ok.inj (houtcome.symm.trans h))
    exact ⟨hassembled, hrelinked⟩

theorem assembled_of_run {g : Gazetteer} {now : String} {devices : List Device} {source : σ}
    {t : Topology} (h : (run g s now devices source).outcome = .ok (some t)) :
    Assembled s now ((relocateAll g devices).1.filter Device.isEquipped) source t :=
  (assembled_and_relinked_of_run h).1

/-- With settings that edges and links can be drawn by, a synthesis ends with a topology as soon as
    there is a device with equipment and its figures can be worked out. -/
theorem exists_topology_of_drawable {g : Gazetteer} {now : String} {devices : List Device}
    {low high : Int} {statistics : Statistics} {health : Health} (hs : s.Drawable)
    (hlow : s.linkCounts.1.integer? = some low) (hhigh : s.linkCounts.2.integer? = some high)
    (hordered : low ≤ high) (hequipped : devices.any Device.isEquipped = true)
    (hstatistics : statisticsOf s ((relocateAll g devices).1.filter Device.isEquipped) =
      .ok statistics)
    (hhealth : healthOf s now ((relocateAll g devices).1.filter Device.isEquipped) = .ok health)
    (source : σ) : ∃ t, (run g s now devices source).outcome = .ok (some t) := by
  have hassemble : Drawing.Total
      (assemble s now ((relocateAll g devices).1.filter Device.isEquipped) : Drawing σ Topology) :=
    (total_connect hs _).bind fun _ _ => Drawing.total_check_bind hstatistics
      (Drawing.total_check_bind hhealth (Drawing.total_pure _))
  obtain ⟨t, middle, hmade⟩ := hassemble source
  obtain ⟨linked, rest, hlinked⟩ := exists_relink Device.isEquipped (total_drawLinks hlow hhigh hordered
    ((relocateAll g devices).1.filter Device.isEquipped)) (relocateAll g devices).1 middle
  obtain ⟨notices, hrun⟩ := run_of_equipped g s now source hequipped
  rw [hrun, outcome_ofPlaced_of_ok notices hmade, hlinked]
  exact ⟨t, rfl⟩

end Synthesis

end NetAtlas
