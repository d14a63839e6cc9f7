import NetAtlas.Proofs.FloatRange
import NetAtlas.Proofs.Location.Resolve
import NetAtlas.Proofs.Settings.Accepted
import NetAtlas.Proofs.Synthesis.Outcome
import NetAtlas.Random.Twister

/-!
The nodes of a topology and its figures. Nodes, counts and score are worked out one by one, after
the devices have been placed; all of them describe the same devices, those with equipment.
-/

namespace NetAtlas

/-- The node shows the equipment of a device: in the city that its location means, and where it
    stood before if it has no location or one that means no city. -/
structure Gazetteer.Shows (g : Gazetteer) (id : String) (e : Equipment) (n : Node) : Prop where
  id : n.id = id
  name : n.name = e.name
  role : n.role = e.role
  status : n.status = e.status
  location : n.location = e.location
  placed : ∀ city, trimmed e.location ≠ "" → g.resolve? e.location = some city →
    n.coordinates = city.coordinates
  stayed : trimmed e.location = "" ∨ g.resolve? e.location = none → n.coordinates = e.coordinates

namespace Device

theorem node?_eq_none_iff {d : Device} : d.node? = none ↔ d.isEquipped = false := by
  rw [node?, Option.map_eq_none_iff, isEquipped, Option.isSome_eq_false_iff, Option.isNone_iff_eq_none]

/-- A device is online when its node is. -/
theorem isOnline_eq (d : Device) : d.isOnline = d.node?.any fun n => n.status = .online := by
  rw [isOnline, node?]
  cases d.equipment with
  | none => rfl
  | some e => rfl

/-- Once it has been placed, a device with equipment has a node that shows it. -/
theorem exists_node?_relocate (g : Gazetteer) {d : Device} {e : Equipment}
    (he : d.equipment = some e) : ∃ n, (d.relocate g).1.node? = some n ∧ g.Shows d.id e n := by
  rw [relocate]
  simp only [he]
  split
  · rename_i hblank
    refine ⟨_, by rw [node?, he]; rfl, rfl, rfl, rfl, rfl, rfl, ?_, fun _ => rfl⟩
    intro city hlocation
    exact absurd hblank hlocation
  · rename_i hlocation
    split
    · rename_i hcity
      refine ⟨_, by rw [node?, he]; rfl, rfl, rfl, rfl, rfl, rfl, ?_, fun _ => rfl⟩
      intro city _ hfound
      exact absurd (hcity.symm.trans hfound) (by simp)
    · rename_i city hcity
      refine ⟨_, rfl, rfl, rfl, rfl, rfl, rfl, ?_, ?_⟩
      · intro found _ hfound
        rw [Option.some.inj (hfound.symm.trans hcity)]
      · rintro (hblank | hnone)
        · exact absurd hblank hlocation
        · exact absurd (hnone.symm.trans hcity) (by simp)

end Device

namespace Synthesis

theorem nodesOf_filter (devices : List Device) :
    nodesOf (devices.filter Device.isEquipped) = nodesOf devices := by
  rw [nodesOf, nodesOf, List.filterMap_filter]
  congr 1
  funext d
  split
  · rfl
  · rename_i hbare
    exact (Device.node?_eq_none_iff.mpr (Bool.eq_false_iff.mpr hbare)).symm

/-- The nodes of the placed devices show those with equipment, one each, in their order. -/
theorem shows_nodesOf (g : Gazetteer) (devices : List Device) :
    List.Forall₂ (fun d n => ∃ e, d.equipment = some e ∧ g.Shows d.id e n)
      (devices.filter Device.isEquipped) (nodesOf (relocateAll g devices).1) := by
  rw [relocateAll_fst, nodesOf]
  induction devices with
  | nil => exact .nil
  | cons d devices ih =>
    cases he : d.equipment with
    | none =>
      have hbare : d.isEquipped = false := by rw [Device.isEquipped, he]; rfl
      have hnode : (d.relocate g).1.node? = none := by
        rw [Device.node?_eq_none_iff, Device.isEquipped_relocate, hbare]
      rw [List.filter_cons_of_neg (by simp [hbare]), List.map_cons, List.filterMap_cons_none hnode]
      exact ih
    | some e =>
      have hequipped : d.isEquipped = true := by rw [Device.isEquipped, he]; rfl
      obtain ⟨n, hnode, hshows⟩ := d.exists_node?_relocate g he
      rw [List.filter_cons_of_pos hequipped, List.map_cons, List.filterMap_cons_some hnode]
      exact .cons ⟨e, he, hshows⟩ ih

theorem length_nodesOf (devices : List Device) :
    (nodesOf devices).length = (devices.filter Device.isEquipped).length := by
  rw [← List.length_map (·.id), map_id_nodesOf, fleetIds, List.length_map]

theorem isEmpty_placed_eq_false (g : Gazetteer) {devices : List Device}
    (h : devices.any Device.isEquipped = true) :
    ((relocateAll g devices).1.filter Device.isEquipped).isEmpty = false := by
  obtain ⟨d, hd, hequipped⟩ := List.any_eq_true.mp h
  have hplaced : (d.relocate g).1 ∈ (relocateAll g devices).1.filter Device.isEquipped := by
    rw [relocateAll_fst]
    exact List.mem_filter.mpr ⟨List.mem_map_of_mem hd, by rw [d.isEquipped_relocate, hequipped]⟩
  rw [List.isEmpty_eq_false_iff]
  exact List.ne_nil_of_mem hplaced

theorem activeCount_eq (devices : List Device) :
    activeCount devices = (nodesOf devices).countP fun n => n.status = .online := by
  rw [nodesOf, List.countP_filterMap, activeCount]
  congr 1
  funext d
  rw [d.isOnline_eq]
  cases d.node? with
  | none => rfl
  | some n => rfl

/-- The figures of a fleet count its nodes. -/
theorem counts_of_statisticsOf {s : SynthesisSettings} {devices : List Device}
    {statistics : Statistics} (h : statisticsOf s devices = .ok statistics) :
    statistics.totalNodes = devices.length ∧ statistics.activeNodes = activeCount devices := by
  obtain ⟨divisor, _, h⟩ := bind_eq_ok_iff.mp h
  obtain ⟨edges, _, h⟩ := bind_eq_ok_iff.mp h
  obtain ⟨share, _, h⟩ := bind_eq_ok_iff.mp h
  obtain rfl := Except.ok.inj h
  exact ⟨rfl, rfl⟩

theorem exists_thresholds_of_healthOf {s : SynthesisSettings} {now : String}
    {devices : List Device} {health : Health} (h : healthOf s now devices = .ok health) :
    health.score = score devices ∧
      ∃ healthy warning, s.healthy.numeric = .ok healthy ∧ s.warning.numeric = .ok warning ∧
        health.level = .ofScore (.float health.score) healthy warning := by
  obtain ⟨healthy, hhealthy, h⟩ := bind_eq_ok_iff.mp h
  obtain ⟨warning, hwarning, h⟩ := bind_eq_ok_iff.mp h
  obtain rfl := Except.ok.inj h
  exact ⟨rfl, healthy, warning, hhealthy, hwarning, rfl⟩

/-- A topology describes devices under some settings: its nodes show those with equipment, in their
    order, and its figures follow from its nodes. -/
structure Describes (g : Gazetteer) (s : SynthesisSettings) (devices : List Device)
    (t : Topology) : Prop where
  nodes : List.Forall₂ (fun d n => ∃ e, d.equipment = some e ∧ g.Shows d.id e n)
    (devices.filter Device.isEquipped) t.nodes
  totalNodes : t.statistics.totalNodes = t.nodes.length
  activeNodes : t.statistics.activeNodes = t.nodes.countP fun n => n.status = .online
  score : t.health.score =
    100.0 * Float.ofNat (t.nodes.countP fun n => n.status = .online) / Float.ofNat t.nodes.length
  level : ∃ healthy warning, s.healthy.numeric = .ok healthy ∧ s.warning.numeric = .ok warning ∧
    t.health.level = .ofScore (.float t.health.score) healthy warning

/-- The estimate of the edges, for counts. -/
theorem estimatedEdges_ofNat (n : Nat) {m : Nat} (hm : 0 < m) :
    estimatedEdges (.int n) (.int m) = .ok (.int (n - 1 + n / m : Nat)) := by
  rw [estimatedEdges, Number.floorDiv_ofNat n hm]
  rcases Nat.eq_zero_or_pos n with rfl | hn
  · rw [Nat.zero_div]
    rfl
  · have hmany : ¬ (Number.int n).less (.int 1) = true := by
      simp [Number.less]
      omega
    rw [if_neg hmany, Nat.cast_add, Nat.cast_pred hn]
    rfl

theorem exists_density {k : Nat} (hk : k < 2 ^ 64) (nodes : Nat) :
    ∃ x, density (.int k) nodes = .ok x := by
  obtain ⟨y, hy⟩ := Option.isSome_iff_exists.mp (Number.isSome_toFloat?_of_lt hk)
  rw [density, Number.toFloat, hy]
  dsimp only
  split
  · exact ⟨_, rfl⟩
  · exact ⟨_, rfl⟩

/-- The figures of a fleet can be worked out, if it is no longer than a list can be on the machine. -/
theorem exists_statisticsOf_of_divisor {s : SynthesisSettings} {devices : List Device} {d : Nat}
    (hdivisor : s.divisor.integer? = some (d : Int)) (hpositive : 1 ≤ d)
    (hsize : devices.length < 2 ^ 63) : ∃ statistics, statisticsOf s devices = .ok statistics := by
  have hquotient := Nat.div_le_self devices.length d
  obtain ⟨share, hshare⟩ := exists_density
    (show devices.length - 1 + devices.length / d < 2 ^ 64 by omega) devices.length
  rw [statisticsOf, Value.numeric_of_integer? hdivisor]
  change ∃ statistics, (estimatedEdges (.int devices.length) (.int d) >>= _) = .ok statistics
  rw [estimatedEdges_ofNat devices.length hpositive]
  change ∃ statistics, (density _ devices.length >>= _) = .ok statistics
  rw [hshare]
  exact ⟨_, rfl⟩

theorem exists_statisticsOf {s : SynthesisSettings} (hs : s.Drawable) {devices : List Device}
    (hsize : devices.length < 2 ^ 63) : ∃ statistics, statisticsOf s devices = .ok statistics := by
  obtain ⟨d, hd, hpositive⟩ := hs.divisor
  obtain ⟨m, rfl⟩ := Int.eq_ofNat_of_zero_le (show 0 ≤ d by omega)
  exact exists_statisticsOf_of_divisor hd (by omega) hsize

theorem exists_healthOf {s : SynthesisSettings} (hs : s.Typed) (now : String)
    (devices : List Device) : ∃ health, healthOf s now devices = .ok health := by
  obtain ⟨healthy, hhealthy⟩ := hs.healthy
  obtain ⟨warning, hwarning⟩ := hs.warning
  rw [healthOf, Value.numeric_of_number? hhealthy, Value.numeric_of_number? hwarning]
  exact ⟨_, rfl⟩

variable {σ : Type} [WordSource σ]

theorem describes_of_run {g : Gazetteer} {s : SynthesisSettings} {now : String}
    {devices : List Device} {source : σ} {t : Topology}
    (h : (run g s now devices source).outcome = .ok (some t)) : Describes g s devices t := by
  have hassembled := assembled_of_run h
  have hnodes : t.nodes = nodesOf (relocateAll g devices).1 := by
    rw [hassembled.nodes, nodesOf_filter]
  have hlength : ((relocateAll g devices).1.filter Device.isEquipped).length = t.nodes.length := by
    rw [hnodes, length_nodesOf]
  have hactive : activeCount ((relocateAll g devices).1.filter Device.isEquipped) =
      t.nodes.countP fun n => n.status = .online := by
    rw [activeCount_eq, hassembled.nodes]
  have hsome := isEmpty_placed_eq_false g (any_isEquipped_of_run h)
  obtain ⟨htotal, hcount⟩ := counts_of_statisticsOf hassembled.statistics
  obtain ⟨hscore, hlevel⟩ := exists_thresholds_of_healthOf hassembled.health
  refine ⟨hnodes ▸ shows_nodesOf g devices, ?_, ?_, ?_, hlevel⟩
  · rw [htotal, hlength]
  · rw [hcount, hactive]
  · rw [hscore, Synthesis.score, hsome, hactive, hlength]
    rfl

/-- Settings of the right types that pass their checks lead to a topology. The bound on the number of
    devices keeps the estimated edges among the floats. -/
theorem exists_topology_of_typed (g : Gazetteer) {s : SynthesisSettings} (now : String)
    {devices : List Device} (source : σ) (hs : s.Typed) (hcheck : Settings.checkSynthesis s = .ok ())
    (hsize : devices.length < 2 ^ 63) (hequipped : devices.any Device.isEquipped = true) :
    ∃ t, (run g s now devices source).outcome = .ok (some t) := by
  have hdrawable := Settings.drawable_of_checkSynthesis hs hcheck
  have hfew : ((relocateAll g devices).1.filter Device.isEquipped).length < 2 ^ 63 := by
    have hle := List.length_filter_le Device.isEquipped (relocateAll g devices).1
    rw [relocateAll_fst, List.length_map] at hle
    rw [relocateAll_fst]
    exact hle.trans_lt hsize
  obtain ⟨low, high, hlow, hhigh, hordered⟩ :=
    Settings.linkCounts_of_checkSynthesis hs hcheck
  obtain ⟨statistics, hstatistics⟩ := exists_statisticsOf hdrawable hfew
  obtain ⟨health, hhealth⟩ :=
    exists_healthOf hs now ((relocateAll g devices).1.filter Device.isEquipped)
  exact exists_topology_of_drawable hdrawable hlow hhigh hordered hequipped hstatistics hhealth source

/-- Whatever the settings are and whatever is drawn, there is nothing to show exactly when no device
    has equipment, and a topology describes the devices that have some. Settings of the right types
    that pass their checks lead to a topology. -/
theorem run_describes (g : Gazetteer) (s : SynthesisSettings) (now : String)
    (devices : List Device) (source : σ) :
    ((run g s now devices source).outcome = .ok none ↔ ∀ d ∈ devices, d.equipment = none) ∧
    (∀ t, (run g s now devices source).outcome = .ok (some t) → Describes g s devices t) ∧
    (s.Typed → Settings.checkSynthesis s = .ok () → devices.length < 2 ^ 52 →
      (∃ d ∈ devices, d.equipment ≠ none) →
      ∃ t, (run g s now devices source).outcome = .ok (some t)) := by
  refine ⟨outcome_eq_none_iff.trans any_isEquipped_eq_false_iff, fun t => describes_of_run, ?_⟩
  intro htyped hcheck hsize hequipment
  have hequipped : devices.any Device.isEquipped = true := by
    by_contra hbare
    obtain ⟨d, hd, he⟩ := hequipment
    exact he (any_isEquipped_eq_false_iff.mp (Bool.eq_false_iff.mpr hbare) d hd)
  exact exists_topology_of_typed g now source htyped hcheck
    (hsize.trans (by decide)) hequipped

/-- A device without equipment, one whose location means a city, one whose location means none, and
    one without a location. -/
def mixed : List Device :=
  let gear (location : String) (status : Status) (place : Coordinates) : Equipment :=
    ⟨"core", .router, status, location, place, none, none, none⟩
  [⟨"b1", none, []⟩, ⟨"r1", some (gear "London, ON, Canada" .online .zero), []⟩,
    ⟨"s1", some (gear "Atlantis, DC-1" .offline ⟨1.0, 2.0⟩), []⟩,
    ⟨"f1", some (gear " " .online ⟨3.0, 4.0⟩), []⟩]

theorem run_describes_mixed :
    ∃ t, (run (.ofCities Gazetteer.londons) .default "" mixed (Twister.ofSeed 7)).outcome =
        .ok (some t) ∧
      t.nodes.map (fun n => (n.id, n.coordinates)) =
        [("r1", ⟨42.98, -81.25⟩), ("s1", ⟨1.0, 2.0⟩), ("f1", ⟨3.0, 4.0⟩)] := by
  obtain ⟨_, hdescribes, htopology⟩ :=
    run_describes (.ofCities Gazetteer.londons) .default "" mixed (Twister.ofSeed 7)
  obtain ⟨t, ht⟩ := htopology SynthesisSettings.typed_default Settings.checkSynthesis_default
    (by decide) ⟨_, List.mem_cons_of_mem _ List.mem_cons_self, by simp⟩
  have hnodes : List.Forall₂ _ mixed.tail t.nodes := (hdescribes t ht).nodes
  refine ⟨t, ht, ?_⟩
  generalize t.nodes = nodes at hnodes
  rcases hnodes with _ | ⟨⟨_, he₁, h₁⟩, _ | ⟨⟨_, he₂, h₂⟩, _ | ⟨⟨_, he₃, h₃⟩, _ | _⟩⟩⟩
  obtain rfl := Option.some.inj he₁
  obtain rfl := Option.some.inj he₂
  obtain rfl := Option.some.inj he₃
  rw [List.map_cons, List.map_cons, List.map_cons, h₁.id, h₂.id, h₃.id,
    h₁.placed Gazetteer.londons[1] (by decide +kernel) (by decide +kernel),
    h₂.stayed (.inr (by decide +kernel)), h₃.stayed (.inl (by decide +kernel))]
  rfl

end Synthesis

end NetAtlas
