import NetAtlas.Proofs.Projection.Calibration
import NetAtlas.Proofs.Synthesis.Nodes
import NetAtlas.Service.Launch

/-!
What passing the checks is good for. With checked settings whose values are of the types that are
asked for, every synthesis comes to an end, whatever the devices are, and every point of the globe
has its place in the viewport. The checks do not ask for types.
-/

namespace NetAtlas

namespace Settings

theorem check_of_read {es : List (Atom × Value)} {s : Settings} (h : (read es).1 = .ok s) :
    checkProjection s.projection = .ok () ∧ checkSynthesis s.synthesis = .ok () := by
  rw [read] at h
  split at h
  · cases h
  · obtain ⟨_, hcheck, rfl⟩ := map_eq_ok_iff.mp h
    obtain ⟨_, hprojection, hcheck⟩ := bind_eq_ok_iff.mp hcheck
    obtain ⟨_, hsynthesis, _⟩ := bind_eq_ok_iff.mp hcheck
    exact ⟨hprojection, hsynthesis⟩

/-- The settings have values of the types that are asked for. A seed may be anything without parts. -/
structure Typed (s : Settings) : Prop where
  seed : ∃ a, s.synthesis.seed = .atom a
  synthesis : s.synthesis.Typed
  projection : s.projection.Typed

end Settings

/-- A seed without parts seeds a generator. -/
theorem Twister.exists_ofSetting (entropy : Nat) (a : Atom) :
    ∃ source, ofSetting entropy (.atom a) = .ok source := by
  cases a <;> exact ⟨_, rfl⟩

namespace Synthesis

variable {σ : Type} [WordSource σ]

/-- With checked settings of the right types a synthesis finds no fault, also when there is nothing
    to show. A list is shorter than the bound on every machine of 64 bits. -/
theorem exists_outcome_of_typed (g : Gazetteer) {s : SynthesisSettings} (now : String)
    {devices : List Device} (source : σ) (hs : s.Typed) (hcheck : Settings.checkSynthesis s = .ok ())
    (hsize : devices.length < 2 ^ 63) :
    ∃ t?, (run g s now devices source).outcome = .ok t? := by
  cases hequipped : devices.any Device.isEquipped with
  | false => exact ⟨none, outcome_eq_none_iff.mpr hequipped⟩
  | true =>
    obtain ⟨t, ht⟩ := exists_topology_of_typed g now source hs hcheck hsize hequipped
    exact ⟨some t, ht⟩

end Synthesis

namespace Settings

/-- Settings that have been read, and are of the types that are asked for, serve their purpose: they
    seed a generator, there is a bandwidth for a link to have, with them each synthesis finds no
    fault, and the projector that they give finds a place inside the viewport for every point of the
    globe, and all that is no point of it. Where parallels lie is not a matter of the settings, but
    what is divided by may not be zero. -/
theorem adequate_of_read {es : List (Atom × Value)} {s : Settings} (hread : (read es).1 = .ok s)
    (htyped : s.Typed) :
    (∀ entropy, ∃ source, Twister.ofSetting entropy s.synthesis.seed = .ok source) ∧
    s.synthesis.bandwidths ≠ [] ∧
    (∀ (σ : Type) [WordSource σ] (g : Gazetteer) (now : String) (devices : List Device) (source : σ),
      devices.length < 2 ^ 63 →
      ∃ t?, (Synthesis.run g s.synthesis now devices source).outcome = .ok t?) ∧
    (∀ map? base, (Projector.mapOf map?).1 = .ok base →
      ∃ p, (Projector.load s.projection map?).1 = .ok p ∧ p.Follows s.projection ∧
        ∀ northing, Scalar.same (2.0 * northing p.maxLatitude) 0.0 = false →
          ∀ latitude longitude,
            ∃ point, ({ p with northing } : Projector Float).onScreen latitude longitude = .ok point ∧
              (0.0 ≤ point.x ∧ point.x ≤ p.viewWidth) ∧ (0.0 ≤ point.y ∧ point.y ≤ p.viewHeight)) := by
  obtain ⟨hprojection, hsynthesis⟩ := check_of_read hread
  refine ⟨?_, ?_, ?_, ?_⟩
  · intro entropy
    obtain ⟨a, ha⟩ := htyped.seed
    rw [ha]
    exact Twister.exists_ofSetting entropy a
  · exact List.isEmpty_eq_false_iff.mp (checked_of_checkSynthesis hsynthesis).bandwidths
  · intro σ _ g now devices source hsize
    exact Synthesis.exists_outcome_of_typed g now source htyped.synthesis hsynthesis hsize
  · intro map? base hmap
    obtain ⟨p, hload, hp⟩ := Projector.exists_follows htyped.projection hprojection hmap
    refine ⟨p, hload, hp, fun northing hnorthing latitude longitude => ?_⟩
    have hgraduated := hp.graduated hnorthing
    obtain ⟨point, hpoint⟩ := hgraduated.exists_onScreen latitude longitude
    obtain ⟨x, y, rfl⟩ := Projector.exists_clamp_of_onScreen hpoint
    exact ⟨_, hpoint, Scalar.clamp_bounds hp.view.1 x, Scalar.clamp_bounds hp.view.2 y⟩

/-- Settings with a text for a seed, fewer edges and a viewport of its own. -/
def modestEntries : List (Atom × Value) :=
  [(.text "synthesis", .record [("seed", .text "lab"), ("density_divisor", .int 4)]),
   (.text "projection", .record [("viewport_width", .int 800), ("override_precision", .int 2)])]

/-- The settings of the modest entries. -/
def modest : Settings where
  sources := ⟨"worldcities.csv", none⟩
  projection := { ProjectionSettings.default with viewWidth := .int 800, precision := .int 2 }
  synthesis := { SynthesisSettings.default with seed := .text "lab", divisor := .int 4 }
  service := .default
  output := .default

theorem read_modestEntries : (read modestEntries).1 = .ok modest := by
  rfl

theorem typed_modest : modest.Typed where
  seed := ⟨.text "lab", rfl⟩
  synthesis := { SynthesisSettings.typed_default with divisor := ⟨4, rfl⟩ }
  projection := ⟨⟨800.0, by rfl, by decide⟩, ⟨500.0, rfl, by decide⟩, ⟨85.0, rfl⟩, ⟨2, rfl⟩⟩

/-- Northings near the equator, and that of the greatest latitude, in metres. -/
def northings (latitude : Float) : Float :=
  if latitude == 85.0 then 19971868.880408565 else 0.0

theorem adequate_of_read_modest :
    modest.synthesis.bandwidths ≠ [] ∧
      ∃ source t? p point, Twister.ofSetting 0 modest.synthesis.seed = .ok source ∧
        (Synthesis.run .empty modest.synthesis "" Synthesis.mixed source).outcome = .ok t? ∧
        (Projector.load modest.projection none).1 = .ok p ∧
        ({ p with northing := northings } : Projector Float).onScreen 0.0 0.0 = .ok point ∧
        (0.0 ≤ point.x ∧ point.x ≤ p.viewWidth) ∧ (0.0 ≤ point.y ∧ point.y ≤ p.viewHeight) := by
  obtain ⟨hseed, hbandwidths, hsynthesis, hprojection⟩ :=
    adequate_of_read read_modestEntries typed_modest
  obtain ⟨source, hsource⟩ := hseed 0
  obtain ⟨t?, ht⟩ := hsynthesis Twister .empty "" Synthesis.mixed source (by decide)
  obtain ⟨p, hload, hp, hplaces⟩ := hprojection none .default rfl
  have hlatitude : p.maxLatitude = 85.0 := Except.ok.inj hp.maxLatitude.symm
  obtain ⟨point, hpoint, hinside⟩ := hplaces northings (by rw [hlatitude]; decide) 0.0 0.0
  exact ⟨hbandwidths, source, t?, p, point, hsource, ht, hload, hpoint, hinside⟩

end Settings

namespace Synthesis

variable {σ : Type} [WordSource σ] {s : SynthesisSettings} {x : Float}

/-- No number of further pairs comes from a divisor that is a float, even a whole one. -/
theorem attempts_ne_ok (hs : s.divisor = .float x) (devices n : Nat) :
    attempts s devices ≠ .ok n := by
  intro h
  rw [attempts, hs] at h
  obtain ⟨divisor, hdivisor, h⟩ := bind_eq_ok_iff.mp h
  obtain rfl := Except.ok.inj hdivisor
  obtain ⟨quotient, hquotient, h⟩ := bind_eq_ok_iff.mp h
  obtain ⟨y, _, hquotient⟩ := bind_eq_ok_iff.mp hquotient
  obtain ⟨z, _, hquotient⟩ := bind_eq_ok_iff.mp hquotient
  split at hquotient
  · cases hquotient
  · obtain rfl := Except.ok.inj hquotient
    cases h

/-- With such a divisor a fleet of two devices or more ends in a fault. -/
theorem outcome_ne_ok (hs : s.divisor = .float x) (g : Gazetteer) (now : String)
    {devices : List Device} (hmany : 2 ≤ (fleetIds devices).length) (source : σ)
    (t? : Option Topology) : (run g s now devices source).outcome ≠ .ok t? := by
  intro h
  cases t? with
  | none =>
    have hbare := any_isEquipped_eq_false_iff.mp (outcome_eq_none_iff.mp h)
    have hfleet : devices.filter Device.isEquipped = [] := by
      rw [List.filter_eq_nil_iff]
      intro d hd
      rw [Device.isEquipped, hbare d hd]
      exact Bool.false_ne_true
    rw [fleetIds, hfleet] at hmany
    exact absurd hmany (by decide)
  | some t =>
    obtain ⟨rest, hedges⟩ := (assembled_of_run h).edges
    have hids : ((relocateAll g devices).1.filter Device.isEquipped).map (·.id) = fleetIds devices :=
      fleetIds_relocateAll g devices
    rw [hids, connect, if_neg (Nat.not_lt.mpr hmany)] at hedges
    obtain ⟨edges, _, _, hedges⟩ := Drawing.run_bind_eq_ok_iff.mp hedges
    obtain ⟨n, _, hattempts, _⟩ := Drawing.run_bind_eq_ok_iff.mp hedges
    exact attempts_ne_ok hs _ n (Prod.mk.inj hattempts).1

end Synthesis

namespace Settings

/-- Entries whose divisor and decimal places are no integers. -/
def fractionalEntries : List (Atom × Value) :=
  [(.text "synthesis", .record [("density_divisor", .float 2.5)]),
   (.text "projection", .record [("override_precision", .float 2.5)])]

/-- The settings of the fractional entries. -/
def fractional : Settings where
  sources := ⟨"worldcities.csv", none⟩
  projection := { ProjectionSettings.default with precision := .float 2.5 }
  synthesis := { SynthesisSettings.default with divisor := .float 2.5 }
  service := .default
  output := .default

/-- The checks let fractions pass, of which neither a synthesis nor a projector can make use. -/
theorem read_inadequate_fractional :
    (read fractionalEntries).1 = .ok fractional ∧
      (∀ t?, (Synthesis.run .empty fractional.synthesis "" Synthesis.mixed
        (Twister.ofSeed 7)).outcome ≠ .ok t?) ∧
      ∀ p, (Projector.load fractional.projection none).1 ≠ .ok p := by
  refine ⟨rfl, Synthesis.outcome_ne_ok rfl .empty "" (by decide) _, ?_⟩
  rintro p ⟨⟩

end Settings

end NetAtlas
