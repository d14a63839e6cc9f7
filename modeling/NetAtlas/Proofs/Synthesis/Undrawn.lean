import NetAtlas.Proofs.Random.Alike
import NetAtlas.Proofs.Synthesis.Clock
import NetAtlas.Proofs.Synthesis.Edges
import NetAtlas.Proofs.Synthesis.Frame
import NetAtlas.Proofs.Synthesis.Nodes

/-!
What a synthesis does not draw. Edges and links are drawn; all else that a topology says, and also
whether a synthesis comes to one, follows from the devices without their links.
-/

namespace NetAtlas

/-- The device without its links. -/
def Device.unlinked (d : Device) : Device := { d with links := [] }

/-- What is left of a topology without its edges and its timestamps. -/
def Topology.undrawn (t : Topology) : Topology := { t.undated with edges := [] }

theorem Number.combine_outOfRange {onInts : Int → Int → Int} {onFloats : Float → Float → Float}
    {a : Number} {y : Float} (h : a.toFloat? = none) :
    combine onInts onFloats a (.float y) = .error .outOfRange := by
  cases a <;> simp [combine, toFloat, h] <;> rfl

/-- Beside a float, whether a number is in range depends on the number alone. -/
theorem Number.matches_combine (onInts : Int → Int → Int) (onFloats : Float → Float → Float)
    (a : Number) (x y : Float) :
    Matches (fun m n => ∃ u v, m = .float u ∧ n = .float v)
      (combine onInts onFloats a (.float x)) (combine onInts onFloats a (.float y)) := by
  cases ha : a.toFloat? with
  | none =>
    rw [combine_outOfRange ha, combine_outOfRange ha]
    exact rfl
  | some z =>
    rw [combine_float ha, combine_float ha]
    exact ⟨_, _, rfl, rfl⟩

namespace Random

variable {σ : Type} [WordSource σ]

theorem alike_uniform (range : Value × Value) :
    Drawing.Alike (fun _ _ => True) (uniform range : Drawing σ Float) (uniform range) := by
  refine Drawing.alike_check_bind _ fun low => ?_
  refine Drawing.alike_check_bind _ fun high => ?_
  refine Drawing.alike_check_bind _ fun span => ?_
  refine (Drawing.alike_draw unit unit).bind fun share share' _ _ => ?_
  refine (Drawing.alike_check (Number.matches_combine _ _ span share share')).bind ?_
  rintro _ _ ⟨x, y, rfl, rfl⟩ _
  refine Drawing.alike_check ((Number.matches_combine _ _ low x y).bind ?_)
  rintro _ _ ⟨u, v, rfl, rfl⟩
  trivial

theorem alike_between (range : Value × Value) :
    Drawing.Alike (fun _ _ => True) (between range : Drawing σ Int) (between range) := by
  refine Drawing.alike_check_bind _ fun high => ?_
  refine Drawing.alike_check_bind _ fun stop => ?_
  refine Drawing.alike_check_bind _ fun low => ?_
  refine Drawing.alike_check_bind _ fun stop => ?_
  refine Drawing.alike_check_bind _ fun _ => ?_
  exact Drawing.alike_draw _ _

end Random

namespace Synthesis

variable {σ : Type} [WordSource σ] {s : SynthesisSettings}

theorem alike_newEdge (ends ends' : String × String) :
    Drawing.Alike (fun _ _ => True) (newEdge s ends.1 ends.2 : Drawing σ Edge)
      (newEdge s ends'.1 ends'.2) :=
  (Random.alike_uniform s.weights).bind fun _ _ _ _ =>
    (Random.alike_between s.costs).bind fun _ _ _ _ => Drawing.alike_pure trivial

/-- If edges cannot be drawn, the first pass ends well only without an edge. -/
theorem alike_connectEach_nil
    (hnew : ∀ ends ends' : String × String, Drawing.Alike (fun _ _ => False)
      (newEdge s ends.1 ends.2 : Drawing σ Edge) (newEdge s ends'.1 ends'.2))
    (ids pending : List String) :
    Drawing.Alike (fun edges _ => edges = [])
      (connectEach s ids pending [] : Drawing σ (List Edge)) (connectEach s ids pending []) := by
  induction pending with
  | nil => exact Drawing.alike_pure rfl
  | cons id pending ih =>
    rw [connectEach]
    split
    · exact ih
    · split
      · exact ih
      · rename_i other _
        exact (hnew (id, other) (id, other)).bind fun _ _ hfalse _ => hfalse.elim

/-- Whether the edges can be drawn does not depend on what is drawn. -/
theorem alike_connect (ids : List String) :
    Drawing.Alike (fun _ _ => True) (connect s ids : Drawing σ (List Edge)) (connect s ids) := by
  rw [connect]
  split
  · exact Drawing.alike_pure trivial
  · rename_i hmany
    have hids : ids ≠ [] := fun hempty => hmany (by simp [hempty])
    rcases Drawing.total_or_alike_false (alike_newEdge (σ := σ) (s := s)) with hnew | hnew
    · have hfirst := total_connectEach (fun a b => hnew (a, b)) ids ids []
      refine (Drawing.alike_of_total hfirst hfirst).bind fun edges edges' _ _ => ?_
      refine Drawing.alike_check_bind _ fun n => ?_
      exact Drawing.alike_of_total (total_joinSome hids (fun a _ b _ _ => hnew (a, b)) n edges)
        (total_joinSome hids (fun a _ b _ _ => hnew (a, b)) n edges')
    · refine (alike_connectEach_nil hnew ids ids).bind ?_
      rintro _ edges' rfl ⟨source, rest, hrun⟩
      -- Without a first edge all ids are the same, so that the second pass draws none either.
      have hsame : ∀ a ∈ ids, ∀ b ∈ ids, a = b := by
        intro a ha b hb
        by_contra hne
        obtain ⟨x, y, others, hdistinct⟩ := exists_eraseDups_eq ⟨a, ha, b, hb, hne⟩
        have hspokes := ways_connectEach_self hrun
        rw [spokes, hdistinct] at hspokes
        exact absurd hspokes (by simp)
      have hnone : ∀ a ∈ ids, ∀ b ∈ ids, a ≠ b →
          Drawing.Total (newEdge s a b : Drawing σ Edge) :=
        fun a ha b hb hne => absurd (hsame a ha b hb) hne
      refine Drawing.alike_check_bind _ fun n => ?_
      exact Drawing.alike_of_total (total_joinSome hids hnone n []) (total_joinSome hids hnone n edges')

theorem map_id_unlinked (devices : List Device) :
    (devices.map Device.unlinked).map (·.id) = devices.map (·.id) := by
  rw [List.map_map]
  rfl

theorem filter_unlinked (devices : List Device) :
    (devices.map Device.unlinked).filter Device.isEquipped =
      (devices.filter Device.isEquipped).map Device.unlinked := by
  rw [List.filter_map]
  rfl

/-- Links do not count towards a topology. -/
theorem assemble_unlinked (now : String) (fleet : List Device) :
    (assemble s now (fleet.map Device.unlinked) : Drawing σ Topology) = assemble s now fleet := by
  have hactive : activeCount (fleet.map Device.unlinked) = activeCount fleet := by
    rw [activeCount, List.countP_map]
    rfl
  have hstatistics : statisticsOf s (fleet.map Device.unlinked) = statisticsOf s fleet := by
    rw [statisticsOf, statisticsOf, hactive, List.length_map]
  have hhealth : healthOf s now (fleet.map Device.unlinked) = healthOf s now fleet := by
    rw [healthOf, healthOf, score, score, hactive, List.length_map, List.isEmpty_map]
  have hnodes : nodesOf (fleet.map Device.unlinked) = nodesOf fleet := by
    rw [nodesOf, List.filterMap_map]
    rfl
  have hbounds : boundsOf s (fleet.map Device.unlinked) = boundsOf s fleet := by
    rw [boundsOf, List.filterMap_map]
    rfl
  rw [assemble, assemble, map_id_unlinked, hstatistics, hhealth, hnodes, hbounds]

/-- Only edges and timestamps can differ between two topologies of one fleet. -/
theorem alike_assemble (now now' : String) (fleet : List Device) :
    Drawing.Alike (fun t t' => t.undrawn = t'.undrawn)
      (assemble s now fleet : Drawing σ Topology) (assemble s now' fleet) := by
  rw [assemble, assemble]
  refine (alike_connect _).bind fun edges edges' _ _ => ?_
  refine Drawing.alike_check_bind _ fun statistics => ?_
  have hhealth : Matches (fun h h' => h.stamped "" = h'.stamped "")
      (healthOf s now fleet) (healthOf s now' fleet) := by
    rw [healthOf_eq_stamped now, healthOf_eq_stamped now']
    cases healthOf s "" fleet with
    | error f => exact rfl
    | ok h => exact rfl
  refine (Drawing.alike_check hhealth).bind fun h h' hstamped _ => ?_
  refine Drawing.alike_pure ?_
  simp only [Topology.undrawn, Topology.undated, Topology.stamped, hstamped]

/-- Whether links can be drawn for a device does not depend on what is drawn, nor on links. -/
theorem alike_drawLinks {fleet fleet' : List Device} {d d' : Device}
    (hfleet : fleet.map (·.id) = fleet'.map (·.id)) (hid : d.id = d'.id) :
    Drawing.Alike (fun _ _ => True) (drawLinks s fleet d : Drawing σ (List Link))
      (drawLinks s fleet' d') := by
  have hothers : (fleet.filter fun other => other.id != d.id).isEmpty =
      (fleet'.filter fun other => other.id != d'.id).isEmpty := by
    have hmap (ds : List Device) (id : String) : (ds.filter fun other => other.id != id).isEmpty =
        ((ds.map (·.id)).filter fun other => other != id).isEmpty := by
      rw [List.filter_map, List.isEmpty_map]
      rfl
    rw [hmap, hmap, hfleet, hid]
  rw [drawLinks, drawLinks]
  simp only [hothers]
  split
  · exact Drawing.alike_pure trivial
  · exact (Random.alike_between _).bind fun _ _ _ _ => Drawing.alike_draw _ _

/-- Renewing links finds the same fault, or none, whatever is drawn and whatever links the devices
    had. -/
theorem relink_outcome {fleet fleet' devices devices' : List Device}
    (hfleet : fleet.map (·.id) = fleet'.map (·.id))
    (hdevices : List.Forall₂ (fun d d' => Device.unlinked d = Device.unlinked d') devices devices')
    (source source' : σ) :
    (relink s fleet Device.isEquipped devices source).1.1 =
      (relink s fleet' Device.isEquipped devices' source').1.1 := by
  induction hdevices generalizing source source' with
  | nil => rfl
  | @cons d d' devices devices' hd hdevices ih =>
    have hid : d.id = d'.id := (congrArg Device.id hd :)
    have hequipped : d.isEquipped = d'.isEquipped :=
      (congrArg Device.isEquipped hd :)
    rw [relink, relink, hequipped]
    split
    · obtain ⟨f, _, _, hrun, hrun'⟩ | ⟨_, _, middle, middle', hrun, hrun', _⟩ :=
        (alike_drawLinks (s := s) hfleet hid).run_cases source source'
      · rw [hrun, hrun']
      · rw [hrun, hrun']
        exact ih middle middle'
    · exact ih source source'

/-- From placed devices a synthesis comes to the same whatever is drawn and whatever links the
    devices had, but for edges and timestamps. -/
theorem undrawn_ofPlaced {devices devices' : List Device}
    (h : devices.map Device.unlinked = devices'.map Device.unlinked) (now now' : String)
    (source source' : σ) (notices notices' : List Notice) :
    Option.map Topology.undrawn <$> (ofPlaced s now devices source notices).outcome =
      Option.map Topology.undrawn <$> (ofPlaced s now' devices' source' notices').outcome := by
  have hfleet : (devices.filter Device.isEquipped).map Device.unlinked =
      (devices'.filter Device.isEquipped).map Device.unlinked := by
    rw [← filter_unlinked, h, filter_unlinked]
  have hids : (devices.filter Device.isEquipped).map (·.id) =
      (devices'.filter Device.isEquipped).map (·.id) := by
    rw [← map_id_unlinked, hfleet, map_id_unlinked]
  have hdevices : List.Forall₂ (fun d d' => Device.unlinked d = Device.unlinked d')
      devices devices' := by
    rw [← List.forall₂_map_left_iff (R := fun d d' => d = Device.unlinked d'),
      ← List.forall₂_map_right_iff (R := Eq), List.forall₂_eq_eq_eq]
    exact h
  have hassemble : (assemble s now' (devices'.filter Device.isEquipped) : Drawing σ Topology) =
      assemble s now' (devices.filter Device.isEquipped) := by
    rw [← assemble_unlinked, ← hfleet, assemble_unlinked]
  obtain ⟨f, _, _, hrun, hrun'⟩ | ⟨t, t', middle, middle', hrun, hrun', hundrawn⟩ :=
    (alike_assemble (s := s) now now' (devices.filter Device.isEquipped)).run_cases source source'
  · rw [← hassemble] at hrun'
    rw [outcome_ofPlaced_of_error notices hrun, outcome_ofPlaced_of_error notices' hrun']
  · rw [← hassemble] at hrun'
    rw [outcome_ofPlaced_of_ok notices hrun, outcome_ofPlaced_of_ok notices' hrun',
      relink_outcome hids hdevices middle middle']
    rcases (relink s (devices'.filter Device.isEquipped) Device.isEquipped devices' middle').1.1 with
      f | _
    · rfl
    · exact congrArg (Except.ok ∘ some) hundrawn

theorem devices_ofPlaced (now : String) (devices : List Device) (source : σ)
    (notices : List Notice) :
    (ofPlaced s now devices source notices).devices.map Device.unlinked =
      devices.map Device.unlinked := by
  symm
  rw [← List.forall₂_eq_eq_eq, List.forall₂_map_left_iff, List.forall₂_map_right_iff]
  refine (relinks_ofPlaced now devices source notices).imp fun d d' h => ?_
  cases h with
  | bare _ => rfl
  | equipped _ _ => rfl

end Synthesis

namespace Device

/-- The device as a synthesis places it, without its links. -/
def settled (g : Gazetteer) (d : Device) : Device := (d.relocate g).1.unlinked

theorem settled_unlinked (g : Gazetteer) (d : Device) : d.unlinked.settled g = d.settled g := by
  obtain ⟨id, _ | e, links⟩ := d
  · rfl
  · simp only [settled, relocate, unlinked]
    split
    · rfl
    · split
      · rfl
      · rfl

/-- Placing a device once more leaves it where it is. -/
theorem settled_settled (g : Gazetteer) (d : Device) : (d.settled g).settled g = d.settled g := by
  obtain ⟨id, _ | e, links⟩ := d
  · rfl
  · by_cases hlocation : trimmed e.location = ""
    · simp [settled, relocate, unlinked, hlocation]
    · cases hcity : g.resolve? e.location with
      | none => simp [settled, relocate, unlinked, hlocation, hcity]
      | some city => simp [settled, relocate, unlinked, hlocation, hcity]

theorem isEquipped_settled (g : Gazetteer) (d : Device) : (d.settled g).isEquipped = d.isEquipped :=
  d.isEquipped_relocate g

end Device

namespace Synthesis

variable {σ : Type} [WordSource σ] {s : SynthesisSettings}

theorem map_unlinked_relocateAll (g : Gazetteer) (devices : List Device) :
    (relocateAll g devices).1.map Device.unlinked = devices.map (Device.settled g) := by
  rw [relocateAll_fst, List.map_map]
  rfl

/-- A synthesis leaves the devices placed, whatever becomes of their links. -/
theorem devices_run (g : Gazetteer) (s : SynthesisSettings) (now : String) (devices : List Device)
    (source : σ) :
    (run g s now devices source).devices.map Device.unlinked = devices.map (Device.settled g) := by
  cases hany : devices.any Device.isEquipped with
  | false =>
    obtain ⟨notices, hrun⟩ := run_of_bare g s now source hany
    rw [hrun]
    refine List.map_congr_left fun d hd => ?_
    rw [Device.settled, Device.relocate, any_isEquipped_eq_false_iff.mp hany d hd]
  | true =>
    obtain ⟨notices, hrun⟩ := run_of_equipped g s now source hany
    rw [hrun, devices_ofPlaced, map_unlinked_relocateAll]

theorem exists_of_undrawn {r : Read (Option Topology)} {u : Topology}
    (h : Option.map Topology.undrawn <$> r = .ok (some u)) :
    ∃ t, r = .ok (some t) ∧ t.undrawn = u := by
  obtain _ | t? := r
  · cases h
  · obtain ⟨t, rfl, ht⟩ := Option.map_eq_some_iff.mp (Except.ok.inj h)
    exact ⟨t, rfl, ht⟩

/-- Devices that come to the same once they are placed lead to the same, but for what is drawn. -/
theorem undrawn_run (g : Gazetteer) (now now' : String) {devices devices' : List Device}
    (h : devices.map (Device.settled g) = devices'.map (Device.settled g)) (source source' : σ) :
    Option.map Topology.undrawn <$> (run g s now devices source).outcome =
      Option.map Topology.undrawn <$> (run g s now' devices' source').outcome := by
  have hequipped (ds : List Device) :
      ds.any Device.isEquipped = (ds.map (Device.settled g)).any Device.isEquipped := by
    rw [List.any_map]
    congr 1
    funext d
    exact (d.isEquipped_settled g).symm
  have hsame : devices.any Device.isEquipped = devices'.any Device.isEquipped := by
    rw [hequipped, h, ← hequipped]
  cases hany : devices.any Device.isEquipped with
  | false =>
    rw [outcome_eq_none_iff.mpr hany, outcome_eq_none_iff.mpr (hsame ▸ hany)]
  | true =>
    obtain ⟨notices, hrun⟩ := run_of_equipped g s now source hany
    obtain ⟨notices', hrun'⟩ := run_of_equipped g s now' source' (hsame ▸ hany)
    rw [hrun, hrun']
    apply undrawn_ofPlaced
    rw [map_unlinked_relocateAll, map_unlinked_relocateAll, h]

/-- What is drawn decides on edges and links alone, and so do the links that devices carry in: from
    other sources, and from the same devices with other links, a synthesis comes to the same nodes,
    statistics, health and bounds, or to the same fault. So it does once more, from any source, on
    the devices as it left them. -/
theorem run_undrawn (g : Gazetteer) (s : SynthesisSettings) (now now' : String)
    (devices devices' : List Device) (source source' : σ)
    (h : devices.map Device.unlinked = devices'.map Device.unlinked) :
    let m := run g s now devices source
    let m' := run g s now' devices' source'
    Option.map Topology.undrawn <$> m.outcome = Option.map Topology.undrawn <$> m'.outcome ∧
      m.devices.map Device.unlinked = m'.devices.map Device.unlinked ∧
      ∀ (later : String) (source'' : σ),
        Option.map Topology.undrawn <$> (run g s later m.devices source'').outcome =
          Option.map Topology.undrawn <$> m.outcome := by
  intro m m'
  have hunlinked (ds : List Device) :
      ds.map (Device.settled g) = (ds.map Device.unlinked).map (Device.settled g) := by
    rw [List.map_map]
    congr 1
    funext d
    exact (d.settled_unlinked g).symm
  have hsettled : devices.map (Device.settled g) = devices'.map (Device.settled g) := by
    rw [hunlinked, h, ← hunlinked]
  refine ⟨undrawn_run g now now' hsettled source source', ?_, ?_⟩
  · rw [devices_run, devices_run, hsettled]
  · intro later source''
    refine undrawn_run g later now ?_ source'' source
    rw [hunlinked, devices_run, List.map_map]
    congr 1
    funext d
    exact d.settled_settled g

/-- The same devices with a link each. -/
def mixedLinked : List Device := mixed.map fun d => { d with links := [default] }

theorem run_undrawn_mixed :
    ∃ t t' t'', (run (.ofCities Gazetteer.londons) .default "" mixed (Twister.ofSeed 7)).outcome =
        .ok (some t) ∧
      (run (.ofCities Gazetteer.londons) .default "" mixedLinked (Twister.ofSeed 8)).outcome =
        .ok (some t') ∧
      (run (.ofCities Gazetteer.londons) .default ""
        (run (.ofCities Gazetteer.londons) .default "" mixed (Twister.ofSeed 7)).devices
        (Twister.ofSeed 9)).outcome = .ok (some t'') ∧
      t'.undrawn = t.undrawn ∧ t''.undrawn = t.undrawn := by
  -- The gazetteer stays closed, as there is nothing to look up.
  generalize Gazetteer.ofCities Gazetteer.londons = g
  obtain ⟨t, ht⟩ := exists_topology_of_typed g "" (Twister.ofSeed 7)
    SynthesisSettings.typed_default Settings.checkSynthesis_default
    (show mixed.length < 2 ^ 63 by decide) rfl
  obtain ⟨hother, _, hagain⟩ := run_undrawn g .default "" "" mixed mixedLinked (Twister.ofSeed 7)
    (Twister.ofSeed 8) rfl
  have hundrawn : Option.map Topology.undrawn <$>
      (run g .default "" mixed (Twister.ofSeed 7)).outcome = .ok (some t.undrawn) := by
    rw [ht]
    rfl
  obtain ⟨t', ht', hsame⟩ := exists_of_undrawn (hother.symm.trans hundrawn)
  obtain ⟨t'', ht'', hsame'⟩ := exists_of_undrawn ((hagain "" (Twister.ofSeed 9)).trans hundrawn)
  exact ⟨t, t', t'', ht, ht', ht'', hsame, hsame'⟩

end Synthesis

end NetAtlas
