import NetAtlas.Proofs.FloatSign
import NetAtlas.Proofs.Synthesis.Identifiers

/-!
The links of a fleet. Each device that has others beside it gets a number of new links within the
range of the settings. Each of them leads to another id of the fleet, and nothing of the links that
a device had before comes into the new ones.
-/

namespace NetAtlas

/-- The link is one that the device may get as its `i`-th in the fleet. -/
structure Link.Fresh (s : SynthesisSettings) (fleet : List Device) (d : Device) (i : Nat)
    (l : Link) : Prop where
  source : l.source = d.id
  target : ∃ other ∈ fleet, other.id ≠ d.id ∧ l.target = other.id
  id : l.id = s!"link-{d.id}-{l.target}-{i}"
  bandwidth : l.bandwidth ∈ s.bandwidths
  uptime : ∃ days hours : Nat, days < 365 ∧ hours < 24 ∧ l.uptime = s!"{days}d {hours}h"
  /-- The distance between places that are no numbers is no number either. -/
  distance : ¬ l.distance < 1.0

/-- Some device of the fleet has another id. -/
def Device.HasOthers (fleet : List Device) (d : Device) : Prop := ∃ other ∈ fleet, other.id ≠ d.id

/-- The links are those that the device may get in the fleet, from `low` to `high` of them. -/
structure Device.Renewed (s : SynthesisSettings) (low high : Int) (fleet : List Device) (d : Device)
    (links : List Link) : Prop where
  count : d.HasOthers fleet → low ≤ links.length ∧ links.length ≤ high
  alone : ¬ d.HasOthers fleet → links = []
  fresh : ∀ i (l : Link), links[i]? = some l → l.Fresh s fleet d i
  distinct : (links.map (·.id)).Nodup

theorem not_lt_one_ofInt {n : Int} (hn : 1 ≤ n) : ¬ Float.ofInt n < 1.0 := by
  obtain ⟨m, rfl⟩ := Int.eq_ofNat_of_zero_le (show 0 ≤ n by omega)
  have hone : 1.0 ≤ Float.ofNat m := FloatRange.one_le_ofNat (by omega)
  exact FloatOrder.not_lt_of_le hone

namespace Synthesis

variable {σ : Type} [WordSource σ] {s : SynthesisSettings}

section

variable {fleet targets : List Device} {d : Device}

/-- A distance is drawn from 1 on, unless it is far enough as it was reckoned. -/
theorem always_drawDistance {other : Device} (hd : d.isEquipped = true)
    (hother : other.isEquipped = true) :
    Random.Always (fun distance => ¬ distance < 1.0) (drawDistance d other : StateM σ Float) := by
  obtain ⟨a, ha⟩ := Option.isSome_iff_exists.mp hd
  obtain ⟨b, hb⟩ := Option.isSome_iff_exists.mp hother
  simp only [drawDistance, ha, hb]
  split
  · split
    · refine (Random.always_integer (by decide)).bind fun near hnear => Random.always_pure ?_
      exact not_lt_one_ofInt hnear.1
    · rename_i hfar
      exact Random.always_pure hfar
  · refine (Random.always_integer (by decide)).bind fun anywhere hanywhere => Random.always_pure ?_
    exact not_lt_one_ofInt (by omega)

section

variable (hbandwidths : s.bandwidths ≠ []) (hd : d.isEquipped = true)
  (hequipped : ∀ other ∈ fleet, other.isEquipped = true)
  (hothers : ∀ other ∈ targets, other ∈ fleet ∧ other.id ≠ d.id) (htargets : targets ≠ [])

include hbandwidths hd hequipped hothers htargets

theorem always_drawLink (i : Nat) :
    Random.Always (Link.Fresh s fleet d i) (drawLink s d targets i : StateM σ Link) := by
  refine (Random.always_choice htargets).bind fun other hother => ?_
  refine (Random.always_choice hbandwidths).bind fun bandwidth hbandwidth => ?_
  refine (Random.always_true Random.unit).bind fun utilization _ => ?_
  refine (Random.always_true Random.unit).bind fun latency _ => ?_
  obtain ⟨hmem, hne⟩ := hothers other hother
  refine (always_drawDistance hd (hequipped other hmem)).bind fun distance hdistance => ?_
  refine (Random.always_below (n := 365) (by decide)).bind fun days hdays => ?_
  refine (Random.always_below (n := 24) (by decide)).bind fun hours hhours => ?_
  refine (Random.always_true Random.unit).bind fun errorRate _ => ?_
  refine (Random.always_true Random.unit).bind fun availability _ => ?_
  exact Random.always_pure {
    source := rfl
    target := ⟨other, hmem, hne, rfl⟩
    id := rfl
    bandwidth := hbandwidth
    uptime := ⟨days, hours, hdays, hhours, rfl⟩
    distance := hdistance }

theorem always_drawLinksFrom (i count : Nat) :
    Random.Always (fun links : List Link => links.length = count ∧
      ∀ (j : Nat) (l : Link), links[j]? = some l → l.Fresh s fleet d (i + j))
      (drawLinksFrom s d targets i count : StateM σ (List Link)) := by
  induction count generalizing i with
  | zero => exact Random.always_pure ⟨rfl, by simp⟩
  | succ count ih =>
    have hlink := always_drawLink (σ := σ) hbandwidths hd hequipped hothers htargets i
    refine hlink.bind fun link hfresh => (ih (i + 1)).bind fun links ⟨hlength, hlinks⟩ => ?_
    refine Random.always_pure ⟨by rw [List.length_cons, hlength], fun j l hl => ?_⟩
    cases j with
    | zero =>
      obtain rfl : link = l := Option.some.inj hl
      exact hfresh
    | succ j =>
      have hlater := hlinks j l hl
      rwa [Nat.add_right_comm] at hlater

end

variable {low high : Int} (hlow : s.linkCounts.1.integer? = some low)
  (hhigh : s.linkCounts.2.integer? = some high) (hpositive : 1 ≤ low) (hordered : low ≤ high)
  (hbandwidths : s.bandwidths ≠ [])

include hlow hhigh hpositive hordered hbandwidths

theorem renewed_of_drawLinks (hd : d.isEquipped = true)
    (hequipped : ∀ other ∈ fleet, other.isEquipped = true) {links : List Link}
    (hlinks : Drawing.Gives (drawLinks s fleet d : Drawing σ (List Link)) links) :
    d.Renewed s low high fleet links := by
  obtain ⟨source, rest, hrun⟩ := hlinks
  have hdistinct := (ids_drawLinks hrun).nodup
  have hothers : ∀ other, other ∈ fleet.filter (fun other => other.id != d.id) ↔
      other ∈ fleet ∧ other.id ≠ d.id := by simp
  rw [drawLinks] at hrun
  generalize fleet.filter (fun other => other.id != d.id) = targets at hothers hrun
  cases targets with
  | nil =>
    obtain ⟨rfl, _⟩ := Drawing.run_pure_eq_ok_iff.mp hrun
    refine ⟨fun hsome => ?_, fun _ => rfl, by simp, hdistinct⟩
    obtain ⟨other, hmem, hne⟩ := hsome
    exact absurd ((hothers other).mpr ⟨hmem, hne⟩) List.not_mem_nil
  | cons target targets =>
    obtain ⟨count, middle, hcount, hrun⟩ := Drawing.run_bind_eq_ok_iff.mp hrun
    obtain ⟨hleast, hmost⟩ := Random.bounds_of_between hlow hhigh hordered hcount
    obtain ⟨hlength, hfresh⟩ := always_drawLinksFrom hbandwidths hd hequipped
      (fun other => (hothers other).mp) (List.cons_ne_nil _ _) 0 count.toNat middle
    rw [(Drawing.run_draw_eq_ok_iff.mp hrun).1] at hlength hfresh
    refine ⟨fun _ => by omega, fun halone => ?_, fun i l hl => ?_, hdistinct⟩
    · obtain ⟨hmem, hne⟩ := (hothers target).mp List.mem_cons_self
      exact absurd ⟨target, hmem, hne⟩ halone
    · have hlink := hfresh i l hl
      rwa [Nat.zero_add] at hlink

end

theorem drawLink_unlinked (d : Device) (targets : List Device) (i : Nat) :
    (drawLink s d.unlinked (targets.map Device.unlinked) i : StateM σ Link) =
      drawLink s d targets i := by
  rw [drawLink, drawLink, Random.choice_map (f := Device.unlinked) rfl, bind_map_left]
  rfl

theorem drawLinksFrom_unlinked (d : Device) (targets : List Device) (i count : Nat) :
    (drawLinksFrom s d.unlinked (targets.map Device.unlinked) i count : StateM σ (List Link)) =
      drawLinksFrom s d targets i count := by
  induction count generalizing i with
  | zero => rfl
  | succ count ih => rw [drawLinksFrom, drawLinksFrom, drawLink_unlinked, ih]

/-- Links that devices carry in do not count when new ones are drawn. -/
theorem drawLinks_unlinked (fleet : List Device) (d : Device) :
    (drawLinks s (fleet.map Device.unlinked) d.unlinked : Drawing σ (List Link)) =
      drawLinks s fleet d := by
  have hothers : (fleet.map Device.unlinked).filter (fun other => other.id != d.unlinked.id) =
      (fleet.filter fun other => other.id != d.id).map Device.unlinked := List.filter_map
  rw [drawLinks, drawLinks, hothers, List.isEmpty_map]
  simp only [drawLinksFrom_unlinked]

/-- A renewal of all links comes to the same devices if they had none before. -/
theorem relink_unlinked {fleet devices linked : List Device} {source rest : σ}
    (hrun : relink s fleet (fun _ => true) devices source = ((.ok (), linked), rest)) :
    relink s (fleet.map Device.unlinked) (fun _ => true) (devices.map Device.unlinked) source =
      ((.ok (), linked), rest) := by
  induction devices generalizing linked source rest with
  | nil => exact hrun
  | cons d devices ih =>
    obtain ⟨_, links, middle, others, hdraw, hothers, rfl⟩ | ⟨hspared, _⟩ :=
      relink_cons_eq_ok_iff.mp hrun
    · rw [← drawLinks_unlinked] at hdraw
      exact relink_cons_eq_ok_iff.mpr (.inl ⟨rfl, links, middle, others, hdraw, ih hothers, rfl⟩)
    · exact absurd hspared (by simp)

/-- Whatever is drawn, the renewal of all links comes to an end. Each device that others are beside
    has a number of new links within the range then, and a device without others has none: all of
    them are links that it may get in the fleet, under ids of their own, and they are the ones that
    come up if no device had links before. -/
theorem relink_renews (s : SynthesisSettings) (devices : List Device) (source : σ) {low high : Int}
    (hlow : s.linkCounts.1.integer? = some low) (hhigh : s.linkCounts.2.integer? = some high)
    (hpositive : 1 ≤ low) (hordered : low ≤ high) (hbandwidths : s.bandwidths ≠ [])
    (hequipped : ∀ d ∈ devices, d.isEquipped = true) :
    ∃ linked rest, relink s devices (fun _ => true) devices source = ((.ok (), linked), rest) ∧
      List.Forall₂ (fun d d' => ∃ links, d' = { d with links } ∧
        d.Renewed s low high devices links) devices linked ∧
      relink s (devices.map Device.unlinked) (fun _ => true) (devices.map Device.unlinked) source =
        ((.ok (), linked), rest) := by
  obtain ⟨linked, rest, hrun⟩ := exists_relink (fun _ => true)
    (total_drawLinks hlow hhigh hordered devices) devices source
  have hrenewed := forall₂_of_relink (fun d hd links hlinks =>
    renewed_of_drawLinks hlow hhigh hpositive hordered hbandwidths (hequipped d hd) hequipped hlinks)
    hrun
  refine ⟨linked, rest, hrun, hrenewed.imp fun d d' h => ?_, relink_unlinked hrun⟩
  obtain ⟨_, hlinks⟩ | ⟨hspared, _⟩ := h
  · exact hlinks
  · exact absurd hspared (by simp)

/-- Devices with hyphens in their ids and a link each: two at one place, one elsewhere, and one that
    has not been placed and shares its id with another. -/
def crowded : List Device :=
  let gear (place : Coordinates) : Equipment :=
    ⟨"core", .router, .online, "", place, none, none, none⟩
  [("x-y", ⟨10.0, 20.0⟩), ("x", ⟨10.0, 20.0⟩), ("y-x", ⟨-30.0, 40.0⟩), ("x", .zero)].map
    fun (id, place) => ⟨id, some (gear place), [default]⟩

theorem relink_renews_crowded :
    ∃ linked rest, relink .default crowded (fun _ => true) crowded (Twister.ofSeed 7) =
        ((.ok (), linked), rest) ∧
      List.Forall₂ (fun d d' => d'.id = d.id ∧ (1 ≤ d'.links.length ∧ d'.links.length ≤ 3) ∧
        (d'.links.map (·.id)).Nodup) crowded linked := by
  have hlow : SynthesisSettings.default.linkCounts.1.integer? = some 1 := rfl
  have hhigh : SynthesisSettings.default.linkCounts.2.integer? = some 3 := rfl
  obtain ⟨linked, rest, hrun, hrenewed, _⟩ := relink_renews .default crowded (Twister.ofSeed 7)
    hlow hhigh (by omega) (by omega) (List.cons_ne_nil _ _) (by decide)
  have hothers : ∀ d ∈ crowded, d.HasOthers crowded := by
    unfold Device.HasOthers
    decide
  refine ⟨linked, rest, hrun, ?_⟩
  refine ((List.forall₂_and_left _ _).mpr ⟨hothers, hrenewed⟩).imp ?_
  rintro d _ ⟨hother, links, rfl, hlinks⟩
  obtain ⟨hleast, hmost⟩ := hlinks.count hother
  exact ⟨rfl, ⟨Int.ofNat_le.mp hleast, Int.ofNat_le.mp hmost⟩, hlinks.distinct⟩

end Synthesis

end NetAtlas
