import Mathlib.Data.List.Forall2
import NetAtlas.Proofs.Synthesis.Outcome

/-!
What a synthesis leaves as it was. Devices are changed in two places, when they are placed and when
they get new links, and a fault may come up in between; yet whatever it ends with, it writes nothing
but coordinates and links of devices with equipment.
-/

namespace NetAtlas

/-- The second device is the first one with other links; without equipment it keeps those it has. -/
inductive Device.Relinks : Device → Device → Prop
  | bare {d : Device} (h : d.isEquipped = false) : Relinks d d
  | equipped {d : Device} (h : d.isEquipped = true) (links : List Link) : Relinks d { d with links }

theorem Device.Relinks.refl (d : Device) : Relinks d d := by
  cases h : d.isEquipped with
  | false => exact .bare h
  | true => exact .equipped h d.links

namespace Synthesis

variable {σ : Type} [WordSource σ] {s : SynthesisSettings}

/-- Also when it ends early, the renewal of links changes nothing else. -/
theorem relinks_relink (fleet devices : List Device) (source : σ) :
    List.Forall₂ Device.Relinks devices
      (relink s fleet Device.isEquipped devices source).1.2 := by
  induction devices generalizing source with
  | nil => exact .nil
  | cons d devices ih =>
    rw [relink]
    split
    · rename_i hequipped
      rcases (drawLinks s fleet d).run source with ⟨_ | links, middle⟩
      · exact .cons (.equipped hequipped []) (List.forall₂_same.mpr fun d _ => .refl d)
      · exact .cons (.equipped hequipped links) (ih middle)
    · rename_i hbare
      exact .cons (.bare (Bool.eq_false_iff.mpr hbare)) (ih source)

/-- A renewal that comes to its end has drawn links for each device that was chosen, and has left the
    others alone. -/
theorem forall₂_of_relink {P : Device → List Link → Prop} {chosen : Device → Bool}
    {fleet devices linked : List Device} {source rest : σ}
    (hdrawn : ∀ d ∈ devices, ∀ links,
      Drawing.Gives (drawLinks s fleet d : Drawing σ (List Link)) links → P d links)
    (hrun : relink s fleet chosen devices source = ((.ok (), linked), rest)) :
    List.Forall₂ (fun d d' => chosen d = true ∧ (∃ links, d' = { d with links } ∧ P d links) ∨
      chosen d = false ∧ d' = d) devices linked := by
  induction devices generalizing linked source rest with
  | nil =>
    obtain rfl : [] = linked := congrArg (·.1.2) hrun
    exact .nil
  | cons d devices ih =>
    obtain ⟨hfirst, hlater⟩ := List.forall_mem_cons.mp hdrawn
    obtain ⟨hchosen, links, middle, others, hdraw, hothers, rfl⟩ | ⟨hspared, others, hothers, rfl⟩ :=
      relink_cons_eq_ok_iff.mp hrun
    · have hlinks := hfirst links ⟨source, middle, hdraw⟩
      exact .cons (.inl ⟨hchosen, links, rfl, hlinks⟩) (ih hlater hothers)
    · exact .cons (.inr ⟨hspared, rfl⟩) (ih hlater hothers)

theorem relinks_ofPlaced (now : String) (devices : List Device) (source : σ)
    (notices : List Notice) :
    List.Forall₂ Device.Relinks devices (ofPlaced s now devices source notices).devices := by
  simp only [ofPlaced]
  rcases (assemble s now (devices.filter Device.isEquipped)).run source with ⟨_ | t, middle⟩
  · exact List.forall₂_same.mpr fun d _ => .refl d
  · have hlinked := relinks_relink (s := s) (devices.filter Device.isEquipped) devices middle
    dsimp only
    rcases hrelink : relink s (devices.filter Device.isEquipped) Device.isEquipped devices middle with
      ⟨⟨_ | _, linked⟩, rest⟩
    · rw [hrelink] at hlinked
      exact hlinked
    · rw [hrelink] at hlinked
      exact hlinked

/-- How a synthesis may leave a device. Without equipment it stays as it is. With equipment it gets
    links, and nothing else is new, unless its location means a city: then it stands there. -/
inductive Leaves (g : Gazetteer) : Device → Device → Prop
  | bare (id : String) (links : List Link) : Leaves g ⟨id, none, links⟩ ⟨id, none, links⟩
  | stayed {id : String} {e : Equipment} {links links' : List Link}
      (h : trimmed e.location = "" ∨ g.resolve? e.location = none) :
      Leaves g ⟨id, some e, links⟩ ⟨id, some e, links'⟩
  | moved {id : String} {e : Equipment} {links links' : List Link} {city : City}
      (hlocation : trimmed e.location ≠ "") (hcity : g.resolve? e.location = some city) :
      Leaves g ⟨id, some e, links⟩ ⟨id, some { e with coordinates := city.coordinates }, links'⟩

/-- What is left of a device that has been placed and then linked. -/
theorem leaves_of_relinks (g : Gazetteer) {d d' : Device} (h : (d.relocate g).1.Relinks d') :
    Leaves g d d' := by
  obtain ⟨id, _ | e, links⟩ := d
  · cases h with
    | bare _ => exact .bare id links
    | equipped hequipped _ => cases hequipped
  · have hequipped : (Device.relocate g ⟨id, some e, links⟩).1.isEquipped = true :=
      Device.isEquipped_relocate g _
    cases h with
    | bare hbare => exact absurd (hbare.symm.trans hequipped) (by simp)
    | equipped _ links' =>
      rw [Device.relocate]
      dsimp only
      split
      · rename_i hblank
        exact .stayed (.inl hblank)
      · rename_i hlocation
        split
        · rename_i hnone
          exact .stayed (.inr hnone)
        · rename_i city hcity
          exact .moved hlocation hcity

/-- Whatever a synthesis ends with, each device is left as it may be, in its place. If there is nothing
    to show, no device has changed and nothing has been drawn. -/
theorem run_leaves (g : Gazetteer) (s : SynthesisSettings) (now : String) (devices : List Device)
    (source : σ) :
    let m := run g s now devices source
    List.Forall₂ (Leaves g) devices m.devices ∧
      (m.outcome = .ok none → m.devices = devices ∧ m.source = source) := by
  intro m
  cases hany : devices.any Device.isEquipped with
  | false =>
    obtain ⟨notices, hrun⟩ := run_of_bare g s now source hany
    rw [show m = _ from hrun]
    refine ⟨List.forall₂_same.mpr fun d hd => ?_, fun _ => ⟨rfl, rfl⟩⟩
    obtain ⟨id, equipment, links⟩ := d
    obtain rfl := any_isEquipped_eq_false_iff.mp hany _ hd
    exact .bare id links
  | true =>
    obtain ⟨notices, hrun⟩ := run_of_equipped g s now source hany
    constructor
    · have hrelinks := relinks_ofPlaced (s := s) now (relocateAll g devices).1 source notices
      rw [relocateAll_fst, List.forall₂_map_left_iff, ← relocateAll_fst, ← hrun] at hrelinks
      exact hrelinks.imp fun d d' => leaves_of_relinks g
    · intro hnone
      exact absurd (outcome_eq_none_iff.mp hnone) (by simp [hany])

end Synthesis

end NetAtlas
