import NetAtlas.Inventory
import NetAtlas.Proofs.FloatOrder
import NetAtlas.Synthesis.Overview

/-!
The box around a fleet. It frames the places of all devices that have been placed, unless one of
them is no number: then it is lost along that axis for all devices.
-/

namespace NetAtlas

/-- The function picks one of two floats: among numbers one that comes first, or else what is no
    number. -/
structure Extreme (before : Float → Float → Prop) (pick : Float → Float → Float) : Prop where
  trans : ∀ {a b c}, before a b → before b c → before a c
  self : ∀ {a}, a.isNaN = false → before a a
  either : ∀ a b, pick a b = a ∨ pick a b = b
  first : ∀ {a b}, a.isNaN = false → b.isNaN = false → before (pick a b) a ∧ before (pick a b) b
  lost : ∀ {a b}, a.isNaN = true ∨ b.isNaN = true → (pick a b).isNaN = true

namespace Extreme

variable {before : Float → Float → Prop} {pick : Float → Float → Float} {x : Float}
  {xs : List Float}

/-- A comparison of numbers makes such a function if what is no number is picked before it is asked. -/
theorem of_ite {less : Float → Float → Prop} [∀ a b, Decidable (less a b)]
    (htrans : ∀ {a b c}, before a b → before b c → before a c)
    (hself : ∀ {a}, a.isNaN = false → before a a) (hless : ∀ {a b}, less a b → before b a)
    (hother : ∀ {a b}, a.isNaN = false → b.isNaN = false → ¬ less a b → before a b) :
    Extreme before fun a b =>
      if a.isNaN then a else if b.isNaN then b else if less a b then b else a where
  trans := htrans
  self := hself
  either a b := by split_ifs <;> simp
  first {a b} ha hb := by
    rw [ha, hb]
    simp only [Bool.false_eq_true, ↓reduceIte]
    split_ifs with hfirst
    · exact ⟨hless hfirst, hself hb⟩
    · exact ⟨hself ha, hother ha hb hfirst⟩
  lost {a b} h := by
    split_ifs with ha hb
    · exact ha
    · exact hb
    · exact absurd h (not_or.mpr ⟨ha, hb⟩)
    · exact absurd h (not_or.mpr ⟨ha, hb⟩)

theorem foldl_mem (h : Extreme before pick) (x : Float) (xs : List Float) :
    xs.foldl pick x ∈ x :: xs := by
  induction xs generalizing x with
  | nil => exact List.mem_singleton_self x
  | cons y xs ih =>
    rw [List.foldl_cons]
    rcases List.mem_cons.mp (ih (pick x y)) with hpicked | hlater
    · rw [hpicked]
      rcases h.either x y with hx | hy
      · simp [hx]
      · simp [hy]
    · exact List.mem_cons_of_mem x (List.mem_cons_of_mem y hlater)

theorem foldl_first (h : Extreme before pick) (hnumbers : ∀ v ∈ x :: xs, v.isNaN = false) :
    ∀ v ∈ x :: xs, before (xs.foldl pick x) v := by
  induction xs generalizing x with
  | nil =>
    intro v hv
    obtain rfl := List.mem_singleton.mp hv
    exact h.self (hnumbers v hv)
  | cons y xs ih =>
    obtain ⟨hx, hothers⟩ := List.forall_mem_cons.mp hnumbers
    obtain ⟨hy, hxs⟩ := List.forall_mem_cons.mp hothers
    have hpicked : (pick x y).isNaN = false := by
      rcases h.either x y with hpick | hpick
      · rwa [hpick]
      · rwa [hpick]
    have hall := ih (List.forall_mem_cons.mpr ⟨hpicked, hxs⟩)
    obtain ⟨hfold, hlater⟩ := List.forall_mem_cons.mp hall
    obtain ⟨hbeforeX, hbeforeY⟩ := h.first hx hy
    rw [List.foldl_cons, List.forall_mem_cons, List.forall_mem_cons]
    exact ⟨h.trans hfold hbeforeX, h.trans hfold hbeforeY, hlater⟩

theorem foldl_lost (h : Extreme before pick) (hlost : ∃ v ∈ x :: xs, v.isNaN = true) :
    (xs.foldl pick x).isNaN = true := by
  induction xs generalizing x with
  | nil => simpa using hlost
  | cons y xs ih =>
    rw [List.exists_mem_cons_iff, List.exists_mem_cons_iff] at hlost
    rw [List.foldl_cons]
    apply ih
    rw [List.exists_mem_cons_iff]
    rcases hlost with hx | hy | hlater
    · exact .inl (h.lost (.inl hx))
    · exact .inl (h.lost (.inr hy))
    · exact .inr hlater

end Extreme

namespace Synthesis

theorem extreme_least : Extreme (fun a b => a ≤ b) least :=
  .of_ite FloatOrder.le_trans FloatOrder.le_self FloatOrder.le_of_lt FloatOrder.le_of_not_lt

theorem extreme_greatest : Extreme (fun a b => b ≤ a) greatest :=
  .of_ite (fun hba hcb => FloatOrder.le_trans hcb hba) FloatOrder.le_self FloatOrder.le_of_lt
    (fun ha hb => FloatOrder.le_of_not_lt hb ha)

/-- The limits are two of the values, and all values are between them if all are numbers. Otherwise
    neither limit is a number. -/
structure Spans (values : List Float) (low high : Float) : Prop where
  low_mem : low ∈ values
  high_mem : high ∈ values
  within : (∀ v ∈ values, v.isNaN = false) → ∀ v ∈ values, low ≤ v ∧ v ≤ high
  lost : (∃ v ∈ values, v.isNaN = true) → low.isNaN = true ∧ high.isNaN = true

theorem spans_foldl (x : Float) (xs : List Float) :
    Spans (x :: xs) (xs.foldl least x) (xs.foldl greatest x) where
  low_mem := extreme_least.foldl_mem x xs
  high_mem := extreme_greatest.foldl_mem x xs
  within hnumbers v hv :=
    ⟨extreme_least.foldl_first hnumbers v hv, extreme_greatest.foldl_first hnumbers v hv⟩
  lost h := ⟨extreme_least.foldl_lost h, extreme_greatest.foldl_lost h⟩

/-- There is nothing between limits that are zero. -/
theorem Spans.beq_zero {values : List Float} {low high : Float} (h : Spans values low high)
    (hlow : (low == 0.0) = true) (hhigh : (high == 0.0) = true) : ∀ v ∈ values, (v == 0.0) = true := by
  obtain ⟨hnumber, _⟩ := FloatOrder.isNaN_eq_false_of_beq hlow
  have hnumbers : ∀ v ∈ values, v.isNaN = false := by
    intro v hv
    by_contra hlost
    have hnone := (h.lost ⟨v, hv, by simpa using hlost⟩).1
    exact absurd (hnone.symm.trans hnumber) (by simp)
  intro v hv
  obtain ⟨hleast, hmost⟩ := h.within hnumbers v hv
  exact FloatOrder.beq_of_between hlow hhigh hleast hmost

theorem isZero_eq_false_of_place? {d : Device} {c : Coordinates} (h : d.place? = some c) :
    c.isZero = false := by
  obtain ⟨id, _ | e, links⟩ := d
  · cases h
  · simp only [Device.place?] at h
    split at h
    · rename_i hplaced
      rw [← Option.some.inj h]
      simpa [Equipment.hasCoordinates] using hplaced
    · cases h

/-- The box spans the places of all devices that have been placed, along each axis on its own. It is
    unset if and only if there are none. -/
theorem boundsOf_spans (s : SynthesisSettings) (devices : List Device) :
    let b := boundsOf s devices
    let places := devices.filterMap Device.place?
    (b.isUnset = true ↔ places = []) ∧
      (places ≠ [] →
        Spans (places.map (·.latitude)) b.southWest.latitude b.northEast.latitude ∧
          Spans (places.map (·.longitude)) b.southWest.longitude b.northEast.longitude) := by
  intro b places
  have hplaces : ∀ c ∈ places, c.isZero = false := by
    intro c hc
    obtain ⟨d, _, hd⟩ := List.mem_filterMap.mp hc
    exact isZero_eq_false_of_place? hd
  cases hlist : places with
  | nil =>
    have hb : b = ⟨.zero, .zero, .zero, s.zoom⟩ := by
      change boundsOf s devices = _
      rw [boundsOf, show devices.filterMap Device.place? = _ from hlist]
    have hzero : Coordinates.zero.isZero = true := by decide +kernel
    have hunset : b.isUnset = true := by rw [hb, Bounds.isUnset, hzero, Bool.and_self]
    exact ⟨iff_of_true hunset rfl, fun hnone => absurd rfl hnone⟩
  | cons c cs =>
    have hb : b = frame s.zoom c cs := by
      change boundsOf s devices = _
      rw [boundsOf, show devices.filterMap Device.place? = _ from hlist]
    have hc : c.isZero = false := hplaces c (hlist ▸ List.mem_cons_self)
    have hlatitudes : Spans ((c :: cs).map (·.latitude)) b.southWest.latitude
        b.northEast.latitude := by
      rw [hb]
      exact spans_foldl c.latitude _
    have hlongitudes : Spans ((c :: cs).map (·.longitude)) b.southWest.longitude
        b.northEast.longitude := by
      rw [hb]
      exact spans_foldl c.longitude _
    refine ⟨iff_of_false ?_ (List.cons_ne_nil c cs), fun _ => ⟨hlatitudes, hlongitudes⟩⟩
    intro hunset
    simp only [Bounds.isUnset, Coordinates.isZero, Bool.and_eq_true] at hunset
    obtain ⟨⟨hnorth, heast⟩, hsouth, hwest⟩ := hunset
    have hlatitude := hlatitudes.beq_zero hsouth hnorth c.latitude List.mem_cons_self
    have hlongitude := hlongitudes.beq_zero hwest heast c.longitude List.mem_cons_self
    have hzero : c.isZero = true := Bool.and_eq_true_iff.mpr ⟨hlatitude, hlongitude⟩
    exact absurd (hzero.symm.trans hc) (by simp)

/-- A record of a device with coordinates. -/
def placedRecord (id : String) (latitude longitude : Value) : Value :=
  .record [("id", .text id),
    ("equipment", .record [("latitude", latitude), ("longitude", longitude)])]

/-- A device is not framed when another one stands at what is no number. -/
theorem boundsOf_excludes :
    ∃ a b, Inventory.accept [placedRecord "a" (.float 10.0) (.float 20.0),
        placedRecord "b" (.text "nan") (.text "nan")] = (.ok [a, b], []) ∧
      a.place? = some ⟨10.0, 20.0⟩ ∧
      ¬ (boundsOf .default [a, b]).southWest.latitude ≤ 10.0 ∧
      ¬ 10.0 ≤ (boundsOf .default [a, b]).northEast.latitude := by
  refine ⟨_, _, rfl, by decide +kernel, by decide +kernel, by decide +kernel⟩

end Synthesis

end NetAtlas
