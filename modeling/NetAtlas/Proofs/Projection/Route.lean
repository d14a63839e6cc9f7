import NetAtlas.Projection.Loading
import NetAtlas.Proofs.FloatParts
import NetAtlas.Proofs.Value.Faults

/-!
The way a point takes to its place on the map: by a pin, along the curve and by a nudge, or along
the curve alone. What is no finite number counts as zero before the way is chosen, so the way that
the tables give for the number itself is another one.
-/

namespace NetAtlas

/-- Where the place of a point on the map comes from. -/
inductive Route (K : Type) where
  | pinned (pin : Pin K)
  | nudged (n : Nudge K)
  | bare

namespace Projector

section

variable {K : Type} [Scalar K] (p : Projector K)

/-- The way that the tables give: a pin comes before all nudges. -/
def route (latitude longitude : K) : Route K :=
  match p.pinAt latitude longitude, p.nudgeAt latitude longitude with
  | some pin, _ => .pinned pin
  | none, some n => .nudged n
  | none, none => .bare

/-- The way that a point takes: what is not finite counts as zero. -/
def taken (latitude longitude : K) : Route K :=
  p.route (finiteOrZero latitude) (finiteOrZero longitude)

/-- The place that a way leads to, before it is cut to the map. -/
def along (latitude longitude : K) : Route K → Read (Point K)
  | .pinned pin => .ok ⟨pin.x * p.scaleX, pin.y * p.scaleY⟩
  | .nudged n =>
    (fun point => ⟨point.x + n.dx * p.scaleX, point.y + n.dy * p.scaleY⟩) <$>
      p.onCurve latitude longitude
  | .bare => p.onCurve latitude longitude

/-- The place on the map nearest to a place. -/
def cut (point : Point K) : Point K :=
  ⟨Scalar.clamp 0.0 p.base.boxWidth point.x, Scalar.clamp 0.0 p.base.boxHeight point.y⟩

theorem unpinned_eq_along {latitude longitude : K} (hpin : p.pinAt latitude longitude = none) :
    p.unpinned latitude longitude = p.along latitude longitude (p.route latitude longitude) := by
  rw [unpinned, route, hpin]
  cases p.nudgeAt latitude longitude with
  | none => exact bind_pure (p.onCurve latitude longitude)
  | some n => rfl

/-- The way that a point takes decides where it is put. -/
theorem onMap_eq_along (latitude longitude : K) :
    p.onMap latitude longitude =
      p.cut <$> p.along (finiteOrZero latitude) (finiteOrZero longitude)
        (p.taken latitude longitude) := by
  rw [onMap, taken]
  cases hpin : p.pinAt (finiteOrZero latitude) (finiteOrZero longitude) with
  | none =>
    rw [← p.unpinned_eq_along hpin]
    rfl
  | some pin =>
    rw [route, hpin]
    rfl

variable {p} {latitude longitude : K}

theorem finiteOrZero_of_isFinite {v : K} (h : Scalar.isFinite v = true) : finiteOrZero v = v :=
  if_pos h

theorem taken_of_isFinite (hlatitude : Scalar.isFinite latitude = true)
    (hlongitude : Scalar.isFinite longitude = true) :
    p.taken latitude longitude = p.route latitude longitude := by
  rw [taken, finiteOrZero_of_isFinite hlatitude, finiteOrZero_of_isFinite hlongitude]

/-- No box covers a point whose latitude or longitude is not finite. -/
theorem nudgeAt_eq_none (h : (Scalar.isFinite latitude && Scalar.isFinite longitude) = false) :
    p.nudgeAt latitude longitude = none := by
  rw [nudgeAt, List.find?_eq_none]
  intro n _
  rw [Nudge.covers, h, Bool.false_and, Bool.false_and]
  exact Bool.false_ne_true

end

/-- Rounding leaves what is not finite as it is. -/
theorem roundTo_of_isFinite_eq_false {x : Float} (places : Int) (h : x.isFinite = false) :
    Decimal.roundTo places x = x := by
  rw [Decimal.roundTo]
  split
  · rename_i d hkind
    exact absurd (FloatKind.isFinite_of_finite hkind) (by simp [h])
  · rfl

/-- The shipped pins stand at finite latitudes and longitudes. -/
theorem shippedPins_ne {x : Float} (h : x.isFinite = false) :
    ∀ pin ∈ (shippedPins : List (Pin Float)),
      (pin.latitude == x) = false ∧ (pin.longitude == x) = false := by
  obtain rfl | rfl | rfl := FloatKind.eq_of_isFinite_eq_false h <;> decide

/-- Of the shipped tables none has anything to say about what is not finite. -/
theorem route_shipped_eq_bare {p : Projector Float} (hpins : p.pins = shippedPins)
    (hround : p.roundTo = Decimal.roundTo) {latitude longitude : Float}
    (h : (latitude.isFinite && longitude.isFinite) = false) : p.route latitude longitude = .bare := by
  have hpin : p.pinAt latitude longitude = none := by
    rw [pinAt, List.find?_eq_none, hpins, hround]
    intro pin hpin
    rw [List.mem_reverse] at hpin
    rcases Bool.and_eq_false_iff.mp h with hlatitude | hlongitude
    · rw [roundTo_of_isFinite_eq_false _ hlatitude]
      simp [Scalar.same, (shippedPins_ne hlatitude pin hpin).1]
    · rw [roundTo_of_isFinite_eq_false _ hlongitude]
      simp [Scalar.same, (shippedPins_ne hlongitude pin hpin).2]
  rw [route, hpin, nudgeAt_eq_none h]

/-- The projectors of settings have the shipped tables. -/
theorem shipped_of_load {s : ProjectionSettings}
    {map? : Option (String × Except AccessError (List UInt8))} {p : Projector Float}
    (h : (load s map?).1 = .ok p) : p.pins = shippedPins ∧ p.roundTo = Decimal.roundTo := by
  rw [load] at h
  split at h
  · cases h
  · rename_i base _ _
    have h := mapError_eq_ok_iff.mp h
    rw [ofSettings] at h
    obtain ⟨width, -, h⟩ := bind_eq_ok_iff.mp h
    obtain ⟨height, -, h⟩ := bind_eq_ok_iff.mp h
    obtain ⟨latitude, -, h⟩ := bind_eq_ok_iff.mp h
    split at h
    · obtain rfl := Except.ok.inj h
      exact ⟨rfl, rfl⟩
    · cases h

end Projector

end NetAtlas
