import NetAtlas.Projection
import NetAtlas.Proofs.FloatOrder
import NetAtlas.Proofs.Value.Faults

/-!
Points in the viewport. A point is cut to the viewport last of all, so it lies inside whatever came up
before: sizes that are infinite, northings that are not numbers, values that overflow.
-/

namespace NetAtlas

section

variable {α : Type} (less : α → α → Bool)

/-- A cut value is not under the lower end, whatever the order is. -/
theorem eq_or_less_clampBy (low high v : α) :
    low = clampBy less low high v ∨ less low (clampBy less low high v) = true := by
  rw [clampBy, larger]
  split
  · rename_i habove
    exact .inr habove
  · exact .inl rfl

theorem smaller_eq_or_less (high v : α) :
    smaller less high v = high ∨ less (smaller less high v) high = true := by
  rw [smaller]
  split
  · rename_i hbelow
    exact .inr hbelow
  · exact .inl rfl

/-- It is not over the upper end either, if the ends are in order. -/
theorem clampBy_eq_or_less {low high : α} (h : less low high = true) (v : α) :
    clampBy less low high v = high ∨ less (clampBy less low high v) high = true := by
  rw [clampBy, larger]
  split
  · exact smaller_eq_or_less less high v
  · exact .inr h

end

/-- Between two numbers a cut value is a number, also when the value was none. -/
theorem Scalar.clamp_bounds {low high : Float} (h : low < high) (v : Float) :
    low ≤ clamp low high v ∧ clamp low high v ≤ high := by
  obtain ⟨hlow, hhigh⟩ := FloatOrder.isNaN_eq_false_of_lt h
  rw [clamp]
  constructor
  · rcases eq_or_less_clampBy Scalar.less low high v with heq | hless
    · rw [← heq]
      exact FloatOrder.le_self hlow
    · exact FloatOrder.le_of_lt (of_decide_eq_true hless)
  · rcases clampBy_eq_or_less Scalar.less (decide_eq_true h) v with heq | hless
    · rw [heq]
      exact FloatOrder.le_self hhigh
    · exact FloatOrder.le_of_lt (of_decide_eq_true hless)

namespace Projector

section

variable {K : Type} [Scalar K] {p : Projector K}

/-- Nothing that a conversion divides by is zero. -/
structure Graduated (p : Projector K) : Prop where
  width : Scalar.same p.base.boxWidth 0.0 = false
  height : Scalar.same p.base.boxHeight 0.0 = false
  northings : Scalar.same (2.0 * p.northing p.maxLatitude) 0.0 = false

theorem divide_of_same_eq_false {a b : K} (h : Scalar.same b 0.0 = false) :
    divide a b = .ok (a / b) := by
  rw [divide, if_neg (by simp [h])]

theorem Graduated.exists_onMap (h : p.Graduated) (latitude longitude : K) :
    ∃ point, p.onMap latitude longitude = .ok point := by
  have hcurve (latitude longitude : K) :
      ∃ point, p.onCurve latitude longitude = .ok point :=
    ⟨_, bind_eq_ok_iff.mpr ⟨_, divide_of_same_eq_false h.northings, rfl⟩⟩
  have hunpinned (latitude longitude : K) :
      ∃ point, p.unpinned latitude longitude = .ok point := by
    obtain ⟨point, hpoint⟩ := hcurve latitude longitude
    rw [unpinned]
    cases p.nudgeAt latitude longitude with
    | none => exact ⟨_, bind_eq_ok_iff.mpr ⟨point, hpoint, rfl⟩⟩
    | some n => exact ⟨_, bind_eq_ok_iff.mpr ⟨point, hpoint, rfl⟩⟩
  rw [onMap]
  cases p.pinAt (finiteOrZero latitude) (finiteOrZero longitude) with
  | none =>
    obtain ⟨point, hpoint⟩ := hunpinned (finiteOrZero latitude) (finiteOrZero longitude)
    exact ⟨_, bind_eq_ok_iff.mpr ⟨point, hpoint, rfl⟩⟩
  | some pin => exact ⟨_, rfl⟩

theorem Graduated.exists_onScreen (h : p.Graduated) (latitude longitude : K) :
    ∃ point, p.onScreen latitude longitude = .ok point := by
  obtain ⟨point, hpoint⟩ := h.exists_onMap latitude longitude
  have hview : ∃ view, p.inView latitude longitude = .ok view :=
    ⟨_, bind_eq_ok_iff.mpr ⟨point, hpoint, bind_eq_ok_iff.mpr
      ⟨_, divide_of_same_eq_false h.width, bind_eq_ok_iff.mpr
        ⟨_, divide_of_same_eq_false h.height, rfl⟩⟩⟩⟩
  obtain ⟨view, hview⟩ := hview
  exact ⟨_, bind_eq_ok_iff.mpr ⟨view, hview, rfl⟩⟩

/-- The last step of a conversion is to cut the point to the viewport. -/
theorem exists_clamp_of_onScreen {latitude longitude : K} {point : Point K}
    (h : p.onScreen latitude longitude = .ok point) :
    ∃ x y, point = ⟨Scalar.clamp 0.0 p.viewWidth x, Scalar.clamp 0.0 p.viewHeight y⟩ := by
  rw [onScreen] at h
  obtain ⟨view, _, h⟩ := bind_eq_ok_iff.mp h
  exact ⟨_, _, (Except.ok.inj h).symm⟩

end

/-- In a viewport of positive size every conversion that ends with a point ends with one inside,
    whatever the map, the tables, the northings and the rounding are. It does end with one unless it
    divides by zero. -/
theorem onScreen_inside (p : Projector Float) (hwidth : 0.0 < p.viewWidth)
    (hheight : 0.0 < p.viewHeight) (latitude longitude : Float) :
    (p.Graduated → ∃ point, p.onScreen latitude longitude = .ok point) ∧
    ∀ point, p.onScreen latitude longitude = .ok point →
      (0.0 ≤ point.x ∧ point.x ≤ p.viewWidth) ∧ (0.0 ≤ point.y ∧ point.y ≤ p.viewHeight) := by
  refine ⟨fun h => h.exists_onScreen latitude longitude, ?_⟩
  intro point hpoint
  obtain ⟨x, y, rfl⟩ := exists_clamp_of_onScreen hpoint
  exact ⟨Scalar.clamp_bounds hwidth x, Scalar.clamp_bounds hheight y⟩

/-- An endless map on which no latitude has a northing, and a rounding that doubles. -/
def crooked : Projector Float where
  base := ⟨0.0, 0.0, 0.0, 0.0, 1.0 / 0.0, 857.0⟩
  viewWidth := 1000.0
  viewHeight := 500.0
  maxLatitude := 85.0
  pins := []
  nudges := [⟨"ocean", -90.0, -180.0, 90.0, 180.0, 1.0 / 0.0, -2.0⟩]
  precision := 4
  northing _ := 0.0 / 0.0
  roundTo _ x := x + x

theorem onScreen_inside_crooked :
    ∃ point, crooked.onScreen (0.0 / 0.0) (1.0 / 0.0) = .ok point ∧
      (0.0 ≤ point.x ∧ point.x ≤ 1000.0) ∧ (0.0 ≤ point.y ∧ point.y ≤ 500.0) := by
  obtain ⟨hends, hinside⟩ :=
    onScreen_inside crooked (by decide) (by decide) (0.0 / 0.0) (1.0 / 0.0)
  obtain ⟨point, hpoint⟩ := hends ⟨by decide, by decide, by decide⟩
  exact ⟨point, hpoint, hinside point hpoint⟩

end Projector

end NetAtlas
