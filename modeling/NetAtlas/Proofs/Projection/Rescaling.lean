import NetAtlas.Proofs.Projection.Curve
import NetAtlas.Proofs.Projection.Route

/-!
Maps of different sizes in exact arithmetic. Pins, nudges and the curve all put a point at fractions
of the width and the height of the map, and cutting to the map cuts these fractions to one. So the
size of the map cancels out on the way to the viewport, and the size of the viewport is a factor.
-/

namespace NetAtlas

variable {K : Type} [Field K] [LinearOrder K]

namespace Projector

/-- Where a way leads to, before it is cut to the map, as fractions of the map. -/
def fraction (p : Projector K) (latitude longitude : K) : Route K → Point K
  | .pinned pin => ⟨pin.x / defaultWidth, pin.y / defaultHeight⟩
  | .nudged n =>
    ⟨across longitude + n.dx / defaultWidth, p.down latitude + n.dy / defaultHeight⟩
  | .bare => ⟨across longitude, p.down latitude⟩

/-- Where a point comes to lie, as fractions of the map and of the viewport alike. -/
def settled (p : Projector K) (latitude longitude : K) : Point K :=
  let fraction := p.fraction latitude longitude (p.route latitude longitude)
  ⟨Scalar.clamp 0 1 fraction.x, Scalar.clamp 0 1 fraction.y⟩

/-- In an ordered field everything is finite. -/
theorem finiteOrZero_eq (v : K) : finiteOrZero v = v := finiteOrZero_of_isFinite rfl

variable [IsStrictOrderedRing K] {p : Projector K}

theorem along_eq (hnorthing : p.northing p.maxLatitude ≠ 0) (latitude longitude : K)
    (route : Route K) :
    p.along latitude longitude route =
      .ok ⟨(p.fraction latitude longitude route).x * p.base.boxWidth,
        (p.fraction latitude longitude route).y * p.base.boxHeight⟩ := by
  cases route with
  | pinned pin =>
    simp only [along, fraction, scaleX, scaleY, div_mul_eq_mul_div, mul_div_assoc]
  | nudged n =>
    rw [along, onCurve_eq hnorthing]
    simp only [fraction, scaleX, scaleY, add_mul, div_mul_eq_mul_div, mul_div_assoc]
    rfl
  | bare => exact onCurve_eq hnorthing latitude longitude

/-- Cutting to a size is cutting to one in units of that size. -/
theorem clamp_mul {size : K} (hsize : 0 < size) (v : K) :
    Scalar.clamp 0.0 size (v * size) = Scalar.clamp 0 1 v * size := by
  have hzero : (0.0 : K) = 0 * size := by norm_num
  rw [Scalar.clamp_eq_max, Scalar.clamp_eq_max, max_mul_of_nonneg _ _ hsize.le,
    min_mul_of_nonneg _ _ hsize.le, one_mul, hzero]

theorem onMap_eq (hwidth : 0 < p.base.boxWidth) (hheight : 0 < p.base.boxHeight)
    (hnorthing : p.northing p.maxLatitude ≠ 0) (latitude longitude : K) :
    p.onMap latitude longitude =
      .ok ⟨(p.settled latitude longitude).x * p.base.boxWidth,
        (p.settled latitude longitude).y * p.base.boxHeight⟩ := by
  rw [onMap_eq_along, taken, finiteOrZero_eq, finiteOrZero_eq, along_eq hnorthing]
  change Except.ok (p.cut _) = _
  rw [cut, clamp_mul hwidth, clamp_mul hheight, settled]

/-- The place in the viewport has nothing of the size of the map in it. -/
theorem inView_eq (hwidth : 0 < p.base.boxWidth) (hheight : 0 < p.base.boxHeight)
    (hnorthing : p.northing p.maxLatitude ≠ 0) (latitude longitude : K) :
    p.inView latitude longitude =
      .ok ⟨(p.settled latitude longitude).x * p.viewWidth,
        (p.settled latitude longitude).y * p.viewHeight⟩ := by
  have hdivide {size : K} (hsize : 0 < size) (v : K) : divide (v * size) size = .ok v := by
    have hsame : Scalar.same size (0.0 : K) = false := by
      simp only [Scalar.same, decide_eq_false_iff_not]
      norm_num [hsize.ne']
    rw [divide_of_same_eq_false hsame, mul_div_cancel_right₀ v hsize.ne']
  exact bind_eq_ok_iff.mpr ⟨_, onMap_eq hwidth hheight hnorthing latitude longitude,
    bind_eq_ok_iff.mpr ⟨_, hdivide hwidth _, bind_eq_ok_iff.mpr ⟨_, hdivide hheight _, rfl⟩⟩⟩

theorem onScreen_eq (hwidth : 0 < p.base.boxWidth) (hheight : 0 < p.base.boxHeight)
    (hnorthing : p.northing p.maxLatitude ≠ 0) (latitude longitude : K) :
    p.onScreen latitude longitude =
      .ok ⟨Scalar.clamp 0.0 p.viewWidth
          (p.roundTo 2 ((p.settled latitude longitude).x * p.viewWidth)),
        Scalar.clamp 0.0 p.viewHeight
          (p.roundTo 2 ((p.settled latitude longitude).y * p.viewHeight))⟩ :=
  bind_eq_ok_iff.mpr ⟨_, inView_eq hwidth hheight hnorthing latitude longitude, rfl⟩

end Projector

/-- Calculated without rounding, the place in the viewport is the same on every map that has a size,
    and it grows with the viewport. -/
theorem Projector.onScreen_of_base (p : Projector ℚ) (base : BaseMap ℚ)
    (hmap : 0 < p.base.boxWidth ∧ 0 < p.base.boxHeight)
    (hbase : 0 < base.boxWidth ∧ 0 < base.boxHeight)
    (hnorthing : p.northing p.maxLatitude ≠ 0) (latitude longitude : ℚ) :
    (∃ point, p.onScreen latitude longitude = .ok point ∧
      { p with base }.onScreen latitude longitude = .ok point) ∧
    ∃ view, p.inView latitude longitude = .ok view ∧
      ∀ a b : ℚ, 0 < a → 0 < b →
        { p with viewWidth := a * p.viewWidth, viewHeight := b * p.viewHeight }.inView
          latitude longitude = .ok ⟨a * view.x, b * view.y⟩ := by
  refine ⟨⟨_, onScreen_eq hmap.1 hmap.2 hnorthing latitude longitude,
    onScreen_eq (p := { p with base }) hbase.1 hbase.2 hnorthing latitude longitude⟩, _,
    inView_eq hmap.1 hmap.2 hnorthing latitude longitude, ?_⟩
  intro a b _ _
  rw [mul_left_comm, mul_left_comm b]
  exact inView_eq (p := { p with viewWidth := a * p.viewWidth, viewHeight := b * p.viewHeight })
    hmap.1 hmap.2 hnorthing latitude longitude

/-- The shipped tables on the default map, with northings as long as the latitudes. -/
def Projector.flat : Projector ℚ where
  base := .default
  viewWidth := 1000
  viewHeight := 500
  maxLatitude := 85
  pins := shippedPins
  nudges := shippedNudges
  precision := 4
  northing latitude := latitude
  roundTo _ x := x

def BaseMap.square : BaseMap ℚ := ⟨10, 10, -5, -5, 360, 360⟩

theorem Projector.onScreen_of_base_flat :
    (0 < flat.base.boxWidth ∧ 0 < flat.base.boxHeight) ∧ flat.northing flat.maxLatitude ≠ 0 ∧
      (∃ point, flat.onScreen 51 0 = .ok point ∧
        { flat with base := .square }.onScreen 51 0 = .ok point) ∧
      ∃ view, flat.inView 51 0 = .ok view ∧
        { flat with viewWidth := 2 * 1000, viewHeight := 3 * 500 }.inView 51 0 =
          .ok ⟨2 * view.x, 3 * view.y⟩ := by
  have hmap : 0 < flat.base.boxWidth ∧ 0 < flat.base.boxHeight := by
    norm_num [flat, BaseMap.default, defaultWidth, defaultHeight]
  have hsquare : 0 < BaseMap.square.boxWidth ∧ 0 < BaseMap.square.boxHeight := by
    norm_num [BaseMap.square]
  have hnorthing : flat.northing flat.maxLatitude ≠ 0 := by norm_num [flat]
  obtain ⟨hsame, view, hview, hgrown⟩ :=
    onScreen_of_base flat .square hmap hsquare hnorthing 51 0
  exact ⟨hmap, hnorthing, hsame, view, hview, hgrown 2 3 (by norm_num) (by norm_num)⟩

end NetAtlas
