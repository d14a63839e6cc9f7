import Mathlib
import NetAtlas.Projection
import NetAtlas.Proofs.Projection.Viewport

/-!
The bare curve in exact arithmetic. A longitude settles how far across the map a point is put and a
latitude how far down, both as fractions of the size of the map. All that is asked of the northings
is that they are odd and increase strictly up to the latitude at which the map ends.
-/

namespace NetAtlas

/-- The arithmetic of an ordered field, in which nothing is rounded. -/
instance (priority := low) Scalar.ofField {K : Type} [Field K] [LinearOrder K] : Scalar K where
  less a b := decide (a < b)
  same a b := decide (a = b)
  isFinite _ := true

/-- Rationals have it as their own. -/
theorem Scalar.ofField_rat : (Scalar.ofField : Scalar ℚ) = instScalarRat := rfl

variable {K : Type} [Field K] [LinearOrder K]

namespace Scalar

theorem clamp_eq_max (low high v : K) : clamp low high v = max low (min high v) := by
  have hsmaller : smaller less high v = min high v := by
    rw [smaller, min_comm, min_def_lt]
    simp only [less, decide_eq_true_eq]
  rw [clamp, clampBy, hsmaller, larger, max_def_lt]
  simp only [less, decide_eq_true_eq]

theorem clamp_mem {low high : K} (h : low ≤ high) (v : K) : clamp low high v ∈ Set.Icc low high := by
  rw [clamp_eq_max]
  exact ⟨le_max_left _ _, max_le h (min_le_left _ _)⟩

theorem clamp_of_mem {low high v : K} (h : v ∈ Set.Icc low high) : clamp low high v = v := by
  rw [clamp_eq_max, min_eq_right h.2, max_eq_right h.1]

theorem clamp_of_le {low high v : K} (h : low ≤ high) (hv : v ≤ low) : clamp low high v = low := by
  rw [clamp_eq_max, min_eq_right (hv.trans h), max_eq_left hv]

theorem clamp_of_ge {low high v : K} (h : low ≤ high) (hv : high ≤ v) : clamp low high v = high := by
  rw [clamp_eq_max, min_eq_left hv, max_eq_right h]

theorem monotone_clamp (low high : K) : Monotone (clamp low high) := by
  intro v w hvw
  rw [clamp_eq_max, clamp_eq_max]
  exact max_le_max_left low (min_le_min_left high hvw)

end Scalar

namespace Projector

/-- How far across the map a longitude is put, as a fraction of the width. -/
def across (longitude : K) : K := (Scalar.clamp (-180) 180 longitude + 180) / 360

/-- How far down the map a latitude is put, as a fraction of the height. -/
def down (p : Projector K) (latitude : K) : K :=
  1 / 2 - p.northing (Scalar.clamp (-p.maxLatitude) p.maxLatitude latitude) /
    (2 * p.northing p.maxLatitude)

/-- The northings are odd and increase strictly between the latitudes, south and north, at which the
    map ends. Settings that pass their check put its northern end north of the equator. -/
structure Rising (p : Projector K) : Prop where
  ends : 0 < p.maxLatitude
  odd : ∀ v ∈ Set.Icc (-p.maxLatitude) p.maxLatitude, p.northing (-v) = -p.northing v
  increasing : StrictMonoOn p.northing (Set.Icc (-p.maxLatitude) p.maxLatitude)

variable [IsStrictOrderedRing K] {p : Projector K}

/-- The curve puts longitude and latitude on the map each by itself. -/
theorem onCurve_eq (hnorthing : p.northing p.maxLatitude ≠ 0) (latitude longitude : K) :
    p.onCurve latitude longitude =
      .ok ⟨across longitude * p.base.boxWidth, p.down latitude * p.base.boxHeight⟩ := by
  have hsame : Scalar.same (2.0 * p.northing p.maxLatitude) (0.0 : K) = false := by
    simp only [Scalar.same, decide_eq_false_iff_not]
    norm_num [hnorthing]
  rw [onCurve, divide_of_same_eq_false hsame, across, down]
  norm_num

theorem across_mem (longitude : K) : across longitude ∈ Set.Icc (0 : K) 1 := by
  obtain ⟨hwest, heast⟩ := Scalar.clamp_mem (show (-180 : K) ≤ 180 by norm_num) longitude
  rw [across]
  constructor
  · apply div_nonneg _ (by norm_num)
    linarith only [hwest]
  · rw [div_le_one (by norm_num)]
    linarith only [heast]

theorem monotone_across : Monotone (across : K → K) := by
  intro v w hvw
  have hclamp := Scalar.monotone_clamp (-180) 180 hvw
  rw [across, across]
  gcongr

theorem across_of_le {longitude : K} (h : longitude ≤ -180) : across longitude = 0 := by
  rw [across, Scalar.clamp_of_le (by norm_num) h]
  norm_num

theorem across_of_ge {longitude : K} (h : 180 ≤ longitude) : across longitude = 1 := by
  rw [across, Scalar.clamp_of_ge (by norm_num) h]
  norm_num

theorem across_zero : across (0 : K) = 1 / 2 := by
  rw [across, Scalar.clamp_of_mem (by norm_num)]
  norm_num

namespace Rising

variable (h : p.Rising)
include h

theorem le : -p.maxLatitude ≤ p.maxLatitude := by
  linarith only [h.ends]

theorem north_mem : p.maxLatitude ∈ Set.Icc (-p.maxLatitude) p.maxLatitude := ⟨h.le, le_rfl⟩

theorem zero_mem : (0 : K) ∈ Set.Icc (-p.maxLatitude) p.maxLatitude :=
  ⟨by linarith only [h.ends], h.ends.le⟩

theorem northing_zero : p.northing 0 = 0 := by
  have hodd := h.odd 0 h.zero_mem
  rw [neg_zero] at hodd
  linarith only [hodd]

theorem northing_pos : 0 < p.northing p.maxLatitude := by
  have hincreasing := h.increasing h.zero_mem h.north_mem h.ends
  rwa [h.northing_zero] at hincreasing

theorem antitone_down : Antitone p.down := by
  intro v w hvw
  have hclamp := Scalar.monotone_clamp (-p.maxLatitude) p.maxLatitude hvw
  have hnorthing := h.increasing.monotoneOn (Scalar.clamp_mem h.le v) (Scalar.clamp_mem h.le w) hclamp
  have hpos := h.northing_pos
  rw [down, down]
  gcongr

theorem down_of_ge {latitude : K} (hlatitude : p.maxLatitude ≤ latitude) : p.down latitude = 0 := by
  have hnonzero := h.northing_pos.ne'
  rw [down, Scalar.clamp_of_ge h.le hlatitude]
  field_simp
  norm_num

theorem down_of_le {latitude : K} (hlatitude : latitude ≤ -p.maxLatitude) : p.down latitude = 1 := by
  have hnonzero := h.northing_pos.ne'
  rw [down, Scalar.clamp_of_le h.le hlatitude, h.odd _ h.north_mem]
  field_simp
  norm_num

theorem down_zero : p.down 0 = 1 / 2 := by
  rw [down, Scalar.clamp_of_mem h.zero_mem, h.northing_zero]
  norm_num

/-- The curve falls from the one end of the map to the other, so no latitude leads off it. -/
theorem down_mem (latitude : K) : p.down latitude ∈ Set.Icc (0 : K) 1 := by
  constructor
  · calc 0 = p.down (max latitude p.maxLatitude) := (h.down_of_ge (le_max_right _ _)).symm
      _ ≤ p.down latitude := h.antitone_down (le_max_left _ _)
  · calc p.down latitude ≤ p.down (min latitude (-p.maxLatitude)) :=
          h.antitone_down (min_le_left _ _)
      _ = 1 := h.down_of_le (min_le_right _ _)

end Rising

/-- In exact arithmetic the curve puts every point on the map. Longitude alone decides how far east,
    in its order, and latitude alone how far north; what lies at the ends of either range or beyond
    is put on the edge, and the origin in the middle. -/
theorem onCurve_spreads (p : Projector K) (hwidth : 0 < p.base.boxWidth)
    (hheight : 0 < p.base.boxHeight) (h : p.Rising) :
    ∃ x y : K → K,
      (∀ latitude longitude, p.onCurve latitude longitude = .ok ⟨x longitude, y latitude⟩) ∧
      (∀ longitude, 0 ≤ x longitude ∧ x longitude ≤ p.base.boxWidth) ∧
      (∀ latitude, 0 ≤ y latitude ∧ y latitude ≤ p.base.boxHeight) ∧
      Monotone x ∧ Antitone y ∧
      (∀ latitude, p.maxLatitude ≤ latitude → y latitude = 0) ∧
      (∀ latitude, latitude ≤ -p.maxLatitude → y latitude = p.base.boxHeight) ∧
      (∀ longitude, longitude ≤ -180 → x longitude = 0) ∧
      (∀ longitude, 180 ≤ longitude → x longitude = p.base.boxWidth) ∧
      p.onCurve 0 0 = .ok ⟨p.base.boxWidth / 2, p.base.boxHeight / 2⟩ := by
  have hcurve := onCurve_eq h.northing_pos.ne'
  refine ⟨fun longitude => across longitude * p.base.boxWidth,
    fun latitude => p.down latitude * p.base.boxHeight, hcurve, ?_, ?_, ?_, ?_, ?_, ?_, ?_, ?_, ?_⟩
  · intro longitude
    obtain ⟨hwest, heast⟩ := across_mem longitude
    exact ⟨mul_nonneg hwest hwidth.le, mul_le_of_le_one_left hwidth.le heast⟩
  · intro latitude
    obtain ⟨hnorth, hsouth⟩ := h.down_mem latitude
    exact ⟨mul_nonneg hnorth hheight.le, mul_le_of_le_one_left hheight.le hsouth⟩
  · exact monotone_across.mul_const hwidth.le
  · exact h.antitone_down.mul_const hheight.le
  · intro latitude hlatitude
    simp only [h.down_of_ge hlatitude, zero_mul]
  · intro latitude hlatitude
    simp only [h.down_of_le hlatitude, one_mul]
  · intro longitude hlongitude
    simp only [across_of_le hlongitude, zero_mul]
  · intro longitude hlongitude
    simp only [across_of_ge hlongitude, one_mul]
  · rw [hcurve, across_zero, h.down_zero, one_div_mul_eq_div, one_div_mul_eq_div]

/-- The default map with the northings of the sphere, in real numbers. -/
noncomputable def globe : Projector ℝ where
  base := .default
  viewWidth := 1000
  viewHeight := 500
  maxLatitude := 85
  pins := shippedPins
  nudges := shippedNudges
  precision := 4
  northing latitude := 6378137 * (latitude * Real.pi / 180).tan.arsinh
  roundTo _ x := x

theorem rising_globe : globe.Rising where
  ends := by norm_num [globe]
  odd v _ := by
    simp only [globe, neg_mul, neg_div, Real.tan_neg, Real.arsinh_neg, mul_neg]
  increasing v hv w hw hvw := by
    have hangle {u : ℝ} (hu : u ∈ Set.Icc (-85 : ℝ) 85) :
        u * Real.pi / 180 ∈ Set.Ioo (-(Real.pi / 2)) (Real.pi / 2) := by
      constructor <;> nlinarith only [hu.1, hu.2, Real.pi_pos]
    have hless : v * Real.pi / 180 < w * Real.pi / 180 := by
      gcongr
    have htan := Real.strictMonoOn_tan (hangle hv) (hangle hw) hless
    have harsinh := Real.arsinh_strictMono htan
    simp only [globe]
    gcongr

theorem onCurve_spreads_globe :
    globe.Rising ∧ globe.onCurve 0 0 = .ok ⟨1000, 857 / 2⟩ ∧
      globe.onCurve 90 (-200) = .ok ⟨0, 0⟩ ∧ globe.onCurve (-85) 180 = .ok ⟨2000, 857⟩ := by
  have hwidth : globe.base.boxWidth = 2000 := by norm_num [globe, BaseMap.default, defaultWidth]
  have hheight : globe.base.boxHeight = 857 := by norm_num [globe, BaseMap.default, defaultHeight]
  have hlimit : globe.maxLatitude = 85 := rfl
  obtain ⟨x, y, hcurve, -, -, -, -, hnorth, hsouth, hwest, heast, hmiddle⟩ :=
    onCurve_spreads globe (by norm_num [hwidth]) (by norm_num [hheight]) rising_globe
  rw [hwidth] at heast hmiddle
  rw [hheight] at hsouth hmiddle
  rw [hlimit] at hnorth hsouth
  refine ⟨rising_globe, ?_, ?_, ?_⟩
  · rw [hmiddle]
    norm_num
  · rw [hcurve, hnorth 90 (by norm_num), hwest (-200) (by norm_num)]
  · rw [hcurve, hsouth (-85) le_rfl, heast 180 le_rfl]

end Projector

end NetAtlas
