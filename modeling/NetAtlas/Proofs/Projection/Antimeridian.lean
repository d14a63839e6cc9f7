import NetAtlas.Geography
import NetAtlas.Proofs.Decimal.Places
import NetAtlas.Proofs.Projection.Route
import NetAtlas.Proofs.Projection.Viewport

/-!
Longitudes beyond the antimeridian. The curve cuts a longitude to its range, while the tables are
asked about the longitude itself. That makes no difference, since nothing in the shipped tables lies
at the ends of the range or beyond, and rounding does not bring back a longitude that does.
-/

namespace NetAtlas

/-- The longitude is strictly between the ends of the range. -/
def Inlying (longitude : Float) : Prop := -180.0 < longitude ∧ longitude < 180.0

/-- The longitude is at one end of the range or beyond. -/
def Outlying (longitude : Float) : Prop := longitude ≤ -180.0 ∨ 180.0 ≤ longitude

/-- Cuts a longitude to its range. -/
def cutLongitude (longitude : Float) : Float := Scalar.clamp (-180.0) 180.0 longitude

theorem inlying_or_outlying {longitude : Float} (h : longitude.isNaN = false) :
    Inlying longitude ∨ Outlying longitude := by
  by_cases hwest : -180.0 < longitude
  · by_cases heast : longitude < 180.0
    · exact .inl ⟨hwest, heast⟩
    · exact .inr (.inr (FloatOrder.le_of_not_lt (by decide) h heast))
  · exact .inr (.inl (FloatOrder.le_of_not_lt h (by decide) hwest))

section Inlying

variable {x : Float} (hx : Inlying x)
include hx

theorem Inlying.cutLongitude_eq : cutLongitude x = x := by
  have hsmaller : smaller Scalar.less 180.0 x = x := if_pos (decide_eq_true hx.2)
  rw [cutLongitude, Scalar.clamp, clampBy, hsmaller]
  exact if_pos (decide_eq_true hx.1)

theorem Inlying.beq_eq_false {longitude : Float} (h : Outlying longitude) :
    (x == longitude) = false := by
  rw [Bool.eq_false_iff]
  intro heq
  rcases h with hwest | heast
  · exact FloatOrder.not_lt_of_le (FloatOrder.le_trans (FloatOrder.le_of_beq heq) hwest) hx.1
  · exact FloatOrder.not_lt_of_le (FloatOrder.le_trans heast (FloatOrder.ge_of_beq heq)) hx.2

end Inlying

theorem le_of_atMost {x y : Float} (h : Scalar.atMost x y = true) : x ≤ y := by
  rcases (Bool.or_eq_true _ _).mp h with hless | hsame
  · exact FloatOrder.le_of_lt (of_decide_eq_true hless)
  · exact FloatOrder.le_of_beq hsame

theorem Outlying.cutLongitude_eq {longitude : Float} (h : Outlying longitude) :
    cutLongitude longitude = -180.0 ∨ cutLongitude longitude = 180.0 := by
  rw [cutLongitude, Scalar.clamp, clampBy]
  rcases h with hwest | heast
  · left
    have hsmaller : smaller Scalar.less 180.0 longitude = longitude :=
      if_pos (decide_eq_true (FloatOrder.lt_of_le_of_lt hwest (by decide)))
    rw [hsmaller]
    exact if_neg (fun hless => FloatOrder.not_lt_of_le hwest (of_decide_eq_true hless))
  · right
    have hsmaller : smaller Scalar.less 180.0 longitude = 180.0 :=
      if_neg (fun hless => FloatOrder.not_lt_of_le heast (of_decide_eq_true hless))
    rw [hsmaller]
    exact if_pos (by decide)

/-- A range with both ends inside has nothing outside between them. -/
theorem between_eq_false {west east longitude : Float} (hwest : Inlying west) (heast : Inlying east)
    (h : Outlying longitude) : Nudge.between west east longitude = false := by
  have hapart {x : Float} (hx : Inlying x) :
      (longitude ≤ -180.0 → Scalar.atMost x longitude = false) ∧
        (180.0 ≤ longitude → Scalar.atMost longitude x = false) := by
    constructor
    · intro hle
      rw [Bool.eq_false_iff]
      intro hmost
      exact FloatOrder.not_lt_of_le (FloatOrder.le_trans (le_of_atMost hmost) hle) hx.1
    · intro hle
      rw [Bool.eq_false_iff]
      intro hmost
      exact FloatOrder.not_lt_of_le (FloatOrder.le_trans hle (le_of_atMost hmost)) hx.2
  rw [Nudge.between]
  rcases h with hle | hle
  · rw [(hapart hwest).1 hle, (hapart heast).1 hle, Bool.false_and, Bool.false_and, Bool.or_false]
  · rw [(hapart hwest).2 hle, (hapart heast).2 hle, Bool.and_false, Bool.and_false, Bool.or_false]

/-- All shipped pins lie inside the range. -/
theorem inlying_shippedPins : ∀ pin ∈ (shippedPins : List (Pin Float)), Inlying pin.longitude := by
  unfold Inlying
  decide

/-- So do the edges of all shipped boxes. -/
theorem inlying_shippedNudges :
    ∀ n ∈ (shippedNudges : List (Nudge Float)), Inlying n.west ∧ Inlying n.east := by
  unfold Inlying
  decide

/-- Rounding keeps the order of numbers, and it leaves the ends of the range of longitudes as they
    are. -/
structure Steady (round : Float → Float) : Prop where
  monotone : ∀ {x y : Float}, x ≤ y → round x ≤ round y
  west : round (-180.0) = -180.0
  east : round 180.0 = 180.0

/-- Rounding to places after the point is of this kind. -/
theorem steady_roundTo {places : ℤ} (hplaces : 0 ≤ places) : Steady (Decimal.roundTo places) := by
  have heast : (180.0 : Float) = Float.ofNat 180 := by
    rw [← Float.toBits_inj]
    decide +kernel
  refine ⟨Decimal.roundTo_mono hplaces, ?_, ?_⟩
  · rw [heast, FloatExact.neg_ofNat (by decide)]
    exact Decimal.roundTo_stored hplaces (by decide) .negative
  · rw [heast, FloatExact.ofNat_eq_stored (by decide)]
    exact Decimal.roundTo_stored hplaces (by decide) .positive

theorem Outlying.round {round : Float → Float} (hround : Steady round) {longitude : Float}
    (h : Outlying longitude) : Outlying (round longitude) := by
  rcases h with hwest | heast
  · left
    have hle := hround.monotone hwest
    rwa [hround.west] at hle
  · right
    have hle := hround.monotone heast
    rwa [hround.east] at hle

namespace Projector

/-- About a longitude that is not inside the range the shipped tables have nothing to say. -/
theorem route_eq_bare_of_outlying {p : Projector Float} (hpins : p.pins = shippedPins)
    (hnudges : p.nudges = shippedNudges) (hround : Steady (p.roundTo p.precision))
    (latitude : Float) {longitude : Float} (h : Outlying longitude) :
    p.route latitude longitude = .bare := by
  have hpin : p.pinAt latitude longitude = none := by
    rw [pinAt, List.find?_eq_none, hpins]
    intro pin hpin
    have hinlying := inlying_shippedPins pin (List.mem_reverse.mp hpin)
    have hother : Scalar.same pin.longitude (p.roundTo p.precision longitude) = false :=
      hinlying.beq_eq_false (h.round hround)
    rw [hother, Bool.and_false]
    exact Bool.false_ne_true
  have hnudge : p.nudgeAt latitude longitude = none := by
    rw [nudgeAt, List.find?_eq_none, hnudges]
    intro n hn
    obtain ⟨hwest, heast⟩ := inlying_shippedNudges n hn
    rw [Nudge.covers, between_eq_false hwest heast h, Bool.and_false]
    exact Bool.false_ne_true
  rw [route, hpin, hnudge]

/-- The curve has its own way of cutting a longitude to its range. -/
theorem onCurve_of_cutLongitude_eq (p : Projector Float) (latitude : Float)
    {longitude other : Float} (h : cutLongitude longitude = cutLongitude other) :
    p.onCurve latitude longitude = p.onCurve latitude other := by
  rw [cutLongitude, cutLongitude] at h
  rw [onCurve, onCurve, h]

/-- With the shipped tables it makes no difference on the map, nor in the viewport, whether a
    longitude is cut to its range before any other step or on the curve alone. -/
theorem onMap_cutLongitude (p : Projector Float) (hpins : p.pins = shippedPins)
    (hnudges : p.nudges = shippedNudges) (hprecision : 0 ≤ p.precision)
    (hround : ∀ places, 0 ≤ places → Steady (p.roundTo places)) (latitude longitude : Float)
    (hlongitude : longitude.isFinite = true) :
    p.onMap latitude longitude = p.onMap latitude (cutLongitude longitude) ∧
      p.onScreen latitude longitude = p.onScreen latitude (cutLongitude longitude) := by
  have hmap : p.onMap latitude longitude = p.onMap latitude (cutLongitude longitude) := by
    rcases inlying_or_outlying (FloatExact.isNaN_of_isFinite hlongitude) with hin | hout
    · rw [hin.cutLongitude_eq]
    · have hends : Outlying (cutLongitude longitude) ∧
          (cutLongitude longitude).isFinite = true ∧
          cutLongitude (cutLongitude longitude) = cutLongitude longitude := by
        rcases hout.cutLongitude_eq with hcut | hcut
        · rw [hcut]
          exact ⟨.inl (by decide), by decide, by decide⟩
        · rw [hcut]
          exact ⟨.inr (by decide), by decide, by decide⟩
      obtain ⟨hcut, hfinite, hagain⟩ := hends
      have hsteady := hround p.precision hprecision
      have hself : finiteOrZero longitude = longitude := finiteOrZero_of_isFinite hlongitude
      have hself' : finiteOrZero (cutLongitude longitude) = cutLongitude longitude :=
        finiteOrZero_of_isFinite hfinite
      have hcurve (latitude : Float) := p.onCurve_of_cutLongitude_eq latitude hagain.symm
      rw [onMap_eq_along, onMap_eq_along, taken, taken, hself, hself',
        route_eq_bare_of_outlying hpins hnudges hsteady _ hout,
        route_eq_bare_of_outlying hpins hnudges hsteady _ hcut, along, along, hcurve]
  refine ⟨hmap, ?_⟩
  rw [onScreen, onScreen, inView, inView, hmap]

/-- The shipped tables on the default map, with four decimal places. -/
def standard : Projector Float := shipped .default 1000.0 500.0 85.0 4

theorem onMap_cutLongitude_standard :
    (∀ places, 0 ≤ places → Steady (standard.roundTo places)) ∧
      standard.onMap 52.25 200.5 = standard.onMap 52.25 180.0 ∧
      standard.onScreen 52.25 200.5 = standard.onScreen 52.25 180.0 := by
  have hround : ∀ places, 0 ≤ places → Steady (standard.roundTo places) :=
    fun _ hplaces => steady_roundTo hplaces
  have hcut : cutLongitude 200.5 = 180.0 := by decide
  have h := onMap_cutLongitude standard rfl rfl (by decide) hround 52.25 200.5 (by decide)
  rw [hcut] at h
  exact ⟨hround, h⟩

end Projector

end NetAtlas
