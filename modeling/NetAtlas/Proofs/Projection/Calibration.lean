import NetAtlas.Projection.Loading
import NetAtlas.Proofs.FloatSign
import NetAtlas.Proofs.Projection.Viewport
import NetAtlas.Proofs.Settings.Accepted

/-!
Projectors of checked settings. Whatever the map file says, the box of the map has a size; and what
the checks let pass as the size of a viewport is greater than zero as a float, unless it is no
number or too large for one.
-/

namespace NetAtlas

namespace MapFile

theorem zero_lt_getD_positive? {x : Float} (hx : 0.0 < x) (name : String) (cs : List Char) :
    0.0 < (positive? name cs).getD x := by
  cases hfound : positive? name cs with
  | none => exact hx
  | some y =>
    rw [positive?] at hfound
    split at hfound
    · simpa using (Option.filter_eq_some_iff.mp hfound).2
    · cases hfound

theorem zero_lt_box_baseMapOf (path : String) (cs : List Char) :
    0.0 < (baseMapOf path cs).1.boxWidth ∧ 0.0 < (baseMapOf path cs).1.boxHeight := by
  have hplain : 0.0 < (positive? "width" cs).getD defaultWidth ∧
      0.0 < (positive? "height" cs).getD defaultHeight :=
    ⟨zero_lt_getD_positive? (by decide) _ cs, zero_lt_getD_positive? (by decide) _ cs⟩
  rw [baseMapOf]
  dsimp only
  split
  · exact hplain
  · split
    · assumption
    · exact hplain

theorem zero_lt_box_of_load {path : String} {file : Except AccessError (List UInt8)}
    {base : BaseMap Float} (h : (load path file).1 = .ok base) :
    0.0 < base.boxWidth ∧ 0.0 < base.boxHeight := by
  rw [load.eq_def] at h
  cases file with
  | error e => cases h
  | ok bytes =>
    dsimp only at h
    have hbox := zero_lt_box_baseMapOf path (Text.unixLines (Text.Utf8.decode bytes).toList)
    split at h
    · obtain rfl := Except.ok.inj h
      exact hbox
    · cases h

end MapFile

/-- The map that a projector is calibrated by has a box of some size. -/
theorem Projector.zero_lt_box_of_mapOf {map? : Option (String × Except AccessError (List UInt8))}
    {base : BaseMap Float} (h : (mapOf map?).1 = .ok base) :
    0.0 < base.boxWidth ∧ 0.0 < base.boxHeight := by
  have hdefault : 0.0 < (BaseMap.default : BaseMap Float).boxWidth ∧
      0.0 < (BaseMap.default : BaseMap Float).boxHeight := ⟨by decide, by decide⟩
  cases map? with
  | none =>
    obtain rfl := Except.ok.inj h
    exact hdefault
  | some map =>
    obtain ⟨path, file⟩ := map
    rw [mapOf, MapFile.loadOrDefault] at h
    split at h
    · obtain rfl := Except.ok.inj h
      exact hdefault
    · exact MapFile.zero_lt_box_of_load h

theorem Scalar.same_zero_of_lt {x : Float} (h : 0.0 < x) : Scalar.same x 0.0 = false := by
  obtain ⟨hzero, hnumber⟩ := FloatOrder.isNaN_eq_false_of_lt h
  have hplace := (FloatOrder.lt_iff_place_lt hzero hnumber).mp h
  rw [Bool.eq_false_iff]
  intro hsame
  exact hplace.ne' ((FloatOrder.beq_iff_place_eq hnumber hzero).mp hsame)

theorem Number.eq_ofInt_of_toFloat {n : Int} {x : Float} (h : (Number.int n).toFloat = .ok x) :
    x = Float.ofInt n := by
  rw [toFloat, toFloat?] at h
  split_ifs at h
  exact (Except.ok.inj h).symm

/-- Every float but one can be put in order with zero. -/
theorem Number.isNaN_of_compareMixed? {x : Float} (h : compareMixed? 0 x = none) :
    x.isNaN = true := by
  rw [compareMixed?] at h
  split at h
  · cases h
  · cases h
  · cases h
  · rename_i hkind
    rw [FloatKind.eq_of_notANumber hkind]
    decide

/-- A setting that is more than zero is so as a float as well. -/
theorem zero_lt_of_settingOf {v : Value} {x : Float} (hcheck : v.atMost Settings.zero = .ok false)
    (hread : Projector.settingOf v = .ok x) (hnumber : x.isNaN = false) : 0.0 < x := by
  have hzero : Settings.zero.number? = some (.int 0) := rfl
  rw [Projector.settingOf] at hread
  cases hv : v.number? with
  | none =>
    rw [hv] at hread
    cases hread
  | some n =>
    rw [hv] at hread
    rw [Value.atMost, Value.compares_of_number? hv hzero] at hcheck
    have habove := Except.ok.inj hcheck
    rw [Comparison.holdsOf, Number.lessOrSame, Bool.or_eq_false_iff] at habove
    obtain ⟨hless, hsame⟩ := habove
    cases n with
    | int k =>
      have hpositive : 0 < k := by
        simp only [Number.less, Number.same, decide_eq_false_iff_not] at hless hsame
        omega
      obtain ⟨m, rfl⟩ := Int.eq_ofNat_of_zero_le hpositive.le
      rw [Number.eq_ofInt_of_toFloat hread]
      exact FloatRange.zero_lt_ofNat (Int.natCast_pos.mp hpositive)
    | float y =>
      obtain rfl := Except.ok.inj hread
      apply Number.zero_lt_of_compareMixed?
      cases horder : Number.compareMixed? 0 y with
      | none =>
        rw [Number.isNaN_of_compareMixed? horder] at hnumber
        cases hnumber
      | some order =>
        simp only [Number.less, Number.same, horder] at hless hsame
        cases order with
        | lt => rfl
        | eq => cases hsame
        | gt => cases hless

/-- The settings have values of the types that a projector works with: numbers that a float can
    hold, and an integer for the decimal places. -/
structure ProjectionSettings.Typed (s : ProjectionSettings) : Prop where
  viewWidth : ∃ x, Projector.settingOf s.viewWidth = .ok x ∧ x.isNaN = false
  viewHeight : ∃ x, Projector.settingOf s.viewHeight = .ok x ∧ x.isNaN = false
  maxLatitude : ∃ x, Projector.settingOf s.maxLatitude = .ok x
  precision : ∃ n, s.precision.integer? = some n

/-- The projector is what the settings say about it, on a map, in a viewport that has a size. -/
structure Projector.Follows (p : Projector Float) (s : ProjectionSettings) : Prop where
  viewWidth : settingOf s.viewWidth = .ok p.viewWidth
  viewHeight : settingOf s.viewHeight = .ok p.viewHeight
  maxLatitude : settingOf s.maxLatitude = .ok p.maxLatitude
  precision : s.precision.integer? = some p.precision
  box : 0.0 < p.base.boxWidth ∧ 0.0 < p.base.boxHeight
  view : 0.0 < p.viewWidth ∧ 0.0 < p.viewHeight

/-- Checked settings of the right types give a projector. -/
theorem Projector.exists_follows {s : ProjectionSettings} (hs : s.Typed)
    (hcheck : Settings.checkProjection s = .ok ())
    {map? : Option (String × Except AccessError (List UInt8))} {base : BaseMap Float}
    (hmap : (mapOf map?).1 = .ok base) : ∃ p, (load s map?).1 = .ok p ∧ p.Follows s := by
  obtain ⟨width, hwidth, hwide⟩ := hs.viewWidth
  obtain ⟨height, hheight, hhigh⟩ := hs.viewHeight
  obtain ⟨latitude, hlatitude⟩ := hs.maxLatitude
  obtain ⟨precision, hprecision⟩ := hs.precision
  obtain ⟨_, hview, _⟩ := bind_eq_ok_iff.mp hcheck
  obtain ⟨hwidthCheck, hheightCheck⟩ := Settings.of_orElseAsk (Settings.eq_ok_of_refuseIf hview)
  have hprojector : ofSettings base s = .ok (shipped base width height latitude precision) := by
    rw [ofSettings, hwidth, hheight, hlatitude]
    simp only [bind, Except.bind, hprecision]
    rfl
  refine ⟨shipped base width height latitude precision, ?_, hwidth, hheight, hlatitude, hprecision,
    zero_lt_box_of_mapOf hmap, zero_lt_of_settingOf hwidthCheck hwidth hwide,
    zero_lt_of_settingOf hheightCheck hheight hhigh⟩
  rw [load]
  rcases hread : mapOf map? with ⟨outcome, notices⟩
  rw [hread] at hmap
  obtain rfl : outcome = .ok base := hmap
  simp only [hprojector, Except.mapError]

/-- Such a projector finds every point of the globe, by any northings of which that of the greatest
    latitude, doubled, is not zero. -/
theorem Projector.Follows.graduated {p : Projector Float} {s : ProjectionSettings}
    (hp : p.Follows s) {northing : Float → Float}
    (hnorthing : Scalar.same (2.0 * northing p.maxLatitude) 0.0 = false) :
    Graduated { p with northing } :=
  ⟨Scalar.same_zero_of_lt hp.box.1, Scalar.same_zero_of_lt hp.box.2, hnorthing⟩

end NetAtlas
