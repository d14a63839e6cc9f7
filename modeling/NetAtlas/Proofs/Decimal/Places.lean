import NetAtlas.Proofs.FloatRounding
import NetAtlas.Proofs.FloatValue

/-!
Rounding to decimal places. A float is rounded to a decimal with so many places, and the decimal is
read as the float nearest to it. Both steps keep the order of numbers, so rounding keeps the order of
floats; and it leaves integers as they are.
-/

namespace NetAtlas.Decimal

open Float.Model Float.Model.UnpackedFloat FloatOrder FloatRounding FloatStorage

/-- A mantissa is filled up without a change of the number. -/
theorem fill_mantissa (a : ℕ) {k : ℕ} (hk : k ≤ 52) :
    ((a * 2 ^ (52 - k) : ℕ) : ℚ) * 2 ^ (k - 52 : ℤ) = a := by
  have hexponent : (k - 52 : ℤ) = -(52 - k : ℕ) := by omega
  rw [hexponent, zpow_neg, zpow_natCast]
  push_cast
  field_simp

/-- The powers of ten up to the twenty-second have room in a mantissa, without their factors of
    two. -/
theorem powerOfTen_parts (i : Fin Float.exactlyRepresentablePowersOfTen.size) :
    Float.exactlyRepresentablePowersOfTen[i].toModel.unpack =
      .finite .positive (5 ^ i.val * 2 ^ (52 - (5 ^ i.val).log2)) ((5 ^ i.val).log2 - 52 + i.val)
        (by positivity) := by
  change Fin 23 at i
  fin_cases i
  all_goals rfl

theorem powerOfTen_value {n : ℕ} (hn : n < Float.exactlyRepresentablePowersOfTen.size) :
    ∃ m e, ∃ hm : 0 < m, Float.exactlyRepresentablePowersOfTen[n].toModel.unpack =
      .finite .positive m e hm ∧ (m : ℚ) * 2 ^ e = 10 ^ n := by
  have hlog : (5 ^ n).log2 ≤ 52 := by
    have hpower : 5 ^ n < 2 ^ 53 := calc
      5 ^ n ≤ 5 ^ 22 := Nat.pow_le_pow_right (by omega) (Nat.le_of_lt_succ hn)
      _ < 2 ^ 53 := by norm_num
    exact Nat.le_of_lt_succ ((Nat.log2_lt (by positivity)).mpr hpower)
  refine ⟨_, _, _, powerOfTen_parts ⟨n, hn⟩, ?_⟩
  rw [zpow_add₀ two_ne_zero, ← mul_assoc, fill_mantissa _ hlog, zpow_natCast]
  push_cast
  rw [← mul_pow]
  norm_num

theorem ofScientific_eq_rounding (a : ℕ) {n : ℕ} (hn : n ≤ 323) :
    UnpackedFloat.ofScientific .binary64 a (Int.negOfNat n) = rounding .positive (a / 10 ^ n) := by
  have hbits : (2 : ℤ) ^ Format.binary64.exponentBits = 2048 := rfl
  have hmantissa : Format.binary64.mantissaBits = 53 := rfl
  have hexponent : Int.negOfNat n = -(n : ℤ) := Int.negOfNat_eq
  rcases Nat.eq_zero_or_pos a with rfl | ha
  · rw [Nat.cast_zero, zero_div, rounding_zero]
    rfl
  · rw [UnpackedFloat.ofScientific, dif_neg ha.ne', hbits, hexponent, if_neg (by omega),
      if_neg (by omega)]
    rcases Nat.eq_zero_or_pos n with rfl | hn'
    · have hone : 10 ^ (-((0 : ℕ) : ℤ)).toNat = 1 := rfl
      rw [if_pos (by omega), UnpackedFloat.mul]
      simp only [hone, hmantissa, Nat.mul_one, Int.add_zero, pow_zero, div_one, Nat.cast_ofNat]
      exact roundWithAccuracy_shiftLeft .positive ha
    · rw [if_neg (by omega), div_eq_rounding, neg_neg, Int.toNat_natCast, zpow_zero, mul_one, mul_one]
      push_cast
      rfl

/-- A decimal is read as the float nearest to it. -/
theorem ofScientific_eq_closest (a : ℕ) {n : ℕ} (hn : n ≤ 323) :
    Float.ofScientific a true n = closest (a / 10 ^ n) := by
  by_cases hfast : a < 2 ^ 53 ∧ n ≤ 22
  · have hlast : n < Float.exactlyRepresentablePowersOfTen.size := Nat.lt_succ_of_le hfast.2
    obtain ⟨m, e, hm, hunpack, hvalue⟩ := powerOfTen_value hlast
    rw [Float.ofScientific, dif_pos hfast]
    simp only [if_true]
    rw [FloatExact.toFloat_eq_stored hfast.1]
    change Float.ofModel (.pack (UnpackedFloat.div .binary64
      (Float.Model.pack (FloatExact.whole .positive a)).unpack
      Float.exactlyRepresentablePowersOfTen[n].toModel.unpack)) = _
    rw [FloatExact.unpack_pack_whole hfast.1, hunpack, closest]
    congr 2
    rcases Nat.eq_zero_or_pos a with rfl | ha
    · rw [Nat.cast_zero, zero_div, rounding_zero]
      rfl
    · have hlog : a.log2 ≤ 52 := Nat.le_of_lt_succ (FloatExact.log2_lt_of_lt ha hfast.1)
      rw [FloatExact.whole_of_pos ha, div_eq_rounding, fill_mantissa a hlog, hvalue]
      rfl
  · rw [Float.ofScientific, dif_neg hfast]
    change Float.ofModel (.pack (UnpackedFloat.ofScientific .binary64 a (Int.negOfNat n))) = _
    rw [ofScientific_eq_rounding a hn, closest]

theorem inUnits_eq_toEven (d : Dyadic) (n : ℕ) : inUnits d n = toEven (d.size * 10 ^ n) := by
  have hnegative : (-(n : ℤ)).toNat = 0 := by omega
  rw [inUnits, hnegative, Int.toNat_natCast, ← d.magnitude_div]
  simp only [Nat.pow_eq, Nat.pow_zero, Nat.mul_one]
  rw [nearest_eq_toEven _ d.magnitude_pos]
  congr 1
  push_cast
  ring

/-- A number that is not negative, rounded to a number of places. -/
def kept (n : ℕ) (u : ℚ) : ℚ := toEven (u * 10 ^ n) / 10 ^ n

theorem kept_nonneg (n : ℕ) (u : ℚ) : 0 ≤ kept n u := by
  unfold kept
  positivity

theorem kept_mono (n : ℕ) {u w : ℚ} (h : u ≤ w) : kept n u ≤ kept n w := by
  have hunits : toEven (u * 10 ^ n) ≤ toEven (w * 10 ^ n) := toEven_mono (by gcongr)
  unfold kept
  gcongr

theorem kept_natCast (n a : ℕ) : kept n a = a := by
  have hunits : (a : ℚ) * 10 ^ n = (a * 10 ^ n : ℕ) := by push_cast; rfl
  rw [kept, hunits, toEven_natCast, Nat.cast_mul, Nat.cast_pow, Nat.cast_ofNat]
  field_simp

section Finite

variable {x : Float} {d : Dyadic} (hx : FloatKind.of x = .finite d) {n : ℕ} (hn : n ≤ 323)
include hx hn

theorem roundTo_of_finite :
    roundTo n x = if d.negative then -closest (kept n d.size) else closest (kept n d.size) := by
  rw [roundTo, hx]
  dsimp only
  rw [if_neg (by omega), if_neg (by omega), floatOf, inUnits_eq_toEven, Int.natAbs_natCast,
    decide_eq_true (Int.natCast_nonneg n), ofScientific_eq_closest _ hn, kept]

theorem place_roundTo :
    place (roundTo n x) =
      if d.negative then -place (closest (kept n d.size)) else place (closest (kept n d.size)) := by
  rw [roundTo_of_finite hx hn]
  split_ifs
  · exact place_neg _
  · rfl

end Finite

theorem place_kept_nonneg (n : ℕ) (u : ℚ) : 0 ≤ place (closest (kept n u)) := by
  rw [← place_closest_zero]
  exact place_closest_mono le_rfl (kept_nonneg n u)

theorem place_kept_mono (n : ℕ) {u w : ℚ} (h : u ≤ w) :
    place (closest (kept n u)) ≤ place (closest (kept n w)) :=
  place_closest_mono (kept_nonneg n u) (kept_mono n h)

theorem place_kept_of_nonpos (n : ℕ) {u : ℚ} (h : u ≤ 0) : place (closest (kept n u)) = 0 := by
  refine le_antisymm ?_ (place_kept_nonneg n u)
  have hzero : kept n 0 = 0 := by exact_mod_cast kept_natCast n 0
  rw [← place_closest_zero, ← hzero]
  exact place_kept_mono n h

theorem place_roundTo_le {x y : Float} {d d' : Dyadic} (hx : FloatKind.of x = .finite d)
    (hy : FloatKind.of y = .finite d') {n : ℕ} (hn : n ≤ 323) (hxy : place x ≤ place y) :
    place (roundTo n x) ≤ place (roundTo n y) := by
  have hvalue : d.value ≤ d'.value := by
    have hcanonical := (canonical_unpack x.toModel.toBits.toBitVec).1
    have hcanonical' := (canonical_unpack y.toModel.toBits.toBitVec).1
    have hunpack := FloatKind.unpack_of_finite hx
    have hunpack' := FloatKind.unpack_of_finite hy
    rw [place, place, hunpack, hunpack'] at hxy
    refine Dyadic.value_le_of_placeOf_le ?_ ?_ hxy
    · rw [← hunpack]
      exact hcanonical
    · rw [← hunpack']
      exact hcanonical'
  have hsize := d.size_nonneg
  have hsize' := d'.size_nonneg
  rw [place_roundTo hx hn, place_roundTo hy hn]
  rw [Dyadic.value, Dyadic.value] at hvalue
  split_ifs at hvalue ⊢
  · exact neg_le_neg (place_kept_mono n (neg_le_neg_iff.mp hvalue))
  · exact (neg_nonpos.mpr (place_kept_nonneg n _)).trans (place_kept_nonneg n _)
  · rw [place_kept_of_nonpos n (by linarith), place_kept_of_nonpos n (by linarith), neg_zero]
  · exact place_kept_mono n hvalue

theorem roundTo_of_infinite (places : ℤ) {x : Float} {negative : Bool}
    (h : FloatKind.of x = .infinite negative) : roundTo places x = x := by
  rw [roundTo, h]

/-- No float has digits beyond so many places. -/
theorem roundTo_of_lt {places : ℤ} (h : 323 < places) (x : Float) : roundTo places x = x := by
  rw [roundTo]
  split
  · exact if_pos h
  · rfl

theorem isNaN_roundTo {n : ℕ} (hn : n ≤ 323) {x : Float} (hx : x.isNaN = false) :
    (roundTo n x).isNaN = false := by
  rcases FloatKind.finite_or_infinite hx with ⟨d, hkind⟩ | ⟨negative, hkind⟩
  · have hclosest := isNaN_closest (kept_nonneg n d.size)
    rw [roundTo_of_finite hkind hn]
    split_ifs
    · rwa [isNaN_neg]
    · exact hclosest
  · rwa [roundTo_of_infinite n hkind]

/-- Rounding to places after the point keeps the order of floats. -/
theorem roundTo_mono {places : ℤ} (hplaces : 0 ≤ places) {x y : Float} (h : x ≤ y) :
    roundTo places x ≤ roundTo places y := by
  obtain ⟨n, rfl⟩ := Int.eq_ofNat_of_zero_le hplaces
  by_cases hn : n ≤ 323
  · obtain ⟨hx, hy⟩ := isNaN_eq_false_of_le h
    rw [le_iff_place_le hx hy] at h
    rw [le_iff_place_le (isNaN_roundTo hn hx) (isNaN_roundTo hn hy)]
    -- An infinity stays as it is, at one end of the order; the other end contradicts `h`.
    rcases FloatKind.finite_or_infinite hx with ⟨d, hkind⟩ | ⟨negative, hkind⟩
    · rcases FloatKind.finite_or_infinite hy with ⟨d', hkind'⟩ | ⟨negative', hkind'⟩
      · exact place_roundTo_le hkind hkind' hn h
      · have hunpack' := FloatKind.unpack_of_infinite hkind'
        rw [roundTo_of_infinite n hkind']
        cases negative' with
        | false =>
          rw [place, place, hunpack']
          exact (placeOf_between _).2
        | true =>
          rw [place, place, hunpack', FloatKind.unpack_of_finite hkind] at h
          exact absurd h d.placeOf_unpacked_between.1.not_ge
    · have hunpack := FloatKind.unpack_of_infinite hkind
      rcases FloatKind.finite_or_infinite hy with ⟨d', hkind'⟩ | ⟨negative', hkind'⟩
      · rw [roundTo_of_infinite n hkind]
        cases negative with
        | false =>
          rw [place, place, hunpack, FloatKind.unpack_of_finite hkind'] at h
          exact absurd h d'.placeOf_unpacked_between.2.not_ge
        | true =>
          rw [place, place, hunpack]
          exact (placeOf_between _).1
      · rwa [roundTo_of_infinite n hkind, roundTo_of_infinite n hkind']
  · rwa [roundTo_of_lt (by omega), roundTo_of_lt (by omega)]

theorem size_of_unpacked_eq_whole {d : Dyadic} {s : Sign} {a : ℕ} (ha : a < 2 ^ 53)
    (h : d.unpacked = FloatExact.whole s a) : d.sign = s ∧ d.size = a := by
  rw [Dyadic.unpacked] at h
  rcases Nat.eq_zero_or_pos a with rfl | hpos
  · split_ifs at h with hmantissa
    · cases h
    · refine ⟨UnpackedFloat.zero.inj h, ?_⟩
      rw [Dyadic.size, Nat.eq_zero_of_not_pos hmantissa, Nat.cast_zero, zero_mul]
  · rw [FloatExact.whole_of_pos hpos] at h
    split_ifs at h with hmantissa
    · obtain ⟨hsign, hm, he⟩ := UnpackedFloat.finite.inj h
      have hlog : a.log2 ≤ 52 := Nat.le_of_lt_succ (FloatExact.log2_lt_of_lt hpos ha)
      refine ⟨hsign, ?_⟩
      rw [Dyadic.size, hm, he, fill_mantissa a hlog]

/-- Integers stay as they are. -/
theorem roundTo_stored {places : ℤ} (hplaces : 0 ≤ places) {a : ℕ} (ha : a < 2 ^ 53) (s : Sign) :
    roundTo places (FloatExact.stored s a) = FloatExact.stored s a := by
  obtain ⟨n, rfl⟩ := Int.eq_ofNat_of_zero_le hplaces
  by_cases hn : n ≤ 323
  · cases hkind : FloatKind.of (FloatExact.stored s a) with
    | notANumber => rw [roundTo, hkind]
    | infinite negative => exact roundTo_of_infinite n hkind
    | finite d =>
      have hunpack : d.unpacked = FloatExact.whole s a := by
        rw [← FloatKind.unpack_of_finite hkind]
        exact FloatExact.unpack_pack_whole ha s
      obtain ⟨rfl, hsize⟩ := size_of_unpacked_eq_whole ha hunpack
      rw [roundTo_of_finite hkind hn, hsize, kept_natCast, closest_natCast ha,
        FloatExact.neg_ofNat ha, FloatExact.ofNat_eq_stored ha, Dyadic.sign]
      split_ifs <;> rfl
  · exact roundTo_of_lt (by omega) _

end NetAtlas.Decimal
