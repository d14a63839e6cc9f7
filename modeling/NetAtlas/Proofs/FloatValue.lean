import NetAtlas.Proofs.FloatStorage

/-!
The numbers that floats stand for. A finite float is the float of its exact number, and the order of
floats is that of their numbers.
-/

namespace NetAtlas

open Float.Model Float.Model.UnpackedFloat FloatOrder FloatStorage

namespace Dyadic

/-- The number without its sign. -/
def size (d : Dyadic) : ℚ := d.mantissa * 2 ^ d.exponent

def value (d : Dyadic) : ℚ := if d.negative then -d.size else d.size

def sign (d : Dyadic) : Sign := if d.negative then .negative else .positive

/-- The number as a float with the same mantissa and the same exponent. -/
def unpacked (d : Dyadic) : UnpackedFloat :=
  if h : 0 < d.mantissa then .finite d.sign d.mantissa d.exponent h else .zero d.sign

theorem size_nonneg (d : Dyadic) : 0 ≤ d.size := by
  unfold size
  positivity

theorem magnitude_div (d : Dyadic) : (d.magnitude.1 : ℚ) / d.magnitude.2 = d.size := by
  have hexponent : d.exponent = d.exponent.toNat - (-d.exponent).toNat := by omega
  rw [magnitude, size]
  conv_rhs => rw [hexponent]
  rw [zpow_sub₀ two_ne_zero, zpow_natCast, zpow_natCast]
  simp only [Nat.pow_eq]
  push_cast
  rw [mul_div_assoc]

theorem magnitude_pos (d : Dyadic) : 0 < d.magnitude.2 := Nat.two_pow_pos _

end Dyadic

theorem ofBitVec_unpackSign (x : Float) :
    Sign.ofBitVec (@unpackSign .binary64 x.toBits.toBitVec) =
      if decide (2 ^ 63 ≤ x.toBits.toNat) then .negative else .positive := by
  have hbits := x.toBits.toNat_lt
  have hbit : @unpackSign .binary64 x.toBits.toBitVec = 0#1 ↔ ¬ 2 ^ 63 ≤ x.toBits.toNat := by
    rw [← BitVec.toNat_inj, toNat_unpackSign]
    change x.toBits.toNat / 2 ^ 63 % 2 = 0 ↔ _
    omega
  simp only [Sign.ofBitVec, hbit, ite_not, decide_eq_true_eq]

theorem FloatKind.unpack_of_finite {x : Float} {d : Dyadic} (h : FloatKind.of x = .finite d) :
    x.toModel.unpack = d.unpacked := by
  have hexponent : (@unpackExponent .binary64 x.toBits.toBitVec).toNat =
      x.toBits.toNat / 2 ^ 52 % 2 ^ 11 := toNat_unpackExponent _
  have hmantissa : (@unpackMantissa .binary64 x.toBits.toBitVec).toNat =
      x.toBits.toNat % 2 ^ 52 := toNat_unpackMantissa _
  have hbias : (Format.binary64.exponentBias : Int) = 1023 := rfl
  have hlast : (-1#11).toNat = 2047 := rfl
  have hleast : (0#11).toNat = 0 ∧ (0#52).toNat = 0 := ⟨rfl, rfl⟩
  change UnpackedFloat.unpack .binary64 x.toBits.toBitVec = _
  rw [UnpackedFloat.unpack]
  simp only [ofBitVec_unpackSign, ← BitVec.toNat_inj, hexponent, hmantissa, toNat_implicit, hlast,
    hleast, hbias]
  rw [FloatKind.of, FloatKind.ofBits] at h
  simp only [Nat.pow_eq] at h
  split_ifs at h with hend hfraction hsmall
  · obtain rfl := FloatKind.finite.inj h
    rw [if_neg hend, if_pos hsmall, Dyadic.unpacked]
    rcases Nat.eq_zero_or_pos (x.toBits.toNat % 2 ^ 52) with hzero | hpos
    · rw [dif_pos hzero, dif_neg (Nat.not_lt.mpr hzero.le)]
      rfl
    · rw [dif_neg hpos.ne', dif_pos hpos, hsmall]
      rfl
  · obtain rfl := FloatKind.finite.inj h
    rw [if_neg hend, if_neg hsmall, Dyadic.unpacked, dif_pos (Nat.add_pos_left (Nat.two_pow_pos 52) _)]
    rfl

/-- On a coarser grid a full mantissa stands for a greater number than any on a finer one. -/
theorem mul_two_zpow_le {m m' : ℕ} {e e' : ℤ} (hm : m < 2 ^ 53) (he : -1074 ≤ e)
    (hm' : 2 ^ 52 ≤ m' ∨ e' = -1074) (h : e < e' ∨ e = e' ∧ m ≤ m') :
    (m : ℚ) * 2 ^ e ≤ m' * 2 ^ e' := by
  rcases h with hless | ⟨rfl, hle⟩
  · have hfull : ((2 ^ 52 : ℕ) : ℚ) ≤ m' := Nat.cast_le.mpr (by omega)
    have hbits : (m : ℚ) ≤ (2 ^ 53 : ℕ) := Nat.cast_le.mpr hm.le
    calc (m : ℚ) * 2 ^ e ≤ (2 ^ 53 : ℕ) * 2 ^ e := by gcongr
      _ = (2 ^ 52 : ℕ) * 2 ^ (e + 1) := by
          rw [zpow_add_one₀ two_ne_zero]
          push_cast
          ring
      _ ≤ m' * 2 ^ e' := by
          gcongr
          · exact one_le_two
          · omega
  · gcongr

theorem Dyadic.value_le_of_placeOf_le {d d' : Dyadic} (hd : Canonical d.unpacked)
    (hd' : Canonical d'.unpacked) (h : placeOf d.unpacked ≤ placeOf d'.unpacked) :
    d.value ≤ d'.value := by
  obtain ⟨negative, m, e⟩ := d
  obtain ⟨negative', m', e'⟩ := d'
  have hsize : (0 : ℚ) ≤ m * 2 ^ e := by positivity
  have hsize' : (0 : ℚ) ≤ m' * 2 ^ e' := by positivity
  rcases Nat.eq_zero_or_pos m with rfl | hm
  · rw [unpacked, dif_neg (Nat.lt_irrefl 0)] at h
    rcases Nat.eq_zero_or_pos m' with rfl | hm'
    · simp [value, size]
    · rw [unpacked, dif_pos hm'] at h
      cases negative'
      · simpa [value, size] using hsize'
      · simp [sign, placeOf, Prod.Lex.toLex_le_toLex] at h
  · rw [unpacked, dif_pos hm] at hd h
    rcases Nat.eq_zero_or_pos m' with rfl | hm'
    · rw [unpacked, dif_neg (Nat.lt_irrefl 0)] at h
      cases negative
      · simp [sign, placeOf, Prod.Lex.toLex_le_toLex] at h
      · simpa [value, size] using hsize
    · rw [unpacked, dif_pos hm'] at hd' h
      obtain ⟨hbits, hlow, hfull⟩ := hd
      obtain ⟨hbits', hlow', hfull'⟩ := hd'
      cases negative <;> cases negative'
      all_goals simp [value, size, sign, placeOf, Prod.Lex.toLex_le_toLex] at h ⊢
      · exact mul_two_zpow_le hbits hlow hfull' (by omega)
      · linarith
      · exact mul_two_zpow_le hbits' hlow' hfull (by omega)

/-- A number is finite or one of the infinities. -/
theorem FloatKind.finite_or_infinite {x : Float} (hx : x.isNaN = false) :
    (∃ d, FloatKind.of x = .finite d) ∨ ∃ negative, FloatKind.of x = .infinite negative := by
  cases hkind : FloatKind.of x with
  | finite d => exact .inl ⟨d, rfl⟩
  | infinite negative => exact .inr ⟨negative, rfl⟩
  | notANumber =>
    rw [eq_of_notANumber hkind] at hx
    exact absurd hx (by decide)

theorem FloatKind.unpack_of_infinite {x : Float} {negative : Bool}
    (h : FloatKind.of x = .infinite negative) :
    x.toModel.unpack = .infinity (if negative then .negative else .positive) := by
  rw [FloatKind.eq_of_infinite h]
  cases negative <;> rfl

/-- What is finite stands between the infinities. -/
theorem Dyadic.placeOf_unpacked_between (d : Dyadic) :
    placeOf (.infinity .negative) < placeOf d.unpacked ∧
      placeOf d.unpacked < placeOf (.infinity .positive) := by
  rw [unpacked, sign]
  split_ifs
  all_goals simp [placeOf, Prod.Lex.toLex_lt_toLex]

/-- So does everything, the infinities included. -/
theorem placeOf_between (f : UnpackedFloat) :
    placeOf (.infinity .negative) ≤ placeOf f ∧ placeOf f ≤ placeOf (.infinity .positive) := by
  rcases f with (_ | _) | _ | _ | ⟨_ | _, m, e, _⟩
  all_goals simp [placeOf, Prod.Lex.toLex_le_toLex]

end NetAtlas
