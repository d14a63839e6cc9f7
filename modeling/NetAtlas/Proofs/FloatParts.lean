import Mathlib
import NetAtlas.Decimal.Dyadic

/-!
The parts of a float as numbers, and which floats they leave no choice: the infinities, and the one
float that is no number.
-/

namespace NetAtlas

open Float.Model Float.Model.UnpackedFloat

theorem toNat_unpackSign (b : BitVec Format.binary64.numBits) :
    (unpackSign b).toNat = b.toNat / 2 ^ 63 % 2 := by
  simp only [unpackSign, BitVec.toNat_cast, BitVec.extractLsb_toNat, Nat.shiftRight_eq_div_pow]

theorem toNat_unpackExponent (b : BitVec Format.binary64.numBits) :
    (unpackExponent b).toNat = b.toNat / 2 ^ 52 % 2 ^ 11 := by
  simp only [unpackExponent, BitVec.toNat_cast, BitVec.extractLsb_toNat, Nat.shiftRight_eq_div_pow]

theorem toNat_unpackMantissa (b : BitVec Format.binary64.numBits) :
    (unpackMantissa b).toNat = b.toNat % 2 ^ 52 := by
  simp only [unpackMantissa, BitVec.toNat_cast, BitVec.extractLsb_toNat, Nat.shiftRight_eq_div_pow,
    Nat.pow_zero, Nat.div_one]

/-- The first bit of a normal mantissa is not stored. -/
theorem toNat_implicit (m : BitVec 52) : (1#1 ++ m).toNat = 2 ^ 52 + m.toNat := by
  rw [BitVec.toNat_append, ← Nat.shiftLeft_add_eq_or_of_lt m.isLt]
  simp [Nat.shiftLeft_eq]

theorem FloatKind.toBits_of_notANumber {x : Float} (h : FloatKind.of x = .notANumber) :
    x.toBits.toBitVec = UnpackedFloat.packedNaN Format.binary64 := by
  have hbits := x.toBits.toNat_lt
  rw [FloatKind.of, FloatKind.ofBits] at h
  simp only [Nat.pow_eq, Nat.reducePow] at h
  split_ifs at h with hexponent hfraction
  refine x.toModel.valid.eq_packedNaN ?_ ?_
  · apply BitVec.eq_of_toNat_eq
    rw [toNat_unpackExponent]
    exact hexponent
  · intro hzero
    apply hfraction
    have hmantissa := congrArg BitVec.toNat hzero
    rw [toNat_unpackMantissa] at hmantissa
    exact hmantissa

/-- All floats that are no numbers are the same one. -/
theorem FloatKind.eq_of_notANumber {x : Float} (h : FloatKind.of x = .notANumber) : x = 0.0 / 0.0 := by
  rw [← Float.toBits_inj, ← UInt64.toBitVec_inj, toBits_of_notANumber h]
  decide +kernel

theorem FloatKind.toBits_of_infinite {x : Float} {negative : Bool}
    (h : FloatKind.of x = .infinite negative) :
    x.toBits.toNat = if negative then 0xFFF0000000000000 else 0x7FF0000000000000 := by
  have hbits := x.toBits.toNat_lt
  rw [FloatKind.of, FloatKind.ofBits] at h
  simp only [Nat.pow_eq, Nat.reducePow] at h
  split_ifs at h
  obtain rfl := FloatKind.infinite.inj h
  split_ifs with hnegative <;> simp only [decide_eq_true_eq] at hnegative <;> omega

theorem FloatKind.eq_of_infinite {x : Float} {negative : Bool}
    (h : FloatKind.of x = .infinite negative) :
    x = if negative then -(1.0 / 0.0) else 1.0 / 0.0 := by
  rw [← Float.toBits_inj, ← UInt64.toNat_inj, toBits_of_infinite h]
  cases negative <;> decide +kernel

/-- A float whose exponent is not the greatest one is finite. -/
theorem isFinite_unpack {b : BitVec Format.binary64.numBits} (h : unpackExponent b ≠ -1#11) :
    (UnpackedFloat.unpack .binary64 b).isFinite = true := by
  rw [UnpackedFloat.unpack]
  dsimp only
  rw [if_neg h]
  split
  · split <;> rfl
  · rfl

theorem FloatKind.isFinite_of_finite {x : Float} {d : Dyadic} (h : FloatKind.of x = .finite d) :
    x.isFinite = true := by
  refine @isFinite_unpack x.toBits.toBitVec ?_
  intro hexponent
  have hend : x.toBits.toNat / 4503599627370496 % 2048 = 2047 := by
    have hparts := congrArg BitVec.toNat hexponent
    rwa [toNat_unpackExponent] at hparts
  rw [FloatKind.of, FloatKind.ofBits] at h
  simp only [Nat.pow_eq, Nat.reducePow, hend] at h
  split_ifs at h

/-- There are three floats that are not finite. -/
theorem FloatKind.eq_of_isFinite_eq_false {x : Float} (h : x.isFinite = false) :
    x = 0.0 / 0.0 ∨ x = 1.0 / 0.0 ∨ x = -(1.0 / 0.0) := by
  cases hkind : FloatKind.of x with
  | finite d => exact absurd (isFinite_of_finite hkind) (by simp [h])
  | infinite negative =>
    have hx := eq_of_infinite hkind
    cases negative with
    | false => exact .inr (.inl hx)
    | true => exact .inr (.inr hx)
  | notANumber => exact .inl (eq_of_notANumber hkind)

end NetAtlas
