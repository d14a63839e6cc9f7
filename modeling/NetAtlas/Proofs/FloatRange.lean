import Mathlib
import NetAtlas.Number

/-!
Which floats are finite. Rounding keeps the exponent near that of what is rounded, and a float whose
exponent is far from the greatest one is stored as it is; so the float of a natural number of one
machine word is finite.
-/

namespace NetAtlas

namespace FloatRange

open Float.Model Float.Model.UnpackedFloat

/-- The float is zero or finite, with an exponent up to a bound. -/
def Within (bound : Int) : UnpackedFloat → Prop
  | .zero _ => True
  | .finite _ _ e _ => e ≤ bound
  | _ => False

theorem Within.mono {bound bound' : Int} {f : UnpackedFloat} (h : Within bound f)
    (hle : bound ≤ bound') : Within bound' f := by
  cases f with
  | zero s => trivial
  | finite s m e hm => exact Int.le_trans h hle
  | infinity s => exact h.elim
  | notANumber => exact h.elim

theorem mantissa_repeat_shiftRightOne (n : Nat) (em : ExtendedMantissa) :
    (n.repeat ExtendedMantissa.shiftRightOne em).mantissa = em.mantissa / 2 ^ n := by
  induction n with
  | zero => exact (Nat.div_one _).symm
  | succ n ih =>
    change (n.repeat ExtendedMantissa.shiftRightOne em).mantissa / 2 = _
    rw [ih, Nat.div_div_eq_div_mul, ← Nat.pow_succ]

/-- Rounding leaves a mantissa as it is or adds one. -/
theorem roundedMantissa_bounds (em : ExtendedMantissa) :
    em.mantissa ≤ em.roundedMantissa ∧ em.roundedMantissa ≤ em.mantissa + 1 := by
  obtain ⟨m, round, sticky⟩ := em
  cases round <;> cases sticky <;>
    simp [ExtendedMantissa.roundedMantissa, ExtendedMantissa.accuracy, Accuracy.roundToNearestEven]
  omega

theorem log2_le_of_lt {m k : Nat} (h : m < 2 ^ k) : m.log2 ≤ k := by
  rcases Nat.eq_zero_or_pos m with rfl | hm
  · rw [Nat.log2_zero]
    exact Nat.zero_le k
  · exact Nat.le_of_lt ((Nat.log2_lt (Nat.ne_of_gt hm)).mpr h)

theorem targetExponent_eq (m : Nat) (e : Int) :
    Format.binary64.targetExponent (totalExponent m e) = max (m.log2 + 1 + e - 53) (-1074) := rfl

theorem targetExponent_le {m k : Nat} (h : m < 2 ^ k) (e : Int) :
    Format.binary64.targetExponent (totalExponent m e) ≤ max (k + e) (-1074) := by
  have hlog := log2_le_of_lt h
  rw [targetExponent_eq]
  omega

/-- Rounding may shift a mantissa of `k` bits twice, and neither shift is by much more than `k`. -/
theorem within_roundWithAccuracy {m k : Nat} (hm : m < 2 ^ k) (s : Sign) (e : Int) :
    Within (max e (-1074) + 2 * k + 1) (roundWithAccuracy .binary64 s m e .exact) := by
  have hrounded :
      (shiftToTargetExponent .binary64 m e .exact).1.roundedMantissa < 2 ^ (k + 1) := by
    have hcut : (shiftToTargetExponent .binary64 m e .exact).1.mantissa ≤ m :=
      (mantissa_repeat_shiftRightOne _ _).trans_le (Nat.div_le_self m _)
    have hle := Nat.le_trans
      (roundedMantissa_bounds (shiftToTargetExponent .binary64 m e .exact).1).2
      (Nat.add_le_add_right hcut 1)
    have hpower : 2 ^ (k + 1) = 2 * 2 ^ k := by ring
    change _ ≤ m + 1 at hle
    omega
  have hfirst := targetExponent_le hm e
  have hsecond := targetExponent_le hrounded (shiftToTargetExponent .binary64 m e .exact).2
  rw [roundWithAccuracy]
  dsimp only
  split
  · trivial
  · change (shiftToTargetExponent .binary64 _ _ .exact).2 ≤ _
    simp only [shiftToTargetExponent, shiftToExponent] at hsecond hfirst ⊢
    omega

/-- An integer of `k` bits is shifted to the left by 53 bits at most before it is rounded. -/
theorem within_round {m k : Nat} (hm : m < 2 ^ k) (s : Sign) :
    Within (2 * k + 107) (UnpackedFloat.round .binary64 s m 0) := by
  have hshift : (0 - Format.binary64.targetExponent (totalExponent m 0)).toNat ≤ 53 := by
    rw [targetExponent_eq]
    omega
  have hmantissa {shift : Nat} (h : shift ≤ 53) : m <<< shift < 2 ^ (k + 53) := by
    rw [Nat.shiftLeft_eq, Nat.pow_add]
    exact Nat.mul_lt_mul_of_lt_of_le hm (Nat.pow_le_pow_right Nat.two_pos h) (Nat.two_pow_pos 53)
  refine (within_roundWithAccuracy (hmantissa hshift) s _).mono ?_
  omega

theorem within_ofNat {n k : Nat} (hn : n < 2 ^ k) :
    Within (2 * k + 107) (UnpackedFloat.ofNat .binary64 n) := by
  rw [UnpackedFloat.ofNat, UnpackedFloat.ofInt, UnpackedFloat.normalize]
  split
  · rename_i hlt
    exact absurd (compare_lt_iff_lt.mp hlt) (by omega)
  · trivial
  · exact within_round hn .positive

/-- So is a float that comes out of storage, and its mantissa has 53 bits. -/
def Stored (bound : Int) : UnpackedFloat → Prop
  | .zero _ => True
  | .finite _ m e _ => m < 2 ^ 53 ∧ e ≤ bound
  | _ => False

theorem Stored.isFinite {bound : Int} {f : UnpackedFloat} (h : Stored bound f) :
    f.isFinite = true := by
  cases f with
  | zero s => rfl
  | finite s m e hm => rfl
  | infinity s => exact h.elim
  | notANumber => exact h.elim

theorem stored_unpack_packComponents {bound : Int} {x : BitVec 11} (s : Sign) (m : BitVec 52)
    (hlow : -1074 ≤ bound) (hx : x.toNat + 1 < 2 ^ 11) (hbound : (x.toNat : Int) - 1075 ≤ bound) :
    Stored bound (UnpackedFloat.unpack .binary64 (packComponents .binary64 s x m)) := by
  have hfinite : x ≠ -1#11 := by
    rintro rfl
    exact absurd hx (by decide)
  have hbias : (Format.binary64.exponentBias : Int) = 1023 := rfl
  rw [UnpackedFloat.unpack]
  simp only [unpackMantissa_packComponents, unpackExponent_packComponents, hbias]
  rw [if_neg hfinite]
  split
  · split
    · trivial
    · rename_i hzero _
      subst hzero
      exact ⟨Nat.lt_trans m.isLt (by decide), by simpa using hlow⟩
  · refine ⟨(1#1 ++ m).isLt, ?_⟩
    push_cast
    omega

/-- Storing keeps a float whose exponent is in range. -/
theorem stored_unpack_pack {f : UnpackedFloat} {bound : Int} (hlow : -1074 ≤ bound)
    (hhigh : bound < 971) (h : Within bound f) : Stored bound (Float.Model.pack f).unpack := by
  have hbias : (Format.binary64.exponentBias : Int) = 1023 := rfl
  change Stored bound (UnpackedFloat.unpack .binary64 (UnpackedFloat.pack .binary64 f))
  cases f with
  | notANumber => exact h.elim
  | infinity s => exact h.elim
  | zero s => exact stored_unpack_packComponents s 0 hlow (by decide) (by simpa using by omega)
  | finite s m e hm =>
    have he : e ≤ bound := h
    have hbiased : (e + 1023 + 52).toNat + 1 < 2 ^ 11 := by omega
    rw [UnpackedFloat.pack]
    simp only [hbias]
    rw [if_neg (by push_cast; omega)]
    split
    · refine stored_unpack_packComponents s _ hlow ?_ ?_
      · rw [BitVec.toNat_ofNat]
        push_cast
        omega
      · rw [BitVec.toNat_ofNat]
        push_cast
        omega
    · exact stored_unpack_packComponents s _ hlow (by decide) (by simpa using by omega)

theorem within_mul {b c : Int} {f g : UnpackedFloat} (hf : Stored b f) (hg : Stored c g) :
    Within (max (b + c) (-1074) + 213) (UnpackedFloat.mul .binary64 f g) := by
  cases f with
  | notANumber => exact hf.elim
  | infinity s => exact hf.elim
  | zero s =>
    cases g with
    | notANumber => exact hg.elim
    | infinity s' => exact hg.elim
    | zero s' => trivial
    | finite s' n e' hn => trivial
  | finite s m e hm =>
    cases g with
    | notANumber => exact hg.elim
    | infinity s' => exact hg.elim
    | zero s' => trivial
    | finite s' n e' hn =>
      obtain ⟨hmbits, hebound⟩ := hf
      obtain ⟨hnbits, hebound'⟩ := hg
      have hproduct : m * n < 2 ^ (53 + 53) := by
        rw [Nat.pow_add 2 53 53]
        exact Nat.mul_lt_mul'' hmbits hnbits
      refine (within_roundWithAccuracy hproduct (s * s') (e + e')).mono ?_
      omega

/-- The float of a number with at most 53 bits is that of a machine word, times one. -/
theorem ofNat_eq_mul {n : Nat} (hn : n < 2 ^ 53) :
    Float.ofNat n = n.toUInt64.toFloat * Float.ofBits 0x3FF0000000000000 := by
  change Float.ofScientific n false 0 = _
  rw [Float.ofScientific, dif_pos ⟨hn, by decide⟩]
  rfl

/-- The float of a greater number is rounded at once. -/
theorem ofNat_eq_pack {n : Nat} (hn : ¬ n < 2 ^ 53) :
    Float.ofNat n = .ofModel (.pack (roundWithAccuracy .binary64 .positive (n <<< 53) (-53) .exact)) := by
  change Float.ofScientific n false 0 = _
  rw [Float.ofScientific, dif_neg (by omega)]
  change Float.ofModel (.pack (UnpackedFloat.ofScientific .binary64 n 0)) = _
  have hlarge : ¬ (0 : Int) > 2 ^ Format.binary64.exponentBits := by decide
  have hsmall : ¬ (0 : Int) < -(2 ^ Format.binary64.exponentBits + n.log2) := by
    have hpower : (2 : Int) ^ Format.binary64.exponentBits = 2048 := by decide
    omega
  rw [UnpackedFloat.ofScientific, dif_neg (by omega), if_neg hlarge, if_neg hsmall,
    if_pos (Int.le_refl 0)]
  change Float.ofModel (.pack
    (roundWithAccuracy .binary64 .positive (n <<< 53 * 1) (-53) .exact)) = _
  rw [Nat.mul_one]

theorem isFinite_ofNat {n : Nat} (hn : n < 2 ^ 64) : (Float.ofNat n).isFinite = true := by
  by_cases hword : n < 2 ^ 53
  · have hinteger : Stored 213 n.toUInt64.toFloat.toModel.unpack := by
      have hsame : n.toUInt64.toNat = n := Nat.mod_eq_of_lt hn
      refine stored_unpack_pack (by decide) (by decide) ?_
      rw [UnpackedFloat.ofUInt64, hsame]
      exact within_ofNat hword
    have hone : Stored 0 (Float.ofBits 0x3FF0000000000000).toModel.unpack := ⟨by decide, by decide⟩
    rw [ofNat_eq_mul hword]
    exact (stored_unpack_pack (by decide) (by decide) (within_mul hinteger hone)).isFinite
  · have hshift : n <<< 53 < 2 ^ (64 + 53) := by
      rw [Nat.shiftLeft_eq, Nat.pow_add]
      exact Nat.mul_lt_mul_of_pos_right hn (Nat.two_pow_pos 53)
    rw [ofNat_eq_pack hword]
    exact (stored_unpack_pack (by decide) (by decide)
      (within_roundWithAccuracy hshift .positive (-53))).isFinite

end FloatRange

theorem Number.isSome_toFloat?_of_lt {n : Nat} (hn : n < 2 ^ 64) :
    (Number.int n).toFloat?.isSome = true := by
  have hfinite : (Float.ofInt n).isFinite = true := FloatRange.isFinite_ofNat hn
  rw [toFloat?, if_pos hfinite, Option.isSome_some]

end NetAtlas
