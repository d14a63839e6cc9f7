import NetAtlas.Proofs.FloatOrder
import NetAtlas.Proofs.FloatParts

/-!
Floats in storage. A float that makes full use of its mantissa, as far as its size allows, comes out
of storage as it went in, unless its exponent is out of range; and all that is in storage is such a
float.
-/

namespace NetAtlas.FloatStorage

open Float.Model Float.Model.UnpackedFloat FloatOrder

/-- The mantissa has 53 bits, or fewer if the exponent is the least one. -/
def Canonical : UnpackedFloat → Prop
  | .finite _ m e _ => m < 2 ^ 53 ∧ -1074 ≤ e ∧ (2 ^ 52 ≤ m ∨ e = -1074)
  | _ => True

/-- What becomes of a float in storage. -/
def held : UnpackedFloat → UnpackedFloat
  | .finite s m e hm => if 971 < e then .infinity s else .finite s m e hm
  | f => f

theorem unpack_packComponents_normal (s : Sign) {m x : ℕ} (hm : 2 ^ 52 ≤ m) (hm' : m < 2 ^ 53)
    (hx : 0 < x) (hx' : x < 2047) :
    UnpackedFloat.unpack .binary64
        (packComponents .binary64 s (BitVec.ofNat 11 x) (BitVec.ofNat 52 m)) =
      .finite s m (x - 1075) (Nat.lt_of_lt_of_le (Nat.two_pow_pos 52) hm) := by
  have hbias : (Format.binary64.exponentBias : Int) = 1023 := rfl
  have hexponent : (BitVec.ofNat 11 x).toNat = x := Nat.mod_eq_of_lt (by omega)
  have hmantissa : (1#1 ++ BitVec.ofNat 52 m).toNat = m := by
    rw [toNat_implicit, BitVec.toNat_ofNat]
    omega
  have hother (y : BitVec 11) (hy : y.toNat ≠ x) : BitVec.ofNat 11 x ≠ y := by
    rintro rfl
    exact hy hexponent
  rw [UnpackedFloat.unpack]
  simp only [unpackMantissa_packComponents, unpackExponent_packComponents,
    unpackSign_packComponents, hbias, Sign.ofBitVec_toBitVec]
  rw [if_neg (hother (-1#11) hx'.ne'), if_neg (hother 0#11 hx.ne)]
  simp only [hmantissa, hexponent]
  rfl

theorem unpack_packComponents_subnormal (s : Sign) {m : ℕ} (hm : 0 < m) (hm' : m < 2 ^ 52) :
    UnpackedFloat.unpack .binary64 (packComponents .binary64 s 0#11 (BitVec.ofNat 52 m)) =
      .finite s m (-1074) hm := by
  have hbias : (Format.binary64.exponentBias : Int) = 1023 := rfl
  have hmantissa : (BitVec.ofNat 52 m).toNat = m := Nat.mod_eq_of_lt hm'
  have hnonzero : BitVec.ofNat 52 m ≠ 0#52 := by
    intro hzero
    have h := congrArg BitVec.toNat hzero
    rw [hmantissa] at h
    exact hm.ne' h
  rw [UnpackedFloat.unpack]
  simp only [unpackMantissa_packComponents, unpackExponent_packComponents,
    unpackSign_packComponents, hbias, Sign.ofBitVec_toBitVec]
  rw [if_neg (by decide), if_pos trivial, dif_neg hnonzero]
  simp only [hmantissa]
  rfl

/-- Storage does nothing to a float with a full mantissa but to cut off its exponent. -/
theorem unpack_pack {f : UnpackedFloat} (h : Canonical f) : (Float.Model.pack f).unpack = held f := by
  cases f with
  | notANumber => exact unpack_packedNaN
  | infinity s => cases s <;> rfl
  | zero s => exact unpack_packedZero
  | finite s m e hm =>
    obtain ⟨hm', hlow, hfull⟩ := h
    have hbias : (Format.binary64.exponentBias : Int) = 1023 := rfl
    have hbits : Format.binary64.mantissaBits = 53 := rfl
    have hlog : m.log2 < 53 := (Nat.log2_lt hm.ne').mpr hm'
    change UnpackedFloat.unpack .binary64 (UnpackedFloat.pack .binary64 _) = _
    rw [UnpackedFloat.pack, held]
    simp only [hbias, hbits]
    by_cases hlarge : 971 < e
    · rw [if_pos (by push_cast; omega), if_pos hlarge]
      cases s <;> rfl
    · rw [if_neg (by push_cast; omega), if_neg hlarge]
      by_cases hnormal : 2 ^ 52 ≤ m
      · have hlog' : 52 ≤ m.log2 := (Nat.le_log2 hm.ne').mpr hnormal
        rw [if_pos (by omega), unpack_packComponents_normal s hnormal hm' (by push_cast; omega)
          (by push_cast; omega)]
        congr 1
        push_cast
        omega
      · have hlog' : m.log2 < 52 := (Nat.log2_lt hm.ne').mpr (Nat.lt_of_not_le hnormal)
        rw [if_neg (by omega), unpack_packComponents_subnormal s hm (Nat.lt_of_not_le hnormal)]
        congr 1
        omega

/-- What is in storage makes full use of its mantissa, and its exponent is in range. -/
theorem canonical_unpack (b : BitVec Format.binary64.numBits) :
    Canonical (UnpackedFloat.unpack .binary64 b) ∧
      held (UnpackedFloat.unpack .binary64 b) = UnpackedFloat.unpack .binary64 b := by
  have hbias : (Format.binary64.exponentBias : Int) = 1023 := rfl
  have hbits : (unpackExponent b).toNat < 2048 := (unpackExponent b).isLt
  rw [UnpackedFloat.unpack]
  dsimp only
  split
  · split <;> exact ⟨trivial, rfl⟩
  · rename_i hfinite
    have hhigh : (unpackExponent b).toNat ≠ 2047 := fun hend =>
      hfinite (BitVec.eq_of_toNat_eq hend)
    split
    · rename_i hsmall
      split
      · exact ⟨trivial, rfl⟩
      · refine ⟨⟨Nat.lt_trans (unpackMantissa b).isLt (by decide), ?_, .inr ?_⟩, if_neg ?_⟩
        all_goals
          rw [hsmall, hbias]
          decide
    · rename_i hnormal
      have hlow : (unpackExponent b).toNat ≠ 0 := fun hzero =>
        hnormal (BitVec.eq_of_toNat_eq hzero)
      refine ⟨⟨(1#1 ++ unpackMantissa b).isLt, ?_, .inl ?_⟩, if_neg ?_⟩
      · rw [hbias]
        push_cast
        omega
      · rw [toNat_implicit]
        exact Nat.le_add_right _ _
      · rw [hbias]
        push_cast
        omega

theorem canonical_neg {f : UnpackedFloat} (h : Canonical f) : Canonical f.neg := by
  cases f <;> exact h

theorem held_neg (f : UnpackedFloat) : held f.neg = (held f).neg := by
  cases f with
  | finite s m e hm =>
    rw [held, UnpackedFloat.neg, held]
    split_ifs <;> rfl
  | _ => rfl

/-- Negation turns the sign and does nothing else. -/
theorem unpack_neg (x : Float) : (-x).toModel.unpack = x.toModel.unpack.neg := by
  obtain ⟨hcanonical, hheld⟩ := canonical_unpack x.toModel.toBits.toBitVec
  change (Float.Model.pack (UnpackedFloat.unpack _ _).neg).unpack = (UnpackedFloat.unpack _ _).neg
  rw [unpack_pack (canonical_neg hcanonical), held_neg, hheld]

theorem isNaN_neg (x : Float) : (-x).isNaN = x.isNaN := by
  change (-x).toModel.unpack.isNaN = x.toModel.unpack.isNaN
  rw [unpack_neg]
  cases x.toModel.unpack <;> rfl

theorem placeOf_neg (f : UnpackedFloat) : placeOf f.neg = -placeOf f := by
  rcases f with (_ | _) | _ | _ | ⟨_ | _, m, e, _⟩
  case finite.negative =>
    change toLex (1, toLex (e, (m : Int))) = toLex (- -1, toLex (- -e, - -(m : Int)))
    rw [neg_neg, neg_neg, neg_neg]
  all_goals rfl

theorem place_neg (x : Float) : place (-x) = -place x := by
  rw [place, unpack_neg, placeOf_neg, place]

/-- Storage keeps the order of floats. -/
theorem placeOf_held_mono {f g : UnpackedFloat} (h : placeOf f ≤ placeOf g) :
    placeOf (held f) ≤ placeOf (held g) := by
  rcases f with (_ | _) | _ | _ | ⟨_ | _, m, e, _⟩ <;>
    rcases g with (_ | _) | _ | _ | ⟨_ | _, n, e', _⟩ <;>
    simp [held, placeOf, Prod.Lex.toLex_le_toLex] at h ⊢ <;> split_ifs <;>
    simp [Prod.Lex.toLex_le_toLex] <;> omega

end NetAtlas.FloatStorage
