import NetAtlas.Proofs.FloatOrder
import NetAtlas.Proofs.FloatParts
import NetAtlas.Proofs.FloatRange

/-!
Which floats are greater than zero. The float of a positive integer is at least one, however large
the integer, and a float that the exact order of numbers puts after zero is greater than zero.
-/

namespace NetAtlas

namespace FloatRange

open Float.Model Float.Model.UnpackedFloat

/-- The float is greater than zero. -/
def Above : UnpackedFloat → Prop
  | .finite .positive _ _ _ => True
  | .infinity .positive => True
  | _ => False

/-- The float is infinite, or its mantissa has 53 bits and its exponent is from a bound on. -/
def Full (bound : Int) : UnpackedFloat → Prop
  | .finite .positive m e _ => (2 ^ 52 ≤ m ∧ m < 2 ^ 53) ∧ bound ≤ e
  | .infinity .positive => True
  | _ => False

theorem Full.above {bound : Int} {f : UnpackedFloat} (h : Full bound f) : Above f := by
  rcases f with (_ | _) | _ | _ | ⟨_ | _, m, e, _⟩
  all_goals first | exact h.elim | trivial

theorem zero_lt_of_above {x : Float} (h : Above x.toModel.unpack) : 0.0 < x := by
  have hnumber : x.isNaN = false := by
    change x.toModel.unpack.isNaN = false
    cases hunpack : x.toModel.unpack with
    | notANumber =>
      rw [hunpack] at h
      exact h.elim
    | _ => rfl
  rw [FloatOrder.lt_iff_place_lt (by decide) hnumber]
  change FloatOrder.placeOf (.zero .positive) < FloatOrder.placeOf x.toModel.unpack
  generalize x.toModel.unpack = f at h
  rcases f with (_ | _) | _ | _ | ⟨_ | _, m, e, _⟩
  all_goals first | exact h.elim | simp [FloatOrder.placeOf, Prod.Lex.toLex_lt_toLex]

/-- A mantissa with 53 bits or more is cut to exactly 53, and the exponent makes up for it. -/
theorem mantissa_shiftToTargetExponent {m k : Nat} {e : Int} (hm : 2 ^ (52 + k) ≤ m)
    (he : -1074 ≤ e) :
    (2 ^ 52 ≤ (shiftToTargetExponent .binary64 m e .exact).1.mantissa ∧
      (shiftToTargetExponent .binary64 m e .exact).1.mantissa < 2 ^ 53) ∧
      e + k ≤ (shiftToTargetExponent .binary64 m e .exact).2 := by
  have hnonzero : m ≠ 0 := Nat.ne_of_gt ((Nat.two_pow_pos _).trans_le hm)
  have hlog : 52 + k ≤ m.log2 := (Nat.le_log2 hnonzero).mpr hm
  have hshift : (Format.binary64.targetExponent (totalExponent m e) - e).toNat = m.log2 - 52 := by
    rw [targetExponent_eq]
    omega
  rw [shiftToTargetExponent, shiftToExponent, hshift]
  refine ⟨?_, by omega⟩
  change 2 ^ 52 ≤ ((m.log2 - 52).repeat ExtendedMantissa.shiftRightOne _).mantissa ∧
    ((m.log2 - 52).repeat ExtendedMantissa.shiftRightOne _).mantissa < 2 ^ 53
  rw [mantissa_repeat_shiftRightOne]
  constructor
  · rw [Nat.le_div_iff_mul_le (Nat.two_pow_pos _), ← Nat.pow_add,
      Nat.add_sub_cancel' (Nat.le_of_add_right_le hlog)]
    exact Nat.log2_self_le hnonzero
  · rw [Nat.div_lt_iff_lt_mul (Nat.two_pow_pos _), ← Nat.pow_add,
      show 53 + (m.log2 - 52) = m.log2 + 1 by omega]
    exact Nat.lt_log2_self

theorem full_roundWithAccuracy {m k : Nat} {e bound : Int} (hm : 2 ^ (52 + k) ≤ m)
    (hlow : -1074 ≤ e) (hbound : bound ≤ e + k) :
    Full bound (roundWithAccuracy .binary64 .positive m e .exact) := by
  obtain ⟨hfirst, hraised⟩ := mantissa_shiftToTargetExponent hm hlow
  have hlow' : -1074 ≤ (shiftToTargetExponent .binary64 m e .exact).2 := by omega
  obtain ⟨hsecond, hraised'⟩ := mantissa_shiftToTargetExponent (k := 0)
    (hfirst.1.trans (roundedMantissa_bounds _).1) hlow'
  rw [roundWithAccuracy]
  dsimp only
  split
  · omega
  · exact ⟨hsecond, by omega⟩

/-- A positive integer is shifted until its mantissa is full. -/
theorem full_ofNat {n : Nat} (hn : 0 < n) : Full (-52) (UnpackedFloat.ofNat .binary64 n) := by
  rw [UnpackedFloat.ofNat, UnpackedFloat.ofInt, UnpackedFloat.normalize]
  split
  · rename_i hlt
    exact absurd (compare_lt_iff_lt.mp hlt) (by omega)
  · rename_i heq
    exact absurd (compare_eq_iff_eq.mp heq) (by omega)
  · rw [UnpackedFloat.round, decreaseExponent, Int.toNat_natCast]
    dsimp only
    have hshift : (0 - Format.binary64.targetExponent (totalExponent n 0)).toNat = 52 - n.log2 := by
      rw [targetExponent_eq]
      omega
    rw [hshift]
    refine full_roundWithAccuracy (k := 0) ?_ (by omega) (by omega)
    rw [Nat.shiftLeft_eq]
    calc 2 ^ 52 ≤ 2 ^ (n.log2 + (52 - n.log2)) := Nat.pow_le_pow_right Nat.two_pos (by omega)
      _ = 2 ^ n.log2 * 2 ^ (52 - n.log2) := Nat.pow_add 2 _ _
      _ ≤ n * 2 ^ (52 - n.log2) := Nat.mul_le_mul_right _ (Nat.log2_self_le (by omega))

theorem full_mul {b c bound : Int} {f g : UnpackedFloat} (hlow : -1074 ≤ b + c)
    (hbound : bound ≤ b + c + 52) (hf : Full b f) (hg : Full c g) :
    Full bound (UnpackedFloat.mul .binary64 f g) := by
  rcases f with (_ | _) | _ | _ | ⟨_ | _, m, e, hm⟩
  all_goals first | exact hf.elim | skip
  all_goals rcases g with (_ | _) | _ | _ | ⟨_ | _, n, e', hn⟩
  all_goals first | exact hg.elim | trivial | skip
  obtain ⟨⟨hfull, _⟩, he⟩ := hf
  obtain ⟨⟨hfull', _⟩, he'⟩ := hg
  have hproduct : 2 ^ (52 + 52) ≤ m * n := by
    rw [Nat.pow_add]
    exact Nat.mul_le_mul hfull hfull'
  exact full_roundWithAccuracy hproduct (by omega) (by omega)

theorem full_unpack_packComponents {bound : Int} {x : BitVec 11} (m : BitVec 52)
    (hzero : 0 < x.toNat) (hx : x.toNat + 1 < 2 ^ 11) (hbound : bound ≤ (x.toNat : Int) - 1075) :
    Full bound (UnpackedFloat.unpack .binary64 (packComponents .binary64 .positive x m)) := by
  have hfinite : x ≠ -1#11 := by
    rintro rfl
    exact absurd hx (by decide)
  have hnormal : x ≠ 0#11 := by
    rintro rfl
    exact absurd hzero (by decide)
  have hbias : (Format.binary64.exponentBias : Int) = 1023 := rfl
  rw [UnpackedFloat.unpack]
  simp only [unpackMantissa_packComponents, unpackExponent_packComponents,
    unpackSign_packComponents, hbias]
  rw [if_neg hfinite, if_neg hnormal]
  refine ⟨⟨?_, (1#1 ++ m).isLt⟩, ?_⟩
  · rw [toNat_implicit]
    exact Nat.le_add_right _ _
  · push_cast
    omega

/-- Storing such a float keeps it so, or makes it infinite. -/
theorem full_unpack_pack {f : UnpackedFloat} {bound : Int} (hbound : -1074 ≤ bound)
    (h : Full bound f) : Full bound (Float.Model.pack f).unpack := by
  have hbias : (Format.binary64.exponentBias : Int) = 1023 := rfl
  rcases f with (_ | _) | _ | _ | ⟨_ | _, m, e, hm⟩
  all_goals first | exact h.elim | skip
  · trivial
  · obtain ⟨⟨hfull, hm53⟩, he⟩ := h
    have hlog : m.log2 = 52 :=
      Nat.le_antisymm (Nat.le_of_lt_succ ((Nat.log2_lt (by omega)).mpr hm53))
        ((Nat.le_log2 (by omega)).mpr hfull)
    change Full bound (UnpackedFloat.unpack .binary64 (UnpackedFloat.pack .binary64 _))
    rw [UnpackedFloat.pack]
    simp only [hbias, hlog]
    generalize hbiased : (e + 1023 + (52 : Nat)).toNat = biased
    split
    · trivial
    · rename_i hfits
      have hexponent : (BitVec.ofNat 11 biased).toNat = biased := Nat.mod_eq_of_lt (by omega)
      refine full_unpack_packComponents _ ?_ ?_ ?_
      all_goals rw [hexponent]
      all_goals omega

/-- Numbers of up to 53 bits are converted by way of a machine word, and greater ones at once. -/
theorem full_unpack_ofNat {n : Nat} (hn : 0 < n) : Full (-52) (Float.ofNat n).toModel.unpack := by
  by_cases hword : n < 2 ^ 53
  · have hinteger : Full (-52) n.toUInt64.toFloat.toModel.unpack := by
      have hsame : n.toUInt64.toNat = n := Nat.mod_eq_of_lt (Nat.lt_trans hword (by decide))
      refine full_unpack_pack (by decide) ?_
      rw [UnpackedFloat.ofUInt64, hsame]
      exact full_ofNat hn
    have hone : Full (-52) (Float.ofBits 0x3FF0000000000000).toModel.unpack :=
      ⟨by decide, by decide⟩
    have hproduct : Full (-52) (UnpackedFloat.mul .binary64 _ _) :=
      full_mul (by decide) (by decide) hinteger hone
    rw [ofNat_eq_mul hword]
    exact full_unpack_pack (by decide) hproduct
  · have hmantissa : 2 ^ (52 + 53) ≤ n <<< 53 := by
      rw [Nat.shiftLeft_eq, Nat.pow_add]
      exact Nat.mul_le_mul_right _ (by omega)
    rw [ofNat_eq_pack hword]
    generalize n <<< 53 = m at hmantissa
    have hrounded : Full (-52) (roundWithAccuracy .binary64 .positive m (-53) .exact) :=
      full_roundWithAccuracy hmantissa (by decide) (by decide)
    exact full_unpack_pack (by decide) hrounded

/-- The float of a positive integer is greater than zero. -/
theorem zero_lt_ofNat {n : Nat} (hn : 0 < n) : 0.0 < Float.ofNat n :=
  zero_lt_of_above (full_unpack_ofNat hn).above

/-- It is at least one. -/
theorem one_le_ofNat {n : Nat} (hn : 0 < n) : 1.0 ≤ Float.ofNat n := by
  have hfull := full_unpack_ofNat hn
  have hone : FloatOrder.place 1.0 = toLex (1, toLex (-52, 2 ^ 52)) := by decide +kernel
  obtain ⟨_, hnumber⟩ := FloatOrder.isNaN_eq_false_of_lt (zero_lt_ofNat hn)
  rw [FloatOrder.le_iff_place_le (by decide) hnumber, hone, FloatOrder.place]
  generalize (Float.ofNat n).toModel.unpack = f at hfull
  rcases f with (_ | _) | _ | _ | ⟨_ | _, m, e, _⟩
  all_goals first | exact hfull.elim | skip
  · simp [FloatOrder.placeOf, Prod.Lex.toLex_le_toLex]
  · obtain ⟨⟨hmantissa, _⟩, hexponent⟩ := hfull
    rw [FloatOrder.placeOf, Prod.Lex.toLex_le_toLex, Prod.Lex.toLex_le_toLex]
    refine .inr ⟨rfl, ?_⟩
    omega

/-- A stored float is above zero if its sign is positive, it is a number, and it is not zero. -/
theorem above_unpack {b : BitVec Format.binary64.numBits} (hsign : unpackSign b = 0#1)
    (hnumber : unpackExponent b = -1#11 → unpackMantissa b = 0#52)
    (hnonzero : unpackExponent b = 0#11 → unpackMantissa b ≠ 0#52) :
    Above (UnpackedFloat.unpack .binary64 b) := by
  rw [UnpackedFloat.unpack, hsign]
  dsimp only
  split
  · rename_i hend
    rw [if_pos (hnumber hend)]
    trivial
  · split
    · rename_i hsmall
      rw [dif_neg (hnonzero hsmall)]
      trivial
    · trivial

/-- The sign and the size that the bits of a float stand for put it above zero. -/
theorem zero_lt_of_bits {x : Float} (hsign : x.toBits.toNat < 2 ^ 63)
    (hnumber : x.toBits.toNat / 2 ^ 52 % 2 ^ 11 = 2047 → x.toBits.toNat % 2 ^ 52 = 0)
    (hnonzero : x.toBits.toNat / 2 ^ 52 % 2 ^ 11 = 0 → x.toBits.toNat % 2 ^ 52 ≠ 0) : 0.0 < x := by
  refine zero_lt_of_above (@above_unpack x.toBits.toBitVec ?_ ?_ ?_)
  · apply BitVec.eq_of_toNat_eq
    rw [toNat_unpackSign]
    change x.toBits.toNat / 2 ^ 63 % 2 = 0
    omega
  · intro hend
    apply BitVec.eq_of_toNat_eq
    rw [toNat_unpackMantissa]
    refine hnumber ?_
    have hexponent := congrArg BitVec.toNat hend
    rwa [toNat_unpackExponent] at hexponent
  · intro hsmall hzero
    refine hnonzero ?_ ?_
    · have hexponent := congrArg BitVec.toNat hsmall
      rwa [toNat_unpackExponent] at hexponent
    · have hmantissa := congrArg BitVec.toNat hzero
      rwa [toNat_unpackMantissa] at hmantissa

end FloatRange

/-- A dyadic that comes after zero has no sign, and its mantissa is not zero. -/
theorem Dyadic.of_compareInt_zero {d : Dyadic} (h : d.compareInt 0 = .gt) :
    d.negative = false ∧ d.mantissa ≠ 0 := by
  rw [compareInt, magnitude] at h
  dsimp only at h
  rw [Int.zero_mul, compare_gt_iff_gt] at h
  cases hsign : d.negative with
  | true =>
    rw [hsign, if_pos rfl] at h
    omega
  | false =>
    refine ⟨rfl, fun hzero => ?_⟩
    rw [hsign, hzero, Nat.zero_mul] at h
    exact absurd h (by decide)

/-- What comes after zero in the exact order of numbers is greater than zero as a float. -/
theorem Number.zero_lt_of_compareMixed? {x : Float} (h : compareMixed? 0 x = some .lt) : 0.0 < x := by
  have hbits := x.toBits.toNat_lt
  rw [compareMixed?, FloatKind.of, FloatKind.ofBits] at h
  simp only [Nat.pow_eq] at h
  split_ifs at h with hend hfraction hsmall
  · have hsign : decide (2 ^ 63 ≤ x.toBits.toNat) = false := by
      cases hnegative : decide (2 ^ 63 ≤ x.toBits.toNat) with
      | true =>
        rw [hnegative] at h
        cases h
      | false => rfl
    have hpositive := of_decide_eq_false hsign
    exact FloatRange.zero_lt_of_bits (by omega) (fun _ => hfraction) (by omega)
  · obtain ⟨hsign, hmantissa⟩ := Dyadic.of_compareInt_zero (Ordering.swap_eq_lt.mp (Option.some.inj h))
    have hpositive := of_decide_eq_false hsign
    exact FloatRange.zero_lt_of_bits (by omega) (fun h => absurd h hend) (fun _ => hmantissa)
  · obtain ⟨hsign, -⟩ := Dyadic.of_compareInt_zero (Ordering.swap_eq_lt.mp (Option.some.inj h))
    have hpositive := of_decide_eq_false hsign
    exact FloatRange.zero_lt_of_bits (by omega) (fun h => absurd h hend) (fun h => absurd h hsmall)

end NetAtlas
