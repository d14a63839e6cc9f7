import NetAtlas.Proofs.FloatSign
import NetAtlas.Proofs.FloatStorage

/-!
Arithmetic on integers that have room in a mantissa. Such an integer is a float with a full mantissa,
and sums, products and quotients by one are computed without rounding.
-/

namespace NetAtlas

namespace FloatExact

open Float.Model Float.Model.UnpackedFloat FloatRange FloatStorage

/-- The integer of a sign and a size, as a float with a full mantissa. -/
def whole (s : Sign) (n : Nat) : UnpackedFloat :=
  if h : 0 < n then
    .finite s (n * 2 ^ (52 - n.log2)) (n.log2 - 52) (Nat.mul_pos h (Nat.two_pow_pos _))
  else .zero s

theorem whole_of_pos {n : Nat} (h : 0 < n) (s : Sign) :
    whole s n =
      .finite s (n * 2 ^ (52 - n.log2)) (n.log2 - 52) (Nat.mul_pos h (Nat.two_pow_pos _)) :=
  dif_pos h

theorem log2_lt_of_lt {n : Nat} (hn : 0 < n) (hfits : n < 2 ^ 53) : n.log2 < 53 :=
  (Nat.log2_lt (Nat.ne_of_gt hn)).mpr hfits

theorem log2_mul_two_pow {n : Nat} (hn : 0 < n) (k : Nat) : (n * 2 ^ k).log2 = n.log2 + k := by
  rw [Nat.log2_eq_iff (Nat.ne_of_gt (Nat.mul_pos hn (Nat.two_pow_pos k)))]
  refine ⟨?_, ?_⟩
  · rw [Nat.pow_add]
    exact Nat.mul_le_mul_right _ (Nat.log2_self_le (Nat.ne_of_gt hn))
  · rw [Nat.add_right_comm, Nat.pow_add]
    exact Nat.mul_lt_mul_of_pos_right Nat.lt_log2_self (Nat.two_pow_pos k)

theorem log2_full {n : Nat} (hn : 0 < n) (hfits : n < 2 ^ 53) : (n * 2 ^ (52 - n.log2)).log2 = 52 := by
  have hlog := log2_lt_of_lt hn hfits
  rw [log2_mul_two_pow hn]
  omega

theorem repeat_shiftRightOne_mul_two_pow (m k : Nat) :
    k.repeat ExtendedMantissa.shiftRightOne ⟨m * 2 ^ k, false, false⟩ = ⟨m, false, false⟩ := by
  induction k generalizing m with
  | zero => simp [Nat.repeat]
  | succ k ih =>
    rw [Nat.repeat, Nat.pow_succ', ← Nat.mul_assoc, ih (m * 2)]
    simp [ExtendedMantissa.shiftRightOne]

/-- Zeros at the end of a mantissa are shifted out without loss. -/
theorem shiftToTargetExponent_mul_two_pow {m k : Nat} {e : Int}
    (hk : (Format.binary64.targetExponent (totalExponent (m * 2 ^ k) e) - e).toNat = k) :
    shiftToTargetExponent .binary64 (m * 2 ^ k) e .exact = (⟨m, false, false⟩, e + k) := by
  rw [shiftToTargetExponent, shiftToExponent, hk]
  exact congrArg (·, e + (k : Int)) (repeat_shiftRightOne_mul_two_pow m k)

theorem roundWithAccuracy_whole {n j : Nat} (hn : 0 < n) (hfits : n < 2 ^ 53) (hj : 52 ≤ n.log2 + j)
    (s : Sign) : roundWithAccuracy .binary64 s (n * 2 ^ j) (-j) .exact = whole s n := by
  have hlog := log2_lt_of_lt hn hfits
  obtain ⟨k, hk⟩ : ∃ k, j = 52 - n.log2 + k := ⟨j - (52 - n.log2), by omega⟩
  have hfull : 0 < n * 2 ^ (52 - n.log2) := Nat.mul_pos hn (Nat.two_pow_pos _)
  have hfullLog := log2_full hn hfits
  have hfirst : shiftToTargetExponent .binary64 (n * 2 ^ j) (-j) .exact =
      (⟨n * 2 ^ (52 - n.log2), false, false⟩, -(j : Int) + (k : Int)) := by
    rw [hk, Nat.pow_add, ← Nat.mul_assoc]
    refine shiftToTargetExponent_mul_two_pow ?_
    rw [targetExponent_eq, log2_mul_two_pow hfull, hfullLog]
    push_cast
    omega
  have hsecond :
      shiftToTargetExponent .binary64 (n * 2 ^ (52 - n.log2)) (-(j : Int) + (k : Int)) .exact =
        (⟨n * 2 ^ (52 - n.log2), false, false⟩, -(j : Int) + (k : Int)) := by
    have h := @shiftToTargetExponent_mul_two_pow (n * 2 ^ (52 - n.log2)) 0 (-(j : Int) + (k : Int))
      (by
        rw [Nat.pow_zero, Nat.mul_one, targetExponent_eq, hfullLog]
        omega)
    simpa using h
  rw [roundWithAccuracy, hfirst]
  simp only [ExtendedMantissa.roundedMantissa, ExtendedMantissa.accuracy,
    Accuracy.roundToNearestEven, hsecond]
  rw [dif_neg (Nat.ne_of_gt hfull), whole_of_pos hn]
  congr 1
  omega

theorem mul_whole {a b : Nat} (ha : a < 2 ^ 53) (hb : b < 2 ^ 53) (hfits : a * b < 2 ^ 53)
    (s t : Sign) : UnpackedFloat.mul .binary64 (whole s a) (whole t b) = whole (s * t) (a * b) := by
  rcases Nat.eq_zero_or_pos a with rfl | hapos
  · rcases Nat.eq_zero_or_pos b with rfl | hbpos
    · rfl
    · rw [whole_of_pos hbpos, Nat.zero_mul]
      rfl
  · rcases Nat.eq_zero_or_pos b with rfl | hbpos
    · rw [whole_of_pos hapos, Nat.mul_zero]
      rfl
    · have halog := log2_lt_of_lt hapos ha
      have hblog := log2_lt_of_lt hbpos hb
      have hlog : a.log2 + b.log2 ≤ (a * b).log2 := by
        rw [Nat.le_log2 (Nat.ne_of_gt (Nat.mul_pos hapos hbpos)), Nat.pow_add]
        exact Nat.mul_le_mul (Nat.log2_self_le (Nat.ne_of_gt hapos))
          (Nat.log2_self_le (Nat.ne_of_gt hbpos))
      have hproduct : a * 2 ^ (52 - a.log2) * (b * 2 ^ (52 - b.log2)) =
          a * b * 2 ^ (52 - a.log2 + (52 - b.log2)) := by
        rw [Nat.pow_add]
        ring
      have hexponent : (a.log2 - 52 + (b.log2 - 52) : Int) =
          -((52 - a.log2 + (52 - b.log2) : Nat) : Int) := by
        omega
      rw [whole_of_pos hapos, whole_of_pos hbpos]
      simp only [UnpackedFloat.mul]
      rw [hproduct, hexponent]
      exact roundWithAccuracy_whole (Nat.mul_pos hapos hbpos) hfits (by omega) _

theorem round_whole {n j : Nat} (hn : 0 < n) (hfits : n < 2 ^ 53) (s : Sign) :
    UnpackedFloat.round .binary64 s (n * 2 ^ j) (-j) = whole s n := by
  have hlog := log2_lt_of_lt hn hfits
  have htarget : Format.binary64.targetExponent (totalExponent (n * 2 ^ j) (-j)) = n.log2 - 52 := by
    rw [targetExponent_eq, log2_mul_two_pow hn]
    push_cast
    omega
  have hshift : (-(j : Int) - (n.log2 - 52)).toNat = 52 - n.log2 - j := by omega
  have hexponent :
      -(j : Int) - (52 - n.log2 - j : Nat) = -((j + (52 - n.log2 - j) : Nat) : Int) := by
    omega
  rw [UnpackedFloat.round]
  simp only [htarget, decreaseExponent, hshift, hexponent]
  rw [Nat.shiftLeft_eq, Nat.mul_assoc, ← Nat.pow_add]
  exact roundWithAccuracy_whole hn hfits (by omega) s

theorem ofNat_whole {n : Nat} (hfits : n < 2 ^ 53) :
    UnpackedFloat.ofNat .binary64 n = whole .positive n := by
  rcases Nat.eq_zero_or_pos n with rfl | hn
  · rfl
  · have h := @round_whole n 0 hn hfits .positive
    rw [Nat.pow_zero, Nat.mul_one] at h
    rw [UnpackedFloat.ofNat, UnpackedFloat.ofInt, UnpackedFloat.normalize,
      compare_gt_iff_gt.mpr (Int.natCast_pos.mpr hn)]
    exact h

theorem add_whole {a b : Nat} (hfits : a + b < 2 ^ 53) :
    UnpackedFloat.add .binary64 (whole .positive a) (whole .positive b) =
      whole .positive (a + b) := by
  rcases Nat.eq_zero_or_pos a with rfl | hapos
  · rcases Nat.eq_zero_or_pos b with rfl | hbpos
    · rfl
    · rw [whole_of_pos hbpos, Nat.zero_add, whole_of_pos hbpos]
      rfl
  · rcases Nat.eq_zero_or_pos b with rfl | hbpos
    · rw [whole_of_pos hapos, Nat.add_zero, whole_of_pos hapos]
      rfl
    · have halog := log2_lt_of_lt hapos (by omega)
      have hblog := log2_lt_of_lt hbpos (by omega)
      -- Both mantissas are brought to the smaller exponent, `-j`.
      obtain ⟨j, hj⟩ : ∃ j, j = 52 - min a.log2 b.log2 := ⟨_, rfl⟩
      have hmin : min (a.log2 - 52 : Int) (b.log2 - 52) = -(j : Int) := by omega
      have hshift {n : Nat} (hlow : 52 - j ≤ n.log2) (hhigh : n.log2 < 53) :
          (n * 2 ^ (52 - n.log2)) <<< ((n.log2 : Int) - 52 - -(j : Int)).toNat = n * 2 ^ j := by
        rw [Nat.shiftLeft_eq, Nat.mul_assoc, ← Nat.pow_add]
        congr 2
        omega
      have hsum : Sign.positive.apply ((a * 2 ^ j : Nat) : Int) +
          Sign.positive.apply ((b * 2 ^ j : Nat) : Int) = (((a + b) * 2 ^ j : Nat) : Int) := by
        simp only [Sign.apply]
        push_cast
        ring
      have hpos : 0 < (a + b) * 2 ^ j := Nat.mul_pos (by omega) (Nat.two_pow_pos j)
      rw [whole_of_pos hapos, whole_of_pos hbpos]
      simp only [UnpackedFloat.add, decreaseExponent, hmin]
      rw [hshift (by omega) halog, hshift (by omega) hblog, hsum, UnpackedFloat.normalize,
        compare_gt_iff_gt.mpr (Int.natCast_pos.mpr hpos)]
      exact round_whole (by omega) hfits .positive

theorem div_whole_one {n : Nat} (hfits : n < 2 ^ 53) (s : Sign) :
    UnpackedFloat.div .binary64 (whole s n) (whole .positive 1) = whole s n := by
  rcases Nat.eq_zero_or_pos n with rfl | hn
  · cases s <;> rfl
  · have hlog := log2_lt_of_lt hn hfits
    have hone : (1 * 2 ^ (52 - Nat.log2 1) : Nat) = 2 ^ 52 := by decide
    have honeLog : ((Nat.log2 1 : Nat) : Int) - 52 = -52 := by decide
    have hquotient :
        divCore .binary64 (n * 2 ^ (52 - n.log2)) (n.log2 - 52) (2 ^ 52) (-52) =
          (n * 2 ^ (53 - n.log2), -((53 - n.log2 : Nat) : Int), .exact) := by
      have htarget : min ((n.log2 : Int) - 52 - -52)
          (Format.binary64.targetExponent (totalExponent (n * 2 ^ (52 - n.log2)) (n.log2 - 52) -
            totalExponent (2 ^ 52) (-52))) = -((53 - n.log2 : Nat) : Int) := by
        have hbits : (Format.binary64.mantissaBits : Int) = 53 := rfl
        have hlow : Format.binary64.minExponent = -1074 := rfl
        rw [Format.targetExponent, totalExponent, totalExponent, log2_mul_two_pow hn,
          Nat.log2_two_pow, hbits, hlow]
        push_cast
        omega
      have hshift :
          ((n.log2 : Int) - 52 - -52 - -((53 - n.log2 : Nat) : Int)).toNat = 53 := by omega
      have hmantissa : (n * 2 ^ (52 - n.log2)) <<< 53 = n * 2 ^ (53 - n.log2) * 2 ^ 52 := by
        rw [Nat.shiftLeft_eq, Nat.mul_assoc, Nat.mul_assoc, ← Nat.pow_add, ← Nat.pow_add]
        congr 2
        omega
      rw [divCore]
      simp only [htarget, hshift, hmantissa]
      rw [Nat.mul_div_cancel _ (Nat.two_pow_pos 52), Nat.mul_mod_left]
      rfl
    rw [whole_of_pos hn, whole_of_pos Nat.one_pos]
    simp only [UnpackedFloat.div, hone, honeLog, hquotient]
    rw [roundWithAccuracy_whole hn hfits (by omega), whole_of_pos hn]
    cases s <;> rfl

theorem canonical_whole {n : Nat} (hfits : n < 2 ^ 53) (s : Sign) : Canonical (whole s n) := by
  rcases Nat.eq_zero_or_pos n with rfl | hn
  · trivial
  · have hfull := log2_full hn hfits
    have hlog := log2_lt_of_lt hn hfits
    have hpos : n * 2 ^ (52 - n.log2) ≠ 0 := Nat.ne_of_gt (Nat.mul_pos hn (Nat.two_pow_pos _))
    rw [whole_of_pos hn]
    exact ⟨(Nat.log2_lt hpos).mp (by omega), by omega, .inl ((Nat.le_log2 hpos).mp hfull.ge)⟩

theorem held_whole {n : Nat} (hfits : n < 2 ^ 53) (s : Sign) : held (whole s n) = whole s n := by
  rcases Nat.eq_zero_or_pos n with rfl | hn
  · rfl
  · have hlog := log2_lt_of_lt hn hfits
    rw [whole_of_pos hn]
    exact if_neg (by omega)

theorem unpack_pack_whole {n : Nat} (hfits : n < 2 ^ 53) (s : Sign) :
    (Float.Model.pack (whole s n)).unpack = whole s n := by
  rw [unpack_pack (canonical_whole hfits s), held_whole hfits]

/-- Such an integer in storage. -/
def stored (s : Sign) (n : Nat) : Float := .ofModel (.pack (whole s n))

section Stored

variable {a b n : Nat}

theorem toFloat_eq_stored (hfits : n < 2 ^ 53) : n.toUInt64.toFloat = stored .positive n := by
  have hword : n.toUInt64.toNat = n := Nat.mod_eq_of_lt (Nat.lt_trans hfits (by decide))
  rw [stored, ← ofNat_whole hfits]
  change Float.ofModel (.pack (UnpackedFloat.ofNat .binary64 n.toUInt64.toNat)) = _
  rw [hword]

theorem ofNat_eq_stored (hfits : n < 2 ^ 53) : Float.ofNat n = stored .positive n := by
  have hone : (Float.ofBits 0x3FF0000000000000).toModel.unpack = whole .positive 1 := rfl
  rw [ofNat_eq_mul hfits, toFloat_eq_stored hfits]
  change Float.ofModel (.pack (UnpackedFloat.mul .binary64
    (Float.Model.pack (whole .positive n)).unpack
    (Float.ofBits 0x3FF0000000000000).toModel.unpack)) = _
  rw [unpack_pack_whole hfits, hone, mul_whole hfits (by decide) (by omega), Nat.mul_one]
  rfl

theorem ofNat_mul_ofNat (ha : a < 2 ^ 53) (hb : b < 2 ^ 53) (hfits : a * b < 2 ^ 53) :
    Float.ofNat a * Float.ofNat b = Float.ofNat (a * b) := by
  rw [ofNat_eq_stored ha, ofNat_eq_stored hb, ofNat_eq_stored hfits]
  change Float.ofModel (.pack (UnpackedFloat.mul .binary64
    (Float.Model.pack (whole .positive a)).unpack (Float.Model.pack (whole .positive b)).unpack)) = _
  rw [unpack_pack_whole ha, unpack_pack_whole hb, mul_whole ha hb hfits]
  rfl

theorem ofNat_add_ofNat (hfits : a + b < 2 ^ 53) :
    Float.ofNat a + Float.ofNat b = Float.ofNat (a + b) := by
  have ha : a < 2 ^ 53 := by omega
  have hb : b < 2 ^ 53 := by omega
  rw [ofNat_eq_stored ha, ofNat_eq_stored hb, ofNat_eq_stored hfits]
  change Float.ofModel (.pack (UnpackedFloat.add .binary64
    (Float.Model.pack (whole .positive a)).unpack (Float.Model.pack (whole .positive b)).unpack)) = _
  rw [unpack_pack_whole ha, unpack_pack_whole hb, add_whole hfits]
  rfl

theorem neg_ofNat (hfits : n < 2 ^ 53) : -Float.ofNat n = stored .negative n := by
  have hneg : UnpackedFloat.neg (whole .positive n) = whole .negative n := by
    rw [whole, whole]
    split <;> rfl
  rw [ofNat_eq_stored hfits]
  change Float.ofModel (.pack (UnpackedFloat.neg (Float.Model.pack (whole .positive n)).unpack)) = _
  rw [unpack_pack_whole hfits, hneg]
  rfl

theorem stored_div_one (hfits : n < 2 ^ 53) (s : Sign) : stored s n / 1.0 = stored s n := by
  have hone : (1.0 : Float) = stored .positive 1 := by
    rw [← Float.toBits_inj]
    decide +kernel
  rw [hone]
  change Float.ofModel (.pack (UnpackedFloat.div .binary64
    (Float.Model.pack (whole s n)).unpack (Float.Model.pack (whole .positive 1)).unpack)) = _
  rw [unpack_pack_whole hfits, unpack_pack_whole (by decide), div_whole_one hfits]
  rfl

theorem isFinite_stored (hfits : n < 2 ^ 53) (s : Sign) : (stored s n).isFinite = true := by
  change (Float.Model.pack (whole s n)).unpack.isFinite = true
  rw [unpack_pack_whole hfits, whole]
  split <;> rfl

end Stored

theorem isNaN_of_isFinite {x : Float} (h : x.isFinite = true) : x.isNaN = false := by
  change x.toModel.unpack.isNaN = false
  change x.toModel.unpack.isFinite = true at h
  cases hunpack : x.toModel.unpack with
  | notANumber =>
    rw [hunpack] at h
    cases h
  | _ => rfl

end FloatExact

end NetAtlas
