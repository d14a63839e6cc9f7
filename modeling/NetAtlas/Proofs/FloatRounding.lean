import NetAtlas.Proofs.Decimal.Nearest
import NetAtlas.Proofs.FloatExact

/-!
Correct rounding of positive numbers. A quotient of floats is the number of steps on a grid, to the
nearest and with ties to even, where the grid is as fine as the size of the quotient allows. So
rounding keeps the order of numbers, also when the result goes into storage.
-/

namespace NetAtlas.FloatRounding

open Float.Model Float.Model.UnpackedFloat FloatRange FloatOrder FloatStorage Decimal

/-- The mantissa with its two bits stands for a number: the integer part, whether what remains
    reaches a half, and whether it is neither nothing nor just a half. -/
structure Represents (em : ExtendedMantissa) (u : ℚ) : Prop where
  nonneg : 0 ≤ u
  mantissa : em.mantissa = ⌊u⌋₊
  roundBit : em.roundBit = true ↔ 1 / 2 ≤ u - ⌊u⌋₊
  stickyBit : em.stickyBit = true ↔ u - ⌊u⌋₊ ≠ 0 ∧ u - ⌊u⌋₊ ≠ 1 / 2

theorem represents_fraction (num : ℕ) {den : ℕ} (hden : 0 < den) :
    Represents (.ofMantissaAndAccuracy (num / den) (accuracyOfFraction (num % den) den))
      (num / den) := by
  have hhalf : (1 : ℚ) / 2 ≤ (num % den : ℕ) / den ↔ ¬ 2 * (num % den) < den := by
    rw [← div_lt_half_iff _ hden, not_lt]
  have hnothing : ((num % den : ℕ) : ℚ) / den = 0 ↔ num % den = 0 := by
    rw [div_eq_zero_iff, Nat.cast_eq_zero, Nat.cast_eq_zero, or_iff_left hden.ne']
  have hmiddle : ((num % den : ℕ) : ℚ) / den = 1 / 2 ↔ 2 * (num % den) = den := by
    rw [eq_iff_le_not_lt, ← not_lt, half_lt_div_iff _ hden, div_lt_half_iff _ hden]
    omega
  unfold accuracyOfFraction
  by_cases hexact : num % den = 0
  · rw [if_pos hexact]
    refine ⟨by positivity, (Nat.floor_div_eq_div num den).symm, ?_, ?_⟩
    · rw [div_sub_floor _ hden, hhalf]
      simp [ExtendedMantissa.ofMantissaAndAccuracy, hexact, hden]
    · rw [div_sub_floor _ hden]
      simp [ExtendedMantissa.ofMantissaAndAccuracy, hexact]
  · rw [if_neg hexact]
    rcases lt_trichotomy (2 * (num % den)) den with hless | heq | hmore
    · rw [compare_lt_iff_lt.mpr hless]
      refine ⟨by positivity, (Nat.floor_div_eq_div num den).symm, ?_, ?_⟩
      · rw [div_sub_floor _ hden, hhalf]
        simp [ExtendedMantissa.ofMantissaAndAccuracy, hless]
      · rw [div_sub_floor _ hden, ne_eq, ne_eq, hnothing, hmiddle]
        simp [ExtendedMantissa.ofMantissaAndAccuracy, hexact, hless.ne]
    · rw [compare_eq_iff_eq.mpr heq]
      refine ⟨by positivity, (Nat.floor_div_eq_div num den).symm, ?_, ?_⟩
      · rw [div_sub_floor _ hden, hhalf]
        simp [ExtendedMantissa.ofMantissaAndAccuracy, heq]
      · rw [div_sub_floor _ hden, ne_eq, ne_eq, hnothing, hmiddle]
        simp [ExtendedMantissa.ofMantissaAndAccuracy, heq]
    · rw [compare_gt_iff_gt.mpr hmore]
      refine ⟨by positivity, (Nat.floor_div_eq_div num den).symm, ?_, ?_⟩
      · rw [div_sub_floor _ hden, hhalf]
        simp [ExtendedMantissa.ofMantissaAndAccuracy, hmore.le]
      · rw [div_sub_floor _ hden, ne_eq, ne_eq, hnothing, hmiddle]
        simp [ExtendedMantissa.ofMantissaAndAccuracy, hexact, hmore.ne']

theorem Represents.shiftRightOne {em : ExtendedMantissa} {u : ℚ} (h : Represents em u) :
    Represents em.shiftRightOne (u / 2) := by
  have hfloor : ⌊u / 2⌋₊ = ⌊u⌋₊ / 2 := Nat.floor_div_ofNat u 2
  have hparity : (⌊u⌋₊ : ℚ) = 2 * (⌊u⌋₊ / 2 : ℕ) + (⌊u⌋₊ % 2 : ℕ) := by
    exact_mod_cast (Nat.div_add_mod ⌊u⌋₊ 2).symm
  have hlow := Nat.floor_le h.nonneg
  have hhigh := Nat.lt_floor_add_one u
  have hrest : (em.roundBit || em.stickyBit) = true ↔ u - ⌊u⌋₊ ≠ 0 := by
    rw [Bool.or_eq_true, h.roundBit, h.stickyBit]
    constructor
    · rintro (hhalf | ⟨hsome, -⟩)
      · linarith
      · exact hsome
    · intro hsome
      by_cases hhalf : 1 / 2 ≤ u - ⌊u⌋₊
      · exact .inl hhalf
      · exact .inr ⟨hsome, fun heq => hhalf heq.ge⟩
  have hbit : ((⌊u⌋₊ % 2 : ℕ) : ℚ) = 0 ∧ ⌊u⌋₊ % 2 = 0 ∨ ((⌊u⌋₊ % 2 : ℕ) : ℚ) = 1 ∧ ⌊u⌋₊ % 2 = 1 := by
    rcases Nat.mod_two_eq_zero_or_one ⌊u⌋₊ with hzero | hone
    · exact .inl ⟨by rw [hzero, Nat.cast_zero], hzero⟩
    · exact .inr ⟨by rw [hone, Nat.cast_one], hone⟩
  have hhalved : u / 2 - ⌊u / 2⌋₊ = ((⌊u⌋₊ % 2 : ℕ) + (u - ⌊u⌋₊)) / 2 := by
    rw [hfloor]
    linarith
  refine ⟨by linarith [h.nonneg], by rw [ExtendedMantissa.shiftRightOne, h.mantissa, hfloor], ?_, ?_⟩
  · rw [hhalved, ExtendedMantissa.shiftRightOne, h.mantissa, bne_iff_ne]
    rcases hbit with ⟨hcast, hzero⟩ | ⟨hcast, hone⟩
    · rw [hcast, hzero]
      constructor
      · intro hne
        exact absurd rfl hne
      · intro hhalf
        linarith
    · rw [hcast, hone]
      constructor
      · intro _
        linarith
      · intro _
        exact one_ne_zero
  · rw [hhalved]
    change (em.roundBit || em.stickyBit) = true ↔ _
    rw [hrest]
    rcases hbit with ⟨hcast, -⟩ | ⟨hcast, -⟩
    · rw [hcast]
      constructor
      · intro hsome
        exact ⟨fun hzero => hsome (by linarith), fun hhalf => by linarith⟩
      · rintro ⟨hsome, -⟩ hzero
        exact hsome (by linarith)
    · rw [hcast]
      constructor
      · intro hsome
        exact ⟨fun hzero => by linarith, fun hhalf => hsome (by linarith)⟩
      · rintro ⟨-, hsome⟩ hzero
        exact hsome (by linarith)

theorem Represents.repeat {em : ExtendedMantissa} {u : ℚ} (h : Represents em u) (k : ℕ) :
    Represents (k.repeat ExtendedMantissa.shiftRightOne em) (u / 2 ^ k) := by
  induction k with
  | zero => simpa [Nat.repeat] using h
  | succ k ih =>
    rw [Nat.repeat, pow_succ, ← div_div]
    exact ih.shiftRightOne

theorem Represents.roundedMantissa {em : ExtendedMantissa} {u : ℚ} (h : Represents em u) :
    em.roundedMantissa = toEven u := by
  obtain ⟨-, hmantissa, hround, hsticky⟩ := h
  obtain ⟨m, round, sticky⟩ := em
  obtain rfl : m = ⌊u⌋₊ := hmantissa
  cases round with
  | false =>
    have hless : u - ⌊u⌋₊ < 1 / 2 := not_le.mp fun hhalf => by cases hround.mpr hhalf
    rw [toEven, if_pos hless]
    cases sticky <;> rfl
  | true =>
    have hhalf : 1 / 2 ≤ u - ⌊u⌋₊ := hround.mp rfl
    rw [toEven, if_neg (not_lt.mpr hhalf)]
    cases sticky with
    | false =>
      have hmiddle : ¬ 1 / 2 < u - ⌊u⌋₊ := fun hmore => by
        cases hsticky.mpr ⟨by linarith, hmore.ne'⟩
      rw [if_neg hmiddle]
      rfl
    | true =>
      have hmore : 1 / 2 < u - ⌊u⌋₊ := hhalf.lt_of_ne' (hsticky.mp rfl).2
      rw [if_pos hmore]
      rfl

/-- The exponent of the grid that the size of a number calls for. -/
def grid (v : ℚ) : ℤ := max (Int.log 2 v - 52) (-1074)

/-- The number in steps of its grid. -/
def steps (v : ℚ) : ℕ := toEven (v / 2 ^ grid v)

/-- A number of steps on a grid as a float. One step more than the mantissa has room for makes the
    grid coarser. -/
def settle (s : Sign) (r : ℕ) (e : ℤ) : UnpackedFloat :=
  if h : r = 0 then .zero s
  else if r < 2 ^ 53 then .finite s r e (Nat.pos_of_ne_zero h)
  else .finite s (2 ^ 52) (e + 1) (Nat.two_pow_pos 52)

/-- The float nearest to a number. -/
def rounding (s : Sign) (v : ℚ) : UnpackedFloat := settle s (steps v) (grid v)

theorem lt_two_zpow_grid (v : ℚ) : v < 2 ^ (grid v + 53) := by
  have hlog : v < 2 ^ (Int.log 2 v + 1) := Int.lt_zpow_succ_log_self one_lt_two v
  refine hlog.trans_le (zpow_le_zpow_right₀ one_le_two ?_)
  rw [grid]
  omega

theorem steps_le (v : ℚ) : steps v ≤ 2 ^ 53 := by
  have hpos : (0 : ℚ) < 2 ^ grid v := zpow_pos two_pos _
  have hless : v / 2 ^ grid v < 2 ^ 53 := by
    rw [div_lt_iff₀ hpos, ← zpow_natCast, ← zpow_add₀ two_ne_zero, add_comm]
    exact lt_two_zpow_grid v
  calc steps v ≤ toEven ((2 ^ 53 : ℕ) : ℚ) := toEven_mono (by push_cast; exact hless.le)
    _ = 2 ^ 53 := toEven_natCast _

theorem log_eq_of_between {v : ℚ} {k : ℤ} (hlow : 2 ^ k ≤ v) (hhigh : v < 2 ^ (k + 1)) :
    Int.log 2 v = k := by
  have hv : 0 < v := (zpow_pos two_pos k).trans_le hlow
  have hle : k ≤ Int.log 2 v := (Int.zpow_le_iff_le_log one_lt_two hv).mp hlow
  have hlt : Int.log 2 v < k + 1 := (Int.lt_zpow_iff_log_lt one_lt_two hv).mp hhigh
  omega

/-- The integer part of a fraction tells the size of the fraction. -/
theorem log_fraction {num den : ℕ} (hden : 0 < den) (hpart : num / den ≠ 0) (e : ℤ) :
    Int.log 2 ((num : ℚ) / den * 2 ^ e) = (num / den).log2 + e := by
  have hpos : (0 : ℚ) < 2 ^ e := zpow_pos two_pos e
  have hlow : ((2 ^ (num / den).log2 : ℕ) : ℚ) ≤ num / den := by
    calc ((2 ^ (num / den).log2 : ℕ) : ℚ) ≤ (num / den : ℕ) :=
          Nat.cast_le.mpr (Nat.log2_self_le hpart)
      _ ≤ num / den := Nat.cast_div_le
  have hhigh : (num : ℚ) / den < (2 ^ ((num / den).log2 + 1) : ℕ) := by
    rw [div_lt_iff₀ (Nat.cast_pos.mpr hden)]
    have hless := (Nat.div_lt_iff_lt_mul hden).mp (Nat.lt_log2_self (n := num / den))
    exact_mod_cast hless
  apply log_eq_of_between
  · rw [zpow_add₀ two_ne_zero, zpow_natCast]
    push_cast at hlow
    exact mul_le_mul_of_nonneg_right hlow hpos.le
  · rw [add_right_comm, zpow_add₀ two_ne_zero]
    push_cast at hhigh
    exact_mod_cast mul_lt_mul_of_pos_right hhigh hpos

theorem shiftToTargetExponent_of_lt {m : ℕ} (hm : m < 2 ^ 53) {e : ℤ} (he : -1074 ≤ e) :
    shiftToTargetExponent .binary64 m e .exact = (⟨m, false, false⟩, e) := by
  have hlog : m.log2 ≤ 52 := by
    rcases Nat.eq_zero_or_pos m with rfl | hpos
    · rw [Nat.log2_zero]
      exact Nat.zero_le 52
    · exact Nat.le_of_lt_succ ((Nat.log2_lt hpos.ne').mpr hm)
  have hshift := @FloatExact.shiftToTargetExponent_mul_two_pow m 0 e (by
    rw [Nat.pow_zero, Nat.mul_one, targetExponent_eq]
    omega)
  simpa using hshift

theorem shiftToTargetExponent_two_pow {e : ℤ} (he : -1074 ≤ e) :
    shiftToTargetExponent .binary64 (2 ^ 53) e .exact = (⟨2 ^ 52, false, false⟩, e + 1) := by
  have hshift := @FloatExact.shiftToTargetExponent_mul_two_pow (2 ^ 52) 1 e (by
    rw [← Nat.pow_add, targetExponent_eq, Nat.log2_two_pow]
    push_cast
    omega)
  simpa using hshift

/-- After the first shift and rounding, a second shift does no more than to settle a carry. -/
theorem roundWithAccuracy_of_shift {m r : ℕ} {e g : ℤ} {a : Accuracy} {em : ExtendedMantissa}
    (hshift : shiftToTargetExponent .binary64 m e a = (em, g)) (hrounded : em.roundedMantissa = r)
    (hr : r ≤ 2 ^ 53) (hg : -1074 ≤ g) (s : Sign) :
    roundWithAccuracy .binary64 s m e a = settle s r g := by
  subst hrounded
  rw [roundWithAccuracy, hshift]
  rcases hr.lt_or_eq with hless | heq
  · simp only [shiftToTargetExponent_of_lt hless hg]
    rw [settle]
    simp only [if_pos hless]
  · simp only [heq, shiftToTargetExponent_two_pow hg]
    rfl

/-- What is computed of the integer part and of what remains is the nearest float, as long as the
    integer part is not given on a coarser grid. -/
theorem roundWithAccuracy_eq (s : Sign) {num den : ℕ} (hnum : 0 < num) (hden : 0 < den) {e : ℤ}
    (hgrid : e ≤ grid (num / den * 2 ^ e)) :
    roundWithAccuracy .binary64 s (num / den) e (accuracyOfFraction (num % den) den) =
      rounding s (num / den * 2 ^ e) := by
  generalize hv : (num : ℚ) / den * 2 ^ e = v at hgrid
  generalize hk : (Format.binary64.targetExponent (totalExponent (num / den) e) - e).toNat = k
  have hexponent : e + k = grid v := by
    rw [targetExponent_eq] at hk
    by_cases hpart : num / den = 0
    · -- The fraction is less than one, so only the finest grid is as coarse as its exponent.
      have hless : v < 2 ^ e := by
        have hbelow : (num : ℚ) / den < 1 := by
          rw [div_lt_one (Nat.cast_pos.mpr hden)]
          exact_mod_cast (Nat.div_eq_zero_iff_lt hden).mp hpart
        rw [← hv]
        exact mul_lt_of_lt_one_left (zpow_pos two_pos e) hbelow
      have hv' : 0 < v := by
        rw [← hv]
        positivity
      have hlog : Int.log 2 v < e := (Int.lt_zpow_iff_log_lt one_lt_two hv').mp hless
      rw [hpart, Nat.log2_zero] at hk
      rw [grid] at hgrid ⊢
      omega
    · have hlog := log_fraction hden hpart e
      rw [hv] at hlog
      rw [grid, hlog] at hgrid ⊢
      omega
  have hfirst : shiftToTargetExponent .binary64 (num / den) e (accuracyOfFraction (num % den) den) =
      (k.repeat ExtendedMantissa.shiftRightOne
        (.ofMantissaAndAccuracy (num / den) (accuracyOfFraction (num % den) den)), grid v) := by
    rw [shiftToTargetExponent, shiftToExponent, hk, hexponent]
    rfl
  have hrounded : (k.repeat ExtendedMantissa.shiftRightOne
      (.ofMantissaAndAccuracy (num / den) (accuracyOfFraction (num % den) den))).roundedMantissa =
        steps v := by
    rw [((represents_fraction num hden).repeat k).roundedMantissa, steps, ← hexponent, ← hv]
    congr 1
    rw [zpow_add₀ two_ne_zero, zpow_natCast]
    field_simp
  exact roundWithAccuracy_of_shift hfirst hrounded (steps_le v) (le_max_right _ _) s

theorem le_log_quotient {m n : ℕ} (hm : 0 < m) (hn : 0 < n) (e f : ℤ) :
    m.log2 + e - (n.log2 + 1 + f) ≤ Int.log 2 ((m : ℚ) * 2 ^ e / (n * 2 ^ f)) := by
  have hmantissa : ((2 ^ m.log2 : ℕ) : ℚ) ≤ m := Nat.cast_le.mpr (Nat.log2_self_le hm.ne')
  have hdivisor : (n : ℚ) ≤ (2 ^ (n.log2 + 1) : ℕ) := Nat.cast_le.mpr Nat.lt_log2_self.le
  push_cast at hmantissa hdivisor
  rw [← Int.zpow_le_iff_le_log one_lt_two (by positivity), le_div_iff₀ (by positivity)]
  calc (2 : ℚ) ^ (m.log2 + e - (n.log2 + 1 + f)) * (n * 2 ^ f)
      ≤ 2 ^ (m.log2 + e - (n.log2 + 1 + f)) * (2 ^ (n.log2 + 1) * 2 ^ f) := by gcongr
    _ = 2 ^ m.log2 * 2 ^ e := by
        rw [← zpow_natCast, ← zpow_natCast, ← zpow_add₀ two_ne_zero, ← zpow_add₀ two_ne_zero,
          ← zpow_add₀ two_ne_zero]
        congr 1
        push_cast
        ring
    _ ≤ m * 2 ^ e := by gcongr

/-- A quotient of floats is the float nearest to it. -/
theorem div_eq_rounding (s t : Sign) {m n : ℕ} {e f : ℤ} (hm : 0 < m) (hn : 0 < n) :
    UnpackedFloat.div .binary64 (.finite s m e hm) (.finite t n f hn) =
      rounding (s / t) (m * 2 ^ e / (n * 2 ^ f)) := by
  obtain ⟨target, htarget⟩ : ∃ target, target = min (e - f) (Format.binary64.targetExponent
      (totalExponent m e - totalExponent n f)) := ⟨_, rfl⟩
  obtain ⟨shift, hshift⟩ : ∃ shift, shift = (e - f - target).toNat := ⟨_, rfl⟩
  have hcore : divCore .binary64 m e n f =
      (m * 2 ^ shift / n, target, accuracyOfFraction (m * 2 ^ shift % n) n) := by
    rw [divCore, ← htarget, ← hshift, Nat.shiftLeft_eq]
  have hvalue : ((m * 2 ^ shift : ℕ) : ℚ) / n * 2 ^ target = m * 2 ^ e / (n * 2 ^ f) := by
    have hexponent : e = shift + target + f := by omega
    rw [hexponent, zpow_add₀ two_ne_zero, zpow_add₀ two_ne_zero, zpow_natCast]
    push_cast
    field_simp
  have hgrid : target ≤ grid (((m * 2 ^ shift : ℕ) : ℚ) / n * 2 ^ target) := by
    have hsize := le_log_quotient hm hn e f
    have hbits : (Format.binary64.mantissaBits : ℤ) = 53 := rfl
    have hleast : Format.binary64.minExponent = -1074 := rfl
    rw [Format.targetExponent, totalExponent, totalExponent, hbits, hleast] at htarget
    rw [hvalue, grid]
    omega
  rw [UnpackedFloat.div, hcore, ← hvalue]
  exact roundWithAccuracy_eq (s / t) (by positivity) hn hgrid

/-- An integer with zeros after the point is rounded as it stands. -/
theorem roundWithAccuracy_shiftLeft (s : Sign) {n : ℕ} (hn : 0 < n) :
    roundWithAccuracy .binary64 s (n <<< 53) (-53) .exact = rounding s n := by
  have hvalue : ((n * 2 ^ 53 : ℕ) : ℚ) / (1 : ℕ) * 2 ^ (-53 : ℤ) = n := by
    push_cast
    rw [zpow_neg]
    field_simp
    norm_num
  have hgrid : -53 ≤ grid n := by
    have hlog : 0 ≤ Int.log 2 (n : ℚ) := by
      rw [← Int.zpow_le_iff_le_log one_lt_two (Nat.cast_pos.mpr hn), zpow_zero]
      exact_mod_cast hn
    rw [grid]
    omega
  have hpos : 0 < n * 2 ^ 53 := by positivity
  have hrounded := roundWithAccuracy_eq s hpos Nat.one_pos (hvalue.symm ▸ hgrid)
  rw [hvalue, Nat.div_one, Nat.mod_one] at hrounded
  rw [Nat.shiftLeft_eq]
  exact hrounded

theorem placeOf_settle (r : ℕ) (e : ℤ) :
    placeOf (settle .positive r e) =
      if r = 0 then toLex (0, toLex (0, 0))
      else if r < 2 ^ 53 then toLex (1, toLex (e, (r : ℤ)))
      else toLex (1, toLex (e + 1, 2 ^ 52)) := by
  unfold settle
  split_ifs <;> rfl

theorem zero_le_placeOf_settle (r : ℕ) (e : ℤ) : 0 ≤ placeOf (settle .positive r e) := by
  change toLex (0, toLex (0, 0)) ≤ _
  rw [placeOf_settle]
  split_ifs
  all_goals simp [Prod.Lex.toLex_le_toLex]

/-- On one grid more steps lead to a greater float. -/
theorem placeOf_settle_mono {r r' : ℕ} (h : r ≤ r') (hr' : r' ≤ 2 ^ 53) (e : ℤ) :
    placeOf (settle .positive r e) ≤ placeOf (settle .positive r' e) := by
  rw [placeOf_settle, placeOf_settle]
  split_ifs
  all_goals simp only [Prod.Lex.toLex_le_toLex, true_and]
  all_goals omega

/-- On a coarser grid a full number of steps leads to a greater float. -/
theorem placeOf_settle_le {r r' : ℕ} {e e' : ℤ} (he : e < e') (hr' : 2 ^ 52 ≤ r') :
    placeOf (settle .positive r e) ≤ placeOf (settle .positive r' e') := by
  rw [placeOf_settle, placeOf_settle]
  split_ifs
  all_goals simp only [Prod.Lex.toLex_le_toLex, true_and]
  all_goals omega

/-- On any but the finest grid a number makes full use of the mantissa. -/
theorem le_steps {v : ℚ} (hv : 0 < v) (hgrid : -1074 < grid v) : 2 ^ 52 ≤ steps v := by
  have hcoarse : grid v = Int.log 2 v - 52 := by
    rw [grid] at hgrid ⊢
    omega
  have hlow : ((2 ^ 52 : ℕ) : ℚ) ≤ v / 2 ^ grid v := by
    have hsize : 2 ^ Int.log 2 v ≤ v := Int.zpow_log_le_self one_lt_two hv
    rw [le_div_iff₀ (zpow_pos two_pos _), hcoarse, Nat.cast_pow, Nat.cast_two, ← zpow_natCast,
      ← zpow_add₀ two_ne_zero]
    simpa using hsize
  calc 2 ^ 52 = toEven ((2 ^ 52 : ℕ) : ℚ) := (toEven_natCast _).symm
    _ ≤ steps v := toEven_mono hlow

theorem canonical_rounding (s : Sign) {v : ℚ} (hv : 0 < v) : Canonical (rounding s v) := by
  have hleast : -1074 ≤ grid v := le_max_right _ _
  rw [rounding, settle]
  split_ifs with hzero hless
  · trivial
  · refine ⟨hless, hleast, ?_⟩
    rcases hleast.lt_or_eq with hgrid | hgrid
    · exact .inl (le_steps hv hgrid)
    · exact .inr hgrid.symm
  · exact ⟨by decide, by omega, .inl le_rfl⟩

theorem placeOf_rounding_mono {v w : ℚ} (hv : 0 < v) (h : v ≤ w) :
    placeOf (rounding .positive v) ≤ placeOf (rounding .positive w) := by
  have hlog : Int.log 2 v ≤ Int.log 2 w := Int.log_mono_right hv h
  have hgrid : grid v ≤ grid w := by
    rw [grid, grid]
    omega
  rcases hgrid.lt_or_eq with hless | hsame
  · have hleast : -1074 ≤ grid v := le_max_right _ _
    exact placeOf_settle_le hless (le_steps (hv.trans_le h) (hleast.trans_lt hless))
  · rw [rounding, rounding, hsame]
    refine placeOf_settle_mono (toEven_mono ?_) (steps_le w) _
    rw [hsame]
    gcongr

theorem rounding_zero (s : Sign) : rounding s 0 = .zero s := by
  have hsteps : steps 0 = 0 := by
    rw [steps, zero_div]
    exact toEven_natCast 0
  rw [rounding, settle, dif_pos hsteps]

theorem rounding_natCast (s : Sign) {n : ℕ} (hfits : n < 2 ^ 53) :
    rounding s n = FloatExact.whole s n := by
  rcases Nat.eq_zero_or_pos n with rfl | hn
  · exact rounding_zero s
  · rw [← roundWithAccuracy_shiftLeft s hn, Nat.shiftLeft_eq]
    have hwhole := FloatExact.roundWithAccuracy_whole (j := 53) hn hfits (by omega) s
    rwa [Nat.cast_ofNat] at hwhole

/-- The float nearest to a number that is not negative. -/
def closest (v : ℚ) : Float := .ofModel (.pack (rounding .positive v))

theorem unpack_closest {v : ℚ} (hv : 0 ≤ v) :
    (closest v).toModel.unpack = held (rounding .positive v) := by
  change (Float.Model.pack (rounding .positive v)).unpack = _
  apply unpack_pack
  rcases hv.eq_or_lt with rfl | hpos
  · rw [rounding_zero]
    trivial
  · exact canonical_rounding .positive hpos

theorem closest_natCast {n : ℕ} (hfits : n < 2 ^ 53) : closest n = Float.ofNat n := by
  rw [FloatExact.ofNat_eq_stored hfits, closest, rounding_natCast _ hfits, FloatExact.stored]

theorem isNaN_closest {v : ℚ} (hv : 0 ≤ v) : (closest v).isNaN = false := by
  change (closest v).toModel.unpack.isNaN = false
  rw [unpack_closest hv, rounding, settle]
  split_ifs
  · rfl
  · rw [held]
    split_ifs <;> rfl
  · rw [held]
    split_ifs <;> rfl

theorem place_closest_zero : place (closest 0) = 0 := by
  rw [place, unpack_closest le_rfl, rounding_zero]
  rfl

theorem place_closest_mono {v w : ℚ} (hv : 0 ≤ v) (h : v ≤ w) :
    place (closest v) ≤ place (closest w) := by
  rw [place, place, unpack_closest hv, unpack_closest (hv.trans h)]
  apply placeOf_held_mono
  rcases hv.eq_or_lt with rfl | hpos
  · rw [rounding_zero]
    exact zero_le_placeOf_settle _ _
  · exact placeOf_rounding_mono hpos h

end NetAtlas.FloatRounding
