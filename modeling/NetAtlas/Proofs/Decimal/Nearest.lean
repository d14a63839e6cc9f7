import Mathlib
import NetAtlas.Decimal.Rounding

/-!
Rounding to the nearest integer, with ties to the even neighbour. It keeps the order of numbers, and
what it makes of a fraction depends on the value of the fraction alone.
-/

namespace NetAtlas.Decimal

/-- The integer nearest to a number that is not negative; of two equally near ones the even one. -/
def toEven (u : ℚ) : ℕ :=
  if u - ⌊u⌋₊ < 1 / 2 then ⌊u⌋₊
  else if 1 / 2 < u - ⌊u⌋₊ then ⌊u⌋₊ + 1
  else ⌊u⌋₊ + ⌊u⌋₊ % 2

theorem floor_le_toEven (u : ℚ) : ⌊u⌋₊ ≤ toEven u := by
  unfold toEven
  split_ifs <;> omega

theorem toEven_le_floor_add_one (u : ℚ) : toEven u ≤ ⌊u⌋₊ + 1 := by
  unfold toEven
  split_ifs <;> omega

theorem toEven_natCast (n : ℕ) : toEven n = n := by
  rw [toEven, Nat.floor_natCast, sub_self, if_pos (by norm_num)]

theorem toEven_mono {u w : ℚ} (h : u ≤ w) : toEven u ≤ toEven w := by
  rcases (Nat.floor_mono h).lt_or_eq with hless | hsame
  · calc toEven u ≤ ⌊u⌋₊ + 1 := toEven_le_floor_add_one u
      _ ≤ ⌊w⌋₊ := hless
      _ ≤ toEven w := floor_le_toEven w
  · -- Between two integers the fraction decides, and it is the greater one for `w`.
    unfold toEven
    rw [hsame]
    split_ifs
    all_goals first | omega | linarith

section Fraction

variable (a : ℕ) {b : ℕ} (hb : 0 < b)
include hb

theorem div_sub_floor : (a : ℚ) / b - ⌊(a : ℚ) / b⌋₊ = (a % b : ℕ) / b := by
  have hb' : (b : ℚ) ≠ 0 := Nat.cast_ne_zero.mpr hb.ne'
  rw [Nat.floor_div_eq_div, eq_div_iff hb', sub_mul, div_mul_cancel₀ _ hb', sub_eq_iff_eq_add]
  exact_mod_cast (Nat.mod_add_div' a b).symm

theorem div_lt_half_iff : (a : ℚ) / b < 1 / 2 ↔ 2 * a < b := by
  rw [div_lt_iff₀ (Nat.cast_pos.mpr hb), ← Nat.cast_lt (α := ℚ)]
  push_cast
  constructor <;> intro h <;> linarith

theorem half_lt_div_iff : (1 : ℚ) / 2 < a / b ↔ b < 2 * a := by
  rw [lt_div_iff₀ (Nat.cast_pos.mpr hb), ← Nat.cast_lt (α := ℚ)]
  push_cast
  constructor <;> intro h <;> linarith

theorem nearest_eq_toEven : nearest a b = toEven (a / b) := by
  rw [nearest, toEven, div_sub_floor a hb, Nat.floor_div_eq_div]
  simp only [div_lt_half_iff _ hb, half_lt_div_iff _ hb]
  split_ifs <;> omega

end Fraction

end NetAtlas.Decimal
