import Mathlib

/-!
The order of floats. What is a number stands in a linear order, in which the two zeros share a
place; the comparisons of floats agree with it.
-/

namespace NetAtlas.FloatOrder

open Float.Model Float.Model.UnpackedFloat

/-- Where a number stands: first its class and sign, then exponent and mantissa, both turned round
    below zero. What is not a number gets the place of zero, which no lemma uses. -/
def placeOf : UnpackedFloat → Int ×ₗ Int ×ₗ Int
  | .infinity .negative => toLex (-2, toLex (0, 0))
  | .finite .negative m e _ => toLex (-1, toLex (-e, -(m : Int)))
  | .zero _ => toLex (0, toLex (0, 0))
  | .notANumber => toLex (0, toLex (0, 0))
  | .finite .positive m e _ => toLex (1, toLex (e, (m : Int)))
  | .infinity .positive => toLex (2, toLex (0, 0))

/-- Where a float stands among all floats. -/
def place (x : Float) : Int ×ₗ Int ×ₗ Int := placeOf x.toModel.unpack

private theorem compare_signs :
    compare Sign.negative Sign.negative = .eq ∧ compare Sign.positive Sign.positive = .eq ∧
      compare Sign.negative Sign.positive = .lt ∧ compare Sign.positive Sign.negative = .gt :=
  ⟨rfl, rfl, rfl, rfl⟩

private theorem then_eq_lt_iff {a b : Ordering} : a.then b = .lt ↔ a = .lt ∨ (a = .eq ∧ b = .lt) := by
  cases a <;> simp [Ordering.then]

private theorem then_eq_gt_iff {a b : Ordering} : a.then b = .gt ↔ a = .gt ∨ (a = .eq ∧ b = .gt) := by
  cases a <;> simp [Ordering.then]

/-- Of two numbers the lesser one has the lesser place. -/
theorem compare_eq_lt_iff {a b : UnpackedFloat} (ha : a.isNaN = false) (hb : b.isNaN = false) :
    a.compare b = some .lt ↔ placeOf a < placeOf b := by
  rcases a with (_ | _) | _ | _ | ⟨_ | _, m, e, _⟩ <;>
    rcases b with (_ | _) | _ | _ | ⟨_ | _, n, f, _⟩ <;>
    simp_all [UnpackedFloat.compare, placeOf, UnpackedFloat.isNaN, Prod.Lex.toLex_lt_toLex,
      compare_signs, then_eq_lt_iff, then_eq_gt_iff, Ordering.swap_eq_lt, compare_lt_iff_lt,
      compare_gt_iff_gt]

/-- Numbers are equal when they have one place. -/
theorem compare_eq_eq_iff {a b : UnpackedFloat} (ha : a.isNaN = false) (hb : b.isNaN = false) :
    a.compare b = some .eq ↔ placeOf a = placeOf b := by
  rcases a with (_ | _) | _ | _ | ⟨_ | _, m, e, _⟩ <;>
    rcases b with (_ | _) | _ | _ | ⟨_ | _, n, f, _⟩ <;>
    simp_all [UnpackedFloat.compare, placeOf, UnpackedFloat.isNaN, compare_signs,
      Ordering.swap_eq_eq]

theorem lt_iff_place_lt {x y : Float} (hx : x.isNaN = false) (hy : y.isNaN = false) :
    x < y ↔ place x < place y := by
  have hcompare := compare_eq_lt_iff (a := x.toModel.unpack) (b := y.toModel.unpack) hx hy
  rw [place, place, ← hcompare]
  change (decide (x.toModel < y.toModel)) = true ↔ _
  rw [decide_eq_true_iff]
  exact beq_iff_eq (α := Option Ordering)

/-- Only numbers compare. -/
theorem isNaN_eq_false_of_compare {a b : UnpackedFloat} {order : Ordering}
    (h : a.compare b = some order) : a.isNaN = false ∧ b.isNaN = false := by
  cases a <;> cases b <;> simp_all [UnpackedFloat.compare, UnpackedFloat.isNaN]

theorem isNaN_eq_false_of_lt {x y : Float} (h : x < y) : x.isNaN = false ∧ y.isNaN = false := by
  change (decide (x.toModel < y.toModel)) = true at h
  rw [decide_eq_true_iff] at h
  exact isNaN_eq_false_of_compare ((beq_iff_eq (α := Option Ordering)).mp h)

/-- Nothing is less than itself, whether it is a number or not. -/
theorem lt_irrefl (x : Float) : ¬ x < x := by
  intro h
  obtain ⟨hx, _⟩ := isNaN_eq_false_of_lt h
  exact ((lt_iff_place_lt hx hx).mp h).false

theorem isNaN_eq_false_of_le {x y : Float} (h : x ≤ y) : x.isNaN = false ∧ y.isNaN = false := by
  change (decide (x.toModel ≤ y.toModel)) = true at h
  rw [decide_eq_true_iff] at h
  change ((x.toModel.unpack.compare y.toModel.unpack).any (·.isLE)) = true at h
  cases hcompare : x.toModel.unpack.compare y.toModel.unpack with
  | none => simp [hcompare] at h
  | some order => exact isNaN_eq_false_of_compare hcompare

theorem isNaN_eq_false_of_beq {x y : Float} (h : (x == y) = true) :
    x.isNaN = false ∧ y.isNaN = false :=
  isNaN_eq_false_of_compare ((beq_iff_eq (α := Option Ordering)).mp h)

theorem le_iff_place_le {x y : Float} (hx : x.isNaN = false) (hy : y.isNaN = false) :
    x ≤ y ↔ place x ≤ place y := by
  have hlt := compare_eq_lt_iff (a := x.toModel.unpack) (b := y.toModel.unpack) hx hy
  have heq := compare_eq_eq_iff (a := x.toModel.unpack) (b := y.toModel.unpack) hx hy
  rw [place, place, le_iff_lt_or_eq, ← hlt, ← heq]
  change (decide (x.toModel ≤ y.toModel)) = true ↔ _
  rw [decide_eq_true_iff]
  change ((x.toModel.unpack.compare y.toModel.unpack).any (·.isLE)) = true ↔ _
  cases x.toModel.unpack.compare y.toModel.unpack with
  | none => simp
  | some order => cases order <;> simp

/-- A number is at most itself. -/
theorem le_self {x : Float} (hx : x.isNaN = false) : x ≤ x := (le_iff_place_le hx hx).mpr le_rfl

theorem le_of_lt {x y : Float} (h : x < y) : x ≤ y := by
  obtain ⟨hx, hy⟩ := isNaN_eq_false_of_lt h
  exact (le_iff_place_le hx hy).mpr ((lt_iff_place_lt hx hy).mp h).le

theorem le_trans {x y z : Float} (hxy : x ≤ y) (hyz : y ≤ z) : x ≤ z := by
  obtain ⟨hx, hy⟩ := isNaN_eq_false_of_le hxy
  obtain ⟨_, hz⟩ := isNaN_eq_false_of_le hyz
  exact (le_iff_place_le hx hz).mpr
    (((le_iff_place_le hx hy).mp hxy).trans ((le_iff_place_le hy hz).mp hyz))

theorem le_of_not_lt {x y : Float} (hx : x.isNaN = false) (hy : y.isNaN = false) (h : ¬ y < x) :
    x ≤ y := by
  rw [lt_iff_place_lt hy hx, not_lt] at h
  exact (le_iff_place_le hx hy).mpr h

theorem not_lt_of_le {x y : Float} (h : x ≤ y) : ¬ y < x := by
  intro hlt
  obtain ⟨hy, hx⟩ := isNaN_eq_false_of_lt hlt
  have hplace := (le_iff_place_le hx hy).mp h
  exact hplace.not_gt ((lt_iff_place_lt hy hx).mp hlt)

theorem beq_iff_place_eq {x y : Float} (hx : x.isNaN = false) (hy : y.isNaN = false) :
    (x == y) = true ↔ place x = place y := by
  have hcompare := compare_eq_eq_iff (a := x.toModel.unpack) (b := y.toModel.unpack) hx hy
  rw [place, place, ← hcompare]
  exact beq_iff_eq (α := Option Ordering)

theorem lt_of_le_of_lt {x y z : Float} (hxy : x ≤ y) (hyz : y < z) : x < z := by
  obtain ⟨hx, hy⟩ := isNaN_eq_false_of_le hxy
  obtain ⟨_, hz⟩ := isNaN_eq_false_of_lt hyz
  exact (lt_iff_place_lt hx hz).mpr
    (((le_iff_place_le hx hy).mp hxy).trans_lt ((lt_iff_place_lt hy hz).mp hyz))

theorem le_of_beq {x y : Float} (h : (x == y) = true) : x ≤ y := by
  obtain ⟨hx, hy⟩ := isNaN_eq_false_of_beq h
  exact (le_iff_place_le hx hy).mpr ((beq_iff_place_eq hx hy).mp h).le

theorem ge_of_beq {x y : Float} (h : (x == y) = true) : y ≤ x := by
  obtain ⟨hx, hy⟩ := isNaN_eq_false_of_beq h
  exact (le_iff_place_le hy hx).mpr ((beq_iff_place_eq hx hy).mp h).ge

/-- What lies between equal numbers is equal to them. -/
theorem beq_of_between {low x high y : Float} (hlow : (low == y) = true) (hhigh : (high == y) = true)
    (hleast : low ≤ x) (hmost : x ≤ high) : (x == y) = true := by
  obtain ⟨hlowNumber, hy⟩ := isNaN_eq_false_of_beq hlow
  obtain ⟨hx, hhighNumber⟩ := isNaN_eq_false_of_le hmost
  rw [beq_iff_place_eq hlowNumber hy] at hlow
  rw [beq_iff_place_eq hhighNumber hy] at hhigh
  rw [le_iff_place_le hlowNumber hx, hlow] at hleast
  rw [le_iff_place_le hx hhighNumber, hhigh] at hmost
  exact (beq_iff_place_eq hx hy).mpr (hmost.antisymm hleast)

end NetAtlas.FloatOrder
