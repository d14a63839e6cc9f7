import NetAtlas.Decimal.Rounding

/-!
The fewest decimal digits that read back as a given float, and among those the digits nearest to
it.
-/

namespace NetAtlas.Decimal

/-- The numbers that round to a float: bounds of the interval in units of `2 ^ exponent / 4`, and
whether the bounds belong to it. -/
structure Interval where
  low : Nat
  high : Nat
  closed : Bool

/-- Half way to the neighbours on both sides. The one below is nearer for a power of two. -/
def Interval.of (d : Dyadic) : Interval :=
  let gap := if d.mantissa = Nat.pow 2 52 ∧ -1074 < d.exponent then 1 else 2
  ⟨4 * d.mantissa - gap, 4 * d.mantissa + 2, decide (d.mantissa % 2 = 0)⟩

/-- Is `units · 10 ^ k` in the interval around `d`? -/
def readsBack (d : Dyadic) (units : Nat) (k : Int) : Bool :=
  let i := Interval.of d
  let value := 4 * units * Nat.pow 10 k.toNat * Nat.pow 2 (-d.exponent).toNat
  let scale := Nat.pow 10 (-k).toNat * Nat.pow 2 d.exponent.toNat
  if i.closed then decide (i.low * scale ≤ value) && decide (value ≤ i.high * scale)
  else decide (i.low * scale < value) && decide (value < i.high * scale)

/-- The multiple of `10 ^ k` next to `d` that reads back, if one does: the nearer of the two
neighbours on that grid, when both do. -/
def onGrid? (d : Dyadic) (k : Int) : Option Nat :=
  let (num, den) := d.magnitude
  let down := num * Nat.pow 10 (-k).toNat / (den * Nat.pow 10 k.toNat)
  match readsBack d down k, readsBack d (down + 1) k with
  | true, true => some (inUnits d (-k))
  | true, false => some down
  | false, true => some (down + 1)
  | false, false => none

/-- Tries grids of `digits`, `digits + 1`, … significant digits, `more` of them; seventeen digits
always read back. -/
def search (d : Dyadic) (first : Int) : (more : Nat) → (digits : Nat) → Nat × Int
  | 0, digits => (inUnits d (digits - 1 - first), first + 1 - digits)
  | more + 1, digits =>
    let k := first + 1 - digits
    match onGrid? d k with
    | some units => (units, k)
    | none => search d first more (digits + 1)

/-- Digits and exponent of the shortest decimal that reads back as `d`, which is not zero. -/
def shortest (d : Dyadic) : Nat × Int := search d (leadingExponent d) 16 1

end NetAtlas.Decimal
