import NetAtlas.Decimal.Dyadic

/-!
Rounding to decimal places, exactly and with ties to the even neighbour.
-/

namespace NetAtlas.Decimal

/-- The integer nearest to `num / den`; of two equally near ones the even one. -/
def nearest (num den : Nat) : Nat :=
  let q := num / den
  let r := num % den
  if 2 * r < den then q
  else if den < 2 * r then q + 1
  else if q % 2 = 0 then q else q + 1

/-- The magnitude of `d` in units of `10 ^ -places`, rounded. -/
def inUnits (d : Dyadic) (places : Int) : Nat :=
  let (num, den) := d.magnitude
  nearest (num * Nat.pow 10 places.toNat) (den * Nat.pow 10 (-places).toNat)

/-- Does the magnitude of `d` reach `10 ^ k`? -/
def reaches (d : Dyadic) (k : Int) : Bool :=
  let (num, den) := d.magnitude
  decide (den * Nat.pow 10 k.toNat ≤ num * Nat.pow 10 (-k).toNat)

/-- The power of ten just below the magnitude, or equal to it: the exponent of the first
significant digit. The logarithm to base two is close enough to be one off at most. -/
def leadingExponent (d : Dyadic) : Int :=
  let guess := (d.mantissa.log2 + d.exponent) * 1233 / 4096
  if reaches d (guess + 1) then guess + 1
  else if reaches d guess then guess
  else guess - 1

/-- The float nearest to `± units · 10 ^ -places`. -/
def floatOf (negative : Bool) (units : Nat) (places : Int) : Float :=
  let x := Float.ofScientific units (decide (0 ≤ places)) places.natAbs
  if negative then -x else x

/-- Rounds a float to decimal places. Infinities, and what is not a number, stay as they are; so
does a float that has no digits beyond the last place kept. -/
def roundTo (places : Int) (x : Float) : Float :=
  match FloatKind.of x with
  | .finite d =>
    if 323 < places then x
    else if places < -309 then floatOf d.negative 0 0
    else floatOf d.negative (inUnits d places) places
  | _ => x

end NetAtlas.Decimal
