/-!
Floats as exact numbers: a finite float is a signed natural number times a power of two.
-/

namespace NetAtlas

/-- The number `± mantissa · 2 ^ exponent`. -/
structure Dyadic where
  negative : Bool
  mantissa : Nat
  exponent : Int
deriving DecidableEq, Repr

/-- What the bits of a float stand for. -/
inductive FloatKind where
  | finite (d : Dyadic)
  | infinite (negative : Bool)
  | notANumber
deriving DecidableEq, Repr

namespace FloatKind

/-- Splits the bits into sign, eleven bits of exponent and fifty-two of fraction. -/
def ofBits (bits : Nat) : FloatKind :=
  let negative := decide (Nat.pow 2 63 ≤ bits)
  let exponent : Nat := bits / Nat.pow 2 52 % Nat.pow 2 11
  let fraction := bits % Nat.pow 2 52
  if exponent = 2047 then
    if fraction = 0 then .infinite negative else .notANumber
  else if exponent = 0 then .finite ⟨negative, fraction, -1074⟩
  else .finite ⟨negative, Nat.pow 2 52 + fraction, exponent - 1075⟩

def of (x : Float) : FloatKind := ofBits x.toBits.toNat

end FloatKind

namespace Dyadic

/-- Numerator and denominator of the magnitude. -/
def magnitude (d : Dyadic) : Nat × Nat :=
  (d.mantissa * Nat.pow 2 d.exponent.toNat, Nat.pow 2 (-d.exponent).toNat)

/-- The integer part, cut towards zero. -/
def truncate (d : Dyadic) : Int :=
  let (num, den) := d.magnitude
  if d.negative then -(num / den : Nat) else (num / den : Nat)

/-- The largest integer that is not above the number. -/
def floor (d : Dyadic) : Int :=
  let (num, den) := d.magnitude
  if d.negative then -((num + den - 1) / den : Nat) else (num / den : Nat)

/-- Exact comparison with an integer. -/
def compareInt (d : Dyadic) (n : Int) : Ordering :=
  let (num, den) := d.magnitude
  compare (if d.negative then -(num : Int) else num) (n * den)

end Dyadic

end NetAtlas
