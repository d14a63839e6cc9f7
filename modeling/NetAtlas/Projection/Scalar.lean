/-!
The arithmetic that a projection is calculated in. It is that of floats when the program runs; the
rationals give the same calculation without rounding.
-/

namespace NetAtlas

/-- The first of two, unless the second is less. -/
def smaller {α : Type} (less : α → α → Bool) (a b : α) : α := if less b a then b else a

/-- The first of two, unless the second is greater. -/
def larger {α : Type} (less : α → α → Bool) (a b : α) : α := if less a b then b else a

/-- Cuts a value to a range. What compares with nothing becomes the upper end. -/
def clampBy {α : Type} (less : α → α → Bool) (low high v : α) : α :=
  larger less low (smaller less high v)

class Scalar (K : Type) extends Add K, Sub K, Mul K, Div K, Neg K, OfScientific K where
  less : K → K → Bool
  same : K → K → Bool
  isFinite : K → Bool

instance : Scalar Float where
  less a b := a < b
  same a b := a == b
  isFinite x := x.isFinite

instance : Scalar Rat where
  less a b := decide (a < b)
  same a b := decide (a = b)
  isFinite _ := true

namespace Scalar

variable {K : Type} [Scalar K]

def atMost (a b : K) : Bool := less a b || same a b

def clamp (low high v : K) : K := clampBy less low high v

end Scalar

end NetAtlas
