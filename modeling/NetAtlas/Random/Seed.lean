import NetAtlas.Number
import NetAtlas.Random.Digest
import NetAtlas.Value.Reading

/-!
Seeds of the settings as integers. A float counts as its residue, so that floats which are integers
act like them; a text is spread over an integer of many digits.
-/

namespace NetAtlas.Random

/-- A Mersenne prime: modulo it a power of two depends on its exponent modulo 61 alone. -/
def modulus : Nat := Nat.pow 2 61 - 1

def residue (d : Dyadic) : Nat := d.mantissa * Nat.pow 2 (d.exponent.emod 61).toNat % modulus

/-- The seed of a number that is below zero. Minus one is passed over. -/
def seedBelowZero (n : Nat) : Nat := Nat.pow 2 64 - if n = 1 then 2 else n

def infinitySeed : Nat := 314159

def seedOfFloat (x : Float) : Nat :=
  match FloatKind.of x with
  | .finite d => if d.negative && residue d != 0 then seedBelowZero (residue d) else residue d
  | .infinite negative => if negative then seedBelowZero infinitySeed else infinitySeed
  | .notANumber => 0

/-- The bytes of a text and of its digest as one number, the first byte highest. -/
def seedOfText (s : String) : Nat :=
  let bytes := s.toUTF8.toList
  (bytes ++ Digest.ofBytes bytes).foldl (fun n b => 256 * n + b.toNat) 0

/-- The seed that a setting stands for. -/
def seedOf : Value → Read Int
  | .float x => .ok (seedOfFloat x)
  | .text s => .ok (seedOfText s)
  | v =>
    match v.integer? with
    | some seed => .ok seed
    | none => .error .wrongType

end NetAtlas.Random
