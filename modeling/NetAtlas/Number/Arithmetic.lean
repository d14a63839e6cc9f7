import NetAtlas.Fault
import NetAtlas.Number
import NetAtlas.Value.Reading

/-!
Arithmetic on integers and floats. Integers stay exact among themselves; beside a float they turn
into the nearest float.
-/

namespace NetAtlas.Number

def toFloat (n : Number) : Read Float :=
  match n.toFloat? with
  | some x => .ok x
  | none => .error .outOfRange

/-- Applies one of two operations, on integers if both numbers are. -/
def combine (onInts : Int → Int → Int) (onFloats : Float → Float → Float) (a b : Number) :
    Read Number :=
  match a, b with
  | .int m, .int n => .ok (.int (onInts m n))
  | _, _ => do return .float (onFloats (← a.toFloat) (← b.toFloat))

def add : Number → Number → Read Number := combine (· + ·) (· + ·)

def sub : Number → Number → Read Number := combine (· - ·) (· - ·)

def mul : Number → Number → Read Number := combine (· * ·) (· * ·)

/-- The remainder of finite floats, exact, with the sign of the dividend. -/
def remainder (a b : Dyadic) : Float :=
  let e := min a.exponent b.exponent
  let m := a.mantissa * Nat.pow 2 (a.exponent - e).toNat
  let n := b.mantissa * Nat.pow 2 (b.exponent - e).toNat
  let r := Float.ofInt (m % n : Nat)
  let r := if 0 ≤ e then r * Float.ofInt (Nat.pow 2 e.toNat : Nat) else (r.scaleB e)
  if a.negative then -r else r

def signBit (x : Float) : Bool :=
  match FloatKind.of x with
  | .finite d => d.negative
  | .infinite negative => negative
  | .notANumber => false

/-- The quotient of floats, rounded down. -/
def floorQuotient (a b : Float) : Float :=
  let rest :=
    match FloatKind.of a, FloatKind.of b with
    | .finite x, .finite y => remainder x y
    | .finite _, .infinite _ => a
    | _, _ => 0.0 / 0.0
  let quotient := (a - rest) / b
  let quotient :=
    if !(rest == 0.0) && decide (b < 0.0) != decide (rest < 0.0) then quotient - 1.0 else quotient
  if quotient == 0.0 then if signBit (a / b) then -0.0 else 0.0
  else
    match FloatKind.of quotient with
    | .finite d =>
      let down := Float.ofInt d.floor
      if 0.5 < quotient - down then down + 1.0 else down
    | _ => quotient

/-- Division rounded down. -/
def floorDiv (a b : Number) : Read Number :=
  match a, b with
  | .int m, .int n => if n = 0 then .error .divisionByZero else .ok (.int (m.fdiv n))
  | _, _ => do
    let x ← a.toFloat
    let y ← b.toFloat
    if y == 0.0 then .error .divisionByZero else .ok (.float (floorQuotient x y))

end NetAtlas.Number
