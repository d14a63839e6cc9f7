import NetAtlas.Decimal.Dyadic
import NetAtlas.Value

/-!
Numbers of a document: integers of any size and floats, compared exactly.
-/

namespace NetAtlas

/-- An integer or a float. -/
inductive Number where
  | int (n : Int)
  | float (x : Float)
deriving DecidableEq, Inhabited

namespace Number

def toValue : Number → Value
  | .int n => .int n
  | .float x => .float x

/-- The order of an integer and a float, if the float is a number. -/
def compareMixed? (n : Int) (x : Float) : Option Ordering :=
  match FloatKind.of x with
  | .finite d => some (d.compareInt n).swap
  | .infinite true => some .gt
  | .infinite false => some .lt
  | .notANumber => none

def less : Number → Number → Bool
  | .int a, .int b => decide (a < b)
  | .float a, .float b => a < b
  | .int a, .float b => compareMixed? a b == some .lt
  | .float a, .int b => compareMixed? b a == some .gt

def same : Number → Number → Bool
  | .int a, .int b => decide (a = b)
  | .float a, .float b => a == b
  | .int a, .float b => compareMixed? a b == some .eq
  | .float a, .int b => compareMixed? b a == some .eq

def lessOrSame (a b : Number) : Bool := a.less b || a.same b

/-- The nearest float of an integer, unless it is out of range. -/
def toFloat? : Number → Option Float
  | .int n => let x := Float.ofInt n; if x.isFinite then some x else none
  | .float x => some x

end Number

namespace Value

/-- Numbers, and truth values as zero and one. -/
def number? : Value → Option Number
  | .bool b => some (.int (if b then 1 else 0))
  | .int n => some (.int n)
  | .float x => some (.float x)
  | _ => none

/-- Integers, and truth values as zero and one. -/
def integer? : Value → Option Int
  | .bool b => some (if b then 1 else 0)
  | .int n => some n
  | _ => none

end Value

end NetAtlas
