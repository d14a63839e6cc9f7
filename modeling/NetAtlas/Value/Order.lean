import NetAtlas.Number
import NetAtlas.Value.Reading

/-!
Equality and order of document values. Numbers and truth values compare as numbers, texts by their
characters, lists item by item; all else cannot be put in order.
-/

namespace NetAtlas

/-- Equality of keys: a truth value equals the number it stands for. -/
def Atom.same (a b : Atom) : Bool :=
  match (Value.atom a).number?, (Value.atom b).number? with
  | some m, some n => m.same n
  | none, none => decide (a = b)
  | _, _ => false

/-- Equality of keys in a lookup, which also finds the very same key if it is not a number. -/
def Atom.sameKey (a b : Atom) : Bool := decide (a = b) || a.same b

/-- Adds an entry; one whose key is there already keeps its rank and takes the new value. -/
def assign (es : List (Atom × Value)) (k : Atom) (v : Value) : List (Atom × Value) :=
  if es.any fun (l, _) => l.same k then
    es.map fun (l, w) => if l.same k then (l, v) else (l, w)
  else es ++ [(k, v)]

/-- Ways in which two values can compare. -/
inductive Comparison where
  | less
  | atMost
  | greater
deriving DecidableEq, Repr

namespace Comparison

def sign : Comparison → String
  | .less => "<"
  | .atMost => "<="
  | .greater => ">"

/-- Values in this order compare so. -/
def holds : Comparison → Ordering → Bool
  | .less, o => o.isLT
  | .atMost, o => o.isLE
  | .greater, o => o.isGT

/-- What is not a number compares with nothing. -/
def holdsOf : Comparison → Number → Number → Bool
  | .less, a, b => a.less b
  | .atMost, a, b => a.lessOrSame b
  | .greater, a, b => b.less a

end Comparison

namespace Value

mutual

/-- Equality of values. Mappings are equal if they have equal values for equal keys. -/
def same : Value → Value → Bool
  | .atom a, .atom b => a.same b
  | .list as, .list bs => sameItems as bs
  | .mapping as, .mapping bs => as.length == bs.length && sameEntries as bs
  | _, _ => false

def sameItems : List Value → List Value → Bool
  | [], [] => true
  | a :: as, b :: bs => same a b && sameItems as bs
  | _, _ => false

/-- Each of the entries is among the others. -/
def sameEntries : List (Atom × Value) → List (Atom × Value) → Bool
  | [], _ => true
  | (k, v) :: as, bs =>
    (match bs.find? fun (l, _) => l.same k with
      | some (_, w) => same v w
      | none => false) && sameEntries as bs

end

/-- Asks whether two numbers, or two texts, compare in a way. -/
def comparesAtoms (way : Comparison) (a b : Value) : Read Bool :=
  match a, b with
  | .text s, .text t => .ok (way.holds (compare s t))
  | _, _ =>
    match a.number?, b.number? with
    | some m, some n => .ok (way.holdsOf m n)
    | _, _ => .error (.incomparable way.sign a b)

mutual

/-- Asks whether two values compare in a way. -/
def compares (way : Comparison) : Value → Value → Read Bool
  | .list as, .list bs => comparesItems way as bs
  | a, b => comparesAtoms way a b

/-- The first items that differ decide, or else the lengths. -/
def comparesItems (way : Comparison) : List Value → List Value → Read Bool
  | [], [] => .ok (way.holds .eq)
  | [], _ :: _ => .ok (way.holds .lt)
  | _ :: _, [] => .ok (way.holds .gt)
  | a :: as, b :: bs => if same a b then comparesItems way as bs else compares way a b

end

def less (a b : Value) : Read Bool := compares .less a b

def atMost (a b : Value) : Read Bool := compares .atMost a b

def greater (a b : Value) : Read Bool := compares .greater a b

end Value

end NetAtlas
