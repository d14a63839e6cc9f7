import NetAtlas.Gazetteer.Cell
import NetAtlas.Number

/-!
Columns of numbers. Where every cell of a column holds an integer, and one kind of 64-bit integer
covers them all, each is taken as it is and then made a float; one cell that is anything else makes
the whole column one of floats.
-/

namespace NetAtlas

/-- The integer in a cell: digits with an optional sign, and spaces around them. -/
def Cell.integer? (s : String) : Option Int :=
  let (negative, cs) := Decimal.signOf (s.toList.dropWhile isSpace)
  match Json.asciiDigits cs with
  | ([], _) => none
  | (ds, rest) =>
    if rest.all isSpace then
      some (if negative then -(Decimal.ofDigits ds : Int) else Decimal.ofDigits ds)
    else none

/-- What the cells of a column are taken for. -/
inductive NumberKind where
  | integers
  | floats
deriving DecidableEq, Repr

namespace NumberKind

def fitsSigned (n : Int) : Bool :=
  decide (-0x8000000000000000 ≤ n) && decide (n < 0x8000000000000000)

def fitsUnsigned (n : Int) : Bool := decide (0 ≤ n) && decide (n < 0x10000000000000000)

/-- The kind of a column with these cells, of which some may be missing. -/
def ofCells (cells : List (Option String)) : NumberKind :=
  match cells.mapM (·.bind Cell.integer?) with
  | some ns => if ns.all fitsSigned || ns.all fitsUnsigned then .integers else .floats
  | none => .floats

/-- The number in a cell of such a column, if there is one. -/
def read? (kind : NumberKind) (s : String) : Option Float :=
  match kind with
  | .integers => (Cell.integer? s).bind fun n => (Number.int n).toFloat?
  | .floats => Cell.read? s

end NumberKind

end NetAtlas
