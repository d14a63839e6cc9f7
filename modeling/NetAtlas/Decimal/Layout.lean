import NetAtlas.Decimal.Shortest

/-!
Written forms of numbers: the shortest form that reads back, a fixed number of places, a fixed
number of significant digits, and thousands in groups.
-/

namespace NetAtlas.Decimal

def digits (n : Nat) : List Char := Nat.toDigits 10 n

def padLeft (width : Nat) (cs : List Char) : List Char :=
  List.replicate (width - cs.length) '0' ++ cs

def dropTrailing (c : Char) (cs : List Char) : List Char :=
  (cs.reverse.dropWhile (· = c)).reverse

/-- A sign, at least two digits. -/
def exponentText (e : Int) : List Char :=
  (if e < 0 then '-' else '+') :: padLeft 2 (digits e.natAbs)

def signed (negative : Bool) (cs : List Char) : String :=
  String.ofList (if negative then '-' :: cs else cs)

/-- A point after the first digit, when others follow. -/
def pointAfterFirst : List Char → List Char
  | [] => []
  | [c] => [c]
  | c :: cs => c :: '.' :: cs

/-- `units` with its last `places` digits after the point. -/
def positional (units places : Nat) : List Char :=
  let ds := padLeft (places + 1) (digits units)
  let whole := ds.take (ds.length - places)
  if places = 0 then whole else whole ++ '.' :: ds.drop (ds.length - places)

def special : FloatKind → String
  | .infinite false => "inf"
  | .infinite true => "-inf"
  | _ => "nan"

/-- The significant digits of `units · 10 ^ k`, without zeros at the end, with the exponent of the
first one. -/
def significant (units : Nat) (k : Int) : List Char × Int :=
  let ds := digits units
  (dropTrailing '0' ds, k + ds.length - 1)

/-- Shortest form: positional from `10 ^ -4` up to but not including `10 ^ 16`, always with a
point; else with an exponent. -/
def shortestText (x : Float) : String :=
  match FloatKind.of x with
  | .finite d =>
    if d.mantissa = 0 then signed d.negative ['0', '.', '0']
    else
      let (units, k) := shortest d
      let (ds, first) := significant units k
      if -4 ≤ first ∧ first < 16 then
        if (ds.length : Int) ≤ first + 1 then
          let zeros := List.replicate (first + 1 - ds.length).toNat '0'
          signed d.negative (ds ++ zeros ++ ['.', '0'])
        else if 0 ≤ first then
          let whole := (first + 1).toNat
          signed d.negative (ds.take whole ++ '.' :: ds.drop whole)
        else
          let zeros := List.replicate (-first - 1).toNat '0'
          signed d.negative ('0' :: '.' :: zeros ++ ds)
      else signed d.negative (pointAfterFirst ds ++ 'e' :: exponentText first)
  | kind => special kind

/-- A fixed number of places after the point; the sign stays even when all digits are zero. -/
def fixedText (places : Nat) (x : Float) : String :=
  match FloatKind.of x with
  | .finite d => signed d.negative (positional (inUnits d places) places)
  | kind => special kind

/-- `count` significant digits and the exponent of the first, after rounding. -/
def rounded (d : Dyadic) (count : Nat) : Nat × Int :=
  if d.mantissa = 0 then (0, 0)
  else
    let first := leadingExponent d
    let units := inUnits d (count - 1 - first)
    if units = Nat.pow 10 count then (Nat.pow 10 (count - 1), first + 1) else (units, first)

/-- One digit, `places` more after the point, and an exponent. -/
def scientificText (places : Nat) (x : Float) : String :=
  match FloatKind.of x with
  | .finite d =>
    let (units, first) := rounded d (places + 1)
    signed d.negative
      (pointAfterFirst (padLeft (places + 1) (digits units)) ++ 'e' :: exponentText first)
  | kind => special kind

/-- Six significant digits without zeros at the end, positional from `10 ^ -4` up to but not
including `10 ^ 6`. -/
def generalText (x : Float) : String :=
  match FloatKind.of x with
  | .finite d =>
    let (units, first) := rounded d 6
    if d.mantissa = 0 then signed d.negative ['0']
    else if -4 ≤ first ∧ first < 6 then
      let text := positional units (5 - first).toNat
      signed d.negative (dropTrailing '.' (if first < 5 then dropTrailing '0' text else text))
    else
      signed d.negative
        (pointAfterFirst (dropTrailing '0' (digits units)) ++ 'e' :: exponentText first)
  | kind => special kind

/-- Digits in groups of three from the right. -/
def grouped (n : Nat) : String :=
  let rec go : Nat → List Char → List Char
    | _, [] => []
    | i, c :: cs => if i % 3 = 0 ∧ i ≠ 0 then c :: ',' :: go (i - 1) cs else c :: go (i - 1) cs
  let ds := digits n
  String.ofList (go (ds.length - 1) ds)

end NetAtlas.Decimal
