import NetAtlas.Decimal.Rounding
import NetAtlas.Text.Blank
import NetAtlas.Text.Digit

/-!
Reading numerals. Digits of any script count, single underscores may stand between digits, and
blanks around the numeral are ignored.
-/

namespace NetAtlas.Decimal

/-- What may stand around a numeral: blanks, of which the ASCII separators are none here. -/
def isPadding (c : Char) : Bool :=
  Text.isBlank c && !(decide (0x1C ≤ c.toNat) && decide (c.toNat ≤ 0x1F))

/-- The values of the digits at the front, and what follows them. An underscore is passed over
when it stands between two digits. -/
def digitRun : (afterDigit : Bool) → List Char → List Nat × List Char
  | _, [] => ([], [])
  | true, '_' :: c :: cs =>
    match Text.digitValue? c with
    | some d =>
      let (ds, rest) := digitRun true cs
      (d :: ds, rest)
    | none => ([], '_' :: c :: cs)
  | _, c :: cs =>
    match Text.digitValue? c with
    | some d =>
      let (ds, rest) := digitRun true cs
      (d :: ds, rest)
    | none => ([], c :: cs)

/-- The number whose digits, highest first, are `ds`. -/
def ofDigits (ds : List Nat) : Nat := ds.foldl (fun n d => 10 * n + d) 0

/-- Takes a sign off; without one the numeral is positive. -/
def signOf : List Char → Bool × List Char
  | '-' :: cs => (true, cs)
  | '+' :: cs => (false, cs)
  | cs => (false, cs)

/-- The float nearest to `± units · 10 ^ exponent`, also where the power of ten is out of reach. -/
def scaled (negative : Bool) (units : Nat) (exponent : Int) : Float :=
  let x :=
    if units = 0 then 0.0
    else
      let first := exponent + (digitsOf units)
      if 310 < first then 1.0 / 0.0
      else if first < -330 then 0.0
      else Float.ofScientific units (decide (exponent < 0)) exponent.natAbs
  if negative then -x else x
where
  digitsOf (n : Nat) : Int := (Nat.toDigits 10 n).length

/-- An integer numeral. -/
def readInt? (s : String) : Option Int :=
  let (negative, cs) := signOf (Text.trimBy isPadding s.toList)
  match digitRun false cs with
  | ([], _) => none
  | (ds, []) => some (if negative then -(ofDigits ds : Int) else ofDigits ds)
  | (_, _ :: _) => none

/-- An exponent mark with its numeral at the end of a number, or nothing at all. -/
def exponentOf? : List Char → Option Int
  | [] => some 0
  | c :: cs =>
    if c = 'e' ∨ c = 'E' then
      let (negative, cs) := signOf cs
      match digitRun false cs with
      | ([], _) => none
      | (ds, []) => some (if negative then -(ofDigits ds : Int) else ofDigits ds)
      | (_, _ :: _) => none
    else none

/-- The names of the floats that have no digits. -/
def named? (negative : Bool) (cs : List Char) : Option Float :=
  let word := cs.map Char.toLower
  if word = "inf".toList ∨ word = "infinity".toList then
    some (if negative then -(1.0 / 0.0) else 1.0 / 0.0)
  else if word = "nan".toList then some (0.0 / 0.0)
  else none

/-- A number with an optional point and exponent, `inf`, `infinity` or `nan`. -/
def readFloat? (s : String) : Option Float :=
  let (negative, cs) := signOf (Text.trimBy isPadding s.toList)
  let (whole, rest) := digitRun false cs
  let (fraction, rest) :=
    match rest with
    | '.' :: rest => digitRun false rest
    | rest => ([], rest)
  if whole.isEmpty && fraction.isEmpty then named? negative cs
  else
    (exponentOf? rest).map fun e =>
      scaled negative (ofDigits (whole ++ fraction)) (e - fraction.length)

end NetAtlas.Decimal
