import NetAtlas.Decimal.Numeral
import NetAtlas.Json.Reader

/-!
Numbers in the cells of a table. A cell is read in floating point: seventeen digits count, each
further one before the point only shifts the exponent, and the result is scaled by one power of
ten.
-/

namespace NetAtlas.Cell

def isSpace (c : Char) : Bool := c = ' ' || (decide ('\t' ≤ c) && decide (c ≤ '\r'))

def significantDigits : Nat := 17

/-- Adds digits to a number as long as they count; the rest is only counted. -/
def accumulate (number : Float) (taken : Nat) : List Nat → Float × Nat × Nat
  | [] => (number, taken, 0)
  | d :: ds =>
    if taken < significantDigits then accumulate (number * 10.0 + Float.ofNat d) (taken + 1) ds
    else (number, taken, ds.length + 1)

def powerOfTen (n : Nat) : Float := Float.ofScientific 1 false n

/-- Scales by a power of ten. Powers below the range of floats are applied in two steps. -/
def scale (number : Float) (exponent : Int) : Float :=
  if 308 < exponent then
    if number == 0.0 then 0.0 else if number < 0.0 then -(1.0 / 0.0) else 1.0 / 0.0
  else if 0 < exponent then number * powerOfTen exponent.toNat
  else if exponent < -616 then 0.0
  else if exponent < -308 then number / powerOfTen (-308 - exponent).toNat / powerOfTen 308
  else number / powerOfTen (-exponent).toNat

/-- An exponent at the end of a number, or nothing but spaces. -/
def exponentOf? (cs : List Char) : Option Int :=
  match cs with
  | c :: rest =>
    if c = 'e' ∨ c = 'E' then
      let (negative, rest) := Decimal.signOf rest
      match Json.asciiDigits rest with
      | ([], _) => none
      | (ds, rest) =>
        if rest.all isSpace && decide (ds.length ≤ significantDigits) then
          some (if negative then -(Decimal.ofDigits ds : Int) else Decimal.ofDigits ds)
        else none
    else if cs.all isSpace then some 0 else none
  | [] => some 0

def number? (cs : List Char) : Option Float :=
  let (negative, cs) := Decimal.signOf (cs.dropWhile isSpace)
  let (whole, rest) := Json.asciiDigits cs
  let (fraction, rest) :=
    match rest with
    | '.' :: rest => Json.asciiDigits rest
    | rest => ([], rest)
  if whole.isEmpty && fraction.isEmpty then none
  else
    (exponentOf? rest).map fun e =>
      let (number, taken, beyond) := accumulate 0.0 0 whole
      let (number, all, _) := accumulate number taken fraction
      scale (if negative then -number else number) (e + beyond - (all - taken : Nat))

/-- Infinity by name, without spaces around it. -/
def infinity? (cs : List Char) : Option Float :=
  let (negative, cs) := Decimal.signOf cs
  let word := cs.map Char.toLower
  if word = "inf".toList ∨ word = "infinity".toList then
    some (if negative then -(1.0 / 0.0) else 1.0 / 0.0)
  else none

/-- The number in a cell, if there is one. -/
def read? (s : String) : Option Float :=
  ((infinity? s.toList).or (number? s.toList)).filter fun x => !x.isNaN

end NetAtlas.Cell
