import NetAtlas.Json.Reader
import NetAtlas.Text.Case
import NetAtlas.Yaml.Cursor

/-!
What plain YAML texts stand for: nothing, truth values, integers in four bases and in sixties,
floats, or themselves. The form of a text decides what it is, unless it has a tag.
-/

namespace NetAtlas.Yaml

def standardTags : String := "tag:yaml.org,2002:"

def nullTag : String := standardTags ++ "null"
def boolTag : String := standardTags ++ "bool"
def intTag : String := standardTags ++ "int"
def floatTag : String := standardTags ++ "float"
def textTag : String := standardTags ++ "str"
def mergeTag : String := standardTags ++ "merge"
def valueTag : String := standardTags ++ "value"
def listTag : String := standardTags ++ "seq"
def mappingTag : String := standardTags ++ "map"

def isNull (s : String) : Bool := ["", "~", "null", "Null", "NULL"].contains s

def truths : List String := ["yes", "Yes", "YES", "true", "True", "TRUE", "on", "On", "ON"]

def untruths : List String := ["no", "No", "NO", "false", "False", "FALSE", "off", "Off", "OFF"]

def isDecimal (c : Char) : Bool := decide ('0' ≤ c) && decide (c ≤ '9')

/-- The character is an underscore, which may stand among digits, or of the given kind. -/
def orScore (p : Char → Bool) (c : Char) : Bool := c = '_' || p c

/-- Digits and underscores, of which the first is a digit. -/
def isRun (cs : List Char) : Bool := cs.head?.any isDecimal && cs.all (orScore isDecimal)

/-- One or two digits, of a number below sixty. -/
def isSixtieth (cs : List Char) : Bool :=
  match cs with
  | [c] => isDecimal c
  | [c, d] => isDecimal c && decide (c ≤ '5') && isDecimal d
  | _ => false

/-- Numbers between colons, which count sixties. -/
def isSixties (cs : List Char) : Bool :=
  match Text.splitOn ':' cs with
  | first :: second :: rest => isRun first && (second :: rest).all isSixtieth
  | _ => false

/-- The form of an integer without sign. A leading zero means base eight, unless another base is
named. -/
def isWhole (cs : List Char) : Bool :=
  match cs with
  | '0' :: 'b' :: ds => !ds.isEmpty && ds.all (orScore fun c => c = '0' || c = '1')
  | '0' :: 'x' :: ds => !ds.isEmpty && ds.all (orScore fun c => (Json.hexValue? c).isSome)
  | '0' :: ds => ds.all (orScore fun c => isDecimal c && decide (c ≤ '7'))
  | _ => isRun cs || isSixties cs

/-- An exponent with its sign, or nothing. -/
def isExponent (cs : List Char) : Bool :=
  match cs with
  | [] => true
  | mark :: sign :: ds =>
    (mark = 'e' || mark = 'E') && (sign = '+' || sign = '-') && !ds.isEmpty && ds.all isDecimal
  | _ => false

/-- The form of a number with a point. Nothing may stand in front of the point unless there is a
sign. -/
def isPointed (signed : Bool) (cs : List Char) : Bool :=
  let whole := cs.takeWhile (· ≠ '.')
  match cs.dropWhile (· ≠ '.') with
  | [] => false
  | _ :: rest =>
    let fraction := rest.takeWhile (orScore isDecimal)
    let ending := rest.dropWhile (orScore isDecimal)
    if whole.isEmpty then !signed && fraction.head?.any isDecimal && isExponent ending
    else (isRun whole && isExponent ending) || (isSixties whole && ending.isEmpty)

def isInteger (s : String) : Bool := isWhole (Decimal.signOf s.toList).2

def isFloat (s : String) : Bool :=
  let cs := (Decimal.signOf s.toList).2
  [".inf", ".Inf", ".INF"].contains (String.ofList cs) || [".nan", ".NaN", ".NAN"].contains s
    || isPointed (cs.length != s.length) cs

/-- The tag that a plain text has by its form. -/
def tagOfPlain (s : String) : String :=
  if isNull s then nullTag
  else if truths.contains s || untruths.contains s then boolTag
  else if isFloat s then floatTag
  else if isInteger s then intTag
  else if s = "<<" then mergeTag
  else if s = "=" then valueTag
  else textTag

/-! ### Values -/

def bool? (s : String) : Option Bool :=
  if truths.contains (lowered s) then some true
  else if untruths.contains (lowered s) then some false
  else none

/-- The number of some digits below the base. -/
def digitsIn? (base : Nat) (cs : List Char) : Option Nat :=
  if cs.isEmpty then none
  else
    cs.foldlM (fun n c => do
      let d ← Json.hexValue? c
      if d < base then some (n * base + d) else none) 0

def natural? (cs : List Char) : Option Nat :=
  match cs with
  | ['0'] => some 0
  | '0' :: 'b' :: ds => digitsIn? 2 ds
  | '0' :: 'x' :: ds => digitsIn? 16 ds
  | '0' :: ds => digitsIn? 8 ds
  | _ => do
    let parts ← (Text.splitOn ':' cs).mapM (digitsIn? 10)
    return parts.foldl (fun n part => n * 60 + part) 0

def int? (s : String) : Option Int :=
  let (negative, cs) := Decimal.signOf (s.toList.filter (· ≠ '_'))
  (natural? cs).map fun n => if negative then -(n : Int) else n

/-- The sum of parts that count ones, sixties and so on, the ones first. -/
def sixtiesSum (sum base : Float) : List Float → Float
  | [] => sum
  | part :: parts => sixtiesSum (sum + part * base) (base * 60.0) parts

def magnitude? (cs : List Char) : Option Float :=
  if cs = ".inf".toList then some (1.0 / 0.0)
  else if cs = ".nan".toList then some (0.0 / 0.0)
  else do
    let parts ← (Text.splitOn ':' cs).mapM fun part => Decimal.readFloat? (String.ofList part)
    match parts with
    | [x] => return x
    | parts => return sixtiesSum 0.0 1.0 parts.reverse

def float? (s : String) : Option Float :=
  let (negative, cs) := Decimal.signOf ((lowered s).toList.filter (· ≠ '_'))
  (magnitude? cs).map fun x => if negative then -x else x

/-- What a tag finds fault with in a text: the sign and underscores do not count. -/
def unsigned (s : String) : String :=
  String.ofList (Decimal.signOf (s.toList.filter (· ≠ '_'))).2

/-- The value of a text under a tag. -/
def scalarValue (tag s : String) : Except Problem Value :=
  if tag = textTag then .ok (.text s)
  else if tag = nullTag then .ok .null
  else if tag = boolTag then (.bool <$> bool? s).elim (.error (.badTruth (lowered s))) .ok
  else if tag = intTag then (.int <$> int? s).elim (.error (.badInteger (unsigned s))) .ok
  else if tag = floatTag then
    (.float <$> float? s).elim (.error (.badFloat (unsigned (lowered s)))) .ok
  else .error (.unknownTag tag)

end NetAtlas.Yaml
