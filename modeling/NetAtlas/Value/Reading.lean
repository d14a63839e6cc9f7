import NetAtlas.Decimal.Numeral
import NetAtlas.Fault
import NetAtlas.Number

/-!
Reading fields out of document values, leniently where a field may have any type.
-/

namespace NetAtlas

/-- The result of reading a value. -/
abbrev Read := Except Fault

/-- The entries of a mapping; any other value has no fields to look up. -/
def Value.entries : Value → Read (List (Atom × Value))
  | .mapping es => .ok es
  | _ => .error .notARecord

/-- The entries of a value whose fields are indexed straight away. -/
def Value.indexed : Value → Read (List (Atom × Value))
  | .mapping es => .ok es
  | _ => .error .wrongType

/-- The items one gets by going through a value: the characters of a text, the keys of a mapping. -/
def Value.items : Value → Read (List Value)
  | .list vs => .ok vs
  | .text s => .ok (s.toList.map fun c => .text (String.singleton c))
  | .mapping es => .ok (es.map fun (k, _) => .atom k)
  | _ => .error .wrongType

/-- A field that has to be there. -/
def required (es : List (Atom × Value)) (name : String) : Read Value :=
  match fieldOf? es name with
  | some v => .ok v
  | none => .error (.missingField name)

/-- A field that has to be there, in written form. -/
def requiredText (es : List (Atom × Value)) (name : String) : Read String :=
  Value.plainForm <$> required es name

/-- The written form of a field, or a default for a missing one. -/
def textField (es : List (Atom × Value)) (name absent : String) : String :=
  match fieldOf? es name with
  | some v => v.plainForm
  | none => absent

/-- A number as a float. Texts are read as numerals. -/
def Value.toFloat : Value → Read (Option Float)
  | .text s => .ok (Decimal.readFloat? s)
  | v =>
    match v.number? with
    | none => .ok none
    | some n =>
      match n.toFloat? with
      | some x => .ok (some x)
      | none => .error .outOfRange

/-- A field as a float, zero if there is no number in it. An integer out of range is a fault. -/
def floatField (es : List (Atom × Value)) (name : String) : Read Float :=
  match fieldOf? es name with
  | some v => (·.getD 0.0) <$> v.toFloat
  | none => .ok 0.0

/-- A number cut to an integer; texts have to be integer numerals. -/
def Value.toInt : Value → Read Int
  | .text s =>
    match Decimal.readInt? s with
    | some n => .ok n
    | none => .error (.notAnInteger s)
  | .float x =>
    match FloatKind.of x with
    | .finite d => .ok d.truncate
    | .infinite _ => .error .infinite
    | .notANumber => .error .notANumber
  | v =>
    match v.integer? with
    | some n => .ok n
    | none => .error .wrongType

def intField (es : List (Atom × Value)) (name : String) (absent : Int) : Read Int :=
  match fieldOf? es name with
  | some v => v.toInt
  | none => .ok absent

end NetAtlas
