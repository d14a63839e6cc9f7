import NetAtlas.Value

/-!
Why a document value cannot be used.
-/

namespace NetAtlas

/-- The name of a value's kind in complaints about it. -/
def Value.kindName : Value → String
  | .null => "NoneType"
  | .bool _ => "bool"
  | .int _ => "int"
  | .float _ => "float"
  | .text _ => "str"
  | .list _ => "list"
  | .mapping _ => "dict"

/-- Causes of failure while a value is read or computed with. -/
inductive Fault where
  /-- A field without which there is no record. -/
  | missingField (name : String)
  /-- The value has a type that the operation is not defined for. -/
  | wrongType
  /-- A value that is no integer, where nothing else will do. -/
  | needsInteger (found : Value)
  /-- Two values that no order is defined for. -/
  | incomparable (sign : String) (left right : Value)
  /-- Fields were asked of a value that is no mapping. -/
  | notARecord
  /-- An integer beyond the range of floats. -/
  | outOfRange
  /-- An infinite number where an integer is needed. -/
  | infinite
  | divisionByZero
  /-- A text that is no integer numeral. -/
  | notAnInteger (text : String)
  /-- An integer was asked of what is not a number. -/
  | notANumber
  /-- A value outside an enumeration. -/
  | notAmong (value : Value) (enumeration : String)
  /-- A value that a rule of the settings excludes, in the rule's words. -/
  | rejected (reason : String)

namespace Fault

def message : Fault → String
  | .missingField name => quoted name
  | .wrongType => "value of the wrong type"
  | .needsInteger found => s!"'{found.kindName}' object cannot be interpreted as an integer"
  | .incomparable sign left right =>
    s!"'{sign}' not supported between instances of '{left.kindName}' and '{right.kindName}'"
  | .notARecord => "value without fields"
  | .outOfRange => "int too large to convert to float"
  | .infinite => "cannot convert float infinity to integer"
  | .divisionByZero => "float division by zero"
  | .notAnInteger text => "invalid literal for int() with base 10: " ++ quoted text
  | .notANumber => "cannot convert float NaN to integer"
  | .notAmong value enumeration => value.quotedForm ++ " is not a valid " ++ enumeration
  | .rejected reason => reason

end Fault

end NetAtlas
