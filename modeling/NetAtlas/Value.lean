import NetAtlas.Decimal.Layout
import NetAtlas.Text.Quoted

/-!
Document values: what a JSON or YAML document holds. Settings and inventory records are read from
them, and a field whose type no rule fixes keeps the value it was given.
-/

namespace NetAtlas

/-- A value without parts; the keys of a mapping are of this kind. -/
inductive Atom where
  | null
  | bool (b : Bool)
  | int (n : Int)
  | float (x : Float)
  | text (s : String)
deriving DecidableEq, Inhabited

/-- A document value. A mapping holds its entries in the order in which their keys came. -/
inductive Value where
  | atom (a : Atom)
  | list (items : List Value)
  | mapping (entries : List (Atom × Value))
deriving Inhabited

namespace Value

@[match_pattern] abbrev null : Value := .atom .null
@[match_pattern] abbrev bool (b : Bool) : Value := .atom (.bool b)
@[match_pattern] abbrev int (n : Int) : Value := .atom (.int n)
@[match_pattern] abbrev float (x : Float) : Value := .atom (.float x)
@[match_pattern] abbrev text (s : String) : Value := .atom (.text s)

/-- A mapping with text keys. -/
def record (fields : List (String × Value)) : Value :=
  .mapping (fields.map fun (k, v) => (.text k, v))

/-- Nothing, zero and what is empty count as false. What is not a number counts as true. -/
def truthy : Value → Bool
  | .null => false
  | .bool b => b
  | .int n => n != 0
  | .float x => !(x == 0.0)
  | .text s => s != ""
  | .list items => !items.isEmpty
  | .mapping entries => !entries.isEmpty

end Value

/-- The value that a field name has among the entries of a mapping. -/
def fieldOf? (entries : List (Atom × Value)) (name : String) : Option Value :=
  (entries.find? fun (k, _) => k = .text name).map (·.2)

namespace Atom

/-- The written form of a value inside another one: texts are quoted. -/
def quotedForm : Atom → String
  | .null => "None"
  | .bool true => "True"
  | .bool false => "False"
  | .int n => toString n
  | .float x => Decimal.shortestText x
  | .text s => quoted s

end Atom

namespace Value

mutual

/-- The written form of a value inside another one or in quotes. -/
def quotedForm : Value → String
  | .atom a => a.quotedForm
  | .list items => "[" ++ ", ".intercalate (quotedItems items) ++ "]"
  | .mapping entries => "\x7b" ++ ", ".intercalate (quotedEntries entries) ++ "\x7d"

def quotedItems : List Value → List String
  | [] => []
  | v :: vs => quotedForm v :: quotedItems vs

def quotedEntries : List (Atom × Value) → List String
  | [] => []
  | (k, v) :: rest => (k.quotedForm ++ ": " ++ quotedForm v) :: quotedEntries rest

end

/-- The written form of a value by itself: a text is written as it is. -/
def plainForm : Value → String
  | .text s => s
  | v => v.quotedForm

end Value

end NetAtlas
