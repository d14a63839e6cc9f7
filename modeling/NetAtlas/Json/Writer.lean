import NetAtlas.Value

/-!
Writing JSON in ASCII, one item a line.
-/

namespace NetAtlas.Json

def unit (n : Nat) : List Char := '\\' :: 'u' :: Text.hexDigits 4 n

/-- One character inside quotes. Beyond the first plane it takes a pair of codes. -/
def escape (c : Char) : List Char :=
  if c = '"' then ['\\', '"']
  else if c = '\\' then ['\\', '\\']
  else if c = '\n' then ['\\', 'n']
  else if c = '\r' then ['\\', 'r']
  else if c = '\t' then ['\\', 't']
  else if c = '\x08' then ['\\', 'b']
  else if c = '\x0c' then ['\\', 'f']
  else if 0x20 ≤ c.toNat ∧ c.toNat < 0x7F then [c]
  else if c.toNat < 0x10000 then unit c.toNat
  else
    let n := c.toNat - 0x10000
    unit (0xD800 + n / 0x400) ++ unit (0xDC00 + n % 0x400)

def stringText (s : String) : String := String.ofList ('"' :: (s.toList.flatMap escape ++ ['"']))

def floatText (x : Float) : String :=
  match FloatKind.of x with
  | .finite _ => Decimal.shortestText x
  | .infinite false => "Infinity"
  | .infinite true => "-Infinity"
  | .notANumber => "NaN"

def atomText : Atom → String
  | .null => "null"
  | .bool true => "true"
  | .bool false => "false"
  | .int n => toString n
  | .float x => floatText x
  | .text s => stringText s

/-- Names are always strings; any other key is written as the text of its value. -/
def nameText : Atom → String
  | .text s => stringText s
  | k => stringText (atomText k)

/-- A new line at the given depth, or just `otherwise` when all stands on one line. -/
def breakLine (indent : Option Nat) (depth : Nat) (otherwise : String) : String :=
  match indent with
  | some n => String.ofList ('\n' :: List.replicate (n * depth) ' ')
  | none => otherwise

/-- Puts written parts between brackets, each part on a line of its own if there is an indent;
nothing stands between the brackets if there is no part. -/
def bracketed (indent : Option Nat) (depth : Nat) (opening closing : String)
    (parts : List String) : String :=
  if parts.isEmpty then opening ++ closing
  else
    opening ++ breakLine indent (depth + 1) ""
      ++ ("," ++ breakLine indent (depth + 1) " ").intercalate parts
      ++ breakLine indent depth "" ++ closing

mutual

def valueText (indent : Option Nat) (depth : Nat) : Value → String
  | .atom a => atomText a
  | .list vs => bracketed indent depth "[" "]" (itemTexts indent (depth + 1) vs)
  | .mapping es => bracketed indent depth "\x7b" "\x7d" (memberTexts indent (depth + 1) es)

def itemTexts (indent : Option Nat) (depth : Nat) : List Value → List String
  | [] => []
  | v :: vs => valueText indent depth v :: itemTexts indent depth vs

def memberTexts (indent : Option Nat) (depth : Nat) : List (Atom × Value) → List String
  | [] => []
  | (k, v) :: es =>
    (nameText k ++ ": " ++ valueText indent depth v) :: memberTexts indent depth es

end

/-- The text of a value, with so many spaces for each level, or on one line. -/
def render (indent : Option Nat) (v : Value) : String := valueText indent 0 v

end NetAtlas.Json
