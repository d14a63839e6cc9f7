import NetAtlas.Text.Lines
import NetAtlas.Text.Utf8
import NetAtlas.Value.Order

/-!
Reading JSON. Beside the standard's values, `NaN`, `Infinity` and `-Infinity` are accepted, and of
a repeated key the last value counts.
-/

namespace NetAtlas.Json

/-- What is wrong with a text. -/
inductive Problem where
  | noValue
  | noName
  | noColon
  | noComma
  | openString
  | controlCharacter
  | badEscape
  | badCode
  | extraData
  | byteOrderMark
deriving DecidableEq, Repr

def Problem.message : Problem → String
  | .noValue => "Expecting value"
  | .noName => "Expecting property name enclosed in double quotes"
  | .noColon => "Expecting ':' delimiter"
  | .noComma => "Expecting ',' delimiter"
  | .openString => "Unterminated string starting at"
  | .controlCharacter => "Invalid control character at"
  | .badEscape => "Invalid \\escape"
  | .badCode => "Invalid \\uXXXX escape"
  | .extraData => "Extra data"
  | .byteOrderMark => "Unexpected UTF-8 BOM (decode using utf-8-sig)"

/-- A problem, and how many characters are left at the place where it was found. -/
structure Refusal where
  problem : Problem
  left : Nat

def refuse {α : Type} (problem : Problem) (rest : List Char) : Except Refusal α :=
  .error ⟨problem, rest.length⟩

def isSpace (c : Char) : Bool := c = ' ' || c = '\t' || c = '\n' || c = '\r'

def skip (cs : List Char) : List Char := cs.dropWhile isSpace

def hexValue? (c : Char) : Option Nat :=
  if '0' ≤ c ∧ c ≤ '9' then some (c.toNat - 48)
  else if 'a' ≤ c ∧ c ≤ 'f' then some (c.toNat - 87)
  else if 'A' ≤ c ∧ c ≤ 'F' then some (c.toNat - 55)
  else none

/-- Four hexadecimal digits. -/
def code? : List Char → Option (Nat × List Char)
  | a :: b :: c :: d :: cs => do
    let a ← hexValue? a
    let b ← hexValue? b
    let c ← hexValue? c
    let d ← hexValue? d
    return (((a * 16 + b) * 16 + c) * 16 + d, cs)
  | _ => none

/-- The character of a code. The second half of a pair of codes is taken from what follows; a half
without the other one becomes the replacement character. -/
def characterOf (code : Nat) (cs : List Char) : Char × List Char :=
  if 0xD800 ≤ code ∧ code < 0xDC00 then
    match cs with
    | '\\' :: 'u' :: rest =>
      match code? rest with
      | some (low, rest) =>
        if 0xDC00 ≤ low ∧ low < 0xE000 then
          (Char.ofNat (0x10000 + (code - 0xD800) * 0x400 + (low - 0xDC00)), rest)
        else ('\uFFFD', cs)
      | none => ('\uFFFD', cs)
    | _ => ('\uFFFD', cs)
  else if 0xDC00 ≤ code ∧ code < 0xE000 then ('\uFFFD', cs)
  else (Char.ofNat code, cs)

def escaped? : Char → Option Char
  | '"' => some '"'
  | '\\' => some '\\'
  | '/' => some '/'
  | 'b' => some '\x08'
  | 'f' => some '\x0c'
  | 'n' => some '\n'
  | 'r' => some '\r'
  | 't' => some '\t'
  | _ => none

/-- The rest of a string after its opening quote, which is the first character of `opened`. A code
at the very end of the text counts as cut off. -/
def string (opened : List Char) :
    (fuel : Nat) → List Char → (read : List Char) → Except Refusal (String × List Char)
  | 0, _, _ => refuse .openString opened
  | _ + 1, [], _ => refuse .openString opened
  | fuel + 1, c :: cs, read =>
    if c = '"' then .ok (String.ofList read.reverse, cs)
    else if c = '\\' then
      match cs with
      | [] => refuse .openString opened
      | 'u' :: rest =>
        match code? rest with
        | none | some (_, []) => refuse .badCode cs
        | some (code, rest) =>
          let (d, rest) := characterOf code rest
          string opened fuel rest (d :: read)
      | e :: rest =>
        match escaped? e with
        | some d => string opened fuel rest (d :: read)
        | none => refuse .badEscape (c :: cs)
    else if c.toNat < 0x20 then refuse .controlCharacter (c :: cs)
    else string opened fuel cs (c :: read)

def isAsciiDigit (c : Char) : Bool := decide ('0' ≤ c) && decide (c ≤ '9')

def asciiDigits (cs : List Char) : List Nat × List Char :=
  ((cs.takeWhile isAsciiDigit).map fun c => c.toNat - 48, cs.dropWhile isAsciiDigit)

/-- The digits before the point: a single zero, or digits that do not start with one. -/
def wholeDigits : List Char → List Nat × List Char
  | '0' :: cs => ([0], cs)
  | cs => asciiDigits cs

/-- A point with digits after it, if there are any. -/
def fractionDigits (cs : List Char) : List Nat × List Char :=
  match cs with
  | '.' :: rest =>
    match asciiDigits rest with
    | ([], _) => ([], cs)
    | found => found
  | _ => ([], cs)

/-- An exponent, if there is a complete one. -/
def exponent (cs : List Char) : Option Int × List Char :=
  match cs with
  | c :: rest =>
    if c = 'e' ∨ c = 'E' then
      let (negative, rest) := Decimal.signOf rest
      match asciiDigits rest with
      | ([], _) => (none, cs)
      | (ds, rest) => (some (if negative then -(Decimal.ofDigits ds : Int) else Decimal.ofDigits ds), rest)
    else (none, cs)
  | [] => (none, cs)

/-- A number: an integer, unless it has a fraction or an exponent. -/
def number (cs : List Char) : Except Refusal (Value × List Char) :=
  let (negative, body) :=
    match cs with
    | '-' :: rest => (true, rest)
    | _ => (false, cs)
  match wholeDigits body with
  | ([], _) => refuse .noValue cs
  | (whole, rest) =>
    let (fraction, rest) := fractionDigits rest
    let (power, rest) := exponent rest
    if fraction.isEmpty && power.isNone then
      let n := Decimal.ofDigits whole
      .ok (.int (if negative then -(n : Int) else n), rest)
    else
      let units := Decimal.ofDigits (whole ++ fraction)
      .ok (.float (Decimal.scaled negative units (power.getD 0 - fraction.length)), rest)

/-- The names that are values. -/
def words : List (List Char × Value) :=
  [("null".toList, .null), ("true".toList, .bool true), ("false".toList, .bool false),
   ("NaN".toList, .float (0.0 / 0.0)), ("Infinity".toList, .float (1.0 / 0.0)),
   ("-Infinity".toList, .float (-(1.0 / 0.0)))]

/-- A word, or a number. -/
def plain (cs : List Char) : Except Refusal (Value × List Char) :=
  match words.find? fun (word, _) => word.isPrefixOf cs with
  | some (word, v) => .ok (v, cs.drop word.length)
  | none => number cs

/-- The entries of an object in the order of their first keys, from the last entry backwards. -/
def collect (es : List (Atom × Value)) : List (Atom × Value) :=
  es.foldr (fun (k, v) acc => assign acc k v) []

mutual

/-- A value at the front of the text. The fuel bounds the characters read. -/
def value : (fuel : Nat) → List Char → Except Refusal (Value × List Char)
  | 0, cs => refuse .noValue cs
  | fuel + 1, cs =>
    match cs with
    | '"' :: rest => do
      let (s, rest) ← string cs fuel rest []
      return (.text s, rest)
    | '[' :: rest =>
      match skip rest with
      | ']' :: rest => .ok (.list [], rest)
      | rest => items fuel rest []
    | '\x7b' :: rest =>
      match skip rest with
      | '\x7d' :: rest => .ok (.mapping [], rest)
      | rest => members fuel rest []
    | _ => plain cs

/-- The items of a list up to its end, after those in `read`, last one first. -/
def items : (fuel : Nat) → List Char → (read : List Value) → Except Refusal (Value × List Char)
  | 0, cs, _ => refuse .noValue cs
  | fuel + 1, cs, read => do
    let (v, rest) ← value fuel cs
    match skip rest with
    | ']' :: rest => return (.list (v :: read).reverse, rest)
    | ',' :: rest => items fuel (skip rest) (v :: read)
    | rest => refuse .noComma rest

/-- The entries of an object up to its end, after those in `read`, last one first. -/
def members : (fuel : Nat) → List Char → (read : List (Atom × Value)) → Except Refusal (Value × List Char)
  | 0, cs, _ => refuse .noName cs
  | fuel + 1, cs, read =>
    match cs with
    | '"' :: rest => do
      let (name, rest) ← string cs fuel rest []
      match skip rest with
      | ':' :: rest =>
        let (v, rest) ← value fuel (skip rest)
        match skip rest with
        | '\x7d' :: rest => return (.mapping (collect ((.text name, v) :: read)), rest)
        | ',' :: rest => members fuel (skip rest) ((.text name, v) :: read)
        | rest => refuse .noComma rest
      | rest => refuse .noColon rest
    | _ => refuse .noName cs

end

/-- Why a text is no JSON document, and where. -/
structure TextError where
  problem : Problem
  line : Nat
  column : Nat
  offset : Nat
deriving Repr

/-- Finds line and column of an offset. -/
def TextError.at (problem : Problem) (cs : List Char) (offset : Nat) : TextError :=
  let before := cs.take offset
  { problem
    line := before.count '\n' + 1
    column := (before.reverse.takeWhile (· ≠ '\n')).length + 1
    offset }

def TextError.message (e : TextError) : String :=
  s!"{e.problem.message}: line {e.line} column {e.column} (char {e.offset})"

def document (cs : List Char) : Except Refusal Value := do
  if cs.head? = some '\uFEFF' then refuse .byteOrderMark cs
  let (v, rest) ← value (2 * cs.length + 2) (skip cs)
  match skip rest with
  | [] => return v
  | rest => refuse .extraData rest

/-- The value that a whole text holds. -/
def parse (s : String) : Except TextError Value :=
  let cs := s.toList
  match document cs with
  | .ok v => .ok v
  | .error r => .error (.at r.problem cs (cs.length - r.left))

/-- The value that a file holds, whatever ends its lines. -/
def parseFile (bytes : List UInt8) : Except TextError Value :=
  parse (String.ofList (Text.unixLines (Text.Utf8.decode bytes).toList))

end NetAtlas.Json
