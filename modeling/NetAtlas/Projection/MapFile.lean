import NetAtlas.Notice
import NetAtlas.Path
import NetAtlas.Projection.BaseMap
import NetAtlas.Text.Lines
import NetAtlas.Text.Utf8
import NetAtlas.Text.Word

/-!
Reading size and view box of a map from the text of an SVG file. An attribute that is missing or
makes no sense falls back to the default.
-/

namespace NetAtlas

namespace MapFile

/-- A letter, in either case; two more letters count as an `i`. -/
def sameLetter (letter c : Char) : Bool :=
  c.toLower = letter || (letter = 'i' && (c = '\u0130' || c = '\u0131'))

/-- What follows a name at the front of the text, in either case. -/
def afterName? : (name : List Char) → List Char → Option (List Char)
  | [], cs => some cs
  | letter :: name, c :: cs => if sameLetter letter c then afterName? name cs else none
  | _ :: _, [] => none

/-- The value of an attribute at the front of the text: some allowed characters in quotes. -/
def valueAt? (name : List Char) (allowed : Char → Bool) (cs : List Char) : Option (List Char) :=
  match afterName? name cs with
  | some ('=' :: '"' :: rest) =>
    match rest.takeWhile allowed, rest.dropWhile allowed with
    | c :: value, '"' :: _ => some (c :: value)
    | _, _ => none
  | _ => none

/-- The value of the first attribute of a name, where the name starts a word. `inWord` says that
the character in front of the text belongs to one. -/
def attribute? (name : List Char) (allowed : Char → Bool) :
    (inWord : Bool) → List Char → Option (List Char)
  | _, [] => none
  | true, c :: cs => attribute? name allowed (Text.isWordChar c) cs
  | false, c :: cs =>
    (valueAt? name allowed (c :: cs)).or (attribute? name allowed (Text.isWordChar c) cs)

def inNumber (c : Char) : Bool := (decide ('0' ≤ c) && decide (c ≤ '9')) || c = '.'

def inViewBox (c : Char) : Bool := inNumber c || c = ',' || c = '-' || Text.isBlank c

/-- A number of an attribute, if it is one and greater than zero. -/
def positive? (name : String) (cs : List Char) : Option Float :=
  match attribute? name.toList inNumber false cs with
  | some digits => (Decimal.readFloat? (String.ofList digits)).filter fun x => 0.0 < x
  | none => none

/-- The numbers of a view box. A list of other length than four stands for no view box; so do four
words that are not all numbers, which is worth a notice. -/
def viewBox? (path : String) (cs : List Char) :
    Option (Float × Float × Float × Float) × List Notice :=
  match attribute? "viewbox".toList inViewBox false cs with
  | none => (none, [])
  | some found =>
    match Text.runs (fun c => c = ',' || Text.isBlank c) found with
    | [x, y, width, height] =>
      match [x, y, width, height].mapM fun word => Decimal.readFloat? (String.ofList word) with
      | some [x, y, width, height] => (some (x, y, width, height), [])
      | _ => (none, [.viewBoxIgnored path (String.ofList found)])
    | _ => (none, [])

/-- The map that a text describes. -/
def baseMapOf (path : String) (cs : List Char) : BaseMap Float × List Notice :=
  let width := (positive? "width" cs).getD defaultWidth
  let height := (positive? "height" cs).getD defaultHeight
  let plain : BaseMap Float := ⟨width, height, 0.0, 0.0, width, height⟩
  match viewBox? path cs with
  | (none, notices) => (plain, notices)
  | (some (x, y, boxWidth, boxHeight), notices) =>
    let placed := { plain with left := x, top := y }
    if 0.0 < boxWidth ∧ 0.0 < boxHeight then
      ({ placed with boxWidth, boxHeight }, notices)
    else (placed, notices)

/-- Reports the size in whole units; a size beyond all numbers has none, which is a fault. -/
def report (path : String) (b : BaseMap Float) : Read Notice := do
  let width ← (Value.float b.width).toInt
  let height ← (Value.float b.height).toInt
  return .mapLoaded (Path.fileName path) width height b.left b.top b.boxWidth b.boxHeight

/-- Loads the map at a path, given what reading the file gave. -/
def load (path : String) (file : Except AccessError (List UInt8)) :
    Except Failure (BaseMap Float) × List Notice :=
  match file with
  | .error e => (.error (.load ⟨path, .access e⟩), [])
  | .ok bytes =>
    let (base, notices) := baseMapOf path (Text.unixLines (Text.Utf8.decode bytes).toList)
    match report path base with
    | .ok notice => (.ok base, notices ++ [notice])
    | .error f => (.error (.fault f), notices)

/-- Loads a map that may be missing: the default map takes its place. -/
def loadOrDefault (path : String) (file : Except AccessError (List UInt8)) :
    Except Failure (BaseMap Float) × List Notice :=
  match load path file with
  | (.error (.load e), notices) => (.ok .default, notices ++ [.mapUnavailable e])
  | loaded => loaded

end MapFile

end NetAtlas
