import NetAtlas.Command.Options
import NetAtlas.Decimal.Numeral

/-!
The commands, and how they are written on a command line.
-/

namespace NetAtlas

/-- What to generate a topology from, and where to put it. -/
structure Order where
  settings : String
  inventory : String
  output? : Option String
  seed? : Option Int
  map? : Option String
  devicesOutput? : Option String
  /-- Whether to show the topology as well. -/
  shown : Bool

inductive Command where
  | generate (o : Order)
  | locate (settings : String) (locations : List String)
  | project (settings : String) (latitude longitude : Float)
  | info (settings : String)

/-- A command line that has been read. It may be without a command. -/
structure Invocation where
  verbose : Bool
  quiet : Bool
  command? : Option Command

namespace Command

def defaultSettings : String := "geotopo.yml"

def settingsSlot : Slot := ⟨"config", .atMostOne, fun _ => true⟩

def settingsSwitch : Switch := valued "config" ["--config"]

def settingsOf (given : Given) : String := (valueOf? given "config").getD defaultSettings

/-- The value of a key, where an empty text is no value. -/
def filled? (given : Given) (key : String) : Option String :=
  (valueOf? given key).filter (· ≠ "")

def isFloat (s : String) : Bool := (Decimal.readFloat? s).isSome

def isInt (s : String) : Bool := (Decimal.readInt? s).isSome

def floatOf (given : Given) (key : String) : Float :=
  ((valueOf? given key).bind Decimal.readFloat?).getD 0.0

def generateSwitches : List Switch :=
  [helpSwitch,
   valued "inventory" ["-i", "--inventory"],
   valued "output" ["-o", "--output"],
   ⟨"seed", ["--seed"], some isInt⟩,
   valued "map" ["--map"],
   valued "devices" ["--devices-out"],
   flag "print" ["--print"]]

def readGenerate (words : List String) : Except Stop Command := do
  let given ← readWords generateSwitches [settingsSlot] ["inventory"] words
  return .generate {
    settings := settingsOf given
    inventory := (valueOf? given "inventory").getD ""
    output? := filled? given "output"
    seed? := (valueOf? given "seed").bind Decimal.readInt?
    map? := filled? given "map"
    devicesOutput? := filled? given "devices"
    shown := (valueOf? given "print").isSome }

def readLocate (words : List String) : Except Stop Command := do
  let slots := [⟨"location", .atLeastOne, fun _ => true⟩]
  let given ← readWords [helpSwitch, settingsSwitch] slots [] words
  return .locate (settingsOf given) ((given.filter fun (key, _) => key = "location").map (·.2))

def readProject (words : List String) : Except Stop Command := do
  let slots := [⟨"latitude", .one, isFloat⟩, ⟨"longitude", .one, isFloat⟩]
  let given ← readWords [helpSwitch, settingsSwitch] slots [] words
  return .project (settingsOf given) (floatOf given "latitude") (floatOf given "longitude")

def readInfo (words : List String) : Except Stop Command := do
  let given ← readWords [helpSwitch] [settingsSlot] [] words
  return .info (settingsOf given)

/-- The command of a name, with the words behind it. -/
def read (name : String) (words : List String) : Except Stop Command :=
  match name with
  | "generate" => readGenerate words
  | "locate" => readLocate words
  | "project" => readProject words
  | "info" => readInfo words
  | _ => .error .rejected

end Command

namespace Invocation

open Command

def switches : List Switch :=
  [helpSwitch, flag "verbose" ["-v", "--verbose"], flag "quiet" ["--quiet"]]

/-- Notes what switches in front of the command say. -/
def note (i : Invocation) (given : Given) : Invocation :=
  { i with
    verbose := i.verbose || (given.lookup "verbose").isSome
    quiet := i.quiet || (given.lookup "quiet").isSome }

/-- Reads on; `stray` says that there was a word that has no place. -/
def readOn (i : Invocation) (stray : Bool) : List String → Except Stop Invocation
  | [] => if stray then .error .rejected else .ok i
  | word :: rest => do
    match ← wordOf switches word with
    | .plain name =>
      let command ← Command.read name rest
      if stray then .error .rejected else return { i with command? := some command }
    | .switch s long value? =>
      let (found, left) ← switched switches s long value? []
      let given ← found.mapM fun (s, value) => take s value
      readOn (i.note given.flatten) (stray || !left.isEmpty) rest
    | _ => readOn i true rest

/-- Reads a command line. A word that is short for several switches is refused wherever it is. -/
def read (words : List String) : Except Stop Invocation := do
  let _ ← wordsOf switches words
  readOn ⟨false, false, none⟩ false words

end Invocation

end NetAtlas
