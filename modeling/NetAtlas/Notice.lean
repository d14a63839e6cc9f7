import NetAtlas.Failure
import NetAtlas.Topology.Issue
import NetAtlas.Topology.Summary

/-!
What the program reports while it works, each report with its level, the part of the program that
makes it, and its text.
-/

namespace NetAtlas

inductive Level where
  | debug
  | info
  | warning
  | error
deriving DecidableEq, Repr

def Level.name : Level → String
  | .debug => "DEBUG"
  | .info => "INFO"
  | .warning => "WARNING"
  | .error => "ERROR"

inductive Notice where
  | readingGazetteer (path : String)
  | incompleteRow (row : Nat)
  | badLatitude (city : String) (row : Nat) (found : String)
  | badLongitude (city : String) (row : Nat) (found : String)
  | gazetteerLoaded (cities names skipped : Nat)
  | gazetteerUnavailable (e : LoadError)
  | notLocated (device location : String)
  | located (device : String) (place : Coordinates) (location : String)
  | noDevices
  | withoutEquipment (count : Nat)
  | noEquipment
  | locatedCount (found total : Nat)
  | generated (nodes edges : Nat) (health : Health)
  | violated (topology : Value) (issue : Issue)
  | valid (topology : Value)
  | viewBoxIgnored (path found : String)
  | mapLoaded (file : String) (width height : Int) (x y boxWidth boxHeight : Float)
  | mapUnavailable (e : LoadError)
  | malformedRecord (record : Value)
  | recordSkipped (id : Value) (cause : Fault)
  | activated (name area : Value)
  | nothingGenerated
  | requesting
  | generating (devices : Nat)
  | cacheFailed (cause : String)
  | savingTopology (path : String)
  | topologySaved (nodes edges bytes : Nat)
  | readingTopology (path : String)
  | inventoryLoaded (devices : Nat) (path : String)
  | inventorySaved (devices : Nat) (path : String)
  | readingSettings (path : String)
  | badYaml (problem : String)
  | validating
  | mapSaved (path : String)
  | started (task : String)
  | completed (task elapsed : String)
  | failed (task elapsed cause : String)
  | settingsLoaded (path : String)
  | settingsMissing (path : String)
  | settingsFailed (cause : Failure)

namespace Notice

def level : Notice → Level
  | .located .. | .valid .. | .validating => .debug
  | .incompleteRow .. | .badLatitude .. | .badLongitude .. | .gazetteerUnavailable .. | .violated ..
  | .viewBoxIgnored .. | .mapUnavailable .. | .malformedRecord .. | .recordSkipped .. => .warning
  | .nothingGenerated | .cacheFailed .. | .badYaml .. | .failed .. | .settingsMissing ..
  | .settingsFailed .. => .error
  | _ => .info

/-- The part of the program that reports. -/
def speaker : Notice → String
  | .readingGazetteer .. | .incompleteRow .. | .badLatitude .. | .badLongitude ..
  | .gazetteerLoaded .. | .gazetteerUnavailable .. => "gazetteer"
  | .notLocated .. | .located .. => "resolver"
  | .noDevices | .withoutEquipment .. | .noEquipment | .locatedCount .. | .generated ..
  | .violated .. | .valid .. => "synthesizer"
  | .viewBoxIgnored .. | .mapLoaded .. | .mapUnavailable .. => "projection"
  | .malformedRecord .. | .recordSkipped .. | .activated .. | .nothingGenerated | .requesting
  | .generating .. | .cacheFailed .. => "service"
  | .savingTopology .. | .topologySaved .. | .readingTopology .. | .inventoryLoaded ..
  | .inventorySaved .. => "export"
  | .readingSettings .. | .badYaml .. | .validating => "config"
  | .mapSaved .. => "visualization"
  | .started .. | .completed .. | .failed .. | .settingsLoaded .. | .settingsMissing ..
  | .settingsFailed .. => "cli"

/-- Thousandths of a file's size in kilobytes do not show: one decimal place. -/
def kilobytes (bytes : Nat) : String := Decimal.fixedText 1 (Float.ofNat bytes / 1024.0)

def text : Notice → String
  | .readingGazetteer path => "Loading gazetteer from: " ++ path
  | .incompleteRow row => s!"Skipping incomplete gazetteer row {row}"
  | .badLatitude city row found =>
    s!"Invalid latitude for city {quoted city} at row {row}: {quoted found}"
  | .badLongitude city row found =>
    s!"Invalid longitude for city {quoted city} at row {row}: {quoted found}"
  | .gazetteerLoaded cities names skipped =>
    "Loaded " ++ Decimal.grouped cities ++ " cities (" ++ Decimal.grouped names ++ " names, "
      ++ toString skipped ++ " rows skipped)"
  | .gazetteerUnavailable e =>
    "Could not load gazetteer: " ++ e.message ++ ". Location resolution disabled."
  | .notLocated device location =>
    s!"Could not find coordinates for {device} location: {quoted location}"
  | .located device place location =>
    "Updated " ++ device ++ " coordinates: " ++ Decimal.fixedText 4 place.latitude ++ ", "
      ++ Decimal.fixedText 4 place.longitude ++ " (from location: " ++ quoted location ++ ")"
  | .noDevices => "No devices supplied; skipping topology generation"
  | .withoutEquipment count => s!"Skipping {count} devices without equipment metadata"
  | .noEquipment => "No devices with equipment metadata; skipping topology generation"
  | .locatedCount found total => s!"Resolved coordinates for {found}/{total} devices"
  | .generated nodes edges health =>
    s!"Generated topology: {nodes} nodes, {edges} edges, health {health.level.name} ("
      ++ Decimal.fixedText 1 health.score ++ ")"
  | .violated topology issue => s!"Topology {topology.plainForm}: {issue.text}"
  | .valid topology => s!"Topology {topology.plainForm} passed validation"
  | .viewBoxIgnored path found => s!"Ignoring unparsable viewBox in {path}: {quoted found}"
  | .mapLoaded file width height x y boxWidth boxHeight =>
    s!"Loaded map descriptor {file}: {width}x{height}, ViewBox: "
      ++ " ".intercalate ([x, y, boxWidth, boxHeight].map (Decimal.fixedText 0))
  | .mapUnavailable e => "Could not load map descriptor: " ++ e.message ++ ". Using defaults."
  | .malformedRecord record =>
    "Skipping malformed inventory record: " ++ String.ofList (record.quotedForm.toList.take 80)
  | .recordSkipped id cause => s!"Skipping inventory record {id.quotedForm}: {cause.message}"
  | .activated name area =>
    s!"Activated topology service {name.plainForm} area {area.plainForm}"
  | .nothingGenerated => "No topology has been generated yet"
  | .requesting => "Requesting device data"
  | .generating devices => s!"Generating network topology from {devices} devices"
  | .cacheFailed cause => "Cache error: " ++ cause
  | .savingTopology path => "Saving topology to JSON: " ++ path
  | .topologySaved nodes edges bytes =>
    s!"Saved topology: {nodes} nodes, {edges} edges (" ++ kilobytes bytes ++ " KB)"
  | .readingTopology path => "Loading topology from JSON: " ++ path
  | .inventoryLoaded devices path => s!"Loaded {devices} devices from {path}"
  | .inventorySaved devices path => s!"Saved {devices} devices to {path}"
  | .readingSettings path => "Loading configuration from: " ++ path
  | .badYaml problem => "Invalid YAML in configuration: " ++ problem
  | .validating => "Validating configuration"
  | .mapSaved path => "Saved topology map → " ++ path
  | .started task => "Starting " ++ task
  | .completed task elapsed => s!"Completed {task} in {elapsed}s"
  | .failed task elapsed cause => s!"Failed {task} after {elapsed}s: {cause}"
  | .settingsLoaded path => "Loaded configuration from " ++ path
  | .settingsMissing path => "Configuration file not found: " ++ path
  | .settingsFailed cause => "Failed to load config: " ++ cause.message

/-- A line of the log. -/
def line (n : Notice) : String := s!"{n.level.name} {n.speaker}: {n.text}"

end Notice

end NetAtlas
