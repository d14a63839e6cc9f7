import NetAtlas.Failure
import NetAtlas.Gazetteer.City
import NetAtlas.Geography
import NetAtlas.Json.Writer
import NetAtlas.Location
import NetAtlas.Topology

/-!
What commands tell their user.
-/

namespace NetAtlas

inductive Message where
  | started (task : String)
  /-- The time that a task took, in seconds. -/
  | completed (task elapsed : String)
  | gaveUp (task elapsed : String)
  | settingsMissing (path : String)
  | settingsRefused (path : String) (cause : Failure)
  | nothingToRender
  | topologyWritten (path : String)
  | devicesWritten (path : String)
  | mapWritten (path : String)
  | overview (t : Topology)
  | issues (count : Nat)
  | document (indent : Nat) (t : Topology)
  | failed (cause : Failure)
  | found (text : String) (city : City)
  | notFound (text : String)
  | position (p : Point Float)
  | pinned
  | nudged (region : String)
  | summary (text : String)
  | usage
deriving Inhabited

namespace Message

def usageText : String :=
  "\n".intercalate
    ["usage: geotopo [-h] [-v] [--quiet] command ...",
     "",
     "Synthesize geographic network topologies from device inventories.",
     "",
     "commands:",
     "  generate [config] -i FILE [-o PATH] [--seed N] [--map FILE] [--devices-out FILE] [--print]",
     "           Build a topology from an inventory JSON file",
     "  locate [--config FILE] location ...",
     "           Resolve location strings to coordinates",
     "  project [--config FILE] latitude longitude",
     "           Convert latitude/longitude to map coordinates",
     "  info [config]",
     "           Show configuration and data source information",
     "",
     "options:",
     "  -h, --help     show this help message and exit",
     "  -v, --verbose  enable debug logging",
     "  --quiet        suppress console output (logs only)"]

/-- Counts and health in one line. -/
def overviewText (t : Topology) : String :=
  s!"Nodes: {t.statistics.totalNodes} ({t.statistics.activeNodes} active), "
    ++ s!"edges: {t.edges.length}, health: {t.health.level.name} ("
    ++ Decimal.fixedText 1 t.health.score ++ ")"

def foundText (text : String) (city : City) : String :=
  s!"✅ {quoted text}: {city.name}, {city.country} ("
    ++ Decimal.fixedText 4 city.coordinates.latitude ++ ", "
    ++ Decimal.fixedText 4 city.coordinates.longitude ++ s!") [{city.coordinates.region}]"

def notFoundText (text : String) : String :=
  let l := Location.ofText text
  let country := (l.country.map quoted).getD "None"
  s!"❌ {quoted text}: not found (city={quoted l.city}, country={country})"

def text : Message → String
  | .started task => s!"🔄 {task}..."
  | .completed task elapsed => s!"✅ {task} (completed in {elapsed}s)"
  | .gaveUp task elapsed => s!"❌ {task} (failed after {elapsed}s)"
  | .settingsMissing path => s!"❌ Configuration file not found: {path}"
  | .settingsRefused path cause =>
    s!"❌ Configuration error: {cause.message}\n💡 Check YAML syntax in: {path}"
  | .nothingToRender => "⚠️  Inventory contains no devices to render; nothing written"
  | .topologyWritten path => s!"📄 Topology → {path}"
  | .devicesWritten path => s!"📄 Devices with links → {path}"
  | .mapWritten path => s!"🗺️  Map preview → {path}"
  | .overview t => overviewText t
  | .issues count => s!"⚠️  {count} validation issues (see log)"
  | .document indent t => Json.render (some indent) t.toValue
  | .failed cause => s!"❌ ERROR: {cause.message}"
  | .found text city => foundText text city
  | .notFound text => notFoundText text
  | .position p => "x=" ++ Decimal.fixedText 2 p.x ++ " y=" ++ Decimal.fixedText 2 p.y
  | .pinned => "source: hand-placed override"
  | .nudged region => s!"boundary adjustment: {region}"
  | .summary text => text
  | .usage => usageText

end Message

end NetAtlas
