import NetAtlas.Fault
import NetAtlas.Settings
import NetAtlas.Value.Reading

/-!
Settings at a glance.
-/

namespace NetAtlas.Settings

/-- A number in few digits. -/
def brief (v : Value) : Read String :=
  match v with
  | .text _ => .error (.rejected s!"Unknown format code 'g' for object of type '{v.kindName}'")
  | _ =>
    match v.number? with
    | none => .error .wrongType
    | some n =>
      match n.toFloat? with
      | some x => .ok (Decimal.generalText x)
      | none => .error .outOfRange

def rule (width : Nat) (c : Char) : String := String.ofList (List.replicate width c)

/-- The summary, given whether the table of cities is there. -/
def summary (s : Settings) (gazetteerFound : Bool) : Read String := do
  let width ← brief s.projection.viewWidth
  let height ← brief s.projection.viewHeight
  let latitude ← brief s.projection.maxLatitude
  let healthy ← brief s.synthesis.healthy
  let warning ← brief s.synthesis.warning
  let seed :=
    match s.synthesis.seed with
    | .null => "random"
    | v => v.plainForm
  let found := if gazetteerFound then "found" else "missing"
  return "\n".intercalate
    ["GEOTOPO CONFIGURATION",
     rule 60 '=',
     "",
     "DATA SOURCES",
     rule 30 '-',
     s!"   Gazetteer: {s.sources.gazetteer} ({found})",
     "   Map descriptor: " ++ s.sources.map.getD "default 2000x857",
     "",
     "PROJECTION",
     rule 30 '-',
     s!"   Viewport: {width}x{height}",
     s!"   Max Latitude: ±{latitude}°",
     "",
     "SYNTHESIS",
     rule 30 '-',
     s!"   Seed: {seed}",
     s!"   Extra Edges: n // {s.synthesis.divisor.plainForm}",
     s!"   Links per Device: {s.synthesis.linkCounts.1.plainForm}-"
       ++ s.synthesis.linkCounts.2.plainForm,
     s!"   Health Thresholds: healthy >= {healthy}, warning >= {warning}",
     "",
     "SERVICE",
     rule 30 '-',
     s!"   Service: {s.service.name.plainForm} (area {s.service.area.plainForm})",
     s!"   Topology Key: {s.service.topologyId.plainForm}",
     "",
     rule 60 '=']

end NetAtlas.Settings
