import NetAtlas.Notice
import NetAtlas.Path
import NetAtlas.Settings
import NetAtlas.Value.Order

/-!
Reading settings from a document, and checking them. Each section may be missing, and so may each
of its fields; a field that no section knows is refused.
-/

namespace NetAtlas

namespace Settings

/-- A section by name. What counts as false is an empty section. -/
def sectionOf (es : List (Atom × Value)) (name : String) : Read (List (Atom × Value)) :=
  match fieldOf? es name with
  | none => .ok []
  | some v =>
    if !v.truthy then .ok []
    else
      match v with
      | .mapping part => .ok part
      | _ => .error (.rejected s!"'{name}' configuration section must be a dictionary")

def badSection (name reason : String) : Fault :=
  .rejected s!"Invalid '{name}' configuration section: {reason}"

def keyText? : Atom → Option String
  | .text s => some s
  | _ => none

/-- Refuses keys that are no names, and then the first name that is not among the known ones. -/
def checkNames (name kind : String) (known : List String) (part : List (Atom × Value)) :
    Read Unit :=
  match part.mapM fun (k, _) => keyText? k with
  | none => .error (badSection name "keywords must be strings")
  | some names =>
    match names.find? fun field => !known.contains field with
    | none => .ok ()
    | some field =>
      .error (badSection name s!"{kind}.__init__() got an unexpected keyword argument '{field}'")

/-- A setting, or its default. -/
def setting (part : List (Atom × Value)) (name : String) (absent : Value) : Value :=
  (fieldOf? part name).getD absent

def pathOf : Value → Read String
  | .text s => .ok (Path.normal s)
  | _ => .error .wrongType

/-- Fields that no one knows are passed over here. -/
def sourcesOf (part : List (Atom × Value)) : Read SourceSettings := do
  let gazetteer ← pathOf (setting part "gazetteer" (.text "worldcities.csv"))
  let map ←
    match setting part "map_descriptor" .null with
    | .null => pure none
    | v => some <$> pathOf v
  return { gazetteer, map }

def projectionOf (part : List (Atom × Value)) : Read ProjectionSettings := do
  checkNames "projection" "ProjectionConfig"
    ["viewport_width", "viewport_height", "max_latitude", "override_precision"] part
  let d := ProjectionSettings.default
  return {
    viewWidth := setting part "viewport_width" d.viewWidth
    viewHeight := setting part "viewport_height" d.viewHeight
    maxLatitude := setting part "max_latitude" d.maxLatitude
    precision := setting part "override_precision" d.precision }

/-- A setting of two values. -/
def rangeOf (part : List (Atom × Value)) (name : String) (absent : Value × Value) :
    Read (Value × Value) :=
  match fieldOf? part name with
  | none => .ok absent
  | some (.list [low, high]) => .ok (low, high)
  | some _ => .error (.rejected s!"'synthesis.{name}' must be a two-element list")

def bandwidthsOf (part : List (Atom × Value)) : Read (List Value) :=
  match fieldOf? part "bandwidths" with
  | none => .ok SynthesisSettings.defaultBandwidths
  | some (.list vs) => .ok vs
  | some _ => .error (.rejected "'synthesis.bandwidths' must be a list of strings")

def synthesisOf (part : List (Atom × Value)) : Read SynthesisSettings := do
  let d := SynthesisSettings.default
  let weights ← rangeOf part "weight_range" d.weights
  let costs ← rangeOf part "cost_range" d.costs
  let linkCounts ← rangeOf part "links_per_device" d.linkCounts
  let bandwidths ← bandwidthsOf part
  checkNames "synthesis" "SynthesisConfig"
    ["seed", "density_divisor", "weight_range", "cost_range", "links_per_device", "bandwidths",
      "zoom_level", "healthy_threshold", "warning_threshold"] part
  return {
    weights, costs, linkCounts, bandwidths
    seed := setting part "seed" d.seed
    divisor := setting part "density_divisor" d.divisor
    zoom := setting part "zoom_level" d.zoom
    healthy := setting part "healthy_threshold" d.healthy
    warning := setting part "warning_threshold" d.warning }

def serviceOf (part : List (Atom × Value)) : Read ServiceSettings := do
  checkNames "service" "ServiceConfig"
    ["service_name", "service_area", "inventory_service", "inventory_area", "inventory_query",
      "fetch_timeout_s", "topology_id"] part
  let d := ServiceSettings.default
  return {
    name := setting part "service_name" d.name
    area := setting part "service_area" d.area
    inventoryName := setting part "inventory_service" d.inventoryName
    inventoryArea := setting part "inventory_area" d.inventoryArea
    query := setting part "inventory_query" d.query
    timeout := setting part "fetch_timeout_s" d.timeout
    topologyId := setting part "topology_id" d.topologyId }

def outputOf (part : List (Atom × Value)) : Read OutputSettings := do
  checkNames "output" "OutputConfig" ["json_indent", "dpi"] part
  let d := OutputSettings.default
  return { indent := setting part "json_indent" d.indent, dpi := setting part "dpi" d.dpi }

/-- The settings of a document, not yet checked. -/
def ofEntries (es : List (Atom × Value)) : Read Settings := do
  let sources ← sectionOf es "data_sources" >>= sourcesOf
  let projection ← sectionOf es "projection" >>= projectionOf
  let synthesis ← sectionOf es "synthesis" >>= synthesisOf
  let service ← sectionOf es "service" >>= serviceOf
  let output ← sectionOf es "output" >>= outputOf
  return { sources, projection, synthesis, service, output }

/-- Refuses a setting for a reason. -/
def refuseIf (bad : Read Bool) (reason : String) : Read Unit := do
  if ← bad then .error (.rejected reason) else return ()

/-- Decides the second question only when the answer to the first is no. -/
def orElseAsk (first second : Read Bool) : Read Bool := do
  if ← first then return true else second

def zero : Value := .int 0

def checkProjection (p : ProjectionSettings) : Read Unit := do
  refuseIf (orElseAsk (p.viewWidth.atMost zero) (p.viewHeight.atMost zero))
    "projection viewport dimensions must be positive"
  refuseIf (orElseAsk ((!·) <$> zero.less p.maxLatitude) ((!·) <$> p.maxLatitude.less (.int 90)))
    "projection.max_latitude must be in (0, 90)"
  refuseIf (p.precision.less zero) "projection.override_precision must be non-negative"

def checkSynthesis (s : SynthesisSettings) : Read Unit := do
  refuseIf (s.divisor.atMost zero) "synthesis.density_divisor must be positive"
  refuseIf (s.weights.1.greater s.weights.2) "synthesis.weight_range must be ordered (low, high)"
  refuseIf (s.costs.1.greater s.costs.2) "synthesis.cost_range must be ordered (low, high)"
  refuseIf (orElseAsk (s.linkCounts.1.less (.int 1)) (s.linkCounts.1.greater s.linkCounts.2))
    "synthesis.links_per_device must satisfy 1 <= low <= high"
  refuseIf (.ok s.bandwidths.isEmpty) "synthesis.bandwidths must not be empty"
  refuseIf ((!·) <$> s.warning.atMost s.healthy)
    "synthesis.warning_threshold must not exceed healthy_threshold"

def checkService (s : ServiceSettings) : Read Unit := do
  refuseIf (s.timeout.atMost zero) "service.fetch_timeout_s must be positive"
  refuseIf (.ok !s.topologyId.truthy) "service.topology_id must not be empty"

def checkOutput (o : OutputSettings) : Read Unit := do
  refuseIf (o.indent.less zero) "output.json_indent must be non-negative"
  refuseIf (o.dpi.atMost zero) "output.dpi must be a positive integer"

/-- Missing data files are no reason to refuse settings. -/
def check (s : Settings) : Read Unit := do
  checkProjection s.projection
  checkSynthesis s.synthesis
  checkService s.service
  checkOutput s.output

/-- The settings of a document, once they pass the checks. -/
def read (es : List (Atom × Value)) : Read Settings × List Notice :=
  match ofEntries es with
  | .error f => (.error f, [])
  | .ok s => ((fun _ => s) <$> s.check, [.validating])

end Settings

end NetAtlas
