import NetAtlas.Command.Invocation
import NetAtlas.Command.Task
import NetAtlas.Inventory.Export
import NetAtlas.Random.Seed
import NetAtlas.Random.Twister
import NetAtlas.Synthesis
import NetAtlas.Topology.Audit
import NetAtlas.Topology.Export

/-!
The command that generates a topology from an inventory file and writes it, the devices and a map
of it to files.
-/

namespace NetAtlas.Command

variable {m : Type → Type} [Monad m] [Host m]

/-- The file for the topology: one of its own in the output, unless that is a JSON file itself. -/
def topologyPath (working : String) : Option String → String
  | none => Path.join working "topology.json"
  | some output =>
    let path := Path.normal output
    if lowered (Path.suffix path) = ".json" then path else Path.join path "topology.json"

/-- The seed of the command line or else of the settings. Without one nobody foresees it. -/
def seedFor (given? : Option Int) (setting : Value) : Task m Int := do
  match given?, setting with
  | some seed, _ => return seed
  | none, .null => return Int.ofNat (← sure (ask Host.entropy))
  | none, v => loaded ((Random.seedOf v).mapError .fault, [])

def indentOf (v : Value) : Task m Nat :=
  match v.integer? with
  | some n => return n.toNat
  | none => throw (.fault .wrongType)

/-- The topology of an inventory file, if there is any, and the devices as they are then. -/
def synthesize (o : Order) (s : Settings) : Task m (Option Topology × List Device) := do
  let inventory := Path.normal o.inventory
  let file ← sure (ask (Host.read inventory))
  let devices ← loaded (Inventory.load inventory file)
  let g ← sure (gazetteerOf s)
  let seed ← seedFor o.seed? s.synthesis.seed
  let now ← sure (ask Host.now)
  let made := Synthesis.run g s.synthesis now devices (Twister.ofSeed seed)
  let t? ← loaded (made.outcome.mapError .fault, made.notices)
  return (t?, made.devices)

/-- Paints the map of a topology to a file. -/
def saveMap (s : Settings) (t : Topology) (path : String) : Task m Unit := do
  let p ← projectorOf s
  let dotsPerInch := (s.output.dpi.number?.bind Number.toFloat?).getD 150.0
  attempt (t.exportMap p (Path.normal path) dotsPerInch true)

/-- Writes all that was ordered, and says so. -/
def deliver (o : Order) (s : Settings) (t : Topology) (devices : List Device) : Task m Unit := do
  let working ← sure (ask Host.workingDirectory)
  let path := topologyPath working o.output?
  sure (reportAll t.auditNotices)
  let indent ← indentOf s.output.indent
  attempt (t.save path (some indent))
  sure (say (.topologyWritten path))
  if let some path := o.devicesOutput? then
    attempt (Inventory.save devices (Path.normal path) (some indent))
    sure (say (.devicesWritten path))
  if let some path := o.map? then
    saveMap s t path
    sure (say (.mapWritten path))
  sure (say (.overview t))
  let issues := t.issues.length
  if issues ≠ 0 then sure (say (.issues issues))
  if o.shown then sure (say (.document indent t))

/-- Generates a topology and writes it, if there is anything to render. -/
def fulfil (o : Order) (s : Settings) : Task m Unit := do
  let (t?, devices) ← timed "Topology generation" (synthesize o s)
  match t? with
  | none => sure (say .nothingToRender)
  | some t => deliver o s { t with id := s.service.topologyId } devices

/-- Carries out an order, and says how the program ends. -/
def runOrder (o : Order) : Work m Nat :=
  withSettings o.settings fun s manner => do
    match ← fulfil o s manner with
    | .ok () => return success
    | .error cause =>
      say (.failed cause) manner
      return failure

end NetAtlas.Command
