import NetAtlas.Gazetteer.Loading
import NetAtlas.Host
import NetAtlas.Projection.Loading
import NetAtlas.Settings.File

/-!
What all commands have in common: how they speak, how they load what the settings name, and how
they end.
-/

namespace NetAtlas.Command

/-- How a command speaks: whether it reports details, and whether it keeps quiet otherwise. -/
structure Manner where
  verbose : Bool
  quiet : Bool

/-- Work on a machine, in a manner. -/
abbrev Work (m : Type → Type) := ReaderT Manner m

/-- Work that may fail. -/
abbrev Task (m : Type → Type) := ExceptT Failure (Work m)

variable {m : Type → Type} [Monad m] [Host m]

/-- Asks the machine for something. -/
def ask {α : Type} (a : m α) : Work m α := fun _ => a

def say (msg : Message) : Work m Unit := fun manner => do
  if manner.quiet then return () else Host.say msg

def report (n : Notice) : Work m Unit := fun manner => do
  if n.level = .debug && !manner.verbose then return () else Host.report n

def reportAll (ns : List Notice) : Work m Unit := ns.forM report

/-- Work that does not fail, as part of work that may. -/
def sure {α : Type} (w : Work m α) : Task m α := ExceptT.lift w

/-- Passes on what was reported on the way to a result, and goes on with the result. -/
def loaded {α : Type} (r : Except Failure α × List Notice) : Task m α := do
  sure (reportAll r.2)
  MonadExcept.ofExcept r.1

/-- Asks the machine for something that may fail. -/
def attempt {α : Type} (a : m (Except Failure α)) : Task m α := fun _ => a

/-- The settings at a path. Without them the command ends, after it has said why. -/
def settingsAt (path : String) : Work m (Option Settings) := do
  let path := Path.normal path
  let (settings, notices) := Settings.load path (← ask (Host.read path))
  reportAll notices
  match settings with
  | .ok s =>
    report (.settingsLoaded path)
    return some s
  | .error (.noSettings _) =>
    say (.settingsMissing path)
    report (.settingsMissing path)
    return none
  | .error cause =>
    report (.settingsFailed cause)
    say (.settingsRefused path cause)
    return none

/-- The gazetteer of the settings, which may be empty. -/
def gazetteerOf (s : Settings) : Work m Gazetteer := do
  let path := Path.resolve (← ask Host.workingDirectory) s.sources.gazetteer
  let (g, notices) := Gazetteer.loadOrEmpty path (← ask (Host.read path))
  reportAll notices
  return g

/-- The projector of the settings. -/
def projectorOf (s : Settings) : Task m (Projector Float) := do
  match s.sources.map with
  | some path =>
    let file ← sure (ask (Host.read path))
    loaded (Projector.load s.projection (some (path, file)))
  | none => loaded (Projector.load s.projection none)

/-- Does a task and says how long it took. -/
def timed {α : Type} (task : String) (work : Task m α) : Task m α := fun manner => do
  say (.started task) manner
  report (.started task) manner
  let start ← Host.seconds
  let result ← work manner
  let elapsed := Decimal.fixedText 1 ((← Host.seconds) - start)
  match result with
  | .ok _ =>
    say (.completed task elapsed) manner
    report (.completed task elapsed) manner
  | .error cause =>
    say (.gaveUp task elapsed) manner
    report (.failed task elapsed cause.message) manner
  return result

/-- How the program ends. -/
def success : Nat := 0

def failure : Nat := 1

/-- The end when the settings are of no use, or the command line. -/
def misuse : Nat := 2

/-- Goes on with the settings at a path. -/
def withSettings (path : String) (go : Settings → Work m Nat) : Work m Nat := do
  match ← settingsAt path with
  | some s => go s
  | none => return misuse

/-- The end of a task that says nothing when it fails. -/
def ended (task : Task m Unit) : Work m Nat := fun manner => do
  match ← task manner with
  | .ok () => return success
  | .error _ => return failure

end NetAtlas.Command
