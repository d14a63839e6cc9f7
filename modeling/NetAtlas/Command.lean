import NetAtlas.Command.Generate
import NetAtlas.Command.Lookup

/-!
Running what a command line asks for.
-/

namespace NetAtlas.Invocation

variable {m : Type → Type} [Monad m] [Host m]

/-- Runs a command, and says how the program ends. -/
def perform : Command → Command.Work m Nat
  | .generate o => Command.runOrder o
  | .locate settings locations => Command.locateAll settings locations
  | .project settings latitude longitude => Command.projectPoint settings latitude longitude
  | .info settings => Command.showSettings settings

/-- Runs an invocation, and says how the program ends. Without a command it shows the usage, also
when it should keep quiet. -/
def run (i : Invocation) : m Nat := do
  match i.command? with
  | some c => perform c ⟨i.verbose, i.quiet⟩
  | none =>
    Host.say .usage
    return Command.failure

end NetAtlas.Invocation
