import NetAtlas.Host
import NetAtlas.Inventory.File

/-!
Writing devices to files that an inventory can be read from.
-/

namespace NetAtlas.Inventory

variable {m : Type → Type} [Monad m] [Host m]

/-- Writes devices to a file. -/
def save (devices : List Device) (path : String) (indent : Option Nat) :
    m (Except Failure Unit) := do
  let text := fileText indent devices
  match ← Host.writeInto path text.toUTF8.toList with
  | .ok () =>
    Host.report (.inventorySaved devices.length path)
    return .ok ()
  | .error e => return .error (.access e)

end NetAtlas.Inventory
