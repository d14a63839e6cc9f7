import NetAtlas.Inventory
import NetAtlas.Json.Writer

/-!
Inventories in JSON files: a list of records, or an object that has one.
-/

namespace NetAtlas.Inventory

/-- The list of records in a document. -/
def recordsOf? (v : Value) : Option (List Value) :=
  let found :=
    match v with
    | .mapping es =>
      ((fieldOf? es "devices").or (fieldOf? es "list")).getD (.list [])
    | v => v
  match found with
  | .list records => some records
  | _ => none

/-- The records in the content of a file, or why there are none. -/
def readRecords (file : Except AccessError (List UInt8)) : Except LoadReason (List Value) :=
  match file with
  | .error e => .error (.access e)
  | .ok bytes =>
    match Json.parseFile bytes with
    | .error e => .error (.notJson e)
    | .ok v =>
      match recordsOf? v with
      | some records => .ok records
      | none => .error .notAList

/-- What an inventory in a file sends, given what reading the file at a path gave. -/
def fetchFile (path : String) (file : Except AccessError (List UInt8)) :
    Except FetchError Value :=
  match file with
  | .error e => .error (.unreadable path e)
  | .ok bytes =>
    match Json.parseFile bytes with
    | .error e => .error (.notJson path e)
    | .ok v =>
      match recordsOf? v with
      | some records => .ok (.list records)
      | none => .error (.notAList path)

/-- Loads devices from a path, given what reading the file gave. -/
def load (path : String) (file : Except AccessError (List UInt8)) :
    Except Failure (List Device) × List Notice :=
  match readRecords file with
  | .error reason => (.error (.load ⟨path, reason⟩), [])
  | .ok records =>
    match accept records with
    | (.ok devices, notices) =>
      (.ok devices, notices ++ [.inventoryLoaded devices.length path])
    | (.error f, notices) => (.error (.fault f), notices)

/-- The text of a file with the given devices. -/
def fileText (indent : Option Nat) (devices : List Device) : String :=
  Json.render indent (.record [("devices", .list (devices.map (·.toValue)))])

end NetAtlas.Inventory
