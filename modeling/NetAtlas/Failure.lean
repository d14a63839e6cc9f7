import NetAtlas.Fault
import NetAtlas.Json.Reader

/-!
Why an operation on files, inventories or settings failed.
-/

namespace NetAtlas

/-- Why a path could not be used. -/
inductive AccessError where
  | notFound (path : String)
  | alreadyThere (path : String)
  | notADirectory (path : String)
  | isADirectory (path : String)
  | denied (path : String)
deriving DecidableEq, Repr

def AccessError.message : AccessError → String
  | .notFound path => "[Errno 2] No such file or directory: " ++ quoted path
  | .alreadyThere path => "[Errno 17] File exists: " ++ quoted path
  | .notADirectory path => "[Errno 20] Not a directory: " ++ quoted path
  | .isADirectory path => "[Errno 21] Is a directory: " ++ quoted path
  | .denied path => "[Errno 13] Permission denied: " ++ quoted path

/-- Why a reference file could not be loaded. -/
inductive LoadReason where
  | missing
  | access (e : AccessError)
  | emptyTable
  | tooFewColumns (needed found : Nat)
  | notJson (e : Json.TextError)
  | notATopology (cause : Fault)
  | notAList

def LoadReason.message : LoadReason → String
  | .missing => "file not found"
  | .access e => e.message
  | .emptyTable => "empty table"
  | .tooFewColumns needed found => s!"expected {needed} columns, found {found}"
  | .notJson e => e.message
  | .notATopology cause => "invalid topology document: " ++ cause.message
  | .notAList => "expected a list of device records"

structure LoadError where
  path : String
  reason : LoadReason

def LoadError.message (e : LoadError) : String := s!"Failed to load {e.path}: {e.reason.message}"

/-- Why no device records came from an inventory. -/
inductive FetchError where
  | unreadable (path : String) (e : AccessError)
  | notJson (path : String) (e : Json.TextError)
  | notAList (path : String)
  /-- The inventory refused, in its own words. -/
  | refused (message : String)
  /-- The inventory broke down, or what it sent could not be used. -/
  | failed (cause : String)
  | unusable (cause : Fault)

def FetchError.message : FetchError → String
  | .unreadable path e => s!"Cannot read inventory {path}: {e.message}"
  | .notJson path e => s!"Cannot read inventory {path}: {e.message}"
  | .notAList path => s!"Inventory {path} must contain a list of devices"
  | .refused message => message
  | .failed cause => "Inventory fetch failed: " ++ cause
  | .unusable cause => "Inventory fetch failed: " ++ cause.message

/-- What ends an operation. -/
inductive Failure where
  | fault (f : Fault)
  | load (e : LoadError)
  | fetch (e : FetchError)
  | access (e : AccessError)
  | noSettings (path : String)
  | notYaml (problem : String)
  | mapExport (path cause : String)

def Failure.message : Failure → String
  | .fault f => f.message
  | .load e => e.message
  | .fetch e => e.message
  | .access e => e.message
  | .noSettings path => "Configuration file not found: " ++ path
  | .notYaml problem => problem
  | .mapExport path cause => s!"Failed to export topology map to {path}: {cause}"

end NetAtlas
