import NetAtlas.Json.Writer
import NetAtlas.Notice
import NetAtlas.Topology

/-!
Topologies in JSON files.
-/

namespace NetAtlas

/-- A fault of a document that is reported as part of loading it. Values without fields, where
there should be some, and numbers out of range are not; they end the loading by themselves. -/
def Fault.isReported : Fault → Bool
  | .notARecord | .outOfRange | .infinite => false
  | _ => true

namespace Topology

/-- The topology in the content of a file. -/
def ofBytes (bytes : List UInt8) : Except (LoadReason ⊕ Fault) Topology :=
  match Json.parseFile bytes with
  | .error e => .error (.inl (.notJson e))
  | .ok v =>
    match ofValue v with
    | .ok t => .ok t
    | .error f => .error (if f.isReported then .inl (.notATopology f) else .inr f)

/-- Loads a topology from a path, given what reading the file gave. -/
def load (path : String) (file : Except AccessError (List UInt8)) :
    Except Failure Topology × List Notice :=
  let outcome :=
    match file with
    | .error e => .error (.load ⟨path, .access e⟩)
    | .ok bytes =>
      match ofBytes bytes with
      | .ok t => .ok t
      | .error (.inl reason) => .error (.load ⟨path, reason⟩)
      | .error (.inr f) => .error (.fault f)
  (outcome, [.readingTopology path])

/-- The text of a topology's file. -/
def fileText (indent : Option Nat) (t : Topology) : String := Json.render indent t.toValue

/-- What is reported when the topology has been written in so many bytes. -/
def savedNotice (t : Topology) (bytes : Nat) : Notice :=
  .topologySaved t.nodes.length t.edges.length bytes

end Topology

end NetAtlas
