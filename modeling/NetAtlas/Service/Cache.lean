import NetAtlas.Topology
import NetAtlas.Value.Order

/-!
The cache of a service. Topologies are kept by their ids; a later one takes the place of an earlier
one with the same id.
-/

namespace NetAtlas

/-- A topology that a service has made, with its number among all those it made. Two topologies may
be equal in all parts and still be different editions. -/
structure Edition where
  number : Nat
  topology : Topology

/-- Why a cache did not take a topology. -/
inductive CacheError where
  | unavailable
  /-- Only an atom may be a key. -/
  | badKey (key : Value)

def CacheError.message : CacheError → String
  | .unavailable => "cache unavailable"
  | .badKey key => s!"unhashable type: '{key.kindName}'"

structure Cache where
  held : List (Atom × Edition)
  /-- A cache that is broken takes nothing new. -/
  broken : Bool

namespace Cache

def empty : Cache := ⟨[], false⟩

/-- The edition kept under a key. -/
def get? (c : Cache) (key : Value) : Read (Option Edition) :=
  match key with
  | .atom k => .ok ((c.held.find? fun (l, _) => l.sameKey k).map (·.2))
  | _ => .error .wrongType

/-- Keeps an edition under a key in place of any other. -/
def keep (c : Cache) (key : Atom) (e : Edition) : Cache :=
  { c with held := (key, e) :: c.held.filter fun (l, _) => !l.sameKey key }

/-- Keeps an edition under the id of its topology. -/
def put (c : Cache) (e : Edition) : Except CacheError Cache :=
  if c.broken then .error .unavailable
  else
    match e.topology.id with
    | .atom key => .ok (c.keep key e)
    | id => .error (.badKey id)

end Cache

end NetAtlas
