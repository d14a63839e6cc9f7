import NetAtlas.Gazetteer.Loading
import NetAtlas.Inventory
import NetAtlas.Service.Cache
import NetAtlas.Settings
import NetAtlas.Synthesis
import NetAtlas.Topology.Audit

/-!
The topology service. It makes a topology from what an inventory sends, keeps it in a cache under
one id, and hands out what it keeps.
-/

namespace NetAtlas

/-- What an inventory is asked for. -/
structure Request where
  service : Value
  area : Value
  query : Value
  timeout : Value

/-- What an inventory answers. -/
abbrev Inventory := Request → Except FetchError Value

structure Service (σ : Type) where
  gazetteer : Gazetteer
  synthesis : SynthesisSettings
  settings : ServiceSettings
  cache : Cache
  source : σ
  /-- How many topologies it has made. -/
  made : Nat

/-- What a call gives, and the service as it is then. -/
structure Served (σ : Type) where
  outcome : Except Failure (Option Edition)
  service : Service σ
  requests : List Request
  notices : List Notice

namespace Service

variable {σ : Type}

/-- A service that has made nothing yet. -/
def start (g : Gazetteer) (synthesis : SynthesisSettings) (settings : ServiceSettings)
    (source : σ) : Service σ :=
  ⟨g, synthesis, settings, .empty, source, 0⟩

/-- Starts a service with the gazetteer of a file. -/
def activate (s : Settings) (file : Except AccessError (List UInt8)) (source : σ) :
    Service σ × List Notice :=
  let (g, notices) := Gazetteer.loadOrEmpty s.sources.gazetteer file
  (start g s.synthesis s.service source,
    notices ++ [.activated s.service.name s.service.area])

def request (s : Service σ) : Request :=
  ⟨s.settings.inventoryName, s.settings.inventoryArea, s.settings.query, s.settings.timeout⟩

/-- The edition kept under the id of the settings. -/
def cached? (s : Service σ) : Read (Option Edition) := s.cache.get? s.settings.topologyId

/-- A call that changes nothing. -/
def unchanged (s : Service σ) (outcome : Except Failure (Option Edition))
    (notices : List Notice) : Served σ :=
  ⟨outcome, s, [], notices⟩

/-- The edition in the cache. -/
def get (s : Service σ) : Served σ :=
  match s.cached? with
  | .error f => s.unchanged (.error (.fault f)) []
  | .ok none => s.unchanged (.ok none) [.nothingGenerated]
  | .ok (some e) => s.unchanged (.ok (some e)) []

/-- The devices that an inventory sends. -/
def fetch (s : Service σ) (inventory : Inventory) :
    Except Failure (List Device) × List Notice :=
  match inventory s.request with
  | .error e => (.error (.fetch e), [])
  | .ok records =>
    match Inventory.acceptAll records with
    | (.ok devices, notices) => (.ok devices, notices)
    | (.error cause, notices) => (.error (.fetch (.unusable cause)), notices)

/-- Gives a topology the id of the settings and a number, and keeps it if the cache takes it. -/
def release (s : Service σ) (t : Topology) : Edition × Service σ × List Notice :=
  let e : Edition := ⟨s.made, { t with id := s.settings.topologyId }⟩
  let s := { s with made := s.made + 1 }
  match s.cache.put e with
  | .ok cache => (e, { s with cache }, e.topology.auditNotices)
  | .error cause => (e, s, e.topology.auditNotices ++ [.cacheFailed cause.message])

variable [WordSource σ]

/-- Makes a topology of devices and releases it. -/
def generate (s : Service σ) (now : String) (devices : List Device) :
    Except Failure (Option Edition) × Service σ × List Notice :=
  let made := Synthesis.run s.gazetteer s.synthesis now devices s.source
  let s := { s with source := made.source }
  match made.outcome with
  | .error f => (.error (.fault f), s, made.notices)
  | .ok none => (.ok none, s, made.notices)
  | .ok (some t) =>
    let (e, s, notices) := s.release t
    (.ok (some e), s, made.notices ++ notices)

/-- Makes a new edition from what the inventory sends. -/
def renew (s : Service σ) (inventory : Inventory) (now : String) : Served σ :=
  match s.fetch inventory with
  | (.error f, notices) => ⟨.error f, s, [s.request], .requesting :: notices⟩
  | (.ok devices, notices) =>
    let (outcome, after, made) := s.generate now devices
    ⟨outcome, after, [s.request],
      .requesting :: notices ++ .generating devices.length :: made⟩

/-- Makes a new edition. Unless it is forced, one in the cache will do. -/
def regenerate (s : Service σ) (force : Bool) (inventory : Inventory) (now : String) :
    Served σ :=
  if force then s.renew inventory now
  else
    match s.cached? with
    | .error f => s.unchanged (.error (.fault f)) []
    | .ok (some e) => s.unchanged (.ok (some e)) []
    | .ok none => s.renew inventory now

end Service

end NetAtlas
