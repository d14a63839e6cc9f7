import NetAtlas.Proofs.Synthesis.Clock
import NetAtlas.Service

/-!
Histories of a service: any calls one after the other, each with the inventory and the time of its
moment. The cache holds the last edition that was made and nothing else, and a call that makes none
might as well not have come.
-/

namespace NetAtlas

/-- What a service can be asked for. -/
inductive Call where
  | get
  | regenerate (force : Bool) (inventory : Inventory) (now : String)

/-- The same call at another time. -/
def Call.asOf (now : String) : Call → Call
  | .get => .get
  | .regenerate force inventory _ => .regenerate force inventory now

theorem Atom.sameKey_self (k : Atom) : k.sameKey k = true := by
  simp [sameKey]

namespace Cache

/-- The cache with one edition, if there is one, under an id that can be a key. -/
def holding (id : Value) (last : Option Edition) : Cache :=
  match id with
  | .atom k => ⟨(last.map (k, ·)).toList, false⟩
  | _ => ⟨[], false⟩

/-- What is found under an id: what is kept there, if the id can be a key. -/
def found (last : Option Edition) : Value → Read (Option Edition)
  | .atom _ => .ok last
  | _ => .error .wrongType

theorem get?_holding (id : Value) (last : Option Edition) :
    (holding id last).get? id = found last id := by
  cases id with
  | atom k => cases last <;> simp [holding, get?, found, Atom.sameKey_self]
  | list items => rfl
  | mapping entries => rfl

/-- An edition takes the place of the last one. Under an id that cannot be a key the cache refuses it
    and stays as it is. -/
theorem put_holding {id : Value} {last : Option Edition} {e : Edition} (he : e.topology.id = id) :
    ((holding id last).put e).toOption.getD (holding id last) = holding id (some e) := by
  cases id with
  | atom k =>
    have hput : (holding (.atom k) last).put e = .ok (holding (.atom k) (some e)) := by
      cases last <;> simp [holding, put, he, keep, Atom.sameKey_self]
    rw [hput]
    rfl
  | list items =>
    have hput : (holding (.list items) last).put e = .error (.badKey (.list items)) := by
      simp [holding, put, he]
    rw [hput]
    rfl
  | mapping entries =>
    have hput : (holding (.mapping entries) last).put e = .error (.badKey (.mapping entries)) := by
      simp [holding, put, he]
    rw [hput]
    rfl

theorem eq_of_mem_holding {id : Value} {last : Option Edition} {entry : Atom × Edition}
    (h : entry ∈ (holding id last).held) : id = .atom entry.1 ∧ last = some entry.2 := by
  cases id with
  | atom k =>
    cases last with
    | none => exact absurd h (by simp [holding])
    | some e =>
      obtain rfl : entry = (k, e) := by simpa [holding] using h
      exact ⟨rfl, rfl⟩
  | list items => exact absurd h (by simp [holding])
  | mapping entries => exact absurd h (by simp [holding])

end Cache

namespace Service

variable {σ : Type}

/-- A regeneration gives what it finds in the cache. -/
def answersFromCache (s : Service σ) (force : Bool) : Bool :=
  !force && s.cached?.toOption.join.isSome

/-- Under the id of its settings the service keeps the last edition, which carries that id, and
    there is nothing else in the cache. -/
structure Keeps (s : Service σ) (id : Value) (last : Option Edition) : Prop where
  settings : s.settings.topologyId = id
  cache : s.cache = .holding id last
  carried : ∀ e, last = some e → e.topology.id = id

theorem keeps_start (g : Gazetteer) (synthesis : SynthesisSettings) (settings : ServiceSettings)
    (source : σ) : (start g synthesis settings source).Keeps settings.topologyId none := by
  refine ⟨rfl, ?_, by simp⟩
  cases hid : settings.topologyId <;> rfl

theorem Keeps.cached?_eq {s : Service σ} {id : Value} {last : Option Edition}
    (h : s.Keeps id last) : s.cached? = Cache.found last id := by
  rw [cached?, h.cache, h.settings]
  exact Cache.get?_holding id last

/-- What a release gives, and the service after it. -/
theorem release_eq (s : Service σ) (t : Topology) :
    let e : Edition := ⟨s.made, { t with id := s.settings.topologyId }⟩
    (s.release t).1 = e ∧
      (s.release t).2.1 =
        { s with made := s.made + 1, cache := (s.cache.put e).toOption.getD s.cache } := by
  intro e
  rw [release]
  dsimp only
  cases s.cache.put e with
  | ok cache => exact ⟨rfl, rfl⟩
  | error cause => exact ⟨rfl, rfl⟩

/-- A release puts the edition in the place of any other. -/
theorem Keeps.release {s : Service σ} {id : Value} {last : Option Edition} (h : s.Keeps id last)
    (t : Topology) : (s.release t).2.1.Keeps id (some (s.release t).1) := by
  obtain ⟨rfl, hcache, _⟩ := h
  obtain ⟨hedition, hservice⟩ := s.release_eq t
  rw [hedition, hservice, hcache]
  refine ⟨rfl, Cache.put_holding rfl, ?_⟩
  intro e he
  rw [← Option.some.inj he]

theorem service_get (s : Service σ) : s.get.service = s := by
  rw [get]
  split <;> rfl

theorem Keeps.outcome_get {s : Service σ} {id : Value} {last : Option Edition}
    (h : s.Keeps id last) : s.get.outcome = (Cache.found last id).mapError .fault := by
  rw [get, h.cached?_eq]
  cases id with
  | atom k => cases last <;> rfl
  | list items => rfl
  | mapping entries => rfl

theorem fetch_of_fetch_eq_error {s : Service σ} {inventory : Inventory} {f : Failure}
    {notices : List Notice} (h : s.fetch inventory = (.error f, notices)) : ∃ e, f = .fetch e := by
  rw [fetch] at h
  split at h
  · rename_i e _
    exact ⟨e, (Except.error.inj (Prod.mk.inj h).1).symm⟩
  · split at h
    · exact absurd (Prod.mk.inj h).1 (by simp)
    · exact ⟨_, (Except.error.inj (Prod.mk.inj h).1).symm⟩

variable [WordSource σ]

def perform (s : Service σ) : Call → Served σ
  | .get => s.get
  | .regenerate force inventory now => s.regenerate force inventory now

/-- The service after a history of calls. -/
def after (s : Service σ) (history : List Call) : Service σ :=
  history.foldl (fun s c => (s.perform c).service) s

/-- The edition that a call makes: a regeneration does if it ends with one that it did not find. -/
def madeBy (s : Service σ) : Call → Option Edition
  | .get => none
  | .regenerate force inventory now =>
    if s.answersFromCache force then none
    else (s.regenerate force inventory now).outcome.toOption.join

/-- The last edition that a history makes, or what there was before if it makes none. -/
def lastMade (s : Service σ) (before : Option Edition) : List Call → Option Edition
  | [] => before
  | c :: cs => lastMade (s.perform c).service ((s.madeBy c).or before) cs

/-- What a renewal comes to: no devices come, a fault ends it after something was drawn, there is
    nothing to show, or an edition is released. -/
inductive Renewal (s : Service σ) : Except Failure (Option Edition) → Service σ → Prop where
  | unfetched (e : FetchError) : Renewal s (.error (.fetch e)) s
  | faulty (f : Fault) (source : σ) : Renewal s (.error (.fault f)) { s with source }
  | empty : Renewal s (.ok none) s
  | released (t : Topology) (source : σ) :
      Renewal s (.ok (some ({ s with source }.release t).1)) ({ s with source }.release t).2.1

theorem renewal_generate (s : Service σ) (now : String) (devices : List Device) :
    s.Renewal (s.generate now devices).1 (s.generate now devices).2.1 := by
  rw [generate]
  dsimp only
  cases hmade : (Synthesis.run s.gazetteer s.synthesis now devices s.source).outcome with
  | error f => exact .faulty f _
  | ok made =>
    cases made with
    | none =>
      dsimp only
      rw [Synthesis.source_of_outcome_eq_none hmade]
      exact .empty
    | some t => exact .released t _

theorem renewal_renew (s : Service σ) (inventory : Inventory) (now : String) :
    s.Renewal (s.renew inventory now).outcome (s.renew inventory now).service := by
  rw [renew]
  rcases hfetch : s.fetch inventory with ⟨f | devices, notices⟩
  · obtain ⟨e, rfl⟩ := fetch_of_fetch_eq_error hfetch
    exact .unfetched e
  · exact renewal_generate s now devices

/-- A regeneration is answered from the cache and changes nothing, or it comes to what a renewal
    comes to. An id that cannot be a key is a fault that comes up before anything is drawn. -/
theorem regenerate_cases (s : Service σ) (force : Bool) (inventory : Inventory) (now : String) :
    (s.answersFromCache force = true ∧ (s.regenerate force inventory now).service = s) ∨
    (s.answersFromCache force = false ∧
      s.Renewal (s.regenerate force inventory now).outcome
        (s.regenerate force inventory now).service) := by
  cases force with
  | true => exact .inr ⟨rfl, renewal_renew s inventory now⟩
  | false =>
    rw [answersFromCache, regenerate, if_neg Bool.false_ne_true]
    cases s.cached? with
    | error f => exact .inr ⟨rfl, .faulty f s.source⟩
    | ok found =>
      cases found with
      | none => exact .inr ⟨rfl, renewal_renew s inventory now⟩
      | some e => exact .inl ⟨rfl, rfl⟩

/-- Each call keeps the cache to the last edition. -/
theorem Keeps.perform {s : Service σ} {id : Value} {last : Option Edition} (h : s.Keeps id last)
    (c : Call) : (s.perform c).service.Keeps id ((s.madeBy c).or last) := by
  cases c with
  | get =>
    rw [madeBy, Option.none_or, Service.perform, service_get]
    exact h
  | regenerate force inventory now =>
    rw [madeBy, Service.perform]
    rcases regenerate_cases s force inventory now with ⟨hanswer, hservice⟩ | ⟨hanswer, hrenewal⟩
    · rwa [if_pos hanswer, hservice]
    · rw [if_neg (by simp [hanswer])]
      generalize s.regenerate force inventory now = served at hrenewal ⊢
      obtain ⟨outcome, s', _, _⟩ := served
      have hdrawn (source : σ) : ({ s with source } : Service σ).Keeps id last :=
        ⟨h.settings, h.cache, h.carried⟩
      cases hrenewal with
      | unfetched e => exact h
      | faulty f source => exact hdrawn source
      | empty => exact h
      | released t source => exact (hdrawn source).release t

theorem Keeps.after {s : Service σ} {id : Value} {last : Option Edition} (h : s.Keeps id last)
    (history : List Call) : (s.after history).Keeps id (s.lastMade last history) := by
  induction history generalizing s last with
  | nil => exact h
  | cons c history ih => exact ih (h.perform c)

/-- The call makes nothing: it only reads, no devices come, there is nothing to show, or the cache
    answers it. -/
def Idle (s : Service σ) : Call → Prop
  | .get => True
  | .regenerate force inventory now =>
    (∃ e, (s.regenerate force inventory now).outcome = .error (.fetch e)) ∨
      (s.regenerate force inventory now).outcome = .ok none ∨ s.answersFromCache force = true

/-- An idle call leaves the service as it is, the cache and the source of what is drawn included. -/
theorem Idle.service_eq {s : Service σ} {c : Call} (h : s.Idle c) : (s.perform c).service = s := by
  cases c with
  | get => exact service_get s
  | regenerate force inventory now =>
    rw [perform]
    rcases regenerate_cases s force inventory now with ⟨_, hservice⟩ | ⟨hanswer, hrenewal⟩
    · exact hservice
    · have hnothing : (∃ e, (s.regenerate force inventory now).outcome = .error (.fetch e)) ∨
          (s.regenerate force inventory now).outcome = .ok none := by
        rcases h with hfetch | hnone | hanswered
        · exact .inl hfetch
        · exact .inr hnone
        · exact absurd hanswered (by simp [hanswer])
      generalize s.regenerate force inventory now = served at hrenewal hnothing ⊢
      obtain ⟨outcome, s', _, _⟩ := served
      cases hrenewal with
      | unfetched e => rfl
      | faulty f source => exact absurd hnothing (by simp)
      | empty => rfl
      | released t source => exact absurd hnothing (by simp)

end Service

end NetAtlas
