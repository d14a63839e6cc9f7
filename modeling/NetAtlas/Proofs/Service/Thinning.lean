import NetAtlas.Proofs.Service.History

/-!
Thinned histories. Without the calls that make nothing a service ends up as before, and if the others
come at other times, only timestamps differ.
-/

namespace NetAtlas

/-- The edition without the timestamps of its topology. -/
def Edition.undated (e : Edition) : Edition := { e with topology := e.topology.undated }

namespace Cache

def undated (c : Cache) : Cache := { c with held := c.held.map fun (k, e) => (k, e.undated) }

theorem undated_undated (c : Cache) : c.undated.undated = c.undated := by
  simp only [undated, List.map_map]
  rfl

theorem get?_undated (c : Cache) (id : Value) :
    c.undated.get? id = Option.map Edition.undated <$> c.get? id := by
  cases id with
  | atom k =>
    have hheld : c.undated.held.find? (fun (l, _) => l.sameKey k) =
        (c.held.find? fun (l, _) => l.sameKey k).map fun (k, e) => (k, e.undated) := by
      rw [undated, List.find?_map]
      rfl
    simp only [get?, hheld, Option.map_map]
    cases c.held.find? fun (l, _) => l.sameKey k <;> rfl
  | list items => rfl
  | mapping entries => rfl

theorem put_undated (c : Cache) (e : Edition) :
    c.undated.put e.undated = undated <$> c.put e := by
  have hid : e.undated.topology.id = e.topology.id := rfl
  have hbroken : c.undated.broken = c.broken := rfl
  rw [put, put, hid, hbroken]
  cases c.broken with
  | true => rfl
  | false =>
    cases e.topology.id with
    | atom k =>
      have hkeep : c.undated.keep k e.undated = (c.keep k e).undated := by
        simp only [keep, undated, List.map_cons, List.filter_map]
        rfl
      exact congrArg Except.ok hkeep
    | list items => rfl
    | mapping entries => rfl

end Cache

namespace Service

variable {σ : Type}

/-- The service without the timestamps in its cache. -/
def undated (s : Service σ) : Service σ := { s with cache := s.cache.undated }

theorem undated_undated (s : Service σ) : s.undated.undated = s.undated := by
  simp only [undated, Cache.undated_undated]

theorem cached?_undated (s : Service σ) :
    s.undated.cached? = Option.map Edition.undated <$> s.cached? :=
  s.cache.get?_undated s.settings.topologyId

theorem release_undated (s : Service σ) (t : Topology) :
    (s.undated.release t.undated).1 = (s.release t).1.undated ∧
      (s.undated.release t.undated).2.1 = (s.release t).2.1.undated := by
  obtain ⟨hedition, hservice⟩ := s.release_eq t
  obtain ⟨hedition', hservice'⟩ := s.undated.release_eq t.undated
  rw [hedition, hedition', hservice, hservice']
  refine ⟨rfl, ?_⟩
  have hput := s.cache.put_undated ⟨s.made, { t with id := s.settings.topologyId }⟩
  change s.undated.cache.put ⟨s.undated.made, { t.undated with id := s.undated.settings.topologyId }⟩
    = _ at hput
  rw [hput]
  cases s.cache.put ⟨s.made, { t with id := s.settings.topologyId }⟩ <;> rfl

theorem release_congr {s s' : Service σ} {t t' : Topology} (hs : s.undated = s'.undated)
    (ht : t.undated = t'.undated) :
    (s.release t).1.undated = (s'.release t').1.undated ∧
      (s.release t).2.1.undated = (s'.release t').2.1.undated := by
  obtain ⟨hedition, hservice⟩ := s.release_undated t
  obtain ⟨hedition', hservice'⟩ := s'.release_undated t'
  rw [← hedition, ← hedition', ← hservice, ← hservice', hs, ht]
  exact ⟨rfl, rfl⟩

/-- Two calls give the same and leave the same behind, but for timestamps. -/
def Agree (m m' : Served σ) : Prop :=
  Option.map Edition.undated <$> m.outcome = Option.map Edition.undated <$> m'.outcome ∧
    m.service.undated = m'.service.undated

theorem get_undated (s : Service σ) : Agree s.get s.undated.get := by
  rw [get, get, cached?_undated]
  cases s.cached? with
  | error f => exact ⟨rfl, s.undated_undated.symm⟩
  | ok found =>
    cases found with
    | none => exact ⟨rfl, s.undated_undated.symm⟩
    | some e => exact ⟨rfl, s.undated_undated.symm⟩

variable [WordSource σ]

/-- A synthesis at another time, by a service that differs in timestamps only, comes to the same. -/
theorem generate_undated (s : Service σ) (now now' : String) (devices : List Device) :
    Option.map Edition.undated <$> (s.generate now devices).1 =
        Option.map Edition.undated <$> (s.undated.generate now' devices).1 ∧
      (s.generate now devices).2.1.undated = (s.undated.generate now' devices).2.1.undated := by
  have hclock := Synthesis.run_clock (s := s.synthesis) s.gazetteer now now' devices s.source
  have hrun : Synthesis.run s.undated.gazetteer s.undated.synthesis now' devices s.undated.source =
      Synthesis.run s.gazetteer s.synthesis now' devices s.source := rfl
  rw [generate, generate, hrun]
  generalize Synthesis.run s.gazetteer s.synthesis now devices s.source = a at hclock ⊢
  generalize Synthesis.run s.gazetteer s.synthesis now' devices s.source = b at hclock ⊢
  obtain ⟨outcome, _, source, _⟩ := a
  obtain ⟨outcome', _, source', _⟩ := b
  obtain ⟨rfl, _, houtcome⟩ := hclock
  dsimp only at houtcome ⊢
  have hservice : ({ s with source } : Service σ).undated = { s.undated with source }.undated := by
    simp only [undated, Cache.undated_undated]
  -- The clock has no part in which way a synthesis ends, so the two end alike.
  cases outcome with
  | error f =>
    cases outcome' with
    | error f' =>
      obtain rfl : f = f' := Except.error.inj houtcome
      exact ⟨rfl, hservice⟩
    | ok made' => exact absurd houtcome (by simp [Functor.map, Except.map])
  | ok made =>
    cases outcome' with
    | error f' => exact absurd houtcome (by simp [Functor.map, Except.map])
    | ok made' =>
      have hmade : made.map Topology.undated = made'.map Topology.undated := Except.ok.inj houtcome
      cases made with
      | none =>
        cases made' with
        | none => exact ⟨rfl, hservice⟩
        | some t' => exact absurd hmade (by simp)
      | some t =>
        cases made' with
        | none => exact absurd hmade (by simp)
        | some t' =>
          obtain ⟨hedition, hafter⟩ := release_congr hservice (Option.some.inj hmade)
          exact ⟨congrArg (fun e => Except.ok (some e)) hedition, hafter⟩

theorem renew_undated (s : Service σ) (inventory : Inventory) (now now' : String) :
    Agree (s.renew inventory now) (s.undated.renew inventory now') := by
  have hfetch : s.undated.fetch inventory = s.fetch inventory := rfl
  rw [renew, renew, hfetch]
  rcases s.fetch inventory with ⟨f | devices, notices⟩
  · exact ⟨rfl, s.undated_undated.symm⟩
  · exact generate_undated s now now' devices

theorem perform_undated (s : Service σ) (c : Call) (now : String) :
    Agree (s.perform c) (s.undated.perform (c.asOf now)) := by
  cases c with
  | get => exact get_undated s
  | regenerate force inventory before =>
    rw [Call.asOf, perform, perform, regenerate, regenerate, cached?_undated]
    cases force with
    | true => exact renew_undated s inventory before now
    | false =>
      cases s.cached? with
      | error f => exact ⟨rfl, s.undated_undated.symm⟩
      | ok found =>
        cases found with
        | none => exact renew_undated s inventory before now
        | some e => exact ⟨rfl, s.undated_undated.symm⟩

/-- Services that differ in timestamps only agree on every call, at whatever time it comes. -/
theorem perform_congr {s s' : Service σ} (hs : s.undated = s'.undated) (c : Call) (now : String) :
    Agree (s.perform c) (s'.perform (c.asOf now)) := by
  have hfirst := perform_undated s c now
  have hsecond := perform_undated s' (c.asOf now) now
  have hasOf : (c.asOf now).asOf now = c.asOf now := by cases c <;> rfl
  rw [hs] at hfirst
  rw [hasOf] at hsecond
  exact ⟨hfirst.1.trans hsecond.1.symm, hfirst.2.trans hsecond.2.symm⟩

/-- The second history is the first one without some of the calls that are idle when their turn
    comes. The calls that stay may come at other times. -/
inductive Thinned : Service σ → List Call → List Call → Prop where
  | nil {s : Service σ} : Thinned s [] []
  | drop {s : Service σ} {c : Call} {cs cs' : List Call} (hidle : s.Idle c)
      (h : Thinned (s.perform c).service cs cs') : Thinned s (c :: cs) cs'
  | keep {s : Service σ} {c : Call} {cs cs' : List Call} (now : String)
      (h : Thinned (s.perform c).service cs cs') : Thinned s (c :: cs) (c.asOf now :: cs')

/-- A thinned history leaves the service as the whole one does, but for timestamps. -/
theorem Thinned.undated_after {s s' : Service σ} {history thinned : List Call}
    (h : s.Thinned history thinned) (hs : s.undated = s'.undated) :
    (s.after history).undated = (s'.after thinned).undated := by
  induction h generalizing s' with
  | nil => exact hs
  | @drop s c cs cs' hidle _ ih =>
    rw [hidle.service_eq] at ih
    have hafter : s.after (c :: cs) = s.after cs := by
      rw [after, List.foldl_cons, hidle.service_eq]
      rfl
    rw [hafter]
    exact ih hs
  | @keep s c cs cs' now _ ih => exact ih (perform_congr hs c now).2

/-- After any history the cache holds at most the last edition that was made, under the id of the
    settings, and this is what the service hands out; an id that is no atom cannot be a key. Idle
    calls change nothing, so without them later calls give the same, but for timestamps. -/
theorem after_history (g : Gazetteer) (synthesis : SynthesisSettings) (settings : ServiceSettings)
    (source : σ) (history : List Call) :
    let fresh := start g synthesis settings source
    let s := fresh.after history
    (∀ entry ∈ s.cache.held,
      .atom entry.1 = settings.topologyId ∧ entry.2.topology.id = settings.topologyId) ∧
    (s.get.outcome =
      match settings.topologyId with
      | .atom _ => .ok (fresh.lastMade none history)
      | _ => .error (.fault .wrongType)) ∧
    (∀ c, s.Idle c → (s.perform c).service = s) ∧
    ∀ thinned c now, fresh.Thinned history thinned →
      Option.map Edition.undated <$> (s.perform c).outcome =
        Option.map Edition.undated <$> ((fresh.after thinned).perform (c.asOf now)).outcome := by
  intro fresh s
  have hkeeps := (keeps_start g synthesis settings source).after history
  refine ⟨?_, ?_, ?_, ?_⟩
  · intro entry hentry
    rw [hkeeps.cache] at hentry
    obtain ⟨hid, hlast⟩ := Cache.eq_of_mem_holding hentry
    exact ⟨hid.symm, hkeeps.carried _ hlast⟩
  · rw [hkeeps.outcome_get]
    cases settings.topologyId <;> rfl
  · intro c hidle
    exact hidle.service_eq
  · intro thinned c now hthinned
    exact (perform_congr (hthinned.undated_after rfl) c now).1

end Service

end NetAtlas
