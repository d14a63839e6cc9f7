import NetAtlas.Command.Generate
import NetAtlas.Host.Session

/-!
Synthesis by command on the machine in memory. What the machine is told on the way has no bearing
on the result, which follows from its files, its clock and its number that nobody foresees.
-/

namespace NetAtlas

/-- Nothing has changed on a machine but what was reported to it. -/
structure Session.Told (before after : Session) : Prop where
  disk : after.disk = before.disk
  now : after.now = before.now
  seed : after.seed = before.seed
  messages : after.messages = before.messages

namespace Session.Told

theorem refl (s : Session) : s.Told s := ⟨rfl, rfl, rfl, rfl⟩

theorem trans {s t u : Session} (h : s.Told t) (h' : t.Told u) : s.Told u :=
  ⟨h'.disk.trans h.disk, h'.now.trans h.now, h'.seed.trans h.seed, h'.messages.trans h.messages⟩

end Session.Told

namespace Command

variable {α β : Type} (manner : Manner)

/-- A task goes on with what it came to, or ends in its failure. -/
theorem run_bind (task : Task (StateM Session) α) (next : α → Task (StateM Session) β)
    (machine : Session) :
    (task >>= next) manner machine =
      match task manner machine with
      | (.ok a, after) => next a manner after
      | (.error cause, after) => (.error cause, after) := by
  simp only [bind, ExceptT.bind, ExceptT.mk, ReaderT.bind, StateT.bind]
  cases task manner machine with
  | mk r after => cases r <;> rfl

theorem told_report (n : Notice) (machine : Session) :
    machine.Told ((report n : Work (StateM Session) Unit) manner machine).2 := by
  rw [report]
  split <;> exact ⟨rfl, rfl, rfl, rfl⟩

theorem told_reportAll (ns : List Notice) (machine : Session) :
    machine.Told ((reportAll ns : Work (StateM Session) Unit) manner machine).2 := by
  induction ns generalizing machine with
  | nil => exact .refl _
  | cons n ns ih => exact (told_report manner n machine).trans (ih _)

/-- A result passes through when it has been reported. -/
theorem run_loaded (r : Except Failure α × List Notice) (machine : Session) :
    ∃ after, machine.Told after ∧
      (loaded r : Task (StateM Session) α) manner machine = (r.1, after) := by
  obtain ⟨outcome, ns⟩ := r
  refine ⟨_, told_reportAll manner ns machine, ?_⟩
  cases outcome <;> rfl

theorem run_read (path : String) (machine : Session) :
    (sure (ask (Host.read path)) : Task (StateM Session) _) manner machine =
      (.ok (machine.disk.read path), machine) :=
  rfl

/-- The path that the settings give is taken from the working directory. -/
def gazetteerPath (s : Settings) (machine : Session) : String :=
  Path.resolve ("/" ++ "/".intercalate machine.disk.working) s.sources.gazetteer

/-- A file is found from the working directory, read, and what is reported of it passed on. -/
theorem run_sure_read (resolve : String → String)
    (load : String → Except AccessError (List UInt8) → α × List Notice) (machine : Session) :
    ∃ after, machine.Told after ∧
      (sure (do
        let path := resolve (← ask Host.workingDirectory)
        let (a, notices) := load path (← ask (Host.read path))
        reportAll notices
        return a) : Task (StateM Session) α) manner machine =
        (.ok (load (resolve ("/" ++ "/".intercalate machine.disk.working))
          (machine.disk.read (resolve ("/" ++ "/".intercalate machine.disk.working)))).1, after) :=
  ⟨_, told_reportAll manner _ machine, rfl⟩

theorem run_gazetteerOf (s : Settings) (machine : Session) :
    ∃ after, machine.Told after ∧
      (sure (gazetteerOf s) : Task (StateM Session) Gazetteer) manner machine =
        (.ok (Gazetteer.loadOrEmpty (gazetteerPath s machine)
          (machine.disk.read (gazetteerPath s machine))).1, after) :=
  run_sure_read manner (fun working => Path.resolve working s.sources.gazetteer) Gazetteer.loadOrEmpty machine

/-- What the settings or the command line seed a synthesis with. -/
def seedOn (machine : Session) (given? : Option Int) (setting : Value) : Except Failure Int :=
  match given?, setting with
  | some seed, _ => .ok seed
  | none, .null => .ok (Int.ofNat machine.seed)
  | none, v => (Random.seedOf v).mapError .fault

theorem run_seedFor (given? : Option Int) (setting : Value) (machine : Session) :
    ∃ after, machine.Told after ∧
      (seedFor given? setting : Task (StateM Session) Int) manner machine =
        (seedOn machine given? setting, after) := by
  cases given? with
  | some seed => exact ⟨machine, .refl _, rfl⟩
  | none =>
    match setting with
    | .null => exact ⟨machine, .refl _, rfl⟩
    | .bool b => exact run_loaded manner ((Random.seedOf (.bool b)).mapError .fault, []) machine
    | .int n => exact run_loaded manner ((Random.seedOf (.int n)).mapError .fault, []) machine
    | .float x => exact run_loaded manner ((Random.seedOf (.float x)).mapError .fault, []) machine
    | .text t => exact run_loaded manner ((Random.seedOf (.text t)).mapError .fault, []) machine
    | .list vs => exact run_loaded manner ((Random.seedOf (.list vs)).mapError .fault, []) machine
    | .mapping es => exact run_loaded manner ((Random.seedOf (.mapping es)).mapError .fault, []) machine

/-- What the files, the clock and the number that nobody foresees come to. -/
def synthesizedOn (o : Order) (s : Settings) (machine : Session) :
    Except Failure (Option Topology × List Device) := do
  let inventory := Path.normal o.inventory
  let devices ← (Inventory.load inventory (machine.disk.read inventory)).1
  let g := (Gazetteer.loadOrEmpty (gazetteerPath s machine)
    (machine.disk.read (gazetteerPath s machine))).1
  let seed ← seedOn machine o.seed? s.synthesis.seed
  let made := Synthesis.run g s.synthesis machine.now devices (Twister.ofSeed seed)
  let t? ← made.outcome.mapError .fault
  return (t?, made.devices)

theorem run_synthesize (o : Order) (s : Settings) (machine : Session) :
    ((synthesize o s : Task (StateM Session) _) manner machine).1 = synthesizedOn o s machine := by
  obtain ⟨first, hfirst, hload⟩ := run_loaded manner
    (Inventory.load (Path.normal o.inventory) (machine.disk.read (Path.normal o.inventory))) machine
  rw [synthesize, synthesizedOn, run_bind, run_read]
  simp only
  rw [run_bind, hload]
  cases (Inventory.load (Path.normal o.inventory) (machine.disk.read (Path.normal o.inventory))).1 with
  | error cause => rfl
  | ok devices =>
    obtain ⟨second, hsecond, hgazetteer⟩ := run_gazetteerOf manner s first
    have htold := hfirst.trans hsecond
    obtain ⟨third, hthird, hseed⟩ :=
      run_seedFor manner o.seed? s.synthesis.seed second
    have hplace : gazetteerPath s first = gazetteerPath s machine := by
      rw [gazetteerPath, gazetteerPath, hfirst.disk]
    have hentropy : seedOn second o.seed? s.synthesis.seed =
        seedOn machine o.seed? s.synthesis.seed := by
      rw [seedOn.eq_def, seedOn.eq_def, htold.seed]
    have hnow : (sure (ask Host.now) : Task (StateM Session) _) manner third =
        (.ok machine.now, third) := by
      rw [← (htold.trans hthird).now]
      rfl
    simp only
    rw [run_bind, hgazetteer, hplace, hfirst.disk]
    generalize (Gazetteer.loadOrEmpty (gazetteerPath s machine)
      (machine.disk.read (gazetteerPath s machine))).1 = g
    simp only
    rw [run_bind, hseed, hentropy]
    cases seedOn machine o.seed? s.synthesis.seed with
    | error cause => rfl
    | ok seed =>
      simp only
      rw [run_bind, hnow]
      generalize hmade : Synthesis.run g s.synthesis machine.now devices (Twister.ofSeed seed) = made
      obtain ⟨fourth, -, hmake⟩ := run_loaded manner
        (made.outcome.mapError .fault, made.notices) third
      simp only [hmade]
      rw [run_bind, hmake]
      simp only [bind, Except.bind, hmade]
      cases made.outcome.mapError Failure.fault <;> rfl

end Command

end NetAtlas
