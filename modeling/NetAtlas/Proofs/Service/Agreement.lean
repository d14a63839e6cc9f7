import NetAtlas.Proofs.Command.Generate
import NetAtlas.Proofs.Service.History
import NetAtlas.Proofs.Value.Faults
import NetAtlas.Service.Launch

/-!
The command and the service come to the same topology. Each of them reads the inventory file in its
own way and has its own generator; both are put beside one account of a run on a file, which neither
of them follows word by word.
-/

namespace NetAtlas

/-- The settings with the seed of a command line, if it has one. -/
def Settings.seeded (s : Settings) (given? : Option Int) : Settings :=
  { s with synthesis := { s.synthesis with seed := (given?.map Value.int).getD s.synthesis.seed } }

namespace Synthesis

/-! The seed among the settings has no part in a run, which draws from the source it is given. -/

section Seed

variable {σ : Type} [WordSource σ] (s : SynthesisSettings) (seed : Value)

theorem drawLinksFrom_with_seed (d : Device) (targets : List Device) (i count : Nat) :
    (drawLinksFrom { s with seed } d targets i count : StateM σ (List Link)) =
      drawLinksFrom s d targets i count := by
  induction count generalizing i with
  | zero => rfl
  | succ count ih =>
    rw [drawLinksFrom, drawLinksFrom]
    simp only [ih]
    rfl

theorem drawLinks_with_seed (fleet : List Device) (d : Device) :
    (drawLinks { s with seed } fleet d : Drawing σ (List Link)) = drawLinks s fleet d := by
  rw [drawLinks, drawLinks]
  simp only [drawLinksFrom_with_seed]

theorem relink_with_seed (fleet : List Device) (chosen : Device → Bool) (ds : List Device)
    (source : σ) :
    relink { s with seed } fleet chosen ds source = relink s fleet chosen ds source := by
  induction ds generalizing source with
  | nil => rfl
  | cons d ds ih =>
    rw [relink, relink]
    simp only [ih, drawLinks_with_seed]

theorem connectEach_with_seed (ids pending : List String) (edges : List Edge) :
    (connectEach { s with seed } ids pending edges : Drawing σ (List Edge)) =
      connectEach s ids pending edges := by
  induction pending generalizing edges with
  | nil => rfl
  | cons id pending ih =>
    rw [connectEach, connectEach]
    simp only [ih]
    rfl

theorem joinSome_with_seed (ids : List String) (count : Nat) (edges : List Edge) :
    (joinSome { s with seed } ids count edges : Drawing σ (List Edge)) =
      joinSome s ids count edges := by
  induction count generalizing edges with
  | zero => rfl
  | succ count ih =>
    rw [joinSome, joinSome]
    simp only [ih]
    rfl

theorem assemble_with_seed (now : String) (fleet : List Device) :
    (assemble { s with seed } now fleet : Drawing σ Topology) = assemble s now fleet := by
  rw [assemble, assemble, connect, connect]
  simp only [connectEach_with_seed, joinSome_with_seed]
  rfl

theorem run_with_seed (g : Gazetteer) (now : String) (devices : List Device) (source : σ) :
    run g { s with seed } now devices source = run g s now devices source := by
  rw [run, run]
  simp only [ofPlaced, assemble_with_seed, relink_with_seed]

end Seed

end Synthesis

namespace Inventory

/-- The devices that the content of a file comes to. -/
def Yields (file : Except AccessError (List UInt8)) (devices : List Device) : Prop :=
  ∃ records, readRecords file = .ok records ∧ (accept records).1 = .ok devices

/-- The two readers of inventory files find the same records. -/
theorem fetchFile_eq_ok_iff {path : String} {file : Except AccessError (List UInt8)} {sent : Value} :
    fetchFile path file = .ok sent ↔ ∃ records, readRecords file = .ok records ∧ sent = .list records := by
  rw [fetchFile.eq_def, readRecords.eq_def]
  cases file with
  | error e => simp
  | ok bytes =>
    dsimp only
    cases Json.parseFile bytes with
    | error e => simp
    | ok v =>
      dsimp only
      cases recordsOf? v with
      | none => simp
      | some records => simp [eq_comm]

theorem load_eq_ok_iff {path : String} {file : Except AccessError (List UInt8)}
    {devices : List Device} : (load path file).1 = .ok devices ↔ Yields file devices := by
  rw [load, Yields]
  cases readRecords file with
  | error reason => simp
  | ok records =>
    rcases haccept : accept records with ⟨f | accepted, notices⟩
    · simp [haccept]
    · simp [haccept]

end Inventory

namespace Service

variable {σ : Type}

theorem fetch_eq_ok_iff {service : Service σ} {path : String}
    {file : Except AccessError (List UInt8)} {devices : List Device} :
    (service.fetch fun _ => Inventory.fetchFile path file).1 = .ok devices ↔
      Inventory.Yields file devices := by
  rw [fetch]
  cases hsent : Inventory.fetchFile path file with
  | error e =>
    constructor
    · intro h
      cases h
    rintro ⟨records, hrecords, -⟩
    rw [Inventory.fetchFile_eq_ok_iff.mpr ⟨records, hrecords, rfl⟩] at hsent
    cases hsent
  | ok sent =>
    obtain ⟨records, hrecords, rfl⟩ := Inventory.fetchFile_eq_ok_iff.mp hsent
    rw [Inventory.Yields, hrecords]
    have hall : Inventory.acceptAll (.list records) = Inventory.accept records := rfl
    simp only [hall]
    rcases haccept : Inventory.accept records with ⟨f | accepted, notices⟩
    · simp [haccept]
    · simp [haccept]

variable [WordSource σ]

/-- What a service makes of devices is what a run makes of them, under the id of its settings. -/
theorem topology_generate (service : Service σ) (now : String) (devices : List Device) :
    (·.map Edition.topology) <$> (service.generate now devices).1 =
      (·.map fun t => { t with id := service.settings.topologyId }) <$>
        (Synthesis.run service.gazetteer service.synthesis now devices
          service.source).outcome.mapError .fault := by
  rw [generate]
  dsimp only
  split
  · rename_i f hfault
    rw [hfault]
    rfl
  · rename_i hnone
    rw [hnone]
    rfl
  · rename_i t hmade
    rw [hmade, (release_eq _ t).1]
    rfl

theorem topology_regenerate (service : Service σ) (inventory : Inventory) (now : String) :
    (·.map Edition.topology) <$> (service.regenerate true inventory now).outcome =
      (service.fetch inventory).1 >>= fun devices =>
        (·.map Edition.topology) <$> (service.generate now devices).1 := by
  rw [regenerate, if_pos rfl, renew]
  rcases service.fetch inventory with ⟨cause | devices, notices⟩ <;> rfl

end Service

/-- What a run on an inventory file comes to under the id of the settings: a topology, or nothing to
render. -/
def Settings.ComesTo (s : Settings) (g : Gazetteer) (file : Except AccessError (List UInt8))
    (now : String) (t? : Option Topology) : Prop :=
  ∃ devices seed made?, Inventory.Yields file devices ∧
    Random.seedOf s.synthesis.seed = .ok seed ∧
    (Synthesis.run g s.synthesis now devices (Twister.ofSeed seed)).outcome = .ok made? ∧
    made?.map (fun t => { t with id := s.service.topologyId }) = t?

/-- The gazetteer that the settings name on a machine. -/
def gazetteerOn (s : Settings) (machine : Session) : Gazetteer :=
  (Gazetteer.loadOrEmpty (Command.gazetteerPath s machine)
    (machine.disk.read (Command.gazetteerPath s machine))).1

/-- The path of a gazetteer shows in what is reported only. -/
theorem loadOrEmpty_path (path path' : String) (file : Except AccessError (List UInt8)) :
    (Gazetteer.loadOrEmpty path file).1 = (Gazetteer.loadOrEmpty path' file).1 := by
  rw [Gazetteer.loadOrEmpty.eq_def, Gazetteer.loadOrEmpty.eq_def, Gazetteer.load.eq_def,
    Gazetteer.load.eq_def]
  cases file with
  | error e => cases e <;> rfl
  | ok bytes =>
    dsimp only
    cases Gazetteer.ofBytes bytes <;> rfl

theorem run_seeded {σ : Type} [WordSource σ] (s : Settings) (given? : Option Int) (g : Gazetteer)
    (now : String) (devices : List Device) (source : σ) :
    Synthesis.run g (s.seeded given?).synthesis now devices source =
      Synthesis.run g s.synthesis now devices source :=
  Synthesis.run_with_seed s.synthesis _ g now devices source

namespace Command

theorem seedOn_eq {machine : Session} {given? : Option Int} {setting : Value}
    (hseed : (given?.map Value.int).getD setting ≠ .null) :
    seedOn machine given? setting =
      (Random.seedOf ((given?.map Value.int).getD setting)).mapError .fault := by
  cases given? with
  | some given => simp [seedOn, Random.seedOf, Value.integer?]
  | none =>
    rw [seedOn]
    · rfl
    · exact hseed

/-- The topology that the command goes on with, if there is anything to render. -/
def generated (manner : Manner) (o : Order) (s : Settings) (machine : Session) :
    Except Failure (Option Topology) :=
  (fun (t?, _) => t?.map fun t => { t with id := s.service.topologyId }) <$>
    ((synthesize o s : Task (StateM Session) _) manner machine).1

theorem generated_eq_ok_iff {manner : Manner} {o : Order} {s : Settings} {machine : Session}
    {t? : Option Topology} (hseed : (s.seeded o.seed?).synthesis.seed ≠ .null) :
    generated manner o s machine = .ok t? ↔
      (s.seeded o.seed?).ComesTo (gazetteerOn s machine)
        (machine.disk.read (Path.normal o.inventory)) machine.now t? := by
  rw [generated, run_synthesize, synthesizedOn, Settings.ComesTo]
  simp only [map_eq_ok_iff, bind_eq_ok_iff, mapError_eq_ok_iff, Inventory.load_eq_ok_iff,
    seedOn_eq hseed]
  constructor
  · rintro ⟨made, ⟨devices, hdevices, seed, hseed, made?, hmade, hpair⟩, htitled⟩
    obtain rfl := Except.ok.inj hpair
    refine ⟨devices, seed, made?, hdevices, hseed, ?_, htitled⟩
    rw [run_seeded]
    exact hmade
  · rintro ⟨devices, seed, made?, hdevices, hseed, hmade, htitled⟩
    rw [run_seeded] at hmade
    exact ⟨_, ⟨devices, hdevices, seed, hseed, made?, hmade, rfl⟩, htitled⟩

end Command

namespace Service

/-- The topology of the first regeneration by a service on a machine, with an inventory in a file. -/
def firstOn (s : Settings) (inventory : String) (entropy : Nat) (machine : Session) :
    Except Failure (Option Topology) := do
  let gazetteer := machine.disk.read (Command.gazetteerPath s machine)
  let service ← (launch s gazetteer entropy).1
  let records := fun _ => Inventory.fetchFile inventory (machine.disk.read inventory)
  (·.map Edition.topology) <$> (service.regenerate true records machine.now).outcome

theorem launch_eq {s : Settings} (path : String) (file : Except AccessError (List UInt8))
    (entropy : Nat) (hseed : s.synthesis.seed ≠ .null) :
    (launch s file entropy).1 =
      (fun seed => start (Gazetteer.loadOrEmpty path file).1 s.synthesis s.service
        (Twister.ofSeed seed)) <$> (Random.seedOf s.synthesis.seed).mapError .fault := by
  have hsource : Twister.ofSetting entropy s.synthesis.seed =
      Twister.ofSeed <$> Random.seedOf s.synthesis.seed := by
    rw [Twister.ofSetting]
    exact hseed
  rw [launch, hsource, loadOrEmpty_path path s.sources.gazetteer]
  cases Random.seedOf s.synthesis.seed <;> rfl

/-- The stages of a first regeneration: the seed is read before the file. -/
theorem firstOn_eq {s : Settings} {inventory : String} {entropy : Nat} {machine : Session}
    (hseed : s.synthesis.seed ≠ .null) :
    firstOn s inventory entropy machine = (do
      let seed ← (Random.seedOf s.synthesis.seed).mapError .fault
      let service := start (gazetteerOn s machine) s.synthesis s.service (Twister.ofSeed seed)
      let devices ←
        (service.fetch fun _ => Inventory.fetchFile inventory (machine.disk.read inventory)).1
      (·.map fun t => { t with id := s.service.topologyId }) <$>
        (Synthesis.run (gazetteerOn s machine) s.synthesis machine.now devices
          (Twister.ofSeed seed)).outcome.mapError .fault) := by
  rw [firstOn, launch_eq (Command.gazetteerPath s machine) _ _ hseed, gazetteerOn]
  simp only [topology_regenerate, topology_generate]
  generalize (Gazetteer.loadOrEmpty (Command.gazetteerPath s machine)
    (machine.disk.read (Command.gazetteerPath s machine))).1 = g
  cases Random.seedOf s.synthesis.seed with
  | error f => rfl
  | ok seed =>
    simp only [mapError_ok, Functor.map, Except.map, bind, Except.bind, start]

theorem firstOn_eq_ok_iff {s : Settings} {inventory : String} {entropy : Nat} {machine : Session}
    {t? : Option Topology} (hseed : s.synthesis.seed ≠ .null) :
    firstOn s inventory entropy machine = .ok t? ↔
      s.ComesTo (gazetteerOn s machine) (machine.disk.read inventory) machine.now t? := by
  rw [firstOn_eq hseed, Settings.ComesTo]
  simp only [map_eq_ok_iff, bind_eq_ok_iff, mapError_eq_ok_iff, fetch_eq_ok_iff]
  constructor
  · rintro ⟨seed, hseed, devices, hdevices, made?, hmade, htitled⟩
    exact ⟨devices, seed, made?, hdevices, hseed, hmade, htitled⟩
  · rintro ⟨devices, seed, made?, hdevices, hseed, hmade, htitled⟩
    exact ⟨seed, hseed, devices, hdevices, made?, hmade, htitled⟩

/-- A service refuses what the inventory sends only if the file comes to no devices. -/
theorem not_yields_of_firstOn {s : Settings} {inventory : String} {entropy : Nat}
    {machine : Session} {e : FetchError} (hseed : s.synthesis.seed ≠ .null)
    (h : firstOn s inventory entropy machine = .error (.fetch e)) (devices : List Device) :
    ¬ Inventory.Yields (machine.disk.read inventory) devices := by
  intro hyields
  rw [firstOn_eq hseed] at h
  cases hread : Random.seedOf s.synthesis.seed with
  | error f =>
    rw [hread] at h
    cases h
  | ok seed =>
    have hrun : (·.map fun t => { t with id := s.service.topologyId }) <$>
        (Synthesis.run (gazetteerOn s machine) s.synthesis machine.now devices
          (Twister.ofSeed seed)).outcome.mapError .fault =
        (.error (.fetch e) : Except Failure (Option Topology)) := by
      simpa only [hread, mapError_ok, bind, Except.bind, fetch_eq_ok_iff.mpr hyields] using h
    revert hrun
    generalize (Synthesis.run (gazetteerOn s machine) s.synthesis machine.now devices
          (Twister.ofSeed seed)).outcome = outcome
    intro hrun
    cases outcome <;> cases hrun

/-- An order with a seed of its own. -/
def seededOrder : Order where
  settings := ""
  inventory := "fleet.json"
  output? := none
  seed? := some 42
  map? := none
  devicesOutput? := none
  shown := false

/-- Settings without a seed. -/
def seedlessSettings : Settings where
  sources := ⟨"worldcities.csv", "map.json"⟩
  projection := .default
  synthesis := .default
  service := .default
  output := .default

/-- A machine whose inventory is an empty list, a pair of brackets. -/
def desertedMachine : Session :=
  .start ((Disk.empty ["home"]).set ["home", "fleet.json"] (.file [0x5b, 0x5d]))
    "2025-01-01T00:00:00"

end Service

end NetAtlas
