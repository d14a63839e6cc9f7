import NetAtlas.Command.Lookup
import NetAtlas.Proofs.Command.Generate
import NetAtlas.Proofs.Projection.Route
import NetAtlas.Proofs.Value.Faults

/-!
What the command that projects a point tells about the way to its place. It looks up the tables by
the point as it was given, the projection by its finite numbers; so the two agree on finite points,
and elsewhere where the way is the bare curve.
-/

namespace NetAtlas

/-- What there is to tell about a way. -/
def Route.told : Route Float → List Message
  | .pinned _ => [.pinned]
  | .nudged n => [.nudged n.name]
  | .bare => []

theorem Route.told_eq_nil_iff {r : Route Float} : r.told = [] ↔ r = .bare := by
  cases r <;> simp [told]

namespace Command

section

variable (p : Projector Float) {latitude longitude : Float}

/-- The command tells of the way that the tables give for the point itself. -/
theorem aboutPlacement_eq_told (latitude longitude : Float) :
    aboutPlacement p latitude longitude = (p.route latitude longitude).told := by
  rw [aboutPlacement, Projector.route]
  cases p.pinAt latitude longitude with
  | some pin => rfl
  | none => cases p.nudgeAt latitude longitude <;> rfl

theorem aboutPlacement_of_isFinite (h : (latitude.isFinite && longitude.isFinite) = true) :
    aboutPlacement p latitude longitude = (p.taken latitude longitude).told := by
  rw [Bool.and_eq_true] at h
  rw [aboutPlacement_eq_told, p.taken_of_isFinite h.1 h.2]

/-- Of a point that is not finite the command tells no nudge, also where the point is nudged. -/
theorem nudged_notMem_aboutPlacement (h : (latitude.isFinite && longitude.isFinite) = false)
    (region : String) : .nudged region ∉ aboutPlacement p latitude longitude := by
  rw [aboutPlacement, p.nudgeAt_eq_none h]
  cases p.pinAt latitude longitude <;> simp

/-- With the shipped tables what is told is the way that is taken, unless the point is not finite and
    the way goes by a pin or a nudge. -/
theorem aboutPlacement_eq_told_taken_iff {p : Projector Float} (hpins : p.pins = shippedPins)
    (hround : p.roundTo = Decimal.roundTo) :
    aboutPlacement p latitude longitude = (p.taken latitude longitude).told ↔
      (latitude.isFinite && longitude.isFinite) = true ∨ p.taken latitude longitude = .bare := by
  cases h : latitude.isFinite && longitude.isFinite with
  | true => simp [aboutPlacement_of_isFinite p h]
  | false =>
    rw [aboutPlacement_eq_told, Projector.route_shipped_eq_bare hpins hround h, Route.told, eq_comm,
      Route.told_eq_nil_iff]
    simp

end

section

variable (manner : Manner) (machine : Session)

/-- The settings that the file at a path holds. -/
def settingsOn (path : String) : Except Failure Settings :=
  (Settings.load (Path.normal path) (machine.disk.read (Path.normal path))).1

/-- The projector of the settings, with the map file that they name. -/
def projectorOn (s : Settings) : Except Failure (Projector Float) :=
  (Projector.load s.projection (s.sources.map.map fun path => (path, machine.disk.read path))).1

/-- What is said when there are no settings to go by. -/
def complaint (path : String) : Failure → Message
  | .noSettings _ => .settingsMissing path
  | cause => .settingsRefused path cause

theorem run_work_bind {α β : Type} (work : Work (StateM Session) α)
    (next : α → Work (StateM Session) β) :
    (work >>= next) manner machine = next (work manner machine).1 manner (work manner machine).2 :=
  rfl

theorem run_ask_read (path : String) :
    (ask (Host.read path) : Work (StateM Session) _) manner machine =
      (machine.disk.read path, machine) :=
  rfl

theorem messages_say {manner : Manner} (hmanner : manner.quiet = false) (msg : Message) :
    ((say msg : Work (StateM Session) Unit) manner machine).2.messages = machine.messages ++ [msg] := by
  rw [say, hmanner]
  rfl

theorem run_settingsAt_of_ok {path : String} {s : Settings} (h : settingsOn machine path = .ok s) :
    ∃ after, machine.Told after ∧
      (settingsAt path : Work (StateM Session) _) manner machine = (some s, after) := by
  rw [settingsOn] at h
  simp only [settingsAt, run_work_bind, run_ask_read, h]
  exact ⟨_, (told_reportAll manner _ machine).trans (told_report manner _ _), rfl⟩

theorem run_settingsAt_of_error {path : String} {cause : Failure} (hmanner : manner.quiet = false)
    (h : settingsOn machine path = .error cause) :
    ∃ after, after.messages = machine.messages ++ [complaint (Path.normal path) cause] ∧
      (settingsAt path : Work (StateM Session) _) manner machine = (none, after) := by
  rw [settingsOn] at h
  simp only [settingsAt, run_work_bind, run_ask_read, h]
  cases cause with
  | noSettings =>
    simp only [run_work_bind]
    refine ⟨_, ?_, rfl⟩
    rw [(told_report manner _ _).messages, messages_say _ hmanner,
      (told_reportAll manner _ machine).messages]
    rfl
  | _ =>
    simp only [run_work_bind]
    refine ⟨_, ?_, rfl⟩
    rw [messages_say _ hmanner, (told_report manner _ _).messages,
      (told_reportAll manner _ machine).messages]
    rfl

theorem run_projectorOf (s : Settings) :
    ∃ after, machine.Told after ∧
      (projectorOf s : Task (StateM Session) _) manner machine = (projectorOn machine s, after) := by
  rw [projectorOn, projectorOf]
  cases s.sources.map with
  | none => exact run_loaded manner (Projector.load s.projection none) machine
  | some path =>
    dsimp only
    rw [run_bind, run_read]
    exact run_loaded manner
      (Projector.load s.projection (some (path, machine.disk.read path))) machine

/-- All that is said is kept, in order. -/
theorem run_sayAll {manner : Manner} (hmanner : manner.quiet = false) (msgs : List Message) :
    ∃ after, after.messages = machine.messages ++ msgs ∧
      (msgs.forM fun msg => sure (say msg) : Task (StateM Session) Unit) manner machine =
        (.ok (), after) := by
  induction msgs generalizing machine with
  | nil => exact ⟨machine, (List.append_nil _).symm, rfl⟩
  | cons msg msgs ih =>
    have hsay := messages_say machine hmanner msg
    obtain ⟨after, hafter, hrun⟩ := ih ((say msg : Work (StateM Session) Unit) manner machine).2
    exact ⟨after, by rw [hafter, hsay, List.append_assoc, List.singleton_append], hrun⟩

/-- Where a projector puts a point, if anywhere. -/
def placedBy (p : Projector Float) (latitude longitude : Float) : Except Failure (Point Float) :=
  (p.onScreen latitude longitude).mapError .fault

/-- Of a point that is placed, the place is said and what there is to tell about it. -/
theorem run_place {manner : Manner} (hmanner : manner.quiet = false) (p : Projector Float)
    (latitude longitude : Float) :
    ∃ after,
      (do
        let place ← loaded (placedBy p latitude longitude, [])
        sure (say (.position place))
        (aboutPlacement p latitude longitude).forM fun msg => sure (say msg)
        : Task (StateM Session) Unit) manner machine =
        ((placedBy p latitude longitude).map fun _ => (), after) ∧
      after.messages = machine.messages ++
        match placedBy p latitude longitude with
        | .ok place => .position place :: aboutPlacement p latitude longitude
        | .error _ => [] := by
  obtain ⟨placed, hplaced, hrun⟩ := run_loaded manner (placedBy p latitude longitude, []) machine
  rw [run_bind, hrun]
  cases placedBy p latitude longitude with
  | error cause => exact ⟨placed, rfl, by rw [hplaced.messages, List.append_nil]⟩
  | ok place =>
    obtain ⟨after, hafter, hsaid⟩ :=
      run_sayAll placed hmanner (.position place :: aboutPlacement p latitude longitude)
    exact ⟨after, hsaid, by rw [hafter, hplaced.messages]⟩

theorem run_ended (task : Task (StateM Session) Unit) :
    (ended task : Work (StateM Session) _) manner machine =
      (match (task manner machine).1 with
        | .ok () => success
        | .error _ => failure,
       (task manner machine).2) := by
  rcases hrun : task manner machine with ⟨outcome, after⟩
  simp only [ended, bind, StateT.bind, hrun]
  cases outcome <;> rfl

/-- The projector and the place that a point comes to by the settings at a path. -/
def projectedOn (path : String) (latitude longitude : Float) :
    Except Failure (Projector Float × Point Float) := do
  let p ← projectorOn machine (← settingsOn machine path)
  return (p, ← placedBy p latitude longitude)

/-- The command says the place of the point and what there is to tell about it, and no more; or it
says at most that there are no settings. -/
theorem run_projectPoint {manner : Manner} (hmanner : manner.quiet = false) (path : String)
    (latitude longitude : Float) :
    ∃ code after said,
      (projectPoint path latitude longitude : Work (StateM Session) _) manner machine =
        (code, after) ∧
      after.messages = machine.messages ++ said ∧
      match projectedOn machine path latitude longitude with
      | .ok (p, place) =>
        code = success ∧ said = .position place :: aboutPlacement p latitude longitude
      | .error cause => code ≠ success ∧ (said = [] ∨ said = [complaint (Path.normal path) cause]) := by
  rw [projectPoint, withSettings, run_work_bind]
  cases hsettings : settingsOn machine path with
  | error cause =>
    obtain ⟨after, hafter, hrun⟩ := run_settingsAt_of_error manner machine hmanner hsettings
    refine ⟨misuse, after, _, by rw [hrun]; rfl, hafter, ?_⟩
    simp [projectedOn, hsettings, bind, Except.bind, success, misuse]
  | ok s =>
    obtain ⟨first, hfirst, hrun⟩ := run_settingsAt_of_ok manner machine hsettings
    obtain ⟨second, hsecond, hload⟩ := run_projectorOf manner first s
    have hsame : projectorOn first s = projectorOn machine s := by
      rw [projectorOn, projectorOn, hfirst.disk]
    have htold := (hfirst.trans hsecond).messages
    rw [hsame] at hload
    rw [hrun]
    dsimp only
    rw [run_ended, run_bind, hload]
    cases hprojector : projectorOn machine s with
    | error cause =>
      refine ⟨failure, second, [], rfl, by rw [htold, List.append_nil], ?_⟩
      simp [projectedOn, hsettings, hprojector, bind, Except.bind, success, failure]
    | ok p =>
      obtain ⟨third, hplaced, hsaid⟩ := run_place second hmanner p latitude longitude
      rw [htold] at hsaid
      dsimp only
      rw [← placedBy, hplaced]
      refine ⟨_, third, _, rfl, hsaid, ?_⟩
      cases hplace : placedBy p latitude longitude with
      | error cause =>
        simp [projectedOn, hsettings, hprojector, hplace, bind, Except.bind, Except.map, success,
          failure]
      | ok place =>
        simp [projectedOn, hsettings, hprojector, hplace, bind, Except.bind, Except.map, pure,
          Except.pure]

/-- The projectors of settings have the shipped tables. -/
theorem shipped_of_projectedOn {path : String} {latitude longitude : Float} {p : Projector Float}
    {place : Point Float} (h : projectedOn machine path latitude longitude = .ok (p, place)) :
    (p.pins = shippedPins ∧ p.roundTo = Decimal.roundTo) ∧
      p.onScreen latitude longitude = .ok place := by
  rw [projectedOn] at h
  obtain ⟨s, hsettings, h⟩ := bind_eq_ok_iff.mp h
  obtain ⟨p', hprojector, h⟩ := bind_eq_ok_iff.mp h
  obtain ⟨place', hplace, h⟩ := bind_eq_ok_iff.mp h
  cases h
  exact ⟨Projector.shipped_of_load hprojector, mapError_eq_ok_iff.mp hplace⟩

end

/-- The command tells every finite point the way that it took. Of any other no nudge is told, also
where it took the way of one. So on a machine, where the tables are the shipped ones, a point that
is not finite is told nothing about its way, which is right where it went by the bare curve alone. -/
theorem projectPoint_tells (latitude longitude : Float) :
    (∀ p : Projector Float,
      p.onMap latitude longitude =
        p.cut <$> p.along (Projector.finiteOrZero latitude) (Projector.finiteOrZero longitude)
          (p.taken latitude longitude) ∧
      ((latitude.isFinite && longitude.isFinite) = true →
        aboutPlacement p latitude longitude = (p.taken latitude longitude).told) ∧
      ((latitude.isFinite && longitude.isFinite) = false →
        ∀ region, .nudged region ∉ aboutPlacement p latitude longitude)) ∧
    ∀ (machine : Session) (verbose : Bool) (path : String),
      ∃ code after said,
        (projectPoint path latitude longitude : Work (StateM Session) _) ⟨verbose, false⟩ machine =
          (code, after) ∧
        after.messages = machine.messages ++ said ∧
        match projectedOn machine path latitude longitude with
        | .ok (p, place) =>
          code = success ∧ p.onScreen latitude longitude = .ok place ∧
          said = .position place :: aboutPlacement p latitude longitude ∧
          (aboutPlacement p latitude longitude = (p.taken latitude longitude).told ↔
            (latitude.isFinite && longitude.isFinite) = true ∨
              p.taken latitude longitude = .bare)
        | .error _ => code ≠ success ∧ .pinned ∉ said ∧ ∀ region, .nudged region ∉ said := by
  refine ⟨fun p => ⟨p.onMap_eq_along latitude longitude, aboutPlacement_of_isFinite p,
    nudged_notMem_aboutPlacement p⟩, ?_⟩
  intro machine verbose path
  have hmanner : (⟨verbose, false⟩ : Manner).quiet = false := rfl
  obtain ⟨code, after, said, hrun, hsaid, hend⟩ :=
    run_projectPoint machine hmanner path latitude longitude
  refine ⟨code, after, said, hrun, hsaid, ?_⟩
  cases hprojected : projectedOn machine path latitude longitude with
  | error cause =>
    rw [hprojected] at hend
    obtain ⟨hcode, rfl | rfl⟩ := hend
    · exact ⟨hcode, List.not_mem_nil, fun _ => List.not_mem_nil⟩
    · refine ⟨hcode, ?_, fun region => ?_⟩ <;> cases cause <;> simp [complaint]
  | ok projected =>
    obtain ⟨p, place⟩ := projected
    rw [hprojected] at hend
    obtain ⟨⟨hpins, hround⟩, hplace⟩ := shipped_of_projectedOn machine hprojected
    exact ⟨hend.1, hplace, hend.2, aboutPlacement_eq_told_taken_iff hpins hround⟩

/-- A point without longitude on the latitude of Wales is nudged off the Irish Sea in silence. -/
theorem aboutPlacement_omits_nudge :
    let p := Projector.shipped .default 1000.0 500.0 85.0 4
    aboutPlacement p 51.0 (0.0 / 0.0) = [] ∧
      (p.taken 51.0 (0.0 / 0.0)).told = [.nudged "british_isles"] := by
  refine ⟨?_, rfl⟩
  rw [aboutPlacement_eq_told, Projector.route_shipped_eq_bare rfl rfl (by decide), Route.told]

end Command

end NetAtlas
