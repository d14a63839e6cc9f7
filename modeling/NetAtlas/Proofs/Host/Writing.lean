import NetAtlas.Host.Session

/-!
Reading what was written. A file on the disk in memory has the content that was last written to
its path, also when the directories that it is in were made on the way.
-/

namespace NetAtlas

namespace Disk

theorem lookup_filter_ne {entries : List (Place × Entry)} {place other : Place} (h : other ≠ place) :
    (entries.filter fun (p, _) => p ≠ place).lookup other = entries.lookup other := by
  induction entries with
  | nil => rfl
  | cons entry entries ih =>
    obtain ⟨p, e⟩ := entry
    by_cases hp : p = place
    · subst hp
      have hother : (other == p) = false := by simpa using h
      simpa [List.lookup_cons, hother] using ih
    · simp only [List.filter_cons, ne_eq, hp, not_false_eq_true, decide_true, if_true,
        List.lookup_cons, ih]

/-- Setting an entry changes what is at its place, and nothing else. -/
theorem find_set (d : Disk) {place : Place} (hplace : place ≠ []) (e : Entry) (other : Place) :
    Disk.entry? (d.set place e) other = if other = place then some e else d.entry? other := by
  by_cases hother : other = place
  · subst hother
    simp [Disk.entry?, set, hplace]
  · rw [if_neg hother, Disk.entry?, Disk.entry?]
    simp only [set, List.lookup_cons, show (other == place) = false by simpa using hother]
    rw [lookup_filter_ne hother]

/-- A path leads through directories only, so it leads on where these stay. -/
theorem follow_of_directories {d later : Disk} {path : String}
    (h : ∀ place, d.entry? place = some .directory → later.entry? place = some .directory)
    {names : List String} {here there : Place} (hfollow : d.follow path here names = .ok there) :
    later.follow path here names = .ok there := by
  induction names generalizing here with
  | nil => exact hfollow
  | cons name names ih =>
    rw [follow] at hfollow ⊢
    split at hfollow
    · rename_i hdirectory
      rw [h here hdirectory]
      exact ih hfollow
    · cases hfollow
    · cases hfollow

/-- A new file is in the way of no path. -/
theorem follow_set {d : Disk} {path : String} {place : Place} (hplace : place ≠ [])
    (hfree : d.entry? place ≠ some .directory) (content : List UInt8) {names : List String}
    {here there : Place} (h : d.follow path here names = .ok there) :
    (d.set place (.file content)).follow path here names = .ok there := by
  refine follow_of_directories (fun other hother => ?_) h
  have hne : other ≠ place := by
    rintro rfl
    exact hfree hother
  rw [find_set d hplace, if_neg hne, hother]

theorem find_root (d : Disk) : d.entry? [] = some .directory := rfl

/-- What a path leads to when it is written is not a directory, and has to be in one. -/
theorem exists_placeOf_of_write {d written : Disk} {path : String} {content : List UInt8}
    (h : d.write path content = .ok written) :
    ∃ place, d.placeOf path = .ok place ∧ d.entry? place ≠ some .directory ∧
      written = d.set place (.file content) := by
  cases hplace : d.placeOf path with
  | error e =>
    rw [write, hplace] at h
    cases h
  | ok place =>
    simp only [write, hplace, bind, Except.bind] at h
    split at h
    · cases h
    · rename_i hfree
      exact ⟨place, rfl, hfree, (Except.ok.inj h).symm⟩
    · cases h
    · cases h

theorem read_write {d written : Disk} {path : String} {content : List UInt8}
    (h : d.write path content = .ok written) : written.read path = .ok content := by
  obtain ⟨place, hplaceOf, hfree, rfl⟩ := exists_placeOf_of_write h
  have hplace : place ≠ [] := by
    rintro rfl
    exact hfree (find_root d)
  have hthere : (d.set place (.file content)).placeOf path = .ok place :=
    follow_set hplace hfree content hplaceOf
  have hentry : Disk.entry? (d.set place (.file content)) place = some (.file content) := by
    rw [find_set d hplace, if_pos rfl]
  simp only [read, hthere, bind, Except.bind, hentry]

end Disk

namespace Session

theorem run_bind {α β : Type} (work : StateM Session α) (next : α → StateM Session β)
    (machine : Session) : (work >>= next) machine = next (work machine).1 (work machine).2 :=
  rfl

section

variable {f : Disk → Except AccessError Disk} {machine : Session}

theorem change_of_ok {disk : Disk} (h : f machine.disk = .ok disk) :
    change f machine = (.ok (), { machine with disk }) := by
  rw [change, h]

theorem change_of_error {e : AccessError} (h : f machine.disk = .error e) :
    change f machine = (.error e, machine) := by
  rw [change, h]

/-- A change that fails leaves the disk as it is. -/
theorem eq_of_change_error {e : AccessError} {after : Session}
    (h : change f machine = (.error e, after)) : after = machine := by
  cases hchange : f machine.disk with
  | ok disk =>
    rw [change_of_ok hchange] at h
    cases h
  | error e' =>
    rw [change_of_error hchange] at h
    cases h
    rfl

end

theorem read_change {path : String} {content : List UInt8} {s after : Session}
    (h : change (fun d => d.write path content) s = (.ok (), after)) :
    after.disk.read path = .ok content := by
  cases hwrite : s.disk.write path content with
  | error e =>
    rw [change_of_error hwrite] at h
    cases h
  | ok written =>
    rw [change_of_ok hwrite] at h
    cases h
    exact Disk.read_write hwrite

/-- The content that was written to a path is read from it, on a disk that may have got the
directories of the path as well. -/
theorem read_writeInto {path : String} {content : List UInt8} {s after : Session}
    (h : (Host.writeInto path content : StateM Session _) s = (.ok (), after)) :
    after.disk.read path = .ok content := by
  rw [Host.writeInto, run_bind] at h
  cases hmade : ((Host.makeDirectories (Path.parent path) : StateM Session _) s).1 with
  | ok _ =>
    rw [hmade] at h
    exact read_change h
  | error e =>
    rw [hmade] at h
    cases h

/-- The same where the writing is reported, and ends all work where it fails. -/
theorem read_of_reported {path : String} {content : List UInt8} {n : Notice} {s after : Session}
    (h : (do
      match ← Host.writeInto path content with
      | .ok () =>
        Host.report n
        return .ok ()
      | .error e => return .error (.access e) : StateM Session (Except Failure Unit)) s =
        (.ok (), after)) :
    after.disk.read path = .ok content := by
  rw [run_bind] at h
  cases hwrite : (Host.writeInto path content : StateM Session _) s with
  | mk outcome written =>
    rw [hwrite] at h
    cases outcome with
    | ok _ =>
      have hdisk : after.disk = written.disk := by
        cases h
        rfl
      rw [hdisk]
      exact read_writeInto hwrite
    | error e => cases h

end Session

end NetAtlas
