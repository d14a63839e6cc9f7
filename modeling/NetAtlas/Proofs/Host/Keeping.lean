import NetAtlas.Proofs.Host.Writing

/-!
What stays on a disk in memory. Making directories takes nothing away; removing a file takes that
file away and nothing else.
-/

namespace NetAtlas

namespace Disk

variable {d later : Disk} {path : String} {place : Place}

/-- All that is on a disk is on a later one as well. -/
structure Keeps (d later : Disk) : Prop where
  working : later.working = d.working
  entries : ∀ place e, d.entry? place = some e → later.entry? place = some e

namespace Keeps

theorem refl (d : Disk) : d.Keeps d := ⟨rfl, fun _ _ h => h⟩

theorem trans {last : Disk} (h : d.Keeps later) (h' : later.Keeps last) : d.Keeps last :=
  ⟨h'.working.trans h.working, fun place e he => h'.entries place e (h.entries place e he)⟩

theorem placeOf_eq (h : d.Keeps later) (hplace : d.placeOf path = .ok place) :
    later.placeOf path = .ok place := by
  rw [placeOf, h.working]
  exact follow_of_directories (fun other => h.entries other .directory) hplace

end Keeps

theorem keeps_makeDirectory (h : d.makeDirectory path = .ok later) : d.Keeps later := by
  cases hplace : d.placeOf path with
  | error e =>
    rw [makeDirectory, hplace] at h
    cases h
  | ok place =>
    simp only [makeDirectory, hplace, bind, Except.bind] at h
    split at h
    · cases h
    · rename_i hnone
      obtain rfl := Except.ok.inj h
      have hroot : place ≠ [] := by
        rintro rfl
        cases hnone
      refine ⟨rfl, fun other e he => ?_⟩
      have hother : other ≠ place := by
        rintro rfl
        rw [hnone] at he
        cases he
      rw [find_set d hroot, if_neg hother, he]

/-- There is a file at a path exactly where one can be read. -/
theorem find?_eq_file_iff {content : List UInt8} :
    d.find? path = some (.file content) ↔ d.read path = .ok content := by
  rw [find?, read]
  cases d.placeOf path with
  | error e => simp [bind, Except.bind]
  | ok place =>
    simp only [bind, Except.bind]
    cases d.entry? place with
    | none => simp
    | some e => cases e <;> simp

theorem exists_placeOf_of_find? {e : Entry} (h : d.find? path = some e) :
    ∃ place, d.placeOf path = .ok place ∧ d.entry? place = some e := by
  rw [find?] at h
  split at h
  · rename_i place hplace
    exact ⟨place, hplace, h⟩
  · cases h

/-- What a path led to it still leads to. -/
theorem Keeps.find?_eq (h : d.Keeps later) {e : Entry} (he : d.find? path = some e) :
    later.find? path = some e := by
  obtain ⟨place, hplace, he⟩ := exists_placeOf_of_find? he
  rw [find?, h.placeOf_eq hplace]
  exact h.entries place e he

theorem remove_of_directory (h : d.find? path = some .directory) :
    d.remove path = .error (.isADirectory path) := by
  obtain ⟨place, hplace, he⟩ := exists_placeOf_of_find? h
  simp only [remove, hplace, bind, Except.bind, he]

theorem remove_of_file {content : List UInt8} (hplace : d.placeOf path = .ok place)
    (hfile : d.entry? place = some (.file content)) : d.remove path = .ok (d.erase place) := by
  simp only [remove, hplace, bind, Except.bind, hfile]

theorem find_erase (hplace : place ≠ []) (other : Place) :
    Disk.entry? (d.erase place) other = if other = place then none else d.entry? other := by
  split
  · rename_i hsame
    subst hsame
    rw [erase, Disk.entry?, if_neg hplace, List.lookup_eq_none_iff]
    intro entry hentry
    have hne : entry.1 ≠ other := by simpa using (List.mem_filter.mp hentry).2
    simpa using hne.symm
  · rename_i hother
    rw [erase, Disk.entry?, Disk.entry?, lookup_filter_ne hother]

section

variable {content : List UInt8} (hfile : d.entry? place = some (.file content))

include hfile

theorem ne_nil_of_file : place ≠ [] := by
  rintro rfl
  cases hfile

/-- A file is no part of the way to any place. -/
theorem placeOf_erase {query : String} {there : Place} (hquery : d.placeOf query = .ok there) :
    (d.erase place).placeOf query = .ok there := by
  refine follow_of_directories (fun other hother => ?_) hquery
  have hne : other ≠ place := by
    rintro rfl
    rw [hfile] at hother
    cases hother
  rw [find_erase (ne_nil_of_file hfile), if_neg hne, hother]

/-- A file that is removed is gone. -/
theorem find?_erase (hplace : d.placeOf path = .ok place) : (d.erase place).find? path = none := by
  rw [find?, placeOf_erase hfile hplace]
  dsimp only
  rw [find_erase (ne_nil_of_file hfile), if_pos rfl]

/-- Another file stays. -/
theorem read_erase {other : List UInt8} {query : String} (hquery : d.placeOf query ≠ .ok place)
    (hread : d.read query = .ok other) : (d.erase place).read query = .ok other := by
  rw [← find?_eq_file_iff, find?] at hread ⊢
  cases hthere : d.placeOf query with
  | error e =>
    rw [hthere] at hread
    cases hread
  | ok there =>
    rw [hthere] at hread hquery
    rw [placeOf_erase hfile hthere]
    dsimp only at hread ⊢
    rw [find_erase (ne_nil_of_file hfile), if_neg (fun h => hquery (congrArg _ h)), hread]

end

end Disk

namespace Session

theorem run_isThere (path : String) (machine : Session) :
    (Host.isThere path : StateM Session _) machine = ((machine.disk.find? path).isSome, machine) :=
  rfl

theorem run_paint (format : String) (picture : Picture) (machine : Session) :
    (Host.paint format picture : StateM Session _) machine = (paint format, machine) :=
  rfl

/-- The work takes nothing away from the disk. -/
def Adds {α : Type} (work : StateM Session α) : Prop := ∀ s : Session, s.disk.Keeps (work s).2.disk

namespace Adds

variable {α β : Type}

theorem pure (a : α) : Adds (Pure.pure a : StateM Session α) := fun s => .refl s.disk

theorem bind {work : StateM Session α} {next : α → StateM Session β} (hwork : Adds work)
    (hnext : ∀ a, Adds (next a)) : Adds (work >>= next) := fun s =>
  (hwork s).trans (hnext (work s).1 (work s).2)

end Adds

theorem adds_makeDirectory (path : String) : Adds (Host.makeDirectory path) := by
  intro s
  change s.disk.Keeps (change (fun d => d.makeDirectory path) s).2.disk
  cases hmade : s.disk.makeDirectory path with
  | ok disk =>
    rw [change_of_ok hmade]
    exact Disk.keeps_makeDirectory hmade
  | error e =>
    rw [change_of_error hmade]
    exact .refl s.disk

theorem adds_isDirectory (path : String) : Adds (Host.isDirectory path) := fun s => .refl s.disk

theorem adds_settle (path : String) : Adds (Host.settle path) := by
  refine (adds_makeDirectory path).bind fun made => ?_
  split
  · exact .pure _
  · exact .pure _
  · exact (adds_isDirectory path).bind fun found => .pure _

theorem adds_settleFrom (path : String) (levels : Nat) : Adds (Host.settleFrom path levels) := by
  induction levels generalizing path with
  | zero => exact adds_settle path
  | succ levels ih =>
    refine (adds_settle path).bind fun settled => ?_
    split
    · refine (ih (Path.parent path)).bind fun made => ?_
      split
      · exact adds_settle path
      · exact .pure _
    · exact .pure _

theorem adds_makeDirectories (path : String) : Adds (Host.makeDirectories path) :=
  adds_settleFrom _ _

end Session

end NetAtlas
