import NetAtlas.Geography
import NetAtlas.Proofs.Host.Keeping
import NetAtlas.Topology.Export

/-!
Exports of maps that fail, on the machine in memory. What is at the path then is removed, whether it
came from the export or was there before; a directory cannot be removed, and that is the failure
that is told in place of the first one. All other files stay.
-/

namespace NetAtlas

/-- A picture that is not painted to a file takes nothing from the disk: the writing comes last, and
changes nothing where it fails. -/
theorem keeps_paintTo {path cause : String} {picture : Picture} {machine between : Session}
    (h : (paintTo path picture : StateM Session _) machine = (.error cause, between)) :
    machine.disk.Keeps between.disk := by
  rw [paintTo] at h
  by_cases hshape : (!picture.hasShape) = true
  · rw [if_pos hshape] at h
    cases h
    exact .refl _
  · rw [if_neg hshape, Session.run_bind] at h
    have hmade := Session.adds_makeDirectories (Path.parent path) machine
    rcases hmakes : (Host.makeDirectories (Path.parent path) : StateM Session _) machine with
      ⟨outcome, made⟩
    rw [hmakes] at h hmade
    cases outcome with
    | error e =>
      cases h
      exact hmade
    | ok _ =>
      dsimp only at h
      rw [Session.run_bind, Session.run_paint] at h
      cases hpaint : Session.paint (imageFormat path) with
      | none =>
        rw [hpaint] at h
        cases h
        exact hmade
      | some content =>
        rw [hpaint] at h
        dsimp only at h
        rw [Session.run_bind] at h
        rcases hwrite : (Host.write (imagePath path) content : StateM Session _) made with
          ⟨written, last⟩
        rw [hwrite] at h
        cases written with
        | ok _ => cases h
        | error e =>
          obtain rfl := Session.eq_of_change_error hwrite
          cases h
          exact hmade

namespace Topology

section

variable {path : String} (cause : String) {machine : Session}

theorem discard_of_none (h : machine.disk.find? path = none) :
    (discard path cause : StateM Session _) machine = (.mapExport path cause, machine) := by
  rw [discard, Session.run_bind, Session.run_isThere, h]
  rfl

theorem discard_of_directory (h : machine.disk.find? path = some .directory) :
    (discard path cause : StateM Session _) machine = (.access (.isADirectory path), machine) := by
  have hremove : (Host.remove path : StateM Session _) machine =
      (.error (.isADirectory path), machine) :=
    Session.change_of_error (Disk.remove_of_directory h)
  rw [discard, Session.run_bind, Session.run_isThere, h]
  dsimp only [Option.isSome_some]
  rw [if_pos rfl, Session.run_bind, hremove]
  rfl

theorem discard_of_file {place : Place} {content : List UInt8}
    (hplace : machine.disk.placeOf path = .ok place)
    (hfile : machine.disk.entry? place = some (.file content)) :
    (discard path cause : StateM Session _) machine =
      (.mapExport path cause, { machine with disk := machine.disk.erase place }) := by
  have hfind : machine.disk.find? path = some (.file content) := by rw [Disk.find?, hplace, ← hfile]
  have hremove : (Host.remove path : StateM Session _) machine =
      (.ok (), { machine with disk := machine.disk.erase place }) :=
    Session.change_of_ok (Disk.remove_of_file hplace hfile)
  rw [discard, Session.run_bind, Session.run_isThere, hfind]
  dsimp only [Option.isSome_some]
  rw [if_pos rfl, Session.run_bind, hremove]
  rfl

/-- After discarding there is nothing at the path, unless it is a directory. -/
theorem discard_ends (path cause : String) (machine : Session) :
    machine.disk.find? path = some .directory ∧
        (discard path cause : StateM Session _) machine =
          (.access (.isADirectory path), machine) ∨
      machine.disk.find? path ≠ some .directory ∧
        ∃ after, (discard path cause : StateM Session _) machine = (.mapExport path cause, after) ∧
          after.disk.find? path = none := by
  cases h : machine.disk.find? path with
  | none => exact .inr ⟨by simp, machine, discard_of_none cause h, h⟩
  | some e =>
    cases e with
    | directory => exact .inl ⟨rfl, discard_of_directory cause h⟩
    | file content =>
      obtain ⟨place, hplace, hfile⟩ := Disk.exists_placeOf_of_find? h
      exact .inr ⟨by simp, _, discard_of_file cause hplace hfile, Disk.find?_erase hfile hplace⟩

/-- Discarding leaves the files at all other places. -/
theorem read_discard {query : String} {content : List UInt8}
    (hread : machine.disk.read query = .ok content)
    (hquery : machine.disk.placeOf query ≠ machine.disk.placeOf path) :
    ((discard path cause : StateM Session _) machine).2.disk.read query = .ok content := by
  cases h : machine.disk.find? path with
  | none => rwa [discard_of_none cause h]
  | some e =>
    cases e with
    | directory => rwa [discard_of_directory cause h]
    | file other =>
      obtain ⟨place, hplace, hfile⟩ := Disk.exists_placeOf_of_find? h
      rw [discard_of_file cause hplace hfile]
      exact Disk.read_erase hfile (hplace ▸ hquery) hread

end

section

variable {t : Topology} {p : Projector Float} {path cause : String} {dotsPerInch : Float}
  {labelled : Bool} {picture : Picture} {machine between : Session}

/-- An export whose picture is not painted ends in what comes of discarding it. -/
theorem run_exportMap_of_error (hnodes : t.nodes.isEmpty = false)
    (hpicture : Picture.ofTopology p t dotsPerInch labelled = .ok picture)
    (hpaint : (paintTo path picture : StateM Session _) machine = (.error cause, between)) :
    (t.exportMap p path dotsPerInch labelled : StateM Session _) machine =
      (.error ((discard path cause : StateM Session _) between).1,
        ((discard path cause : StateM Session _) between).2) := by
  rw [exportMap, hnodes, hpicture]
  dsimp only
  rw [if_neg Bool.false_ne_true, Session.run_bind, hpaint]
  rfl

end

/-- A single node, in New York. -/
def lone : Topology :=
  { (default : Topology) with
    nodes := [{ (default : Node) with coordinates := ⟨40.7128, -74.006⟩ }] }

def atlas : Projector Float := .shipped .default 1000.0 500.0 85.0 4

/-- A machine with a file and a directory that are named like maps. -/
def harbour : Session :=
  .start (((Disk.empty ["home"]).set ["home", "map.xyz"] (.file [0x78])).set ["home", "map.png"]
    .directory) ""

end Topology

end NetAtlas
