import NetAtlas.Inventory.File
import NetAtlas.Proofs.Inventory.Accept

/-!
Loading topologies and inventories. What is wrong with a file is reported with its path, but for
the faults that end a loading by themselves, and each of those has its cause in the document.
-/

namespace NetAtlas

/-- What a node says it can do is a record. -/
def Node.Shaped (entries : List (Atom × Value)) : Prop := RecordAt entries "capabilities"

/-- The corners and the centre of a frame are records. -/
def Bounds.Shaped (entries : List (Atom × Value)) : Prop :=
  ∀ name ∈ ["north_east", "south_west", "center"], RecordAt entries name

/-- There are records where a topology looks for fields without checking that it can. -/
structure Topology.Shaped (entries : List (Atom × Value)) : Prop where
  nodes : ∀ items, ((fieldOf? entries "nodes").getD (.list [])).items = .ok items →
    ∀ item ∈ items, item.IsRecord Node.Shaped
  statistics : ((fieldOf? entries "statistics").getD (.record [])).IsRecord fun _ => True
  bounds : ((fieldOf? entries "bounds").getD (.record [])).IsRecord Bounds.Shaped

section Faults

variable {kind : Fault → Prop} {entries : List (Atom × Value)} {v : Value}

theorem Coordinates.failsOnly_ofEntries
    (hrange : kind .outOfRange ∨ (Value.mapping entries).All Atom.InRange) :
    FailsOnly kind (Coordinates.ofEntries entries) := by
  rw [Coordinates.ofEntries]
  refine (failsOnly_floatField hrange).bind fun latitude _ => ?_
  refine (failsOnly_floatField hrange).bind fun longitude _ => ?_
  exact failsOnly_ok _

theorem Coordinates.failsOnly_ofField {name : String}
    (hrange : kind .outOfRange ∨ (Value.mapping entries).All Atom.InRange)
    (hshape : kind .notARecord ∨ RecordAt entries name) :
    FailsOnly kind (Coordinates.ofField entries name) := by
  have hnone : FailsOnly kind (Coordinates.ofEntries []) := failsOnly_ok _
  rw [Coordinates.ofField]
  split
  · rename_i v hv
    split
    · rename_i htruthy
      have hrecord := hshape.imp_right fun h => h v hv htruthy
      refine (failsOnly_entries hrecord).bind fun part hpart => ?_
      obtain rfl := eq_mapping_of_entries hpart
      exact Coordinates.failsOnly_ofEntries (hrange.imp_right (·.of_fieldOf? hv))
    · exact hnone
  · exact hnone

theorem Node.failsOnly_capabilitiesOf (hshape : kind .notARecord ∨ Node.Shaped entries) :
    FailsOnly kind (Node.capabilitiesOf entries) := by
  rw [Node.capabilitiesOf]
  split
  · rename_i v hv
    split
    · rename_i htruthy
      exact (failsOnly_entries (hshape.imp_right fun h => h v hv htruthy)).map _
    · exact failsOnly_ok _
  · exact failsOnly_ok _

variable (hkind : ∀ f, f.isReported = true → kind f)
include hkind

theorem Role.failsOnly_ofValue : FailsOnly kind (Role.ofValue v) := by
  rw [Role.ofValue.eq_def]
  split
  · split
    · exact failsOnly_ok _
    · exact failsOnly_error (hkind _ rfl)
  · exact failsOnly_error (hkind _ rfl)

theorem Status.failsOnly_ofValue : FailsOnly kind (Status.ofValue v) := by
  rw [Status.ofValue.eq_def]
  split
  · split
    · exact failsOnly_ok _
    · exact failsOnly_error (hkind _ rfl)
  · exact failsOnly_error (hkind _ rfl)

theorem HealthLevel.failsOnly_ofValue : FailsOnly kind (HealthLevel.ofValue v) := by
  rw [HealthLevel.ofValue.eq_def]
  split
  · split
    · exact failsOnly_ok _
    · exact failsOnly_error (hkind _ rfl)
  · exact failsOnly_error (hkind _ rfl)

theorem Node.failsOnly_ofValue (hrange : kind .outOfRange ∨ v.All Atom.InRange)
    (hshape : kind .notARecord ∨ v.IsRecord Node.Shaped) : FailsOnly kind (Node.ofValue v) := by
  rw [Node.ofValue]
  refine (failsOnly_entries hshape).bind fun entries hentries => ?_
  obtain rfl := eq_mapping_of_entries hentries
  refine (failsOnly_requiredText hkind).bind fun id _ => ?_
  refine (Role.failsOnly_ofValue hkind).bind fun role _ => ?_
  refine (Status.failsOnly_ofValue hkind).bind fun status _ => ?_
  refine (Coordinates.failsOnly_ofEntries hrange).bind fun coordinates _ => ?_
  have hcapabilities := hshape.imp_right (·.of_mapping)
  refine (Node.failsOnly_capabilitiesOf hcapabilities).bind fun capabilities _ => ?_
  exact failsOnly_ok _

theorem Edge.failsOnly_ofValue (hrange : kind .outOfRange ∨ v.All Atom.InRange)
    (hfinite : kind .infinite ∨ v.All Atom.Finite) : FailsOnly kind (Edge.ofValue v) := by
  rw [Edge.ofValue]
  refine (failsOnly_indexed hkind).bind fun entries hentries => ?_
  obtain rfl := eq_mapping_of_indexed hentries
  refine (failsOnly_requiredText hkind).bind fun id _ => ?_
  refine (failsOnly_requiredText hkind).bind fun source _ => ?_
  refine (failsOnly_requiredText hkind).bind fun target _ => ?_
  refine (failsOnly_floatField hrange).bind fun weight _ => ?_
  refine (failsOnly_intField hkind hfinite).bind fun cost _ => ?_
  exact failsOnly_ok _

theorem Statistics.failsOnly_ofValue (hrange : kind .outOfRange ∨ v.All Atom.InRange)
    (hfinite : kind .infinite ∨ v.All Atom.Finite)
    (hshape : kind .notARecord ∨ v.IsRecord fun _ => True) :
    FailsOnly kind (Statistics.ofValue v) := by
  rw [Statistics.ofValue]
  refine (failsOnly_entries hshape).bind fun entries hentries => ?_
  obtain rfl := eq_mapping_of_entries hentries
  refine (failsOnly_intField hkind hfinite).bind fun totalNodes _ => ?_
  refine (failsOnly_intField hkind hfinite).bind fun activeNodes _ => ?_
  refine (failsOnly_intField hkind hfinite).bind fun totalEdges _ => ?_
  refine (failsOnly_intField hkind hfinite).bind fun activeEdges _ => ?_
  refine (failsOnly_floatField hrange).bind fun density _ => ?_
  exact failsOnly_ok _

theorem Health.failsOnly_ofValue (hrange : kind .outOfRange ∨ v.All Atom.InRange) :
    FailsOnly kind (Health.ofValue v) := by
  rw [Health.ofValue]
  refine (failsOnly_indexed hkind).bind fun entries hentries => ?_
  obtain rfl := eq_mapping_of_indexed hentries
  have hlevel : FailsOnly kind (required entries "level" >>= HealthLevel.ofValue) :=
    (failsOnly_required hkind).bind fun _ _ => HealthLevel.failsOnly_ofValue hkind
  refine hlevel.bind fun level _ => ?_
  refine (failsOnly_floatField hrange).bind fun score _ => ?_
  exact failsOnly_ok _

theorem Bounds.failsOnly_ofValue (hrange : kind .outOfRange ∨ v.All Atom.InRange)
    (hfinite : kind .infinite ∨ v.All Atom.Finite)
    (hshape : kind .notARecord ∨ v.IsRecord Bounds.Shaped) : FailsOnly kind (Bounds.ofValue v) := by
  rw [Bounds.ofValue]
  refine (failsOnly_entries hshape).bind fun entries hentries => ?_
  obtain rfl := eq_mapping_of_entries hentries
  have hcorner (name : String) (hname : name ∈ ["north_east", "south_west", "center"]) :
      FailsOnly kind (Coordinates.ofField entries name) :=
    Coordinates.failsOnly_ofField hrange (hshape.imp_right fun h => h.of_mapping name hname)
  refine (hcorner "north_east" (by simp)).bind fun northEast _ => ?_
  refine (hcorner "south_west" (by simp)).bind fun southWest _ => ?_
  refine (hcorner "center" (by simp)).bind fun center _ => ?_
  refine (failsOnly_intField hkind hfinite).bind fun zoom _ => ?_
  exact failsOnly_ok _

namespace Topology

theorem failsOnly_nodesOf
    (hrange : kind .outOfRange ∨ (Value.mapping entries).All Atom.InRange)
    (hshape : kind .notARecord ∨ Shaped entries) : FailsOnly kind (nodesOf entries) := by
  rw [nodesOf]
  refine (failsOnly_items hkind).bind fun items hitems => ?_
  refine FailsOnly.mapM fun item hitem => Node.failsOnly_ofValue hkind ?_ ?_
  · exact hrange.imp_right fun h =>
      (h.of_getD (.list (by simp))).of_mem_items (fun _ => trivial) hitems hitem
  · exact hshape.imp_right fun h => h.nodes items hitems item hitem

theorem failsOnly_edgesOf
    (hrange : kind .outOfRange ∨ (Value.mapping entries).All Atom.InRange)
    (hfinite : kind .infinite ∨ (Value.mapping entries).All Atom.Finite) :
    FailsOnly kind (edgesOf entries) := by
  rw [edgesOf]
  refine (failsOnly_items hkind).bind fun items hitems => ?_
  refine FailsOnly.mapM fun item hitem => Edge.failsOnly_ofValue hkind ?_ ?_
  · exact hrange.imp_right fun h =>
      (h.of_getD (.list (by simp))).of_mem_items (fun _ => trivial) hitems hitem
  · exact hfinite.imp_right fun h =>
      (h.of_getD (.list (by simp))).of_mem_items (fun _ => trivial) hitems hitem

theorem failsOnly_ofValue (hrange : kind .outOfRange ∨ v.All Atom.InRange)
    (hfinite : kind .infinite ∨ v.All Atom.Finite)
    (hshape : kind .notARecord ∨ v.IsRecord Shaped) : FailsOnly kind (ofValue v) := by
  rw [ofValue]
  refine (failsOnly_entries hshape).bind fun entries hentries => ?_
  obtain rfl := eq_mapping_of_entries hentries
  have hshaped := hshape.imp_right (·.of_mapping)
  have hempty (p : Atom → Prop) : (Value.record []).All p := .mapping (by simp) (by simp)
  have hstatistics := Statistics.failsOnly_ofValue hkind
    (hrange.imp_right (·.of_getD (hempty _))) (hfinite.imp_right (·.of_getD (hempty _)))
    (hshaped.imp_right (·.statistics))
  have hhealth : FailsOnly kind (required entries "health" >>= Health.ofValue) := by
    refine (failsOnly_required hkind).bind fun health hrequired => ?_
    refine Health.failsOnly_ofValue hkind (hrange.imp_right fun h => ?_)
    rw [required] at hrequired
    split at hrequired
    · rename_i found hfound
      cases hrequired
      exact h.of_fieldOf? hfound
    · cases hrequired
  have hbounds := Bounds.failsOnly_ofValue hkind
    (hrange.imp_right (·.of_getD (hempty _))) (hfinite.imp_right (·.of_getD (hempty _)))
    (hshaped.imp_right (·.bounds))
  refine (failsOnly_nodesOf hkind hrange hshaped).bind fun nodes _ => ?_
  refine (failsOnly_edgesOf hkind hrange hfinite).bind fun edges _ => ?_
  refine hstatistics.bind fun statistics _ => ?_
  refine hhealth.bind fun health _ => ?_
  refine hbounds.bind fun bounds _ => ?_
  exact failsOnly_ok _

end Topology

end Faults

/-- What a loader can come to: a result, a report of the path that could not be loaded, or a fault
    of the document that escapes the loader. -/
inductive Loaded {α : Type} (path : String) (escapes : Fault → Prop) : Except Failure α → Prop
  | done (a : α) : Loaded path escapes (.ok a)
  | reported (reason : LoadReason) : Loaded path escapes (.error (.load ⟨path, reason⟩))
  | escaped {f : Fault} (h : escapes f) : Loaded path escapes (.error (.fault f))

namespace Topology

/-- The faults that are not reported when a document is read as a topology, each with its cause. -/
inductive Caused (v : Value) : Fault → Prop
  | shape (h : ¬ v.IsRecord Shaped) : Caused v .notARecord
  | range (h : ¬ v.All Atom.InRange) : Caused v .outOfRange
  | infinite (h : ¬ v.All Atom.Finite) : Caused v .infinite

/-- The fault has its cause in the document that is in the file. -/
def Escapes (file : Except AccessError (List UInt8)) (f : Fault) : Prop :=
  ∃ bytes v, file = .ok bytes ∧ Json.parseFile bytes = .ok v ∧ Caused v f

theorem isReported_or_caused {v : Value} {f : Fault} (h : ofValue v = .error f) :
    f.isReported = true ∨ Caused v f := by
  have hrange : Caused v .outOfRange ∨ v.All Atom.InRange :=
    (Classical.em _).symm.imp_left .range
  have hfinite : Caused v .infinite ∨ v.All Atom.Finite :=
    (Classical.em _).symm.imp_left .infinite
  have hshape : Caused v .notARecord ∨ v.IsRecord Shaped :=
    (Classical.em _).symm.imp_left .shape
  have hfails : FailsOnly (fun f => f.isReported = true ∨ Caused v f) (ofValue v) :=
    failsOnly_ofValue (fun _ => Or.inl) (hrange.imp_left Or.inr) (hfinite.imp_left Or.inr)
      (hshape.imp_left Or.inr)
  exact hfails f h

theorem loaded_load (path : String) (file : Except AccessError (List UInt8)) :
    Loaded path (Escapes file) (load path file).1 := by
  cases file with
  | error e => exact .reported (.access e)
  | ok bytes =>
    cases hparse : Json.parseFile bytes with
    | error e =>
      simp only [load, ofBytes, hparse]
      exact .reported _
    | ok v =>
      cases hread : ofValue v with
      | ok t =>
        simp only [load, ofBytes, hparse, hread]
        exact .done t
      | error f =>
        rcases isReported_or_caused hread with hreported | hcaused
        · simp only [load, ofBytes, hparse, hread, hreported, ↓reduceIte]
          exact .reported _
        · have hescapes : f.isReported = false := by cases hcaused <;> rfl
          simp only [load, ofBytes, hparse, hread, hescapes, Bool.false_eq_true, ↓reduceIte]
          exact .escaped ⟨bytes, v, rfl, hparse, hcaused⟩

end Topology

namespace Inventory

/-- The fault is an integer out of range in a record in the file, and the record overflows. -/
def Escapes (file : Except AccessError (List UInt8)) (f : Fault) : Prop :=
  f = .outOfRange ∧ ∃ records, readRecords file = .ok records ∧
    ∃ r ∈ records, overflows r = true ∧ ¬ r.All Atom.InRange

theorem loaded_load (path : String) (file : Except AccessError (List UInt8)) :
    Loaded path (Escapes file) (load path file).1 := by
  rw [load]
  cases hrecords : readRecords file with
  | error reason => exact .reported reason
  | ok records =>
    cases hany : records.any overflows with
    | false =>
      simp only [accept_eq records, hany]
      exact .done _
    | true =>
      simp only [accept_eq records, hany]
      obtain ⟨r, hr, hover⟩ := List.any_eq_true.mp hany
      exact .escaped ⟨rfl, records, hrecords, r, hr, hover, not_inRange_of_overflows hover⟩

end Inventory

end NetAtlas
