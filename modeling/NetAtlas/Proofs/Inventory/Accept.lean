import NetAtlas.Inventory
import NetAtlas.Proofs.Value.Faults

/-!
Turning records into devices. As long as no integer is out of range, a record that does not convert
is reported once and left out, and nothing else happens to the others. An integer out of range in a
field that is read as a float ends the reading, and the devices of all records are lost.
-/

namespace NetAtlas

section Faults

variable {kind : Fault → Prop} {entries : List (Atom × Value)}

theorem fieldOf?_of_firstField? {names : List String} {v : Value}
    (h : firstField? entries names = some v) : ∃ name, fieldOf? entries name = some v := by
  obtain ⟨name, _, hfound⟩ := List.exists_of_findSome?_eq_some h
  refine ⟨name, ?_⟩
  split at hfound
  · cases hfound
  · exact hfound

theorem failsOnly_firstFloat {names : List String}
    (hrange : kind .outOfRange ∨ (Value.mapping entries).All Atom.InRange) :
    FailsOnly kind (firstFloat entries names) := by
  rw [firstFloat]
  split
  · rename_i v hv
    obtain ⟨name, hfield⟩ := fieldOf?_of_firstField? hv
    exact (failsOnly_toFloat (hrange.imp_right (·.of_fieldOf? hfield))).map _
  · exact failsOnly_ok 0.0

variable (hkind : ∀ f, f.isReported = true → kind f)
include hkind

theorem failsOnly_readLabel {α : Type} {stem : String} {ofCode : Int → α}
    {ofName? : String → Option α} {unknown : α} (v : Value) :
    FailsOnly kind (readLabel stem ofCode ofName? unknown v) := by
  rw [readLabel.eq_def]
  split
  · exact failsOnly_ok _
  · dsimp only
    split
    · exact (failsOnly_toInt hkind (.inr (.atom (a := .text _) trivial))).map _
    · exact failsOnly_ok _
  · exact failsOnly_ok _

theorem Equipment.failsOnly_ofEntries
    (hrange : kind .outOfRange ∨ (Value.mapping entries).All Atom.InRange) :
    FailsOnly kind (Equipment.ofEntries entries) := by
  rw [Equipment.ofEntries]
  refine (failsOnly_readLabel hkind _).bind fun role _ => ?_
  refine (failsOnly_readLabel hkind _).bind fun status _ => ?_
  refine (failsOnly_firstFloat hrange).bind fun latitude _ => ?_
  refine (failsOnly_firstFloat hrange).bind fun longitude _ => ?_
  exact failsOnly_ok _

theorem Link.failsOnly_ofValue {v : Value} (hrange : kind .outOfRange ∨ v.All Atom.InRange) :
    FailsOnly kind (Link.ofValue v) := by
  rw [Link.ofValue]
  refine (failsOnly_indexed hkind).bind fun entries hentries => ?_
  obtain rfl := eq_mapping_of_indexed hentries
  refine (failsOnly_requiredText hkind).bind fun id _ => ?_
  refine (failsOnly_requiredText hkind).bind fun source _ => ?_
  refine (failsOnly_requiredText hkind).bind fun target _ => ?_
  refine (failsOnly_floatField hrange).bind fun utilization _ => ?_
  refine (failsOnly_floatField hrange).bind fun latency _ => ?_
  refine (failsOnly_floatField hrange).bind fun distance _ => ?_
  refine (failsOnly_floatField hrange).bind fun errorRate _ => ?_
  refine (failsOnly_floatField hrange).bind fun availability _ => ?_
  exact failsOnly_ok _

namespace Device

theorem failsOnly_equipmentOf
    (hrange : kind .outOfRange ∨ (Value.mapping entries).All Atom.InRange) :
    FailsOnly kind (equipmentOf entries) := by
  rw [equipmentOf]
  split
  · rename_i part hpart
    have hpart' : kind .outOfRange ∨ (Value.mapping part).All Atom.InRange := by
      refine hrange.imp_right fun hentries => ?_
      rcases Option.or_eq_some_iff.mp hpart with hfield | ⟨_, hfield⟩
      · exact hentries.of_fieldOf? hfield
      · exact hentries.of_fieldOf? hfield
    exact (Equipment.failsOnly_ofEntries hkind hpart').map _
  · exact failsOnly_ok none

theorem failsOnly_linksOf
    (hrange : kind .outOfRange ∨ (Value.mapping entries).All Atom.InRange) :
    FailsOnly kind (linksOf entries) := by
  rw [linksOf]
  split
  · rename_i v hv
    split
    · refine (failsOnly_items hkind).bind fun items hitems => ?_
      refine FailsOnly.mapM fun item hitem => Link.failsOnly_ofValue hkind ?_
      exact hrange.imp_right fun hentries =>
        (hentries.of_fieldOf? hv).of_mem_items (fun _ => trivial) hitems hitem
    · exact failsOnly_ok []
  · exact failsOnly_ok []

theorem failsOnly_ofEntries
    (hrange : kind .outOfRange ∨ (Value.mapping entries).All Atom.InRange) :
    FailsOnly kind (ofEntries entries) := by
  rw [ofEntries]
  refine (failsOnly_equipmentOf hkind hrange).bind fun equipment _ => ?_
  refine (failsOnly_linksOf hkind hrange).bind fun links _ => ?_
  refine (failsOnly_requiredText hkind).bind fun id _ => ?_
  exact failsOnly_ok _

end Device

end Faults

/-- A record of a device has an id. -/
theorem Device.exists_id_of_ofEntries {entries : List (Atom × Value)} {d : Device}
    (h : Device.ofEntries entries = .ok d) : ∃ id, fieldOf? entries "id" = some id := by
  rw [ofEntries] at h
  obtain ⟨_, _, h⟩ := bind_eq_ok_iff.mp h
  obtain ⟨_, _, h⟩ := bind_eq_ok_iff.mp h
  obtain ⟨_, hid, _⟩ := bind_eq_ok_iff.mp h
  rw [requiredText, required] at hid
  split at hid
  · rename_i id hfield
    exact ⟨id, hfield⟩
  · cases hid

namespace Inventory

/-- What a record has under the name of an id. -/
def idOf? : Value → Option Value
  | .mapping entries => fieldOf? entries "id"
  | _ => none

/-- The device that a record converts to, whatever is around it. -/
def device? (record : Value) : Option Device := (Device.ofValue record).toOption

/-- What is to be reported of a record that does not convert. -/
def refusal? (record : Value) : Option Notice :=
  match Device.ofValue record with
  | .ok _ => none
  | .error cause =>
    match idOf? record with
    | some id => some (.recordSkipped id cause)
    | none => some (.malformedRecord record)

/-- The record has an id, and does not convert because an integer is out of range. -/
def overflows (record : Value) : Bool :=
  match idOf? record, Device.ofValue record with
  | some _, .error .outOfRange => true
  | _, _ => false

/-- What can come of a record. -/
inductive Verdict (record : Value) : Read (Device ⊕ Notice) → Prop
  | overflow (hover : overflows record = true) : Verdict record (.error .outOfRange)
  | device {d : Device} (hfits : overflows record = false) (hdevice : device? record = some d)
      (hsilent : refusal? record = none) : Verdict record (.ok (.inl d))
  | refused {notice : Notice} (hfits : overflows record = false) (hnone : device? record = none)
      (hnotice : refusal? record = some notice) (hlevel : notice.level = .warning) :
      Verdict record (.ok (.inr notice))

namespace Verdict

variable {record : Value} {f : Fault}

theorem of_device {d : Device} (hread : Device.ofValue record = .ok d) :
    Verdict record (.ok (.inl d)) := by
  refine .device ?_ ?_ ?_ <;> simp [overflows, device?, refusal?, hread, Except.toOption]

theorem of_nameless (hid : idOf? record = none) (hread : Device.ofValue record = .error f) :
    Verdict record (.ok (.inr (.malformedRecord record))) := by
  refine .refused ?_ ?_ ?_ rfl <;>
    simp [overflows, device?, refusal?, hid, hread, Except.toOption]

theorem of_fault {id : Value} (hid : idOf? record = some id)
    (hread : Device.ofValue record = .error f) (hfits : f ≠ .outOfRange) :
    Verdict record (.ok (.inr (.recordSkipped id f))) := by
  refine .refused ?_ ?_ ?_ rfl <;>
    simp [overflows, device?, refusal?, hid, hread, hfits, Except.toOption]

end Verdict

theorem verdict_acceptOne (record : Value) : Verdict record (acceptOne record) := by
  cases record with
  | atom a => exact .of_nameless rfl rfl
  | list items => exact .of_nameless rfl rfl
  | mapping entries =>
    rw [acceptOne]
    cases hid : fieldOf? entries "id" with
    | none =>
      cases hread : Device.ofEntries entries with
      | ok d =>
        obtain ⟨id, hsome⟩ := Device.exists_id_of_ofEntries hread
        rw [hid] at hsome
        cases hsome
      | error f => exact .of_nameless hid hread
    | some id =>
      cases hread : Device.ofEntries entries with
      | ok d => exact .of_device hread
      | error f =>
        have hfails : FailsOnly (fun f => f.isReported = true ∨ f = .outOfRange)
            (Device.ofEntries entries) :=
          Device.failsOnly_ofEntries (fun _ => Or.inl) (Or.inl (Or.inr rfl))
        have hcause := hfails f hread
        cases f with
        | outOfRange =>
          refine .overflow ?_
          have hvalue : Device.ofValue (.mapping entries) = .error .outOfRange := hread
          have hidOf : idOf? (.mapping entries) = some id := hid
          rw [overflows, hvalue, hidOf]
        | infinite =>
          -- No field of a device is read as an integer, but those that hold one or a text.
          exact absurd hcause (by simp [Fault.isReported])
        | _ => exact .of_fault hid hread (by simp)

/-- Records are taken one by one until one overflows, and then all is lost but the reports. -/
theorem accept_eq (records : List Value) :
    accept records =
      (if records.any overflows then .error .outOfRange else .ok (records.filterMap device?),
        (records.takeWhile fun r => !overflows r).filterMap refusal?) := by
  induction records with
  | nil => rfl
  | cons record rest ih =>
    have hverdict := verdict_acceptOne record
    rw [accept]
    generalize acceptOne record = verdict at hverdict
    cases hverdict with
    | overflow hover => simp [hover]
    | device hfits hdevice hsilent =>
      simp only [ih, List.any_cons, List.filterMap_cons, List.takeWhile_cons, hfits, hdevice,
        hsilent, Bool.false_or, Bool.not_false, ↓reduceIte]
      cases rest.any overflows <;> rfl
    | refused hfits hnone hnotice =>
      simp only [ih, List.any_cons, List.filterMap_cons, List.takeWhile_cons, hfits, hnone,
        hnotice, Bool.false_or, Bool.not_false, ↓reduceIte]

theorem accept_append (xs ys : List Value) :
    (accept (xs ++ ys)).1 = do return (← (accept xs).1) ++ (← (accept ys).1) := by
  simp only [accept_eq, List.any_append, List.filterMap_append]
  cases xs.any overflows with
  | true => rfl
  | false => cases ys.any overflows <;> rfl

/-- A record that fits is either a device or reported once, as a warning. -/
theorem device_or_refusal {record : Value} (hfits : overflows record = false) :
    (∃ d, device? record = some d ∧ refusal? record = none) ∨
      ∃ notice, device? record = none ∧ refusal? record = some notice ∧
        notice.level = .warning := by
  have hverdict := verdict_acceptOne record
  generalize acceptOne record = verdict at hverdict
  cases hverdict with
  | overflow hover => simp [hfits] at hover
  | device _ hdevice hsilent => exact .inl ⟨_, hdevice, hsilent⟩
  | refused _ hnone hnotice hlevel => exact .inr ⟨_, hnone, hnotice, hlevel⟩

/-- Only an integer out of range makes a record overflow. -/
theorem not_inRange_of_overflows {record : Value} (hover : overflows record = true) :
    ¬ record.All Atom.InRange := by
  intro hrange
  cases record with
  | mapping entries =>
    have hfails : FailsOnly (fun f => f ≠ .outOfRange) (Device.ofEntries entries) :=
      Device.failsOnly_ofEntries (by rintro _ hreported rfl; cases hreported) (Or.inr hrange)
    have hvalue : Device.ofValue (.mapping entries) = Device.ofEntries entries := rfl
    rw [overflows, hvalue] at hover
    split at hover
    · rename_i hread
      exact hfails _ hread rfl
    · cases hover
  | _ => cases hover

/-- Whatever the records are, those that do not overflow are kept apart: each is a device or one
    warning, whatever is in front of it and behind it. But one record that overflows is enough to
    lose the devices of all, and that takes an integer out of range. -/
theorem accept_apart (records : List Value) :
    accept records =
        (if records.any overflows then .error .outOfRange else .ok (records.filterMap device?),
          (records.takeWhile fun r => !overflows r).filterMap refusal?) ∧
      (∀ r ∈ records,
        if overflows r then ¬ r.All Atom.InRange
        else (∃ d, device? r = some d ∧ refusal? r = none) ∨
          ∃ notice, device? r = none ∧ refusal? r = some notice ∧ notice.level = .warning) ∧
      (∀ xs ys, records = xs ++ ys →
        (accept records).1 = do return (← (accept xs).1) ++ (← (accept ys).1)) ∧
      ∀ xs r ys, records = xs ++ r :: ys → overflows r = false →
        (accept records).1 = do
          return (← (accept xs).1) ++ (device? r).toList ++ (← (accept ys).1) := by
  refine ⟨accept_eq records, ?_, ?_, ?_⟩
  · intro r _
    split
    · rename_i hover
      exact not_inRange_of_overflows hover
    · rename_i hfits
      exact device_or_refusal (Bool.eq_false_iff.mpr hfits)
  · rintro xs ys rfl
    exact accept_append xs ys
  · rintro xs r ys rfl hfits
    have hone : (accept [r]).1 = .ok (device? r).toList := by
      cases hdevice : device? r <;> simp [accept_eq, hfits, hdevice]
    rw [← List.singleton_append, ← List.append_assoc, accept_append, accept_append, hone]
    cases (accept xs).1 <;> rfl

/-- A record of a device at a latitude. -/
def recordAt (id : String) (latitude : Int) : Value :=
  .record [("id", .text id), ("equipment", .record [("latitude", .int latitude)])]

theorem ofValue_recordAt {id : String} {latitude : Int}
    (hfar : (Number.int latitude).toFloat? = none) :
    Device.ofValue (recordAt id latitude) = .error .outOfRange := by
  have hfloat : (Value.int latitude).toFloat = .error .outOfRange := by
    simp [Value.toFloat, Value.number?, hfar]
  have hfield : firstField? [(.text "latitude", .int latitude)] ["latitude", "lat"] =
      some (.int latitude) := rfl
  have hfirst : firstFloat [(.text "latitude", .int latitude)] ["latitude", "lat"] =
      .error .outOfRange := by
    rw [firstFloat, hfield]
    exact congrArg (Except.map _) hfloat
  have hequipment : Equipment.ofEntries [(.text "latitude", .int latitude)] =
      .error .outOfRange := by
    rw [Equipment.ofEntries, hfirst]
    rfl
  have hsection : Device.equipmentOf [(.text "id", .text id),
      (.text "equipment", .mapping [(.text "latitude", .int latitude)])] = .error .outOfRange :=
    congrArg (Except.map some) hequipment
  change Device.ofEntries [(.text "id", .text id),
      (.text "equipment", .mapping [(.text "latitude", .int latitude)])] = .error .outOfRange
  rw [Device.ofEntries, hsection]
  rfl

/-- No float is near ten to the power of 400. -/
theorem toFloat?_ten_pow : (Number.int (Int.pow 10 400)).toFloat? = none :=
  Option.isNone_iff_eq_none.mp (by decide +kernel)

/-- A device is lost to a record of another one. -/
theorem accept_loses_device :
    Device.ofValue (.record [("id", .text "a")]) = .ok ⟨"a", none, []⟩ ∧
      accept [.record [("id", .text "a")], recordAt "b" (Int.pow 10 400)] =
        (.error .outOfRange, []) := by
  have hconverts : Device.ofValue (.record [("id", .text "a")]) = .ok ⟨"a", none, []⟩ := rfl
  have hfits : overflows (.record [("id", .text "a")]) = false := by
    rw [overflows, hconverts]
    rfl
  have hsilent : refusal? (.record [("id", .text "a")]) = none := by rw [refusal?, hconverts]
  have hover : overflows (recordAt "b" (Int.pow 10 400)) = true := by
    rw [overflows, ofValue_recordAt toFloat?_ten_pow]
    rfl
  refine ⟨hconverts, ?_⟩
  generalize recordAt "b" (Int.pow 10 400) = far at hover ⊢
  simp [accept_eq, hfits, hsilent, hover]

end Inventory

end NetAtlas
