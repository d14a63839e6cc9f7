import NetAtlas.Proofs.Device.Label
import NetAtlas.Proofs.Inventory.Accept

/-!
Role and state in the records of an inventory. A device is that of its record without them, with
the labels that the record gives. But a text of digits that form no numeral is taken for a code, and
the device is lost.
-/

namespace NetAtlas

section Fields

variable (names : List String) (es : List (Atom × Value))

/-- The entries without the fields of these names. -/
def dropFields : List (Atom × Value) := es.filter fun e => !(names.map Atom.text).contains e.1

/-- The value without the fields of these names. -/
def Value.without : Value → Value
  | .mapping es => .mapping (dropFields names es)
  | v => v

variable {names} {name : String}

theorem fieldOf?_dropFields_of_mem (h : name ∈ names) : fieldOf? (dropFields names es) name = none := by
  rw [fieldOf?, dropFields, List.find?_filter, Option.map_eq_none_iff, List.find?_eq_none]
  rintro ⟨k, v⟩ _
  simp only [Bool.not_eq_true', decide_eq_true_eq, not_and]
  rintro hk rfl
  simp [h] at hk

theorem fieldOf?_dropFields_of_not_mem (h : name ∉ names) :
    fieldOf? (dropFields names es) name = fieldOf? es name := by
  rw [fieldOf?, fieldOf?, dropFields, List.find?_filter]
  congr 2
  funext ⟨k, v⟩
  by_cases hk : k = .text name
  · simp [hk, h]
  · simp [hk]

theorem firstField?_dropFields_of_subset {wanted : List String} (h : ∀ n ∈ wanted, n ∈ names) :
    firstField? (dropFields names es) wanted = none := by
  rw [firstField?, List.findSome?_eq_none_iff]
  intro n hn
  rw [fieldOf?_dropFields_of_mem es (h n hn)]

theorem firstField?_dropFields_of_disjoint {wanted : List String} (h : ∀ n ∈ wanted, n ∉ names) :
    firstField? (dropFields names es) wanted = firstField? es wanted := by
  induction wanted with
  | nil => rfl
  | cons n wanted ih =>
    obtain ⟨hn, hrest⟩ := List.forall_mem_cons.mp h
    have ih' := ih hrest
    rw [firstField?, firstField?] at ih' ⊢
    rw [List.findSome?_cons, List.findSome?_cons, fieldOf?_dropFields_of_not_mem es hn, ih']

end Fields

/-- The fields that hold a role or a state, in all their spellings. -/
def labelFields : List String := ["device_type", "deviceType", "device_status", "deviceStatus"]

namespace Equipment

/-- The same equipment under other labels. -/
def relabel (role : Role) (status : Status) (e : Equipment) : Equipment := { e with role, status }

theorem ofEntries_eq (es : List (Atom × Value)) :
    ofEntries es = do
      let role ← Role.read ((firstField? es ["device_type", "deviceType"]).getD .null)
      let status ← Status.read ((firstField? es ["device_status", "deviceStatus"]).getD .null)
      return (← ofEntries (dropFields labelFields es)).relabel role status := by
  have hother : ∀ wanted : List String, (∀ n ∈ wanted, n ∉ labelFields) →
      firstField? (dropFields labelFields es) wanted = firstField? es wanted :=
    fun _ h => firstField?_dropFields_of_disjoint es h
  have hrole : firstField? (dropFields labelFields es) ["device_type", "deviceType"] = none :=
    firstField?_dropFields_of_subset es (by decide)
  have hstatus : firstField? (dropFields labelFields es) ["device_status", "deviceStatus"] = none :=
    firstField?_dropFields_of_subset es (by decide)
  have hfloat : ∀ wanted : List String, (∀ n ∈ wanted, n ∉ labelFields) →
      firstFloat (dropFields labelFields es) wanted = firstFloat es wanted := fun _ h => by
    rw [firstFloat, firstFloat, hother _ h]
  have hlocation : locationOf (dropFields labelFields es) = locationOf es := by
    rw [locationOf, locationOf, hother _ (by decide)]
  rw [ofEntries, ofEntries, hrole, hstatus, hfloat _ (by decide), hfloat _ (by decide), hlocation,
    hother _ (by decide), hother _ (by decide), hother _ (by decide), hother _ (by decide)]
  cases Role.read ((firstField? es ["device_type", "deviceType"]).getD .null) with
  | error f => rfl
  | ok role =>
    cases Status.read ((firstField? es ["device_status", "deviceStatus"]).getD .null) with
    | error f => rfl
    | ok status =>
      cases firstFloat es ["latitude", "lat"] with
      | error f => rfl
      | ok latitude => cases firstFloat es ["longitude", "lng", "lon"] <;> rfl

end Equipment

namespace Device

variable (es : List (Atom × Value))

/-- The entries of the equipment section; a device without one has none. -/
def sectionOf : List (Atom × Value) :=
  match (fieldOf? es "equipment").or (fieldOf? es "equipmentinfo") with
  | some (.mapping part) => part
  | _ => []

/-- What the record has in the place of the role. -/
def roleField : Value := (firstField? (sectionOf es) ["device_type", "deviceType"]).getD .null

/-- What the record has in the place of the state. -/
def statusField : Value := (firstField? (sectionOf es) ["device_status", "deviceStatus"]).getD .null

/-- The record without role and state, in whichever section they are. -/
def unlabelled : List (Atom × Value) :=
  es.map fun (k, v) =>
    (k, if k = .text "equipment" ∨ k = .text "equipmentinfo" then v.without labelFields else v)

/-- The same device under other labels. -/
def relabel (role : Role) (status : Status) (d : Device) : Device :=
  { d with equipment := d.equipment.map (·.relabel role status) }

theorem fieldOf?_unlabelled (name : String) :
    fieldOf? (unlabelled es) name =
      (fieldOf? es name).map fun v =>
        if name = "equipment" ∨ name = "equipmentinfo" then v.without labelFields else v := by
  rw [fieldOf?, unlabelled, List.find?_map, fieldOf?, Option.map_map, Option.map_map]
  refine Option.map_congr fun e he => ?_
  have hkey : e.1 = .text name := by simpa using List.find?_some he
  simp [hkey]

theorem equipmentOf_eq :
    equipmentOf es = do
      let role ← Role.read (roleField es)
      let status ← Status.read (statusField es)
      return (← equipmentOf (unlabelled es)).map (·.relabel role status) := by
  have hequipment := fieldOf?_unlabelled es "equipment"
  have hinfo := fieldOf?_unlabelled es "equipmentinfo"
  simp only [true_or, or_true, ↓reduceIte] at hequipment hinfo
  rw [equipmentOf, equipmentOf, roleField, statusField, sectionOf, hequipment, hinfo, ← Option.map_or]
  cases hpart : (fieldOf? es "equipment").or (fieldOf? es "equipmentinfo") with
  | none => rfl
  | some v =>
    cases v with
    | mapping part =>
      simp only [Option.map_some, Value.without]
      rw [Equipment.ofEntries_eq part]
      cases Role.read ((firstField? part ["device_type", "deviceType"]).getD .null) with
      | error f => rfl
      | ok role =>
        cases Status.read ((firstField? part ["device_status", "deviceStatus"]).getD .null) with
        | error f => rfl
        | ok status => cases Equipment.ofEntries (dropFields labelFields part) <;> rfl
    | _ => rfl

theorem ofEntries_eq :
    ofEntries es = do
      let role ← Role.read (roleField es)
      let status ← Status.read (statusField es)
      return (← ofEntries (unlabelled es)).relabel role status := by
  have hlinks : linksOf (unlabelled es) = linksOf es := by
    rw [linksOf, linksOf, fieldOf?_unlabelled]
    simp
  have hid : requiredText (unlabelled es) "id" = requiredText es "id" := by
    rw [requiredText, requiredText, required, required, fieldOf?_unlabelled]
    simp
  rw [ofEntries, ofEntries, hlinks, hid, equipmentOf_eq]
  cases Role.read (roleField es) with
  | error f => rfl
  | ok role =>
    cases Status.read (statusField es) with
    | error f => rfl
    | ok status =>
      cases equipmentOf (unlabelled es) with
      | error f => rfl
      | ok equipment =>
        cases linksOf es with
        | error f => rfl
        | ok links => cases requiredText es "id" <;> rfl

section Read

variable {es} {role : Role} {status : Status}

theorem ofEntries_of_read (hrole : Role.read (roleField es) = .ok role)
    (hstatus : Status.read (statusField es) = .ok status) :
    ofEntries es = relabel role status <$> ofEntries (unlabelled es) := by
  rw [ofEntries_eq, hrole, hstatus]
  cases ofEntries (unlabelled es) <;> rfl

theorem ofEntries_of_mock
    (h : Role.isMock (roleField es) = true ∨ Status.isMock (statusField es) = true) :
    ∃ token, ofEntries es = .error (.notAnInteger token) := by
  rw [ofEntries_eq]
  cases hrole : Role.isMock (roleField es) with
  | true =>
    obtain ⟨token, hread⟩ := Role.read_of_isMock hrole
    exact ⟨token, by rw [hread]; rfl⟩
  | false =>
    have hstatus : Status.isMock (statusField es) = true := h.resolve_left (by simp [hrole])
    obtain ⟨role, hread, _⟩ := Role.exists_read hrole
    obtain ⟨token, hread'⟩ := Status.read_of_isMock hstatus
    exact ⟨token, by rw [hread, hread']; rfl⟩

end Read

end Device

namespace Inventory

theorem accept_append_cons (front back : List Value) (record : Value) :
    (accept (front ++ record :: back)).1 = do
      return (← (accept front).1) ++ (← (accept [record]).1) ++ (← (accept back).1) := by
  rw [← List.singleton_append, ← List.append_assoc, accept_append, accept_append]
  simp only [bind_assoc, pure_bind]

section Record

variable {es : List (Atom × Value)} {role : Role} {status : Status}

theorem accept_of_read (hrole : Role.read (Device.roleField es) = .ok role)
    (hstatus : Status.read (Device.statusField es) = .ok status) :
    (accept [.mapping es]).1 =
      List.map (·.relabel role status) <$> (accept [.mapping (Device.unlabelled es)]).1 := by
  have hid : fieldOf? (Device.unlabelled es) "id" = fieldOf? es "id" := by
    rw [Device.fieldOf?_unlabelled]
    simp
  simp only [accept, acceptOne, hid, Device.ofEntries_of_read hrole hstatus]
  cases fieldOf? es "id" with
  | none => rfl
  | some id =>
    cases Device.ofEntries (Device.unlabelled es) with
    | ok d => rfl
    | error f => cases f <;> rfl

theorem accept_of_mock
    (h : Role.isMock (Device.roleField es) = true ∨ Status.isMock (Device.statusField es) = true)
    {id : Value} (hid : fieldOf? es "id" = some id) :
    ∃ token, accept [.mapping es] = (.ok [], [.recordSkipped id (.notAnInteger token)]) := by
  obtain ⟨token, hread⟩ := Device.ofEntries_of_mock h
  exact ⟨token, by simp only [accept, acceptOne, hid, hread]⟩

theorem accept_of_nameless (hid : fieldOf? es "id" = none) :
    accept [.mapping es] = (.ok [], [.malformedRecord (.mapping es)]) := by
  simp only [accept, acceptOne, hid]

end Record

/-- Role and state of a record are read as they are denoted, unless one of them is a mock numeral.
    If both are read, the devices of all the records are those with this record in its unlabelled
    form, but for the labels of this device. A record with a mock numeral gives no device and is
    reported, whatever its other fields hold. -/
theorem accept_labelled (front back : List Value) (es : List (Atom × Value)) :
    (Role.isMock (Device.roleField es) = false ∧ Status.isMock (Device.statusField es) = false ∧
      ∃ role status, Role.Denoted (Device.roleField es) role ∧
        Status.Denoted (Device.statusField es) status ∧
        (accept (front ++ .mapping es :: back)).1 = do
          let before ← (accept front).1
          let plain ← (accept [.mapping (Device.unlabelled es)]).1
          let after ← (accept back).1
          return before ++ plain.map (·.relabel role status) ++ after) ∨
    ((Role.isMock (Device.roleField es) = true ∨ Status.isMock (Device.statusField es) = true) ∧
      (∃ notice, accept [.mapping es] = (.ok [], [notice]) ∧ notice.level = .warning) ∧
      (accept (front ++ .mapping es :: back)).1 = do
        return (← (accept front).1) ++ (← (accept back).1)) := by
  by_cases hmock :
      Role.isMock (Device.roleField es) = true ∨ Status.isMock (Device.statusField es) = true
  · have hlost : ∃ notice, accept [.mapping es] = (.ok [], [notice]) ∧ notice.level = .warning := by
      cases hid : fieldOf? es "id" with
      | none => exact ⟨_, accept_of_nameless hid, rfl⟩
      | some id =>
        obtain ⟨token, htoken⟩ := accept_of_mock hmock hid
        exact ⟨_, htoken, rfl⟩
    refine .inr ⟨hmock, hlost, ?_⟩
    obtain ⟨notice, hone, _⟩ := hlost
    rw [accept_append_cons, hone]
    simp [bind, Except.bind]
  · rw [not_or, Bool.not_eq_true, Bool.not_eq_true] at hmock
    obtain ⟨role, hrole, hdenoted⟩ := Role.exists_read hmock.1
    obtain ⟨status, hstatus, hdenoted'⟩ := Status.exists_read hmock.2
    refine .inl ⟨hmock.1, hmock.2, role, status, hdenoted, hdenoted', ?_⟩
    rw [accept_append_cons, accept_of_read hrole hstatus]
    cases (accept [.mapping (Device.unlabelled es)]).1 <;> rfl

/-- A record with a superscript two for its role. -/
def raised : List (Atom × Value) :=
  [(.text "id", .text "a"), (.text "equipment", .record [("device_type", .text "\u00b2")])]

/-- The superscript denotes no role in particular, and costs the device. -/
theorem accept_raised :
    Role.Denoted (Device.roleField raised) .unknown ∧
      (accept [.mapping raised]).1 = .ok [] ∧
      ∃ d, (accept [.mapping (Device.unlabelled raised)]).1 = .ok [d] := by
  have hmock : Role.isMock (Device.roleField raised) = true := by decide +kernel
  have hid : fieldOf? raised "id" = some (.text "a") := rfl
  obtain ⟨token, hlost⟩ := accept_of_mock (.inl hmock) hid
  exact ⟨.of_isMockNumeral hmock, by rw [hlost], _, rfl⟩

end Inventory

end NetAtlas
