import NetAtlas.Host.Session
import NetAtlas.Inventory.Export
import NetAtlas.Proofs.Device.Label
import NetAtlas.Proofs.Host.Writing
import NetAtlas.Proofs.Inventory.Accept
import NetAtlas.Proofs.Json.File

/-!
Devices as records. Reading is lenient and writing is not: whatever record a device was read from,
its own record gives the same device again. So devices that an inventory file was loaded with are
what is loaded from the file that they are saved to.
-/

namespace NetAtlas

section Fields

variable {entries : List (Atom × Value)} {name : String} (names : List String)

theorem firstField?_of_some {v : Value} (hfield : fieldOf? entries name = some v)
    (hv : v ≠ .null) : firstField? entries (name :: names) = some v := by
  rw [firstField?, List.findSome?_cons, hfield]
  match v with
  | .null => exact absurd rfl hv
  | .bool _ | .int _ | .float _ | .text _ | .list _ | .mapping _ => rfl

theorem firstField?_of_none (hfield : fieldOf? entries name = none) :
    firstField? entries (name :: names) = firstField? entries names := by
  rw [firstField?, List.findSome?_cons, hfield]
  rfl

theorem firstField?_ne_null : firstField? entries names ≠ some .null := by
  intro h
  obtain ⟨name, _, hfound⟩ := List.exists_of_findSome?_eq_some h
  split at hfound
  · cases hfound
  · rename_i hother
    exact hother hfound

/-- A field that never holds nothing is found as it is, if it has no other name. -/
theorem firstField?_eq_fieldOf? (hfield : fieldOf? entries name ≠ some .null)
    (hnames : firstField? entries names = none) :
    firstField? entries (name :: names) = fieldOf? entries name := by
  cases hfound : fieldOf? entries name with
  | none => rw [firstField?_of_none names hfound, hnames]
  | some v =>
    exact firstField?_of_some names hfound fun hnull => hfield (hfound.trans (congrArg some hnull))

theorem firstFloat_of_float {x : Float} (hfield : fieldOf? entries name = some (.float x)) :
    firstFloat entries (name :: names) = .ok x := by
  rw [firstFloat, firstField?_of_some names hfield (by simp)]
  rfl

end Fields

theorem Role.read_name (r : Role) : Role.read (.text r.name) = .ok r := by
  have hname : r.name.toList.all isNameChar = true := by cases r <;> rfl
  exact readLabel_of_name (List.all_eq_true.mp hname) (by cases r <;> rfl) (by cases r <;> rfl)

theorem Status.read_name (t : Status) : Status.read (.text t.name) = .ok t := by
  have hname : t.name.toList.all isNameChar = true := by cases t <;> rfl
  exact readLabel_of_name (List.all_eq_true.mp hname) (by cases t <;> rfl) (by cases t <;> rfl)

namespace Equipment

/-- A field that an inventory may leave out either holds something or is left out. -/
structure Plain (e : Equipment) : Prop where
  vendor : e.vendor ≠ some .null
  model : e.model ≠ some .null
  address : e.address ≠ some .null

theorem plain_of_ofEntries {entries : List (Atom × Value)} {e : Equipment}
    (h : ofEntries entries = .ok e) : e.Plain := by
  rw [ofEntries] at h
  obtain ⟨role, -, h⟩ := bind_eq_ok_iff.mp h
  obtain ⟨status, -, h⟩ := bind_eq_ok_iff.mp h
  obtain ⟨latitude, -, h⟩ := bind_eq_ok_iff.mp h
  obtain ⟨longitude, -, h⟩ := bind_eq_ok_iff.mp h
  obtain rfl := Except.ok.inj h
  exact ⟨firstField?_ne_null _, firstField?_ne_null _, firstField?_ne_null _⟩

/-- What stands under each name in the record of some equipment. -/
structure Fields (e : Equipment) (es : List (Atom × Value)) : Prop where
  name : fieldOf? es "sys_name" = some (.text e.name)
  role : fieldOf? es "device_type" = some (.text e.role.name)
  status : fieldOf? es "device_status" = some (.text e.status.name)
  location : fieldOf? es "location" = some (.text e.location)
  latitude : fieldOf? es "latitude" = some (.float e.coordinates.latitude)
  longitude : fieldOf? es "longitude" = some (.float e.coordinates.longitude)
  vendor : fieldOf? es "vendor" = e.vendor
  model : fieldOf? es "model" = e.model
  address : fieldOf? es "ip_address" = e.address
  noAddress : fieldOf? es "ipAddress" = none

theorem exists_entries (e : Equipment) : ∃ es, e.toValue = .mapping es ∧ e.Fields es := by
  obtain ⟨name, role, status, location, coordinates, vendor, model, address⟩ := e
  refine ⟨_, rfl, ?_⟩
  constructor <;> cases vendor <;> cases model <;> cases address <;> rfl

theorem ofEntries_of_fields {e : Equipment} {es : List (Atom × Value)} (hfields : e.Fields es)
    (hplain : e.Plain) : ofEntries es = .ok e := by
  have hname := firstField?_of_some ["sysName", "name"] hfields.name (by simp)
  have hrole := firstField?_of_some ["deviceType"] hfields.role (by simp)
  have hstatus := firstField?_of_some ["deviceStatus"] hfields.status (by simp)
  have hlocation : locationOf es = e.location := by
    rw [locationOf, firstField?_of_some [] hfields.location (by simp)]
    by_cases hempty : e.location = ""
    · simp [Value.truthy, hempty]
    · simp [Value.truthy, hempty, Value.plainForm]
  have hlatitude := firstFloat_of_float ["lat"] hfields.latitude
  have hlongitude := firstFloat_of_float ["lng", "lon"] hfields.longitude
  have hvendor := firstField?_eq_fieldOf? [] (hfields.vendor ▸ hplain.vendor) rfl
  have hmodel := firstField?_eq_fieldOf? [] (hfields.model ▸ hplain.model) rfl
  have haddress := firstField?_eq_fieldOf? ["ipAddress"] (hfields.address ▸ hplain.address)
    (firstField?_of_none [] hfields.noAddress)
  rw [ofEntries, hrole, hstatus, hlatitude, hlongitude, hname, hlocation, hvendor, hmodel, haddress,
    hfields.vendor, hfields.model, hfields.address]
  simp only [Option.getD_some, Role.read_name, Status.read_name]
  rfl

theorem ofEntries_toValue {e : Equipment} (hplain : e.Plain) :
    ∃ es, e.toValue = .mapping es ∧ ofEntries es = .ok e := by
  obtain ⟨es, hes, hfields⟩ := e.exists_entries
  exact ⟨es, hes, ofEntries_of_fields hfields hplain⟩

end Equipment

namespace Link

theorem ofValue_toValue {l : Link} {bandwidth : String} (h : l.bandwidth = .text bandwidth) :
    ofValue l.toValue = .ok l := by
  obtain ⟨id, name, source, target, value, utilization, latency, distance, uptime, errorRate,
    availability, status, medium⟩ := l
  obtain rfl : value = .text bandwidth := h
  rfl

theorem bandwidth_of_ofValue {v : Value} {l : Link} (h : ofValue v = .ok l) :
    ∃ bandwidth, l.bandwidth = .text bandwidth := by
  rw [ofValue] at h
  obtain ⟨es, -, h⟩ := bind_eq_ok_iff.mp h
  obtain ⟨id, -, h⟩ := bind_eq_ok_iff.mp h
  obtain ⟨source, -, h⟩ := bind_eq_ok_iff.mp h
  obtain ⟨target, -, h⟩ := bind_eq_ok_iff.mp h
  obtain ⟨utilization, -, h⟩ := bind_eq_ok_iff.mp h
  obtain ⟨latency, -, h⟩ := bind_eq_ok_iff.mp h
  obtain ⟨distance, -, h⟩ := bind_eq_ok_iff.mp h
  obtain ⟨errorRate, -, h⟩ := bind_eq_ok_iff.mp h
  obtain ⟨availability, -, h⟩ := bind_eq_ok_iff.mp h
  obtain rfl := Except.ok.inj h
  exact ⟨_, rfl⟩

end Link

namespace Device

/-- What all devices have that were read from records: bandwidths are texts, and a field of the
equipment that may be left out is not there without a value. -/
structure Plain (d : Device) : Prop where
  equipment : ∀ e ∈ d.equipment, e.Plain
  bandwidth : ∀ l ∈ d.links, ∃ bandwidth, l.bandwidth = .text bandwidth

theorem plain_of_ofValue {record : Value} {d : Device} (h : ofValue record = .ok d) : d.Plain := by
  obtain ⟨es, -, h⟩ := bind_eq_ok_iff.mp h
  rw [ofEntries] at h
  obtain ⟨equipment, hequipment, h⟩ := bind_eq_ok_iff.mp h
  obtain ⟨links, hlinks, h⟩ := bind_eq_ok_iff.mp h
  obtain ⟨id, -, h⟩ := bind_eq_ok_iff.mp h
  obtain rfl := Except.ok.inj h
  constructor
  · rw [equipmentOf] at hequipment
    split at hequipment
    · obtain ⟨e, he, rfl⟩ := map_eq_ok_iff.mp hequipment
      simpa using Equipment.plain_of_ofEntries he
    · obtain rfl := Except.ok.inj hequipment
      simp
  · rw [linksOf] at hlinks
    split at hlinks
    · split_ifs at hlinks
      · obtain ⟨items, -, hlinks⟩ := bind_eq_ok_iff.mp hlinks
        exact of_mem_of_mapM (fun _ _ => Link.bandwidth_of_ofValue) hlinks
      · obtain rfl := Except.ok.inj hlinks
        simp
    · obtain rfl := Except.ok.inj hlinks
      simp

/-- What stands under each name in the record of a device. -/
structure Fields (d : Device) (es : List (Atom × Value)) : Prop where
  id : fieldOf? es "id" = some (.text d.id)
  equipment : fieldOf? es "equipment" = some ((d.equipment.map (·.toValue)).getD .null)
  links : fieldOf? es "links" = some (.list (d.links.map (·.toValue)))

theorem exists_entries (d : Device) : ∃ es, d.toValue = .mapping es ∧ d.Fields es :=
  ⟨_, rfl, rfl, rfl, rfl⟩

section Fields

variable {d : Device} {es : List (Atom × Value)} (hfields : d.Fields es) (hplain : d.Plain)

include hfields hplain

theorem equipmentOf_of_fields : equipmentOf es = .ok d.equipment := by
  rw [equipmentOf, hfields.equipment]
  cases he : d.equipment with
  | none => rfl
  | some e =>
    obtain ⟨part, hpart, hread⟩ := Equipment.ofEntries_toValue (hplain.equipment e he)
    rw [Option.map_some, Option.getD_some, hpart]
    exact map_eq_ok_iff.mpr ⟨e, hread, rfl⟩

theorem linksOf_of_fields : linksOf es = .ok d.links := by
  have hlinks : (d.links.map (·.toValue)).mapM Link.ofValue = .ok d.links := by
    refine mapM_map fun l hl => ?_
    obtain ⟨bandwidth, hbandwidth⟩ := hplain.bandwidth l hl
    exact Link.ofValue_toValue hbandwidth
  rw [linksOf, hfields.links]
  cases hl : d.links with
  | nil => rfl
  | cons l links =>
    rw [hl] at hlinks
    exact hlinks

theorem ofEntries_of_fields : ofEntries es = .ok d := by
  have hid : requiredText es "id" = .ok d.id := by
    rw [requiredText, required, hfields.id]
    rfl
  rw [ofEntries, equipmentOf_of_fields hfields hplain, linksOf_of_fields hfields hplain, hid]
  rfl

end Fields

theorem ofValue_toValue {d : Device} (h : d.Plain) : ofValue d.toValue = .ok d := by
  obtain ⟨es, hes, hfields⟩ := d.exists_entries
  rw [hes]
  exact ofEntries_of_fields hfields h

end Device

section Legible

open Json

/-- What the record of some equipment asks of JSON: its coordinates read back, and so do the values
that are kept as they came. -/
theorem Equipment.legible_toValue {e : Equipment} (hlatitude : ReadsBack e.coordinates.latitude)
    (hlongitude : ReadsBack e.coordinates.longitude)
    (hkept : ∀ v ∈ [e.vendor, e.model, e.address].reduceOption, Legible v) :
    Legible e.toValue := by
  obtain ⟨name, role, status, location, coordinates, vendor, model, address⟩ := e
  refine .record ?_ ?_
  · cases vendor <;> cases model <;> cases address <;> simp
  · intro field hfield
    rcases List.mem_append.mp hfield with hfield | hfield
    · simp only [List.mem_cons, List.not_mem_nil, or_false] at hfield
      rcases hfield with rfl | rfl | rfl | rfl | rfl | rfl
      · exact .text _
      · exact .text _
      · exact .text _
      · exact .text _
      · exact .float hlatitude
      · exact .float hlongitude
    · obtain ⟨⟨label, v?⟩, hmem, hsome⟩ := List.mem_filterMap.mp hfield
      obtain ⟨v, rfl, rfl⟩ := Option.map_eq_some_iff.mp hsome
      refine hkept v (List.reduceOption_mem_iff.mpr ?_)
      simp only [List.mem_cons, Prod.mk.injEq, List.not_mem_nil, or_false] at hmem ⊢
      exact hmem.imp And.right (Or.imp And.right And.right)

theorem Link.legible_toValue {l : Link} (hbandwidth : Legible l.bandwidth)
    (hfloats : ∀ x ∈ [l.utilization, l.latency, l.distance, l.errorRate, l.availability],
      ReadsBack x) : Legible l.toValue := by
  simp only [List.forall_mem_cons] at hfloats
  obtain ⟨hutilization, hlatency, hdistance, herrorRate, havailability, -⟩ := hfloats
  refine .record (by simp) ?_
  simp only [List.forall_mem_cons]
  exact ⟨.text _, .text _, .text _, .text _, .text _, .text _, hbandwidth, .float hutilization,
    .float hlatency, .float hdistance, .text _, .float herrorRate, .float havailability, by simp⟩

theorem Device.legible_toValue {d : Device} (hequipment : ∀ e ∈ d.equipment, Legible e.toValue)
    (hlinks : ∀ l ∈ d.links, Legible l.toValue) : Legible d.toValue := by
  refine .record (by simp) ?_
  simp only [List.forall_mem_cons]
  refine ⟨.text _, ?_, .list fun v hv => ?_, by simp⟩
  · cases he : d.equipment with
    | none => exact .null
    | some e => exact hequipment e he
  · obtain ⟨l, hl, rfl⟩ := List.mem_map.mp hv
    exact hlinks l hl

end Legible

namespace Inventory

theorem plain_of_accept {records : List Value} {devices : List Device} {notices : List Notice}
    (h : accept records = (.ok devices, notices)) : ∀ d ∈ devices, d.Plain := by
  rw [accept_eq, Prod.mk.injEq] at h
  obtain ⟨hdevices, -⟩ := h
  split_ifs at hdevices
  obtain rfl := Except.ok.inj hdevices
  intro d hd
  obtain ⟨record, -, hrecord⟩ := List.mem_filterMap.mp hd
  rw [device?] at hrecord
  cases hread : Device.ofValue record with
  | error f =>
    rw [hread] at hrecord
    cases hrecord
  | ok other =>
    rw [hread] at hrecord
    obtain rfl := Option.some.inj hrecord
    exact Device.plain_of_ofValue hread

/-- Records of devices are accepted one by one, and there is nothing to report. -/
theorem accept_toValue {devices : List Device} (h : ∀ d ∈ devices, d.Plain) :
    accept (devices.map (·.toValue)) = (.ok devices, []) := by
  induction devices with
  | nil => rfl
  | cons d devices ih =>
    obtain ⟨es, hes, hfields⟩ := d.exists_entries
    have hone : acceptOne d.toValue = .ok (.inl d) := by
      rw [hes, acceptOne, hfields.id,
        Device.ofEntries_of_fields hfields (h d List.mem_cons_self)]
    rw [List.map_cons, accept, hone, ih fun other hother => h other (List.mem_cons_of_mem _ hother)]
    rfl

/-- The document of a file with some devices. -/
theorem readRecords_fileText {devices : List Device} {indent : Option Nat}
    (hlegible : ∀ d ∈ devices, Json.Legible d.toValue) :
    readRecords (.ok (fileText indent devices).toUTF8.toList) = .ok (devices.map (·.toValue)) := by
  have hdocument : Json.Legible (.record [("devices", .list (devices.map (·.toValue)))]) := by
    refine .record (by simp) ?_
    simp only [List.mem_singleton, forall_eq]
    refine .list fun v hv => ?_
    obtain ⟨d, hd, rfl⟩ := List.mem_map.mp hv
    exact hlegible d hd
  rw [readRecords, fileText, Json.parseFile_render hdocument]
  rfl

/-- Devices are loaded from the file that they were saved to. -/
theorem load_save {devices : List Device} {path : String} {indent : Option Nat} {s after : Session}
    (hplain : ∀ d ∈ devices, d.Plain) (hlegible : ∀ d ∈ devices, Json.Legible d.toValue)
    (hsave : (save devices path indent : StateM Session _) s = (.ok (), after)) :
    load path (after.disk.read path) = (.ok devices, [.inventoryLoaded devices.length path]) := by
  have hread : after.disk.read path = .ok (fileText indent devices).toUTF8.toList := by
    rw [save] at hsave
    exact Session.read_of_reported hsave
  rw [hread, load, readRecords_fileText hlegible]
  simp only [accept_toValue hplain, List.nil_append]

/-- Each device is what its own record is read as, whatever record it came from. So of devices that
came from an inventory none is lost, changed or moved when their records are read again, and they
are loaded from the file that they were saved to if the values in it have a text of their own. -/
theorem reads_own_records :
    (∀ record d, Device.ofValue record = .ok d → Device.ofValue d.toValue = .ok d) ∧
      ∀ records devices notices, acceptAll records = (.ok devices, notices) →
        acceptAll (.list (devices.map (·.toValue))) = (.ok devices, []) ∧
          ∀ path indent (s after : Session), (∀ d ∈ devices, Json.Legible d.toValue) →
            (save devices path indent : StateM Session _) s = (.ok (), after) →
              load path (after.disk.read path) =
                (.ok devices, [.inventoryLoaded devices.length path]) := by
  refine ⟨fun record d hread => Device.ofValue_toValue (Device.plain_of_ofValue hread), ?_⟩
  intro records devices notices haccept
  have hplain : ∀ d ∈ devices, d.Plain := by
    cases hitems : records.items with
    | error f =>
      rw [acceptAll, hitems] at haccept
      cases haccept
    | ok vs =>
      rw [acceptAll, hitems] at haccept
      exact plain_of_accept haccept
  refine ⟨accept_toValue hplain, fun path indent s after hlegible hsave => ?_⟩
  exact load_save hplain hlegible hsave

/-- Records in which names, types and spellings vary, among them one that is none. -/
def looseRecords : Value :=
  .list
    [.record
      [("id", .int 7),
        ("equipmentinfo", .record
          [("sysName", .text "core"), ("deviceType", .int 2), ("device_status", .text "WARNING"),
            ("location", .list []), ("lat", .text "51.5"), ("lng", .int (-1)),
            ("vendor", .list [.int 3, .null]), ("model", .null), ("ipAddress", .bool true)]),
        ("links", .list
          [.record
            [("link_id", .text "a"), ("from_node", .int 7), ("to_node", .text "9"),
              ("bandwidth", .int 10), ("latency_ms", .text "2.5")]])],
     .text "noise",
     .record [("id", .text "9"), ("equipment", .null)]]

/-- The devices of the loose records. -/
def looseDevices : List Device :=
  [{ id := "7"
     equipment := some
      { name := "core", role := .switch, status := .warning, location := ""
        coordinates := ⟨51.5, -1.0⟩, vendor := some (.list [.int 3, .null]), model := none
        address := some (.bool true) }
     links :=
      [{ id := "a", name := "", source := "7", target := "9", bandwidth := .text "10"
         utilization := 0.0, latency := 2.5, distance := 0.0, uptime := "", errorRate := 0.0
         availability := 0.0, status := "active", medium := "ethernet" }] },
   { id := "9", equipment := none, links := [] }]

theorem acceptAll_looseRecords :
    acceptAll looseRecords = (.ok looseDevices, [.malformedRecord (.text "noise")]) := by
  rfl

theorem legible_looseDevices : ∀ d ∈ looseDevices, Json.Legible d.toValue := by
  have hzero : Json.ReadsBack 0.0 := fun _ _ => rfl
  have hlatency : Json.ReadsBack 2.5 := fun _ _ => rfl
  have hlatitude : Json.ReadsBack 51.5 := fun _ _ => rfl
  have hlongitude : Json.ReadsBack (-1.0) := fun _ _ => rfl
  simp only [looseDevices, List.forall_mem_cons]
  refine ⟨Device.legible_toValue ?_ ?_, Device.legible_toValue ?_ ?_, by simp⟩
  · rintro e ⟨⟩
    refine Equipment.legible_toValue hlatitude hlongitude ?_
    simp only [List.reduceOption, List.filterMap, id, List.forall_mem_cons]
    exact ⟨.list (by simp [Json.Legible.null, Json.Legible.int]), .bool true, by simp⟩
  · simp only [List.forall_mem_cons]
    exact ⟨Link.legible_toValue (.text "10") (by simp [hzero, hlatency]), by simp⟩
  · simp
  · simp

/-- The loose records give devices that are read, saved and loaded as they are. -/
theorem reads_own_records_loosely :
    acceptAll (.list (looseDevices.map (·.toValue))) = (.ok looseDevices, []) ∧
      ∃ after : Session,
        (save looseDevices "out/devices.json" (some 2) : StateM Session _)
            (.start (.empty ["home"]) "2025-01-01T00:00:00") = (.ok (), after) ∧
          load "out/devices.json" (after.disk.read "out/devices.json") =
            (.ok looseDevices, [.inventoryLoaded 2 "out/devices.json"]) := by
  obtain ⟨haccept, hload⟩ :=
    reads_own_records.2 looseRecords looseDevices _ acceptAll_looseRecords
  exact ⟨haccept, _, rfl, hload _ (some 2) (.start (.empty ["home"]) _) _ legible_looseDevices rfl⟩

end Inventory

end NetAtlas
