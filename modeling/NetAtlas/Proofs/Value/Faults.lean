import NetAtlas.Topology.File

/-!
Which faults a reading can end in. Most faults of a document are reported as part of loading it;
the others have a cause that can be seen in the document: an integer out of range, an infinite
float, or a value without fields where a record should be.
-/

namespace NetAtlas

/-- The reading fails with faults of one kind only. -/
def FailsOnly {α : Type} (kind : Fault → Prop) (r : Read α) : Prop := ∀ f, r = .error f → kind f

section Steps

variable {α β : Type} {kind : Fault → Prop}

theorem failsOnly_ok (a : α) : FailsOnly kind (.ok a : Read α) := by
  intro f hf
  cases hf

theorem failsOnly_error {f : Fault} (h : kind f) : FailsOnly kind (.error f : Read α) := by
  intro g hg
  cases hg
  exact h

theorem bind_eq_ok_iff {ε : Type} {r : Except ε α} {next : α → Except ε β} {b : β} :
    (r >>= next) = .ok b ↔ ∃ a, r = .ok a ∧ next a = .ok b := by
  cases r with
  | error f =>
    constructor
    · intro h
      cases h
    · rintro ⟨_, ha, _⟩
      cases ha
  | ok a =>
    constructor
    · intro h
      exact ⟨a, rfl, h⟩
    · rintro ⟨_, ha, h⟩
      cases ha
      exact h

theorem map_eq_ok_iff {ε : Type} {r : Except ε α} {g : α → β} {b : β} :
    g <$> r = .ok b ↔ ∃ a, r = .ok a ∧ g a = b := by
  cases r with
  | error f =>
    constructor
    · intro h
      cases h
    · rintro ⟨_, ha, _⟩
      cases ha
  | ok a =>
    constructor
    · intro h
      exact ⟨a, rfl, Except.ok.inj h⟩
    · rintro ⟨_, ha, rfl⟩
      cases ha
      rfl

theorem FailsOnly.bind {r : Read α} {next : α → Read β} (hr : FailsOnly kind r)
    (hnext : ∀ a, r = .ok a → FailsOnly kind (next a)) : FailsOnly kind (r >>= next) := by
  cases r with
  | error f => exact failsOnly_error (hr f rfl)
  | ok a => exact hnext a rfl

theorem FailsOnly.map {r : Read α} (g : α → β) (hr : FailsOnly kind r) :
    FailsOnly kind (g <$> r) := by
  cases r with
  | error f => exact failsOnly_error (hr f rfl)
  | ok a => exact failsOnly_ok (g a)

theorem FailsOnly.mapM {read : α → Read β} {items : List α}
    (h : ∀ item ∈ items, FailsOnly kind (read item)) : FailsOnly kind (items.mapM read) := by
  induction items with
  | nil => exact failsOnly_ok []
  | cons item items ih =>
    rw [List.mapM_cons]
    refine (h item List.mem_cons_self).bind fun b _ => ?_
    exact (ih fun other hother => h other (List.mem_cons_of_mem _ hother)).bind
      fun bs _ => failsOnly_ok (b :: bs)

@[simp] theorem mapError_error {ε ε' : Type} (g : ε → ε') (e : ε) :
    (.error e : Except ε α).mapError g = .error (g e) := rfl

@[simp] theorem mapError_ok {ε ε' : Type} (g : ε → ε') (a : α) :
    (.ok a : Except ε α).mapError g = .ok a := rfl

theorem mapError_eq_ok_iff {ε ε' : Type} {r : Except ε α} {g : ε → ε'} {a : α} :
    r.mapError g = .ok a ↔ r = .ok a := by
  cases r <;> simp

/-- Items that are read from what they write are read as they were, in their order. -/
theorem mapM_map {write : α → β} {read : β → Read α} {items : List α}
    (h : ∀ item ∈ items, read (write item) = .ok item) :
    (items.map write).mapM read = .ok items := by
  induction items with
  | nil => rfl
  | cons item items ih =>
    have hrest := ih fun other hother => h other (List.mem_cons_of_mem _ hother)
    rw [List.map_cons, List.mapM_cons]
    exact bind_eq_ok_iff.mpr
      ⟨item, h item List.mem_cons_self, bind_eq_ok_iff.mpr ⟨items, hrest, rfl⟩⟩

theorem of_mem_of_mapM {p : α → Prop} {read : β → Read α} {records : List β} {items : List α}
    (hread : ∀ record a, read record = .ok a → p a) (h : records.mapM read = .ok items) :
    ∀ item ∈ items, p item := by
  induction records generalizing items with
  | nil =>
    obtain rfl := Except.ok.inj h
    simp
  | cons record records ih =>
    rw [List.mapM_cons] at h
    obtain ⟨a, ha, h⟩ := bind_eq_ok_iff.mp h
    obtain ⟨rest, hrest, h⟩ := bind_eq_ok_iff.mp h
    obtain rfl := Except.ok.inj h
    exact List.forall_mem_cons.mpr ⟨hread record a ha, ih hrest⟩

end Steps

/-- All atoms of the value satisfy a condition, keys included. -/
inductive Value.All (p : Atom → Prop) : Value → Prop
  | atom {a : Atom} (h : p a) : All p (.atom a)
  | list {items : List Value} (h : ∀ v ∈ items, All p v) : All p (.list items)
  | mapping {entries : List (Atom × Value)} (hkeys : ∀ e ∈ entries, p e.1)
      (h : ∀ e ∈ entries, All p e.2) : All p (.mapping entries)

namespace Value.All

variable {p : Atom → Prop}

theorem of_atom {a : Atom} (h : Value.All p (.atom a)) : p a := by
  cases h
  assumption

theorem of_fieldOf? {entries : List (Atom × Value)} {name : String} {v : Value}
    (h : Value.All p (.mapping entries)) (hv : fieldOf? entries name = some v) : v.All p := by
  cases h with
  | mapping _ hvalues =>
    obtain ⟨e, he, rfl⟩ := Option.map_eq_some_iff.mp hv
    exact hvalues e (List.mem_of_find?_eq_some he)

theorem of_getD {entries : List (Atom × Value)} {name : String} {absent : Value}
    (h : Value.All p (.mapping entries)) (habsent : absent.All p) :
    ((fieldOf? entries name).getD absent).All p := by
  cases hv : fieldOf? entries name with
  | some v => exact h.of_fieldOf? hv
  | none => exact habsent

/-- What one goes through in a value satisfies the condition too, if texts always do. -/
theorem of_mem_items {v item : Value} {items : List Value} (h : v.All p)
    (htexts : ∀ s, p (.text s)) (hitems : v.items = .ok items) (hitem : item ∈ items) :
    item.All p := by
  cases h with
  | @atom a _ =>
    cases a with
    | text s =>
      obtain rfl := Except.ok.inj hitems
      obtain ⟨c, _, rfl⟩ := List.mem_map.mp hitem
      exact .atom (htexts _)
    | _ => cases hitems
  | list hlist =>
    obtain rfl := Except.ok.inj hitems
    exact hlist item hitem
  | mapping hkeys _ =>
    obtain rfl := Except.ok.inj hitems
    obtain ⟨e, he, rfl⟩ := List.mem_map.mp hitem
    exact .atom (hkeys e he)

end Value.All

/-- An integer has a nearest float. -/
def Atom.InRange : Atom → Prop
  | .int n => (Number.int n).toFloat?.isSome = true
  | _ => True

/-- A float is not infinite. -/
def Atom.Finite : Atom → Prop
  | .float x => ∀ negative, FloatKind.of x ≠ .infinite negative
  | _ => True

/-- The value is a mapping, so that fields can be asked of it, and its entries satisfy a
    condition. -/
inductive Value.IsRecord (p : List (Atom × Value) → Prop) : Value → Prop
  | mapping {entries : List (Atom × Value)} (h : p entries) : IsRecord p (.mapping entries)

theorem Value.IsRecord.of_mapping {p : List (Atom × Value) → Prop} {entries : List (Atom × Value)}
    (h : (Value.mapping entries).IsRecord p) : p entries := by
  cases h
  assumption

/-- If there is something under a name, and it does not count as false, it is a record. -/
def RecordAt (entries : List (Atom × Value)) (name : String) : Prop :=
  ∀ v, fieldOf? entries name = some v → v.truthy = true → v.IsRecord fun _ => True

theorem eq_mapping_of_entries {v : Value} {entries : List (Atom × Value)}
    (h : v.entries = .ok entries) : v = .mapping entries := by
  cases v with
  | mapping _ =>
    cases h
    rfl
  | _ => cases h

theorem eq_mapping_of_indexed {v : Value} {entries : List (Atom × Value)}
    (h : v.indexed = .ok entries) : v = .mapping entries := by
  cases v with
  | mapping _ =>
    cases h
    rfl
  | _ => cases h

section Readers

variable {kind : Fault → Prop} {v : Value} {entries : List (Atom × Value)} {name : String}

theorem failsOnly_entries {p : List (Atom × Value) → Prop}
    (h : kind .notARecord ∨ v.IsRecord p) : FailsOnly kind v.entries := by
  rcases h with hkind | hrecord
  · cases v with
    | mapping entries => exact failsOnly_ok entries
    | _ => exact failsOnly_error hkind
  · cases hrecord
    exact failsOnly_ok _

/-- A number is read as a float unless it is an integer out of range. -/
theorem failsOnly_toFloat (h : kind .outOfRange ∨ v.All Atom.InRange) :
    FailsOnly kind v.toFloat := by
  intro f hf
  rcases h with hkind | hrange
  · rw [Value.toFloat.eq_def] at hf
    split at hf
    · cases hf
    · split at hf
      · cases hf
      · split at hf
        · cases hf
        · cases hf
          exact hkind
  · cases hrange with
    | list _ => cases hf
    | mapping _ _ => cases hf
    | @atom a ha =>
      cases a with
      | null => cases hf
      | text s => cases hf
      | float x => cases hf
      | bool b => cases b <;> cases hf
      | int n =>
        obtain ⟨x, hx⟩ := Option.isSome_iff_exists.mp ha
        simp [Value.toFloat, Value.number?, hx] at hf

theorem failsOnly_floatField (h : kind .outOfRange ∨ (Value.mapping entries).All Atom.InRange) :
    FailsOnly kind (floatField entries name) := by
  rw [floatField]
  split
  · rename_i v hv
    exact (failsOnly_toFloat (h.imp_right (·.of_fieldOf? hv))).map _
  · exact failsOnly_ok 0.0

variable (hkind : ∀ f, f.isReported = true → kind f)
include hkind

theorem failsOnly_indexed : FailsOnly kind v.indexed := by
  cases v with
  | mapping entries => exact failsOnly_ok entries
  | _ => exact failsOnly_error (hkind _ rfl)

theorem failsOnly_items : FailsOnly kind v.items := by
  rw [Value.items.eq_def]
  split
  · exact failsOnly_ok _
  · exact failsOnly_ok _
  · exact failsOnly_ok _
  · exact failsOnly_error (hkind _ rfl)

theorem failsOnly_required : FailsOnly kind (required entries name) := by
  rw [required]
  split
  · exact failsOnly_ok _
  · exact failsOnly_error (hkind _ rfl)

theorem failsOnly_requiredText : FailsOnly kind (requiredText entries name) :=
  (failsOnly_required hkind).map _

/-- What cannot be cut to an integer is reported, unless it is an infinite float. -/
theorem failsOnly_toInt (h : kind .infinite ∨ v.All Atom.Finite) : FailsOnly kind v.toInt := by
  rw [Value.toInt.eq_def]
  split
  · split
    · exact failsOnly_ok _
    · exact failsOnly_error (hkind _ rfl)
  · rename_i x
    split
    · exact failsOnly_ok _
    · rename_i negative hinfinite
      rcases h with hkind' | hfinite
      · exact failsOnly_error hkind'
      · exact absurd hinfinite (hfinite.of_atom negative)
    · exact failsOnly_error (hkind _ rfl)
  · split
    · exact failsOnly_ok _
    · exact failsOnly_error (hkind _ rfl)

theorem failsOnly_intField {absent : Int}
    (h : kind .infinite ∨ (Value.mapping entries).All Atom.Finite) :
    FailsOnly kind (intField entries name absent) := by
  rw [intField]
  split
  · rename_i v hv
    exact failsOnly_toInt hkind (h.imp_right (·.of_fieldOf? hv))
  · exact failsOnly_ok absent

end Readers

end NetAtlas
