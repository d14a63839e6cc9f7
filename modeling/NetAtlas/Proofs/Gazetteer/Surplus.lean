import NetAtlas.Proofs.Gazetteer.Rows

/-!
Fields behind the last column. They are cut off, except that the lengths of the first two records
decide whether the front fields of every record are cells or name its row: a surplus in the first
record shifts its cells, and leaves all rows of another length incomplete.
-/

namespace NetAtlas

namespace Table

/-- The lengths of the first two records leave no field as the name of a row. -/
def Nameless (columns : Nat) : List (List String) → Prop
  | [] => True
  | [first] => first.length ≤ columns
  | first :: second :: _ => first.length ≤ columns ∧ second.length ≠ first.length + columns

theorem indexed_of_nameless {columns : Nat} {body : List (List String)} (h : Nameless columns body) :
    indexed columns body = (0, body) := by
  rcases body with _ | ⟨first, _ | ⟨second, rest⟩⟩
  · rfl
  · rw [indexed, Nat.sub_eq_zero_of_le h]
  · rw [indexed, if_neg h.2, Nat.sub_eq_zero_of_le h.1]

theorem indexed_of_not_nameless {columns : Nat} {body : List (List String)}
    (hne : ∀ record ∈ body, record ≠ []) (h : ¬ Nameless columns body) :
    0 < (indexed columns body).1 ∧ (indexed columns body).2.Sublist body := by
  rcases body with _ | ⟨first, _ | ⟨second, rest⟩⟩
  · exact absurd trivial h
  · exact ⟨Nat.sub_pos_of_lt (Nat.lt_of_not_le h), List.Sublist.refl _⟩
  · have hfirst := List.length_pos_iff.mpr (hne first List.mem_cons_self)
    rw [indexed]
    split
    · exact ⟨hfirst, List.sublist_cons_self _ _⟩
    · rename_i hlength
      exact ⟨Nat.sub_pos_of_lt (Nat.lt_of_not_le fun hle => h ⟨hle, hlength⟩), List.Sublist.refl _⟩

theorem ne_nil_of_mem_records {text : String} {record : List String} (h : record ∈ records text) :
    record ≠ [] := by
  rintro rfl
  simpa [isBlankRecord] using (List.mem_filter.mp h).2

/-- From the third record on, lengths make no difference. -/
theorem nameless_append_iff {columns : Nat} {front : List (List String)} (h : 2 ≤ front.length)
    (rest rest' : List (List String)) :
    Nameless columns (front ++ rest) ↔ Nameless columns (front ++ rest') := by
  rcases front with _ | ⟨first, _ | ⟨second, front⟩⟩
  · simp at h
  · simp at h
  · rfl

theorem rowOf_append {columns : Nat} {r : List String} (h : columns ≤ r.length) (extra : List String) :
    rowOf columns 0 columns (r ++ extra) = rowOf columns 0 columns r := by
  have hrow {record : List String} (hrecord : columns ≤ record.length) :
      rowOf columns 0 columns record = (record.take columns).map some := by
    rw [rowOf]
    split
    · simp [hrecord]
    · rename_i hnot
      have hexact : record.length = columns := by omega
      simp [hexact, List.take_of_length_le]
  rw [hrow h, hrow (by rw [List.length_append]; omega), List.take_append_of_le_length h]

theorem length_rowOf {columns index : Nat} (record : List String) :
    (rowOf columns index columns record).length = columns := by
  rw [rowOf]
  split
  · simp
  · simp
    omega

/-- Where rows have names, a record that is not exactly as long as the columns and the names
    together gives a row in which the last cell is missing. -/
theorem none_mem_rowOf {columns index : Nat} {record : List String} (hcolumns : 0 < columns)
    (hindex : 0 < index) (h : record.length ≠ index + columns) : none ∈ rowOf columns index columns record := by
  obtain ⟨fields, hfields, hlength⟩ : ∃ fields : List String,
      fields.length < index + columns ∧
        rowOf columns index columns record =
          (fields.map some ++ List.replicate (index + columns - fields.length) none).drop index := by
    by_cases hlong : index + columns < record.length
    · refine ⟨record.take columns, by rw [List.length_take]; omega, ?_⟩
      rw [rowOf, if_pos hlong]
    · refine ⟨record, by omega, ?_⟩
      rw [rowOf, if_neg hlong]
  obtain ⟨missing, hmissing⟩ : ∃ missing, index + columns - fields.length = missing + 1 :=
    ⟨index + columns - fields.length - 1, by omega⟩
  rw [hlength, hmissing, List.replicate_succ', ← List.append_assoc,
    List.drop_append_of_le_length (by simp; omega)]
  exact List.mem_append_right _ List.mem_cons_self

end Table

namespace Gazetteer

theorem ofBytes_of_records {bytes : List UInt8} {header : List String} {body : List (List String)}
    (hheader : header.length = columnCount)
    (h : Table.records (Text.Utf8.decode bytes) = header :: body) :
    ofBytes bytes = .ok (ofTable {
      columns := columnCount
      rows := (Table.indexed columnCount body).2.map
        (Table.rowOf columnCount (Table.indexed columnCount body).1 columnCount) }) := by
  rw [ofBytes, Table.ofText?, h]
  simp only [hheader, Nat.lt_irrefl, ↓reduceIte]

theorem city?_of_missing {kinds : Kinds} {cells : List (Option String)}
    (hlength : cells.length = columnCount) (hmissing : none ∈ cells) : city? kinds cells = none := by
  rw [city?, cityOfRow]
  split
  · rename_i hcells
    have hall := map_of_mapM hcells
    rw [List.map_id, List.take_of_length_le (by omega)] at hall
    rw [hall] at hmissing
    simp at hmissing
  · rfl

/-- With names in front of the rows, only records of one length can give cities. -/
theorem size_ofTable_le {index : Nat} (hindex : 0 < index) (body : List (List String)) :
    (ofTable {
      columns := columnCount
      rows := body.map (Table.rowOf columnCount index columnCount) }).1.size ≤
      body.countP fun record => decide (record.length = index + columnCount) := by
  rw [cities_ofTable]
  change (List.filterMap _ _).length ≤ _
  rw [List.length_filterMap_eq_countP, List.countP_map]
  refine List.countP_mono_left fun record _ hcity => ?_
  by_contra hlength
  rw [decide_eq_true_eq] at hlength
  have hmissing := Table.none_mem_rowOf (by decide : 0 < columnCount) hindex hlength
  rw [Function.comp_apply, city?_of_missing (Table.length_rowOf record) hmissing] at hcity
  cases hcity

/-- Fields behind the last column of a record change nothing, wherever it stands, as long as no field
    names a row before and after; and from the third record on they cannot make the difference. But
    too long a first record always makes it, and then no record of eleven fields gives a city. -/
theorem ofBytes_surplus {bytes bytes' : List UInt8} {header r extra : List String}
    {front back : List (List String)} (hheader : header.length = columnCount)
    (hlength : columnCount ≤ r.length)
    (hrecords : Table.records (Text.Utf8.decode bytes) = header :: (front ++ r :: back))
    (hrecords' : Table.records (Text.Utf8.decode bytes') =
      header :: (front ++ (r ++ extra) :: back)) :
    (Table.Nameless columnCount (front ++ r :: back) →
      Table.Nameless columnCount (front ++ (r ++ extra) :: back) → ofBytes bytes' = ofBytes bytes) ∧
    (2 ≤ front.length →
      (Table.Nameless columnCount (front ++ r :: back) ↔
        Table.Nameless columnCount (front ++ (r ++ extra) :: back))) ∧
    (front = [] → extra ≠ [] → ¬ Table.Nameless columnCount (front ++ (r ++ extra) :: back)) ∧
    (¬ Table.Nameless columnCount (front ++ (r ++ extra) :: back) →
      ∃ g notices width, ofBytes bytes' = .ok (g, notices) ∧ columnCount < width ∧
        g.size ≤ (front ++ (r ++ extra) :: back).countP fun record =>
          decide (record.length = width)) := by
  refine ⟨fun hbefore hafter => ?_, fun hfront => Table.nameless_append_iff hfront _ _, ?_, ?_⟩
  · rw [ofBytes_of_records hheader hrecords, ofBytes_of_records hheader hrecords',
      Table.indexed_of_nameless hbefore, Table.indexed_of_nameless hafter]
    simp only [List.map_append, List.map_cons, Table.rowOf_append hlength]
  · rintro rfl hextra hnameless
    have hlong : columnCount < (r ++ extra).length := by
      have hpos := List.length_pos_iff.mpr hextra
      rw [List.length_append]
      omega
    cases back with
    | nil => exact Nat.not_lt.mpr hnameless hlong
    | cons second rest => exact Nat.not_lt.mpr hnameless.1 hlong
  · intro hnamed
    have hne : ∀ record ∈ front ++ (r ++ extra) :: back, record ≠ [] := fun record hrecord =>
      Table.ne_nil_of_mem_records (hrecords' ▸ List.mem_cons_of_mem header hrecord)
    obtain ⟨hindex, hrows⟩ := Table.indexed_of_not_nameless hne hnamed
    refine ⟨_, _, _, ofBytes_of_records hheader hrecords', Nat.lt_add_of_pos_left hindex, ?_⟩
    exact Nat.le_trans (size_ofTable_le hindex _) hrows.countP_le

/-- The bytes of a file with one record in each line, all in ASCII. -/
def fileOf (records : List (List String)) : List UInt8 :=
  records.flatMap fun record =>
    (List.intercalate [','] (record.map String.toList) ++ ['\n']).map fun c => c.toNat.toUInt8

def headerRecord : List String :=
  ["city", "city_ascii", "lat", "lng", "country", "iso2", "iso3", "admin_name", "capital",
    "population", "id"]

def tokyoRecord : List String :=
  ["Tokyo", "Tokyo", "35.6", "139.7", "Japan", "JP", "JPN", "Tokyo", "primary", "37977000", "1"]

def osakaRecord : List String :=
  ["Osaka", "Osaka", "34.7", "135.5", "Japan", "JP", "JPN", "Osaka", "admin", "15126000", "2"]

/-- Reading a file is left to evaluation, once its text is out of the way. -/
theorem records_decode (bytes : List UInt8) :
    Table.records (Text.Utf8.decode bytes) =
      (Table.recordsFrom .fieldStart [] [] (Text.Utf8.decodeFrom none bytes)).filter
        fun record => !Table.isBlankRecord record := by
  rw [Table.records, Text.Utf8.decode, String.toList_ofList]

theorem records_plain :
    Table.records (Text.Utf8.decode (fileOf [headerRecord, tokyoRecord, osakaRecord])) =
      [headerRecord, tokyoRecord, osakaRecord] := by
  rw [records_decode]
  decide +kernel

/-- One field too many in the second record is cut off. -/
theorem ofBytes_surplus_osaka :
    headerRecord.length = columnCount ∧ columnCount ≤ osakaRecord.length ∧
      ofBytes (fileOf [headerRecord, tokyoRecord, osakaRecord ++ ["x"]]) =
        ofBytes (fileOf [headerRecord, tokyoRecord, osakaRecord]) := by
  have hrecords :
      Table.records (Text.Utf8.decode
        (fileOf [headerRecord, tokyoRecord, osakaRecord ++ ["x"]])) =
        headerRecord :: ([tokyoRecord] ++ (osakaRecord ++ ["x"]) :: []) := by
    rw [records_decode]
    decide +kernel
  exact ⟨by decide, by decide,
    (ofBytes_surplus (by decide) (by decide) records_plain hrecords).1
      ⟨by decide, by decide⟩ ⟨by decide, by decide⟩⟩

/-- One field too many in the first record costs the cities of both. -/
theorem ofBytes_long_tokyo :
    (ofBytes (fileOf [headerRecord, tokyoRecord, osakaRecord])).toOption.map
        (·.1.cities.map City.name) = some ["Tokyo", "Osaka"] ∧
      (ofBytes (fileOf [headerRecord, tokyoRecord ++ ["x"], osakaRecord])).toOption.map
        (·.1.cities.map City.name) = some [] := by
  have hrecords :
      Table.records (Text.Utf8.decode
        (fileOf [headerRecord, tokyoRecord ++ ["x"], osakaRecord])) =
        [headerRecord, tokyoRecord ++ ["x"], osakaRecord] := by
    rw [records_decode]
    decide +kernel
  rw [ofBytes_of_records (by decide) records_plain, ofBytes_of_records (by decide) hrecords]
  decide +kernel

end Gazetteer

end NetAtlas
