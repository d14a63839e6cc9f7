import NetAtlas.Gazetteer.Loading
import NetAtlas.Proofs.Gazetteer.Column
import NetAtlas.Proofs.Location.Resolve

/-!
What comes of the rows of a table. Each is a city or reported once under its number, and what it is
rests on its own cells, but for long integers: those are read after the kind of their column.
-/

namespace NetAtlas

/-- The record as the indices and the searches rely on it. -/
structure City.IsLoaded (c : City) : Prop where
  texts : c.IsTrimmed
  latitude : c.coordinates.latitude.isNaN = false
  longitude : c.coordinates.longitude.isNaN = false
  population : ∀ p, c.population = some p → p.isNaN = false

/-- The row that is reported as left out. -/
def Notice.row? : Notice → Option Nat
  | .incompleteRow row => some row
  | .badLatitude _ row _ => some row
  | .badLongitude _ row _ => some row
  | _ => none

namespace Gazetteer

variable (kinds : Kinds)

/-- The city of a row, if it is not left out. -/
def city? (cells : List (Option String)) : Option City := (cityOfRow kinds 0 cells).getLeft?

/-- What is reported of a row that is left out. -/
def skip? (row : Nat) (cells : List (Option String)) : Option Notice :=
  (cityOfRow kinds row cells).getRight?

/-- What can come of a row: a city that is fit to be loaded, or a warning with the row's number. -/
inductive Verdict (row : Nat) (cells : List (Option String)) : City ⊕ Notice → Prop
  | city {c : City} (hcity : city? kinds cells = some c) (hsilent : skip? kinds row cells = none)
      (hloaded : c.IsLoaded) : Verdict row cells (.inl c)
  | skipped {notice : Notice} (hnone : city? kinds cells = none)
      (hskip : skip? kinds row cells = some notice) (hrow : notice.row? = some row)
      (hlevel : notice.level = .warning) : Verdict row cells (.inr notice)

theorem verdict_cityOfRow (row : Nat) (cells : List (Option String)) :
    Verdict kinds row cells (cityOfRow kinds row cells) := by
  rw [cityOfRow]
  split
  · rename_i hcells
    split
    · rename_i hlatitude
      refine .skipped ?_ ?_ rfl rfl <;> simp [city?, skip?, cityOfRow, hcells, hlatitude]
    · rename_i hlatitude hlongitude
      refine .skipped ?_ ?_ rfl rfl <;>
        simp [city?, skip?, cityOfRow, hcells, hlatitude, hlongitude]
    · rename_i hlatitude hlongitude
      refine .city ?_ ?_ ?_
      · simp [city?, cityOfRow, hcells, hlatitude, hlongitude]
      · simp [skip?, cityOfRow, hcells, hlatitude, hlongitude]
      · exact {
          texts := by constructor <;> exact trimmed_trimmed _
          latitude := NumberKind.isNaN_eq_false_of_read? hlatitude
          longitude := NumberKind.isNaN_eq_false_of_read? hlongitude
          population := fun _ => NumberKind.isNaN_eq_false_of_read? }
  · rename_i hcells
    refine .skipped ?_ ?_ rfl rfl
    · rw [city?, cityOfRow]
      split
      · exact absurd ‹_› (hcells _ _ _ _ _ _ _ _ _ _ _)
      · rfl
    · rw [skip?, cityOfRow]
      split
      · exact absurd ‹_› (hcells _ _ _ _ _ _ _ _ _ _ _)
      · rfl

variable {kinds}

theorem citiesOfRows_eq (row : Nat) (rows : List (List (Option String))) :
    citiesOfRows kinds row rows =
      (rows.filterMap (city? kinds),
        (rows.zipIdx row).filterMap fun (cells, row) => skip? kinds row cells) := by
  induction rows generalizing row with
  | nil => rfl
  | cons cells rest ih =>
    have hverdict := verdict_cityOfRow kinds row cells
    rw [citiesOfRows, ih]
    generalize cityOfRow kinds row cells = verdict at hverdict
    cases hverdict with
    | city hcity hsilent => simp [hcity, hsilent]
    | skipped hnone hskip => simp [hnone, hskip]

theorem length_citiesOfRows (row : Nat) (rows : List (List (Option String))) :
    (citiesOfRows kinds row rows).1.length + (citiesOfRows kinds row rows).2.length =
      rows.length := by
  induction rows generalizing row with
  | nil => rfl
  | cons cells rest ih =>
    have hrest := ih (row + 1)
    rw [citiesOfRows]
    cases cityOfRow kinds row cells with
    | inl c =>
      simp only [List.length_cons]
      omega
    | inr notice =>
      simp only [List.length_cons]
      omega

/-- The cells of numbers are short. -/
def IsShort (cells : List (Option String)) : Prop :=
  ∀ column ∈ [2, 3, 9], ∀ s, cells[column]?.join = some s → Cell.IsShort s

/-- The kinds that a table gives its columns make no difference to a short row. -/
theorem city?_of_isShort {rows : List (List (Option String))} {cells : List (Option String)}
    (hmem : cells ∈ rows) (hshort : IsShort cells) :
    city? (Kinds.ofRows rows) cells = city? ⟨.floats, .floats, .floats⟩ cells := by
  have hread {column : Nat} {s : String} (hcolumn : column ∈ [2, 3, 9])
      (hs : cells[column]?.join = some s) :
      (NumberKind.ofCells (rows.map fun cells => cells[column]?.join)).read? s = Cell.read? s := by
    refine NumberKind.read?_of_isShort ?_ (hshort column hcolumn s hs)
    rw [← hs]
    exact List.mem_map_of_mem hmem
  have hcell {names : List String} (hnames : (cells.take columnCount).mapM id = some names)
      {column : Nat} {s : String} (hs : names[column]? = some s) : cells[column]?.join = some s := by
    have hsame : (cells.take columnCount)[column]? = some (some s) := by
      rw [← List.map_id (cells.take columnCount), map_of_mapM hnames, List.getElem?_map, hs]
      rfl
    rw [List.getElem?_take] at hsame
    split at hsame
    · rw [hsame]
      rfl
    · cases hsame
  rw [city?, city?, cityOfRow, cityOfRow]
  split
  · rename_i hcells
    have hlatitude := hread (by decide) (@hcell _ hcells 2 _ rfl)
    have hlongitude := hread (by decide) (@hcell _ hcells 3 _ rfl)
    have hpopulation := hread (by decide) (@hcell _ hcells 9 _ rfl)
    simp only [Kinds.ofRows, hlatitude, hlongitude, hpopulation]
    rfl
  · rfl

/-- What is reported of the rows of a table, the header being row one. -/
def skips (t : Table) : List Notice :=
  (t.rows.zipIdx 2).filterMap fun (cells, row) => skip? (Kinds.ofRows t.rows) row cells

theorem cities_skips_eq (t : Table) :
    citiesOfRows (Kinds.ofRows t.rows) 2 t.rows =
      (t.rows.filterMap (city? (Kinds.ofRows t.rows)), skips t) :=
  citiesOfRows_eq 2 t.rows

theorem cities_ofTable (t : Table) :
    (ofTable t).1 = ofCities (t.rows.filterMap (city? (Kinds.ofRows t.rows))) := by
  rw [ofTable, cities_skips_eq]

theorem notices_ofTable (t : Table) :
    (ofTable t).2 = skips t ++
      [.gazetteerLoaded (ofTable t).1.size (ofTable t).1.byName.size (skips t).length] := by
  rw [ofTable, cities_skips_eq]

/-- Each row is either a city that is fit to be loaded or one warning with the row's number, and the
    cities are in the order of the rows. A city is made of the cells of its row and of the kinds of
    the columns, and these make no difference unless a cell of numbers holds an integer of more than
    fifteen digits or a zero with a minus sign. -/
theorem ofTable_rows (t : Table) :
    (ofTable t).1 = ofCities (t.rows.filterMap (city? (Kinds.ofRows t.rows))) ∧
      (ofTable t).2 = skips t ++
        [.gazetteerLoaded (ofTable t).1.size (ofTable t).1.byName.size (skips t).length] ∧
      (ofTable t).1.size + (skips t).length = t.rows.length ∧
      (∀ i cells, t.rows[i]? = some cells →
        (∃ c, city? (Kinds.ofRows t.rows) cells = some c ∧
          skip? (Kinds.ofRows t.rows) (i + 2) cells = none ∧ c.IsLoaded) ∨
        (city? (Kinds.ofRows t.rows) cells = none ∧
          ∃ notice, skip? (Kinds.ofRows t.rows) (i + 2) cells = some notice ∧
            notice.row? = some (i + 2) ∧ notice.level = .warning)) ∧
      ∀ cells ∈ t.rows, IsShort cells →
        city? (Kinds.ofRows t.rows) cells = city? ⟨.floats, .floats, .floats⟩ cells := by
  refine ⟨cities_ofTable t, notices_ofTable t, ?_, ?_, fun cells hcells => city?_of_isShort hcells⟩
  · have hlength := @length_citiesOfRows (Kinds.ofRows t.rows) 2 t.rows
    rw [cities_skips_eq] at hlength
    rw [cities_ofTable]
    exact hlength
  · intro i cells _
    have hverdict := verdict_cityOfRow (Kinds.ofRows t.rows) (i + 2) cells
    generalize cityOfRow (Kinds.ofRows t.rows) (i + 2) cells = verdict at hverdict
    cases hverdict with
    | city hcity hsilent hloaded => exact .inl ⟨_, hcity, hsilent, hloaded⟩
    | skipped hnone hskip hrow hlevel => exact .inr ⟨hnone, _, hskip, hrow, hlevel⟩

/-- A row of a city with this population. -/
def rowWith (population : String) : List (Option String) :=
  ["Osaka", "Osaka", "34.7", "135.5", "Japan", "JP", "JPN", "Osaka", "admin", population,
    "2"].map some

/-- The row behind a long population decides what the population is. -/
theorem ofTable_long_population :
    (ofTable ⟨11, [rowWith "1000000000000000129"]⟩).1.cities.map City.population =
        [some 1000000000000000128] ∧
      (ofTable ⟨11, [rowWith "1000000000000000129", rowWith ""]⟩).1.cities.map City.population =
        [some 1000000000000000000, none] ∧
      (1000000000000000128 : Float) ≠ 1000000000000000000 := by
  decide +kernel

end Gazetteer

end NetAtlas
