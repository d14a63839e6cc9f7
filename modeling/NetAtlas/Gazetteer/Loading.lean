import NetAtlas.Gazetteer
import NetAtlas.Gazetteer.Column
import NetAtlas.Gazetteer.Table
import NetAtlas.Notice
import NetAtlas.Text.Utf8

/-!
Loading a gazetteer from a table of cities. Rows that cannot be used are reported and left out.
-/

namespace NetAtlas.Gazetteer

/-- The columns of a table of cities: two names, latitude, longitude, country and its two codes,
region, kind of capital, population and identifier. -/
def columnCount : Nat := 11

/-- The kinds of the three columns of numbers. -/
structure Kinds where
  latitude : NumberKind
  longitude : NumberKind
  population : NumberKind
deriving DecidableEq, Repr

/-- The kinds of the columns of these rows. Rows that are left out count as well. -/
def Kinds.ofRows (rows : List (List (Option String))) : Kinds :=
  let kindAt (column : Nat) := NumberKind.ofCells (rows.map fun cells => cells[column]?.join)
  { latitude := kindAt 2, longitude := kindAt 3, population := kindAt 9 }

/-- What one row gives: a city, or the reason why it is left out. The header is row one. -/
def cityOfRow (kinds : Kinds) (row : Nat) (cells : List (Option String)) : City ⊕ Notice :=
  match (cells.take columnCount).mapM id with
  | some [name, asciiName, latitude, longitude, country, iso2, iso3, region, capital, population,
      id] =>
    match kinds.latitude.read? latitude, kinds.longitude.read? longitude with
    | none, _ => .inr (.badLatitude name row latitude)
    | some _, none => .inr (.badLongitude name row longitude)
    | some x, some y =>
      .inl {
        name := trimmed name
        asciiName := trimmed asciiName
        coordinates := ⟨x, y⟩
        country := trimmed country
        iso2 := trimmed iso2
        iso3 := trimmed iso3
        region := trimmed region
        capital := trimmed capital
        population := kinds.population.read? population
        id := trimmed id }
  | _ => .inr (.incompleteRow row)

/-- The cities of the rows from row number `row` on, and a notice for each row left out. -/
def citiesOfRows (kinds : Kinds) (row : Nat) : List (List (Option String)) → List City × List Notice
  | [] => ([], [])
  | cells :: rest =>
    let (cities, notices) := citiesOfRows kinds (row + 1) rest
    match cityOfRow kinds row cells with
    | .inl c => (c :: cities, notices)
    | .inr notice => (cities, notice :: notices)

def ofTable (t : Table) : Gazetteer × List Notice :=
  let (cities, skipped) := citiesOfRows (Kinds.ofRows t.rows) 2 t.rows
  let g := ofCities cities
  (g, skipped ++ [.gazetteerLoaded g.size g.byName.size skipped.length])

/-- The gazetteer that the content of a file holds. -/
def ofBytes (bytes : List UInt8) : Except LoadReason (Gazetteer × List Notice) :=
  match Table.ofText? columnCount (Text.Utf8.decode bytes) with
  | none => .error .emptyTable
  | some t =>
    if t.columns < columnCount then .error (.tooFewColumns columnCount t.columns)
    else .ok (ofTable t)

/-- Loads the file at a path, given what reading it gave. -/
def load (path : String) (file : Except AccessError (List UInt8)) :
    Except LoadError Gazetteer × List Notice :=
  let start : Notice := .readingGazetteer path
  match file with
  | .error (.notFound _) | .error (.notADirectory _) => (.error ⟨path, .missing⟩, [start])
  | .error e => (.error ⟨path, .access e⟩, [start])
  | .ok bytes =>
    match ofBytes bytes with
    | .error reason => (.error ⟨path, reason⟩, [start])
    | .ok (g, notices) => (.ok g, start :: notices)

/-- Loads a gazetteer that may be missing: without it no location is known. -/
def loadOrEmpty (path : String) (file : Except AccessError (List UInt8)) :
    Gazetteer × List Notice :=
  match load path file with
  | (.ok g, notices) => (g, notices)
  | (.error e, notices) => (empty, notices ++ [.gazetteerUnavailable e])

end NetAtlas.Gazetteer
