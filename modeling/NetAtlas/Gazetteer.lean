import NetAtlas.Gazetteer.City
import Std.Data.TreeMap

/-!
A gazetteer: the cities of a table, with an index by name and one by name and country. Under a key
stands the most prominent of the cities that bear it, the first of them when there is a tie.
-/

namespace NetAtlas

abbrev CityIndex := Std.TreeMap String City

/-- Gives the city its place under a key, unless a city that it does not outrank is there. -/
def CityIndex.rank (index : CityIndex) (key : String) (c : City) : CityIndex :=
  match index[key]? with
  | none => index.insert key c
  | some existing => if c.outranks existing then index.insert key c else index

/-- The key of a name together with a country. -/
def placeKey (name country : String) : String := name ++ "," ++ country

def City.placeKeys (c : City) : List String :=
  c.names.flatMap fun name => c.countries.map (placeKey name)

structure Gazetteer where
  cities : List City
  byName : CityIndex
  byPlace : CityIndex

namespace Gazetteer

def empty : Gazetteer := ⟨[], ∅, ∅⟩

/-- The index of cities under the keys that each of them has. -/
def indexBy (keys : City → List String) (cities : List City) : CityIndex :=
  cities.foldl (fun index c => (keys c).foldl (fun index key => index.rank key c) index) ∅

def ofCities (cities : List City) : Gazetteer :=
  { cities, byName := indexBy City.names cities, byPlace := indexBy City.placeKeys cities }

def size (g : Gazetteer) : Nat := g.cities.length

def isEmpty (g : Gazetteer) : Bool := g.cities.isEmpty

/-- A text as it stands in a key. -/
def keyForm (s : String) : String := lowered (trimmed s)

/-- The most prominent city of a name. -/
def find? (g : Gazetteer) (name : String) : Option City := g.byName[keyForm name]?

/-- The most prominent city of a name in a country. -/
def findIn? (g : Gazetteer) (name country : String) : Option City :=
  g.byPlace[placeKey (keyForm name) (keyForm country)]?

/-- All cities of a country, which may be called by its name or by one of its codes. -/
def citiesOf (g : Gazetteer) (country : String) : List City :=
  g.cities.filter fun c =>
    [lowered c.country, lowered c.iso2, lowered c.iso3].contains (keyForm country)

/-- The names in the index, in increasing order. -/
def names (g : Gazetteer) : List String := g.byName.keys

end Gazetteer

end NetAtlas
