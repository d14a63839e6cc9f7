import NetAtlas.Coordinates
import NetAtlas.Text.Case

/-!
Cities, and which of two cities of one name is the more prominent.
-/

namespace NetAtlas

structure City where
  name : String
  asciiName : String
  coordinates : Coordinates
  country : String
  iso2 : String
  iso3 : String
  region : String
  /-- Of what the city is a capital: `primary` of a country, `admin` of a region. -/
  capital : String
  population : Option Float
  id : String
deriving DecidableEq, Inhabited

namespace City

def isNationalCapital (c : City) : Bool := lowered c.capital = "primary"

def isRegionalCapital (c : City) : Bool := lowered c.capital = "admin"

/-- The names under which the city is found. -/
def names (c : City) : List String :=
  ([lowered c.name, lowered c.asciiName].filter (· ≠ "")).eraseDups

/-- What its country may be called. -/
def countries (c : City) : List String :=
  ([lowered c.country, lowered c.iso2, lowered c.iso3].filter (· ≠ "")).eraseDups

/-- The population of one city is known and that of the other is not, or both are known and are
different numbers. -/
def populationsDiffer : Option Float → Option Float → Bool
  | none, none => false
  | some a, some b => !(a == b)
  | _, _ => true

/-- A known population is larger than an unknown one. -/
def populationAbove : Option Float → Option Float → Bool
  | _, none => true
  | none, some _ => false
  | some a, some b => b < a

/-- Capitals of countries come first, then cities of larger population, then capitals of regions.
Of two cities that agree in all this neither outranks the other. -/
def outranks (c existing : City) : Bool :=
  if c.isNationalCapital ≠ existing.isNationalCapital then c.isNationalCapital
  else if populationsDiffer c.population existing.population then
    populationAbove c.population existing.population
  else if c.isRegionalCapital ≠ existing.isRegionalCapital then c.isRegionalCapital
  else false

end City

end NetAtlas
