import NetAtlas.Text.Blank
import NetAtlas.Text.Case
import NetAtlas.Text.Digit

/-!
Location texts: what people write into an inventory to say where a device stands, taken apart into
a city and perhaps a country.
-/

namespace NetAtlas

structure Location where
  city : String
  country : Option String
deriving DecidableEq, Repr

namespace Location

/-- Words for sites and racks, which are no part of a city's name. -/
def siteWords : List String :=
  ["center", "centre", "data", "dc", "fw", "gw", "node", "rack", "rt", "server", "sw"]

/-- A site word, perhaps with a number behind it. -/
def isSiteWord (word : List Char) : Bool :=
  siteWords.any fun site =>
    site.toList.isPrefixOf word && (word.drop site.length).all Text.isDecimalDigit

/-- The segment names no place: it is a number, or one of its words is a site word. -/
def isTechnical (segment : List Char) : Bool :=
  Text.allDigits segment
    || (Text.runs (fun c => Text.isBlank c || c = '_') (Text.lower segment)).any isSiteWord

/-- The segment can be a city: long enough, and not technical. -/
def isPlace (segment : List Char) : Bool := decide (3 ≤ segment.length) && !isTechnical segment

/-- Segments between commas: the city comes first, the country last. -/
def ofCommas (segments : List (List Char)) : Location :=
  let country := segments.getLastD []
  { city := String.ofList (segments.headD [])
    country := if country.isEmpty then none else some (String.ofList country) }

/-- Segments between hyphens: the first place among them, or else the first segment. -/
def ofHyphens (segments : List (List Char)) : Location :=
  { city := String.ofList ((segments.find? isPlace).getD (segments.headD [])), country := none }

/-- Takes a text apart at its commas or, if there are none, at its hyphens. -/
def ofText (text : String) : Location :=
  let cs := Text.trim text.toList
  if cs.contains ',' then ofCommas ((Text.splitOn ',' cs).map Text.trim)
  else if cs.contains '-' then ofHyphens ((Text.splitOn '-' cs).map Text.trim)
  else { city := String.ofList cs, country := none }

end Location

end NetAtlas
