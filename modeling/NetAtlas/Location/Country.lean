import NetAtlas.Gazetteer

/-!
Common names of countries, and the forms that a gazetteer has for them.
-/

namespace NetAtlas

/-- Names of one country beside its forms in a gazetteer: name, then codes. -/
def countryForms : List (List String × List String) :=
  [(["usa", "united states", "united states of america", "us", "america"],
    ["united states", "us", "usa"]),
   (["uk", "united kingdom", "britain", "great britain", "england", "scotland", "wales"],
    ["united kingdom", "gb", "gbr", "uk"]),
   (["germany", "deutschland", "de"], ["germany", "de", "deu"]),
   (["netherlands", "holland", "nl"], ["netherlands", "nl", "nld"]),
   (["south korea", "korea", "republic of korea"], ["korea, south", "kr", "kor"]),
   (["uae", "emirates"], ["united arab emirates", "ae", "are"]),
   (["russia", "russian federation"], ["russia", "ru", "rus"])]

/-- What to look for when a country is named: the name as it stands, then its other forms. -/
def countryKeys (country : String) : List String :=
  let literal := Gazetteer.keyForm country
  let forms := ((countryForms.find? fun (names, _) => names.contains literal).map (·.2)).getD []
  literal :: forms.filter (· ≠ literal)

end NetAtlas
