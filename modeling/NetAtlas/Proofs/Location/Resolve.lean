import NetAtlas.Location.Resolve
import NetAtlas.Proofs.Gazetteer.Index
import NetAtlas.Proofs.Location.Parts

/-!
What a location text finds. The name alone decides whether there is a city for it; a country next
to the name decides between the cities that bear it, as long as one of them lies there.
-/

namespace NetAtlas

namespace City

/-- The texts of the record have no blanks at their ends. -/
structure IsTrimmed (c : City) : Prop where
  name : trimmed c.name = c.name
  asciiName : trimmed c.asciiName = c.asciiName
  country : trimmed c.country = c.country
  iso2 : trimmed c.iso2 = c.iso2
  iso3 : trimmed c.iso3 = c.iso3
  region : trimmed c.region = c.region
  capital : trimmed c.capital = c.capital
  id : trimmed c.id = c.id

theorem BearsCountry.trimmed_eq {c : City} {country : String} (h : c.BearsCountry country)
    (hc : c.IsTrimmed) : trimmed country = country := by
  obtain ⟨_, rfl | rfl | rfl⟩ := h
  · exact trimmed_lowered hc.country
  · exact trimmed_lowered hc.iso2
  · exact trimmed_lowered hc.iso3

end City

theorem head?_any_isBlank_of_trimmed {s : String} (h : trimmed s = s) :
    s.toList.head?.any Text.isBlank = false := by
  cases hhead : s.toList.head? with
  | none => rfl
  | some c => exact (trimmed_toList h).1 c hhead

theorem toList_placeKey (name country : String) :
    (placeKey name country).toList = name.toList ++ ',' :: country.toList := by
  simp [placeKey]

namespace Gazetteer

variable {cities : List City}

/-- A key made of a name without commas and of a country tried for it is borne by the cities that
    bear both, even if there are commas in other names and countries. -/
theorem mem_placeKeys_iff_of_spaced {c : City} (hc : c.IsTrimmed) {name country : String}
    (hname : ',' ∉ name.toList) (hcountry : Text.commasSpaced country.toList = true) :
    placeKey name country ∈ c.placeKeys ↔ c.BearsName name ∧ c.BearsCountry country := by
  rw [City.mem_placeKeys_iff]
  constructor
  · rintro ⟨ownName, ownCountry, hownName, hownCountry, hkey⟩
    have hkey' : ownName.toList ++ ',' :: ownCountry.toList
        = name.toList ++ ',' :: country.toList := by
      rw [← toList_placeKey, ← toList_placeKey, hkey, placeKey]
    have hblank := head?_any_isBlank_of_trimmed (hownCountry.trimmed_eq hc)
    obtain ⟨hsameName, hsameCountry⟩ := Text.append_comma_inj hname hcountry hblank hkey'
    rw [← String.toList_inj.mp hsameName, ← String.toList_inj.mp hsameCountry]
    exact ⟨hownName, hownCountry⟩
  · rintro ⟨hbearsName, hbearsCountry⟩
    exact ⟨name, country, hbearsName, hbearsCountry, rfl⟩

theorem find?_ofText (g : Gazetteer) (text : String) :
    g.find? (Location.ofText text).city = g.byName[lowered (Location.ofText text).city]? := by
  rw [find?, keyForm, Location.trimmed_city_ofText]

theorem bears_of_find?_ofText {text : String} {c : City}
    (h : (ofCities cities).find? (Location.ofText text).city = some c) :
    c ∈ cities ∧ c.BearsName (lowered (Location.ofText text).city) := by
  rw [find?_ofText] at h
  obtain ⟨hc, hname⟩ := mem_of_getElem?_indexBy h
  exact ⟨hc, City.mem_names_iff.mp hname⟩

/-- What is found in a country bears the name and the key that the country was tried under. -/
theorem bears_of_findIn?_ofText (hcities : ∀ c ∈ cities, c.IsTrimmed) {text country key : String}
    (hcountry : (Location.ofText text).country = some country) (hkey : key ∈ countryKeys country)
    {c : City} (h : (ofCities cities).findIn? (Location.ofText text).city key = some c) :
    c ∈ cities ∧ c.BearsName (lowered (Location.ofText text).city) ∧ c.BearsCountry key := by
  obtain ⟨hcityComma, hcountryComma⟩ := Location.comma_not_mem_of_country hcountry
  obtain ⟨hform, hspaced⟩ := keyForm_of_mem_countryKeys hcountryComma hkey
  rw [findIn?, keyForm, Location.trimmed_city_ofText, hform] at h
  obtain ⟨hc, hplace⟩ := mem_of_getElem?_indexBy h
  rw [mem_placeKeys_iff_of_spaced (hcities c hc) (comma_not_mem_lowered hcityComma) hspaced] at hplace
  exact ⟨hc, hplace⟩

/-- If a city bears the name and a key of the country, the search in the country ends with a city
    that bears such a key. -/
theorem findSome?_findIn?_ofText (hcities : ∀ c ∈ cities, c.IsTrimmed) {text country key : String}
    (hcountry : (Location.ofText text).country = some country) (hkey : key ∈ countryKeys country)
    {b : City} (hb : b ∈ cities) (hname : b.BearsName (lowered (Location.ofText text).city))
    (hbears : b.BearsCountry key) :
    ∃ c, (countryKeys country).findSome?
        ((ofCities cities).findIn? (Location.ofText text).city) = some c ∧
      ∃ key ∈ countryKeys country, c.BearsCountry key := by
  obtain ⟨hcityComma, hcountryComma⟩ := Location.comma_not_mem_of_country hcountry
  obtain ⟨hform, hspaced⟩ := keyForm_of_mem_countryKeys hcountryComma hkey
  have hplace : placeKey (lowered (Location.ofText text).city) key ∈ (ofCities cities).byPlace := by
    refine mem_indexBy_iff.mpr ⟨b, hb, City.mem_placeKeys_iff.mpr ?_⟩
    exact ⟨_, _, hname, hbears, rfl⟩
  have hfound : ((ofCities cities).findIn? (Location.ofText text).city key).isSome = true := by
    rw [findIn?, keyForm, Location.trimmed_city_ofText, hform]
    exact Std.TreeMap.mem_iff_isSome_getElem?.mp hplace
  -- A key tried before this one may find another city, which then bears that key.
  obtain ⟨c, hc⟩ := Option.isSome_iff_exists.mp (List.findSome?_isSome_iff.mpr ⟨key, hkey, hfound⟩)
  obtain ⟨other, hother, hcother⟩ := List.exists_of_findSome?_eq_some hc
  exact ⟨c, hc, other, hother, (bears_of_findIn?_ofText hcities hcountry hother hcother).2.2⟩

/-- A search ends with a city that bears the name, whether a country is named or not. -/
theorem bears_of_resolve? (hcities : ∀ c ∈ cities, c.IsTrimmed) {text : String} {c : City}
    (h : (ofCities cities).resolve? text = some c) :
    c ∈ cities ∧ c.BearsName (lowered (Location.ofText text).city) := by
  rw [resolve?, locate?] at h
  split at h
  · exact absurd h (by simp)
  · cases hcountry : (Location.ofText text).country with
    | none =>
      rw [hcountry] at h
      exact bears_of_find?_ofText h
    | some country =>
      rw [hcountry] at h
      rcases Option.or_eq_some_iff.mp h with h | ⟨_, h⟩
      · obtain ⟨key, hkey, hfound⟩ := List.exists_of_findSome?_eq_some h
        obtain ⟨hc, hname, _⟩ := bears_of_findIn?_ofText hcities hcountry hkey hfound
        exact ⟨hc, hname⟩
      · exact bears_of_find?_ofText h

theorem isSome_resolve?_of_mem {text : String} (hcity : (Location.ofText text).city ≠ "")
    (hname : lowered (Location.ofText text).city ∈ (ofCities cities).byName) :
    ((ofCities cities).resolve? text).isSome = true := by
  have hfound : ((ofCities cities).find? (Location.ofText text).city).isSome = true := by
    rw [find?_ofText]
    exact Std.TreeMap.mem_iff_isSome_getElem?.mp hname
  rw [resolve?, locate?, if_neg hcity]
  cases (Location.ofText text).country with
  | none => exact hfound
  | some country => simp [hfound]

/-- A text finds a city if and only if the name in it is known, and the city it finds bears that
    name. If it names a country in which there is a city of the name, it finds one there. -/
theorem resolve?_ofCities (hcities : ∀ c ∈ cities, c.IsTrimmed) (text : String) :
    let g := ofCities cities
    let city := (Location.ofText text).city
    ((g.resolve? text).isSome ↔ city ≠ "" ∧ lowered city ∈ g.byName) ∧
    (∀ c, g.resolve? text = some c → c ∈ cities ∧ c.BearsName (lowered city)) ∧
    ∀ country, (Location.ofText text).country = some country →
      (∃ b ∈ cities, b.BearsName (lowered city) ∧ ∃ key ∈ countryKeys country, b.BearsCountry key) →
      ∃ c, g.resolve? text = some c ∧ ∃ key ∈ countryKeys country, c.BearsCountry key := by
  intro g city
  refine ⟨⟨?_, ?_⟩, ?_, ?_⟩
  · intro hfound
    obtain ⟨c, hc⟩ := Option.isSome_iff_exists.mp hfound
    obtain ⟨hmem, hname⟩ := bears_of_resolve? hcities hc
    refine ⟨?_, mem_indexBy_iff.mpr ⟨c, hmem, City.mem_names_iff.mpr hname⟩⟩
    exact fun hempty => hname.1 (lowered_eq_empty_iff.mpr hempty)
  · rintro ⟨hcity, hname⟩
    exact isSome_resolve?_of_mem hcity hname
  · intro c hc
    exact bears_of_resolve? hcities hc
  · rintro country hcountry ⟨b, hb, hname, key, hkey, hbears⟩
    obtain ⟨c, hc, hthere⟩ := findSome?_findIn?_ofText hcities hcountry hkey hb hname hbears
    refine ⟨c, ?_, hthere⟩
    have hcity : city ≠ "" := fun hempty => hname.1 (lowered_eq_empty_iff.mpr hempty)
    rw [show g.resolve? text = g.locate? (Location.ofText text) from rfl, locate?, if_neg hcity,
      hcountry]
    simp only [g, hc, Option.some_or]

/-- Two cities of one name, of which the first is the capital. -/
def londons : List City :=
  [⟨"London", "London", ⟨51.51, -0.12⟩, "United Kingdom", "GB", "GBR", "London", "primary",
     some 11120000.0, "1"⟩,
   ⟨"London", "London", ⟨42.98, -81.25⟩, "Canada", "CA", "CAN", "Ontario", "", some 383822.0, "2"⟩]

theorem resolve?_ofCities_londons :
    (∀ c ∈ londons, c.IsTrimmed) ∧
      ∃ c, (ofCities londons).resolve? "London, ON, Canada" = some c ∧
        ∃ key ∈ countryKeys "Canada", c.BearsCountry key := by
  have hcities : ∀ c ∈ londons, c.IsTrimmed := by
    intro c hc
    simp only [londons, List.mem_cons, List.not_mem_nil, or_false] at hc
    rcases hc with rfl | rfl <;>
      constructor <;> decide +kernel
  have hparts : Location.ofText "London, ON, Canada" = ⟨"London", some "Canada"⟩ := by
    decide +kernel
  have hthere := (resolve?_ofCities hcities "London, ON, Canada").2.2 "Canada"
  rw [hparts] at hthere
  refine ⟨hcities, hthere rfl ⟨_, List.mem_cons_of_mem _ List.mem_cons_self, ?_, "canada", ?_, ?_⟩⟩
  · exact ⟨by decide +kernel, .inl rfl⟩
  · decide +kernel
  · exact ⟨by decide, .inl (by decide +kernel)⟩

end Gazetteer

end NetAtlas
