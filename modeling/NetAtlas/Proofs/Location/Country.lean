import NetAtlas.Proofs.Location.Resolve
import NetAtlas.Proofs.Location.Segments

/-!
Cities of a country. Two ways lead to the most prominent city of a name in a country: going through
all cities of the country, and one look into the index of names with countries. They agree as long
as neither the name nor the country has a comma, whatever the texts of other cities hold.
-/

namespace NetAtlas

/-- A name and a country without commas come apart at the one comma between them. -/
theorem Text.append_comma_inj_of_not_mem {xs ys name country : List Char} (hname : ',' ∉ name)
    (hcountry : ',' ∉ country) (h : xs ++ ',' :: ys = name ++ ',' :: country) :
    xs = name ∧ ys = country := by
  have hcount := congrArg (List.count ',') h
  rw [List.count_append, List.count_append, List.count_cons_self, List.count_cons_self,
    List.count_eq_zero.mpr hname, List.count_eq_zero.mpr hcountry] at hcount
  exact append_cons_inj_of_count (by rw [List.count_eq_zero.mpr hname]; omega) h

namespace City

/-- Whoever leads among the cities that satisfy two conditions leads for the first one among those
    that satisfy the second. -/
theorem Leads.filter {c : City} {bears : City → Prop} {p : City → Bool} {cities : List City}
    (h : c.Leads (fun b => bears b ∧ p b = true) cities) : c.Leads bears (cities.filter p) := by
  obtain ⟨before, after, rfl, ⟨hbears, hp⟩, hbefore, hall⟩ := h
  refine ⟨before.filter p, after.filter p, ?_, hbears, ?_, ?_⟩
  · rw [List.filter_append, List.filter_cons_of_pos hp]
  · intro b hb hbearsb
    obtain ⟨hmem, hpb⟩ := List.mem_filter.mp hb
    exact hbefore b hmem ⟨hbearsb, hpb⟩
  · intro b hb hbearsb
    obtain ⟨hmem, hpb⟩ := List.mem_filter.mp hb
    exact hall b hmem ⟨hbearsb, hpb⟩

/-- A key of a name and a country without commas is borne by the cities that bear both. -/
theorem bearsPlace_iff {c : City} {name country : String} (hname : ',' ∉ name.toList)
    (hcountry : ',' ∉ country.toList) :
    c.BearsPlace (placeKey name country) ↔ c.BearsName name ∧ c.BearsCountry country := by
  constructor
  · rintro ⟨ownName, ownCountry, hownName, hownCountry, hkey⟩
    have hkey' : ownName.toList ++ ',' :: ownCountry.toList =
        name.toList ++ ',' :: country.toList := by
      rw [← toList_placeKey, ← toList_placeKey, hkey, placeKey]
    obtain ⟨hsameName, hsameCountry⟩ :=
      Text.append_comma_inj_of_not_mem hname hcountry hkey'
    rw [← String.toList_inj.mp hsameName, ← String.toList_inj.mp hsameCountry]
    exact ⟨hownName, hownCountry⟩
  · rintro ⟨hbearsName, hbearsCountry⟩
    exact ⟨name, country, hbearsName, hbearsCountry, rfl⟩

end City

namespace Gazetteer

variable {cities : List City} {name country : String}

theorem keyForm_eq_lowered {s : String} (h : trimmed s = s) : keyForm s = lowered s := by
  rw [keyForm, h]

/-- The test that a city of a country passes. -/
theorem contains_keyForm_iff {c : City} (hcountry : keyForm country ≠ "") :
    [lowered c.country, lowered c.iso2, lowered c.iso3].contains (keyForm country) = true ↔
      c.BearsCountry (keyForm country) := by
  rw [List.contains_iff_mem, City.BearsCountry]
  simp only [List.mem_cons, List.not_mem_nil, or_false, ne_eq, hcountry, not_false_eq_true,
    true_and, @eq_comm _ (keyForm country)]

/-- The index holds the leader of the cities of a country, if one of them bears the name. -/
theorem exists_findIn?_leads (hcities : ∀ c ∈ cities, c.Counted)
    (hname : Location.IsSegment name) (hcountry : Location.IsSegment country)
    (hthere : ∃ b ∈ (ofCities cities).citiesOf country, b.BearsName (lowered name)) :
    ∃ c, (ofCities cities).findIn? name country = some c ∧
      c.Leads (·.BearsName (lowered name)) ((ofCities cities).citiesOf country) := by
  have hkey : keyForm country ≠ "" := by
    rw [keyForm_eq_lowered hcountry.trimmed_eq]
    exact fun hempty => hcountry.ne_empty (lowered_eq_empty_iff.mp hempty)
  have hplace (c : City) : placeKey (keyForm name) (keyForm country) ∈ c.placeKeys ↔
      c.BearsName (lowered name) ∧
        [lowered c.country, lowered c.iso2, lowered c.iso3].contains (keyForm country) = true := by
    rw [City.mem_placeKeys_iff, City.bearsPlace_iff (comma_not_mem_keyForm hname.comma_not_mem)
      (comma_not_mem_keyForm hcountry.comma_not_mem), contains_keyForm_iff hkey,
      keyForm_eq_lowered hname.trimmed_eq]
  have hpresents := presents_indexBy City.placeKeys hcities
    (placeKey (keyForm name) (keyForm country))
  simp only [hplace] at hpresents
  change City.Presents _ cities ((ofCities cities).findIn? name country) at hpresents
  cases hfound : (ofCities cities).findIn? name country with
  | none =>
    rw [hfound] at hpresents
    obtain ⟨b, hb, hbears⟩ := hthere
    obtain ⟨hmem, hcontains⟩ := List.mem_filter.mp hb
    exact absurd ⟨hbears, hcontains⟩ (hpresents b hmem)
  | some c =>
    rw [hfound, City.Presents] at hpresents
    exact ⟨c, rfl, hpresents.filter⟩

/-- A country in which the city is found is asked before its other forms. -/
theorem locate?_of_findIn? {g : Gazetteer} {c : City} (hname : name ≠ "")
    (h : g.findIn? name country = some c) : g.locate? ⟨name, some country⟩ = some c := by
  have hliteral : g.findIn? name (keyForm country) = some c := by
    rw [findIn?, keyForm_keyForm]
    exact h
  have hsearch : (countryKeys country).findSome? (g.findIn? name) = some c := by
    rw [countryKeys, List.findSome?_cons, hliteral]
  rw [locate?, if_neg hname]
  simp only [hsearch, Option.some_or]

/-- A text of a name, any segments and a country finds the city that leads for the name among all
    cities of the country, if one of them bears it; a look-up of the name in the country finds the
    same one. -/
theorem resolve?_joined (cities : List City) (hcities : ∀ c ∈ cities, c.Counted)
    (gap name country : String) (middle : List String)
    (hgap : ∀ c ∈ gap.toList, Text.isBlank c = true) (hname : Location.IsSegment name)
    (hcountry : Location.IsSegment country) (hmiddle : ∀ s ∈ middle, ',' ∉ s.toList)
    (hthere : ∃ b ∈ (ofCities cities).citiesOf country, b.BearsName (lowered name)) :
    ∃ c, c.Leads (·.BearsName (lowered name)) ((ofCities cities).citiesOf country) ∧
      (ofCities cities).resolve? (Location.joined gap (name :: (middle ++ [country]))) = some c ∧
      (ofCities cities).findIn? name country = some c := by
  obtain ⟨c, hfound, hleads⟩ := exists_findIn?_leads hcities hname hcountry hthere
  refine ⟨c, hleads, ?_, hfound⟩
  rw [resolve?, Location.ofText_joined hgap hname hcountry hmiddle]
  exact locate?_of_findIn? hname.ne_empty hfound

/-- Three cities of one name, two of them in one country, and one that has a comma in its name. -/
def springfields : List City :=
  [⟨"Springfield", "Springfield", ⟨39.77, -89.65⟩, "United States", "US", "USA", "Illinois",
     "admin", some 114394.0, "1"⟩,
   ⟨"Springfield", "Springfield", ⟨-38.34, 141.13⟩, "Australia", "AU", "AUS", "Victoria", "",
     none, "2"⟩,
   ⟨"Springfield, US", "Springfield", ⟨42.12, -72.54⟩, "Nowhere", "", "", "", "primary",
     some 155929.0, "3"⟩,
   ⟨"Springfield", "Springfield", ⟨37.19, -93.29⟩, "United States", "US", "USA", "Missouri", "",
     some 169176.0, "4"⟩]

theorem resolve?_joined_springfields :
    (∀ c ∈ springfields, c.Counted) ∧
      (∃ b ∈ (ofCities springfields).citiesOf "us", b.BearsName (lowered "SPRINGFIELD")) ∧
      ∃ c, c.Leads (·.BearsName (lowered "SPRINGFIELD")) ((ofCities springfields).citiesOf "us") ∧
        (ofCities springfields).resolve? "SPRINGFIELD, Rack-7, us" = some c ∧
        (ofCities springfields).findIn? "SPRINGFIELD" "us" = some c := by
  have hcities : ∀ c ∈ springfields, c.Counted := by
    simp [springfields, City.Counted]
    decide +kernel
  have hthere : ∃ b ∈ (ofCities springfields).citiesOf "us",
      b.BearsName (lowered "SPRINGFIELD") := by
    refine ⟨springfields[0], List.mem_filter.mpr ⟨by simp [springfields, ofCities], ?_⟩, ?_⟩
    · decide +kernel
    · exact ⟨by decide +kernel, .inl (by decide +kernel)⟩
  have hgap : ∀ c ∈ " ".toList, Text.isBlank c = true := by
    simp
    decide
  have hname : Location.IsSegment "SPRINGFIELD" := by
    constructor <;> decide +kernel
  have hcountry : Location.IsSegment "us" := by
    constructor <;> decide +kernel
  exact ⟨hcities, hthere, resolve?_joined springfields hcities " " "SPRINGFIELD" "us" ["Rack-7"]
    hgap hname hcountry (by simp) hthere⟩

end Gazetteer

end NetAtlas
