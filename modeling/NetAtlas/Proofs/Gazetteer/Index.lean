import NetAtlas.Gazetteer
import NetAtlas.Proofs.Gazetteer.Standing

/-!
What stands in the indexes of a gazetteer: under each key the first of the most prominent cities
that bear it. Keys are ranked city by city, so what matters is that a leader of the cities seen so
far needs comparing with the next one only.
-/

namespace NetAtlas

namespace City

/-- The city can be called so: one of its names in lower case, not an empty one. -/
def BearsName (c : City) (name : String) : Prop :=
  name ≠ "" ∧ (lowered c.name = name ∨ lowered c.asciiName = name)

/-- The country of the city can be called so, by its name or by one of its codes. -/
def BearsCountry (c : City) (country : String) : Prop :=
  country ≠ "" ∧ (lowered c.country = country ∨ lowered c.iso2 = country ∨ lowered c.iso3 = country)

/-- The key is made of a name of the city and one of its country. -/
def BearsPlace (c : City) (key : String) : Prop :=
  ∃ name country, c.BearsName name ∧ c.BearsCountry country ∧ key = name ++ "," ++ country

theorem mem_names_iff {c : City} {name : String} : name ∈ c.names ↔ c.BearsName name := by
  simp only [names, BearsName, List.mem_eraseDups, List.mem_filter, List.mem_cons,
    List.not_mem_nil, or_false, decide_eq_true_eq]
  rw [and_comm, eq_comm, @eq_comm _ name (lowered c.asciiName)]

theorem mem_countries_iff {c : City} {country : String} :
    country ∈ c.countries ↔ c.BearsCountry country := by
  simp only [countries, BearsCountry, List.mem_eraseDups, List.mem_filter, List.mem_cons,
    List.not_mem_nil, or_false, decide_eq_true_eq]
  rw [and_comm, eq_comm, @eq_comm _ country (lowered c.iso2), @eq_comm _ country (lowered c.iso3)]

theorem mem_placeKeys_iff {c : City} {key : String} : key ∈ c.placeKeys ↔ c.BearsPlace key := by
  simp only [placeKeys, List.mem_flatMap, List.mem_map, mem_names_iff, mem_countries_iff, placeKey]
  constructor
  · rintro ⟨name, hname, country, hcountry, rfl⟩
    exact ⟨name, country, hname, hcountry, rfl⟩
  · rintro ⟨name, country, hname, hcountry, rfl⟩
    exact ⟨name, hname, country, hcountry, rfl⟩

/-- The city is the first of the most prominent among those that satisfy a condition: it outranks
    all of them that come before it, and none of them outranks it. -/
def Leads (c : City) (bears : City → Prop) (cities : List City) : Prop :=
  ∃ before after, cities = before ++ c :: after ∧ bears c ∧
    (∀ b ∈ before, bears b → c.outranks b = true) ∧ ∀ b ∈ cities, bears b → b.outranks c = false

theorem Leads.mem {c : City} {bears : City → Prop} {cities : List City} (h : c.Leads bears cities) :
    c ∈ cities := by
  obtain ⟨before, after, rfl, _⟩ := h
  simp

/-- No city outranks itself, even if its population is no number. -/
theorem outranks_self (c : City) : c.outranks c = false := by
  cases hpopulation : c.population with
  | none => simp [outranks, hpopulation, populationsDiffer]
  | some p => simp [outranks, hpopulation, populationAbove, FloatOrder.lt_irrefl]

/-- A city that does not outrank the leader leaves it in the lead. -/
theorem Leads.append_of_not_outranks {c d : City} {bears : City → Prop} {cities : List City}
    (h : c.Leads bears cities) (hd : bears d → d.outranks c = false) :
    c.Leads bears (cities ++ [d]) := by
  obtain ⟨before, after, hsplit, hbears, hbefore, hall⟩ := h
  refine ⟨before, after ++ [d], by simp [hsplit], hbears, hbefore, ?_⟩
  exact List.forall_mem_append.mpr ⟨hall, List.forall_mem_singleton.mpr hd⟩

/-- A city that outranks the leader takes the lead: it outranks all the others as well. -/
theorem Leads.append_of_outranks {c d : City} {bears : City → Prop} {cities : List City}
    (h : c.Leads bears cities) (hcities : ∀ b ∈ cities, b.Counted) (hd : d.Counted)
    (hbears : bears d) (houtranks : d.outranks c = true) : d.Leads bears (cities ++ [d]) := by
  have hc := hcities c h.mem
  obtain ⟨_, _, _, _, _, hall⟩ := h
  have hlower : c.standing < d.standing := (outranks_iff hd hc).mp houtranks
  have hbelow : ∀ b ∈ cities, bears b → b.standing < d.standing := by
    intro b hb hbearsb
    have hle := (not_outranks_iff (hcities b hb) hc).mp (hall b hb hbearsb)
    exact hle.trans_lt hlower
  refine ⟨cities, [], rfl, hbears, ?_, ?_⟩
  · intro b hb hbearsb
    exact (outranks_iff hd (hcities b hb)).mpr (hbelow b hb hbearsb)
  · rw [List.forall_mem_append, List.forall_mem_singleton]
    refine ⟨?_, fun _ => outranks_self d⟩
    intro b hb hbearsb
    exact (not_outranks_iff (hcities b hb) hd).mpr (hbelow b hb hbearsb).le

/-- What a place for the leader holds: nobody if no city satisfies the condition. -/
def Presents (bears : City → Prop) (cities : List City) : Option City → Prop
  | none => ∀ b ∈ cities, ¬ bears b
  | some c => c.Leads bears cities

/-- The holder of a key after a city has claimed it. -/
def prefer (held : Option City) (c : City) : Option City :=
  match held with
  | none => some c
  | some e => if c.outranks e then some c else some e

theorem prefer_prefer_self (held : Option City) (c : City) :
    prefer (prefer held c) c = prefer held c := by
  cases held with
  | none => simp [prefer, outranks_self]
  | some e => cases h : c.outranks e <;> simp [prefer, h, outranks_self]

theorem eq_or_eq_of_prefer {held : Option City} {c d : City} (h : prefer held c = some d) :
    d = c ∨ held = some d := by
  cases held with
  | none => exact .inl (Option.some.inj h).symm
  | some e =>
    rw [prefer] at h
    split at h
    · exact .inl (Option.some.inj h).symm
    · exact .inr h

theorem isSome_prefer (held : Option City) (c : City) : (prefer held c).isSome = true := by
  cases held with
  | none => rfl
  | some e => cases h : c.outranks e <;> simp [prefer, h]

theorem Presents.append {bears : City → Prop} {cities : List City} {held : Option City} {c : City}
    [Decidable (bears c)] (h : Presents bears cities held) (hcities : ∀ b ∈ cities, b.Counted)
    (hc : c.Counted) :
    Presents bears (cities ++ [c]) (if bears c then prefer held c else held) := by
  by_cases hbears : bears c
  · rw [if_pos hbears]
    cases held with
    | none =>
      refine ⟨cities, [], rfl, hbears, fun b hb hbearsb => absurd hbearsb (h b hb), ?_⟩
      rw [List.forall_mem_append, List.forall_mem_singleton]
      refine ⟨?_, fun _ => outranks_self c⟩
      intro b hb hbearsb
      exact absurd hbearsb (h b hb)
    | some e =>
      cases houtranks : c.outranks e with
      | true =>
        simp only [prefer, houtranks, if_true]
        exact h.append_of_outranks hcities hc hbears houtranks
      | false =>
        simp only [prefer, houtranks, Bool.false_eq_true, if_false]
        exact h.append_of_not_outranks fun _ => houtranks
  · rw [if_neg hbears]
    cases held with
    | none => exact List.forall_mem_append.mpr ⟨h, List.forall_mem_singleton.mpr hbears⟩
    | some e => exact h.append_of_not_outranks fun hbearsc => absurd hbearsc hbears

end City

namespace CityIndex

theorem getElem?_rank (index : CityIndex) (key k : String) (c : City) :
    (index.rank key c)[k]? = if k = key then City.prefer index[k]? c else index[k]? := by
  by_cases hkey : k = key
  · subst hkey
    rw [if_pos rfl, rank]
    cases hheld : index[k]? with
    | none => simp [City.prefer]
    | some e => cases houtranks : c.outranks e <;> simp [City.prefer, houtranks, hheld]
  · have hother (d : City) : (index.insert key d)[k]? = index[k]? := by
      rw [Std.TreeMap.getElem?_insert, if_neg]
      simpa [compare_eq_iff_eq] using Ne.symm hkey
    rw [if_neg hkey, rank]
    split
    · exact hother c
    · split
      · exact hother c
      · rfl

/-- A city that claims several keys stands against the holder of each once, even if it names one of
    them twice. -/
theorem getElem?_foldl_rank (keys : List String) (index : CityIndex) (k : String) (c : City) :
    (keys.foldl (fun index key => index.rank key c) index)[k]? =
      if k ∈ keys then City.prefer index[k]? c else index[k]? := by
  induction keys generalizing index with
  | nil => simp
  | cons key keys ih =>
    rw [List.foldl_cons, ih, getElem?_rank]
    by_cases hkey : k = key
    · simp [hkey, City.prefer_prefer_self]
    · simp [hkey]

end CityIndex

namespace Gazetteer

/-- Each key is settled by itself: the cities that claim it stand against its holder in turn. -/
theorem getElem?_indexBy (keys : City → List String) (cities : List City) (k : String) :
    (indexBy keys cities)[k]? =
      cities.foldl (fun held c => if k ∈ keys c then City.prefer held c else held) none := by
  -- The index that the fold starts from has to vary for the induction.
  have hfold : ∀ (index : CityIndex),
      (cities.foldl (fun index c => (keys c).foldl (fun index key => index.rank key c) index)
        index)[k]? =
        cities.foldl (fun held c => if k ∈ keys c then City.prefer held c else held) index[k]? := by
    induction cities with
    | nil => intro index; rfl
    | cons c cities ih =>
      intro index
      rw [List.foldl_cons, ih, CityIndex.getElem?_foldl_rank, List.foldl_cons]
  rw [indexBy, hfold]
  simp

/-- Two ways to list the keys of each city lead to the same holders. -/
theorem getElem?_indexBy_congr {keys keys' : City → List String}
    (hkeys : ∀ c k, k ∈ keys c ↔ k ∈ keys' c) (cities : List City) (k : String) :
    (indexBy keys cities)[k]? = (indexBy keys' cities)[k]? := by
  simp only [getElem?_indexBy, hkeys]

theorem presents_indexBy (keys : City → List String) {cities : List City}
    (hcities : ∀ c ∈ cities, c.Counted) (k : String) :
    City.Presents (k ∈ keys ·) cities (indexBy keys cities)[k]? := by
  rw [getElem?_indexBy]
  induction cities using List.reverseRecOn with
  | nil => simp [City.Presents]
  | append_singleton cities c ih =>
    rw [List.foldl_append]
    exact (ih fun b hb => hcities b (by simp [hb])).append (fun b hb => hcities b (by simp [hb]))
      (hcities c (by simp))

/-- Whoever stands under a key is a city that claims it. -/
theorem mem_of_getElem?_indexBy {keys : City → List String} {cities : List City} {k : String}
    {c : City} (h : (indexBy keys cities)[k]? = some c) : c ∈ cities ∧ k ∈ keys c := by
  rw [getElem?_indexBy] at h
  induction cities using List.reverseRecOn generalizing c with
  | nil => exact absurd h (by simp)
  | append_singleton cities d ih =>
    rw [List.foldl_append, List.foldl_cons, List.foldl_nil] at h
    have hbefore {e : City} (he : cities.foldl
        (fun held c => if k ∈ keys c then City.prefer held c else held) none = some e) :
        e ∈ cities ++ [d] ∧ k ∈ keys e := ⟨List.mem_append_left _ (ih he).1, (ih he).2⟩
    by_cases hclaims : k ∈ keys d
    · rw [if_pos hclaims] at h
      rcases City.eq_or_eq_of_prefer h with rfl | hheld
      · exact ⟨by simp, hclaims⟩
      · exact hbefore hheld
    · rw [if_neg hclaims] at h
      exact hbefore h

/-- A key is in the index if and only if some city claims it. -/
theorem mem_indexBy_iff {keys : City → List String} {cities : List City} {k : String} :
    k ∈ indexBy keys cities ↔ ∃ c ∈ cities, k ∈ keys c := by
  rw [Std.TreeMap.mem_iff_isSome_getElem?]
  constructor
  · intro h
    obtain ⟨c, hc⟩ := Option.isSome_iff_exists.mp h
    exact ⟨c, mem_of_getElem?_indexBy hc⟩
  · rintro ⟨c, hc, hclaims⟩
    rw [getElem?_indexBy]
    induction cities using List.reverseRecOn with
    | nil => exact absurd hc List.not_mem_nil
    | append_singleton cities d ih =>
      rw [List.foldl_append, List.foldl_cons, List.foldl_nil]
      rcases List.mem_append.mp hc with hc | hc
      · split
        · exact City.isSome_prefer _ _
        · exact ih hc
      · obtain rfl := List.mem_singleton.mp hc
        rw [if_pos hclaims]
        exact City.isSome_prefer _ _

/-- The keys of the indexes are those that some city bears, and under each of them stands the first
    of its most prominent bearers. The order in which the names of a city and those of its country
    are gone through does not matter. -/
theorem ofCities_holds_leaders (cities : List City) (hcities : ∀ c ∈ cities, c.Counted)
    (names countries : City → List String) (hnames : ∀ c, (names c).Perm c.names)
    (hcountries : ∀ c, (countries c).Perm c.countries) (key : String) :
    let g := ofCities cities
    let places (c : City) := (names c).flatMap fun name => (countries c).map (placeKey name)
    (key ∈ g.byName ↔ ∃ c ∈ cities, c.BearsName key) ∧
    (key ∈ g.byPlace ↔ ∃ c ∈ cities, c.BearsPlace key) ∧
    (∀ c, g.byName[key]? = some c → c.Leads (·.BearsName key) cities) ∧
    (∀ c, g.byPlace[key]? = some c → c.Leads (·.BearsPlace key) cities) ∧
    (indexBy names cities)[key]? = g.byName[key]? ∧
    (indexBy places cities)[key]? = g.byPlace[key]? := by
  intro g places
  have hname : City.Presents (·.BearsName key) cities g.byName[key]? := by
    have h := presents_indexBy City.names hcities key
    simp only [City.mem_names_iff] at h
    exact h
  have hplace : City.Presents (·.BearsPlace key) cities g.byPlace[key]? := by
    have h := presents_indexBy City.placeKeys hcities key
    simp only [City.mem_placeKeys_iff] at h
    exact h
  have hplaces (c : City) (k : String) : k ∈ places c ↔ k ∈ c.placeKeys := by
    simp only [places, City.placeKeys, List.mem_flatMap, List.mem_map, (hnames c).mem_iff,
      (hcountries c).mem_iff]
  refine ⟨?_, ?_, ?_, ?_, ?_, ?_⟩
  · simp only [g, ofCities, mem_indexBy_iff, City.mem_names_iff]
  · simp only [g, ofCities, mem_indexBy_iff, City.mem_placeKeys_iff]
  · intro c hc
    rwa [hc] at hname
  · intro c hc
    rwa [hc] at hplace
  · exact getElem?_indexBy_congr (fun c k => (hnames c).mem_iff) cities key
  · exact getElem?_indexBy_congr hplaces cities key

/-- Two cities of one name, of which the second is the capital. -/
def parises : List City :=
  [⟨"Paris", "Paris", ⟨33.66, -95.55⟩, "United States", "US", "USA", "Texas", "", some 24171.0, "1"⟩,
   ⟨"Paris", "Paris", ⟨48.85, 2.35⟩, "France", "FR", "FRA", "", "primary", some 11020000.0, "2"⟩]

theorem ofCities_holds_leaders_parises :
    (∀ c ∈ parises, c.Counted) ∧ "paris,fr" ∈ (ofCities parises).byPlace ∧
      ∀ c, (ofCities parises).byName["paris"]? = some c → c.Leads (·.BearsName "paris") parises := by
  have hcities : ∀ c ∈ parises, c.Counted := by
    simp [parises, City.Counted]
    decide +kernel
  have hplace := ofCities_holds_leaders parises hcities City.names City.countries
    (fun c => .refl _) (fun c => .refl _) "paris,fr"
  have hname := ofCities_holds_leaders parises hcities City.names City.countries
    (fun c => .refl _) (fun c => .refl _) "paris"
  refine ⟨hcities, hplace.2.1.mpr ?_, hname.2.2.1⟩
  refine ⟨_, List.mem_cons_of_mem _ List.mem_cons_self, "paris", "fr", ?_, ?_, rfl⟩
  · exact ⟨by decide, .inl (by decide +kernel)⟩
  · exact ⟨by decide, .inr (.inl (by decide +kernel))⟩

end Gazetteer

end NetAtlas
