import NetAtlas.Location
import NetAtlas.Location.Country
import NetAtlas.Proofs.Text.Case

/-!
The parts of a location text, and the keys that a country is looked for under. The city comes
without blanks at its ends, and when a country stands beside it neither of the two has a comma.
-/

namespace NetAtlas

namespace Text

/-- Each comma has a blank after it. -/
def commasSpaced : List Char → Bool
  | [] => true
  | c :: cs => (decide (c ≠ ',') || cs.head?.any isBlank) && commasSpaced cs

theorem commasSpaced_of_not_mem {cs : List Char} (h : ',' ∉ cs) : commasSpaced cs = true := by
  induction cs with
  | nil => rfl
  | cons c cs ih =>
    obtain ⟨hc, hcs⟩ : ',' ≠ c ∧ ',' ∉ cs := by simpa using h
    simp [commasSpaced, hc.symm, ih hcs]

theorem any_isBlank_of_commasSpaced {front rest : List Char}
    (h : commasSpaced (front ++ ',' :: rest) = true) : rest.head?.any isBlank = true := by
  induction front with
  | nil =>
    rw [List.nil_append, commasSpaced, Bool.and_eq_true] at h
    simpa using h.1
  | cons c front ih =>
    rw [List.cons_append, commasSpaced, Bool.and_eq_true] at h
    exact ih h.2

/-- A name and a country joined by a comma come apart as they were put together if the name has no
    comma, the country has blanks after its commas, and what is compared with it has no blank in
    front. -/
theorem append_comma_inj {xs ys name country : List Char} (hname : ',' ∉ name)
    (hcountry : commasSpaced country = true) (hys : ys.head?.any isBlank = false)
    (h : xs ++ ',' :: ys = name ++ ',' :: country) : xs = name ∧ ys = country := by
  rcases List.append_eq_append_iff.mp h with ⟨middle, hxs, hys'⟩ | ⟨middle, hname', hcountry'⟩
  · cases middle with
    | nil => simp_all
    | cons c middle =>
      -- The comma on the left would lie within the name.
      obtain rfl : ',' = c := (List.cons.inj hys').1
      exact absurd (by simp [hxs]) hname
  · cases middle with
    | nil => simp_all
    | cons c middle =>
      -- It would lie within the country, and `ys` would begin with the blank after it.
      obtain ⟨rfl, rfl⟩ := List.cons.inj hcountry'
      rw [any_isBlank_of_commasSpaced hcountry] at hys
      exact absurd hys (by decide)

theorem trim_eq_and_not_mem_of_mem_pieces {sep : Char} {cs piece : List Char}
    (h : piece ∈ (splitOn sep cs).map trim) : trim piece = piece ∧ sep ∉ piece := by
  obtain ⟨raw, hraw, rfl⟩ := List.mem_map.mp h
  exact ⟨trim_trim raw, fun hsep => not_mem_of_mem_splitOn hraw (mem_of_mem_trim hsep)⟩

end Text

namespace Location

theorem headD_mem_pieces (sep : Char) (cs : List Char) :
    ((Text.splitOn sep cs).map Text.trim).headD [] ∈ (Text.splitOn sep cs).map Text.trim := by
  have hne : (Text.splitOn sep cs).map Text.trim ≠ [] := by simp [Text.splitOn_ne_nil]
  rw [List.headD_eq_head?_getD, List.head?_eq_some_head hne]
  exact List.head_mem hne

theorem getLastD_mem_pieces (sep : Char) (cs : List Char) :
    ((Text.splitOn sep cs).map Text.trim).getLastD [] ∈ (Text.splitOn sep cs).map Text.trim := by
  have hne : (Text.splitOn sep cs).map Text.trim ≠ [] := by simp [Text.splitOn_ne_nil]
  rw [List.getLastD_eq_getLast?, List.getLast?_eq_some_getLast hne]
  exact List.getLast_mem hne

theorem find?_getD_mem_pieces (sep : Char) (cs : List Char) :
    let pieces := (Text.splitOn sep cs).map Text.trim
    (pieces.find? isPlace).getD (pieces.headD []) ∈ pieces := by
  intro pieces
  cases hfind : pieces.find? isPlace with
  | none => exact headD_mem_pieces sep cs
  | some piece => exact List.mem_of_find?_eq_some hfind

/-- The city of a location text has no blank at its ends. -/
theorem trimmed_city_ofText (text : String) :
    trimmed (ofText text).city = (ofText text).city := by
  have hcity : ∃ cs, (ofText text).city = String.ofList cs ∧ Text.trim cs = cs := by
    rw [ofText]
    split
    · refine ⟨_, rfl, ?_⟩
      exact (Text.trim_eq_and_not_mem_of_mem_pieces (headD_mem_pieces ',' _)).1
    · split
      · refine ⟨_, rfl, ?_⟩
        exact (Text.trim_eq_and_not_mem_of_mem_pieces (find?_getD_mem_pieces '-' _)).1
      · exact ⟨_, rfl, Text.trim_trim _⟩
  obtain ⟨cs, hcs, htrim⟩ := hcity
  rw [hcs, trimmed, String.toList_ofList, htrim]

/-- A country is read only next to a city without commas, and has none itself. -/
theorem comma_not_mem_of_country {text country : String}
    (h : (ofText text).country = some country) :
    ',' ∉ (ofText text).city.toList ∧ ',' ∉ country.toList := by
  rw [ofText] at h ⊢
  split at h
  · rename_i hcomma
    rw [if_pos hcomma]
    have hfirst := Text.trim_eq_and_not_mem_of_mem_pieces (headD_mem_pieces ',' (Text.trim text.toList))
    have hlast := Text.trim_eq_and_not_mem_of_mem_pieces (getLastD_mem_pieces ',' (Text.trim text.toList))
    rw [ofCommas] at h ⊢
    dsimp only at h ⊢
    split at h
    · exact absurd h (by simp)
    · obtain rfl := Option.some.inj h
      simp only [String.toList_ofList]
      exact ⟨hfirst.2, hlast.2⟩
  · split at h <;> exact absurd h (by simp [ofHyphens])

end Location

theorem keyForm_keyForm (s : String) : Gazetteer.keyForm (Gazetteer.keyForm s) = Gazetteer.keyForm s := by
  have htrimmed : trimmed (lowered (trimmed s)) = lowered (trimmed s) :=
    trimmed_lowered (trimmed_trimmed s)
  simp [Gazetteer.keyForm, htrimmed, lowered_lowered]

theorem comma_not_mem_lowered {s : String} (h : ',' ∉ s.toList) : ',' ∉ (lowered s).toList := by
  rw [lowered, String.toList_ofList]
  exact fun hmem => h (Text.mem_of_mem_lowerFrom (by decide) hmem)

theorem comma_not_mem_keyForm {s : String} (h : ',' ∉ s.toList) :
    ',' ∉ (Gazetteer.keyForm s).toList := by
  apply comma_not_mem_lowered
  rw [trimmed, String.toList_ofList]
  exact fun hmem => h (Text.mem_of_mem_trim hmem)

/-- The text is trimmed and in small letters, and each comma in it has a blank after it. -/
def isSettledForm (form : String) : Bool :=
  trimmed form == form && Text.commasSpaced form.toList &&
    form.toList.all fun c => decide (c.toNat < 0x80 ∧ (c.toNat < 0x41 ∨ 0x5A < c.toNat))

theorem isSettledForm_countryForms :
    (countryForms.all fun entry => entry.2.all isSettledForm) = true := by
  decide +kernel

theorem lowered_of_isLower {s : String} (h : ∀ c ∈ s.toList, Text.IsLower c) : lowered s = s := by
  rw [lowered, Text.lower, Text.lowerFrom_of_isLower h, String.ofList_toList]

theorem keyForm_of_isSettledForm {form : String} (h : isSettledForm form = true) :
    Gazetteer.keyForm form = form ∧ Text.commasSpaced form.toList = true := by
  simp only [isSettledForm, Bool.and_eq_true, beq_iff_eq, List.all_eq_true, decide_eq_true_eq] at h
  obtain ⟨⟨htrimmed, hspaced⟩, hsmall⟩ := h
  refine ⟨?_, hspaced⟩
  rw [Gazetteer.keyForm, htrimmed]
  exact lowered_of_isLower fun c hc => Text.isLower_of_ascii (hsmall c hc).1 (hsmall c hc).2

theorem exists_of_mem_getD_find? {entries : List (List String × List String)}
    {p : List String × List String → Bool} {key : String}
    (h : key ∈ ((entries.find? p).map (·.2)).getD []) : ∃ entry ∈ entries, key ∈ entry.2 := by
  cases hfind : entries.find? p with
  | none =>
    rw [hfind] at h
    exact absurd h List.not_mem_nil
  | some entry =>
    rw [hfind] at h
    exact ⟨entry, List.mem_of_find?_eq_some hfind, h⟩

/-- The keys tried for a country without commas are settled. -/
theorem keyForm_of_mem_countryKeys {country key : String} (hcountry : ',' ∉ country.toList)
    (h : key ∈ countryKeys country) :
    Gazetteer.keyForm key = key ∧ Text.commasSpaced key.toList = true := by
  rw [countryKeys, List.mem_cons] at h
  rcases h with rfl | h
  · exact ⟨keyForm_keyForm country, Text.commasSpaced_of_not_mem (comma_not_mem_keyForm hcountry)⟩
  · have hform := (List.mem_filter.mp h).1
    obtain ⟨entry, hentry, hkey⟩ := exists_of_mem_getD_find? hform
    have hforms := List.all_eq_true.mp isSettledForm_countryForms entry hentry
    exact keyForm_of_isSettledForm (List.all_eq_true.mp hforms key hkey)

end NetAtlas
