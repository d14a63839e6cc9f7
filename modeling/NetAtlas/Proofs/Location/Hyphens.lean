import NetAtlas.Proofs.Location.Segments
import NetAtlas.Proofs.Location.Spelling
import NetAtlas.Proofs.Text.Words

/-!
Location texts that are put together from segments with hyphens between them, as codes of sites and
racks are. The city is the first segment that is long enough and not technical; whatever is written
in front of it to name a site, and anything behind it, is decoration.
-/

namespace NetAtlas

namespace Text

theorem mem_intercalate_iff {c : Char} {sep : List Char} (hsep : c ∉ sep)
    {segments : List (List Char)} :
    c ∈ List.intercalate sep segments ↔ ∃ s ∈ segments, c ∈ s := by
  induction segments with
  | nil => simp
  | cons first rest ih =>
    cases rest with
    | nil => simp
    | cons next rest =>
      rw [List.intercalate_cons_cons, List.mem_append, List.mem_append, ih, or_iff_left hsep]
      simp

theorem intercalate_splitOn (sep : Char) (cs : List Char) :
    List.intercalate [sep] (splitOn sep cs) = cs := by
  induction cs with
  | nil => rfl
  | cons c cs ih =>
    obtain ⟨piece, rest, hsplit⟩ := List.exists_cons_of_ne_nil (splitOn_ne_nil sep cs)
    rw [splitOn]
    rw [hsplit] at ih ⊢
    by_cases hc : c = sep
    · rw [if_pos hc, List.intercalate_cons_cons, ih, hc]
      rfl
    · rw [if_neg hc, ← ih]
      cases rest <;> simp [List.intercalate_cons_cons]

end Text

namespace Location

/-- The word is, in lower case, a site word with a number behind it, or with nothing. -/
def IsSiteWord (word : List Char) : Prop :=
  ∃ site ∈ siteWords, ∃ number, (∀ d ∈ number, Text.isDecimalDigit d = true) ∧
    Text.lower word = site.toList ++ number

/-- The segment consists of digits, or one of its words names a site. -/
def IsTechnical (segment : String) : Prop :=
  (segment ≠ "" ∧ ∀ c ∈ segment.toList, Text.isDigit c = true) ∨
    ∃ word, Text.IsWord Text.isWordBreak word segment.toList ∧ IsSiteWord word

/-- Without the blanks around it the segment is technical, or too short for a city. -/
def IsDecoration (segment : String) : Prop :=
  (trimmed segment).length < 3 ∨ IsTechnical (trimmed segment)

/-- The text does not come apart at any separator. -/
def IsPlain (segment : String) : Prop := ',' ∉ segment.toList ∧ '-' ∉ segment.toList

instance (segment : String) : Decidable (IsPlain segment) := inferInstanceAs (Decidable (_ ∧ _))

/-- Segments with hyphens between them. -/
def hyphenJoined (segments : List String) : String := "-".intercalate segments

theorem isSiteWord_iff (word : List Char) : isSiteWord (Text.lower word) = true ↔ IsSiteWord word := by
  rw [isSiteWord, List.any_eq_true]
  refine exists_congr fun site => and_congr_right fun _ => ?_
  rw [Bool.and_eq_true, List.isPrefixOf_iff_prefix, List.all_eq_true, ← String.length_toList]
  constructor
  · rintro ⟨⟨number, hword⟩, hdigits⟩
    rw [← hword, List.drop_left] at hdigits
    exact ⟨number, hdigits, hword.symm⟩
  · rintro ⟨number, hdigits, hword⟩
    rw [hword, List.drop_left]
    exact ⟨List.prefix_append _ _, hdigits⟩

theorem isTechnical_iff (segment : String) : isTechnical segment.toList = true ↔ IsTechnical segment := by
  have hdigits : Text.allDigits segment.toList = true ↔
      segment ≠ "" ∧ ∀ c ∈ segment.toList, Text.isDigit c = true := by
    simp [Text.allDigits]
  have hwords : (Text.runs Text.isWordBreak (Text.lower segment.toList)).any isSiteWord = true ↔
      ∃ word, Text.IsWord Text.isWordBreak word segment.toList ∧ IsSiteWord word := by
    rw [Text.runs_lower, List.any_map, List.any_eq_true]
    exact exists_congr fun word => and_congr Text.mem_runs_iff (isSiteWord_iff word)
  rw [isTechnical, Bool.or_eq_true]
  exact or_congr hdigits hwords

theorem isPlace_eq_false_iff (segment : String) :
    isPlace (Text.trim segment.toList) = false ↔ IsDecoration segment := by
  have htechnical := isTechnical_iff (trimmed segment)
  have hlength : (trimmed segment).length = (Text.trim segment.toList).length := by
    rw [trimmed, String.length_ofList]
  rw [trimmed, String.toList_ofList, ← trimmed] at htechnical
  rw [isPlace, Bool.and_eq_false_iff, decide_eq_false_iff_not, Nat.not_le, Bool.not_eq_false',
    IsDecoration, hlength, htechnical]

theorem isPlace_of_trimmed {place : String} (htrimmed : trimmed place = place)
    (hlength : 3 ≤ place.length) (hplace : ¬ IsTechnical place) :
    isPlace (Text.trim place.toList) = true := by
  by_contra hnot
  rcases (isPlace_eq_false_iff place).mp (by simpa using hnot) with hshort | htechnical
  · rw [htrimmed] at hshort
    omega
  · rw [htrimmed] at htechnical
    exact hplace htechnical

theorem toList_hyphenJoined (segments : List String) :
    (hyphenJoined segments).toList = List.intercalate ['-'] (segments.map String.toList) := by
  simp [hyphenJoined]

theorem comma_not_mem_hyphenJoined {segments : List String} (h : ∀ s ∈ segments, IsPlain s) :
    ',' ∉ (hyphenJoined segments).toList := by
  rw [toList_hyphenJoined, Text.mem_intercalate_iff (by decide)]
  rintro ⟨_, hmem, hcomma⟩
  obtain ⟨s, hs, rfl⟩ := List.mem_map.mp hmem
  exact (h s hs).1 hcomma

theorem pieces_hyphenJoined {segments : List String} (hne : segments ≠ [])
    (hplain : ∀ s ∈ segments, '-' ∉ s.toList) :
    Text.pieces '-' (hyphenJoined segments).toList = segments.map fun s => Text.trim s.toList := by
  cases segments with
  | nil => exact absurd rfl hne
  | cons first rest =>
    have hsegments : ∀ cs ∈ first.toList :: rest.map String.toList, '-' ∉ cs := by
      rw [List.forall_mem_cons, List.forall_mem_map]
      exact List.forall_mem_cons.mp hplain
    have hsplit := @Text.splitOn_intercalate '-' [] _ _ List.not_mem_nil hsegments
    rw [Text.pieces, toList_hyphenJoined, List.map_cons, hsplit]
    simp

/-- Every text without commas is put together from segments. -/
theorem exists_hyphenJoined {text : String} (hcomma : ',' ∉ text.toList) :
    ∃ first rest, text = hyphenJoined (first :: rest) ∧ ∀ s ∈ first :: rest, IsPlain s := by
  obtain ⟨first, rest, hsplit⟩ := List.exists_cons_of_ne_nil (Text.splitOn_ne_nil '-' text.toList)
  have hjoined := Text.intercalate_splitOn '-' text.toList
  rw [hsplit] at hjoined
  refine ⟨String.ofList first, rest.map String.ofList, ?_, ?_⟩
  · rw [← String.toList_inj, toList_hyphenJoined, ← hjoined]
    simp
  · rw [← List.map_cons, List.forall_mem_map]
    intro piece hpiece
    rw [← hsplit] at hpiece
    rw [IsPlain, String.toList_ofList]
    refine ⟨fun hmem => hcomma ?_, Text.not_mem_of_mem_splitOn hpiece⟩
    rw [← Text.intercalate_splitOn '-' text.toList, Text.mem_intercalate_iff (by decide)]
    exact ⟨piece, hpiece, hmem⟩

theorem ofText_of_not_mem_comma {text : String} (hcomma : ',' ∉ text.toList) :
    ofText text = ofHyphens (Text.pieces '-' text.toList) := by
  by_cases hhyphen : '-' ∈ text.toList
  · exact ofText_of_hyphen hcomma hhyphen
  · rw [ofText_eq, if_neg hcomma, if_neg hhyphen, Text.pieces_of_not_mem hhyphen, ofHyphens,
      List.find?_singleton]
    split <;> rfl

theorem ofText_hyphenJoined {segments : List String} (hne : segments ≠ [])
    (hplain : ∀ s ∈ segments, IsPlain s) :
    ofText (hyphenJoined segments) = ofHyphens (segments.map fun s => Text.trim s.toList) := by
  rw [ofText_of_not_mem_comma (comma_not_mem_hyphenJoined hplain),
    pieces_hyphenJoined hne fun s hs => (hplain s hs).2]

theorem find?_isPlace_eq_none {segments : List String} (h : ∀ s ∈ segments, IsDecoration s) :
    (segments.map fun s => Text.trim s.toList).find? isPlace = none := by
  rw [List.find?_eq_none, List.forall_mem_map]
  intro s hs
  rw [(isPlace_eq_false_iff s).mpr (h s hs)]
  exact Bool.false_ne_true

/-- The city is the first segment that is no decoration, however much decoration is in front of it
    and whatever is behind it. If there is no such segment it is the first one. -/
theorem ofText_decorated :
    (∀ (before after : List String) (place : String),
      (∀ s ∈ before ++ place :: after, IsPlain s) → trimmed place = place → 3 ≤ place.length →
      ¬ IsTechnical place → (∀ s ∈ before, IsDecoration s) →
      ofText (hyphenJoined (before ++ place :: after)) = ⟨place, none⟩) ∧
    ∀ text : String, ',' ∉ text.toList →
      ∃ first rest, text = hyphenJoined (first :: rest) ∧ (∀ s ∈ first :: rest, IsPlain s) ∧
        ((∀ s ∈ first :: rest, IsDecoration s) → ofText text = ⟨trimmed first, none⟩) := by
  constructor
  · intro before after place hplain htrimmed hlength hplace hbefore
    have hfind : ((before ++ place :: after).map fun s => Text.trim s.toList).find? isPlace =
        some (Text.trim place.toList) := by
      rw [List.map_append, List.find?_append, find?_isPlace_eq_none hbefore, Option.none_or,
        List.map_cons, List.find?_cons_of_pos (isPlace_of_trimmed htrimmed hlength hplace)]
    rw [ofText_hyphenJoined (by simp) hplain, ofHyphens, hfind, Option.getD_some, ← trimmed, htrimmed]
  · intro text hcomma
    obtain ⟨first, rest, htext, hplain⟩ := exists_hyphenJoined hcomma
    refine ⟨first, rest, htext, hplain, fun hdecoration => ?_⟩
    rw [htext, ofText_hyphenJoined (List.cons_ne_nil first rest) hplain, ofHyphens,
      find?_isPlace_eq_none hdecoration, Option.getD_none, List.map_cons, List.headD_cons, trimmed]

theorem ofText_decorated_osaka :
    (∀ s ∈ ["Rack 12 ", " dc_7", "№", "01"], IsDecoration s) ∧ ¬ IsTechnical "Nodeville" ∧
      ofText "Rack 12 - dc_7-№-01-Nodeville-Osaka-fw" = ⟨"Nodeville", none⟩ := by
  have hdecoration : ∀ s ∈ ["Rack 12 ", " dc_7", "№", "01"], IsDecoration s := by
    intro s hs
    rw [← isPlace_eq_false_iff]
    revert s
    decide +kernel
  have hplace : ¬ IsTechnical "Nodeville" := by
    rw [← isTechnical_iff]
    decide +kernel
  refine ⟨hdecoration, hplace, ?_⟩
  exact ofText_decorated.1 ["Rack 12 ", " dc_7", "№", "01"] ["Osaka", "fw"] "Nodeville"
    (by decide +kernel) (by decide +kernel) (by decide +kernel) hplace hdecoration

end Location

end NetAtlas
