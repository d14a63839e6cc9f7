import NetAtlas.Proofs.Location.Parts
import NetAtlas.Proofs.Text.Pieces

/-!
Location texts that are put together from segments with commas between them. Taken apart, such a
text gives its first segment as the city and its last one as the country, whatever stands between.
-/

namespace NetAtlas

namespace Text

/-- What follows the separators stays with the segments, in front of all but the first. -/
theorem splitOn_intercalate {sep : Char} {gap first : List Char} {rest : List (List Char)}
    (hgap : sep ∉ gap) (hsegments : ∀ s ∈ first :: rest, sep ∉ s) :
    splitOn sep (List.intercalate (sep :: gap) (first :: rest)) = first :: rest.map (gap ++ ·) := by
  induction rest generalizing first with
  | nil =>
    rw [List.intercalate_singleton]
    exact splitOn_of_not_mem (hsegments first List.mem_cons_self)
  | cons next rest ih =>
    have hnext : ∀ s ∈ (gap ++ next) :: rest, sep ∉ s := by
      rw [List.forall_mem_cons]
      refine ⟨?_, fun s hs => hsegments s (by simp [hs])⟩
      rw [List.mem_append, not_or]
      exact ⟨hgap, hsegments next (by simp)⟩
    have hjoined : List.intercalate (sep :: gap) (first :: next :: rest) =
        first ++ sep :: List.intercalate (sep :: gap) ((gap ++ next) :: rest) := by
      cases rest <;> simp [List.intercalate_cons_cons]
    rw [hjoined, splitOn_append (hsegments first List.mem_cons_self), ih hnext, List.map_cons]

/-- A joined text begins with its first segment and ends with its last one. -/
theorem exists_intercalate_eq (sep first last : List Char) (middle : List (List Char)) :
    ∃ between, List.intercalate sep (first :: (middle ++ [last])) = first ++ (between ++ last) := by
  induction middle generalizing first with
  | nil => exact ⟨sep, by simp [List.intercalate_cons_cons]⟩
  | cons next middle ih =>
    obtain ⟨between, hbetween⟩ := ih next
    refine ⟨sep ++ (next ++ between), ?_⟩
    rw [List.cons_append, List.intercalate_cons_cons, hbetween]
    simp

theorem Trimmed.append {first last : List Char} (hfirst : Trimmed first) (hlast : Trimmed last)
    (hfirst' : first ≠ []) (hlast' : last ≠ []) (between : List Char) :
    Trimmed (first ++ (between ++ last)) := by
  constructor
  · intro c hc
    rw [List.head?_append, List.head?_eq_some_head hfirst', Option.some_or] at hc
    exact hfirst.1 c (by rw [List.head?_eq_some_head hfirst', hc])
  · intro c hc
    rw [← List.append_assoc, List.getLast?_append, List.getLast?_eq_some_getLast hlast',
      Option.some_or] at hc
    exact hlast.2 c (by rw [List.getLast?_eq_some_getLast hlast', hc])

end Text

namespace Location

/-- A text that is found again as it is when it stands next to commas. -/
structure IsSegment (s : String) : Prop where
  trimmed_eq : trimmed s = s
  ne_empty : s ≠ ""
  comma_not_mem : ',' ∉ s.toList

/-- Segments with commas between them, and a gap after each comma. -/
def joined (gap : String) (segments : List String) : String := ("," ++ gap).intercalate segments

theorem ofCommas_eq {first last : List Char} {middle : List (List Char)} (hlast : last ≠ []) :
    ofCommas (first :: (middle ++ [last])) = ⟨String.ofList first, some (String.ofList last)⟩ := by
  have hend : (first :: (middle ++ [last])).getLastD [] = last := by
    rw [← List.cons_append, List.getLastD_concat]
  rw [ofCommas, hend, List.headD_cons]
  simp [hlast]

/-- The segments at the ends are the city and the country, even if the ones between them are empty
    or have blanks around them. -/
theorem ofText_joined {gap name country : String} {middle : List String}
    (hgap : ∀ c ∈ gap.toList, Text.isBlank c = true) (hname : IsSegment name)
    (hcountry : IsSegment country) (hmiddle : ∀ s ∈ middle, ',' ∉ s.toList) :
    ofText (joined gap (name :: (middle ++ [country]))) = ⟨name, some country⟩ := by
  have hnameTrimmed := trimmed_toList hname.trimmed_eq
  have hcountryTrimmed := trimmed_toList hcountry.trimmed_eq
  have hnameNil : name.toList ≠ [] := by simpa using hname.ne_empty
  have hcountryNil : country.toList ≠ [] := by simpa using hcountry.ne_empty
  have htext : (joined gap (name :: (middle ++ [country]))).toList =
      List.intercalate (',' :: gap.toList)
        (name.toList :: (middle.map String.toList ++ [country.toList])) := by
    simp [joined]
  have htrim : Text.trim (joined gap (name :: (middle ++ [country]))).toList =
      (joined gap (name :: (middle ++ [country]))).toList := by
    obtain ⟨between, hbetween⟩ := Text.exists_intercalate_eq (',' :: gap.toList) name.toList
      country.toList (middle.map String.toList)
    rw [htext, hbetween]
    exact (hnameTrimmed.append hcountryTrimmed hnameNil hcountryNil between).trim_eq
  have hsplit : Text.splitOn ',' (joined gap (name :: (middle ++ [country]))).toList =
      name.toList :: (middle.map String.toList ++ [country.toList]).map (gap.toList ++ ·) := by
    rw [htext]
    apply Text.splitOn_intercalate (Text.not_mem_of_blank (by decide) hgap)
    rw [List.forall_mem_cons, List.forall_mem_append, List.forall_mem_map,
      List.forall_mem_singleton]
    exact ⟨hname.comma_not_mem, hmiddle, hcountry.comma_not_mem⟩
  have hcomma : (joined gap (name :: (middle ++ [country]))).toList.contains ',' = true := by
    rw [htext]
    cases middle <;> simp [List.intercalate_cons_cons]
  rw [ofText, htrim, if_pos hcomma, hsplit, List.map_cons, List.map_append, List.map_append,
    List.map_singleton, List.map_singleton, Text.trim_append_of_blank hgap, hnameTrimmed.trim_eq,
    hcountryTrimmed.trim_eq, ofCommas_eq hcountryNil, String.ofList_toList, String.ofList_toList]

end Location

end NetAtlas
