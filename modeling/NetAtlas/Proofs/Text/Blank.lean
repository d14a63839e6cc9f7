import NetAtlas.Text.Blank

/-!
Trimmed texts and the pieces of a text: trimming settles a text at once, and no piece holds the
separator.
-/

namespace NetAtlas

namespace Text

/-- There is no blank at either end. -/
def Trimmed (cs : List Char) : Prop :=
  (∀ c, cs.head? = some c → isBlank c = false) ∧ ∀ c, cs.getLast? = some c → isBlank c = false

theorem dropWhile_eq_self {p : Char → Bool} {cs : List Char}
    (h : ∀ c, cs.head? = some c → p c = false) : cs.dropWhile p = cs := by
  cases cs with
  | nil => rfl
  | cons c cs => simp [List.dropWhile, h c rfl]

theorem head?_dropWhile {p : Char → Bool} {cs : List Char} {c : Char}
    (h : (cs.dropWhile p).head? = some c) : p c = false := by
  have hnot := List.head?_dropWhile_not p cs
  rw [h] at hnot
  simpa using hnot

theorem Trimmed.trim_eq {cs : List Char} (h : Trimmed cs) : trim cs = cs := by
  rw [trim, trimBy, dropWhile_eq_self h.1, dropWhile_eq_self, List.reverse_reverse]
  intro c hc
  exact h.2 c (by rwa [List.head?_reverse] at hc)

theorem trim_prefix_dropWhile (cs : List Char) : trim cs <+: cs.dropWhile isBlank := by
  have hsuffix := List.dropWhile_suffix (l := (cs.dropWhile isBlank).reverse) isBlank
  simpa [trim, trimBy] using List.reverse_prefix.mpr hsuffix

theorem trimmed_trim (cs : List Char) : Trimmed (trim cs) := by
  constructor
  · intro c hc
    obtain ⟨rest, hrest⟩ := trim_prefix_dropWhile cs
    have hhead : (cs.dropWhile isBlank).head? = some c := by
      rw [← hrest, List.head?_append, hc]
      rfl
    exact head?_dropWhile hhead
  · intro c hc
    rw [trim, trimBy, List.getLast?_reverse] at hc
    exact head?_dropWhile hc

theorem trim_trim (cs : List Char) : trim (trim cs) = trim cs := (trimmed_trim cs).trim_eq

theorem mem_of_mem_trim {cs : List Char} {c : Char} (h : c ∈ trim cs) : c ∈ cs :=
  (List.dropWhile_sublist isBlank).subset ((trim_prefix_dropWhile cs).subset h)

theorem not_mem_of_mem_splitOn {sep : Char} {cs piece : List Char} (h : piece ∈ splitOn sep cs) :
    sep ∉ piece := by
  induction cs generalizing piece with
  | nil =>
    obtain rfl : piece = [] := by simpa [splitOn] using h
    exact List.not_mem_nil
  | cons c cs ih =>
    rw [splitOn] at h
    split at h
    · rcases List.mem_cons.mp h with rfl | h
      · exact List.not_mem_nil
      · exact ih h
    · rename_i hc
      split at h
      · rename_i first rest hsplit
        rw [hsplit] at ih
        rcases List.mem_cons.mp h with rfl | h
        · have hfirst := ih List.mem_cons_self
          simp [hfirst, Ne.symm hc]
        · exact ih (List.mem_cons_of_mem _ h)
      · rename_i hnil
        exact absurd hnil (splitOn_ne_nil sep cs)

/-- Two texts with a separator between them come apart as they were put together, if as many
    separators stand in the first text. -/
theorem append_cons_inj_of_count {sep : Char} {xs ys front rest : List Char}
    (hcount : xs.count sep = front.count sep) (h : xs ++ sep :: ys = front ++ sep :: rest) :
    xs = front ∧ ys = rest := by
  induction xs generalizing front with
  | nil =>
    cases front with
    | nil => exact ⟨rfl, (List.cons.inj h).2⟩
    | cons c front =>
      obtain rfl : sep = c := (List.cons.inj h).1
      exact absurd hcount (by simp)
  | cons x xs ih =>
    cases front with
    | nil =>
      obtain rfl : x = sep := (List.cons.inj h).1
      exact absurd hcount (by simp)
    | cons c front =>
      obtain ⟨rfl, htail⟩ := List.cons.inj h
      obtain ⟨rfl, hrest⟩ := ih (by simpa [List.count_cons] using hcount) htail
      exact ⟨rfl, hrest⟩

/-- So they do if no separator stands in the second text. -/
theorem append_cons_inj_of_not_mem {sep : Char} {xs ys front rest : List Char} (hys : sep ∉ ys)
    (hrest : sep ∉ rest) (h : xs ++ sep :: ys = front ++ sep :: rest) : xs = front ∧ ys = rest := by
  have hcount := congrArg (List.count sep) h
  rw [List.count_append, List.count_append, List.count_cons_self, List.count_cons_self,
    List.count_eq_zero.mpr hys, List.count_eq_zero.mpr hrest] at hcount
  exact append_cons_inj_of_count (by omega) h

end Text

theorem trimmed_toList {s : String} (h : trimmed s = s) : Text.Trimmed s.toList := by
  rw [← h, trimmed, String.toList_ofList]
  exact Text.trimmed_trim _

theorem trimmed_trimmed (s : String) : trimmed (trimmed s) = trimmed s := by
  simp [trimmed, Text.trim_trim]

end NetAtlas
