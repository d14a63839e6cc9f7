import Mathlib.Data.List.TakeWhile
import NetAtlas.Proofs.Text.Blank

/-!
The pieces between the occurrences of a separator, without the blanks around them. They come from
the texts on both sides of a separator, and blanks at the ends of a text do not reach them.
-/

namespace NetAtlas.Text

/-- The trimmed pieces of a text. -/
def pieces (sep : Char) (cs : List Char) : List (List Char) := (splitOn sep cs).map trim

theorem splitOn_of_not_mem {sep : Char} {cs : List Char} (h : sep ∉ cs) :
    splitOn sep cs = [cs] := by
  induction cs with
  | nil => rfl
  | cons c cs ih =>
    obtain ⟨hc, hcs⟩ : sep ≠ c ∧ sep ∉ cs := by simpa using h
    rw [splitOn, if_neg hc.symm, ih hcs]

theorem splitOn_append_cons (sep : Char) (xs ys : List Char) :
    splitOn sep (xs ++ sep :: ys) = splitOn sep xs ++ splitOn sep ys := by
  induction xs with
  | nil => simp [splitOn]
  | cons c xs ih =>
    rw [List.cons_append, splitOn, splitOn, ih]
    split
    · rfl
    · cases hxs : splitOn sep xs with
      | nil => exact absurd hxs (splitOn_ne_nil sep xs)
      | cons piece rest => rfl

theorem splitOn_append {sep : Char} {piece rest : List Char} (h : sep ∉ piece) :
    splitOn sep (piece ++ sep :: rest) = piece :: splitOn sep rest := by
  rw [splitOn_append_cons, splitOn_of_not_mem h, List.singleton_append]

/-- A change of characters that spares the separator changes the pieces alone. -/
theorem splitOn_map {f : Char → Char} {sep : Char} (hf : ∀ c, f c = sep ↔ c = sep)
    (cs : List Char) : splitOn sep (cs.map f) = (splitOn sep cs).map (List.map f) := by
  induction cs with
  | nil => rfl
  | cons c cs ih =>
    rw [List.map_cons, splitOn, splitOn, ih]
    by_cases hc : c = sep
    · rw [if_pos hc, if_pos ((hf c).mpr hc)]
      rfl
    · rw [if_neg hc, if_neg fun hfc => hc ((hf c).mp hfc)]
      cases splitOn sep cs <;> rfl

theorem trim_append_of_blank {gap cs : List Char} (hgap : ∀ c ∈ gap, isBlank c = true) :
    trim (gap ++ cs) = trim cs := by
  rw [trim, trim, trimBy, trimBy, List.dropWhile_append_of_pos hgap]

theorem trim_append_of_blank_right {cs gap : List Char} (hgap : ∀ c ∈ gap, isBlank c = true) :
    trim (cs ++ gap) = trim cs := by
  have hnone : gap.dropWhile isBlank = [] := List.dropWhile_eq_nil_iff.mpr hgap
  rw [trim, trim, trimBy, trimBy, List.dropWhile_append, hnone]
  split
  · rename_i hempty
    rw [List.isEmpty_iff.mp hempty]
  · rw [List.reverse_append, List.dropWhile_append_of_pos]
    exact fun c hc => hgap c (List.mem_reverse.mp hc)

theorem exists_blank_trim (cs : List Char) :
    ∃ left right, (∀ c ∈ left, isBlank c = true) ∧ (∀ c ∈ right, isBlank c = true) ∧
      cs = left ++ (trim cs ++ right) := by
  refine ⟨cs.takeWhile isBlank, ((cs.dropWhile isBlank).reverse.takeWhile isBlank).reverse,
    fun c hc => List.mem_takeWhile_imp hc,
    fun c hc => List.mem_takeWhile_imp (List.mem_reverse.mp hc), ?_⟩
  rw [trim, trimBy, ← List.reverse_append, List.takeWhile_append_dropWhile, List.reverse_reverse,
    List.takeWhile_append_dropWhile]

theorem mem_trim_iff {c : Char} {cs : List Char} (hc : isBlank c = false) :
    c ∈ trim cs ↔ c ∈ cs := by
  refine ⟨mem_of_mem_trim, fun hmem => ?_⟩
  obtain ⟨left, right, hleft, hright, hcs⟩ := exists_blank_trim cs
  rw [hcs, List.mem_append, List.mem_append] at hmem
  rcases hmem with hmem | hmem | hmem
  · exact absurd (hleft c hmem) (by simp [hc])
  · exact hmem
  · exact absurd (hright c hmem) (by simp [hc])

theorem trim_map {f : Char → Char} (hf : ∀ c, isBlank (f c) = isBlank c) (cs : List Char) :
    trim (cs.map f) = (trim cs).map f := by
  have hblank : isBlank ∘ f = isBlank := funext hf
  rw [trim, trim, trimBy, trimBy, List.dropWhile_map, hblank, ← List.map_reverse,
    List.dropWhile_map, hblank, List.map_reverse]

theorem pieces_append_cons (sep : Char) (xs ys : List Char) :
    pieces sep (xs ++ sep :: ys) = pieces sep xs ++ pieces sep ys := by
  rw [pieces, splitOn_append_cons, List.map_append, pieces, pieces]

theorem pieces_of_not_mem {sep : Char} {cs : List Char} (h : sep ∉ cs) :
    pieces sep cs = [trim cs] := by
  rw [pieces, splitOn_of_not_mem h, List.map_singleton]

theorem pieces_map {f : Char → Char} {sep : Char} (hf : ∀ c, f c = sep ↔ c = sep)
    (hblank : ∀ c, isBlank (f c) = isBlank c) (cs : List Char) :
    pieces sep (cs.map f) = (pieces sep cs).map (List.map f) := by
  rw [pieces, pieces, splitOn_map hf, List.map_map, List.map_map]
  exact List.map_congr_left fun piece _ => trim_map hblank piece

section

variable {sep : Char} {gap : List Char} (hsep : isBlank sep = false)
  (hgap : ∀ c ∈ gap, isBlank c = true)

include hsep hgap

theorem not_mem_of_blank : sep ∉ gap := by
  intro hmem
  exact absurd (hgap sep hmem) (by simp [hsep])

theorem pieces_append_of_blank (cs : List Char) : pieces sep (gap ++ cs) = pieces sep cs := by
  have hnone := not_mem_of_blank hsep hgap
  by_cases hmem : sep ∈ cs
  · obtain ⟨piece, rest, rfl, hpiece⟩ := List.eq_append_cons_of_mem hmem
    have hboth : sep ∉ gap ++ piece := by simp [hnone, hpiece]
    rw [← List.append_assoc, pieces_append_cons, pieces_append_cons, pieces_of_not_mem hboth,
      pieces_of_not_mem hpiece, trim_append_of_blank hgap]
  · have hboth : sep ∉ gap ++ cs := by simp [hnone, hmem]
    rw [pieces_of_not_mem hboth, pieces_of_not_mem hmem, trim_append_of_blank hgap]

theorem pieces_append_of_blank_right (cs : List Char) : pieces sep (cs ++ gap) = pieces sep cs := by
  have hnone := not_mem_of_blank hsep hgap
  by_cases hmem : sep ∈ cs
  · -- The last piece begins after the last separator.
    obtain ⟨front, last, hlast, rfl⟩ : ∃ front last, sep ∉ last ∧ cs = front ++ sep :: last := by
      obtain ⟨last, front, hreverse, hlast⟩ := List.eq_append_cons_of_mem (List.mem_reverse.mpr hmem)
      refine ⟨front.reverse, last.reverse, by simpa using hlast, ?_⟩
      rw [← List.reverse_reverse cs, hreverse]
      simp
    have hboth : sep ∉ last ++ gap := by simp [hnone, hlast]
    rw [List.append_assoc, List.cons_append, pieces_append_cons, pieces_append_cons,
      pieces_of_not_mem hboth, pieces_of_not_mem hlast, trim_append_of_blank_right hgap]
  · have hboth : sep ∉ cs ++ gap := by simp [hnone, hmem]
    rw [pieces_of_not_mem hboth, pieces_of_not_mem hmem, trim_append_of_blank_right hgap]

end

theorem pieces_trim {sep : Char} (hsep : isBlank sep = false) (cs : List Char) :
    pieces sep (trim cs) = pieces sep cs := by
  obtain ⟨left, right, hleft, hright, hcs⟩ := exists_blank_trim cs
  conv => rhs; rw [hcs]
  rw [pieces_append_of_blank hsep hleft, pieces_append_of_blank_right hsep hright]

end NetAtlas.Text
