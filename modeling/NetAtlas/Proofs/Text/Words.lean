import NetAtlas.Proofs.Text.Classes

/-!
Words: the runs of characters between separators. A text is put in lower case word by word, because
no separator has a case and what becomes of a letter depends on the word that it is in.
-/

namespace NetAtlas.Text

/-- The word stands in the text, with a separator or an end of the text on both sides. -/
def IsWord (sep : Char → Bool) (word cs : List Char) : Prop :=
  word ≠ [] ∧ (∀ c ∈ word, sep c = false) ∧
    ∃ before after, cs = before ++ (word ++ after) ∧ before.getLast?.all sep = true ∧
      after.head?.all sep = true

section

variable {sep : Char → Bool}

theorem isWord_self {word : List Char} (hne : word ≠ []) (hword : ∀ c ∈ word, sep c = false) :
    IsWord sep word word :=
  ⟨hne, hword, [], [], by simp, rfl, rfl⟩

/-- The only word of a text without separators is the text. -/
theorem IsWord.eq_of_forall {word cs : List Char} (h : IsWord sep word cs)
    (hcs : ∀ c ∈ cs, sep c = false) : word = cs := by
  obtain ⟨_, _, before, after, rfl, hbefore, hafter⟩ := h
  have hleft : before = [] := by
    cases hlast : before.getLast? with
    | none => exact List.getLast?_eq_none_iff.mp hlast
    | some c =>
      have hplain := hcs c (by simp [List.mem_of_getLast? hlast])
      simp [hlast, hplain] at hbefore
  have hright : after = [] := by
    cases hhead : after.head? with
    | none => exact List.head?_eq_none_iff.mp hhead
    | some c =>
      have hplain := hcs c (by simp [List.mem_of_head? hhead])
      simp [hhead, hplain] at hafter
  rw [hleft, hright, List.nil_append, List.append_nil]

/-- A word is on one side of a separator or on the other. -/
theorem isWord_append_cons_iff {word front back : List Char} {s : Char} (hs : sep s = true) :
    IsWord sep word (front ++ s :: back) ↔ IsWord sep word front ∨ IsWord sep word back := by
  constructor
  · rintro ⟨hne, hword, before, after, hcs, hbefore, hafter⟩
    have hout : s ∉ word := fun hmem => by simp [hword s hmem] at hs
    rcases List.append_eq_append_iff.mp hcs with ⟨middle, hfront, hrest⟩ | ⟨middle, hfront, hrest⟩
    · right
      cases middle with
      | nil =>
        cases word with
        | nil => exact absurd rfl hne
        | cons c word =>
          obtain rfl : s = c := (List.cons.inj hrest).1
          exact absurd List.mem_cons_self hout
      | cons c middle =>
        obtain ⟨rfl, rfl⟩ := List.cons.inj hrest
        refine ⟨hne, hword, middle, after, rfl, ?_, hafter⟩
        cases hlast : middle.getLast? with
        | none => rfl
        | some d => simpa [hfront, List.getLast?_append, List.getLast?_cons, hlast] using hbefore
    · left
      rcases List.append_eq_append_iff.mp hrest with ⟨gap, hmiddle, hafter'⟩ | ⟨gap, hword', hback⟩
      · refine ⟨hne, hword, before, gap, by rw [hfront, hmiddle], hbefore, ?_⟩
        cases gap with
        | nil => rfl
        | cons d gap => simpa [hafter'] using hafter
      · cases gap with
        | nil =>
          rw [List.append_nil] at hword'
          exact ⟨hne, hword, before, [], by rw [hfront, hword', List.append_nil], hbefore, rfl⟩
        | cons d gap =>
          obtain rfl : s = d := (List.cons.inj hback).1
          exact absurd (by simp [hword']) hout
  · rintro (⟨hne, hword, before, after, rfl, hbefore, hafter⟩ |
      ⟨hne, hword, before, after, rfl, hbefore, hafter⟩)
    · refine ⟨hne, hword, before, after ++ s :: back, by simp, hbefore, ?_⟩
      cases after with
      | nil => simpa using hs
      | cons d after => simpa using hafter
    · refine ⟨hne, hword, front ++ s :: before, after, by simp, ?_, hafter⟩
      rcases List.eq_nil_or_concat before with rfl | ⟨start, d, rfl⟩
      · simpa using hs
      · simpa [List.getLast?_append, List.getLast?_cons] using hbefore

theorem runs_cons_of_sep {c : Char} (hc : sep c = true) (cs : List Char) :
    runs sep (c :: cs) = runs sep cs := by
  cases cs <;> simp [runs, hc]

theorem runs_before_sep {c s : Char} (hc : sep c = false) (hs : sep s = true) (cs : List Char) :
    runs sep (c :: s :: cs) = [c] :: runs sep cs := by
  have hplain : ¬ sep c = true := by simp [hc]
  rw [runs, if_neg hplain, runs_cons_of_sep hs, hs]
  cases runs sep cs <;> rfl

/-- A character in front of a word belongs to it. -/
theorem runs_before_word {c d : Char} {cs run : List Char} {rest : List (List Char)}
    (hc : sep c = false) (hd : sep d = false) (hrest : runs sep (d :: cs) = run :: rest) :
    runs sep (c :: d :: cs) = (c :: run) :: rest := by
  have hplain : ¬ sep c = true := by simp [hc]
  have hplain' : ¬ sep d = true := by simp [hd]
  rw [runs, if_neg hplain, hrest]
  exact if_neg hplain'

theorem runs_of_forall {word : List Char} (hne : word ≠ []) (hword : ∀ c ∈ word, sep c = false) :
    runs sep word = [word] := by
  induction word with
  | nil => exact absurd rfl hne
  | cons c word ih =>
    obtain ⟨hc, hrest⟩ := List.forall_mem_cons.mp hword
    cases word with
    | nil => simp [runs, hc]
    | cons d word =>
      exact runs_before_word hc (hrest d List.mem_cons_self) (ih (List.cons_ne_nil d word) hrest)

theorem runs_append_cons {word : List Char} {s : Char} (hne : word ≠ [])
    (hword : ∀ c ∈ word, sep c = false) (hs : sep s = true) (back : List Char) :
    runs sep (word ++ s :: back) = word :: runs sep back := by
  induction word with
  | nil => exact absurd rfl hne
  | cons c word ih =>
    obtain ⟨hc, hrest⟩ := List.forall_mem_cons.mp hword
    cases word with
    | nil => exact runs_before_sep hc hs back
    | cons d word =>
      exact runs_before_word hc (hrest d List.mem_cons_self) (ih (List.cons_ne_nil d word) hrest)

/-- A text is a run without separators, or it goes on after such a run and a separator. -/
theorem words_induction (sep : Char → Bool) {motive : List Char → Prop}
    (last : ∀ cs, (∀ c ∈ cs, sep c = false) → motive cs)
    (next : ∀ front s back, (∀ c ∈ front, sep c = false) → sep s = true → motive back →
      motive (front ++ s :: back)) (cs : List Char) : motive cs := by
  induction hlength : cs.length using Nat.strongRecOn generalizing cs with
  | ind n ih =>
    cases hfind : cs.find? sep with
    | none => exact last cs fun c hc => by simpa using List.find?_eq_none.mp hfind c hc
    | some s =>
      obtain ⟨hs, front, back, rfl, hfront⟩ := List.find?_eq_some_iff_append.mp hfind
      refine next front s back (fun c hc => by simpa using hfront c hc) hs (ih _ ?_ back rfl)
      simp only [List.length_append, List.length_cons] at hlength
      omega

/-- The runs of a text are its words. -/
theorem mem_runs_iff {run cs : List Char} : run ∈ runs sep cs ↔ IsWord sep run cs := by
  have hwhole {front : List Char} (hne : front ≠ []) (hfront : ∀ c ∈ front, sep c = false) :
      run = front ↔ IsWord sep run front := by
    refine ⟨?_, fun h => h.eq_of_forall hfront⟩
    rintro rfl
    exact isWord_self hne hfront
  have hnone : ¬ IsWord sep run [] := fun h => h.1 (h.eq_of_forall (by simp))
  induction cs using words_induction sep with
  | last cs hcs =>
    by_cases hne : cs = []
    · simp [hne, runs, hnone]
    · rw [runs_of_forall hne hcs, List.mem_singleton, hwhole hne hcs]
  | next front s back hfront hs ih =>
    rw [isWord_append_cons_iff hs]
    by_cases hne : front = []
    · rw [hne, List.nil_append, runs_cons_of_sep hs, or_iff_right hnone]
      exact ih
    · rw [runs_append_cons hne hfront hs, List.mem_cons, hwhole hne hfront]
      exact or_congr_right ih

end

/-- The character ends what the form of a letter can depend on: it has no case, it is not passed
    over in the search for the end of a word, and it stays as it is. -/
structure IsBarrier (s : Char) : Prop where
  uncased : isCased s = false
  counted : isCaseIgnorable s = false
  isLower : IsLower s

namespace IsBarrier

variable {s : Char} (hs : IsBarrier s)
include hs

theorem startsCased_append (front back : List Char) :
    startsCased (front ++ s :: back) = startsCased front := by
  induction front with
  | nil => simp [startsCased, hs.counted, hs.uncased]
  | cons c front ih =>
    cases hc : isCaseIgnorable c with
    | true => simpa [startsCased, hc] using ih
    | false => simp [startsCased, hc]

theorem lowerFrom_past (front before cs : List Char) :
    lowerFrom (front ++ s :: before) cs = lowerFrom front cs := by
  induction cs generalizing front with
  | nil => rfl
  | cons c cs ih =>
    rw [lowerFrom_cons, lowerFrom_cons, formOf, formOf, hs.startsCased_append, ← List.cons_append, ih]

theorem lowerFrom_append (before front back : List Char) :
    lowerFrom before (front ++ s :: back) = lowerFrom before front ++ s :: lower back := by
  induction front generalizing before with
  | nil =>
    have hform : formOf before s back = [s] := by
      simp [formOf, hs.isLower.notDotted, hs.isLower.notSigma, hs.isLower.stays]
    rw [List.nil_append, lowerFrom_cons, hform]
    exact congrArg (s :: ·) (hs.lowerFrom_past [] before back)
  | cons c front ih =>
    rw [List.cons_append, lowerFrom_cons, lowerFrom_cons, formOf, formOf, hs.startsCased_append, ih,
      List.append_assoc]

end IsBarrier

/-- What stands between the words of a segment of a location. -/
def isWordBreak (c : Char) : Bool := isBlank c || c = '_'

theorem isBarrier_of_isWordBreak {s : Char} (h : isWordBreak s = true) : IsBarrier s := by
  rw [isWordBreak, Bool.or_eq_true, decide_eq_true_eq] at h
  rcases h with hblank | rfl
  · exact ⟨isCased_of_isBlank hblank, isCaseIgnorable_of_isBlank hblank, isLower_of_isBlank hblank⟩
  · exact ⟨by decide +kernel, by decide +kernel, isLower_of_ascii (by decide) (by decide)⟩

theorem isWordBreak_of_mem_lowerFrom {before cs : List Char}
    (hcs : ∀ c ∈ cs, isWordBreak c = false) {d : Char} (h : d ∈ lowerFrom before cs) :
    isWordBreak d = false := by
  have hblank : isBlank d = false := by
    induction cs generalizing before with
    | nil => exact absurd h List.not_mem_nil
    | cons c cs ih =>
      obtain ⟨hc, hrest⟩ := List.forall_mem_cons.mp hcs
      rw [lowerFrom_cons] at h
      rcases List.mem_append.mp h with h | h
      · exact isBlank_of_mem_formOf (Bool.or_eq_false_iff.mp hc).1 h
      · exact ih hrest h
  have hplain : d ≠ '_' := by
    rintro rfl
    exact absurd (hcs _ (mem_of_mem_lowerFrom (by decide) h)) (by decide)
  rw [isWordBreak, hblank, Bool.false_or, decide_eq_false_iff_not]
  exact hplain

/-- The words of a text in lower case are its words in lower case. -/
theorem runs_lower (cs : List Char) :
    runs isWordBreak (lower cs) = (runs isWordBreak cs).map lower := by
  induction cs using words_induction isWordBreak with
  | last cs hcs =>
    by_cases hne : cs = []
    · rw [hne]
      rfl
    · rw [runs_of_forall hne hcs, List.map_singleton]
      exact runs_of_forall (mt lower_eq_nil_iff.mp hne) fun _ => isWordBreak_of_mem_lowerFrom hcs
  | next front s back hfront hs ih =>
    have hlower : lower (front ++ s :: back) = lower front ++ s :: lower back :=
      (isBarrier_of_isWordBreak hs).lowerFrom_append [] front back
    rw [hlower]
    by_cases hne : front = []
    · rw [hne, List.nil_append, runs_cons_of_sep hs]
      exact (runs_cons_of_sep hs _).trans ih
    · rw [runs_append_cons hne hfront hs, List.map_cons, ← ih]
      exact runs_append_cons (mt lower_eq_nil_iff.mp hne)
        (fun _ => isWordBreak_of_mem_lowerFrom hfront) hs (lower back)

end NetAtlas.Text
