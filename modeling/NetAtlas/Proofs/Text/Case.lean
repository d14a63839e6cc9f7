import NetAtlas.Proofs.Text.Blank
import NetAtlas.Text.Case

/-!
Lower case. What a text in lower case holds is settled: it stays as it is when it is put in lower
case once more. Blanks and commas neither come nor go on the way.
-/

namespace NetAtlas

namespace Text

/-- The code points from `start` on by `step`, as the bits of a number. -/
def stepBits (start step : Nat) : Nat → Nat
  | 0 => 0
  | count + 1 => stepBits start step count ||| 1 <<< (start + step * count)

theorem testBit_stepBits {count i : Nat} (start step : Nat) (h : i < count) :
    (stepBits start step count).testBit (start + step * i) = true := by
  induction count with
  | zero => omega
  | succ count ih =>
    rw [stepBits, Nat.testBit_or, Bool.or_eq_true]
    rcases Nat.lt_succ_iff_lt_or_eq.mp h with h | rfl
    · exact .inl (ih h)
    · right
      rw [Nat.one_shiftLeft]
      exact Nat.testBit_two_pow_self

/-- The code points of all runs, each run moved to a start of its own. -/
def runBits (start : Nat × Nat × Nat × Int → Nat) : List (Nat × Nat × Nat × Int) → Nat
  | [] => 0
  | r :: rs => stepBits (start r) r.2.2.1 ((r.2.1 - r.1) / r.2.2.1 + 1) ||| runBits start rs

theorem testBit_runBits (start : Nat × Nat × Nat × Int → Nat) {rs : List (Nat × Nat × Nat × Int)}
    {n first last step : Nat} {shift : Int} (hrun : (first, last, step, shift) ∈ rs)
    (hin : inRun n (first, last, step, shift) = true) :
    (runBits start rs).testBit (start (first, last, step, shift) + (n - first)) = true := by
  induction rs with
  | nil => exact absurd hrun List.not_mem_nil
  | cons r rs ih =>
    rw [runBits, Nat.testBit_or, Bool.or_eq_true]
    rcases List.mem_cons.mp hrun with rfl | hrun
    · left
      simp only [inRun, Bool.and_eq_true, decide_eq_true_eq] at hin
      obtain ⟨⟨hfirst, hlast⟩, hstep⟩ := hin
      have hindex : (n - first) / step < (last - first) / step + 1 :=
        Nat.lt_succ_of_le (Nat.div_le_div_right (Nat.sub_le_sub_right hlast first))
      have hbit := testBit_stepBits (start (first, last, step, shift)) step hindex
      rwa [Nat.mul_div_cancel' (Nat.dvd_of_mod_eq_zero hstep)] at hbit
    · exact .inr (ih hrun)

/-- Where the forms of a run start. -/
def formStart (r : Nat × Nat × Nat × Int) : Nat := (r.1 + r.2.2.2).toNat

/-- No form that a run leads to belongs to a run itself. Runs of every second code point interleave,
    so the points are compared and not the ranges. -/
theorem forms_apart : runBits (·.1) lowerRuns &&& runBits formStart lowerRuns = 0 := by
  decide +kernel

/-- The forms that a run leads to are code points of characters beyond the comma; none of them is
    blank or has a form of its own by context. -/
def settles : Nat × Nat × Nat × Int → Bool
  | (first, last, _, shift) =>
    let low := (first + shift).toNat
    let high := (last + shift).toNat
    let avoids (a b : Nat) : Bool := Nat.blt high a || Nat.blt b low
    Nat.ble 0x61 low && Nat.ble high 0x10FFFF && avoids 0xD800 0xDFFF
      && avoids 0x130 0x130 && avoids 0x3A3 0x3A3
      && blankRanges.all fun (a, b) => avoids a b

theorem settles_lowerRuns : lowerRuns.all settles = true := by decide +kernel

/-- What a code point is like that some run leads to. -/
structure Landing (m : Nat) : Prop where
  valid : m.isValidChar
  beyond : 0x61 ≤ m
  notDotted : m ≠ 0x130
  notSigma : m ≠ 0x3A3
  notBlank : blankRanges.contains m = false
  settled : ∀ r ∈ lowerRuns, inRun m r = false

theorem landing_of_inRun {n first last step : Nat} {shift : Int}
    (hrun : (first, last, step, shift) ∈ lowerRuns)
    (hin : inRun n (first, last, step, shift) = true) : Landing (n + shift).toNat := by
  have hsettles := List.all_eq_true.mp settles_lowerRuns _ hrun
  simp only [settles, Bool.and_eq_true, Bool.or_eq_true, Nat.blt_eq, Nat.ble_eq,
    List.all_eq_true] at hsettles
  obtain ⟨⟨⟨⟨⟨hlow, hhigh⟩, hsurrogate⟩, hdotted⟩, hsigma⟩, hblank⟩ := hsettles
  have hform := testBit_runBits formStart hrun hin
  simp only [inRun, Bool.and_eq_true, decide_eq_true_eq] at hin
  obtain ⟨⟨hfirst, hlast⟩, -⟩ := hin
  have hm : ((n + shift).toNat : Int) = n + shift := Int.toNat_of_nonneg (by omega)
  generalize (n + shift).toNat = m at hm
  have hplace : formStart (first, last, step, shift) + (n - first) = m := by
    dsimp only [formStart]
    omega
  refine ⟨?_, by omega, by omega, by omega, ?_, ?_⟩
  · simp only [Nat.isValidChar]
    omega
  · simp only [Ranges.contains, List.any_eq_false, Bool.and_eq_true, decide_eq_true_eq]
    intro r hr
    have hapart := hblank r hr
    omega
  · rintro ⟨a, b, gap, other⟩ hr
    rw [Bool.eq_false_iff]
    intro hin'
    have hcapital := testBit_runBits (·.1) hr hin'
    simp only [inRun, Bool.and_eq_true, decide_eq_true_eq] at hin'
    rw [hplace] at hform
    rw [Nat.add_sub_cancel' hin'.1.1] at hcapital
    have hboth := congrArg (·.testBit m) forms_apart
    simp [hcapital, hform] at hboth

/-- The character is itself as part of any text in lower case. -/
structure IsLower (c : Char) : Prop where
  notDotted : c ≠ '\u0130'
  notSigma : c ≠ '\u03A3'
  stays : lowerChar c = c

theorem lowerChar_cases (c : Char) :
    (lowerChar c = c ∧ ∀ r ∈ lowerRuns, inRun c.toNat r = false) ∨
      Landing (lowerChar c).toNat := by
  cases hfind : lowerRuns.find? (inRun c.toNat) with
  | none =>
    left
    refine ⟨by simp [lowerChar, hfind], ?_⟩
    simpa using hfind
  | some r =>
    obtain ⟨first, last, step, shift⟩ := r
    right
    have hlanding := landing_of_inRun (List.mem_of_find?_eq_some hfind) (List.find?_some hfind)
    have hform : lowerChar c = Char.ofNat (c.toNat + shift).toNat := by simp [lowerChar, hfind]
    have hcode : (Char.ofNat (c.toNat + shift).toNat).toNat = (c.toNat + shift).toNat := by
      rw [Char.ofNat, dif_pos hlanding.valid]
      rfl
    rwa [hform, hcode]

theorem lowerChar_of_forall {c : Char} (h : ∀ r ∈ lowerRuns, inRun c.toNat r = false) :
    lowerChar c = c := by
  have hfind : lowerRuns.find? (inRun c.toNat) = none := by simpa using h
  simp [lowerChar, hfind]

theorem isLower_lowerChar {c : Char} (hdotted : c ≠ '\u0130') (hsigma : c ≠ '\u03A3') :
    IsLower (lowerChar c) := by
  rcases lowerChar_cases c with ⟨hsame, _⟩ | hlanding
  · rw [hsame]
    exact ⟨hdotted, hsigma, hsame⟩
  · refine ⟨?_, ?_, lowerChar_of_forall hlanding.settled⟩
    · intro h
      exact hlanding.notDotted (by rw [h]; rfl)
    · intro h
      exact hlanding.notSigma (by rw [h]; rfl)

theorem lowerRuns_beyond_ascii :
    ∀ r ∈ lowerRuns, (r.1 = 0x41 ∧ r.2.1 = 0x5A) ∨ 0x80 ≤ r.1 := by decide +kernel

/-- The ASCII characters that are in lower case are all those but the capital letters. -/
theorem isLower_of_ascii {c : Char} (hascii : c.toNat < 0x80)
    (hsmall : c.toNat < 0x41 ∨ 0x5A < c.toNat) : IsLower c := by
  refine ⟨?_, ?_, lowerChar_of_forall ?_⟩
  · rintro rfl
    exact absurd hascii (by decide)
  · rintro rfl
    exact absurd hascii (by decide)
  · rintro ⟨first, last, step, shift⟩ hr
    have hbeyond := lowerRuns_beyond_ascii _ hr
    simp only [inRun, Bool.and_eq_false_iff, decide_eq_false_iff_not]
    dsimp only at hbeyond
    omega

/-- What comes before the small letters is the lower-case form of itself alone. -/
theorem eq_of_lowerChar {c d : Char} (hd : d.toNat < 0x61) (h : lowerChar c = d) : c = d := by
  rcases lowerChar_cases c with ⟨hsame, _⟩ | hlanding
  · rwa [hsame] at h
  · have hbeyond := hlanding.beyond
    rw [h] at hbeyond
    omega

theorem isBlank_lowerChar {c : Char} (h : isBlank c = false) : isBlank (lowerChar c) = false := by
  rcases lowerChar_cases c with ⟨hsame, _⟩ | hlanding
  · rwa [hsame]
  · exact hlanding.notBlank

/-- What one character becomes in lower case, between the ones before and after it. -/
def formOf (before : List Char) (c : Char) (after : List Char) : List Char :=
  if c = '\u0130' then ['i', '\u0307']
  else if c = '\u03A3' then
    [if startsCased before && !startsCased after then '\u03C2' else '\u03C3']
  else [lowerChar c]

theorem lowerFrom_cons (before : List Char) (c : Char) (cs : List Char) :
    lowerFrom before (c :: cs) = formOf before c cs ++ lowerFrom (c :: before) cs := rfl

theorem formOf_ne_nil (before : List Char) (c : Char) (after : List Char) :
    formOf before c after ≠ [] := by
  rw [formOf]
  split
  · simp
  · split <;> simp

theorem isLower_of_mem_formOf {before after : List Char} {c d : Char}
    (h : d ∈ formOf before c after) : IsLower d := by
  rw [formOf] at h
  split at h
  · simp only [List.mem_cons, List.not_mem_nil, or_false] at h
    rcases h with rfl | rfl <;> exact ⟨by decide, by decide, by decide +kernel⟩
  · rename_i hdotted
    split at h
    · rw [List.mem_singleton] at h
      subst h
      split <;> exact ⟨by decide, by decide, by decide +kernel⟩
    · rename_i hsigma
      rw [List.mem_singleton] at h
      subst h
      exact isLower_lowerChar hdotted hsigma

theorem eq_of_mem_formOf {before after : List Char} {c d : Char} (hd : d.toNat < 0x61)
    (h : d ∈ formOf before c after) : c = d := by
  rw [formOf] at h
  split at h
  · simp only [List.mem_cons, List.not_mem_nil, or_false] at h
    rcases h with rfl | rfl <;> exact absurd hd (by decide)
  · split at h
    · rw [List.mem_singleton] at h
      subst h
      split at hd <;> exact absurd hd (by decide)
    · rw [List.mem_singleton] at h
      exact eq_of_lowerChar hd h.symm

theorem isBlank_of_mem_formOf {before after : List Char} {c d : Char} (hc : isBlank c = false)
    (h : d ∈ formOf before c after) : isBlank d = false := by
  rw [formOf] at h
  split at h
  · simp only [List.mem_cons, List.not_mem_nil, or_false] at h
    rcases h with rfl | rfl <;> decide
  · split at h
    · rw [List.mem_singleton] at h
      subst h
      split <;> decide
    · rw [List.mem_singleton] at h
      subst h
      exact isBlank_lowerChar hc

theorem isLower_of_mem_lowerFrom {before cs : List Char} {d : Char} (h : d ∈ lowerFrom before cs) :
    IsLower d := by
  induction cs generalizing before with
  | nil => exact absurd h List.not_mem_nil
  | cons c cs ih =>
    rw [lowerFrom_cons] at h
    rcases List.mem_append.mp h with h | h
    · exact isLower_of_mem_formOf h
    · exact ih h

theorem lowerFrom_of_isLower {before cs : List Char} (h : ∀ c ∈ cs, IsLower c) :
    lowerFrom before cs = cs := by
  induction cs generalizing before with
  | nil => rfl
  | cons c cs ih =>
    obtain ⟨hdotted, hsigma, hstays⟩ := h c List.mem_cons_self
    rw [lowerFrom_cons, ih fun d hd => h d (List.mem_cons_of_mem _ hd)]
    simp [formOf, hdotted, hsigma, hstays]

/-- Lower case of a text in lower case is the text itself. -/
theorem lower_lower (cs : List Char) : lower (lower cs) = lower cs :=
  lowerFrom_of_isLower fun _ => isLower_of_mem_lowerFrom

theorem mem_of_mem_lowerFrom {before cs : List Char} {d : Char} (hd : d.toNat < 0x61)
    (h : d ∈ lowerFrom before cs) : d ∈ cs := by
  induction cs generalizing before with
  | nil => exact h
  | cons c cs ih =>
    rw [lowerFrom_cons] at h
    rcases List.mem_append.mp h with h | h
    · rw [eq_of_mem_formOf hd h]
      exact List.mem_cons_self
    · exact List.mem_cons_of_mem _ (ih h)

theorem lower_eq_nil_iff {cs : List Char} : lower cs = [] ↔ cs = [] := by
  cases cs with
  | nil => simp [lower, lowerFrom]
  | cons c cs => simp [lower, lowerFrom_cons, formOf_ne_nil]

/-- What a text ends in comes to the end of its lower case. -/
theorem exists_lowerFrom_append (before cs rest : List Char) :
    ∃ start, lowerFrom before (cs ++ rest) = start ++ lowerFrom (cs.reverse ++ before) rest := by
  induction cs generalizing before with
  | nil => exact ⟨[], rfl⟩
  | cons c cs ih =>
    obtain ⟨start, hstart⟩ := ih (c :: before)
    refine ⟨formOf before c (cs ++ rest) ++ start, ?_⟩
    rw [List.cons_append, lowerFrom_cons, hstart]
    simp

/-- Lower case of a trimmed text has no blank at its ends either. -/
theorem Trimmed.lower {cs : List Char} (h : Trimmed cs) : Trimmed (lower cs) := by
  constructor
  · intro d hd
    cases cs with
    | nil => simp [Text.lower, lowerFrom] at hd
    | cons c cs =>
      have hne := formOf_ne_nil [] c cs
      rw [Text.lower, lowerFrom_cons, List.head?_append, List.head?_eq_some_head hne] at hd
      have hfirst : (formOf [] c cs).head hne = d := by simpa using hd
      exact isBlank_of_mem_formOf (h.1 c rfl) (hfirst ▸ List.head_mem hne)
  · intro d hd
    rcases List.eq_nil_or_concat cs with rfl | ⟨front, c, rfl⟩
    · simp [Text.lower, lowerFrom] at hd
    · rw [List.concat_eq_append] at h hd
      obtain ⟨start, hstart⟩ := exists_lowerFrom_append [] front [c]
      have hne := formOf_ne_nil (front.reverse ++ []) c []
      rw [Text.lower, hstart, lowerFrom_cons, lowerFrom, List.append_nil, List.getLast?_append,
        List.getLast?_eq_some_getLast hne] at hd
      have hlast : (formOf (front.reverse ++ []) c []).getLast hne = d := by simpa using hd
      exact isBlank_of_mem_formOf (h.2 c (by simp)) (hlast ▸ List.getLast_mem hne)

end Text

theorem lowered_lowered (s : String) : lowered (lowered s) = lowered s := by
  simp [lowered, Text.lower_lower]

theorem lowered_eq_empty_iff {s : String} : lowered s = "" ↔ s = "" := by
  simp [lowered, Text.lower_eq_nil_iff]

/-- Lower case keeps a trimmed text trimmed. -/
theorem trimmed_lowered {s : String} (h : trimmed s = s) : trimmed (lowered s) = lowered s := by
  simp [trimmed, lowered, (trimmed_toList h).lower.trim_eq]

end NetAtlas
