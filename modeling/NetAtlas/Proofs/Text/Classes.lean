import NetAtlas.Proofs.Text.Case
import NetAtlas.Text.Digit

/-!
Classes of characters that have nothing in common. Blanks have no case and are no digits; the
letters of ASCII are neither blanks nor digits, nor marks that are skipped at the end of a word.
-/

namespace NetAtlas.Text

namespace Ranges

/-- No range of one class meets a range of the other. -/
def apart (rs ss : Ranges) : Bool :=
  rs.all fun (first, last) => ss.all fun (low, high) => Nat.blt last low || Nat.blt high first

theorem contains_eq_false_of_apart {rs ss : Ranges} {n : Nat} (h : rs.apart ss = true)
    (hn : rs.contains n = true) : ss.contains n = false := by
  obtain ⟨⟨first, last⟩, hr, hcover⟩ := List.any_eq_true.mp hn
  have hrow := List.all_eq_true.mp (List.all_eq_true.mp h _ hr)
  rw [contains, List.any_eq_false]
  rintro ⟨low, high⟩ hs
  have hgap := hrow _ hs
  simp only [Bool.and_eq_true, decide_eq_true_eq, Bool.or_eq_true, Nat.blt_eq] at hcover hgap ⊢
  omega

end Ranges

/-- The blocks of decimal digits. -/
def digitBlocks : Ranges := zeros.map fun z => (z, z + 9)

theorem contains_digitBlocks_of_isDecimalDigit {c : Char} (h : isDecimalDigit c = true) :
    digitBlocks.contains c.toNat = true := by
  rw [isDecimalDigit, digitValue?, Option.isSome_map, List.find?_isSome] at h
  obtain ⟨first, hfirst, hcover⟩ := h
  refine List.any_eq_true.mpr ⟨_, List.mem_map_of_mem hfirst, ?_⟩
  simp only [Bool.and_eq_true, decide_eq_true_eq] at hcover ⊢
  omega

theorem isDigit_eq_false {c : Char} (hblocks : digitBlocks.contains c.toNat = false)
    (hothers : otherDigitRanges.contains c.toNat = false) : isDigit c = false := by
  rw [isDigit, hothers, Bool.or_false, Bool.eq_false_iff]
  intro hdigit
  have hcover := contains_digitBlocks_of_isDecimalDigit hdigit
  exact absurd hcover (by simp [hblocks])

section Blank

/-- What is put in lower case, apart from its form there. -/
def loweredRanges : Ranges := lowerRuns.map fun r => (r.1, r.2.1)

theorem blankRanges_apart :
    [casedRanges, caseIgnorableRanges, loweredRanges, digitBlocks, otherDigitRanges].all
      (blankRanges.apart ·) = true := by
  decide +kernel

variable {c : Char} (h : isBlank c = true)
include h

theorem contains_of_isBlank {rs : Ranges}
    (hrs : rs ∈ [casedRanges, caseIgnorableRanges, loweredRanges, digitBlocks, otherDigitRanges]) :
    rs.contains c.toNat = false :=
  Ranges.contains_eq_false_of_apart (List.all_eq_true.mp blankRanges_apart rs hrs) h

theorem isCased_of_isBlank : isCased c = false := contains_of_isBlank h (by simp)

theorem isCaseIgnorable_of_isBlank : isCaseIgnorable c = false := contains_of_isBlank h (by simp)

theorem isLower_of_isBlank : IsLower c := by
  have hcontains : loweredRanges.contains c.toNat = false := contains_of_isBlank h (by simp)
  have hout := List.any_eq_false.mp hcontains
  refine ⟨?_, ?_, lowerChar_of_forall fun r hr => ?_⟩
  · rintro rfl
    exact absurd h (by decide)
  · rintro rfl
    exact absurd h (by decide)
  · have hr' := hout _ (List.mem_map_of_mem hr)
    simp only [Bool.not_eq_true] at hr'
    rw [inRun, hr', Bool.false_and]

theorem isDigit_of_isBlank : isDigit c = false :=
  isDigit_eq_false (contains_of_isBlank h (by simp)) (contains_of_isBlank h (by simp))

end Blank

theorem isBlank_of_isDigit {c : Char} (h : isDigit c = true) : isBlank c = false := by
  rw [Bool.eq_false_iff]
  intro hblank
  exact absurd h (by simp [isDigit_of_isBlank hblank])

section Letter

/-- The letters of ASCII. -/
def asciiLetters : Ranges := [(0x41, 0x5A), (0x61, 0x7A)]

theorem asciiLetters_apart :
    [blankRanges, caseIgnorableRanges, digitBlocks, otherDigitRanges].all
      (asciiLetters.apart ·) = true := by
  decide +kernel

variable {c : Char} (h : asciiLetters.contains c.toNat = true)
include h

theorem contains_of_asciiLetter {rs : Ranges}
    (hrs : rs ∈ [blankRanges, caseIgnorableRanges, digitBlocks, otherDigitRanges]) :
    rs.contains c.toNat = false :=
  Ranges.contains_eq_false_of_apart (List.all_eq_true.mp asciiLetters_apart rs hrs) h

theorem isBlank_of_asciiLetter : isBlank c = false := contains_of_asciiLetter h (by simp)

theorem isCaseIgnorable_of_asciiLetter : isCaseIgnorable c = false :=
  contains_of_asciiLetter h (by simp)

theorem isDigit_of_asciiLetter : isDigit c = false :=
  isDigit_eq_false (contains_of_asciiLetter h (by simp)) (contains_of_asciiLetter h (by simp))

end Letter

end NetAtlas.Text
