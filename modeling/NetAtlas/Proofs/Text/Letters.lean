import NetAtlas.Proofs.Text.Classes

/-!
The case of ASCII letters. Nothing that is asked of a character tells a capital letter from its
small form, so a text that is written in either of them has the same lower case.
-/

namespace NetAtlas

namespace Text

/-- What a letter of ASCII is taken for does not depend on its case if that holds of the 26 pairs. -/
theorem apply_toLower {α : Type} {f : Char → α}
    (hletters : ∀ i : Fin 26, f (Char.ofNat (0x61 + i)) = f (Char.ofNat (0x41 + i))) (c : Char) :
    f c.toLower = f c := by
  by_cases hcapital : 0x41 ≤ c.toNat ∧ c.toNat ≤ 0x5A
  · have hsmall : ∀ i : Fin 26, (Char.ofNat (0x41 + i)).toLower = Char.ofNat (0x61 + i) := by decide
    obtain ⟨i, rfl⟩ : ∃ i : Fin 26, c = Char.ofNat (0x41 + i) := by
      refine ⟨⟨c.toNat - 0x41, by omega⟩, ?_⟩
      rw [Nat.add_sub_cancel' hcapital.1, Char.ofNat_toNat]
    rw [hsmall, hletters]
  · exact congrArg f (dif_neg hcapital)

theorem contains_asciiLetters_capital (i : Fin 26) :
    asciiLetters.contains (Char.ofNat (0x41 + i)).toNat = true := by
  revert i
  decide

theorem contains_asciiLetters_small (i : Fin 26) :
    asciiLetters.contains (Char.ofNat (0x61 + i)).toNat = true := by
  revert i
  decide

/-- What is never so of a letter of ASCII does not depend on the case. -/
theorem apply_toLower_of_letter {f : Char → Bool}
    (hletter : ∀ {c : Char}, asciiLetters.contains c.toNat = true → f c = false) (c : Char) :
    f c.toLower = f c := by
  refine apply_toLower (fun i => ?_) c
  rw [hletter (contains_asciiLetters_small i), hletter (contains_asciiLetters_capital i)]

theorem isBlank_toLower (c : Char) : isBlank c.toLower = isBlank c :=
  apply_toLower_of_letter isBlank_of_asciiLetter c

theorem isCaseIgnorable_toLower (c : Char) : isCaseIgnorable c.toLower = isCaseIgnorable c :=
  apply_toLower_of_letter isCaseIgnorable_of_asciiLetter c

theorem isDigit_toLower (c : Char) : isDigit c.toLower = isDigit c :=
  apply_toLower_of_letter isDigit_of_asciiLetter c

theorem isCased_toLower (c : Char) : isCased c.toLower = isCased c := by
  refine apply_toLower (fun i => ?_) c
  revert i
  decide

theorem lowerChar_toLower (c : Char) : lowerChar c.toLower = lowerChar c := by
  refine apply_toLower (fun i => ?_) c
  have hsmall : ∀ i : Fin 26, 0x5A < (Char.ofNat (0x61 + i)).toNat ∧
      (Char.ofNat (0x61 + i)).toNat < 0x80 := by decide
  have hcapital : ∀ i : Fin 26, lowerChar (Char.ofNat (0x41 + i)) = Char.ofNat (0x61 + i) := by
    decide
  rw [(isLower_of_ascii (hsmall i).2 (.inr (hsmall i).1)).stays, hcapital]

theorem toLower_eq_iff (sep : Char)
    (hsep : ∀ i : Fin 26, sep ≠ Char.ofNat (0x61 + i) ∧ sep ≠ Char.ofNat (0x41 + i)) (c : Char) :
    c.toLower = sep ↔ c = sep := by
  have hsame : decide (c.toLower = sep) = decide (c = sep) := by
    refine apply_toLower (f := fun c => decide (c = sep)) (fun i => ?_) c
    simp [(hsep i).1.symm, (hsep i).2.symm]
  simpa using hsame

theorem startsCased_toLower (cs : List Char) : startsCased (cs.map Char.toLower) = startsCased cs := by
  have hignorable : isCaseIgnorable ∘ Char.toLower = isCaseIgnorable :=
    funext isCaseIgnorable_toLower
  rw [startsCased, startsCased, List.dropWhile_map, hignorable]
  cases cs.dropWhile isCaseIgnorable with
  | nil => rfl
  | cons c cs => exact isCased_toLower c

theorem lowerFrom_toLower (before cs : List Char) :
    lowerFrom (before.map Char.toLower) (cs.map Char.toLower) = lowerFrom before cs := by
  induction cs generalizing before with
  | nil => rfl
  | cons c cs ih =>
    have hform : formOf (before.map Char.toLower) c.toLower (cs.map Char.toLower) =
        formOf before c cs := by
      rw [formOf, formOf, startsCased_toLower, startsCased_toLower, lowerChar_toLower]
      simp only [toLower_eq_iff '\u0130' (by decide), toLower_eq_iff '\u03A3' (by decide)]
    rw [List.map_cons, lowerFrom_cons, lowerFrom_cons, hform, ← List.map_cons, ih]

/-- Lower case does not see the case of ASCII letters. -/
theorem lower_toLower (cs : List Char) : lower (cs.map Char.toLower) = lower cs :=
  lowerFrom_toLower [] cs

theorem allDigits_toLower (cs : List Char) : allDigits (cs.map Char.toLower) = allDigits cs := by
  have hdigit : isDigit ∘ Char.toLower = isDigit := funext isDigit_toLower
  rw [allDigits, allDigits, List.isEmpty_map, List.all_map, hdigit]

end Text

end NetAtlas
