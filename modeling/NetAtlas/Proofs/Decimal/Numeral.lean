import Mathlib.Algebra.Group.Nat.Defs
import Mathlib.Data.List.TakeWhile
import NetAtlas.Decimal.Numeral
import NetAtlas.Proofs.Text.Blank
import NetAtlas.Proofs.Text.Classes

/-!
Which texts of digits are numerals. A digit is neither a sign nor an underscore nor a blank, so such
a text is read as it stands, and it is a numeral when each of its digits has a value.
-/

namespace NetAtlas.Decimal

open Text

/-- The values of the decimal digits of a text. -/
def digitValues (cs : List Char) : List Nat := cs.filterMap digitValue?

theorem digitRun_of_not_mem {cs : List Char} (h : '_' ∉ cs) (afterDigit : Bool) :
    digitRun afterDigit cs =
      (digitValues (cs.takeWhile isDecimalDigit), cs.dropWhile isDecimalDigit) := by
  induction cs generalizing afterDigit with
  | nil => simp [digitRun, digitValues]
  | cons c cs ih =>
    have hc : c ≠ '_' := fun heq => h (heq ▸ List.mem_cons_self)
    have hcs : '_' ∉ cs := fun hmem => h (List.mem_cons_of_mem _ hmem)
    have hstep : digitRun afterDigit (c :: cs) = (digitValue? c).elim ([], c :: cs) fun d =>
        (d :: (digitRun true cs).1, (digitRun true cs).2) := by
      rw [digitRun.eq_def]
      split
      · rename_i heq
        exact absurd heq (List.cons_ne_nil _ _)
      · rename_i heq
        exact absurd (List.cons.inj heq).1 hc
      · rename_i heq
        cases heq
        cases digitValue? c <;> rfl
    rw [hstep, ih hcs]
    cases hvalue : digitValue? c with
    | some d => simp [isDecimalDigit, hvalue, digitValues]
    | none => simp [isDecimalDigit, hvalue, digitValues]

section Digits

variable {cs : List Char} (hdigits : ∀ c ∈ cs, isDigit c = true)
include hdigits

theorem trimBy_isPadding_of_digits : trimBy isPadding cs = cs := by
  have hnot : ∀ c ∈ cs, isPadding c = false := fun c hc => by
    simp [isPadding, isBlank_of_isDigit (hdigits c hc)]
  have hfront : cs.dropWhile isPadding = cs :=
    dropWhile_eq_self fun c hc => hnot c (List.mem_of_head? hc)
  have hback : cs.reverse.dropWhile isPadding = cs.reverse :=
    dropWhile_eq_self fun c hc => hnot c (List.mem_reverse.mp (List.mem_of_head? hc))
  rw [trimBy, hfront, hback, List.reverse_reverse]

theorem signOf_of_digits : signOf cs = (false, cs) := by
  have hminus : '-' ∉ cs := fun hmem => absurd (hdigits _ hmem) (by decide)
  have hplus : '+' ∉ cs := fun hmem => absurd (hdigits _ hmem) (by decide)
  rw [signOf.eq_def]
  split
  · exact absurd List.mem_cons_self hminus
  · exact absurd List.mem_cons_self hplus
  · rfl

theorem underscore_not_mem_of_digits : '_' ∉ cs :=
  fun hmem => absurd (hdigits _ hmem) (by decide)

end Digits

/-- A text of digits is a numeral unless one of them has no value. -/
theorem readInt?_of_allDigits {s : String} (h : allDigits s.toList = true) :
    readInt? s =
      if s.toList.all isDecimalDigit then some (ofDigits (digitValues s.toList) : Int)
      else none := by
  rw [allDigits, Bool.and_eq_true, List.all_eq_true] at h
  obtain ⟨hne, hdigits⟩ := h
  rw [readInt?, trimBy_isPadding_of_digits hdigits, signOf_of_digits hdigits]
  simp only [digitRun_of_not_mem (underscore_not_mem_of_digits hdigits)]
  by_cases hall : s.toList.all isDecimalDigit = true
  · have hrun : s.toList.takeWhile isDecimalDigit = s.toList :=
      List.takeWhile_eq_self_iff.mpr (List.all_eq_true.mp hall)
    have hrest : s.toList.dropWhile isDecimalDigit = [] :=
      List.dropWhile_eq_nil_iff.mpr (List.all_eq_true.mp hall)
    rw [hrun, hrest, if_pos hall]
    cases hcs : s.toList with
    | nil => simp [hcs] at hne
    | cons c cs =>
      have hc : isDecimalDigit c = true := List.all_eq_true.mp hall c (by simp [hcs])
      obtain ⟨d, hd⟩ := Option.isSome_iff_exists.mp hc
      simp [digitValues, hd]
  · have hrest : s.toList.dropWhile isDecimalDigit ≠ [] := fun hnil =>
      hall (List.all_eq_true.mpr (List.dropWhile_eq_nil_iff.mp hnil))
    rw [if_neg hall]
    split
    · rfl
    · rename_i hrun
      exact absurd (Prod.ext_iff.mp hrun).2 hrest
    · rfl

/-- The number that digits make when they follow those of another one. -/
def extend (n : Nat) (ds : List Nat) : Nat := ds.foldl (fun n d => 10 * n + d) n

theorem le_extend (n : Nat) (ds : List Nat) : n ≤ extend n ds := by
  induction ds generalizing n with
  | nil => exact Nat.le_refl n
  | cons d ds ih => exact Nat.le_trans (by omega) (ih (10 * n + d))

theorem extend_lt {ds : List Nat} (hdigits : ∀ d ∈ ds, d < 10) (n : Nat) :
    extend n ds < (n + 1) * 10 ^ ds.length := by
  induction ds generalizing n with
  | nil => simp [extend]
  | cons d ds ih =>
    obtain ⟨hd, hrest⟩ := List.forall_mem_cons.mp hdigits
    calc extend n (d :: ds) < (10 * n + d + 1) * 10 ^ ds.length := ih hrest (10 * n + d)
      _ ≤ (n + 1) * 10 * 10 ^ ds.length := Nat.mul_le_mul_right _ (by omega)
      _ = (n + 1) * 10 ^ (d :: ds).length := by rw [List.length_cons, Nat.pow_succ', Nat.mul_assoc]

end NetAtlas.Decimal
