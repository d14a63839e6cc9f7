import Mathlib.Data.List.Forall2
import Mathlib.Data.List.TakeWhile
import NetAtlas.Projection.MapFile

/-!
The first attribute of a name in a text: where it stands, and that the search finds its value.
-/

namespace NetAtlas.MapFile

section

variable (name : List Char) (allowed : Char → Bool)

/-- An attribute of the name, in either case, stands at the front of the text. Its value, in quotes,
consists of allowed characters. -/
def Opens (value cs : List Char) : Prop :=
  ∃ spelled after, cs = spelled ++ '=' :: '"' :: (value ++ '"' :: after) ∧
    List.Forall₂ (fun letter c => sameLetter letter c = true) name spelled ∧
    value ≠ [] ∧ ∀ c ∈ value, allowed c = true

/-- The last character belongs to a word; without one, what came before says so. -/
def endsInWord (inWord : Bool) (front : List Char) : Bool :=
  (front.getLast?.map Text.isWordChar).getD inWord

/-- Behind some of the text, and at the start of a word, stands an attribute of the name. -/
def Stands (inWord : Bool) (value front back : List Char) : Prop :=
  endsInWord inWord front = false ∧ Opens name allowed value back

/-- The text has an attribute of the name, of which the first has the value. -/
def Bears (inWord : Bool) (value cs : List Char) : Prop :=
  ∃ front back, cs = front ++ back ∧ Stands name allowed inWord value front back ∧
    ∀ front' back' value', cs = front' ++ back' → front'.length < front.length →
      ¬ Stands name allowed inWord value' front' back'

/-- The text has no attribute of the name. -/
def Lacks (inWord : Bool) (cs : List Char) : Prop :=
  ∀ front back value, cs = front ++ back → ¬ Stands name allowed inWord value front back

end

theorem endsInWord_cons (inWord : Bool) (c : Char) (front : List Char) :
    endsInWord inWord (c :: front) = endsInWord (Text.isWordChar c) front := by
  rw [endsInWord, endsInWord, List.getLast?_cons]
  cases front.getLast? <;> rfl

theorem afterName?_eq_some_iff {name cs rest : List Char} :
    afterName? name cs = some rest ↔
      ∃ spelled, cs = spelled ++ rest ∧
        List.Forall₂ (fun letter c => sameLetter letter c = true) name spelled := by
  induction name generalizing cs with
  | nil => simp [afterName?]
  | cons letter name ih =>
    constructor
    · intro h
      cases cs with
      | nil => cases h
      | cons c cs =>
        rw [afterName?] at h
        split at h
        · rename_i hletter
          obtain ⟨spelled, rfl, hspelled⟩ := ih.mp h
          exact ⟨c :: spelled, rfl, .cons hletter hspelled⟩
        · cases h
    · rintro ⟨spelled, rfl, hspelled⟩
      cases hspelled with
      | cons hletter hrest =>
        rw [List.cons_append, afterName?, if_pos hletter]
        exact ih.mpr ⟨_, rfl, hrest⟩

section

variable {name : List Char} {allowed : Char → Bool}

/-- What is not allowed ends the value. -/
theorem quoted_eq_iff (hquote : allowed '"' = false) {value rest : List Char} :
    (rest.takeWhile allowed = value ∧ ∃ after, rest.dropWhile allowed = '"' :: after) ↔
      (∃ after, rest = value ++ '"' :: after) ∧ ∀ c ∈ value, allowed c = true := by
  constructor
  · rintro ⟨rfl, after, hafter⟩
    refine ⟨⟨after, ?_⟩, fun c => List.mem_takeWhile_imp⟩
    rw [← hafter, List.takeWhile_append_dropWhile]
  · rintro ⟨⟨after, rfl⟩, hvalue⟩
    rw [List.takeWhile_append_of_pos hvalue, List.dropWhile_append_of_pos hvalue,
      List.takeWhile_cons_of_neg (by simp [hquote]), List.dropWhile_cons_of_neg (by simp [hquote]),
      List.append_nil]
    exact ⟨rfl, after, rfl⟩

theorem valueAt?_eq_some_iff (hquote : allowed '"' = false) {value cs : List Char} :
    valueAt? name allowed cs = some value ↔ Opens name allowed value cs := by
  constructor
  · intro h
    rw [valueAt?] at h
    split at h
    · rename_i rest hname
      obtain ⟨spelled, rfl, hspelled⟩ := afterName?_eq_some_iff.mp hname
      split at h
      · rename_i c digits after htake hdrop
        obtain rfl := Option.some.inj h
        obtain ⟨⟨after, rfl⟩, hallowed⟩ := (quoted_eq_iff hquote).mp ⟨htake, _, hdrop⟩
        exact ⟨spelled, after, rfl, hspelled, List.cons_ne_nil _ _, hallowed⟩
      · cases h
    · cases h
  · rintro ⟨spelled, after, rfl, hspelled, hne, hallowed⟩
    obtain ⟨htake, after', hdrop⟩ := (quoted_eq_iff hquote).mpr ⟨⟨after, rfl⟩, hallowed⟩
    rw [valueAt?, afterName?_eq_some_iff.mpr ⟨spelled, rfl, hspelled⟩]
    obtain ⟨c, value, rfl⟩ := List.exists_cons_of_ne_nil hne
    simp only [htake, hdrop]

theorem not_opens_nil {value : List Char} : ¬ Opens name allowed value [] := by
  rintro ⟨spelled, after, hcs, -⟩
  simp at hcs

theorem attribute?_cons (inWord : Bool) (c : Char) (cs : List Char) :
    attribute? name allowed inWord (c :: cs) =
      (if inWord then none else valueAt? name allowed (c :: cs)).or
        (attribute? name allowed (Text.isWordChar c) cs) := by
  cases inWord <;> rfl

theorem stands_nil_iff (hquote : allowed '"' = false) {inWord : Bool} {value cs : List Char} :
    Stands name allowed inWord value [] cs ↔
      (if inWord then none else valueAt? name allowed cs) = some value := by
  rw [Stands, ← valueAt?_eq_some_iff hquote]
  cases inWord <;> simp [endsInWord]

theorem stands_cons_iff {inWord : Bool} {c : Char} {value front back : List Char} :
    Stands name allowed inWord value (c :: front) back ↔
      Stands name allowed (Text.isWordChar c) value front back := by
  rw [Stands, Stands, endsInWord_cons]

theorem lacks_cons_iff {inWord : Bool} {c : Char} {cs : List Char} :
    Lacks name allowed inWord (c :: cs) ↔
      (∀ value, ¬ Stands name allowed inWord value [] (c :: cs)) ∧
        Lacks name allowed (Text.isWordChar c) cs := by
  constructor
  · intro h
    exact ⟨fun value => h [] (c :: cs) value rfl, fun front back value hcs hstands =>
      h (c :: front) back value (by rw [hcs, List.cons_append]) (stands_cons_iff.mpr hstands)⟩
  · rintro ⟨hhere, hlater⟩ front back value hcs hstands
    cases front with
    | nil =>
      obtain rfl : c :: cs = back := hcs
      exact hhere value hstands
    | cons d front =>
      obtain ⟨rfl, rfl⟩ := List.cons.inj hcs
      exact hlater front back value rfl (stands_cons_iff.mp hstands)

theorem bears_cons_iff {inWord : Bool} {c : Char} {value cs : List Char} :
    Bears name allowed inWord value (c :: cs) ↔
      Stands name allowed inWord value [] (c :: cs) ∨
        (∀ value', ¬ Stands name allowed inWord value' [] (c :: cs)) ∧
          Bears name allowed (Text.isWordChar c) value cs := by
  constructor
  · rintro ⟨front, back, hcs, hstands, hfirst⟩
    cases front with
    | nil =>
      obtain rfl : c :: cs = back := hcs
      exact .inl hstands
    | cons d front =>
      obtain ⟨rfl, rfl⟩ := List.cons.inj hcs
      refine .inr ⟨fun value' => hfirst [] _ value' rfl (by simp), front, back, rfl,
        stands_cons_iff.mp hstands, ?_⟩
      intro front' back' value' hcs' hshorter hstands'
      exact hfirst (c :: front') back' value' (by rw [List.cons_append, ← hcs'])
        (Nat.succ_lt_succ hshorter) (stands_cons_iff.mpr hstands')
  · rintro (hstands | ⟨hhere, front, back, rfl, hstands, hfirst⟩)
    · exact ⟨[], c :: cs, rfl, hstands, fun _ _ _ _ hshorter => absurd hshorter (Nat.not_lt_zero _)⟩
    · refine ⟨c :: front, back, rfl, stands_cons_iff.mpr hstands, ?_⟩
      intro front' back' value' hcs' hshorter hstands'
      cases front' with
      | nil =>
        obtain rfl : c :: (front ++ back) = back' := hcs'
        exact hhere value' hstands'
      | cons d front' =>
        obtain ⟨rfl, htail⟩ := List.cons.inj hcs'
        exact hfirst front' back' value' htail (Nat.lt_of_succ_lt_succ hshorter)
          (stands_cons_iff.mp hstands')

theorem attribute?_eq_none_iff (hquote : allowed '"' = false) {inWord : Bool} {cs : List Char} :
    attribute? name allowed inWord cs = none ↔ Lacks name allowed inWord cs := by
  -- What came before a place changes from character to character, so it has to vary.
  induction cs generalizing inWord with
  | nil =>
    refine ⟨fun _ front back value hcs hstands => ?_, fun _ => rfl⟩
    obtain ⟨-, rfl⟩ := List.append_eq_nil_iff.mp hcs.symm
    exact not_opens_nil hstands.2
  | cons c cs ih =>
    rw [attribute?_cons, Option.or_eq_none_iff, ih, lacks_cons_iff]
    simp only [stands_nil_iff hquote, Option.eq_none_iff_forall_ne_some, ne_eq]

/-- The search finds the value of the first attribute. -/
theorem attribute?_eq_some_iff (hquote : allowed '"' = false) {inWord : Bool}
    {value cs : List Char} :
    attribute? name allowed inWord cs = some value ↔ Bears name allowed inWord value cs := by
  induction cs generalizing inWord with
  | nil =>
    refine ⟨fun h => (by cases h), ?_⟩
    rintro ⟨front, back, hcs, hstands, -⟩
    obtain ⟨-, rfl⟩ := List.append_eq_nil_iff.mp hcs.symm
    exact absurd hstands.2 not_opens_nil
  | cons c cs ih =>
    rw [attribute?_cons, Option.or_eq_some_iff, ih, bears_cons_iff]
    simp only [stands_nil_iff hquote, Option.eq_none_iff_forall_ne_some, ne_eq]

end

end NetAtlas.MapFile
