import NetAtlas.Proofs.Value.Faults
import NetAtlas.Value.Order

/-!
Which values can be put in order. That does not depend on the way in which they are compared, and
for values that cannot, a comparison ends in a fault of one kind only.
-/

namespace NetAtlas

namespace Value

/-- Two numbers always compare. -/
theorem compares_of_number? {way : Comparison} {v w : Value} {m n : Number}
    (hv : v.number? = some m) (hw : w.number? = some n) :
    compares way v w = .ok (way.holdsOf m n) := by
  have hatoms : comparesAtoms way v w = .ok (way.holdsOf m n) := by
    rw [comparesAtoms]
    · rw [hv, hw]
    · rintro s t rfl
      exact absurd hv (by simp [number?])
  rw [compares]
  · exact hatoms
  · rintro as bs rfl
    exact absurd hv (by simp [number?])

/-- Two values can be put in order: texts, numbers, and lists of which one ends where they differ, or
    has an item there that can be put in order with the other's. -/
inductive Comparable : Value → Value → Prop
  | texts (s t : String) : Comparable (.text s) (.text t)
  | numbers {v w : Value} {m n : Number} (hv : v.number? = some m) (hw : w.number? = some n) :
      Comparable v w
  | endsLeft (bs : List Value) : Comparable (.list []) (.list bs)
  | endsRight (as : List Value) : Comparable (.list as) (.list [])
  | alike {a b : Value} {as bs : List Value} (h : same a b = true)
      (hrest : Comparable (.list as) (.list bs)) : Comparable (.list (a :: as)) (.list (b :: bs))
  | different {a b : Value} {as bs : List Value} (h : same a b = false) (hitems : Comparable a b) :
      Comparable (.list (a :: as)) (.list (b :: bs))

theorem comparable_or_fault_of_atoms (way : Comparison) (v w : Value) :
    Comparable v w ∨ comparesAtoms way v w = .error (.incomparable way.sign v w) := by
  rw [comparesAtoms.eq_def]
  split
  · exact .inl (.texts _ _)
  · split
    · rename_i hv hw
      exact .inl (.numbers hv hw)
    · exact .inr rfl

/-- Values that cannot be put in order, or items in them that cannot, are the fault of a comparison. -/
theorem comparable_or_fault (way : Comparison) (v w : Value) :
    Comparable v w ∨ ∃ a b, compares way v w = .error (.incomparable way.sign a b) := by
  refine compares.induct
    (fun v w => Comparable v w ∨ ∃ a b, compares way v w = .error (.incomparable way.sign a b))
    (fun as bs => Comparable (.list as) (.list bs) ∨
      ∃ a b, comparesItems way as bs = .error (.incomparable way.sign a b))
    ?lists ?others ?bothEnd ?leftEnds ?rightEnds ?alike ?different v w
  case lists =>
    intro as bs ih
    rwa [compares]
  case others =>
    intro a b hlists
    rw [compares.eq_2 way a b hlists]
    exact (comparable_or_fault_of_atoms way a b).imp_right fun h => ⟨a, b, h⟩
  case bothEnd => exact .inl (.endsLeft [])
  case leftEnds =>
    intro b bs
    exact .inl (.endsLeft (b :: bs))
  case rightEnds =>
    intro a as
    exact .inl (.endsRight (a :: as))
  case alike =>
    intro a as b bs hsame ih
    rw [comparesItems, if_pos hsame]
    exact ih.imp_left (.alike hsame)
  case different =>
    intro a as b bs hsame ih
    rw [comparesItems, if_neg hsame]
    exact ih.imp_left (.different (Bool.eq_false_iff.mpr hsame))

/-- Values that can be put in order compare in every way. -/
theorem Comparable.exists_compares {v w : Value} (h : Comparable v w) (way : Comparison) :
    ∃ answer, compares way v w = .ok answer := by
  induction h with
  | texts s t => exact ⟨way.holds (compare s t), rfl⟩
  | numbers hv hw => exact ⟨_, compares_of_number? hv hw⟩
  | endsLeft bs => cases bs <;> exact ⟨_, by rw [compares, comparesItems]⟩
  | endsRight as => cases as <;> exact ⟨_, by rw [compares, comparesItems]⟩
  | alike hsame _ ih => rwa [compares, comparesItems, if_pos hsame, ← compares]
  | different hsame _ ih => rwa [compares, comparesItems, if_neg (Bool.eq_false_iff.mp hsame)]

theorem comparable_of_compares {way : Comparison} {v w : Value} {answer : Bool}
    (h : compares way v w = .ok answer) : Comparable v w := by
  obtain hcomparable | ⟨a, b, hfault⟩ := comparable_or_fault way v w
  · exact hcomparable
  · cases hfault.symm.trans h

/-- What an integer is compared with has to be a number. -/
theorem comparable_int_right_iff {v : Value} {n : Int} :
    Comparable v (.int n) ↔ ∃ m, v.number? = some m := by
  constructor
  · intro h
    cases h with
    | numbers hv _ => exact ⟨_, hv⟩
  · rintro ⟨m, hm⟩
    exact .numbers hm rfl

theorem comparable_int_left_iff {v : Value} {n : Int} :
    Comparable (.int n) v ↔ ∃ m, v.number? = some m := by
  constructor
  · intro h
    cases h with
    | numbers _ hw => exact ⟨_, hw⟩
  · rintro ⟨m, hm⟩
    exact .numbers rfl hm

theorem failsOnly_compares {kind : Fault → Prop} {way : Comparison} {v w : Value}
    (h : (∀ sign a b, kind (.incomparable sign a b)) ∨ Comparable v w) :
    FailsOnly kind (compares way v w) := by
  obtain hcomparable | ⟨a, b, hfault⟩ := comparable_or_fault way v w
  · obtain ⟨answer, hanswer⟩ := hcomparable.exists_compares way
    exact hanswer ▸ failsOnly_ok answer
  · rcases h with hkind | hcomparable
    · exact hfault ▸ failsOnly_error (hkind _ a b)
    · obtain ⟨answer, hanswer⟩ := hcomparable.exists_compares way
      cases hfault.symm.trans hanswer

end Value

end NetAtlas
