import NetAtlas.Proofs.Random.Draws
import NetAtlas.Value.Reading

/-!
Two runs from two sources that need not have anything in common. They end alike if they come to
results that stand in a relation, or else to one and the same fault.
-/

namespace NetAtlas

section

variable {α β γ δ : Type}

/-- Two readings end alike: with results in a relation, or with the same fault. -/
def Matches (R : α → β → Prop) : Read α → Read β → Prop
  | .ok a, .ok b => R a b
  | .error f, .error f' => f = f'
  | _, _ => False

theorem matches_eq (r : Read α) : Matches Eq r r := by
  cases r <;> exact rfl

theorem Matches.bind {R : α → β → Prop} {S : γ → δ → Prop} {r : Read α} {r' : Read β}
    {f : α → Read γ} {f' : β → Read δ} (hr : Matches R r r')
    (hf : ∀ a b, R a b → Matches S (f a) (f' b)) : Matches S (r >>= f) (r' >>= f') := by
  cases r <;> cases r'
  · exact hr
  · exact hr.elim
  · exact hr.elim
  · exact hf _ _ hr

end

namespace Drawing

variable {σ α β γ δ : Type}

/-- Two drawings end alike, whatever the two sources are. -/
def Alike (R : α → β → Prop) (m : Drawing σ α) (m' : Drawing σ β) : Prop :=
  ∀ source source', Matches R (m.run source).1 (m'.run source').1

variable {R : α → β → Prop} {S : γ → δ → Prop} {m : Drawing σ α} {m' : Drawing σ β}

theorem alike_pure {a : α} {b : β} (h : R a b) :
    Alike R (pure a : Drawing σ α) (pure b) := fun _ _ => h

theorem alike_check {r : Read α} {r' : Read β} (h : Matches R r r') :
    Alike R (check r : Drawing σ α) (check r') := fun _ _ => h

theorem alike_of_total (hm : Total m) (hm' : Total m') : Alike (fun _ _ => True) m m' := by
  intro source source'
  obtain ⟨a, rest, hrun⟩ := hm source
  obtain ⟨b, rest', hrun'⟩ := hm' source'
  rw [hrun, hrun']
  trivial

theorem alike_draw (m : StateM σ α) (m' : StateM σ β) :
    Alike (fun _ _ => True) (draw m) (draw m') :=
  alike_of_total (total_draw m) (total_draw m')

/-- What two runs that end alike can come to. -/
theorem Alike.run_cases (h : Alike R m m') (source source' : σ) :
    (∃ f rest rest', m.run source = (.error f, rest) ∧ m'.run source' = (.error f, rest')) ∨
      ∃ a b rest rest', m.run source = (.ok a, rest) ∧ m'.run source' = (.ok b, rest') ∧ R a b := by
  have hends := h source source'
  generalize m.run source = run, m'.run source' = run' at hends ⊢
  obtain ⟨f | a, rest⟩ := run
  · obtain ⟨f' | b, rest'⟩ := run'
    · obtain rfl : f = f' := hends
      exact .inl ⟨f, rest, rest', rfl, rfl⟩
    · exact hends.elim
  · obtain ⟨f' | b, rest'⟩ := run'
    · exact hends.elim
    · exact .inr ⟨a, b, rest, rest', rfl, rfl, hends⟩

theorem Alike.bind {f : α → Drawing σ γ} {f' : β → Drawing σ δ} (hm : Alike R m m')
    (hf : ∀ a b, R a b → Gives m a → Alike S (f a) (f' b)) : Alike S (m >>= f) (m' >>= f') := by
  intro source source'
  rw [run_bind, run_bind]
  obtain ⟨fault, middle, middle', hrun, hrun'⟩ | ⟨a, b, middle, middle', hrun, hrun', hab⟩ :=
    hm.run_cases source source'
  · rw [hrun, hrun']
    exact rfl
  · rw [hrun, hrun']
    exact hf a b hab ⟨source, middle, hrun⟩ middle middle'

theorem alike_check_bind (r : Read α) {f : α → Drawing σ γ} {f' : α → Drawing σ δ}
    (hf : ∀ a, Alike S (f a) (f' a)) : Alike S (check r >>= f) (check r >>= f') := by
  refine (alike_check (matches_eq r)).bind ?_
  rintro a _ rfl _
  exact hf a

/-- Drawings that end alike with one another find no fault, or else the same one each time. -/
theorem total_or_alike_false {ι : Type} {m : ι → Drawing σ α}
    (h : ∀ i j, Alike (fun _ _ => True) (m i) (m j)) :
    (∀ i, Total (m i)) ∨ ∀ i j, Alike (fun _ _ => False) (m i) (m j) := by
  by_cases hgives : ∃ i a, Gives (m i) a
  · obtain ⟨i, a, source, rest, hgiven⟩ := hgives
    refine .inl fun j source' => ?_
    obtain ⟨_, _, _, hrun, _⟩ | ⟨_, b, _, rest', _, hrun', _⟩ := (h i j).run_cases source source'
    · rw [hgiven] at hrun
      exact absurd (Prod.mk.inj hrun).1 (by simp)
    · exact ⟨b, rest', hrun'⟩
  · refine .inr fun i j source source' => ?_
    obtain ⟨_, _, _, hrun, hrun'⟩ | ⟨a, _, rest, _, hrun, _, _⟩ := (h i j).run_cases source source'
    · rw [hrun, hrun']
      exact rfl
    · exact absurd ⟨i, a, source, rest, hrun⟩ hgives

end Drawing

end NetAtlas
