import NetAtlas.Random.Source

/-!
Runs of drawings: how one that ends well is taken apart into its steps, and which numbers come out
whatever the source is.
-/

namespace NetAtlas

namespace Drawing

variable {σ α β : Type}

theorem run_draw (m : StateM σ α) (source : σ) :
    (draw m).run source = (.ok (m.run source).1, (m.run source).2) := rfl

theorem run_check (r : Except Fault α) (source : σ) :
    (check r : Drawing σ α).run source = (r, source) := rfl

theorem run_pure_eq_ok_iff {a b : α} {source rest : σ} :
    (pure a : Drawing σ α).run source = (.ok b, rest) ↔ a = b ∧ source = rest := by
  constructor
  · intro hrun
    obtain ⟨hresult, hrest⟩ := Prod.mk.inj hrun
    exact ⟨Except.ok.inj hresult, hrest⟩
  · rintro ⟨rfl, rfl⟩
    rfl

theorem run_draw_eq_ok_iff {m : StateM σ α} {a : α} {source rest : σ} :
    (draw m).run source = (.ok a, rest) ↔ (m.run source).1 = a ∧ (m.run source).2 = rest := by
  constructor
  · intro hrun
    obtain ⟨hresult, hrest⟩ := Prod.mk.inj hrun
    exact ⟨Except.ok.inj hresult, hrest⟩
  · rintro ⟨rfl, rfl⟩
    rfl

theorem run_bind (x : Drawing σ α) (f : α → Drawing σ β) (source : σ) :
    (x >>= f).run source =
      match x.run source with
      | (.ok a, middle) => (f a).run middle
      | (.error fault, middle) => (.error fault, middle) := by
  rw [ExceptT.run_bind]
  change (StateT.bind x.run _) source = _
  rw [StateT.bind]
  rcases x.run source with ⟨_ | _, _⟩ <;> rfl

/-- A run of two steps ends well if and only if both do. -/
theorem run_bind_eq_ok_iff {x : Drawing σ α} {f : α → Drawing σ β} {source rest : σ} {b : β} :
    (x >>= f).run source = (.ok b, rest) ↔
      ∃ a middle, x.run source = (.ok a, middle) ∧ (f a).run middle = (.ok b, rest) := by
  rw [run_bind]
  constructor
  · intro hrun
    split at hrun
    · rename_i a middle hfirst
      exact ⟨a, middle, hfirst, hrun⟩
    · exact absurd (Prod.mk.inj hrun).1 (by simp)
  · rintro ⟨a, middle, hfirst, hsecond⟩
    rw [hfirst]
    exact hsecond

theorem run_map (f : α → β) (m : Drawing σ α) (source : σ) :
    (f <$> m).run source =
      match m.run source with
      | (.ok a, rest) => (.ok (f a), rest)
      | (.error fault, rest) => (.error fault, rest) := by
  rw [map_eq_pure_bind, run_bind]
  rcases m.run source with ⟨_ | _, _⟩ <;> rfl

theorem map_check (f : α → β) (r : Except Fault α) :
    (f <$> check r : Drawing σ β) = check (f <$> r) := by
  cases r <;> rfl

/-- From some source the drawing comes to this result. -/
def Gives (m : Drawing σ α) (a : α) : Prop := ∃ source rest, m.run source = (.ok a, rest)

/-- The drawing finds no fault, whatever the source is. -/
def Total (m : Drawing σ α) : Prop := ∀ source, ∃ a rest, m.run source = (.ok a, rest)

theorem total_pure (a : α) : Total (pure a : Drawing σ α) := fun source => ⟨a, source, rfl⟩

theorem total_draw (m : StateM σ α) : Total (draw m) := fun source => ⟨_, _, run_draw m source⟩

theorem total_check {r : Except Fault α} {a : α} (hr : r = .ok a) :
    Total (check r : Drawing σ α) := by
  intro source
  exact ⟨a, source, by rw [run_check, hr]⟩

theorem Total.bind {m : Drawing σ α} {f : α → Drawing σ β} (hm : Total m)
    (hf : ∀ a, Gives m a → Total (f a)) : Total (m >>= f) := by
  intro source
  obtain ⟨a, middle, hfirst⟩ := hm source
  obtain ⟨b, rest, hsecond⟩ := hf a ⟨source, middle, hfirst⟩ middle
  exact ⟨b, rest, run_bind_eq_ok_iff.mpr ⟨a, middle, hfirst, hsecond⟩⟩

theorem total_check_bind {r : Except Fault α} {a : α} {f : α → Drawing σ β} (hr : r = .ok a)
    (hf : Total (f a)) : Total (check r >>= f) := by
  intro source
  obtain ⟨b, rest, hrun⟩ := hf source
  exact ⟨b, rest, run_bind_eq_ok_iff.mpr ⟨a, source, by rw [run_check, hr], hrun⟩⟩

end Drawing

namespace Random

section

variable {σ α β : Type} {P : α → Prop} {Q : β → Prop}

/-- Whatever the source is, what is drawn is as it should be. -/
def Always (P : α → Prop) (m : StateM σ α) : Prop := ∀ source, P (m.run source).1

theorem always_pure {a : α} (h : P a) : Always P (pure a : StateM σ α) := fun _ => h

theorem always_true (m : StateM σ α) : Always (fun _ => True) m := fun _ => trivial

theorem Always.bind {m : StateM σ α} {f : α → StateM σ β} (hm : Always P m)
    (hf : ∀ a, P a → Always Q (f a)) : Always Q (m >>= f) := by
  intro source
  exact hf _ (hm source) (m.run source).2

end

variable {σ : Type} [WordSource σ]

theorem reject_lt {n : Nat} (hn : 0 < n) (tries : Nat) (source : σ) :
    ((reject n tries).run source).1 < n := by
  induction tries generalizing source with
  | zero => exact hn
  | succ tries ih =>
    rw [reject, StateT.run_bind]
    rcases (bits (n.log2 + 1)).run source with ⟨r, source⟩
    change (StateT.run (if r < n then pure r else reject n tries) source : Id (Nat × σ)).1 < n
    split
    · assumption
    · exact ih source

theorem below_lt {n : Nat} (hn : 0 < n) (source : σ) : ((below n).run source).1 < n :=
  reject_lt hn tries source

theorem always_below {n : Nat} (hn : 0 < n) : Always (· < n) (below n : StateM σ Nat) := below_lt hn

theorem always_integer {low high : Int} (hordered : low ≤ high) :
    Always (fun n => low ≤ n ∧ n ≤ high) (integer low high : StateM σ Int) := by
  have hpositive : 0 < (high - low + 1).toNat := by omega
  refine (always_below hpositive).bind fun offset hoffset => always_pure ?_
  omega

/-- A choice is one of the items. -/
theorem choice_mem {α : Type} [Inhabited α] {items : List α} (hitems : items ≠ []) (source : σ) :
    ((choice items).run source).1 ∈ items := by
  have hlt := below_lt (List.length_pos_iff.mpr hitems) source
  have hchoice : ((choice items).run source).1 =
      items.getD ((below items.length).run source).1 default := rfl
  rw [hchoice, List.getD_eq_getElem?_getD, List.getElem?_eq_getElem hlt]
  exact List.getElem_mem hlt

theorem mem_of_gives_choice {α : Type} [Inhabited α] {items : List α} (hitems : items ≠ []) {a : α}
    (ha : Drawing.Gives (draw (choice items) : Drawing σ α) a) : a ∈ items := by
  obtain ⟨source, _, hrun⟩ := ha
  rw [← (Drawing.run_draw_eq_ok_iff.mp hrun).1]
  exact choice_mem hitems source

theorem always_choice {α : Type} [Inhabited α] {items : List α} (hitems : items ≠ []) :
    Always (· ∈ items) (choice items : StateM σ α) := choice_mem hitems

/-- To change the items one by one is to change the choice. -/
theorem choice_map {α β : Type} [Inhabited α] [Inhabited β] {f : α → β} (hf : f default = default)
    (items : List α) : (choice (items.map f) : StateM σ β) = f <$> choice items := by
  rw [choice, choice, List.length_map, map_bind]
  congr 1
  funext i
  rw [map_pure, List.getD_eq_getElem?_getD, List.getD_eq_getElem?_getD, List.getElem?_map, ← hf,
    Option.getD_map]

end Random

end NetAtlas
