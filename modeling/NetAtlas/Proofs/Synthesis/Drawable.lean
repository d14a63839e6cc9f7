import NetAtlas.Proofs.Random.Draws
import NetAtlas.Synthesis.Links

/-!
Settings with which edges and links can be drawn: no fault comes up then, whatever the source is.
-/

namespace NetAtlas

namespace SynthesisSettings

/-- Edges can be drawn with the settings: the divisor is a positive integer, the range of weights
    stays within that of floats, and costs lie between integers. -/
structure Drawable (s : SynthesisSettings) : Prop where
  divisor : ∃ d, s.divisor.integer? = some d ∧ 1 ≤ d
  weights : ∃ low high span, s.weights.1.number? = some low ∧ s.weights.2.number? = some high ∧
    high.sub low = .ok span ∧ low.toFloat?.isSome ∧ span.toFloat?.isSome
  costs : ∃ low high, s.costs.1.integer? = some low ∧ s.costs.2.integer? = some high ∧ low ≤ high

end SynthesisSettings

theorem Value.numeric_of_number? {v : Value} {n : Number} (h : v.number? = some n) :
    v.numeric = .ok n := by
  rw [numeric, h]

theorem Value.number?_of_integer? {v : Value} {n : Int} (h : v.integer? = some n) :
    v.number? = some (.int n) := by
  unfold integer? at h
  split at h
  · rw [← Option.some.inj h]
    rfl
  · rw [← Option.some.inj h]
    rfl
  · exact absurd h (by simp)

theorem Value.numeric_of_integer? {v : Value} {n : Int} (h : v.integer? = some n) :
    v.numeric = .ok (.int n) :=
  numeric_of_number? (number?_of_integer? h)

theorem Number.combine_float {onInts : Int → Int → Int} {onFloats : Float → Float → Float}
    {a : Number} {x y : Float} (h : a.toFloat? = some x) :
    combine onInts onFloats a (.float y) = .ok (.float (onFloats x y)) := by
  cases a <;> simp [combine, toFloat, h] <;> rfl

theorem Number.floorDiv_ofNat (n : Nat) {m : Nat} (hm : 0 < m) :
    (Number.int n).floorDiv (.int m) = .ok (.int (n / m : Nat)) := by
  rw [floorDiv, if_neg (by omega), Int.ofNat_fdiv]

namespace Random

variable {σ : Type} [WordSource σ]

theorem total_uniform {s : SynthesisSettings} (hs : s.Drawable) :
    Drawing.Total (uniform s.weights : Drawing σ Float) := by
  obtain ⟨low, high, span, hlow, hhigh, hspan, hlowFloat, hspanFloat⟩ := hs.weights
  obtain ⟨x, hx⟩ := Option.isSome_iff_exists.mp hlowFloat
  obtain ⟨y, hy⟩ := Option.isSome_iff_exists.mp hspanFloat
  refine Drawing.total_check_bind (Value.numeric_of_number? hlow) ?_
  refine Drawing.total_check_bind (Value.numeric_of_number? hhigh) ?_
  refine Drawing.total_check_bind hspan ?_
  refine (Drawing.total_draw unit).bind fun share _ => ?_
  refine Drawing.total_check_bind (Number.combine_float hy) ?_
  refine Drawing.total_check (a := x + y * share) ?_
  rw [Number.add, Number.combine_float hx]
  rfl

/-- Between two integers only their order is checked before one is drawn. -/
theorem between_of_integers {range : Value × Value} {low high : Int}
    (hlow : range.1.integer? = some low) (hhigh : range.2.integer? = some high) :
    (between range : Drawing σ Int) =
      (do check (checkBounds low (high + 1)); draw (integer low high)) := by
  have hlast : high + 1 - 1 = high := by omega
  rw [between, Value.numeric_of_integer? hlow, Value.numeric_of_integer? hhigh]
  change (do check (checkBounds low (high + 1)); draw (integer low (high + 1 - 1))) = _
  rw [hlast]

theorem total_between_of_integers {range : Value × Value} {low high : Int}
    (hlow : range.1.integer? = some low) (hhigh : range.2.integer? = some high)
    (hordered : low ≤ high) : Drawing.Total (between range : Drawing σ Int) := by
  have hbounds : checkBounds low (high + 1) = .ok () := if_pos (by omega)
  rw [between_of_integers hlow hhigh]
  exact Drawing.total_check_bind hbounds (Drawing.total_draw _)

theorem bounds_of_between {range : Value × Value} {low high n : Int} {source rest : σ}
    (hlow : range.1.integer? = some low) (hhigh : range.2.integer? = some high)
    (hordered : low ≤ high) (hrun : (between range).run source = (.ok n, rest)) :
    low ≤ n ∧ n ≤ high := by
  rw [between_of_integers hlow hhigh] at hrun
  obtain ⟨_, middle, _, hrun⟩ := Drawing.run_bind_eq_ok_iff.mp hrun
  rw [← (Drawing.run_draw_eq_ok_iff.mp hrun).1]
  exact always_integer hordered middle

theorem total_between {s : SynthesisSettings} (hs : s.Drawable) :
    Drawing.Total (between s.costs : Drawing σ Int) := by
  obtain ⟨low, high, hlow, hhigh, hordered⟩ := hs.costs
  exact total_between_of_integers hlow hhigh hordered

end Random

namespace Synthesis

variable {σ : Type} [WordSource σ] {s : SynthesisSettings}

theorem total_newEdge (hs : s.Drawable) (a b : String) :
    Drawing.Total (newEdge s a b : Drawing σ Edge) :=
  (Random.total_uniform hs).bind fun _ _ =>
    (Random.total_between hs).bind fun _ _ => Drawing.total_pure _

theorem total_connectEach (hnew : ∀ a b, Drawing.Total (newEdge s a b : Drawing σ Edge))
    (ids pending : List String) (edges : List Edge) :
    Drawing.Total (connectEach s ids pending edges : Drawing σ (List Edge)) := by
  induction pending generalizing edges with
  | nil => exact Drawing.total_pure edges
  | cons id pending ih =>
    rw [connectEach]
    split
    · exact ih edges
    · split
      · exact ih edges
      · exact (hnew _ _).bind fun e _ => ih (edges ++ [e])

/-- The second pass draws edges between ids that differ, and no others. -/
theorem total_joinSome {ids : List String} (hids : ids ≠ [])
    (hnew : ∀ a ∈ ids, ∀ b ∈ ids, a ≠ b → Drawing.Total (newEdge s a b : Drawing σ Edge))
    (n : Nat) (edges : List Edge) :
    Drawing.Total (joinSome s ids n edges : Drawing σ (List Edge)) := by
  induction n generalizing edges with
  | zero => exact Drawing.total_pure edges
  | succ n ih =>
    rw [joinSome]
    refine (Drawing.total_draw _).bind fun a ha => (Drawing.total_draw _).bind fun b hb => ?_
    have hmem := Random.mem_of_gives_choice hids ha
    have hmem' := Random.mem_of_gives_choice hids hb
    split
    · exact ih edges
    · rename_i hapart
      exact (hnew a hmem b hmem' (not_or.mp hapart).1).bind fun e _ => ih (edges ++ [e])

/-- One more pair is tried for each `d` devices. -/
theorem attempts_eq {d : Nat} (hdivisor : s.divisor.integer? = some (d : Int)) (hpositive : 1 ≤ d)
    (devices : Nat) : attempts s devices = .ok (devices / d) := by
  rw [attempts, Value.numeric_of_integer? hdivisor]
  change (Number.int devices).floorDiv (.int d) >>= _ = _
  rw [Number.floorDiv_ofNat devices hpositive]
  rfl

theorem attempts_of_drawable (hs : s.Drawable) (devices : Nat) :
    ∃ n, attempts s devices = .ok n := by
  obtain ⟨d, hd, hpositive⟩ := hs.divisor
  obtain ⟨m, rfl⟩ := Int.eq_ofNat_of_zero_le (show 0 ≤ d by omega)
  exact ⟨devices / m, attempts_eq hd (by omega) devices⟩

theorem total_connect (hs : s.Drawable) (ids : List String) :
    Drawing.Total (connect s ids : Drawing σ (List Edge)) := by
  obtain ⟨n, hn⟩ := attempts_of_drawable hs ids.length
  rw [connect]
  split
  · exact Drawing.total_pure []
  · rename_i hmany
    have hids : ids ≠ [] := fun hempty => hmany (by simp [hempty])
    exact (total_connectEach (total_newEdge hs) ids ids []).bind fun edges _ =>
      Drawing.total_check_bind hn (total_joinSome hids (fun a _ b _ _ => total_newEdge hs a b) n edges)

theorem drawable_default : SynthesisSettings.default.Drawable where
  divisor := ⟨3, rfl, by decide⟩
  weights := ⟨.float 1.0, .float 101.0, .float (101.0 - 1.0), rfl, rfl, rfl, rfl, rfl⟩
  costs := ⟨1, 100, rfl, rfl, by decide⟩

theorem total_drawLinks {low high : Int} (hlow : s.linkCounts.1.integer? = some low)
    (hhigh : s.linkCounts.2.integer? = some high) (hordered : low ≤ high) (fleet : List Device)
    (d : Device) : Drawing.Total (drawLinks s fleet d : Drawing σ (List Link)) := by
  rw [drawLinks]
  split
  · exact Drawing.total_pure []
  · exact (Random.total_between_of_integers hlow hhigh hordered).bind fun _ _ => Drawing.total_draw _

/-- A renewal comes to its end if it does so for the first device, unless that one is spared, and then
    for the others. -/
theorem relink_cons_eq_ok_iff {fleet devices linked : List Device} {d : Device}
    {chosen : Device → Bool} {source rest : σ} :
    relink s fleet chosen (d :: devices) source = ((.ok (), linked), rest) ↔
      (chosen d = true ∧ ∃ links middle others,
        (drawLinks s fleet d).run source = (.ok links, middle) ∧
        relink s fleet chosen devices middle = ((.ok (), others), rest) ∧
        linked = { d with links } :: others) ∨
      (chosen d = false ∧ ∃ others,
        relink s fleet chosen devices source = ((.ok (), others), rest) ∧ linked = d :: others) := by
  constructor
  · intro hrun
    rw [relink] at hrun
    split at hrun
    · rename_i hchosen
      split at hrun
      · rename_i links middle hdraw
        rcases hothers : relink s fleet chosen devices middle with ⟨⟨outcome, others⟩, last⟩
        rw [hothers] at hrun
        obtain ⟨⟨rfl, rfl⟩, rfl⟩ : (outcome = .ok () ∧ { d with links } :: others = linked) ∧
            last = rest := by simpa using hrun
        exact .inl ⟨hchosen, links, middle, others, hdraw, hothers, rfl⟩
      · exact absurd (congrArg (·.1.1) hrun) (by simp)
    · rename_i hspared
      rcases hothers : relink s fleet chosen devices source with ⟨⟨outcome, others⟩, last⟩
      rw [hothers] at hrun
      obtain ⟨⟨rfl, rfl⟩, rfl⟩ : (outcome = .ok () ∧ d :: others = linked) ∧ last = rest := by
        simpa using hrun
      exact .inr ⟨Bool.eq_false_iff.mpr hspared, others, rfl, rfl⟩
  · rintro (⟨hchosen, links, middle, others, hdraw, hothers, rfl⟩ | ⟨hspared, others, hothers, rfl⟩)
    · rw [relink, if_pos hchosen]
      simp only [hdraw, hothers]
    · rw [relink, if_neg (Bool.eq_false_iff.mp hspared)]
      simp only [hothers]

/-- If the links of each device can be drawn, so can those of all of them, one after the other. -/
theorem exists_relink {fleet : List Device} (chosen : Device → Bool)
    (hlinks : ∀ d, Drawing.Total (drawLinks s fleet d : Drawing σ (List Link)))
    (devices : List Device) (source : σ) :
    ∃ linked rest, relink s fleet chosen devices source = ((.ok (), linked), rest) := by
  induction devices generalizing source with
  | nil => exact ⟨[], source, rfl⟩
  | cons d devices ih =>
    simp only [relink_cons_eq_ok_iff]
    cases chosen d with
    | true =>
      obtain ⟨links, middle, hdraw⟩ := hlinks d source
      obtain ⟨others, rest, hothers⟩ := ih middle
      exact ⟨_, rest, .inl ⟨rfl, links, middle, others, hdraw, hothers, rfl⟩⟩
    | false =>
      obtain ⟨others, rest, hothers⟩ := ih source
      exact ⟨_, rest, .inr ⟨rfl, others, hothers, rfl⟩⟩

end Synthesis

end NetAtlas
