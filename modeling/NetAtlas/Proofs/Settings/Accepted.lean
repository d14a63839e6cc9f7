import NetAtlas.Proofs.Synthesis.Drawable
import NetAtlas.Proofs.Value.Comparing
import NetAtlas.Settings.Reading

/-!
Settings that pass their checks. The checks compare numbers and do not ask for types, so what they
promise is stated for settings whose values are of the types that a synthesis works with.
-/

namespace NetAtlas

namespace Value

theorem le_of_greater_eq_false {v w : Value} {low high : Int} (hv : v.integer? = some low)
    (hw : w.integer? = some high) (h : v.greater w = .ok false) : low ≤ high := by
  unfold greater at h
  rw [compares_of_number? (number?_of_integer? hv) (number?_of_integer? hw)] at h
  have hless := Except.ok.inj h
  simpa [Comparison.holdsOf, Number.less] using hless

/-- What the check for a positive setting lets pass. -/
theorem zero_lt_of_atMost_eq_false {v : Value} {n : Int} (hv : v.integer? = some n)
    (h : v.atMost Settings.zero = .ok false) : 0 < n := by
  have hzero : Settings.zero.number? = some (.int 0) := rfl
  unfold atMost at h
  rw [compares_of_number? (number?_of_integer? hv) hzero] at h
  have hless := Except.ok.inj h
  simp [Comparison.holdsOf, Number.lessOrSame, Number.less, Number.same] at hless
  omega

end Value

namespace SynthesisSettings

/-- The settings have values of the types that a synthesis works with: integers where it counts,
    numbers where it compares, and weights that stay within the range of floats. -/
structure Typed (s : SynthesisSettings) : Prop where
  divisor : ∃ d, s.divisor.integer? = some d
  weights : ∃ low high span, s.weights.1.number? = some low ∧ s.weights.2.number? = some high ∧
    high.sub low = .ok span ∧ low.toFloat?.isSome ∧ span.toFloat?.isSome
  costs : ∃ low high, s.costs.1.integer? = some low ∧ s.costs.2.integer? = some high
  linkCounts : ∃ low high, s.linkCounts.1.integer? = some low ∧ s.linkCounts.2.integer? = some high
  healthy : ∃ n, s.healthy.number? = some n
  warning : ∃ n, s.warning.number? = some n

theorem typed_default : Typed .default where
  divisor := ⟨3, rfl⟩
  weights := Synthesis.drawable_default.weights
  costs := ⟨1, 100, rfl, rfl⟩
  linkCounts := ⟨1, 3, rfl, rfl⟩
  healthy := ⟨.float 90.0, rfl⟩
  warning := ⟨.float 70.0, rfl⟩

end SynthesisSettings

namespace Settings

theorem eq_ok_of_refuseIf {bad : Read Bool} {reason : String} (h : refuseIf bad reason = .ok ()) :
    bad = .ok false := by
  obtain ⟨found, hbad, hrest⟩ := bind_eq_ok_iff.mp h
  cases found with
  | false => exact hbad
  | true => exact absurd hrest (by simp)

theorem of_orElseAsk {first second : Read Bool} (h : orElseAsk first second = .ok false) :
    first = .ok false ∧ second = .ok false := by
  obtain ⟨found, hfirst, hrest⟩ := bind_eq_ok_iff.mp h
  cases found with
  | false => exact ⟨hfirst, hrest⟩
  | true => cases hrest

/-- What the checks have found out about the settings of a synthesis. -/
structure Checked (s : SynthesisSettings) : Prop where
  divisor : s.divisor.atMost zero = .ok false
  weights : s.weights.1.greater s.weights.2 = .ok false
  costs : s.costs.1.greater s.costs.2 = .ok false
  linkCounts : s.linkCounts.1.less (.int 1) = .ok false ∧
    s.linkCounts.1.greater s.linkCounts.2 = .ok false
  bandwidths : s.bandwidths.isEmpty = false
  thresholds : ((!·) <$> s.warning.atMost s.healthy) = .ok false

theorem checked_of_checkSynthesis {s : SynthesisSettings} (h : checkSynthesis s = .ok ()) :
    Checked s := by
  obtain ⟨_, hdivisor, h⟩ := bind_eq_ok_iff.mp h
  obtain ⟨_, hweights, h⟩ := bind_eq_ok_iff.mp h
  obtain ⟨_, hcosts, h⟩ := bind_eq_ok_iff.mp h
  obtain ⟨_, hcounts, h⟩ := bind_eq_ok_iff.mp h
  obtain ⟨_, hbandwidths, hthresholds⟩ := bind_eq_ok_iff.mp h
  exact ⟨eq_ok_of_refuseIf hdivisor, eq_ok_of_refuseIf hweights, eq_ok_of_refuseIf hcosts,
    of_orElseAsk (eq_ok_of_refuseIf hcounts), Except.ok.inj (eq_ok_of_refuseIf hbandwidths),
    eq_ok_of_refuseIf hthresholds⟩

/-- With settings that pass the checks edges can be drawn, if their types are right. -/
theorem drawable_of_checkSynthesis {s : SynthesisSettings} (hs : s.Typed)
    (hcheck : checkSynthesis s = .ok ()) : s.Drawable := by
  obtain ⟨d, hd⟩ := hs.divisor
  obtain ⟨low, high, hlow, hhigh⟩ := hs.costs
  have hchecked := checked_of_checkSynthesis hcheck
  exact ⟨⟨d, hd, Value.zero_lt_of_atMost_eq_false hd hchecked.divisor⟩, hs.weights,
    ⟨low, high, hlow, hhigh, Value.le_of_greater_eq_false hlow hhigh hchecked.costs⟩⟩

/-- The bounds on the links of a device are in order, the lower one first. -/
theorem linkCounts_of_checkSynthesis {s : SynthesisSettings} (hs : s.Typed)
    (hcheck : checkSynthesis s = .ok ()) :
    ∃ low high, s.linkCounts.1.integer? = some low ∧ s.linkCounts.2.integer? = some high ∧
      low ≤ high := by
  obtain ⟨low, high, hlow, hhigh⟩ := hs.linkCounts
  exact ⟨low, high, hlow, hhigh,
    Value.le_of_greater_eq_false hlow hhigh (checked_of_checkSynthesis hcheck).linkCounts.2⟩

theorem checkSynthesis_default : checkSynthesis .default = .ok () := by
  rfl

end Settings

end NetAtlas
