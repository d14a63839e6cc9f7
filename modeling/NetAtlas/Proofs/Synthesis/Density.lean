import NetAtlas.Proofs.Projection.Calibration
import NetAtlas.Proofs.Synthesis.Counts

/-!
How the estimate of the edges compares with the pairs that there are. It grows with the devices and
the pairs with their square; so the estimate is too large for a few devices only, and with a divisor
of three or more it never is.
-/

namespace NetAtlas

namespace Synthesis

/-- The share of pairs that are joined, given twice the number of pairs. -/
def share {K : Type} [Scalar K] (edges doubled : K) : K :=
  let pairs := doubled / 2.0
  if Scalar.same pairs 0.0 then 0.0 else edges / pairs

/-- The density in the statistics is such a share, calculated in floats. -/
theorem density_eq_share {k nodes : Nat} {x : Float} (h : density (.int k) nodes = .ok x) :
    x = share (Float.ofNat k) (Float.ofNat (nodes * (nodes - 1))) := by
  rw [density] at h
  rw [share]
  split at h
  · rename_i hnone
    exact (Except.ok.inj h).symm.trans (if_pos hnone).symm
  · rename_i hsome
    obtain ⟨count, hcount, h⟩ := bind_eq_ok_iff.mp h
    obtain rfl := Number.eq_ofInt_of_toFloat hcount
    exact (Except.ok.inj h).symm.trans (if_neg hsome).symm

theorem density_of_statisticsOf {s : SynthesisSettings} {devices : List Device}
    {statistics : Statistics} (h : statisticsOf s devices = .ok statistics) :
    density statistics.totalEdges devices.length = .ok statistics.density := by
  obtain ⟨divisor, _, h⟩ := bind_eq_ok_iff.mp h
  obtain ⟨edges, _, h⟩ := bind_eq_ok_iff.mp h
  obtain ⟨share, hshare, h⟩ := bind_eq_ok_iff.mp h
  obtain rfl := Except.ok.inj h
  exact hshare

theorem cast_pairs (n : Nat) : ((n * (n - 1) / 2 : Nat) : Rat) = (n * (n - 1) : Nat) / 2 :=
  Nat.cast_div (Nat.even_mul_pred_self n).two_dvd (by norm_num)

theorem pairs_eq_zero_iff {n : Nat} : n * (n - 1) / 2 = 0 ↔ n < 2 := by
  rw [← Nat.choose_two_right, Nat.choose_eq_zero_iff]

/-- Calculated exactly it is the quotient of two counts, and zero if there are no pairs. -/
theorem share_of_counts (k n : Nat) :
    share (k : Rat) (n * (n - 1) : Nat) =
      if n < 2 then 0 else (k : Rat) / (n * (n - 1) / 2 : Nat) := by
  have htwo : (2.0 : Rat) = 2 := by norm_num
  have hzero : (0.0 : Rat) = 0 := by norm_num
  have hpairs : decide (((n * (n - 1) / 2 : Nat) : Rat) = 0) = decide (n < 2) :=
    decide_eq_decide.mpr (Nat.cast_eq_zero.trans pairs_eq_zero_iff)
  change (if decide (_ / (2.0 : Rat) = (0.0 : Rat)) = true then (0.0 : Rat)
    else _ / (_ / (2.0 : Rat))) = _
  rw [htwo, hzero, ← cast_pairs, hpairs]
  simp only [decide_eq_true_eq]

theorem zero_le_share (k n : Nat) : 0 ≤ share (k : Rat) (n * (n - 1) : Nat) := by
  rw [share_of_counts]
  split_ifs
  · exact le_rfl
  · positivity

theorem share_le_one_iff {k n : Nat} :
    share (k : Rat) (n * (n - 1) : Nat) ≤ 1 ↔ n < 2 ∨ k ≤ n * (n - 1) / 2 := by
  rw [share_of_counts]
  split_ifs with hfew
  · simp [hfew]
  · have hpairs : 0 < n * (n - 1) / 2 := Nat.pos_of_ne_zero (mt pairs_eq_zero_iff.mp hfew)
    rw [div_le_one (Nat.cast_pos.mpr hpairs), Nat.cast_le]
    simp [hfew]

/-- So many devices are too few for the estimate with such a divisor. -/
def Crowded (n d : Nat) : Prop := (d = 1 ∧ 1 ≤ n ∧ n ≤ 4) ∨ (d = 2 ∧ n = 2)

instance (n d : Nat) : Decidable (Crowded n d) := inferInstanceAs (Decidable (_ ∨ _))

theorem estimate_le_pairs_iff {n d : Nat} (hd : 1 ≤ d) :
    n - 1 + n / d ≤ n * (n - 1) / 2 ↔ ¬ Crowded n d := by
  rcases Nat.lt_or_ge n 5 with hfew | hmany
  · rcases Nat.lt_or_ge d 5 with hsmall | hlarge
    · interval_cases n <;> interval_cases d <;> decide
    · rw [Nat.div_eq_of_lt (by omega), Crowded]
      interval_cases n <;> omega
  · have hquotient := Nat.div_le_self n d
    have hpairs : 5 * (n - 1) ≤ n * (n - 1) := Nat.mul_le_mul_right _ hmany
    rw [Crowded]
    omega

/-- The statistics of a fleet report an edge less than there are devices and one more for each so many
    of them, whether the ids differ or not. These are no more than there are pairs unless the devices
    are too few for the divisor. The density, calculated exactly, is never negative, and above one in
    the same cases but that of a single device, for which it is zero. -/
theorem statisticsOf_fits (s : SynthesisSettings) (devices : List Device) {d : Nat}
    (hdivisor : s.divisor.integer? = some (d : Int))
    (hcheck : s.divisor.atMost Settings.zero = .ok false) :
    let n := devices.length
    (n < 2 ^ 63 → ∃ statistics, statisticsOf s devices = .ok statistics) ∧
    ∀ statistics, statisticsOf s devices = .ok statistics →
      ∃ total : Nat, statistics.totalEdges = .int total ∧ total = n - 1 + n / d ∧
        (total ≤ n * (n - 1) / 2 ↔ ¬ Crowded n d) ∧
        statistics.density = share (Float.ofNat total) (Float.ofNat (n * (n - 1))) ∧
        0 ≤ share (total : Rat) (n * (n - 1) : Nat) ∧
        (share (total : Rat) (n * (n - 1) : Nat) ≤ 1 ↔ n < 2 ∨ ¬ Crowded n d) := by
  intro n
  have hpositive : 1 ≤ d := Int.natCast_pos.mp (Value.zero_lt_of_atMost_eq_false hdivisor hcheck)
  have hfits : n - 1 + n / d ≤ n * (n - 1) / 2 ↔ ¬ Crowded n d := estimate_le_pairs_iff hpositive
  refine ⟨exists_statisticsOf_of_divisor hdivisor hpositive, ?_⟩
  intro statistics hstatistics
  have htotal := totalEdges_of_statisticsOf hdivisor hpositive hstatistics
  have hdensity := density_of_statisticsOf hstatistics
  rw [htotal] at hdensity
  exact ⟨n - 1 + n / d, htotal, rfl, hfits, density_eq_share hdensity, zero_le_share _ n,
    share_le_one_iff.trans (or_congr_right hfits)⟩

/-- Devices without equipment, one for each id. -/
def bare (ids : List String) : List Device := ids.map fun id => ⟨id, none, []⟩

/-- Three devices have three pairs, and as many edges are expected. -/
theorem statisticsOf_fits_trio :
    ∃ statistics, statisticsOf .default (bare ["r1", "r2", "s1"]) = .ok statistics ∧
      statistics.totalEdges = .int 3 ∧ share (3 : Rat) (3 * 2 : Nat) ≤ 1 := by
  obtain ⟨hstatistics, hfits⟩ := statisticsOf_fits .default (bare ["r1", "r2", "s1"]) (d := 3) rfl rfl
  obtain ⟨statistics, h⟩ := hstatistics (by decide)
  obtain ⟨total, htotal, rfl, -, -, -, hone⟩ := hfits statistics h
  exact ⟨statistics, h, htotal, hone.mpr (.inr (by decide))⟩

/-- Settings with which one more edge is expected for every other device. -/
def halved : SynthesisSettings := { SynthesisSettings.default with divisor := .int 2 }

/-- Between two devices there is one pair, but two edges are expected. -/
theorem statisticsOf_exceeds_pairs :
    let devices := bare ["r1", "r2"]
    (devices.map (·.id)).Nodup ∧ Settings.checkSynthesis halved = .ok () ∧
      ∃ statistics, statisticsOf halved devices = .ok statistics ∧
        statistics.totalEdges = .int 2 ∧ ¬ 2 ≤ devices.length * (devices.length - 1) / 2 ∧
        1 < share (2 : Rat) (devices.length * (devices.length - 1) : Nat) := by
  have hexists : ∃ statistics, statisticsOf halved (bare ["r1", "r2"]) = .ok statistics :=
    exists_statisticsOf_of_divisor (d := 2) rfl (by decide) (by decide)
  obtain ⟨statistics, h⟩ := hexists
  have htotal : statistics.totalEdges = .int 2 :=
    totalEdges_of_statisticsOf (s := halved) (d := 2) rfl (by decide) h
  refine ⟨by decide, rfl, statistics, h, htotal, by decide, ?_⟩
  refine lt_of_not_ge (mt (share_le_one_iff (k := 2) (n := 2)).mp ?_)
  decide

end Synthesis

end NetAtlas
