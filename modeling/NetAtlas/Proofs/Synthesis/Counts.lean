import Mathlib.Data.Sym.Card
import NetAtlas.Proofs.Synthesis.Edges
import NetAtlas.Proofs.Synthesis.Nodes

/-!
How many edges there are. The star around the first id has one edge less than there are ids that
differ, each attempt of the second pass adds one edge at most, and a simple graph has no room for
more edges than pairs of its ids; so the estimate in the statistics is never exceeded.
-/

namespace NetAtlas

/-- A simple graph has at most one edge for each pair of its ids. -/
theorem Edges.Simple.length_le {ids : List String} {edges : List Edge} (h : Simple ids edges) :
    edges.length ≤ ids.eraseDups.length * (ids.eraseDups.length - 1) / 2 := by
  have hends : (edges.map Edge.pair).toFinset ⊆
      ids.eraseDups.toFinset.offDiag.image Sym2.mk.uncurry := by
    intro pair hpair
    obtain ⟨e, he, rfl⟩ := List.mem_map.mp (List.mem_toFinset.mp hpair)
    obtain ⟨hsource, htarget⟩ := h.ends e he
    refine Finset.mem_image.mpr ⟨(e.source, e.target), ?_, rfl⟩
    simp [hsource, htarget, h.noLoop e he]
  have hcard := Finset.card_le_card hends
  rwa [Sym2.card_image_offDiag, List.toFinset_card_of_nodup h.noParallel,
    List.toFinset_card_of_nodup (nodup_eraseDups ids), List.length_map,
    Nat.choose_two_right] at hcard

namespace Synthesis

theorem length_spokes (ids : List String) : (spokes ids).length = ids.eraseDups.length - 1 := by
  rw [spokes]
  split
  · rename_i a b rest hids
    simp [hids]
  · rename_i hfew
    cases hids : ids.eraseDups with
    | nil => rfl
    | cons a rest =>
      cases rest with
      | nil => rfl
      | cons b rest => exact absurd hids (hfew a b rest)

variable {σ : Type} [WordSource σ] {s : SynthesisSettings}

/-- An attempt adds one edge, or none. -/
theorem length_le_of_joinSome {ids : List String} (hids : ids ≠ []) {n : Nat}
    {edges edges' : List Edge} {source rest : σ}
    (hrun : (joinSome s ids n edges).run source = (.ok edges', rest)) :
    edges'.length ≤ edges.length + n := by
  induction n generalizing edges source with
  | zero =>
    rw [joinSome] at hrun
    obtain ⟨rfl, _⟩ := Drawing.run_pure_eq_ok_iff.mp hrun
    exact Nat.le_refl _
  | succ n ih =>
    obtain ⟨middle, hrun | ⟨e, _, _, _, _, hrun⟩⟩ := exists_of_joinSome_succ hids hrun
    · have hle := ih hrun
      omega
    · have hle := ih hrun
      rw [List.length_append, List.length_singleton] at hle
      omega

theorem length_le_of_connect {ids : List String} {edges : List Edge} {source rest : σ} {n : Nat}
    (hattempts : attempts s ids.length = .ok n)
    (hrun : (connect s ids).run source = (.ok edges, rest)) :
    edges.length ≤ (spokes ids).length + n := by
  obtain ⟨_, rfl⟩ | ⟨hids, m, first, middle, hattempts', hfirst, hjoin⟩ := connect_cases hrun
  · exact Nat.zero_le _
  · obtain rfl : n = m := Except.ok.inj (hattempts.symm.trans hattempts')
    rw [← ways_connectEach_self hfirst, List.length_map]
    exact length_le_of_joinSome hids hjoin

/-- The statistics report the estimate for so many devices. -/
theorem totalEdges_of_statisticsOf {devices : List Device} {statistics : Statistics} {d : Nat}
    (hdivisor : s.divisor.integer? = some (d : Int)) (hpositive : 1 ≤ d)
    (h : statisticsOf s devices = .ok statistics) :
    statistics.totalEdges = .int (devices.length - 1 + devices.length / d : Nat) := by
  obtain ⟨divisor, hread, h⟩ := bind_eq_ok_iff.mp h
  rw [Value.numeric_of_integer? hdivisor] at hread
  obtain rfl := Except.ok.inj hread
  obtain ⟨edges, hestimate, h⟩ := bind_eq_ok_iff.mp h
  rw [estimatedEdges_ofNat devices.length hpositive] at hestimate
  obtain rfl := Except.ok.inj hestimate
  obtain ⟨share, _, h⟩ := bind_eq_ok_iff.mp h
  obtain rfl := Except.ok.inj h
  rfl

theorem length_eraseDups_le (ids : List String) : ids.eraseDups.length ≤ ids.length := by
  apply List.Subperm.length_le
  apply (nodup_eraseDups ids).subperm
  intro id hid
  exact List.mem_eraseDups.mp hid

/-- The edges begin with a star around the first id, whose ends do not depend on what is drawn, and
    at most one further edge for each attempt follows. So there are enough edges to connect the ids,
    and no more than fit between them or than the statistics of the same devices report. -/
theorem connect_counts (s : SynthesisSettings) (devices : List Device) (source : σ) {d : Nat}
    (hdivisor : s.divisor.integer? = some (d : Int)) (hpositive : 1 ≤ d) :
    let ids := devices.map (·.id)
    let n := devices.length
    let k := ids.eraseDups.length
    (s.Drawable → ∃ edges rest, (connect s ids).run source = (.ok edges, rest)) ∧
    (n < 2 ^ 63 → ∃ statistics, statisticsOf s devices = .ok statistics) ∧
    ∀ edges rest, (connect s ids).run source = (.ok edges, rest) →
      (∃ first more, edges = first ++ more ∧ first.map Edge.way = spokes ids ∧
        first.length = k - 1 ∧ more.length ≤ n / d) ∧
      (k - 1 ≤ edges.length ∧ edges.length ≤ min (k - 1 + n / d) (k * (k - 1) / 2)) ∧
      ∀ statistics, statisticsOf s devices = .ok statistics →
        ∃ total : Int, statistics.totalEdges = .int total ∧ edges.length ≤ total := by
  intro ids n k
  have hn : ids.length = n := List.length_map _
  have hk : k ≤ n := hn ▸ length_eraseDups_le ids
  refine ⟨fun hs => total_connect hs ids source,
    exists_statisticsOf_of_divisor hdivisor hpositive, ?_⟩
  intro edges rest hrun
  obtain ⟨first, more, hedges, hways, hsimple⟩ := exists_spokes_append_of_connect hrun
  have hfirst : first.length = k - 1 := by
    rw [← length_spokes, ← hways, List.length_map]
  have hlength : edges.length = first.length + more.length := by
    rw [hedges, List.length_append]
  have hattempts : edges.length ≤ k - 1 + n / d := by
    have hle := length_le_of_connect (attempts_eq hdivisor hpositive ids.length) hrun
    rwa [length_spokes, hn] at hle
  refine ⟨⟨first, more, hedges, hways, hfirst, ?_⟩, ⟨?_, ?_⟩, ?_⟩
  · omega
  · omega
  · exact Nat.le_min.mpr ⟨hattempts, hsimple.length_le⟩
  · intro statistics hstatistics
    refine ⟨_, totalEdges_of_statisticsOf hdivisor hpositive hstatistics, ?_⟩
    have hestimate : edges.length ≤ n - 1 + n / d := by omega
    exact Int.ofNat_le.mpr hestimate

/-- Six devices with four ids. -/
def namesakes : List Device := ["r1", "s1", "r1", "s2", "s1", "s3"].map fun id => ⟨id, none, []⟩

theorem connect_counts_namesakes :
    ∃ edges rest, (connect .default (namesakes.map (·.id))).run (Twister.ofSeed 7) = (.ok edges, rest) ∧
      (∃ more, edges.map Edge.way = [("r1", "s1"), ("s2", "r1"), ("s3", "r1")] ++ more) ∧
      (3 ≤ edges.length ∧ edges.length ≤ 5) ∧
      ∃ statistics, statisticsOf .default namesakes = .ok statistics := by
  obtain ⟨hedges, hstatistics, hcounts⟩ :=
    connect_counts .default namesakes (Twister.ofSeed 7) (d := 3) rfl (by decide)
  obtain ⟨edges, rest, hrun⟩ := hedges drawable_default
  obtain ⟨⟨first, more, rfl, hways, _⟩, ⟨hleast, hmost⟩, _⟩ := hcounts edges rest hrun
  refine ⟨first ++ more, rest, hrun, ⟨more.map Edge.way, ?_⟩, ⟨hleast, hmost⟩,
    hstatistics (by decide)⟩
  rw [List.map_append, hways]
  rfl

end Synthesis

end NetAtlas
