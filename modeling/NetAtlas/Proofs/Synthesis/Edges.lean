import NetAtlas.Proofs.Synthesis.Drawable
import NetAtlas.Proofs.Topology.Graph
import NetAtlas.Random.Twister

/-!
The edges of a synthesis. The first pass puts a star around the first id, with ends that depend on
the ids alone; the second pass adds pairs that are not joined yet.
-/

namespace NetAtlas

namespace Synthesis

/-- The ends of the first edges: the first two ids are joined, and each further one is joined to the
    first. An id that repeats counts where it first stands. -/
def spokes (ids : List String) : List (String × String) :=
  match ids.eraseDups with
  | a :: b :: rest => (a, b) :: rest.map (·, a)
  | _ => []

variable {σ : Type} [WordSource σ] {s : SynthesisSettings}

theorem way_newEdge {a b : String} {source rest : σ} {e : Edge}
    (hrun : (newEdge s a b).run source = (.ok e, rest)) : e.way = (a, b) := by
  obtain ⟨weight, _, _, hrun⟩ := Drawing.run_bind_eq_ok_iff.mp hrun
  obtain ⟨cost, _, _, hrun⟩ := Drawing.run_bind_eq_ok_iff.mp hrun
  obtain ⟨rfl, _⟩ := Drawing.run_pure_eq_ok_iff.mp hrun
  rfl

theorem connectEach_of_touched {ids pending : List String} {id : String} {edges : List Edge}
    (htouched : Edges.touched edges id = true) :
    (connectEach s ids (id :: pending) edges : Drawing σ (List Edge)) =
      connectEach s ids pending edges := by
  rw [connectEach, if_pos htouched]

theorem connectEach_of_firstTarget?_eq_none {ids pending : List String} {id : String}
    {edges : List Edge} (hnone : firstTarget? ids edges id = none) :
    (connectEach s ids (id :: pending) edges : Drawing σ (List Edge)) =
      connectEach s ids pending edges := by
  rw [connectEach]
  split
  · rfl
  · rw [hnone]

/-- A device without an edge gets one to its first target. -/
theorem exists_newEdge_of_connectEach {ids pending : List String} {id other : String}
    {edges edges' : List Edge} {source rest : σ} (huntouched : Edges.touched edges id = false)
    (hother : firstTarget? ids edges id = some other)
    (hrun : (connectEach s ids (id :: pending) edges).run source = (.ok edges', rest)) :
    ∃ e middle, e.way = (id, other) ∧
      (connectEach s ids pending (edges ++ [e])).run middle = (.ok edges', rest) := by
  rw [connectEach, if_neg (by simp [huntouched])] at hrun
  simp only [hother] at hrun
  obtain ⟨e, middle, hnew, hrun⟩ := Drawing.run_bind_eq_ok_iff.mp hrun
  exact ⟨e, middle, way_newEdge hnew, hrun⟩

theorem firstTarget?_head {ids : List String} {a id : String} {edges : List Edge}
    (hne : a ≠ id) (huntouched : Edges.touched edges id = false) :
    firstTarget? (a :: ids) edges id = some a := by
  have hjoined : Edges.joined edges id a = false := by
    by_contra hjoined
    rw [Bool.not_eq_false] at hjoined
    rw [Edges.touched_of_joined hjoined] at huntouched
    exact Bool.noConfusion huntouched
  simp [firstTarget?, hne, hjoined]

theorem filter_not_mem_cons (id : String) (known pending : List String) :
    pending.filter (· ∉ id :: known) =
      (pending.filter (· ∉ known)).filter fun other => !other == id := by
  rw [List.filter_filter]
  congr 1
  funext other
  simp [beq_eq_decide]

/-- Once the first device has an edge, the others join it one by one. The invariant is that the
    known ids, the first among them, are those that have an edge. -/
theorem ways_connectEach {ids pending known : List String} {a : String}
    {edges edges' : List Edge} {source rest : σ} (ha : a ∈ known)
    (hknown : ∀ id, Edges.touched edges id = true ↔ id ∈ known)
    (hrun : (connectEach s (a :: ids) pending edges).run source = (.ok edges', rest)) :
    edges'.map Edge.way =
      edges.map Edge.way ++ (pending.filter (· ∉ known)).eraseDups.map (·, a) := by
  induction pending generalizing known edges source with
  | nil =>
    rw [connectEach] at hrun
    obtain ⟨rfl, _⟩ := Drawing.run_pure_eq_ok_iff.mp hrun
    simp
  | cons id pending ih =>
    by_cases hid : id ∈ known
    · rw [connectEach_of_touched ((hknown id).mpr hid)] at hrun
      rw [ih ha hknown hrun, List.filter_cons_of_neg (by simpa using hid)]
    · have huntouched : Edges.touched edges id = false := by
        rw [Bool.eq_false_iff]
        exact fun htouched => hid ((hknown id).mp htouched)
      have hne : a ≠ id := fun heq => hid (heq ▸ ha)
      obtain ⟨e, middle, hway, hrun⟩ :=
        exists_newEdge_of_connectEach huntouched (firstTarget?_head hne huntouched) hrun
      obtain ⟨hsource, htarget⟩ := Prod.mk.inj hway
      have hknown' : ∀ other, Edges.touched (edges ++ [e]) other = true ↔ other ∈ id :: known := by
        intro other
        rw [Edges.touched_append_singleton, hknown, hsource, htarget, List.mem_cons]
        constructor
        · rintro (h | h | rfl)
          · exact .inr h
          · exact .inl h
          · exact .inr ha
        · rintro (h | h)
          · exact .inr (.inl h)
          · exact .inl h
      rw [ih (List.mem_cons_of_mem _ ha) hknown' hrun,
        List.filter_cons_of_pos (by simpa using hid), List.eraseDups_cons, filter_not_mem_cons]
      simp [hway]

/-- Devices of one id get no edges. -/
theorem connectEach_of_forall_eq {ids pending : List String} {a : String} {source : σ}
    (hids : ∀ id ∈ ids, id = a) (hpending : ∀ id ∈ pending, id = a) :
    (connectEach s ids pending []).run source = (.ok [], source) := by
  induction pending with
  | nil => rfl
  | cons id pending ih =>
    obtain rfl := hpending id List.mem_cons_self
    have hnone : firstTarget? ids [] id = none := by
      rw [firstTarget?, List.find?_eq_none]
      intro other hother
      simp [hids other hother]
    rw [connectEach_of_firstTarget?_eq_none hnone]
    exact ih fun other hother => hpending other (List.mem_cons_of_mem _ hother)

/-- The ends of the edges of the first pass do not depend on what is drawn. -/
theorem ways_connectEach_self {ids : List String} {edges : List Edge} {source rest : σ}
    (hrun : (connectEach s ids ids []).run source = (.ok edges, rest)) :
    edges.map Edge.way = spokes ids := by
  cases ids with
  | nil =>
    rw [connectEach] at hrun
    obtain ⟨rfl, _⟩ := Drawing.run_pure_eq_ok_iff.mp hrun
    rfl
  | cons a ids =>
    have hnext : firstTarget? (a :: ids) [] a = (ids.filter fun id => !id == a).head? := by
      rw [List.head?_filter]
      simp [firstTarget?, Edges.joined, bne]
    rw [spokes, List.eraseDups_cons]
    cases hothers : ids.filter fun id => !id == a with
    | nil =>
      have hsame : ∀ id ∈ a :: ids, id = a := by simpa using hothers
      rw [connectEach_of_forall_eq hsame hsame] at hrun
      obtain ⟨hedges, _⟩ := Prod.mk.inj hrun
      rw [← Except.ok.inj hedges]
      rfl
    | cons b others =>
      rw [hothers] at hnext
      obtain ⟨e, middle, hway, hrun⟩ := exists_newEdge_of_connectEach rfl hnext hrun
      obtain ⟨hsource, htarget⟩ := Prod.mk.inj hway
      -- From here on the first two ids are known, and every other one joins the first.
      have hknown : ∀ id, Edges.touched ([] ++ [e]) id = true ↔ id ∈ [b, a] := by
        intro id
        rw [Edges.touched_append_singleton, hsource, htarget]
        simp [Edges.touched, or_comm]
      have hfilter : ids.filter (· ∉ [b, a]) = others.filter fun id => !id == b := by
        have hone : ids.filter (· ∉ [a]) = b :: others := by
          rw [← hothers]
          simp [beq_eq_decide]
        rw [filter_not_mem_cons, hone, List.filter_cons_of_neg (by simp)]
      rw [ways_connectEach (by simp) hknown hrun, hfilter, List.eraseDups_cons]
      simp [hway]

/-- Two ids that differ are enough for a first edge. -/
theorem exists_eraseDups_eq {ids : List String} (h : ∃ a ∈ ids, ∃ b ∈ ids, a ≠ b) :
    ∃ a b rest, ids.eraseDups = a :: b :: rest := by
  obtain ⟨x, hx, y, hy, hne⟩ := h
  rw [← List.mem_eraseDups] at hx hy
  match hids : ids.eraseDups with
  | [] => simp [hids] at hx
  | [a] =>
    rw [hids, List.mem_singleton] at hx hy
    exact absurd (hx.trans hy.symm) hne
  | a :: b :: rest => exact ⟨a, b, rest, rfl⟩

/-- A spoke runs between two ids that differ. -/
theorem ne_and_mem_of_mem_spokes {ids : List String} {x y : String} (h : (x, y) ∈ spokes ids) :
    x ≠ y ∧ x ∈ ids ∧ y ∈ ids := by
  rw [← List.mem_eraseDups (a := x), ← List.mem_eraseDups (a := y)]
  have hnodup := nodup_eraseDups ids
  rw [spokes] at h
  split at h
  · rename_i a b rest hids
    rw [hids] at hnodup ⊢
    have ha := (List.nodup_cons.mp hnodup).1
    rcases List.mem_cons.mp h with hfirst | h
    · obtain ⟨rfl, rfl⟩ := Prod.mk.inj hfirst
      exact ⟨fun heq => ha (heq ▸ List.mem_cons_self), by simp, by simp⟩
    · obtain ⟨z, hz, hspoke⟩ := List.mem_map.mp h
      obtain ⟨rfl, rfl⟩ := Prod.mk.inj hspoke
      have hz' : z ∈ b :: rest := List.mem_cons_of_mem _ hz
      exact ⟨fun heq => ha (heq ▸ hz'), List.mem_cons_of_mem _ hz', List.mem_cons_self⟩
  · exact absurd h List.not_mem_nil

/-- No two spokes run between the same ids, in whatever direction. -/
theorem nodup_pairs_spokes (ids : List String) :
    ((spokes ids).map fun way => s(way.1, way.2)).Nodup := by
  have hnodup := nodup_eraseDups ids
  rw [spokes]
  split
  · rename_i a b rest hids
    rw [hids, List.nodup_cons, List.nodup_cons] at hnodup
    obtain ⟨ha, hb, hrest⟩ := hnodup
    rw [List.map_cons, List.nodup_cons, List.map_map]
    constructor
    · intro hparallel
      obtain ⟨x, hx, hxa⟩ := List.mem_map.mp hparallel
      have hsame : s(x, a) = s(a, b) := hxa
      rcases Sym2.eq_iff.mp hsame with ⟨rfl, _⟩ | ⟨rfl, _⟩
      · exact ha (List.mem_cons_of_mem _ hx)
      · exact hb hx
    · apply hrest.map
      intro x y hxy
      exact Sym2.congr_left.mp hxy
  · exact List.nodup_nil

/-- A star has neither loops nor parallel edges. -/
theorem simple_of_ways_eq_spokes {ids : List String} {edges : List Edge}
    (h : edges.map Edge.way = spokes ids) : Edges.Simple ids edges := by
  have hway {e : Edge} (he : e ∈ edges) : (e.source, e.target) ∈ spokes ids := by
    rw [← h]
    exact List.mem_map_of_mem he
  refine ⟨?_, ?_, ?_⟩
  · intro e he
    exact (ne_and_mem_of_mem_spokes (hway he)).1
  · have hpair : edges.map Edge.pair = (spokes ids).map fun way => s(way.1, way.2) := by
      rw [← h, List.map_map]
      rfl
    rw [hpair]
    exact nodup_pairs_spokes ids
  · intro e he
    exact (ne_and_mem_of_mem_spokes (hway he)).2

/-- An attempt changes nothing, or it adds an edge between two ids that were not joined. -/
theorem exists_of_joinSome_succ {ids : List String} (hids : ids ≠ []) {n : Nat}
    {edges edges' : List Edge} {source rest : σ}
    (hrun : (joinSome s ids (n + 1) edges).run source = (.ok edges', rest)) :
    ∃ middle, (joinSome s ids n edges).run middle = (.ok edges', rest) ∨
      ∃ e, e.source ≠ e.target ∧ Edges.joined edges e.source e.target = false ∧
        (e.source ∈ ids ∧ e.target ∈ ids) ∧
        Drawing.Gives (newEdge s e.source e.target : Drawing σ Edge) e ∧
        (joinSome s ids n (edges ++ [e])).run middle = (.ok edges', rest) := by
  rw [joinSome] at hrun
  obtain ⟨a, afterFirst, hfirst, hrun⟩ := Drawing.run_bind_eq_ok_iff.mp hrun
  obtain ⟨b, afterSecond, hsecond, hrun⟩ := Drawing.run_bind_eq_ok_iff.mp hrun
  have ha : a ∈ ids := Random.mem_of_gives_choice hids ⟨source, afterFirst, hfirst⟩
  have hb : b ∈ ids := Random.mem_of_gives_choice hids ⟨afterFirst, afterSecond, hsecond⟩
  split at hrun
  · exact ⟨afterSecond, .inl hrun⟩
  · rename_i hapart
    obtain ⟨hne, hjoined⟩ := not_or.mp hapart
    obtain ⟨e, middle, hnew, hrest⟩ := Drawing.run_bind_eq_ok_iff.mp hrun
    obtain ⟨rfl, rfl⟩ := Prod.mk.inj (way_newEdge hnew)
    exact ⟨middle, .inr ⟨e, hne, Bool.eq_false_iff.mpr hjoined, ⟨ha, hb⟩,
      ⟨afterSecond, middle, hnew⟩, hrest⟩⟩

/-- The second pass adds to the edges there are, and the graph stays simple. -/
theorem exists_append_of_joinSome {ids : List String} (hids : ids ≠ []) {n : Nat}
    {edges edges' : List Edge} {source rest : σ} (hsimple : Edges.Simple ids edges)
    (hrun : (joinSome s ids n edges).run source = (.ok edges', rest)) :
    ∃ more, edges' = edges ++ more ∧ Edges.Simple ids edges' := by
  induction n generalizing edges source with
  | zero =>
    rw [joinSome] at hrun
    obtain ⟨rfl, _⟩ := Drawing.run_pure_eq_ok_iff.mp hrun
    exact ⟨[], by simp, hsimple⟩
  | succ n ih =>
    obtain ⟨middle, hrun | ⟨e, hloop, hjoined, hends, _, hrun⟩⟩ := exists_of_joinSome_succ hids hrun
    · exact ih hsimple hrun
    · obtain ⟨more, hmore, hsimple'⟩ := ih (hsimple.append_singleton hloop hjoined hends) hrun
      exact ⟨e :: more, by simp [hmore], hsimple'⟩

/-- There are no edges between fewer than two ids. Otherwise a first pass and then as many attempts as
    there are to be have come to the edges. -/
theorem connect_cases {ids : List String} {edges : List Edge} {source rest : σ}
    (hrun : (connect s ids).run source = (.ok edges, rest)) :
    (ids.length < 2 ∧ edges = []) ∨
      (ids ≠ [] ∧ ∃ n first middle, attempts s ids.length = .ok n ∧
        (connectEach s ids ids []).run source = (.ok first, middle) ∧
        (joinSome s ids n first).run middle = (.ok edges, rest)) := by
  rw [connect] at hrun
  split at hrun
  · rename_i hfew
    obtain ⟨rfl, _⟩ := Drawing.run_pure_eq_ok_iff.mp hrun
    exact .inl ⟨hfew, rfl⟩
  · rename_i hmany
    have hids : ids ≠ [] := fun hempty => hmany (by simp [hempty])
    obtain ⟨first, middle, hfirst, hrun⟩ := Drawing.run_bind_eq_ok_iff.mp hrun
    obtain ⟨n, _, hcheck, hrun⟩ := Drawing.run_bind_eq_ok_iff.mp hrun
    obtain ⟨hattempts, rfl⟩ := Prod.mk.inj hcheck
    exact .inr ⟨hids, n, first, middle, hattempts, hfirst, hrun⟩

/-- The edges begin with the star around the first id, and all of them form a simple graph. -/
theorem exists_spokes_append_of_connect {ids : List String} {edges : List Edge} {source rest : σ}
    (hrun : (connect s ids).run source = (.ok edges, rest)) :
    ∃ first more, edges = first ++ more ∧ first.map Edge.way = spokes ids ∧
      Edges.Simple ids edges := by
  obtain ⟨hfew, rfl⟩ | ⟨hids, n, first, middle, _, hfirst, hjoin⟩ := connect_cases hrun
  · refine ⟨[], [], rfl, ?_, by simp, by simp, by simp⟩
    cases ids with
    | nil => rfl
    | cons a ids =>
      rw [List.length_cons] at hfew
      obtain rfl := List.length_eq_zero_iff.mp (show ids.length = 0 by omega)
      rfl
  · have hways := ways_connectEach_self hfirst
    obtain ⟨more, hmore, hsimple⟩ :=
      exists_append_of_joinSome hids (simple_of_ways_eq_spokes hways) hjoin
    exact ⟨first, more, hmore, hways, hsimple⟩

/-- A star connects the ids if there are two of them. -/
theorem connects_of_spokes_subset {ids : List String} {edges : List Edge}
    (hids : ∃ a ∈ ids, ∃ b ∈ ids, a ≠ b)
    (hspokes : ∀ way ∈ spokes ids, way ∈ edges.map Edge.way) : Edges.Connects ids edges := by
  obtain ⟨a, b, rest, hdistinct⟩ := exists_eraseDups_eq hids
  rw [spokes, hdistinct] at hspokes
  have hfirst := Edges.joined_of_mem_ways (hspokes (a, b) List.mem_cons_self)
  have hcentre : ∀ id ∈ ids, id = a ∨ Edges.joined edges id a = true ∧ Edges.joined edges a id = true := by
    intro id hid
    rw [← List.mem_eraseDups, hdistinct, List.mem_cons, List.mem_cons] at hid
    rcases hid with rfl | rfl | hid
    · exact .inl rfl
    · exact .inr hfirst.symm
    · exact .inr (Edges.joined_of_mem_ways (hspokes (id, a) (by simp [hid])))
  refine ⟨?_, ?_⟩
  · intro id hid
    rcases hcentre id hid with rfl | ⟨hto, _⟩
    · exact Edges.touched_of_joined hfirst.1
    · exact Edges.touched_of_joined hto
  · -- A path leads to the first id and from there to the other one.
    intro x hx y hy
    have hto : Relation.ReflTransGen (fun a b => Edges.joined edges a b = true) x a := by
      rcases hcentre x hx with rfl | ⟨hto, _⟩
      · exact .refl
      · exact .single hto
    have hfrom : Relation.ReflTransGen (fun a b => Edges.joined edges a b = true) a y := by
      rcases hcentre y hy with rfl | ⟨_, hfrom⟩
      · exact .refl
      · exact .single hfrom
    exact hto.trans hfrom

theorem connects_of_connect {ids : List String} {edges : List Edge} {source rest : σ}
    (hrun : (connect s ids).run source = (.ok edges, rest))
    (hids : ∃ a ∈ ids, ∃ b ∈ ids, a ≠ b) : Edges.Connects ids edges := by
  obtain ⟨first, more, rfl, hways, _⟩ := exists_spokes_append_of_connect hrun
  apply connects_of_spokes_subset hids
  intro way hway
  rw [List.map_append, hways]
  exact List.mem_append_left _ hway

theorem simple_of_connect {ids : List String} {edges : List Edge} {source rest : σ}
    (hrun : (connect s ids).run source = (.ok edges, rest)) : Edges.Simple ids edges := by
  obtain ⟨_, _, _, _, hsimple⟩ := exists_spokes_append_of_connect hrun
  exact hsimple

/-- The edges between devices form a simple graph on their ids, whatever is drawn and even if ids
    repeat. If two ids differ, each id has an edge and any two are joined by a path. -/
theorem connect_simple_connected (s : SynthesisSettings) (ids : List String) (source : σ) :
    (s.Drawable → ∃ edges rest, (connect s ids).run source = (.ok edges, rest)) ∧
    ∀ edges rest, (connect s ids).run source = (.ok edges, rest) →
      Edges.Simple ids edges ∧ ((∃ a ∈ ids, ∃ b ∈ ids, a ≠ b) → Edges.Connects ids edges) := by
  refine ⟨fun hs => total_connect hs ids source, ?_⟩
  intro edges rest hrun
  obtain ⟨first, more, rfl, hways, hsimple⟩ := exists_spokes_append_of_connect hrun
  refine ⟨hsimple, fun hids => connects_of_spokes_subset hids ?_⟩
  intro way hway
  rw [List.map_append, hways]
  exact List.mem_append_left _ hway

theorem connect_simple_connected_repeated :
    ∃ edges rest, (connect .default ["r1", "s1", "r1", "s2"]).run (Twister.ofSeed 7) = (.ok edges, rest) ∧
      Edges.Simple ["r1", "s1", "r1", "s2"] edges ∧ Edges.Connects ["r1", "s1", "r1", "s2"] edges := by
  obtain ⟨htotal, hgraph⟩ :=
    connect_simple_connected .default ["r1", "s1", "r1", "s2"] (Twister.ofSeed 7)
  obtain ⟨edges, rest, hrun⟩ := htotal drawable_default
  obtain ⟨hsimple, hconnects⟩ := hgraph edges rest hrun
  exact ⟨edges, rest, hrun, hsimple, hconnects ⟨"r1", by simp, "s1", by simp, by decide⟩⟩

end Synthesis

end NetAtlas
