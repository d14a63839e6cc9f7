import NetAtlas.Proofs.Synthesis.Undrawn
import NetAtlas.Proofs.Text.Blank

/-!
The ids of edges and links. They are put together from the ids of devices with hyphens between
them, and nothing marks hyphens that stand within an id; so they tell edges and links apart as far
as the ids of the devices can be read off the text that joins them.
-/

namespace NetAtlas

/-- Two ids as they stand in the id of an edge or a link. -/
def hyphenated (a b : String) : String := a ++ "-" ++ b

/-- Pairs of different ids can be told apart when a hyphen joins them. -/
def Unambiguous (ids : List String) : Prop :=
  ∀ a ∈ ids, ∀ b ∈ ids, ∀ c ∈ ids, ∀ d ∈ ids, a ≠ b → c ≠ d →
    hyphenated a b = hyphenated c d → a = c ∧ b = d

theorem toList_hyphenated (a b : String) :
    (hyphenated a b).toList = a.toList ++ '-' :: b.toList := by
  simp [hyphenated]

/-- It is enough that all ids have as many hyphens, none for instance. -/
theorem unambiguous_of_count {ids : List String} {n : Nat}
    (h : ∀ id ∈ ids, id.toList.count '-' = n) : Unambiguous ids := by
  intro a ha b _ c hc d _ _ _ hsame
  have hlists := congrArg String.toList hsame
  rw [toList_hyphenated, toList_hyphenated] at hlists
  obtain ⟨hfirst, hsecond⟩ := Text.append_cons_inj_of_count ((h a ha).trans (h c hc).symm) hlists
  exact ⟨String.toList_inj.mp hfirst, String.toList_inj.mp hsecond⟩

theorem hyphenated_of_edgeId {a b c d : String} (h : s!"edge-{a}-{b}" = s!"edge-{c}-{d}") :
    hyphenated a b = hyphenated c d := by
  simpa [toString, hyphenated, String.append_assoc] using h

theorem hyphen_not_mem_repr (n : Nat) : '-' ∉ n.repr.toList := by
  intro hmem
  rw [Nat.toList_repr] at hmem
  exact absurd (Nat.isDigit_of_mem_toDigits (by decide) (by decide) hmem) (by decide)

theorem repr_inj {m n : Nat} (h : m.repr.toList = n.repr.toList) : m = n := by
  rw [Nat.toList_repr, Nat.toList_repr] at h
  have hvalue := congrArg (Nat.ofDigitChars 10 · 0) h
  simpa only [Nat.ofDigitChars_ten_toDigits] using hvalue

/-- The number at the end of a link id is what follows its last hyphen. -/
theorem hyphenated_of_linkId {a b c d : String} {i j : Nat}
    (h : s!"link-{a}-{b}-{i}" = s!"link-{c}-{d}-{j}") : hyphenated a b = hyphenated c d ∧ i = j := by
  have hlists : (hyphenated a b).toList ++ '-' :: i.repr.toList =
      (hyphenated c d).toList ++ '-' :: j.repr.toList := by
    have hnumbered := congrArg String.toList h
    simpa [toString, hyphenated] using hnumbered
  obtain ⟨hfirst, hsecond⟩ :=
    Text.append_cons_inj_of_not_mem (hyphen_not_mem_repr i) (hyphen_not_mem_repr j) hlists
  exact ⟨String.toList_inj.mp hfirst, repr_inj hsecond⟩

namespace Synthesis

variable {σ : Type} [WordSource σ] {s : SynthesisSettings}

section

variable {P : Edge → Prop} (hnew : ∀ a b e, Drawing.Gives (newEdge s a b : Drawing σ Edge) e → P e)

include hnew

theorem forall_of_connectEach {ids pending : List String} {edges edges' : List Edge}
    {source rest : σ} (hedges : ∀ e ∈ edges, P e)
    (hrun : (connectEach s ids pending edges).run source = (.ok edges', rest)) :
    ∀ e ∈ edges', P e := by
  induction pending generalizing edges source with
  | nil =>
    rw [connectEach] at hrun
    obtain ⟨rfl, _⟩ := Drawing.run_pure_eq_ok_iff.mp hrun
    exact hedges
  | cons id pending ih =>
    rw [connectEach] at hrun
    split at hrun
    · exact ih hedges hrun
    · split at hrun
      · exact ih hedges hrun
      · obtain ⟨e, middle, hdrawn, hrun⟩ := Drawing.run_bind_eq_ok_iff.mp hrun
        refine ih (List.forall_mem_append.mpr ⟨hedges, ?_⟩) hrun
        exact List.forall_mem_singleton.mpr (hnew _ _ e ⟨source, middle, hdrawn⟩)

theorem forall_of_joinSome {ids : List String} (hids : ids ≠ []) {n : Nat}
    {edges edges' : List Edge} {source rest : σ} (hedges : ∀ e ∈ edges, P e)
    (hrun : (joinSome s ids n edges).run source = (.ok edges', rest)) : ∀ e ∈ edges', P e := by
  induction n generalizing edges source with
  | zero =>
    rw [joinSome] at hrun
    obtain ⟨rfl, _⟩ := Drawing.run_pure_eq_ok_iff.mp hrun
    exact hedges
  | succ n ih =>
    obtain ⟨middle, hrun | ⟨e, _, _, _, hdrawn, hrun⟩⟩ := exists_of_joinSome_succ hids hrun
    · exact ih hedges hrun
    · refine ih (List.forall_mem_append.mpr ⟨hedges, ?_⟩) hrun
      exact List.forall_mem_singleton.mpr (hnew _ _ e hdrawn)

/-- What holds of each new edge holds of all edges. -/
theorem forall_of_connect {ids : List String} {edges : List Edge} {source rest : σ}
    (hrun : (connect s ids).run source = (.ok edges, rest)) : ∀ e ∈ edges, P e := by
  obtain ⟨_, rfl⟩ | ⟨hids, n, first, middle, _, hfirst, hjoin⟩ := connect_cases hrun
  · exact List.forall_mem_nil _
  · have hall := forall_of_connectEach hnew (List.forall_mem_nil _) hfirst
    exact forall_of_joinSome hnew hids hall hjoin

end

theorem id_of_newEdge {a b : String} {e : Edge}
    (he : Drawing.Gives (newEdge s a b : Drawing σ Edge) e) :
    e.id = s!"edge-{e.source}-{e.target}" := by
  obtain ⟨source, rest, hrun⟩ := he
  obtain ⟨weight, _, _, hrun⟩ := Drawing.run_bind_eq_ok_iff.mp hrun
  obtain ⟨cost, _, _, hrun⟩ := Drawing.run_bind_eq_ok_iff.mp hrun
  obtain ⟨rfl, _⟩ := Drawing.run_pure_eq_ok_iff.mp hrun
  rfl

/-- Edges of a simple graph have ids of their own if the ids at their ends can be told apart. -/
theorem nodup_edgeIds {ids : List String} {edges : List Edge} {source rest : σ}
    (hids : Unambiguous ids) (hrun : (connect s ids).run source = (.ok edges, rest)) :
    (edges.map (·.id)).Nodup := by
  have hnamed := forall_of_connect (fun _ _ _ => id_of_newEdge) hrun
  have hsimple := simple_of_connect hrun
  have hparallel : edges.Pairwise fun e f => e.pair ≠ f.pair :=
    List.pairwise_map.mp hsimple.noParallel
  refine List.pairwise_map.mpr (hparallel.imp_of_mem ?_)
  intro e f he hf hpair hid
  rw [hnamed e he, hnamed f hf] at hid
  obtain ⟨hesource, hetarget⟩ := hsimple.ends e he
  obtain ⟨hfsource, hftarget⟩ := hsimple.ends f hf
  obtain ⟨hsource, htarget⟩ := hids _ hesource _ hetarget _ hfsource _ hftarget
    (hsimple.noLoop e he) (hsimple.noLoop f hf) (hyphenated_of_edgeId hid)
  exact hpair (by rw [Edge.pair, Edge.pair, hsource, htarget])

/-- The links of the device are named after it, after other ids, and by number. -/
def LinksNamed (ids : List String) (d : Device) : Prop :=
  ∃ ends : List String, (∀ id ∈ ends, id ∈ ids ∧ d.id ≠ id) ∧
    d.links.map (·.id) = ends.zipIdx.map fun p => s!"link-{d.id}-{p.1}-{p.2}"

theorem ids_drawLinksFrom {targets : List Device} (htargets : targets ≠ []) (d : Device)
    (i count : Nat) (source : σ) :
    ∃ ends : List String, (∀ id ∈ ends, id ∈ targets.map (·.id)) ∧
      ((drawLinksFrom s d targets i count).run source).1.map (·.id) =
        (ends.zipIdx i).map fun p => s!"link-{d.id}-{p.1}-{p.2}" := by
  induction count generalizing i source with
  | zero => exact ⟨[], List.forall_mem_nil _, rfl⟩
  | succ count ih =>
    obtain ⟨ends, hends, hids⟩ := ih (i + 1) ((drawLink s d targets i).run source).2
    refine ⟨((Random.choice targets).run source).1.id :: ends, ?_, ?_⟩
    · rw [List.forall_mem_cons]
      exact ⟨List.mem_map_of_mem (Random.choice_mem htargets source), hends⟩
    · rw [List.zipIdx_cons, List.map_cons, ← hids]
      rfl

theorem ids_drawLinks {fleet : List Device} {d : Device} {links : List Link} {source rest : σ}
    (hrun : (drawLinks s fleet d).run source = (.ok links, rest)) :
    LinksNamed (fleet.map (·.id)) { d with links } := by
  rw [drawLinks] at hrun
  split at hrun
  · obtain ⟨rfl, _⟩ := Drawing.run_pure_eq_ok_iff.mp hrun
    exact ⟨[], List.forall_mem_nil _, rfl⟩
  · rename_i htargets
    obtain ⟨count, middle, _, hrun⟩ := Drawing.run_bind_eq_ok_iff.mp hrun
    obtain ⟨ends, hends, hids⟩ := ids_drawLinksFrom (s := s)
      (fun hempty => htargets (List.isEmpty_iff.mpr hempty)) d 0 count.toNat middle
    rw [(Drawing.run_draw_eq_ok_iff.mp hrun).1] at hids
    refine ⟨ends, fun id hid => ?_, hids⟩
    obtain ⟨other, hother, rfl⟩ := List.mem_map.mp (hends id hid)
    obtain ⟨hmem, hne⟩ := List.mem_filter.mp hother
    exact ⟨List.mem_map_of_mem hmem, (bne_iff_ne.mp hne).symm⟩

theorem linksNamed_of_relink {fleet devices linked : List Device} {source rest : σ}
    (hrun : relink s fleet Device.isEquipped devices source = ((.ok (), linked), rest)) :
    ∀ d ∈ linked, d.isEquipped = true → LinksNamed (fleet.map (·.id)) d := by
  have hrenewed := forall₂_of_relink
    (P := fun d links => LinksNamed (fleet.map (·.id)) { d with links })
    (fun _ _ links ⟨_, _, hdraw⟩ => ids_drawLinks hdraw) hrun
  have hnamed : List.Forall₂ (fun d' d => (d'.isEquipped = true → LinksNamed (fleet.map (·.id)) d') ∧
      True) linked devices := by
    refine (hrenewed.imp fun d d' h => ?_).flip
    refine ⟨fun hequipped => ?_, trivial⟩
    obtain ⟨_, links, rfl, hlinks⟩ | ⟨hbare, rfl⟩ := h
    · exact hlinks
    · exact absurd (hbare.symm.trans hequipped) (by simp)
  exact ((List.forall₂_and_left _ _).mp hnamed).1

theorem LinksNamed.nodup {ids : List String} {d : Device} (h : LinksNamed ids d) :
    (d.links.map (·.id)).Nodup := by
  obtain ⟨ends, _, hnamed⟩ := h
  have hnumbers : (ends.zipIdx.map Prod.snd).Nodup := by
    rw [List.zipIdx_map_snd]
    exact List.nodup_range'
  rw [hnamed]
  refine List.pairwise_map.mpr ((List.pairwise_map.mp hnumbers).imp fun hne hid => ?_)
  exact hne (hyphenated_of_linkId hid).2

theorem LinksNamed.disjoint {ids : List String} (hids : Unambiguous ids) {d d' : Device}
    (h : LinksNamed ids d) (h' : LinksNamed ids d') (hd : d.id ∈ ids) (hd' : d'.id ∈ ids)
    (hne : d.id ≠ d'.id) : List.Disjoint (d.links.map (·.id)) (d'.links.map (·.id)) := by
  obtain ⟨ends, hends, hnamed⟩ := h
  obtain ⟨ends', hends', hnamed'⟩ := h'
  intro id hid hid'
  rw [hnamed] at hid
  rw [hnamed'] at hid'
  obtain ⟨⟨a, i⟩, ha, rfl⟩ := List.mem_map.mp hid
  obtain ⟨⟨b, j⟩, hb, hsame⟩ := List.mem_map.mp hid'
  obtain ⟨hamem, hda⟩ := hends a (List.fst_mem_of_mem_zipIdx ha)
  obtain ⟨hbmem, hdb⟩ := hends' b (List.fst_mem_of_mem_zipIdx hb)
  exact hne (hids _ hd a hamem _ hd' b hbmem hda hdb (hyphenated_of_linkId hsame).1.symm).1

/-- Links of devices with ids of their own have such ids too, if the ids of the devices can be told
    apart. -/
theorem nodup_linkIds {ids : List String} (hids : Unambiguous ids) {devices : List Device}
    (hdistinct : (devices.map (·.id)).Nodup) (hmem : ∀ d ∈ devices, d.id ∈ ids)
    (hnamed : ∀ d ∈ devices, LinksNamed ids d) :
    (devices.flatMap fun d => d.links.map (·.id)).Nodup := by
  rw [List.nodup_flatMap]
  refine ⟨fun d hd => (hnamed d hd).nodup, ?_⟩
  refine (List.pairwise_map.mp hdistinct).imp_of_mem fun hd hd' hne => ?_
  exact (hnamed _ hd).disjoint hids (hnamed _ hd') (hmem _ hd) (hmem _ hd') hne

theorem fleetIds_unlinked (devices : List Device) :
    fleetIds (devices.map Device.unlinked) = fleetIds devices := by
  rw [fleetIds, filter_unlinked, map_id_unlinked, fleetIds]

theorem fleetIds_run (g : Gazetteer) (s : SynthesisSettings) (now : String)
    (devices : List Device) (source : σ) :
    fleetIds (run g s now devices source).devices = fleetIds devices := by
  rw [← fleetIds_unlinked, devices_run, ← map_unlinked_relocateAll, fleetIds_unlinked,
    fleetIds_relocateAll]

/-- Whatever the settings are and whatever is drawn, the edges of a topology have ids of their own,
    and so have all links of the devices that took part, if the ids of these devices differ and can
    be told apart where a hyphen joins two of them. -/
theorem identifiers_nodup (g : Gazetteer) (s : SynthesisSettings) (now : String)
    (devices : List Device) (source : σ) (t : Topology) (hdistinct : (fleetIds devices).Nodup)
    (hids : Unambiguous (fleetIds devices))
    (h : (run g s now devices source).outcome = .ok (some t)) :
    (t.edges.map (·.id)).Nodup ∧
      (((run g s now devices source).devices.filter Device.isEquipped).flatMap
        fun d => d.links.map (·.id)).Nodup := by
  obtain ⟨hassembled, middle, last, hrelinked⟩ := assembled_and_relinked_of_run h
  obtain ⟨rest, hedges⟩ := hassembled.edges
  have hnamed := linksNamed_of_relink hrelinked
  rw [← fleetIds, fleetIds_relocateAll] at hedges hnamed
  have hfleet := fleetIds_run g s now devices source
  have hlinked : (fleetIds (run g s now devices source).devices).Nodup := by
    rw [hfleet]
    exact hdistinct
  refine ⟨nodup_edgeIds hids hedges, nodup_linkIds hids hlinked ?_ ?_⟩
  · intro d hd
    rw [← hfleet]
    exact List.mem_map_of_mem hd
  · intro d hd
    obtain ⟨hmem, hequipped⟩ := List.mem_filter.mp hd
    exact hnamed d hmem hequipped

/-- Devices with as many hyphens in the id of each. -/
def sites : List Device :=
  let gear : Equipment := ⟨"core", .router, .online, "", .zero, none, none, none⟩
  ["dev-nyc", "dev-lon", "dev-tyo"].map fun id => ⟨id, some gear, []⟩

theorem identifiers_nodup_sites :
    (fleetIds sites).Nodup ∧ Unambiguous (fleetIds sites) ∧
      ∃ t, (run .empty .default "" sites (Twister.ofSeed 7)).outcome = .ok (some t) ∧
        (t.edges.map (·.id)).Nodup := by
  have hdistinct : (fleetIds sites).Nodup := by decide
  have hids : Unambiguous (fleetIds sites) := unambiguous_of_count (n := 1) (by decide +kernel)
  obtain ⟨t, ht⟩ := exists_topology_of_typed .empty "" (Twister.ofSeed 7)
    SynthesisSettings.typed_default Settings.checkSynthesis_default
    (show sites.length < 2 ^ 63 by decide) rfl
  exact ⟨hdistinct, hids, t, ht,
    (identifiers_nodup .empty .default "" sites (Twister.ofSeed 7) t hdistinct hids ht).1⟩

/-- Devices whose ids differ, but not where a hyphen joins two of them. -/
def clashing : List Device :=
  let gear : Equipment := ⟨"core", .router, .online, "", .zero, none, none, none⟩
  ["x-y-x", "y-x", "x-y"].map fun id => ⟨id, some gear, []⟩

/-- Ids that differ are not enough: the first two edges between these devices have one id. -/
theorem identifiers_clash :
    (clashing.map (·.id)).Nodup ∧ Settings.checkSynthesis .default = .ok () ∧
      ∃ t, (run .empty .default "" clashing (Twister.ofSeed 7)).outcome = .ok (some t) ∧
        ¬ (t.edges.map (·.id)).Nodup := by
  obtain ⟨t, ht⟩ := exists_topology_of_typed .empty "" (Twister.ofSeed 7)
    SynthesisSettings.typed_default Settings.checkSynthesis_default
    (show clashing.length < 2 ^ 63 by decide) rfl
  refine ⟨by decide, Settings.checkSynthesis_default, t, ht, ?_⟩
  obtain ⟨rest, hedges⟩ := (assembled_of_run ht).edges
  obtain ⟨first, more, hfirst, hways, _⟩ := exists_spokes_append_of_connect hedges
  have hnamed := forall_of_connect (fun _ _ _ => id_of_newEdge) hedges
  have hspokes : spokes (fleetIds clashing) = [("x-y-x", "y-x"), ("x-y", "x-y-x")] := by decide
  rw [← fleetIds, fleetIds_relocateAll, hspokes] at hways
  obtain ⟨e, _, rfl, he, hways⟩ := List.map_eq_cons_iff.mp hways
  obtain ⟨f, _, rfl, hf, _⟩ := List.map_eq_cons_iff.mp hways
  obtain ⟨hesource, hetarget⟩ := Prod.mk.inj he
  obtain ⟨hfsource, hftarget⟩ := Prod.mk.inj hf
  have hsame : e.id = f.id := by
    rw [hnamed e (by simp [hfirst]), hnamed f (by simp [hfirst]), hesource, hetarget, hfsource,
      hftarget]
    rfl
  rw [hfirst]
  simp [hsame]

end Synthesis

end NetAtlas
