import Mathlib.Data.List.Dedup
import NetAtlas.Proofs.Topology.Graph
import NetAtlas.Topology.Audit

/-!
What the audit of a topology finds. It goes through the edges with those seen so far, and takes the
ends of these for known. As long as nothing has been found all known names are names of nodes, so an
audit without issues is a proof of the structure. After that it is less than a list of all that is
wrong: an unknown node is an issue of the first edge that leads there, and of no other.
-/

namespace NetAtlas

/-- The edge that an issue names, if it is that this edge leads to an unknown node. -/
def Issue.edgeTo? (id : String) : Issue → Option String
  | .unknownNode edge node => if node = id then some edge else none
  | _ => none

theorem Issue.edgeTo?_eq_some_iff {id edge : String} {issue : Issue} :
    issue.edgeTo? id = some edge ↔ issue = .unknownNode edge id := by
  cases issue with
  | unknownNode edge' node =>
    by_cases hnode : node = id
    · simp [edgeTo?, hnode]
    · simp [edgeTo?, hnode]
  | _ => simp [edgeTo?]

/-- The first edge between two names, one of which is the given one. -/
def Edges.firstAt? (edges : List Edge) (id : String) : Option Edge :=
  (edges.filter fun e => e.source != e.target).find? fun e => e.touches id

theorem Edges.firstAt?_append_cons {id : String} {before after : List Edge} {e : Edge}
    (hbefore : ∀ f ∈ before, f.source ≠ f.target → f.touches id = false)
    (hloop : e.source ≠ e.target) (hend : e.touches id = true) :
    firstAt? (before ++ e :: after) id = some e := by
  have hnone : (before.filter fun e => e.source != e.target).find? (fun e => e.touches id) = none := by
    simpa [List.find?_eq_none] using hbefore
  rw [firstAt?, List.filter_append, List.find?_append, hnone, Option.none_or,
    List.filter_cons_of_pos (by simpa using hloop)]
  exact List.find?_cons_of_pos hend

namespace Topology

section Sound

variable {ids : List String} {seen edges : List Edge} {e : Edge}

/-- While the edges seen so far are sound, what the audit takes for known are the nodes. -/
theorem unknown_eq_nil_iff (h : Edges.Simple ids seen) :
    ([e.source, e.target].filter fun id =>
        !ids.contains id && !seen.any fun f => f.touches id) = [] ↔
      e.source ∈ ids ∧ e.target ∈ ids := by
  have hknown (id : String) :
      (!ids.contains id && !seen.any fun f => f.touches id) = false ↔ id ∈ ids := by
    constructor
    · intro hfalse
      by_contra hid
      have htouched : Edges.touched seen id = true := by simpa [Edges.touched, hid] using hfalse
      exact hid (h.mem_of_touched htouched)
    · intro hid
      simp [hid]
  simp only [List.filter_eq_nil_iff, List.forall_mem_cons, Bool.not_eq_true, hknown]
  simp

/-- An edge raises no issue exactly when the graph of the edges seen stays simple. -/
theorem edgeIssues_cons_eq_nil_iff (h : Edges.Simple ids seen) :
    edgeIssues ids seen (e :: edges) = [] ↔
      Edges.Simple ids (seen ++ [e]) ∧ edgeIssues ids (seen ++ [e]) edges = [] := by
  rw [Edges.simple_append_singleton_iff]
  by_cases hloop : e.source = e.target
  · rw [edgeIssues, if_pos hloop]
    simp [hloop]
  · rw [edgeIssues, if_neg hloop, List.append_eq_nil_iff, List.append_eq_nil_iff,
      List.map_eq_nil_iff, unknown_eq_nil_iff h]
    cases hjoined : Edges.joined seen e.source e.target with
    | false =>
      rw [Edges.joined] at hjoined
      simp [h, hloop, hjoined]
    | true =>
      rw [Edges.joined] at hjoined
      simp [hjoined]

theorem edgeIssues_eq_nil_iff (h : Edges.Simple ids seen) :
    edgeIssues ids seen edges = [] ↔ Edges.Simple ids (seen ++ edges) := by
  induction edges generalizing seen with
  | nil => simp [edgeIssues, h]
  | cons e edges ih =>
    rw [edgeIssues_cons_eq_nil_iff h, List.append_cons seen e edges]
    constructor
    · rintro ⟨hsimple, hrest⟩
      exact (ih hsimple).mp hrest
    · intro hall
      have hsimple := hall.of_append
      exact ⟨hsimple, (ih hsimple).mpr hall⟩

end Sound

section Nodes

theorem length_eraseDups_eq_iff (ids : List String) :
    ids.eraseDups.length = ids.length ↔ ids.Nodup := by
  have hperm : ids.eraseDups.Perm ids.dedup := by
    rw [List.perm_ext_iff_of_nodup (nodup_eraseDups ids) ids.nodup_dedup]
    intro id
    rw [List.mem_eraseDups, List.mem_dedup]
  rw [hperm.length_eq, ← List.dedup_eq_self]
  constructor
  · exact (List.dedup_sublist ids).eq_of_length
  · exact congrArg List.length

theorem idIssues_eq (t : Topology) :
    t.idIssues = if t.nodeIds.Nodup then [] else [.duplicateIds] := by
  rw [idIssues]
  exact if_congr (length_eraseDups_eq_iff t.nodeIds) rfl rfl

variable {t : Topology}

/-- Proper edges are those that the audit goes by when it looks for lonely nodes. -/
theorem filter_proper_eq (h : Edges.Simple t.nodeIds t.edges) :
    (t.edges.filter fun e => e.source != e.target) = t.edges := by
  rw [List.filter_eq_self]
  intro e he
  exact bne_iff_ne.mpr (h.noLoop e he)

/-- Sound edges mention nodes only. -/
theorem mentioned_eq (h : Edges.Simple t.nodeIds t.edges) : t.mentioned = t.nodeIds.eraseDups := by
  have hends : (t.edges.flatMap fun e => [e.source, e.target]).removeAll t.nodeIds = [] := by
    rw [List.removeAll, List.filter_eq_nil_iff]
    intro id hid
    obtain ⟨e, he, hend⟩ := List.mem_flatMap.mp hid
    obtain ⟨hsource, htarget⟩ := h.ends e he
    have hmem : id ∈ t.nodeIds := by
      rcases List.mem_pair.mp hend with rfl | rfl
      · exact hsource
      · exact htarget
    simp [hmem]
  rw [mentioned, filter_proper_eq h, List.eraseDups_append, hends, List.eraseDups_nil,
    List.append_nil]

theorem isolatedNodes_eq_nil_iff (h : Edges.Simple t.nodeIds t.edges) :
    t.isolatedNodes = [] ↔ ∀ id ∈ t.nodeIds, Edges.touched t.edges id = true := by
  rw [isolatedNodes, filter_proper_eq h, ← List.length_eq_zero_iff, List.length_mergeSort,
    List.length_eq_zero_iff, List.filter_eq_nil_iff]
  refine forall_congr' fun id => ?_
  rw [List.mem_eraseDups, Edges.touched]
  simp

/-- Where all ids are the same, the one name may stand alone. -/
theorem length_mentioned_lt_two (h : Edges.Simple t.nodeIds t.edges)
    (hsame : ¬ ∃ a ∈ t.nodeIds, ∃ b ∈ t.nodeIds, a ≠ b) : t.mentioned.length < 2 := by
  have hnodup := nodup_eraseDups t.nodeIds
  rw [mentioned_eq h]
  match hids : t.nodeIds.eraseDups with
  | [] => exact Nat.two_pos
  | [_] => exact Nat.one_lt_two
  | a :: b :: rest =>
    have hmem {id : String} (hid : id ∈ a :: b :: rest) : id ∈ t.nodeIds := by
      rwa [← hids, List.mem_eraseDups] at hid
    rw [hids] at hnodup
    have hne : a ≠ b := fun heq => (List.nodup_cons.mp hnodup).1 (heq ▸ List.mem_cons_self)
    exact absurd ⟨a, hmem (by simp), b, hmem (by simp), hne⟩ hsame

/-- A simple graph that leaves no id alone has no issue but that of repeated ids. -/
theorem issues_eq_idIssues (h : Edges.Simple t.nodeIds t.edges)
    (hconnects : (∃ a ∈ t.nodeIds, ∃ b ∈ t.nodeIds, a ≠ b) → Edges.Connects t.nodeIds t.edges) :
    t.issues = t.idIssues := by
  have hedges : edgeIssues t.nodeIds [] t.edges = [] :=
    (edgeIssues_eq_nil_iff (Edges.simple_nil _)).mpr h
  have hisolation : t.isolationIssues = [] := by
    rw [isolationIssues]
    by_cases hids : ∃ a ∈ t.nodeIds, ∃ b ∈ t.nodeIds, a ≠ b
    · exact if_pos (.inr ((isolatedNodes_eq_nil_iff h).mpr (hconnects hids).touched))
    · exact if_pos (.inl (length_mentioned_lt_two h hids))
  rw [issues, hedges, hisolation, List.append_nil, List.append_nil]

end Nodes

/-- The audit finds nothing exactly when no two nodes have the same id, the edges form a simple graph
    on the nodes, and each of several nodes has an edge. -/
theorem issues_eq_nil_iff (t : Topology) :
    t.issues.map Issue.text = [] ↔
      t.nodeIds.Nodup ∧ Edges.Simple t.nodeIds t.edges ∧
        (2 ≤ t.nodes.length → ∀ id ∈ t.nodeIds, Edges.touched t.edges id = true) := by
  rw [List.map_eq_nil_iff, issues, List.append_eq_nil_iff, List.append_eq_nil_iff,
    edgeIssues_eq_nil_iff (Edges.simple_nil _), List.nil_append, and_assoc, idIssues_eq, ite_eq_left_iff]
  simp only [List.cons_ne_self, imp_false, not_not]
  refine and_congr_right fun hids => and_congr_right fun hedges => ?_
  have hlength : t.nodeIds.eraseDups.length = t.nodes.length := by
    rw [(length_eraseDups_eq_iff t.nodeIds).mpr hids, nodeIds, List.length_map]
  rw [isolationIssues, mentioned_eq hedges, hlength, ite_eq_left_iff]
  simp only [List.cons_ne_self, imp_false, not_not, isolatedNodes_eq_nil_iff hedges]
  rw [← Nat.not_le, ← imp_iff_not_or]

section Unknown

variable {e : Edge} {id : String}

theorem filter_ends_eq (hloop : e.source ≠ e.target) :
    ([e.source, e.target].filter fun node => node == id) =
      if e.touches id = true then [id] else [] := by
  by_cases hsource : e.source = id
  · have htarget : e.target ≠ id := fun h => hloop (hsource.trans h.symm)
    simp [Edge.touches, hsource, htarget]
  · by_cases htarget : e.target = id
    · simp [Edge.touches, hsource, htarget]
    · simp [Edge.touches, hsource, htarget]

/-- Of the two ends of an edge, each that is unknown is an issue once. -/
theorem filterMap_edgeTo?_unknown (hloop : e.source ≠ e.target) (unknown : String → Bool) :
    (([e.source, e.target].filter unknown).map (Issue.unknownNode e.id)).filterMap
        (Issue.edgeTo? id) =
      if e.touches id = true ∧ unknown id = true then [e.id] else [] := by
  have hnames : Issue.edgeTo? id ∘ Issue.unknownNode e.id =
      fun node => (Option.guard (fun node => node == id) node).map fun _ => e.id := by
    funext node
    by_cases hnode : node = id
    · simp [Issue.edgeTo?, Option.guard, hnode]
    · simp [Issue.edgeTo?, Option.guard, hnode]
  calc (([e.source, e.target].filter unknown).map (Issue.unknownNode e.id)).filterMap
        (Issue.edgeTo? id)
      = (([e.source, e.target].filter unknown).filter fun node => node == id).map fun _ => e.id := by
        rw [List.filterMap_map, hnames, ← List.map_filterMap, List.filterMap_eq_filter]
    _ = (([e.source, e.target].filter fun node => node == id).filter unknown).map fun _ => e.id := by
        rw [List.filter_comm]
    _ = if e.touches id = true ∧ unknown id = true then [e.id] else [] := by
        rw [filter_ends_eq hloop]
        cases e.touches id with
        | true => cases hid : unknown id <;> simp [hid]
        | false => simp

/-- A name that is neither a node nor an end of the edges seen so far is an issue of the first edge
    that leads there. From then on it counts as known. -/
theorem filterMap_edgeTo?_edgeIssues (ids : List String) (seen edges : List Edge) (id : String) :
    (edgeIssues ids seen edges).filterMap (Issue.edgeTo? id) =
      if id ∈ ids ∨ Edges.touched seen id = true then []
      else ((Edges.firstAt? edges id).map (·.id)).toList := by
  induction edges generalizing seen with
  | nil => simp [edgeIssues, Edges.firstAt?]
  | cons e edges ih =>
    by_cases hloop : e.source = e.target
    · rw [edgeIssues, if_pos hloop, List.filterMap_cons_none rfl, ih]
      simp [Edges.firstAt?, hloop]
    · have hjoined : (if seen.any fun f => f.joins e.source e.target then
          [Issue.duplicateEdge e.source e.target] else []).filterMap (Issue.edgeTo? id) = [] := by
        split <;> rfl
      have hseen : Edges.touched (seen ++ [e]) id = (Edges.touched seen id || e.touches id) := by
        simp [Edges.touched]
      rw [edgeIssues, if_neg hloop, List.filterMap_append, List.filterMap_append,
        filterMap_edgeTo?_unknown hloop, hjoined, ih, hseen, ← Edges.touched]
      cases htouches : e.touches id with
      | true => cases hknown : Edges.touched seen id <;> simp [Edges.firstAt?, hloop, htouches]
      | false => cases hknown : Edges.touched seen id <;> simp [Edges.firstAt?, hloop, htouches]

/-- No other issue is about unknown nodes. -/
theorem filterMap_edgeTo?_issues (t : Topology) (id : String) :
    t.issues.filterMap (Issue.edgeTo? id) =
      if id ∈ t.nodeIds then [] else ((Edges.firstAt? t.edges id).map (·.id)).toList := by
  have hids : t.idIssues.filterMap (Issue.edgeTo? id) = [] := by
    rw [idIssues]
    split <;> rfl
  have hisolation : t.isolationIssues.filterMap (Issue.edgeTo? id) = [] := by
    rw [isolationIssues]
    split <;> rfl
  rw [issues, List.filterMap_append, List.filterMap_append, hids, hisolation,
    filterMap_edgeTo?_edgeIssues]
  simp [Edges.touched]

end Unknown

/-- Each unknown name that edges lead to is an issue once, and the edge that is named with it is the
    first that leads there. So an edge is sure to be reported with its unknown ends as long as no edge
    before it leads there too. -/
theorem unknownNode_once (t : Topology) (id : String) :
    t.issues.filterMap (Issue.edgeTo? id) =
        (if id ∈ t.nodeIds then [] else ((Edges.firstAt? t.edges id).map (·.id)).toList) ∧
      ∀ before e after, t.edges = before ++ e :: after → e.source ≠ e.target →
        e.touches id = true → id ∉ t.nodeIds →
        (∀ f ∈ before, f.source ≠ f.target → f.touches id = false) →
        (Issue.unknownNode e.id id).text ∈ t.issues.map Issue.text := by
  refine ⟨filterMap_edgeTo?_issues t id, ?_⟩
  intro before e after hedges hloop hend hid hbefore
  have hfound : e.id ∈ t.issues.filterMap (Issue.edgeTo? id) := by
    rw [filterMap_edgeTo?_issues, if_neg hid, hedges,
      Edges.firstAt?_append_cons hbefore hloop hend]
    exact List.mem_singleton_self _
  obtain ⟨issue, hissue, hnames⟩ := List.mem_filterMap.mp hfound
  obtain rfl := Issue.edgeTo?_eq_some_iff.mp hnames
  exact List.mem_map_of_mem hissue

/-- Two nodes with an edge each to one and the same name that is no node. -/
def dangling : Topology :=
  let edge (id source : String) : Edge := ⟨id, source, "ghost", 1.0, 1, "", "physical", "up"⟩
  let node (id : String) : Node :=
    ⟨id, id, .router, .online, "", .zero, ⟨true, false, false, false⟩⟩
  { (default : Topology) with
    id := .text "topo", nodes := [node "a", node "b"], edges := [edge "e1" "a", edge "e2" "b"] }

/-- The second edge is not reported with its unknown end. -/
theorem unknownNode_omitted :
    dangling.issues.map Issue.text = ["Edge e1 references unknown node ghost"] ∧
      ∃ e ∈ dangling.edges, e.source ≠ e.target ∧ e.target ∉ dangling.nodeIds ∧
        (Issue.unknownNode e.id e.target).text ∉ dangling.issues.map Issue.text := by
  have hisolated : dangling.isolatedNodes = [] := by
    have hlonely : (dangling.nodeIds.eraseDups.filter fun id =>
        !(dangling.edges.filter fun e => e.source != e.target).any fun e => e.touches id) = [] := rfl
    rw [isolatedNodes, hlonely]
    exact List.mergeSort_nil
  have hissues : dangling.issues.map Issue.text = ["Edge e1 references unknown node ghost"] := by
    rw [issues, isolationIssues, if_pos (.inr hisolated)]
    rfl
  refine ⟨hissues, _, List.mem_cons_of_mem _ List.mem_cons_self, by decide, by decide, ?_⟩
  rw [hissues]
  decide

end Topology

end NetAtlas
