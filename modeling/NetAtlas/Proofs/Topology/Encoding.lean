import NetAtlas.Host.Session
import NetAtlas.Proofs.Host.Writing
import NetAtlas.Proofs.Json.File
import NetAtlas.Proofs.Value.Faults
import NetAtlas.Topology.Export

/-!
Topologies as documents. A topology whose id is a text and whose counts and zoom level are integers
is what its own document is read as, and every document that is read gives such a topology. So a
topology is loaded from the file that it was saved to, if its floats read back.
-/

namespace NetAtlas

theorem Role.ofValue_name (r : Role) : Role.ofValue (.text r.name) = .ok r := by
  cases r <;> rfl

theorem Status.ofValue_name (t : Status) : Status.ofValue (.text t.name) = .ok t := by
  cases t <;> rfl

theorem HealthLevel.ofValue_name (l : HealthLevel) : HealthLevel.ofValue (.text l.name) = .ok l := by
  cases l <;> rfl

theorem Node.ofValue_toValue (n : Node) : Node.ofValue n.toValue = .ok n := by
  obtain ⟨id, name, role, status, location, coordinates, capabilities⟩ := n
  cases role <;> cases status <;> rfl

theorem Edge.ofValue_toValue (e : Edge) : Edge.ofValue e.toValue = .ok e := rfl

theorem Health.ofValue_toValue (h : Health) : Health.ofValue h.toValue = .ok h := by
  obtain ⟨level, score, assessedAt⟩ := h
  cases level <;> rfl

theorem Statistics.ofValue_toValue {s : Statistics} {total active : Int}
    (htotal : s.totalEdges = .int total) (hactive : s.activeEdges = .int active) :
    Statistics.ofValue s.toValue = .ok s := by
  obtain ⟨totalNodes, activeNodes, totalEdges, activeEdges, density⟩ := s
  obtain rfl : totalEdges = .int total := htotal
  obtain rfl : activeEdges = .int active := hactive
  rfl

theorem Bounds.ofValue_toValue {b : Bounds} {zoom : Int} (hzoom : b.zoom = .int zoom) :
    Bounds.ofValue b.toValue = .ok b := by
  obtain ⟨northEast, southWest, center, value⟩ := b
  obtain rfl : value = .int zoom := hzoom
  rfl

namespace Topology

/-- The id is a text, and what is counted is counted in integers. -/
structure Plain (t : Topology) : Prop where
  id : ∃ id, t.id = .text id
  totalEdges : ∃ total, t.statistics.totalEdges = .int total
  activeEdges : ∃ active, t.statistics.activeEdges = .int active
  zoom : ∃ zoom, t.bounds.zoom = .int zoom

theorem plain_of_ofValue {document : Value} {t : Topology} (h : ofValue document = .ok t) :
    t.Plain := by
  rw [ofValue] at h
  obtain ⟨es, -, h⟩ := bind_eq_ok_iff.mp h
  obtain ⟨nodes, -, h⟩ := bind_eq_ok_iff.mp h
  obtain ⟨edges, -, h⟩ := bind_eq_ok_iff.mp h
  obtain ⟨statistics, hstatistics, h⟩ := bind_eq_ok_iff.mp h
  obtain ⟨health, -, h⟩ := bind_eq_ok_iff.mp h
  obtain ⟨bounds, hbounds, h⟩ := bind_eq_ok_iff.mp h
  obtain rfl := Except.ok.inj h
  rw [Statistics.ofValue] at hstatistics
  obtain ⟨part, -, hstatistics⟩ := bind_eq_ok_iff.mp hstatistics
  obtain ⟨totalNodes, -, hstatistics⟩ := bind_eq_ok_iff.mp hstatistics
  obtain ⟨activeNodes, -, hstatistics⟩ := bind_eq_ok_iff.mp hstatistics
  obtain ⟨totalEdges, -, hstatistics⟩ := bind_eq_ok_iff.mp hstatistics
  obtain ⟨activeEdges, -, hstatistics⟩ := bind_eq_ok_iff.mp hstatistics
  obtain ⟨density, -, hstatistics⟩ := bind_eq_ok_iff.mp hstatistics
  obtain rfl := Except.ok.inj hstatistics
  rw [Bounds.ofValue] at hbounds
  obtain ⟨part, -, hbounds⟩ := bind_eq_ok_iff.mp hbounds
  obtain ⟨northEast, -, hbounds⟩ := bind_eq_ok_iff.mp hbounds
  obtain ⟨southWest, -, hbounds⟩ := bind_eq_ok_iff.mp hbounds
  obtain ⟨center, -, hbounds⟩ := bind_eq_ok_iff.mp hbounds
  obtain ⟨zoom, -, hbounds⟩ := bind_eq_ok_iff.mp hbounds
  obtain rfl := Except.ok.inj hbounds
  exact ⟨⟨_, rfl⟩, ⟨totalEdges, rfl⟩, ⟨activeEdges, rfl⟩, ⟨zoom, rfl⟩⟩

theorem ofValue_toValue {t : Topology} (h : t.Plain) : ofValue t.toValue = .ok t := by
  obtain ⟨⟨id, hid⟩, ⟨total, htotal⟩, ⟨active, hactive⟩, ⟨zoom, hzoom⟩⟩ := h
  have hnodes : (t.nodes.map (·.toValue)).mapM Node.ofValue = .ok t.nodes :=
    mapM_map fun n _ => n.ofValue_toValue
  have hedges : (t.edges.map (·.toValue)).mapM Edge.ofValue = .ok t.edges :=
    mapM_map fun e _ => e.ofValue_toValue
  have hstatistics := Statistics.ofValue_toValue htotal hactive
  have hbounds := Bounds.ofValue_toValue hzoom
  have hhealth := t.health.ofValue_toValue
  obtain ⟨value, name, medium, nodes, edges, statistics, health, bounds, lastUpdated⟩ := t
  obtain rfl : value = .text id := hid
  refine bind_eq_ok_iff.mpr ⟨_, rfl, ?_⟩
  refine bind_eq_ok_iff.mpr ⟨nodes, hnodes, ?_⟩
  refine bind_eq_ok_iff.mpr ⟨edges, hedges, ?_⟩
  refine bind_eq_ok_iff.mpr ⟨statistics, hstatistics, ?_⟩
  refine bind_eq_ok_iff.mpr ⟨health, hhealth, ?_⟩
  exact bind_eq_ok_iff.mpr ⟨bounds, hbounds, rfl⟩

theorem ofValue_toValue_iff (t : Topology) : ofValue t.toValue = .ok t ↔ t.Plain :=
  ⟨plain_of_ofValue, ofValue_toValue⟩

end Topology

section Legible

open Json

/-- The floats of a pair of coordinates. -/
def Coordinates.floats (c : Coordinates) : List Float := [c.latitude, c.longitude]

/-- The floats that a topology holds. -/
def Topology.floats (t : Topology) : List Float :=
  t.nodes.flatMap (·.coordinates.floats) ++ t.edges.map (·.weight)
    ++ [t.statistics.density, t.health.score]
    ++ [t.bounds.northEast, t.bounds.southWest, t.bounds.center].flatMap (·.floats)

theorem Coordinates.legible_toValue {c : Coordinates} (h : ∀ x ∈ c.floats, ReadsBack x) :
    Legible c.toValue := by
  refine .record (by simp) ?_
  simp only [List.forall_mem_cons]
  exact ⟨.float (h _ (by simp [floats])), .float (h _ (by simp [floats])), by simp⟩

theorem Node.legible_toValue {n : Node} (h : ∀ x ∈ n.coordinates.floats, ReadsBack x) :
    Legible n.toValue := by
  have hcapabilities : Legible n.capabilities.toValue := by
    refine .record (by simp) ?_
    simp only [List.forall_mem_cons]
    exact ⟨.bool _, .bool _, .bool _, .bool _, by simp⟩
  refine .record (by simp) ?_
  simp only [List.forall_mem_cons]
  exact ⟨.text _, .text _, .text _, .text _, .text _, .float (h _ (by simp [Coordinates.floats])),
    .float (h _ (by simp [Coordinates.floats])), hcapabilities, by simp⟩

theorem Edge.legible_toValue {e : Edge} (h : ReadsBack e.weight) : Legible e.toValue := by
  refine .record (by simp) ?_
  simp only [List.forall_mem_cons]
  exact ⟨.text _, .text _, .text _, .text _, .text _, .float h, .int _, .text _, by simp⟩

theorem Statistics.legible_toValue {s : Statistics} {total active : Int}
    (htotal : s.totalEdges = .int total) (hactive : s.activeEdges = .int active)
    (h : ReadsBack s.density) : Legible s.toValue := by
  refine .record (by simp) ?_
  simp only [List.forall_mem_cons, htotal, hactive]
  exact ⟨.int _, .int _, .int _, .int _, .float h, by simp⟩

theorem Health.legible_toValue {t : Health} (h : ReadsBack t.score) : Legible t.toValue := by
  refine .record (by simp) ?_
  simp only [List.forall_mem_cons]
  exact ⟨.text _, .float h, .text _, by simp⟩

theorem Bounds.legible_toValue {b : Bounds} {zoom : Int} (hzoom : b.zoom = .int zoom)
    (h : ∀ c ∈ [b.northEast, b.southWest, b.center], ∀ x ∈ c.floats, ReadsBack x) :
    Legible b.toValue := by
  simp only [List.forall_mem_cons] at h
  obtain ⟨hnorthEast, hsouthWest, hcenter, -⟩ := h
  refine .record (by simp) ?_
  simp only [List.forall_mem_cons, hzoom]
  exact ⟨Coordinates.legible_toValue hnorthEast, Coordinates.legible_toValue hsouthWest,
    Coordinates.legible_toValue hcenter, .int _, by simp⟩

/-- All that the document of a topology asks of JSON is that its floats read back. -/
theorem Topology.legible_toValue {t : Topology} (hplain : t.Plain)
    (hfloats : ∀ x ∈ t.floats, ReadsBack x) : Legible t.toValue := by
  obtain ⟨⟨id, hid⟩, ⟨total, htotal⟩, ⟨active, hactive⟩, ⟨zoom, hzoom⟩⟩ := hplain
  simp only [floats, List.forall_mem_append] at hfloats
  obtain ⟨⟨⟨hnodes, hedges⟩, hsummary⟩, hbounds⟩ := hfloats
  refine .record (by simp) ?_
  simp only [List.forall_mem_cons, hid]
  refine ⟨.text _, .text _, .text _, .list fun v hv => ?_, .list fun v hv => ?_,
    Statistics.legible_toValue htotal hactive (hsummary _ (by simp)),
    Health.legible_toValue (hsummary _ (by simp)), Bounds.legible_toValue hzoom fun c hc x hx => ?_,
    .text _, by simp⟩
  · obtain ⟨n, hn, rfl⟩ := List.mem_map.mp hv
    exact Node.legible_toValue fun x hx => hnodes x (List.mem_flatMap.mpr ⟨n, hn, hx⟩)
  · obtain ⟨e, he, rfl⟩ := List.mem_map.mp hv
    exact Edge.legible_toValue (hedges _ (List.mem_map_of_mem he))
  · exact hbounds x (List.mem_flatMap.mpr ⟨c, hc, hx⟩)

end Legible

namespace Topology

theorem read_save {t : Topology} {path : String} {indent : Option Nat} {s after : Session}
    (hsave : (save t path indent : StateM Session _) s = (.ok (), after)) :
    after.disk.read path = .ok (t.fileText indent).toUTF8.toList := by
  rw [save, Session.run_bind] at hsave
  exact Session.read_of_reported hsave

/-- Loading gives back what was saved, whatever the indent. -/
theorem load_save {t : Topology} {path : String} {indent : Option Nat} {s after : Session}
    (hplain : t.Plain) (hfloats : ∀ x ∈ t.floats, Json.ReadsBack x)
    (hsave : (save t path indent : StateM Session _) s = (.ok (), after)) :
    load path (after.disk.read path) = (.ok t, [.readingTopology path]) := by
  have hbytes : ofBytes (t.fileText indent).toUTF8.toList = .ok t := by
    rw [ofBytes, fileText, Json.parseFile_render (legible_toValue hplain hfloats)]
    simp only [ofValue_toValue hplain]
  rw [read_save hsave, load]
  simp only [hbytes]

/-- A topology is what its own document is read as, unless it has an id that is no text or counts
that are no integers; a document that is read is in this form after one reading. So a topology is
loaded from the file that it was saved to, if its floats read back. -/
theorem reads_own_document :
    (∀ t : Topology, ofValue t.toValue = .ok t ↔ t.Plain) ∧
      (∀ document t, ofValue document = .ok t → ofValue t.toValue = .ok t) ∧
        ∀ (t : Topology) path indent (s after : Session), t.Plain →
          (∀ x ∈ t.floats, Json.ReadsBack x) →
            (save t path indent : StateM Session _) s = (.ok (), after) →
              load path (after.disk.read path) = (.ok t, [.readingTopology path]) :=
  ⟨ofValue_toValue_iff, fun _ _ hread => ofValue_toValue (plain_of_ofValue hread),
    fun _ _ _ _ _ => load_save⟩

/-- A topology with odd numbers and texts in it. -/
def oddTopology : Topology where
  id := .text "topo \"α\""
  name := ""
  medium := "logical\n"
  nodes :=
    [{ id := "n1", name := "core", role := .loadBalancer, status := .maintenance, location := "Köln"
       coordinates := ⟨-0.0, 1.0 / 0.0⟩, capabilities := ⟨true, false, true, false⟩ }]
  edges :=
    [{ id := "edge-n1-n1", source := "n1", target := "n1", weight := 0.0 / 0.0, cost := -3
       label := "", medium := "physical", status := "up" }]
  statistics := ⟨-1, 0, .int 5, .int (-7), 2.5⟩
  health := ⟨.critical, -(1.0 / 0.0), "now"⟩
  bounds := ⟨⟨51.5, 2.5⟩, .zero, .zero, .int (-2)⟩
  lastUpdated := ""

theorem plain_oddTopology : oddTopology.Plain := ⟨⟨_, rfl⟩, ⟨_, rfl⟩, ⟨_, rfl⟩, ⟨_, rfl⟩⟩

theorem readsBack_oddTopology : ∀ x ∈ oddTopology.floats, Json.ReadsBack x := by
  have hzero : Json.ReadsBack 0.0 := fun _ _ => rfl
  have hnegative : Json.ReadsBack (-0.0) := fun _ _ => rfl
  have hhalf : Json.ReadsBack 2.5 := fun _ _ => rfl
  have hlatitude : Json.ReadsBack 51.5 := fun _ _ => rfl
  have hinfinite : Json.ReadsBack (1.0 / 0.0) := fun _ _ => rfl
  have hbelow : Json.ReadsBack (-(1.0 / 0.0)) := fun _ _ => rfl
  have hnone : Json.ReadsBack (0.0 / 0.0) := fun _ _ => rfl
  simp [floats, oddTopology, Coordinates.floats, Coordinates.zero, hzero, hnegative, hhalf,
    hlatitude, hinfinite, hbelow, hnone]

theorem reads_own_document_oddly :
    oddTopology.Plain ∧ ofValue oddTopology.toValue = .ok oddTopology ∧
      ∃ after : Session,
        (save oddTopology "maps/odd.json" none : StateM Session _)
            (.start (.empty ["home"]) "2025-01-01T00:00:00") = (.ok (), after) ∧
          load "maps/odd.json" (after.disk.read "maps/odd.json") =
            (.ok oddTopology, [.readingTopology "maps/odd.json"]) := by
  obtain ⟨hiff, hagain, hload⟩ := reads_own_document
  have hread := (hiff oddTopology).mpr plain_oddTopology
  exact ⟨plain_oddTopology, hagain oddTopology.toValue oddTopology hread, _, rfl,
    hload oddTopology _ none (.start (.empty ["home"]) _) _ plain_oddTopology readsBack_oddTopology rfl⟩

end Topology

end NetAtlas
