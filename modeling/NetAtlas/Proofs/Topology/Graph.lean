import Mathlib.Data.Sym.Sym2
import Mathlib.Logic.Relation
import NetAtlas.Synthesis.Edges

/-!
The graph that a list of edges forms between ids: when it is simple, and when it holds all of them
together.
-/

namespace NetAtlas

theorem nodup_eraseDups : (ids : List String) → ids.eraseDups.Nodup
  | [] => List.nodup_nil
  | id :: ids => by
    rw [List.eraseDups_cons, List.nodup_cons]
    exact ⟨by simp [List.mem_eraseDups], nodup_eraseDups _⟩
termination_by ids => ids.length
decreasing_by exact Nat.lt_succ_of_le (List.length_filter_le _ _)

namespace Edge

/-- The ends of the edge in the order in which it was drawn. -/
def way (e : Edge) : String × String := (e.source, e.target)

/-- The ends of the edge in no order. -/
def pair (e : Edge) : Sym2 String := s(e.source, e.target)

theorem pair_eq_of_way {e : Edge} {a b : String} (h : e.way = (a, b)) : e.pair = s(a, b) := by
  obtain ⟨rfl, rfl⟩ := Prod.mk.inj h
  rfl

theorem joins_eq_true_iff {e : Edge} {a b : String} : e.joins a b = true ↔ e.pair = s(a, b) := by
  simp [joins, pair]

theorem touches_eq_true_iff {e : Edge} {id : String} : e.touches id = true ↔ id ∈ e.pair := by
  simp [touches, pair, @eq_comm _ id e.source, @eq_comm _ id e.target]

end Edge

namespace Edges

theorem joined_eq_true_iff {edges : List Edge} {a b : String} :
    joined edges a b = true ↔ s(a, b) ∈ edges.map Edge.pair := by
  simp [joined, Edge.joins_eq_true_iff]

theorem touched_eq_true_iff {edges : List Edge} {id : String} :
    touched edges id = true ↔ ∃ e ∈ edges, id ∈ e.pair := by
  simp [touched, Edge.touches_eq_true_iff]

theorem touched_of_joined {edges : List Edge} {a b : String} (h : joined edges a b = true) :
    touched edges a = true := by
  obtain ⟨e, he, hpair⟩ := List.mem_map.mp (joined_eq_true_iff.mp h)
  exact touched_eq_true_iff.mpr ⟨e, he, by simp [hpair]⟩

theorem touched_append_singleton {edges : List Edge} {e : Edge} {id : String} :
    touched (edges ++ [e]) id = true ↔
      touched edges id = true ∨ id = e.source ∨ id = e.target := by
  simp [touched, Edge.touches, @eq_comm _ id e.source, @eq_comm _ id e.target]

/-- The edges form a simple graph on the ids: there are no loops and no parallel edges. -/
structure Simple (ids : List String) (edges : List Edge) : Prop where
  noLoop : ∀ e ∈ edges, e.source ≠ e.target
  noParallel : (edges.map Edge.pair).Nodup
  ends : ∀ e ∈ edges, e.source ∈ ids ∧ e.target ∈ ids

theorem Simple.append_singleton {ids : List String} {edges : List Edge} {e : Edge}
    (h : Simple ids edges) (hloop : e.source ≠ e.target)
    (hjoined : joined edges e.source e.target = false)
    (hends : e.source ∈ ids ∧ e.target ∈ ids) : Simple ids (edges ++ [e]) := by
  refine ⟨?_, ?_, ?_⟩
  · exact List.forall_mem_append.mpr ⟨h.noLoop, List.forall_mem_singleton.mpr hloop⟩
  · have hnew : e.pair ∉ edges.map Edge.pair := by
      rw [Edge.pair, ← joined_eq_true_iff, hjoined]
      exact Bool.false_ne_true
    rw [List.map_append, List.map_singleton, ← List.concat_eq_append]
    exact h.noParallel.concat hnew
  · exact List.forall_mem_append.mpr ⟨h.ends, List.forall_mem_singleton.mpr hends⟩

theorem simple_nil (ids : List String) : Simple ids [] := ⟨by simp, List.nodup_nil, by simp⟩

theorem Simple.of_append {ids : List String} {edges more : List Edge}
    (h : Simple ids (edges ++ more)) : Simple ids edges := by
  refine ⟨fun e he => h.noLoop e (List.mem_append_left _ he), ?_,
    fun e he => h.ends e (List.mem_append_left _ he)⟩
  have hparallel := h.noParallel
  rw [List.map_append] at hparallel
  exact (List.nodup_append.mp hparallel).1

theorem simple_append_singleton_iff {ids : List String} {edges : List Edge} {e : Edge} :
    Simple ids (edges ++ [e]) ↔ Simple ids edges ∧ e.source ≠ e.target ∧
      joined edges e.source e.target = false ∧ e.source ∈ ids ∧ e.target ∈ ids := by
  constructor
  · intro h
    have hmem : e ∈ edges ++ [e] := List.mem_append_right _ List.mem_cons_self
    refine ⟨h.of_append, h.noLoop e hmem, ?_, h.ends e hmem⟩
    rw [Bool.eq_false_iff]
    intro hjoined
    have hparallel := h.noParallel
    rw [List.map_append, List.map_singleton] at hparallel
    obtain ⟨_, _, hnew⟩ := List.nodup_append.mp hparallel
    exact hnew _ (joined_eq_true_iff.mp hjoined) _ (List.mem_singleton_self _) rfl
  · rintro ⟨h, hloop, hjoined, hends⟩
    exact h.append_singleton hloop hjoined hends

/-- In a simple graph on the ids edges end at no other names. -/
theorem Simple.mem_of_touched {ids : List String} {edges : List Edge} {id : String}
    (h : Simple ids edges) (htouched : touched edges id = true) : id ∈ ids := by
  obtain ⟨e, he, hend⟩ := touched_eq_true_iff.mp htouched
  obtain ⟨hsource, htarget⟩ := h.ends e he
  rcases Sym2.mem_iff.mp hend with rfl | rfl
  · exact hsource
  · exact htarget

/-- The edges leave no id out and hold all of them together. -/
structure Connects (ids : List String) (edges : List Edge) : Prop where
  touched : ∀ id ∈ ids, touched edges id = true
  linked : ∀ a ∈ ids, ∀ b ∈ ids, Relation.ReflTransGen (fun a b => joined edges a b = true) a b

theorem joined_of_mem_ways {edges : List Edge} {a b : String} (h : (a, b) ∈ edges.map Edge.way) :
    joined edges a b = true ∧ joined edges b a = true := by
  obtain ⟨e, he, hway⟩ := List.mem_map.mp h
  have hmem := List.mem_map_of_mem (f := Edge.pair) he
  rw [Edge.pair_eq_of_way hway] at hmem
  exact ⟨joined_eq_true_iff.mpr hmem, joined_eq_true_iff.mpr (Sym2.eq_swap ▸ hmem)⟩

end Edges

end NetAtlas
