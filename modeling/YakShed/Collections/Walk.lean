/-
# Walks along a finite list of edges

Edges of any kind, with a source and a target, kept in a list. A search in
rounds finds what a walk of bounded length reaches. Where the sources of all
edges rank below their targets no walk uses an edge twice, so that the search
is over after as many rounds as there are edges.
-/

import Mathlib.Logic.Relation
import Mathlib.Data.List.Nodup
import Mathlib.Data.List.Perm.Subperm
import Mathlib.Logic.Function.Iterate

namespace YakShed

namespace Walk

variable {ε α : Type} (source target : ε → α) (edges : List ε)

/-- The edge relation. -/
def Step (first second : α) : Prop := ∃ edge ∈ edges, source edge = first ∧ target edge = second

/-- A walk with the edges it takes. -/
inductive Along : α → List ε → α → Prop
  | nil (point : α) : Along point [] point
  | cons {edge : ε} {path : List ε} {last : α} (taken : edge ∈ edges)
      (rest : Along (target edge) path last) : Along (source edge) (edge :: path) last

/-- One round of a search. -/
def next [DecidableEq α] (points : List α) : List α :=
  (edges.filter fun edge => source edge ∈ points).map target

/-- Every edge leads upwards. -/
def Ranked : Prop := ∃ rank : α → Nat, ∀ edge ∈ edges, rank (source edge) < rank (target edge)

variable {source target edges} {first last : α} {path : List ε}

theorem Along.subset (h : Along source target edges first path last) : path ⊆ edges := by
  induction h with
  | nil => exact List.nil_subset _
  | cons taken _ ih => exact List.cons_subset.mpr ⟨taken, ih⟩

theorem reflTransGen_iff :
    Relation.ReflTransGen (Step source target edges) first last ↔
      ∃ path, Along source target edges first path last := by
  constructor
  · intro h
    induction h using Relation.ReflTransGen.head_induction_on with
    | refl => exact ⟨[], .nil _⟩
    | head hstep _ ih =>
        obtain ⟨edge, hedge, rfl, rfl⟩ := hstep
        obtain ⟨path, hpath⟩ := ih
        exact ⟨edge :: path, .cons hedge hpath⟩
  · rintro ⟨path, h⟩
    induction h with
    | nil => exact .refl
    | cons taken _ ih => exact .head ⟨_, taken, rfl, rfl⟩ ih

/-! ## Ranks -/

theorem Ranked.nil : Ranked source target [] := ⟨fun _ => 0, by simp⟩

/-- A new point may be hung below an old one. -/
theorem Ranked.append [DecidableEq α] (h : Ranked source target edges) {edge : ε}
    (hself : source edge ≠ target edge)
    (hfresh : ∀ other ∈ edges, source other ≠ target edge ∧ target other ≠ target edge) :
    Ranked source target (edges ++ [edge]) := by
  obtain ⟨rank, hrank⟩ := h
  refine ⟨Function.update rank (target edge) (rank (source edge) + 1), fun other hother => ?_⟩
  rcases List.mem_append.mp hother with hold | hnew
  · rw [Function.update_of_ne (hfresh other hold).1, Function.update_of_ne (hfresh other hold).2]
    exact hrank other hold
  · rw [List.mem_singleton.mp hnew, Function.update_of_ne hself, Function.update_self]
    exact Nat.lt_succ_self _

theorem Ranked.acyclic (h : Ranked source target edges) (point : α) :
    ¬ Relation.TransGen (Step source target edges) point point := by
  obtain ⟨rank, hrank⟩ := h
  have hgrows : ∀ {first last}, Relation.TransGen (Step source target edges) first last →
      rank first < rank last := by
    intro first last hwalk
    induction hwalk with
    | single hstep =>
        obtain ⟨edge, hedge, rfl, rfl⟩ := hstep
        exact hrank edge hedge
    | tail _ hstep ih =>
        obtain ⟨edge, hedge, rfl, rfl⟩ := hstep
        exact Nat.lt_trans ih (hrank edge hedge)
  exact fun hcycle => Nat.lt_irrefl _ (hgrows hcycle)

/-- A walk upwards takes no edge twice. -/
theorem Along.nodup (h : Along source target edges first path last)
    (hranked : Ranked source target edges) : path.Nodup := by
  obtain ⟨rank, hrank⟩ := hranked
  have hsorted : path.Pairwise (fun edge later => rank (source edge) < rank (source later)) ∧
      ∀ edge ∈ path, rank first ≤ rank (source edge) := by
    induction h with
    | nil => exact ⟨.nil, by simp⟩
    | @cons edge path last taken _ ih =>
        refine ⟨List.pairwise_cons.mpr ⟨fun later hlater => ?_, ih.1⟩, fun other hother => ?_⟩
        · exact Nat.lt_of_lt_of_le (hrank edge taken) (ih.2 later hlater)
        · rcases List.mem_cons.mp hother with rfl | hrest
          · exact Nat.le_refl _
          · exact Nat.le_trans (Nat.le_of_lt (hrank edge taken)) (ih.2 other hrest)
  refine hsorted.1.imp fun hlt heq => ?_
  rw [heq] at hlt
  exact Nat.lt_irrefl _ hlt

theorem Along.length_le (h : Along source target edges first path last)
    (hranked : Ranked source target edges) : path.length ≤ edges.length :=
  (List.subperm_of_subset (h.nodup hranked) h.subset).length_le

/-! ## Rounds -/

variable [DecidableEq α] {points : List α}

theorem mem_next {point : α} :
    point ∈ next source target edges points ↔
      ∃ edge ∈ edges, source edge ∈ points ∧ target edge = point := by
  simp [next, and_assoc]

/-- What is found in a round was reached by a walk of that length. -/
theorem along_of_mem_iterate {rounds : Nat} {point : α}
    (h : point ∈ (next source target edges)^[rounds] points) :
    ∃ first ∈ points, ∃ path, path.length = rounds ∧
      Along source target edges first path point := by
  induction rounds generalizing points with
  | zero => exact ⟨point, h, [], rfl, .nil point⟩
  | succ rounds ih =>
      obtain ⟨middle, hmiddle, path, hlength, hpath⟩ := ih h
      obtain ⟨edge, hedge, hsource, rfl⟩ := mem_next.mp hmiddle
      refine ⟨source edge, hsource, edge :: path, ?_, .cons hedge hpath⟩
      rw [List.length_cons, hlength]

/-- The search comes to an end. -/
theorem iterate_next_eq_nil (hranked : Ranked source target edges) {rounds : Nat}
    (hlong : edges.length < rounds) : (next source target edges)^[rounds] points = [] := by
  refine List.eq_nil_iff_forall_not_mem.mpr fun point hpoint => ?_
  obtain ⟨first, _, path, hlength, hpath⟩ := along_of_mem_iterate hpoint
  have hle := hpath.length_le hranked
  omega

end Walk

end YakShed
