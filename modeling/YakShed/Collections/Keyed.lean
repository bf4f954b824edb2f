/-
# Keyed rows

Lists of rows looked up by a key, as a database table is: lookups after an
insertion and after a conditional update of one key. Nothing here knows what a
row is.
-/

import Mathlib.Data.List.Basic
import Mathlib.Data.List.Nodup

namespace Keyed

variable {ρ κ : Type} [DecidableEq κ] (key : ρ → κ)

/-- The first row with a key. -/
def lookup (rows : List ρ) (k : κ) : Option ρ :=
  rows.find? fun row => key row = k

/-- Rewrites the rows with a key and keeps the others. -/
def update (k : κ) (f : ρ → ρ) (rows : List ρ) : List ρ :=
  rows.map fun row => if key row = k then f row else row

variable {key}
variable {rows : List ρ} {k k' : κ} {row : ρ} {f : ρ → ρ}

theorem mem_of_lookup (h : lookup key rows k = some row) : row ∈ rows :=
  List.mem_of_find?_eq_some h

theorem key_of_lookup (h : lookup key rows k = some row) : key row = k := by
  simpa using List.find?_some h

theorem lookup_eq_none : lookup key rows k = none ↔ ∀ row ∈ rows, key row ≠ k := by
  simp [lookup]

theorem lookup_isSome : (lookup key rows k).isSome ↔ ∃ row ∈ rows, key row = k := by
  simp [lookup]

/-- With distinct keys every row is found under its own. -/
theorem lookup_of_mem (hnodup : (rows.map key).Nodup) (hmem : row ∈ rows) :
    lookup key rows (key row) = some row := by
  induction rows with
  | nil => cases hmem
  | cons head rest ih =>
      rw [List.map_cons, List.nodup_cons] at hnodup
      rcases List.mem_cons.mp hmem with rfl | hrest
      · simp [lookup]
      · have hne : key head ≠ key row := fun heq =>
          hnodup.1 (heq ▸ List.mem_map_of_mem hrest)
        simpa [lookup, List.find?_cons, hne] using ih hnodup.2 hrest

/-- Rows that are written down with their keys are found as they were. -/
theorem lookup_encode {σ ι : Type} [DecidableEq ι] {key' : σ → ι} {g : ι → κ}
    (hg : Function.Injective g) (f : σ → ρ) (hkey : ∀ row, key (f row) = g (key' row))
    (rows : List σ) (k : ι) :
    lookup key (rows.map f) (g k) = (lookup key' rows k).map f := by
  have hsame : (fun row => decide (key row = g k)) ∘ f = fun row => decide (key' row = k) := by
    funext row
    simp only [Function.comp_apply, hkey, hg.eq_iff]
  rw [lookup, List.find?_map, hsame, lookup]

theorem lookup_append_singleton_self (hfresh : lookup key rows (key row) = none) :
    lookup key (rows ++ [row]) (key row) = some row := by
  unfold lookup at hfresh ⊢
  rw [List.find?_append, hfresh]
  simp

theorem lookup_append_singleton_ne (hne : key row ≠ k) :
    lookup key (rows ++ [row]) k = lookup key rows k := by
  unfold lookup
  rw [List.find?_append]
  simp [hne]

/-- An insertion never changes what an earlier row's key finds. -/
theorem lookup_append_of_some {more : List ρ} {found : ρ}
    (h : lookup key rows k = some found) : lookup key (rows ++ more) k = some found := by
  unfold lookup at h ⊢
  rw [List.find?_append, h]
  rfl

theorem lookup_update_self (hkey : ∀ row, key (f row) = key row) :
    lookup key (update key k f rows) k = (lookup key rows k).map f := by
  induction rows with
  | nil => rfl
  | cons head rest ih =>
      by_cases hhead : key head = k
      · simp [lookup, update, hhead, hkey]
      · simpa [lookup, update, hhead] using ih

theorem lookup_update_ne (hkey : ∀ row, key (f row) = key row) (hne : k' ≠ k) :
    lookup key (update key k f rows) k' = lookup key rows k' := by
  induction rows with
  | nil => rfl
  | cons head rest ih =>
      by_cases hhead : key head = k
      · have hne' : ¬ k = k' := fun heq => hne heq.symm
        simpa [lookup, update, hhead, hkey, hne'] using ih
      · by_cases hhead' : key head = k'
        · simp [lookup, update, hhead', hne]
        · simpa [lookup, update, hhead, hhead'] using ih

/-- A row put in the place of the rows with its key is found. -/
theorem lookup_replace_self (hsome : (lookup key rows (key row)).isSome) :
    lookup key (update key (key row) (fun _ => row) rows) (key row) = some row := by
  induction rows with
  | nil => cases hsome
  | cons head rest ih =>
      by_cases hhead : key head = key row
      · simp [lookup, update, hhead]
      · simp only [lookup, List.find?_cons, hhead, decide_false] at hsome
        simpa [lookup, update, hhead] using ih hsome

theorem lookup_replace_ne (hne : k ≠ key row) :
    lookup key (update key (key row) (fun _ => row) rows) k = lookup key rows k := by
  induction rows with
  | nil => rfl
  | cons head rest ih =>
      have hne' : ¬ key row = k := fun heq => hne heq.symm
      by_cases hhead : key head = key row
      · simpa [lookup, update, hhead, hne'] using ih
      · by_cases hhead' : key head = k
        · simp [lookup, update, hhead', hne]
        · simpa [lookup, update, hhead, hhead'] using ih

/-- A row-wise rewriting that keeps keys rewrites what a lookup finds. -/
theorem lookup_map (hkey : ∀ row, key (f row) = key row) :
    lookup key (rows.map f) k = (lookup key rows k).map f := by
  simp only [lookup, List.find?_map, Function.comp_def, hkey]

theorem keys_update (hkey : ∀ row, key (f row) = key row) :
    (update key k f rows).map key = rows.map key := by
  rw [update, List.map_map]
  refine List.map_congr_left fun row _ => ?_
  by_cases h : key row = k <;> simp [h, hkey]

theorem nodup_append_singleton (hnodup : (rows.map key).Nodup)
    (hfresh : lookup key rows (key row) = none) : ((rows ++ [row]).map key).Nodup := by
  rw [List.map_append, List.map_singleton, List.nodup_append]
  refine ⟨hnodup, List.nodup_singleton _, ?_⟩
  rintro first hfirst second hsecond rfl
  obtain ⟨other, hother, hkey⟩ := List.mem_map.mp hfirst
  rw [List.mem_singleton] at hsecond
  exact lookup_eq_none.mp hfresh other hother (hkey.trans hsecond)

/-- Membership in an updated table, seen from the old one. -/
theorem mem_update (h : row ∈ update key k f rows) :
    (row ∈ rows ∧ key row ≠ k) ∨ ∃ old ∈ rows, key old = k ∧ row = f old := by
  obtain ⟨old, hold, hrow⟩ := List.mem_map.mp h
  by_cases hkey : key old = k
  · rw [if_pos hkey] at hrow
    exact .inr ⟨old, hold, hkey, hrow.symm⟩
  · rw [if_neg hkey] at hrow
    exact .inl ⟨hrow ▸ hold, hrow ▸ hkey⟩

end Keyed
