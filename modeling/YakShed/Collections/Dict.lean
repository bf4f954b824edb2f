/-
# Dictionaries

Finite maps with the operations of a hash map, on Mathlib's association lists.
One equation for each operation says what a lookup finds afterwards. The order
of iteration is a parameter, since a hash map fixes none.
-/

import Mathlib.Data.List.AList
import Mathlib.Data.List.Dedup

/-- A finite map. -/
abbrev Dict (K V : Type) : Type := AList fun _ : K => V

namespace Dict

variable {K V : Type} [DecidableEq K]

def find (d : Dict K V) (k : K) : Option V := AList.lookup k d

def set (d : Dict K V) (k : K) (v : V) : Dict K V := AList.insert k v d

def remove (d : Dict K V) (k : K) : Dict K V := AList.erase k d

/-- Keeps the entries that satisfy a test. -/
def retain (d : Dict K V) (keep : K → V → Bool) : Dict K V :=
  ⟨d.entries.filter fun entry => keep entry.1 entry.2, d.nodupKeys.sublist List.filter_sublist⟩

/-- Adds all entries of another map; on a common key the other's wins. -/
def extend (d other : Dict K V) : Dict K V := other ∪ d

def toList (d : Dict K V) : List (K × V) := d.entries.map fun entry => (entry.1, entry.2)

/-- The entries in an order of the caller's choice: first the keys it lists,
then the rest. -/
def inOrder (order : List K) (d : Dict K V) : List (K × V) :=
  order.dedup.filterMap (fun k => (d.find k).map (k, ·)) ++
    d.toList.filter fun entry => entry.1 ∉ order

/-- The entries' values, in some fixed order. -/
def values (d : Dict K V) : List V := d.toList.map (·.2)

variable {d other : Dict K V} {k k' : K} {v : V}

@[simp] theorem find_empty : find (∅ : Dict K V) k = none := AList.lookup_empty k

theorem find_set : (d.set k v).find k' = if k' = k then some v else d.find k' := by
  unfold find set
  split
  · next heq => rw [heq, AList.lookup_insert]
  · next hne => rw [AList.lookup_insert_ne hne]

@[simp] theorem find_set_self : (d.set k v).find k = some v := by rw [find_set, if_pos rfl]

theorem find_set_ne (hne : k' ≠ k) : (d.set k v).find k' = d.find k' := by
  rw [find_set, if_neg hne]

/-- What is found after an insertion was inserted, or was there. -/
theorem find_set_eq_some {v' : V} :
    (d.set k v).find k' = some v' ↔ k' = k ∧ v = v' ∨ k' ≠ k ∧ d.find k' = some v' := by
  rw [find_set]
  split <;> simp_all

theorem find_remove : (d.remove k).find k' = if k' = k then none else d.find k' := by
  unfold find remove
  split
  · next heq => rw [heq, AList.lookup_erase]
  · next hne => rw [AList.lookup_erase_ne hne]

@[simp] theorem find_remove_self : (d.remove k).find k = none := by rw [find_remove, if_pos rfl]

theorem find_remove_ne (hne : k' ≠ k) : (d.remove k).find k' = d.find k' := by
  rw [find_remove, if_neg hne]

theorem find_eq_some_iff : d.find k = some v ↔ (⟨k, v⟩ : Sigma fun _ : K => V) ∈ d.entries := by
  rw [← AList.mem_lookup_iff, Option.mem_def]
  rfl

theorem find_retain {keep : K → V → Bool} :
    (d.retain keep).find k = (d.find k).filter (keep k) := by
  ext v
  rw [find_eq_some_iff, Option.filter_eq_some_iff, find_eq_some_iff]
  simp [retain, List.mem_filter]

theorem find_retain_eq_some {keep : K → V → Bool} :
    (d.retain keep).find k = some v ↔ d.find k = some v ∧ keep k v = true := by
  rw [find_retain, Option.filter_eq_some_iff]

theorem find_extend : (d.extend other).find k = (other.find k).or (d.find k) := by
  unfold find extend
  by_cases h : k ∈ other
  · rw [AList.lookup_union_left h]
    obtain ⟨v, hv⟩ := Option.isSome_iff_exists.mp (AList.lookup_isSome.mpr h)
    rw [hv, Option.some_or]
  · rw [AList.lookup_union_right h, AList.lookup_eq_none.mpr h, Option.none_or]

theorem find_extend_eq_some :
    (d.extend other).find k = some v ↔
      other.find k = some v ∨ other.find k = none ∧ d.find k = some v := by
  rw [find_extend, Option.or_eq_some_iff]

theorem find_extend_of_isEmpty (h : other.entries.isEmpty = true) :
    (d.extend other).find k = d.find k := by
  have hempty : other.find k = none := by
    rw [Option.eq_none_iff_forall_ne_some]
    intro found hfound
    rw [find_eq_some_iff, List.isEmpty_iff.mp h] at hfound
    cases hfound
  rw [find_extend, hempty, Option.none_or]

theorem mem_toList : (k, v) ∈ d.toList ↔ d.find k = some v := by
  rw [find_eq_some_iff]
  simp [toList]

theorem mem_inOrder {order : List K} : (k, v) ∈ d.inOrder order ↔ d.find k = some v := by
  unfold inOrder
  rw [List.mem_append, List.mem_filterMap, List.mem_filter, mem_toList]
  constructor
  · rintro (⟨found, _, hfound⟩ | ⟨h, _⟩)
    · obtain ⟨v', hv', heq⟩ := Option.map_eq_some_iff.mp hfound
      cases heq
      exact hv'
    · exact h
  · intro h
    by_cases hk : k ∈ order
    · exact .inl ⟨k, List.mem_dedup.mpr hk, by rw [h, Option.map_some]⟩
    · exact .inr ⟨h, by simpa using hk⟩

/-- Every entry stands once in an order of the caller's choice. -/
theorem nodup_inOrder (order : List K) : ((d.inOrder order).map (·.1)).Nodup := by
  have hkeys : ((d.toList.filter fun entry => entry.1 ∉ order).map (·.1)).Nodup := by
    have hsublist : ((d.toList.filter fun entry => entry.1 ∉ order).map (·.1)).Sublist
        (d.toList.map (·.1)) := List.filter_sublist.map _
    apply List.Nodup.sublist hsublist
    unfold toList
    rw [List.map_map]
    exact d.nodupKeys
  have hlisted : ∀ keys : List K,
      (keys.filterMap fun k => (d.find k).map (k, ·)).map (·.1) =
        keys.filter fun k => (d.find k).isSome := by
    intro keys
    induction keys with
    | nil => rfl
    | cons k keys ih =>
        rw [List.filterMap_cons, List.filter_cons]
        cases d.find k with
        | none => exact ih
        | some v => exact congrArg (k :: ·) ih
  unfold inOrder
  rw [List.map_append, hlisted, List.nodup_append]
  refine ⟨order.nodup_dedup.filter _, hkeys, ?_⟩
  intro k hk k' hk' heq
  obtain ⟨entry, hentry, rfl⟩ := List.mem_map.mp hk'
  have hmem : k ∈ order := List.mem_dedup.mp (List.mem_filter.mp hk).1
  have hout := (List.mem_filter.mp hentry).2
  rw [heq] at hmem
  simp [hmem] at hout

/-- A new entry is added to the others. -/
theorem toList_set_of_find_eq_none (h : d.find k = none) :
    (d.set k v).toList = (k, v) :: d.toList := by
  have hnot : k ∉ d := AList.lookup_eq_none.mp h
  unfold toList set
  rw [AList.insert_of_notMem hnot]
  rfl

omit [DecidableEq K] in
theorem nodup_toList : d.toList.Nodup := by
  have hkeys : (d.toList.map (·.1)).Nodup := by
    unfold toList
    rw [List.map_map]
    exact d.nodupKeys
  exact hkeys.of_map _

/-- Removing an entry leaves the others. -/
theorem toList_perm_remove (h : d.find k = some v) :
    d.toList.Perm ((k, v) :: (d.remove k).toList) := by
  have hnot : (k, v) ∉ (d.remove k).toList := by
    rw [mem_toList, find_remove_self]
    intro h
    cases h
  rw [List.perm_ext_iff_of_nodup nodup_toList (List.nodup_cons.mpr ⟨hnot, nodup_toList⟩)]
  rintro ⟨k', v'⟩
  rw [List.mem_cons, mem_toList, mem_toList, find_remove]
  by_cases heq : k' = k
  · rw [if_pos heq, heq, h]
    simp [eq_comm]
  · rw [if_neg heq]
    simp [heq]

theorem inOrder_perm_toList (order : List K) : (d.inOrder order).Perm d.toList := by
  rw [List.perm_ext_iff_of_nodup (nodup_inOrder order).of_map nodup_toList]
  rintro ⟨k', v'⟩
  rw [mem_inOrder, mem_toList]

end Dict
