/-
# Sorted rows in pages

Filtering commutes with a stable sort, so that a query over a sorted table
depends on the rows it keeps only. Where the keys of sorted rows strictly
increase, a page that starts after the last key of the page before it is the
next slice of the rows. A reader that follows the pages of a table while others
write to it sees every row that stays, and none twice.
-/

import Mathlib.Data.List.Sort
import Mathlib.Data.Set.Finite.Basic

namespace YakShed

namespace Paging

variable {α κ : Type}

/-! ## Filters -/

/-- Rewriting rows that a filter drops is not seen through it. -/
theorem filter_map_of_kept {keep : α → Bool} {f : α → α} {rows : List α}
    (h : ∀ row ∈ rows, keep (f row) = keep row ∧ (keep row = true → f row = row)) :
    (rows.map f).filter keep = rows.filter keep := by
  induction rows with
  | nil => rfl
  | cons row rest ih =>
      have hrest := ih fun other hother => h other (List.mem_cons_of_mem _ hother)
      obtain ⟨hkeep, hsame⟩ := h row List.mem_cons_self
      rw [List.map_cons, List.filter_cons, List.filter_cons, hkeep, hrest]
      split
      · next hkept => rw [hsame hkept]
      · rfl

/-- A second filter that implies the first makes the first redundant. -/
theorem filter_filter_of_imp {keep among : α → Bool} {rows : List α}
    (h : ∀ row ∈ rows, keep row = true → among row = true) :
    (rows.filter among).filter keep = rows.filter keep := by
  rw [List.filter_filter]
  refine List.filter_congr fun row hrow => ?_
  cases hkeep : keep row with
  | false => rfl
  | true => rw [h row hrow hkeep]; rfl

section Sorted

variable {r : α → α → Prop} [DecidableRel r] [IsTrans α r]

theorem filter_orderedInsert (keep : α → Bool) (row : α) {rows : List α} (h : rows.Pairwise r) :
    (rows.orderedInsert r row).filter keep =
      if keep row then (rows.filter keep).orderedInsert r row else rows.filter keep := by
  induction rows with
  | nil => cases hkeep : keep row <;> simp [hkeep]
  | cons head rest ih =>
      have hrest := ih h.of_cons
      have hhead : ∀ other ∈ rest, r head other := fun _ => List.rel_of_pairwise_cons h
      rw [List.orderedInsert_cons]
      split
      · next hle =>
          rw [List.filter_cons]
          split
          · next hkeep =>
              have hfront : ∀ other ∈ (head :: rest).filter keep, r row other := by
                intro other hother
                rcases List.mem_cons.mp (List.mem_of_mem_filter hother) with rfl | hmem
                · exact hle
                · exact IsTrans.trans _ _ _ hle (hhead other hmem)
              cases hfiltered : (head :: rest).filter keep with
              | nil => rfl
              | cons first others =>
                  rw [List.orderedInsert_cons, if_pos]
                  exact hfront first (hfiltered ▸ List.mem_cons_self)
          · rfl
      · next hgt =>
          rw [List.filter_cons, hrest, List.filter_cons]
          split
          · split
            · rw [List.orderedInsert_cons, if_neg hgt]
            · rfl
          · rfl

/-- A filter may be applied before the sort. -/
theorem filter_insertionSort [Std.Total r] (keep : α → Bool) (rows : List α) :
    (rows.insertionSort r).filter keep = (rows.filter keep).insertionSort r := by
  induction rows with
  | nil => rfl
  | cons row rest ih =>
      rw [List.insertionSort_cons,
        filter_orderedInsert keep row (List.pairwise_insertionSort r rest),
        ih, List.filter_cons]
      split
      · rw [List.insertionSort_cons]
      · rfl

end Sorted

/-! ## Pages -/

section Keys

variable [LinearOrder κ] (key : α → κ)

/-- The rows after a key. -/
def after (rows : List α) : Option κ → List α
  | none => rows
  | some bound => rows.filter fun row => bound < key row

variable {key} {rows : List α}

/-- After the last row of a slice comes the rest. -/
theorem after_last {front rest : List α} {last : α}
    (h : (front ++ last :: rest).Pairwise fun first second => key first < key second) :
    after key (front ++ last :: rest) (some (key last)) = rest := by
  rw [List.pairwise_append, List.pairwise_cons] at h
  obtain ⟨_, ⟨hlast, _⟩, hfront⟩ := h
  have hdropped : front.filter (fun row => key last < key row) = [] := by
    refine List.filter_eq_nil_iff.mpr fun row hrow => ?_
    have hlt := hfront row hrow last List.mem_cons_self
    simpa using hlt.le
  have hkept : rest.filter (fun row => key last < key row) = rest :=
    List.filter_eq_self.mpr fun row hrow => by simpa using hlast row hrow
  rw [after, List.filter_append, hdropped, List.filter_cons, hkept]
  simp

theorem after_after {bound later : κ} (h : bound ≤ later) :
    after key (after key rows (some bound)) (some later) = after key rows (some later) := by
  refine filter_filter_of_imp fun row _ hrow => ?_
  rw [decide_eq_true_eq] at hrow ⊢
  exact lt_of_le_of_lt h hrow

/-- The next page starts where a full page ended. -/
theorem after_page {bound : Option κ} {last : α} {limit : Nat}
    (hsorted : rows.Pairwise fun first second => key first < key second)
    (hfull : limit < (after key rows bound).length)
    (hlast : ((after key rows bound).take limit).getLast? = some last) :
    after key rows (some (key last)) = (after key rows bound).drop limit := by
  obtain ⟨front, hfront⟩ := List.getLast?_eq_some_iff.mp hlast
  have hsplit : after key rows bound = front ++ last :: (after key rows bound).drop limit := by
    conv_lhs => rw [← List.take_append_drop limit (after key rows bound), hfront]
    simp
  have hsorted' : (after key rows bound).Pairwise fun first second => key first < key second := by
    cases bound with
    | none => exact hsorted
    | some bound => exact hsorted.filter _
  have hrest : after key (after key rows bound) (some (key last)) =
      (after key rows bound).drop limit := by
    rw [hsplit] at hsorted'
    conv_lhs => rw [hsplit]
    exact after_last hsorted'
  rw [← hrest]
  cases bound with
  | none => rfl
  | some bound =>
      have hmem : last ∈ after key rows (some bound) := by
        rw [hsplit]
        exact List.mem_append_right _ List.mem_cons_self
      refine (after_after ?_).symm
      have hlt := (List.mem_filter.mp hmem).2
      exact (of_decide_eq_true hlt).le

end Keys

/-! ## Visits -/

/-- What a reader has after some requests: the rows so far, and the key after
which it goes on, unless it has finished. -/
structure Visit (α κ : Type) where
  rows : List α
  next : Option (Option κ)

section Visits

variable [LinearOrder κ] (key : α → κ) (limit : Nat)

/-- One request of a reader that has not finished. -/
def Visit.turn (visit : Visit α κ) (table : List α) : Visit α κ :=
  match visit.next with
  | none => visit
  | some bound =>
      let rest := after key table bound
      { rows := visit.rows ++ rest.take limit
        next := if limit < rest.length then
          (rest.take limit).getLast?.map fun last => some (key last)
          else none }

/-- A reader after a number of requests, each to the table as it is then. -/
def visit (tables : Nat → List α) : Nat → Visit α κ
  | 0 => ⟨[], some none⟩
  | requests + 1 => (visit tables requests).turn key limit (tables requests)

/-- The rows of a visit, up to where it goes on. -/
structure Visit.Covers (tables : Nat → List α) (requests : Nat) (visit : Visit α κ) : Prop where
  sorted : visit.rows.Pairwise fun first second => key first < key second
  served : ∀ row ∈ visit.rows, ∃ request < requests, row ∈ tables request
  behind : ∀ {bound}, visit.next = some bound → ∀ row ∈ visit.rows,
    ∃ last, bound = some last ∧ key row ≤ last
  complete : ∀ {k}, (∀ request < requests, k ∈ (tables request).map key) →
    k ∈ visit.rows.map key ∨ ∃ bound, visit.next = some bound ∧ ∀ last ∈ bound, last < k
  full : visit.next ≠ none → visit.rows.length = requests * limit

variable {key limit} {tables : Nat → List α} {requests : Nat}

theorem mem_after {rows : List α} {bound : Option κ} {row : α} :
    row ∈ after key rows bound ↔ row ∈ rows ∧ ∀ last ∈ bound, last < key row := by
  cases bound with
  | none => simp [after]
  | some last => simp [after]

theorem pairwise_after {rows : List α} (bound : Option κ)
    (h : rows.Pairwise fun first second => key first < key second) :
    (after key rows bound).Pairwise fun first second => key first < key second := by
  cases bound with
  | none => exact h
  | some last => exact h.filter _

/-- The last row of a sorted list bounds the others. -/
theorem le_getLast {rows : List α} {last : α}
    (h : rows.Pairwise fun first second => key first < key second)
    (hlast : rows.getLast? = some last) : ∀ row ∈ rows, key row ≤ key last := by
  obtain ⟨front, rfl⟩ := List.getLast?_eq_some_iff.mp hlast
  intro row hrow
  rcases List.mem_append.mp hrow with hrow | hrow
  · exact ((List.pairwise_append.mp h).2.2 row hrow last (List.mem_singleton_self last)).le
  · rw [List.mem_singleton.mp hrow]

namespace Visit.Covers

theorem start : Covers key limit tables 0 (⟨[], some none⟩ : Visit α κ) where
  sorted := .nil
  served := by simp
  behind := by simp
  complete := fun _ => .inr ⟨none, rfl, by simp⟩
  full := by simp

theorem turn {visit : Visit α κ} (h : visit.Covers key limit tables requests)
    (hlimit : 1 ≤ limit) (hsorted : (tables requests).Pairwise fun first second =>
      key first < key second) :
    (visit.turn key limit (tables requests)).Covers key limit tables (requests + 1) := by
  obtain ⟨rows, next⟩ := visit
  have hearlier : ∀ row ∈ rows, ∃ request < requests + 1, row ∈ tables request := by
    intro row hrow
    obtain ⟨request, hlt, hmem⟩ := h.served row hrow
    exact ⟨request, Nat.lt_succ_of_lt hlt, hmem⟩
  cases next with
  | none =>
      constructor
      · exact h.sorted
      · exact hearlier
      · intro bound hnext
        cases hnext
      · intro k hstays
        exact h.complete fun request hlt => hstays request (Nat.lt_succ_of_lt hlt)
      · intro hnext
        exact absurd rfl hnext
  | some bound =>
      have hrest := pairwise_after bound hsorted
      have hpage : ((after key (tables requests) bound).take limit).Pairwise fun first second =>
          key first < key second := hrest.sublist (List.take_sublist _ _)
      -- a request that leaves something to read ends on the last row of a full page
      have hmore : limit < (after key (tables requests) bound).length →
          ∃ last, ((after key (tables requests) bound).take limit).getLast? = some last := by
        intro hlt
        cases hlast : ((after key (tables requests) bound).take limit).getLast? with
        | some last => exact ⟨last, rfl⟩
        | none =>
            have hzero := congrArg List.length (List.getLast?_eq_none_iff.mp hlast)
            rw [List.length_take, List.length_nil] at hzero
            omega
      constructor
      · -- the new page lies behind all that the reader has
        refine List.pairwise_append.mpr ⟨h.sorted, hpage, fun first hfirst second hsecond => ?_⟩
        obtain ⟨last, rfl, hle⟩ := h.behind rfl first hfirst
        exact lt_of_le_of_lt hle ((mem_after.mp (List.mem_of_mem_take hsecond)).2 last rfl)
      · intro row hrow
        rcases List.mem_append.mp hrow with hrow | hrow
        · exact hearlier row hrow
        · exact ⟨requests, Nat.lt_succ_self _, (mem_after.mp (List.mem_of_mem_take hrow)).1⟩
      · intro next hnext row hrow
        dsimp only [Visit.turn] at hnext hrow
        split at hnext
        · next hlt =>
            obtain ⟨last, hlast⟩ := hmore hlt
            rw [hlast] at hnext
            cases hnext
            refine ⟨key last, rfl, ?_⟩
            rcases List.mem_append.mp hrow with hrow | hrow
            · obtain ⟨previous, rfl, hle⟩ := h.behind rfl row hrow
              have hmem := List.mem_of_mem_take (List.mem_of_getLast? hlast)
              exact hle.trans ((mem_after.mp hmem).2 previous rfl).le
            · exact le_getLast hpage hlast row hrow
        · cases hnext
      · intro k hstays
        dsimp only [Visit.turn]
        rw [List.map_append, List.mem_append]
        rcases h.complete fun request hlt => hstays request (Nat.lt_succ_of_lt hlt) with
          hk | ⟨_, hbound, hk⟩
        · exact .inl (.inl hk)
        · cases hbound
          obtain ⟨row, hrow, rfl⟩ := List.mem_map.mp (hstays requests (Nat.lt_succ_self _))
          have hmem := mem_after.mpr ⟨hrow, hk⟩
          split
          · next hlt =>
              obtain ⟨last, hlast⟩ := hmore hlt
              rw [hlast]
              rw [← List.take_append_drop limit (after key (tables requests) bound)] at hmem hrest
              rcases List.mem_append.mp hmem with hmem | hmem
              · exact .inl (.inr (List.mem_map_of_mem hmem))
              · refine .inr ⟨_, rfl, ?_⟩
                rintro _ ⟨⟩
                exact (List.pairwise_append.mp hrest).2.2 _ (List.mem_of_getLast? hlast) row hmem
          · next hle =>
              rw [List.take_of_length_le (Nat.le_of_not_lt hle)]
              exact .inl (.inr (List.mem_map_of_mem hmem))
      · intro hnext
        dsimp only [Visit.turn] at hnext ⊢
        rw [List.length_append, h.full (by simp), List.length_take]
        split at hnext
        · next hlt => rw [Nat.min_eq_left hlt.le, Nat.succ_mul]
        · exact absurd rfl hnext

theorem visit (hlimit : 1 ≤ limit)
    (hsorted : ∀ request, (tables request).Pairwise fun first second => key first < key second)
    (requests : Nat) :
    (Paging.visit key limit tables requests).Covers key limit tables requests := by
  induction requests with
  | zero => exact start
  | succ requests ih => exact ih.turn hlimit (hsorted requests)

end Visit.Covers

/-- Where only finitely many keys ever turn up, the reader finishes. -/
theorem exists_visit_finished (hlimit : 1 ≤ limit)
    (hsorted : ∀ request, (tables request).Pairwise fun first second => key first < key second)
    (hfinite : {k | ∃ request, k ∈ (tables request).map key}.Finite) :
    ∃ requests, (visit key limit tables requests).next = none := by
  by_contra hnever
  have hcovers := Visit.Covers.visit hlimit hsorted
  obtain ⟨keys, hkeys⟩ := hfinite.exists_finset
  have hnext : ∀ requests, (visit key limit tables requests).next ≠ none :=
    fun requests hnone => hnever ⟨requests, hnone⟩
  -- so many full pages hold more distinct keys than there are
  have hcount : (((visit key limit tables (keys.card + 1)).rows.map key).toFinset).card =
      (keys.card + 1) * limit := by
    rw [List.toFinset_card_of_nodup, List.length_map, (hcovers _).full (hnext _)]
    exact List.pairwise_map.mpr ((hcovers _).sorted.imp fun hlt => hlt.ne)
  have hsubset : ((visit key limit tables (keys.card + 1)).rows.map key).toFinset ⊆ keys := by
    intro k hk
    obtain ⟨row, hrow, rfl⟩ := List.mem_map.mp (List.mem_toFinset.mp hk)
    obtain ⟨request, _, hmem⟩ := (hcovers _).served row hrow
    exact (hkeys _).mpr ⟨request, List.mem_map_of_mem hmem⟩
  have hle := Finset.card_le_card hsubset
  rw [hcount] at hle
  have hlarge := Nat.le_mul_of_pos_right (keys.card + 1) hlimit
  omega

end Visits

end Paging

end YakShed
