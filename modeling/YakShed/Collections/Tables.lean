/-
# Constrained tables

Tables as lists of rows with the constraints a database declares for them: row
checks, unique keys whose comparison SQL skips for `NULL`, and references from one
table's key to another's. Rows are inserted one at a time under the constraints,
and the lemmas say when a table can be copied into another one row by row. Nothing
here knows what a row is.
-/

import Mathlib.Data.List.Pairwise

namespace Tables

/-- What a column holds, whatever its declared type. A real that is an integer is
stored as one, so reals are told apart by their bits. -/
inductive Value
  | null
  | integer (value : Int)
  | real (bits : BitVec 64)
  | text (value : String)
  | blob (bytes : List UInt8)
  deriving DecidableEq

namespace Value

/-- `value IN (texts)` of a value that is not `NULL`. -/
def isOneOf (texts : List String) : Value → Bool
  | text value => value ∈ texts
  | _ => false

/-- `0 < value` of a value that is not `NULL`: text and blobs come after all numbers. -/
def isPositive : Value → Bool
  | integer value => 0 < value
  | real bits => !bits.msb && bits ≠ 0
  | _ => true

/-- `0 <= value` of a value that is not `NULL`. -/
def isNonnegative : Value → Bool
  | integer value => 0 ≤ value
  | real bits => !bits.msb
  | _ => true

end Value

/-- The columns of a key, each read off a row. -/
abbrev Key (ρ : Type) : Type := List (ρ → Value)

inductive Violation
  | check
  | unique
  | tableExists
  deriving DecidableEq

/-- The constraints that are checked when a row is inserted. -/
structure Schema (ρ : Type) where
  checks : List (ρ → Bool)
  unique : List (Key ρ)

variable {ρ σ : Type}

def Key.of (key : Key ρ) (row : ρ) : List Value :=
  key.map fun column => column row

/-- Two rows that a unique key forbids: `NULL` is different from everything. -/
def Key.Clash (key : Key ρ) (first second : ρ) : Prop :=
  key.of first = key.of second ∧ Value.null ∉ key.of first

instance (key : Key ρ) (first second : ρ) : Decidable (key.Clash first second) :=
  inferInstanceAs (Decidable (_ ∧ _))

/-- Every row of the first table names a row of the second, or leaves the name open. -/
def References (child : Key ρ) (parent : Key σ) (rows : List ρ) (parents : List σ) : Prop :=
  ∀ row ∈ rows, Value.null ∈ child.of row ∨ ∃ target ∈ parents, parent.of target = child.of row

instance (child : Key ρ) (parent : Key σ) (rows : List ρ) (parents : List σ) :
    Decidable (References child parent rows parents) :=
  inferInstanceAs (Decidable (∀ row ∈ rows, _))

namespace Schema

variable (schema : Schema ρ)

def insert (rows : List ρ) (row : ρ) : Except Violation (List ρ) :=
  if schema.checks.all (fun check => check row) then
    if rows.any (fun other => schema.unique.any fun key => key.Clash other row) then .error .unique
    else .ok (rows ++ [row])
  else .error .check

/-- `INSERT INTO ... SELECT` after the rows that are there. -/
def insertAll : List ρ → List ρ → Except Violation (List ρ)
  | rows, [] => .ok rows
  | rows, row :: rest => do
      let rows ← schema.insert rows row
      insertAll rows rest

/-- A table that satisfies its constraints. -/
structure Holds (rows : List ρ) : Prop where
  checked : ∀ row ∈ rows, ∀ check ∈ schema.checks, check row = true
  distinct : ∀ key ∈ schema.unique, rows.Pairwise fun first second => ¬key.Clash first second

instance (rows : List ρ) : Decidable (schema.Holds rows) :=
  decidable_of_iff
    ((∀ row ∈ rows, ∀ check ∈ schema.checks, check row = true) ∧
      ∀ key ∈ schema.unique, rows.Pairwise fun first second => ¬key.Clash first second)
    ⟨fun h => ⟨h.1, h.2⟩, fun h => ⟨h.checked, h.distinct⟩⟩

variable {schema}

theorem Holds.nil : schema.Holds [] where
  checked := by
    intro row hrow
    cases hrow
  distinct _ _ := List.Pairwise.nil

theorem Holds.insert {rows : List ρ} {row : ρ} (h : schema.Holds (rows ++ [row])) :
    schema.insert rows row = .ok (rows ++ [row]) := by
  have hchecked : schema.checks.all (fun check => check row) = true :=
    List.all_eq_true.mpr (h.checked row (List.mem_append_right _ List.mem_cons_self))
  have hdistinct : rows.any (fun other => schema.unique.any fun key => key.Clash other row) =
      false := by
    rw [List.any_eq_false]
    intro other hother hclash
    obtain ⟨key, hkey, hclash⟩ := List.any_eq_true.mp hclash
    have hpairwise := (List.pairwise_append.mp (h.distinct key hkey)).2.2
    exact hpairwise other hother row List.mem_cons_self (of_decide_eq_true hclash)
  rw [Schema.insert, if_pos hchecked, hdistinct]
  rfl

theorem Holds.append_left {rows more : List ρ} (h : schema.Holds (rows ++ more)) :
    schema.Holds rows where
  checked row hrow := h.checked row (List.mem_append_left _ hrow)
  distinct key hkey := (List.pairwise_append.mp (h.distinct key hkey)).1

/-- Rows that satisfy the constraints together are all inserted. -/
theorem Holds.insertAll {rows more : List ρ} (h : schema.Holds (rows ++ more)) :
    schema.insertAll rows more = .ok (rows ++ more) := by
  induction more generalizing rows with
  | nil => rw [Schema.insertAll, List.append_nil]
  | cons row rest ih =>
      have hsplit : rows ++ row :: rest = rows ++ [row] ++ rest := by
        rw [List.append_assoc, List.singleton_append]
      rw [hsplit] at h ⊢
      rw [Schema.insertAll, h.append_left.insert]
      exact ih h

/-- A table that satisfies the constraints is copied into an empty one. -/
theorem Holds.insertAll_nil {rows : List ρ} (h : schema.Holds rows) :
    schema.insertAll [] rows = .ok rows :=
  Holds.insertAll h

/-- A selection keeps the constraints if each check of the target follows from
those of the source, and rows that a key of the target confuses are confused by a
key of the source. -/
theorem Holds.map {target : Schema σ} {rows : List ρ} (h : schema.Holds rows) (select : ρ → σ)
    (hchecks : ∀ row, (∀ check ∈ schema.checks, check row = true) →
      ∀ check ∈ target.checks, check (select row) = true)
    (hunique : ∀ key ∈ target.unique, ∃ key' ∈ schema.unique, ∀ first second,
      key.Clash (select first) (select second) → key'.Clash first second) :
    target.Holds (rows.map select) where
  checked := by
    intro row hrow
    obtain ⟨source, hsource, rfl⟩ := List.mem_map.mp hrow
    exact hchecks source (h.checked source hsource)
  distinct := by
    intro key hkey
    obtain ⟨key', hkey', hclash⟩ := hunique key hkey
    rw [List.pairwise_map]
    apply (h.distinct key' hkey').imp
    intro first second hdistinct hconfused
    exact hdistinct (hclash first second hconfused)

end Schema

namespace References

variable {τ : Type} {child : Key ρ} {parent : Key σ} {rows : List ρ} {parents : List σ}

/-- A copy of the referenced table that keeps its key. -/
theorem map_parents {parent' : Key τ} (h : References child parent rows parents) (select : σ → τ)
    (hkey : ∀ target, parent'.of (select target) = parent.of target) :
    References child parent' rows (parents.map select) := by
  intro row hrow
  rcases h row hrow with hnull | ⟨target, htarget, hsame⟩
  · exact .inl hnull
  · right
    refine ⟨select target, List.mem_map_of_mem htarget, ?_⟩
    rw [hkey, hsame]

/-- A copy of the referring table that keeps its key. -/
theorem map_rows {child' : Key τ} (h : References child parent rows parents) (select : ρ → τ)
    (hkey : ∀ row, child'.of (select row) = child.of row) :
    References child' parent (rows.map select) parents := by
  intro row hrow
  obtain ⟨source, hsource, rfl⟩ := List.mem_map.mp hrow
  rw [hkey]
  exact h source hsource

end References

end Tables
