/-
# Lives of a resource in a log

A log is read for one resource: an entry opens it, uses it, closes it or has
nothing to do with it. The log is orderly if the resource is opened only while
it is closed, and used and closed only while it is open. An orderly log that
leaves the resource closed is a sequence of lives, each with one opening and one
closing, and no use is outside a life.
-/

import Mathlib.Data.List.Induction

/-- What an entry of a log does to the resource. -/
inductive Mark
  | opens
  | uses
  | closes
  deriving DecidableEq

namespace Mark

/-- Whether the resource is open after an entry, if the entry is in order. -/
def follow (mark : Option Mark) (isOpen : Bool) : Option Bool :=
  match mark, isOpen with
  | none, _ => some isOpen
  | some opens, false => some true
  | some uses, true => some true
  | some closes, true => some false
  | _, _ => none

/-- An entry that neither opens nor closes the resource. -/
def Quiet (mark : Option Mark) : Prop := mark ≠ some opens ∧ mark ≠ some closes

end Mark

section Lives

open Mark

variable {α : Type} {mark : α → Option Mark} {log : List α} {isOpen : Bool}

/-- Whether the resource is open after a log, if the log is orderly. -/
def follows (mark : α → Option Mark) (log : List α) (isOpen : Bool) : Option Bool :=
  log.foldlM (fun isOpen entry => follow (mark entry) isOpen) isOpen

/-- The log leaves every life it opens closed, uses the resource within a life
only, and opens no life within another. -/
structure Lived (mark : α → Option Mark) (log : List α) : Prop where
  closed : ∀ before entry after, log = before ++ entry :: after → mark entry = some .opens →
    ∃ during last rest, after = during ++ last :: rest ∧ mark last = some .closes ∧
      ∀ other ∈ during, Quiet (mark other)
  within : ∀ before entry after, log = before ++ entry :: after →
    mark entry = some .uses ∨ mark entry = some .closes →
    ∃ earlier first during, before = earlier ++ first :: during ∧ mark first = some .opens ∧
      ∀ other ∈ during, Quiet (mark other)
  apart : ∀ before entry after, log = before ++ entry :: after → mark entry = some .opens →
    ∀ earlier first during, before = earlier ++ first :: during → mark first = some .opens →
      ∃ last ∈ during, mark last = some .closes

theorem follows_cons (entry : α) (rest : List α) :
    follows mark (entry :: rest) isOpen = (follow (mark entry) isOpen).bind (follows mark rest) :=
  rfl

theorem follows_append (rest : List α) :
    follows mark (log ++ rest) isOpen = (follows mark log isOpen).bind (follows mark rest) := by
  unfold follows
  rw [List.foldlM_append]
  rfl

theorem follows_concat {isOpen' : Bool} (h : follows mark log isOpen = some isOpen')
    (entry : α) :
    follows mark (log ++ [entry]) isOpen = follow (mark entry) isOpen' := by
  rw [follows_append, h, Option.bind_some, follows_cons]
  cases follow (mark entry) isOpen' with
  | none => rfl
  | some isOpen'' => rfl

theorem follows_split {before after : List α} {entry : α} {isOpen' : Bool}
    (h : follows mark (before ++ entry :: after) isOpen = some isOpen') :
    ∃ opened opened', follows mark before isOpen = some opened ∧
      follow (mark entry) opened = some opened' ∧ follows mark after opened' = some isOpen' := by
  rw [follows_append] at h
  obtain ⟨opened, hbefore, h⟩ := Option.bind_eq_some_iff.mp h
  rw [follows_cons] at h
  obtain ⟨opened', hentry, hafter⟩ := Option.bind_eq_some_iff.mp h
  exact ⟨opened, opened', hbefore, hentry, hafter⟩

/-- A life that is over has been closed. -/
theorem closing_of_follows (h : follows mark log true = some false) :
    ∃ during last rest, log = during ++ last :: rest ∧ mark last = some .closes ∧
      ∀ other ∈ during, Quiet (mark other) := by
  induction log with
  | nil => cases h
  | cons entry log ih =>
      rw [follows_cons] at h
      cases hmark : mark entry with
      | none =>
          rw [hmark] at h
          obtain ⟨during, last, rest, rfl, hlast, hquiet⟩ := ih h
          refine ⟨entry :: during, last, rest, rfl, hlast, ?_⟩
          intro other hmem
          rcases List.mem_cons.mp hmem with rfl | hmem
          · rw [hmark]
            exact ⟨by decide, by decide⟩
          · exact hquiet other hmem
      | some m =>
          rw [hmark] at h
          cases m with
          | opens => cases h
          | uses =>
              obtain ⟨during, last, rest, rfl, hlast, hquiet⟩ := ih h
              refine ⟨entry :: during, last, rest, rfl, hlast, ?_⟩
              intro other hmem
              rcases List.mem_cons.mp hmem with rfl | hmem
              · rw [hmark]
                exact ⟨by decide, by decide⟩
              · exact hquiet other hmem
          | closes =>
              refine ⟨[], entry, log, rfl, hmark, ?_⟩
              intro other hmem
              cases hmem

/-- A resource that was closed and is open has been opened. -/
theorem opening_of_follows (h : follows mark log false = some true) :
    ∃ earlier first during, log = earlier ++ first :: during ∧ mark first = some .opens ∧
      ∀ other ∈ during, Quiet (mark other) := by
  induction log using List.reverseRecOn with
  | nil => cases h
  | append_singleton log entry ih =>
      obtain ⟨opened, opened', hbefore, hentry, hafter⟩ := follows_split h
      cases hafter
      cases hmark : mark entry with
      | none =>
          rw [hmark] at hentry
          cases hentry
          obtain ⟨earlier, first, during, rfl, hfirst, hquiet⟩ := ih hbefore
          refine ⟨earlier, first, during ++ [entry], by simp, hfirst, ?_⟩
          intro other hmem
          rcases List.mem_append.mp hmem with hmem | hmem
          · exact hquiet other hmem
          · rw [List.mem_singleton.mp hmem, hmark]
            exact ⟨by decide, by decide⟩
      | some m =>
          rw [hmark] at hentry
          cases m with
          | opens =>
              refine ⟨log, entry, [], rfl, hmark, ?_⟩
              intro other hmem
              cases hmem
          | uses =>
              cases opened with
              | false => cases hentry
              | true =>
                  obtain ⟨earlier, first, during, rfl, hfirst, hquiet⟩ := ih hbefore
                  refine ⟨earlier, first, during ++ [entry], by simp, hfirst, ?_⟩
                  intro other hmem
                  rcases List.mem_append.mp hmem with hmem | hmem
                  · exact hquiet other hmem
                  · rw [List.mem_singleton.mp hmem, hmark]
                    exact ⟨by decide, by decide⟩
          | closes =>
              cases opened with
              | false => cases hentry
              | true => cases hentry

/-- An orderly log that ends with the resource closed is a sequence of lives. -/
theorem lived_of_follows (h : follows mark log false = some false) : Lived mark log where
  closed := by
    rintro before entry after rfl hmark
    obtain ⟨opened, opened', _, hentry, hafter⟩ := follows_split h
    rw [hmark] at hentry
    cases opened with
    | true => cases hentry
    | false =>
        cases hentry
        exact closing_of_follows hafter
  within := by
    rintro before entry after rfl hmark
    obtain ⟨opened, opened', hbefore, hentry, _⟩ := follows_split h
    cases opened with
    | true => exact opening_of_follows hbefore
    | false =>
        rcases hmark with hmark | hmark
        · rw [hmark] at hentry
          cases hentry
        · rw [hmark] at hentry
          cases hentry
  apart := by
    rintro before entry after rfl hmark earlier first during rfl hfirst
    obtain ⟨opened, opened', hbefore, hentry, _⟩ := follows_split h
    rw [hmark] at hentry
    cases opened with
    | true => cases hentry
    | false =>
        obtain ⟨opened, opened', _, hopen, hduring⟩ := follows_split hbefore
        rw [hfirst] at hopen
        cases opened with
        | true => cases hopen
        | false =>
            cases hopen
            obtain ⟨quiet, last, rest, rfl, hlast, _⟩ := closing_of_follows hduring
            exact ⟨last, by simp, hlast⟩

end Lives
