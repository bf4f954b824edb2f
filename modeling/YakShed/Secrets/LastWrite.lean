/-
# The last acknowledged write

A secret's lock makes the broker's calls take turns in the order they came, but
a worker that was given up goes on outside the lock. As long as no worker of a
put or delete comes after a later one of the same secret, an acknowledged put
that no put or delete follows is what every later resolve sees.
-/

import YakShed.Concurrency.Outline
import YakShed.Secrets.Broker

namespace YakShed.Secrets

open Concurrent

/-! ## What is claimed -/

namespace World

/-- A call's place among all calls that waited for a lock. -/
def ticket (world : World) (id : Nat) : Option Nat :=
  (world.calls.find id).bind (·.queued)

/-- A put or delete of the secret took its place at the lock after a moment. -/
def LaterMutation (world : World) (reference : SecretReference) (time : Nat) : Prop :=
  ∃ (id : Nat) (record : CallRecord) (queued : Nat), world.calls.find id = some record ∧
    record.call.reference = reference ∧ record.call.operation.isMutation = true ∧
    record.queued = some queued ∧ time < queued

/-- A put of the value returned `Ok` at a moment, and no put or delete of the
secret was issued after it. -/
def Acknowledged (world : World) (reference : SecretReference) (value : String) (time : Nat) :
    Prop :=
  ∃ (id : Nat) (record : CallRecord) (overwrite : Bool) (queued : Nat) (reply : Answer),
    world.calls.find id = some record ∧ record.call = ⟨reference, .put value overwrite⟩ ∧
    record.queued = some queued ∧ record.returned = some (time, .ok reply) ∧
    ¬ world.LaterMutation reference queued

end World

/-- A resolve may answer so when the secret has the value. -/
def Sees (value : String) (result : Except SecretError Answer) : Prop :=
  (∀ found, result = .ok (.secret found) → found = value) ∧
    ∀ reference, result ≠ .error (.notFound reference)

/-- A worker of a put or delete does its work before those dispatched later for
the same secret. -/
def InOrder : ∀ β : Type, Act β → Oracle → World → Prop
  | _, .execute job, _, world =>
      ∀ found, world.jobs.find job = some found → found.call.operation.isMutation = true →
        ∀ later other, job < later → world.jobs.find later = some other →
          other.call.operation.isMutation = true →
          other.call.reference = found.call.reference → other.result = none
  | _, _, _, _ => True

/-! ## The record of calls and jobs -/

namespace World

/-- One call took its place before another. -/
def Before (world : World) (first second : Nat) : Prop :=
  ∃ early late, world.ticket first = some early ∧ world.ticket second = some late ∧ early < late

/-- A worker has carried the call out. -/
def Executed (world : World) (id : Nat) : Prop :=
  ∃ number job reply, world.jobs.find number = some job ∧ job.id = id ∧
    job.result = some (.ok reply)

/-- A call that resolves a secret may end like this: it sees every value that
was acknowledged before it was issued. -/
def Fine (world : World) (id : Nat) (call : Call) (result : Except SecretError Answer) : Prop :=
  call.operation = .resolve → ∀ value time, world.Acknowledged call.reference value time →
    time < id → Sees value result

/-- What always holds of the record, the jobs, the locks and the keychain. -/
structure Ledger (world : World) : Prop where
  /-- A call's number is the moment it was issued. -/
  issued : ∀ id record, world.calls.find id = some record → record.issued = id ∧ id < world.clock
  queued : ∀ id time, world.ticket id = some time → time < world.clock
  returned : ∀ id record time result, world.calls.find id = some record →
    record.returned = some (time, result) → time < world.clock
  number : ∀ number job, world.jobs.find number = some job → number < world.nextJob
  caller : ∀ number job, world.jobs.find number = some job →
    ∃ record time, world.calls.find job.id = some record ∧ record.call = job.call ∧
      record.queued = some time
  /-- The jobs of one secret are dispatched in the order the calls came. -/
  order : ∀ number job later other, world.jobs.find number = some job →
    world.jobs.find later = some other → number < later →
    job.call.reference = other.call.reference → world.Before job.id other.id
  /-- A put or delete that succeeded was carried out. -/
  carried : ∀ id record time reply, world.calls.find id = some record →
    record.returned = some (time, .ok reply) → record.call.operation.isMutation = true →
    world.Executed id
  /-- The secret has the value of the last put or delete that was carried out. -/
  written : ∀ number job value overwrite reply, world.jobs.find number = some job →
    job.call.operation = .put value overwrite → job.result = some (.ok reply) →
    (∀ later other, world.jobs.find later = some other →
      other.call.reference = job.call.reference → other.call.operation.isMutation = true →
      other.result.isSome = true → later ≤ number) →
    world.keychain.find (account job.call.reference) = some value.toUTF8
  resolved : ∀ number job result, world.jobs.find number = some job → job.result = some result →
    world.Fine job.id job.call (answer job.call.reference result)
  answered : ∀ id record time result, world.calls.find id = some record →
    record.returned = some (time, result) → world.Fine id record.call result
  lock : ∀ reference lock, world.locks.find reference = some lock → lock < world.nextLock
  unused : ∀ lock, world.nextLock ≤ lock → world.cells lock = {}
  /-- The calls wait at a lock in the order they came. -/
  sorted : ∀ lock, (world.cells lock).queue.Pairwise world.Before
  places : ∀ lock, ∀ id ∈ (world.cells lock).queue, (world.ticket id).isSome = true

end World

/-! ## Tokens -/

/-- Where a call is. -/
inductive Stage
  | started
  /-- It owns the lock's `Arc`. -/
  | owning
  | waiting
  | holding
  | joining (job : Nat)
  | joined (result : Except SecretError Answer)
  /-- Its future is gone. -/
  | left (result : Except SecretError Answer)

namespace Stage

/-- The call has not been dispatched and may still be. -/
def Pending : Stage → Prop
  | waiting | holding => True
  | started | owning | joining _ | joined _ | left _ => False

/-- The call holds the lock. -/
def Holds : Stage → Prop
  | holding | joining _ | joined _ => True
  | started | owning | waiting | left _ => False

/-- The call has taken its place. -/
def Placed : Stage → Prop
  | waiting | holding | joining _ | joined _ => True
  | started | owning | left _ => False

/-- What the call is going to return. -/
def outcome : Stage → Option (Except SecretError Answer)
  | joined result | left result => some result
  | started | owning | waiting | holding | joining _ => none

end Stage

/-- A call under way. -/
structure Live where
  id : Nat
  call : Call
  lock : Option Nat := none
  ticket : Option Nat := none
  stage : Stage := .started

/-- What a task in the middle of a call relies on. -/
structure Live.Holds (live : Live) (world : World) : Prop where
  record : world.calls.find live.id = some ⟨live.call, live.id, live.ticket, none⟩
  lock : ∀ lock, live.lock = some lock → world.locks.find live.call.reference = some lock
  place : live.stage.Placed → ∃ lock, live.lock = some lock ∧ live.ticket.isSome = true ∧
    live.id ∈ (world.cells lock).queue
  head : live.stage.Holds → ∀ lock, live.lock = some lock →
    (world.cells lock).queue.head? = some live.id
  /-- Every job of its secret was dispatched for an earlier call. -/
  first : live.stage.Pending → ∀ number job, world.jobs.find number = some job →
    job.call.reference = live.call.reference → world.Before job.id live.id
  job : ∀ number, live.stage = .joining number → ∃ job, world.jobs.find number = some job ∧
    job.id = live.id ∧ job.call = live.call
  carried : ∀ reply, live.stage.outcome = some (.ok reply) →
    live.call.operation.isMutation = true → world.Executed live.id
  fine : ∀ result, live.stage.outcome = some result → world.Fine live.id live.call result

/-- The broker's invariant, with the calls under way. -/
structure Orderly (world : World) (tokens : List (Option Live)) : Prop where
  ledger : world.Ledger
  /-- The calls under way are distinct. -/
  ids : (tokens.filterMap (Option.map Live.id)).Nodup
  /-- Each lock counts its owners. -/
  strong : ∀ lock, (world.cells lock).strong =
    tokens.countP fun token => token.bind Live.lock = some lock
  live : ∀ live, some live ∈ tokens → live.Holds world

theorem Orderly.perm {world : World} {tokens tokens' : List (Option Live)}
    (hperm : tokens.Perm tokens') (h : Orderly world tokens) : Orderly world tokens' where
  ledger := h.ledger
  ids := (hperm.filterMap _).nodup_iff.mp h.ids
  strong lock := (h.strong lock).trans (hperm.countP_eq _)
  live live hmem := h.live live (hperm.mem_iff.mpr hmem)

/-! ## Changes of a lock -/

theorem World.cells_setCell (world : World) (lock other : Nat) (cell : KeyLock) :
    (world.setCell lock cell).cells other = if other = lock then cell else world.cells other := by
  show Function.update world.cells lock cell other = _
  rw [Function.update_apply]

theorem World.Ledger.setCell {world : World} (h : world.Ledger) {lock : Nat} {cell : KeyLock}
    (hused : lock < world.nextLock) (hsorted : cell.queue.Pairwise world.Before)
    (hplaces : ∀ id ∈ cell.queue, (world.ticket id).isSome = true) :
    (world.setCell lock cell).Ledger where
  issued := h.issued
  queued := h.queued
  returned := h.returned
  number := h.number
  caller := h.caller
  order := h.order
  carried := h.carried
  written := h.written
  resolved := h.resolved
  answered := h.answered
  lock := h.lock
  unused other hother := by
    rw [World.cells_setCell, if_neg (by
      rintro rfl
      exact absurd hused (Nat.not_lt.mpr hother))]
    exact h.unused other hother
  sorted other := by
    rw [World.cells_setCell]
    split
    · exact hsorted
    · exact h.sorted other
  places other := by
    rw [World.cells_setCell]
    split
    · exact hplaces
    · exact h.places other

theorem Live.Holds.setCell {live : Live} {world : World} (h : live.Holds world) {lock : Nat}
    {cell : KeyLock}
    (hplace : live.id ∈ (world.cells lock).queue → live.id ∈ cell.queue)
    (hhead : (world.cells lock).queue.head? = some live.id → cell.queue.head? = some live.id) :
    live.Holds (world.setCell lock cell) where
  record := h.record
  lock := h.lock
  place hplaced := by
    obtain ⟨mine, hlock, hticket, hmem⟩ := h.place hplaced
    refine ⟨mine, hlock, hticket, ?_⟩
    rw [World.cells_setCell]
    split
    · next heq => exact hplace (heq ▸ hmem)
    · exact hmem
  head hholds mine hlock := by
    have hfirst := h.head hholds mine hlock
    rw [World.cells_setCell]
    split
    · next heq => exact hhead (heq ▸ hfirst)
    · exact hfirst
  first := h.first
  job := h.job
  carried := h.carried
  fine := h.fine

/-- Another call that leaves the queue does not change who is its head. -/
theorem head_filter_ne {queue : List Nat} {id other : Nat} (hne : id ≠ other)
    (h : queue.head? = some id) : (queue.filter (· ≠ other)).head? = some id := by
  cases queue with
  | nil => cases h
  | cons first rest =>
      cases h
      rw [List.filter_cons_of_pos (by simpa using hne)]
      rfl

theorem ids_cons (live : Live) (others : List (Option Live)) :
    (some live :: others).filterMap (Option.map Live.id) =
      live.id :: others.filterMap (Option.map Live.id) := rfl

theorem Orderly.live_ne {world : World} {token : Live} {others : List (Option Live)}
    (h : Orderly world (some token :: others)) {live : Live} (hmem : some live ∈ others) :
    live.id ≠ token.id := by
  have hids := h.ids
  rw [ids_cons, List.nodup_cons] at hids
  intro heq
  apply hids.1
  rw [List.mem_filterMap]
  exact ⟨some live, hmem, congrArg some heq⟩

theorem Orderly.used {world : World} {tokens : List (Option Live)} (h : Orderly world tokens)
    {live : Live} (hmem : some live ∈ tokens) {lock : Nat} (hlock : live.lock = some lock) :
    lock < world.nextLock :=
  h.ledger.lock _ lock ((h.live live hmem).lock lock hlock)

theorem countP_lock {lock : Nat} {token : Live} {others : List (Option Live)} :
    (some token :: others).countP (fun token => token.bind Live.lock = some lock) =
      others.countP (fun token => token.bind Live.lock = some lock) +
        if token.lock = some lock then 1 else 0 := by
  rw [List.countP_cons]
  simp

/-- A call goes on without a change of the world. -/
theorem Orderly.advance {world : World} {live live' : Live} {others : List (Option Live)}
    (h : Orderly world (some live :: others)) (hid : live'.id = live.id)
    (hlock : live'.lock = live.lock) (hlive : live'.Holds world) :
    Orderly world (some live' :: others) where
  ledger := h.ledger
  ids := by
    have hids := h.ids
    rw [ids_cons] at hids ⊢
    rwa [hid]
  strong lock := by
    rw [h.strong lock, countP_lock, countP_lock, hlock]
  live other hmem := by
    rcases List.mem_cons.mp hmem with heq | hmem
    · cases heq
      exact hlive
    · exact h.live other (List.mem_cons_of_mem _ hmem)

/-! ## Changes of the record -/

namespace World

/-- The record says at least as much, and nothing new about what was
acknowledged before now. -/
structure Extends (world world' : World) : Prop where
  acknowledged : ∀ reference value time, world'.Acknowledged reference value time →
    world.Acknowledged reference value time ∨ world.clock ≤ time
  before : ∀ first second, world.Before first second → world'.Before first second
  executed : ∀ id, world.Executed id → world'.Executed id

theorem Fine.mono {world world' : World} (hextends : Extends world world') {id : Nat} {call : Call}
    {result : Except SecretError Answer} (h : world.Fine id call result) (hid : id ≤ world.clock) :
    world'.Fine id call result := by
  intro hresolve value time hacknowledged hissued
  rcases hextends.acknowledged _ _ _ hacknowledged with hold | hnew
  · exact h hresolve value time hold hissued
  · omega

end World

/-- What a change of the record must leave of a call under way. -/
theorem Live.Holds.extends {live : Live} {world world' : World} (h : live.Holds world)
    (hledger : world.Ledger) (hextends : World.Extends world world')
    (hrecord : world'.calls.find live.id = world.calls.find live.id)
    (hlocks : world'.locks = world.locks) (hcells : world'.cells = world.cells)
    (hjobs : world'.jobs = world.jobs) : live.Holds world' where
  record := hrecord.trans h.record
  lock := by rw [hlocks]; exact h.lock
  place := by rw [hcells]; exact h.place
  head := by rw [hcells]; exact h.head
  first hpending number job hjob hreference := by
    rw [hjobs] at hjob
    exact hextends.before _ _ (h.first hpending number job hjob hreference)
  job := by rw [hjobs]; exact h.job
  carried reply hreply hmutation := hextends.executed _ (h.carried reply hreply hmutation)
  fine result hresult :=
    (h.fine result hresult).mono hextends (hledger.issued _ _ h.record).2.le

/-- A change of one call's record. -/
structure Revises (world : World) (id : Nat) (record : CallRecord) (world' : World) : Prop where
  calls : world'.calls = world.calls.set id record
  clock : world'.clock = world.clock + 1
  jobs : world'.jobs = world.jobs
  nextJob : world'.nextJob = world.nextJob
  keychain : world'.keychain = world.keychain
  locks : world'.locks = world.locks
  nextLock : world'.nextLock = world.nextLock
  cells : world'.cells = world.cells
  /-- What was there of the record stays. -/
  kept : ∀ old, world.calls.find id = some old → record.call = old.call ∧
    ∀ time, old.queued = some time → record.queued = some time
  issued : record.issued = id ∧ id < world'.clock
  queuedNow : ∀ time, record.queued = some time →
    world.ticket id = some time ∨ (time = world.clock ∧ record.returned = none)
  returnedNow : ∀ time result, record.returned = some (time, result) →
    time = world.clock ∧ world.Fine id record.call result ∧
      (∀ reply, result = .ok reply → record.call.operation.isMutation = true → world.Executed id)

namespace Revises

variable {world world' : World} {id : Nat} {record : CallRecord}

theorem ticket_of_ne (h : Revises world id record world') {other : Nat} (hne : other ≠ id) :
    world'.ticket other = world.ticket other := by
  unfold World.ticket
  rw [h.calls, Dict.find_set_ne hne]

theorem ticket_self (h : Revises world id record world') : world'.ticket id = record.queued := by
  unfold World.ticket
  rw [h.calls, Dict.find_set_self]
  rfl

theorem ticket_kept (h : Revises world id record world') {other time : Nat}
    (hticket : world.ticket other = some time) : world'.ticket other = some time := by
  by_cases heq : other = id
  · subst heq
    obtain ⟨old, hold, hqueued⟩ := Option.bind_eq_some_iff.mp hticket
    rw [h.ticket_self]
    exact (h.kept old hold).2 time hqueued
  · rw [h.ticket_of_ne heq, hticket]

theorem laterMutation (h : Revises world id record world') {reference : SecretReference}
    {time : Nat} (hlater : world.LaterMutation reference time) :
    world'.LaterMutation reference time := by
  obtain ⟨other, found, queued, hfound, hreference, hmutation, hqueued, htime⟩ := hlater
  by_cases heq : other = id
  · subst heq
    obtain ⟨hcall, hkept⟩ := h.kept found hfound
    refine ⟨other, record, queued, ?_, hcall ▸ hreference, hcall ▸ hmutation,
    hkept _ hqueued, htime⟩
    rw [h.calls, Dict.find_set_self]
  · refine ⟨other, found, queued, ?_, hreference, hmutation, hqueued, htime⟩
    rw [h.calls, Dict.find_set_ne heq, hfound]

theorem grows (h : Revises world id record world') : World.Extends world world' where
  acknowledged reference value time hacknowledged := by
    obtain ⟨other, found, overwrite, queued, reply, hfound, hcall, hqueued, hreturned, hlast⟩ :=
      hacknowledged
    rw [h.calls, Dict.find_set] at hfound
    split at hfound
    · cases hfound
      exact .inr (h.returnedNow _ _ hreturned).1.ge
    · exact .inl ⟨other, found, overwrite, queued, reply, hfound, hcall, hqueued, hreturned,
        fun hlater => hlast (h.laterMutation hlater)⟩
  before first second hbefore := by
    obtain ⟨early, late, hearly, hlate, hlt⟩ := hbefore
    exact ⟨early, late, h.ticket_kept hearly, h.ticket_kept hlate, hlt⟩
  executed other hexecuted := by
    unfold World.Executed
    rw [h.jobs]
    exact hexecuted

theorem ledger (h : Revises world id record world') (hledger : world.Ledger) : world'.Ledger where
  issued other found hfound := by
    rw [h.calls, Dict.find_set] at hfound
    split at hfound
    · next heq =>
        cases hfound
        exact heq ▸ h.issued
    · obtain ⟨hissued, hlt⟩ := hledger.issued other found hfound
      exact ⟨hissued, by rw [h.clock]; omega⟩
  queued other time hticket := by
    rw [h.clock]
    by_cases heq : other = id
    · subst heq
      rw [h.ticket_self] at hticket
      rcases h.queuedNow time hticket with hold | ⟨rfl, _⟩
      · have hlt := hledger.queued other time hold
        omega
      · omega
    · rw [h.ticket_of_ne heq] at hticket
      have hlt := hledger.queued other time hticket
      omega
  returned other found time result hfound hreturned := by
    rw [h.clock]
    rw [h.calls, Dict.find_set] at hfound
    split at hfound
    · cases hfound
      have htime := (h.returnedNow time result hreturned).1
      omega
    · have hlt := hledger.returned other found time result hfound hreturned
      omega
  number := by rw [h.jobs, h.nextJob]; exact hledger.number
  caller number job hjob := by
    rw [h.jobs] at hjob
    obtain ⟨found, time, hfound, hcall, hqueued⟩ := hledger.caller number job hjob
    by_cases heq : job.id = id
    · rw [heq] at hfound ⊢
      obtain ⟨hkept, hplace⟩ := h.kept found hfound
      refine ⟨record, time, ?_, hkept.trans hcall, hplace time hqueued⟩
      rw [h.calls, Dict.find_set_self]
    · refine ⟨found, time, ?_, hcall, hqueued⟩
      rw [h.calls, Dict.find_set_ne heq, hfound]
  order number job later other hjob hother hlt hreference := by
    rw [h.jobs] at hjob hother
    exact h.grows.before _ _ (hledger.order number job later other hjob hother hlt hreference)
  carried other found time reply hfound hreturned hmutation := by
    rw [h.calls, Dict.find_set] at hfound
    apply h.grows.executed
    split at hfound
    · next heq =>
        cases hfound
        exact heq ▸ (h.returnedNow _ _ hreturned).2.2 reply rfl hmutation
    · exact hledger.carried other found time reply hfound hreturned hmutation
  written := by rw [h.jobs, h.keychain]; exact hledger.written
  resolved number job result hjob hresult := by
    rw [h.jobs] at hjob
    apply (hledger.resolved number job result hjob hresult).mono h.grows
    obtain ⟨found, time, hfound, _, _⟩ := hledger.caller number job hjob
    exact (hledger.issued _ found hfound).2.le
  answered other found time result hfound hreturned := by
    rw [h.calls, Dict.find_set] at hfound
    split at hfound
    · next heq =>
        cases hfound
        apply World.Fine.mono h.grows (heq ▸ (h.returnedNow _ _ hreturned).2.1)
        have hlt := h.issued.2
        rw [h.clock] at hlt
        omega
    · exact (hledger.answered other found time result hfound hreturned).mono h.grows
        (hledger.issued other found hfound).2.le
  lock := by rw [h.locks, h.nextLock]; exact hledger.lock
  unused := by rw [h.nextLock, h.cells]; exact hledger.unused
  sorted lock := by
    rw [h.cells]
    exact (hledger.sorted lock).imp (h.grows.before _ _)
  places lock other hmem := by
    rw [h.cells] at hmem
    obtain ⟨time, hticket⟩ := Option.isSome_iff_exists.mp (hledger.places lock other hmem)
    rw [h.ticket_kept hticket]
    rfl

theorem live (h : Revises world id record world') (hledger : world.Ledger) {live : Live}
    (hlive : live.Holds world) (hne : live.id ≠ id) : live.Holds world' :=
  hlive.extends hledger h.grows (by rw [h.calls, Dict.find_set_ne hne]) h.locks h.cells h.jobs

end Revises

/-! ## Steps of a call -/

theorem Orderly.issue {world : World} {others : List (Option Live)}
    (h : Orderly world (none :: others)) (call : Call) :
    Orderly { world with
      clock := world.clock + 1,
      calls := world.calls.set world.clock { call, issued := world.clock } }
      (some { id := world.clock, call } :: others) := by
  have hfresh : world.calls.find world.clock = none := by
    cases hfind : world.calls.find world.clock with
    | none => rfl
    | some record => exact absurd (h.ledger.issued _ record hfind).2 (lt_irrefl _)
  have hrevises : Revises world world.clock { call, issued := world.clock } { world with
      clock := world.clock + 1
      calls := world.calls.set world.clock { call, issued := world.clock } } :=
    { calls := rfl, clock := rfl, jobs := rfl, nextJob := rfl, keychain := rfl, locks := rfl,
      nextLock := rfl, cells := rfl
      kept := by simp [hfresh]
      issued := ⟨rfl, Nat.lt_succ_self _⟩
      queuedNow := by simp
      returnedNow := by simp }
  have hother : ∀ live, some live ∈ others → live.id ≠ world.clock := by
    rintro live hmem heq
    have hrecord := (h.live live (List.mem_cons_of_mem _ hmem)).record
    rw [heq, hfresh] at hrecord
    cases hrecord
  refine ⟨hrevises.ledger h.ledger, ?_, ?_, ?_⟩
  · rw [ids_cons, List.nodup_cons]
    refine ⟨?_, h.ids⟩
    intro hmem
    obtain ⟨token, htoken, hmapped⟩ := List.mem_filterMap.mp hmem
    obtain ⟨live, rfl, hid⟩ := Option.map_eq_some_iff.mp hmapped
    exact hother live htoken hid
  · intro lock
    rw [countP_lock]
    exact h.strong lock
  · intro live hmem
    rcases List.mem_cons.mp hmem with heq | hmem
    · cases heq
      exact
        { record := Dict.find_set_self
          lock := by simp
          place := False.elim
          head := False.elim
          first := False.elim
          job := by simp
          carried := by simp [Stage.outcome]
          fine := by simp [Stage.outcome] }
    · exact hrevises.live h.ledger (h.live live (List.mem_cons_of_mem _ hmem)) (hother live hmem)

/-- A lock that a call owns is not dropped from the table. -/
theorem Orderly.liveLocks {world : World} {tokens : List (Option Live)} (h : Orderly world tokens)
    {live : Live} (hmem : some live ∈ tokens) {lock : Nat} (hlock : live.lock = some lock) :
    world.liveLocks.find live.call.reference = some lock := by
  apply Dict.find_retain_eq_some.mpr
  refine ⟨(h.live live hmem).lock lock hlock, ?_⟩
  rw [decide_eq_true_eq, h.strong lock, List.countP_pos_iff]
  exact ⟨some live, hmem, by simpa using hlock⟩

theorem Orderly.purge {world : World} {tokens : List (Option Live)} (h : Orderly world tokens) :
    Orderly { world with locks := world.liveLocks } tokens where
  ledger :=
    { issued := h.ledger.issued, queued := h.ledger.queued, returned := h.ledger.returned
      number := h.ledger.number, caller := h.ledger.caller, order := h.ledger.order
      carried := h.ledger.carried, written := h.ledger.written, resolved := h.ledger.resolved
      answered := h.ledger.answered
      lock := fun reference lock hfind =>
        h.ledger.lock reference lock (Dict.find_retain_eq_some.mp hfind).1
      unused := h.ledger.unused, sorted := h.ledger.sorted, places := h.ledger.places }
  ids := h.ids
  strong := h.strong
  live live hmem :=
    have hlive := h.live live hmem
    { record := hlive.record
      lock := fun _ hlock => h.liveLocks hmem hlock
      place := hlive.place, head := hlive.head, first := hlive.first, job := hlive.job
      carried := hlive.carried, fine := hlive.fine }

/-- A call becomes an owner of a lock of the table. -/
theorem Orderly.own {world : World} {live : Live} {others : List (Option Live)}
    (h : Orderly world (some live :: others)) (hnone : live.lock = none) {lock : Nat}
    (hfind : world.locks.find live.call.reference = some lock) :
    Orderly (world.setCell lock
        { world.cells lock with strong := (world.cells lock).strong + 1 })
      (some { live with lock := some lock, stage := .owning } :: others) where
  ledger := h.ledger.setCell (h.ledger.lock _ lock hfind) (h.ledger.sorted lock)
    (h.ledger.places lock)
  ids := h.ids
  strong other := by
    have hstrong := h.strong other
    rw [countP_lock, hnone, if_neg (by simp), Nat.add_zero] at hstrong
    rw [countP_lock, World.cells_setCell]
    by_cases heq : other = lock
    · rw [if_pos heq, if_pos (by rw [heq]), ← hstrong, heq]
    · rw [if_neg heq, if_neg (by simpa using Ne.symm heq), hstrong, Nat.add_zero]
  live other hmem := by
    rcases List.mem_cons.mp hmem with heq | hmem
    · cases heq
      have hlive := h.live live List.mem_cons_self
      exact
        { record := hlive.record
          lock := by
            rintro _ ⟨⟩
            exact hfind
          place := False.elim
          head := False.elim
          first := False.elim
          job := by simp
          carried := by simp [Stage.outcome]
          fine := by simp [Stage.outcome] }
    · exact (h.live other (List.mem_cons_of_mem _ hmem)).setCell id id

/-- A new lock for a secret whose lock nobody owns. -/
theorem Orderly.create {world : World} {live : Live} {others : List (Option Live)}
    (h : Orderly world (some live :: others)) (hnone : live.lock = none)
    (hfind : world.locks.find live.call.reference = none) :
    Orderly { world.setCell world.nextLock { strong := 1 } with
        locks := world.locks.set live.call.reference world.nextLock
        nextLock := world.nextLock + 1 }
      (some { live with lock := some world.nextLock, stage := .owning } :: others) := by
  have hlocks : ∀ other, some other ∈ others → ∀ lock, other.lock = some lock →
      (world.locks.set live.call.reference world.nextLock).find other.call.reference =
        some lock := by
    intro other hmem lock hlock
    have hheld := (h.live other (List.mem_cons_of_mem _ hmem)).lock lock hlock
    rw [Dict.find_set_ne, hheld]
    rintro heq
    rw [heq, hfind] at hheld
    cases hheld
  have hcells : ∀ other, ({ world.setCell world.nextLock { strong := 1 } with
        locks := world.locks.set live.call.reference world.nextLock
        nextLock := world.nextLock + 1 } : World).cells other =
      if other = world.nextLock then { strong := 1 } else world.cells other :=
    fun other => World.cells_setCell world world.nextLock other _
  have hempty : (world.cells world.nextLock).queue = [] := by
    rw [h.ledger.unused _ le_rfl]
  refine ⟨?_, h.ids, ?_, ?_⟩
  · exact
      { issued := h.ledger.issued, queued := h.ledger.queued, returned := h.ledger.returned
        number := h.ledger.number, caller := h.ledger.caller, order := h.ledger.order
        carried := h.ledger.carried, written := h.ledger.written, resolved := h.ledger.resolved
        answered := h.ledger.answered
        lock := by
          intro reference lock hlock
          show lock < world.nextLock + 1
          have hset : (world.locks.set live.call.reference world.nextLock).find reference =
            some lock := hlock
          rw [Dict.find_set] at hset
          split at hset
          · cases hset
            exact Nat.lt_succ_self _
          · exact Nat.lt_succ_of_lt (h.ledger.lock reference lock hset)
        unused := by
          intro lock hlock
          have hunused : world.nextLock + 1 ≤ lock := hlock
          rw [hcells, if_neg (by omega)]
          exact h.ledger.unused lock (by omega)
        sorted := by
          intro lock
          rw [hcells]
          split
          · exact List.Pairwise.nil
          · exact h.ledger.sorted lock
        places := by
          intro lock
          rw [hcells]
          split
          · simp
          · exact h.ledger.places lock }
  · intro lock
    have hstrong := h.strong lock
    rw [countP_lock, hnone, if_neg (by simp), Nat.add_zero] at hstrong
    rw [countP_lock, hcells]
    by_cases heq : lock = world.nextLock
    · rw [if_pos heq, if_pos (by rw [heq]), ← hstrong, heq, h.ledger.unused _ le_rfl]
    · rw [if_neg heq, if_neg (by simpa using Ne.symm heq), hstrong, Nat.add_zero]
  · intro other hmem
    rcases List.mem_cons.mp hmem with heq | hmem
    · cases heq
      have hlive := h.live live List.mem_cons_self
      exact
        { record := hlive.record
          lock := by
            rintro _ ⟨⟩
            exact Dict.find_set_self
          place := False.elim
          head := False.elim
          first := False.elim
          job := by simp
          carried := by simp [Stage.outcome]
          fine := by simp [Stage.outcome] }
    · have hlive : other.Holds (world.setCell world.nextLock { strong := 1 }) := by
        apply (h.live other (List.mem_cons_of_mem _ hmem)).setCell
        · simp [hempty]
        · simp [hempty]
      exact
        { record := hlive.record, lock := hlocks other hmem, place := hlive.place
          head := hlive.head, first := hlive.first, job := hlive.job, carried := hlive.carried
          fine := hlive.fine }

theorem Live.Holds.ticket {live : Live} {world : World} (h : live.Holds world) :
    world.ticket live.id = live.ticket := by
  unfold World.ticket
  rw [h.record]
  rfl

/-- A call takes its place at its lock. -/
theorem Orderly.enqueue {world : World} {live : Live} {others : List (Option Live)} {lock : Nat}
    (h : Orderly world (some live :: others)) (hlock : live.lock = some lock)
    (hticket : live.ticket = none) :
    Orderly ((world.setCell lock
        { world.cells lock with queue := (world.cells lock).queue ++ [live.id] }).note live.id
          fun record => { record with queued := some world.clock })
      (some { live with ticket := some world.clock, stage := .waiting } :: others) := by
  have hlive := h.live live List.mem_cons_self
  let record : CallRecord := ⟨live.call, live.id, some world.clock, none⟩
  let noted : World :=
    { world with clock := world.clock + 1, calls := world.calls.set live.id record }
  have hrevises : Revises world live.id record noted :=
    { calls := rfl, clock := rfl, jobs := rfl, nextJob := rfl, keychain := rfl, locks := rfl
      nextLock := rfl, cells := rfl
      kept := by
        intro old hold
        rw [hlive.record, Option.some.injEq] at hold
        subst hold
        exact ⟨rfl, by simp [hticket]⟩
      issued := ⟨rfl, Nat.lt_succ_of_lt (h.ledger.issued _ _ hlive.record).2⟩
      queuedNow := by
        rintro _ ⟨⟩
        exact .inr ⟨rfl, rfl⟩
      returnedNow := by simp [record] }
  have hledger := hrevises.ledger h.ledger
  have hmine : noted.ticket live.id = some world.clock := hrevises.ticket_self
  have hbefore : ∀ id time, world.ticket id = some time → noted.Before id live.id := by
    intro id time hplaced
    exact ⟨time, world.clock, hrevises.ticket_kept hplaced, hmine, h.ledger.queued id time hplaced⟩
  have heq : (world.setCell lock
      { world.cells lock with queue := (world.cells lock).queue ++ [live.id] }).note live.id
        (fun record => { record with queued := some world.clock }) =
      noted.setCell lock
        { noted.cells lock with queue := (noted.cells lock).queue ++ [live.id] } := by
    unfold World.note
    have hfind : (world.setCell lock { world.cells lock with
        queue := (world.cells lock).queue ++ [live.id] }).calls.find live.id =
      some ⟨live.call, live.id, live.ticket, none⟩ := hlive.record
    rw [hfind]
    rfl
  rw [heq]
  have hcell : ((noted.setCell lock { noted.cells lock with
      queue := (noted.cells lock).queue ++ [live.id] }).cells lock).queue =
      (noted.cells lock).queue ++ [live.id] := by
    rw [World.cells_setCell, if_pos rfl]
  refine ⟨?_, h.ids, ?_, ?_⟩
  · apply hledger.setCell (h.used List.mem_cons_self hlock)
    · rw [List.pairwise_append]
      refine ⟨hledger.sorted lock, List.pairwise_singleton _ _, ?_⟩
      intro id hmem _ hself
      obtain rfl := List.mem_singleton.mp hself
      obtain ⟨time, hplaced⟩ := Option.isSome_iff_exists.mp (h.ledger.places lock id hmem)
      exact hbefore id time hplaced
    · intro id hmem
      rcases List.mem_append.mp hmem with hmem | hmem
      · exact hledger.places lock id hmem
      · rw [List.mem_singleton.mp hmem, hmine]
        rfl
  · intro other
    rw [countP_lock, World.cells_setCell]
    have hstrong := h.strong other
    rw [countP_lock] at hstrong
    split
    · next heq => rw [← hstrong, heq]
    · exact hstrong
  · intro other hmem
    rcases List.mem_cons.mp hmem with heq | hmem
    · cases heq
      exact
        { record := Dict.find_set_self
          lock := hlive.lock
          place := fun _ => ⟨lock, hlock, rfl, by rw [hcell]; simp⟩
          head := False.elim
          first := by
            intro _ number job hjob _
            obtain ⟨found, time, hfound, _, hqueued⟩ := h.ledger.caller number job hjob
            apply hbefore job.id time
            unfold World.ticket
            rw [hfound]
            exact hqueued
          job := by simp
          carried := by simp [Stage.outcome]
          fine := by simp [Stage.outcome] }
    · apply (hrevises.live h.ledger (h.live other (List.mem_cons_of_mem _ hmem))
        (h.live_ne hmem)).setCell
      · exact List.mem_append_left _
      · intro hfirst
        rw [List.head?_append, hfirst]
        rfl

/-- The head of the queue came before the rest. -/
theorem World.Ledger.head_before {world : World} (h : world.Ledger) {lock id other : Nat}
    (hhead : (world.cells lock).queue.head? = some id)
    (hmem : other ∈ (world.cells lock).queue) (hne : other ≠ id) : world.Before id other := by
  have hsorted := h.sorted lock
  cases hqueue : (world.cells lock).queue with
  | nil =>
      rw [hqueue] at hmem
      cases hmem
  | cons first rest =>
      rw [hqueue] at hhead hmem hsorted
      cases hhead
      rcases List.mem_cons.mp hmem with rfl | hrest
      · exact absurd rfl hne
      · exact (List.pairwise_cons.mp hsorted).1 other hrest

/-- The call that holds the lock is dispatched. -/
theorem Orderly.dispatch {world : World} {live : Live} {others : List (Option Live)}
    (h : Orderly world (some live :: others)) (hstage : live.stage = .holding) :
    Orderly { world with
        jobs := world.jobs.set world.nextJob { id := live.id, call := live.call }
        nextJob := world.nextJob + 1 }
      (some { live with stage := .joining world.nextJob } :: none :: others) := by
  have hlive := h.live live List.mem_cons_self
  obtain ⟨lock, hlock, hticket, hplace⟩ := hlive.place (by rw [hstage]; trivial)
  have hhead := hlive.head (by rw [hstage]; trivial) lock hlock
  obtain ⟨ticket, hticket⟩ := Option.isSome_iff_exists.mp hticket
  have hfresh : ∀ number job, world.jobs.find number = some job → number ≠ world.nextJob :=
    fun number job hjob => (h.ledger.number number job hjob).ne
  have hcases : ∀ number job,
      (world.jobs.set world.nextJob { id := live.id, call := live.call }).find number = some job →
      number = world.nextJob ∧ job = { id := live.id, call := live.call } ∨
        world.jobs.find number = some job := by
    intro number job hjob
    rw [Dict.find_set] at hjob
    split at hjob
    · next heq =>
        cases hjob
        exact .inl ⟨heq, rfl⟩
    · exact .inr hjob
  have hexecuted : ∀ id, world.Executed id → World.Executed { world with
      jobs := world.jobs.set world.nextJob { id := live.id, call := live.call }
      nextJob := world.nextJob + 1 } id := by
    rintro id ⟨number, job, reply, hjob, hid, hresult⟩
    refine ⟨number, job, reply, ?_, hid, hresult⟩
    exact (Dict.find_set_ne (hfresh number job hjob)).trans hjob
  have hkept : ∀ other, some other ∈ others → other.Holds { world with
      jobs := world.jobs.set world.nextJob { id := live.id, call := live.call }
      nextJob := world.nextJob + 1 } := by
    intro other hmem
    have hother := h.live other (List.mem_cons_of_mem _ hmem)
    exact
      { record := hother.record, lock := hother.lock, place := hother.place, head := hother.head
        first := by
          intro hpending number job hjob hreference
          rcases hcases number job hjob with ⟨rfl, rfl⟩ | hold
          · have hplaced : other.stage.Placed := by
              cases hstage : other.stage with
              | waiting => trivial
              | holding => trivial
              | _ =>
                  rw [hstage] at hpending
                  exact hpending.elim
            obtain ⟨lock', hlock', _, hplace'⟩ := hother.place hplaced
            have hsame := hother.lock lock' hlock'
            rw [← hreference, hlive.lock lock hlock, Option.some.injEq] at hsame
            subst hsame
            exact h.ledger.head_before hhead hplace' (h.live_ne hmem)
          · exact hother.first hpending number job hold hreference
        job := by
          intro number hjoining
          obtain ⟨job, hjob, hid, hcall⟩ := hother.job number hjoining
          exact ⟨job, (Dict.find_set_ne (hfresh number job hjob)).trans hjob, hid, hcall⟩
        carried := fun reply hreply hmutation => hexecuted _ (hother.carried reply hreply hmutation)
        fine := hother.fine }
  refine ⟨?_, h.ids, ?_, ?_⟩
  · exact
      { issued := h.ledger.issued, queued := h.ledger.queued, returned := h.ledger.returned
        number := by
          intro number job hjob
          show number < world.nextJob + 1
          rcases hcases number job hjob with ⟨rfl, _⟩ | hold
          · exact Nat.lt_succ_self _
          · exact Nat.lt_succ_of_lt (h.ledger.number number job hold)
        caller := by
          intro number job hjob
          rcases hcases number job hjob with ⟨_, rfl⟩ | hold
          · exact ⟨_, ticket, hlive.record, rfl, hticket⟩
          · exact h.ledger.caller number job hold
        order := by
          intro number job later other hjob hother hlt hreference
          rcases hcases later other hother with ⟨rfl, rfl⟩ | holdOther
          · rcases hcases number job hjob with ⟨rfl, _⟩ | hold
            · exact absurd hlt (lt_irrefl _)
            · exact hlive.first (by rw [hstage]; trivial) number job hold hreference
          · rcases hcases number job hjob with ⟨rfl, _⟩ | hold
            · exact absurd (h.ledger.number later other holdOther) (Nat.not_lt.mpr hlt.le)
            · exact h.ledger.order number job later other hold holdOther hlt hreference
        carried := fun id record time reply hrecord hreturned hmutation =>
          hexecuted id (h.ledger.carried id record time reply hrecord hreturned hmutation)
        written := by
          intro number job value overwrite reply hjob hput hresult hlast
          rcases hcases number job hjob with ⟨_, rfl⟩ | hold
          · cases hresult
          · apply h.ledger.written number job value overwrite reply hold hput hresult
            intro later other hother
            exact hlast later other ((Dict.find_set_ne (hfresh later other hother)).trans hother)
        resolved := by
          intro number job result hjob hresult
          rcases hcases number job hjob with ⟨_, rfl⟩ | hold
          · cases hresult
          · exact h.ledger.resolved number job result hold hresult
        answered := h.ledger.answered, lock := h.ledger.lock, unused := h.ledger.unused
        sorted := h.ledger.sorted, places := h.ledger.places }
  · intro other
    rw [countP_lock, List.countP_cons_of_neg (by simp)]
    have hstrong := h.strong other
    rwa [countP_lock] at hstrong
  · intro other hmem
    rcases List.mem_cons.mp hmem with heq | hmem
    · cases heq
      exact
        { record := hlive.record, lock := hlive.lock
          place := fun _ => ⟨lock, hlock, by rw [hticket]; rfl, hplace⟩
          head := fun _ => hlive.head (by rw [hstage]; trivial)
          first := False.elim
          job := by
            rintro _ ⟨⟩
            exact ⟨_, Dict.find_set_self, rfl, rfl⟩
          carried := by simp [Stage.outcome]
          fine := by simp [Stage.outcome] }
    · rcases List.mem_cons.mp hmem with heq | hmem
      · cases heq
      · exact hkept other hmem

theorem Orderly.revises_finish {world : World} {live : Live} {others : List (Option Live)}
    (h : Orderly world (some live :: others)) {result : Except SecretError Answer}
    (hcarried : ∀ reply, result = .ok reply → live.call.operation.isMutation = true →
      world.Executed live.id)
    (hfine : world.Fine live.id live.call result) :
    Revises world live.id ⟨live.call, live.id, live.ticket, some (world.clock, result)⟩
      (world.note live.id fun record =>
        { record with returned := some (world.clock, result) }) := by
  have hlive := h.live live List.mem_cons_self
  unfold World.note
  rw [hlive.record]
  exact
    { calls := rfl, clock := rfl, jobs := rfl, nextJob := rfl, keychain := rfl, locks := rfl
      nextLock := rfl, cells := rfl
      kept := by
        intro old hold
        rw [hlive.record, Option.some.injEq] at hold
        subst hold
        exact ⟨rfl, fun _ => id⟩
      issued := ⟨rfl, Nat.lt_succ_of_lt (h.ledger.issued _ _ hlive.record).2⟩
      queuedNow := fun time htime => .inl (hlive.ticket.trans htime)
      returnedNow := by
        rintro _ _ ⟨⟩
        exact ⟨rfl, hfine, hcarried⟩ }

/-- A call without a lock returns. -/
theorem Orderly.refuse {world : World} {live : Live} {others : List (Option Live)}
    (h : Orderly world (some live :: others)) (hnone : live.lock = none)
    {result : Except SecretError Answer}
    (hcarried : ∀ reply, result = .ok reply → live.call.operation.isMutation = true →
      world.Executed live.id)
    (hfine : world.Fine live.id live.call result) :
    Orderly (world.note live.id fun record =>
      { record with returned := some (world.clock, result) }) (none :: others) := by
  have hrevises := h.revises_finish hcarried hfine
  refine ⟨hrevises.ledger h.ledger, ?_, ?_, ?_⟩
  · have hids := h.ids
    rw [ids_cons, List.nodup_cons] at hids
    exact hids.2
  · intro lock
    have hstrong := h.strong lock
    rw [countP_lock, hnone, if_neg (by simp), Nat.add_zero] at hstrong
    rw [hrevises.cells, List.countP_cons_of_neg (by simp), hstrong]
  · intro other hmem
    rcases List.mem_cons.mp hmem with heq | hmem
    · cases heq
    · exact hrevises.live h.ledger (h.live other (List.mem_cons_of_mem _ hmem)) (h.live_ne hmem)

/-- A call whose future is gone gives its lock up and returns. -/
theorem Orderly.finish {world : World} {live : Live} {others : List (Option Live)} {lock : Nat}
    (h : Orderly world (some live :: others)) (hlock : live.lock = some lock)
    {result : Except SecretError Answer} (hstage : live.stage = .left result) :
    Orderly ((world.dropArc lock).note live.id fun record =>
      { record with returned := some (world.clock, result) }) (none :: others) := by
  have hlive := h.live live List.mem_cons_self
  have houtcome : live.stage.outcome = some result := by rw [hstage]; rfl
  have hcarried : ∀ reply, result = .ok reply → live.call.operation.isMutation = true →
      world.Executed live.id := by
    rintro reply rfl
    exact hlive.carried reply houtcome
  have hrevises := h.revises_finish hcarried (hlive.fine result houtcome)
  have heq : (world.dropArc lock).note live.id
        (fun record => { record with returned := some (world.clock, result) }) =
      (world.note live.id fun record =>
        { record with returned := some (world.clock, result) }).setCell lock
          { world.cells lock with strong := (world.cells lock).strong - 1 } := by
    unfold World.note
    have hfind : (world.dropArc lock).calls.find live.id =
      some ⟨live.call, live.id, live.ticket, none⟩ := hlive.record
    rw [hfind, hlive.record]
    rfl
  rw [heq]
  have hledger := hrevises.ledger h.ledger
  refine ⟨?_, ?_, ?_, ?_⟩
  · apply hledger.setCell
    · rw [hrevises.nextLock]
      exact h.used List.mem_cons_self hlock
    · have hsorted := hledger.sorted lock
      rwa [hrevises.cells] at hsorted
    · have hplaces := hledger.places lock
      rwa [hrevises.cells] at hplaces
  · have hids := h.ids
    rw [ids_cons, List.nodup_cons] at hids
    exact hids.2
  · intro other
    have hstrong := h.strong other
    rw [countP_lock, hlock] at hstrong
    rw [World.cells_setCell, List.countP_cons_of_neg (by simp), hrevises.cells]
    split
    · next hsame =>
        subst hsame
        rw [if_pos rfl] at hstrong
        show (world.cells other).strong - 1 = _
        omega
    · next hother => rw [hstrong, if_neg (by simpa using Ne.symm hother), Nat.add_zero]
  · intro other hmem
    rcases List.mem_cons.mp hmem with heq | hmem
    · cases heq
    · apply (hrevises.live h.ledger (h.live other (List.mem_cons_of_mem _ hmem))
        (h.live_ne hmem)).setCell
      · rw [hrevises.cells]
        exact id
      · rw [hrevises.cells]
        exact id

/-! ## A worker's step -/

/-- An operation changes its own entry only, and a resolve not even that. -/
theorem Operation.execute_frame {operation : Operation} {entry other : String}
    {fault : Option KeychainFault} {keychain : Keychain}
    (h : other ≠ entry ∨ operation = .resolve) :
    (operation.execute entry fault keychain).2.find other = keychain.find other := by
  cases fault with
  | some fault =>
      cases operation with
      | _ => rfl
  | none =>
      cases operation with
      | resolve =>
          cases hfind : keychain.find entry with
          | _ => simp only [Operation.execute, hfind]
      | put value overwrite =>
          have hne : other ≠ entry := h.resolve_right (by simp)
          cases hfind : keychain.find entry with
          | none =>
              simp only [Operation.execute, hfind]
              exact Dict.find_set_ne hne
          | some found =>
              simp only [Operation.execute, hfind]
              split
              · exact Dict.find_set_ne hne
              · rfl
      | delete => exact Dict.find_remove_ne (h.resolve_right (by simp))

/-- A put that succeeds stores its value. -/
theorem Operation.execute_put {value : String} {overwrite : Bool} {entry : String}
    {fault : Option KeychainFault} {keychain : Keychain} {reply : Reply}
    (h : ((Operation.put value overwrite).execute entry fault keychain).1 = .ok reply) :
    ((Operation.put value overwrite).execute entry fault keychain).2.find entry =
      some value.toUTF8 := by
  cases fault with
  | some fault => cases h
  | none =>
      cases hfind : keychain.find entry with
      | none =>
          simp only [Operation.execute, hfind]
          exact Dict.find_set_self
      | some found =>
          simp only [Operation.execute, hfind] at h ⊢
          split
          · exact Dict.find_set_self
          · next hkeep =>
              rw [if_neg hkeep] at h
              cases h

/-- A resolve of an entry that holds a text sees it. -/
theorem sees_resolve {reference : SecretReference} {entry value : String}
    {fault : Option KeychainFault} {keychain : Keychain}
    (h : keychain.find entry = some value.toUTF8) :
    Sees value (answer reference (Operation.resolve.execute entry fault keychain).1) := by
  cases fault with
  | some fault =>
      cases fault with
      | _ => simp [Sees, answer, mapStoreError, KeychainFault.error, Operation.execute]
  | none =>
      have htext : String.fromUTF8? value.toUTF8 = some value := by
        simp only [String.fromUTF8?, String.toUTF8_eq_toByteArray, dif_pos value.isValidUTF8]
        rfl
      simp only [Operation.execute, h, answer, htext]
      refine ⟨?_, fun _ heq => (by cases heq)⟩
      rintro _ ⟨⟩
      rfl

/-- No put or delete of the secret was dispatched after the job of one that no
put or delete follows. -/
theorem World.Ledger.last {world : World} (h : world.Ledger) {number : Nat} {job : Job}
    (hjob : world.jobs.find number = some job) {queued : Nat}
    (hqueued : world.ticket job.id = some queued)
    (hlast : ¬ world.LaterMutation job.call.reference queued) {later : Nat} {other : Job}
    (hother : world.jobs.find later = some other)
    (hreference : other.call.reference = job.call.reference)
    (hmutation : other.call.operation.isMutation = true) : later ≤ number := by
  by_contra hlt
  obtain ⟨early, late, hearly, hlate, hbefore⟩ :=
    h.order number job later other hjob hother (Nat.lt_of_not_le hlt) hreference.symm
  obtain ⟨record, time, hrecord, hcall, htime⟩ := h.caller later other hother
  apply hlast
  refine ⟨other.id, record, time, hrecord, by rw [hcall, hreference],
    by rw [hcall]; exact hmutation,
    htime, ?_⟩
  have hticket : world.ticket other.id = some time := by
    unfold World.ticket
    rw [hrecord]
    exact htime
  rw [hqueued, Option.some.injEq] at hearly
  rw [hticket, Option.some.injEq] at hlate
  omega

/-- An acknowledged value is in the keychain. -/
theorem World.Ledger.stored {world : World} (h : world.Ledger) {reference : SecretReference}
    {value : String} {time : Nat} (hacknowledged : world.Acknowledged reference value time) :
    world.keychain.find (account reference) = some value.toUTF8 := by
  obtain ⟨id, record, overwrite, queued, reply, hrecord, hcall, hqueued, hreturned, hlast⟩ :=
    hacknowledged
  obtain ⟨number, job, done, hjob, rfl, hresult⟩ :=
    h.carried id record time reply hrecord hreturned (by rw [hcall]; rfl)
  obtain ⟨found, _, hfound, hsame, _⟩ := h.caller number job hjob
  rw [hrecord, Option.some.injEq] at hfound
  subst hfound
  rw [hcall] at hsame
  have hticket : world.ticket job.id = some queued := by
    unfold World.ticket
    rw [hrecord]
    exact hqueued
  have hput : job.call.operation = .put value overwrite := by rw [← hsame]
  have hreference : job.call.reference = reference := by rw [← hsame]
  rw [← hreference] at hlast ⊢
  apply h.written number job value overwrite done hjob hput hresult
  intro later other hother hshared hmutation _
  exact h.last hjob hticket hlast hother hshared hmutation

theorem Orderly.execute {world : World} {tokens : List (Option Live)} (h : Orderly world tokens)
    {number : Nat} {job : Job} {fault : Option KeychainFault}
    (hjob : world.jobs.find number = some job) (hnone : job.result = none)
    (horder : job.call.operation.isMutation = true → ∀ later other, number < later →
      world.jobs.find later = some other → other.call.operation.isMutation = true →
      other.call.reference = job.call.reference → other.result = none) :
    Orderly { world with
      keychain :=
        (job.call.operation.execute (account job.call.reference) fault world.keychain).2
      jobs := world.jobs.set number { job with
        result := some (job.call.operation.execute (account job.call.reference) fault
          world.keychain).1 } } tokens := by
  have hcases : ∀ other found, (world.jobs.set number { job with
      result := some (job.call.operation.execute (account job.call.reference) fault
        world.keychain).1 }).find other = some found →
      other = number ∧ found = { job with
        result := some (job.call.operation.execute (account job.call.reference) fault
          world.keychain).1 } ∨ other ≠ number ∧ world.jobs.find other = some found := by
    intro other found hfound
    rw [Dict.find_set] at hfound
    split at hfound
    · next heq =>
        cases hfound
        exact .inl ⟨heq, rfl⟩
    · next hne => exact .inr ⟨hne, hfound⟩
  -- every job has a predecessor with the same call
  have hold : ∀ other found, (world.jobs.set number { job with
      result := some (job.call.operation.execute (account job.call.reference) fault
        world.keychain).1 }).find other = some found →
      ∃ before, world.jobs.find other = some before ∧ before.id = found.id ∧
        before.call = found.call := by
    intro other found hfound
    rcases hcases other found hfound with ⟨rfl, rfl⟩ | ⟨_, hfound⟩
    · exact ⟨job, hjob, rfl, rfl⟩
    · exact ⟨found, hfound, rfl, rfl⟩
  have hexecuted : ∀ id, world.Executed id → World.Executed { world with
      keychain :=
        (job.call.operation.execute (account job.call.reference) fault world.keychain).2
      jobs := world.jobs.set number { job with
        result := some (job.call.operation.execute (account job.call.reference) fault
          world.keychain).1 } } id := by
    rintro id ⟨other, found, reply, hfound, hid, hresult⟩
    refine ⟨other, found, reply, ?_, hid, hresult⟩
    apply (Dict.find_set_ne ?_).trans hfound
    rintro rfl
    rw [hjob, Option.some.injEq] at hfound
    rw [← hfound, hnone] at hresult
    cases hresult
  refine ⟨?_, h.ids, h.strong, ?_⟩
  · exact
      { issued := h.ledger.issued, queued := h.ledger.queued, returned := h.ledger.returned
        number := by
          intro other found hfound
          obtain ⟨before, hbefore, _, _⟩ := hold other found hfound
          exact h.ledger.number other before hbefore
        caller := by
          intro other found hfound
          obtain ⟨before, hbefore, hid, hcall⟩ := hold other found hfound
          rw [← hid, ← hcall]
          exact h.ledger.caller other before hbefore
        order := by
          intro first found later other hfound hother hlt hreference
          obtain ⟨before, hbefore, hid, hcall⟩ := hold first found hfound
          obtain ⟨before', hbefore', hid', hcall'⟩ := hold later other hother
          rw [← hid, ← hid']
          exact h.ledger.order first before later before' hbefore hbefore' hlt
            (by rw [hcall, hcall', hreference])
        carried := fun id record time reply hrecord hreturned hmutation =>
          hexecuted id (h.ledger.carried id record time reply hrecord hreturned hmutation)
        written := by
          intro other found value overwrite reply hfound hput hresult hlast
          rcases hcases other found hfound with ⟨rfl, rfl⟩ | ⟨hne, hfound⟩
          · -- the put itself is carried out now
            have hdone : job.call.operation = .put value overwrite := hput
            simp only [hdone, Option.some.injEq] at hresult ⊢
            exact Operation.execute_put hresult
          · have hbefore : world.keychain.find (account found.call.reference) =
                some value.toUTF8 := by
              apply h.ledger.written other found value overwrite reply hfound hput hresult
              intro later last hlater hshared hmutation hdone
              apply hlast later last ?_ hshared hmutation hdone
              apply (Dict.find_set_ne ?_).trans hlater
              rintro rfl
              rw [hjob, Option.some.injEq] at hlater
              rw [← hlater, hnone] at hdone
              cases hdone
            refine (Operation.execute_frame ?_).trans hbefore
            by_contra hboth
            rw [not_or, not_not] at hboth
            have hshared : found.call.reference = job.call.reference := account_injective hboth.1
            have hmutation : job.call.operation.isMutation = true := by
              cases hoperation : job.call.operation with
              | resolve => exact absurd hoperation hboth.2
              | put value overwrite => rfl
              | delete => rfl
            -- the job that is carried out now would have to come before the put
            have hearlier : number ≤ other :=
              hlast number _ Dict.find_set_self hshared.symm hmutation rfl
            have hunfinished := horder hmutation other found (lt_of_le_of_ne hearlier hne.symm)
              hfound (by rw [hput]; rfl) hshared
            rw [hunfinished] at hresult
            cases hresult
        resolved := by
          intro other found result hfound hresult
          rcases hcases other found hfound with ⟨rfl, rfl⟩ | ⟨_, hfound⟩
          · cases hresult
            intro hresolve value time hacknowledged _
            have hdone : job.call.operation = .resolve := hresolve
            simp only [hdone]
            exact sees_resolve (h.ledger.stored hacknowledged)
          · exact h.ledger.resolved other found result hfound hresult
        answered := h.ledger.answered, lock := h.ledger.lock, unused := h.ledger.unused
        sorted := h.ledger.sorted, places := h.ledger.places }
  · intro live hmem
    have hlive := h.live live hmem
    exact
      { record := hlive.record, lock := hlive.lock, place := hlive.place, head := hlive.head
        first := by
          intro hpending other found hfound hreference
          obtain ⟨before, hbefore, hid, hcall⟩ := hold other found hfound
          rw [← hid]
          exact hlive.first hpending other before hbefore (by rw [hcall, hreference])
        job := by
          intro joining hjoining
          obtain ⟨found, hfound, hid, hcall⟩ := hlive.job joining hjoining
          by_cases heq : joining = number
          · subst heq
            rw [hjob, Option.some.injEq] at hfound
            subst hfound
            exact ⟨_, Dict.find_set_self, hid, hcall⟩
          · exact ⟨found, (Dict.find_set_ne heq).trans hfound, hid, hcall⟩
        carried := fun reply hreply hmutation => hexecuted _ (hlive.carried reply hreply hmutation)
        fine := hlive.fine }

/-! ## The outline -/

/-- Calls and workers start and end without a token. -/
def brokerSpec : {β : Type} → Proc β → Option Live → (β → Option Live → Prop) → Prop
  | _, .request _, token, Q => token = none ∧ Q () none
  | _, .worker _, token, Q => token = none ∧ Q () none

def brokerOutline : Outline Proc World where
  Token := Option Live
  Valid := Orderly
  perm := Orderly.perm
  spec := brokerSpec
  Idle := fun token => token = none

variable {backends : Dict SecretBackendId Bool}

/-- An action that starts no task. -/
theorem brokerOutline_step {β : Type} {action : Act β} {token : Option Live}
    {Q : β → Option Live → Prop}
    (h : ∀ (world : World) (others : List (Option Live)) (oracle : Oracle) (answer : β)
      (world' : World) (spawned : List (Proc Unit)), Orderly world (token :: others) →
      InOrder β action oracle world → action.exec oracle world = some (answer, world', spawned) →
      spawned = [] ∧ ∃ token', Orderly world' (token' :: others) ∧ Q answer token') :
    brokerOutline.Step (broker backends) InOrder action token Q := by
  intro world others oracle answer world' spawned hvalid hadmits hexec
  obtain ⟨rfl, token', hvalid', hQ⟩ :=
    h world others oracle answer world' spawned hvalid hadmits hexec
  exact ⟨token', [], .nil, hvalid', hQ⟩

/-- A call that ends without having been carried out. -/
theorem fine_error {world : World} {id : Nat} {call : Call} {error : SecretError}
    (h : ∀ reference, error ≠ .notFound reference) : world.Fine id call (.error error) := by
  intro _ value time _ _
  refine ⟨fun _ heq => (by cases heq), fun reference heq => ?_⟩
  cases heq
  exact h reference rfl

theorem Stop.error_ne (backend : SecretBackendId) (stop : Stop) (reference : SecretReference) :
    stop.error backend ≠ .notFound reference := by
  cases stop with
  | _ => simp [Stop.error]

/-- A call's future is gone: it leaves the queue, and nothing but its outcome is
left. -/
theorem Orderly.leave {world : World} {live : Live} {lock : Nat} {others : List (Option Live)}
    (h : Orderly world (some live :: others)) (hlock : live.lock = some lock)
    {result : Except SecretError Answer}
    (hcarried : ∀ reply, result = .ok reply → live.call.operation.isMutation = true →
      world.Executed live.id)
    (hfine : world.Fine live.id live.call result) :
    Orderly (world.leave lock live.id) (some { live with stage := .left result } :: others) where
  ledger := by
    apply h.ledger.setCell (h.used List.mem_cons_self hlock)
    · exact (h.ledger.sorted lock).sublist List.filter_sublist
    · exact fun id hmem => h.ledger.places lock id (List.mem_of_mem_filter hmem)
  ids := h.ids
  strong other := by
    have hsame : ((world.leave lock live.id).cells other).strong = (world.cells other).strong := by
      unfold World.leave
      rw [World.cells_setCell]
      split
      · next heq => rw [heq]
      · rfl
    rw [hsame, h.strong other, countP_lock, countP_lock]
  live other hmem := by
    rcases List.mem_cons.mp hmem with heq | hmem
    · cases heq
      have hlive := h.live live List.mem_cons_self
      exact
        { record := hlive.record, lock := hlive.lock, place := False.elim, head := False.elim
          first := False.elim, job := by simp
          carried := by
            rintro reply ⟨⟩
            exact hcarried reply rfl
          fine := by
            rintro _ ⟨⟩
            exact hfine }
    · have hne := h.live_ne hmem
      apply (h.live other (List.mem_cons_of_mem _ hmem)).setCell
      · exact fun hplace => List.mem_filter.mpr ⟨hplace, by simpa using hne⟩
      · exact head_filter_ne hne

/-- A call that gave up its wait has failed, and not for want of a secret. -/
theorem outcome_stop (call : Call) (stop : Stop) :
    ∃ error, outcome call (.error stop) = .error error ∧
      ∀ reference, error ≠ .notFound reference := by
  unfold outcome
  dsimp only
  split
  · exact ⟨_, rfl, fun reference heq => (by cases heq)⟩
  · exact ⟨_, rfl, Stop.error_ne _ stop⟩

theorem answer_eq_ok {reference : SecretReference} {result : Except StoreError Reply}
    {reply : Answer} (h : answer reference result = .ok reply) : ∃ stored, result = .ok stored := by
  cases result with
  | ok stored => exact ⟨stored, rfl⟩
  | error error => cases h

/-- The end of the wait for a worker. -/
theorem Orderly.join {world : World} {live : Live} {others : List (Option Live)} {number : Nat}
    (h : Orderly world (some live :: others)) (hstage : live.stage = .joining number)
    {joined : Except Stop (Except StoreError Reply)}
    (hjoined : ∀ reply, joined = .ok reply →
      (world.jobs.find number).bind (·.result) = some reply) :
    Orderly world (some { live with stage := .joined (outcome live.call joined) } :: others) := by
  have hlive := h.live live List.mem_cons_self
  obtain ⟨job, hjob, hid, hcall⟩ := hlive.job number hstage
  have hdone : ∀ reply, joined = .ok reply → job.result = some reply := by
    intro reply heq
    have hresult := hjoined reply heq
    rwa [hjob] at hresult
  exact h.advance rfl rfl
    { record := hlive.record, lock := hlive.lock
      place := fun _ => hlive.place (by rw [hstage]; trivial)
      head := fun _ => hlive.head (by rw [hstage]; trivial)
      first := False.elim
      job := by simp
      carried := by
        intro reply hreply hmutation
        have hok : outcome live.call joined = .ok reply := by simpa [Stage.outcome] using hreply
        cases joined with
        | ok result =>
            obtain ⟨stored, rfl⟩ := answer_eq_ok hok
            exact ⟨number, job, stored, hjob, hid, hdone _ rfl⟩
        | error stop =>
            obtain ⟨error, herror, _⟩ := outcome_stop live.call stop
            rw [herror] at hok
            cases hok
      fine := by
        rintro _ ⟨⟩
        cases joined with
        | ok result =>
            have hresolved := h.ledger.resolved number job result hjob (hdone _ rfl)
            rwa [hid, hcall] at hresolved
        | error stop =>
            obtain ⟨error, herror, hne⟩ := outcome_stop live.call stop
            rw [herror]
            exact fine_error hne }

/-- What `select` ends with: the call owns its lock, and its future is gone. -/
def Selected (id lock : Nat) (call : Call) (result : Except SecretError Answer)
    (token : Option Live) : Prop :=
  ∃ ticket, token = some ⟨id, call, some lock, ticket, .left result⟩

theorem ok_dispatched (id lock : Nat) (call : Call) (ticket : Option Nat) :
    brokerOutline.Ok (broker backends) InOrder (Selected id lock call) (dispatched id lock call)
      (some ⟨id, call, some lock, ticket, .holding⟩) := by
  apply Outline.Ok.bind
  apply Outline.Ok.act
  intro world others oracle number world' spawned hvalid _ hexec
  cases hexec
  refine ⟨some ⟨id, call, some lock, ticket, .joining world.nextJob⟩, [none],
    .cons ⟨rfl, rfl⟩ .nil, hvalid.dispatch rfl, ?_⟩
  generalize world.nextJob = number
  apply Outline.Ok.bind
  apply Outline.Ok.act
  apply brokerOutline_step
  intro world others oracle joined world' spawned hvalid _ hexec
  have hjoin : spawned = [] ∧ world' = world ∧ ∀ reply, joined = .ok reply →
      (world.jobs.find number).bind (·.result) = some reply := by
    simp only [Act.exec] at hexec
    split at hexec
    · cases hexec
      exact ⟨rfl, rfl, fun reply heq => (by cases heq)⟩
    · split at hexec
      · next reply hreply =>
          cases hexec
          refine ⟨rfl, rfl, ?_⟩
          rintro _ ⟨⟩
          exact hreply
      · cases hexec
  obtain ⟨rfl, rfl, hjoined⟩ := hjoin
  refine ⟨rfl, some ⟨id, call, some lock, ticket, .joined (outcome call joined)⟩,
    hvalid.join rfl hjoined, ?_⟩
  apply Outline.Ok.bind
  apply Outline.Ok.act
  apply brokerOutline_step
  intro world others oracle answer world' spawned hvalid _ hexec
  cases hexec
  have hlive := hvalid.live _ List.mem_cons_self
  have hleft := hvalid.leave rfl (fun reply heq => hlive.carried reply (congrArg some heq))
    (hlive.fine _ rfl)
  exact ⟨rfl, some ⟨id, call, some lock, ticket, .left (outcome call joined)⟩, hleft, ticket, rfl⟩

/-- A call that waits for its lock. -/
theorem ok_waiting (id lock : Nat) (call : Call) (ticket : Option Nat) :
    brokerOutline.Ok (broker backends) InOrder (Selected id lock call)
      (do
        match ← act (.acquire id lock) with
        | some stop => return .error (stop.error call.reference.backendId)
        | none => dispatched id lock call)
      (some ⟨id, call, some lock, ticket, .waiting⟩) := by
  apply Outline.Ok.bind
  apply Outline.Ok.act
  apply brokerOutline_step
  intro world others oracle answer world' spawned hvalid _ hexec
  have hlive := hvalid.live _ List.mem_cons_self
  simp only [Act.exec] at hexec
  split at hexec
  · next stop _ =>
      cases hexec
      have hleft := hvalid.leave rfl (fun reply heq => (by cases heq))
        (fine_error (Stop.error_ne call.reference.backendId stop))
      exact ⟨rfl, _, hleft, ticket, rfl⟩
  · split at hexec
    · next hhead =>
        cases hexec
        refine ⟨rfl, some ⟨id, call, some lock, ticket, .holding⟩, ?_,
          ok_dispatched id lock call ticket⟩
        exact hvalid.advance rfl rfl
          { record := hlive.record, lock := hlive.lock, place := hlive.place
            head := by
              rintro _ _ ⟨⟩
              exact hhead
            first := hlive.first, job := by simp
            carried := by simp [Stage.outcome]
            fine := by simp [Stage.outcome] }
    · cases hexec

theorem ok_select (id lock : Nat) (call : Call) :
    brokerOutline.Ok (broker backends) InOrder (Selected id lock call) (select id lock call)
      (some ⟨id, call, some lock, none, .owning⟩) := by
  apply Outline.Ok.bind
  apply Outline.Ok.act
  apply brokerOutline_step
  intro world others oracle answer world' spawned hvalid _ hexec
  have hlive := hvalid.live _ List.mem_cons_self
  simp only [Act.exec] at hexec
  split at hexec
  · cases hexec
    refine ⟨rfl, some ⟨id, call, some lock, none,
      .left (.error (Stop.error call.reference.backendId .cancelled))⟩, ?_, none, rfl⟩
    exact hvalid.advance rfl rfl
      { record := hlive.record, lock := hlive.lock, place := False.elim, head := False.elim
        first := False.elim, job := by simp
        carried := by
          rintro _ ⟨⟩
        fine := by
          rintro _ ⟨⟩
          exact fine_error (Stop.error_ne _ _) }
  · cases hexec
    exact ⟨rfl, some ⟨id, call, some lock, some world.clock, .waiting⟩, hvalid.enqueue rfl rfl,
      ok_waiting id lock call (some world.clock)⟩

theorem ok_run (call : Call) {Q : Unit → Option Live → Prop} (hQ : Q () none) :
    brokerOutline.Ok (broker backends) InOrder Q (run call) none := by
  apply Outline.Ok.bind
  apply Outline.Ok.act
  apply brokerOutline_step
  intro world others oracle answer world' spawned hvalid _ hexec
  cases hexec
  refine ⟨rfl, some ⟨world.clock, call, none, none, .started⟩, hvalid.issue call, ?_⟩
  generalize world.clock = id
  apply Outline.Ok.bind
  apply Outline.Ok.act
  apply brokerOutline_step
  intro world others oracle cancelled world' spawned hvalid _ hexec
  obtain ⟨rfl, rfl⟩ : world' = world ∧ spawned = [] := by
    cases hexec
    exact ⟨rfl, rfl⟩
  refine ⟨rfl, some ⟨id, call, none, none, .started⟩, hvalid, ?_⟩
  cases cancelled with
  | true =>
      apply Outline.Ok.act
      apply brokerOutline_step
      intro world others oracle answer world' spawned hvalid _ hexec
      cases hexec
      refine ⟨rfl, none, hvalid.refuse rfl ?_ ?_, hQ⟩
      · rintro _ ⟨⟩
      · exact fine_error fun _ heq => (by cases heq)
  | false =>
      apply Outline.Ok.bind
      apply Outline.Ok.act
      apply brokerOutline_step
      intro world others oracle lock world' spawned hvalid _ hexec
      have hpurged := hvalid.purge
      have hnext : spawned = [] ∧
          Orderly world' (some ⟨id, call, some lock, none, .owning⟩ :: others) := by
        simp only [Act.exec] at hexec
        split at hexec
        · next hfind =>
            cases hexec
            exact ⟨rfl, hpurged.own rfl hfind⟩
        · next hfind =>
            cases hexec
            exact ⟨rfl, hpurged.create rfl hfind⟩
      refine ⟨hnext.1, _, hnext.2, ?_⟩
      apply Outline.Ok.bind
      apply (ok_select id lock call).mono
      rintro result _ ⟨ticket, rfl⟩
      apply Outline.Ok.act
      apply brokerOutline_step
      intro world others oracle answer world' spawned hvalid _ hexec
      cases hexec
      exact ⟨rfl, none, hvalid.finish rfl rfl, hQ⟩

theorem brokerOutline_sound : brokerOutline.Sound (broker backends) InOrder := by
  intro β proc token Q hspec
  cases proc with
  | request asked =>
      obtain ⟨rfl, hQ⟩ := hspec
      show brokerOutline.Ok (broker backends) InOrder Q (Proc.body backends (.request asked)) none
      rw [Proc.body]
      split
      · exact ok_run _ hQ
      · exact hQ
  | worker number =>
      obtain ⟨rfl, hQ⟩ := hspec
      apply Outline.Ok.act
      apply brokerOutline_step
      intro world others oracle answer world' spawned hvalid horder hexec
      simp only [Act.exec] at hexec
      split at hexec
      · cases hexec
      · next job hjob =>
          split at hexec
          · cases hexec
          · next hunfinished =>
              cases hexec
              exact ⟨rfl, none, hvalid.execute hjob (by simpa using hunfinished)
                (horder job hjob), hQ⟩

theorem Orderly.opened {world : World} {tokens : List (Option Live)} (h : Orderly world tokens) :
    Orderly world (none :: tokens) where
  ledger := h.ledger
  ids := h.ids
  strong lock := by
    rw [List.countP_cons_of_neg (by simp)]
    exact h.strong lock
  live live hmem := by
    rcases List.mem_cons.mp hmem with heq | hmem
    · cases heq
    · exact h.live live hmem

theorem brokerOutline_open : brokerOutline.Open Proc.isOutside := by
  intro proc world tokens houtside hvalid
  refine ⟨none, ?_, Orderly.opened hvalid⟩
  unfold Proc.isOutside at houtside
  split at houtside
  · exact ⟨rfl, rfl⟩
  · cases houtside

theorem brokerOutline_starting (keychain : Keychain) :
    brokerOutline.Holds (broker backends) InOrder (newBroker keychain) := by
  refine ⟨[], .nil, ?_, List.nodup_nil, fun _ => rfl, fun _ hmem => (by cases hmem)⟩
  exact
    { issued := by simp [newBroker], queued := by simp [newBroker, World.ticket]
      returned := by simp [newBroker], number := by simp [newBroker]
      caller := by simp [newBroker], order := by simp [newBroker], carried := by simp [newBroker]
      written := by simp [newBroker], resolved := by simp [newBroker]
      answered := by simp [newBroker], lock := by simp [newBroker], unused := fun _ _ => rfl
      sorted := fun _ => List.Pairwise.nil, places := by simp [newBroker] }

/-- Whatever the interleaving, the timeouts, the cancellations and the faults of
the keychain, if the workers come in order: once a put has returned `Ok`, and no
put or delete of the secret was issued after it, every resolve issued from then
on that returns a secret returns the put's value, and none is told that there is
no secret. -/
theorem lastWrite_of_inOrder {keychain : Keychain} {config : Config Act Proc World}
    (h : Machine.Reach (broker backends) InOrder Proc.isOutside (newBroker keychain) config)
    {reference : SecretReference} {value : String} {time : Nat}
    (hacknowledged : config.world.Acknowledged reference value time) {id ended : Nat}
    {record : CallRecord} {result : Except SecretError Answer}
    (hrecord : config.world.calls.find id = some record)
    (hcall : record.call = ⟨reference, .resolve⟩) (hissued : time < record.issued)
    (hreturned : record.returned = some (ended, result)) : Sees value result := by
  obtain ⟨tokens, _, hvalid⟩ :=
    Outline.sound brokerOutline_sound brokerOutline_open (brokerOutline_starting keychain) h
  have hfine := hvalid.ledger.answered id record ended result hrecord hreturned
  rw [(hvalid.ledger.issued id record hrecord).1] at hissued
  rw [hcall] at hfine
  exact hfine rfl value time hacknowledged hissued

/-! ## Replayed runs -/

/-- `InOrder`, decided. -/
def inOrderGuard : (β : Type) → Act β → Oracle → World → Bool
  | _, .execute job, _, world =>
      match world.jobs.find job with
      | none => true
      | some found =>
          !found.call.operation.isMutation ||
            world.jobs.toList.all fun entry =>
              decide (job < entry.1 → entry.2.call.operation.isMutation = true →
                entry.2.call.reference = found.call.reference → entry.2.result.isNone = true)
  | _, _, _, _ => true

theorem inOrderGuard_sound (β : Type) (act : Act β) (oracle : Oracle) (world : World)
    (h : inOrderGuard β act oracle world = true) : InOrder β act oracle world := by
  cases act with
  | execute job =>
      intro found hfound hmutation later other hlt hother hmutates hreference
      simp only [inOrderGuard, hfound, hmutation, Bool.not_true, Bool.false_or,
        List.all_eq_true, decide_eq_true_eq] at h
      exact Option.isNone_iff_eq_none.mp
        (h (later, other) (Dict.mem_toList.mpr hother) hlt hmutates hreference)
  | _ => trivial

/-- `Acknowledged`, from a record and a look at the others. -/
theorem acknowledged_of_check {world : World} {reference : SecretReference} {value : String}
    {overwrite : Bool} {id issued queued time : Nat} {reply : Answer}
    (hrecord : world.calls.find id =
      some ⟨⟨reference, .put value overwrite⟩, issued, some queued, some (time, .ok reply)⟩)
    (hlast : (world.calls.toList.all fun entry =>
      !(entry.2.call.operation.isMutation && entry.2.queued.any (queued < ·))) = true) :
    world.Acknowledged reference value time := by
  refine ⟨id, _, overwrite, queued, reply, hrecord, rfl, rfl, rfl, ?_⟩
  rintro ⟨other, record, later, hother, _, hmutation, hqueued, hlt⟩
  have hentry := List.all_eq_true.mp hlast (other, record) (Dict.mem_toList.mpr hother)
  simp [hmutation, hqueued, hlt] at hentry

def sampleReference : SecretReference :=
  ⟨⟨"keychain", by decide +kernel⟩, ⟨"fireworks-key", by decide +kernel⟩⟩

def sampleSlot : CredentialSlot := ⟨"sample.api_key", by decide +kernel⟩

def sampleConnection : Connection :=
  ⟨⟨⟨BitVec.ofNat 128 (7 * 2 ^ 76 + 2 * 2 ^ 62 + 21), by decide⟩⟩,
    "Fireworks", "codex", "fireworks",
    ⟨"fireworks", by decide +kernel⟩, [⟨sampleSlot, .secret sampleReference⟩]⟩

def sampleBackends : Dict SecretBackendId Bool :=
  (∅ : Dict SecretBackendId Bool).set sampleReference.backendId true

/-- What a schedule reaches from an empty keychain. -/
theorem broker_reaches {admits : ∀ β : Type, Act β → Oracle → World → Prop}
    (guard : ∀ β : Type, Act β → Oracle → World → Bool)
    (hguard : ∀ (β : Type) (act : Act β) (oracle : Oracle) (world : World),
      guard β act oracle world = true → admits β act oracle world)
    (schedule : List (Machine.Move Proc Oracle)) (check : Config Act Proc World → Bool)
    (h : ((broker sampleBackends).replay guard Proc.isOutside (newBroker ∅) schedule).any check =
      true) :
    ∃ config, Machine.Reach (broker sampleBackends) admits Proc.isOutside (newBroker ∅) config ∧
      check config = true :=
  Machine.Reach.exists_of_replay guard hguard schedule check h

namespace Schedule

def run (task : Nat) : Machine.Move Proc Oracle := .step task .proceed

def request (operation : Operation) : Machine.Move Proc Oracle :=
  .spawn (.request ⟨[sampleConnection], ⟨sampleSlot, .secret sampleReference⟩,
    sampleConnection.id, sampleSlot, operation⟩)

/-- A call up to the dispatch of its worker, which is the task after it. -/
def dispatched (task : Nat) (operation : Operation) : List (Machine.Move Proc Oracle) :=
  request operation :: List.replicate 7 (run task)

/-- The worker does its work, and the call returns what it got. -/
def returned (task : Nat) : List (Machine.Move Proc Oracle) :=
  List.replicate 2 (run (task + 1)) ++ List.replicate 3 (run task)

/-- The first put times out while its worker has not started. -/
def uncertain : List (Machine.Move Proc Oracle) :=
  dispatched 0 (.put "first" true) ++ [.step 0 (.stop .timedOut), run 0, run 0]

/-- The first put's worker comes before the second put's. -/
def inOrder : List (Machine.Move Proc Oracle) :=
  uncertain ++ List.replicate 2 (run 1) ++ dispatched 2 (.put "second" true) ++ returned 2 ++
    dispatched 4 .resolve ++ returned 4

/-- The first put's worker comes after the second put has returned. -/
def overtaken : List (Machine.Move Proc Oracle) :=
  uncertain ++ dispatched 2 (.put "second" true) ++ returned 2 ++ List.replicate 2 (run 1) ++
    dispatched 4 .resolve ++ returned 4

end Schedule

/-- The second put was acknowledged at moment 5 and not followed by another, and
the resolve issued at moment 6 ended so. -/
def lastCalls (found : Except SecretError Answer) (config : Config Act Proc World) : Bool :=
  decide (config.world.calls.find 3 = some ⟨⟨sampleReference, .put "second" true⟩, 3, some 4,
      some (5, .ok (if found = .ok (.secret "first") then .written else .replaced))⟩ ∧
    (config.world.calls.toList.all fun entry =>
      !(entry.2.call.operation.isMutation && entry.2.queued.any (4 < ·))) = true ∧
    config.world.calls.find 6 =
      some ⟨⟨sampleReference, .resolve⟩, 6, some 7, some (8, found)⟩)

set_option maxRecDepth 100000 in
theorem inOrder_lastWrite :
    ∃ config, Machine.Reach (broker sampleBackends) InOrder Proc.isOutside (newBroker ∅) config ∧
      config.world.Acknowledged sampleReference "second" 5 ∧
      ∃ record ended result, config.world.calls.find 6 = some record ∧
        record.returned = some (ended, result) ∧ Sees "second" result := by
  obtain ⟨config, hreach, hcheck⟩ := broker_reaches inOrderGuard
    inOrderGuard_sound Schedule.inOrder (lastCalls (.ok (.secret "second"))) (by decide +kernel)
  obtain ⟨hput, hlast, hresolve⟩ := of_decide_eq_true hcheck
  have hacknowledged := acknowledged_of_check hput hlast
  exact ⟨config, hreach, hacknowledged, _, _, _, hresolve, rfl,
    lastWrite_of_inOrder hreach hacknowledged hresolve rfl (by decide) rfl⟩

set_option maxRecDepth 100000 in
/-- A put that timed out lands after a later put was acknowledged: a resolve
issued after that returns the older value. -/
theorem overtaken_not_lastWrite :
    ∃ config, Machine.Reach (broker sampleBackends) (fun _ _ _ _ => True) Proc.isOutside
        (newBroker ∅) config ∧
      config.world.Acknowledged sampleReference "second" 5 ∧
      ∃ record ended result, config.world.calls.find 6 = some record ∧
        record.call = ⟨sampleReference, .resolve⟩ ∧ 5 < record.issued ∧
        record.returned = some (ended, result) ∧ ¬ Sees "second" result := by
  obtain ⟨config, hreach, hcheck⟩ := broker_reaches (fun _ _ _ _ => true)
    (fun _ _ _ _ _ => trivial) Schedule.overtaken (lastCalls (.ok (.secret "first")))
    (by decide +kernel)
  obtain ⟨hput, hlast, hresolve⟩ := of_decide_eq_true hcheck
  refine ⟨config, hreach, acknowledged_of_check hput hlast, _, _, _,
    hresolve, rfl, by decide, rfl, ?_⟩
  intro hsees
  exact absurd (hsees.1 "first" rfl) (by decide)

end YakShed.Secrets
