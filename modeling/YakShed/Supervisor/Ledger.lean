/-
# The store under a supervisor

What a supervisor finds in its store at any moment: sound and linked tables,
and audit rows whose identifiers were all issued before, so that the next
identifier it draws is a new one.
-/

import YakShed.Store.Acceptance
import YakShed.Supervisor.Effects

namespace YakShed

open Concurrent

/-- The store does not fail. -/
def Oracle.Served : Oracle → Prop
  | .store failure _ _ _ => failure = none
  | _ => True

instance : (oracle : Oracle) → Decidable oracle.Served
  | .store failure _ _ _ => inferInstanceAs (Decidable (failure = none))
  | .silent | .started _ | .found _ | .acknowledged _ | .event _ | .reconnected _ | .fresh _
  | .runOrder _ | .commandOrder _ => .isTrue trivial

structure World.Ledger (world : World) : Prop where
  sound : world.db.Sound
  linked : world.db.Linked
  audited : ∀ row ∈ world.db.auditEvents, row.id.uuid ∈ world.issued

variable [Sha256]

/-- What earlier calls of the store leave to a supervisor. -/
structure Founded (db : Database) (issued : List Uuid) : Prop where
  calls : ∃ calls, db = Database.empty.afterAll calls
  audited : ∀ row ∈ db.auditEvents, row.id.uuid ∈ issued

theorem Founded.ledger {db : Database} {issued : List Uuid} (h : Founded db issued) :
    World.Ledger (newSupervisor db issued).world := by
  obtain ⟨⟨calls, rfl⟩, haudited⟩ := h
  obtain ⟨hsound, hlinked⟩ := Database.afterAll_induction
    (P := fun db => db.Sound ∧ db.Linked)
    (fun hdb hchange => ⟨hdb.1.step hchange, hdb.2.step hdb.1 hchange⟩)
    ⟨.empty, .empty⟩ calls
  exact ⟨hsound, hlinked, haudited⟩

variable {β : Type} {world world' : World} {oracle : Oracle} {answer : β}
  {spawned : List (Proc Unit)}

omit [Sha256] in
/-- The identifier a call draws is that of the audit row it owes. -/
theorem StoreCall.auditEntry_eq {call : StoreCall β} {fresh : Uuid} {occurredAt : UtcTimestamp}
    {entry : AuditEventId × String × String}
    (h : (call.op fresh occurredAt).auditEntry = some entry) : entry.1 = ⟨fresh⟩ := by
  cases call <;> cases h <;> rfl

theorem StoreCall.audited {call : StoreCall β} {result : Except StoreError β}
    (h : call.exec oracle world = some (result, world')) :
    world.issued ⊆ world'.issued ∧ ∀ row ∈ world'.db.auditEvents,
      (∃ old ∈ world.db.auditEvents, old.id = row.id) ∨ row.id.uuid ∈ world'.issued := by
  obtain ⟨_, fresh, occurredAt, now, _, _, ⟨_, _, _, rfl⟩ | ⟨_, db, hop, rfl⟩⟩ :=
    StoreCall.exec_cases h
  · exact ⟨List.subset_cons_self _ _, fun row hrow => .inl ⟨row, hrow, rfl⟩⟩
  · refine ⟨List.subset_cons_self _ _, fun row hrow => ?_⟩
    cases result with
    | error error =>
        rw [AppStore.exec_error hop] at hrow
        exact .inl ⟨row, hrow, rfl⟩
    | ok value =>
        have hmem : row.entry ∈ db.auditEvents.map AuditRow.entry := List.mem_map_of_mem hrow
        rw [(AppStore.frame_of_ok hop).audit, List.mem_append] at hmem
        rcases hmem with hold | hnew
        · obtain ⟨old, hmem, hentry⟩ := List.mem_map.mp hold
          exact .inl ⟨old, hmem, congrArg (fun entry => entry.1) hentry⟩
        · have hid : row.entry.1 = ⟨fresh⟩ :=
            StoreCall.auditEntry_eq (Option.mem_toList.mp hnew)
          have huuid : row.id.uuid = fresh := congrArg AuditEventId.uuid hid
          rw [huuid]
          exact .inr List.mem_cons_self

theorem Act.issued_subset {act : Act β}
    (h : act.effect world oracle = some (answer, world', spawned)) :
    world.issued ⊆ world'.issued := by
  cases act with
  | store site call =>
      obtain ⟨⟨result, after⟩, hexec, heq⟩ := Option.map_eq_some_iff.mp h
      cases heq
      exact (StoreCall.audited hexec).1
  | harness call =>
      obtain ⟨⟨result, after⟩, hexec, heq⟩ := Option.map_eq_some_iff.mp h
      cases heq
      obtain ⟨log, rfl⟩ := HarnessCall.noted hexec
      exact fun _ => id
  | awaitStartup | lockStart | spawnConsumer | iterateCommands | ensureEventPump | receive
  | clearForPumpFailure =>
      simp only [Act.effect] at h
      repeat' split at h
      all_goals cases h
      all_goals exact fun _ => id
  | nextTimelineItemId =>
      simp only [Act.effect] at h
      repeat' split at h
      all_goals cases h
      exact List.subset_cons_self _ _
  | trySend channel event =>
      cases h
      change world.issued ⊆ (world.trySend channel event).2.issued
      rw [World.trySend_issued]
      exact fun _ => id
  | cloneRoute provider | lockRoute provider =>
      cases h
      exact (World.cloneRoute_issued world provider).symm ▸ fun _ => id
  | routeEvent provider event =>
      simp only [Act.effect] at h
      repeat' split at h
      all_goals cases h
      · exact fun _ => id
      · rw [World.trySend_issued]
        exact fun _ => id
  | _ =>
      cases h
      exact fun _ => id

theorem World.Ledger.effect {act : Act β} (hworld : world.Ledger)
    (h : act.effect world oracle = some (answer, world', spawned)) : world'.Ledger := by
  obtain ⟨now, hchange⟩ := Act.change h
  refine ⟨hworld.sound.step hchange, hworld.linked.step hworld.sound hchange, ?_⟩
  cases hstore : act.isStore with
  | false =>
      rw [Act.db_eq hstore h]
      exact fun row hrow => Act.issued_subset h (hworld.audited row hrow)
  | true =>
      cases act with
      | store site call =>
          obtain ⟨⟨result, after⟩, hexec, heq⟩ := Option.map_eq_some_iff.mp h
          cases heq
          obtain ⟨hissued, haudit⟩ := StoreCall.audited hexec
          refine fun row hrow => (haudit row hrow).elim ?_ id
          rintro ⟨old, hold, hid⟩
          exact hissued (hid ▸ hworld.audited old hold)
      | _ => cases hstore

/-! ## Calls that succeed -/

theorem StoreCall.answer_ok {call : StoreCall β} {result : Except StoreError β}
    (hserved : oracle.Served)
    (haccepts : ∀ fresh occurredAt now, oracle = .store none fresh occurredAt now →
      ∃ value db, (call.op fresh occurredAt).exec now world.db = (.ok value, db))
    (h : call.exec oracle world = some (result, world')) : ∃ value, result = .ok value := by
  obtain ⟨failure, fresh, occurredAt, now, rfl, _, ⟨_, rfl, _, _⟩ | ⟨rfl, db, hop, _⟩⟩ :=
    StoreCall.exec_cases h
  · cases hserved
  · obtain ⟨value, db', hok⟩ := haccepts fresh occurredAt now rfl
    rw [hop] at hok
    exact ⟨value, congrArg Prod.fst hok⟩

theorem StoreCall.getRun_ok {run : RunId} {result : Except StoreError RunSnapshot}
    (hserved : oracle.Served) (hrun : (world.db.findRun run).isSome)
    (h : (StoreCall.getRun run).exec oracle world = some (result, world')) :
    ∃ value, result = .ok value := by
  obtain ⟨row, hrow⟩ := Option.isSome_iff_exists.mp hrun
  refine StoreCall.answer_ok hserved (fun _ _ _ _ => ?_) h
  exact ⟨_, _, AppStore.exec_accepts (getRun_eq_ok.mpr ⟨⟨row, hrow, rfl⟩, rfl⟩)⟩

theorem StoreCall.getStreamCursor_ok {query : GetStreamCursor}
    {result : Except StoreError (Option StreamCursorState)} (hserved : oracle.Served)
    (hnamespace : trimIsEmpty query.sourceNamespace = false)
    (hstream : trimIsEmpty query.streamId = false)
    (h : (StoreCall.getStreamCursor query).exec oracle world = some (result, world')) :
    ∃ value, result = .ok value := by
  refine StoreCall.answer_ok hserved (fun _ _ _ _ => ?_) h
  exact ⟨_, _, AppStore.exec_accepts (getStreamCursor_accepts hnamespace hstream)⟩

/-! ## Transitions -/

omit [Sha256] in
/-- A run keeps its own provider run. -/
theorem World.Ledger.provider_free (hworld : world.Ledger) {run : RunId} {row : RunRow}
    (hrow : world.db.findRun run = some row) :
    world.db.providerTaken run row.connectionId row.provider = false := by
  have hid : row.id = run := Keyed.key_of_lookup hrow
  exact hid ▸ hworld.linked.providers row (Keyed.mem_of_lookup hrow)

/-- A store that does not fail applies a legal transition from the status the
run has. -/
theorem World.Ledger.transition (hworld : world.Ledger) {run : RunId} {row : RunRow}
    {expected target : RunStatus} {provider : Option ProviderRunIdentity}
    {answer : Except StoreError RunSnapshot} (hserved : oracle.Served)
    (hrow : world.db.findRun run = some row) (hstatus : row.status = expected)
    (hlegal : expected.canTransitionTo target = true)
    (hfree : world.db.providerTaken run row.connectionId (provider.or row.provider) = false)
    (h : (StoreCall.transitionRun run expected target provider).exec oracle world =
      some (answer, world')) :
    ∃ command : TransitionRun, command.runId = run ∧ command.target = target ∧
      command.providerId = provider ∧ answer = .ok (row.transition command).snapshot ∧
      world'.db = world.db.afterTransition command row.workItemId := by
  obtain ⟨failure, fresh, occurredAt, now, rfl, hfresh, ⟨_, rfl, _, _⟩ | ⟨_, db, hop, rfl⟩⟩ :=
    StoreCall.exec_cases h
  · cases hserved
  · have haudit : ∀ audit ∈ world.db.auditEvents, audit.id ≠ ⟨fresh⟩ := by
      intro audit haudit heq
      have hissued := hworld.audited audit haudit
      rw [heq] at hissued
      exact hfresh hissued
    have haccepts : ((StoreCall.transitionRun run expected target provider).op fresh
        occurredAt).exec now world.db = _ :=
      AppStore.exec_accepts (transitionRun_accepts hlegal hrow hstatus hfree haudit
        (hworld.linked.workItems row (Keyed.mem_of_lookup hrow)))
    rw [hop] at haccepts
    exact ⟨_, rfl, rfl, rfl, congrArg Prod.fst haccepts, congrArg Prod.snd haccepts⟩

end YakShed
