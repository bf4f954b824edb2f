/-
# What a run and an approval go through

One call moves a stored run by at most one legal edge and a stored approval by
at most one of its three moves; nothing is ever deleted. From these two step
relations and one invariant of the tables (`Sound`) follows everything the store
promises about a run's end, about the approvals of an ended run, and about the
audit trail.
-/

import YakShed.Store.Operations

namespace YakShed

/-! ## Rows -/

/-- What one call may make of a stored run. -/
inductive RunRow.Step (row : RunRow) : RunRow → Prop
  | same : Step row row
  | moved (command : TransitionRun)
      (legal : row.status.canTransitionTo command.target = true) :
      Step row (row.transition command)

/-- What one call may make of a stored approval. -/
inductive ApprovalRow.Step (row : ApprovalRow) : ApprovalRow → Prop
  | same : Step row row
  | voided (ms : Int) (pending : row.status = .pending) : Step row (row.void ms)
  | begun (decision : ApprovalDecision) (ms : Int) (pending : row.status = .pending) :
      Step row (row.begin decision ms)
  | confirmed (ms : Int) (responding : row.status = .responding) : Step row (row.confirm ms)

/-- The decision and the three times that belong to each status. -/
def ApprovalRow.Consistent (row : ApprovalRow) : Prop :=
  match row.status with
  | .pending =>
      row.decision = none ∧ row.responseStartedAtMs = none ∧ row.resolvedAtMs = none ∧
        row.voidedAtMs = none
  | .responding =>
      row.decision.isSome ∧ row.responseStartedAtMs.isSome ∧ row.resolvedAtMs = none ∧
        row.voidedAtMs = none
  | .resolved =>
      row.decision.isSome ∧ row.responseStartedAtMs.isSome ∧ row.resolvedAtMs.isSome ∧
        row.voidedAtMs = none
  | .voided =>
      row.decision = none ∧ row.responseStartedAtMs = none ∧ row.resolvedAtMs = none ∧
        row.voidedAtMs.isSome

/-- The legal moves of an approval's status. -/
def ApprovalColumn.Move : ApprovalColumn → ApprovalColumn → Prop
  | .pending, .responding | .responding, .resolved | .pending, .voided => True
  | _, _ => False

namespace RunRow.Step

variable {row row' : RunRow}

theorem identity (h : row.Step row') :
    row'.id = row.id ∧ row'.connectionId = row.connectionId ∧ row'.workItemId = row.workItemId := by
  cases h <;> exact ⟨rfl, rfl, rfl⟩

theorem legal (h : row.Step row') :
    row'.status = row.status ∨ row.status.canTransitionTo row'.status = true := by
  cases h with
  | same => exact .inl rfl
  | moved command hlegal => exact .inr hlegal

/-- No edge leaves a terminal status. -/
theorem eq_of_isTerminal (h : row.Step row') (hterm : row.status.isTerminal = true) :
    row' = row := by
  cases h with
  | same => rfl
  | moved command hlegal =>
      rw [RunStatus.not_canTransitionTo_of_isTerminal hterm] at hlegal
      cases hlegal

end RunRow.Step

namespace ApprovalRow.Step

variable {row row' : ApprovalRow}

theorem identity (h : row.Step row') : row'.id = row.id ∧ row'.runId = row.runId := by
  cases h <;> exact ⟨rfl, rfl⟩

theorem move (h : row.Step row') : row'.status = row.status ∨ row.status.Move row'.status := by
  cases h with
  | same => exact .inl rfl
  | voided ms hpending => exact .inr (by rw [hpending]; trivial)
  | begun decision ms hpending => exact .inr (by rw [hpending]; trivial)
  | confirmed ms hresponding => exact .inr (by rw [hresponding]; trivial)

theorem consistent (h : row.Step row') (hrow : row.Consistent) : row'.Consistent := by
  cases h with
  | same => exact hrow
  | voided ms hpending | begun decision ms hpending =>
      simp only [Consistent, hpending] at hrow
      simp [Consistent, void, begin, hrow]
  | confirmed ms hresponding =>
      simp only [Consistent, hresponding] at hrow
      simp [Consistent, confirm, hrow]

/-- Only a pending row takes a decision, and it has none yet. -/
theorem decision (h : row.Step row') (hrow : row.Consistent) {decision : ApprovalDecision}
    (hdecision : row.decision = some decision) : row'.decision = some decision := by
  cases h with
  | same => exact hdecision
  | voided ms hpending => exact hdecision
  | begun other ms hpending =>
      simp only [Consistent, hpending] at hrow
      rw [hrow.1] at hdecision
      cases hdecision
  | confirmed ms hresponding => exact hdecision

/-- A row that is pending afterwards was pending before. -/
theorem pending_of (h : row.Step row') (hpending : row'.status = .pending) : row' = row := by
  cases h with
  | same => rfl
  | voided ms _ | begun decision ms _ | confirmed ms _ => cases hpending

end ApprovalRow.Step

theorem ApprovalRow.step_void (row : ApprovalRow) (run : RunId) (ms : Int) :
    row.Step (if row.isPendingFor run then row.void ms else row) := by
  split
  · next hpending =>
      exact .voided ms (by simpa [isPendingFor] using (Bool.and_eq_true_iff.mp hpending).2)
  · exact .same

/-- What every table of a reachable database satisfies. -/
structure Database.Sound (db : Database) : Prop where
  runIds : (db.runs.map (·.id)).Nodup
  approvalIds : (db.approvalRequests.map (·.id)).Nodup
  auditIds : (db.auditEvents.map (·.id)).Nodup
  ended : ∀ row ∈ db.runs, row.endedAtMs.isSome = row.status.isTerminal
  consistent : ∀ row ∈ db.approvalRequests, row.Consistent
  /-- An approval has its run, and is not pending once that run has ended. -/
  approvalRun : ∀ row ∈ db.approvalRequests, ∃ run, db.findRun row.runId = some run ∧
    (row.status = .pending → run.status.isTerminal = false)

theorem Database.Sound.empty : Database.empty.Sound where
  runIds := List.nodup_nil
  approvalIds := List.nodup_nil
  auditIds := List.nodup_nil
  ended := by simp [Database.empty]
  consistent := by simp [Database.empty]
  approvalRun := by simp [Database.empty]

/-! ## Tables -/

theorem Database.findRun_afterTransition_self {db : Database} {command : TransitionRun}
    {row : RunRow} {workItemId : WorkItemId} (hrow : db.findRun command.runId = some row) :
    (db.afterTransition command workItemId).findRun command.runId =
      some (row.transition command) := by
  change Keyed.lookup (·.id)
    (Keyed.update (·.id) command.runId (·.transition command) db.runs) _ = _
  rw [Keyed.lookup_update_self]
  · exact congrArg (Option.map _) hrow
  · exact fun _ => rfl

theorem Database.findRun_afterTransition_ne {db : Database} {command : TransitionRun}
    {workItemId : WorkItemId} {id : RunId} (hne : id ≠ command.runId) :
    (db.afterTransition command workItemId).findRun id = db.findRun id := by
  change Keyed.lookup (·.id)
    (Keyed.update (·.id) command.runId (·.transition command) db.runs) _ = _
  rw [Keyed.lookup_update_ne _ hne]
  · rfl
  · exact fun _ => rfl

variable [Sha256] {now : UtcTimestamp} {db db' : Database}

/-- The run table only grows by a starting run or moves one row along an edge. -/
theorem Change.runs_cases (h : Change now db db') :
    db'.runs = db.runs ∨
      (∃ row, db.findRun row.id = none ∧ row.status = .starting ∧ row.endedAtMs = none ∧
        db'.runs = db.runs ++ [row]) ∨
      ∃ command row, db.findRun command.runId = some row ∧
        row.status.canTransitionTo command.target = true ∧
        db' = db.afterTransition command row.workItemId := by
  cases h with
  | run command hfresh _ _ =>
      exact .inr (.inl ⟨command.row now, hfresh, rfl, rfl, rfl⟩)
  | transition command row hlegal hfound hstatus _ _ =>
      exact .inr (.inr ⟨command, row, hfound, hstatus ▸ hlegal, rfl⟩)
  | begin response row _ _ _ => exact .inl (by simp [Database.afterBegin])
  | confirm response row decision _ _ _ _ => exact .inl (by simp [Database.afterConfirm])
  | unchanged | project | workItem | archive | batch | approval => exact .inl rfl

/-- A stored run stays stored and moves by a step. -/
theorem Change.findRun (h : Change now db db') {id : RunId} {row : RunRow}
    (hrow : db.findRun id = some row) : ∃ row', db'.findRun id = some row' ∧ row.Step row' := by
  rcases h.runs_cases with heq | ⟨added, _, _, _, heq⟩ | ⟨command, moved, hmoved, hlegal, rfl⟩
  · refine ⟨row, ?_, .same⟩
    rw [← hrow, Database.findRun, heq, Database.findRun]
  · refine ⟨row, ?_, .same⟩
    unfold Database.findRun at hrow ⊢
    rw [heq, Keyed.lookup_append_of_some hrow]
  · by_cases hid : id = command.runId
    · subst hid
      obtain rfl : moved = row := Option.some.inj (hmoved.symm.trans hrow)
      exact ⟨_, Database.findRun_afterTransition_self hrow, .moved command hlegal⟩
    · exact ⟨row, (Database.findRun_afterTransition_ne hid).trans hrow, .same⟩

/-- A run that was not stored before starts in `starting`. -/
theorem Change.findRun_new (h : Change now db db') {id : RunId} {row : RunRow}
    (hnone : db.findRun id = none) (hrow : db'.findRun id = some row) :
    row.status = .starting ∧ row.endedAtMs = none := by
  rcases h.runs_cases with heq | ⟨added, hfresh, hstatus, hended, heq⟩ |
    ⟨command, moved, hmoved, _, rfl⟩
  · rw [Database.findRun, heq, show Keyed.lookup _ db.runs id = none from hnone] at hrow
    cases hrow
  · unfold Database.findRun at hnone hrow
    rw [heq] at hrow
    by_cases hid : added.id = id
    · subst hid
      rw [Keyed.lookup_append_singleton_self hfresh] at hrow
      cases hrow
      exact ⟨hstatus, hended⟩
    · rw [Keyed.lookup_append_singleton_ne hid, hnone] at hrow
      cases hrow
  · by_cases hid : id = command.runId
    · rw [hid, hmoved] at hnone
      cases hnone
    · rw [Database.findRun_afterTransition_ne hid, hnone] at hrow
      cases hrow

/-- A run that ends takes its pending approvals with it. -/
theorem Change.not_pending_of_ended (h : Change now db db') {id : RunId} {row row' : RunRow}
    (hrow : db.findRun id = some row) (hrow' : db'.findRun id = some row')
    (hlive : row.status.isTerminal = false) (hended : row'.status.isTerminal = true)
    {approval : ApprovalRow} (hmem : approval ∈ db'.approvalRequests) (hid : approval.runId = id) :
    approval.status ≠ .pending := by
  have hne : row' ≠ row := fun heq => by
    rw [heq, hlive] at hended
    cases hended
  rcases h.runs_cases with heq | ⟨added, _, _, _, heq⟩ | ⟨command, moved, _, _, rfl⟩
  · rw [Database.findRun, heq, show Keyed.lookup _ db.runs id = some row from hrow] at hrow'
    exact absurd (Option.some.inj hrow').symm hne
  · unfold Database.findRun at hrow hrow'
    rw [heq, Keyed.lookup_append_of_some hrow] at hrow'
    exact absurd (Option.some.inj hrow').symm hne
  · by_cases hrun : id = command.runId
    · subst hrun
      rw [Database.findRun_afterTransition_self hrow] at hrow'
      obtain rfl := Option.some.inj hrow'
      have htarget : command.target.isTerminal = true := hended
      simp only [Database.afterTransition, Database.bumpRevision_approvalRequests, htarget,
        if_true] at hmem
      obtain ⟨old, _, rfl⟩ := List.mem_map.mp hmem
      split
      · intro hpending
        cases hpending
      · next hnot =>
          rw [if_neg hnot] at hid
          intro hpending
          exact hnot (by simp [ApprovalRow.isPendingFor, hid, hpending])
    · rw [Database.findRun_afterTransition_ne hrun, hrow] at hrow'
      exact absurd (Option.some.inj hrow').symm hne

/-- The approval table grows by a pending request of a running run, loses the
pending rows of an ended run to `voided`, or moves one row. -/
theorem Change.approvals_cases (h : Change now db db') :
    (db'.approvalRequests = db.approvalRequests) ∨
      (∃ row run, db.findApproval row.id = none ∧ row.Consistent ∧
        db.findRun row.runId = some run ∧ run.status = .running ∧ db'.runs = db.runs ∧
        db'.approvalRequests = db.approvalRequests ++ [row]) ∨
      (∃ id ms, db'.approvalRequests = db.approvalRequests.map fun row =>
        if row.isPendingFor id then row.void ms else row) ∨
      ∃ id row update, db.findApproval id = some row ∧ row.Step (update row) ∧
        (∀ row, (update row).id = row.id) ∧
        db'.approvalRequests = Keyed.update (·.id) id update db.approvalRequests := by
  cases h with
  | transition command row _ _ _ _ _ =>
      by_cases hterm : command.target.isTerminal = true
      · exact .inr (.inr (.inl ⟨command.runId, command.occurredAt.unixMillis,
          by simp [Database.afterTransition, hterm]⟩))
      · exact .inl (by simp [Database.afterTransition, hterm])
  | approval approval run hfresh hfound hrunning _ _ =>
      exact .inr (.inl ⟨approval.row run.connectionId now.unixMillis, run, hfresh,
        ⟨rfl, rfl, rfl, rfl⟩, hfound, hrunning, rfl, rfl⟩)
  | begin response row hfound hpending _ =>
      exact .inr (.inr (.inr ⟨response.approvalId, row, (·.begin response.decision now.unixMillis),
        hfound, .begun _ _ hpending, fun _ => rfl, by simp [Database.afterBegin]⟩))
  | confirm response row decision hfound hresponding _ _ =>
      exact .inr (.inr (.inr ⟨response.approvalId, row, (·.confirm now.unixMillis), hfound,
        .confirmed _ hresponding, fun _ => rfl, by simp [Database.afterConfirm]⟩))
  | unchanged | project | workItem | archive | run | batch => exact .inl rfl

/-- A stored approval stays stored and moves by a step. -/
theorem Change.findApproval (h : Change now db db') {id : ApprovalRequestId} {row : ApprovalRow}
    (hrow : db.findApproval id = some row) :
    ∃ row', db'.findApproval id = some row' ∧ row.Step row' := by
  unfold Database.findApproval at hrow ⊢
  rcases h.approvals_cases with heq | ⟨added, _, _, _, _, _, _, heq⟩ | ⟨run, ms, heq⟩ |
    ⟨other, found, update, hfound, hstep, hid, heq⟩
  · exact ⟨row, heq ▸ hrow, .same⟩
  · exact ⟨row, heq ▸ Keyed.lookup_append_of_some hrow, .same⟩
  · refine ⟨_, ?_, row.step_void run ms⟩
    rw [heq, Keyed.lookup_map, hrow, Option.map_some]
    intro row
    exact (row.step_void run ms).identity.1
  · rw [heq]
    by_cases hsame : id = other
    · subst hsame
      have : found = row := Option.some.inj (hfound.symm.trans hrow)
      exact ⟨update row, by rw [Keyed.lookup_update_self hid, hrow, Option.map_some],
        this ▸ hstep⟩
    · exact ⟨row, by rw [Keyed.lookup_update_ne hid hsame, hrow], .same⟩

/-! ## The invariant is kept -/

theorem Change.runIds (h : Change now db db') (hids : (db.runs.map (·.id)).Nodup) :
    (db'.runs.map (·.id)).Nodup := by
  rcases h.runs_cases with heq | ⟨row, hfresh, _, _, heq⟩ | ⟨command, _, _, _, heq⟩
  · exact heq ▸ hids
  · exact heq ▸ Keyed.nodup_append_singleton hids hfresh
  · rw [heq, Database.afterTransition, Database.bumpRevision_runs, Keyed.keys_update]
    · exact hids
    · exact fun _ => rfl

theorem Change.approvalIds (h : Change now db db')
    (hids : (db.approvalRequests.map (·.id)).Nodup) :
    (db'.approvalRequests.map (·.id)).Nodup := by
  rcases h.approvals_cases with heq | ⟨row, _, hfresh, _, _, _, _, heq⟩ | ⟨run, ms, heq⟩ |
    ⟨id, _, update, _, _, hid, heq⟩
  · exact heq ▸ hids
  · exact heq ▸ Keyed.nodup_append_singleton hids hfresh
  · rw [heq, List.map_map, List.map_congr_left (g := (·.id))]
    · exact hids
    · exact fun row _ => (row.step_void run ms).identity.1
  · rw [heq, Keyed.keys_update hid]
    exact hids

/-- Every approval of the new table is new, or was reached by a step. -/
theorem Change.approval_origin (h : Change now db db')
    (hids : (db.approvalRequests.map (·.id)).Nodup) {row' : ApprovalRow}
    (hrow : row' ∈ db'.approvalRequests) :
    (∃ row ∈ db.approvalRequests, row.Step row') ∨
      (row'.Consistent ∧ ∃ run, db.findRun row'.runId = some run ∧ run.status = .running ∧
        db'.runs = db.runs) := by
  rcases h.approvals_cases with heq | ⟨added, run, _, hcons, hrun, hrunning, hruns, heq⟩ |
    ⟨run, ms, heq⟩ | ⟨id, found, update, hfound, hstep, _, heq⟩
  · exact .inl ⟨row', heq ▸ hrow, .same⟩
  · rw [heq, List.mem_append, List.mem_singleton] at hrow
    rcases hrow with hrow | rfl
    · exact .inl ⟨row', hrow, .same⟩
    · exact .inr ⟨hcons, run, hrun, hrunning, hruns⟩
  · rw [heq] at hrow
    obtain ⟨row, hmem, rfl⟩ := List.mem_map.mp hrow
    exact .inl ⟨row, hmem, row.step_void run ms⟩
  · rw [heq] at hrow
    rcases Keyed.mem_update hrow with ⟨hmem, _⟩ | ⟨old, hold, hid, rfl⟩
    · exact .inl ⟨row', hmem, .same⟩
    · have hsame : db.findApproval old.id = some old := Keyed.lookup_of_mem hids hold
      have : found = old := Option.some.inj (hfound.symm.trans (hid ▸ hsame))
      exact .inl ⟨old, hold, this ▸ hstep⟩

namespace Database.Sound

theorem ended_step (hdb : db.Sound) (h : Change now db db') :
    ∀ row ∈ db'.runs, row.endedAtMs.isSome = row.status.isTerminal := by
  intro row hrow
  rcases h.runs_cases with heq | ⟨added, _, hstatus, hended, heq⟩ | ⟨command, _, _, _, heq⟩
  · exact hdb.ended row (heq ▸ hrow)
  · rw [heq, List.mem_append, List.mem_singleton] at hrow
    rcases hrow with hrow | rfl
    · exact hdb.ended row hrow
    · rw [hended, hstatus]
      rfl
  · rw [heq, Database.afterTransition, Database.bumpRevision_runs] at hrow
    rcases Keyed.mem_update hrow with ⟨hrow, _⟩ | ⟨old, hold, _, rfl⟩
    · exact hdb.ended row hrow
    · cases hterm : command.target.isTerminal <;> simp [RunRow.transition, endedAtFor, hterm]

theorem consistent_step (hdb : db.Sound) (h : Change now db db') :
    ∀ row ∈ db'.approvalRequests, row.Consistent := by
  intro row' hrow
  rcases h.approval_origin hdb.approvalIds hrow with ⟨row, hmem, hstep⟩ | ⟨hcons, _⟩
  · exact hstep.consistent (hdb.consistent row hmem)
  · exact hcons

/-- An ended run has lost its pending approvals in the transition that ended it. -/
theorem approvalRun_step (hdb : db.Sound) (h : Change now db db') :
    ∀ row ∈ db'.approvalRequests, ∃ run, db'.findRun row.runId = some run ∧
      (row.status = .pending → run.status.isTerminal = false) := by
  intro row' hrow
  rcases h.approval_origin hdb.approvalIds hrow with
    ⟨row, hmem, hstep⟩ | ⟨_, run, hrun, hrunning, hruns⟩
  · obtain ⟨run, hrun, hpending⟩ := hdb.approvalRun row hmem
    obtain ⟨run', hrun', hrunStep⟩ := h.findRun hrun
    rw [hstep.identity.2]
    refine ⟨run', hrun', fun hstatus => ?_⟩
    obtain rfl := hstep.pending_of hstatus
    by_contra hterm
    exact h.not_pending_of_ended hrun hrun' (hpending hstatus) (by simpa using hterm) hrow rfl
      hstatus
  · refine ⟨run, ?_, fun _ => by rw [hrunning]; rfl⟩
    unfold Database.findRun at hrun ⊢
    rw [hruns, hrun]

theorem auditIds_step (hdb : db.Sound) (h : Change now db db') :
    (db'.auditEvents.map (·.id)).Nodup := by
  have hinsert : ∀ row : AuditRow, (∀ other ∈ db.auditEvents, other.id ≠ row.id) →
      ((db.auditEvents ++ [row]).map (·.id)).Nodup := fun row hfresh =>
    Keyed.nodup_append_singleton hdb.auditIds (Keyed.lookup_eq_none.mpr hfresh)
  cases h with
  | transition command _ _ _ _ _ haudit => exact hinsert _ haudit
  | begin response _ _ _ haudit =>
      rw [Database.afterBegin, Database.bumpIfFound_auditEvents]
      exact hinsert _ haudit
  | confirm response _ decision _ _ _ haudit => exact hinsert _ haudit
  | unchanged | project | workItem | archive | run | batch | approval => exact hdb.auditIds

/-- The invariant survives every change. -/
theorem step (hdb : db.Sound) (h : Change now db db') : db'.Sound where
  runIds := h.runIds hdb.runIds
  approvalIds := h.approvalIds hdb.approvalIds
  auditIds := hdb.auditIds_step h
  ended := hdb.ended_step h
  consistent := hdb.consistent_step h
  approvalRun := hdb.approvalRun_step h

theorem afterAll (hdb : db.Sound) (calls : List Call) : (db.afterAll calls).Sound :=
  Database.afterAll_induction step hdb calls

end Database.Sound

/-! ## The audit trail -/

/-- The operation was accepted, so its change is applied. -/
def Call.accepted (db : Database) (call : Call) : Bool :=
  (call.op.exec call.now db).1.isOk

def Call.audited (db : Database) (call : Call) : Option (AuditEventId × String × String) :=
  if call.accepted db then call.op.auditEntry else none

theorem Database.entries_after (db : Database) (call : Call) :
    (db.after call).auditEvents.map AuditRow.entry =
      db.auditEvents.map AuditRow.entry ++ (call.audited db).toList := by
  unfold Database.after Call.audited Call.accepted
  rcases hexec : call.op.exec call.now db with ⟨result, db'⟩
  cases result with
  | error error => simp [AppStore.exec_error hexec, Except.isOk, Except.toBool]
  | ok value => simp [(AppStore.frame_of_ok hexec).audit, Except.isOk, Except.toBool]

/-- The trail is what the accepted calls owe, in the order they were served. -/
theorem Database.entries_afterAll (db : Database) (calls : List Call) :
    (db.afterAll calls).auditEvents.map AuditRow.entry =
      db.auditEvents.map AuditRow.entry ++
        (db.steps calls).filterMap fun (pre, call) => call.audited pre := by
  induction calls generalizing db with
  | nil => simp [Database.steps]
  | cons call calls ih =>
      rw [Database.afterAll_cons, ih, Database.entries_after, Database.steps, List.filterMap_cons]
      cases haudit : call.audited db <;> simp [haudit]

/-! ## Longer runs -/

/-- What one call preserves of a stored run's row is preserved by all. -/
theorem Database.findRun_afterAll {P : RunRow → Prop}
    (hP : ∀ {row row' : RunRow}, row.Step row' → P row → P row') {id : RunId} {row : RunRow}
    (hrow : db.findRun id = some row) (h : P row) (calls : List Call) :
    ∃ row', (db.afterAll calls).findRun id = some row' ∧ P row' := by
  induction calls generalizing db row with
  | nil => exact ⟨row, hrow, h⟩
  | cons call calls ih =>
      obtain ⟨row', hrow', hstep⟩ := (db.change_after call).findRun hrow
      exact ih hrow' (hP hstep h)

theorem Database.findApproval_afterAll {P : ApprovalRow → Prop}
    (hP : ∀ {row row' : ApprovalRow}, row.Step row' → P row → P row') {id : ApprovalRequestId}
    {row : ApprovalRow} (hrow : db.findApproval id = some row) (h : P row) (calls : List Call) :
    ∃ row', (db.afterAll calls).findApproval id = some row' ∧ P row' := by
  induction calls generalizing db row with
  | nil => exact ⟨row, hrow, h⟩
  | cons call calls ih =>
      obtain ⟨row', hrow', hstep⟩ := (db.change_after call).findApproval hrow
      exact ih hrow' (hP hstep h)

/-- A stored decision is final. -/
theorem Database.decision_afterAll {id : ApprovalRequestId} {row : ApprovalRow}
    {decision : ApprovalDecision} (hrow : db.findApproval id = some row) (hcons : row.Consistent)
    (hdecision : row.decision = some decision) (calls : List Call) :
    ∃ row', (db.afterAll calls).findApproval id = some row' ∧ row'.decision = some decision := by
  obtain ⟨row', hrow', _, h⟩ := findApproval_afterAll
    (P := fun row => row.Consistent ∧ row.decision = some decision)
    (fun hstep h => ⟨hstep.consistent h.1, hstep.decision h.1 h.2⟩) hrow ⟨hcons, hdecision⟩ calls
  exact ⟨row', hrow', h⟩

/-- An ended run is never touched again. -/
theorem Database.ended_afterAll {id : RunId} {row : RunRow} (hrow : db.findRun id = some row)
    (hended : row.status.isTerminal = true) (calls : List Call) :
    (db.afterAll calls).findRun id = some row := by
  obtain ⟨row', hrow', rfl⟩ := findRun_afterAll (P := (· = row))
    (fun hstep heq => by subst heq; exact hstep.eq_of_isTerminal hended) hrow rfl calls
  exact hrow'

/-! ## The guarantee -/

/-- What the store promises about runs and approvals after some calls. -/
structure LifecycleGuarantee (calls : List Call) : Prop where
  /-- A run has an end exactly in the three terminal statuses. -/
  ended : ∀ row ∈ (Database.empty.afterAll calls).runs,
    row.endedAtMs.isSome ↔
      row.status = .completed ∨ row.status = .failed ∨ row.status = .interrupted
  /-- An ended run keeps its status, its end and its provider identity. -/
  frozen : ∀ row ∈ (Database.empty.afterAll calls).runs, row.endedAtMs.isSome →
    ∀ later, ∃ row', (Database.empty.afterAll (calls ++ later)).findRun row.id = some row' ∧
      row'.status = row.status ∧ row'.endedAtMs = row.endedAtMs ∧ row'.provider = row.provider
  /-- Runs start in `starting` and follow the legal edges. -/
  legal : ∀ call id row', ((Database.empty.afterAll calls).after call).findRun id = some row' →
    match (Database.empty.afterAll calls).findRun id with
    | none => row'.status = .starting
    | some row => row'.status = row.status ∨ row.status.canTransitionTo row'.status = true
  /-- A run once stored is stored for good. -/
  kept : ∀ call id, ((Database.empty.afterAll calls).findRun id).isSome →
    (((Database.empty.afterAll calls).after call).findRun id).isSome
  /-- An ended run has no pending approval. -/
  settled : ∀ run ∈ (Database.empty.afterAll calls).runs, run.status.isTerminal = true →
    ∀ approval ∈ (Database.empty.afterAll calls).approvalRequests,
      approval.runId = run.id → approval.status ≠ .pending
  /-- An approval stays where it is or makes one of its three moves. -/
  moves : ∀ call id row, (Database.empty.afterAll calls).findApproval id = some row →
    ∃ row', ((Database.empty.afterAll calls).after call).findApproval id = some row' ∧
      (row'.status = row.status ∨ row.status.Move row'.status)
  /-- A decision once set is the decision for good. -/
  decided : ∀ id row decision, (Database.empty.afterAll calls).findApproval id = some row →
    row.decision = some decision → ∀ later, ∃ row',
      (Database.empty.afterAll (calls ++ later)).findApproval id = some row' ∧
        row'.decision = some decision
  consistent : ∀ row ∈ (Database.empty.afterAll calls).approvalRequests, row.Consistent
  /-- One audit row for each accepted transition, answer and confirmation. -/
  audited : (Database.empty.afterAll calls).auditEvents.map AuditRow.entry =
    (Database.empty.steps calls).filterMap fun (pre, call) => call.audited pre
  auditIds : ((Database.empty.afterAll calls).auditEvents.map (·.id)).Nodup

/-- Every sequence of store calls from an empty store keeps the guarantee. -/
theorem lifecycleGuarantee (calls : List Call) : LifecycleGuarantee calls := by
  have hsound : (Database.empty.afterAll calls).Sound := Database.Sound.empty.afterAll calls
  refine
    { ended := ?_, frozen := ?_, legal := ?_, kept := ?_, settled := ?_, moves := ?_
      decided := ?_, consistent := hsound.consistent, audited := ?_, auditIds := hsound.auditIds }
  · intro row hrow
    rw [hsound.ended row hrow]
    exact RunStatus.isTerminal_iff
  · intro row hrow hended later
    rw [hsound.ended row hrow] at hended
    rw [Database.afterAll_append]
    exact ⟨row, Database.ended_afterAll (Keyed.lookup_of_mem hsound.runIds hrow) hended later,
      rfl, rfl, rfl⟩
  · intro call id row' hrow'
    split
    · next hnone => exact ((Database.change_after _ call).findRun_new hnone hrow').1
    · next row hrow =>
        obtain ⟨found, hfound, hstep⟩ := (Database.change_after _ call).findRun hrow
        rw [hrow'] at hfound
        cases hfound
        exact hstep.legal
  · intro call id hsome
    obtain ⟨row, hrow⟩ := Option.isSome_iff_exists.mp hsome
    obtain ⟨row', hrow', _⟩ := (Database.change_after _ call).findRun hrow
    exact Option.isSome_iff_exists.mpr ⟨row', hrow'⟩
  · intro run hrun hterm approval happroval hid hpending
    obtain ⟨found, hfound, hlive⟩ := hsound.approvalRun approval happroval
    have hsame := Keyed.lookup_of_mem hsound.runIds hrun
    rw [hid] at hfound
    cases hfound.symm.trans hsame
    rw [hlive hpending] at hterm
    cases hterm
  · intro call id row hrow
    obtain ⟨row', hrow', hstep⟩ := (Database.change_after _ call).findApproval hrow
    exact ⟨row', hrow', hstep.move⟩
  · intro id row decision hrow hdecision later
    rw [Database.afterAll_append]
    exact Database.decision_afterAll hrow (hsound.consistent row (Keyed.mem_of_lookup hrow))
      hdecision later
  · simpa [Database.empty] using Database.entries_afterAll Database.empty calls

end YakShed
