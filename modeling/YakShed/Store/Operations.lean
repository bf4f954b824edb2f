/-
# The store as a state machine

Every method of the `AppStore` trait is one constructor of `AppStore`, indexed
by the type it returns; the dedicated worker thread runs them one at a time.
`Change` lists all the ways in which a call can leave the database different,
and every invariant of the store is proved by cases on it.
-/

import YakShed.Store.Effects

namespace YakShed

/-- The operations of the application store. -/
inductive AppStore : Type → Type
  | createProject (command : CreateProject) : AppStore ProjectSnapshot
  | listProjects (after : Option ProjectId) (limit : Nat) :
      AppStore (Page ProjectSnapshot ProjectId)
  | createWorkItem (command : CreateWorkItem) : AppStore WorkItemSnapshot
  | getWorkItem (id : WorkItemId) : AppStore WorkItemSnapshot
  | listWorkItems (query : ListWorkItems) : AppStore (Page WorkItemSnapshot WorkItemId)
  | archiveWorkSubtree (root : WorkItemId) : AppStore Nat
  | createRun (command : CreateRun) : AppStore RunSnapshot
  | getRun (id : RunId) : AppStore RunSnapshot
  | transitionRun (command : TransitionRun) : AppStore RunSnapshot
  | listRunsForWorkItem (workItemId : WorkItemId) (after : Option RunId) (limit : Nat) :
      AppStore (Page RunSnapshot RunId)
  | listActiveRuns (after : Option RunId) (limit : Nat) : AppStore (Page RunSnapshot RunId)
  | listRunsNeedingReconciliation (after : Option RunId) (limit : Nat) :
      AppStore (Page RunSnapshot RunId)
  | appendTimelineBatch (batch : TimelineBatch) : AppStore StreamCursor
  | getStreamCursor (query : GetStreamCursor) : AppStore (Option StreamCursorState)
  | listTimelinePage (query : ListTimeline) : AppStore (Page TimelineItemSnapshot TimelineRevision)
  | listPendingUserInputsForRun (runId : RunId) (after : Option TimelineItemId) (limit : Nat) :
      AppStore (Page PendingUserInputSnapshot TimelineItemId)
  | recordPendingApproval (approval : PendingApproval) : AppStore ApprovalSnapshot
  | listPendingApprovals (after : Option ApprovalRequestId) (limit : Nat) :
      AppStore (Page ApprovalSnapshot ApprovalRequestId)
  | listApprovalsForRun (runId : RunId) (after : Option ApprovalRequestId) (limit : Nat) :
      AppStore (Page ApprovalSnapshot ApprovalRequestId)
  | beginApprovalResponse (response : BeginApprovalResponse) : AppStore ApprovalSnapshot
  | confirmApprovalResponse (response : ConfirmApprovalResponse) : AppStore ApprovalSnapshot
  | listUnconfirmedApprovalResponses (after : Option ApprovalRequestId) (limit : Nat) :
      AppStore (Page ApprovalSnapshot ApprovalRequestId)

namespace AppStore

variable [Sha256]

def body (now : UtcTimestamp) : {α : Type} → AppStore α → Txn α
  | _, .createProject command => YakShed.createProject now command
  | _, .listProjects after limit => YakShed.listProjects after limit
  | _, .createWorkItem command => YakShed.createWorkItem now command
  | _, .getWorkItem id => YakShed.getWorkItem id
  | _, .listWorkItems query => YakShed.listWorkItems query
  | _, .archiveWorkSubtree root => YakShed.archiveWorkSubtree now root
  | _, .createRun command => YakShed.createRun now command
  | _, .getRun id => YakShed.getRun id
  | _, .transitionRun command => YakShed.transitionRun command
  | _, .listRunsForWorkItem workItemId after limit =>
      YakShed.listRunsForWorkItem workItemId after limit
  | _, .listActiveRuns after limit => YakShed.listActiveRuns after limit
  | _, .listRunsNeedingReconciliation after limit =>
      YakShed.listRunsNeedingReconciliation after limit
  | _, .appendTimelineBatch batch => YakShed.appendTimelineBatch now batch
  | _, .getStreamCursor query => YakShed.getStreamCursor query
  | _, .listTimelinePage query => YakShed.listTimelinePage query
  | _, .listPendingUserInputsForRun runId after limit =>
      YakShed.listPendingUserInputsForRun runId after limit
  | _, .recordPendingApproval approval => YakShed.recordPendingApproval now approval
  | _, .listPendingApprovals after limit => YakShed.listPendingApprovals after limit
  | _, .listApprovalsForRun runId after limit => YakShed.listApprovalsForRun runId after limit
  | _, .beginApprovalResponse response => YakShed.beginApprovalResponse now response
  | _, .confirmApprovalResponse response => YakShed.confirmApprovalResponse now response
  | _, .listUnconfirmedApprovalResponses after limit =>
      YakShed.listUnconfirmedApprovalResponses after limit

/-- One call, served by the worker as one transaction. -/
def exec {α : Type} (now : UtcTimestamp) (op : AppStore α) (db : Database) :
    Except StoreError α × Database :=
  Txn.commit (op.body now) db

/-- A rejected call changes nothing. -/
theorem exec_error {α : Type} {now : UtcTimestamp} {op : AppStore α} {db db' : Database}
    {error : StoreError} (h : op.exec now db = (.error error, db')) : db' = db :=
  Txn.commit_error h

theorem exec_ok {α : Type} {now : UtcTimestamp} {op : AppStore α} {db db' : Database} {value : α}
    (h : op.exec now db = (.ok value, db')) : (op.body now).run db = .ok (value, db') :=
  Txn.commit_eq_ok h

end AppStore

/-! ## Reads -/

/-- A body that never writes. -/
def Txn.ReadOnly {α : Type} (body : Txn α) : Prop :=
  ∀ {db db' : Database} {value : α}, body.run db = .ok (value, db') → db' = db

section Reads

open Txn

theorem listProjects_readOnly (after : Option ProjectId) (limit : Nat) :
    (listProjects after limit).ReadOnly := by
  intro db db' value h
  simp only [listProjects, bind_eq_ok, lift_eq_ok, read_eq_ok, pure_eq_ok] at h
  obtain ⟨_, _, ⟨_, rfl⟩, _, _, ⟨rfl, rfl⟩, _, rfl⟩ := h
  rfl

theorem getWorkItem_readOnly (id : WorkItemId) : (getWorkItem id).ReadOnly := by
  intro db db' value h
  simp only [getWorkItem, bind_eq_ok, read_eq_ok] at h
  obtain ⟨_, _, ⟨rfl, rfl⟩, h⟩ := h
  split at h
  · simp only [pure_eq_ok] at h
    exact h.2.symm
  · simp only [throw_eq_ok] at h

theorem listWorkItems_readOnly (query : ListWorkItems) : (listWorkItems query).ReadOnly := by
  intro db db' value h
  simp only [listWorkItems, bind_eq_ok, lift_eq_ok, read_eq_ok, pure_eq_ok] at h
  obtain ⟨_, _, ⟨_, rfl⟩, _, _, ⟨rfl, rfl⟩, _, rfl⟩ := h
  rfl

theorem getRun_readOnly (id : RunId) : (getRun id).ReadOnly := by
  intro db db' value h
  exact (getRun_eq_ok.mp h).2.symm

theorem listRuns_readOnly (keep : RunRow → Bool) (after : Option RunId) (limit : Nat) :
    (listRuns keep after limit).ReadOnly := by
  intro db db' value h
  simp only [listRuns, bind_eq_ok, lift_eq_ok, read_eq_ok, pure_eq_ok] at h
  obtain ⟨_, _, ⟨_, rfl⟩, _, _, ⟨rfl, rfl⟩, _, rfl⟩ := h
  rfl

theorem getStreamCursor_readOnly (query : GetStreamCursor) : (getStreamCursor query).ReadOnly := by
  intro db db' value h
  simp only [getStreamCursor, bind_eq_ok, lift_eq_ok, read_eq_ok] at h
  obtain ⟨_, _, ⟨_, rfl⟩, _, _, ⟨_, rfl⟩, _, _, ⟨rfl, rfl⟩, h⟩ := h
  split at h
  · simp only [pure_eq_ok] at h
    exact h.2.symm
  · split at h
    · simp only [throw_eq_ok] at h
    · simp only [pure_eq_ok] at h
      exact h.2.symm

theorem listTimelinePage_readOnly (query : ListTimeline) : (listTimelinePage query).ReadOnly := by
  intro db db' value h
  simp only [listTimelinePage, bind_eq_ok, lift_eq_ok] at h
  obtain ⟨_, _, ⟨_, rfl⟩, h⟩ := h
  split at h
  · simp only [bind_eq_ok, lift_eq_ok, read_eq_ok, pure_eq_ok] at h
    obtain ⟨_, _, ⟨_, rfl⟩, _, _, ⟨rfl, rfl⟩, _, rfl⟩ := h
    rfl
  · simp only [bind_eq_ok, read_eq_ok, pure_eq_ok] at h
    obtain ⟨_, _, ⟨rfl, rfl⟩, _, rfl⟩ := h
    rfl

theorem listPendingUserInputsForRun_readOnly (runId : RunId) (after : Option TimelineItemId)
    (limit : Nat) : (listPendingUserInputsForRun runId after limit).ReadOnly := by
  intro db db' value h
  simp only [listPendingUserInputsForRun, bind_eq_ok, lift_eq_ok, read_eq_ok, pure_eq_ok] at h
  obtain ⟨_, _, ⟨_, rfl⟩, _, _, ⟨rfl, rfl⟩, _, _, ⟨_, rfl⟩, _, rfl⟩ := h
  rfl

theorem listApprovals_readOnly (keep : ApprovalRow → Bool) (after : Option ApprovalRequestId)
    (limit : Nat) : (listApprovals keep after limit).ReadOnly := by
  intro db db' value h
  simp only [listApprovals, bind_eq_ok, lift_eq_ok, read_eq_ok, pure_eq_ok] at h
  obtain ⟨_, _, ⟨_, rfl⟩, _, _, ⟨rfl, rfl⟩, _, _, ⟨_, rfl⟩, _, rfl⟩ := h
  rfl

end Reads

/-! ## All changes of the database -/

/-- Everything one call can do to the database, with what it checked first. -/
inductive Change [Sha256] (now : UtcTimestamp) (db : Database) : Database → Prop
  | unchanged : Change now db db
  | project (command : CreateProject) (fresh : db.findProject command.id = none) :
      Change now db
        { db with projects := db.projects ++ [⟨command.id, command.name, now.unixMillis⟩] }
  | workItem (command : CreateWorkItem) (fresh : db.findWorkItem command.id = none)
      (project : (db.findProject command.projectId).isSome)
      (parent : ∀ parentId, command.parentId = some parentId →
        checkParent db command.projectId parentId = .ok ()) :
      Change now db (db.afterWorkItem command now)
  | archive (root : WorkItemId) (found : (db.findWorkItem root).isSome) :
      Change now db (db.afterArchive root now)
  | run (command : CreateRun) (fresh : db.findRun command.id = none)
      (item : ∃ item, db.findWorkItem command.workItemId = some item ∧ item.status = .ready)
      (free : db.providerTaken command.id command.connectionId command.providerRun = false) :
      Change now db (db.afterRun command now)
  | transition (command : TransitionRun) (run : RunRow)
      (legal : command.expectedCurrent.canTransitionTo command.target = true)
      (found : db.findRun command.runId = some run) (status : run.status = command.expectedCurrent)
      (free : db.providerTaken command.runId run.connectionId
        (command.providerId.or run.provider) = false)
      (audit : ∀ row ∈ db.auditEvents, row.id ≠ command.auditEventId) :
      Change now db (db.afterTransition command run.workItemId)
  | batch (batch : TimelineBatch) (run : RunRow) (found : db.findRun batch.runId = some run)
      (connection : run.connectionId = batch.connectionId)
      (receipt : checkReceipt (db.findCursor batch.key) batch
        (timelinePayloadDigest batch.items) = .ok none)
      (item : (db.findWorkItem run.workItemId).isSome) :
      Change now db (db.afterBatch batch now (timelinePayloadDigest batch.items) run.workItemId)
  | approval (approval : PendingApproval) (run : RunRow)
      (fresh : db.findApproval approval.id = none) (found : db.findRun approval.runId = some run)
      (running : run.status = .running)
      (free : db.approvalTaken run.connectionId approval.runId approval.providerId = false)
      (item : (db.findWorkItem run.workItemId).isSome) :
      Change now db (db.afterApproval approval run now)
  | begin (response : BeginApprovalResponse) (row : ApprovalRow)
      (found : db.findApproval response.approvalId = some row) (pending : row.status = .pending)
      (audit : ∀ row ∈ db.auditEvents, row.id ≠ response.auditEventId) :
      Change now db (db.afterBegin response now)
  | confirm (response : ConfirmApprovalResponse) (row : ApprovalRow) (decision : ApprovalDecision)
      (found : db.findApproval response.approvalId = some row)
      (responding : row.status = .responding) (decided : row.decision = some decision)
      (audit : ∀ row ∈ db.auditEvents, row.id ≠ response.auditEventId) :
      Change now db (db.afterConfirm response decision now)

theorem Change.of_readOnly [Sha256] {α : Type} {now : UtcTimestamp} {db db' : Database}
    {body : Txn α} {value : α} (hread : body.ReadOnly) (h : body.run db = .ok (value, db')) :
    Change now db db' := by
  rw [hread h]
  exact .unchanged

/-- No call leaves the list of changes. -/
theorem AppStore.change [Sha256] {α : Type} (now : UtcTimestamp) (op : AppStore α)
    (db : Database) : Change now db (op.exec now db).2 := by
  rcases hexec : op.exec now db with ⟨result, db'⟩
  cases result with
  | error error =>
      rw [AppStore.exec_error hexec]
      exact .unchanged
  | ok value =>
      have h := AppStore.exec_ok hexec
      cases op with
      | createProject command =>
          rcases createProject_eq_ok h with ⟨rfl, _⟩ | ⟨hfresh, rfl⟩
          · exact .unchanged
          · exact .project command hfresh
      | listProjects after limit => exact .of_readOnly (listProjects_readOnly after limit) h
      | createWorkItem command =>
          rcases createWorkItem_eq_ok h with ⟨rfl, _⟩ | ⟨hfresh, hproject, hparent, rfl⟩
          · exact .unchanged
          · exact .workItem command hfresh hproject hparent
      | getWorkItem id => exact .of_readOnly (getWorkItem_readOnly id) h
      | listWorkItems query => exact .of_readOnly (listWorkItems_readOnly query) h
      | archiveWorkSubtree root =>
          obtain ⟨hfound, rfl⟩ := archiveWorkSubtree_eq_ok h
          exact .archive root hfound
      | createRun command =>
          rcases createRun_eq_ok h with ⟨rfl, _⟩ | ⟨hfresh, hitem, hfree, _, rfl⟩
          · exact .unchanged
          · exact .run command hfresh hitem hfree
      | getRun id => exact .of_readOnly (getRun_readOnly id) h
      | transitionRun command =>
          obtain ⟨hlegal, run, hfound, hstatus, hfree, haudit, rfl, _⟩ := transitionRun_eq_ok h
          exact .transition command run hlegal hfound hstatus hfree haudit
      | listRunsForWorkItem workItemId after limit =>
          exact .of_readOnly (listRuns_readOnly _ after limit) h
      | listActiveRuns after limit => exact .of_readOnly (listRuns_readOnly _ after limit) h
      | listRunsNeedingReconciliation after limit =>
          exact .of_readOnly (listRuns_readOnly _ after limit) h
      | appendTimelineBatch batch =>
          rcases appendTimelineBatch_eq_ok h with
            ⟨rfl, _⟩ | ⟨run, hfound, hconnection, hreceipt, _, hitem, rfl⟩
          · exact .unchanged
          · exact .batch batch run hfound hconnection hreceipt hitem
      | getStreamCursor query => exact .of_readOnly (getStreamCursor_readOnly query) h
      | listTimelinePage query => exact .of_readOnly (listTimelinePage_readOnly query) h
      | listPendingUserInputsForRun runId after limit =>
          exact .of_readOnly (listPendingUserInputsForRun_readOnly runId after limit) h
      | recordPendingApproval approval =>
          rcases recordPendingApproval_eq_ok h with
            ⟨rfl, _⟩ | ⟨hfresh, run, hfound, hrunning, hfree, hitem, _, rfl⟩
          · exact .unchanged
          · exact .approval approval run hfresh hfound hrunning hfree hitem
      | listPendingApprovals after limit =>
          exact .of_readOnly (listApprovals_readOnly _ after limit) h
      | listApprovalsForRun runId after limit =>
          exact .of_readOnly (listApprovals_readOnly _ after limit) h
      | beginApprovalResponse response =>
          obtain ⟨⟨row, hfound, hpending⟩, haudit, rfl⟩ := beginApprovalResponse_eq_ok h
          exact .begin response row hfound hpending haudit
      | confirmApprovalResponse response =>
          obtain ⟨row, decision, hfound, hresponding, hdecided, haudit, rfl⟩ :=
            confirmApprovalResponse_eq_ok h
          exact .confirm response row decision hfound hresponding hdecided haudit
      | listUnconfirmedApprovalResponses after limit =>
          exact .of_readOnly (listApprovals_readOnly _ after limit) h

/-! ## What an operation leaves alone -/

/-- The columns by which an audit row is known. -/
def AuditRow.entry (row : AuditRow) : AuditEventId × String × String :=
  (row.id, row.report.eventType, row.report.entityId)

/-- The audit row an operation owes once it is applied. -/
def AppStore.auditEntry : {α : Type} → AppStore α → Option (AuditEventId × String × String)
  | _, .transitionRun command =>
      some (command.auditEventId, "run_transitioned", command.runId.uuid.toText)
  | _, .beginApprovalResponse response =>
      some (response.auditEventId, "approval_response_begun", response.approvalId.uuid.toText)
  | _, .confirmApprovalResponse response =>
      some (response.auditEventId, "approval_response_confirmed", response.approvalId.uuid.toText)
  | _, _ => none

/-- The batch an append brings. -/
def AppStore.batch : {α : Type} → AppStore α → Option TimelineBatch
  | _, .appendTimelineBatch batch => some batch
  | _, _ => none

/-- What an accepted operation adds to the audit trail, and that only appends
touch timelines and cursors. -/
structure AppStore.Frame {α : Type} (op : AppStore α) (db db' : Database) : Prop where
  audit : db'.auditEvents.map AuditRow.entry =
    db.auditEvents.map AuditRow.entry ++ op.auditEntry.toList
  timeline : op.batch = none → db'.timelineItems = db.timelineItems
  cursors : op.batch = none → db'.projectionCursors = db.projectionCursors

theorem AppStore.Frame.of_eq {α : Type} {op : AppStore α} {db db' : Database}
    (hnone : op.auditEntry = none) (haudit : db'.auditEvents = db.auditEvents)
    (htimeline : db'.timelineItems = db.timelineItems)
    (hcursors : db'.projectionCursors = db.projectionCursors) : op.Frame db db' where
  audit := by rw [hnone, haudit, Option.toList_none, List.append_nil]
  timeline := fun _ => htimeline
  cursors := fun _ => hcursors

theorem AppStore.frame_of_ok [Sha256] {α : Type} {now : UtcTimestamp} {db db' : Database}
    {op : AppStore α} {value : α} (h : op.exec now db = (.ok value, db')) : op.Frame db db' := by
  have h := AppStore.exec_ok h
  have hread : db' = db → op.auditEntry = none → op.Frame db db' := by
    rintro rfl hnone
    exact .of_eq hnone rfl rfl rfl
  cases op with
  | createProject command =>
      rcases createProject_eq_ok h with ⟨rfl, _⟩ | ⟨_, rfl⟩ <;>
        exact .of_eq rfl rfl rfl rfl
  | listProjects after limit => exact hread (listProjects_readOnly after limit h) rfl
  | createWorkItem command =>
      rcases createWorkItem_eq_ok h with ⟨rfl, _⟩ | ⟨_, _, _, rfl⟩ <;>
        exact .of_eq rfl rfl rfl rfl
  | getWorkItem id => exact hread (getWorkItem_readOnly id h) rfl
  | listWorkItems query => exact hread (listWorkItems_readOnly query h) rfl
  | archiveWorkSubtree root =>
      obtain ⟨_, rfl⟩ := archiveWorkSubtree_eq_ok h
      exact .of_eq rfl rfl rfl rfl
  | createRun command =>
      rcases createRun_eq_ok h with ⟨rfl, _⟩ | ⟨_, _, _, _, rfl⟩ <;>
        exact .of_eq rfl rfl rfl rfl
  | getRun id => exact hread (getRun_readOnly id h) rfl
  | transitionRun command =>
      obtain ⟨_, run, _, _, _, _, rfl, _⟩ := transitionRun_eq_ok h
      refine ⟨?_, fun _ => rfl, fun _ => rfl⟩
      simp [Database.afterTransition, AuditRow.entry, AppStore.auditEntry, AuditReport.eventType,
        AuditReport.entityId]
  | listRunsForWorkItem workItemId after limit =>
      exact hread (listRuns_readOnly _ after limit h) rfl
  | listActiveRuns after limit => exact hread (listRuns_readOnly _ after limit h) rfl
  | listRunsNeedingReconciliation after limit => exact hread (listRuns_readOnly _ after limit h) rfl
  | appendTimelineBatch batch =>
      rcases appendTimelineBatch_eq_ok h with ⟨rfl, _⟩ | ⟨_, _, _, _, _, _, rfl⟩
      · exact hread rfl rfl
      · refine ⟨(List.append_nil _).symm, ?_, ?_⟩ <;> exact fun hnone => by cases hnone
  | getStreamCursor query => exact hread (getStreamCursor_readOnly query h) rfl
  | listTimelinePage query => exact hread (listTimelinePage_readOnly query h) rfl
  | listPendingUserInputsForRun runId after limit =>
      exact hread (listPendingUserInputsForRun_readOnly runId after limit h) rfl
  | recordPendingApproval approval =>
      rcases recordPendingApproval_eq_ok h with ⟨rfl, _⟩ | ⟨_, _, _, _, _, _, _, rfl⟩ <;>
        exact .of_eq rfl rfl rfl rfl
  | listPendingApprovals after limit => exact hread (listApprovals_readOnly _ after limit h) rfl
  | listApprovalsForRun runId after limit =>
      exact hread (listApprovals_readOnly _ after limit h) rfl
  | beginApprovalResponse response =>
      obtain ⟨_, _, rfl⟩ := beginApprovalResponse_eq_ok h
      refine ⟨?_, fun _ => Database.bumpIfFound_timelineItems _ _ _,
        fun _ => Database.bumpIfFound_projectionCursors _ _ _⟩
      simp [Database.afterBegin, AuditRow.entry, AppStore.auditEntry, AuditReport.eventType,
        AuditReport.entityId]
  | confirmApprovalResponse response =>
      obtain ⟨_, _, _, _, _, _, rfl⟩ := confirmApprovalResponse_eq_ok h
      refine ⟨?_, fun _ => Database.bumpIfFound_timelineItems _ _ _,
        fun _ => Database.bumpIfFound_projectionCursors _ _ _⟩
      simp [Database.afterConfirm, AuditRow.entry, AppStore.auditEntry, AuditReport.eventType,
        AuditReport.entityId]
  | listUnconfirmedApprovalResponses after limit =>
      exact hread (listApprovals_readOnly _ after limit h) rfl

/-! ## Runs of the store -/

/-- One call with the time the store's clock showed for it. -/
structure Call where
  {result : Type}
  op : AppStore result
  now : UtcTimestamp

namespace Database

variable [Sha256]

def after (db : Database) (call : Call) : Database :=
  (call.op.exec call.now db).2

def afterAll (db : Database) (calls : List Call) : Database :=
  calls.foldl after db

@[simp] theorem afterAll_nil (db : Database) : db.afterAll [] = db := rfl

@[simp] theorem afterAll_cons (db : Database) (call : Call) (calls : List Call) :
    db.afterAll (call :: calls) = (db.after call).afterAll calls := rfl

theorem afterAll_append (db : Database) (first second : List Call) :
    db.afterAll (first ++ second) = (db.afterAll first).afterAll second :=
  List.foldl_append

theorem change_after (db : Database) (call : Call) : Change call.now db (db.after call) :=
  call.op.change call.now db

/-- Each call of a sequence with the database it was served from. -/
def steps : Database → List Call → List (Database × Call)
  | _, [] => []
  | db, call :: calls => (db, call) :: steps (db.after call) calls

theorem steps_append (db : Database) (first second : List Call) :
    db.steps (first ++ second) = db.steps first ++ (db.afterAll first).steps second := by
  induction first generalizing db with
  | nil => rfl
  | cons call calls ih => simp [steps, ih]

/-- What holds of a database and survives every change holds after any calls. -/
theorem afterAll_induction {P : Database → Prop}
    (hstep : ∀ {db db' : Database} {now : UtcTimestamp}, P db → Change now db db' → P db')
    {db : Database} (hinit : P db) (calls : List Call) : P (db.afterAll calls) := by
  induction calls generalizing db with
  | nil => exact hinit
  | cons call calls ih => exact ih (hstep hinit (db.change_after call))

end Database

end YakShed
