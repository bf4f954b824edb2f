/-
# What each store operation can do

One inversion theorem for each operation: from a committed body, what it
checked and the database it left. Later modules cite these and never unfold an
operation again.
-/

import YakShed.Store.Timeline
import YakShed.Store.Approvals

namespace YakShed

open Txn

variable {db db' : Database} {now : UtcTimestamp}

/-! ## Pure effects -/

namespace Database

def bumpRevision (db : Database) (workItemId : WorkItemId) (ms : Int) : Database :=
  { db with
    workItems := Keyed.update (·.id) workItemId (·.bump ms) db.workItems }

@[simp] theorem bumpRevision_runs (db : Database) (workItemId : WorkItemId) (ms : Int) :
    (db.bumpRevision workItemId ms).runs = db.runs := rfl

@[simp] theorem bumpRevision_timelineItems (db : Database) (workItemId : WorkItemId) (ms : Int) :
    (db.bumpRevision workItemId ms).timelineItems = db.timelineItems := rfl

@[simp] theorem bumpRevision_approvalRequests (db : Database) (workItemId : WorkItemId) (ms : Int) :
    (db.bumpRevision workItemId ms).approvalRequests = db.approvalRequests := rfl

@[simp] theorem bumpRevision_projectionCursors (db : Database) (workItemId : WorkItemId)
    (ms : Int) : (db.bumpRevision workItemId ms).projectionCursors = db.projectionCursors := rfl

@[simp] theorem bumpRevision_auditEvents (db : Database) (workItemId : WorkItemId) (ms : Int) :
    (db.bumpRevision workItemId ms).auditEvents = db.auditEvents := rfl

theorem bumpRevision_workItems_ids (db : Database) (workItemId : WorkItemId) (ms : Int) :
    (db.bumpRevision workItemId ms).workItems.map (·.id) = db.workItems.map (·.id) :=
  Keyed.keys_update fun _ => rfl

def afterTransition (db : Database) (command : TransitionRun) (workItemId : WorkItemId) :
    Database :=
  let ms := command.occurredAt.unixMillis
  let voided :=
    if command.target.isTerminal then
      db.approvalRequests.countP (·.isPendingFor command.runId)
    else 0
  bumpRevision
    { db with
      runs := Keyed.update (·.id) command.runId (·.transition command) db.runs
      approvalRequests :=
        if command.target.isTerminal then
          db.approvalRequests.map fun row =>
            if row.isPendingFor command.runId then row.void ms else row
        else db.approvalRequests
      auditEvents := db.auditEvents ++
        [⟨command.auditEventId,
          .runTransitioned command.runId command.expectedCurrent command.target voided, ms⟩] }
    workItemId ms

end Database

/-- The timeline rows of a batch that starts after a revision. -/
def TimelineBatch.rowsFrom (batch : TimelineBatch) (now : UtcTimestamp) :
    Nat → List NewTimelineItem → List TimelineItemRow
  | _, [] => []
  | revision, item :: rest =>
      batch.row now (revision + 1) item :: batch.rowsFrom now (revision + 1) rest

def TimelineBatch.receipt (batch : TimelineBatch) (now : UtcTimestamp) (digest : String) :
    CursorRow :=
  { key := batch.key, cursor := batch.expectedStreamRevision + batch.items.length
    lastBatchId := batch.batchId, lastStartCursor := batch.expectedStreamRevision
    lastPayloadDigest := digest, updatedAtMs := now.unixMillis }

def Database.afterBatch (db : Database) (batch : TimelineBatch) (now : UtcTimestamp)
    (digest : String) (workItemId : WorkItemId) : Database :=
  bumpRevision
    { db with
      timelineItems := db.timelineItems ++
        batch.rowsFrom now (db.lastRevision batch.runId) batch.items
      projectionCursors := upsertCursor (batch.receipt now digest) db.projectionCursors }
    workItemId now.unixMillis

/-! ## Inversion -/

theorem checkedAdd_eq_ok {overflow : String} {first second sum : Nat}
    (h : checkedAdd overflow first second = .ok sum) :
    sum = first + second ∧ first + second ≤ i64Max := by
  unfold checkedAdd at h
  split at h
  · next hle => cases h; exact ⟨rfl, hle⟩
  · cases h

theorem checkedI64_eq_ok {value result : Nat} (h : checkedI64 value = .ok result) :
    result = value ∧ value ≤ i64Max := by
  unfold checkedI64 at h
  split at h
  · next hle => cases h; exact ⟨rfl, hle⟩
  · cases h

theorem bumpWorkItemRevision_eq_ok {workItemId : WorkItemId} {ms : Int} {result : Unit} :
    (bumpWorkItemRevision workItemId ms).run db = .ok (result, db') ↔
      (db.findWorkItem workItemId).isSome ∧ db.bumpRevision workItemId ms = db' := by
  unfold bumpWorkItemRevision
  simp only [bind_eq_ok, read_eq_ok]
  constructor
  · rintro ⟨_, _, ⟨rfl, rfl⟩, h⟩
    split at h
    · simp only [bind_eq_ok, throw_eq_ok, false_and, exists_false] at h
    · next hsome =>
        simp only [write_eq_ok] at h
        exact ⟨by simpa [Option.isSome_iff_ne_none] using hsome, h⟩
  · rintro ⟨hsome, rfl⟩
    refine ⟨db, db, ⟨rfl, rfl⟩, ?_⟩
    rw [if_neg (by simpa [Option.isSome_iff_ne_none] using hsome)]
    simp only [write_eq_ok]
    rfl

theorem insertAudit_eq_ok {id : AuditEventId} {report : AuditReport} {ms : Int} {result : Unit} :
    (insertAudit id report ms).run db = .ok (result, db') ↔
      (∀ row ∈ db.auditEvents, row.id ≠ id) ∧
        { db with auditEvents := db.auditEvents ++ [⟨id, report, ms⟩] } = db' := by
  unfold insertAudit
  simp only [bind_eq_ok, read_eq_ok]
  constructor
  · rintro ⟨_, _, ⟨rfl, rfl⟩, h⟩
    split at h
    · simp only [bind_eq_ok, throw_eq_ok, false_and, exists_false] at h
    · next hfresh =>
        simp only [write_eq_ok] at h
        exact ⟨by simpa using hfresh, h⟩
  · rintro ⟨hfresh, rfl⟩
    refine ⟨db, db, ⟨rfl, rfl⟩, ?_⟩
    rw [if_neg (by simpa using hfresh)]
    simp only [write_eq_ok]

theorem getRun_eq_ok {id : RunId} {snapshot : RunSnapshot} :
    (getRun id).run db = .ok (snapshot, db') ↔
      (∃ row, db.findRun id = some row ∧ row.snapshot = snapshot) ∧ db = db' := by
  unfold getRun
  simp only [bind_eq_ok, read_eq_ok]
  constructor
  · rintro ⟨_, _, ⟨rfl, rfl⟩, h⟩
    split at h
    · next row hrow =>
        simp only [pure_eq_ok] at h
        exact ⟨⟨row, hrow, h.1⟩, h.2⟩
    · simp only [throw_eq_ok] at h
  · rintro ⟨⟨row, hrow, rfl⟩, rfl⟩
    refine ⟨db, db, ⟨rfl, rfl⟩, ?_⟩
    simp only [hrow, pure_eq_ok, and_self]

theorem getApproval_eq_ok {id : ApprovalRequestId} {snapshot : ApprovalSnapshot} :
    (getApproval id).run db = .ok (snapshot, db') ↔
      (∃ row, db.findApproval id = some row ∧ row.snapshot = .ok snapshot) ∧ db = db' := by
  unfold getApproval
  simp only [bind_eq_ok, read_eq_ok]
  constructor
  · rintro ⟨_, _, ⟨rfl, rfl⟩, h⟩
    split at h
    · next row hrow =>
        simp only [lift_eq_ok] at h
        exact ⟨⟨row, hrow, h.1⟩, h.2⟩
    · simp only [throw_eq_ok] at h
  · rintro ⟨⟨row, hrow, hsnapshot⟩, rfl⟩
    refine ⟨db, db, ⟨rfl, rfl⟩, ?_⟩
    simp only [hrow, lift_eq_ok, hsnapshot, and_self]

/-- A created project is new, or is the one already stored. -/
theorem createProject_eq_ok {command : CreateProject} {snapshot : ProjectSnapshot}
    (h : (createProject now command).run db = .ok (snapshot, db')) :
    db' = db ∧ (db.findProject command.id).isSome ∨ db.findProject command.id = none ∧
      db' = { db with
        projects := db.projects ++ [⟨command.id, command.name, now.unixMillis⟩] } := by
  unfold createProject at h
  simp only [bind_eq_ok, lift_eq_ok, read_eq_ok] at h
  obtain ⟨_, _, ⟨_, rfl⟩, _, _, ⟨_, rfl⟩, _, _, ⟨rfl, rfl⟩, h⟩ := h
  split at h
  · next existing hfound =>
      split at h
      · simp only [pure_eq_ok] at h
        exact .inl ⟨h.2.symm, by rw [hfound]; rfl⟩
      · simp only [throw_eq_ok] at h
  · next hfresh =>
      simp only [bind_eq_ok, lift_eq_ok, write_eq_ok, pure_eq_ok] at h
      obtain ⟨_, _, ⟨_, rfl⟩, _, _, rfl, _, rfl⟩ := h
      exact .inr ⟨hfresh, rfl⟩

def Database.afterWorkItem (db : Database) (command : CreateWorkItem) (now : UtcTimestamp) :
    Database :=
  { db with
    workItems := db.workItems ++
      [{ id := command.id, projectId := command.projectId, title := command.title
         status := .ready, revision := 1, createdAtMs := now.unixMillis
         updatedAtMs := now.unixMillis, archivedAtMs := none }]
    workEdges := db.workEdges ++ (command.parentId.map (⟨·, command.id⟩)).toList }

theorem createWorkItem_eq_ok {command : CreateWorkItem} {snapshot : WorkItemSnapshot}
    (h : (createWorkItem now command).run db = .ok (snapshot, db')) :
    db' = db ∧ (db.findWorkItem command.id).isSome ∨
      (db.findWorkItem command.id = none ∧ (db.findProject command.projectId).isSome ∧
      (∀ parentId, command.parentId = some parentId →
        checkParent db command.projectId parentId = .ok ()) ∧
      db' = db.afterWorkItem command now) := by
  unfold createWorkItem at h
  simp only [bind_eq_ok, lift_eq_ok, read_eq_ok] at h
  obtain ⟨_, _, ⟨_, rfl⟩, _, _, ⟨_, rfl⟩, _, _, ⟨rfl, rfl⟩, h⟩ := h
  split at h
  · next existing hfound =>
      split at h
      · simp only [pure_eq_ok] at h
        exact .inl ⟨h.2.symm, by rw [hfound]; rfl⟩
      · simp only [throw_eq_ok] at h
  · next hfresh =>
      split at h
      · simp only [bind_eq_ok, throw_eq_ok, false_and, exists_false] at h
      · next hproject =>
          refine .inr ⟨hfresh, by simpa [Option.isSome_iff_ne_none] using hproject, ?_⟩
          split at h
          · next parentId hparent =>
              simp only [bind_eq_ok, lift_eq_ok, write_eq_ok, pure_eq_ok] at h
              obtain ⟨_, _, ⟨hcheck, rfl⟩, _, _, ⟨_, rfl⟩, _, _, rfl, _, rfl⟩ := h
              refine ⟨?_, rfl⟩
              intro other hother
              rw [hparent] at hother
              cases hother
              exact hcheck
          · next hparent =>
              simp only [bind_eq_ok, lift_eq_ok, write_eq_ok, pure_eq_ok] at h
              obtain ⟨_, _, ⟨_, rfl⟩, _, _, rfl, _, rfl⟩ := h
              exact ⟨by simp [hparent], rfl⟩

def Database.afterArchive (db : Database) (root : WorkItemId) (now : UtcTimestamp) : Database :=
  { db with
    workItems := db.workItems.map fun row =>
      if row.id ∈ db.subtree db.workEdges.length [root] ∧ row.status ≠ .archived then
        row.archive now.unixMillis
      else row }

theorem archiveWorkSubtree_eq_ok {root : WorkItemId} {count : Nat}
    (h : (archiveWorkSubtree now root).run db = .ok (count, db')) :
    (db.findWorkItem root).isSome ∧ db' = db.afterArchive root now := by
  unfold archiveWorkSubtree at h
  simp only [bind_eq_ok, read_eq_ok] at h
  obtain ⟨_, _, ⟨rfl, rfl⟩, h⟩ := h
  split at h
  · simp only [bind_eq_ok, throw_eq_ok, false_and, exists_false] at h
  · next hsome =>
      simp only [bind_eq_ok, write_eq_ok, pure_eq_ok] at h
      obtain ⟨_, _, rfl, _, rfl⟩ := h
      refine ⟨by simpa [Option.isSome_iff_ne_none] using hsome, ?_⟩
      simp [Database.afterArchive]

def CreateRun.row (command : CreateRun) (now : UtcTimestamp) : RunRow :=
  { id := command.id, connectionId := command.connectionId, workItemId := command.workItemId
    status := .starting, provider := command.providerRun, createdAtMs := now.unixMillis
    endedAtMs := none }

def Database.afterRun (db : Database) (command : CreateRun) (now : UtcTimestamp) : Database :=
  bumpRevision { db with runs := db.runs ++ [command.row now] } command.workItemId now.unixMillis

/-- A created run is the one already stored, or a new one in `starting`. -/
theorem createRun_eq_ok {command : CreateRun} {snapshot : RunSnapshot}
    (h : (createRun now command).run db = .ok (snapshot, db')) :
    (db' = db ∧ ∃ row, db.findRun command.id = some row ∧ snapshot = row.snapshot) ∨
      (db.findRun command.id = none ∧
        (∃ item, db.findWorkItem command.workItemId = some item ∧ item.status = .ready) ∧
        db.providerTaken command.id command.connectionId command.providerRun = false ∧
        snapshot = (command.row now).snapshot ∧ db' = db.afterRun command now) := by
  unfold createRun at h
  simp only [bind_eq_ok, lift_eq_ok, read_eq_ok] at h
  obtain ⟨_, _, ⟨_, rfl⟩, _, _, ⟨rfl, rfl⟩, h⟩ := h
  split at h
  · next row hrow =>
      split at h
      · simp only [pure_eq_ok] at h
        exact .inl ⟨h.2.symm, row, hrow, h.1.symm⟩
      · simp only [throw_eq_ok] at h
  · next hfresh =>
      split at h
      · simp only [throw_eq_ok] at h
      · simp only [throw_eq_ok] at h
      · next hstatus =>
          obtain ⟨item, hitem, hready⟩ := Option.map_eq_some_iff.mp hstatus
          split at h
          · simp only [bind_eq_ok, throw_eq_ok, false_and, exists_false] at h
          · next hfree =>
              simp only [bind_eq_ok, write_eq_ok, pure_eq_ok,
                bumpWorkItemRevision_eq_ok] at h
              obtain ⟨_, _, rfl, _, _, ⟨_, rfl⟩, rfl, rfl⟩ := h
              exact .inr ⟨hfresh, ⟨item, hitem, hready⟩, by simpa using hfree, rfl, rfl⟩

theorem voidPendingApprovals_eq_ok {run : RunId} {target : RunStatus} {ms : Int} {voided : Nat}
    (h : (voidPendingApprovals run target ms).run db = .ok (voided, db')) :
    voided = (if target.isTerminal then db.approvalRequests.countP (·.isPendingFor run) else 0) ∧
      db' = { db with
        approvalRequests :=
          if target.isTerminal then
            db.approvalRequests.map fun row => if row.isPendingFor run then row.void ms else row
          else db.approvalRequests } := by
  unfold voidPendingApprovals at h
  split at h
  · next hterm =>
      simp only [bind_eq_ok, read_eq_ok, write_eq_ok, pure_eq_ok] at h
      obtain ⟨_, _, ⟨rfl, rfl⟩, _, _, rfl, rfl, rfl⟩ := h
      simp [hterm]
  · next hterm =>
      simp only [pure_eq_ok] at h
      obtain ⟨rfl, rfl⟩ := h
      simp [hterm]

/-- An applied transition follows a legal edge from the status the row had. -/
theorem transitionRun_eq_ok {command : TransitionRun} {snapshot : RunSnapshot}
    (h : (transitionRun command).run db = .ok (snapshot, db')) :
    command.expectedCurrent.canTransitionTo command.target = true ∧
      ∃ run, db.findRun command.runId = some run ∧ run.status = command.expectedCurrent ∧
        db.providerTaken command.runId run.connectionId
          (command.providerId.or run.provider) = false ∧
        (∀ row ∈ db.auditEvents, row.id ≠ command.auditEventId) ∧
        db' = db.afterTransition command run.workItemId ∧
        snapshot = (run.transition command).snapshot := by
  unfold transitionRun at h
  simp only [bind_eq_ok, lift_eq_ok] at h
  obtain ⟨_, _, ⟨_, rfl⟩, h⟩ := h
  split at h
  · next hlegal =>
      refine ⟨by simpa using hlegal, ?_⟩
      unfold applyRunTransition at h
      simp only [bind_eq_ok, getRun_eq_ok, read_eq_ok] at h
      obtain ⟨_, _, ⟨⟨run, hrun, rfl⟩, rfl⟩, _, _, ⟨rfl, rfl⟩, h⟩ := h
      split at h
      · simp only [bind_eq_ok, throw_eq_ok, false_and, exists_false] at h
      · next hstatus =>
          split at h
          · simp only [bind_eq_ok, throw_eq_ok, false_and, exists_false] at h
          · next hfree =>
              simp only [bind_eq_ok, write_eq_ok, insertAudit_eq_ok,
                bumpWorkItemRevision_eq_ok, getRun_eq_ok] at h
              obtain ⟨_, _, rfl, voided, _, hvoid, _, _, ⟨haudit, rfl⟩, _, _, ⟨_, rfl⟩,
                ⟨row, hrow, rfl⟩, rfl⟩ := h
              obtain ⟨rfl, rfl⟩ := voidPendingApprovals_eq_ok hvoid
              refine ⟨run, hrun, by simpa [RunRow.snapshot] using hstatus,
                by simpa [RunRow.snapshot] using hfree, haudit, rfl, ?_⟩
              have hrow' : Keyed.lookup (·.id)
                  (Keyed.update (·.id) command.runId (·.transition command) db.runs)
                  command.runId = some row := hrow
              rw [Keyed.lookup_update_self] at hrow'
              · rw [show Keyed.lookup (·.id) db.runs command.runId = some run from hrun,
                  Option.map_some, Option.some.injEq] at hrow'
                rw [hrow']
              · exact fun _ => rfl
  · simp only [bind_eq_ok, throw_eq_ok, false_and, exists_false] at h

/-! ### Appending -/

namespace Database

def addItems (db : Database) (rows : List TimelineItemRow) : Database :=
  { db with timelineItems := db.timelineItems ++ rows }

@[simp] theorem addItems_nil (db : Database) : db.addItems [] = db := by
  simp [addItems]

theorem addItems_addItems (db : Database) (first second : List TimelineItemRow) :
    (db.addItems first).addItems second = db.addItems (first ++ second) := by
  simp [addItems]

/-- Every row passes the table's constraints when its turn comes. -/
def Accepts : Database → List TimelineItemRow → Prop
  | _, [] => True
  | db, row :: rest => row.violation db = none ∧ Accepts (db.addItems [row]) rest

end Database

theorem insertTimelineItem_eq_ok {row : TimelineItemRow} {result : Unit} :
    (insertTimelineItem row).run db = .ok (result, db') ↔
      row.violation db = none ∧ db.addItems [row] = db' := by
  unfold insertTimelineItem
  simp only [bind_eq_ok, read_eq_ok]
  constructor
  · rintro ⟨_, _, ⟨rfl, rfl⟩, h⟩
    split at h
    · simp only [throw_eq_ok] at h
    · next hnone =>
        simp only [write_eq_ok] at h
        exact ⟨hnone, h⟩
  · rintro ⟨hnone, rfl⟩
    refine ⟨db, db, ⟨rfl, rfl⟩, ?_⟩
    simp only [hnone, write_eq_ok, Database.addItems]

theorem insertItems_eq_ok {batch : TimelineBatch} {items : List NewTimelineItem} {revision : Nat}
    {result : Unit} :
    (insertItems batch now revision items).run db = .ok (result, db') ↔
      (items = [] ∨ revision + items.length ≤ i64Max) ∧
        db.Accepts (batch.rowsFrom now revision items) ∧
        db.addItems (batch.rowsFrom now revision items) = db' := by
  induction items generalizing db revision with
  | nil =>
      simp only [insertItems, TimelineBatch.rowsFrom, Database.Accepts, Database.addItems_nil,
        pure_eq_ok, true_or, true_and]
  | cons item rest ih =>
      simp only [insertItems, bind_eq_ok, lift_eq_ok, insertTimelineItem_eq_ok, ih]
      constructor
      · rintro ⟨next, _, ⟨hnext, rfl⟩, _, _, ⟨hrow, rfl⟩, hroom, hrest, rfl⟩
        obtain ⟨rfl, hle⟩ := checkedAdd_eq_ok hnext
        refine ⟨.inr ?_, ⟨hrow, hrest⟩, ?_⟩
        · rw [List.length_cons]
          rcases hroom with rfl | hroom
          · simpa using hle
          · omega
        · rw [Database.addItems_addItems]
          rfl
      · rintro ⟨hroom, ⟨hrow, hrest⟩, rfl⟩
        have hroom' : revision + (rest.length + 1) ≤ i64Max := by simpa using hroom
        refine ⟨revision + 1, db, ⟨if_pos (by omega), rfl⟩, (), _, ⟨hrow, rfl⟩, .inr (by omega),
          hrest, ?_⟩
        rw [Database.addItems_addItems]
        rfl

/-- The stored receipt is the one this batch left. -/
def CursorRow.Answers (row : CursorRow) (batch : TimelineBatch) (digest : String) : Prop :=
  row.lastBatchId = batch.batchId ∧ row.lastStartCursor = batch.expectedStreamRevision ∧
    row.lastPayloadDigest = digest

theorem checkReceipt_eq_some {receipt : Option CursorRow} {batch : TimelineBatch} {digest : String}
    {cursor : StreamCursor} (h : checkReceipt receipt batch digest = .ok (some cursor)) :
    ∃ row, receipt = some row ∧ row.Answers batch digest ∧ cursor = row.cursor := by
  unfold checkReceipt at h
  split at h
  · next row =>
      split at h
      · cases h
      · split at h
        · next hanswers =>
            cases h
            exact ⟨row, rfl, hanswers, rfl⟩
        · split at h
          · cases h
          · split at h <;> cases h
  · split at h <;> cases h

/-- What a batch that is about to be applied has passed. -/
theorem checkReceipt_eq_none {receipt : Option CursorRow} {batch : TimelineBatch} {digest : String}
    (h : checkReceipt receipt batch digest = .ok none) :
    (receipt = none ∧ batch.expectedStreamRevision = 0) ∨
      ∃ row, receipt = some row ∧ row.lastBatchId ≠ batch.batchId ∧
        row.cursor = batch.expectedStreamRevision := by
  unfold checkReceipt at h
  split at h
  · next row =>
      split at h
      · cases h
      · split at h
        · cases h
        · split at h
          · cases h
          · next hid =>
              split at h
              · cases h
              · next hcursor => exact .inr ⟨row, rfl, hid, not_not.mp hcursor⟩
  · split at h
    · cases h
    · next hzero => exact .inl ⟨rfl, not_not.mp hzero⟩

theorem commitBatch_eq_ok {batch : TimelineBatch} {digest : String} {workItemId : WorkItemId}
    {cursor : StreamCursor}
    (h : (commitBatch batch now digest workItemId).run db = .ok (cursor, db')) :
    cursor = batch.expectedStreamRevision + batch.items.length ∧
      (db.findWorkItem workItemId).isSome ∧ db' = db.afterBatch batch now digest workItemId := by
  unfold commitBatch at h
  simp only [bind_eq_ok, lift_eq_ok, read_eq_ok, write_eq_ok, pure_eq_ok, insertItems_eq_ok,
    bumpWorkItemRevision_eq_ok] at h
  obtain ⟨count, _, ⟨hcount, rfl⟩, _, _, ⟨rfl, rfl⟩, _, _, ⟨_, _, rfl⟩, sum, _, ⟨hsum, rfl⟩, _, _,
    ⟨rfl, rfl⟩, _, _, rfl, _, _, ⟨hitem, rfl⟩, rfl, rfl⟩ := h
  obtain ⟨rfl, _⟩ := checkedI64_eq_ok hcount
  obtain ⟨rfl, _⟩ := checkedAdd_eq_ok hsum
  exact ⟨rfl, hitem, rfl⟩

/-- An accepted batch is answered from its receipt, or is applied to a stream
that stands exactly where the batch expects it. -/
theorem appendTimelineBatch_eq_ok [Sha256] {batch : TimelineBatch} {cursor : StreamCursor}
    (h : (appendTimelineBatch now batch).run db = .ok (cursor, db')) :
    (db' = db ∧ ∃ row, db.findCursor batch.key = some row ∧
        row.Answers batch (timelinePayloadDigest batch.items) ∧ cursor = row.cursor) ∨
      (∃ run, db.findRun batch.runId = some run ∧ run.connectionId = batch.connectionId ∧
        checkReceipt (db.findCursor batch.key) batch (timelinePayloadDigest batch.items) =
          .ok none ∧
        cursor = batch.expectedStreamRevision + batch.items.length ∧
        (db.findWorkItem run.workItemId).isSome ∧
        db' = db.afterBatch batch now (timelinePayloadDigest batch.items) run.workItemId) := by
  unfold appendTimelineBatch at h
  simp only [bind_eq_ok, lift_eq_ok, read_eq_ok] at h
  obtain ⟨_, _, ⟨_, rfl⟩, _, _, ⟨rfl, rfl⟩, item, _, ⟨hitem, rfl⟩, _, _, ⟨hconnection, rfl⟩, _, _,
    ⟨_, rfl⟩, answer, _, ⟨hanswer, rfl⟩, h⟩ := h
  cases answer with
  | some answered =>
      simp only [pure_eq_ok] at h
      obtain ⟨row, hrow, hanswers, hcursor⟩ := checkReceipt_eq_some hanswer
      exact .inl ⟨h.2.symm, row, hrow, hanswers, h.1 ▸ hcursor⟩
  | none =>
      cases hrun : db.findRun batch.runId with
      | none => simp [runWorkItem, hrun] at hitem
      | some run =>
          simp only [runWorkItem, hrun, Except.ok.injEq] at hitem
          subst hitem
          obtain ⟨hcursor, hsome, hdb⟩ := commitBatch_eq_ok h
          refine .inr ⟨run, rfl, ?_, hanswer, hcursor, hsome, hdb⟩
          simp only [checkConnection, hrun] at hconnection
          split at hconnection
          · cases hconnection
          · next heq => exact not_not.mp heq

/-! ### Approvals -/

def Database.afterApproval (db : Database) (approval : PendingApproval) (run : RunRow)
    (now : UtcTimestamp) : Database :=
  bumpRevision
    { db with
      approvalRequests := db.approvalRequests ++ [approval.row run.connectionId now.unixMillis] }
    run.workItemId now.unixMillis

/-- What a snapshot of an approval shows of its row. -/
theorem ApprovalRow.snapshot_eq_ok {row : ApprovalRow} {snapshot : ApprovalSnapshot}
    (h : row.snapshot = .ok snapshot) :
    snapshot.id = row.id ∧ snapshot.runId = row.runId ∧ snapshot.providerId = row.provider ∧
      row.approvalStatus = .ok snapshot.status := by
  unfold ApprovalRow.snapshot at h
  cases hstatus : row.approvalStatus with
  | error error => simp [hstatus, bind, Except.bind] at h
  | ok status =>
      simp only [hstatus, bind, Except.bind, pure, Except.pure, Except.ok.injEq] at h
      subst h
      exact ⟨rfl, rfl, rfl, rfl⟩

/-- A recorded approval is already stored, or is new and its run is running. -/
theorem recordPendingApproval_eq_ok {approval : PendingApproval} {snapshot : ApprovalSnapshot}
    (h : (recordPendingApproval now approval).run db = .ok (snapshot, db')) :
    (db' = db ∧ ∃ row, db.findApproval approval.id = some row ∧ row.snapshot = .ok snapshot ∧
        row.runId = approval.runId ∧ row.provider = approval.providerId) ∨
      (db.findApproval approval.id = none ∧
        ∃ run, db.findRun approval.runId = some run ∧ run.status = .running ∧
          db.approvalTaken run.connectionId approval.runId approval.providerId = false ∧
          (db.findWorkItem run.workItemId).isSome ∧ snapshot.id = approval.id ∧
          db' = db.afterApproval approval run now) := by
  unfold recordPendingApproval at h
  simp only [bind_eq_ok, lift_eq_ok, read_eq_ok] at h
  obtain ⟨_, _, ⟨_, rfl⟩, _, _, ⟨_, rfl⟩, _, _, ⟨rfl, rfl⟩, h⟩ := h
  split at h
  · next row hrow =>
      simp only [bind_eq_ok, lift_eq_ok] at h
      obtain ⟨found, _, ⟨hfound, rfl⟩, h⟩ := h
      split at h
      · next hsame =>
          simp only [pure_eq_ok] at h
          obtain ⟨rfl, rfl⟩ := h
          obtain ⟨_, hrun, hprovider, _⟩ := ApprovalRow.snapshot_eq_ok hfound
          exact .inl ⟨rfl, row, hrow, hfound, hrun ▸ hsame.1, hprovider ▸ hsame.2.1⟩
      · simp only [throw_eq_ok] at h
  · next hfresh =>
      split at h
      · simp only [throw_eq_ok] at h
      · next run hrun =>
          split at h
          · simp only [bind_eq_ok, throw_eq_ok, false_and, exists_false] at h
          · next hstatus =>
              simp only [bind_eq_ok, lift_eq_ok] at h
              obtain ⟨_, _, ⟨_, rfl⟩, h⟩ := h
              split at h
              · simp only [bind_eq_ok, throw_eq_ok, false_and, exists_false] at h
              · next hfree =>
                  simp only [bind_eq_ok, write_eq_ok, pure_eq_ok,
                    bumpWorkItemRevision_eq_ok] at h
                  obtain ⟨_, _, rfl, _, _, ⟨hitem, rfl⟩, rfl, rfl⟩ := h
                  exact .inr ⟨hfresh, run, hrun, not_not.mp hstatus, by simpa using hfree, hitem,
                    rfl, rfl⟩

theorem updateApproval_eq_ok {id : ApprovalRequestId} {expected : ApprovalColumn}
    {conflict : String} {update : ApprovalRow → ApprovalRow} {result : Unit} :
    (updateApproval id expected conflict update).run db = .ok (result, db') ↔
      (∃ row, db.findApproval id = some row ∧ row.status = expected) ∧
        { db with approvalRequests := Keyed.update (·.id) id update db.approvalRequests }
          = db' := by
  unfold updateApproval
  simp only [bind_eq_ok, read_eq_ok]
  constructor
  · rintro ⟨_, _, ⟨rfl, rfl⟩, h⟩
    split at h
    · simp only [throw_eq_ok] at h
    · next row hrow =>
        split at h
        · simp only [bind_eq_ok, throw_eq_ok, false_and, exists_false] at h
        · next hstatus =>
            simp only [write_eq_ok] at h
            exact ⟨⟨row, hrow, not_not.mp hstatus⟩, h⟩
  · rintro ⟨⟨row, hrow, hstatus⟩, rfl⟩
    refine ⟨db, db, ⟨rfl, rfl⟩, ?_⟩
    simp only [hrow, hstatus, ne_eq, not_true_eq_false, if_false, write_eq_ok]

/-- The bump both answering operations end with; the join is inner, so an
approval without a run would bump nothing. -/
def Database.bumpIfFound (db : Database) (workItemId : Option WorkItemId) (ms : Int) : Database :=
  match workItemId with
  | some workItemId => db.bumpRevision workItemId ms
  | none => db

theorem bumpApprovalWorkItem_eq_ok {workItemId : Option WorkItemId} {ms : Int} {result : Unit} :
    (bumpApprovalWorkItem workItemId ms).run db = .ok (result, db') ↔
      (∀ item, workItemId = some item → (db.findWorkItem item).isSome) ∧
        db.bumpIfFound workItemId ms = db' := by
  cases workItemId with
  | none =>
      simp only [bumpApprovalWorkItem, Database.bumpIfFound, pure_eq_ok, reduceCtorEq,
        false_implies, implies_true, true_and]
  | some item => simp [bumpApprovalWorkItem, Database.bumpIfFound, bumpWorkItemRevision_eq_ok]

def Database.afterBegin (db : Database) (response : BeginApprovalResponse) (now : UtcTimestamp) :
    Database :=
  bumpIfFound
    { db with
      approvalRequests := Keyed.update (·.id) response.approvalId
        (·.begin response.decision now.unixMillis) db.approvalRequests
      auditEvents := db.auditEvents ++
        [⟨response.auditEventId, .approvalResponseBegun response.approvalId response.decision,
          now.unixMillis⟩] }
    (db.approvalWorkItem response.approvalId) now.unixMillis

@[simp] theorem Database.bumpIfFound_projects (db : Database) (workItemId : Option WorkItemId)
    (ms : Int) : (db.bumpIfFound workItemId ms).projects = db.projects := by
  cases workItemId <;> rfl

@[simp] theorem Database.bumpIfFound_runs (db : Database) (workItemId : Option WorkItemId)
    (ms : Int) : (db.bumpIfFound workItemId ms).runs = db.runs := by
  cases workItemId <;> rfl

@[simp] theorem Database.bumpIfFound_timelineItems (db : Database)
    (workItemId : Option WorkItemId) (ms : Int) :
    (db.bumpIfFound workItemId ms).timelineItems = db.timelineItems := by
  cases workItemId <;> rfl

@[simp] theorem Database.bumpIfFound_approvalRequests (db : Database)
    (workItemId : Option WorkItemId) (ms : Int) :
    (db.bumpIfFound workItemId ms).approvalRequests = db.approvalRequests := by
  cases workItemId <;> rfl

@[simp] theorem Database.bumpIfFound_projectionCursors (db : Database)
    (workItemId : Option WorkItemId) (ms : Int) :
    (db.bumpIfFound workItemId ms).projectionCursors = db.projectionCursors := by
  cases workItemId <;> rfl

@[simp] theorem Database.bumpIfFound_auditEvents (db : Database) (workItemId : Option WorkItemId)
    (ms : Int) : (db.bumpIfFound workItemId ms).auditEvents = db.auditEvents := by
  cases workItemId <;> rfl

/-- Only a pending approval begins a response. -/
theorem beginApprovalResponse_eq_ok {response : BeginApprovalResponse}
    {snapshot : ApprovalSnapshot}
    (h : (beginApprovalResponse now response).run db = .ok (snapshot, db')) :
    (∃ row, db.findApproval response.approvalId = some row ∧ row.status = .pending) ∧
      (∀ row ∈ db.auditEvents, row.id ≠ response.auditEventId) ∧
      db' = db.afterBegin response now := by
  unfold beginApprovalResponse at h
  simp only [bind_eq_ok, lift_eq_ok, read_eq_ok, updateApproval_eq_ok, insertAudit_eq_ok,
    bumpApprovalWorkItem_eq_ok, getApproval_eq_ok] at h
  obtain ⟨_, _, ⟨_, rfl⟩, _, _, ⟨rfl, rfl⟩, _, _, ⟨hrow, rfl⟩, _, _, ⟨haudit, rfl⟩, _, _,
    ⟨_, rfl⟩, _, rfl⟩ := h
  exact ⟨hrow, haudit, rfl⟩

def Database.afterConfirm (db : Database) (response : ConfirmApprovalResponse)
    (decision : ApprovalDecision) (now : UtcTimestamp) : Database :=
  { bumpIfFound
      { db with
        approvalRequests := Keyed.update (·.id) response.approvalId (·.confirm now.unixMillis)
          db.approvalRequests }
      (db.approvalWorkItem response.approvalId) now.unixMillis with
    auditEvents := db.auditEvents ++
      [⟨response.auditEventId, .approvalResponseConfirmed response.approvalId decision,
        now.unixMillis⟩] }

theorem ApprovalRow.approvalStatus_eq_resolved {row : ApprovalRow} {decision : ApprovalDecision}
    (h : row.approvalStatus = .ok (.resolved decision)) :
    row.status = .resolved ∧ row.decision = some decision := by
  unfold ApprovalRow.approvalStatus at h
  split at h <;> simp_all

/-- Only a responding approval is confirmed, with the decision it was given. -/
theorem confirmApprovalResponse_eq_ok {response : ConfirmApprovalResponse}
    {snapshot : ApprovalSnapshot}
    (h : (confirmApprovalResponse now response).run db = .ok (snapshot, db')) :
    ∃ row decision, db.findApproval response.approvalId = some row ∧ row.status = .responding ∧
      row.decision = some decision ∧
      (∀ row ∈ db.auditEvents, row.id ≠ response.auditEventId) ∧
      db' = db.afterConfirm response decision now := by
  unfold confirmApprovalResponse at h
  simp only [bind_eq_ok, lift_eq_ok, read_eq_ok, updateApproval_eq_ok,
    bumpApprovalWorkItem_eq_ok, getApproval_eq_ok] at h
  obtain ⟨_, _, ⟨_, rfl⟩, _, _, ⟨rfl, rfl⟩, _, _, ⟨⟨row, hrow, hstatus⟩, rfl⟩, _, _, ⟨_, rfl⟩,
    read, _, ⟨⟨confirmed, hconfirmed, hread⟩, rfl⟩, h⟩ := h
  split at h
  · next decision hresolved =>
      simp only [bind_eq_ok, insertAudit_eq_ok, pure_eq_ok] at h
      obtain ⟨_, _, ⟨haudit, rfl⟩, _, rfl⟩ := h
      refine ⟨row, decision, hrow, hstatus, ?_, by simpa using haudit, ?_⟩
      · have hfind : confirmed = row.confirm now.unixMillis := by
          unfold Database.findApproval at hconfirmed
          rw [Database.bumpIfFound_approvalRequests, Keyed.lookup_update_self] at hconfirmed
          · rw [show Keyed.lookup (·.id) db.approvalRequests response.approvalId = some row
              from hrow] at hconfirmed
            exact (Option.some.inj hconfirmed).symm
          · exact fun _ => rfl
        have hdecision : confirmed.approvalStatus = .ok (.resolved decision) :=
          (ApprovalRow.snapshot_eq_ok hread).2.2.2.trans (by rw [hresolved])
        have := (ApprovalRow.approvalStatus_eq_resolved hdecision).2
        rwa [hfind] at this
      · simp [Database.afterConfirm]
  · simp only [throw_eq_ok] at h

end YakShed
