/-
# Projects, work items and runs

The store operations on the work graph and on run rows. `applyRunTransition` is
a compare-and-set on the status column: it writes only where the row still has
the expected status, and a terminal target voids the run's pending approvals in
the same transaction.
-/

import YakShed.Store.Database
import Mathlib.Data.List.Sort

namespace YakShed

/-! ## Input checks shared by the operations -/

def validateText (field value : String) : Except StoreError Unit :=
  if trimIsEmpty value then .error (.conflict (field ++ " cannot be empty")) else .ok ()

def validateAppId (field : String) (isV7 : Bool) : Except StoreError Unit :=
  if isV7 then .ok () else .error (.conflict (field ++ " must be a UUIDv7"))

def maxPageSize : Nat := 200

def validatePageSize (limit : Nat) : Except StoreError Nat :=
  if 1 ≤ limit ∧ limit ≤ maxPageSize then .ok limit
  else .error (.conflict ("page size must be between 1 and " ++ toString maxPageSize))

/-- One page of a keyset listing. -/
structure Page (α κ : Type) where
  items : List α
  nextAfter : Option κ
  deriving DecidableEq

/-- Fetches one row past the limit to learn whether more rows follow. -/
def Page.ofRows {α κ : Type} (key : α → κ) (limit : Nat) (rows : List α) : Page α κ :=
  let fetched := rows.take (limit + 1)
  let items := fetched.take limit
  { items := items
    nextAfter := if limit < fetched.length then items.getLast?.map key else none }

/-- `(?after IS NULL OR id > ?after)`. -/
def isAfter (after : Option Uuid) (id : Uuid) : Bool :=
  match after with
  | none => true
  | some bound => bound < id

def orderById {α : Type} (key : α → Uuid) (rows : List α) : List α :=
  rows.insertionSort fun first second => key first ≤ key second

/-- Converts the fetched rows; one unreadable row fails the page. -/
def readRows {α β : Type} (convert : α → Except StoreError β) (rows : List α) :
    Except StoreError (List β) :=
  rows.mapM convert

/-! ## Projects and work items -/

structure CreateProject where
  id : ProjectId
  name : String

structure CreateWorkItem where
  id : WorkItemId
  projectId : ProjectId
  title : String
  parentId : Option WorkItemId

structure ListWorkItems where
  projectId : ProjectId
  after : Option WorkItemId
  limit : Nat
  includeArchived : Bool

def ProjectRow.snapshot (row : ProjectRow) : ProjectSnapshot :=
  ⟨row.id, row.name, ⟨row.createdAtMs⟩⟩

def Database.parentOf (db : Database) (child : WorkItemId) : Option WorkItemId :=
  (Keyed.lookup (·.childId) db.workEdges child).map (·.parentId)

def Database.workItemSnapshot (db : Database) (row : WorkItemRow) : WorkItemSnapshot :=
  { id := row.id, projectId := row.projectId, title := row.title, status := row.status
    parentId := db.parentOf row.id, revision := row.revision
    createdAt := ⟨row.createdAtMs⟩, updatedAt := ⟨row.updatedAtMs⟩ }

def createProject (now : UtcTimestamp) (command : CreateProject) : Txn ProjectSnapshot := do
  validateAppId "project id" (isUuidV7 command.id.uuid.bits)
  validateText "project name" command.name
  let db ← Txn.read
  match db.findProject command.id with
  | some existing =>
      if existing.name = command.name then return existing.snapshot
      else throw (.conflict ("project id already exists with different content: " ++
        command.id.uuid.toText))
  | none =>
      checkTextColumn "name" command.name
      Txn.write { db with projects := db.projects ++ [⟨command.id, command.name, now.unixMillis⟩] }
      return ⟨command.id, command.name, now⟩

def listProjects (after : Option ProjectId) (limit : Nat) :
    Txn (Page ProjectSnapshot ProjectId) := do
  let limit ← validatePageSize limit
  let db ← Txn.read
  let rows := (orderById (·.id.uuid) db.projects).filter fun row =>
    isAfter (after.map (·.uuid)) row.id.uuid
  return Page.ofRows (·.id) limit (rows.map ProjectRow.snapshot)

def getWorkItem (id : WorkItemId) : Txn WorkItemSnapshot := do
  let db ← Txn.read
  match db.findWorkItem id with
  | some row => return db.workItemSnapshot row
  | none => throw (.notFound "work item" id.uuid.toText)

/-- The parent must exist, share the project and not be archived. -/
def checkParent (db : Database) (projectId : ProjectId) (parentId : WorkItemId) :
    Except StoreError Unit :=
  match db.findWorkItem parentId with
  | none => .error (.notFound "parent work item" parentId.uuid.toText)
  | some parent =>
      if parent.projectId ≠ projectId then
        .error (.conflict "parent and child must belong to the same project")
      else if parent.status = .archived then
        .error (.conflict "cannot attach an active work item to an archived parent")
      else .ok ()

def createWorkItem (now : UtcTimestamp) (command : CreateWorkItem) : Txn WorkItemSnapshot := do
  validateAppId "work item id" (isUuidV7 command.id.uuid.bits)
  validateText "work item title" command.title
  let db ← Txn.read
  match db.findWorkItem command.id with
  | some existing =>
      let snapshot := db.workItemSnapshot existing
      if snapshot.projectId = command.projectId ∧ snapshot.title = command.title ∧
          snapshot.parentId = command.parentId then return snapshot
      else throw (.conflict ("work item id already exists with different content: " ++
        command.id.uuid.toText))
  | none =>
      if (db.findProject command.projectId).isNone then
        throw (.notFound "project" command.projectId.uuid.toText)
      match command.parentId with
      | some parentId => checkParent db command.projectId parentId
      | none => pure ()
      checkTextColumn "title" command.title
      let row : WorkItemRow :=
        { id := command.id, projectId := command.projectId, title := command.title
          status := .ready, revision := 1, createdAtMs := now.unixMillis
          updatedAtMs := now.unixMillis, archivedAtMs := none }
      Txn.write { db with
        workItems := db.workItems ++ [row]
        workEdges := db.workEdges ++ (command.parentId.map (⟨·, command.id⟩)).toList }
      return { id := command.id, projectId := command.projectId, title := command.title
               status := .ready, parentId := command.parentId, revision := 1
               createdAt := now, updatedAt := now }

def listWorkItems (query : ListWorkItems) : Txn (Page WorkItemSnapshot WorkItemId) := do
  let limit ← validatePageSize query.limit
  let db ← Txn.read
  let rows := (orderById (·.id.uuid) db.workItems).filter fun row =>
    row.projectId = query.projectId && (query.includeArchived || row.status ≠ .archived) &&
      isAfter (query.after.map (·.uuid)) row.id.uuid
  return Page.ofRows (·.id) limit (rows.map db.workItemSnapshot)

/-- One round of the recursive query: the children of the given items. -/
def Database.childrenOf (db : Database) (items : List WorkItemId) : List WorkItemId :=
  (db.workEdges.filter fun edge => edge.parentId ∈ items).map (·.childId)

/-- The recursive `subtree` query, one round per edge of the table at most: a
forest has no longer path. -/
def Database.subtree (db : Database) : Nat → List WorkItemId → List WorkItemId
  | 0, frontier => frontier
  | rounds + 1, frontier =>
      match db.childrenOf frontier with
      | [] => frontier
      | children => frontier ++ db.subtree rounds children

def WorkItemRow.archive (row : WorkItemRow) (nowMs : Int) : WorkItemRow :=
  { row with
    status := .archived, revision := row.revision + 1
    archivedAtMs := some nowMs, updatedAtMs := nowMs }

def archiveWorkSubtree (now : UtcTimestamp) (root : WorkItemId) : Txn Nat := do
  let db ← Txn.read
  if (db.findWorkItem root).isNone then throw (.notFound "work item" root.uuid.toText)
  let subtree := db.subtree db.workEdges.length [root]
  let affected (row : WorkItemRow) : Bool := row.id ∈ subtree && row.status ≠ .archived
  Txn.write { db with
    workItems := db.workItems.map fun row =>
      if affected row then row.archive now.unixMillis else row }
  return db.workItems.countP affected

/-! ## Runs -/

structure CreateRun where
  id : RunId
  connectionId : ConnectionId
  workItemId : WorkItemId
  providerRun : Option ProviderRunIdentity

structure TransitionRun where
  runId : RunId
  expectedCurrent : RunStatus
  target : RunStatus
  providerId : Option ProviderRunIdentity
  occurredAt : UtcTimestamp
  auditEventId : AuditEventId

def RunRow.snapshot (row : RunRow) : RunSnapshot :=
  { id := row.id, connectionId := row.connectionId, workItemId := row.workItemId
    status := row.status, providerId := row.provider
    createdAt := ⟨row.createdAtMs⟩, endedAt := row.endedAtMs.map UtcTimestamp.mk }

/-- The unique constraint over the connection and the four provider columns;
SQL compares rows without a provider identity as distinct. -/
def Database.providerTaken (db : Database) (except : RunId) (connection : ConnectionId)
    (provider : Option ProviderRunIdentity) : Bool :=
  provider.isSome && db.runs.any fun row =>
    row.id ≠ except && row.connectionId = connection && row.provider = provider

def providerColumns : String :=
  "runs.connection_id, runs.provider_namespace, runs.provider_runtime_id, " ++
    "runs.provider_session_id, runs.provider_run_id"

def WorkItemRow.bump (row : WorkItemRow) (occurredAtMs : Int) : WorkItemRow :=
  { row with revision := row.revision + 1, updatedAtMs := occurredAtMs }

def bumpWorkItemRevision (workItemId : WorkItemId) (occurredAtMs : Int) : Txn Unit := do
  let db ← Txn.read
  if (db.findWorkItem workItemId).isNone then
    throw (.notFound "work item" workItemId.uuid.toText)
  Txn.write { db with
    workItems := Keyed.update (·.id) workItemId (·.bump occurredAtMs) db.workItems }

def createRun (now : UtcTimestamp) (command : CreateRun) : Txn RunSnapshot := do
  validateAppId "run id" (isUuidV7 command.id.uuid.bits)
  let db ← Txn.read
  match db.findRun command.id with
  | some existing =>
      if existing.workItemId = command.workItemId ∧ existing.connectionId = command.connectionId ∧
          existing.provider = command.providerRun then return existing.snapshot
      else throw (.conflict ("run id already exists with different content: " ++
        command.id.uuid.toText))
  | none =>
      match (db.findWorkItem command.workItemId).map (·.status) with
      | none => throw (.notFound "work item" command.workItemId.uuid.toText)
      | some WorkItemStatus.archived =>
          throw (.conflict ("archived work item cannot accept a run: " ++
            command.workItemId.uuid.toText))
      | some WorkItemStatus.ready =>
          if db.providerTaken command.id command.connectionId command.providerRun then
            throw (uniqueFailed providerColumns)
          let row : RunRow :=
            { id := command.id, connectionId := command.connectionId
              workItemId := command.workItemId, status := .starting
              provider := command.providerRun, createdAtMs := now.unixMillis, endedAtMs := none }
          Txn.write { db with runs := db.runs ++ [row] }
          bumpWorkItemRevision command.workItemId now.unixMillis
          return row.snapshot

def getRun (id : RunId) : Txn RunSnapshot := do
  let db ← Txn.read
  match db.findRun id with
  | some row => return row.snapshot
  | none => throw (.notFound "run" id.uuid.toText)

/-- `ended_at_ms` of the store: only a terminal status has an end. -/
def endedAtFor (target : RunStatus) (occurredAtMs : Int) : Option Int :=
  if target.isTerminal then some occurredAtMs else none

/-- The row the conditional `UPDATE` of a transition leaves. `COALESCE` keeps
the stored identity where the command has none. -/
def RunRow.transition (row : RunRow) (command : TransitionRun) : RunRow :=
  { row with
    status := command.target
    endedAtMs := endedAtFor command.target command.occurredAt.unixMillis
    provider := command.providerId.or row.provider }

/-- Whether the bulk `UPDATE` of a terminal transition voids this approval. -/
def ApprovalRow.isPendingFor (row : ApprovalRow) (run : RunId) : Bool :=
  row.runId = run && row.status = .pending

def ApprovalRow.void (row : ApprovalRow) (nowMs : Int) : ApprovalRow :=
  { row with status := .voided, voidedAtMs := some nowMs }

/-- Appends one audit row; its id is the table's primary key. -/
def insertAudit (id : AuditEventId) (report : AuditReport) (nowMs : Int) : Txn Unit := do
  let db ← Txn.read
  if db.auditEvents.any (·.id = id) then throw (uniqueFailed "audit_events.id")
  Txn.write { db with auditEvents := db.auditEvents ++ [⟨id, report, nowMs⟩] }

def voidPendingApprovals (run : RunId) (target : RunStatus) (nowMs : Int) : Txn Nat := do
  if target.isTerminal then
    let db ← Txn.read
    Txn.write { db with
      approvalRequests := db.approvalRequests.map fun row =>
        if row.isPendingFor run then row.void nowMs else row }
    return db.approvalRequests.countP (·.isPendingFor run)
  else return 0

def applyRunTransition (command : TransitionRun) : Txn RunSnapshot := do
  let run ← getRun command.runId
  let db ← Txn.read
  if run.status ≠ command.expectedCurrent then
    throw (.conflict ("run state conflict: expected " ++ command.expectedCurrent.value ++
      ", current " ++ run.status.value))
  if db.providerTaken command.runId run.connectionId (command.providerId.or run.providerId) then
    throw (uniqueFailed providerColumns)
  Txn.write { db with
    runs := Keyed.update (·.id) command.runId (·.transition command) db.runs }
  let voided ← voidPendingApprovals command.runId command.target command.occurredAt.unixMillis
  insertAudit command.auditEventId
    (.runTransitioned command.runId command.expectedCurrent command.target voided)
    command.occurredAt.unixMillis
  bumpWorkItemRevision run.workItemId command.occurredAt.unixMillis
  getRun command.runId

def transitionRun (command : TransitionRun) : Txn RunSnapshot := do
  validateAppId "audit event id" (isUuidV7 command.auditEventId.uuid.bits)
  unless command.expectedCurrent.canTransitionTo command.target do
    throw (.conflict "illegal run state transition")
  applyRunTransition command

/-- The shape of every run listing: a filter, the keyset condition, one page. -/
def listRuns (keep : RunRow → Bool) (after : Option RunId) (limit : Nat) :
    Txn (Page RunSnapshot RunId) := do
  let limit ← validatePageSize limit
  let db ← Txn.read
  let rows := (orderById (·.id.uuid) db.runs).filter fun row =>
    keep row && isAfter (after.map (·.uuid)) row.id.uuid
  return Page.ofRows (·.id) limit (rows.map RunRow.snapshot)

def listRunsForWorkItem (workItemId : WorkItemId) (after : Option RunId) (limit : Nat) :
    Txn (Page RunSnapshot RunId) :=
  listRuns (·.workItemId = workItemId) after limit

def listActiveRuns (after : Option RunId) (limit : Nat) : Txn (Page RunSnapshot RunId) :=
  listRuns (·.status.isActive) after limit

/-- The statuses that a restarted supervisor has to look at again. -/
def RunStatus.needsReconciliation : RunStatus → Bool
  | starting | running | disconnected | outcomeUnknown => true
  | _ => false

def listRunsNeedingReconciliation (after : Option RunId) (limit : Nat) :
    Txn (Page RunSnapshot RunId) :=
  listRuns (·.status.needsReconciliation) after limit

end YakShed
