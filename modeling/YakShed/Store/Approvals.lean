/-
# Approval requests

Recording, answering and confirming one approval. Answering and confirming are
compare-and-sets on the status column, each with one audit row.
-/

import YakShed.Store.Runs

namespace YakShed

structure PendingApproval where
  id : ApprovalRequestId
  runId : RunId
  providerId : NamespacedProviderId
  kind : String
  summary : String

structure BeginApprovalResponse where
  approvalId : ApprovalRequestId
  decision : ApprovalDecision
  auditEventId : AuditEventId

structure ConfirmApprovalResponse where
  approvalId : ApprovalRequestId
  auditEventId : AuditEventId

/-- `approval_from_row`: the two columns must agree. -/
def ApprovalRow.approvalStatus (row : ApprovalRow) : Except StoreError ApprovalStatus :=
  match row.status, row.decision with
  | .pending, none => .ok .pending
  | .responding, some decision => .ok (.responding decision)
  | .resolved, some decision => .ok (.resolved decision)
  | .voided, decision => .ok (.voided decision)
  | _, _ => .error (.integrity "Query is not read-only")

def ApprovalRow.snapshot (row : ApprovalRow) : Except StoreError ApprovalSnapshot := do
  let status ← row.approvalStatus
  return { id := row.id, connectionId := row.connectionId, runId := row.runId
           providerId := row.provider, kind := row.kind, summary := row.summary
           status := status, requestedAt := ⟨row.requestedAtMs⟩
           responseStartedAt := row.responseStartedAtMs.map UtcTimestamp.mk
           resolvedAt := row.resolvedAtMs.map UtcTimestamp.mk
           voidedAt := row.voidedAtMs.map UtcTimestamp.mk }

def getApproval (id : ApprovalRequestId) : Txn ApprovalSnapshot := do
  let db ← Txn.read
  match db.findApproval id with
  | some row => row.snapshot
  | none => throw (.notFound "approval request" id.uuid.toText)

def approvalColumns : String :=
  "approval_requests.connection_id, approval_requests.run_id, " ++
    "approval_requests.provider_namespace, approval_requests.provider_approval_id"

/-- The row a recorded request starts with. -/
def PendingApproval.row (approval : PendingApproval) (connectionId : ConnectionId) (nowMs : Int) :
    ApprovalRow :=
  { id := approval.id, connectionId := connectionId, runId := approval.runId
    provider := approval.providerId, kind := approval.kind, summary := approval.summary
    status := .pending, decision := none, requestedAtMs := nowMs, responseStartedAtMs := none
    resolvedAtMs := none, voidedAtMs := none }

/-- The provider request is already recorded for the run. -/
def Database.approvalTaken (db : Database) (connectionId : ConnectionId) (runId : RunId)
    (provider : NamespacedProviderId) : Bool :=
  db.approvalRequests.any fun row =>
    row.connectionId = connectionId && row.runId = runId && row.provider = provider

def recordPendingApproval (now : UtcTimestamp) (approval : PendingApproval) :
    Txn ApprovalSnapshot := do
  validateAppId "approval request id" (isUuidV7 approval.id.uuid.bits)
  validateText "approval kind" approval.kind
  let db ← Txn.read
  match db.findApproval approval.id with
  | some existing =>
      let snapshot ← existing.snapshot
      if snapshot.runId = approval.runId ∧ snapshot.providerId = approval.providerId ∧
          snapshot.kind = approval.kind ∧ snapshot.summary = approval.summary then return snapshot
      else throw (.conflict ("approval id already exists with different content: " ++
        approval.id.uuid.toText))
  | none =>
      match db.findRun approval.runId with
      | none => throw (.notFound "run" approval.runId.uuid.toText)
      | some run =>
          if run.status ≠ .running then
            throw (.conflict "cannot record an approval for a terminal run")
          checkTextColumn "kind" approval.kind
          if db.approvalTaken run.connectionId approval.runId approval.providerId then
            throw (uniqueFailed approvalColumns)
          let row := approval.row run.connectionId now.unixMillis
          Txn.write { db with approvalRequests := db.approvalRequests ++ [row] }
          bumpWorkItemRevision run.workItemId now.unixMillis
          return { id := approval.id, connectionId := run.connectionId, runId := approval.runId
                   providerId := approval.providerId, kind := approval.kind
                   summary := approval.summary, status := .pending, requestedAt := now
                   responseStartedAt := none, resolvedAt := none, voidedAt := none }

/-- The work item of an approval's run, through the join of the two tables. -/
def Database.approvalWorkItem (db : Database) (id : ApprovalRequestId) : Option WorkItemId := do
  let approval ← db.findApproval id
  let run ← db.findRun approval.runId
  return run.workItemId

/-- `UPDATE approval_requests … WHERE id = ? AND status = ?`, and what a miss
means: a conflict for an existing row, else an unknown id. -/
def updateApproval (id : ApprovalRequestId) (expected : ApprovalColumn) (conflict : String)
    (update : ApprovalRow → ApprovalRow) : Txn Unit := do
  let db ← Txn.read
  match db.findApproval id with
  | none => throw (.notFound "approval request" id.uuid.toText)
  | some row =>
      if row.status ≠ expected then throw (.conflict conflict)
      Txn.write { db with approvalRequests := Keyed.update (·.id) id update db.approvalRequests }

def bumpApprovalWorkItem (workItemId : Option WorkItemId) (nowMs : Int) : Txn Unit :=
  match workItemId with
  | some workItemId => bumpWorkItemRevision workItemId nowMs
  | none => pure ()

def ApprovalRow.begin (row : ApprovalRow) (decision : ApprovalDecision) (nowMs : Int) :
    ApprovalRow :=
  { row with status := .responding, decision := some decision, responseStartedAtMs := some nowMs }

def ApprovalRow.confirm (row : ApprovalRow) (nowMs : Int) : ApprovalRow :=
  { row with status := .resolved, resolvedAtMs := some nowMs }

def beginApprovalResponse (now : UtcTimestamp) (response : BeginApprovalResponse) :
    Txn ApprovalSnapshot := do
  validateAppId "audit event id" (isUuidV7 response.auditEventId.uuid.bits)
  let db ← Txn.read
  let workItemId := db.approvalWorkItem response.approvalId
  updateApproval response.approvalId .pending "approval response has already begun"
    (·.begin response.decision now.unixMillis)
  insertAudit response.auditEventId
    (.approvalResponseBegun response.approvalId response.decision) now.unixMillis
  bumpApprovalWorkItem workItemId now.unixMillis
  getApproval response.approvalId

def confirmApprovalResponse (now : UtcTimestamp) (response : ConfirmApprovalResponse) :
    Txn ApprovalSnapshot := do
  validateAppId "audit event id" (isUuidV7 response.auditEventId.uuid.bits)
  let db ← Txn.read
  let workItemId := db.approvalWorkItem response.approvalId
  updateApproval response.approvalId .responding "approval response is not awaiting confirmation"
    (·.confirm now.unixMillis)
  bumpApprovalWorkItem workItemId now.unixMillis
  let snapshot ← getApproval response.approvalId
  match snapshot.status with
  | .resolved decision =>
      insertAudit response.auditEventId
        (.approvalResponseConfirmed response.approvalId decision) now.unixMillis
      return snapshot
  | _ => throw (.integrity "invalid approval transition")

/-- The shape of every approval listing. -/
def listApprovals (keep : ApprovalRow → Bool) (after : Option ApprovalRequestId) (limit : Nat) :
    Txn (Page ApprovalSnapshot ApprovalRequestId) := do
  let limit ← validatePageSize limit
  let db ← Txn.read
  let rows := (orderById (·.id.uuid) db.approvalRequests).filter fun row =>
    keep row && isAfter (after.map (·.uuid)) row.id.uuid
  let items ← readRows ApprovalRow.snapshot (rows.take (limit + 1))
  return Page.ofRows (·.id) limit items

def listPendingApprovals (after : Option ApprovalRequestId) (limit : Nat) :
    Txn (Page ApprovalSnapshot ApprovalRequestId) :=
  listApprovals (·.status = .pending) after limit

def listApprovalsForRun (runId : RunId) (after : Option ApprovalRequestId) (limit : Nat) :
    Txn (Page ApprovalSnapshot ApprovalRequestId) :=
  listApprovals (·.runId = runId) after limit

def listUnconfirmedApprovalResponses (after : Option ApprovalRequestId) (limit : Nat) :
    Txn (Page ApprovalSnapshot ApprovalRequestId) :=
  listApprovals (·.status = .responding) after limit

end YakShed
