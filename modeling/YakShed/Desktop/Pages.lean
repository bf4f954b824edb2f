/-
# Paged reads of the desktop facade

Every command of the facade is a program of separate calls of the store; what
others do to the store may come between any two of them. The four paged reads
share one loop: they read the revision of the work item, then a page of one of
its lists, then the revision again, and start over where the two differ.
-/

import YakShed.Store.Listings

namespace YakShed.Desktop

/-! ## Errors -/

/-- The classes of failure that the frontend tells apart. -/
inductive DesktopErrorCode
  | invalidRequest
  | conflict
  | notFound
  | unsupported
  | backendUnavailable
  | notAuthenticated
  | persistenceError
  | outcomeUnknown
  | internalError
  deriving DecidableEq, Repr

/-- What a failed command answers. -/
structure DesktopError where
  code : DesktopErrorCode
  message : String
  detail : Option String
  deriving DecidableEq, Repr

namespace DesktopError

/-- An error without a detail. -/
def new (code : DesktopErrorCode) (message : String) : DesktopError := ⟨code, message, none⟩

def invalidRequest : String → DesktopError := new .invalidRequest

def notFound : String → DesktopError := new .notFound

def conflict : String → DesktopError := new .conflict

def unsupported : String → DesktopError := new .unsupported

end DesktopError

/-- `map_store_error`: nothing of what the store says reaches the frontend. -/
def mapStoreError : StoreError → DesktopError
  | .notFound _ _ => .notFound "record not found"
  | .conflict _ => .conflict "state conflict"
  | .unsupportedNewerSchema _ _ => .unsupported "unsupported persistence schema"
  | .closed => .unsupported "persistence backend closed"
  | .open _ | .migration _ | .integrity _ => .new .persistenceError "persistence failure"
  | .backend _ => .new .internalError "persistence failed"

/-! ## Sessions -/

/-- A command of the facade: finished, or one call of the store and what follows
on its answer. -/
inductive Session (α : Type) : Type 1
  | done (result : Except DesktopError α)
  | ask {β : Type} (op : AppStore β) (next : Except StoreError β → Session α)

namespace Session

variable {α β : Type}

/-- `?`: the rest of a command runs only after a success. -/
def bind : Session α → (α → Session β) → Session β
  | .done (.ok value), rest => rest value
  | .done (.error error), _ => .done (.error error)
  | .ask op next, rest => .ask op fun answer => (next answer).bind rest

instance : Monad Session where
  pure value := .done (.ok value)
  bind := bind

/-- The command ends without a call. -/
def fail (error : DesktopError) : Session α := .done (.error error)

/-- One call of the store; `map_err(map_store_error)` and `?` on its answer. -/
def store (op : AppStore α) : Session α :=
  .ask op fun answer => .done (answer.mapError mapStoreError)

/-- The command with nothing between its calls. -/
def alone [Sha256] (now : UtcTimestamp) : Database → Session α → Except DesktopError α
  | _, .done result => result
  | db, .ask op next => alone now (op.exec now db).2 (next (op.exec now db).1)

end Session

/-- A command ends with a result after the given calls of the store, its own and
those that others made meanwhile. -/
inductive Runs [Sha256] {α : Type} (result : Except DesktopError α) :
    Database → Session α → List Call → Prop
  | done {db : Database} : Runs result db (.done result) []
  | other {db : Database} {session : Session α} {trace : List Call} (call : Call)
      (rest : Runs result (db.after call) session trace) : Runs result db session (call :: trace)
  | ask {β : Type} {db : Database} {op : AppStore β} {next : Except StoreError β → Session α}
      {trace : List Call} (now : UtcTimestamp)
      (rest : Runs result (db.after ⟨op, now⟩) (next (op.exec now db).1) trace) :
      Runs result db (.ask op next) (⟨op, now⟩ :: trace)

/-! ## What the frontend is given -/

/-- The status of a run, as the frontend names it. -/
inductive FrontendRunStatus
  | starting
  | running
  | completed
  | failed
  | interrupted
  | disconnected
  | outcomeUnknown
  deriving DecidableEq, Repr

/-- Both have the same cases. -/
def mapRunStatus : RunStatus → FrontendRunStatus
  | .starting => .starting
  | .running => .running
  | .completed => .completed
  | .failed => .failed
  | .interrupted => .interrupted
  | .disconnected => .disconnected
  | .outcomeUnknown => .outcomeUnknown

/-- Identifiers are texts and times are milliseconds here and below. -/
structure FrontendWorkItemSnapshot where
  id : String
  projectId : String
  title : String
  status : String
  parentId : Option String
  revision : Nat
  createdAtMs : Int
  updatedAtMs : Int
  deriving DecidableEq, Repr

/-- A run without the identity that its provider gave it. -/
structure FrontendRunSnapshot where
  id : String
  connectionId : String
  workItemId : String
  status : FrontendRunStatus
  createdAtMs : Int
  endedAtMs : Option Int
  deriving DecidableEq, Repr

/-- An approval, whose status and decision are words. -/
structure FrontendApprovalSnapshot where
  id : String
  connectionId : String
  runId : String
  kind : String
  summary : String
  status : String
  decision : Option String
  requestedAtMs : Int
  responseStartedAtMs : Option Int
  resolvedAtMs : Option Int
  voidedAtMs : Option Int
  deriving DecidableEq, Repr

/-- A question that a run waits on. -/
structure FrontendPendingUserInput where
  id : String
  runId : String
  prompt : String
  deriving DecidableEq, Repr

/-- A row of a timeline, without its provider identity. -/
structure FrontendTimelineItemSnapshot where
  id : String
  connectionId : String
  runId : String
  revision : Nat
  kind : String
  body : String
  createdAtMs : Int
  deriving DecidableEq, Repr

/-- A work item with a page of its runs. -/
structure WorkItemSnapshotEnvelope where
  revision : Nat
  workItem : FrontendWorkItemSnapshot
  runs : List FrontendRunSnapshot
  nextRunAfter : Option String
  deriving DecidableEq, Repr

/-- A page of a run's approvals, at a revision of its work item. -/
structure RunApprovalPageEnvelope where
  workItemRevision : Nat
  approvals : List FrontendApprovalSnapshot
  nextAfter : Option String
  deriving DecidableEq, Repr

/-- A page of a run's open questions, at a revision of its work item. -/
structure PendingUserInputPageEnvelope where
  workItemRevision : Nat
  inputs : List FrontendPendingUserInput
  nextAfter : Option String
  deriving DecidableEq, Repr

/-- A page of a run's timeline, at a revision of its work item. -/
structure WorkItemTimelineEnvelope where
  runId : String
  workItemRevision : Nat
  items : List FrontendTimelineItemSnapshot
  nextAfter : Option Nat
  deriving DecidableEq, Repr

/-- `frontend_work_item`. -/
def frontendWorkItem (item : WorkItemSnapshot) : FrontendWorkItemSnapshot :=
  { id := item.id.uuid.toText
    projectId := item.projectId.uuid.toText
    title := item.title
    status := match item.status with
      | .ready => "ready"
      | .archived => "archived"
    parentId := item.parentId.map (·.uuid.toText)
    revision := item.revision
    createdAtMs := item.createdAt.unixMillis
    updatedAtMs := item.updatedAt.unixMillis }

/-- `frontend_run`. -/
def frontendRun (run : RunSnapshot) : FrontendRunSnapshot :=
  { id := run.id.uuid.toText
    connectionId := run.connectionId.uuid.toText
    workItemId := run.workItemId.uuid.toText
    status := mapRunStatus run.status
    createdAtMs := run.createdAt.unixMillis
    endedAtMs := run.endedAt.map (·.unixMillis) }

/-- The state of an approval and its decision, as the frontend names them. -/
def approvalState : ApprovalStatus → String × Option String
  | .pending => ("pending", none)
  | .responding decision => ("responding", some decision.value)
  | .resolved decision => ("resolved", some decision.value)
  | .voided decision => ("voided", decision.map ApprovalDecision.value)

/-- `frontend_approval`. -/
def frontendApproval (approval : ApprovalSnapshot) : FrontendApprovalSnapshot :=
  { id := approval.id.uuid.toText
    connectionId := approval.connectionId.uuid.toText
    runId := approval.runId.uuid.toText
    kind := approval.kind
    summary := approval.summary
    status := (approvalState approval.status).1
    decision := (approvalState approval.status).2
    requestedAtMs := approval.requestedAt.unixMillis
    responseStartedAtMs := approval.responseStartedAt.map (·.unixMillis)
    resolvedAtMs := approval.resolvedAt.map (·.unixMillis)
    voidedAtMs := approval.voidedAt.map (·.unixMillis) }

/-- The conversion of a question. -/
def frontendPendingUserInput (input : PendingUserInputSnapshot) : FrontendPendingUserInput :=
  { id := input.id.uuid.toText
    runId := input.runId.uuid.toText
    prompt := input.prompt }

/-- The conversion of a row. -/
def frontendTimelineItem (item : TimelineItemSnapshot) : FrontendTimelineItemSnapshot :=
  { id := item.id.uuid.toText
    connectionId := item.connectionId.uuid.toText
    runId := item.runId.uuid.toText
    revision := item.revision
    kind := item.kind
    body := item.body
    createdAtMs := item.createdAt.unixMillis }

/-! ## The commands -/

/-- How often the loop is entered before the command gives up. -/
def snapshotRetries : Nat := 256

/-- The most rows that a page of runs, approvals or questions has. -/
def recoveryPageSize : Nat := 50

/-- The loop of the paged reads, over what they list and how they answer. -/
def snapshotLoop {β κ ε : Type} (id : WorkItemId) (expectedRevision : Option Nat)
    (list : AppStore (Page β κ)) (envelope : WorkItemSnapshot → Page β κ → ε) : Nat → Session ε
  | 0 => .fail (.conflict "work item changed during snapshot")
  | retries + 1 => do
      let workItem ← Session.store (.getWorkItem id)
      if expectedRevision.any (· ≠ workItem.revision) then
        Session.fail (.conflict "work item revision changed")
      else do
        let page ← Session.store list
        let current ← Session.store (.getWorkItem id)
        if current.revision = workItem.revision then
          return envelope workItem page
        else snapshotLoop id expectedRevision list envelope retries

/-- The work item itself is what the revision guards, so no run is looked up first. -/
def getWorkItemSnapshotPage (id : WorkItemId) (after : Option RunId) (limit : Nat)
    (expectedRevision : Option Nat) : Session WorkItemSnapshotEnvelope :=
  snapshotLoop id expectedRevision (.listRunsForWorkItem id after (min limit recoveryPageSize))
    (fun workItem runs =>
      { revision := workItem.revision
        workItem := frontendWorkItem workItem
        runs := runs.items.map frontendRun
        nextRunAfter := runs.nextAfter.map (·.uuid.toText) })
    snapshotRetries

/-- The check before a loop over something of a run. -/
def requireRunOf (workItemId : WorkItemId) (runId : RunId) : Session Unit := do
  let run ← Session.store (.getRun runId)
  if run.workItemId ≠ workItemId then
    Session.fail (.invalidRequest "run does not belong to work item")
  else return ()

/-- The run is looked up once, before the loop. -/
def getRunApprovalPage (workItemId : WorkItemId) (runId : RunId)
    (after : Option ApprovalRequestId) (limit : Nat) (expectedRevision : Option Nat) :
    Session RunApprovalPageEnvelope := do
  requireRunOf workItemId runId
  snapshotLoop workItemId expectedRevision
    (.listApprovalsForRun runId after (min limit recoveryPageSize))
    (fun workItem page =>
      { workItemRevision := workItem.revision
        approvals := page.items.map frontendApproval
        nextAfter := page.nextAfter.map (·.uuid.toText) })
    snapshotRetries

/-- As for approvals. -/
def getPendingUserInputPage (workItemId : WorkItemId) (runId : RunId)
    (after : Option TimelineItemId) (limit : Nat) (expectedRevision : Option Nat) :
    Session PendingUserInputPageEnvelope := do
  requireRunOf workItemId runId
  snapshotLoop workItemId expectedRevision
    (.listPendingUserInputsForRun runId after (min limit recoveryPageSize))
    (fun workItem page =>
      { workItemRevision := workItem.revision
        inputs := page.items.map frontendPendingUserInput
        nextAfter := page.nextAfter.map (·.uuid.toText) })
    snapshotRetries

/-- The page size is the caller's. -/
def getWorkItemTimelinePageAtRevision (workItemId : WorkItemId) (runId : RunId)
    (after : Option TimelineRevision) (limit : Nat) (expectedRevision : Option Nat) :
    Session WorkItemTimelineEnvelope := do
  requireRunOf workItemId runId
  snapshotLoop workItemId expectedRevision (.listTimelinePage ⟨runId, after, limit⟩)
    (fun workItem page =>
      { runId := runId.uuid.toText
        workItemRevision := workItem.revision
        items := page.items.map frontendTimelineItem
        nextAfter := page.nextAfter })
    snapshotRetries

end YakShed.Desktop
