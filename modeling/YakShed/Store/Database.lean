/-
# Tables and transactions

The durable tables of `yakshed.sqlite3` as the row lists SQLite keeps, oldest
row first, and the transaction monad the store's operations run in. A
transaction that returns an error is dropped without a commit, so its writes
never reach the caller's database.

A row groups nullable columns that a table constraint ties together: the four
provider columns of `runs` are one optional identity.
-/

import YakShed.Domain.Lifecycle
import YakShed.Collections.Keyed

namespace YakShed

inductive StoreError
  | notFound (entity id : String)
  | conflict (message : String)
  | integrity (message : String)
  | migration (message : String)
  | unsupportedNewerSchema (found supported : Nat)
  | open (message : String)
  | backend (message : String)
  | closed
  deriving DecidableEq, Repr

/-! ## Rows -/

structure ProjectRow where
  id : ProjectId
  name : String
  createdAtMs : Int
  deriving DecidableEq, Repr

structure WorkItemRow where
  id : WorkItemId
  projectId : ProjectId
  title : String
  status : WorkItemStatus
  revision : Nat
  createdAtMs : Int
  updatedAtMs : Int
  archivedAtMs : Option Int
  deriving DecidableEq, Repr

/-- A row of `work_edges`; its `kind` column is always `'parent'`. -/
structure WorkEdgeRow where
  parentId : WorkItemId
  childId : WorkItemId
  deriving DecidableEq, Repr

structure RunRow where
  id : RunId
  connectionId : ConnectionId
  workItemId : WorkItemId
  status : RunStatus
  provider : Option ProviderRunIdentity
  createdAtMs : Int
  endedAtMs : Option Int
  deriving DecidableEq

structure TimelineItemRow where
  id : TimelineItemId
  connectionId : ConnectionId
  runId : RunId
  revision : Nat
  kind : String
  body : String
  provider : Option NamespacedProviderId
  createdAtMs : Int
  deriving DecidableEq

/-- The text values of `approval_requests.status`. -/
inductive ApprovalColumn
  | pending
  | responding
  | resolved
  | voided
  deriving DecidableEq, Repr

structure ApprovalRow where
  id : ApprovalRequestId
  connectionId : ConnectionId
  runId : RunId
  provider : NamespacedProviderId
  kind : String
  summary : String
  status : ApprovalColumn
  decision : Option ApprovalDecision
  requestedAtMs : Int
  responseStartedAtMs : Option Int
  resolvedAtMs : Option Int
  voidedAtMs : Option Int
  deriving DecidableEq

/-- The primary key of `projection_cursors`. -/
structure StreamKey where
  connectionId : ConnectionId
  runId : RunId
  sourceNamespace : String
  streamId : String
  deriving DecidableEq, Repr

structure CursorRow where
  key : StreamKey
  cursor : Nat
  lastBatchId : TimelineBatchId
  lastStartCursor : Nat
  lastPayloadDigest : String
  updatedAtMs : Int
  deriving DecidableEq, Repr

/-- What an audit row reports. The text columns are functions of it. -/
inductive AuditReport
  | runTransitioned (run : RunId) (expected target : RunStatus) (voided : Nat)
  | approvalResponseBegun (approval : ApprovalRequestId) (decision : ApprovalDecision)
  | approvalResponseConfirmed (approval : ApprovalRequestId) (decision : ApprovalDecision)
  deriving DecidableEq, Repr

namespace AuditReport

def eventType : AuditReport → String
  | runTransitioned .. => "run_transitioned"
  | approvalResponseBegun .. => "approval_response_begun"
  | approvalResponseConfirmed .. => "approval_response_confirmed"

def entityType : AuditReport → String
  | runTransitioned .. => "run"
  | approvalResponseBegun .. | approvalResponseConfirmed .. => "approval_request"

def entityId : AuditReport → String
  | runTransitioned run .. => run.uuid.toText
  | approvalResponseBegun approval _ | approvalResponseConfirmed approval _ => approval.uuid.toText

def body : AuditReport → String
  | runTransitioned _ expected target voided =>
      expected.value ++ "->" ++ target.value ++ ";voided_approvals=" ++ toString voided
  | approvalResponseBegun _ decision | approvalResponseConfirmed _ decision => decision.value

end AuditReport

structure AuditRow where
  id : AuditEventId
  report : AuditReport
  createdAtMs : Int
  deriving DecidableEq, Repr

/-- Every table the `AppStore` operations touch. -/
structure Database where
  projects : List ProjectRow := []
  workItems : List WorkItemRow := []
  workEdges : List WorkEdgeRow := []
  runs : List RunRow := []
  timelineItems : List TimelineItemRow := []
  approvalRequests : List ApprovalRow := []
  projectionCursors : List CursorRow := []
  auditEvents : List AuditRow := []
  deriving DecidableEq

namespace Database

/-- The database right after the schema was created. -/
def empty : Database := {}

def findProject (db : Database) (id : ProjectId) : Option ProjectRow :=
  Keyed.lookup (·.id) db.projects id

def findWorkItem (db : Database) (id : WorkItemId) : Option WorkItemRow :=
  Keyed.lookup (·.id) db.workItems id

def findRun (db : Database) (id : RunId) : Option RunRow :=
  Keyed.lookup (·.id) db.runs id

def findApproval (db : Database) (id : ApprovalRequestId) : Option ApprovalRow :=
  Keyed.lookup (·.id) db.approvalRequests id

def findCursor (db : Database) (key : StreamKey) : Option CursorRow :=
  Keyed.lookup (·.key) db.projectionCursors key

/-- The timeline rows of one run, in the order they were committed. -/
def timeline (db : Database) (run : RunId) : List TimelineItemRow :=
  db.timelineItems.filter (·.runId = run)

end Database

/-! ## Transactions -/

/-- A transaction body: reads and writes a private copy of the database. -/
abbrev Txn (α : Type) : Type := StateT Database (Except StoreError) α

namespace Txn

/-- The database as the transaction sees it. -/
def read : Txn Database := get

def write (db : Database) : Txn Unit := set db

/-- Runs a body and commits it, or drops it and leaves the database alone. -/
def commit {α : Type} (body : Txn α) (db : Database) : Except StoreError α × Database :=
  match body.run db with
  | .ok (value, db') => (.ok value, db')
  | .error error => (.error error, db)

/-- A committed body leaves its own final database. -/
theorem commit_eq_ok {α : Type} {body : Txn α} {db db' : Database} {value : α}
    (h : commit body db = (.ok value, db')) : body.run db = .ok (value, db') := by
  unfold commit at h
  split at h
  · next h' => cases h; exact h'
  · cases h

/-- A failed body leaves the database it started from. -/
theorem commit_error {α : Type} {body : Txn α} {db db' : Database} {error : StoreError}
    (h : commit body db = (.error error, db')) : db' = db := by
  unfold commit at h
  split at h
  · cases h
  · cases h; rfl

/-! ### Inversion of successful bodies -/

section Inversion

variable {α β : Type} {db db' : Database} {value : α}

theorem bind_eq_ok {body : Txn α} {next : α → Txn β} {result : β} :
    (body >>= next).run db = .ok (result, db') ↔
      ∃ value db₁, body.run db = .ok (value, db₁) ∧ (next value).run db₁ = .ok (result, db') := by
  rw [StateT.run_bind]
  cases body.run db with
  | error error => simp [bind, Except.bind]
  | ok pair =>
      obtain ⟨value, db₁⟩ := pair
      simp [bind, Except.bind]

theorem pure_eq_ok {result : α} :
    (pure value : Txn α).run db = .ok (result, db') ↔ value = result ∧ db = db' := by
  change Except.ok (value, db) = Except.ok (result, db') ↔ _
  simp

theorem lift_eq_ok {check : Except StoreError α} :
    (liftM check : Txn α).run db = .ok (value, db') ↔ check = .ok value ∧ db = db' := by
  change (check >>= fun result => pure (result, db)) = _ ↔ _
  cases check with
  | error error => simp [bind, Except.bind]
  | ok result => simp [bind, Except.bind, pure, Except.pure]

theorem throw_eq_ok {error : StoreError} :
    (throw error : Txn α).run db = .ok (value, db') ↔ False := by
  change (Except.error error >>= fun result => pure (result, db)) = _ ↔ _
  simp [bind, Except.bind]

theorem read_eq_ok {result : Database} :
    read.run db = .ok (result, db') ↔ db = result ∧ db = db' := by
  change Except.ok (db, db) = Except.ok (result, db') ↔ _
  simp

theorem write_eq_ok {written : Database} {result : Unit} :
    (write written).run db = .ok (result, db') ↔ written = db' := by
  change Except.ok ((), written) = Except.ok (result, db') ↔ _
  simp

end Inversion

end Txn

/-! ## Constraint messages -/

/-- SQLite's text for a violated `UNIQUE` or `PRIMARY KEY` constraint. -/
def uniqueFailed (columns : String) : StoreError :=
  .conflict ("UNIQUE constraint failed: " ++ columns)

def foreignKeyFailed : StoreError :=
  .conflict "FOREIGN KEY constraint failed"

/-- `length(trim(value)) > 0` of SQL, whose `trim` removes spaces only and whose
`length` stops at the first NUL. -/
def sqlTextNonempty (value : String) : Bool :=
  match value.toList.dropWhile (· = ' ') with
  | [] => false
  | c :: _ => c ≠ Char.ofNat 0

def checkFailed (expression : String) : StoreError :=
  .conflict ("CHECK constraint failed: " ++ expression)

/-- The `CHECK` of a text column, when a row is inserted. -/
def checkTextColumn (column value : String) : Except StoreError Unit :=
  if sqlTextNonempty value then .ok ()
  else .error (checkFailed ("length(trim(" ++ column ++ ")) > 0"))

end YakShed
