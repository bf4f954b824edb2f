/-
# The columns of the database file

`yakshed.sqlite3` as its tables declare it: columns with the constraints of each
schema version, before anything is read as an identifier, a time or a status. No
table is strict, so a column may hold a value of any type that its constraints let
through. The first version declares the shape of the last one; the versions between
keep one provider id a run.
-/

import YakShed.Collections.Tables
import YakShed.Domain.Parsing
import YakShed.Store.Runs

namespace YakShed.Sqlite

open Tables

/-! ## Rows -/

structure ProjectColumns where
  id : Value
  name : Value
  createdAtMs : Value

structure WorkItemColumns where
  id : Value
  projectId : Value
  title : Value
  status : Value
  revision : Value
  createdAtMs : Value
  updatedAtMs : Value
  archivedAtMs : Value

structure WorkEdgeColumns where
  parentId : Value
  childId : Value
  kind : Value

/-- A row of `runs` from version 2 to version 4. -/
structure LegacyRunColumns where
  id : Value
  connectionId : Value
  workItemId : Value
  status : Value
  providerNamespace : Value
  providerRunId : Value
  createdAtMs : Value
  endedAtMs : Value

/-- A row of `runs` in version 1 and from version 5 on. -/
structure RunColumns extends LegacyRunColumns where
  providerRuntimeId : Value
  providerSessionId : Value

structure TimelineItemColumns where
  id : Value
  connectionId : Value
  runId : Value
  revision : Value
  kind : Value
  body : Value
  providerNamespace : Value
  providerItemId : Value
  createdAtMs : Value

structure ApprovalRequestColumns where
  id : Value
  connectionId : Value
  runId : Value
  providerNamespace : Value
  providerApprovalId : Value
  kind : Value
  summary : Value
  status : Value
  decision : Value
  requestedAtMs : Value
  responseStartedAtMs : Value
  resolvedAtMs : Value
  voidedAtMs : Value

structure ProjectionCursorColumns where
  connectionId : Value
  sourceNamespace : Value
  streamId : Value
  runId : Value
  cursor : Value
  lastBatchId : Value
  lastStartCursor : Value
  lastPayloadDigest : Value
  updatedAtMs : Value

structure AuditEventColumns where
  id : Value
  eventType : Value
  entityType : Value
  entityId : Value
  body : Value
  createdAtMs : Value

structure ArtifactColumns where
  id : Value
  workItemId : Value
  runId : Value
  kind : Value
  digest : Value
  byteLen : Value
  mediaType : Value
  provenance : Value

/-- The tables that no version changes the columns of. -/
structure Others where
  projects : List ProjectColumns := []
  workItems : List WorkItemColumns := []
  workEdges : List WorkEdgeColumns := []
  timelineItems : List TimelineItemColumns := []
  approvalRequests : List ApprovalRequestColumns := []
  projectionCursors : List ProjectionCursorColumns := []
  auditEvents : List AuditEventColumns := []

/-- All tables of a version; `artifacts` is there from version 4 on. -/
structure Contents (ρ : Type) extends Others where
  runs : List ρ := []
  artifacts : Option (List ArtifactColumns) := none

/-! ## Row constraints -/

/-- `NOT NULL` of some columns. -/
def notNull {ρ : Type} (columns : Key ρ) (row : ρ) : Bool :=
  (columns.of row).all (· ≠ .null)

/-- `length(trim(value)) > 0`; a blob is taken for the text of its bytes. -/
def textNonempty : Value → Bool
  | .text value => sqlTextNonempty value
  | .blob bytes =>
      match bytes.dropWhile (· = 32) with
      | [] => false
      | byte :: _ => byte ≠ 0
  | _ => true

def projects : Schema ProjectColumns where
  checks := [notNull [(·.id), (·.name), (·.createdAtMs)], fun row => textNonempty row.name]
  unique := [[(·.id)]]

def workItems : Schema WorkItemColumns where
  checks := [notNull [(·.id), (·.projectId), (·.title), (·.status), (·.revision),
      (·.createdAtMs), (·.updatedAtMs)],
    fun row => textNonempty row.title, fun row => row.status.isOneOf ["ready", "archived"],
    fun row => row.revision.isPositive]
  unique := [[(·.id)]]

def workEdges : Schema WorkEdgeColumns where
  checks := [notNull [(·.parentId), (·.childId), (·.kind)], fun row => row.kind = .text "parent",
    fun row => row.parentId ≠ row.childId]
  unique := [[(·.childId)], [(·.parentId), (·.childId)]]

/-- The texts that `runs.status` may hold. -/
def runStatuses : List String :=
  ["starting", "running", "completed", "failed", "interrupted", "disconnected", "outcome_unknown"]

/-- The statuses of a run that has ended. -/
def endedStatuses : List String := ["completed", "failed", "interrupted"]

/-- `CHECK ((status IN ('completed', 'failed', 'interrupted')) = (ended_at_ms IS NOT NULL))`. -/
def endedCheck (row : LegacyRunColumns) : Bool :=
  row.status.isOneOf endedStatuses == decide (row.endedAtMs ≠ .null)

/-- `CHECK ((status IN ('starting', 'running')) = (ended_at_ms IS NULL))`. -/
def notStartedCheck (row : LegacyRunColumns) : Bool :=
  row.status.isOneOf ["starting", "running"] == decide (row.endedAtMs = .null)

def legacyProviderCheck (row : LegacyRunColumns) : Bool :=
  decide (row.providerNamespace = .null) == decide (row.providerRunId = .null)

def providerCheck (row : RunColumns) : Bool :=
  decide (row.providerNamespace = .null) == decide (row.providerRuntimeId = .null) &&
    decide (row.providerNamespace = .null) == decide (row.providerSessionId = .null) &&
    decide (row.providerNamespace = .null) == decide (row.providerRunId = .null)

/-- The columns of `runs` that are declared `NOT NULL` in every version. -/
def requiredRunColumns : Key LegacyRunColumns :=
  [(·.id), (·.connectionId), (·.workItemId), (·.status), (·.createdAtMs)]

def legacyProviderKey : Key LegacyRunColumns :=
  [(·.connectionId), (·.providerNamespace), (·.providerRunId)]

def providerKey : Key RunColumns :=
  [(·.connectionId), (·.providerNamespace), (·.providerRuntimeId), (·.providerSessionId),
    (·.providerRunId)]

def runsV2 : Schema LegacyRunColumns where
  checks := [notNull requiredRunColumns, fun row => row.status.isOneOf runStatuses,
    legacyProviderCheck, notStartedCheck]
  unique := [[(·.id)], [(·.connectionId), (·.id)], legacyProviderKey]

def runsV3 : Schema LegacyRunColumns where
  checks := [notNull requiredRunColumns, fun row => row.status.isOneOf runStatuses,
    legacyProviderCheck, endedCheck]
  unique := [[(·.id)], [(·.connectionId), (·.id)], legacyProviderKey]

/-- The `runs` of `INITIAL_SCHEMA`, and of version 5 and later ones. -/
def runsV5 : Schema RunColumns where
  checks := [fun row => notNull requiredRunColumns row.toLegacyRunColumns,
    fun row => row.status.isOneOf runStatuses, providerCheck,
    fun row => endedCheck row.toLegacyRunColumns]
  unique := [[(·.id)], [(·.connectionId), (·.id)], providerKey]

def timelineItems : Schema TimelineItemColumns where
  checks := [notNull [(·.id), (·.connectionId), (·.runId), (·.revision), (·.kind), (·.body),
      (·.createdAtMs)],
    fun row => row.revision.isPositive, fun row => textNonempty row.kind,
    fun row => decide (row.providerNamespace = .null) == decide (row.providerItemId = .null)]
  unique := [[(·.id)], [(·.runId), (·.revision)],
    [(·.connectionId), (·.runId), (·.providerNamespace), (·.providerItemId)]]

/-- The columns that belong to each status of an approval. -/
def approvalCheck (row : ApprovalRequestColumns) : Bool :=
  row.status = .text "pending" && row.decision = .null && row.responseStartedAtMs = .null &&
      row.resolvedAtMs = .null && row.voidedAtMs = .null ||
    row.status = .text "responding" && row.decision ≠ .null && row.responseStartedAtMs ≠ .null &&
      row.resolvedAtMs = .null && row.voidedAtMs = .null ||
    row.status = .text "resolved" && row.decision ≠ .null && row.responseStartedAtMs ≠ .null &&
      row.resolvedAtMs ≠ .null && row.voidedAtMs = .null ||
    row.status = .text "voided" && row.resolvedAtMs = .null && row.voidedAtMs ≠ .null &&
      (row.decision = .null && row.responseStartedAtMs = .null ||
        row.decision ≠ .null && row.responseStartedAtMs ≠ .null)

def approvalRequests : Schema ApprovalRequestColumns where
  checks := [notNull [(·.id), (·.connectionId), (·.runId), (·.providerNamespace),
      (·.providerApprovalId), (·.kind), (·.summary), (·.status), (·.requestedAtMs)],
    fun row => textNonempty row.kind,
    fun row => row.status.isOneOf ["pending", "responding", "resolved", "voided"],
    -- A decision that is NULL leaves the check undecided, and it passes.
    fun row => row.decision = .null || row.decision.isOneOf ["approved", "denied"],
    approvalCheck]
  unique := [[(·.id)],
    [(·.connectionId), (·.runId), (·.providerNamespace), (·.providerApprovalId)]]

def projectionCursors : Schema ProjectionCursorColumns where
  checks := [notNull [(·.connectionId), (·.sourceNamespace), (·.streamId), (·.runId), (·.cursor),
      (·.lastBatchId), (·.lastStartCursor), (·.lastPayloadDigest), (·.updatedAtMs)],
    fun row => row.cursor.isNonnegative, fun row => row.lastStartCursor.isNonnegative]
  unique := [[(·.connectionId), (·.runId), (·.sourceNamespace), (·.streamId)]]

def auditEvents : Schema AuditEventColumns where
  checks := [notNull [(·.id), (·.eventType), (·.entityType), (·.entityId), (·.body),
    (·.createdAtMs)]]
  unique := [[(·.id)]]

def artifacts : Schema ArtifactColumns where
  checks := [notNull [(·.id), (·.workItemId), (·.kind), (·.digest), (·.byteLen), (·.mediaType),
      (·.provenance)],
    fun row => row.kind.isOneOf ["plan", "diff", "file", "image", "command_log",
      "browser_capture", "provider_payload"],
    fun row => row.byteLen.isNonnegative, fun row => textNonempty row.mediaType,
    fun row => textNonempty row.provenance]
  unique := [[(·.id)]]

/-! ## References between tables -/

section References

variable {ρ : Type} (common : ρ → LegacyRunColumns)

/-- The key `(connection_id, id)` of `runs`, which its children refer to. -/
def runKey : Key ρ := [fun row => (common row).connectionId, fun row => (common row).id]

/-- Every `REFERENCES` and `FOREIGN KEY` clause, as `PRAGMA foreign_key_check` goes
through them. -/
structure Contents.Linked (contents : Contents ρ) : Prop where
  workItems : References [(·.projectId)] [(·.id)] contents.workItems contents.projects
  edgeParents : References [(·.parentId)] [(·.id)] contents.workEdges contents.workItems
  edgeChildren : References [(·.childId)] [(·.id)] contents.workEdges contents.workItems
  runs : References [fun row => (common row).workItemId] [(·.id)] contents.runs
    contents.workItems
  timelineItems : References [(·.connectionId), (·.runId)] (runKey common)
    contents.timelineItems contents.runs
  approvalRequests : References [(·.connectionId), (·.runId)] (runKey common)
    contents.approvalRequests contents.runs
  projectionCursors : References [(·.connectionId), (·.runId)] (runKey common)
    contents.projectionCursors contents.runs
  artifactItems : References [(·.workItemId)] [(·.id)] (contents.artifacts.getD [])
    contents.workItems
  artifactRuns : References [(·.runId)] [fun row => (common row).id]
    (contents.artifacts.getD []) contents.runs

instance (contents : Contents ρ) : Decidable (contents.Linked common) :=
  decidable_of_iff
    (References [(·.projectId)] [(·.id)] contents.workItems contents.projects ∧
      References [(·.parentId)] [(·.id)] contents.workEdges contents.workItems ∧
      References [(·.childId)] [(·.id)] contents.workEdges contents.workItems ∧
      References [fun row => (common row).workItemId] [(·.id)] contents.runs
        contents.workItems ∧
      References [(·.connectionId), (·.runId)] (runKey common) contents.timelineItems
        contents.runs ∧
      References [(·.connectionId), (·.runId)] (runKey common) contents.approvalRequests
        contents.runs ∧
      References [(·.connectionId), (·.runId)] (runKey common) contents.projectionCursors
        contents.runs ∧
      References [(·.workItemId)] [(·.id)] (contents.artifacts.getD [])
        contents.workItems ∧
      References [(·.runId)] [fun row => (common row).id]
        (contents.artifacts.getD []) contents.runs)
    ⟨fun ⟨h₁, h₂, h₃, h₄, h₅, h₆, h₇, h₈, h₉⟩ => ⟨h₁, h₂, h₃, h₄, h₅, h₆, h₇, h₈, h₉⟩,
      fun ⟨h₁, h₂, h₃, h₄, h₅, h₆, h₇, h₈, h₉⟩ => ⟨h₁, h₂, h₃, h₄, h₅, h₆, h₇, h₈, h₉⟩⟩

/-- The constraints of the tables that keep their columns. -/
structure Others.Holds (others : Others) : Prop where
  projects : Sqlite.projects.Holds others.projects
  workItems : Sqlite.workItems.Holds others.workItems
  workEdges : Sqlite.workEdges.Holds others.workEdges
  timelineItems : Sqlite.timelineItems.Holds others.timelineItems
  approvalRequests : Sqlite.approvalRequests.Holds others.approvalRequests
  projectionCursors : Sqlite.projectionCursors.Holds others.projectionCursors
  auditEvents : Sqlite.auditEvents.Holds others.auditEvents

/-- A database that satisfies every constraint of a version with these runs. -/
structure Contents.Satisfies (runs : Schema ρ) (contents : Contents ρ) : Prop where
  others : contents.toOthers.Holds
  runs : runs.Holds contents.runs
  artifacts : Sqlite.artifacts.Holds (contents.artifacts.getD [])
  linked : contents.Linked common

end References

/-! ## Reading a run -/

/-- What a row is refused with. -/
inductive RowError
  | conversion (column : Nat) (error : ValidationError)
  | invalidColumnType (column : Nat) (name : String) (value : Value)
  | invalidQuery
  deriving DecidableEq

/-- The name of a value's type in the database. -/
def typeName : Value → String
  | .null => "Null"
  | .integer _ => "Integer"
  | .real _ => "Real"
  | .text _ => "Text"
  | .blob _ => "Blob"

def RowError.text : RowError → String
  | conversion column error =>
      "Conversion error from type Text at index: " ++ toString column ++ ", " ++ error.message
  | invalidColumnType column name value =>
      "Invalid column type " ++ typeName value ++ " at index: " ++ toString column ++ ", name: " ++
        name
  | invalidQuery => "Query is not read-only"

/-- `map_database_error` of an error in a row. -/
def mapDatabaseError (error : RowError) : StoreError := .integrity error.text

/-- `row.get` of a text. -/
def getText (column : Nat) (name : String) : Value → Except RowError String
  | .text value => .ok value
  | value => .error (.invalidColumnType column name value)

/-- `row.get` of an integer. -/
def getInteger (column : Nat) (name : String) : Value → Except RowError Int
  | .integer value => .ok value
  | value => .error (.invalidColumnType column name value)

/-- `row.get` of an `Option`. -/
def getOptional {α : Type} (get : Value → Except RowError α) : Value → Except RowError (Option α)
  | .null => .ok none
  | value => (get value).map some

def parseColumn {α : Type} (fromStr : String → Except ValidationError α) (column : Nat)
    (name : String) (value : Value) : Except RowError α := do
  let text ← getText column name value
  (fromStr text).mapError (.conversion column)

def runStatusFromValue : String → Except RowError RunStatus
  | "starting" => .ok .starting
  | "running" => .ok .running
  | "completed" => .ok .completed
  | "failed" => .ok .failed
  | "interrupted" => .ok .interrupted
  | "disconnected" => .ok .disconnected
  | "outcome_unknown" => .ok .outcomeUnknown
  | _ => .error .invalidQuery

def providerRunIdentity : Option String → Option String → Option String → Option String →
    Except RowError (Option ProviderRunIdentity)
  | none, none, none, none => .ok none
  | some ns, some runtimeId, some sessionId, some runId =>
      ((ProviderRunIdentity.new ns runtimeId sessionId runId).map some).mapError (.conversion 0)
  | _, _, _, _ => .error .invalidQuery

/-- The provider identity of a row. -/
def RunColumns.identity (row : RunColumns) : Except RowError (Option ProviderRunIdentity) := do
  let ns ← getOptional (getText 4 "provider_namespace") row.providerNamespace
  let runtimeId ← getOptional (getText 5 "provider_runtime_id") row.providerRuntimeId
  let sessionId ← getOptional (getText 6 "provider_session_id") row.providerSessionId
  let runId ← getOptional (getText 7 "provider_run_id") row.providerRunId
  providerRunIdentity ns runtimeId sessionId runId

/-- The status of a row. -/
def RunColumns.runStatus (row : RunColumns) : Except RowError RunStatus := do
  let value ← getText 3 "status" row.status
  runStatusFromValue value

section Reading

variable [UuidErrors]

def runFromRow (row : RunColumns) : Except RowError RunSnapshot := do
  let id ← parseColumn RunId.fromStr 0 "id" row.id
  let connectionId ← parseColumn ConnectionId.fromStr 1 "connection_id" row.connectionId
  let workItemId ← parseColumn WorkItemId.fromStr 2 "work_item_id" row.workItemId
  let status ← row.runStatus
  let providerId ← row.identity
  let createdAtMs ← getInteger 8 "created_at_ms" row.createdAtMs
  let endedAtMs ← getOptional (getInteger 9 "ended_at_ms") row.endedAtMs
  return { id, connectionId, workItemId, status, providerId
           createdAt := ⟨createdAtMs⟩, endedAt := endedAtMs.map UtcTimestamp.mk }

/-- `get_run` on the columns of `runs`. -/
def getRun (contents : Contents RunColumns) (id : RunId) : Except StoreError RunSnapshot :=
  match Keyed.lookup (·.id) contents.runs (.text id.uuid.toText) with
  | none => .error (.notFound "run" id.uuid.toText)
  | some row => (runFromRow row).mapError mapDatabaseError

/-- What is written for an optional value. -/
def optional {α : Type} (write : α → Value) : Option α → Value
  | none => .null
  | some value => write value

/-- The columns of a row that the store wrote. -/
def columnsOf (row : RunRow) : RunColumns where
  id := .text row.id.uuid.toText
  connectionId := .text row.connectionId.uuid.toText
  workItemId := .text row.workItemId.uuid.toText
  status := .text row.status.value
  providerNamespace := optional .text (row.provider.map (·.ns))
  providerRuntimeId := optional .text (row.provider.map (·.runtimeId))
  providerSessionId := optional .text (row.provider.map (·.sessionId))
  providerRunId := optional .text (row.provider.map (·.runId))
  createdAtMs := .integer row.createdAtMs
  endedAtMs := optional .integer row.endedAtMs

omit [UuidErrors] in
theorem runStatusFromValue_value (status : RunStatus) :
    runStatusFromValue status.value = .ok status := by
  cases status <;> rfl

omit [UuidErrors] in
theorem identity_columnsOf (row : RunRow) : (columnsOf row).identity = .ok row.provider := by
  unfold columnsOf RunColumns.identity
  cases row.provider with
  | none => rfl
  | some identity =>
      change ((ProviderRunIdentity.new _ _ _ _).map some).mapError _ = _
      rw [ProviderRunIdentity.new_of_accepted identity.accepted]
      rfl

omit [UuidErrors] in
theorem parseColumn_text {α : Type} {fromStr : String → Except ValidationError α} {column : Nat}
    {name text : String} {value : α} (h : fromStr text = .ok value) :
    parseColumn fromStr column name (.text text) = .ok value := by
  change (fromStr text).mapError _ = _
  rw [h]
  rfl

theorem runFromRow_columnsOf (row : RunRow) : runFromRow (columnsOf row) = .ok row.snapshot := by
  have hid : parseColumn RunId.fromStr 0 "id" (columnsOf row).id = .ok row.id :=
    parseColumn_text (RunId.fromStr_toText row.id)
  have hconnection : parseColumn ConnectionId.fromStr 1 "connection_id"
      (columnsOf row).connectionId = .ok row.connectionId :=
    parseColumn_text (ConnectionId.fromStr_toText row.connectionId)
  have hitem : parseColumn WorkItemId.fromStr 2 "work_item_id" (columnsOf row).workItemId =
      .ok row.workItemId := parseColumn_text (WorkItemId.fromStr_toText row.workItemId)
  have hstatus : (columnsOf row).runStatus = .ok row.status := runStatusFromValue_value row.status
  have hended : getOptional (getInteger 9 "ended_at_ms") (columnsOf row).endedAtMs =
      .ok row.endedAtMs := by
    unfold columnsOf
    cases row.endedAtMs <;> rfl
  unfold runFromRow
  rw [hid, hconnection, hitem, identity_columnsOf, hstatus, hended]
  rfl

/-- On rows that the store wrote, reading the columns is reading the rows. -/
theorem getRun_columnsOf {contents : Contents RunColumns} {db : Database}
    (h : contents.runs = db.runs.map columnsOf) (id : RunId) :
    getRun contents id = (Txn.commit (YakShed.getRun id) db).1 := by
  have hinjective : Function.Injective fun id : RunId => Value.text id.uuid.toText := by
    rintro ⟨first⟩ ⟨second⟩ hsame
    exact congrArg RunId.mk (Uuid.toText_injective (Value.text.inj hsame))
  have hlookup : Keyed.lookup (·.id) contents.runs (.text id.uuid.toText) =
      (db.findRun id).map columnsOf := by
    rw [h]
    exact Keyed.lookup_encode hinjective columnsOf (fun _ => rfl) db.runs id
  rw [getRun, hlookup]
  unfold Txn.commit YakShed.getRun Txn.read
  rw [StateT.run_bind, StateT.run_get]
  cases hfound : db.findRun id with
  | none =>
      simp only [pure_bind, hfound]
      rfl
  | some row =>
      simp only [pure_bind, hfound, Option.map_some, runFromRow_columnsOf, Except.mapError]
      rfl

end Reading

end YakShed.Sqlite
