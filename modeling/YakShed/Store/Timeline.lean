/-
# Timeline ingestion

`appendTimelineBatch` commits a batch of items to one run's timeline and moves
one stream's cursor, in one transaction. The cursor row doubles as the receipt
of the stream's last batch: a retry of that batch is answered from it.

SHA-256 is a parameter: no result of this development opens it.
-/

import YakShed.Store.Runs

namespace YakShed

/-- The hash of the `sha2` crate. -/
class Sha256 where
  digest : List UInt8 → List UInt8

structure NewTimelineItem where
  id : TimelineItemId
  kind : String
  body : String
  providerId : Option NamespacedProviderId
  deriving DecidableEq

structure TimelineBatch where
  batchId : TimelineBatchId
  connectionId : ConnectionId
  runId : RunId
  sourceNamespace : String
  streamId : String
  expectedStreamRevision : StreamCursor
  items : List NewTimelineItem
  deriving DecidableEq

structure ListTimeline where
  runId : RunId
  after : Option TimelineRevision
  limit : Nat

structure GetStreamCursor where
  connectionId : ConnectionId
  runId : RunId
  sourceNamespace : String
  streamId : String

structure StreamCursorState where
  cursor : StreamCursor
  lastBatchId : TimelineBatchId
  deriving DecidableEq, Repr

structure PendingUserInputSnapshot where
  id : TimelineItemId
  runId : RunId
  prompt : String
  providerId : NamespacedProviderId
  deriving DecidableEq

def TimelineBatch.key (batch : TimelineBatch) : StreamKey :=
  ⟨batch.connectionId, batch.runId, batch.sourceNamespace, batch.streamId⟩

def GetStreamCursor.key (query : GetStreamCursor) : StreamKey :=
  ⟨query.connectionId, query.runId, query.sourceNamespace, query.streamId⟩

/-! ## The payload digest -/

def utf8Bytes (text : String) : List UInt8 :=
  text.toByteArray.data.toList

/-- `u64::to_le_bytes`. -/
def toLeBytes (value : Nat) : List UInt8 :=
  (List.range 8).map fun index => UInt8.ofNat (value / 256 ^ index % 256)

/-- `add_bytes`: a length prefix, then the bytes. -/
def addBytes (bytes : List UInt8) : List UInt8 :=
  toLeBytes bytes.length ++ bytes

def itemPayload (item : NewTimelineItem) : List UInt8 :=
  addBytes (utf8Bytes item.id.uuid.toText) ++ addBytes (utf8Bytes item.kind) ++
    addBytes (utf8Bytes item.body) ++
    match item.providerId with
    | some provider =>
        [1] ++ addBytes (utf8Bytes provider.ns) ++ addBytes (utf8Bytes provider.value)
    | none => [0]

/-- The byte string fed to SHA-256. -/
def timelinePayload (items : List NewTimelineItem) : List UInt8 :=
  utf8Bytes "yakshed.timeline-batch.v1" ++ [0] ++ toLeBytes items.length ++
    items.flatMap itemPayload

/-- Two lowercase hexadecimal digits for each byte. -/
def hexEncode (bytes : List UInt8) : String :=
  String.ofList (bytes.flatMap fun byte =>
    [Uuid.hexDigit (byte.toNat / 16), Uuid.hexDigit (byte.toNat % 16)])

def timelinePayloadDigest [Sha256] (items : List NewTimelineItem) : String :=
  hexEncode (Sha256.digest (timelinePayload items))

/-! ## Appending -/

def i64Max : Nat := 2 ^ 63 - 1

/-- `i64::try_from`, with the error the store maps it to. -/
def checkedI64 (value : Nat) : Except StoreError Nat :=
  if value ≤ i64Max then .ok value
  else .error (.conflict "out of range integral type conversion attempted")

/-- `checked_add` on `i64`. -/
def checkedAdd (overflow : String) (first second : Nat) : Except StoreError Nat :=
  if first + second ≤ i64Max then .ok (first + second) else .error (.conflict overflow)

/-- The first constraint of `timeline_items` that a new row breaks. -/
def TimelineItemRow.violation (row : TimelineItemRow) (db : Database) : Option StoreError :=
  if !sqlTextNonempty row.kind then some (checkFailed "length(trim(kind)) > 0")
  else if db.timelineItems.any (·.id = row.id) then some (uniqueFailed "timeline_items.id")
  else if db.timelineItems.any fun other =>
      other.runId = row.runId && other.revision = row.revision then
    some (uniqueFailed "timeline_items.run_id, timeline_items.revision")
  else if row.provider.isSome && db.timelineItems.any fun other =>
      other.connectionId = row.connectionId && other.runId = row.runId &&
        other.provider = row.provider then
    some (uniqueFailed ("timeline_items.connection_id, timeline_items.run_id, " ++
      "timeline_items.provider_namespace, timeline_items.provider_item_id"))
  else if !db.runs.any fun run => run.connectionId = row.connectionId && run.id = row.runId then
    some foreignKeyFailed
  else none

def insertTimelineItem (row : TimelineItemRow) : Txn Unit := do
  let db ← Txn.read
  match row.violation db with
  | some error => throw error
  | none => Txn.write { db with timelineItems := db.timelineItems ++ [row] }

/-- The row that the batch's next item becomes at a timeline revision. -/
def TimelineBatch.row (batch : TimelineBatch) (now : UtcTimestamp) (revision : Nat)
    (item : NewTimelineItem) : TimelineItemRow :=
  { id := item.id, connectionId := batch.connectionId, runId := batch.runId, revision := revision
    kind := item.kind, body := item.body, provider := item.providerId
    createdAtMs := now.unixMillis }

/-- The insertion loop; the accumulator is the last revision given out. -/
def insertItems (batch : TimelineBatch) (now : UtcTimestamp) :
    Nat → List NewTimelineItem → Txn Unit
  | _, [] => pure ()
  | revision, item :: rest => do
      let revision ← checkedAdd "timeline revision overflow" revision 1
      insertTimelineItem (batch.row now revision item)
      insertItems batch now revision rest

/-- `coalesce(max(revision), 0)` over the run's timeline. -/
def Database.lastRevision (db : Database) (run : RunId) : Nat :=
  (db.timeline run).foldl (fun last row => max last row.revision) 0

/-- The upsert on the primary key of `projection_cursors`. -/
def upsertCursor (row : CursorRow) (rows : List CursorRow) : List CursorRow :=
  if (Keyed.lookup (·.key) rows row.key).isSome then
    Keyed.update (·.key) row.key (fun _ => row) rows
  else rows ++ [row]

/-- What the receipt of a stream answers to a batch, before anything is
written: a retry's cursor, a conflict, or nothing to object. -/
def checkReceipt (receipt : Option CursorRow) (batch : TimelineBatch) (digest : String) :
    Except StoreError (Option StreamCursor) :=
  match receipt with
  | some cursor =>
      if cursor.key.connectionId ≠ batch.connectionId ∨ cursor.key.runId ≠ batch.runId then
        .error (.conflict "projection stream is already bound to a different run")
      else if cursor.lastBatchId = batch.batchId ∧
          cursor.lastStartCursor = batch.expectedStreamRevision ∧
          cursor.lastPayloadDigest = digest then
        .ok (some cursor.cursor)
      else if cursor.lastBatchId = batch.batchId then
        .error (.conflict "timeline batch retry does not match its committed receipt")
      else if cursor.cursor ≠ batch.expectedStreamRevision then
        .error (.conflict ("projection cursor conflict: expected " ++
          toString batch.expectedStreamRevision ++ ", current " ++ toString cursor.cursor))
      else .ok none
  | none =>
      if batch.expectedStreamRevision ≠ 0 then
        .error (.conflict ("projection cursor conflict: expected " ++
          toString batch.expectedStreamRevision ++ ", current 0"))
      else .ok none

def validateBatch (batch : TimelineBatch) : Except StoreError Unit := do
  validateAppId "timeline batch id" (isUuidV7 batch.batchId.uuid.bits)
  validateText "projection source namespace" batch.sourceNamespace
  validateText "projection stream id" batch.streamId
  batch.items.forM fun item => do
    validateAppId "timeline item id" (isUuidV7 item.id.uuid.bits)
    validateText "timeline item kind" item.kind

/-- The second read of the run has no `.optional()`: a missing run is the
driver's `QueryReturnedNoRows` before the `NotFound` below is reached. -/
def runWorkItem (run : Option RunRow) : Except StoreError WorkItemId :=
  match run with
  | some run => .ok run.workItemId
  | none => .error (.backend "Query returned no rows")

def checkConnection (run : Option RunRow) (batch : TimelineBatch) : Except StoreError Unit :=
  match run with
  | none => .error (.notFound "run" batch.runId.uuid.toText)
  | some run =>
      if run.connectionId ≠ batch.connectionId then
        .error (.conflict "run belongs to a different connection")
      else .ok ()

/-- Writes the items, the cursor with its receipt, and the work item revision. -/
def commitBatch (batch : TimelineBatch) (now : UtcTimestamp) (digest : String)
    (workItemId : WorkItemId) : Txn StreamCursor := do
  let itemCount ← checkedI64 batch.items.length
  let db ← Txn.read
  insertItems batch now (db.lastRevision batch.runId) batch.items
  let streamRevision ←
    checkedAdd "projection cursor overflow" batch.expectedStreamRevision itemCount
  let db ← Txn.read
  let row : CursorRow :=
    { key := batch.key, cursor := streamRevision, lastBatchId := batch.batchId
      lastStartCursor := batch.expectedStreamRevision, lastPayloadDigest := digest
      updatedAtMs := now.unixMillis }
  Txn.write { db with projectionCursors := upsertCursor row db.projectionCursors }
  bumpWorkItemRevision workItemId now.unixMillis
  return streamRevision

def appendTimelineBatch [Sha256] (now : UtcTimestamp) (batch : TimelineBatch) :
    Txn StreamCursor := do
  validateBatch batch
  let digest := timelinePayloadDigest batch.items
  let db ← Txn.read
  let run := db.findRun batch.runId
  let workItemId ← runWorkItem run
  checkConnection run batch
  let _ ← checkedI64 batch.expectedStreamRevision
  match ← checkReceipt (db.findCursor batch.key) batch digest with
  | some cursor => return cursor
  | none => commitBatch batch now digest workItemId

/-! ## Reading -/

def getStreamCursor (query : GetStreamCursor) : Txn (Option StreamCursorState) := do
  validateText "projection source namespace" query.sourceNamespace
  validateText "projection stream id" query.streamId
  let db ← Txn.read
  match db.findCursor query.key with
  | none => return none
  | some cursor =>
      if cursor.key.connectionId ≠ query.connectionId ∨ cursor.key.runId ≠ query.runId then
        throw (.conflict "projection stream is bound to a different run")
      else return some ⟨cursor.cursor, cursor.lastBatchId⟩

def TimelineItemRow.snapshot (row : TimelineItemRow) : TimelineItemSnapshot :=
  { id := row.id, connectionId := row.connectionId, runId := row.runId, revision := row.revision
    kind := row.kind, body := row.body, providerId := row.provider, createdAt := ⟨row.createdAtMs⟩ }

def listTimelinePage (query : ListTimeline) : Txn (Page TimelineItemSnapshot TimelineRevision) := do
  let limit ← validatePageSize query.limit
  match query.after with
  | some revision => let _ ← checkedI64 revision
  | none => pure ()
  let db ← Txn.read
  let rows := ((db.timeline query.runId).insertionSort fun first second =>
    first.revision ≤ second.revision).filter fun row =>
      match query.after with
      | none => true
      | some revision => revision < row.revision
  return Page.ofRows (·.revision) limit (rows.map TimelineItemRow.snapshot)

/-- The request has no answering row: its id is the body of the answer. -/
def Database.isUnanswered (db : Database) (request : TimelineItemRow) : Bool :=
  !db.timelineItems.any fun response =>
    response.runId = request.runId && response.kind = "user_input_responded" &&
      response.body = request.id.uuid.toText

/-- A request row without a provider identity cannot be read back. -/
def TimelineItemRow.pendingUserInput (row : TimelineItemRow) :
    Except StoreError PendingUserInputSnapshot :=
  match row.provider with
  | some provider => .ok ⟨row.id, row.runId, row.body, provider⟩
  | none => .error (.integrity "Invalid column type Null at index: 3, name: provider_namespace")

def listPendingUserInputsForRun (runId : RunId) (after : Option TimelineItemId) (limit : Nat) :
    Txn (Page PendingUserInputSnapshot TimelineItemId) := do
  let limit ← validatePageSize limit
  let db ← Txn.read
  let rows := (orderById (·.id.uuid) (db.timeline runId)).filter fun row =>
    row.kind = "user_input_requested" && isAfter (after.map (·.uuid)) row.id.uuid &&
      db.isUnanswered row
  let items ← readRows TimelineItemRow.pendingUserInput (rows.take (limit + 1))
  return Page.ofRows (·.id) limit items

end YakShed
