/-
# Exactly-once timeline ingestion

The batches that were applied, in order, are kept beside the database as a
ghost log. `Ingested` ties the two together: the timelines are the log's items,
numbered from one without a gap, and each stream's cursor row is the receipt of
the stream's last batch in the log. Retries and stale batches are then settled
by comparing a start cursor with the number of items already counted.
-/

import YakShed.Store.Lifecycle

namespace YakShed

/-! ## Rows of a batch -/

/-- What a timeline row keeps of the item it was made from. -/
def TimelineItemRow.item (row : TimelineItemRow) : NewTimelineItem :=
  ⟨row.id, row.kind, row.body, row.provider⟩

namespace TimelineBatch

variable (batch : TimelineBatch) (now : UtcTimestamp)

theorem map_item_rowsFrom (revision : Nat) (items : List NewTimelineItem) :
    (batch.rowsFrom now revision items).map (·.item) = items := by
  induction items generalizing revision with
  | nil => rfl
  | cons item rest ih =>
      rw [rowsFrom, List.map_cons, ih]
      rfl

theorem map_revision_rowsFrom (revision : Nat) (items : List NewTimelineItem) :
    (batch.rowsFrom now revision items).map (·.revision) =
      List.range' (revision + 1) items.length := by
  induction items generalizing revision with
  | nil => rfl
  | cons item rest ih =>
      rw [rowsFrom, List.map_cons, ih, List.length_cons, List.range'_succ]
      rfl

theorem runId_of_mem_rowsFrom {revision : Nat} {items : List NewTimelineItem}
    {row : TimelineItemRow} (h : row ∈ batch.rowsFrom now revision items) :
    row.runId = batch.runId := by
  induction items generalizing revision with
  | nil => cases h
  | cons item rest ih =>
      rcases List.mem_cons.mp h with rfl | h
      · rfl
      · exact ih h

end TimelineBatch

theorem findCursor_upsertCursor {rows : List CursorRow} {row : CursorRow} {key : StreamKey} :
    Keyed.lookup (·.key) (upsertCursor row rows) key =
      if key = row.key then some row else Keyed.lookup (·.key) rows key := by
  unfold upsertCursor
  split
  · next hsome =>
      split
      · next heq => rw [heq, Keyed.lookup_replace_self hsome]
      · next hne => rw [Keyed.lookup_replace_ne hne]
  · next hnone =>
      rw [Option.not_isSome_iff_eq_none] at hnone
      split
      · next heq => rw [heq, Keyed.lookup_append_singleton_self hnone]
      · next hne => rw [Keyed.lookup_append_singleton_ne (Ne.symm hne)]

/-! ## One batch -/

/-- The cursor of a stream; a stream without a row stands at zero. -/
def Database.cursorOf (db : Database) (key : StreamKey) : StreamCursor :=
  ((db.findCursor key).map (·.cursor)).getD 0

namespace Database

variable {db : Database}

theorem findCursor_afterBatch {batch : TimelineBatch} {now : UtcTimestamp} {digest : String}
    {workItemId : WorkItemId} (key : StreamKey) :
    (db.afterBatch batch now digest workItemId).findCursor key =
      if key = batch.key then some (batch.receipt now digest) else db.findCursor key :=
  findCursor_upsertCursor

theorem cursorOf_afterBatch {batch : TimelineBatch} {now : UtcTimestamp} {digest : String}
    {workItemId : WorkItemId} (key : StreamKey) :
    (db.afterBatch batch now digest workItemId).cursorOf key =
      if key = batch.key then batch.expectedStreamRevision + batch.items.length
      else db.cursorOf key := by
  unfold cursorOf
  rw [findCursor_afterBatch]
  split <;> rfl

theorem timeline_afterBatch {batch : TimelineBatch} {now : UtcTimestamp} {digest : String}
    {workItemId : WorkItemId} (run : RunId) :
    (db.afterBatch batch now digest workItemId).timeline run =
      db.timeline run ++
        if run = batch.runId then batch.rowsFrom now (db.lastRevision batch.runId) batch.items
        else [] := by
  unfold timeline afterBatch
  rw [bumpRevision_timelineItems, List.filter_append]
  congr 1
  split
  · next heq =>
      exact List.filter_eq_self.mpr fun row hrow => by
        simpa [heq] using batch.runId_of_mem_rowsFrom now hrow
  · next hne =>
      refine List.filter_eq_nil_iff.mpr fun row hrow => ?_
      rw [batch.runId_of_mem_rowsFrom now hrow]
      simpa using Ne.symm hne

end Database

/-! ## The log explains the database -/

/-- The log accounts for every timeline row and every cursor row. -/
structure Database.Ingested (db : Database) (log : List TimelineBatch) : Prop where
  revisions : ∀ run, (db.timeline run).map (·.revision) =
    List.range' 1 (db.timeline run).length
  items : ∀ run, (db.timeline run).map (·.item) =
    (log.filter (·.runId = run)).flatMap (·.items)
  cursors : ∀ key, db.cursorOf key =
    ((log.filter (·.key = key)).map (·.items.length)).sum
  /-- What a batch brought is counted in its stream's cursor. -/
  counted : ∀ batch ∈ log, batch.expectedStreamRevision + batch.items.length ≤
    db.cursorOf batch.key
  distinct : (log.filter (·.items ≠ [])).Nodup

theorem foldl_max_range' (start count last : Nat) (hlast : last < start) :
    (List.range' start count).foldl max last = if count = 0 then last else start + count - 1 := by
  induction count generalizing start last with
  | zero => rfl
  | succ count ih =>
      rw [List.range'_succ, List.foldl_cons, ih (start + 1) (max last start) (by omega)]
      rw [Nat.max_eq_right hlast.le, if_neg (Nat.succ_ne_zero count)]
      split <;> omega

namespace Database.Ingested

variable {db : Database} {log : List TimelineBatch}

theorem empty : Database.empty.Ingested [] where
  revisions := fun _ => rfl
  items := fun _ => rfl
  cursors := fun _ => rfl
  counted := by simp
  distinct := List.nodup_nil

/-- Gapless revisions make the highest one the number of rows. -/
theorem lastRevision_eq (h : db.Ingested log) (run : RunId) :
    db.lastRevision run = (db.timeline run).length := by
  unfold Database.lastRevision
  rw [← List.foldl_map (f := fun row : TimelineItemRow => row.revision) (g := max),
    h.revisions run, foldl_max_range' 1 _ 0 (by omega)]
  split <;> omega

/-- A batch that passes the receipt check starts at its stream's cursor. -/
theorem start_eq_cursorOf {batch : TimelineBatch} {digest : String}
    (hreceipt : checkReceipt (db.findCursor batch.key) batch digest = .ok none) :
    batch.expectedStreamRevision = db.cursorOf batch.key := by
  unfold Database.cursorOf
  rcases checkReceipt_eq_none hreceipt with ⟨hnone, hzero⟩ | ⟨row, hrow, _, hcursor⟩
  · rw [hnone, hzero]
    rfl
  · rw [hrow, ← hcursor]
    rfl

/-- Applying one batch extends the log by it. -/
theorem afterBatch (h : db.Ingested log) {batch : TimelineBatch} {now : UtcTimestamp}
    {digest : String} {workItemId : WorkItemId}
    (hreceipt : checkReceipt (db.findCursor batch.key) batch digest = .ok none) :
    (db.afterBatch batch now digest workItemId).Ingested (log ++ [batch]) := by
  have hstart := start_eq_cursorOf hreceipt
  refine
    { revisions := ?_, items := ?_, cursors := ?_, counted := ?_, distinct := ?_ }
  · intro run
    rw [Database.timeline_afterBatch]
    split
    · next heq =>
        subst heq
        rw [List.map_append, h.revisions, TimelineBatch.map_revision_rowsFrom, h.lastRevision_eq,
          List.length_append]
        have hlength := congrArg List.length
          (batch.map_item_rowsFrom now (db.timeline batch.runId).length batch.items)
        rw [List.length_map] at hlength
        rw [hlength, ← List.range'_append_1, Nat.add_comm 1]
    · simpa using h.revisions run
  · intro run
    rw [Database.timeline_afterBatch, List.filter_append]
    split
    · next heq =>
        subst heq
        simp [h.items, TimelineBatch.map_item_rowsFrom]
    · next hne => simp [h.items, Ne.symm hne]
  · intro key
    rw [Database.cursorOf_afterBatch, List.filter_append]
    split
    · next heq =>
        subst heq
        simp [hstart, h.cursors]
    · next hne => simp [h.cursors, Ne.symm hne]
  · intro other hother
    rw [Database.cursorOf_afterBatch]
    rcases List.mem_append.mp hother with hold | hnew
    · have := h.counted other hold
      split
      · next heq =>
          rw [heq, ← hstart] at this
          exact this.trans (Nat.le_add_right _ _)
      · exact this
    · rw [List.mem_singleton.mp hnew, if_pos rfl]
  · rw [List.filter_append, List.nodup_append]
    refine ⟨h.distinct, (List.nodup_singleton batch).filter _, ?_⟩
    rintro first hfirst second hsecond rfl
    -- An old copy is already counted in the cursor this batch starts from.
    have hmem := List.mem_filter.mp hfirst
    have hsame : first = batch := List.mem_singleton.mp (List.mem_filter.mp hsecond).1
    have hcount := h.counted first hmem.1
    have hpos : 0 < first.items.length :=
      List.length_pos_iff.mpr (by simpa using hmem.2)
    rw [hsame, ← hstart] at hcount
    rw [hsame] at hpos
    exact absurd hcount (Nat.not_le.mpr (Nat.lt_add_of_pos_right hpos))

end Database.Ingested

namespace Database

variable {db : Database} {batch : TimelineBatch}

/-- The stream has been given a batch that starts after this one. -/
def Passed (db : Database) (batch : TimelineBatch) : Prop :=
  ∃ row, db.findCursor batch.key = some row ∧
    batch.expectedStreamRevision + batch.items.length ≤ row.lastStartCursor ∧
    row.lastStartCursor ≤ row.cursor

theorem Passed.le_cursorOf (h : db.Passed batch) :
    batch.expectedStreamRevision + batch.items.length ≤ db.cursorOf batch.key := by
  obtain ⟨row, hrow, hstart, hcursor⟩ := h
  unfold Database.cursorOf
  rw [hrow]
  exact hstart.trans hcursor

/-- Whatever a stream is given starts at its cursor. -/
theorem passed_afterBatch {other : TimelineBatch} {now : UtcTimestamp} {digest : String}
    {workItemId : WorkItemId} (hkey : other.key = batch.key)
    (hstart : batch.expectedStreamRevision + batch.items.length ≤ other.expectedStreamRevision) :
    (db.afterBatch other now digest workItemId).Passed batch :=
  ⟨other.receipt now digest, by rw [findCursor_afterBatch, if_pos hkey.symm], hstart,
    Nat.le_add_right _ _⟩

end Database

/-! ## Reading the timeline -/

theorem sum_filter_le {α : Type} (keep : α → Bool) (size : α → Nat) (first second : List α) :
    ((first.filter keep).map size).sum ≤ (((first ++ second).filter keep).map size).sum := by
  rw [List.filter_append, List.map_append, List.sum_append]
  exact Nat.le_add_right _ _

/-- On consecutive numbers, keeping what lies above a bound is dropping. -/
theorem filter_lt_eq_drop {α : Type} {number : α → Nat} {rows : List α} {first bound : Nat}
    (h : rows.map number = List.range' (first + 1) rows.length) :
    rows.filter (fun row => bound < number row) = rows.drop (bound - first) := by
  induction rows generalizing first with
  | nil => simp
  | cons row rest ih =>
      rw [List.map_cons, List.length_cons, List.range'_succ, List.cons.injEq] at h
      obtain ⟨hrow, hrest⟩ := h
      rw [List.filter_cons, ih hrest]
      by_cases hbound : bound ≤ first
      · rw [if_pos (by simpa [hrow] using Nat.lt_succ_of_le hbound), Nat.sub_eq_zero_of_le hbound,
          Nat.sub_eq_zero_of_le (by omega)]
        rfl
      · have hsucc : bound - first = (bound - (first + 1)) + 1 := by omega
        rw [if_neg (by simp [hrow]; omega), hsucc, List.drop_succ_cons]

/-- On gapless revisions the page query is a slice of the commit order. -/
theorem listTimelinePage_items {db db' : Database} {log : List TimelineBatch}
    (h : db.Ingested log) {query : ListTimeline}
    {page : Page TimelineItemSnapshot TimelineRevision}
    (hpage : (listTimelinePage query).run db = .ok (page, db')) :
    page.items = (((db.timeline query.runId).drop (query.after.getD 0)).take query.limit).map
      (·.snapshot) := by
  have hrevisions := h.revisions query.runId
  have hsorted : (db.timeline query.runId).insertionSort
      (fun first second => first.revision ≤ second.revision) = db.timeline query.runId := by
    refine List.Pairwise.insertionSort_eq (List.Pairwise.of_map (·.revision) (fun _ _ => id) ?_)
    rw [hrevisions]
    exact List.Pairwise.imp Nat.le_of_lt List.pairwise_lt_range'
  have hslice : ∀ keep : TimelineItemRow → Bool,
      (∀ row, keep row = query.after.all fun revision => decide (revision < row.revision)) →
      (db.timeline query.runId).filter keep =
        (db.timeline query.runId).drop (query.after.getD 0) := by
    intro keep hkeep
    rw [funext hkeep]
    cases query.after with
    | none => simp
    | some revision =>
        have hzero : (db.timeline query.runId).map (·.revision) =
            List.range' (0 + 1) (db.timeline query.runId).length := hrevisions
        exact filter_lt_eq_drop hzero
  have hofRows : ∀ (keep : TimelineItemRow → Bool) (limit : Nat),
      validatePageSize query.limit = .ok limit →
      (∀ row, keep row = query.after.all fun revision => decide (revision < row.revision)) →
      Page.ofRows (·.revision) limit ((((db.timeline query.runId).insertionSort fun first second =>
        first.revision ≤ second.revision).filter keep).map TimelineItemRow.snapshot) = page →
      page.items = (((db.timeline query.runId).drop (query.after.getD 0)).take query.limit).map
        (·.snapshot) := by
    rintro keep limit hlimit hkeep rfl
    have : limit = query.limit := by
      unfold validatePageSize at hlimit
      split at hlimit
      · exact (Except.ok.inj hlimit).symm
      · cases hlimit
    subst this
    rw [hsorted, hslice keep hkeep]
    simp [Page.ofRows, List.take_take, List.map_take]
  unfold listTimelinePage at hpage
  simp only [Txn.bind_eq_ok, Txn.lift_eq_ok] at hpage
  obtain ⟨limit, _, ⟨hlimit, rfl⟩, hpage⟩ := hpage
  split at hpage
  · simp only [Txn.bind_eq_ok, Txn.lift_eq_ok, Txn.read_eq_ok, Txn.pure_eq_ok] at hpage
    obtain ⟨_, _, ⟨_, rfl⟩, _, _, ⟨rfl, rfl⟩, hpage, _⟩ := hpage
    exact hofRows _ limit hlimit (fun row => by cases query.after <;> rfl) hpage
  · simp only [Txn.bind_eq_ok, Txn.read_eq_ok, Txn.pure_eq_ok] at hpage
    obtain ⟨_, _, ⟨rfl, rfl⟩, hpage, _⟩ := hpage
    exact hofRows _ limit hlimit (fun row => by cases query.after <;> rfl) hpage

/-! ## The log -/

section Log

variable [Sha256]

/-- The batch a call applied: an append after which the database is not what it
was. -/
def Call.applied (db : Database) (call : Call) : Option TimelineBatch :=
  if db.after call = db then none else call.op.batch

/-- The batches a sequence of calls applied, in order. -/
def Database.applied (db : Database) (calls : List Call) : List TimelineBatch :=
  (db.steps calls).filterMap fun (pre, call) => call.applied pre

theorem Database.applied_cons (db : Database) (call : Call) (calls : List Call) :
    db.applied (call :: calls) = (call.applied db).toList ++ (db.after call).applied calls := by
  unfold Database.applied
  rw [Database.steps, List.filterMap_cons]
  cases happlied : call.applied db <;> simp [happlied]

/-- A call applies no batch and leaves timelines and cursors alone, or it
applies one that its stream was waiting for. -/
theorem Database.after_cases (db : Database) (call : Call) :
    (call.applied db = none ∧ (∀ run, (db.after call).timeline run = db.timeline run) ∧
      ∀ key, (db.after call).findCursor key = db.findCursor key) ∨
    ∃ batch workItemId, call.applied db = some batch ∧
      checkReceipt (db.findCursor batch.key) batch (timelinePayloadDigest batch.items) =
        .ok none ∧
      db.after call =
        db.afterBatch batch call.now (timelinePayloadDigest batch.items) workItemId := by
  by_cases hsame : db.after call = db
  · refine .inl ⟨if_pos hsame, ?_, ?_⟩ <;> rw [hsame] <;> exact fun _ => rfl
  · rcases hexec : call.op.exec call.now db with ⟨result, db'⟩
    have hafter : db.after call = db' := congrArg Prod.snd hexec
    cases result with
    | error error => exact absurd (hafter.trans (AppStore.exec_error hexec)) hsame
    | ok value =>
        have hframe := AppStore.frame_of_ok hexec
        unfold Call.applied
        rw [if_neg hsame, hafter]
        obtain ⟨op, now⟩ := call
        cases op with
        | appendTimelineBatch batch =>
            rcases appendTimelineBatch_eq_ok (AppStore.exec_ok hexec) with
              ⟨heq, _⟩ | ⟨run, _, _, hreceipt, _, _, heq⟩
            · exact absurd (hafter.trans heq) hsame
            · exact .inr ⟨batch, run.workItemId, rfl, hreceipt, heq⟩
        | _ =>
            refine .inl ⟨rfl, fun run => ?_, fun key => ?_⟩
            · unfold Database.timeline
              rw [hframe.timeline rfl]
            · unfold Database.findCursor
              rw [hframe.cursors rfl]

/-! ## Every call keeps the account -/

namespace Database.Ingested

variable {db : Database} {log : List TimelineBatch}

theorem after (h : db.Ingested log) (call : Call) :
    (db.after call).Ingested (log ++ (call.applied db).toList) := by
  rcases db.after_cases call with ⟨hnone, htimeline, hcursor⟩ |
    ⟨batch, workItemId, happlied, hreceipt, hafter⟩
  · have hcursorOf : ∀ key, (db.after call).cursorOf key = db.cursorOf key := fun key => by
      unfold Database.cursorOf
      rw [hcursor]
    rw [hnone, Option.toList_none, List.append_nil]
    exact
      { revisions := fun run => by rw [htimeline, h.revisions]
        items := fun run => by rw [htimeline, h.items]
        cursors := fun key => by rw [hcursorOf, h.cursors]
        counted := fun batch hbatch => by rw [hcursorOf]; exact h.counted batch hbatch
        distinct := h.distinct }
  · rw [happlied, hafter]
    exact h.afterBatch hreceipt

theorem afterAll (h : db.Ingested log) (calls : List Call) :
    (db.afterAll calls).Ingested (log ++ db.applied calls) := by
  induction calls generalizing db log with
  | nil => simpa [Database.applied, Database.steps] using h
  | cons call calls ih =>
      have hnext := ih (h.after call)
      rw [List.append_assoc] at hnext
      rwa [Database.applied_cons]

end Database.Ingested

/-! ## Resubmission -/

/-- The checks an accepted batch has passed whatever its stream held. -/
theorem appendTimelineBatch_checks {db db' : Database} {now : UtcTimestamp}
    {batch : TimelineBatch} {cursor : StreamCursor}
    (h : (appendTimelineBatch now batch).run db = .ok (cursor, db')) :
    validateBatch batch = .ok () ∧ batch.expectedStreamRevision ≤ i64Max := by
  unfold appendTimelineBatch at h
  simp only [Txn.bind_eq_ok, Txn.lift_eq_ok, Txn.read_eq_ok] at h
  obtain ⟨_, _, ⟨hvalid, rfl⟩, _, _, ⟨rfl, rfl⟩, _, _, ⟨_, rfl⟩, _, _, ⟨_, rfl⟩, _, _,
    ⟨hstart, rfl⟩, _⟩ := h
  exact ⟨hvalid, (checkedI64_eq_ok hstart).2⟩

/-- A stream whose last batch this was answers it again. -/
theorem appendTimelineBatch_retry {db : Database} (now : UtcTimestamp) {batch : TimelineBatch}
    {run : RunRow} {row : CursorRow} (hvalid : validateBatch batch = .ok ())
    (hstart : batch.expectedStreamRevision ≤ i64Max) (hrun : db.findRun batch.runId = some run)
    (hconnection : run.connectionId = batch.connectionId)
    (hrow : db.findCursor batch.key = some row)
    (hanswers : row.Answers batch (timelinePayloadDigest batch.items)) :
    (appendTimelineBatch now batch).run db = .ok (row.cursor, db) := by
  have hkey : row.key = batch.key := Keyed.key_of_lookup hrow
  have hitem : runWorkItem (db.findRun batch.runId) = .ok run.workItemId := by rw [hrun]; rfl
  have hsame : checkConnection (db.findRun batch.runId) batch = .ok () := by
    rw [hrun]
    exact if_neg (not_not.mpr hconnection)
  have hreceipt : checkReceipt (db.findCursor batch.key) batch
      (timelinePayloadDigest batch.items) = .ok (some row.cursor) := by
    rw [hrow, checkReceipt, hkey, if_neg (by simp [TimelineBatch.key])]
    exact if_pos hanswers
  unfold appendTimelineBatch
  simp only [Txn.bind_eq_ok, Txn.lift_eq_ok, Txn.read_eq_ok]
  exact ⟨(), db, ⟨hvalid, rfl⟩, db, db, ⟨rfl, rfl⟩, _, db, ⟨hitem, rfl⟩, (), db, ⟨hsame, rfl⟩,
    batch.expectedStreamRevision, db, ⟨if_pos hstart, rfl⟩, some row.cursor, db, ⟨hreceipt, rfl⟩,
    rfl⟩

namespace Database

variable {db : Database} {batch : TimelineBatch}

/-- The stream's receipt is this batch's. -/
def Latest (db : Database) (batch : TimelineBatch) : Prop :=
  ∃ row, db.findCursor batch.key = some row ∧
    row.Answers batch (timelinePayloadDigest batch.items) ∧
    row.cursor = batch.expectedStreamRevision + batch.items.length

theorem Latest.cursorOf (h : db.Latest batch) :
    db.cursorOf batch.key = batch.expectedStreamRevision + batch.items.length := by
  obtain ⟨row, hrow, _, hcursor⟩ := h
  unfold Database.cursorOf
  rw [hrow]
  exact hcursor

theorem Passed.after (h : db.Passed batch) (call : Call) : (db.after call).Passed batch := by
  rcases db.after_cases call with ⟨_, _, hcursor⟩ | ⟨other, workItemId, _, hreceipt, hafter⟩
  · obtain ⟨row, hrow, hle⟩ := h
    exact ⟨row, (hcursor _).trans hrow, hle⟩
  · rw [hafter]
    by_cases hkey : other.key = batch.key
    · refine passed_afterBatch hkey ?_
      rw [Ingested.start_eq_cursorOf hreceipt, hkey]
      exact h.le_cursorOf
    · obtain ⟨row, hrow, hle⟩ := h
      exact ⟨row, by rw [findCursor_afterBatch, if_neg (Ne.symm hkey), hrow], hle⟩

theorem Passed.afterAll (h : db.Passed batch) (calls : List Call) :
    (db.afterAll calls).Passed batch := by
  induction calls generalizing db with
  | nil => exact h
  | cons call calls ih => exact ih (h.after call)

/-- A batch stays its stream's latest until the stream is given another one. -/
theorem Latest.afterAll (h : db.Latest batch) (calls : List Call) :
    ((db.afterAll calls).Latest batch ∧ ∀ other ∈ db.applied calls, other.key ≠ batch.key) ∨
      ((db.afterAll calls).Passed batch ∧ ∃ other ∈ db.applied calls, other.key = batch.key) := by
  induction calls generalizing db with
  | nil => exact .inl ⟨h, by simp [Database.applied, Database.steps]⟩
  | cons call calls ih =>
      rw [applied_cons, afterAll_cons]
      rcases db.after_cases call with ⟨hnone, _, hcursor⟩ |
        ⟨other, workItemId, happlied, hreceipt, hafter⟩
      · have hlatest : (db.after call).Latest batch := by
          obtain ⟨row, hrow, hanswers⟩ := h
          exact ⟨row, (hcursor _).trans hrow, hanswers⟩
        simpa [hnone] using ih hlatest
      · by_cases hkey : other.key = batch.key
        · have hpassed : (db.after call).Passed batch := by
            rw [hafter]
            refine passed_afterBatch hkey ?_
            rw [Ingested.start_eq_cursorOf hreceipt, hkey, h.cursorOf]
          exact .inr ⟨hpassed.afterAll calls, other, by simp [happlied], hkey⟩
        · have hlatest : (db.after call).Latest batch := by
            obtain ⟨row, hrow, hanswers⟩ := h
            exact ⟨row, by rw [hafter, findCursor_afterBatch, if_neg (Ne.symm hkey), hrow],
              hanswers⟩
          rcases ih hlatest with ⟨hkeep, hnone⟩ | ⟨hpassed, later, hlater, hsame⟩
          · refine .inl ⟨hkeep, fun later hlater => ?_⟩
            rw [happlied] at hlater
            rcases List.mem_cons.mp hlater with rfl | hlater
            · exact hkey
            · exact hnone later hlater
          · exact .inr ⟨hpassed, later, List.mem_append_right _ hlater, hsame⟩

end Database

/-- What an applied batch leaves behind, and what it needed. -/
theorem appendTimelineBatch_applied {db db' : Database} {now : UtcTimestamp}
    {batch : TimelineBatch} {cursor : StreamCursor}
    (hexec : (AppStore.appendTimelineBatch batch).exec now db = (.ok cursor, db'))
    (hne : db' ≠ db) :
    db'.Latest batch ∧ cursor = batch.expectedStreamRevision + batch.items.length ∧
      ∃ run, db'.findRun batch.runId = some run ∧ run.connectionId = batch.connectionId := by
  rcases appendTimelineBatch_eq_ok (AppStore.exec_ok hexec) with
    ⟨heq, _⟩ | ⟨run, hrun, hconnection, _, hcursor, _, rfl⟩
  · exact absurd heq hne
  · refine ⟨⟨batch.receipt now (timelinePayloadDigest batch.items), ?_, ⟨rfl, rfl, rfl⟩, rfl⟩,
      hcursor, run, hrun, hconnection⟩
    rw [Database.findCursor_afterBatch, if_pos rfl]

/-- Resubmitting an applied batch is answered with its cursor while it is the
stream's last one, and is rejected ever after. -/
theorem appendTimelineBatch_again {db db' : Database} {now : UtcTimestamp}
    {batch : TimelineBatch} {cursor : StreamCursor} (hitems : batch.items ≠ [])
    (hexec : (AppStore.appendTimelineBatch batch).exec now db = (.ok cursor, db'))
    (hne : db' ≠ db) (later : List Call) (now' : UtcTimestamp) :
    ((AppStore.appendTimelineBatch batch).exec now' (db'.afterAll later) =
        (.ok cursor, db'.afterAll later) ∧
      ∀ other ∈ db'.applied later, other.key ≠ batch.key) ∨
    (∃ error, (AppStore.appendTimelineBatch batch).exec now' (db'.afterAll later) =
        (.error error, db'.afterAll later)) ∧
      ∃ other ∈ db'.applied later, other.key = batch.key := by
  obtain ⟨hlatest, rfl, run, hrun, hconnection⟩ := appendTimelineBatch_applied hexec hne
  rcases hlatest.afterAll later with ⟨⟨row, hrow, hanswers, hcursor⟩, hnone⟩ | ⟨hpassed, hother⟩
  · refine .inl ⟨?_, hnone⟩
    obtain ⟨hvalid, hstart⟩ := appendTimelineBatch_checks (AppStore.exec_ok hexec)
    obtain ⟨run', hrun', hconnection'⟩ := Database.findRun_afterAll
      (P := fun run => run.connectionId = batch.connectionId)
      (fun hstep heq => hstep.identity.2.1.trans heq) hrun hconnection later
    have hretry := appendTimelineBatch_retry now' hvalid hstart hrun' hconnection' hrow hanswers
    rw [← hcursor]
    unfold AppStore.exec Txn.commit
    rw [show (AppStore.appendTimelineBatch batch).body now' =
      YakShed.appendTimelineBatch now' batch from rfl, hretry]
  · refine .inr ⟨?_, hother⟩
    obtain ⟨row, hrow, hstart, hcursor⟩ := hpassed
    have hpos : batch.expectedStreamRevision <
        batch.expectedStreamRevision + batch.items.length :=
      Nat.lt_add_of_pos_right (List.length_pos_iff.mpr hitems)
    rcases hagain : (AppStore.appendTimelineBatch batch).exec now' (db'.afterAll later) with
      ⟨result, last⟩
    cases result with
    | error error => exact ⟨error, by rw [AppStore.exec_error hagain]⟩
    | ok answered =>
        rcases appendTimelineBatch_eq_ok (AppStore.exec_ok hagain) with
          ⟨_, found, hfound, hanswers, _⟩ | ⟨_, _, _, hreceipt, _⟩
        · rw [hrow] at hfound
          cases hfound
          exact absurd (hstart.trans hanswers.2.1.le) (Nat.not_le.mpr hpos)
        · have hle := Database.Passed.le_cursorOf ⟨row, hrow, hstart, hcursor⟩
          rw [← Database.Ingested.start_eq_cursorOf hreceipt] at hle
          exact absurd hle (Nat.not_le.mpr hpos)

/-! ## The guarantee -/

/-- What the store promises about timelines after some calls. -/
structure IngestionGuarantee (calls : List Call) : Prop where
  /-- Revisions are `1 … n`. -/
  revisions : ∀ run, ((Database.empty.afterAll calls).timeline run).map (·.revision) =
    List.range' 1 ((Database.empty.afterAll calls).timeline run).length
  /-- The timeline is the applied batches' items, in the order of commitment. -/
  items : ∀ run, ((Database.empty.afterAll calls).timeline run).map (·.item) =
    ((Database.empty.applied calls).filter (·.runId = run)).flatMap (·.items)
  /-- A page is read off that order, from the revision asked for. -/
  listed : ∀ query page db', (listTimelinePage query).run (Database.empty.afterAll calls) =
      .ok (page, db') →
    page.items = ((((Database.empty.afterAll calls).timeline query.runId).drop
      (query.after.getD 0)).take query.limit).map (·.snapshot)
  /-- A cursor counts the items committed through its stream. -/
  cursors : ∀ key, (Database.empty.afterAll calls).cursorOf key =
    (((Database.empty.applied calls).filter (·.key = key)).map (·.items.length)).sum
  monotone : ∀ key later, (Database.empty.afterAll calls).cursorOf key ≤
    (Database.empty.afterAll (calls ++ later)).cursorOf key
  /-- No batch with items is applied twice. -/
  distinct : ((Database.empty.applied calls).filter (·.items ≠ [])).Nodup
  /-- An applied batch is answered again with its cursor as long as its stream
  was given no other, and nothing changes. -/
  answered : ∀ now batch cursor db', batch.items ≠ [] →
    (AppStore.appendTimelineBatch batch).exec now (Database.empty.afterAll calls) =
      (.ok cursor, db') →
    db' ≠ Database.empty.afterAll calls →
    ∀ later now', (∀ other ∈ db'.applied later, other.key ≠ batch.key) →
      (AppStore.appendTimelineBatch batch).exec now' (db'.afterAll later) =
        (.ok cursor, db'.afterAll later)
  /-- Once the stream was given another batch it is rejected. -/
  superseded : ∀ now batch cursor db', batch.items ≠ [] →
    (AppStore.appendTimelineBatch batch).exec now (Database.empty.afterAll calls) =
      (.ok cursor, db') →
    db' ≠ Database.empty.afterAll calls →
    ∀ later now', (∃ other ∈ db'.applied later, other.key = batch.key) →
      ∃ error, (AppStore.appendTimelineBatch batch).exec now' (db'.afterAll later) =
        (.error error, db'.afterAll later)
  rejected : ∀ call, call.accepted (Database.empty.afterAll calls) = false →
    (Database.empty.afterAll calls).after call = Database.empty.afterAll calls

theorem ingestionGuarantee (calls : List Call) : IngestionGuarantee calls := by
  have hingested : (Database.empty.afterAll calls).Ingested (Database.empty.applied calls) :=
    Database.Ingested.empty.afterAll calls
  refine
    { revisions := hingested.revisions, items := hingested.items, listed := ?_
      cursors := hingested.cursors, monotone := ?_, distinct := hingested.distinct
      answered := ?_, superseded := ?_, rejected := ?_ }
  · intro query page db' hpage
    exact listTimelinePage_items hingested hpage
  · intro key later
    have hlater := (Database.Ingested.empty.afterAll (calls ++ later)).cursors key
    rw [hingested.cursors, hlater, List.nil_append]
    unfold Database.applied
    rw [Database.steps_append, List.filterMap_append]
    exact sum_filter_le _ _ _ _
  · intro now batch cursor db' hitems hexec hne later now' hnone
    rcases appendTimelineBatch_again hitems hexec hne later now' with
      ⟨hok, _⟩ | ⟨_, other, hmem, hkey⟩
    · exact hok
    · exact absurd hkey (hnone other hmem)
  · intro now batch cursor db' hitems hexec hne later now' ⟨other, hmem, hkey⟩
    rcases appendTimelineBatch_again hitems hexec hne later now' with ⟨_, hnone⟩ | ⟨herror, _⟩
    · exact absurd hkey (hnone other hmem)
    · exact herror
  · intro call hrejected
    unfold Call.accepted at hrejected
    unfold Database.after
    rcases hexec : call.op.exec call.now (Database.empty.afterAll calls) with ⟨result, db'⟩
    cases result with
    | error error => exact AppStore.exec_error hexec
    | ok value =>
        rw [hexec] at hrejected
        cases hrejected

end Log

end YakShed
