/-
# What the store answers about one work item

One equation for each operation that reads a work item, its runs, or what
belongs to a run: the answer as a function of the rows of that item. A listing
is a page of the sorted rows after the given key.
-/

import YakShed.Store.Revisions

namespace YakShed

variable {now : UtcTimestamp} {db db' : Database} {item : WorkItemId} {run : RunId}

/-! ## Keys -/

/-- The place of an identifier in a listing. -/
def Uuid.order (id : Uuid) : Nat := id.bits.toNat

theorem Uuid.order_injective : Function.Injective Uuid.order := by
  rintro ⟨first, _⟩ ⟨second, _⟩ h
  obtain rfl : first = second := BitVec.eq_of_toNat_eq h
  rfl

section Order

variable {α : Type} (key : α → Uuid)

instance : IsTrans α fun first second => key first ≤ key second :=
  ⟨fun _ _ _ hfirst hsecond => Nat.le_trans hfirst hsecond⟩

instance : Std.Total fun first second : α => key first ≤ key second :=
  ⟨fun first second => Nat.le_total (key first).bits.toNat (key second).bits.toNat⟩

/-- Every listing keeps some rows of a table in the order of their identifiers. -/
theorem filter_orderById (keep : α → Bool) (after : Option Uuid) (rows : List α) :
    (orderById key rows).filter (fun row => keep row && isAfter after (key row)) =
      Paging.after (fun row => (key row).order) (orderById key (rows.filter keep))
        (after.map Uuid.order) := by
  have hswap : (orderById key rows).filter (fun row => keep row && isAfter after (key row)) =
      ((orderById key rows).filter keep).filter fun row => isAfter after (key row) := by
    rw [List.filter_filter]
    refine List.filter_congr fun row _ => Bool.and_comm _ _
  rw [hswap, orderById, Paging.filter_insertionSort]
  cases after with
  | none => exact List.filter_eq_self.mpr fun _ _ => rfl
  | some bound => rfl

/-- Distinct identifiers come in strictly increasing order. -/
theorem pairwise_orderById {rows : List α} (h : (rows.map key).Nodup) :
    (orderById key rows).Pairwise fun first second => (key first).order < (key second).order := by
  have hsorted : (orderById key rows).Pairwise fun first second => key first ≤ key second :=
    List.pairwise_insertionSort _ rows
  have hdistinct : ((orderById key rows).map key).Nodup :=
    ((List.perm_insertionSort _ rows).map key).nodup_iff.mpr h
  refine (hsorted.and (List.pairwise_map.mp hdistinct)).imp fun h => ?_
  exact lt_of_le_of_ne h.1 fun heq => h.2 (Uuid.order_injective heq)

end Order

/-! ## Answers -/

section Answers

variable [Sha256]

/-- A read's answer, and the database as it was. -/
theorem AppStore.exec_of_run {α : Type} {op : AppStore α} {answer : Except StoreError α}
    (h : (op.body now).run db = answer.map fun value => (value, db)) :
    op.exec now db = (answer, db) := by
  cases answer with
  | error error => exact AppStore.exec_rejects h
  | ok value => exact AppStore.exec_accepts h

theorem getWorkItem_exec :
    (AppStore.getWorkItem item).exec now db =
      (match db.findWorkItem item with
        | some row => .ok (db.workItemSnapshot row)
        | none => .error (.notFound "work item" item.uuid.toText), db) := by
  refine AppStore.exec_of_run ?_
  change (match db.findWorkItem item with | some row => _ | none => _ : Txn _).run db = _
  cases db.findWorkItem item <;> rfl

theorem getRun_exec :
    (AppStore.getRun run).exec now db =
      (match db.findRun run with
        | some row => .ok row.snapshot
        | none => .error (.notFound "run" run.uuid.toText), db) := by
  refine AppStore.exec_of_run ?_
  change (match db.findRun run with | some row => _ | none => _ : Txn _).run db = _
  cases db.findRun run <;> rfl

theorem listProjects_exec (after : Option ProjectId) (limit : Nat) :
    (AppStore.listProjects after limit).exec now db =
      ((validatePageSize limit).map fun limit =>
        Page.ofRows (·.id) limit ((Paging.after (·.id.uuid.order)
          (orderById (·.id.uuid) db.projects) (after.map (·.uuid.order))).map
            ProjectRow.snapshot), db) := by
  refine AppStore.exec_of_run ?_
  change (YakShed.listProjects after limit).run db = _
  unfold YakShed.listProjects
  cases hlimit : validatePageSize limit with
  | error error => rfl
  | ok limit =>
      cases after with
      | none =>
          change Except.ok (Page.ofRows _ limit ((List.filter (fun _ => true) _).map _), db) = _
          rw [List.filter_eq_self.mpr fun _ _ => rfl]
          rfl
      | some bound => rfl

/-- Archived work items are left out unless they are asked for. -/
theorem listWorkItems_exec (query : ListWorkItems) :
    (AppStore.listWorkItems query).exec now db =
      ((validatePageSize query.limit).map fun limit =>
        Page.ofRows (·.id) limit ((Paging.after (·.id.uuid.order)
          (orderById (·.id.uuid) (db.workItems.filter fun row =>
            row.projectId = query.projectId &&
              (query.includeArchived || row.status ≠ .archived)))
          (query.after.map (·.uuid.order))).map db.workItemSnapshot), db) := by
  refine AppStore.exec_of_run ?_
  change (YakShed.listWorkItems query).run db = _
  obtain ⟨project, after, limit, includeArchived⟩ := query
  unfold YakShed.listWorkItems
  cases hlimit : validatePageSize limit with
  | error error =>
      simp only
      rfl
  | ok limit =>
      simp only
      change Except.ok (Page.ofRows _ limit (((orderById _ db.workItems).filter _).map _), db) = _
      rw [filter_orderById]
      cases after <;> rfl

omit [Sha256] in
/-- Every listing of runs is a page of the runs that it keeps. -/
theorem listRuns_run (db : Database) (keep : RunRow → Bool) (after : Option RunId)
    (limit : Nat) :
    (listRuns keep after limit).run db =
      ((validatePageSize limit).map fun limit =>
        Page.ofRows (·.id) limit ((Paging.after (·.id.uuid.order)
          (orderById (·.id.uuid) (db.runs.filter keep)) (after.map (·.uuid.order))).map
            RunRow.snapshot)).map fun page => (page, db) := by
  unfold listRuns
  cases hlimit : validatePageSize limit with
  | error error => rfl
  | ok limit =>
      change Except.ok (Page.ofRows _ limit (((orderById _ db.runs).filter _).map _), db) = _
      rw [filter_orderById]
      cases after <;> rfl

theorem listRunsForWorkItem_exec (after : Option RunId) (limit : Nat) :
    (AppStore.listRunsForWorkItem item after limit).exec now db =
      ((validatePageSize limit).map fun limit =>
        Page.ofRows (·.id) limit ((Paging.after (·.id.uuid.order)
          (orderById (·.id.uuid) (db.runsOf item)) (after.map (·.uuid.order))).map
            RunRow.snapshot), db) :=
  AppStore.exec_of_run (listRuns_run db _ after limit)

omit [Sha256] in
/-- Every listing of approvals is a page of the approvals that it keeps. -/
theorem listApprovals_run (db : Database) (keep : ApprovalRow → Bool)
    (after : Option ApprovalRequestId) (limit : Nat) :
    (listApprovals keep after limit).run db =
      ((validatePageSize limit).bind fun limit =>
        (readRows ApprovalRow.snapshot ((Paging.after (·.id.uuid.order)
          (orderById (·.id.uuid) (db.approvalRequests.filter keep))
          (after.map (·.uuid.order))).take (limit + 1))).map (Page.ofRows (·.id) limit)).map
            fun page => (page, db) := by
  unfold listApprovals
  cases hlimit : validatePageSize limit with
  | error error => rfl
  | ok limit =>
      change (readRows _ (((orderById _ db.approvalRequests).filter _).take _) >>= fun items =>
        Except.ok (items, db)) >>= _ = _
      rw [filter_orderById]
      have hbound : (after.map (·.uuid)).map Uuid.order = after.map (·.uuid.order) := by
        cases after <;> rfl
      rw [hbound]
      change _ = Except.map _ (Except.map _ (readRows _ _))
      cases readRows ApprovalRow.snapshot _ <;> rfl

/-- The approvals of a run, in the order of a listing. -/
def Database.approvalRows (db : Database) (run : RunId) : List ApprovalRow :=
  orderById (·.id.uuid) (db.approvalRequests.filter (·.runId = run))

theorem listApprovalsForRun_exec (after : Option ApprovalRequestId) (limit : Nat) :
    (AppStore.listApprovalsForRun run after limit).exec now db =
      ((validatePageSize limit).bind fun limit =>
        (readRows ApprovalRow.snapshot ((Paging.after (·.id.uuid.order) (db.approvalRows run)
          (after.map (·.uuid.order))).take (limit + 1))).map (Page.ofRows (·.id) limit), db) :=
  AppStore.exec_of_run (listApprovals_run db _ after limit)

/-- The unanswered requests of a run, in the order of a listing. -/
def Database.pendingRows (db : Database) (run : RunId) : List TimelineItemRow :=
  orderById (·.id.uuid) ((db.timeline run).filter fun row =>
    row.kind = "user_input_requested" && db.isUnanswered row)

theorem listPendingUserInputsForRun_exec (after : Option TimelineItemId) (limit : Nat) :
    (AppStore.listPendingUserInputsForRun run after limit).exec now db =
      ((validatePageSize limit).bind fun limit =>
        (readRows TimelineItemRow.pendingUserInput ((Paging.after (·.id.uuid.order)
          (db.pendingRows run) (after.map (·.uuid.order))).take (limit + 1))).map
            (Page.ofRows (·.id) limit), db) := by
  refine AppStore.exec_of_run ?_
  change (YakShed.listPendingUserInputsForRun run after limit).run db = _
  unfold YakShed.listPendingUserInputsForRun
  cases hlimit : validatePageSize limit with
  | error error => rfl
  | ok limit =>
      have hkeep : (orderById (·.id.uuid) (db.timeline run)).filter (fun row =>
          row.kind = "user_input_requested" && isAfter (after.map (·.uuid)) row.id.uuid &&
            db.isUnanswered row) =
          Paging.after (·.id.uuid.order) (db.pendingRows run) (after.map (·.uuid.order)) := by
        have hbound : (after.map (·.uuid)).map Uuid.order = after.map (·.uuid.order) := by
          cases after <;> rfl
        rw [← hbound, Database.pendingRows, ← filter_orderById]
        refine List.filter_congr fun row _ => ?_
        rw [Bool.and_assoc, Bool.and_assoc, Bool.and_comm (isAfter _ _)]
      change (readRows _ (((orderById _ (db.timeline run)).filter _).take _) >>= fun items =>
        Except.ok (items, db)) >>= _ = _
      rw [hkeep]
      change _ = Except.map _ (Except.map _ (readRows _ _))
      cases readRows TimelineItemRow.pendingUserInput _ <;> rfl

/-- The timeline of a run, in the order of a listing. -/
def Database.timelineRows (db : Database) (run : RunId) : List TimelineItemRow :=
  (db.timeline run).insertionSort fun first second => first.revision ≤ second.revision

theorem listTimelinePage_exec (query : ListTimeline) :
    (AppStore.listTimelinePage query).exec now db =
      ((validatePageSize query.limit).bind fun limit =>
        (query.after.elim (.ok 0) checkedI64).map fun _ =>
          Page.ofRows (·.revision) limit ((Paging.after (·.revision)
            (db.timelineRows query.runId) query.after).map TimelineItemRow.snapshot), db) := by
  refine AppStore.exec_of_run ?_
  change (YakShed.listTimelinePage query).run db = _
  unfold YakShed.listTimelinePage
  obtain ⟨run, after, limit⟩ := query
  cases hlimit : validatePageSize limit with
  | error error =>
      simp only
      rfl
  | ok limit =>
      simp only
      cases after with
      | none =>
          change Except.ok (Page.ofRows _ _ ((List.filter _ _).map _), db) = _
          rw [List.filter_eq_self.mpr fun _ _ => rfl]
          rfl
      | some bound =>
          simp only [Option.elim_some]
          cases checkedI64 bound <;> rfl

end Answers

/-! ## One content, one answer -/

/-- The operation reads the work item, or something of one of its runs. -/
inductive AppStore.About (db : Database) (item : WorkItemId) : {α : Type} → AppStore α → Prop
  | workItem : About db item (.getWorkItem item)
  | runs (after : Option RunId) (limit : Nat) :
      About db item (.listRunsForWorkItem item after limit)
  | run {run : RunId} (owns : db.Owns item run) : About db item (.getRun run)
  | timeline (query : ListTimeline) (owns : db.Owns item query.runId) :
      About db item (.listTimelinePage query)
  | approvals {run : RunId} (owns : db.Owns item run) (after : Option ApprovalRequestId)
      (limit : Nat) : About db item (.listApprovalsForRun run after limit)
  | userInputs {run : RunId} (owns : db.Owns item run) (after : Option TimelineItemId)
      (limit : Nat) : About db item (.listPendingUserInputsForRun run after limit)

section Content

theorem runsOf_eq_of_aggregate (h : db'.aggregate item = db.aggregate item) :
    db'.runsOf item = db.runsOf item := congrArg Aggregate.runs h

theorem owns_iff_of_aggregate (h : db'.aggregate item = db.aggregate item) :
    db'.Owns item run ↔ db.Owns item run := by
  unfold Database.Owns
  rw [runsOf_eq_of_aggregate h]

theorem timeline_eq_of_aggregate (h : db'.aggregate item = db.aggregate item)
    (howns : db.Owns item run) : db'.timeline run = db.timeline run := by
  have hof : ∀ db : Database, db.Owns item run → db.timeline run =
      (db.aggregate item).timeline.filter (·.runId = run) := fun db howns => by
    refine (Paging.filter_filter_of_imp fun row _ hrow => ?_).symm
    rw [of_decide_eq_true hrow]
    exact decide_eq_true howns
  rw [hof db howns, hof db' ((owns_iff_of_aggregate h).mpr howns), h]

theorem approvalRows_eq_of_aggregate (h : db'.aggregate item = db.aggregate item)
    (howns : db.Owns item run) : db'.approvalRows run = db.approvalRows run := by
  have hof : ∀ db : Database, db.Owns item run → db.approvalRequests.filter (·.runId = run) =
      (db.aggregate item).approvals.filter (·.runId = run) := fun db howns => by
    refine (Paging.filter_filter_of_imp fun row _ hrow => ?_).symm
    rw [of_decide_eq_true hrow]
    exact decide_eq_true howns
  unfold Database.approvalRows
  rw [hof db howns, hof db' ((owns_iff_of_aggregate h).mpr howns), h]

theorem pendingRows_eq_of_timeline (h : db'.timeline run = db.timeline run) :
    db'.pendingRows run = db.pendingRows run := by
  have hof : ∀ (db : Database) (row : TimelineItemRow), row.runId = run → db.isUnanswered row =
      !(db.timeline run).any fun response =>
        response.kind = "user_input_responded" && response.body = row.id.uuid.toText := by
    intro db row hrow
    unfold Database.isUnanswered Database.timeline
    rw [List.any_filter, hrow]
    simp only [Bool.and_assoc]
  unfold Database.pendingRows
  rw [h]
  refine congrArg _ (List.filter_congr fun row hrow => ?_)
  have hrun : row.runId = run := of_decide_eq_true (List.mem_filter.mp hrow).2
  rw [hof db' row hrun, hof db row hrun, h]

variable [Sha256]

/-- Where the same is stored of an item, the same is read about it. -/
theorem answer_eq_of_aggregate (hids : (db.runs.map (·.id)).Nodup)
    (hids' : (db'.runs.map (·.id)).Nodup) (h : db'.aggregate item = db.aggregate item) {α : Type}
    {op : AppStore α} (habout : op.About db item) :
    (op.exec now db').1 = (op.exec now db).1 := by
  cases habout with
  | workItem =>
      have hitem : db'.findWorkItem item = db.findWorkItem item := congrArg Aggregate.item h
      have hparent : db'.parentOf item = db.parentOf item := congrArg Aggregate.parent h
      rw [getWorkItem_exec, getWorkItem_exec, hitem]
      cases hrow : db.findWorkItem item with
      | none => rfl
      | some row =>
          have hid : row.id = item := Keyed.key_of_lookup hrow
          dsimp only [Database.workItemSnapshot]
          rw [hid, hparent]
  | runs after limit =>
      rw [listRunsForWorkItem_exec, listRunsForWorkItem_exec, runsOf_eq_of_aggregate h]
  | @run run howns =>
      have hof : ∀ db : Database, (db.runs.map (·.id)).Nodup → db.Owns item run →
          db.findRun run = Keyed.lookup (·.id) (db.runsOf item) run := by
        intro db hids howns
        obtain ⟨row, hrow, hitem⟩ := (Database.owns_iff hids).mp howns
        have hmem : row ∈ db.runsOf item :=
          List.mem_filter.mpr ⟨Keyed.mem_of_lookup hrow, decide_eq_true hitem⟩
        have hnodup : ((db.runsOf item).map (·.id)).Nodup :=
          hids.sublist (List.filter_sublist.map _)
        rw [hrow, ← Keyed.lookup_of_mem hnodup hmem]
        exact congrArg _ (Keyed.key_of_lookup hrow)
      rw [getRun_exec, getRun_exec, hof db hids howns,
        hof db' hids' ((owns_iff_of_aggregate h).mpr howns), runsOf_eq_of_aggregate h]
  | timeline query howns =>
      rw [listTimelinePage_exec, listTimelinePage_exec]
      unfold Database.timelineRows
      rw [timeline_eq_of_aggregate h howns]
  | approvals howns after limit =>
      rw [listApprovalsForRun_exec, listApprovalsForRun_exec, approvalRows_eq_of_aggregate h howns]
  | userInputs howns after limit =>
      rw [listPendingUserInputsForRun_exec, listPendingUserInputsForRun_exec,
        pendingRows_eq_of_timeline (timeline_eq_of_aggregate h howns)]

end Content

/-! ## The guarantee -/

/-- The operation only reads. -/
def AppStore.isRead : {α : Type} → AppStore α → Bool
  | _, .createProject _ | _, .createWorkItem _ | _, .archiveWorkSubtree _ | _, .createRun _
  | _, .transitionRun _ | _, .appendTimelineBatch _ | _, .recordPendingApproval _
  | _, .beginApprovalResponse _ | _, .confirmApprovalResponse _ => false
  | _, _ => true

/-- The operation repeats one that the store has already applied: what it creates
is there, or the batch is the last of its stream. -/
def AppStore.IsReplay [Sha256] (db : Database) : {α : Type} → AppStore α → Prop
  | _, .createProject command => (db.findProject command.id).isSome
  | _, .createWorkItem command => (db.findWorkItem command.id).isSome
  | _, .createRun command => (db.findRun command.id).isSome
  | _, .recordPendingApproval approval => (db.findApproval approval.id).isSome
  | _, .appendTimelineBatch batch => ∃ row, db.findCursor batch.key = some row ∧
      row.Answers batch (timelinePayloadDigest batch.items)
  | _, _ => False

section Guarantee

variable [Sha256]

theorem AppStore.exec_of_isRead {α : Type} {op : AppStore α} (h : op.isRead = true) :
    (op.exec now db).2 = db := by
  rcases hexec : op.exec now db with ⟨result, after⟩
  cases result with
  | error error => exact AppStore.exec_error hexec
  | ok value =>
      have hbody := AppStore.exec_ok hexec
      cases op with
      | listProjects after limit => exact listProjects_readOnly after limit hbody
      | getWorkItem id => exact getWorkItem_readOnly id hbody
      | listWorkItems query => exact listWorkItems_readOnly query hbody
      | getRun id => exact getRun_readOnly id hbody
      | listRunsForWorkItem item after limit => exact listRuns_readOnly _ after limit hbody
      | listActiveRuns after limit => exact listRuns_readOnly _ after limit hbody
      | listRunsNeedingReconciliation after limit => exact listRuns_readOnly _ after limit hbody
      | getStreamCursor query => exact getStreamCursor_readOnly query hbody
      | listTimelinePage query => exact listTimelinePage_readOnly query hbody
      | listPendingUserInputsForRun run after limit =>
          exact listPendingUserInputsForRun_readOnly run after limit hbody
      | listPendingApprovals after limit => exact listApprovals_readOnly _ after limit hbody
      | listApprovalsForRun run after limit => exact listApprovals_readOnly _ after limit hbody
      | listUnconfirmedApprovalResponses after limit =>
          exact listApprovals_readOnly _ after limit hbody
      | _ => cases h

theorem AppStore.exec_of_isReplay {α : Type} {op : AppStore α} (h : op.IsReplay db) :
    (op.exec now db).2 = db := by
  rcases hexec : op.exec now db with ⟨result, after⟩
  have habsurd : ∀ {β : Type} {found : Option β}, found.isSome = true → found ≠ none := by
    rintro _ _ hsome rfl
    cases hsome
  cases result with
  | error error => exact AppStore.exec_error hexec
  | ok value =>
      have hbody := AppStore.exec_ok hexec
      cases op with
      | createProject command =>
          exact (createProject_eq_ok hbody).elim (·.1) fun hnew => absurd hnew.1 (habsurd h)
      | createWorkItem command =>
          exact (createWorkItem_eq_ok hbody).elim (·.1) fun hnew => absurd hnew.1 (habsurd h)
      | createRun command =>
          exact (createRun_eq_ok hbody).elim (·.1) fun hnew => absurd hnew.1 (habsurd h)
      | recordPendingApproval approval =>
          exact (recordPendingApproval_eq_ok hbody).elim (·.1) fun hnew =>
            absurd hnew.1 (habsurd h)
      | appendTimelineBatch batch =>
          obtain ⟨row, hrow, hanswers⟩ := h
          rcases appendTimelineBatch_eq_ok hbody with ⟨hsame, _⟩ | ⟨_, _, _, hreceipt, _⟩
          · exact hsame
          · rcases checkReceipt_eq_none hreceipt with ⟨hnone, _⟩ | ⟨other, hother, hne, _⟩
            · rw [hrow] at hnone
              cases hnone
            · rw [hrow] at hother
              cases hother
              exact absurd hanswers.1 hne
      | _ => cases h

/-- What the revisions of a database's work items say about it. -/
structure RevisionGuarantee (db : Database) : Prop where
  quiet : ∀ {α : Type} (op : AppStore α) now,
    (op.exec now db).1.isOk = false ∨ op.isRead = true ∨ op.IsReplay db → (op.exec now db).2 = db
  /-- An item that is not bumped keeps its row and all that is stored of it. -/
  step : ∀ {α : Type} (op : AppStore α) now item row, db.findWorkItem item = some row →
    ∃ row', (op.exec now db).2.findWorkItem item = some row' ∧
      (row'.revision = row.revision + 1 ∨
        row' = row ∧ (op.exec now db).2.aggregate item = db.aggregate item)
  /-- Something else is read about an item only if the call bumped it. -/
  observed : ∀ {α β : Type} (op : AppStore α) now item row (read : AppStore β) later,
    db.findWorkItem item = some row →
    read.About db item ∨ read.About (op.exec now db).2 item →
    (read.exec later (op.exec now db).2).1 ≠ (read.exec later db).1 →
    ∃ row', (op.exec now db).2.findWorkItem item = some row' ∧ row'.revision = row.revision + 1

theorem Database.Sound.guarantees (hdb : db.Sound) : RevisionGuarantee db where
  quiet := by
    rintro α op now (hfailed | hread | hreplay)
    · rcases hexec : op.exec now db with ⟨result, after⟩
      cases result with
      | error error => exact AppStore.exec_error hexec
      | ok value =>
          rw [hexec] at hfailed
          cases hfailed
    · exact AppStore.exec_of_isRead hread
    · exact AppStore.exec_of_isReplay hreplay
  step := by
    intro α op now item row hrow
    cases Database.versioned hdb (op.change now db) hrow with
    | bumped row' hrow' hnext => exact ⟨row', hrow', .inl hnext⟩
    | untouched hsame =>
        have hitem : (op.exec now db).2.findWorkItem item = db.findWorkItem item :=
          congrArg Aggregate.item hsame
        exact ⟨row, hitem.trans hrow, .inr ⟨rfl, hsame⟩⟩
  observed := by
    intro α β op now item row read later hrow habout hdiffers
    have hids' := (hdb.step (op.change now db)).runIds
    cases Database.versioned hdb (op.change now db) hrow with
    | bumped row' hrow' hnext => exact ⟨row', hrow', hnext⟩
    | untouched hsame =>
        refine absurd ?_ hdiffers
        rcases habout with habout | habout
        · exact answer_eq_of_aggregate hdb.runIds hids' hsame habout
        · exact (answer_eq_of_aggregate hids' hdb.runIds hsame.symm habout).symm

/-- After any calls, the revision of a work item versions all that is read about it. -/
theorem revisionGuarantee (calls : List Call) :
    RevisionGuarantee (Database.empty.afterAll calls) :=
  (Database.Sound.empty.afterAll calls).guarantees

end Guarantee

end YakShed
