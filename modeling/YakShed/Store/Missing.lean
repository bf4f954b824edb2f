/-
# Missing entities

Callers tell a missing entity from a conflict by the error, so an operation has
to say `NotFound` of what it names, and of nothing else. Every operation looks
up what it needs by itself; the one that appends to a timeline reads the run a
second time without expecting that it may be absent.
-/

import YakShed.Store.Creation

namespace YakShed

variable {now : UtcTimestamp} {db db' : Database}

/-! ## Entities -/

/-- What an operation can name, under the words of its error. -/
inductive Entity
  | project (id : ProjectId)
  | workItem (id : WorkItemId)
  | parent (id : WorkItemId)
  | run (id : RunId)
  | approval (id : ApprovalRequestId)
  deriving DecidableEq

namespace Entity

def isStored (db : Database) : Entity → Bool
  | project id => (db.findProject id).isSome
  | workItem id | parent id => (db.findWorkItem id).isSome
  | run id => (db.findRun id).isSome
  | approval id => (db.findApproval id).isSome

def notFound : Entity → StoreError
  | project id => .notFound "project" id.uuid.toText
  | workItem id => .notFound "work item" id.uuid.toText
  | parent id => .notFound "parent work item" id.uuid.toText
  | run id => .notFound "run" id.uuid.toText
  | approval id => .notFound "approval request" id.uuid.toText

end Entity

/-- The entities that an operation names, in the order of its lookups. -/
def AppStore.named : {α : Type} → AppStore α → List Entity
  | _, .createWorkItem command =>
      .project command.projectId :: (command.parentId.map Entity.parent).toList
  | _, .getWorkItem id => [.workItem id]
  | _, .archiveWorkSubtree root => [.workItem root]
  | _, .createRun command => [.workItem command.workItemId]
  | _, .getRun id => [.run id]
  | _, .transitionRun command => [.run command.runId]
  | _, .appendTimelineBatch batch => [.run batch.runId]
  | _, .getStreamCursor query => [.run query.runId]
  | _, .recordPendingApproval approval => [.run approval.runId]
  | _, .beginApprovalResponse response => [.approval response.approvalId]
  | _, .confirmApprovalResponse response => [.approval response.approvalId]
  | _, _ => []

/-- The command passes the checks that are made of it alone, and the identifier
of what it creates does not already belong to something else. -/
def AppStore.WellFormed (db : Database) : {α : Type} → AppStore α → Prop
  | _, .createWorkItem command => trimIsEmpty command.title = false ∧
      ((db.findWorkItem command.id).isSome → (Creation.workItem command).Stored db)
  | _, .createRun command =>
      (db.findRun command.id).isSome → (Creation.run command).Stored db
  | _, .transitionRun command => command.expectedCurrent.canTransitionTo command.target = true
  | _, .recordPendingApproval approval => trimIsEmpty approval.kind = false ∧
      ((db.findApproval approval.id).isSome → (Creation.approval approval).Stored db)
  | _, _ => True

/-- The operation reports what is missing, and calls nothing else missing. -/
structure AppStore.Reports [Sha256] {α : Type} (now : UtcTimestamp) (db : Database)
    (op : AppStore α) : Prop where
  /-- The first absent entity is the one that is reported, and nothing changes. -/
  absent : ∀ entity, op.named.find? (fun entity => !entity.isStored db) = some entity →
    op.exec now db = (.error entity.notFound, db)
  only : ∀ name text, (op.exec now db).1 = .error (.notFound name text) →
    ∃ entity ∈ op.named, entity.isStored db = false ∧ entity.notFound = .notFound name text

/-! ## What a body can call missing -/

def StoreError.isNotFound : StoreError → Bool
  | .notFound _ _ => true
  | _ => false

/-- Whatever the body calls missing satisfies `P`. -/
structure Txn.Misses {α : Type} (body : Txn α) (db : Database) (P : StoreError → Prop) : Prop where
  missing : ∀ error, body.run db = .error error → error.isNotFound = true → P error

namespace Txn.Misses

variable {α β : Type} {P : StoreError → Prop}

theorem of_ok {body : Txn α} {result : α × Database} (h : body.run db = .ok result) :
    body.Misses db P := by
  constructor
  intro error herror
  rw [h] at herror
  cases herror

theorem bind {body : Txn α} {next : α → Txn β} (h : body.Misses db P)
    (hnext : ∀ value db', body.run db = .ok (value, db') → (next value).Misses db' P) :
    (body >>= next).Misses db P := by
  constructor
  intro error herror hmissing
  rw [StateT.run_bind] at herror
  cases hbody : body.run db with
  | error first =>
      rw [hbody] at herror
      cases herror
      exact h.missing _ hbody hmissing
  | ok pair =>
      rw [hbody] at herror
      exact (hnext pair.1 pair.2 hbody).missing error herror hmissing

theorem pure (value : α) : (Pure.pure value : Txn α).Misses db P := of_ok rfl

theorem read {next : Database → Txn β} (h : (next db).Misses db P) :
    (Txn.read >>= next).Misses db P := by
  apply bind
  · exact of_ok rfl
  · intro value db' hread
    obtain ⟨rfl, rfl⟩ := Txn.read_eq_ok.mp hread
    exact h

theorem write {written : Database} {next : Unit → Txn β} (h : (next ()).Misses written P) :
    (Txn.write written >>= next).Misses db P := by
  apply bind
  · exact of_ok rfl
  · intro value db' hwrite
    obtain rfl := Txn.write_eq_ok.mp hwrite
    exact h

theorem throw {error : StoreError} (h : error.isNotFound = true → P error) :
    (MonadExcept.throw error : Txn α).Misses db P := by
  constructor
  intro other herror hmissing
  cases herror
  exact h hmissing

theorem fail {error : StoreError} {next : α → Txn β} (h : error.isNotFound = true → P error) :
    ((MonadExcept.throw error : Txn α) >>= next).Misses db P := by
  apply bind (throw h)
  intro value db' herror
  cases herror

/-- A check, of which everything that it calls missing satisfies `P`. -/
theorem check {condition : Except StoreError α} {next : α → Txn β}
    (hcheck : ∀ error, condition = .error error → error.isNotFound = true → P error)
    (h : ∀ value, condition = .ok value → (next value).Misses db P) :
    ((liftM condition : Txn α) >>= next).Misses db P := by
  apply bind
  · constructor
    intro error herror hmissing
    cases hcondition : condition with
    | ok value =>
        rw [hcondition] at herror
        cases herror
    | error first =>
        rw [hcondition] at herror
        cases herror
        exact hcheck _ hcondition hmissing
  · intro value db' hok
    obtain ⟨hvalue, rfl⟩ := Txn.lift_eq_ok.mp hok
    exact h value hvalue

end Txn.Misses

/-! ## Checks -/

/-- Nothing that the check rejects is called missing. -/
def Silent {α : Type} (check : Except StoreError α) : Prop :=
  ∀ error, check = .error error → error.isNotFound = false

theorem Txn.Misses.silent {α β : Type} {P : StoreError → Prop} {condition : Except StoreError α}
    {next : α → Txn β} (hcheck : Silent condition)
    (h : ∀ value, condition = .ok value → (next value).Misses db P) :
    ((liftM condition : Txn α) >>= next).Misses db P := by
  apply Misses.check
  · intro error herror hmissing
    rw [hcheck error herror] at hmissing
    cases hmissing
  · exact h

namespace Silent

theorem ok {α : Type} (value : α) : Silent (.ok value) := by
  intro error h
  cases h

theorem error {α : Type} {error : StoreError} (h : error.isNotFound = false) :
    Silent (.error error : Except StoreError α) := by
  intro other hother
  cases hother
  exact h

theorem bind {α β : Type} {check : Except StoreError α} {next : α → Except StoreError β}
    (h : Silent check) (hnext : ∀ value, Silent (next value)) : Silent (check >>= next) := by
  intro other hother
  cases hcheck : check with
  | ok value =>
      rw [hcheck] at hother
      exact hnext value other hother
  | error first =>
      rw [hcheck] at hother
      cases hother
      exact h _ hcheck

theorem validateText (field value : String) : Silent (validateText field value) := by
  unfold YakShed.validateText
  split
  · exact error rfl
  · exact ok _

theorem checkTextColumn (column value : String) : Silent (checkTextColumn column value) := by
  unfold YakShed.checkTextColumn
  split
  · exact ok _
  · exact error rfl

theorem validateAppId (field : String) (isV7 : Bool) : Silent (validateAppId field isV7) := by
  unfold YakShed.validateAppId
  split
  · exact ok _
  · exact error rfl

theorem validatePageSize (limit : Nat) : Silent (validatePageSize limit) := by
  unfold YakShed.validatePageSize
  split
  · exact ok _
  · exact error rfl

theorem checkedI64 (value : Nat) : Silent (checkedI64 value) := by
  unfold YakShed.checkedI64
  split
  · exact ok _
  · exact error rfl

theorem checkedAdd (overflow : String) (first second : Nat) :
    Silent (checkedAdd overflow first second) := by
  unfold YakShed.checkedAdd
  split
  · exact ok _
  · exact error rfl

theorem forM {α : Type} {check : α → Except StoreError Unit} (h : ∀ item, Silent (check item))
    (items : List α) : Silent (items.forM check) := by
  induction items with
  | nil => exact ok _
  | cons item rest ih => exact bind (h item) fun _ => ih

theorem readRows {α β : Type} {convert : α → Except StoreError β}
    (h : ∀ row, Silent (convert row)) (rows : List α) : Silent (readRows convert rows) := by
  unfold YakShed.readRows
  induction rows with
  | nil => exact ok _
  | cons row rest ih =>
      rw [List.mapM_cons]
      exact bind (h row) fun _ => bind ih fun _ => ok _

theorem validateBatch (batch : TimelineBatch) : Silent (validateBatch batch) := by
  unfold YakShed.validateBatch
  exact bind (validateAppId _ _) fun _ => bind (validateText _ _) fun _ =>
    bind (validateText _ _) fun _ =>
      forM (fun _ => bind (validateAppId _ _) fun _ => validateText _ _) _

theorem checkReceipt (receipt : Option CursorRow) (batch : TimelineBatch) (digest : String) :
    Silent (checkReceipt receipt batch digest) := by
  unfold YakShed.checkReceipt
  cases receipt with
  | none =>
      dsimp only
      split
      · exact error rfl
      · exact ok _
  | some row =>
      dsimp only
      split
      · exact error rfl
      · split
        · exact ok _
        · split
          · exact error rfl
          · split
            · exact error rfl
            · exact ok _

theorem approvalSnapshot (row : ApprovalRow) : Silent row.snapshot := by
  refine bind ?_ fun _ => ok _
  unfold ApprovalRow.approvalStatus
  split
  all_goals first | exact ok _ | exact error rfl

theorem violation {row : TimelineItemRow} {error : StoreError}
    (h : row.violation db = some error) : error.isNotFound = false := by
  unfold TimelineItemRow.violation at h
  split at h
  · cases h
    rfl
  · split at h
    · cases h
      rfl
    · split at h
      · cases h
        rfl
      · split at h
        · cases h
          rfl
        · split at h
          · cases h
            rfl
          · cases h

theorem pendingUserInput (row : TimelineItemRow) : Silent row.pendingUserInput := by
  unfold TimelineItemRow.pendingUserInput
  split
  · exact ok _
  · exact error rfl

end Silent

/-! ## Bodies -/

namespace Txn.Misses

variable {P : StoreError → Prop}

theorem bumpWorkItemRevision {workItemId : WorkItemId} {ms : Int}
    (hitem : (db.findWorkItem workItemId).isSome) :
    (bumpWorkItemRevision workItemId ms).Misses db P :=
  of_ok (bumpWorkItemRevision_eq_ok.mpr ⟨hitem, rfl⟩ : _ = Except.ok ((), _))

theorem insertAudit (id : AuditEventId) (report : AuditReport) (ms : Int) :
    (insertAudit id report ms).Misses db P := by
  unfold YakShed.insertAudit
  apply read
  split
  · exact fail fun h => by cases h
  · exact write (pure _)

theorem listRuns (keep : RunRow → Bool) (after : Option RunId) (limit : Nat) :
    (listRuns keep after limit).Misses db P := by
  unfold YakShed.listRuns
  exact silent (Silent.validatePageSize _) fun _ _ => read (pure _)

theorem listApprovals (keep : ApprovalRow → Bool) (after : Option ApprovalRequestId)
    (limit : Nat) : (listApprovals keep after limit).Misses db P := by
  unfold YakShed.listApprovals
  exact silent (Silent.validatePageSize _) fun _ _ => read
    (silent (Silent.readRows Silent.approvalSnapshot _) fun _ _ => pure _)

theorem insertItems (batch : TimelineBatch) (revision : Nat) (items : List NewTimelineItem) :
    (insertItems batch now revision items).Misses db P := by
  induction items generalizing db revision with
  | nil => exact pure _
  | cons item rest ih =>
      unfold YakShed.insertItems
      apply silent (Silent.checkedAdd _ _ _)
      intro next _
      apply bind
      · unfold insertTimelineItem
        apply read
        cases hviolation : (batch.row now next item).violation db with
        | none => exact of_ok rfl
        | some error =>
            apply throw
            rw [Silent.violation hviolation]
            exact fun h => by cases h
      · exact fun _ _ _ => ih _

theorem commitBatch {batch : TimelineBatch} {digest : String} {workItemId : WorkItemId}
    (hitem : (db.findWorkItem workItemId).isSome) :
    (commitBatch batch now digest workItemId).Misses db P := by
  unfold YakShed.commitBatch
  apply silent (Silent.checkedI64 _)
  intro _ _
  apply read
  apply bind (insertItems _ _ _)
  intro _ db' hinserted
  obtain ⟨_, _, rfl⟩ := insertItems_eq_ok.mp hinserted
  apply silent (Silent.checkedAdd _ _ _)
  intro _ _
  apply read
  apply write
  apply bind
  · exact bumpWorkItemRevision hitem
  · exact fun _ _ _ => pure _

end Txn.Misses

/-- The error names an absent entity that the operation needs. -/
def AppStore.Absent {α : Type} (op : AppStore α) (db : Database) (error : StoreError) : Prop :=
  ∃ entity ∈ op.named, entity.isStored db = false ∧ entity.notFound = error

section Bodies

theorem createWorkItem_misses (command : CreateWorkItem) :
    (createWorkItem now command).Misses db ((AppStore.createWorkItem command).Absent db) := by
  unfold createWorkItem
  apply Txn.Misses.silent (Silent.validateAppId _ _)
  intro _ _
  apply Txn.Misses.silent (Silent.validateText _ _)
  intro _ _
  apply Txn.Misses.read
  cases hrow : db.findWorkItem command.id with
  | some row =>
      dsimp only
      split
      · exact .pure _
      · exact .throw fun h => by cases h
  | none =>
      dsimp only
      split
      · next hproject =>
          apply Txn.Misses.fail
          intro _
          refine ⟨.project command.projectId, List.mem_cons_self, ?_, rfl⟩
          simpa [Entity.isStored] using hproject
      · cases hparent : command.parentId with
        | none => exact .silent (Silent.checkTextColumn _ _) fun _ _ => .write (.pure _)
        | some parentId =>
            dsimp only
            apply Txn.Misses.check
            · intro error herror hmissing
              refine ⟨.parent parentId, ?_, ?_⟩
              · simp [AppStore.named, hparent]
              · unfold checkParent at herror
                cases hfound : db.findWorkItem parentId with
                | none =>
                    rw [hfound] at herror
                    cases herror
                    exact ⟨by simp [Entity.isStored, hfound], rfl⟩
                | some parent =>
                    rw [hfound] at herror
                    dsimp only at herror
                    split at herror
                    · cases herror
                      cases hmissing
                    · split at herror
                      · cases herror
                        cases hmissing
                      · cases herror
            · exact fun _ _ => .silent (Silent.checkTextColumn _ _) fun _ _ => .write (.pure _)

theorem createRun_misses (command : CreateRun) :
    (createRun now command).Misses db ((AppStore.createRun command).Absent db) := by
  unfold createRun
  apply Txn.Misses.silent (Silent.validateAppId _ _)
  intro _ _
  apply Txn.Misses.read
  cases hrow : db.findRun command.id with
  | some row =>
      dsimp only
      split
      · exact .pure _
      · exact .throw fun h => by cases h
  | none =>
      dsimp only
      cases hitem : db.findWorkItem command.workItemId with
      | none =>
          apply Txn.Misses.throw
          intro _
          exact ⟨.workItem command.workItemId, List.mem_singleton_self _,
            by simp [Entity.isStored, hitem], rfl⟩
      | some item =>
          dsimp only [Option.map_some]
          cases item.status with
          | archived => exact .throw fun h => by cases h
          | ready =>
              dsimp only
              split
              · exact .fail fun h => by cases h
              · apply Txn.Misses.write
                apply Txn.Misses.bind
                · exact .bumpWorkItemRevision (Option.isSome_iff_exists.mpr ⟨item, hitem⟩)
                · exact fun _ _ _ => .pure _

theorem getRun_misses (id : RunId) :
    (getRun id).Misses db ((AppStore.getRun id).Absent db) := by
  unfold getRun
  apply Txn.Misses.read
  cases hrun : db.findRun id with
  | some row => exact .pure _
  | none =>
      apply Txn.Misses.throw
      intro _
      exact ⟨.run id, List.mem_singleton_self _, by simp [Entity.isStored, hrun], rfl⟩

theorem getWorkItem_misses (id : WorkItemId) :
    (getWorkItem id).Misses db ((AppStore.getWorkItem id).Absent db) := by
  unfold getWorkItem
  apply Txn.Misses.read
  cases hitem : db.findWorkItem id with
  | some row => exact .pure _
  | none =>
      apply Txn.Misses.throw
      intro _
      exact ⟨.workItem id, List.mem_singleton_self _, by simp [Entity.isStored, hitem], rfl⟩

theorem archiveWorkSubtree_misses (root : WorkItemId) :
    (archiveWorkSubtree now root).Misses db ((AppStore.archiveWorkSubtree root).Absent db) := by
  unfold archiveWorkSubtree
  apply Txn.Misses.read
  split
  · next hitem =>
      apply Txn.Misses.fail
      intro _
      refine ⟨.workItem root, List.mem_singleton_self _, ?_, rfl⟩
      simpa [Entity.isStored] using hitem
  · exact .write (.pure _)

theorem transitionRun_misses (hlinked : db.Linked) (command : TransitionRun) :
    (transitionRun command).Misses db ((AppStore.transitionRun command).Absent db) := by
  unfold transitionRun
  apply Txn.Misses.silent (Silent.validateAppId _ _)
  intro _ _
  split
  · unfold applyRunTransition
    apply Txn.Misses.bind
    · exact getRun_misses command.runId
    · intro snapshot db' hfound
      obtain ⟨⟨run, hrun, rfl⟩, rfl⟩ := getRun_eq_ok.mp hfound
      apply Txn.Misses.read
      dsimp only
      by_cases hstatus : run.snapshot.status ≠ command.expectedCurrent
      · rw [if_pos hstatus]
        exact .fail fun h => by cases h
      · rw [if_neg hstatus]
        split
        · exact .fail fun h => by cases h
        · apply Txn.Misses.write
          apply Txn.Misses.bind
          · exact .of_ok (voidPendingApprovals_accepts _ _ _)
          · intro voided db₁ hvoided
            obtain ⟨_, rfl⟩ := voidPendingApprovals_eq_ok hvoided
            apply Txn.Misses.bind (.insertAudit _ _ _)
            intro _ db₂ haudit
            obtain ⟨_, rfl⟩ := insertAudit_eq_ok.mp haudit
            apply Txn.Misses.bind
            · exact .bumpWorkItemRevision (hlinked.workItems run (Keyed.mem_of_lookup hrun))
            · intro _ db₃ hbumped
              obtain ⟨_, rfl⟩ := bumpWorkItemRevision_eq_ok.mp hbumped
              have hmoved : (db.afterTransition command run.workItemId).findRun command.runId =
                  some (run.transition command) := Database.findRun_afterTransition_self hrun
              exact .of_ok (getRun_eq_ok.mpr ⟨⟨_, hmoved, rfl⟩, rfl⟩)
  · apply Txn.Misses.fail
    intro h
    cases h

/-- An append calls nothing missing at all, not even its run. -/
theorem appendTimelineBatch_misses [Sha256] (hlinked : db.Linked) (batch : TimelineBatch)
    {P : StoreError → Prop} : (appendTimelineBatch now batch).Misses db P := by
  unfold appendTimelineBatch
  apply Txn.Misses.silent (Silent.validateBatch _)
  intro _ _
  apply Txn.Misses.read
  cases hrun : db.findRun batch.runId with
  | none =>
      apply Txn.Misses.check
      · intro error herror hmissing
        cases herror
        cases hmissing
      · intro _ hitem
        cases hitem
  | some run =>
      apply Txn.Misses.silent (Silent.ok run.workItemId)
      intro workItemId hitem
      cases hitem
      apply Txn.Misses.silent
      · unfold checkConnection
        dsimp only
        split
        · exact .error rfl
        · exact .ok _
      · intro _ _
        apply Txn.Misses.silent (Silent.checkedI64 _)
        intro _ _
        apply Txn.Misses.silent (Silent.checkReceipt _ _ _)
        intro answer _
        cases answer with
        | some cursor => exact .pure _
        | none => exact .commitBatch (hlinked.workItems run (Keyed.mem_of_lookup hrun))

theorem recordPendingApproval_misses (hlinked : db.Linked) (approval : PendingApproval) :
    (recordPendingApproval now approval).Misses db
      ((AppStore.recordPendingApproval approval).Absent db) := by
  unfold recordPendingApproval
  apply Txn.Misses.silent (Silent.validateAppId _ _)
  intro _ _
  apply Txn.Misses.silent (Silent.validateText _ _)
  intro _ _
  apply Txn.Misses.read
  cases hrow : db.findApproval approval.id with
  | some row =>
      apply Txn.Misses.silent (Silent.approvalSnapshot row)
      intro snapshot _
      split
      · exact .pure _
      · exact .throw fun h => by cases h
  | none =>
      dsimp only
      cases hrun : db.findRun approval.runId with
      | none =>
          apply Txn.Misses.throw
          intro _
          exact ⟨.run approval.runId, List.mem_singleton_self _,
            by simp [Entity.isStored, hrun], rfl⟩
      | some run =>
          dsimp only
          split
          · exact .fail fun h => by cases h
          · apply Txn.Misses.silent (Silent.checkTextColumn _ _)
            intro _ _
            split
            · exact .fail fun h => by cases h
            · apply Txn.Misses.write
              apply Txn.Misses.bind
              · exact .bumpWorkItemRevision (hlinked.workItems run (Keyed.mem_of_lookup hrun))
              · exact fun _ _ _ => .pure _

/-- A stream without batches has no cursor, whether its run exists or not. -/
theorem getStreamCursor_misses {P : StoreError → Prop} (query : GetStreamCursor) :
    (getStreamCursor query).Misses db P := by
  unfold getStreamCursor
  apply Txn.Misses.silent (Silent.validateText _ _)
  intro _ _
  apply Txn.Misses.silent (Silent.validateText _ _)
  intro _ _
  apply Txn.Misses.read
  cases db.findCursor query.key with
  | none => exact .pure _
  | some cursor =>
      dsimp only
      split
      · exact .throw fun h => by cases h
      · exact .pure _

theorem updateApproval_misses {id : ApprovalRequestId} {expected : ApprovalColumn}
    {conflict : String} {update : ApprovalRow → ApprovalRow} {P : StoreError → Prop}
    (h : db.findApproval id = none → P (Entity.approval id).notFound) :
    (updateApproval id expected conflict update).Misses db P := by
  unfold updateApproval
  apply Txn.Misses.read
  cases hrow : db.findApproval id with
  | none => exact .throw fun _ => h hrow
  | some row =>
      dsimp only
      split
      · exact .fail fun h => by cases h
      · exact .of_ok rfl

theorem bumpApprovalWorkItem_misses {workItemId : Option WorkItemId} {ms : Int}
    {P : StoreError → Prop} (h : ∀ item, workItemId = some item → (db.findWorkItem item).isSome) :
    (bumpApprovalWorkItem workItemId ms).Misses db P :=
  .of_ok (bumpApprovalWorkItem_eq_ok.mpr ⟨h, rfl⟩ : _ = Except.ok ((), _))

/-- The work item of a stored approval is stored. -/
theorem Database.Linked.approvalWorkItem (hlinked : db.Linked) {id : ApprovalRequestId} :
    ∀ item, db.approvalWorkItem id = some item → (db.findWorkItem item).isSome := by
  intro item hitem
  unfold Database.approvalWorkItem at hitem
  simp only [bind, Option.bind_eq_some_iff, pure, Option.some.injEq] at hitem
  obtain ⟨approval, _, run, hrun, rfl⟩ := hitem
  exact hlinked.workItems run (Keyed.mem_of_lookup hrun)

theorem getApproval_misses {id : ApprovalRequestId} {P : StoreError → Prop}
    (h : (db.findApproval id).isSome) : (getApproval id).Misses db P := by
  obtain ⟨row, hrow⟩ := Option.isSome_iff_exists.mp h
  unfold getApproval
  apply Txn.Misses.read
  rw [hrow]
  constructor
  intro error herror hmissing
  cases hsnapshot : row.snapshot with
  | ok snapshot =>
      dsimp only at herror
      rw [hsnapshot] at herror
      cases herror
  | error first =>
      dsimp only at herror
      rw [hsnapshot] at herror
      cases herror
      rw [Silent.approvalSnapshot row _ hsnapshot] at hmissing
      cases hmissing

theorem isSome_of_update {update : ApprovalRow → ApprovalRow} {id : ApprovalRequestId}
    {row : ApprovalRow} (hid : ∀ row, (update row).id = row.id)
    (hrow : db.findApproval id = some row) :
    (Keyed.lookup (·.id) (Keyed.update (·.id) id update db.approvalRequests) id).isSome := by
  rw [Keyed.lookup_update_self hid, Option.isSome_map]
  exact Option.isSome_iff_exists.mpr ⟨row, hrow⟩

theorem beginApprovalResponse_misses (hlinked : db.Linked) (response : BeginApprovalResponse) :
    (beginApprovalResponse now response).Misses db
      ((AppStore.beginApprovalResponse response).Absent db) := by
  unfold beginApprovalResponse
  apply Txn.Misses.silent (Silent.validateAppId _ _)
  intro _ _
  apply Txn.Misses.read
  apply Txn.Misses.bind
  · apply updateApproval_misses
    intro hnone
    exact ⟨.approval response.approvalId, List.mem_singleton_self _,
      by simp [Entity.isStored, hnone], rfl⟩
  · intro _ db₁ hupdated
    obtain ⟨⟨row, hrow, _⟩, rfl⟩ := updateApproval_eq_ok.mp hupdated
    apply Txn.Misses.bind (.insertAudit _ _ _)
    intro _ db₂ haudit
    obtain ⟨_, rfl⟩ := insertAudit_eq_ok.mp haudit
    apply Txn.Misses.bind
    · exact bumpApprovalWorkItem_misses hlinked.approvalWorkItem
    · intro _ db₃ hbumped
      obtain ⟨_, rfl⟩ := bumpApprovalWorkItem_eq_ok.mp hbumped
      apply getApproval_misses
      unfold Database.findApproval
      rw [Database.bumpIfFound_approvalRequests]
      exact isSome_of_update (fun _ => rfl) hrow

theorem confirmApprovalResponse_misses (hlinked : db.Linked) (response : ConfirmApprovalResponse) :
    (confirmApprovalResponse now response).Misses db
      ((AppStore.confirmApprovalResponse response).Absent db) := by
  unfold confirmApprovalResponse
  apply Txn.Misses.silent (Silent.validateAppId _ _)
  intro _ _
  apply Txn.Misses.read
  apply Txn.Misses.bind
  · apply updateApproval_misses
    intro hnone
    exact ⟨.approval response.approvalId, List.mem_singleton_self _,
      by simp [Entity.isStored, hnone], rfl⟩
  · intro _ db₁ hupdated
    obtain ⟨⟨row, hrow, _⟩, rfl⟩ := updateApproval_eq_ok.mp hupdated
    apply Txn.Misses.bind
    · exact bumpApprovalWorkItem_misses hlinked.approvalWorkItem
    · intro _ db₃ hbumped
      obtain ⟨_, rfl⟩ := bumpApprovalWorkItem_eq_ok.mp hbumped
      apply Txn.Misses.bind
      · apply getApproval_misses
        unfold Database.findApproval
        rw [Database.bumpIfFound_approvalRequests]
        exact isSome_of_update (fun _ => rfl) hrow
      · intro snapshot db₄ _
        split
        · exact .bind (.insertAudit _ _ _) fun _ _ _ => .pure _
        · exact .throw fun h => by cases h

end Bodies

section Operations

variable [Sha256]

/-- An operation calls nothing missing but an absent entity that it names. -/
theorem AppStore.misses (hlinked : db.Linked) {α : Type} (op : AppStore α) :
    (op.body now).Misses db (op.Absent db) := by
  cases op with
  | createProject command =>
      change (YakShed.createProject now command).Misses db _
      unfold YakShed.createProject
      apply Txn.Misses.silent (Silent.validateAppId _ _)
      intro _ _
      apply Txn.Misses.silent (Silent.validateText _ _)
      intro _ _
      apply Txn.Misses.read
      cases db.findProject command.id with
      | some row =>
          dsimp only
          split
          · exact .pure _
          · exact .throw fun h => by cases h
      | none => exact .silent (Silent.checkTextColumn _ _) fun _ _ => .write (.pure _)
  | listProjects after limit =>
      exact .silent (Silent.validatePageSize _) fun _ _ => .read (.pure _)
  | createWorkItem command => exact createWorkItem_misses command
  | getWorkItem id => exact getWorkItem_misses id
  | listWorkItems query =>
      exact .silent (Silent.validatePageSize _) fun _ _ => .read (.pure _)
  | archiveWorkSubtree root => exact archiveWorkSubtree_misses root
  | createRun command => exact createRun_misses command
  | getRun id => exact getRun_misses id
  | transitionRun command => exact transitionRun_misses hlinked command
  | listRunsForWorkItem workItemId after limit => exact .listRuns _ _ _
  | listActiveRuns after limit => exact .listRuns _ _ _
  | listRunsNeedingReconciliation after limit => exact .listRuns _ _ _
  | appendTimelineBatch batch => exact appendTimelineBatch_misses hlinked batch
  | getStreamCursor query => exact getStreamCursor_misses query
  | listTimelinePage query =>
      apply Txn.Misses.silent (Silent.validatePageSize _)
      intro _ _
      cases query.after with
      | none => exact .read (.pure _)
      | some revision =>
          exact .silent (Silent.checkedI64 _) fun _ _ => .read (.pure _)
  | listPendingUserInputsForRun runId after limit =>
      apply Txn.Misses.silent (Silent.validatePageSize _)
      intro _ _
      apply Txn.Misses.read
      exact .silent (Silent.readRows Silent.pendingUserInput _) fun _ _ => .pure _
  | recordPendingApproval approval => exact recordPendingApproval_misses hlinked approval
  | listPendingApprovals after limit => exact .listApprovals _ _ _
  | listApprovalsForRun runId after limit => exact .listApprovals _ _ _
  | beginApprovalResponse response => exact beginApprovalResponse_misses hlinked response
  | confirmApprovalResponse response => exact confirmApprovalResponse_misses hlinked response
  | listUnconfirmedApprovalResponses after limit => exact .listApprovals _ _ _

/-! ## What is missing is reported -/

/-- Every work item belongs to a stored project. -/
def Database.Sited (db : Database) : Prop :=
  ∀ row ∈ db.workItems, (db.findProject row.projectId).isSome

theorem Database.Sited.step (h : db.Sited) (hchange : Change now db db') : db'.Sited := by
  have hkept : ∀ {id : ProjectId}, (db.findProject id).isSome → (db'.findProject id).isSome := by
    intro id hid
    obtain ⟨row, hrow⟩ := Option.isSome_iff_exists.mp hid
    rw [hchange.findProject hrow]
    rfl
  have hmap : ∀ f : WorkItemRow → WorkItemRow, db'.workItems = db.workItems.map f →
      (∀ row, (f row).projectId = row.projectId) → db'.Sited := by
    intro f hitems hproject row hrow
    rw [hitems] at hrow
    obtain ⟨old, hold, rfl⟩ := List.mem_map.mp hrow
    rw [hproject]
    exact hkept (h old hold)
  rcases Database.graph_cases hchange with ⟨hitems, _⟩ | ⟨item, ms, hitems, _⟩ |
    ⟨command, _, hproject, _, hitems, _⟩ | ⟨root, hitems, _⟩
  · intro row hrow
    exact hkept (h row (hitems ▸ hrow))
  · apply hmap _ hitems
    intro row
    split <;> rfl
  · intro row hrow
    rw [hitems] at hrow
    rcases List.mem_append.mp hrow with hrow | hrow
    · exact hkept (h row hrow)
    · rw [List.mem_singleton.mp hrow]
      exact hkept hproject
  · apply hmap _ hitems
    intro row
    split <;> rfl

/-- What the tables of a reachable database know of each other. -/
structure Database.Referenced (db : Database) : Prop where
  sound : db.Sound
  linked : db.Linked
  forest : db.Forest
  sited : db.Sited

omit [Sha256] in
theorem Database.Referenced.empty : Database.empty.Referenced where
  sound := .empty
  linked := .empty
  forest := .empty
  sited := by
    intro row hrow
    cases hrow

theorem Database.Referenced.step (h : db.Referenced) (hchange : Change now db db') :
    db'.Referenced where
  sound := h.sound.step hchange
  linked := h.linked.step h.sound hchange
  forest := h.forest.step hchange
  sited := h.sited.step hchange

omit [Sha256] in
/-- The parent of a stored item is stored. -/
theorem Database.Referenced.parent (h : db.Referenced) {id parent : WorkItemId}
    (hparent : db.parentOf id = some parent) : (db.findWorkItem parent).isSome := by
  obtain ⟨edge, hedge, rfl⟩ := Option.map_eq_some_iff.mp hparent
  obtain ⟨found, _, hfound, _⟩ := h.forest.edges edge (Keyed.mem_of_lookup hedge)
  exact Option.isSome_iff_exists.mpr ⟨found, hfound⟩

/-- The run exists whose timeline is appended to, or whose stream is asked for. -/
def AppStore.Placed (db : Database) : {α : Type} → AppStore α → Prop
  | _, .appendTimelineBatch batch => (db.findRun batch.runId).isSome
  | _, .getStreamCursor query => (db.findRun query.runId).isSome
  | _, _ => True

section Absent

omit [Sha256]

theorem run_failed {α β : Type} {body : Txn α} {next : α → Txn β} {error : StoreError}
    (h : body.run db = .error error) : (body >>= next).run db = .error error := by
  rw [StateT.run_bind, h]
  rfl

theorem getRun_absent {id : RunId} (hnone : db.findRun id = none) :
    (getRun id).run db = .error (Entity.run id).notFound := by
  unfold getRun
  simp only [run_read, hnone]
  rfl

theorem updateApproval_absent {id : ApprovalRequestId} {expected : ApprovalColumn}
    {conflict : String} {update : ApprovalRow → ApprovalRow}
    (hnone : db.findApproval id = none) :
    (updateApproval id expected conflict update).run db =
      .error (Entity.approval id).notFound := by
  unfold updateApproval
  simp only [run_read, hnone]
  rfl

end Absent

omit [Sha256] in
/-- A work item that is created below what is absent is rejected for that. -/
theorem createWorkItem_absent (h : db.Referenced) {command : CreateWorkItem} {entity : Entity}
    (hwell : (AppStore.createWorkItem command).WellFormed db)
    (habsent : (AppStore.createWorkItem command).named.find?
      (fun entity => !entity.isStored db) = some entity) :
    (createWorkItem now command).run db = .error entity.notFound := by
  obtain ⟨htitle, hcontent⟩ := hwell
  cases hrow : db.findWorkItem command.id with
  | some row =>
      -- what the item was created with is still there
      obtain ⟨found, hfound, hproject, _, hparent⟩ := hcontent (hrow ▸ rfl)
      have hstored := h.sited found (Keyed.mem_of_lookup hfound)
      have hbelow : ∀ parent ∈ command.parentId, (db.findWorkItem parent).isSome :=
        fun parent hmem => h.parent (hparent.trans hmem)
      rw [hproject] at hstored
      have hsome := List.find?_some habsent
      rcases List.mem_cons.mp (List.mem_of_find?_eq_some habsent) with rfl | hmem
      · simp [Entity.isStored, hstored] at hsome
      · obtain ⟨parent, hnamed, rfl⟩ := Option.mem_map.mp (Option.mem_toList.mp hmem)
        simp [Entity.isStored, hbelow parent hnamed] at hsome
  | none =>
      unfold createWorkItem
      rw [validateAppId_uuid, validateText_eq_ok htitle]
      simp only [run_passed, run_read, hrow]
      cases hproject : db.findProject command.projectId with
      | none =>
          have hfirst : entity = .project command.projectId := by
            simpa [AppStore.named, Entity.isStored, hproject] using habsent.symm
          rw [hfirst]
          rfl
      | some project =>
          cases hparent : command.parentId with
          | none => simp [AppStore.named, Entity.isStored, hproject, hparent] at habsent
          | some parent =>
              have hfirst : db.findWorkItem parent = none ∧ entity = .parent parent := by
                have hsome := List.find?_some habsent
                have hmem := List.mem_of_find?_eq_some habsent
                dsimp only [AppStore.named] at hmem
                rw [hparent] at hmem
                rcases List.mem_cons.mp hmem with rfl | hmem
                · simp [Entity.isStored, hproject] at hsome
                · obtain rfl := List.mem_singleton.mp hmem
                  exact ⟨by simpa [Entity.isStored] using hsome, rfl⟩
              obtain ⟨hnone, rfl⟩ := hfirst
              simp only [checkParent, hnone]
              rfl

/-- What an operation names and does not find is what it reports. -/
theorem AppStore.absent_body (h : db.Referenced) {α : Type} {op : AppStore α}
    (hwell : op.WellFormed db) (hplaced : op.Placed db) {entity : Entity}
    (habsent : op.named.find? (fun entity => !entity.isStored db) = some entity) :
    (op.body now).run db = .error entity.notFound := by
  have hsome := List.find?_some habsent
  have hmem := List.mem_of_find?_eq_some habsent
  cases op with
  | createWorkItem command => exact createWorkItem_absent h hwell habsent
  | getWorkItem id =>
      obtain rfl := List.mem_singleton.mp hmem
      have hnone : db.findWorkItem id = none := by simpa [Entity.isStored] using hsome
      change (YakShed.getWorkItem id).run db = _
      unfold YakShed.getWorkItem
      simp only [run_read, hnone]
      rfl
  | archiveWorkSubtree root =>
      obtain rfl := List.mem_singleton.mp hmem
      have hnone : db.findWorkItem root = none := by simpa [Entity.isStored] using hsome
      change (YakShed.archiveWorkSubtree now root).run db = _
      unfold YakShed.archiveWorkSubtree
      simp only [run_read, hnone]
      rfl
  | createRun command =>
      obtain rfl := List.mem_singleton.mp hmem
      have hnone : db.findWorkItem command.workItemId = none := by
        simpa [Entity.isStored] using hsome
      cases hrow : db.findRun command.id with
      | some row =>
          obtain ⟨found, hfound, hitem, _⟩ := hwell (hrow ▸ rfl)
          have hstored := h.linked.workItems found (Keyed.mem_of_lookup hfound)
          rw [hitem, hnone] at hstored
          cases hstored
      | none =>
          change (YakShed.createRun now command).run db = _
          unfold YakShed.createRun
          rw [validateAppId_uuid]
          simp only [run_passed, run_read, hrow, hnone]
          rfl
  | getRun id =>
      obtain rfl := List.mem_singleton.mp hmem
      have hnone : db.findRun id = none := by simpa [Entity.isStored] using hsome
      exact getRun_absent hnone
  | transitionRun command =>
      obtain rfl := List.mem_singleton.mp hmem
      have hnone : db.findRun command.runId = none := by simpa [Entity.isStored] using hsome
      change (YakShed.transitionRun command).run db = _
      have hlegal : command.expectedCurrent.canTransitionTo command.target = true := hwell
      unfold YakShed.transitionRun YakShed.applyRunTransition
      rw [validateAppId_uuid]
      simp only [run_passed]
      rw [if_pos hlegal]
      exact run_failed (getRun_absent hnone)
  | appendTimelineBatch batch =>
      obtain rfl := List.mem_singleton.mp hmem
      have hplace : (db.findRun batch.runId).isSome = true := hplaced
      simp [Entity.isStored, hplace] at hsome
  | getStreamCursor query =>
      obtain rfl := List.mem_singleton.mp hmem
      have hplace : (db.findRun query.runId).isSome = true := hplaced
      simp [Entity.isStored, hplace] at hsome
  | recordPendingApproval approval =>
      obtain rfl := List.mem_singleton.mp hmem
      have hnone : db.findRun approval.runId = none := by simpa [Entity.isStored] using hsome
      obtain ⟨hkind, hcontent⟩ := hwell
      cases hrow : db.findApproval approval.id with
      | some row =>
          obtain ⟨found, hfound, hrun, _⟩ := hcontent (hrow ▸ rfl)
          obtain ⟨run, hstored, _⟩ := h.sound.approvalRun found (Keyed.mem_of_lookup hfound)
          rw [hrun, hnone] at hstored
          cases hstored
      | none =>
          change (YakShed.recordPendingApproval now approval).run db = _
          unfold YakShed.recordPendingApproval
          rw [validateAppId_uuid, validateText_eq_ok hkind]
          simp only [run_passed, run_read, hrow, hnone]
          rfl
  | beginApprovalResponse response =>
      obtain rfl := List.mem_singleton.mp hmem
      have hnone : db.findApproval response.approvalId = none := by
        simpa [Entity.isStored] using hsome
      change (YakShed.beginApprovalResponse now response).run db = _
      unfold YakShed.beginApprovalResponse
      rw [validateAppId_uuid]
      simp only [run_passed, run_read]
      exact run_failed (updateApproval_absent hnone)
  | confirmApprovalResponse response =>
      obtain rfl := List.mem_singleton.mp hmem
      have hnone : db.findApproval response.approvalId = none := by
        simpa [Entity.isStored] using hsome
      change (YakShed.confirmApprovalResponse now response).run db = _
      unfold YakShed.confirmApprovalResponse
      rw [validateAppId_uuid]
      simp only [run_passed, run_read]
      exact run_failed (updateApproval_absent hnone)
  | _ => cases hmem

theorem AppStore.body_of_exec_error {α : Type} {op : AppStore α} {error : StoreError}
    (h : (op.exec now db).1 = .error error) : (op.body now).run db = .error error := by
  cases hbody : (op.body now).run db with
  | error other =>
      rw [AppStore.exec_rejects hbody] at h
      cases h
      rfl
  | ok pair =>
      have hexec : op.exec now db = (.ok pair.1, pair.2) := AppStore.exec_accepts hbody
      rw [hexec] at h
      cases h

/-- In every state that the store can reach, a well-formed command is told what is
missing, unless it appends to a run that does not exist or asks for a stream of one. -/
theorem reports_iff (calls : List Call) {α : Type} {op : AppStore α} (now : UtcTimestamp)
    (hwell : op.WellFormed (Database.empty.afterAll calls)) :
    op.Reports now (Database.empty.afterAll calls) ↔ op.Placed (Database.empty.afterAll calls) := by
  have h : (Database.empty.afterAll calls).Referenced :=
    Database.afterAll_induction Database.Referenced.step .empty calls
  constructor
  · intro hreports
    cases op with
    | appendTimelineBatch batch =>
        by_contra hnone
        have hreported := hreports.absent (.run batch.runId) (by
          simpa [AppStore.named, AppStore.Placed, Entity.isStored] using hnone)
        have hbody := AppStore.body_of_exec_error (congrArg Prod.fst hreported)
        exact (appendTimelineBatch_misses (P := fun _ => False) h.linked batch).missing _ hbody rfl
    | getStreamCursor query =>
        by_contra hnone
        have hreported := hreports.absent (.run query.runId) (by
          simpa [AppStore.named, AppStore.Placed, Entity.isStored] using hnone)
        have hbody := AppStore.body_of_exec_error (congrArg Prod.fst hreported)
        exact (getStreamCursor_misses (P := fun _ => False) query).missing _ hbody rfl
    | _ => trivial
  · intro hplaced
    constructor
    · intro entity habsent
      exact AppStore.exec_rejects (AppStore.absent_body h hwell hplaced habsent)
    · intro name text hexec
      exact (AppStore.misses h.linked op).missing _ (AppStore.body_of_exec_error hexec) rfl

end Operations

/-! ## An append to no run -/

open Creation (sampleId sampleBefore)

/-- Nothing to read, as the batch has no items. -/
def sampleBatch : TimelineBatch :=
  ⟨⟨sampleId 4⟩, ⟨sampleId 3⟩, ⟨sampleId 2⟩, "codex", "stream", 0, []⟩

set_option maxRecDepth 100000 in
theorem reports_iff_sampleBefore :
    (AppStore.createRun ⟨⟨sampleId 2⟩, ⟨sampleId 3⟩, ⟨sampleId 5⟩, none⟩).Reports ⟨2⟩
      (Database.empty.afterAll sampleBefore) := by
  have hfresh : ((Database.empty.afterAll sampleBefore).findRun ⟨sampleId 2⟩).isSome = false := by
    decide +kernel
  have hiff : (AppStore.createRun ⟨⟨sampleId 2⟩, ⟨sampleId 3⟩, ⟨sampleId 5⟩, none⟩).Reports ⟨2⟩
      (Database.empty.afterAll sampleBefore) ↔ _ :=
    reports_iff sampleBefore ⟨2⟩ fun htaken => absurd (hfresh.symm.trans htaken) (by decide)
  exact hiff.mpr trivial

set_option maxRecDepth 100000 in
/-- The run of the batch does not exist, and the answer is no `NotFound`. -/
theorem appendTimelineBatch_unreported :
    ¬ (AppStore.appendTimelineBatch sampleBatch).Reports ⟨2⟩
      (Database.empty.afterAll sampleBefore) := by
  intro hreports
  have hreported := hreports.absent (.run ⟨sampleId 2⟩) (by decide +kernel)
  have hbackend : ((AppStore.appendTimelineBatch sampleBatch).exec ⟨2⟩
      (Database.empty.afterAll sampleBefore)).1 = .error (.backend "Query returned no rows") := by
    decide +kernel
  rw [hreported] at hbackend
  cases hbackend

end YakShed
