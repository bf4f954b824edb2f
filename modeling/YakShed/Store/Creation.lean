/-
# Creating twice

A create command carries the identifier of what it creates. Executed again, it
is compared with the stored row: the content a row is created with never
changes, except that a transition may bind a run to another provider run.
-/

import YakShed.Store.Digest
import YakShed.Store.WorkGraph

namespace YakShed

/-- The create commands of the store. -/
inductive Creation
  | project (command : CreateProject)
  | workItem (command : CreateWorkItem)
  | run (command : CreateRun)
  | approval (command : PendingApproval)

namespace Creation

def Snapshot : Creation → Type
  | project _ => ProjectSnapshot
  | workItem _ => WorkItemSnapshot
  | run _ => RunSnapshot
  | approval _ => ApprovalSnapshot

def op : (creation : Creation) → AppStore creation.Snapshot
  | project command => .createProject command
  | workItem command => .createWorkItem command
  | run command => .createRun command
  | approval command => .recordPendingApproval command

/-- Both commands create the same entity. -/
def SameId : Creation → Creation → Prop
  | project command, project other => other.id = command.id
  | workItem command, workItem other => other.id = command.id
  | run command, run other => other.id = command.id
  | approval command, approval other => other.id = command.id
  | _, _ => False

/-- The stored entity as the store reads it back. -/
def current (db : Database) : (creation : Creation) → Option creation.Snapshot
  | project command => (db.findProject command.id).map ProjectRow.snapshot
  | workItem command => (db.findWorkItem command.id).map db.workItemSnapshot
  | run command => (db.findRun command.id).map RunRow.snapshot
  | approval command => (db.findApproval command.id).bind fun row => row.snapshot.toOption

/-- The text that the command may not leave empty. -/
def text : Creation → Option String
  | project command => some command.name
  | workItem command => some command.title
  | run _ => none
  | approval command => some command.kind

/-- The entity is stored with what the command says and nothing can change. -/
def Stored (db : Database) : Creation → Prop
  | project command => ∃ row, db.findProject command.id = some row ∧ row.name = command.name
  | workItem command => ∃ row, db.findWorkItem command.id = some row ∧
      row.projectId = command.projectId ∧ row.title = command.title ∧
      db.parentOf command.id = command.parentId
  | run command => ∃ row, db.findRun command.id = some row ∧
      row.workItemId = command.workItemId ∧ row.connectionId = command.connectionId
  | approval command => ∃ row, db.findApproval command.id = some row ∧
      row.runId = command.runId ∧ row.provider = command.providerId ∧
      row.kind = command.kind ∧ row.summary = command.summary

/-- A created run is still bound to the provider run of the command, or to none
if the command names none. -/
def Bound (db : Database) : Creation → Prop
  | run command => ∀ row, db.findRun command.id = some row → row.provider = command.providerRun
  | _ => True

end Creation

/-! ## An entity that exists -/

section Existing

variable {now : UtcTimestamp} {db : Database}

theorem validateText_eq_ok {field value : String} (h : trimIsEmpty value = false) :
    validateText field value = .ok () := by
  rw [validateText, h]
  rfl

theorem validateText_eq_error {field value : String} (h : trimIsEmpty value = true) :
    validateText field value = .error (.conflict (field ++ " cannot be empty")) := by
  rw [validateText, h]
  rfl

theorem run_passed {α β : Type} (value : β) (rest : β → Txn α) :
    (do
      let value ← (Except.ok value : Except StoreError β)
      rest value : Txn α).run db = (rest value).run db := rfl

theorem run_read {α : Type} (rest : Database → Txn α) :
    (do
      let db ← Txn.read
      rest db : Txn α).run db = (rest db).run db := rfl

theorem run_ite {α : Type} {condition : Prop} [Decidable condition] (first second : Txn α) :
    (if condition then first else second).run db =
      if condition then first.run db else second.run db := by
  split <;> rfl

theorem createProject_existing {command : CreateProject} {row : ProjectRow}
    (htext : trimIsEmpty command.name = false) (hrow : db.findProject command.id = some row) :
    (createProject now command).run db =
      if row.name = command.name then .ok (row.snapshot, db)
      else .error (.conflict ("project id already exists with different content: " ++
        command.id.uuid.toText)) := by
  unfold createProject
  rw [validateAppId_uuid, validateText_eq_ok htext]
  simp only [run_passed, run_read, hrow, run_ite]
  rfl

theorem createWorkItem_existing {command : CreateWorkItem} {row : WorkItemRow}
    (htext : trimIsEmpty command.title = false) (hrow : db.findWorkItem command.id = some row) :
    (createWorkItem now command).run db =
      if row.projectId = command.projectId ∧ row.title = command.title ∧
          db.parentOf row.id = command.parentId then .ok (db.workItemSnapshot row, db)
      else .error (.conflict ("work item id already exists with different content: " ++
        command.id.uuid.toText)) := by
  unfold createWorkItem
  rw [validateAppId_uuid, validateText_eq_ok htext]
  simp only [run_passed, run_read, hrow, run_ite]
  rfl

theorem createRun_existing {command : CreateRun} {row : RunRow}
    (hrow : db.findRun command.id = some row) :
    (createRun now command).run db =
      if row.workItemId = command.workItemId ∧ row.connectionId = command.connectionId ∧
          row.provider = command.providerRun then .ok (row.snapshot, db)
      else .error (.conflict ("run id already exists with different content: " ++
        command.id.uuid.toText)) := by
  unfold createRun
  rw [validateAppId_uuid]
  simp only [run_passed, run_read, hrow, run_ite]
  rfl

/-- The status columns of a reachable approval can be read back. -/
theorem ApprovalRow.Consistent.snapshot {row : ApprovalRow} (h : row.Consistent) :
    ∃ snapshot, row.snapshot = .ok snapshot ∧ snapshot.runId = row.runId ∧
      snapshot.providerId = row.provider ∧ snapshot.kind = row.kind ∧
      snapshot.summary = row.summary := by
  have hstatus : ∃ status, row.approvalStatus = .ok status := by
    unfold approvalStatus
    unfold Consistent at h
    cases hstatus : row.status <;> cases hdecision : row.decision <;> simp_all
  obtain ⟨status, hstatus⟩ := hstatus
  unfold ApprovalRow.snapshot
  rw [hstatus]
  exact ⟨_, rfl, rfl, rfl, rfl, rfl⟩

theorem recordPendingApproval_existing {command : PendingApproval} {row : ApprovalRow}
    {snapshot : ApprovalSnapshot} (htext : trimIsEmpty command.kind = false)
    (hrow : db.findApproval command.id = some row) (hsnapshot : row.snapshot = .ok snapshot) :
    (recordPendingApproval now command).run db =
      if snapshot.runId = command.runId ∧ snapshot.providerId = command.providerId ∧
          snapshot.kind = command.kind ∧ snapshot.summary = command.summary then
        .ok (snapshot, db)
      else .error (.conflict ("approval id already exists with different content: " ++
        command.id.uuid.toText)) := by
  unfold recordPendingApproval
  rw [validateAppId_uuid, validateText_eq_ok htext]
  simp only [run_passed, run_read, hrow, hsnapshot, run_ite]
  rfl

/-- A blank text is rejected before the store is read. -/
theorem Creation.rejects_blank [Sha256] {creation : Creation} {text : String}
    (htext : creation.text = some text) (hblank : trimIsEmpty text = true) :
    ∃ message, (creation.op.body now).run db = .error (.conflict message) := by
  cases creation with
  | project command =>
      cases htext
      refine ⟨"project name cannot be empty", ?_⟩
      change (createProject now command).run db = _
      unfold createProject
      rw [validateAppId_uuid, validateText_eq_error hblank]
      rfl
  | workItem command =>
      cases htext
      refine ⟨"work item title cannot be empty", ?_⟩
      change (createWorkItem now command).run db = _
      unfold createWorkItem
      rw [validateAppId_uuid, validateText_eq_error hblank]
      rfl
  | run command => cases htext
  | approval command =>
      cases htext
      refine ⟨"approval kind cannot be empty", ?_⟩
      change (recordPendingApproval now command).run db = _
      unfold recordPendingApproval
      rw [validateAppId_uuid, validateText_eq_error hblank]
      rfl

end Existing

/-! ## What later calls leave of it -/

section Later

variable [Sha256] {now : UtcTimestamp} {db db' : Database}

omit [Sha256] in
theorem ApprovalRow.Step.content {row row' : ApprovalRow} (h : row.Step row') :
    row'.runId = row.runId ∧ row'.provider = row.provider ∧ row'.kind = row.kind ∧
      row'.summary = row.summary := by
  cases h <;> exact ⟨rfl, rfl, rfl, rfl⟩

theorem Change.findProject (h : Change now db db') {id : ProjectId} {row : ProjectRow}
    (hrow : db.findProject id = some row) : db'.findProject id = some row := by
  have hsame : db'.projects = db.projects → db'.findProject id = some row := by
    intro heq
    unfold Database.findProject
    rw [heq]
    exact hrow
  cases h with
  | project => exact Keyed.lookup_append_of_some hrow
  | begin | confirm => exact hsame (by simp [Database.afterBegin, Database.afterConfirm])
  | unchanged | workItem | archive | run | transition | batch | approval => exact hsame rfl

/-- A stored work item keeps its project, its title and its parent. -/
theorem Change.findWorkItem_content (h : Change now db db') {id : WorkItemId} {row : WorkItemRow}
    (hrow : db.findWorkItem id = some row) :
    ∃ row', db'.findWorkItem id = some row' ∧ row'.projectId = row.projectId ∧
      row'.title = row.title ∧ db'.parentOf id = db.parentOf id := by
  have hmap : ∀ f : WorkItemRow → WorkItemRow, db'.workItems = db.workItems.map f →
      db'.workEdges = db.workEdges → (∀ row, (f row).id = row.id) →
      (∀ row, (f row).projectId = row.projectId ∧ (f row).title = row.title) →
      ∃ row', db'.findWorkItem id = some row' ∧ row'.projectId = row.projectId ∧
        row'.title = row.title ∧ db'.parentOf id = db.parentOf id := by
    intro f hitems hedges hid hcontent
    refine ⟨f row, ?_, (hcontent row).1, (hcontent row).2, ?_⟩
    · unfold Database.findWorkItem at hrow ⊢
      rw [hitems, Keyed.lookup_map hid, hrow, Option.map_some]
    · unfold Database.parentOf
      rw [hedges]
  rcases Database.graph_cases h with ⟨hitems, hedges⟩ | ⟨item, ms, hitems, hedges⟩ |
    ⟨command, hfresh, _, _, hitems, hedges⟩ | ⟨root, hitems, hedges⟩
  · exact hmap (fun row => row) (by rw [hitems, List.map_id']) hedges (fun _ => rfl)
      fun _ => ⟨rfl, rfl⟩
  · refine hmap _ hitems hedges ?_ ?_
    · intro row
      split <;> rfl
    · intro row
      split <;> exact ⟨rfl, rfl⟩
  · refine ⟨row, ?_, rfl, rfl, ?_⟩
    · unfold Database.findWorkItem at hrow ⊢
      rw [hitems]
      exact Keyed.lookup_append_of_some hrow
    · have hne : command.id ≠ id := by
        rintro rfl
        rw [hfresh] at hrow
        cases hrow
      exact (congrArg (fun edges => (Keyed.lookup _ edges id).map _) hedges).trans
        (Database.parentOf_afterWorkItem hne)
  · refine hmap _ hitems hedges ?_ ?_
    · intro row
      split <;> rfl
    · intro row
      split <;> exact ⟨rfl, rfl⟩

namespace Creation

variable {creation : Creation}

theorem Stored.step (h : creation.Stored db) (hchange : Change now db db') :
    creation.Stored db' := by
  cases creation with
  | project command =>
      obtain ⟨row, hrow, hname⟩ := h
      exact ⟨row, hchange.findProject hrow, hname⟩
  | workItem command =>
      obtain ⟨row, hrow, hproject, htitle, hparent⟩ := h
      obtain ⟨row', hrow', hproject', htitle', hparent'⟩ := hchange.findWorkItem_content hrow
      exact ⟨row', hrow', hproject'.trans hproject, htitle'.trans htitle, hparent'.trans hparent⟩
  | run command =>
      obtain ⟨row, hrow, hitem, hconnection⟩ := h
      obtain ⟨row', hrow', hstep⟩ := hchange.findRun hrow
      obtain ⟨_, hconnection', hitem'⟩ := hstep.identity
      exact ⟨row', hrow', hitem'.trans hitem, hconnection'.trans hconnection⟩
  | approval command =>
      obtain ⟨row, hrow, hrun, hprovider, hkind, hsummary⟩ := h
      obtain ⟨row', hrow', hstep⟩ := hchange.findApproval hrow
      obtain ⟨hrun', hprovider', hkind', hsummary'⟩ := hstep.content
      exact ⟨row', hrow', hrun'.trans hrun, hprovider'.trans hprovider, hkind'.trans hkind,
        hsummary'.trans hsummary⟩

theorem Stored.afterAll (h : creation.Stored db) (calls : List Call) :
    creation.Stored (db.afterAll calls) :=
  Database.afterAll_induction Stored.step h calls

/-- Executed again, the command reads the entity back exactly if no transition
has bound it elsewhere. -/
theorem again_iff (hdb : db.Sound)
    (htext : ∀ text, creation.text = some text → trimIsEmpty text = false)
    (hstored : creation.Stored db) :
    (∃ snapshot, creation.current db = some snapshot ∧
      creation.op.exec now db = (.ok snapshot, db)) ↔ creation.Bound db := by
  cases creation with
  | project command =>
      obtain ⟨row, hrow, hname⟩ := hstored
      refine ⟨fun _ => trivial, fun _ => ⟨row.snapshot, ?_, AppStore.exec_accepts ?_⟩⟩
      · rw [current, hrow]
        rfl
      · exact (createProject_existing (htext _ rfl) hrow).trans (if_pos hname)
  | workItem command =>
      obtain ⟨row, hrow, hcontent⟩ := hstored
      have hid : row.id = command.id := Keyed.key_of_lookup hrow
      refine ⟨fun _ => trivial, fun _ => ⟨db.workItemSnapshot row, ?_, AppStore.exec_accepts ?_⟩⟩
      · rw [current, hrow]
        rfl
      · refine (createWorkItem_existing (htext _ rfl) hrow).trans (if_pos ?_)
        rw [hid]
        exact hcontent
  | run command =>
      obtain ⟨row, hrow, hitem, hconnection⟩ := hstored
      constructor
      · rintro ⟨snapshot, _, hexec⟩ found hfound
        rw [hrow] at hfound
        cases hfound
        have hbody := AppStore.exec_ok hexec
        change (createRun now command).run db = _ at hbody
        rw [createRun_existing hrow] at hbody
        split at hbody
        · next hsame => exact hsame.2.2
        · cases hbody
      · intro hbound
        refine ⟨row.snapshot, ?_, AppStore.exec_accepts ?_⟩
        · rw [current, hrow]
          rfl
        · exact (createRun_existing hrow).trans (if_pos ⟨hitem, hconnection, hbound row hrow⟩)
  | approval command =>
      obtain ⟨row, hrow, hrun, hprovider, hkind, hsummary⟩ := hstored
      obtain ⟨snapshot, hsnapshot, hrun', hprovider', hkind', hsummary'⟩ :=
        (hdb.consistent row (Keyed.mem_of_lookup hrow)).snapshot
      refine ⟨fun _ => trivial, fun _ => ⟨snapshot, ?_, AppStore.exec_accepts ?_⟩⟩
      · rw [current, hrow]
        change row.snapshot.toOption = some snapshot
        rw [hsnapshot]
        rfl
      · refine (recordPendingApproval_existing (htext _ rfl) hrow hsnapshot).trans (if_pos ?_)
        exact ⟨hrun'.trans hrun, hprovider'.trans hprovider, hkind'.trans hkind,
          hsummary'.trans hsummary⟩

/-- Another command with the identifier is a conflict. -/
theorem rejects_other (hdb : db.Sound) (hstored : creation.Stored db) (hbound : creation.Bound db)
    {other : Creation} (hid : creation.SameId other) (hne : other ≠ creation) :
    ∃ message, other.op.exec now db = (.error (.conflict message), db) := by
  suffices hbody : ∃ message, (other.op.body now).run db = .error (.conflict message) by
    obtain ⟨message, hbody⟩ := hbody
    exact ⟨message, AppStore.exec_rejects hbody⟩
  by_cases hblank : ∃ text, other.text = some text ∧ trimIsEmpty text = true
  · obtain ⟨text, htext, hblank⟩ := hblank
    exact rejects_blank htext hblank
  have htext : ∀ text, other.text = some text → trimIsEmpty text = false := by
    intro text htext
    exact Bool.eq_false_iff.mpr fun hempty => hblank ⟨text, htext, hempty⟩
  cases creation with
  | project command =>
      cases other with
      | project other =>
          obtain ⟨row, hrow, hname⟩ := hstored
          have hrow' : db.findProject other.id = some row := (congrArg _ hid).trans hrow
          refine ⟨_, (createProject_existing (htext _ rfl) hrow').trans (if_neg fun hsame => ?_)⟩
          cases command
          cases other
          simp_all [SameId]
      | _ => cases hid
  | workItem command =>
      cases other with
      | workItem other =>
          obtain ⟨row, hrow, hproject, htitle, hparent⟩ := hstored
          have hrowId : row.id = command.id := Keyed.key_of_lookup hrow
          have hrow' : db.findWorkItem other.id = some row := (congrArg _ hid).trans hrow
          refine ⟨_, (createWorkItem_existing (htext _ rfl) hrow').trans (if_neg fun hsame => ?_)⟩
          rw [hrowId, hparent, hproject, htitle] at hsame
          cases command
          cases other
          simp_all [SameId]
      | _ => cases hid
  | run command =>
      cases other with
      | run other =>
          obtain ⟨row, hrow, hitem, hconnection⟩ := hstored
          have hprovider := hbound row hrow
          have hrow' : db.findRun other.id = some row := (congrArg _ hid).trans hrow
          refine ⟨_, (createRun_existing hrow').trans (if_neg fun hsame => ?_)⟩
          rw [hitem, hconnection, hprovider] at hsame
          cases command
          cases other
          simp_all [SameId]
      | _ => cases hid
  | approval command =>
      cases other with
      | approval other =>
          obtain ⟨row, hrow, hrun, hprovider, hkind, hsummary⟩ := hstored
          obtain ⟨snapshot, hsnapshot, hrun', hprovider', hkind', hsummary'⟩ :=
            (hdb.consistent row (Keyed.mem_of_lookup hrow)).snapshot
          have hrow' : db.findApproval other.id = some row := (congrArg _ hid).trans hrow
          refine ⟨_, (recordPendingApproval_existing (htext _ rfl) hrow' hsnapshot).trans
            (if_neg fun hsame => ?_)⟩
          rw [hrun', hrun, hprovider', hprovider, hkind', hkind, hsummary', hsummary] at hsame
          cases command
          cases other
          simp_all [SameId]
      | _ => cases hid

/-- An accepted command has stored its entity, now or before. -/
theorem stored_of_ok (hdb : db.Sound) (hforest : db.Forest) {snapshot : creation.Snapshot}
    (h : creation.op.exec now db = (.ok snapshot, db')) :
    (∀ text, creation.text = some text → trimIsEmpty text = false) ∧ creation.Stored db' := by
  have hbody := AppStore.exec_ok h
  have htext : ∀ text, creation.text = some text → trimIsEmpty text = false := by
    intro text htext
    by_contra hblank
    rw [Bool.not_eq_false] at hblank
    obtain ⟨message, hrejected⟩ : ∃ message, (creation.op.body now).run db =
      .error (.conflict message) := rejects_blank htext hblank
    rw [hbody] at hrejected
    cases hrejected
  refine ⟨htext, ?_⟩
  cases creation with
  | project command =>
      cases hrow : db.findProject command.id with
      | some row =>
          have hexisting : (createProject now command).run db = _ :=
            createProject_existing (htext _ rfl) hrow
          have hdb' := hexisting.symm.trans hbody
          split at hdb'
          · next hname =>
              cases hdb'
              exact ⟨row, hrow, hname⟩
          · cases hdb'
      | none =>
          rcases createProject_eq_ok hbody with ⟨_, hsome⟩ | ⟨hfresh, rfl⟩
          · rw [hrow] at hsome
            cases hsome
          · exact ⟨_, Keyed.lookup_append_singleton_self hfresh, rfl⟩
  | workItem command =>
      cases hrow : db.findWorkItem command.id with
      | some row =>
          have hid : row.id = command.id := Keyed.key_of_lookup hrow
          have hexisting : (createWorkItem now command).run db = _ :=
            createWorkItem_existing (htext _ rfl) hrow
          have hdb' := hexisting.symm.trans hbody
          split at hdb'
          · next hsame =>
              cases hdb'
              rw [hid] at hsame
              exact ⟨row, hrow, hsame⟩
          · cases hdb'
      | none =>
          rcases createWorkItem_eq_ok hbody with ⟨_, hsome⟩ | ⟨hfresh, _, _, rfl⟩
          · rw [hrow] at hsome
            cases hsome
          · have hnone : Keyed.lookup (·.childId) db.workEdges command.id = none := by
              refine Keyed.lookup_eq_none.mpr fun edge hedge heq => ?_
              obtain ⟨_, child, _, hchild, _⟩ := hforest.edges edge hedge
              rw [heq, hfresh] at hchild
              cases hchild
            refine ⟨command.row now, Keyed.lookup_append_singleton_self hfresh, rfl, rfl, ?_⟩
            unfold Database.parentOf Database.afterWorkItem
            cases command.parentId with
            | none =>
                rw [Option.map_none, Option.toList_none, List.append_nil, hnone]
                rfl
            | some parent =>
                have hself : Keyed.lookup (·.childId)
                    (db.workEdges ++ [⟨parent, command.id⟩]) command.id =
                      some ⟨parent, command.id⟩ := Keyed.lookup_append_singleton_self hnone
                exact congrArg (Option.map (·.parentId)) hself
  | run command =>
      cases hrow : db.findRun command.id with
      | some row =>
          have hexisting : (createRun now command).run db = _ := createRun_existing hrow
          have hdb' := hexisting.symm.trans hbody
          split at hdb'
          · next hsame =>
              cases hdb'
              exact ⟨row, hrow, hsame.1, hsame.2.1⟩
          · cases hdb'
      | none =>
          rcases createRun_eq_ok hbody with ⟨_, row, hsome, _⟩ | ⟨hfresh, _, _, _, rfl⟩
          · rw [hrow] at hsome
            cases hsome
          · exact ⟨command.row now, Keyed.lookup_append_singleton_self hfresh, rfl, rfl⟩
  | approval command =>
      cases hrow : db.findApproval command.id with
      | some row =>
          obtain ⟨read, hread, hrun, hprovider, hkind, hsummary⟩ :=
            (hdb.consistent row (Keyed.mem_of_lookup hrow)).snapshot
          have hexisting : (recordPendingApproval now command).run db = _ :=
            recordPendingApproval_existing (htext _ rfl) hrow hread
          have hdb' := hexisting.symm.trans hbody
          split at hdb'
          · next hsame =>
              cases hdb'
              rw [hrun, hprovider, hkind, hsummary] at hsame
              exact ⟨row, hrow, hsame⟩
          · cases hdb'
      | none =>
          rcases recordPendingApproval_eq_ok hbody with ⟨_, row, hsome, _⟩ |
            ⟨hfresh, run, _, _, _, _, _, rfl⟩
          · rw [hrow] at hsome
            cases hsome
          · exact ⟨command.row run.connectionId now.unixMillis,
              Keyed.lookup_append_singleton_self hfresh, rfl, rfl, rfl, rfl⟩

/-- The command may be repeated: it reads the entity back, and no other command
takes its identifier. -/
def Repeatable (db : Database) (creation : Creation) : Prop :=
  (∀ now, ∃ snapshot, creation.current db = some snapshot ∧
    creation.op.exec now db = (.ok snapshot, db)) ∧
  ∀ now other, creation.SameId other → other ≠ creation →
    ∃ message, other.op.exec now db = (.error (.conflict message), db)

/-- A command that was accepted once may be repeated after any other calls,
exactly as long as its run is bound to the provider run that it names. -/
theorem repeatable_iff_bound (before since : List Call) {snapshot : creation.Snapshot}
    (haccepted : (creation.op.exec now (Database.empty.afterAll before)).1 = .ok snapshot) :
    creation.Repeatable
        (((Database.empty.afterAll before).after ⟨creation.op, now⟩).afterAll since) ↔
      creation.Bound
        (((Database.empty.afterAll before).after ⟨creation.op, now⟩).afterAll since) := by
  have hsound := Database.Sound.empty.afterAll before
  have hforest := Database.Forest.empty.afterAll before
  have hexec : creation.op.exec now (Database.empty.afterAll before) =
      (.ok snapshot, (Database.empty.afterAll before).after ⟨creation.op, now⟩) :=
    Prod.ext haccepted rfl
  obtain ⟨htext, hstored⟩ := stored_of_ok hsound hforest hexec
  have hlater := hstored.afterAll since
  have hsound' := (hsound.step (Database.change_after _ ⟨creation.op, now⟩)).afterAll since
  constructor
  · rintro ⟨hagain, _⟩
    exact (again_iff hsound' htext hlater).mp (hagain now)
  · intro hbound
    refine ⟨fun now' => (again_iff hsound' htext hlater).mpr hbound, ?_⟩
    exact fun now' other hid hne => rejects_other hsound' hlater hbound hid hne

end Creation

end Later

/-! ## A run that is bound -/

namespace Creation

def sampleId (n : Nat) : Uuid :=
  ⟨BitVec.ofNat 128 (7 * 2 ^ 76 + 2 * 2 ^ 62 + 32 + n % 8),
    (by decide : ∀ k : Fin 8, isUuidV7 (BitVec.ofNat 128 (7 * 2 ^ 76 + 2 * 2 ^ 62 + 32 + k)) = true)
      ⟨n % 8, Nat.mod_lt n (by decide)⟩⟩

/-- A project with one work item. -/
def sampleBefore : List Call :=
  [⟨.createProject ⟨⟨sampleId 0⟩, "project"⟩, ⟨1⟩⟩,
    ⟨.createWorkItem ⟨⟨sampleId 1⟩, ⟨sampleId 0⟩, "item", none⟩, ⟨1⟩⟩]

/-- A run that is yet to learn its provider run. -/
def sampleCreation : Creation := .run ⟨⟨sampleId 2⟩, ⟨sampleId 3⟩, ⟨sampleId 1⟩, none⟩

/-- The provider has accepted the run. -/
def sampleSince : List Call :=
  [⟨.transitionRun ⟨⟨sampleId 2⟩, .starting, .running,
    some ⟨"codex", "local", "session", "turn", by decide⟩, ⟨2⟩, ⟨sampleId 4⟩⟩, ⟨2⟩⟩]

def sampleSnapshot : RunSnapshot :=
  ⟨⟨sampleId 2⟩, ⟨sampleId 3⟩, ⟨sampleId 1⟩, .starting, none, ⟨1⟩, none⟩

/-- The run starts without being bound, a sibling run is bound, and the work item
is archived. -/
def sampleOthers : List Call :=
  [⟨.transitionRun ⟨⟨sampleId 2⟩, .starting, .running, none, ⟨2⟩, ⟨sampleId 4⟩⟩, ⟨2⟩⟩,
    ⟨.createRun ⟨⟨sampleId 5⟩, ⟨sampleId 3⟩, ⟨sampleId 1⟩, none⟩, ⟨3⟩⟩,
    ⟨.transitionRun ⟨⟨sampleId 5⟩, .starting, .running,
      some ⟨"codex", "local", "session", "turn", by decide⟩, ⟨4⟩, ⟨sampleId 6⟩⟩, ⟨4⟩⟩,
    ⟨.archiveWorkSubtree ⟨sampleId 1⟩, ⟨5⟩⟩]

set_option maxRecDepth 100000 in
/-- The other calls are accepted, and the command may still be repeated: it
answers the run as it is now. -/
theorem sampleCreation_repeatable :
    (sampleCreation.op.exec ⟨1⟩ (Database.empty.afterAll sampleBefore)).1 = .ok sampleSnapshot ∧
    sampleCreation.Repeatable (((Database.empty.afterAll sampleBefore).after
      ⟨sampleCreation.op, ⟨1⟩⟩).afterAll sampleOthers) ∧
    (AppStore.exec ⟨6⟩ (.createRun ⟨⟨sampleId 2⟩, ⟨sampleId 3⟩, ⟨sampleId 1⟩, none⟩)
      (((Database.empty.afterAll sampleBefore).after ⟨sampleCreation.op, ⟨1⟩⟩).afterAll
        sampleOthers)).1 = .ok { sampleSnapshot with status := .running } := by
  have haccepted : (AppStore.exec ⟨1⟩ (.createRun ⟨⟨sampleId 2⟩, ⟨sampleId 3⟩, ⟨sampleId 1⟩, none⟩)
      (Database.empty.afterAll sampleBefore)).1 = .ok sampleSnapshot := by decide +kernel
  have hunbound : ((((Database.empty.afterAll sampleBefore).after ⟨sampleCreation.op, ⟨1⟩⟩).afterAll
      sampleOthers).findRun ⟨sampleId 2⟩).all (·.provider.isNone) = true := by decide +kernel
  have hbound : sampleCreation.Repeatable (((Database.empty.afterAll sampleBefore).after
      ⟨sampleCreation.op, ⟨1⟩⟩).afterAll sampleOthers) ↔ _ :=
    repeatable_iff_bound sampleBefore sampleOthers haccepted
  refine ⟨haccepted, hbound.mpr ?_, by decide +kernel⟩
  intro row hrow
  have hrow' : (((Database.empty.afterAll sampleBefore).after
      ⟨sampleCreation.op, ⟨1⟩⟩).afterAll sampleOthers).findRun ⟨sampleId 2⟩ = some row := hrow
  rw [hrow'] at hunbound
  exact Option.isNone_iff_eq_none.mp hunbound

set_option maxRecDepth 100000 in
/-- Once the run is bound, the command that created it is a conflict. -/
theorem sampleCreation_not_repeatable :
    (sampleCreation.op.exec ⟨1⟩ (Database.empty.afterAll sampleBefore)).1 = .ok sampleSnapshot ∧
    ¬ sampleCreation.Repeatable (((Database.empty.afterAll sampleBefore).after
      ⟨sampleCreation.op, ⟨1⟩⟩).afterAll sampleSince) := by
  have haccepted : (AppStore.exec ⟨1⟩ (.createRun ⟨⟨sampleId 2⟩, ⟨sampleId 3⟩, ⟨sampleId 1⟩, none⟩)
      (Database.empty.afterAll sampleBefore)).1 = .ok sampleSnapshot := by decide +kernel
  have hconflict : (AppStore.exec ⟨3⟩ (.createRun ⟨⟨sampleId 2⟩, ⟨sampleId 3⟩, ⟨sampleId 1⟩, none⟩)
      (((Database.empty.afterAll sampleBefore).after ⟨sampleCreation.op, ⟨1⟩⟩).afterAll
        sampleSince)).1.isOk = false := by decide +kernel
  refine ⟨haccepted, fun hrepeatable => ?_⟩
  obtain ⟨snapshot, _, hexec⟩ := hrepeatable.1 ⟨3⟩
  have hok : (AppStore.exec ⟨3⟩ (.createRun ⟨⟨sampleId 2⟩, ⟨sampleId 3⟩, ⟨sampleId 1⟩, none⟩)
      (((Database.empty.afterAll sampleBefore).after ⟨sampleCreation.op, ⟨1⟩⟩).afterAll
        sampleSince)).1 = .ok snapshot := congrArg Prod.fst hexec
  rw [hok] at hconflict
  cases hconflict

end Creation

end YakShed
