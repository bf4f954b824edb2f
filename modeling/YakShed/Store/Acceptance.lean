/-
# When the store accepts a call

The converse of the inversion theorems, for the calls a running run depends on:
under these conditions on the stored rows the call succeeds. What the conditions
take for granted about the tables (`Linked`) holds of every reachable database.
-/

import YakShed.Store.Lifecycle

namespace YakShed

variable {now : UtcTimestamp} {db db' : Database}

/-! ## References between the tables -/

/-- Every run belongs to a stored work item, and no two runs of a connection
share a provider run. -/
structure Database.Linked (db : Database) : Prop where
  workItems : ∀ row ∈ db.runs, (db.findWorkItem row.workItemId).isSome
  providers : ∀ row ∈ db.runs, db.providerTaken row.id row.connectionId row.provider = false

theorem Database.Linked.empty : Database.empty.Linked where
  workItems := fun _ hmem => (by cases hmem)
  providers := fun _ hmem => (by cases hmem)

theorem Database.providerTaken_eq_false {except : RunId} {connection : ConnectionId}
    {provider : Option ProviderRunIdentity} :
    db.providerTaken except connection provider = false ↔
      provider.isSome → ∀ row ∈ db.runs, row.id ≠ except → row.connectionId = connection →
        row.provider ≠ provider := by
  unfold Database.providerTaken
  cases provider with
  | none => simp
  | some identity => simp

section Linked

variable [Sha256]

/-- No call deletes a work item. -/
theorem Change.workItemIds (h : Change now db db') :
    db.workItems.map (·.id) ⊆ db'.workItems.map (·.id) := by
  have hbump : ∀ (db : Database) (item : WorkItemId) (ms : Int),
      (db.bumpRevision item ms).workItems.map (·.id) = db.workItems.map (·.id) :=
    Database.bumpRevision_workItems_ids
  have hfound : ∀ (db : Database) (item : Option WorkItemId) (ms : Int),
      (db.bumpIfFound item ms).workItems.map (·.id) = db.workItems.map (·.id) := by
    intro db item ms
    cases item with
    | none => rfl
    | some item => exact hbump db item ms
  have hsame : ∀ {ids ids' : List WorkItemId}, ids' = ids → ids ⊆ ids' := by
    rintro _ _ rfl
    exact List.Subset.refl _
  cases h with
  | unchanged | project => exact hsame rfl
  | workItem command => simp [Database.afterWorkItem]
  | archive root =>
      refine hsame ?_
      rw [Database.afterArchive, List.map_map]
      refine List.map_congr_left fun row _ => ?_
      rw [Function.comp_apply]
      split <;> rfl
  | run command => exact hsame (hbump _ _ _)
  | transition command run => exact hsame (hbump _ _ _)
  | batch batch run => exact hsame (hbump _ _ _)
  | approval approval run => exact hsame (hbump _ _ _)
  | begin response row => exact hsame (hfound _ _ _)
  | confirm response row decision => exact hsame (hfound _ _ _)

theorem Change.findWorkItem (h : Change now db db') {id : WorkItemId}
    (hitem : (db.findWorkItem id).isSome) : (db'.findWorkItem id).isSome := by
  obtain ⟨row, hmem, rfl⟩ := Keyed.lookup_isSome.mp hitem
  obtain ⟨row', hmem', hid⟩ := List.mem_map.mp (h.workItemIds (List.mem_map_of_mem hmem))
  exact Keyed.lookup_isSome.mpr ⟨row', hmem', hid⟩

theorem Database.Linked.step (hsound : db.Sound) (hlinked : db.Linked) (h : Change now db db') :
    db'.Linked := by
  have hsame : db'.runs = db.runs → db'.Linked := by
    intro hruns
    refine ⟨?_, ?_⟩
    · rw [hruns]
      exact fun row hmem => h.findWorkItem (hlinked.workItems row hmem)
    · simp only [Database.providerTaken_eq_false, hruns]
      exact fun row hmem => Database.providerTaken_eq_false.mp (hlinked.providers row hmem)
  cases hchange : h with
  | run command hfresh hitem hfree =>
      have hnew := Keyed.lookup_eq_none.mp hfresh
      have hmem : ∀ row ∈ (db.afterRun command now).runs, row ∈ db.runs ∨ row = command.row now :=
        fun row hrow => by simpa [Database.afterRun] using hrow
      rw [Database.providerTaken_eq_false] at hfree
      refine ⟨fun row hrow => h.findWorkItem ?_, fun row hrow => ?_⟩
      · rcases hmem row hrow with hold | rfl
        · exact hlinked.workItems row hold
        · obtain ⟨item, hitem, _⟩ := hitem
          exact Option.isSome_iff_exists.mpr ⟨item, hitem⟩
      · rw [Database.providerTaken_eq_false]
        intro hsome other hother hne hconnection hprovider
        rcases hmem row hrow with hold | rfl
        · rcases hmem other hother with hother | rfl
          · exact Database.providerTaken_eq_false.mp (hlinked.providers row hold) hsome other hother
              hne hconnection hprovider
          · exact hfree (by rw [← hprovider] at hsome; exact hsome) row hold (hnew row hold)
              hconnection.symm hprovider.symm
        · rcases hmem other hother with hother | rfl
          · exact hfree hsome other hother hne hconnection hprovider
          · exact hne rfl
  | transition command run hlegal hfound hstatus hfree haudit =>
      have hrun := Keyed.mem_of_lookup hfound
      have hid := Keyed.key_of_lookup hfound
      have hmem : ∀ row ∈ (db.afterTransition command run.workItemId).runs,
          (row ∈ db.runs ∧ row.id ≠ command.runId) ∨ row = run.transition command := by
        intro row hrow
        rcases Keyed.mem_update hrow with hold | ⟨old, hold, hkey, rfl⟩
        · exact .inl hold
        · have hlookup := Keyed.lookup_of_mem hsound.runIds hold
          rw [hkey] at hlookup
          rw [Option.some.inj (hlookup.symm.trans hfound)]
          exact .inr rfl
      rw [Database.providerTaken_eq_false] at hfree
      refine ⟨fun row hrow => h.findWorkItem ?_, fun row hrow => ?_⟩
      · rcases hmem row hrow with ⟨hold, _⟩ | rfl
        · exact hlinked.workItems row hold
        · exact hlinked.workItems run hrun
      · rw [Database.providerTaken_eq_false]
        intro hsome other hother hne hconnection hprovider
        rcases hmem row hrow with ⟨hold, hrowId⟩ | rfl
        · rcases hmem other hother with ⟨hother, _⟩ | rfl
          · exact Database.providerTaken_eq_false.mp (hlinked.providers row hold) hsome other hother
              hne hconnection hprovider
          · exact hfree (by rw [← hprovider] at hsome; exact hsome) row hold hrowId
              hconnection.symm hprovider.symm
        · rcases hmem other hother with ⟨hother, hotherId⟩ | rfl
          · exact hfree hsome other hother hotherId hconnection hprovider
          · exact hne rfl
  | begin | confirm => exact hsame (by simp [Database.afterBegin, Database.afterConfirm])
  | unchanged | project | workItem | archive | batch | approval => exact hsame rfl

end Linked

/-- A body that runs through is committed. -/
theorem AppStore.exec_accepts [Sha256] {α : Type} {op : AppStore α} {value : α}
    (h : (op.body now).run db = .ok (value, db')) : op.exec now db = (.ok value, db') := by
  rw [AppStore.exec, Txn.commit, h]

/-- A body that fails is dropped. -/
theorem AppStore.exec_rejects [Sha256] {α : Type} {op : AppStore α} {error : StoreError}
    (h : (op.body now).run db = .error error) : op.exec now db = (.error error, db) := by
  rw [AppStore.exec, Txn.commit, h]

/-! ## Runs -/

theorem validateAppId_uuid (field : String) (id : Uuid) :
    validateAppId field (isUuidV7 id.bits) = .ok () := by
  rw [validateAppId, if_pos id.isV7]

theorem voidPendingApprovals_accepts (run : RunId) (target : RunStatus) (ms : Int) :
    (voidPendingApprovals run target ms).run db =
      .ok (if target.isTerminal then db.approvalRequests.countP (·.isPendingFor run) else 0,
        { db with
          approvalRequests :=
            if target.isTerminal then
              db.approvalRequests.map fun row => if row.isPendingFor run then row.void ms else row
            else db.approvalRequests }) := by
  unfold voidPendingApprovals
  cases target.isTerminal <;> rfl

/-- A legal transition from the stored status goes through. -/
theorem transitionRun_accepts {command : TransitionRun} {run : RunRow}
    (hlegal : command.expectedCurrent.canTransitionTo command.target = true)
    (hrun : db.findRun command.runId = some run) (hstatus : run.status = command.expectedCurrent)
    (hfree : db.providerTaken command.runId run.connectionId
      (command.providerId.or run.provider) = false)
    (haudit : ∀ row ∈ db.auditEvents, row.id ≠ command.auditEventId)
    (hitem : (db.findWorkItem run.workItemId).isSome) :
    (transitionRun command).run db =
      .ok ((run.transition command).snapshot, db.afterTransition command run.workItemId) := by
  have hmoved : (db.afterTransition command run.workItemId).findRun command.runId =
      some (run.transition command) := Database.findRun_afterTransition_self hrun
  have hstatus' : ¬ run.snapshot.status ≠ command.expectedCurrent := not_not.mpr hstatus
  have hfree' : ¬ db.providerTaken command.runId run.snapshot.connectionId
      (command.providerId.or run.snapshot.providerId) = true := by
    rw [Bool.not_eq_true]
    exact hfree
  unfold transitionRun applyRunTransition
  simp only [Txn.bind_eq_ok, Txn.lift_eq_ok]
  refine ⟨(), db, ⟨validateAppId_uuid _ _, rfl⟩, ?_⟩
  rw [if_pos hlegal]
  simp only [Txn.bind_eq_ok, getRun_eq_ok, Txn.read_eq_ok]
  refine ⟨run.snapshot, db, ⟨⟨run, hrun, rfl⟩, rfl⟩, db, db, ⟨rfl, rfl⟩, ?_⟩
  rw [if_neg hstatus', if_neg hfree']
  simp only [Txn.bind_eq_ok, Txn.write_eq_ok, insertAudit_eq_ok, bumpWorkItemRevision_eq_ok,
    getRun_eq_ok]
  exact ⟨(), _, rfl, _, _, voidPendingApprovals_accepts _ _ _, (), _, ⟨haudit, rfl⟩, (), _,
    ⟨hitem, rfl⟩, ⟨_, hmoved, rfl⟩, rfl⟩

/-! ## Streams -/

/-- The hyphens of an identifier's text are no white space. -/
theorem trimIsEmpty_toText (id : Uuid) : trimIsEmpty id.toText = false := by
  unfold trimIsEmpty Uuid.toText
  refine List.all_eq_false.mpr ⟨'-', ?_, by decide⟩
  simp

theorem ProviderRunIdentity.trimIsEmpty_ns (identity : ProviderRunIdentity) :
    trimIsEmpty identity.ns = false := by
  have h := identity.accepted
  unfold checkProviderRunIdentity requireProviderComponent requireNonempty at h
  cases hempty : trimIsEmpty identity.ns with
  | false => rfl
  | true => simp [hempty, bind, Except.bind] at h

/-- A stream's key names its run, so a stored cursor is never another run's. -/
theorem getStreamCursor_accepts {query : GetStreamCursor}
    (hnamespace : trimIsEmpty query.sourceNamespace = false)
    (hstream : trimIsEmpty query.streamId = false) :
    (getStreamCursor query).run db = .ok ((db.findCursor query.key).map fun cursor =>
      ⟨cursor.cursor, cursor.lastBatchId⟩, db) := by
  have hnamespace' : validateText "projection source namespace" query.sourceNamespace = .ok () := by
    rw [validateText, hnamespace]
    rfl
  have hstream' : validateText "projection stream id" query.streamId = .ok () := by
    rw [validateText, hstream]
    rfl
  unfold getStreamCursor
  simp only [Txn.bind_eq_ok, Txn.lift_eq_ok, Txn.read_eq_ok]
  refine ⟨(), db, ⟨hnamespace', rfl⟩, (), db, ⟨hstream', rfl⟩, db, db, ⟨rfl, rfl⟩, ?_⟩
  cases hcursor : db.findCursor query.key with
  | none => rfl
  | some cursor =>
      have hkey : cursor.key = query.key := Keyed.key_of_lookup hcursor
      have hsame :
          ¬ (cursor.key.connectionId ≠ query.connectionId ∨ cursor.key.runId ≠ query.runId) := by
        rw [hkey]
        simp [GetStreamCursor.key]
      simp only [if_neg hsame, Option.map_some]
      rfl

end YakShed
