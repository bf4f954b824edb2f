/-
# Approvals and what is sent for them

What the store has decided about an approval, and which request of the provider's
the approval was recorded for. Both stay as they are under every call of the
store. Few actions of the supervisor add an approval or a decision to its caches,
or send one; the others are disposed of here.
-/

import YakShed.Store.Digest
import YakShed.Supervisor.Effects

namespace YakShed

open Concurrent

/-! ## Decisions in the store -/

/-- The approval is being answered or was answered, with this decision. -/
def Database.Decided (db : Database) (approval : ApprovalRequestId)
    (decision : ApprovalDecision) : Prop :=
  ∃ row, db.findApproval approval = some row ∧
    (row.approvalStatus = .ok (.responding decision) ∨
      row.approvalStatus = .ok (.resolved decision))

theorem ApprovalRow.approvalStatus_eq_responding {row : ApprovalRow} {decision : ApprovalDecision}
    (h : row.approvalStatus = .ok (.responding decision)) :
    row.status = .responding ∧ row.decision = some decision := by
  unfold ApprovalRow.approvalStatus at h
  split at h <;> simp_all

/-- An approval has one decision. -/
theorem Database.Decided.unique {db : Database} {approval : ApprovalRequestId}
    {decision decision' : ApprovalDecision} (h : db.Decided approval decision)
    (h' : db.Decided approval decision') : decision = decision' := by
  obtain ⟨row, hrow, hstatus⟩ := h
  obtain ⟨row', hrow', hstatus'⟩ := h'
  obtain rfl := Option.some.inj (hrow.symm.trans hrow')
  have hof : ∀ {decision : ApprovalDecision},
      row.approvalStatus = .ok (.responding decision) ∨
        row.approvalStatus = .ok (.resolved decision) → row.decision = some decision := by
    rintro decision (hresponding | hresolved)
    · exact (ApprovalRow.approvalStatus_eq_responding hresponding).2
    · exact (ApprovalRow.approvalStatus_eq_resolved hresolved).2
  exact Option.some.inj ((hof hstatus).symm.trans (hof hstatus'))

/-- No call takes a decision back. -/
theorem Database.Decided.change [Sha256] {now : UtcTimestamp} {db db' : Database}
    {approval : ApprovalRequestId} {decision : ApprovalDecision} (h : db.Decided approval decision)
    (hchange : Change now db db') : db'.Decided approval decision := by
  obtain ⟨row, hrow, hstatus⟩ := h
  obtain ⟨row', hrow', hstep⟩ := hchange.findApproval hrow
  refine ⟨row', hrow', ?_⟩
  rcases hstatus with hresponding | hresolved
  · obtain ⟨hcolumn, hdecision⟩ := ApprovalRow.approvalStatus_eq_responding hresponding
    cases hstep with
    | same => exact .inl hresponding
    | voided ms hpending | begun other ms hpending =>
        rw [hcolumn] at hpending
        cases hpending
    | confirmed ms _ =>
        refine .inr ?_
        simp [ApprovalRow.approvalStatus, ApprovalRow.confirm, hdecision]
  · obtain ⟨hcolumn, hdecision⟩ := ApprovalRow.approvalStatus_eq_resolved hresolved
    cases hstep with
    | same => exact .inr hresolved
    | voided ms hpending | begun other ms hpending | confirmed ms hpending =>
        rw [hcolumn] at hpending
        cases hpending

theorem Database.decided_afterBegin {db : Database} {response : BeginApprovalResponse}
    {now : UtcTimestamp} {row : ApprovalRow}
    (hrow : db.findApproval response.approvalId = some row) :
    (db.afterBegin response now).Decided response.approvalId response.decision := by
  refine ⟨row.begin response.decision now.unixMillis, ?_, .inl rfl⟩
  unfold Database.findApproval at hrow ⊢
  rw [Database.afterBegin, Database.bumpIfFound_approvalRequests, Keyed.lookup_update_self, hrow]
  · rfl
  · exact fun _ => rfl

theorem mem_readRows {α β : Type} {convert : α → Except StoreError β} {rows : List α}
    {items : List β} (h : readRows convert rows = .ok items) {item : β} (hmem : item ∈ items) :
    ∃ row ∈ rows, convert row = .ok item := by
  induction rows generalizing items with
  | nil =>
      cases h
      cases hmem
  | cons row rest ih =>
      rw [readRows, List.mapM_cons] at h
      cases hrow : convert row with
      | error error => simp [hrow, bind, Except.bind] at h
      | ok value =>
          cases hrest : rest.mapM convert with
          | error error => simp [hrow, hrest, bind, Except.bind] at h
          | ok values =>
              simp only [hrow, hrest, bind, Except.bind, pure, Except.pure, Except.ok.injEq] at h
              subst h
              rcases List.mem_cons.mp hmem with rfl | hmem
              · exact ⟨row, List.mem_cons_self, hrow⟩
              · obtain ⟨found, hfound, heq⟩ := ih hrest hmem
                exact ⟨found, List.mem_cons_of_mem _ hfound, heq⟩

/-- A listed approval is in the store, as listed, and has its decision. -/
theorem Database.Sound.row_of_listed {db db' : Database} (hdb : db.Sound)
    {keep : ApprovalRow → Bool} {after : Option ApprovalRequestId} {limit : Nat}
    {page : Page ApprovalSnapshot ApprovalRequestId}
    (h : (listApprovals keep after limit).run db = .ok (page, db'))
    {snapshot : ApprovalSnapshot} (hmem : snapshot ∈ page.items) :
    ∃ row, db.findApproval snapshot.id = some row ∧ keep row = true ∧
      row.provider = snapshot.providerId ∧
      ∀ decision, snapshot.status = .responding decision → db.Decided snapshot.id decision := by
  simp only [listApprovals, Txn.bind_eq_ok, Txn.lift_eq_ok, Txn.read_eq_ok, Txn.pure_eq_ok] at h
  obtain ⟨limit, _, ⟨_, rfl⟩, _, _, ⟨rfl, rfl⟩, items, _, ⟨hread, rfl⟩, rfl, rfl⟩ := h
  obtain ⟨row, hrow, hsnapshot⟩ :=
    mem_readRows hread (List.mem_of_mem_take (List.mem_of_mem_take hmem))
  obtain ⟨hordered, hkeep⟩ := List.mem_filter.mp (List.mem_of_mem_take hrow)
  have hstored : row ∈ db.approvalRequests := (List.perm_insertionSort _ _).mem_iff.mp hordered
  have hfound := Keyed.lookup_of_mem hdb.approvalIds hstored
  rw [Bool.and_eq_true] at hkeep
  obtain ⟨hid, _, hprovider, hstatus⟩ := ApprovalRow.snapshot_eq_ok hsnapshot
  refine ⟨row, hid ▸ hfound, hkeep.1, hprovider.symm, fun decision hresponding => ?_⟩
  exact ⟨row, hid ▸ hfound, .inl (hstatus.trans (by rw [hresponding]))⟩

theorem ApprovalRow.Step.provider_eq {row row' : ApprovalRow} (h : row.Step row') :
    row'.provider = row.provider := by
  cases h <;> rfl

/-- An approval that was recorded without an error is in the store. -/
theorem recordPendingApproval_recorded {now : UtcTimestamp} {db db' : Database}
    {approval : PendingApproval} {snapshot : ApprovalSnapshot}
    (h : (recordPendingApproval now approval).run db = .ok (snapshot, db')) :
    ∃ row, db'.findApproval snapshot.id = some row ∧ row.runId = approval.runId ∧
      row.provider = approval.providerId := by
  rcases recordPendingApproval_eq_ok h with
    ⟨rfl, row, hrow, hsnapshot, hrun, hprovider⟩ | ⟨hfresh, run, _, _, _, _, hid, rfl⟩
  · have hid : snapshot.id = approval.id :=
      (ApprovalRow.snapshot_eq_ok hsnapshot).1.trans (Keyed.key_of_lookup hrow)
    exact ⟨row, hid ▸ hrow, hrun, hprovider⟩
  · rw [hid]
    exact ⟨approval.row run.connectionId now.unixMillis,
      Keyed.lookup_append_singleton_self hfresh, rfl, rfl⟩

/-! ## Requests -/

/-- The request of the provider's that an approval's record stands for. Either the
consumer of the record's run took it from the harness and recorded it, or it was
rebuilt from the record for a provider run that the run was attached to. -/
def RequestOf (db : Database) (log : List Obs) (approval : ApprovalRequestId)
    (request : ProviderRequestRef) : Prop :=
  ∃ row, db.findApproval approval = some row ∧ row.provider.value = request.nativeId ∧
    ((requestProviderId request = .ok row.provider ∧ ∃ channel summary status,
        Obs.received row.runId channel (.approvalRequested request summary) status ∈ log) ∨
      Obs.attached row.runId request.run ∈ log)

theorem requestProviderId_value {request : ProviderRequestRef} {provider : NamespacedProviderId}
    (h : requestProviderId request = .ok provider) : provider.value = request.nativeId := by
  unfold requestProviderId NamespacedProviderId.new at h
  split at h
  · next found hfound =>
      cases h
      split at hfound <;> cases hfound
      rfl
  · cases h

/-- An approval keeps its request. -/
theorem RequestOf.change [Sha256] {now : UtcTimestamp} {db db' : Database} {log log' : List Obs}
    {approval : ApprovalRequestId} {request : ProviderRequestRef}
    (h : RequestOf db log approval request) (hchange : Change now db db') (hlog : log ⊆ log') :
    RequestOf db' log' approval request := by
  obtain ⟨row, hrow, hvalue, horigin⟩ := h
  obtain ⟨row', hrow', hstep⟩ := hchange.findApproval hrow
  refine ⟨row', hrow', by rw [hstep.provider_eq, hvalue], ?_⟩
  rw [hstep.provider_eq, hstep.identity.2]
  rcases horigin with ⟨hprovider, channel, summary, status, hasked⟩ | hattached
  · exact .inl ⟨hprovider, channel, summary, status, hlog hasked⟩
  · exact .inr (hlog hattached)

/-- Sending an answer makes no request. -/
theorem RequestOf.of_responded {db : Database} {log : List Obs} {approval : ApprovalRequestId}
    {request answered : ProviderRequestRef} {about : Option ApprovalRequestId}
    {decision : ApprovalDecision}
    (h : RequestOf db (log ++ [.responded answered about decision]) approval request) :
    RequestOf db log approval request := by
  obtain ⟨row, hrow, hvalue, horigin⟩ := h
  simp only [List.mem_append, List.mem_singleton, reduceCtorEq, or_false] at horigin
  exact ⟨row, hrow, hvalue, horigin⟩

/-- A decision was sent in answer to the request of an approval, and is the one the
store has. -/
def Sent (db : Database) (log : List Obs) (request : ProviderRequestRef)
    (about : Option ApprovalRequestId) (decision : ApprovalDecision) : Prop :=
  ∃ approval, about = some approval ∧ RequestOf db log approval request ∧
    db.Decided approval decision

theorem Sent.change [Sha256] {now : UtcTimestamp} {db db' : Database} {log log' : List Obs}
    {request : ProviderRequestRef} {about : Option ApprovalRequestId} {decision : ApprovalDecision}
    (h : Sent db log request about decision) (hchange : Change now db db') (hlog : log ⊆ log') :
    Sent db' log' request about decision := by
  obtain ⟨approval, habout, hrequest, hdecided⟩ := h
  exact ⟨approval, habout, hrequest.change hchange hlog, hdecided.change hchange⟩

theorem Sent.mono [Sha256] {db : Database} {log log' : List Obs} {request : ProviderRequestRef}
    {about : Option ApprovalRequestId} {decision : ApprovalDecision}
    (h : Sent db log request about decision) (hlog : log ⊆ log') :
    Sent db log' request about decision := by
  have hsame : Change ⟨0⟩ db db := .unchanged
  exact h.change hsame hlog

/-! ## What one action adds -/

/-- What holds between any two steps. -/
structure WriteAhead (world : World) : Prop where
  sound : world.db.Sound
  cached : ∀ approval decision,
    world.state.approvalResponses.find approval = some decision →
      world.db.Decided approval decision
  opened : ∀ approval run request, world.state.approvals.find approval = some (run, request) →
    RequestOf world.db world.log approval request
  sent : ∀ request about decision, Obs.responded request about decision ∈ world.log →
    Sent world.db world.log request about decision

/-- Whatever a step adds to the caches, and whatever it sends, the store has. -/
structure Backed (world world' : World) : Prop where
  cached : ∀ approval decision,
    world'.state.approvalResponses.find approval = some decision →
      world.state.approvalResponses.find approval = some decision ∨
        world'.db.Decided approval decision
  opened : ∀ approval run request, world'.state.approvals.find approval = some (run, request) →
    world.state.approvals.find approval = some (run, request) ∨
      RequestOf world'.db world'.log approval request
  sent : ∀ request about decision, Obs.responded request about decision ∈ world'.log →
    Obs.responded request about decision ∈ world.log ∨
      Sent world'.db world'.log request about decision

theorem WriteAhead.step [Sha256] {now : UtcTimestamp} {world world' : World}
    (h : WriteAhead world) (hchange : Change now world.db world'.db)
    (hlog : world.log ⊆ world'.log) (hbacked : Backed world world') : WriteAhead world' where
  sound := h.sound.step hchange
  cached approval decision hfound := by
    rcases hbacked.cached approval decision hfound with hold | hnew
    · exact (h.cached approval decision hold).change hchange
    · exact hnew
  opened approval run request hfound := by
    rcases hbacked.opened approval run request hfound with hold | hnew
    · exact (h.opened approval run request hold).change hchange hlog
    · exact hnew
  sent request about decision hmem := by
    rcases hbacked.sent request about decision hmem with hold | hnew
    · exact (h.sent request about decision hold).change hchange hlog
    · exact hnew

/-- The action sends a decision, or adds to the caches of approvals. -/
def Act.decides : {β : Type} → Act β → Bool
  | _, .harness (.respond _ (.approval _) _) | _, .insertResponse .. | _, .insertApproval .. => true
  | _, .prepareRoute _ _ _ restored =>
      !(restored.approvalResponses.entries.isEmpty && restored.approvals.entries.isEmpty)
  | _, _ => false

section Actions

variable [Sha256] {β : Type} {world world' : World} {oracle : Oracle} {answer : β}
  {spawned : List (Proc Unit)}

theorem Act.log_subset {act : Act β}
    (h : act.effect world oracle = some (answer, world', spawned)) :
    world.log ⊆ world'.log := by
  obtain ⟨added, hlog, _⟩ := Act.log_append h
  rw [hlog]
  exact List.subset_append_left _ _

/-- Any other action only takes from the caches. -/
theorem Act.cached_of {act : Act β} (hdecides : act.decides = false)
    (h : act.effect world oracle = some (answer, world', spawned)) :
    (∀ approval decision, world'.state.approvalResponses.find approval = some decision →
      world.state.approvalResponses.find approval = some decision) ∧
    ∀ approval request, world'.state.approvals.find approval = some request →
      world.state.approvals.find approval = some request := by
  cases hlock : act.takesStateLock with
  | false =>
      rw [Act.state_eq hlock h]
      exact ⟨fun _ _ => id, fun _ _ => id⟩
  | true =>
      cases act with
      | insertResponse | insertApproval => cases hdecides
      | prepareRoute run item provider restored =>
          cases h
          simp only [Act.decides, Bool.not_eq_eq_eq_not, Bool.not_false, Bool.and_eq_true]
            at hdecides
          refine ⟨fun approval decision hfound => ?_, fun approval request hfound => ?_⟩
          · change Dict.find (Dict.extend _ restored.approvalResponses) approval = _ at hfound
            rwa [Dict.find_extend_of_isEmpty hdecides.1] at hfound
          · change Dict.find (Dict.extend _ restored.approvals) approval = _ at hfound
            rwa [Dict.find_extend_of_isEmpty hdecides.2] at hfound
      | removeRouteState | closeRun =>
          cases h
          exact ⟨fun _ _ hfound => (Dict.find_retain_eq_some.mp hfound).1,
            fun _ _ hfound => (Dict.find_retain_eq_some.mp hfound).1⟩
      | removeApproval other =>
          cases h
          constructor
          all_goals
            intro approval value hfound
            rw [World.withState_state, State.removeApproval, Dict.find_remove] at hfound
            split at hfound
            · cases hfound
            · exact hfound
      | clearForPumpFailure =>
          simp only [Act.effect] at h
          split at h
          · cases h
            constructor
            all_goals
              intro approval value hfound
              rw [World.withState_state, State.cleared, Dict.find_empty] at hfound
              cases hfound
          · cases h
      | routeEvent provider event =>
          simp only [Act.effect] at h
          split at h
          · next order =>
              split at h
              · cases h
                have hframe := world.state.bufferHandshakeEvent_frame order provider event
                constructor
                all_goals
                  intro approval value hfound
                  simpa [hframe] using hfound
              · cases h
                rw [World.trySend_state]
                exact ⟨fun _ _ => id, fun _ _ => id⟩
          · cases h
      | cloneRoute provider | lockRoute provider =>
          simp only [Act.effect, Option.some.injEq, Prod.mk.injEq] at h
          obtain ⟨_, rfl, _⟩ := h
          have hstate := World.cloneRoute_state world provider
          exact ⟨fun _ _ hfound => hstate ▸ hfound, fun _ _ hfound => hstate ▸ hfound⟩
      | insertWorkItem | beginHandshake | finishStartHandshake | retainUnknownHandshake
      | publishStart | takePending | insertUncertainRun | removeUncertainRun | isAttached
      | takeUncertainStart | activeRun | getApproval | getResponse | getUserInput
      | insertUserInput | removeUserInput =>
          cases h
          exact ⟨fun _ _ => id, fun _ _ => id⟩
      | _ => cases hlock

/-- Any other action sends no decision. -/
theorem Act.responded_of {act : Act β} (hdecides : act.decides = false)
    (h : act.effect world oracle = some (answer, world', spawned)) {request : ProviderRequestRef}
    {about : Option ApprovalRequestId} {decision : ApprovalDecision}
    (hmem : Obs.responded request about decision ∈ world'.log) :
    Obs.responded request about decision ∈ world.log := by
  cases hlogged : act.isLogged with
  | false => rwa [Act.log_eq hlogged h] at hmem
  | true =>
      cases act with
      | harness call =>
          obtain ⟨⟨result, after⟩, hexec, heq⟩ := Option.map_eq_some_iff.mp h
          cases heq
          cases call <;> cases oracle <;> simp only [HarnessCall.exec, reduceCtorEq] at hexec
          case respond.acknowledged request response about answer =>
            cases response with
            | approval => cases hdecides
            | userInput =>
                cases hexec
                exact hmem
          case nextEvent.event answer =>
            split at hexec <;> cases hexec
            · simpa [World.note] using hmem
            · exact hmem
          all_goals
            cases hexec
            exact hmem
      | broadcast | finishConsumer | publishStart | prepareRoute =>
          cases h
          rcases List.mem_append.mp hmem with hmem | hmem
          · exact hmem
          · cases List.mem_singleton.mp hmem
      | receive run channel =>
          simp only [Act.effect] at h
          repeat' split at h
          all_goals cases h
          · simpa [World.note] using hmem
          · exact hmem
      | _ => cases hlogged

theorem Act.backed {act : Act β} (hdecides : act.decides = false)
    (h : act.effect world oracle = some (answer, world', spawned)) : Backed world world' where
  cached approval decision hfound := .inl ((Act.cached_of hdecides h).1 approval decision hfound)
  opened approval _ _ hfound := .inl ((Act.cached_of hdecides h).2 approval _ hfound)
  sent _ _ _ hmem := .inl (Act.responded_of hdecides h hmem)

end Actions

end YakShed
