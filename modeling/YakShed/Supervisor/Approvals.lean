/-
# Answering an approval

A decision is durable before the harness hears of it, and it is sent in answer to the
request that the approval was recorded for. What a task knows of decisions and records
is its token; such knowledge never goes stale, because no call of the store takes a
decision back or gives an approval to another request.
-/

import YakShed.Supervisor.Footprint
import YakShed.Supervisor.Requests

namespace YakShed

open Concurrent

/-! ## The outline -/

/-- What a task may know of approvals. -/
inductive Fact
  | decided (approval : ApprovalRequestId) (decision : ApprovalDecision)
  | recorded (approval : ApprovalRequestId) (run : RunId) (provider : NamespacedProviderId)
  | asked (run : RunId) (request : ProviderRequestRef)
  | requested (approval : ApprovalRequestId) (request : ProviderRequestRef)

abbrev Knowledge := Fact → Prop

def Knowledge.none : Knowledge := fun _ => False

def Fact.Holds (db : Database) (log : List Obs) : Fact → Prop
  | decided approval decision => db.Decided approval decision
  | recorded approval run provider =>
      ∃ row, db.findApproval approval = some row ∧ row.runId = run ∧ row.provider = provider
  | asked run request => ∃ channel summary status,
      Obs.received run channel (.approvalRequested request summary) status ∈ log
  | requested approval request => RequestOf db log approval request

/-- What is known stays so. -/
theorem Fact.Holds.change [Sha256] {now : UtcTimestamp} {db db' : Database} {log log' : List Obs}
    {fact : Fact} (h : fact.Holds db log) (hchange : Change now db db') (hlog : log ⊆ log') :
    fact.Holds db' log' := by
  cases fact with
  | decided approval decision => exact Database.Decided.change h hchange
  | recorded approval run provider =>
      obtain ⟨row, hrow, hrun, hprovider⟩ := h
      obtain ⟨row', hrow', hstep⟩ := hchange.findApproval hrow
      exact ⟨row', hrow', hstep.identity.2.trans hrun, hstep.provider_eq.trans hprovider⟩
  | asked run request =>
      obtain ⟨channel, summary, status, hmem⟩ := h
      exact ⟨channel, summary, status, hlog hmem⟩
  | requested approval request => exact RequestOf.change h hchange hlog

/-- All that is to be restored for a run is known from the store. -/
structure RestoredRequests.Known {run : RunId} (restored : RestoredRequests run)
    (provider : ProviderRunRef) (known : Knowledge) : Prop where
  answers : ∀ approval decision, restored.approvalResponses.find approval = some decision →
    known (.decided approval decision)
  requests : ∀ approval request, restored.approvals.find approval = some request →
    ∃ id, known (.recorded approval run id) ∧ request.2 = ⟨provider, id.value⟩

theorem RestoredRequests.Known.mono {run : RunId} {restored : RestoredRequests run}
    {provider : ProviderRunRef} {known held : Knowledge} (h : restored.Known provider known)
    (hgrown : ∀ fact, known fact → held fact) : restored.Known provider held where
  answers approval decision hfound := hgrown _ (h.answers approval decision hfound)
  requests approval request hfound := by
    obtain ⟨id, hrecorded, heq⟩ := h.requests approval request hfound
    exact ⟨id, hgrown _ hrecorded, heq⟩

/-- Loading the requests of a run keeps what is restored known; a consumer
gathers knowledge of its own. -/
def approvalSpec : {β : Type} → Proc β → Knowledge → (β → Knowledge → Prop) → Prop
  | _, .loadApprovals _ provider _ restored, known, Q
  | _, .loadUserInputs _ provider _ restored, known, Q =>
      ∀ result held, (restored.Known provider known → ∀ loaded, result = .ok loaded →
        loaded.Known provider held) → Q result held
  | _, .runEventPump, known, Q => Q () known
  | _, _, _, Q => ∀ result held, Q result held

def approvalOutline : Outline Proc World where
  Token := Knowledge
  Valid := fun world tokens => WriteAhead world ∧
    ∀ known ∈ tokens, ∀ fact, known fact → fact.Holds world.db world.log
  perm := fun hperm hvalid => ⟨hvalid.1, fun known hmem => hvalid.2 known (hperm.mem_iff.mpr hmem)⟩
  spec := approvalSpec
  Idle := fun _ => True

/-- Any procedure may be called, and started, by a task that knows nothing. -/
theorem approvalSpec_of_all {β : Type} {proc : Proc β} {known : Knowledge}
    {Q : β → Knowledge → Prop} (hQ : ∀ result held, Q result held) : approvalSpec proc known Q := by
  cases proc with
  | loadApprovals | loadUserInputs => exact fun result held _ => hQ result held
  | runEventPump => exact hQ () known
  | _ => exact hQ

section Steps

variable [Sha256] {β : Type}

omit [Sha256] in
/-- Any task started on the way may know nothing. -/
theorem approvalOutline_starts (spawned : List (Proc Unit)) :
    List.Forall₂ (fun proc held => approvalSpec proc held fun _ _ => True)
      spawned (spawned.map fun _ => Knowledge.none) := by
  induction spawned with
  | nil => exact .nil
  | cons proc rest ih => exact .cons (approvalSpec_of_all fun _ _ => trivial) ih

/-- A step whose additions are backed by what the task knows; afterwards it may
know whatever is true. -/
theorem approvalOutline_step {act : Act β} (known : Knowledge) (next : β → Knowledge)
    (hstep : ∀ {world world' : World} {oracle : Oracle} {answer : β} {spawned : List (Proc Unit)},
      WriteAhead world → (∀ fact, known fact → fact.Holds world'.db world'.log) →
      act.effect world oracle = some (answer, world', spawned) →
      Backed world world' ∧ ∀ fact, next answer fact → fact.Holds world'.db world'.log) :
    approvalOutline.Step supervisor anyStep act known fun answer held => held = next answer := by
  intro world others oracle answer world' spawned hvalid _ hexec
  have h := Act.effect_of_exec hexec
  obtain ⟨now, hchange⟩ := Act.change h
  have hlog := Act.log_subset h
  obtain ⟨hworld, htokens⟩ := hvalid
  have hstays : ∀ token ∈ known :: others, ∀ fact, token fact →
      fact.Holds world'.db world'.log :=
    fun token hmem fact hfact => (htokens token hmem fact hfact).change hchange hlog
  obtain ⟨hbacked, hnext⟩ := hstep hworld (hstays known List.mem_cons_self) h
  refine ⟨next answer, spawned.map fun _ => Knowledge.none, approvalOutline_starts spawned,
    ⟨hworld.step hchange hlog hbacked, ?_⟩, rfl⟩
  intro token hmem fact hfact
  rcases List.mem_append.mp hmem with hmem | hmem
  · rcases List.mem_cons.mp hmem with rfl | hmem
    · exact hnext fact hfact
    · obtain ⟨_, _, rfl⟩ := List.mem_map.mp hmem
      exact hfact.elim
  · exact hstays token (List.mem_cons_of_mem _ hmem) fact hfact

/-- A step that adds nothing teaches whatever it shows. -/
theorem approvalOutline_learns {act : Act β} (hdecides : act.decides = false) (known : Knowledge)
    (learnt : β → Knowledge)
    (hlearnt : ∀ {world world' : World} {oracle : Oracle} {answer : β} {spawned : List (Proc Unit)},
      WriteAhead world → act.effect world oracle = some (answer, world', spawned) →
      ∀ fact, learnt answer fact → fact.Holds world'.db world'.log) :
    approvalOutline.Step supervisor anyStep act known fun answer held =>
      held = fun fact => known fact ∨ learnt answer fact :=
  approvalOutline_step known (fun answer fact => known fact ∨ learnt answer fact)
    fun hworld hknown h => ⟨Act.backed hdecides h, fun fact hfact =>
      hfact.elim (hknown fact) (hlearnt hworld h fact)⟩

theorem approvalOutline_keeps_of {act : Act β} {known : Knowledge}
    (hbacked : ∀ {world world' : World} {oracle : Oracle} {answer : β}
      {spawned : List (Proc Unit)}, (∀ fact, known fact → fact.Holds world'.db world'.log) →
      act.effect world oracle = some (answer, world', spawned) → Backed world world') :
    approvalOutline.Keeps supervisor anyStep act known :=
  approvalOutline_step known (fun _ => known) fun _ hknown h => ⟨hbacked hknown h, hknown⟩

theorem approvalOutline_keeps {act : Act β} {known : Knowledge} (hdecides : act.decides = false) :
    approvalOutline.Keeps supervisor anyStep act known :=
  approvalOutline_keeps_of fun _ h => Act.backed hdecides h

/-! ## What single steps teach -/

theorem approvalOutline_getApproval (approval : ApprovalRequestId) (known : Knowledge) :
    approvalOutline.Step supervisor anyStep (.getApproval approval) known fun answer held =>
      ∀ found, answer = some found → held (.requested approval found.2) := by
  refine (approvalOutline_learns rfl known (fun answer fact => ∃ found, answer = some found ∧
    fact = .requested approval found.2) ?_).mono ?_
  · rintro world _ _ _ _ hworld heffect _ ⟨⟨run, request⟩, hanswer, rfl⟩
    cases heffect
    exact hworld.opened _ run request hanswer
  · rintro answer _ rfl found hanswer
    exact .inr ⟨found, hanswer, rfl⟩

theorem approvalOutline_getResponse (approval : ApprovalRequestId) (known : Knowledge) :
    approvalOutline.Step supervisor anyStep (.getResponse approval) known fun answer held =>
      (∀ fact, known fact → held fact) ∧
        ∀ decision, answer = some decision → held (.decided approval decision) := by
  refine (approvalOutline_learns rfl known (fun answer fact => ∃ decision, answer = some decision ∧
    fact = .decided approval decision) ?_).mono ?_
  · rintro world _ _ _ _ hworld heffect _ ⟨decision, hanswer, rfl⟩
    cases heffect
    exact hworld.cached _ decision hanswer
  · rintro answer _ rfl
    exact ⟨fun _ => .inl, fun decision hanswer => .inr ⟨decision, hanswer, rfl⟩⟩

/-- What a store call that succeeded was given and made of the database. -/
theorem StoreCall.op_of_effect {site : Site} {call : StoreCall β} {value : β}
    (h : (Act.store site call).effect world oracle = some (.ok value, world', spawned)) :
    ∃ fresh occurredAt now,
      (call.op fresh occurredAt).exec now world.db = (.ok value, world'.db) := by
  obtain ⟨⟨result, after⟩, hexec, heq⟩ := Option.map_eq_some_iff.mp h
  cases heq
  obtain ⟨_, fresh, occurredAt, now, _, _, ⟨_, _, herror, _⟩ | ⟨_, db, hop, rfl⟩⟩ :=
    StoreCall.exec_cases hexec
  · cases herror
  · exact ⟨fresh, occurredAt, now, hop⟩

theorem approvalOutline_begin (approval : ApprovalRequestId) (decision : ApprovalDecision)
    (known : Knowledge) :
    approvalOutline.Step supervisor anyStep
      (.store .elsewhere (.beginApprovalResponse approval decision)) known fun answer held =>
        (∀ fact, known fact → held fact) ∧
          ∀ snapshot, answer = .ok snapshot → held (.decided approval decision) := by
  refine (approvalOutline_learns rfl known (fun answer fact => (∃ snapshot, answer = .ok snapshot) ∧
    fact = .decided approval decision) ?_).mono ?_
  · rintro world world' _ _ _ _ heffect _ ⟨⟨snapshot, rfl⟩, rfl⟩
    obtain ⟨fresh, occurredAt, now, hop⟩ := StoreCall.op_of_effect heffect
    obtain ⟨⟨row, hrow, _⟩, _, hdb⟩ := beginApprovalResponse_eq_ok (AppStore.exec_ok hop)
    change world'.db.Decided approval decision
    rw [hdb]
    exact Database.decided_afterBegin hrow
  · rintro answer _ rfl
    exact ⟨fun _ => .inl, fun snapshot hanswer => .inr ⟨⟨snapshot, hanswer⟩, rfl⟩⟩

theorem approvalOutline_list (run : RunId) (after : Option ApprovalRequestId) (known : Knowledge) :
    approvalOutline.Step supervisor anyStep (.store .elsewhere (.listApprovalsForRun run after))
      known fun answer held => (∀ fact, known fact → held fact) ∧
        ∀ page, answer = .ok page → ∀ snapshot ∈ page.items,
          held (.recorded snapshot.id run snapshot.providerId) ∧
          ∀ decision, snapshot.status = .responding decision →
            held (.decided snapshot.id decision) := by
  refine (approvalOutline_learns rfl known (fun answer fact => ∃ page, answer = .ok page ∧
    ∃ snapshot ∈ page.items, fact = .recorded snapshot.id run snapshot.providerId ∨
      ∃ decision, snapshot.status = .responding decision ∧
        fact = .decided snapshot.id decision) ?_).mono ?_
  · rintro world _ _ _ _ hworld heffect fact ⟨page, rfl, snapshot, hmem, hfact⟩
    obtain ⟨now, hchange⟩ := Act.change heffect
    obtain ⟨_, _, _, hop⟩ := StoreCall.op_of_effect heffect
    obtain ⟨row, hrow, hkeep, hprovider, hdecided⟩ :=
      hworld.sound.row_of_listed (AppStore.exec_ok hop) hmem
    have hholds : fact.Holds world.db world.log := by
      rcases hfact with rfl | ⟨decision, hstatus, rfl⟩
      · exact ⟨row, hrow, of_decide_eq_true hkeep, hprovider⟩
      · exact hdecided decision hstatus
    exact hholds.change hchange (Act.log_subset heffect)
  · rintro answer _ rfl
    refine ⟨fun _ => .inl, fun page hpage snapshot hmem => ⟨?_, fun decision hstatus => ?_⟩⟩
    · exact .inr ⟨page, hpage, snapshot, hmem, .inl rfl⟩
    · exact .inr ⟨page, hpage, snapshot, hmem, .inr ⟨decision, hstatus, rfl⟩⟩

theorem approvalOutline_record (run : RunId) (provider : NamespacedProviderId) (summary : String)
    (known : Knowledge) :
    approvalOutline.Step supervisor anyStep
      (.store .elsewhere (.recordPendingApproval run provider summary)) known fun answer held =>
        held = fun fact => known fact ∨
          ∃ snapshot, answer = .ok snapshot ∧ fact = .recorded snapshot.id run provider := by
  refine approvalOutline_learns rfl known _ ?_
  rintro world world' _ _ _ _ heffect _ ⟨snapshot, rfl, rfl⟩
  obtain ⟨_, _, _, hop⟩ := StoreCall.op_of_effect heffect
  exact recordPendingApproval_recorded (AppStore.exec_ok hop)

theorem approvalOutline_receive (run : RunId) (channel : ChannelId) (known : Knowledge) :
    approvalOutline.Step supervisor anyStep (.receive run channel) known fun answer held =>
      ∀ request summary, answer = some (.approvalRequested request summary) →
        held (.asked run request) := by
  refine (approvalOutline_learns rfl known (fun answer fact => ∃ request summary,
    answer = some (.approvalRequested request summary) ∧ fact = .asked run request) ?_).mono ?_
  · rintro world _ _ _ _ _ heffect _ ⟨request, summary, rfl, rfl⟩
    simp only [Act.effect] at heffect
    repeat' split at heffect
    all_goals cases heffect
    exact ⟨channel, summary, _, List.mem_append_right _ List.mem_cons_self⟩
  · rintro answer _ rfl request summary hanswer
    exact .inr ⟨request, summary, hanswer, rfl⟩

/-! ## The steps that add -/

theorem approvalOutline_insertResponse {approval : ApprovalRequestId} {decision : ApprovalDecision}
    {known : Knowledge} (hknown : known (.decided approval decision)) :
    approvalOutline.Keeps supervisor anyStep (.insertResponse approval decision) known := by
  apply approvalOutline_keeps_of
  intro world world' _ _ _ hholds heffect
  have hdecided := hholds _ hknown
  cases heffect
  refine ⟨fun other taken hfound => ?_, fun _ _ _ => .inl, fun _ _ _ => .inl⟩
  rw [World.withState_state] at hfound
  rcases Dict.find_set_eq_some.mp hfound with ⟨rfl, rfl⟩ | ⟨_, hold⟩
  · exact .inr hdecided
  · exact .inl hold

/-- The request of a record that the caller has made of it may be cached. -/
theorem approvalOutline_insertApproval {approval : ApprovalRequestId} {run : RunId}
    {request : ProviderRequestRef} {provider : NamespacedProviderId} {known forgotten : Knowledge}
    (hprovider : requestProviderId request = .ok provider)
    (hasked : known (.asked run request)) (hrecorded : known (.recorded approval run provider))
    (hforgotten : ∀ fact, forgotten fact → known fact) :
    approvalOutline.Step supervisor anyStep (.insertApproval approval run request) known
      fun _ held => held = forgotten := by
  apply approvalOutline_step known fun _ => forgotten
  intro world world' _ _ _ _ hholds heffect
  obtain ⟨row, hrow, hrun, hrowProvider⟩ := hholds _ hrecorded
  obtain ⟨channel, summary, status, hmem⟩ := hholds _ hasked
  have hrequest : RequestOf world'.db world'.log approval request := by
    refine ⟨row, hrow, ?_, .inl ⟨by rw [hrowProvider, hprovider], channel, summary, status, ?_⟩⟩
    · rw [hrowProvider, requestProviderId_value hprovider]
    · rwa [hrun]
  refine ⟨?_, fun fact hfact => hholds fact (hforgotten fact hfact)⟩
  cases heffect
  refine ⟨fun _ _ => .inl, fun other otherRun otherRequest hfound => ?_, fun _ _ _ => .inl⟩
  rw [World.withState_state] at hfound
  rcases Dict.find_set_eq_some.mp hfound with ⟨rfl, hnew⟩ | ⟨_, hold⟩
  · cases hnew
    exact .inr hrequest
  · exact .inl hold

theorem approvalOutline_respond {approval : ApprovalRequestId} {decision : ApprovalDecision}
    {request : ProviderRequestRef} {known : Knowledge}
    (hrequested : known (.requested approval request))
    (hdecided : known (.decided approval decision)) :
    approvalOutline.Keeps supervisor anyStep
      (.harness (.respond request (.approval decision) (some approval))) known := by
  apply approvalOutline_keeps_of
  intro world world' oracle _ _ hholds heffect
  have hrequest := hholds _ hrequested
  have hdurable := hholds _ hdecided
  have hstate := Act.state_eq rfl heffect
  refine ⟨fun _ _ hfound => .inl (hstate ▸ hfound), fun _ _ _ hfound => .inl (hstate ▸ hfound), ?_⟩
  intro other about taken hmem
  obtain ⟨⟨result, after⟩, hexec, heq⟩ := Option.map_eq_some_iff.mp heffect
  cases heq
  cases oracle <;> simp only [HarnessCall.exec, reduceCtorEq] at hexec
  cases hexec
  rcases List.mem_append.mp hmem with hmem | hmem
  · exact .inl hmem
  · cases List.mem_singleton.mp hmem
    exact .inr ⟨approval, rfl, hrequest, hdurable⟩

theorem approvalOutline_prepareRoute {run : RunId} {restored : RestoredRequests run}
    {provider : ProviderRunRef} {known : Knowledge} (hknown : restored.Known provider known)
    (item : WorkItemId) :
    approvalOutline.Keeps supervisor anyStep (.prepareRoute run item provider restored) known := by
  apply approvalOutline_keeps_of
  intro world world' oracle answer spawned hholds heffect
  have hattached : Obs.attached run provider ∈ world'.log := by
    cases heffect
    exact List.mem_append_right _ List.mem_cons_self
  have hrequest : ∀ approval request, restored.approvals.find approval = some request →
      RequestOf world'.db world'.log approval request.2 := by
    intro approval request hfound
    obtain ⟨id, hrecorded, heq⟩ := hknown.requests approval request hfound
    obtain ⟨row, hrow, hrun, hprovider⟩ := hholds _ hrecorded
    rw [heq]
    exact ⟨row, hrow, by rw [hprovider], .inr (hrun ▸ hattached)⟩
  have hanswer : ∀ approval decision, restored.approvalResponses.find approval = some decision →
      world'.db.Decided approval decision :=
    fun approval decision hfound => hholds _ (hknown.answers approval decision hfound)
  cases heffect
  refine ⟨fun approval decision hfound => ?_, fun approval other request hfound => ?_, ?_⟩
  · change Dict.find (Dict.extend _ restored.approvalResponses) approval = _ at hfound
    rcases Dict.find_extend_eq_some.mp hfound with hnew | ⟨_, hold⟩
    · exact .inr (hanswer approval decision hnew)
    · exact .inl hold
  · change Dict.find (Dict.extend _ restored.approvals) approval = _ at hfound
    rcases Dict.find_extend_eq_some.mp hfound with hnew | ⟨_, hold⟩
    · exact .inr (hrequest approval _ hnew)
    · exact .inl hold
  · intro request about decision hmem
    rcases List.mem_append.mp hmem with hmem | hmem
    · exact .inl hmem
    · cases List.mem_singleton.mp hmem

/-! ## The functions that decide -/

/-- A decision that was begun is durable. -/
theorem ok_beginResponse (approval : ApprovalRequestId) (decision : ApprovalDecision)
    (known : Knowledge) :
    approvalOutline.Ok supervisor anyStep
      (fun result held => result = .ok () → (∀ fact, known fact → held fact) ∧
        held (.decided approval decision))
      (beginResponse approval decision) known := by
  refine ok_act ((approvalOutline_getResponse approval known).mono ?_)
  rintro answer held ⟨hgrown, hanswer⟩
  cases answer with
  | some existing =>
      dsimp only
      split
      · exact fun h => by cases h
      · next hsame => exact fun _ => ⟨hgrown, not_not.mp hsame ▸ hanswer existing rfl⟩
  | none =>
      refine ok_attempt (Outline.Ok.act ((approvalOutline_begin approval decision held).mono ?_))
      rintro result later ⟨hlater, hresult⟩
      refine ⟨fun _ _ h => (by cases h), fun snapshot hsnapshot => ?_⟩
      have hknown := hresult snapshot hsnapshot
      exact ok_act ((approvalOutline_insertResponse hknown).step fun _ _ =>
        ⟨fun fact hfact => hlater fact (hgrown fact hfact), hknown⟩)

omit [Sha256] in
theorem Act.decides_of_isQuiet {act : Act β} (h : act.isQuiet = true) : act.decides = false := by
  cases act <;> first | rfl | cases h

theorem approvalOutline_quiet {known : Knowledge} :
    Quiet fun program => approvalOutline.Stays supervisor anyStep known program :=
  Quiet.stays fun _ _ hquiet => approvalOutline_keeps (Act.decides_of_isQuiet hquiet)

/-- What is sent answers the approval's own request, and is known to be durable. -/
theorem ok_resolveApproval (approval : ApprovalRequestId) (decision : ApprovalDecision)
    (known : Knowledge) :
    approvalOutline.Ok supervisor anyStep (fun _ _ => True) (resolveApproval approval decision)
      known := by
  refine ok_attempt (Outline.Ok.act ((approvalOutline_keeps rfl).step fun _ =>
    ⟨fun _ _ => trivial, fun _ _ => ?_⟩))
  refine ok_act ((approvalOutline_getApproval approval known).mono fun found held hfound => ?_)
  cases found with
  | none => exact trivial
  | some found =>
      refine ok_attempt (Outline.Ok.act ((approvalOutline_keeps rfl).step fun _ =>
        ⟨fun _ _ => trivial, fun active _ => ?_⟩))
      refine ok_attempt ((ok_beginResponse approval decision held).mono
        fun begun later hbegun => ?_)
      refine ⟨fun _ _ => trivial, fun _ hok => ?_⟩
      obtain ⟨hgrown, hdecided⟩ := hbegun hok
      have hsend := approvalOutline_respond (hgrown _ (hfound found rfl)) hdecided
      refine ok_attempt (Outline.Stays.ok (callHarness_all approvalOutline_quiet
        hsend (fun _ _ => approvalOutline_keeps rfl) (approvalOutline_keeps rfl)) fun _ =>
          ⟨fun _ _ => trivial, fun _ _ => ?_⟩)
      refine ok_attempt (Outline.Ok.act ((approvalOutline_keeps rfl).step fun _ =>
        ⟨fun _ _ => trivial, fun _ _ => ?_⟩))
      refine ok_act ((approvalOutline_keeps rfl).step fun _ => Outline.Ok.bind ?_)
      exact (approvalOutline_quiet.publish _ _).ok fun _ => trivial

/-! ## The consumer -/

/-- An approval is opened with the request it was recorded for. -/
theorem applyApprovalRequested_stays {run : RunId} {request : ProviderRequestRef}
    {known : Knowledge} (hasked : known (.asked run request)) (item : WorkItemId)
    (summary : String) :
    approvalOutline.Stays supervisor anyStep known
      (applyApprovalRequested run item request summary) := by
  unfold applyApprovalRequested
  cases hprovider : requestProviderId request with
  | error error => exact Outline.Stays.done _
  | ok provider =>
      refine ok_attempt (Outline.Ok.act
        ((approvalOutline_record run provider summary known).mono ?_))
      rintro result _ rfl
      refine ⟨fun error herror => ?_, fun snapshot hsnapshot => ?_⟩
      · funext fact
        simp [herror]
      · refine ok_act ((approvalOutline_insertApproval hprovider (.inl hasked)
          (.inr ⟨snapshot, hsnapshot, rfl⟩) fun _ => .inl).mono ?_)
        rintro _ _ rfl
        exact (approvalOutline_quiet.publish _ _).bind fun _ => Outline.Stays.done _

theorem ok_consumerTurn {run : RunId} {item : WorkItemId} {provider : ProviderRunRef}
    {channel : ChannelId} {deltas : DeltaBuffer} {known : Knowledge}
    {Q : Unit → Knowledge → Prop} (hQ : ∀ result held, Q result held) :
    approvalOutline.Ok supervisor anyStep Q (consumeRun run item provider channel deltas)
      known := by
  have hend : ∀ held, approvalOutline.Ok supervisor anyStep Q (finishConsumer run channel) held :=
    fun held => ok_act ((approvalOutline_keeps rfl).step fun _ =>
      Outline.Ok.act ((approvalOutline_keeps rfl).step fun _ => hQ _ _))
  refine ok_act ((approvalOutline_receive run channel known).mono fun received held hasked => ?_)
  cases received with
  | none => exact hend held
  | some event =>
      have hrows : AppliesRows (fun program =>
          approvalOutline.Stays supervisor anyStep held program) run channel := by
        constructor <;> (intros; exact approvalOutline_keeps rfl)
      have happly := applyEvent_of approvalOutline_quiet hrows item provider deltas event
        fun request summary hevent =>
          applyApprovalRequested_stays (hasked request summary (hevent ▸ rfl)) item summary
      refine Outline.Ok.bind (Outline.Stays.ok happly fun result => ?_)
      cases result with
      | error error =>
          refine Outline.Ok.bind (Outline.Stays.ok (consumptionFailed_all approvalOutline_quiet item
            fun _ _ => approvalOutline_keeps rfl) fun _ => ?_)
          exact hend held
      | ok deltas =>
          dsimp only
          split
          · exact hend held
          · exact Outline.Ok.invoke hQ

/-! ## The functions that restore -/

omit [Sha256] in
theorem known_addApproval {run : RunId} {provider : ProviderRunRef} {known : Knowledge}
    {restored : RestoredRequests run} {approval : ApprovalRequestId} {id : NamespacedProviderId}
    (h : restored.Known provider known) (hrecorded : known (.recorded approval run id)) :
    (restored.addApproval approval ⟨provider, id.value⟩).Known provider known where
  answers := h.answers
  requests other request hfound := by
    change Dict.find (Dict.set restored.approvals approval _) other = some request at hfound
    rcases Dict.find_set_eq_some.mp hfound with ⟨rfl, rfl⟩ | ⟨_, hold⟩
    · exact ⟨id, hrecorded, rfl⟩
    · exact h.requests other request hold

omit [Sha256] in
theorem known_restoreApproval {run : RunId} {provider : ProviderRunRef} {known : Knowledge}
    {restored : RestoredRequests run} {snapshot : ApprovalSnapshot}
    (h : restored.Known provider known)
    (hrecorded : known (.recorded snapshot.id run snapshot.providerId))
    (hdecided : ∀ decision, snapshot.status = .responding decision →
      known (.decided snapshot.id decision)) :
    (restoreApproval provider restored snapshot).Known provider known := by
  have hadded := known_addApproval h hrecorded
  unfold restoreApproval
  dsimp only
  split
  · exact hadded
  · next decision hstatus =>
      refine ⟨fun approval taken hfound => ?_, hadded.requests⟩
      change Dict.find (Dict.set restored.approvalResponses snapshot.id decision) approval =
        some taken at hfound
      rcases Dict.find_set_eq_some.mp hfound with ⟨rfl, rfl⟩ | ⟨_, hold⟩
      · exact hdecided decision hstatus
      · exact h.answers approval taken hold
  · exact h

omit [Sha256] in
theorem known_restoreApprovals {run : RunId} {provider : ProviderRunRef} {known : Knowledge}
    {approvals : List ApprovalSnapshot} {restored : RestoredRequests run}
    (h : restored.Known provider known)
    (hlisted : ∀ snapshot ∈ approvals, known (.recorded snapshot.id run snapshot.providerId) ∧
      ∀ decision, snapshot.status = .responding decision →
        known (.decided snapshot.id decision)) :
    (approvals.foldl (restoreApproval provider) restored).Known provider known := by
  induction approvals generalizing restored with
  | nil => exact h
  | cons snapshot rest ih =>
      obtain ⟨hrecorded, hdecided⟩ := hlisted snapshot List.mem_cons_self
      refine ih (known_restoreApproval h hrecorded hdecided) ?_
      exact fun other hmem => hlisted other (List.mem_cons_of_mem _ hmem)

omit [Sha256] in
theorem known_restoreUserInputs {run : RunId} {provider : ProviderRunRef} {known : Knowledge}
    {requests : List PendingUserInputSnapshot} {restored : RestoredRequests run}
    (h : restored.Known provider known) :
    (requests.foldl (restoreUserInput provider) restored).Known provider known := by
  induction requests generalizing restored with
  | nil => exact h
  | cons request rest ih => exact ih ⟨h.answers, h.requests⟩

theorem ok_loadApprovals {run : RunSnapshot} {provider : ProviderRunRef}
    {after : Option ApprovalRequestId} {restored : RestoredRequests run.id} {known : Knowledge}
    {Q : Except StoreError (RestoredRequests run.id) → Knowledge → Prop}
    (hQ : ∀ result held, (restored.Known provider known → ∀ loaded, result = .ok loaded →
      loaded.Known provider held) → Q result held) :
    approvalOutline.Ok supervisor anyStep Q (loadApprovals run provider after restored) known := by
  refine ok_attempt (Outline.Ok.act ((approvalOutline_list run.id after known).mono ?_))
  rintro result held ⟨hgrown, hlisted⟩
  refine ⟨fun error _ => hQ _ _ fun _ _ h => (by cases h), fun page hpage => ?_⟩
  have hknown : restored.Known provider known →
      (page.items.foldl (restoreApproval provider) restored).Known provider held :=
    fun hrestored => known_restoreApprovals (hrestored.mono hgrown) (hlisted page hpage)
  dsimp only
  split
  · exact Outline.Ok.invoke fun result later hlater =>
      hQ result later fun hrestored => hlater (hknown hrestored)
  · refine hQ _ _ fun hrestored loaded hloaded => ?_
    cases hloaded
    exact hknown hrestored

theorem ok_loadUserInputs {run : RunSnapshot} {provider : ProviderRunRef}
    {after : Option TimelineItemId} {restored : RestoredRequests run.id} {known : Knowledge}
    {Q : Except StoreError (RestoredRequests run.id) → Knowledge → Prop}
    (hQ : ∀ result held, (restored.Known provider known → ∀ loaded, result = .ok loaded →
      loaded.Known provider held) → Q result held) :
    approvalOutline.Ok supervisor anyStep Q (loadUserInputs run provider after restored) known := by
  refine ok_attempt (Outline.Ok.act ((approvalOutline_keeps rfl).step fun result => ?_))
  refine ⟨fun error _ => hQ _ _ fun _ _ h => (by cases h), fun page hpage => ?_⟩
  dsimp only
  split
  · exact Outline.Ok.invoke fun result later hlater =>
      hQ result later fun hrestored => hlater (known_restoreUserInputs hrestored)
  · refine hQ _ _ fun hrestored loaded hloaded => ?_
    cases hloaded
    exact known_restoreUserInputs hrestored

theorem ok_prepareStartupReattach (run : RunSnapshot) (provider : ProviderRunRef)
    {known : Knowledge} {Q : Except RunOrchestrationError StartupRunReattach → Knowledge → Prop}
    (hQ : ∀ result held, Q result held) :
    approvalOutline.Ok supervisor anyStep Q (prepareStartupReattach run provider) known := by
  have hload : approvalOutline.Ok supervisor anyStep
      (fun result held => ∀ restored, result = .ok restored → restored.Known provider held)
      (loadRequests run provider) known := by
    refine ok_attempt (Outline.Ok.invoke fun result held hresult => ?_)
    refine ⟨fun _ _ _ h => (by cases h), fun restored hok => ?_⟩
    refine Outline.Ok.invoke fun result later hlater => hlater ?_
    refine hresult ⟨fun _ _ hfound => ?_, fun _ _ hfound => ?_⟩ restored hok
    all_goals cases hfound
  refine Outline.Ok.bind (hload.mono fun result held hresult => ?_)
  cases result with
  | error error =>
      dsimp only
      split
      · refine Outline.Ok.bind (Outline.Stays.ok (transition_all approvalOutline_quiet
          (approvalOutline_keeps rfl)) fun _ => ?_)
        exact hQ _ _
      · exact hQ _ _
  | ok restored =>
      refine ok_act ((approvalOutline_prepareRoute (hresult restored rfl) _).step
        fun receiver => ?_)
      dsimp only
      split
      · refine ok_act ((approvalOutline_keeps rfl).step fun moved => ?_)
        cases moved with
        | ok run => exact hQ _ _
        | error error =>
            refine ok_act ((approvalOutline_keeps rfl).step fun _ => ?_)
            exact ok_act ((approvalOutline_keeps rfl).step fun _ => hQ _ _)
      · exact hQ _ _

theorem activateStartupReattach_stays (plan : StartupRunReattach) {known : Knowledge} :
    approvalOutline.Stays supervisor anyStep known (activateStartupReattach plan) :=
  activateStartupReattach_all approvalOutline_quiet (approvalOutline_keeps rfl)
    (approvalOutline_keeps rfl) (approvalOutline_keeps rfl)
    (deliverUncertainStartEvents_all approvalOutline_quiet (approvalOutline_keeps rfl)
      (approvalOutline_keeps rfl) (fun _ _ => approvalOutline_keeps rfl)
      (fun _ => approvalOutline_keeps rfl) (approvalOutline_keeps rfl)
      fun _ _ => approvalOutline_keeps rfl)

theorem ok_reconcileRun (run : RunId) (known : Knowledge) :
    approvalOutline.Ok supervisor anyStep (fun _ _ => True) (reconcileRun run) known := by
  refine ok_attempt (Outline.Ok.act ((approvalOutline_keeps rfl).step fun _ =>
    ⟨fun _ _ => trivial, fun _ _ => ?_⟩))
  refine ok_attempt (Outline.Ok.act ((approvalOutline_keeps rfl).step fun _ =>
    ⟨fun _ _ => trivial, fun snapshot _ => ?_⟩))
  refine ok_attempt (Outline.Stays.ok ?_ fun _ => ⟨fun _ _ => trivial, fun provider _ => ?_⟩)
  · split
    · exact Outline.Stays.done _
    · refine approvalOutline_quiet.attempt (approvalOutline_keeps rfl) fun found => ?_
      cases found <;> exact Outline.Stays.done _
  · refine ok_attempt (Outline.Ok.act ((approvalOutline_keeps rfl).step fun _ =>
      ⟨fun _ _ => trivial, fun canReconnect _ => ?_⟩))
    cases canReconnect with
    | false => exact trivial
    | true =>
        refine ok_act ((approvalOutline_keeps rfl).step fun attached => ?_)
        cases attached with
        | true => exact ok_act ((approvalOutline_keeps rfl).step fun _ => trivial)
        | false =>
            refine ok_attempt (ok_prepareStartupReattach snapshot provider fun result held =>
              ⟨fun _ _ => trivial, fun plan _ => ?_⟩)
            exact Outline.Ok.bind ((activateStartupReattach_stays plan).ok fun _ => trivial)

theorem removePrepared_stays (prepared : List StartupRunReattach) {known : Knowledge} :
    approvalOutline.Stays supervisor anyStep known (removePrepared prepared) :=
  removePrepared_all approvalOutline_quiet (fun _ _ => approvalOutline_keeps rfl) fun _ _ =>
    approvalOutline_keeps rfl

theorem ok_reconcilePage (runs : List RunSnapshot) (prepared : List StartupRunReattach)
    {known : Knowledge}
    {Q : Except RunOrchestrationError (List StartupRunReattach) → Knowledge → Prop}
    (hQ : ∀ result held, Q result held) :
    approvalOutline.Ok supervisor anyStep Q (reconcilePage runs prepared) known := by
  have hremove : ∀ {known : Knowledge} (prepared : List StartupRunReattach)
      (error : RunOrchestrationError), approvalOutline.Ok supervisor anyStep Q
        (removePrepared prepared >>= fun _ => return .error error) known := fun prepared _ =>
    Outline.Ok.bind ((removePrepared_stays prepared).ok fun _ => hQ _ _)
  induction runs generalizing prepared known with
  | nil => exact hQ _ _
  | cons run rest ih =>
      have hmove : ∀ {known : Knowledge}, approvalOutline.Ok supervisor anyStep
          (fun _ _ => True) (transitionIfActive run) known := fun {held} =>
        Outline.Stays.ok (transitionIfActive_all approvalOutline_quiet run
          fun _ => approvalOutline_keeps rfl) fun _ => trivial
      unfold reconcilePage
      split
      · refine Outline.Ok.bind (hmove.mono fun moved held _ => ?_)
        cases moved with
        | ok _ => exact ih prepared
        | error error =>
            refine Outline.Ok.bind (Outline.Stays.ok (approvalOutline_quiet.forEach
              (fun plan => ?_) _) fun _ => hQ _ _)
            exact approvalOutline_keeps rfl
      · refine ok_act ((approvalOutline_keeps rfl).step fun answer => ?_)
        split
        · refine Outline.Ok.bind (ok_prepareStartupReattach run _ fun plan held => ?_)
          cases plan with
          | ok plan => exact ih _
          | error error => exact hremove prepared _
        · refine Outline.Ok.bind (hmove.mono fun moved held _ => ?_)
          cases moved with
          | ok _ => exact ih prepared
          | error error => exact hremove prepared _

theorem ok_reconcilePages (after : Option RunId) (prepared : List StartupRunReattach)
    {known : Knowledge} {Q : Except RunOrchestrationError Unit → Knowledge → Prop}
    (hQ : ∀ result held, Q result held) :
    approvalOutline.Ok supervisor anyStep Q (reconcilePages after prepared) known := by
  refine ok_act ((approvalOutline_keeps rfl).step fun listed => ?_)
  cases listed with
  | error error =>
      exact Outline.Ok.bind ((removePrepared_stays prepared).ok fun _ => hQ _ _)
  | ok page =>
      refine ok_attempt (ok_reconcilePage page.items prepared fun result held => ?_)
      refine ⟨fun _ _ => hQ _ _, fun prepared _ => ?_⟩
      cases page.nextAfter with
      | some after => exact Outline.Ok.invoke hQ
      | none =>
          exact Outline.Ok.bind (Outline.Stays.ok (approvalOutline_quiet.forEach
            (fun plan => activateStartupReattach_stays plan) _) fun _ => hQ _ _)

/-! ## Every interleaving -/

theorem approvalOutline_sound : approvalOutline.Sound supervisor anyStep := by
  have hstarts : ∀ known, Starts fun program =>
      approvalOutline.Stays supervisor anyStep known program := by
    intro known
    have hattaches : Attaches fun program =>
        approvalOutline.Stays supervisor anyStep known program := by
      constructor <;> (intros; exact approvalOutline_keeps rfl)
    refine { toAttaches := hattaches, create := ?_, start := ?_, lock := ?_, unlock := ?_
             workItem := ?_, begin := ?_, finish := ?_, retain := ?_ }
    all_goals (intros; exact approvalOutline_keeps rfl)
  intro β proc known Q hspec
  cases proc with
  | startup =>
      refine Outline.Ok.bind (Outline.Ok.invoke fun result held => ?_)
      cases result <;> exact Outline.Ok.act ((approvalOutline_keeps rfl).step fun _ => hspec _ _)
  | reconcilePages after prepared => exact ok_reconcilePages after prepared hspec
  | loadApprovals run provider after restored => exact ok_loadApprovals hspec
  | loadUserInputs run provider after restored => exact ok_loadUserInputs hspec
  | runEventPump =>
      refine Outline.Stays.ok (runEventPump_all approvalOutline_quiet (approvalOutline_keeps rfl)
        (fun event => ?_) (fun operation => ?_) (Outline.Stays.invoke rfl)) fun _ => hspec
      · exact routeEvent_all approvalOutline_quiet (fun _ => approvalOutline_keeps rfl)
          (fun _ => approvalOutline_keeps rfl) fun _ _ _ => approvalOutline_keeps rfl
      · exact handlePumpFailure_all approvalOutline_quiet (approvalOutline_keeps rfl)
          (approvalOutline_keeps rfl) fun _ _ _ => approvalOutline_keeps rfl
  | consumeRun run item provider channel deltas =>
      exact ok_consumerTurn hspec
  | startRun item connection input =>
      exact Outline.Ok.bind (Outline.Stays.ok
        (startRun_all approvalOutline_quiet (hstarts known) item connection input)
        fun _ => hspec _ _)
  | steer run input =>
      exact Outline.Ok.bind (Outline.Stays.ok (requestRun_all approvalOutline_quiet
        (.steer · input) (fun _ => approvalOutline_keeps rfl) (fun _ _ => approvalOutline_keeps rfl)
        (approvalOutline_keeps rfl)) fun _ => hspec _ _)
  | interrupt run =>
      exact Outline.Ok.bind (Outline.Stays.ok (requestRun_all approvalOutline_quiet
        .interrupt (fun _ => approvalOutline_keeps rfl) (fun _ _ => approvalOutline_keeps rfl)
        (approvalOutline_keeps rfl)) fun _ => hspec _ _)
  | resolveApproval approval decision =>
      exact Outline.Ok.bind ((ok_resolveApproval approval decision known).mono
        fun _ held _ => hspec () held)
  | respondUserInput input response =>
      exact Outline.Ok.bind (Outline.Stays.ok (respondUserInput_all approvalOutline_quiet
        (fun _ => approvalOutline_keeps rfl) (fun _ _ _ => approvalOutline_keeps rfl)
        (fun _ => approvalOutline_keeps rfl) (fun _ _ _ _ _ _ => approvalOutline_keeps rfl)
        (approvalOutline_keeps rfl)) fun _ => hspec _ _)
  | reconcileRun run =>
      exact Outline.Ok.bind ((ok_reconcileRun run known).mono fun _ held _ => hspec () held)

omit [Sha256] in
theorem approvalOutline_open : approvalOutline.Open Proc.isRequest := by
  intro proc world tokens _ hvalid
  refine ⟨Knowledge.none, approvalSpec_of_all fun _ _ => trivial, hvalid.1, ?_⟩
  intro known hmem
  rcases List.mem_cons.mp hmem with rfl | hmem
  · exact fun _ hfact => hfact.elim
  · exact hvalid.2 known hmem

theorem approvalOutline_starting {db : Database} (hdb : db.Sound) (issued : List Uuid) :
    approvalOutline.Holds supervisor anyStep (newSupervisor db issued) := by
  have hspec : approvalSpec .startup Knowledge.none fun _ _ => True :=
    approvalSpec_of_all fun _ _ => trivial
  refine ⟨[Knowledge.none], .cons (Outline.Ok.invoke hspec) .nil, ⟨hdb, ?_, ?_, ?_⟩, ?_⟩
  · intro approval decision hfound
    cases hfound
  · intro approval run request hfound
    cases hfound
  · intro request about decision hmem
    cases hmem
  · intro known hmem
    cases List.mem_singleton.mp hmem
    exact fun _ hfact => hfact.elim

variable {db : Database} {issued : List Uuid} {config : Config Act Proc World}

theorem writeAhead_of_reach (hdb : db.Sound)
    (h : Machine.Reach supervisor anyStep Proc.isRequest (newSupervisor db issued) config) :
    WriteAhead config.world := by
  obtain ⟨_, _, hvalid⟩ := Outline.sound approvalOutline_sound approvalOutline_open
    (approvalOutline_starting hdb issued) h
  exact hvalid.1

/-- A decision is durable before it is sent: the harness may answer at once,
and its report would already be backed by the store. -/
theorem sent_of_sending (hdb : db.Sound)
    (h : Machine.Reach supervisor anyStep Proc.isRequest (newSupervisor db issued) config) {i : Nat}
    {request : ProviderRequestRef} {decision : ApprovalDecision} {about : Option ApprovalRequestId}
    {next : Except HarnessPortError Unit → Sup Unit}
    (htask : config.tasks[i]? =
      some (.perform (.harness (.respond request (.approval decision) about)) next)) :
    Sent config.world.db config.world.log request about decision := by
  have hstep : supervisor.step i (.acknowledged (.ok ())) config =
      some ⟨config.world.note (.responded request about decision),
        config.tasks.set i (next (.ok ())) ++ [].map Prog.invoke⟩ := by
    unfold Machine.step
    rw [htask]
    rfl
  have hafter := writeAhead_of_reach hdb (h.step i _ (by
    unfold Config.Allows
    rw [htask]
    trivial) hstep)
  obtain ⟨approval, habout, hrequest, hdecided⟩ :=
    hafter.sent request about decision (by simp [World.note])
  exact ⟨approval, habout, hrequest.of_responded, hdecided⟩

/-- The databases that one supervisor leaves to the next, with all that was
sent so far. A supervisor may stop at any moment. -/
inductive Lifetime : Database → List Obs → Prop
  | installed : Lifetime Database.empty []
  | served {db : Database} {log : List Obs} (calls : List Call) (before : Lifetime db log) :
      Lifetime (db.afterAll calls) log
  | stopped {db : Database} {log : List Obs} {issued : List Uuid} {config : Config Act Proc World}
      (before : Lifetime db log)
      (run : Machine.Reach supervisor anyStep Proc.isRequest (newSupervisor db issued) config) :
      Lifetime config.world.db (log ++ config.world.log)

theorem Sent.reach {log : List Obs} {request : ProviderRequestRef}
    {about : Option ApprovalRequestId} {decision : ApprovalDecision}
    (hsent : Sent db log request about decision)
    (h : Machine.Reach supervisor anyStep Proc.isRequest (newSupervisor db issued) config) :
    Sent config.world.db log request about decision :=
  Machine.Reach.invariant (P := fun world => Sent world.db log request about decision) hsent
    (fun _ _ _ _ _ _ _ hworld _ hexec => by
      obtain ⟨now, hchange⟩ := Act.change (Act.effect_of_exec hexec)
      exact hworld.change hchange (List.Subset.refl _)) h

/-- Over any number of supervisors, whatever was sent is what the store has. -/
theorem Lifetime.sent {log : List Obs} (h : Lifetime db log) :
    db.Sound ∧ ∀ request about decision, Obs.responded request about decision ∈ log →
      Sent db log request about decision := by
  induction h with
  | installed => exact ⟨.empty, fun _ _ _ hmem => (by cases hmem)⟩
  | @served _ log calls _ ih =>
      refine ⟨ih.1.afterAll calls, fun request about decision hmem => ?_⟩
      exact Database.afterAll_induction (P := fun db => Sent db log request about decision)
        (fun hdb hchange => hdb.change hchange (List.Subset.refl _)) (ih.2 _ _ _ hmem) calls
  | stopped _ run ih =>
      have hworld := writeAhead_of_reach ih.1 run
      refine ⟨hworld.sound, fun request about decision hmem => ?_⟩
      rcases List.mem_append.mp hmem with hmem | hmem
      · exact ((ih.2 _ _ _ hmem).reach run).mono (List.subset_append_left _ _)
      · exact Sent.mono (hworld.sent _ _ _ hmem) (List.subset_append_right _ _)

/-- Over any number of restarts and under any interleaving: whenever a decision
is about to be sent, it answers the request of an approval for which the store
already has it; and all that was ever sent for an approval answers the approval's
own request with the one decision the store has. -/
theorem response_writeAhead {log : List Obs} (hlife : Lifetime db log)
    (h : Machine.Reach supervisor anyStep Proc.isRequest (newSupervisor db issued) config) :
    (∀ (i : Nat) (request : ProviderRequestRef) (decision : ApprovalDecision)
      (about : Option ApprovalRequestId) (next : Except HarnessPortError Unit → Sup Unit),
      config.tasks[i]? =
          some (.perform (.harness (.respond request (.approval decision) about)) next) →
        ∃ approval, about = some approval ∧
          RequestOf config.world.db config.world.log approval request ∧
          config.world.db.Decided approval decision) ∧
    (∀ request about decision, Obs.responded request about decision ∈ log ++ config.world.log →
      ∃ approval, about = some approval ∧
        RequestOf config.world.db (log ++ config.world.log) approval request ∧
        config.world.db.Decided approval decision) ∧
    ∀ approval request request' decision decision',
      Obs.responded request (some approval) decision ∈ log ++ config.world.log →
      Obs.responded request' (some approval) decision' ∈ log ++ config.world.log →
      decision = decision' := by
  have hsent := (hlife.stopped h).sent.2
  refine ⟨fun i request decision about next htask => ?_, hsent, ?_⟩
  · exact sent_of_sending hlife.sent.1 h htask
  · intro approval request request' decision decision' hmem hmem'
    obtain ⟨_, hsome, _, hdecided⟩ := hsent _ _ _ hmem
    obtain ⟨_, hsome', _, hdecided'⟩ := hsent _ _ _ hmem'
    cases hsome
    cases hsome'
    exact hdecided.unique hdecided'

end Steps

/-! ## A run that answers -/

/-- The harness asks for an approval and is sent the answer. -/
def Schedule.approvalAnswered : List (Machine.Move Proc Oracle) :=
  Schedule.started ++
    [.step 2 (.event (.ok (some (.approvalRequested ⟨sampleRun, "request"⟩ "summary")))),
      .step 2 (.runOrder []), Schedule.run 3, Schedule.run 3, .step 3 (.commandOrder []),
      Schedule.store 3 20, Schedule.run 3, Schedule.store 3 21, Schedule.run 3,
      .spawn (.resolveApproval ⟨sampleUuid 20⟩ .approved), Schedule.run 4, Schedule.run 4,
      Schedule.run 4, Schedule.run 4, Schedule.run 4, Schedule.store 4 22, Schedule.run 4,
      .step 4 (.acknowledged (.ok ()))]

set_option maxRecDepth 100000 in
theorem approvalAnswered_writeAhead :
    ∃ config, Lifetime oneItem [] ∧ Machine.Reach supervisor anyStep Proc.isRequest
        (newSupervisor oneItem oneItemIssued) config ∧
      Obs.responded ⟨sampleRun, "request"⟩ (some ⟨sampleUuid 20⟩) .approved ∈ config.world.log ∧
      RequestOf config.world.db config.world.log ⟨sampleUuid 20⟩ ⟨sampleRun, "request"⟩ ∧
      config.world.db.Decided ⟨sampleUuid 20⟩ .approved := by
  have hlife : Lifetime oneItem [] := oneItem_eq ▸ .served _ .installed
  obtain ⟨config, hreach, hcheck⟩ := supervisor_reaches oneItem oneItemIssued
    (fun _ _ _ _ => true) (fun _ _ _ _ _ => trivial) Schedule.approvalAnswered
    (fun config => Obs.responded ⟨sampleRun, "request"⟩ (some ⟨sampleUuid 20⟩) .approved ∈
      config.world.log) (by decide +kernel)
  have hsent := of_decide_eq_true hcheck
  obtain ⟨approval, hsome, hrequest, hdecided⟩ :=
    (response_writeAhead hlife hreach).2.1 _ _ _ hsent
  cases hsome
  exact ⟨config, hlife, hreach, hsent, hrequest, hdecided⟩

end YakShed
