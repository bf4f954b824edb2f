/-
# The maps of the state

`Represents` is the shape the thirteen fields of the state are meant to keep
together. Every critical section keeps it except the ones that extend an entry
after an await: another task may have closed the run meanwhile. `ExtendsLive`
says of a step that it does not come too late.
-/

import YakShed.Store.Digest
import YakShed.Supervisor.Effects

namespace YakShed

open Concurrent

namespace State

/-- The representation invariant of the supervisor's state. -/
structure Represents (state : State) : Prop where
  inverse : ∀ run provider, state.runs.find run = some provider ↔
    state.runsByProvider.find provider = some run
  routes : ∀ provider, (state.routes.find provider).isSome =
    (state.runsByProvider.find provider).isSome
  workItems : ∀ run, (state.runs.find run).isSome → (state.workItems.find run).isSome
  approvals : ∀ id request, state.approvals.find id = some request →
    (state.runs.find request.1).isSome
  userInputs : ∀ id request, state.userInputs.find id = some request →
    (state.runs.find request.1).isSome
  responses : ∀ id, (state.approvalResponses.find id).isSome → (state.approvals.find id).isSome

/-- The run has no other provider run and the provider run no other run. -/
def Unclaimed (state : State) (run : RunId) (provider : ProviderRunRef) : Prop :=
  (∀ other, state.runs.find run = some other → other = provider) ∧
    ∀ other, state.runsByProvider.find provider = some other → other = run

theorem Represents.initial : Represents {} where
  inverse := by simp
  routes := by simp
  workItems := by simp
  approvals := by simp
  userInputs := by simp
  responses := by simp

variable {state : State} {run : RunId} {provider : ProviderRunRef}

/-- Binding a run to a provider run keeps the two maps inverse. -/
theorem Represents.bind_inverse (h : state.Represents) (hfree : state.Unclaimed run provider)
    (run' : RunId) (provider' : ProviderRunRef) :
    (state.runs.set run provider).find run' = some provider' ↔
      (state.runsByProvider.set provider run).find provider' = some run' := by
  rw [Dict.find_set, Dict.find_set]
  by_cases hrun : run' = run
  · subst hrun
    by_cases hprovider : provider' = provider
    · simp [hprovider]
    · rw [if_pos rfl, if_neg hprovider]
      refine ⟨fun heq => absurd (Option.some.inj heq).symm hprovider, fun hfound => ?_⟩
      exact absurd (hfree.1 provider' ((h.inverse _ _).mpr hfound)) hprovider
  · rw [if_neg hrun]
    by_cases hprovider : provider' = provider
    · subst hprovider
      rw [if_pos rfl]
      refine ⟨fun hfound => ?_, fun heq => absurd (Option.some.inj heq).symm hrun⟩
      exact absurd (hfree.2 run' ((h.inverse _ _).mp hfound)) hrun
    · rw [if_neg hprovider]
      exact h.inverse run' provider'

theorem Represents.bind_routes (h : state.Represents) (channel : ChannelId)
    (provider' : ProviderRunRef) :
    ((state.routes.set provider channel).find provider').isSome =
      ((state.runsByProvider.set provider run).find provider').isSome := by
  rw [Dict.find_set, Dict.find_set]
  split
  · rfl
  · exact h.routes provider'

theorem isSome_find_set {K V : Type} [DecidableEq K] {d : Dict K V} {k k' : K} {v : V}
    (h : (d.find k').isSome) : ((d.set k v).find k').isSome := by
  rw [Dict.find_set]
  split
  · rfl
  · exact h

theorem Represents.publishStart (h : state.Represents) (channel : ChannelId)
    (hfree : state.Unclaimed run provider) (hitem : (state.workItems.find run).isSome) :
    (state.publishStart run provider channel).2.Represents where
  inverse := h.bind_inverse hfree
  routes := h.bind_routes channel
  workItems := by
    intro other hother
    rw [State.publishStart, Dict.find_set] at hother
    split at hother
    · next heq => exact heq ▸ hitem
    · exact h.workItems other hother
  approvals := fun id request hfound => isSome_find_set (h.approvals id request hfound)
  userInputs := fun id request hfound => isSome_find_set (h.userInputs id request hfound)
  responses := h.responses

theorem Represents.prepareRoute (h : state.Represents) (item : WorkItemId) (channel : ChannelId)
    (restored : RestoredRequests run) (hfree : state.Unclaimed run provider) :
    (state.prepareRoute run item provider channel restored).Represents where
  inverse := h.bind_inverse hfree
  routes := h.bind_routes channel
  workItems := by
    intro other hother
    rw [State.prepareRoute, Dict.find_set] at hother ⊢
    split at hother
    · next heq => rw [if_pos heq]; rfl
    · next hne => rw [if_neg hne]; exact h.workItems other hother
  approvals := by
    intro id request hfound
    rw [State.prepareRoute] at hfound
    rcases Dict.find_extend_eq_some.mp hfound with hnew | ⟨_, hold⟩
    · rw [restored.approvals_run id _ hnew]
      simp [State.prepareRoute]
    · exact isSome_find_set (h.approvals id request hold)
  userInputs := by
    intro id request hfound
    rw [State.prepareRoute] at hfound
    rcases Dict.find_extend_eq_some.mp hfound with hnew | ⟨_, hold⟩
    · rw [restored.userInputs_run id _ hnew]
      simp [State.prepareRoute]
    · exact isSome_find_set (h.userInputs id request hold)
  responses := by
    intro id hfound
    rw [State.prepareRoute, Dict.find_extend, Option.isSome_or] at hfound ⊢
    rw [Bool.or_eq_true] at hfound ⊢
    exact hfound.imp (restored.responses_open id) (h.responses id)

/-- Taking a run out together with the provider run it is bound to. -/
theorem Represents.detach {state' : State} (h : state.Represents)
    (hruns : state'.runs = state.runs.remove run)
    (hproviders : ∀ provider, state'.runsByProvider.find provider =
      if state.runs.find run = some provider then none else state.runsByProvider.find provider)
    (hroutes : ∀ provider, state'.routes.find provider =
      if state.runs.find run = some provider then none else state.routes.find provider)
    (hitems : state'.workItems = state.workItems.remove run)
    (happrovals : state'.approvals = (state.dropRequests run).approvals)
    (hinputs : state'.userInputs = (state.dropRequests run).userInputs)
    (hresponses : state'.approvalResponses = (state.dropRequests run).approvalResponses) :
    state'.Represents := by
  refine
    { inverse := ?_, routes := ?_, workItems := ?_, approvals := ?_, userInputs := ?_
      responses := ?_ }
  · intro other provider
    rw [hruns, hproviders, Dict.find_remove]
    constructor
    · intro hfound
      split at hfound
      · cases hfound
      · next hne =>
          have hback := (h.inverse other provider).mp hfound
          rw [if_neg, hback]
          intro hrun
          exact hne (Option.some.inj (hback.symm.trans ((h.inverse run provider).mp hrun)))
    · intro hback
      split at hback
      · cases hback
      · next hne =>
          have hfound := (h.inverse other provider).mpr hback
          rw [if_neg, hfound]
          rintro rfl
          exact hne hfound
  · intro provider
    rw [hroutes, hproviders]
    split
    · rfl
    · exact h.routes provider
  · intro other hfound
    rw [hruns, Dict.find_remove] at hfound
    rw [hitems, Dict.find_remove]
    split at hfound
    · cases hfound
    · next hne => rw [if_neg hne]; exact h.workItems other hfound
  · intro id request hfound
    rw [happrovals, dropRequests, Dict.find_retain_eq_some] at hfound
    rw [hruns, Dict.find_remove_ne (by simpa using hfound.2)]
    exact h.approvals id request hfound.1
  · intro id request hfound
    rw [hinputs, dropRequests, Dict.find_retain_eq_some] at hfound
    rw [hruns, Dict.find_remove_ne (by simpa using hfound.2)]
    exact h.userInputs id request hfound.1
  · intro id hfound
    obtain ⟨decision, hdecision⟩ := Option.isSome_iff_exists.mp hfound
    rw [hresponses, dropRequests, Dict.find_retain_eq_some] at hdecision
    rw [happrovals]
    exact hdecision.2

/-- The run is still bound to the provider run, or neither is bound. -/
def StillBound (state : State) (run : RunId) (provider : ProviderRunRef) : Prop :=
  state.runs.find run = some provider ∨
    state.runs.find run = none ∧ state.runsByProvider.find provider = none

theorem Represents.removeRouteState (h : state.Represents)
    (hbound : state.StillBound run provider) :
    (state.removeRouteState run provider).Represents := by
  have hsame : ∀ other, state.runs.find run = some other → other = provider := by
    rintro other hother
    rcases hbound with hbound | ⟨hnone, _⟩
    · exact Option.some.inj (hother.symm.trans hbound)
    · rw [hnone] at hother
      cases hother
  have hgone : ∀ other, ¬ state.runs.find run = some other → other = provider →
      state.runsByProvider.find other = none ∧ state.routes.find other = none := by
    rintro other hother rfl
    obtain ⟨_, hnone⟩ := hbound.resolve_left hother
    have hroute := h.routes other
    rw [hnone, Option.isSome_none, Option.isSome_eq_false_iff, Option.isNone_iff_eq_none] at hroute
    exact ⟨hnone, hroute⟩
  refine h.detach rfl (fun other => ?_) (fun other => ?_) rfl rfl rfl rfl
  · rw [State.removeRouteState, Dict.find_remove]
    by_cases hother : state.runs.find run = some other
    · rw [if_pos (hsame other hother), if_pos hother]
    · rw [if_neg hother]
      split
      · next heq => rw [(hgone other hother heq).1]
      · rfl
  · rw [State.removeRouteState, Dict.find_remove]
    by_cases hother : state.runs.find run = some other
    · rw [if_pos (hsame other hother), if_pos hother]
    · rw [if_neg hother]
      split
      · next heq => rw [(hgone other hother heq).2]
      · rfl

/-- `close_run` looks the provider run up itself. -/
theorem Represents.closeRun (h : state.Represents) (run : RunId) :
    (state.closeRun run).Represents := by
  refine State.Represents.detach h rfl (fun other => ?_) (fun other => ?_) rfl rfl rfl rfl
  · cases hprovider : state.runs.find run with
    | some provider => simp [State.closeRun, hprovider, Dict.find_remove, eq_comm]
    | none => simp [State.closeRun, hprovider]
  · cases hprovider : state.runs.find run with
    | some provider => simp [State.closeRun, hprovider, Dict.find_remove, eq_comm]
    | none => simp [State.closeRun, hprovider]

theorem Represents.insertApproval (h : state.Represents) (id : ApprovalRequestId)
    (request : ProviderRequestRef) (hrun : (state.runs.find run).isSome) :
    { state with approvals := state.approvals.set id (run, request) }.Represents where
  inverse := h.inverse
  routes := h.routes
  workItems := h.workItems
  approvals := by
    intro other found hfound
    rcases Dict.find_set_eq_some.mp hfound with ⟨_, rfl⟩ | ⟨_, hold⟩
    · exact hrun
    · exact h.approvals other found hold
  userInputs := h.userInputs
  responses := fun other hfound => isSome_find_set (h.responses other hfound)

theorem Represents.insertUserInput (h : state.Represents) (id : UserInputRequestId)
    (request : ProviderRequestRef) (hrun : (state.runs.find run).isSome) :
    { state with userInputs := state.userInputs.set id (run, request) }.Represents where
  inverse := h.inverse
  routes := h.routes
  workItems := h.workItems
  approvals := h.approvals
  userInputs := by
    intro other found hfound
    rcases Dict.find_set_eq_some.mp hfound with ⟨_, rfl⟩ | ⟨_, hold⟩
    · exact hrun
    · exact h.userInputs other found hold
  responses := h.responses

theorem Represents.insertResponse (h : state.Represents) (id : ApprovalRequestId)
    (decision : ApprovalDecision) (hopen : (state.approvals.find id).isSome) :
    { state with approvalResponses := state.approvalResponses.set id decision }.Represents where
  inverse := h.inverse
  routes := h.routes
  workItems := h.workItems
  approvals := h.approvals
  userInputs := h.userInputs
  responses := by
    intro other hfound
    rw [Dict.find_set] at hfound
    split at hfound
    · next heq => exact heq ▸ hopen
    · exact h.responses other hfound

theorem Represents.removeApproval (h : state.Represents) (id : ApprovalRequestId) :
    (state.removeApproval id).Represents where
  inverse := h.inverse
  routes := h.routes
  workItems := h.workItems
  approvals := by
    intro other found hfound
    rw [State.removeApproval, Dict.find_remove] at hfound
    split at hfound
    · cases hfound
    · exact h.approvals other found hfound
  userInputs := h.userInputs
  responses := by
    intro other hfound
    rw [State.removeApproval, Dict.find_remove] at hfound ⊢
    split at hfound
    · cases hfound
    · next hne => rw [if_neg hne]; exact h.responses other hfound

/-- The invariant speaks of no buffer and of no uncertainty. -/
theorem Represents.of_eq {state' : State} (h : state.Represents)
    (hruns : state'.runs = state.runs) (hproviders : state'.runsByProvider = state.runsByProvider)
    (hroutes : state'.routes = state.routes)
    (hitems : ∀ run, (state.workItems.find run).isSome → (state'.workItems.find run).isSome)
    (happrovals : state'.approvals = state.approvals)
    (hinputs : ∀ id request, state'.userInputs.find id = some request →
      state.userInputs.find id = some request)
    (hresponses : state'.approvalResponses = state.approvalResponses) : state'.Represents where
  inverse := by rw [hruns, hproviders]; exact h.inverse
  routes := by rw [hroutes, hproviders]; exact h.routes
  workItems := by rw [hruns]; exact fun run hrun => hitems run (h.workItems run hrun)
  approvals := by rw [happrovals, hruns]; exact h.approvals
  userInputs := by
    rw [hruns]
    exact fun id request hfound => h.userInputs id request (hinputs id request hfound)
  responses := by rw [hresponses, happrovals]; exact h.responses

end State

/-! ## Steps that do not come too late -/

/-- An entry that a step extends is still there, and a binding it makes or
takes down is not another's. -/
def ExtendsLive : (β : Type) → Act β → Oracle → World → Prop
  | _, .publishStart run provider _, _, world =>
      world.state.Unclaimed run provider ∧ (world.state.workItems.find run).isSome
  | _, .prepareRoute run _ provider _, _, world => world.state.Unclaimed run provider
  | _, .removeRouteState _ run provider, _, world => world.state.StillBound run provider
  | _, .insertApproval _ run _, _, world => (world.state.runs.find run).isSome
  | _, .insertUserInput _ run _, _, world => (world.state.runs.find run).isSome
  | _, .insertResponse approval _, _, world => (world.state.approvals.find approval).isSome
  | _, _, _, _ => True

section Steps

variable [Sha256] {β : Type} {world world' : World} {oracle : Oracle} {answer : β}
  {spawned : List (Proc Unit)}

/-- A step in time keeps the invariant. -/
theorem State.Represents.effect {act : Act β} (h : world.state.Represents)
    (hlive : ExtendsLive β act oracle world)
    (heffect : act.effect world oracle = some (answer, world', spawned)) :
    world'.state.Represents := by
  cases hlock : act.takesStateLock with
  | false =>
      rw [Act.state_eq hlock heffect]
      exact h
  | true =>
      cases act with
      | insertWorkItem run item =>
          cases heffect
          exact h.of_eq rfl rfl rfl (fun _ => State.isSome_find_set) rfl (fun _ _ => id) rfl
      | publishStart run provider channel =>
          cases heffect
          exact h.publishStart channel hlive.1 hlive.2
      | prepareRoute run item provider restored =>
          cases heffect
          exact h.prepareRoute item _ restored hlive
      | removeRouteState channel run provider =>
          cases heffect
          exact h.removeRouteState hlive
      | closeRun site run =>
          cases heffect
          exact h.closeRun run
      | insertApproval approval run request =>
          cases heffect
          exact h.insertApproval approval request hlive
      | insertUserInput input run request =>
          cases heffect
          exact h.insertUserInput input request hlive
      | insertResponse approval decision =>
          cases heffect
          exact h.insertResponse approval decision hlive
      | removeApproval approval =>
          cases heffect
          exact h.removeApproval approval
      | removeUserInput input =>
          cases heffect
          refine h.of_eq rfl rfl rfl (fun _ => id) rfl (fun other request hfound => ?_) rfl
          change Dict.find (Dict.remove _ input) other = some request at hfound
          rw [Dict.find_remove] at hfound
          split at hfound
          · cases hfound
          · exact hfound
      | clearForPumpFailure =>
          simp only [Act.effect] at heffect
          split at heffect
          · cases heffect
            exact State.Represents.initial
          · cases heffect
      | routeEvent provider event =>
          simp only [Act.effect] at heffect
          split at heffect
          · next order =>
              split at heffect
              · cases heffect
                obtain ⟨hruns, hproviders, hroutes, hitems, happrovals, hinputs, hresponses⟩ :=
                  world.state.bufferHandshakeEvent_frame order provider event
                refine h.of_eq hruns hproviders hroutes ?_ happrovals ?_ hresponses
                · exact fun run hrun =>
                    (congrArg (fun d => (Dict.find d run).isSome) hitems).trans hrun
                · exact fun id request hfound =>
                    (congrArg (fun d => Dict.find d id) hinputs).symm.trans hfound
              · cases heffect
                rw [World.trySend_state]
                exact h
          · cases heffect
      | cloneRoute provider | lockRoute provider =>
          simp only [Act.effect, Option.some.injEq, Prod.mk.injEq] at heffect
          obtain ⟨_, rfl, _⟩ := heffect
          exact (World.cloneRoute_state world provider).symm ▸ h
      | beginHandshake | finishStartHandshake | retainUnknownHandshake | takePending
      | insertUncertainRun | removeUncertainRun | isAttached | takeUncertainStart | activeRun
      | getApproval | getResponse | getUserInput =>
          cases heffect
          exact h.of_eq rfl rfl rfl (fun _ => id) rfl (fun _ _ => id) rfl
      | _ => cases hlock

/-- In every run whose steps all come in time, the state's maps fit together at
every moment. -/
theorem represents_of_extendsLive {db : Database} {issued : List Uuid}
    {config : Config Act Proc World}
    (h : Machine.Reach supervisor ExtendsLive Proc.isRequest (newSupervisor db issued) config) :
    config.world.state.Represents :=
  Machine.Reach.invariant (P := fun world => world.state.Represents) State.Represents.initial
    (fun _ _ _ _ _ _ _ hworld hlive hexec =>
      hworld.effect hlive (Act.effect_of_exec hexec)) h

end Steps

/-! ## Replayed runs -/

instance (state : State) (run : RunId) (provider : ProviderRunRef) :
    Decidable (state.Unclaimed run provider) :=
  inferInstanceAs (Decidable ((∀ other ∈ state.runs.find run, other = provider) ∧
    ∀ other ∈ state.runsByProvider.find provider, other = run))

instance (state : State) (run : RunId) (provider : ProviderRunRef) :
    Decidable (state.StillBound run provider) :=
  inferInstanceAs (Decidable (_ ∨ _))

instance (β : Type) (act : Act β) (oracle : Oracle) (world : World) :
    Decidable (ExtendsLive β act oracle world) := by
  cases act <;> unfold ExtendsLive <;> infer_instance

/-- A start up to where its route is published. -/
def Schedule.promptStart : List (Machine.Move Proc Oracle) :=
  Schedule.startup ++ Schedule.startHandshake ++ Schedule.startAccepted ++ [Schedule.run 1]

/-- The same start, while the event stream fails. The pump's failure clears the
state, and with it the work item of the run that the start then publishes. -/
def Schedule.lateStart : List (Machine.Move Proc Oracle) :=
  Schedule.startup ++ Schedule.startHandshake ++
    [.step 2 (.event (.error .closed)), .step 2 (.runOrder [])] ++
    Schedule.startAccepted ++ [Schedule.run 1]

set_option maxRecDepth 100000 in
/-- A prompt start attaches its run. -/
theorem promptStart_represents :
    ∃ config, Machine.Reach supervisor ExtendsLive Proc.isRequest
        (newSupervisor oneItem oneItemIssued) config ∧
      (config.world.state.runs.find ⟨sampleUuid 10⟩).isSome ∧ config.world.state.Represents := by
  obtain ⟨config, hreach, hcheck⟩ := supervisor_reaches oneItem oneItemIssued
    (fun β act oracle world => decide (ExtendsLive β act oracle world))
    (fun _ _ _ _ => of_decide_eq_true) Schedule.promptStart
    (fun config => (config.world.state.runs.find ⟨sampleUuid 10⟩).isSome) (by decide +kernel)
  exact ⟨config, hreach, hcheck, represents_of_extendsLive hreach⟩

set_option maxRecDepth 100000 in
theorem lateStart_not_represents :
    ∃ config, Machine.Reach supervisor anyStep Proc.isRequest
        (newSupervisor oneItem oneItemIssued) config ∧
      ¬ config.world.state.Represents := by
  obtain ⟨config, hreach, hcheck⟩ := supervisor_reaches oneItem oneItemIssued
    (fun _ _ _ _ => true) (fun _ _ _ _ _ => trivial) Schedule.lateStart
    (fun config => (config.world.state.runs.find ⟨sampleUuid 10⟩).isSome &&
      (config.world.state.workItems.find ⟨sampleUuid 10⟩).isNone) (by decide +kernel)
  refine ⟨config, hreach, fun hrepresents => ?_⟩
  rw [Bool.and_eq_true, Option.isNone_iff_eq_none] at hcheck
  have hitem := hrepresents.workItems _ hcheck.1
  rw [hcheck.2] at hitem
  cases hitem

end YakShed
