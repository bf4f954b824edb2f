/-
# The supervisor's in-memory state

`State` is what the supervisor's one mutex guards. Each definition below is one
critical section: what some function of the supervisor does between taking and
releasing that lock.
-/

import YakShed.Collections.Dict
import YakShed.Supervisor.Events

namespace YakShed

/-- The two ends of one event channel. -/
abbrev ChannelId := Nat

/-- A request with the run it belongs to. -/
abbrev OpenRequest := RunId × ProviderRequestRef

/-- Events of provider runs that no route was known for. -/
abbrev EventBuffer := Dict ProviderRunRef (List RunHarnessEvent)

namespace EventBuffer

def count (buffer : EventBuffer) : Nat := (buffer.values.map List.length).sum

/-- `entry(run).or_default().push(event)`. -/
def push (buffer : EventBuffer) (run : ProviderRunRef) (event : RunHarnessEvent) : EventBuffer :=
  Dict.set buffer run ((Dict.find buffer run).getD [] ++ [event])

end EventBuffer

structure PendingStart where
  events : EventBuffer := ∅
  overflow : Bool := false

/-- The open requests of one run as the store has them. -/
structure RestoredRequests (run : RunId) where
  approvals : Dict ApprovalRequestId OpenRequest := ∅
  userInputs : Dict UserInputRequestId OpenRequest := ∅
  approvalResponses : Dict ApprovalRequestId ApprovalDecision := ∅
  approvals_run : ∀ id request, approvals.find id = some request → request.1 = run := by simp
  userInputs_run : ∀ id request, userInputs.find id = some request → request.1 = run := by simp
  responses_open : ∀ id, (approvalResponses.find id).isSome → (approvals.find id).isSome := by simp

namespace RestoredRequests

variable {run : RunId}

/-- An approval with no answer yet. -/
def addApproval (restored : RestoredRequests run) (id : ApprovalRequestId)
    (request : ProviderRequestRef) : RestoredRequests run :=
  { restored with
    approvals := restored.approvals.set id (run, request)
    approvals_run := by
      intro other found h
      rw [Dict.find_set] at h
      split at h
      · cases h; rfl
      · exact restored.approvals_run other found h
    responses_open := by
      intro other h
      rw [Dict.find_set]
      split
      · rfl
      · exact restored.responses_open other h }

/-- The answer an approval is being given. -/
def addResponse (restored : RestoredRequests run) (id : ApprovalRequestId)
    (decision : ApprovalDecision) (isOpen : (restored.approvals.find id).isSome) :
    RestoredRequests run :=
  { restored with
    approvalResponses := restored.approvalResponses.set id decision
    responses_open := by
      intro other h
      rw [Dict.find_set] at h
      split at h
      · next heq => exact heq ▸ isOpen
      · exact restored.responses_open other h }

def addUserInput (restored : RestoredRequests run) (id : UserInputRequestId)
    (request : ProviderRequestRef) : RestoredRequests run :=
  { restored with
    userInputs := restored.userInputs.set id (run, request)
    userInputs_run := by
      intro other found h
      rw [Dict.find_set] at h
      split at h
      · cases h; rfl
      · exact restored.userInputs_run other found h }

end RestoredRequests

structure State where
  routes : Dict ProviderRunRef ChannelId := ∅
  pendingEvents : EventBuffer := ∅
  pendingOverflow : Bool := false
  startInProgress : Option RunId := none
  uncertainStarts : Dict RunId PendingStart := ∅
  uncertainStartOrder : List RunId := []
  runs : Dict RunId ProviderRunRef := ∅
  runsByProvider : Dict ProviderRunRef RunId := ∅
  workItems : Dict RunId WorkItemId := ∅
  approvals : Dict ApprovalRequestId OpenRequest := ∅
  userInputs : Dict UserInputRequestId OpenRequest := ∅
  approvalResponses : Dict ApprovalRequestId ApprovalDecision := ∅
  uncertainRuns : List RunId := []

namespace State

/-! ## Starting a run -/

/-- `start_run_owned`: a fresh buffer for the handshake of one start. -/
def beginHandshake (state : State) (run : RunId) : State :=
  { state with startInProgress := some run, pendingEvents := ∅, pendingOverflow := false }

def finishStartHandshake (state : State) : State :=
  { state with startInProgress := none, pendingEvents := ∅, pendingOverflow := false }

/-- `retain_unknown_handshake`: the oldest unresolved start makes room. -/
def retainUnknownHandshake (state : State) (run : RunId) : State :=
  let pending : PendingStart := ⟨state.pendingEvents, state.pendingOverflow⟩
  let (starts, order) :=
    match state.uncertainStartOrder with
    | evicted :: rest =>
        if maxUncertainStarts ≤ state.uncertainStarts.entries.length then
          (state.uncertainStarts.remove evicted, rest)
        else (state.uncertainStarts, state.uncertainStartOrder)
    | [] => (state.uncertainStarts, [])
  { state with
    startInProgress := none, pendingEvents := ∅, pendingOverflow := false
    uncertainStarts := starts.set run pending
    uncertainStartOrder := order ++ [run]
    uncertainRuns := state.uncertainRuns.insert run }

/-- `start_run_owned`: the route goes live and the buffered events come out. -/
def publishStart (state : State) (run : RunId) (provider : ProviderRunRef) (channel : ChannelId) :
    (List RunHarnessEvent × Bool) × State :=
  (((state.pendingEvents.find provider).getD [], state.pendingOverflow),
    { state with
      runs := state.runs.set run provider
      runsByProvider := state.runsByProvider.set provider run
      routes := state.routes.set provider channel
      startInProgress := none, pendingEvents := ∅, pendingOverflow := false })

/-- `retain_uncertain_start`: the handshake ends without a route. -/
def takePending (state : State) (provider : ProviderRunRef) :
    (List RunHarnessEvent × Bool) × State :=
  (((state.pendingEvents.find provider).getD [], state.pendingOverflow),
    { state with startInProgress := none, pendingEvents := ∅, pendingOverflow := false })

/-! ## Routes -/

def prepareRoute (state : State) (run : RunId) (item : WorkItemId) (provider : ProviderRunRef)
    (channel : ChannelId) (restored : RestoredRequests run) : State :=
  { state with
    runs := state.runs.set run provider
    runsByProvider := state.runsByProvider.set provider run
    workItems := state.workItems.set run item
    routes := state.routes.set provider channel
    approvals := state.approvals.extend restored.approvals
    userInputs := state.userInputs.extend restored.userInputs
    approvalResponses := state.approvalResponses.extend restored.approvalResponses
    uncertainRuns := state.uncertainRuns.insert run }

/-- What `remove_route_state` and `close_run` both do to the open requests. -/
def dropRequests (state : State) (run : RunId) : State :=
  let approvals := state.approvals.retain fun _ request => request.1 ≠ run
  { state with
    approvals := approvals
    userInputs := state.userInputs.retain fun _ request => request.1 ≠ run
    approvalResponses := state.approvalResponses.retain fun id _ => (approvals.find id).isSome }

def removeRouteState (state : State) (run : RunId) (provider : ProviderRunRef) : State :=
  { state.dropRequests run with
    routes := state.routes.remove provider
    runsByProvider := state.runsByProvider.remove provider
    runs := state.runs.remove run
    workItems := state.workItems.remove run
    uncertainRuns := state.uncertainRuns.filter (· ≠ run) }

/-- `close_run`, for the provider run the supervisor has for the run. -/
def closeRun (state : State) (run : RunId) : State :=
  let provider := state.runs.find run
  { state.dropRequests run with
    routes := (provider.map state.routes.remove).getD state.routes
    runsByProvider := (provider.map state.runsByProvider.remove).getD state.runsByProvider
    runs := state.runs.remove run
    workItems := state.workItems.remove run
    uncertainRuns := state.uncertainRuns.filter (· ≠ run)
    uncertainStarts := state.uncertainStarts.remove run
    uncertainStartOrder := state.uncertainStartOrder.filter (· ≠ run)
    pendingEvents :=
      (provider.map fun provider => Dict.remove state.pendingEvents provider).getD
        state.pendingEvents }

/-- `deliver_uncertain_start_events`: the unresolved start comes out. -/
def takeUncertainStart (state : State) (run : RunId) : Option PendingStart × State :=
  (state.uncertainStarts.find run,
    { state with
      uncertainStartOrder := state.uncertainStartOrder.filter (· ≠ run)
      uncertainStarts := state.uncertainStarts.remove run })

/-! ## The event pump -/

/-- The first unresolved start that is still waiting for any event. -/
def firstSilentStart (state : State) : Option (RunId × PendingStart) :=
  state.uncertainStartOrder.findSome? fun id =>
    match state.uncertainStarts.find id with
    | some pending => if pending.events.entries.isEmpty then some (id, pending) else none
    | none => none

/-- `buffer_handshake_event`, with the order in which the map of unresolved
starts happens to be iterated. -/
def bufferHandshakeEvent (state : State) (order : List RunId) (run : ProviderRunRef)
    (event : RunHarnessEvent) : State :=
  if state.startInProgress.isSome then
    if EventBuffer.count state.pendingEvents < routeChannelCapacity then
      { state with pendingEvents := EventBuffer.push state.pendingEvents run event }
    else { state with pendingOverflow := true }
  else
    match (state.uncertainStarts.inOrder order).find? fun entry =>
        (Dict.find entry.2.events run).isSome with
    | some (id, pending) =>
        let pending :=
          if EventBuffer.count pending.events < routeChannelCapacity then
            { pending with events := EventBuffer.push pending.events run event }
          else { pending with overflow := true }
        { state with uncertainStarts := state.uncertainStarts.set id pending }
    | none =>
        match state.firstSilentStart with
        | some (id, pending) =>
            { state with
              uncertainStarts := state.uncertainStarts.set id
                { pending with events := Dict.set pending.events run [event] } }
        | none => state

/-- `handle_pump_failure`: the attached runs, in the order of iteration. -/
def affected (state : State) (order : List RunId) : List (RunId × ProviderRunRef × WorkItemId) :=
  (state.runs.inOrder order).filterMap fun (run, provider) =>
    (state.workItems.find run).map (run, provider, ·)

/-- `handle_pump_failure`: every field is cleared. -/
def cleared (_ : State) : State := {}

/-! ## Requests -/

def activeRun (state : State) (run : RunId) :
    Except RunOrchestrationError (ProviderRunRef × WorkItemId) :=
  if run ∈ state.uncertainRuns then .error (.runNeedsReconciliation run)
  else
    match state.runs.find run, state.workItems.find run with
    | some provider, some item => .ok (provider, item)
    | _, _ => .error (.runNotActive run)

/-- `resolve_approval`: a confirmed approval is no longer open. -/
def removeApproval (state : State) (approval : ApprovalRequestId) : State :=
  { state with
    approvals := state.approvals.remove approval
    approvalResponses := state.approvalResponses.remove approval }

end State

end YakShed
