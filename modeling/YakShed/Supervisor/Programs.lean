/-
# The supervisor's functions

Each function of `RunSupervisor` and `Inner` as a program, in the order of its
awaits and lock acquisitions. The early returns of the `?` operator are
`attempt`.
-/

import YakShed.Supervisor.World

namespace YakShed

open Concurrent

def act {β : Type} (action : Act β) : Sup β := Prog.act action

def store {β : Type} (call : StoreCall β) (site : Site := .elsewhere) :
    Sup (Except StoreError β) :=
  act (.store site call)

/-- The `?` operator, with the conversion of its error. -/
def attempt {ε ε' β γ : Type} (program : Sup (Except ε β)) (convert : ε → ε')
    (next : β → Sup (Except ε' γ)) : Sup (Except ε' γ) := do
  match ← program with
  | .error error => return .error (convert error)
  | .ok value => next value

/-- A loop over a list, one iteration after the other. -/
def forEach {β : Type} (iteration : β → Sup Unit) : List β → Sup Unit
  | [] => pure ()
  | value :: rest => do
      iteration value
      forEach iteration rest

/-! ## Notifications and transitions -/

def publish (item : WorkItemId) (kind : AppEventKind) : Sup Unit := do
  let found ← store (.getWorkItem item)
  let revision := match found with
    | .ok snapshot => snapshot.revision
    | .error _ => 0
  act (.broadcast ⟨item, revision, kind⟩)

def transition (run : RunId) (expected status : RunStatus)
    (provider : Option ProviderRunIdentity) (site : Site := .elsewhere) :
    Sup (Except StoreError RunSnapshot) :=
  attempt (store (.transitionRun run expected status provider) site) id fun snapshot => do
    publish snapshot.workItemId (.runStatusChanged run status)
    return .ok snapshot

def transitionToTerminal (site : Site) (run : RunId) (status : RunStatus) :
    Sup (Except StoreError Unit) :=
  attempt (store (.getRun run)) id fun snapshot =>
    attempt (transition run snapshot.status status none site) id fun _ => return .ok ()

/-- The status of a run whose events are lost. -/
def RunStatus.lost : RunStatus → Option RunStatus
  | .starting => some .outcomeUnknown
  | .running => some .disconnected
  | _ => none

/-- The status is replaced if it is an active one; a conflict is ignored. -/
def transitionToLost (run : RunId) (current : RunStatus) : Sup Unit :=
  match current.lost with
  | some target => do
      let _ ← transition run current target none
  | none => pure ()

def transitionToDisconnected (run : RunId) : Sup Unit := do
  match ← store (.getRun run) with
  | .error _ => pure ()
  | .ok snapshot =>
      if snapshot.status.isActive then
        let _ ← transition run snapshot.status .disconnected none

def handleRouteOverflow (run : RunId) (item : WorkItemId) : Sup Unit := do
  act (.closeRun .elsewhere run)
  match ← store (.getRun run) with
  | .error _ => pure ()
  | .ok current =>
      transitionToLost run current.status
      publish item (.runOutcomeUnknown run "event_channel_full")

/-! ## The event pump -/

def handlePumpFailure (operation : String) : Sup Unit := do
  let affected ← act .clearForPumpFailure
  act .takePump
  forEach (fun (run, _, item) => do
    match ← store (.getRun run) with
    | .error _ => pure ()
    | .ok current => transitionToLost run current.status
    publish item (.runOutcomeUnknown run operation)) affected

def routeEvent (event : RunHarnessEvent) : Sup Unit := do
  match event.run with
  | none => pure ()
  | some provider =>
      match ← act (.routeEvent provider event) with
      | some (.full, some run, some item) => handleRouteOverflow run item
      | some (.closed, some run, some _) => transitionToDisconnected run
      | _ => pure ()

def runEventPump : Sup Unit := do
  match ← act (.harness .nextEvent) with
  | .ok (some event) =>
      routeEvent event
      Prog.invoke .runEventPump
  | .error (.outcomeUnknown operation) => handlePumpFailure operation
  | .ok none | .error _ => handlePumpFailure streamFailureOperation

/-! ## Consuming a run's events -/

namespace DeltaBuffer

def pushMessage (deltas : DeltaBuffer) (chunk : String) : DeltaBuffer :=
  { deltas with chunks := deltas.chunks + 1, message := deltas.message ++ chunk }

def pushCommand (deltas : DeltaBuffer) (command : ProviderCommandRef)
    (commandText chunk : String) : DeltaBuffer :=
  let (text, output) := (deltas.commands.find command).getD (commandText, "")
  { deltas with
    chunks := deltas.chunks + 1
    commands := deltas.commands.set command (text, output ++ chunk) }

end DeltaBuffer

def newItem (kind body : String) (provider : Option NamespacedProviderId) :
    Sup NewTimelineItem := do
  let itemId ← act .nextTimelineItemId
  return ⟨itemId, kind, body, provider⟩

def takeCommandItems : List (ProviderCommandRef × String × String) →
    Sup (Except RunOrchestrationError (List NewTimelineItem))
  | [] => return .ok []
  | (command, commandText, output) :: rest => do
      let itemId ← act .nextTimelineItemId
      match commandProviderId command with
      | .error error => return .error error
      | .ok provider =>
          attempt (takeCommandItems rest) id fun items =>
            return .ok (⟨itemId, "command_output_delta_batch", commandText ++ "\n" ++ output,
              some provider⟩ :: items)

def takeMessageItem (deltas : DeltaBuffer) : Sup (List NewTimelineItem) :=
  if deltas.message.isEmpty then return []
  else do
    let item ← newItem "message_delta_batch" deltas.message none
    return [item]

/-- `take_items`: the drained commands are sorted by their native id. What is
left is an empty buffer. -/
def takeItems (deltas : DeltaBuffer) :
    Sup (Except RunOrchestrationError (List NewTimelineItem)) := do
  let message ← takeMessageItem deltas
  let order ← act .iterateCommands
  let commands := (deltas.commands.inOrder order).insertionSort fun left right =>
    left.1.nativeId ≤ right.1.nativeId
  attempt (takeCommandItems commands) id fun items => return .ok (message ++ items)

/-- `append_items`; without a stream the application's own is used. -/
def appendItems (site : Site) (run : RunId) (item : WorkItemId) (items : List NewTimelineItem)
    (stream : Option ProviderRunRef) : Sup (Except StoreError Unit) :=
  if items.isEmpty then return .ok ()
  else
    let sourceNamespace := match stream with
      | some provider => provider.ns
      | none => "application"
    let streamId := run.uuid.toText
    attempt (store (.getRun run)) id fun snapshot =>
      attempt (store (.getStreamCursor ⟨snapshot.connectionId, run, sourceNamespace, streamId⟩)) id
        fun found =>
          let cursor := match found with
            | some state => state.cursor
            | none => 0
          attempt (store (.getRun run)) id fun snapshot =>
            attempt (store (.appendTimelineBatch snapshot.connectionId run sourceNamespace streamId
              cursor items) site) id fun _ => do
                publish item (.timelineBatchAppended run items.length)
                return .ok ()

/-- The branch of `apply_event` that has rows to append and nothing else. -/
def appendRows (site : Site) (run : RunId) (item : WorkItemId) (provider : ProviderRunRef)
    (items : List NewTimelineItem) : Sup (Except RunOrchestrationError DeltaBuffer) :=
  attempt (appendItems site run item items (some provider)) .store fun _ => return .ok {}

def applyApprovalRequested (run : RunId) (item : WorkItemId) (request : ProviderRequestRef)
    (summary : String) : Sup (Except RunOrchestrationError DeltaBuffer) :=
  match requestProviderId request with
  | .error error => return .error error
  | .ok requestId =>
      attempt (store (.recordPendingApproval run requestId summary)) .store fun approval => do
        act (.insertApproval approval.id run request)
        publish item (.approvalOpened run approval.id)
        return .ok {}

def applyUserInputRequested (site : Site) (run : RunId) (item : WorkItemId)
    (provider : ProviderRunRef) (request : ProviderRequestRef) (prompt : String)
    (items : List NewTimelineItem) : Sup (Except RunOrchestrationError DeltaBuffer) := do
  let inputId ← act .nextTimelineItemId
  match requestProviderId request with
  | .error error => return .error error
  | .ok requestId => do
      act (.insertUserInput inputId run request)
      attempt (appendItems site run item
        (items ++ [⟨inputId, "user_input_requested", prompt, some requestId⟩]) (some provider))
        .store fun _ => do
          publish item (.userInputOpened run inputId prompt)
          return .ok {}

/-- `apply_event`, with the delta buffer it leaves. -/
def applyEvent (channel : ChannelId) (run : RunId) (item : WorkItemId) (provider : ProviderRunRef)
    (deltas : DeltaBuffer) (event : RunHarnessEvent) :
    Sup (Except RunOrchestrationError DeltaBuffer) :=
  let site := Site.consumer channel
  let flushFull (deltas : DeltaBuffer) : Sup (Except RunOrchestrationError DeltaBuffer) :=
    if deltaBatchChunks ≤ deltas.chunks then
      attempt (takeItems deltas) id (appendRows site run item provider)
    else return .ok deltas
  match event with
  | .runAccepted _ => return .ok deltas
  | .messageDelta _ chunk => flushFull (deltas.pushMessage chunk)
  | .commandOutputDelta _ command commandText chunk =>
      flushFull (deltas.pushCommand command commandText chunk)
  | .messageCompleted _ text =>
      attempt (takeItems deltas) id fun items => do
        let row ← newItem "message_completed" text none
        appendRows site run item provider (items ++ [row])
  | .commandOutputCompleted _ command commandText output =>
      attempt (takeItems deltas) id fun items => do
        match commandProviderId command with
        | .error error => return .error error
        | .ok commandId =>
            let row ← newItem "command_output_completed" (commandText ++ "\n" ++ output)
              (some commandId)
            appendRows site run item provider (items ++ [row])
  | .fileMutation _ path summary =>
      attempt (takeItems deltas) id fun items => do
        let row ← newItem "file_mutation" (path ++ "\n" ++ summary) none
        appendRows site run item provider (items ++ [row])
  | .approvalRequested request summary =>
      attempt (takeItems deltas) id fun items =>
        attempt (appendItems site run item items (some provider)) .store fun _ =>
          applyApprovalRequested run item request summary
  | .userInputRequested request prompt =>
      attempt (takeItems deltas) id fun items =>
        applyUserInputRequested site run item provider request prompt items
  | .unknown _ itemType native =>
      attempt (takeItems deltas) id fun items => do
        let row ← newItem ("unknown:" ++ itemType) native none
        appendRows site run item provider (items ++ [row])
  | .malformed _ itemType native =>
      attempt (takeItems deltas) id fun items => do
        let row ← newItem ("malformed:" ++ itemType) native none
        appendRows site run item provider (items ++ [row])
  | .runTerminal _ state =>
      attempt (takeItems deltas) id fun items =>
        attempt (appendItems (.terminal channel) run item items (some provider)) .store fun _ =>
          attempt (transitionToTerminal (.terminal channel) run state.status) .store fun _ =>
            return .ok {}

/-- A consumer gives up: the run is uncertain if it was still active. -/
def consumptionFailed (run : RunId) (item : WorkItemId) : Sup Unit := do
  match ← store (.getRun run) with
  | .error _ => pure ()
  | .ok current =>
      if current.status.isActive then
        let _ ← transition run current.status .outcomeUnknown none
        publish item (.runOutcomeUnknown run "run_consumption_failed")

/-- The end of `consume_run`; the receiver is dropped with its frame. -/
def finishConsumer (run : RunId) (channel : ChannelId) : Sup Unit := do
  act (.closeRun (.consumer channel) run)
  act (.finishConsumer run channel)

/-- One turn of the loop of `consume_run`. -/
def consumeRun (run : RunId) (item : WorkItemId) (provider : ProviderRunRef) (channel : ChannelId)
    (deltas : DeltaBuffer) : Sup Unit := do
  match ← act (.receive run channel) with
  | none => finishConsumer run channel
  | some event =>
      match ← applyEvent channel run item provider deltas event with
      | .error _ =>
          consumptionFailed run item
          finishConsumer run channel
      | .ok deltas =>
          if event.isTerminal then finishConsumer run channel
          else Prog.invoke (.consumeRun run item provider channel deltas)

/-! ## Routes -/

/-- Sends until the first failure; tells whether there was none. -/
def sendAll (channel : ChannelId) : List RunHarnessEvent → Sup Bool
  | [] => return true
  | event :: rest => do
      match ← act (.trySend channel event) with
      | .sent => sendAll channel rest
      | _ => return false

def activateRoute (run : RunId) (item : WorkItemId) (provider : ProviderRunRef)
    (receiver : ChannelId) : Sup Unit := do
  act (.spawnConsumer run item provider receiver)
  act (.removeUncertainRun run)
  act .ensureEventPump

def attachRoute (run : RunId) (item : WorkItemId) (provider : ProviderRunRef) :
    Sup (Except StoreError Unit) :=
  attempt (store (.getRun run)) id fun _ => do
    let receiver ← act (.prepareRoute run item provider {})
    activateRoute run item provider receiver
    return .ok ()

def deliverUncertainStartEvents (run : RunSnapshot) (provider : ProviderRunRef) : Sup Unit := do
  match ← act (.takeUncertainStart run.id) with
  | none => pure ()
  | some pending =>
      match ← act (.cloneRoute provider) with
      | none => handleRouteOverflow run.id run.workItemId
      | some route =>
          if pending.overflow then handleRouteOverflow run.id run.workItemId
          else do
            let sent ← sendAll route ((Dict.find pending.events provider).getD [])
            if !sent then handleRouteOverflow run.id run.workItemId
          act (.dropSender route)

/-! ## Reattaching -/

/-- One turn of `load_requests`: approvals that are not answered yet. -/
def restoreApproval {run : RunId} (provider : ProviderRunRef) (restored : RestoredRequests run)
    (approval : ApprovalSnapshot) : RestoredRequests run :=
  let request : ProviderRequestRef := ⟨provider, approval.providerId.value⟩
  match approval.status with
  | .pending => restored.addApproval approval.id request
  | .responding decision =>
      (restored.addApproval approval.id request).addResponse approval.id decision
        (by simp [RestoredRequests.addApproval])
  | _ => restored

def loadApprovals (run : RunSnapshot) (provider : ProviderRunRef)
    (after : Option ApprovalRequestId) (restored : RestoredRequests run.id) :
    Sup (Except StoreError (RestoredRequests run.id)) :=
  attempt (store (.listApprovalsForRun run.id after)) id fun page =>
    let restored := page.items.foldl (restoreApproval provider) restored
    match page.nextAfter with
    | some after => Prog.invoke (.loadApprovals run provider (some after) restored)
    | none => return .ok restored

def restoreUserInput {run : RunId} (provider : ProviderRunRef) (restored : RestoredRequests run)
    (request : PendingUserInputSnapshot) : RestoredRequests run :=
  restored.addUserInput request.id ⟨provider, request.providerId.value⟩

def loadUserInputs (run : RunSnapshot) (provider : ProviderRunRef)
    (after : Option TimelineItemId) (restored : RestoredRequests run.id) :
    Sup (Except StoreError (RestoredRequests run.id)) :=
  attempt (store (.listPendingUserInputsForRun run.id after)) id fun page =>
    let restored := page.items.foldl (restoreUserInput provider) restored
    match page.nextAfter with
    | some after => Prog.invoke (.loadUserInputs run provider (some after) restored)
    | none => return .ok restored

def loadRequests (run : RunSnapshot) (provider : ProviderRunRef) :
    Sup (Except StoreError (RestoredRequests run.id)) :=
  attempt (Prog.invoke (.loadApprovals run provider none {})) id fun restored =>
    Prog.invoke (.loadUserInputs run provider none restored)

def prepareStartupReattach (run : RunSnapshot) (provider : ProviderRunRef) :
    Sup (Except RunOrchestrationError StartupRunReattach) := do
  match ← loadRequests run provider with
  | .error error =>
      if run.status = .running then
        let _ ← transition run.id .running .disconnected none
      return .error (.store error)
  | .ok restored =>
      let receiver ← act (.prepareRoute run.id run.workItemId provider restored)
      let publishStatus : Bool := run.status ≠ .running || run.providerId.isNone
      if publishStatus then
        match ← store (.transitionRun run.id run.status .running (some provider.providerId)) with
        | .ok run => return .ok ⟨run, provider, receiver, publishStatus⟩
        | .error error =>
            act (.dropReceiver receiver)
            act (.removeRouteState receiver run.id provider)
            return .error (.store error)
      else return .ok ⟨run, provider, receiver, publishStatus⟩

def activateStartupReattach (plan : StartupRunReattach) : Sup Unit := do
  activateRoute plan.run.id plan.run.workItemId plan.providerRun plan.receiver
  if plan.publishStatus then
    publish plan.run.workItemId (.runStatusChanged plan.run.id .running)
  deliverUncertainStartEvents plan.run plan.providerRun

def reattachRun (run : RunSnapshot) (provider : ProviderRunRef) :
    Sup (Except RunOrchestrationError RunSnapshot) := do
  let attached ← act (.isAttached run.id)
  if attached then
    act (.removeUncertainRun run.id)
    return .ok run
  else
    attempt (prepareStartupReattach run provider) id fun plan => do
      activateStartupReattach plan
      return .ok plan.run

/-! ## Start-up -/

/-- The routes of a start-up that fails are taken down again. -/
def removePrepared (prepared : List StartupRunReattach) : Sup Unit :=
  forEach (fun plan => do
    act (.removeRouteState plan.receiver plan.run.id plan.providerRun)
    act (.dropReceiver plan.receiver)) prepared

/-- An active run that cannot be reattached is lost. -/
def transitionIfActive (run : RunSnapshot) : Sup (Except StoreError Unit) :=
  match run.status.lost with
  | some target =>
      attempt (transition run.id run.status target none) id fun _ => return .ok ()
  | none => return .ok ()

/-- The runs of one page of `reconcile_startup`. An early return of `?` drops
the prepared receivers but leaves their routes in the state. -/
def reconcilePage : List RunSnapshot → List StartupRunReattach →
    Sup (Except RunOrchestrationError (List StartupRunReattach))
  | [], prepared => return .ok prepared
  | run :: rest, prepared =>
      match run.providerId with
      | none => do
          match ← transitionIfActive run with
          | .error error =>
              forEach (fun plan => act (.dropReceiver plan.receiver)) prepared
              return .error (.store error)
          | .ok () => reconcilePage rest prepared
      | some identity => do
          let provider : ProviderRunRef := ⟨identity⟩
          let answer ← act (.harness (.reconnect provider))
          -- `unwrap_or_default`
          if answer.toOption.getD false then
            match ← prepareStartupReattach run provider with
            | .ok plan => reconcilePage rest (prepared ++ [plan])
            | .error error =>
                removePrepared prepared
                return .error error
          else
            match ← transitionIfActive run with
            | .error error =>
                removePrepared prepared
                return .error (.store error)
            | .ok () => reconcilePage rest prepared

def reconcilePages (after : Option RunId) (prepared : List StartupRunReattach) :
    Sup (Except RunOrchestrationError Unit) := do
  match ← store (.listRunsNeedingReconciliation after) with
  | .error error =>
      removePrepared prepared
      return .error (.store error)
  | .ok page =>
      attempt (reconcilePage page.items prepared) id fun prepared => do
        match page.nextAfter with
        | some after => Prog.invoke (.reconcilePages (some after) prepared)
        | none =>
            forEach activateStartupReattach prepared
            return .ok ()

def startup : Sup Unit := do
  match ← Prog.invoke (.reconcilePages none []) with
  | .ok () => act (.finishStartup none)
  | .error error => act (.finishStartup (some error))

/-! ## Starting a run -/

def retainUncertainStart (run : RunId) (item : WorkItemId) (provider : ProviderRunRef) :
    Sup Unit := do
  let (pending, overflow) ← act (.takePending provider)
  let _ ← act (.harness (.interrupt provider))
  let _ ← transition run .starting .outcomeUnknown (some provider.providerId)
  let _ ← attachRoute run item provider
  -- The scrutinee's guard lives as long as the block that sends.
  match ← act (.lockRoute provider) with
  | some route =>
      let _ ← sendAll route pending
      act (.dropSender route)
  | none => pure ()
  act .unlockState
  act (.insertUncertainRun run)
  publish item (.runOutcomeUnknown run "start_binding_failed")
  if overflow then handleRouteOverflow run item

/-- `start_run_owned` from the harness's answer on. -/
def attachStarted (run : RunId) (item : WorkItemId) (provider : ProviderRunRef) :
    Sup (Except RunOrchestrationError RunSnapshot) := do
  let channel ← act .openChannel
  match ← transition run .starting .running (some provider.providerId) with
  | .error error =>
      retainUncertainStart run item provider
      act (.dropReceiver channel)
      act (.dropSender channel)
      return .error (.store error)
  | .ok snapshot =>
      let (pending, overflow) ← act (.publishStart run provider channel)
      act (.spawnConsumer run item provider channel)
      act .ensureEventPump
      if overflow then handleRouteOverflow run item
      else do
        let sent ← sendAll channel pending
        if !sent then handleRouteOverflow run item
      act (.dropSender channel)
      return .ok snapshot

def startRunLocked (item : WorkItemId) (connection : ConnectionId) (input : String) :
    Sup (Except RunOrchestrationError RunSnapshot) :=
  attempt (store (.createRun connection item)) .store fun created => do
    let run := created.id
    publish item (.runStatusChanged run .starting)
    act (.insertWorkItem run item)
    act (.beginHandshake run)
    act .ensureEventPump
    match ← act (.harness (.startRun connection run input)) with
    | .ok provider => attachStarted run item provider
    | .error (.outcomeUnknown operation) =>
        act (.retainUnknownHandshake run)
        attempt (transition run .starting .outcomeUnknown none) .store fun _ => do
          publish item (.runOutcomeUnknown run operation)
          return .error (.harness (.outcomeUnknown operation))
    | .error error =>
        act .finishStartHandshake
        act (.closeRun .elsewhere run)
        attempt (transition run .starting .failed none) .store fun _ =>
          return .error (.harness error)

/-- `start_run_owned`; the guard of the start lock lives until it returns. -/
def startRun (item : WorkItemId) (connection : ConnectionId) (input : String) :
    Sup (Except RunOrchestrationError RunSnapshot) :=
  attempt (act .awaitStartup) id fun _ => do
    act .lockStart
    let result ← startRunLocked item connection input
    act .unlockStart
    return result

/-! ## Requests -/

/-- `call_harness`: an unknown outcome makes the run uncertain. -/
def callHarness (run : RunId) (item : WorkItemId) (call : HarnessCall Unit) :
    Sup (Except RunOrchestrationError Unit) := do
  match ← act (.harness call) with
  | .ok () => return .ok ()
  | .error (.outcomeUnknown operation) =>
      match ← store (.getRun run) with
      | .error _ => pure ()
      | .ok current =>
          if current.status ≠ .outcomeUnknown ∧
              current.status.canTransitionTo .outcomeUnknown = true then
            let _ ← transition run current.status .outcomeUnknown none
      act (.insertUncertainRun run)
      publish item (.runOutcomeUnknown run operation)
      return .error (.harness (.outcomeUnknown operation))
  | .error error => return .error (.harness error)

def steer (run : RunId) (input : String) : Sup (Except RunOrchestrationError Unit) :=
  attempt (act .awaitStartup) id fun _ =>
    attempt (act (.activeRun run)) id fun (provider, item) =>
      callHarness run item (.steer provider input)

def interrupt (run : RunId) : Sup (Except RunOrchestrationError Unit) :=
  attempt (act .awaitStartup) id fun _ =>
    attempt (act (.activeRun run)) id fun (provider, item) =>
      callHarness run item (.interrupt provider)

/-- The decision is durable before the harness hears of it. -/
def beginResponse (approval : ApprovalRequestId) (decision : ApprovalDecision) :
    Sup (Except RunOrchestrationError Unit) := do
  match ← act (.getResponse approval) with
  | some existing =>
      if existing ≠ decision then return .error (.approvalDecisionConflict approval)
      else return .ok ()
  | none =>
      attempt (store (.beginApprovalResponse approval decision)) .store fun _ => do
        act (.insertResponse approval decision)
        return .ok ()

def resolveApproval (approval : ApprovalRequestId) (decision : ApprovalDecision) :
    Sup (Except RunOrchestrationError Unit) :=
  attempt (act .awaitStartup) id fun _ => do
    match ← act (.getApproval approval) with
    | none => return .error (.approvalNotPending approval)
    | some (run, request) =>
        attempt (act (.activeRun run)) id fun (_, item) =>
          attempt (beginResponse approval decision) id fun _ =>
            attempt (callHarness run item
              (.respond request (.approval decision) (some approval))) id fun _ =>
                attempt (store (.confirmApprovalResponse approval)) .store fun _ => do
                  act (.removeApproval approval)
                  publish item (.approvalResolved run approval)
                  return .ok ()

def respondUserInput (input : UserInputRequestId) (response : String) :
    Sup (Except RunOrchestrationError Unit) :=
  attempt (act .awaitStartup) id fun _ => do
    match ← act (.getUserInput input) with
    | none => return .error (.userInputNotPending input)
    | some (run, request) =>
        attempt (act (.activeRun run)) id fun (_, item) =>
          attempt (callHarness run item (.respond request (.userInput response) none)) id
            fun _ => do
              let row ← newItem "user_input_responded" input.uuid.toText none
              attempt (appendItems .elsewhere run item [row] none) .store fun _ => do
                act (.removeUserInput input)
                publish item (.userInputResponded run input)
                return .ok ()

def reconcileRun (run : RunId) : Sup (Except RunOrchestrationError RunSnapshot) :=
  attempt (act .awaitStartup) id fun _ =>
    attempt (store (.getRun run)) .store fun snapshot => do
      let lookup : Sup (Except RunOrchestrationError ProviderRunRef) :=
        match snapshot.providerId with
        | some identity => return .ok ⟨identity⟩
        | none =>
            attempt (act (.harness (.lookupRun snapshot.connectionId run))) .harness fun
              | some provider => return .ok provider
              | none => return .error (.runNeedsReconciliation run)
      attempt lookup id fun provider =>
        attempt (act (.harness (.reconnect provider))) .harness fun canReconnect =>
          if canReconnect then reattachRun snapshot provider
          else return .error (.runNeedsReconciliation run)

/-! ## The machine -/

/-- The bodies of the tasks; what a request returns goes back to its caller. -/
def Proc.body : {β : Type} → Proc β → Sup β
  | _, .startup => YakShed.startup
  | _, .reconcilePages after prepared => YakShed.reconcilePages after prepared
  | _, .loadApprovals run provider after restored =>
      YakShed.loadApprovals run provider after restored
  | _, .loadUserInputs run provider after restored =>
      YakShed.loadUserInputs run provider after restored
  | _, .runEventPump => YakShed.runEventPump
  | _, .consumeRun run item provider channel deltas =>
      YakShed.consumeRun run item provider channel deltas
  | _, .startRun item connection input => do
      let _ ← YakShed.startRun item connection input
  | _, .steer run input => do
      let _ ← YakShed.steer run input
  | _, .interrupt run => do
      let _ ← YakShed.interrupt run
  | _, .resolveApproval approval decision => do
      let _ ← YakShed.resolveApproval approval decision
  | _, .respondUserInput request response => do
      let _ ← YakShed.respondUserInput request response
  | _, .reconcileRun run => do
      let _ ← YakShed.reconcileRun run

def supervisor [Sha256] : Machine Act Proc World Oracle where
  exec := fun act oracle world => act.exec oracle world
  body := Proc.body

/-- A new supervisor over a database. -/
def newSupervisor (db : Database) (issued : List Uuid) : Config Act Proc World where
  world := { db := db, issued := issued }
  tasks := [Prog.invoke .startup]

/-- What a schedule reaches from a new supervisor. -/
theorem supervisor_reaches [Sha256] {admits : ∀ β : Type, Act β → Oracle → World → Prop}
    (db : Database) (issued : List Uuid) (guard : ∀ β : Type, Act β → Oracle → World → Bool)
    (hguard : ∀ (β : Type) (act : Act β) (oracle : Oracle) (world : World),
      guard β act oracle world = true → admits β act oracle world)
    (schedule : List (Machine.Move Proc Oracle)) (check : Config Act Proc World → Bool)
    (h : (supervisor.replay guard Proc.isRequest (newSupervisor db issued) schedule).any check =
      true) :
    ∃ config, Machine.Reach supervisor admits Proc.isRequest (newSupervisor db issued) config ∧
      check config = true :=
  Machine.Reach.exists_of_replay guard hguard schedule check h

/-- Every step is admitted. -/
def anyStep (β : Type) (_ : Act β) (_ : Oracle) (_ : World) : Prop := True

/-! ## Replaying schedules -/

theorem isUuidV7_sample : ∀ k : Fin 512,
    isUuidV7 (BitVec.ofNat 128 (7 * 2 ^ 76 + 2 * 2 ^ 62 + k)) = true := by decide +kernel

/-- Some identifiers to replay schedules with. -/
def sampleUuid (n : Nat) : Uuid :=
  ⟨BitVec.ofNat 128 (7 * 2 ^ 76 + 2 * 2 ^ 62 + n % 512),
    isUuidV7_sample ⟨n % 512, Nat.mod_lt n (by decide)⟩⟩

/-- A project with one ready work item. -/
def oneItem : Database :=
  { projects := [⟨⟨sampleUuid 0⟩, "project", 0⟩]
    workItems := [⟨⟨sampleUuid 1⟩, ⟨sampleUuid 0⟩, "item", .ready, 1, 0, 0, none⟩] }

/-- The identifiers that `oneItem` uses. -/
def oneItemIssued : List Uuid := [sampleUuid 0, sampleUuid 1]

def sampleRun : ProviderRunRef := ⟨⟨"mock", "mock", "run", "run", by decide⟩⟩

namespace Schedule

/-- A step with nothing left open. -/
def run (task : Nat) : Machine.Move Proc Oracle := .step task .silent

/-- A store call that does not fail, with the identifier it draws. -/
def store (task fresh : Nat) : Machine.Move Proc Oracle :=
  .step task (.store none (sampleUuid fresh) ⟨0⟩ ⟨0⟩)

/-- Start-up of task 0 over a database without runs. -/
def startup : List (Machine.Move Proc Oracle) := [run 0, run 0, store 0 2, run 0]

/-- A start of the work item up to its call of the harness: tasks 1 (the start)
and 2 (the event pump, which it starts). The run's identifier is sample 10. -/
def startHandshake : List (Machine.Move Proc Oracle) :=
  [.spawn (.startRun ⟨sampleUuid 1⟩ ⟨sampleUuid 3⟩ "input"), run 1, run 1, run 1, store 1 10,
    store 1 11, run 1, run 1, run 1, run 1, run 2]

/-- The harness accepts the start and the run is bound: up to the section that
publishes its route. -/
def startAccepted : List (Machine.Move Proc Oracle) :=
  [.step 1 (.started (.ok sampleRun)), run 1, store 1 12, store 1 13, run 1]

/-- A whole start; the consumer of the run is task 3. -/
def started : List (Machine.Move Proc Oracle) :=
  startup ++ startHandshake ++ startAccepted ++ [run 1, run 1, run 1, run 1, run 1]

/-- The calls that make `oneItem`. -/
def oneItemCalls : List Call :=
  [⟨.createProject ⟨⟨sampleUuid 0⟩, "project"⟩, ⟨0⟩⟩,
    ⟨.createWorkItem ⟨⟨sampleUuid 1⟩, ⟨sampleUuid 0⟩, "item", none⟩, ⟨0⟩⟩]

end Schedule

theorem oneItem_eq [Sha256] : Database.empty.afterAll Schedule.oneItemCalls = oneItem := rfl

end YakShed
