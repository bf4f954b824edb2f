/-
# The supervisor's world and its atomic actions

An action is what runs without another task in between: one call of a port, one
critical section of the state, one operation on a channel. The answers of the
ports and everything else the supervisor does not decide come from an `Oracle`.

Two things are recorded that the program has no variable for: the identifiers
ever issued, and a log of what the ports saw.
-/

import YakShed.Concurrency.Program
import YakShed.Store.Operations
import YakShed.Supervisor.State

namespace YakShed

open Concurrent

/-! ## Ports -/

/-- The store calls of the supervisor. The identifiers and times that a call
draws on the spot are not part of it. -/
inductive StoreCall : Type → Type
  | createRun (connection : ConnectionId) (item : WorkItemId) : StoreCall RunSnapshot
  | getRun (run : RunId) : StoreCall RunSnapshot
  | getWorkItem (item : WorkItemId) : StoreCall WorkItemSnapshot
  | transitionRun (run : RunId) (expected target : RunStatus)
      (provider : Option ProviderRunIdentity) : StoreCall RunSnapshot
  | getStreamCursor (query : GetStreamCursor) : StoreCall (Option StreamCursorState)
  | appendTimelineBatch (connection : ConnectionId) (run : RunId)
      (sourceNamespace streamId : String) (cursor : StreamCursor)
      (items : List NewTimelineItem) : StoreCall StreamCursor
  | recordPendingApproval (run : RunId) (provider : NamespacedProviderId) (summary : String) :
      StoreCall ApprovalSnapshot
  | beginApprovalResponse (approval : ApprovalRequestId) (decision : ApprovalDecision) :
      StoreCall ApprovalSnapshot
  | confirmApprovalResponse (approval : ApprovalRequestId) : StoreCall ApprovalSnapshot
  | listRunsNeedingReconciliation (after : Option RunId) : StoreCall (Page RunSnapshot RunId)
  | listApprovalsForRun (run : RunId) (after : Option ApprovalRequestId) :
      StoreCall (Page ApprovalSnapshot ApprovalRequestId)
  | listPendingUserInputsForRun (run : RunId) (after : Option TimelineItemId) :
      StoreCall (Page PendingUserInputSnapshot TimelineItemId)

/-- The operation, with the identifier its call draws and the supervisor's time. -/
def StoreCall.op (fresh : Uuid) (occurredAt : UtcTimestamp) :
    {β : Type} → StoreCall β → AppStore β
  | _, createRun connection item => .createRun ⟨⟨fresh⟩, connection, item, none⟩
  | _, getRun run => .getRun run
  | _, getWorkItem item => .getWorkItem item
  | _, transitionRun run expected target provider =>
      .transitionRun ⟨run, expected, target, provider, occurredAt, ⟨fresh⟩⟩
  | _, getStreamCursor query => .getStreamCursor query
  | _, appendTimelineBatch connection run sourceNamespace streamId cursor items =>
      .appendTimelineBatch ⟨⟨fresh⟩, connection, run, sourceNamespace, streamId, cursor, items⟩
  | _, recordPendingApproval run provider summary =>
      .recordPendingApproval ⟨⟨fresh⟩, run, provider, "approval", summary⟩
  | _, beginApprovalResponse approval decision =>
      .beginApprovalResponse ⟨approval, decision, ⟨fresh⟩⟩
  | _, confirmApprovalResponse approval => .confirmApprovalResponse ⟨approval, ⟨fresh⟩⟩
  | _, listRunsNeedingReconciliation after => .listRunsNeedingReconciliation after 200
  | _, listApprovalsForRun run after => .listApprovalsForRun run after 200
  | _, listPendingUserInputsForRun run after => .listPendingUserInputsForRun run after 200

/-- The calls of the run harness; each answers a value or a port error. -/
inductive HarnessCall : Type → Type
  | startRun (connection : ConnectionId) (correlation : RunId) (input : String) :
      HarnessCall ProviderRunRef
  | lookupRun (connection : ConnectionId) (correlation : RunId) :
      HarnessCall (Option ProviderRunRef)
  | steer (run : ProviderRunRef) (input : String) : HarnessCall Unit
  | interrupt (run : ProviderRunRef) : HarnessCall Unit
  /-- The approval answered, if it is one, is known to the caller only. -/
  | respond (request : ProviderRequestRef) (response : HarnessResponse)
      (about : Option ApprovalRequestId) : HarnessCall Unit
  | nextEvent : HarnessCall (Option RunHarnessEvent)
  | reconnect (run : ProviderRunRef) : HarnessCall Bool

/-! ## Tasks -/

structure DeltaBuffer where
  chunks : Nat := 0
  message : String := ""
  commands : Dict ProviderCommandRef (String × String) := ∅

structure StartupRunReattach where
  run : RunSnapshot
  providerRun : ProviderRunRef
  receiver : ChannelId
  publishStatus : Bool

/-- The functions that run as tasks of their own or loop. -/
inductive Proc : Type → Type
  /-- What `RunSupervisor::new` spawns. -/
  | startup : Proc Unit
  | reconcilePages (after : Option RunId) (prepared : List StartupRunReattach) :
      Proc (Except RunOrchestrationError Unit)
  | loadApprovals (run : RunSnapshot) (provider : ProviderRunRef)
      (after : Option ApprovalRequestId) (restored : RestoredRequests run.id) :
      Proc (Except StoreError (RestoredRequests run.id))
  | loadUserInputs (run : RunSnapshot) (provider : ProviderRunRef)
      (after : Option TimelineItemId) (restored : RestoredRequests run.id) :
      Proc (Except StoreError (RestoredRequests run.id))
  | runEventPump : Proc Unit
  | consumeRun (run : RunId) (item : WorkItemId) (provider : ProviderRunRef)
      (channel : ChannelId) (deltas : DeltaBuffer) : Proc Unit
  | startRun (item : WorkItemId) (connection : ConnectionId) (input : String) : Proc Unit
  | steer (run : RunId) (input : String) : Proc Unit
  | interrupt (run : RunId) : Proc Unit
  | resolveApproval (approval : ApprovalRequestId) (decision : ApprovalDecision) : Proc Unit
  | respondUserInput (request : UserInputRequestId) (response : String) : Proc Unit
  | reconcileRun (run : RunId) : Proc Unit

/-- The methods of `RunSupervisor` that anyone may call at any time. -/
def Proc.isRequest : Proc Unit → Bool
  | .startRun .. | .steer .. | .interrupt _ | .resolveApproval .. | .respondUserInput ..
  | .reconcileRun _ => true
  | _ => false

/-! ## The world -/

/-- An `mpsc` channel: its queue, the sender handles outside the route table,
whether the receiver is still there, and whether it was moved into the task that
consumes it. -/
structure Channel where
  queue : List RunHarnessEvent := []
  held : Nat := 0
  receiver : Bool := true
  moved : Bool := false

inductive SendResult
  | sent
  | full
  | closed
  deriving DecidableEq

/-- What the ports saw, and which runs were attached, in order. -/
inductive Obs
  /-- `next_event` returned an event. -/
  | emitted (event : RunHarnessEvent)
  /-- A run's consumer took an event from its channel, in this durable status. -/
  | received (run : RunId) (channel : ChannelId) (event : RunHarnessEvent)
      (status : Option RunStatus)
  /-- A provider run was entered as the run's. -/
  | attached (run : RunId) (provider : ProviderRunRef)
  /-- A decision was sent to the harness, in answer to its request and about an approval. -/
  | responded (request : ProviderRequestRef) (about : Option ApprovalRequestId)
      (decision : ApprovalDecision)
  /-- A run's consumer returned. -/
  | finished (run : RunId) (channel : ChannelId)
  | published (event : AppEvent)
  deriving DecidableEq

structure World where
  db : Database
  state : State := {}
  /-- The pump's join handle is stored. -/
  pump : Bool := false
  startLock : Bool := false
  /-- The state's lock is held across several actions. -/
  stateLock : Bool := false
  /-- What start-up ended with, once it has. -/
  startup : Option (Option RunOrchestrationError) := none
  channels : ChannelId → Channel := fun _ => { receiver := false }
  nextChannel : ChannelId := 0
  issued : List Uuid := []
  log : List Obs := []

namespace World

def withState (world : World) (state : State) : World := { world with state := state }

def note (world : World) (obs : Obs) : World := { world with log := world.log ++ [obs] }

def setChannel (world : World) (id : ChannelId) (channel : Channel) : World :=
  { world with channels := Function.update world.channels id channel }

/-- `mpsc::channel`, with a number of sender handles kept by the caller. -/
def openChannel (world : World) (held : Nat) : World :=
  { world.setChannel world.nextChannel { held := held } with nextChannel := world.nextChannel + 1 }

def trySend (world : World) (id : ChannelId) (event : RunHarnessEvent) : SendResult × World :=
  let channel := world.channels id
  if !channel.receiver then (.closed, world)
  else if routeChannelCapacity ≤ channel.queue.length then (.full, world)
  else (.sent, world.setChannel id { channel with queue := channel.queue ++ [event] })

/-- A sender handle is cloned off the route table. -/
def cloneRoute (world : World) (provider : ProviderRunRef) : Option ChannelId × World :=
  match world.state.routes.find provider with
  | some id =>
      let channel := world.channels id
      (some id, world.setChannel id { channel with held := channel.held + 1 })
  | none => (none, world)

/-- No sender is left: none in the route table and none held by a task. -/
def isClosed (world : World) (id : ChannelId) : Bool :=
  (world.channels id).held = 0 && id ∉ world.state.routes.values

def status (world : World) (run : RunId) : Option RunStatus :=
  (world.db.findRun run).map (·.status)

end World

/-- What the supervisor does not decide. -/
inductive Oracle
  /-- Nothing is left open. -/
  | silent
  /-- The store's failure if any, the identifier drawn, the supervisor's and
  the store's time. -/
  | store (failure : Option StoreError) (fresh : Uuid) (occurredAt now : UtcTimestamp)
  | started (answer : Except HarnessPortError ProviderRunRef)
  | found (answer : Except HarnessPortError (Option ProviderRunRef))
  | acknowledged (answer : Except HarnessPortError Unit)
  | event (answer : Except HarnessPortError (Option RunHarnessEvent))
  | reconnected (answer : Except HarnessPortError Bool)
  | fresh (id : Uuid)
  | runOrder (order : List RunId)
  | commandOrder (order : List ProviderCommandRef)

/-! ## Actions -/

/-- Which part of the supervisor acts. No effect depends on it. -/
inductive Site
  /-- The consumer of a channel. -/
  | consumer (channel : ChannelId)
  /-- The consumer of a channel, applying a terminal event. -/
  | terminal (channel : ChannelId)
  | elsewhere
  deriving DecidableEq

inductive Act : Type → Type 1
  | store {β : Type} (site : Site) (call : StoreCall β) : Act (Except StoreError β)
  | harness {β : Type} (call : HarnessCall β) : Act (Except HarnessPortError β)
  | awaitStartup : Act (Except RunOrchestrationError Unit)
  | finishStartup (error : Option RunOrchestrationError) : Act Unit
  | lockStart : Act Unit
  | unlockStart : Act Unit
  | spawnConsumer (run : RunId) (item : WorkItemId) (provider : ProviderRunRef)
      (channel : ChannelId) : Act Unit
  | broadcast (event : AppEvent) : Act Unit
  | nextTimelineItemId : Act TimelineItemId
  | iterateCommands : Act (List ProviderCommandRef)
  -- the pump handle
  | ensureEventPump : Act Unit
  | takePump : Act Unit
  -- channels
  | openChannel : Act ChannelId
  | trySend (channel : ChannelId) (event : RunHarnessEvent) : Act SendResult
  | dropSender (channel : ChannelId) : Act Unit
  | receive (run : RunId) (channel : ChannelId) : Act (Option RunHarnessEvent)
  | dropReceiver (channel : ChannelId) : Act Unit
  | finishConsumer (run : RunId) (channel : ChannelId) : Act Unit
  -- critical sections of the state
  | insertWorkItem (run : RunId) (item : WorkItemId) : Act Unit
  | beginHandshake (run : RunId) : Act Unit
  | finishStartHandshake : Act Unit
  | retainUnknownHandshake (run : RunId) : Act Unit
  | publishStart (run : RunId) (provider : ProviderRunRef) (channel : ChannelId) :
      Act (List RunHarnessEvent × Bool)
  | takePending (provider : ProviderRunRef) : Act (List RunHarnessEvent × Bool)
  | cloneRoute (provider : ProviderRunRef) : Act (Option ChannelId)
  -- `retain_uncertain_start` sends with the lock held
  | lockRoute (provider : ProviderRunRef) : Act (Option ChannelId)
  | unlockState : Act Unit
  | insertUncertainRun (run : RunId) : Act Unit
  | removeUncertainRun (run : RunId) : Act Unit
  | prepareRoute (run : RunId) (item : WorkItemId) (provider : ProviderRunRef)
      (restored : RestoredRequests run) : Act ChannelId
  | isAttached (run : RunId) : Act Bool
  | removeRouteState (channel : ChannelId) (run : RunId) (provider : ProviderRunRef) : Act Unit
  | takeUncertainStart (run : RunId) : Act (Option PendingStart)
  | routeEvent (provider : ProviderRunRef) (event : RunHarnessEvent) :
      Act (Option (SendResult × Option RunId × Option WorkItemId))
  | clearForPumpFailure : Act (List (RunId × ProviderRunRef × WorkItemId))
  | closeRun (site : Site) (run : RunId) : Act Unit
  | activeRun (run : RunId) : Act (Except RunOrchestrationError (ProviderRunRef × WorkItemId))
  | getApproval (approval : ApprovalRequestId) : Act (Option OpenRequest)
  | getResponse (approval : ApprovalRequestId) : Act (Option ApprovalDecision)
  | insertResponse (approval : ApprovalRequestId) (decision : ApprovalDecision) : Act Unit
  | insertApproval (approval : ApprovalRequestId) (run : RunId) (request : ProviderRequestRef) :
      Act Unit
  | removeApproval (approval : ApprovalRequestId) : Act Unit
  | getUserInput (request : UserInputRequestId) : Act (Option OpenRequest)
  | insertUserInput (id : UserInputRequestId) (run : RunId) (request : ProviderRequestRef) :
      Act Unit
  | removeUserInput (request : UserInputRequestId) : Act Unit

/-- The action takes the state's lock. -/
def Act.takesStateLock : {β : Type} → Act β → Bool
  | _, store .. | _, harness _ | _, awaitStartup | _, finishStartup _ | _, lockStart
  | _, unlockStart | _, spawnConsumer .. | _, broadcast _ | _, nextTimelineItemId
  | _, iterateCommands
  | _, ensureEventPump | _, takePump | _, openChannel | _, trySend .. | _, dropSender _
  | _, receive .. | _, dropReceiver _ | _, finishConsumer .. | _, unlockState => false
  | _, _ => true

abbrev Sup (α : Type) : Type 1 := Prog Act Proc α

/-! ## Effects -/

variable [Sha256]

/-- Serves a store call; identifiers are never issued twice. -/
def StoreCall.exec {β : Type} (call : StoreCall β) (oracle : Oracle) (world : World) :
    Option (Except StoreError β × World) :=
  match oracle with
  | .store failure fresh occurredAt now =>
      if fresh ∈ world.issued then none
      else
        match failure with
        | some error => some (.error error, { world with issued := fresh :: world.issued })
        | none =>
            let (answer, db) := (call.op fresh occurredAt).exec now world.db
            some (answer, { world with db := db, issued := fresh :: world.issued })
  | _ => none

omit [Sha256] in
/-- The harness answers anything. -/
def HarnessCall.exec (world : World) : {β : Type} → HarnessCall β → Oracle →
    Option (Except HarnessPortError β × World)
  | _, startRun .., .started answer => some (answer, world)
  | _, lookupRun .., .found answer => some (answer, world)
  | _, steer .., .acknowledged answer => some (answer, world)
  | _, interrupt _, .acknowledged answer => some (answer, world)
  | _, respond request response about, .acknowledged answer =>
      match response with
      | .approval decision => some (answer, world.note (.responded request about decision))
      | .userInput _ => some (answer, world)
  | _, nextEvent, .event answer =>
      match answer with
      | .ok (some event) => some (answer, world.note (.emitted event))
      | _ => some (answer, world)
  | _, reconnect _, .reconnected answer => some (answer, world)
  | _, _, _ => none

/-- The effect of an action, with the tasks it starts; `none` while it has to
wait for something of its own or when the oracle is not one for it. -/
def Act.effect (world : World) (oracle : Oracle) : {β : Type} → Act β →
    Option (β × World × List (Proc Unit))
  | _, store _ call => (call.exec oracle world).map fun (answer, after) => (answer, after, [])
  | _, harness call => (call.exec world oracle).map fun (answer, after) => (answer, after, [])
  | _, awaitStartup =>
      match world.startup with
      | none => none
      | some none => some (.ok (), world, [])
      | some (some error) => some (.error error, world, [])
  | _, finishStartup error => some ((), { world with startup := some error }, [])
  | _, lockStart =>
      if world.startLock then none else some ((), { world with startLock := true }, [])
  | _, unlockStart => some ((), { world with startLock := false }, [])
  -- A receiver moves into one task only.
  | _, spawnConsumer run item provider id =>
      let channel := world.channels id
      if channel.receiver && !channel.moved then
        some ((), world.setChannel id { channel with moved := true },
          [.consumeRun run item provider id {}])
      else none
  | _, broadcast event => some ((), world.note (.published event), [])
  | _, nextTimelineItemId =>
      match oracle with
      | .fresh id =>
          if id ∈ world.issued then none
          else some (⟨id⟩, { world with issued := id :: world.issued }, [])
      | _ => none
  | _, iterateCommands =>
      match oracle with
      | .commandOrder order => some (order, world, [])
      | _ => none
  | _, ensureEventPump =>
      if world.pump then some ((), world, [])
      else some ((), { world with pump := true }, [.runEventPump])
  | _, takePump => some ((), { world with pump := false }, [])
  | _, openChannel => some (world.nextChannel, world.openChannel 1, [])
  | _, trySend channel event =>
      let (result, after) := world.trySend channel event
      some (result, after, [])
  | _, dropSender id =>
      let channel := world.channels id
      some ((), world.setChannel id { channel with held := channel.held - 1 }, [])
  | _, receive run id =>
      let channel := world.channels id
      match channel.queue with
      | event :: rest =>
          some (some event,
            (world.setChannel id { channel with queue := rest }).note
              (.received run id event (world.status run)), [])
      | [] => if world.isClosed id then some (none, world, []) else none
  | _, dropReceiver id =>
      some ((), world.setChannel id { world.channels id with queue := [], receiver := false }, [])
  | _, finishConsumer run id =>
      some ((), (world.setChannel id
        { world.channels id with queue := [], receiver := false }).note (.finished run id), [])
  | _, insertWorkItem run item =>
      some ((), world.withState
        { world.state with workItems := world.state.workItems.set run item }, [])
  | _, beginHandshake run => some ((), world.withState (world.state.beginHandshake run), [])
  | _, finishStartHandshake => some ((), world.withState world.state.finishStartHandshake, [])
  | _, retainUnknownHandshake run =>
      some ((), world.withState (world.state.retainUnknownHandshake run), [])
  | _, publishStart run provider channel =>
      let (pending, state) := world.state.publishStart run provider channel
      some (pending, (world.withState state).note (.attached run provider), [])
  | _, takePending provider =>
      let (pending, state) := world.state.takePending provider
      some (pending, world.withState state, [])
  | _, cloneRoute provider =>
      let (route, after) := world.cloneRoute provider
      some (route, after, [])
  | _, lockRoute provider =>
      let (route, after) := world.cloneRoute provider
      some (route, { after with stateLock := true }, [])
  | _, unlockState => some ((), { world with stateLock := false }, [])
  | _, insertUncertainRun run =>
      some ((), world.withState
        { world.state with uncertainRuns := world.state.uncertainRuns.insert run }, [])
  | _, removeUncertainRun run =>
      some ((), world.withState
        { world.state with uncertainRuns := world.state.uncertainRuns.filter (· ≠ run) }, [])
  | _, prepareRoute run item provider restored =>
      some (world.nextChannel,
        ((world.openChannel 0).withState
          (world.state.prepareRoute run item provider world.nextChannel restored)).note
            (.attached run provider), [])
  | _, isAttached run => some ((world.state.runs.find run).isSome, world, [])
  | _, removeRouteState _ run provider =>
      some ((), world.withState (world.state.removeRouteState run provider), [])
  | _, takeUncertainStart run =>
      let (pending, state) := world.state.takeUncertainStart run
      some (pending, world.withState state, [])
  | _, routeEvent provider event =>
      match oracle with
      | .runOrder order =>
          match world.state.routes.find provider with
          | none =>
              some (none, world.withState (world.state.bufferHandshakeEvent order provider event),
                [])
          | some channel =>
              let run := world.state.runsByProvider.find provider
              let item := run.bind world.state.workItems.find
              let (result, after) := world.trySend channel event
              some (some (result, run, item), after, [])
      | _ => none
  | _, clearForPumpFailure =>
      match oracle with
      | .runOrder order =>
          some (world.state.affected order, world.withState world.state.cleared, [])
      | _ => none
  | _, closeRun _ run => some ((), world.withState (world.state.closeRun run), [])
  | _, activeRun run => some (world.state.activeRun run, world, [])
  | _, getApproval approval => some (world.state.approvals.find approval, world, [])
  | _, getResponse approval => some (world.state.approvalResponses.find approval, world, [])
  | _, insertResponse approval decision =>
      some ((), world.withState
        { world.state with
          approvalResponses := world.state.approvalResponses.set approval decision }, [])
  | _, insertApproval approval run request =>
      some ((), world.withState
        { world.state with approvals := world.state.approvals.set approval (run, request) }, [])
  | _, removeApproval approval =>
      some ((), world.withState (world.state.removeApproval approval), [])
  | _, getUserInput request => some (world.state.userInputs.find request, world, [])
  | _, insertUserInput id run request =>
      some ((), world.withState
        { world.state with userInputs := world.state.userInputs.set id (run, request) }, [])
  | _, removeUserInput request =>
      some ((), world.withState
        { world.state with userInputs := world.state.userInputs.remove request }, [])

/-- An action waits while another task holds the state's lock. -/
def Act.exec {β : Type} (act : Act β) (oracle : Oracle) (world : World) :
    Option (β × World × List (Proc Unit)) :=
  if act.takesStateLock && world.stateLock then none else act.effect world oracle

theorem Act.effect_of_exec {β : Type} {act : Act β} {oracle : Oracle} {world : World}
    {result : β × World × List (Proc Unit)} (h : act.exec oracle world = some result) :
    act.effect world oracle = some result := by
  unfold exec at h
  split at h
  · cases h
  · exact h

end YakShed
