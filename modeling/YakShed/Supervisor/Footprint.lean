/-
# What a function may do

For each function of the supervisor, the actions it performs and the procedures
it calls. A proof about every interleaving walks through the functions it is
about and disposes of the others by what is collected here.

Actions that only read, draw an identifier or notify are `isQuiet` and are not
listed.
-/

import YakShed.Concurrency.Outline
import YakShed.Supervisor.Effects

namespace YakShed

open Concurrent

/-! ## Quiet actions -/

/-- The call answers without changing a row. -/
def StoreCall.isRead : {β : Type} → StoreCall β → Bool
  | _, getRun _ | _, getWorkItem _ | _, getStreamCursor _ | _, listRunsNeedingReconciliation _
  | _, listApprovalsForRun .. | _, listPendingUserInputsForRun .. => true
  | _, _ => false

/-- The action changes nothing that another task reads. -/
def Act.isQuiet : {β : Type} → Act β → Bool
  | _, store _ call => call.isRead
  | _, awaitStartup | _, broadcast _ | _, nextTimelineItemId | _, iterateCommands | _, isAttached _
  | _, activeRun _ | _, getApproval _ | _, getResponse _ | _, getUserInput _ => true
  | _, _ => false

/-- The procedure is the loop over the events of one run. -/
def Proc.isConsumer : {β : Type} → Proc β → Bool
  | _, consumeRun .. => true
  | _, _ => false

/-! ## Functions -/

section Footprints

/-- The action is one of the two of a publication. -/
def Act.announces : {β : Type} → Act β → Bool
  | _, store _ (.getWorkItem _) | _, broadcast _ => true
  | _, _ => false

/-- A kind of programs that sequencing keeps and that has all quiet actions and all
publications. -/
structure Quiet (P : {α : Type} → Sup α → Prop) : Prop where
  done : ∀ {α : Type} (value : α), P (.done value)
  bind : ∀ {α β : Type} {program : Sup α} {rest : α → Sup β}, P program →
    (∀ value, P (rest value)) → P (program >>= rest)
  act : ∀ {β : Type} (action : Act β), action.isQuiet = true → action.announces = false →
    P (act action)
  publish : ∀ (item : WorkItemId) (what : AppEventKind), P (publish item what)

variable {P : {α : Type} → Sup α → Prop} {α β : Type}

namespace Quiet

variable (quiet : Quiet P)

include quiet

/-- An early return is a case distinction on a result. -/
theorem attempt {ε ε' γ : Type} {program : Sup (Except ε β)} {convert : ε → ε'}
    {next : β → Sup (Except ε' γ)} (h : P program) (hnext : ∀ value, P (next value)) :
    P (YakShed.attempt program convert next) := by
  refine quiet.bind h fun result => ?_
  cases result with
  | error error => exact quiet.done _
  | ok value => exact hnext value

/-- A loop over a list is its iterations one after another. -/
theorem forEach {iteration : β → Sup Unit} (h : ∀ value, P (iteration value)) :
    ∀ values, P (YakShed.forEach iteration values)
  | [] => quiet.done _
  | value :: rest => quiet.bind (h value) fun _ => forEach h rest

/-- Events go out one after another, until one of them finds no room. -/
theorem sendAll {channel : ChannelId} (h : ∀ event, P (YakShed.act (.trySend channel event))) :
    ∀ events, P (YakShed.sendAll channel events)
  | [] => quiet.done _
  | event :: rest => by
      refine quiet.bind (h event) fun result => ?_
      cases result
      case sent => exact sendAll h rest
      all_goals exact quiet.done _

end Quiet

variable (quiet : Quiet P)

include quiet

/-- A transition is one compare-and-set and its publication. -/
theorem transition_all {site : Site} {run : RunId} {expected status : RunStatus}
    {provider : Option ProviderRunIdentity}
    (hmove : P (act (.store site (.transitionRun run expected status provider)))) :
    P (transition run expected status provider site) :=
  quiet.attempt (hmove) fun _ =>
    quiet.bind (quiet.publish _ _) fun _ => quiet.done _

/-- The status that is expected is the one just read. -/
theorem transitionToTerminal_all {site : Site} {run : RunId} {status : RunStatus}
    (hmove : ∀ expected, P (act (.store site (.transitionRun run expected status none)))) :
    P (transitionToTerminal site run status) :=
  quiet.attempt (quiet.act _ rfl rfl) fun _ =>
    quiet.attempt (transition_all quiet (hmove _)) fun _ => quiet.done _

/-! ### Runs whose events are lost -/

/-- The step of a run whose events are lost, if its status has one. -/
theorem transitionToLost_all {run : RunId} {current : RunStatus}
    (hmove : ∀ target, P (act (.store .elsewhere (.transitionRun run current target none)))) :
    P (transitionToLost run current) := by
  unfold transitionToLost
  cases current.lost with
  | some target => exact quiet.bind (transition_all quiet (hmove target)) fun _ => quiet.done _
  | none => exact quiet.done _

/-- A run is disconnected from the status it is read in. -/
theorem transitionToDisconnected_all {run : RunId}
    (hmove : ∀ current target,
      P (act (.store .elsewhere (.transitionRun run current target none)))) :
    P (transitionToDisconnected run) := by
  refine quiet.bind (quiet.act _ rfl rfl) fun found => ?_
  cases found with
  | error error => exact quiet.done _
  | ok snapshot =>
      dsimp only
      split
      · exact quiet.bind (transition_all quiet (hmove _ _)) fun _ => quiet.done _
      · exact quiet.done _

/-- A run whose channel is full is closed and then counts as lost. -/
theorem handleRouteOverflow_all {run : RunId} {item : WorkItemId}
    (hclose : P (act (.closeRun .elsewhere run)))
    (hmove : ∀ current target,
      P (act (.store .elsewhere (.transitionRun run current target none)))) :
    P (handleRouteOverflow run item) := by
  refine quiet.bind hclose fun _ => quiet.bind (quiet.act _ rfl rfl) fun found => ?_
  cases found with
  | error error => exact quiet.done _
  | ok current =>
      exact quiet.bind (transitionToLost_all quiet (hmove _)) fun _ => quiet.publish _ _

/-- When the pump fails, every attached run counts as lost. -/
theorem handlePumpFailure_all {operation : String} (hclear : P (act .clearForPumpFailure))
    (htake : P (act .takePump))
    (hmove : ∀ run current target,
      P (act (.store .elsewhere (.transitionRun run current target none)))) :
    P (handlePumpFailure operation) := by
  refine quiet.bind hclear fun affected => quiet.bind htake fun _ => ?_
  refine quiet.forEach (fun entry => ?_) affected
  refine quiet.bind (quiet.act _ rfl rfl) fun found => ?_
  cases found with
  | error error => exact quiet.publish _ _
  | ok current =>
      exact quiet.bind (transitionToLost_all quiet (hmove _ _)) fun _ => quiet.publish _ _

/-- An event is sent to its run, which is lost if it cannot be. -/
theorem routeEvent_all {event : RunHarnessEvent}
    (hroute : ∀ provider, P (act (.routeEvent provider event)))
    (hclose : ∀ run, P (act (.closeRun .elsewhere run)))
    (hmove : ∀ run current target,
      P (act (.store .elsewhere (.transitionRun run current target none)))) :
    P (routeEvent event) := by
  unfold routeEvent
  cases event.run with
  | none => exact quiet.done _
  | some provider =>
      refine quiet.bind (hroute provider) fun outcome => ?_
      split
      · exact handleRouteOverflow_all quiet (hclose _) (hmove _)
      · exact transitionToDisconnected_all quiet (hmove _)
      · exact quiet.done _

/-- One turn of the event pump. -/
theorem runEventPump_all (hnext : P (act (.harness .nextEvent)))
    (hroute : ∀ event, P (routeEvent event))
    (hfailure : ∀ operation, P (handlePumpFailure operation))
    (hagain : P (Prog.invoke .runEventPump)) : P runEventPump := by
  refine quiet.bind hnext fun answer => ?_
  split
  · exact quiet.bind (hroute _) fun _ => hagain
  · exact hfailure _
  · exact hfailure _
  · exact hfailure _

/-! ### Rows -/

/-- A new row only draws an identifier. -/
theorem newItem_all (what body : String) (provider : Option NamespacedProviderId) :
    P (newItem what body provider) :=
  quiet.bind (quiet.act _ rfl rfl) fun _ => quiet.done _

/-- The rows of the commands' buffered output. -/
theorem takeCommandItems_all : ∀ commands, P (takeCommandItems commands)
  | [] => quiet.done _
  | (command, commandText, output) :: rest => by
      refine quiet.bind (quiet.act _ rfl rfl) fun itemId => ?_
      cases commandProviderId command with
      | error error => exact quiet.done _
      | ok provider => exact quiet.attempt (takeCommandItems_all rest) fun _ => quiet.done _

/-- All rows that were buffered, the message first. -/
theorem takeItems_all (deltas : DeltaBuffer) : P (takeItems deltas) := by
  refine quiet.bind ?_ fun message => ?_
  · unfold takeMessageItem
    split
    · exact quiet.done _
    · exact quiet.bind (newItem_all quiet _ _ _) fun _ => quiet.done _
  · refine quiet.bind (quiet.act _ rfl rfl) fun order => ?_
    exact quiet.attempt (takeCommandItems_all quiet _) fun _ => quiet.done _

/-- Rows are appended under the cursor that was just read. -/
theorem appendItems_all {site : Site} {run : RunId} {item : WorkItemId}
    {items : List NewTimelineItem} {stream : Option ProviderRunRef}
    (happend : ∀ connection sourceNamespace streamId cursor, P (act (.store site
      (.appendTimelineBatch connection run sourceNamespace streamId cursor items)))) :
    P (appendItems site run item items stream) := by
  unfold appendItems
  split
  · exact quiet.done _
  · refine quiet.attempt (quiet.act _ rfl rfl) fun _ => ?_
    refine quiet.attempt (quiet.act _ rfl rfl) fun _ => ?_
    refine quiet.attempt (quiet.act _ rfl rfl) fun _ => ?_
    refine quiet.attempt (happend _ _ _ _) fun _ => ?_
    exact quiet.bind (quiet.publish _ _) fun _ => quiet.done _

/-! ### Consuming -/

/-- What applying an event may do, unless the event is a request for an approval. -/
structure AppliesRows (P : {α : Type} → Sup α → Prop) (run : RunId)
    (channel : ChannelId) : Prop where
  append : ∀ site connection sourceNamespace streamId cursor items, P (act (.store site
    (.appendTimelineBatch connection run sourceNamespace streamId cursor items)))
  insertUserInput : ∀ id request, P (act (.insertUserInput id run request))
  terminal : ∀ expected target,
    P (act (.store (.terminal channel) (.transitionRun run expected target none)))

/-- What applying an event may do. -/
structure Applies (P : {α : Type} → Sup α → Prop) (run : RunId) (channel : ChannelId) : Prop
    extends AppliesRows P run channel where
  approval : ∀ provider summary,
    P (act (.store .elsewhere (.recordPendingApproval run provider summary)))
  insertApproval : ∀ id request, P (act (.insertApproval id run request))

variable {run : RunId} {channel : ChannelId} (happlies : AppliesRows P run channel)

include happlies

/-- Rows are appended, and the buffer starts afresh. -/
theorem appendRows_all {site : Site} (item : WorkItemId) (provider : ProviderRunRef)
    (items : List NewTimelineItem) : P (appendRows site run item provider items) :=
  quiet.attempt (appendItems_all quiet fun _ _ _ _ => happlies.append _ _ _ _ _ _)
    fun _ => quiet.done _

/-- A request for input is kept before its row is appended. -/
theorem applyUserInputRequested_all (site : Site) (item : WorkItemId) (provider : ProviderRunRef)
    (request : ProviderRequestRef) (prompt : String) (items : List NewTimelineItem) :
    P (applyUserInputRequested site run item provider request prompt items) := by
  refine quiet.bind (quiet.act _ rfl rfl) fun inputId => ?_
  cases requestProviderId request with
  | error error => exact quiet.done _
  | ok requestId =>
      refine quiet.bind (happlies.insertUserInput _ _) fun _ => ?_
      refine quiet.attempt (appendItems_all quiet fun _ _ _ _ => happlies.append _ _ _ _ _ _)
        fun _ => ?_
      exact quiet.bind (quiet.publish _ _) fun _ => quiet.done _

/-- Applying an event, up to what a request for an approval does of its own. -/
theorem applyEvent_of (item : WorkItemId) (provider : ProviderRunRef) (deltas : DeltaBuffer)
    (event : RunHarnessEvent) (hrequested : ∀ request summary,
      event = .approvalRequested request summary →
      P (applyApprovalRequested run item request summary)) :
    P (applyEvent channel run item provider deltas event) := by
  have hrows : ∀ items, P (appendRows (.consumer channel) run item provider items) :=
    appendRows_all quiet happlies item provider
  have hfull : ∀ deltas : DeltaBuffer, P
      (if deltaBatchChunks ≤ deltas.chunks then
        attempt (takeItems deltas) id (appendRows (.consumer channel) run item provider)
      else return .ok deltas) := by
    intro deltas
    split
    · exact quiet.attempt (takeItems_all quiet deltas) hrows
    · exact quiet.done _
  cases event with
  | runAccepted => exact quiet.done _
  | messageDelta _ chunk => exact hfull _
  | commandOutputDelta _ command commandText chunk => exact hfull _
  | messageCompleted | fileMutation | unknown | malformed =>
      exact quiet.attempt (takeItems_all quiet deltas) fun items =>
        quiet.bind (newItem_all quiet _ _ _) fun row => hrows _
  | commandOutputCompleted _ command commandText output =>
      refine quiet.attempt (takeItems_all quiet deltas) fun items => ?_
      cases commandProviderId command with
      | error error => exact quiet.done _
      | ok commandId => exact quiet.bind (newItem_all quiet _ _ _) fun row => hrows _
  | approvalRequested request summary =>
      refine quiet.attempt (takeItems_all quiet deltas) fun items => ?_
      exact quiet.attempt (appendItems_all quiet fun _ _ _ _ => happlies.append _ _ _ _ _ _)
        fun _ => hrequested request summary rfl
  | userInputRequested request prompt =>
      exact quiet.attempt (takeItems_all quiet deltas) fun items =>
        applyUserInputRequested_all quiet happlies _ item provider request prompt items
  | runTerminal _ state =>
      refine quiet.attempt (takeItems_all quiet deltas) fun items => ?_
      refine quiet.attempt (appendItems_all quiet fun _ _ _ _ => happlies.append _ _ _ _ _ _)
        fun _ => ?_
      exact quiet.attempt (transitionToTerminal_all quiet fun _ => happlies.terminal _ _)
        fun _ => quiet.done _

omit happlies

/-- A request for an approval is recorded before it is kept. -/
theorem applyApprovalRequested_all (happlies : Applies P run channel)
    (item : WorkItemId) (request : ProviderRequestRef)
    (summary : String) : P (applyApprovalRequested run item request summary) := by
  unfold applyApprovalRequested
  cases requestProviderId request with
  | error error => exact quiet.done _
  | ok requestId =>
      refine quiet.attempt (happlies.approval _ _) fun approval => ?_
      exact quiet.bind (happlies.insertApproval _ _) fun _ =>
        quiet.bind (quiet.publish _ _) fun _ => quiet.done _

/-- Applying an event of any kind. -/
theorem applyEvent_all (happlies : Applies P run channel) (item : WorkItemId)
    (provider : ProviderRunRef) (deltas : DeltaBuffer) (event : RunHarnessEvent) :
    P (applyEvent channel run item provider deltas event) :=
  applyEvent_of quiet happlies.toAppliesRows item provider deltas event fun request summary _ =>
    applyApprovalRequested_all quiet happlies item request summary

/-- What becomes of a run when one of its events cannot be applied. -/
theorem consumptionFailed_all (item : WorkItemId)
    (hmove : ∀ expected target,
      P (act (.store .elsewhere (.transitionRun run expected target none)))) :
    P (consumptionFailed run item) := by
  refine quiet.bind (quiet.act _ rfl rfl) fun found => ?_
  cases found with
  | error error => exact quiet.done _
  | ok current =>
      dsimp only
      split
      · exact quiet.bind (transition_all quiet (hmove _ _)) fun _ => quiet.publish _ _
      · exact quiet.done _

/-- One turn of a consumer: it receives, applies, and goes on or closes its run. -/
theorem consumeRun_all {item : WorkItemId} {provider : ProviderRunRef} (deltas : DeltaBuffer)
    (happlies : Applies P run channel)
    (hmove : ∀ expected target,
      P (act (.store .elsewhere (.transitionRun run expected target none))))
    (hclose : P (act (.closeRun (.consumer channel) run)))
    (hfinish : P (act (.finishConsumer run channel))) (hreceive : P (act (.receive run channel)))
    (hagain : ∀ deltas, P (Prog.invoke (.consumeRun run item provider channel deltas))) :
    P (consumeRun run item provider channel deltas) := by
  have hend : P (finishConsumer run channel) :=
    quiet.bind hclose fun _ => hfinish
  refine quiet.bind hreceive fun received => ?_
  cases received with
  | none => exact hend
  | some event =>
      refine quiet.bind (applyEvent_all quiet happlies item provider deltas event) ?_
      intro result
      cases result with
      | error error =>
          exact quiet.bind (consumptionFailed_all quiet item hmove) fun _ => hend
      | ok deltas =>
          dsimp only
          split
          · exact hend
          · exact hagain deltas

/-! ### Requests -/

/-- Only a run that is active has a transition to make. -/
theorem transitionIfActive_all (snapshot : RunSnapshot)
    (hmove : ∀ target, P (act (.store .elsewhere
      (.transitionRun snapshot.id snapshot.status target none)))) :
    P (transitionIfActive snapshot) := by
  unfold transitionIfActive
  split
  · exact quiet.attempt (transition_all quiet (hmove _)) fun _ => quiet.done _
  · exact quiet.done _

/-- A call of the harness, after which the run may be uncertain. -/
theorem callHarness_all {item : WorkItemId} {call : HarnessCall Unit}
    (hcall : P (act (.harness call)))
    (hmove : ∀ expected target,
      P (act (.store .elsewhere (.transitionRun run expected target none))))
    (huncertain : P (act (.insertUncertainRun run))) :
    P (callHarness run item call) := by
  refine quiet.bind hcall fun answer => ?_
  cases answer with
  | ok value => exact quiet.done _
  | error error =>
      have hend : ∀ operation : String, P
          (act (.insertUncertainRun run) >>= fun _ =>
            publish item (.runOutcomeUnknown run operation) >>= fun _ =>
              (return .error (.harness (.outcomeUnknown operation)) :
                Sup (Except RunOrchestrationError Unit))) := fun operation =>
        quiet.bind huncertain fun _ => quiet.bind (quiet.publish _ _) fun _ => quiet.done _
      cases error with
      | outcomeUnknown operation =>
          refine quiet.bind (quiet.act _ rfl rfl) fun found => ?_
          cases found with
          | error error => exact hend operation
          | ok current =>
              dsimp only
              split
              · exact quiet.bind (transition_all quiet (hmove _ _)) fun _ => hend operation
              · exact hend operation
      | _ => exact quiet.done _

/-- A route goes live, with a consumer of its own. -/
theorem activateRoute_all {item : WorkItemId} {provider : ProviderRunRef}
    (hspawn : P (act (.spawnConsumer run item provider channel)))
    (hcertain : P (act (.removeUncertainRun run))) (hpump : P (act .ensureEventPump)) :
    P (activateRoute run item provider channel) :=
  quiet.bind hspawn fun _ => quiet.bind hcertain fun _ => hpump

/-- The events of a start that was given up are sent after all. -/
theorem deliverUncertainStartEvents_all {snapshot : RunSnapshot} {provider : ProviderRunRef}
    (htake : P (act (.takeUncertainStart snapshot.id))) (hclone : P (act (.cloneRoute provider)))
    (hsend : ∀ channel event, P (act (.trySend channel event)))
    (hdrop : ∀ channel, P (act (.dropSender channel)))
    (hclose : P (act (.closeRun .elsewhere snapshot.id)))
    (hmove : ∀ current target,
      P (act (.store .elsewhere (.transitionRun snapshot.id current target none)))) :
    P (deliverUncertainStartEvents snapshot provider) := by
  have hoverflow : P (handleRouteOverflow snapshot.id snapshot.workItemId) :=
    handleRouteOverflow_all quiet hclose hmove
  refine quiet.bind htake fun taken => ?_
  cases taken with
  | none => exact quiet.done _
  | some pending =>
      refine quiet.bind hclone fun route => ?_
      cases route with
      | none => exact hoverflow
      | some route =>
          dsimp only
          split
          · exact quiet.bind hoverflow fun _ => hdrop _
          · refine quiet.bind (quiet.sendAll (hsend _) _) fun sent => ?_
            cases sent
            · exact quiet.bind hoverflow fun _ => hdrop _
            · exact hdrop _

/-- What a request about an attached run may do. -/
theorem requestRun_all (call : ProviderRunRef → HarnessCall Unit)
    (hcall : ∀ provider, P (act (.harness (call provider))))
    (hmove : ∀ expected target,
      P (act (.store .elsewhere (.transitionRun run expected target none))))
    (huncertain : P (act (.insertUncertainRun run))) :
    P (attempt (act .awaitStartup) id fun _ =>
      attempt (act (.activeRun run)) id fun (provider, item) =>
        callHarness run item (call provider)) :=
  quiet.attempt (quiet.act _ rfl rfl) fun _ =>
    quiet.attempt (quiet.act _ rfl rfl) fun active =>
      callHarness_all quiet (hcall active.1) hmove huncertain

/-- The answer of a user goes to the harness before it becomes a row. -/
theorem respondUserInput_all {input : UserInputRequestId} {response : String}
    (hcall : ∀ request, P (act (.harness (.respond request (.userInput response) none))))
    (hmove : ∀ run expected target,
      P (act (.store .elsewhere (.transitionRun run expected target none))))
    (huncertain : ∀ run, P (act (.insertUncertainRun run)))
    (happend : ∀ connection run sourceNamespace streamId cursor items, P (act (.store .elsewhere
      (.appendTimelineBatch connection run sourceNamespace streamId cursor items))))
    (hremove : P (act (.removeUserInput input))) :
    P (respondUserInput input response) := by
  refine quiet.attempt (quiet.act _ rfl rfl) fun _ => ?_
  refine quiet.bind (quiet.act _ rfl rfl) fun found => ?_
  cases found with
  | none => exact quiet.done _
  | some found =>
      refine quiet.attempt (quiet.act _ rfl rfl) fun active => ?_
      refine quiet.attempt (callHarness_all quiet (hcall _) (hmove _) (huncertain _)) fun _ => ?_
      refine quiet.bind (newItem_all quiet _ _ _) fun row => ?_
      refine quiet.attempt (appendItems_all quiet fun _ _ _ _ => happend _ _ _ _ _ _) fun _ => ?_
      exact quiet.bind hremove fun _ => quiet.bind (quiet.publish _ _) fun _ => quiet.done _

/-- A run that was reattached gets its route and its events. -/
theorem activateStartupReattach_all {plan : StartupRunReattach}
    (hspawn : P (act (.spawnConsumer plan.run.id plan.run.workItemId plan.providerRun
      plan.receiver)))
    (hcertain : P (act (.removeUncertainRun plan.run.id))) (hpump : P (act .ensureEventPump))
    (hdeliver : P (deliverUncertainStartEvents plan.run plan.providerRun)) :
    P (activateStartupReattach plan) := by
  refine quiet.bind (activateRoute_all quiet hspawn hcertain hpump) fun _ => ?_
  dsimp only
  split
  · exact quiet.bind (quiet.publish _ _) fun _ => hdeliver
  · exact hdeliver

/-- The routes that were prepared are taken back. -/
theorem removePrepared_all {prepared : List StartupRunReattach}
    (hremove : ∀ plan ∈ prepared,
      P (act (.removeRouteState plan.receiver plan.run.id plan.providerRun)))
    (hdrop : ∀ plan ∈ prepared, P (act (.dropReceiver plan.receiver))) :
    P (removePrepared prepared) := by
  induction prepared with
  | nil => exact quiet.done _
  | cons plan rest ih =>
      refine quiet.bind ?_ fun _ => ?_
      · exact quiet.bind (hremove plan List.mem_cons_self) fun _ =>
          (hdrop plan List.mem_cons_self)
      · exact ih (fun plan hmem => hremove plan (List.mem_cons_of_mem _ hmem))
          fun plan hmem => hdrop plan (List.mem_cons_of_mem _ hmem)

/-! ### Starting a run -/

/-- What binding a run to its provider run may do. -/
structure Attaches (P : {α : Type} → Sup α → Prop) : Prop where
  move : ∀ run expected target provider,
    P (act (.store .elsewhere (.transitionRun run expected target provider)))
  interrupt : ∀ provider, P (act (.harness (.interrupt provider)))
  close : ∀ run, P (act (.closeRun .elsewhere run))
  pump : P (act .ensureEventPump)
  openChannel : P (act .openChannel)
  publish : ∀ run provider channel, P (act (.publishStart run provider channel))
  take : ∀ provider, P (act (.takePending provider))
  consume : ∀ run item provider channel, P (act (.spawnConsumer run item provider channel))
  prepare : ∀ run item provider, P (act (.prepareRoute run item provider {}))
  lockRoute : ∀ provider, P (act (.lockRoute provider))
  unlockState : P (act .unlockState)
  send : ∀ channel event, P (act (.trySend channel event))
  dropSender : ∀ channel, P (act (.dropSender channel))
  dropReceiver : ∀ channel, P (act (.dropReceiver channel))
  certain : ∀ run, P (act (.removeUncertainRun run))
  uncertain : ∀ run, P (act (.insertUncertainRun run))

/-- What a start may do. -/
structure Starts (P : {α : Type} → Sup α → Prop) : Prop extends Attaches P where
  create : ∀ connection item, P (act (.store .elsewhere (.createRun connection item)))
  start : ∀ connection run input, P (act (.harness (.startRun connection run input)))
  lock : P (act .lockStart)
  unlock : P (act .unlockStart)
  workItem : ∀ run item, P (act (.insertWorkItem run item))
  begin : ∀ run, P (act (.beginHandshake run))
  finish : P (act .finishStartHandshake)
  retain : ∀ run, P (act (.retainUnknownHandshake run))

section Attaches

variable (hattaches : Attaches P)

include hattaches

/-- A run that is bound gets its requests back and a route. -/
theorem attachRoute_all (item : WorkItemId) (provider : ProviderRunRef) :
    P (attachRoute run item provider) := by
  refine quiet.attempt (quiet.act _ rfl rfl) fun _ => ?_
  refine quiet.bind (hattaches.prepare _ _ _) fun receiver => ?_
  exact quiet.bind (activateRoute_all quiet (hattaches.consume _ _ _ _) (hattaches.certain _)
    hattaches.pump)
    fun _ => quiet.done _

/-- A start that the store refused is interrupted and kept as uncertain. -/
theorem retainUncertainStart_all (item : WorkItemId) (provider : ProviderRunRef) :
    P (retainUncertainStart run item provider) := by
  refine quiet.bind (hattaches.take _) fun taken => ?_
  refine quiet.bind (hattaches.interrupt _) fun _ => ?_
  refine quiet.bind (transition_all quiet (hattaches.move _ _ _ _)) fun _ => ?_
  refine quiet.bind (attachRoute_all quiet hattaches item provider) fun _ => ?_
  refine quiet.bind (hattaches.lockRoute _) fun route => ?_
  have hend : P (act .unlockState >>= fun _ =>
      act (.insertUncertainRun run) >>= fun _ =>
        publish item (.runOutcomeUnknown run "start_binding_failed") >>= fun _ =>
          if taken.2 then handleRouteOverflow run item else pure ()) := by
    refine quiet.bind hattaches.unlockState fun _ => quiet.bind (hattaches.uncertain _) fun _ => ?_
    refine quiet.bind (quiet.publish _ _) fun _ => ?_
    split
    · exact handleRouteOverflow_all quiet (hattaches.close _) fun _ _ => hattaches.move _ _ _ _
    · exact quiet.done _
  cases route with
  | none => exact hend
  | some route =>
      refine quiet.bind (quiet.sendAll (hattaches.send _) _) fun _ => ?_
      exact quiet.bind (hattaches.dropSender _) fun _ => hend

/-- A start from the harness's answer on. -/
theorem attachStarted_all (item : WorkItemId) (provider : ProviderRunRef) :
    P (attachStarted run item provider) := by
  refine quiet.bind hattaches.openChannel fun channel => ?_
  refine quiet.bind (transition_all quiet (hattaches.move _ _ _ _)) fun moved => ?_
  cases moved with
  | error error =>
      refine quiet.bind (retainUncertainStart_all quiet hattaches item provider) fun _ => ?_
      exact quiet.bind (hattaches.dropReceiver _) fun _ =>
        quiet.bind (hattaches.dropSender _) fun _ => quiet.done _
  | ok snapshot =>
      have hoverflow : P (handleRouteOverflow run item) :=
        handleRouteOverflow_all quiet (hattaches.close _) fun _ _ => hattaches.move _ _ _ _
      have hend : P (act (.dropSender channel) >>= fun _ =>
          (return .ok snapshot : Sup (Except RunOrchestrationError RunSnapshot))) :=
        quiet.bind (hattaches.dropSender _) fun _ => quiet.done _
      refine quiet.bind (hattaches.publish _ _ _) fun pending => ?_
      refine quiet.bind (hattaches.consume _ _ _ _) fun _ => quiet.bind hattaches.pump fun _ => ?_
      dsimp only
      split
      · exact quiet.bind hoverflow fun _ => hend
      · refine quiet.bind (quiet.sendAll (hattaches.send _) _) fun sent => ?_
        cases sent
        · exact quiet.bind hoverflow fun _ => hend
        · exact hend

end Attaches

variable (hstarts : Starts P)

include hstarts

/-- A whole start, under the start lock. -/
theorem startRun_all (item : WorkItemId) (connection : ConnectionId) (input : String) :
    P (startRun item connection input) := by
  refine quiet.attempt (quiet.act _ rfl rfl) fun _ => quiet.bind hstarts.lock fun _ => ?_
  refine quiet.bind ?_ fun _ => quiet.bind hstarts.unlock fun _ => quiet.done _
  refine quiet.attempt (hstarts.create _ _) fun created => ?_
  refine quiet.bind (quiet.publish _ _) fun _ => ?_
  refine quiet.bind (hstarts.workItem _ _) fun _ => quiet.bind (hstarts.begin _) fun _ => ?_
  refine quiet.bind hstarts.pump fun _ => quiet.bind (hstarts.start _ _ _) fun answer => ?_
  cases answer with
  | ok provider => exact attachStarted_all quiet hstarts.toAttaches item provider
  | error error =>
      have hfailed : P (act .finishStartHandshake >>= fun _ =>
          act (.closeRun .elsewhere created.id) >>= fun _ =>
            attempt (transition created.id .starting .failed none) .store fun _ =>
              (return .error (.harness error) :
                Sup (Except RunOrchestrationError RunSnapshot))) := by
        refine quiet.bind hstarts.finish fun _ => quiet.bind (hstarts.close _) fun _ => ?_
        exact quiet.attempt (transition_all quiet (hstarts.move _ _ _ _)) fun _ => quiet.done _
      cases error with
      | outcomeUnknown operation =>
          refine quiet.bind (hstarts.retain _) fun _ => ?_
          refine quiet.attempt (transition_all quiet (hstarts.move _ _ _ _)) fun _ => ?_
          exact quiet.bind (quiet.publish _ _) fun _ => quiet.done _
      | _ => exact hfailed

omit hstarts quiet

/-! ### All but the consumer's own turns -/

/-- The section that keeps an unresolved start. -/
def Act.retains : {β : Type} → Act β → Bool
  | _, retainUnknownHandshake _ => true
  | _, _ => false

/-- A kind of programs that has every action but a consumer's turn and the section
that ends a start of unknown outcome. -/
structure Routine (P : {α : Type} → Sup α → Prop) : Prop extends Quiet P where
  turn : ∀ {β : Type} (action : Act β), action.isTurn = false → action.announces = false →
    action.retains = false → P (YakShed.act action)

/-- A consumer's turn is no quiet action. -/
theorem Act.isTurn_of_isQuiet {β : Type} {action : Act β} (h : action.isQuiet = true) :
    action.isTurn = false := by
  cases action <;> first | rfl | cases h

variable (routine : Routine P)

include routine

/-- Routine programs attach runs. -/
theorem routine_attaches : Attaches P := by
  constructor <;> (intros; exact routine.turn _ rfl rfl rfl)

/-- Routine programs start runs, where they may keep an unresolved start. -/
theorem routine_starts (hretain : ∀ run, P (act (.retainUnknownHandshake run))) : Starts P where
  toAttaches := routine_attaches routine
  create := fun _ _ => routine.turn _ rfl rfl rfl
  start := fun _ _ _ => routine.turn _ rfl rfl rfl
  lock := routine.turn _ rfl rfl rfl
  unlock := routine.turn _ rfl rfl rfl
  workItem := fun _ _ => routine.turn _ rfl rfl rfl
  begin := fun _ => routine.turn _ rfl rfl rfl
  finish := routine.turn _ rfl rfl rfl
  retain := hretain

/-- Routine programs apply events. -/
theorem routine_applies (run : RunId) (channel : ChannelId) : Applies P run channel where
  append := fun _ _ _ _ _ _ => routine.turn _ rfl rfl rfl
  insertUserInput := fun _ _ => routine.turn _ rfl rfl rfl
  terminal := fun _ _ => routine.turn _ rfl rfl rfl
  approval := fun _ _ => routine.turn _ rfl rfl rfl
  insertApproval := fun _ _ => routine.turn _ rfl rfl rfl

/-- One page of the approvals that are restored. -/
theorem loadApprovals_all {snapshot : RunSnapshot} {provider : ProviderRunRef}
    (hagain : ∀ after restored, P (Prog.invoke (.loadApprovals snapshot provider after restored)))
    (after : Option ApprovalRequestId) (restored : RestoredRequests snapshot.id) :
    P (loadApprovals snapshot provider after restored) := by
  refine routine.attempt (routine.turn _ rfl rfl rfl) fun page => ?_
  dsimp only
  split
  · exact hagain _ _
  · exact routine.done _

/-- One page of the requests for input that are restored. -/
theorem loadUserInputs_all {snapshot : RunSnapshot} {provider : ProviderRunRef}
    (hagain : ∀ after restored, P (Prog.invoke (.loadUserInputs snapshot provider after restored)))
    (after : Option TimelineItemId) (restored : RestoredRequests snapshot.id) :
    P (loadUserInputs snapshot provider after restored) := by
  refine routine.attempt (routine.turn _ rfl rfl rfl) fun page => ?_
  dsimp only
  split
  · exact hagain _ _
  · exact routine.done _

variable (happrovals : ∀ snapshot provider after restored,
    P (Prog.invoke (.loadApprovals snapshot provider after restored)))
  (hinputs : ∀ snapshot provider after restored,
    P (Prog.invoke (.loadUserInputs snapshot provider after restored)))

include happrovals hinputs

/-- A run's requests are read back before its route is prepared. -/
theorem prepareStartupReattach_all (snapshot : RunSnapshot) (provider : ProviderRunRef) :
    P (prepareStartupReattach snapshot provider) := by
  have hload : P (loadRequests snapshot provider) :=
    routine.attempt (happrovals _ _ _ _) fun _ => hinputs _ _ _ _
  refine routine.bind hload fun loaded => ?_
  cases loaded with
  | error error =>
      dsimp only
      split
      · exact routine.bind (transition_all routine.toQuiet (routine.turn _ rfl rfl rfl))
          fun _ => routine.done _
      · exact routine.done _
  | ok restored =>
      refine routine.bind (routine.turn _ rfl rfl rfl) fun receiver => ?_
      dsimp only
      split
      · refine routine.bind (routine.turn _ rfl rfl rfl) fun moved => ?_
        cases moved with
        | ok snapshot => exact routine.done _
        | error error =>
            exact routine.bind (routine.turn _ rfl rfl rfl) fun _ =>
              routine.bind (routine.turn _ rfl rfl rfl) fun _ => routine.done _
      · exact routine.done _

omit happrovals hinputs in
/-- The route of a prepared run goes live. -/
theorem routine_activate (plan : StartupRunReattach) :
    P (activateStartupReattach plan) :=
  activateStartupReattach_all routine.toQuiet (routine.turn _ rfl rfl rfl)
    (routine.turn _ rfl rfl rfl) (routine.turn _ rfl rfl rfl)
    (deliverUncertainStartEvents_all routine.toQuiet (routine.turn _ rfl rfl rfl)
      (routine.turn _ rfl rfl rfl) (fun _ _ => routine.turn _ rfl rfl rfl)
      (fun _ => routine.turn _ rfl rfl rfl) (routine.turn _ rfl rfl rfl)
      fun _ _ => routine.turn _ rfl rfl rfl)

omit happrovals hinputs in
/-- Prepared routes are taken back. -/
theorem routine_remove (prepared : List StartupRunReattach) :
    P (removePrepared prepared) :=
  removePrepared_all routine.toQuiet (fun _ _ => routine.turn _ rfl rfl rfl)
    fun _ _ => routine.turn _ rfl rfl rfl

/-- The runs of one page, each of which is settled or prepared. -/
theorem reconcilePage_all (runs : List RunSnapshot) (prepared : List StartupRunReattach) :
    P (reconcilePage runs prepared) := by
  have hremove : ∀ (prepared : List StartupRunReattach) (error : RunOrchestrationError),
      P (removePrepared prepared >>= fun _ =>
        (return .error error : Sup (Except RunOrchestrationError (List StartupRunReattach)))) :=
    fun prepared _ => routine.bind (routine_remove routine prepared) fun _ => routine.done _
  induction runs generalizing prepared with
  | nil => exact routine.done _
  | cons snapshot rest ih =>
      have hmove : P (transitionIfActive snapshot) :=
        transitionIfActive_all routine.toQuiet snapshot fun _ => routine.turn _ rfl rfl rfl
      unfold reconcilePage
      split
      · refine routine.bind hmove fun moved => ?_
        cases moved with
        | ok _ => exact ih prepared
        | error error =>
            exact routine.bind (routine.forEach (fun plan => (routine.turn _ rfl rfl rfl)) _)
              fun _ => routine.done _
      · refine routine.bind (routine.turn _ rfl rfl rfl) fun answer => ?_
        split
        · refine routine.bind (prepareStartupReattach_all routine happrovals hinputs _ _)
            fun plan => ?_
          cases plan with
          | ok plan => exact ih _
          | error error => exact hremove prepared _
        · refine routine.bind hmove fun moved => ?_
          cases moved with
          | ok _ => exact ih prepared
          | error error => exact hremove prepared _

/-- The pages are followed, and what was prepared goes live at the end. -/
theorem reconcilePages_all
    (hagain : ∀ after prepared, P (Prog.invoke (.reconcilePages after prepared)))
    (after : Option RunId) (prepared : List StartupRunReattach) :
    P (reconcilePages after prepared) := by
  refine routine.bind (routine.turn _ rfl rfl rfl) fun listed => ?_
  cases listed with
  | error error => exact routine.bind (routine_remove routine prepared) fun _ => routine.done _
  | ok page =>
      refine routine.attempt (reconcilePage_all routine happrovals hinputs _ _) fun prepared => ?_
      cases page.nextAfter with
      | some after => exact hagain _ _
      | none =>
          exact routine.bind (routine.forEach (routine_activate routine) _) fun _ => routine.done _

/-- One run is reconciled on demand. -/
theorem reconcileRun_all (target : RunId) : P (reconcileRun target) := by
  refine routine.attempt (routine.turn _ rfl rfl rfl) fun _ => ?_
  refine routine.attempt (routine.turn _ rfl rfl rfl) fun snapshot => ?_
  refine routine.attempt ?_ fun provider => ?_
  · split
    · exact routine.done _
    · refine routine.attempt (routine.turn _ rfl rfl rfl) fun found => ?_
      cases found <;> exact routine.done _
  · refine routine.attempt (routine.turn _ rfl rfl rfl) fun canReconnect => ?_
    cases canReconnect with
    | false => exact routine.done _
    | true =>
        refine routine.bind (routine.turn _ rfl rfl rfl) fun attached => ?_
        cases attached with
        | true => exact routine.bind (routine.turn _ rfl rfl rfl) fun _ => routine.done _
        | false =>
            refine routine.attempt (prepareStartupReattach_all routine happrovals hinputs _ _)
              fun plan => ?_
            exact routine.bind (routine_activate routine plan) fun _ => routine.done _

omit happrovals hinputs in
/-- The decision is durable before the harness is called, and confirmed after. -/
theorem resolveApproval_all (approval : ApprovalRequestId) (decision : ApprovalDecision) :
    P (resolveApproval approval decision) := by
  have hbegin : P (beginResponse approval decision) := by
    refine routine.bind (routine.turn _ rfl rfl rfl) fun found => ?_
    cases found with
    | some existing =>
        dsimp only
        split <;> exact routine.done _
    | none =>
        refine routine.attempt (routine.turn _ rfl rfl rfl) fun _ => ?_
        exact routine.bind (routine.turn _ rfl rfl rfl) fun _ => routine.done _
  refine routine.attempt (routine.turn _ rfl rfl rfl) fun _ => ?_
  refine routine.bind (routine.turn _ rfl rfl rfl) fun found => ?_
  cases found with
  | none => exact routine.done _
  | some found =>
      refine routine.attempt (routine.turn _ rfl rfl rfl) fun active => ?_
      refine routine.attempt hbegin fun _ => ?_
      refine routine.attempt (callHarness_all routine.toQuiet (routine.turn _ rfl rfl rfl)
        (fun _ _ => routine.turn _ rfl rfl rfl) (routine.turn _ rfl rfl rfl)) fun _ => ?_
      refine routine.attempt (routine.turn _ rfl rfl rfl) fun _ => ?_
      exact routine.bind (routine.turn _ rfl rfl rfl) fun _ =>
        routine.bind (routine.publish _ _) fun _ => routine.done _

/-- No task but a consumer takes an event or returns as one. -/
theorem body_all
    (hstart : ∀ item connection input, P (startRun item connection input))
    (hpages : ∀ after prepared, P (Prog.invoke (.reconcilePages after prepared)))
    (hpump : P (Prog.invoke .runEventPump)) {γ : Type} (proc : Proc γ)
    (hconsumer : proc.isConsumer = false) :
    P proc.body := by
  have hquiet := routine.toQuiet
  cases proc with
  | startup =>
      refine routine.bind (hpages none []) fun result => ?_
      cases result <;> exact routine.turn _ rfl rfl rfl
  | reconcilePages after prepared =>
      exact reconcilePages_all routine happrovals hinputs hpages after prepared
  | loadApprovals snapshot provider after restored =>
      exact loadApprovals_all routine (happrovals _ _) after restored
  | loadUserInputs snapshot provider after restored =>
      exact loadUserInputs_all routine (hinputs _ _) after restored
  | runEventPump =>
      refine runEventPump_all hquiet (routine.turn _ rfl rfl rfl) (fun event => ?_)
        (fun operation => ?_) hpump
      · exact routeEvent_all hquiet (fun _ => routine.turn _ rfl rfl rfl)
          (fun _ => routine.turn _ rfl rfl rfl) fun _ _ _ => routine.turn _ rfl rfl rfl
      · exact handlePumpFailure_all hquiet (routine.turn _ rfl rfl rfl) (routine.turn _ rfl rfl rfl)
          fun _ _ _ => routine.turn _ rfl rfl rfl
  | consumeRun run item provider channel deltas => cases hconsumer
  | startRun item connection input =>
      exact routine.bind (hstart item connection input) fun _ => routine.done _
  | steer run input =>
      exact routine.bind (requestRun_all hquiet (.steer · input)
        (fun _ => routine.turn _ rfl rfl rfl) (fun _ _ => routine.turn _ rfl rfl rfl)
        (routine.turn _ rfl rfl rfl)) fun _ => routine.done _
  | interrupt run =>
      exact routine.bind (requestRun_all hquiet .interrupt (fun _ => routine.turn _ rfl rfl rfl)
        (fun _ _ => routine.turn _ rfl rfl rfl) (routine.turn _ rfl rfl rfl))
        fun _ => routine.done _
  | resolveApproval approval decision =>
      exact routine.bind (resolveApproval_all routine approval decision) fun _ => routine.done _
  | respondUserInput input response =>
      exact routine.bind (respondUserInput_all hquiet (fun _ => routine.turn _ rfl rfl rfl)
        (fun _ _ _ => routine.turn _ rfl rfl rfl) (fun _ => routine.turn _ rfl rfl rfl)
        (fun _ _ _ _ _ _ => routine.turn _ rfl rfl rfl) (routine.turn _ rfl rfl rfl))
        fun _ => routine.done _
  | reconcileRun run =>
      exact routine.bind (reconcileRun_all routine happrovals hinputs run) fun _ => routine.done _

end Footprints

/-! ## Functions in an outline -/

section Outlines

variable {outline : Outline Proc World} {machine : Machine Act Proc World Oracle}
  {admits : ∀ β : Type, Act β → Oracle → World → Prop} {β γ ε ε' : Type} {token : outline.Token}

/-- Programs that leave a token alone. -/
theorem Quiet.stays (h : ∀ (β : Type) (action : Act β), action.isQuiet = true →
    outline.Keeps machine admits action token) :
    Quiet fun program => outline.Stays machine admits token program where
  done := Outline.Stays.done
  bind := Outline.Stays.bind
  act := fun action hquiet _ => Outline.Stays.act (h _ action hquiet)
  publish := fun _ _ => Outline.Stays.bind (Outline.Stays.act (h _ _ rfl)) fun _ =>
    Outline.Stays.act (h _ _ rfl)

/-- Programs that leave a token alone but for the turns of consumers. -/
theorem Routine.stays (h : ∀ (β : Type) (action : Act β), action.isTurn = false →
    outline.Keeps machine admits action token) :
    Routine fun program => outline.Stays machine admits token program where
  toQuiet := Quiet.stays fun _ _ hquiet => h _ _ (Act.isTurn_of_isQuiet hquiet)
  turn := fun action hturn _ _ => Outline.Stays.act (h _ action hturn)

/-- The rule for an early return. -/
theorem ok_attempt {program : Sup (Except ε β)} {convert : ε → ε'}
    {next : β → Sup (Except ε' γ)} {Q : Except ε' γ → outline.Token → Prop}
    (h : outline.Ok machine admits (fun result held =>
      (∀ error, result = .error error → Q (.error (convert error)) held) ∧
        ∀ value, result = .ok value → outline.Ok machine admits Q (next value) held)
      program token) : outline.Ok machine admits Q (attempt program convert next) token := by
  refine Outline.Ok.bind (h.mono fun result held hresult => ?_)
  cases result with
  | error error => exact hresult.1 error rfl
  | ok value => exact hresult.2 value rfl

/-- The rule for an action. -/
theorem ok_act {action : Act β} {next : β → Sup γ} {Q : γ → outline.Token → Prop}
    (h : outline.Step machine admits action token fun answer held =>
      outline.Ok machine admits Q (next answer) held) :
    outline.Ok machine admits Q (act action >>= next) token := h

end Outlines

end YakShed
