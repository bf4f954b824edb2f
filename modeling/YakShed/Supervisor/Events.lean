/-
# What passes between the supervisor and its ports

Provider references, the events and answers of a run harness, the notifications
of the application, and the errors of run orchestration.
-/

import YakShed.Domain.Lifecycle
import YakShed.Store.Database

namespace YakShed

def deltaBatchChunks : Nat := 32
def routeChannelCapacity : Nat := 64
def maxUncertainStarts : Nat := 64
def streamFailureOperation : String := "stream_disconnected"

inductive HarnessPortError
  | invalidInput (message : String)
  | notFound (message : String)
  | conflict (message : String)
  | unsupported (message : String)
  | notAuthenticated
  | overloaded
  | disconnected
  | outcomeUnknown (operation : String)
  | closed
  | protocol (message : String)
  | transport (message : String)
  | runtime (message : String)
  deriving DecidableEq, Repr

/-- The identifier of a user input request is its timeline item's. -/
abbrev UserInputRequestId := TimelineItemId

inductive RunOrchestrationError
  | store (error : StoreError)
  | harness (error : HarnessPortError)
  | runNotActive (run : RunId)
  | runNeedsReconciliation (run : RunId)
  | approvalNotPending (approval : ApprovalRequestId)
  | approvalDecisionConflict (approval : ApprovalRequestId)
  | userInputNotPending (request : UserInputRequestId)
  | invalidProviderId (message : String)
  deriving DecidableEq

/-! ## Provider references -/

structure ProviderRunRef where
  providerId : ProviderRunIdentity
  deriving DecidableEq

namespace ProviderRunRef

def fromParts (ns runtimeId sessionId runId : String) :
    Except RunOrchestrationError ProviderRunRef :=
  match ProviderRunIdentity.new ns runtimeId sessionId runId with
  | .ok identity => .ok ⟨identity⟩
  | .error error => .error (.invalidProviderId error.message)

def new (ns nativeId : String) : Except RunOrchestrationError ProviderRunRef :=
  fromParts ns ns nativeId nativeId

def ns (run : ProviderRunRef) : String := run.providerId.ns

def nativeId (run : ProviderRunRef) : String := run.providerId.runId

end ProviderRunRef

structure ProviderRequestRef where
  run : ProviderRunRef
  nativeId : String
  deriving DecidableEq

structure ProviderCommandRef where
  run : ProviderRunRef
  nativeId : String
  deriving DecidableEq

def requestProviderId (request : ProviderRequestRef) :
    Except RunOrchestrationError NamespacedProviderId :=
  match NamespacedProviderId.new request.run.ns request.nativeId with
  | .ok provider => .ok provider
  | .error error => .error (.invalidProviderId error.message)

def commandProviderId (command : ProviderCommandRef) :
    Except RunOrchestrationError NamespacedProviderId :=
  match NamespacedProviderId.new command.run.ns command.nativeId with
  | .ok provider => .ok provider
  | .error error => .error (.invalidProviderId error.message)

/-! ## Harness events -/

inductive RunTerminal
  | completed
  | failed (diagnostic : String)
  | interrupted
  | crashed (diagnostic : String)
  deriving DecidableEq

/-- The status a terminal report asks for. -/
def RunTerminal.status : RunTerminal → RunStatus
  | completed => .completed
  | failed _ | crashed _ => .failed
  | interrupted => .interrupted

theorem RunTerminal.isTerminal_status (state : RunTerminal) : state.status.isTerminal = true := by
  cases state <;> rfl

inductive RunHarnessEvent
  | runAccepted (run : ProviderRunRef)
  | messageDelta (run : ProviderRunRef) (chunk : String)
  | messageCompleted (run : ProviderRunRef) (text : String)
  | approvalRequested (request : ProviderRequestRef) (summary : String)
  | userInputRequested (request : ProviderRequestRef) (prompt : String)
  | fileMutation (run : ProviderRunRef) (path summary : String)
  | commandOutputDelta (run : ProviderRunRef) (command : ProviderCommandRef)
      (commandText chunk : String)
  | commandOutputCompleted (run : ProviderRunRef) (command : ProviderCommandRef)
      (commandText output : String)
  | runTerminal (run : ProviderRunRef) (state : RunTerminal)
  | unknown (run : Option ProviderRunRef) (itemType native : String)
  | malformed (run : Option ProviderRunRef) (itemType native : String)
  deriving DecidableEq

namespace RunHarnessEvent

def run : RunHarnessEvent → Option ProviderRunRef
  | runAccepted run | messageDelta run _ | messageCompleted run _ | fileMutation run _ _
  | commandOutputDelta run _ _ _ | commandOutputCompleted run _ _ _ | runTerminal run _ => some run
  | approvalRequested request _ | userInputRequested request _ => some request.run
  | unknown run _ _ | malformed run _ _ => run

/-- `matches!(event, RunHarnessEvent::RunTerminal { .. })`. -/
def isTerminal : RunHarnessEvent → Bool
  | runTerminal .. => true
  | _ => false

end RunHarnessEvent

inductive HarnessResponse
  | approval (decision : ApprovalDecision)
  | userInput (text : String)
  deriving DecidableEq

/-! ## Application events -/

inductive AppEventKind
  | workItemPatched
  | timelineBatchAppended (run : RunId) (itemCount : Nat)
  | approvalOpened (run : RunId) (approval : ApprovalRequestId)
  | approvalResolved (run : RunId) (approval : ApprovalRequestId)
  | userInputOpened (run : RunId) (request : UserInputRequestId) (prompt : String)
  | userInputResponded (run : RunId) (request : UserInputRequestId)
  | runStatusChanged (run : RunId) (status : RunStatus)
  | runOutcomeUnknown (run : RunId) (operation : String)
  deriving DecidableEq

structure AppEvent where
  workItemId : WorkItemId
  revision : DataRevision
  kind : AppEventKind
  deriving DecidableEq

end YakShed
