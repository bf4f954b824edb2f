/-
# The mock harness

A scripted implementation of the harness contract. One lock guards its state. An
operation that sends an event looks at the state, waits for a place in the event
channel without the lock, and then looks again and sends under the lock. So each
stretch under the lock is one action here, and an operation may be overtaken, or
dropped by its caller, between any two of them.
-/

import Mathlib.Logic.Relation
import YakShed.Codex.Validation
import YakShed.Concurrency.Program
import YakShed.Domain.Lifecycle

namespace YakShed.Mock

open Codex (HarnessEvent HarnessRunTerminal NativeEvent ProviderCommandHandle ProviderComponent
  ProviderRequestHandle ProviderRunHandle)
open Concurrent

/-! ## Scripts -/

inductive MockHarnessFault
  | exitAfterRunAccepted
  | exitAfterFileMutation
  | delayApproval
  | emitUnknownEvent
  | emitMalformedNativePayload
  | neverComplete
  | overloaded
  | disconnected
  | protocolFailure
  deriving DecidableEq

inductive MockScriptStep
  | message (chunk native : String)
  | messageCompleted (text native : String)
  | approval (requestId : ProviderComponent) (summary native : String)
  | userInput (requestId : ProviderComponent) (prompt native : String)
  | awaitResponse (requestId : ProviderComponent)
  | fileMutation (path summary native : String)
  | commandOutput (commandId : Option String) (command chunk native : String)
  | complete (native : String)
  | unknown (itemType native : String)
  | malformed (itemType native : String)
  deriving DecidableEq

namespace MockScriptStep

def isApproval : MockScriptStep → Bool
  | approval .. => true
  | _ => false

/-- The request that the step opens. -/
def requestId : MockScriptStep → Option ProviderComponent
  | approval requestId _ _ | userInput requestId _ _ => some requestId
  | _ => none

end MockScriptStep

structure MockRunPlan where
  steps : List MockScriptStep
  fault : Option MockHarnessFault
  deriving DecidableEq

/-! ## The state -/

structure PendingTerminal where
  state : HarnessRunTerminal
  native : String
  deriving DecidableEq

inductive DeliveryCommit
  | step (terminalAfter : Option PendingTerminal)
  | standalone
  | terminal (consumeStep : Bool)
  deriving DecidableEq

structure PendingDelivery where
  event : NativeEvent
  commit : DeliveryCommit
  deriving DecidableEq

structure RunRecord where
  active : Bool
  delayed : Bool
  nextCommandId : Nat
  steps : List MockScriptStep
  fault : Option MockHarnessFault
  pending : Option PendingDelivery

/-- A delayed approval that is released is an ordinary one from then on. -/
def RunRecord.release (record : RunRecord) (releasingApproval : Bool) : RunRecord :=
  if releasingApproval then { record with delayed := false, fault := none } else record

inductive ProviderResponse
  | approval (decision : ApprovalDecision)
  | userInput (answer : String)
  deriving DecidableEq

inductive RequestKind
  | approval
  | userInput
  deriving DecidableEq

def RequestKind.accepts : RequestKind → ProviderResponse → Bool
  | approval, .approval _ | userInput, .userInput _ => true
  | _, _ => false

structure RequestRecord where
  run : ProviderRunHandle
  kind : RequestKind
  response : Option ProviderResponse

structure StartSessionSpec where
  workingDirectory : String
  title : String

structure ProviderSession where
  id : ProviderComponent
  runtime : ProviderComponent
  connectionId : ConnectionId
  workingDirectory : String
  title : String
  deriving DecidableEq

/-- The guarded state, without the cursors of the session pages. Its counters
never reach the bound of their type. -/
structure State where
  nextSession : Dict ProviderComponent Nat := ∅
  nextRun : Dict (ProviderComponent × ProviderComponent) Nat := ∅
  sessions : List ProviderSession := []
  plans : List MockRunPlan := []
  runs : Dict ProviderRunHandle RunRecord := ∅
  requests : Dict ProviderRequestHandle RequestRecord := ∅
  runtimeConnections : Dict ProviderComponent ConnectionId := ∅
  runtimeFaults : Dict ProviderComponent (List MockHarnessFault) := ∅
  defaultRuntimeFaults : List MockHarnessFault := []

/-- Why an event was sent. -/
inductive Cause
  | accepted (plan : MockRunPlan)
  | fault
  | step
  | ending
  | steer
  deriving DecidableEq

structure Sent where
  event : NativeEvent
  cause : Cause
  deriving DecidableEq

/-- The state and, in order, the events sent so far. -/
structure World where
  state : State
  sent : List Sent := []

namespace World

def setRun (world : World) (run : ProviderRunHandle) (record : RunRecord) : World :=
  { world with state := { world.state with runs := world.state.runs.set run record } }

def send (world : World) (event : NativeEvent) (cause : Cause) : World :=
  { world with sent := world.sent ++ [⟨event, cause⟩] }

end World

inductive HarnessError
  | invalidInput (message : String)
  | notFound (entity id : String)
  | conflict (message : String)
  | overloaded
  | disconnected
  | closed
  | protocol (diagnostic : String)
  deriving DecidableEq

/-- How an operation ends early. -/
inductive Stop
  | error (error : HarnessError)
  | panicked (message : String)
  deriving DecidableEq

def runNotFound (run : ProviderRunHandle) : HarnessError := .notFound "run" run.toText

def runNotActive (run : ProviderRunHandle) : HarnessError :=
  .conflict ("run is not active: " ++ run.toText)

def duplicateRequest (request : ProviderRequestHandle) : HarnessError :=
  .conflict ("duplicate provider request id: " ++ request.toText)

/-! ## Texts -/

/-- `format!("{number:04}")`. -/
def padded (number : Nat) : String :=
  let digits := Nat.toDigits 10 number
  String.ofList (List.replicate (4 - digits.length) '0' ++ digits)

theorem padded_injective : Function.Injective padded := by
  intro first second heq
  have hdigits := congrArg (fun text => Nat.ofDigitChars 10 text.toList 0) heq
  simpa only [padded, String.toList_ofList, Nat.ofDigitChars_append,
    Nat.ofDigitChars_replicate_zero, Nat.mul_zero, Nat.ofDigitChars_ten_toDigits] using hdigits

def ProviderRequestHandle.new (run : ProviderRunHandle) (id : ProviderComponent) :
    ProviderRequestHandle :=
  ⟨run, id.value⟩

/-- The part of the harness that does not change. -/
structure MockHarness where
  nativeRedactions : List String

namespace MockHarness

variable (harness : MockHarness)

def redact (value : String) : String :=
  harness.nativeRedactions.foldl
    (fun text secret =>
      String.ofList (List.substitute secret.toList "[redacted]".toList text.toList)) value

/-- `NativePayload::sanitized` of the redacted text. -/
def native (value : String) : String := harness.redact value

def runtimeExit : String := "\x7b\"type\":\"runtime.exit\"\x7d"

def terminalDelivery (run : ProviderRunHandle) (state : HarnessRunTerminal) (native : String)
    (consumeStep : Bool) : PendingDelivery :=
  ⟨⟨.runTerminal run state, harness.native native⟩, .terminal consumeStep⟩

def rejectImmediateRunFault : Option MockHarnessFault → Except HarnessError Unit
  | some .overloaded => .error .overloaded
  | some .disconnected => .error .disconnected
  | some .protocolFailure => .error (.protocol (harness.redact "mock run protocol failure"))
  | _ => .ok ()

/-! ## What is done under the lock -/

/-- The next fault of a runtime, of its own or of the default ones. -/
def takeRuntimeFault (runtime : ProviderComponent) (state : State) :
    Option MockHarnessFault × State :=
  match state.runtimeFaults.find runtime with
  | some (fault :: rest) =>
      (some fault, { state with runtimeFaults := state.runtimeFaults.set runtime rest })
  | _ =>
      match state.defaultRuntimeFaults with
      | fault :: rest => (some fault, { state with defaultRuntimeFaults := rest })
      | [] => (none, state)

def checkRuntime (runtime : ProviderComponent) (world : World) :
    Except HarnessError Unit × World :=
  match world.state.runtimeConnections.find runtime with
  | none => (.error (.notFound "runtime" runtime.value), world)
  | some _ =>
      let (fault, state) := takeRuntimeFault runtime world.state
      let result := match fault with
        | some .overloaded => .error .overloaded
        | some .disconnected => .error .disconnected
        | some .protocolFailure =>
            .error (.protocol (harness.redact
              ("native protocol failure: " ++ harness.nativeRedactions.head?.getD "unknown")))
        | _ => .ok ()
      (result, { world with state })

/-- `start_session` once its runtime and title have passed. -/
def addSession (runtime : ProviderComponent) (spec : StartSessionSpec) (world : World) :
    Except Stop ProviderSession × World :=
  match world.state.runtimeConnections.find runtime with
  | none => (.error (.panicked "checked runtime remains registered"), world)
  | some connectionId =>
      let sequence := (world.state.nextSession.find runtime).getD 1
      match ProviderComponent.new ("session-" ++ padded sequence) with
      | none => (.error (.error (.invalidInput "invalid provider session id")), world)
      | some id =>
          let session : ProviderSession :=
            { id, runtime, connectionId, workingDirectory := spec.workingDirectory,
              title := spec.title }
          (.ok session, { world with state := { world.state with
            nextSession := world.state.nextSession.set runtime (sequence + 1)
            sessions := world.state.sessions ++ [session] } })

/-- The checks of `start_run`, which it makes before and after it waits. -/
def admitRun (session : ProviderSession) (world : World) : Except HarnessError Unit :=
  if session ∈ world.state.sessions then
    harness.rejectImmediateRunFault (world.state.plans.head?.bind (·.fault))
  else .error (.notFound "session" session.id.value)

/-- What the fault of a plan stages on acceptance. -/
def stagedFault (run : ProviderRunHandle) : Option MockHarnessFault → Option PendingDelivery
  | some .exitAfterRunAccepted =>
      some (harness.terminalDelivery run (.crashed "mock runtime exited after accepting run")
        runtimeExit false)
  | some .emitUnknownEvent =>
      let native := harness.native "\x7b\"type\":\"mock.future-item\",\"answer\":42\x7d"
      some ⟨.unknown (some run) "mock.future-item" native, .standalone⟩
  | some .emitMalformedNativePayload =>
      let native := harness.native "\x7bnot-json"
      some ⟨.malformed (some run) "mock.malformed" native, .standalone⟩
  | _ => none

def acceptedEvent (run : ProviderRunHandle) : NativeEvent :=
  ⟨.runAccepted run, harness.native "\x7b\"type\":\"run.accepted\"\x7d"⟩

/-- The plan of a run for which none is left. -/
def defaultPlan : MockRunPlan := ⟨[.complete "\x7b\"type\":\"run.completed\"\x7d"], none⟩

/-- `start_run` from its second look at the state to the end of that section. -/
def acceptRun (session : ProviderSession) (world : World) :
    Except HarnessError (ProviderRunHandle × Option MockHarnessFault) × World :=
  match harness.admitRun session world with
  | .error error => (.error error, world)
  | .ok () =>
      let plan := world.state.plans.head?.getD defaultPlan
      let key := (session.runtime, session.id)
      let sequence := (world.state.nextRun.find key).getD 1
      let state := { world.state with plans := world.state.plans.tail }
      match ProviderComponent.new ("run-" ++ padded sequence) with
      | none => (.error (.invalidInput "invalid provider run id"), { world with state })
      | some runId =>
          let run := ProviderRunHandle.new session.runtime session.id runId
          let record : RunRecord :=
            { active := true, delayed := false, nextCommandId := 1, steps := plan.steps,
              fault := plan.fault, pending := harness.stagedFault run plan.fault }
          let state := { state with nextRun := state.nextRun.set key (sequence + 1) }
          (.ok (run, plan.fault),
            (World.setRun { world with state } run record).send (harness.acceptedEvent run)
              (.accepted plan))

def readPending (run : ProviderRunHandle) (world : World) :
    Except HarnessError (Option PendingDelivery) :=
  match world.state.runs.find run with
  | none => .error (runNotFound run)
  | some record => .ok record.pending

inductive FlushResult
  | none
  | changed
  | delivered
  | terminal
  deriving DecidableEq

/-- `commit_pending`, with the run's record. -/
def commitPending (run : ProviderRunHandle) (record : RunRecord) (pending : PendingDelivery)
    (world : World) : FlushResult × World :=
  match pending.commit with
  | .step terminalAfter =>
      (.delivered, (world.send pending.event .step).setRun run { record with
        steps := record.steps.tail
        pending := terminalAfter.map fun terminal =>
          harness.terminalDelivery run terminal.state terminal.native false })
  | .standalone =>
      (.delivered, (world.send pending.event .fault).setRun run { record with pending := none })
  | .terminal consumeStep =>
      (.terminal, (world.send pending.event (if consumeStep then .step else .ending)).setRun run
        { record with
          steps := if consumeStep then record.steps.tail else record.steps
          pending := none
          active := false })

/-- `flush_pending` once it has its place in the channel. -/
def flush (run : ProviderRunHandle) (pending : PendingDelivery) (world : World) :
    FlushResult × World :=
  match world.state.runs.find run with
  | none => (.changed, world)
  | some record =>
      if record.pending = some pending then harness.commitPending run record pending world
      else (.changed, world)

/-- What `drive_run` finds when nothing is staged. -/
inductive Inspection
  | again
  | finished (result : Except Stop Unit)
  | deliver (step : MockScriptStep)

/-- The first section of `drive_run` after the flush. -/
def inspect (run : ProviderRunHandle) (releaseDelayed : Bool) (world : World) :
    Inspection × World :=
  match world.state.runs.find run with
  | none => (.finished (.error (.error (runNotFound run))), world)
  | some record =>
      if !record.active then (.finished (.ok ()), world)
      else if record.pending.isSome then (.again, world)
      else if record.fault = some .delayApproval ∧ record.steps.head?.any (·.isApproval) ∧
          !releaseDelayed then
        (.finished (.ok ()), world.setRun run { record with delayed := true })
      else match record.steps.head? with
        | none => (.finished (.ok ()), world)
        | some (.awaitResponse requestId) =>
            let request := ProviderRequestHandle.new run requestId
            match (world.state.requests.find request).bind (·.response) with
            | none => (.finished (.ok ()), world)
            | some _ => (.again, world.setRun run { record with steps := record.steps.tail })
        | some step =>
            let request := step.requestId.map (ProviderRequestHandle.new run)
            match request.filter fun request => (world.state.requests.find request).isSome with
            | some request => (.finished (.error (.error (duplicateRequest request))), world)
            | none => (.deliver step, world)

abbrev Requests := Dict ProviderRequestHandle RequestRecord

/-- The delivery of a step, with what is written on the way to it: the run's
record and the requests. -/
def stage (run : ProviderRunHandle) (record : RunRecord) (requests : Requests) :
    MockScriptStep → Except Stop (PendingDelivery × RunRecord × Requests)
  | .message chunk native =>
      .ok (⟨⟨.messageDelta run chunk, harness.native native⟩, .step none⟩, record, requests)
  | .messageCompleted text native =>
      .ok (⟨⟨.messageCompleted run text, harness.native native⟩, .step none⟩, record, requests)
  | .approval requestId summary native =>
      let request := ProviderRequestHandle.new run requestId
      .ok (⟨⟨.approvalRequested request summary, harness.native native⟩, .step none⟩, record,
        requests.set request ⟨run, .approval, none⟩)
  | .userInput requestId prompt native =>
      let request := ProviderRequestHandle.new run requestId
      .ok (⟨⟨.userInputRequested request prompt, harness.native native⟩, .step none⟩, record,
        requests.set request ⟨run, .userInput, none⟩)
  | .awaitResponse _ => .error (.panicked "await steps do not emit")
  | .fileMutation path summary native =>
      let event : NativeEvent := ⟨.fileMutation run path summary, harness.native native⟩
      if record.fault = some .exitAfterFileMutation then
        .ok (⟨event, .step (some ⟨.crashed "mock runtime exited after file mutation",
          runtimeExit⟩)⟩, { record with fault := none }, requests)
      else .ok (⟨event, .step none⟩, record, requests)
  | .commandOutput commandId command chunk native =>
      let text := commandId.getD ("command-" ++ padded record.nextCommandId)
      let record := if commandId.isSome then record
        else { record with nextCommandId := record.nextCommandId + 1 }
      match ProviderCommandHandle.new run text with
      | none => .error (.panicked "invalid command id")
      | some handle =>
          .ok (⟨⟨.commandOutputCompleted run handle command chunk, harness.native native⟩,
            .step none⟩, record, requests)
  | .complete native => .ok (harness.terminalDelivery run .completed native true, record, requests)
  | .unknown itemType native =>
      .ok (⟨.unknown (some run) itemType (harness.native native), .step none⟩, record, requests)
  | .malformed itemType native =>
      .ok (⟨.malformed (some run) itemType (harness.native native), .step none⟩, record, requests)

/-- What an operation does after a section: its loop again, or return. -/
inductive Progress
  | again
  | finished (result : Except Stop Unit)

/-- The second section of `drive_run`. -/
def deliver (run : ProviderRunHandle) (step : MockScriptStep) (releaseDelayed : Bool)
    (world : World) : Progress × World :=
  match world.state.runs.find run with
  | none => (.finished (.error (.error (runNotFound run))), world)
  | some record =>
      if !record.active then (.finished (.ok ()), world)
      else if record.pending.isSome ∨ record.steps.head? ≠ some step then (.again, world)
      else
        let request := step.requestId.map (ProviderRequestHandle.new run)
        match request.filter fun request => (world.state.requests.find request).isSome with
        | some request => (.finished (.error (.error (duplicateRequest request))), world)
        | none =>
            match harness.stage run record world.state.requests step with
            | .error stop => (.finished (.error stop), world)
            | .ok (pending, record, requests) =>
                let record := record.release (releaseDelayed && step.isApproval)
                let world := { world with state := { world.state with requests } }
                match harness.commitPending run record pending world with
                | (.terminal, world) => (.finished (.ok ()), world)
                | (_, world) => (.again, world)

/-- Some run whose approval is delayed. A hash map fixes no order. -/
def findDelayed (order : List ProviderRunHandle) (world : World) :
    Except HarnessError ProviderRunHandle :=
  match (world.state.runs.inOrder order).find? fun entry => entry.2.delayed with
  | some (run, _) => .ok run
  | none => .error (.conflict "no delayed approval")

/-- What `steer` checks before it waits. -/
def checkSteer (run : ProviderRunHandle) (world : World) : Except HarnessError Unit :=
  match world.state.runs.find run with
  | some record => if record.active then .ok () else .error (runNotActive run)
  | none => .error (runNotActive run)

def steerEvent (run : ProviderRunHandle) (input : String) : NativeEvent :=
  ⟨.messageDelta run input, harness.native "\x7b\"type\":\"run.steer\"\x7d"⟩

/-- `steer` once it has its place in the channel. -/
def acceptSteer (run : ProviderRunHandle) (input : String) (world : World) : Progress × World :=
  match world.state.runs.find run with
  | none => (.finished (.error (.error (runNotFound run))), world)
  | some record =>
      if !record.active then (.finished (.error (.error (runNotActive run))), world)
      else if record.pending.isSome then (.again, world)
      else (.finished (.ok ()), world.send (harness.steerEvent run input) .steer)

/-- What `interrupt` checks before it waits. -/
def checkInterrupt (run : ProviderRunHandle) (world : World) : Except HarnessError Unit :=
  match world.state.runs.find run with
  | none => .error (runNotFound run)
  | some record => if record.active then .ok () else .error (runNotActive run)

def interruption (run : ProviderRunHandle) : PendingDelivery :=
  harness.terminalDelivery run .interrupted "\x7b\"type\":\"run.interrupted\"\x7d" false

/-- `interrupt` once it has its place in the channel. -/
def commitInterrupt (run : ProviderRunHandle) (world : World) : Progress × World :=
  match world.state.runs.find run with
  | none => (.finished (.error (.error (runNotFound run))), world)
  | some record =>
      if !record.active then (.finished (.error (.error (runNotActive run))), world)
      else if record.pending.isSome then (.again, world)
      else (.finished (.ok ()),
        (harness.commitPending run record (harness.interruption run) world).2)

/-- The section of `respond_to_request`, which names the run to drive. -/
def recordResponse (request : ProviderRequestHandle) (response : ProviderResponse)
    (world : World) : Except HarnessError ProviderRunHandle × World :=
  match world.state.requests.find request with
  | none => (.error (.notFound "provider request" request.toText), world)
  | some record =>
      if !record.kind.accepts response then
        (.error (.conflict
          ("response kind does not match provider request: " ++ request.toText)), world)
      else match record.response with
        | some existing =>
            if existing ≠ response then
              (.error (.conflict
                ("provider request already answered differently: " ++ request.toText)), world)
            else (.ok record.run, world)
        | none =>
            (.ok record.run, { world with state := { world.state with
              requests := world.state.requests.set request
                { record with response := some response } } })

end MockHarness

/-! ## Operations -/

/-- The actions of the operations: their sections, and the wait for a place in
the event channel. -/
inductive Act : Type → Type
  | checkRuntime (runtime : ProviderComponent) : Act (Except HarnessError Unit)
  | addSession (runtime : ProviderComponent) (spec : StartSessionSpec) :
      Act (Except Stop ProviderSession)
  | admitRun (session : ProviderSession) : Act (Except HarnessError Unit)
  | acceptRun (session : ProviderSession) :
      Act (Except HarnessError (ProviderRunHandle × Option MockHarnessFault))
  | reserve : Act (Except HarnessError Unit)
  | readPending (run : ProviderRunHandle) : Act (Except HarnessError (Option PendingDelivery))
  | flush (run : ProviderRunHandle) (pending : PendingDelivery) : Act MockHarness.FlushResult
  | inspect (run : ProviderRunHandle) (releaseDelayed : Bool) : Act MockHarness.Inspection
  | deliver (run : ProviderRunHandle) (step : MockScriptStep) (releaseDelayed : Bool) :
      Act MockHarness.Progress
  | findDelayed : Act (Except HarnessError ProviderRunHandle)
  | checkSteer (run : ProviderRunHandle) : Act (Except HarnessError Unit)
  | acceptSteer (run : ProviderRunHandle) (input : String) : Act MockHarness.Progress
  | checkInterrupt (run : ProviderRunHandle) : Act (Except HarnessError Unit)
  | commitInterrupt (run : ProviderRunHandle) : Act MockHarness.Progress
  | recordResponse (request : ProviderRequestHandle) (response : ProviderResponse) :
      Act (Except HarnessError ProviderRunHandle)

/-- A caller's operation. Of those that only ask about a runtime, `checkRuntime`
is all that touches the state. -/
inductive Call
  | checkRuntime (runtime : ProviderComponent)
  | startSession (runtime : ProviderComponent) (spec : StartSessionSpec)
  | startRun (session : ProviderSession)
  | steer (run : ProviderRunHandle) (input : String)
  | interrupt (run : ProviderRunHandle)
  | respondToRequest (request : ProviderRequestHandle) (response : ProviderResponse)
  | releaseDelayedApproval

/-- The loops, and a caller's operation as a task of its own. -/
inductive Proc : Type → Type
  | driveRun (run : ProviderRunHandle) (releaseDelayed : Bool) : Proc (Except Stop Unit)
  | steer (run : ProviderRunHandle) (input : String) : Proc (Except Stop Unit)
  | interrupt (run : ProviderRunHandle) : Proc (Except Stop Unit)
  | serve (call : Call) : Proc Unit

abbrev Operation (α : Type) : Type 1 := ExceptT Stop (Prog Act Proc) α

namespace Operation

variable {α : Type}

def act (action : Act α) : Operation α := ExceptT.lift (Prog.act action)

/-- An action whose error ends the operation. -/
def attempt (action : Act (Except HarnessError α)) : Operation α := do
  match ← act action with
  | .ok value => return value
  | .error error => throw (.error error)

def loop (proc : Proc (Except Stop Unit)) : Operation Unit := ExceptT.mk (Prog.invoke proc)

/-- What a section of a loop came to. -/
def proceed (proc : Proc (Except Stop Unit)) : MockHarness.Progress → Operation Unit
  | .again => loop proc
  | .finished result => MonadExcept.ofExcept result

def flushPending (run : ProviderRunHandle) : Operation MockHarness.FlushResult := do
  match ← attempt (.readPending run) with
  | none => return .none
  | some pending =>
      attempt .reserve
      act (.flush run pending)

def driveRun (run : ProviderRunHandle) (releaseDelayed : Bool) : Operation Unit := do
  match ← flushPending run with
  | .terminal => return
  | .changed | .delivered => loop (.driveRun run releaseDelayed)
  | .none =>
      match ← act (.inspect run releaseDelayed) with
      | .again => loop (.driveRun run releaseDelayed)
      | .finished result => MonadExcept.ofExcept result
      | .deliver step =>
          attempt .reserve
          proceed (.driveRun run releaseDelayed) (← act (.deliver run step releaseDelayed))

def processRun (run : ProviderRunHandle) : Operation Unit := driveRun run false

def releaseDelayedApproval : Operation Unit := do
  let run ← attempt .findDelayed
  driveRun run true

def startSession (runtime : ProviderComponent) (spec : StartSessionSpec) :
    Operation ProviderSession := do
  attempt (.checkRuntime runtime)
  if trimIsEmpty spec.title then
    throw (.error (.invalidInput "session requires a title"))
  match ← act (.addSession runtime spec) with
  | .ok session => return session
  | .error stop => throw stop

def startRun (session : ProviderSession) : Operation ProviderRunHandle := do
  attempt (.checkRuntime session.runtime)
  attempt (.admitRun session)
  attempt .reserve
  let (run, fault) ← attempt (.acceptRun session)
  if fault ≠ some .neverComplete then
    processRun run
  return run

def steer (run : ProviderRunHandle) (input : String) : Operation Unit := do
  match ← flushPending run with
  | .terminal => throw (.error (runNotActive run))
  | .changed | .delivered => loop (.steer run input)
  | .none =>
      attempt (.checkSteer run)
      attempt .reserve
      proceed (.steer run input) (← act (.acceptSteer run input))

def interrupt (run : ProviderRunHandle) : Operation Unit := do
  match ← flushPending run with
  | .terminal => return
  | .changed | .delivered => loop (.interrupt run)
  | .none =>
      attempt (.checkInterrupt run)
      attempt .reserve
      proceed (.interrupt run) (← act (.commitInterrupt run))

def respondToRequest (request : ProviderRequestHandle) (response : ProviderResponse) :
    Operation Unit := do
  let run ← attempt (.recordResponse request response)
  processRun run

def serve : Call → Operation Unit
  | .checkRuntime runtime => attempt (.checkRuntime runtime)
  | .startSession runtime spec => discard (startSession runtime spec)
  | .startRun session => discard (startRun session)
  | .steer run input => steer run input
  | .interrupt run => interrupt run
  | .respondToRequest request response => respondToRequest request response
  | .releaseDelayedApproval => releaseDelayedApproval

def body {β : Type} : Proc β → Prog Act Proc β
  | .driveRun run releaseDelayed => (driveRun run releaseDelayed).run
  | .steer run input => (steer run input).run
  | .interrupt run => (interrupt run).run
  | .serve call => (serve call).run >>= fun _ => pure ()

end Operation

/-! ## Runs of the harness -/

/-- What the environment decides: whether the stream is closed when a place in
the channel is asked for, and the order of a hash map. When a place is free shows
in when the task goes on. -/
structure Oracle where
  closed : Bool := false
  order : List ProviderRunHandle := []

namespace MockHarness

variable (harness : MockHarness)

def exec {β : Type} (act : Act β) (oracle : Oracle) (world : World) : β × World :=
  match act with
  | .checkRuntime runtime => harness.checkRuntime runtime world
  | .addSession runtime spec => addSession runtime spec world
  | .admitRun session => (harness.admitRun session world, world)
  | .acceptRun session => harness.acceptRun session world
  | .reserve => (if oracle.closed then .error .closed else .ok (), world)
  | .readPending run => (readPending run world, world)
  | .flush run pending => harness.flush run pending world
  | .inspect run releaseDelayed => inspect run releaseDelayed world
  | .deliver run step releaseDelayed => harness.deliver run step releaseDelayed world
  | .findDelayed => (findDelayed oracle.order world, world)
  | .checkSteer run => (checkSteer run world, world)
  | .acceptSteer run input => harness.acceptSteer run input world
  | .checkInterrupt run => (checkInterrupt run world, world)
  | .commitInterrupt run => harness.commitInterrupt run world
  | .recordResponse request response => recordResponse request response world

def machine : Machine Act Proc World Oracle where
  exec act oracle world :=
    let (answer, world) := harness.exec act oracle world
    some (answer, world, [])
  body := Operation.body

/-- A task takes a step, a caller starts an operation, or a caller drops one. -/
inductive Move
  | step (i : Nat) (oracle : Oracle)
  | call (call : Call)
  | drop (i : Nat)

def move (config : Config Act Proc World) : Move → Option (Config Act Proc World)
  | .step i oracle => harness.machine.step i oracle config
  | .call call => some (config.spawn (.serve call))
  | .drop i => some { config with tasks := config.tasks.set i (.done ()) }

/-- `config'` is reached from `config`. -/
def Reaches : Config Act Proc World → Config Act Proc World → Prop :=
  Relation.ReflTransGen fun config config' => ∃ entry, harness.move config entry = some config'

/-- Replays a schedule; `none` when an entry cannot run. -/
def replay (config : Config Act Proc World) (schedule : List Move) :
    Option (Config Act Proc World) :=
  schedule.foldlM harness.move config

/-- A schedule whose last configuration passes a check reaches one that does. -/
theorem Reaches.exists_of_replay {harness : MockHarness} {config : Config Act Proc World}
    (schedule : List Move) (check : World → Bool)
    (h : (harness.replay config schedule).any (fun last => check last.world) = true) :
    ∃ last, harness.Reaches config last ∧ check last.world = true := by
  induction schedule generalizing config with
  | nil => exact ⟨config, .refl, by simpa [replay] using h⟩
  | cons entry rest ih =>
      obtain ⟨found, hreplay, hcheck⟩ := (Option.any_eq_true _ _).mp h
      obtain ⟨middle, hmove, hrest⟩ := Option.bind_eq_some_iff.mp hreplay
      obtain ⟨last, hreaches, hlast⟩ := ih ((Option.any_eq_true _ _).mpr ⟨found, hrest, hcheck⟩)
      exact ⟨last, .head ⟨entry, hmove⟩ hreaches, hlast⟩

end MockHarness

/-- A registered runtime: its connection and its faults. -/
structure Runtime where
  handle : ProviderComponent
  connectionId : ConnectionId
  faults : List MockHarnessFault

/-- `with_runtime`. -/
def State.withRuntime (state : State) (runtime : Runtime) : State :=
  { state with
    runtimeConnections := state.runtimeConnections.set runtime.handle runtime.connectionId
    runtimeFaults := if runtime.faults = [] then state.runtimeFaults
      else state.runtimeFaults.set runtime.handle runtime.faults }

/-- A harness as it is made, with its plans and runtimes and no operation yet. -/
def initial (plans : List MockRunPlan) (runtimeFault : Option MockHarnessFault)
    (runtimes : List Runtime) : Config Act Proc World :=
  let state : State := { plans, defaultRuntimeFaults := runtimeFault.toList }
  ⟨⟨runtimes.foldl State.withRuntime state, []⟩, []⟩

end YakShed.Mock
