/-
# The Codex runtime actor

One task owns the child process of a runtime. It takes client commands and what
the child prints in turn, one at a time, and each causes at most one write to
the child's input. `step` is one round of its loop; what it lets out (frames,
events, replies) is appended to logs that the loop never reads.

The loop starts after the handshake. Request ids count from two upwards and are
not bounded here.
-/

import YakShed.Codex.Validation

namespace YakShed.Codex

open Json

def diagnosticCapacity : Nat := 32

/-! ## Commands and what the child prints -/

/-- A client's request. The requests of a login start have a command of their own. -/
structure ClientRequest where
  method : String
  params : Value
  mutation : Bool
  kind : RequestKind
  notLogin : kind ≠ .accountLoginStart

inductive ProviderResponse
  | approval (approved : Bool)
  | userInput (answer : String)
  deriving DecidableEq

inductive CommandMessage
  | request (request : ClientRequest)
  | respond (request : ProviderRequestHandle) (response : ProviderResponse)
  | diagnostics
  | recordDiagnostic (diagnostic : String)
  | health
  | accountLoginStatus
  | accountLoginStart
  | shutdown

inductive Inbound
  | frame (raw : String) (value : Value)
  | malformed (raw : String)
  | oversized (start : String)
  | stderr (chunk : String)
  | eof

/-- What the loop selects: a command, the end of the commands, or what the child printed. -/
inductive Input
  | command (message : CommandMessage)
  | hangup
  | inbound (inbound : Inbound)

/-- One round of the loop: its input, whether the child's input can be written,
and the orders in which the maps are gone through. -/
structure Arrival where
  input : Input
  writable : Bool := true
  pendingOrder : List Nat := []
  runOrder : List (String × String) := []

/-! ## The actor's state -/

structure PendingClient where
  method : String
  mutation : Bool
  kind : RequestKind
  reply : Option Nat

inductive HarnessAccountStatus
  | loginInProgress (loginId authUrl : String)
  | unknown
  deriving DecidableEq

inductive AccountLoginState
  | starting (waiters : List Nat) (completion : Option (String × Bool)) (updated : Bool)
  | pending (loginId authUrl : String)
  | failed
  deriving DecidableEq

def AccountLoginState.status : AccountLoginState → Option HarnessAccountStatus
  | starting .. => none
  | pending loginId authUrl => some (.loginInProgress loginId authUrl)
  | failed => some .unknown

/-- What is sent through a command's reply channel. A channel that goes out of
scope is dropped. -/
inductive Reply
  | request (result : Except HarnessError Value)
  | responded (result : Except HarnessError Unit)
  | diagnostics (diagnostics : List String)
  | health
  | loginStatus (status : Option HarnessAccountStatus)
  | loginStart (result : Except HarnessError HarnessAccountStatus)
  | shutdown
  | dropped

/-- What `CodexRuntimeSpec` and the environment fix for a runtime. -/
structure Runtime where
  handle : ProviderComponent
  sanitizer : Sanitizer

/-- The loop's variables. A reply channel is named by the number of the round
whose command carried it. `stdin` lists the frames handed to the child's input,
each with the outcome of its write. -/
structure Actor where
  nextId : Nat := 2
  pending : Dict Nat PendingClient := ∅
  serverRequests : Dict ProviderRequestHandle PendingServer := ∅
  loadedSessions : List String := []
  runs : Dict (String × String) ProviderRunHandle := ∅
  diagnostics : List String := []
  reducer : Reducer := {}
  accountLogin : Option AccountLoginState := none
  closed : Bool := false
  round : Nat := 0
  stdin : List (Value × Bool) := []
  events : List NativeEvent := []
  replies : List (Nat × Reply) := []

namespace Actor

/-- `events.send`. -/
def emit (actor : Actor) (event : NativeEvent) : Actor :=
  { actor with events := actor.events ++ [event] }

/-- `push_diagnostic`. -/
def pushDiagnostic (actor : Actor) (value : String) : Actor :=
  { actor with
    diagnostics :=
      (if actor.diagnostics.length = diagnosticCapacity then actor.diagnostics.drop 1
        else actor.diagnostics) ++ [value] }

/-- `write_frame`. -/
def writeFrame (actor : Actor) (frame : Value) (writable : Bool) : Actor :=
  { actor with stdin := actor.stdin ++ [(frame, writable)] }

/-- `reply.send`. -/
def reply (actor : Actor) (channel : Nat) (reply : Reply) : Actor :=
  { actor with replies := actor.replies ++ [(channel, reply)] }

/-- The channels that wait for a login to start. -/
def waiters (actor : Actor) : List Nat :=
  match actor.accountLogin with
  | some (.starting waiters _ _) => waiters
  | _ => []

/-- The login is forgotten. The channels that still wait for it are dropped. -/
def forgetLogin (actor : Actor) : Actor :=
  { actor with
    accountLogin := none
    replies := actor.replies ++ actor.waiters.map fun waiter => (waiter, .dropped) }

/-! ## Responses -/

/-- `malformed_ack_error`. -/
def malformedAckError (pending : PendingClient) : HarnessError :=
  if pending.mutation then .outcomeUnknown pending.method
  else .protocol "Codex response did not match the pinned schema"

/-- The state of a login whose start has been acknowledged. -/
def loginAcknowledged (completion : Option (String × Bool)) (updated : Bool)
    (loginId authUrl : String) : Option AccountLoginState :=
  if updated then none
  else
    match completion with
    | some (completedId, success) =>
        if completedId = loginId then (if success then none else some .failed)
        else some (.pending loginId authUrl)
    | none => some (.pending loginId authUrl)

/-- `settle_login_start`. -/
def settleLoginStart (actor : Actor) (result : Except HarnessError HarnessAccountStatus) :
    Actor :=
  match actor.accountLogin with
  | some (.starting waiters completion updated) =>
      let state :=
        match result with
        | .ok (.loginInProgress loginId authUrl) =>
            loginAcknowledged completion updated loginId authUrl
        | _ => none
      { actor with
        accountLogin := state
        replies := actor.replies ++ waiters.map fun waiter => (waiter, .loginStart result) }
  | _ => { actor with accountLogin := none }

/-- The status in the acknowledgement of a login start. Its schema has both fields. -/
def loginStatus (result : Value) : HarnessAccountStatus :=
  .loginInProgress ((result.str "loginId").getD "") ((result.str "authUrl").getD "")

/-- `complete_client_request`. -/
def completeClientRequest (actor : Actor) (pending : PendingClient)
    (result : Except HarnessError Value) : Actor :=
  if pending.kind = .accountLoginStart then actor.settleLoginStart (result.map loginStatus)
  else
    match pending.reply with
    | some channel => actor.reply channel (.request result)
    | none => actor

/-- The resumed thread and the one in its response, where they differ. -/
def mismatchedThread (kind : RequestKind) (result : Value) : Option (String × String) :=
  match kind with
  | .session (some expected) =>
      (((result.get "thread").bind (·.str "id")).filter (· ≠ expected)).map (expected, ·)
  | _ => none

/-- What a valid response of a kind does besides its reply. -/
def acknowledge (runtime : Runtime) (actor : Actor) (kind : RequestKind) (raw : String)
    (result : Value) : Actor :=
  match kind with
  | .session _ =>
      match (result.get "thread").bind (·.str "id") with
      | some threadId => { actor with loadedSessions := actor.loadedSessions.insert threadId }
      | none => actor
  | .startRun sessionId =>
      match ((result.get "turn").bind (·.str "id")).bind ProviderComponent.new with
      | some turnId =>
          let run := ProviderRunHandle.new runtime.handle sessionId turnId
          { actor with runs := actor.runs.set (sessionId.value, turnId.value) run }.emit
            ⟨.runAccepted run, runtime.sanitizer.sanitize raw⟩
      | none => actor
  | .accountRead =>
      if ((result.get "account").getD .null).isNull then actor else actor.forgetLogin
  | .accountLogout => actor.forgetLogin
  | .emptyObject | .accountLoginStart | .threadList | .turnSteer _ => actor

/-- The answer to a pending request, which is taken off the map before. -/
def answerPending (runtime : Runtime) (actor : Actor) (raw : String) (value : Value)
    (pending : PendingClient) : Actor :=
  match value.get "error", value.get "result" with
  | some error, none =>
      let error := classifyProtocolError error runtime.sanitizer
      (actor.pushDiagnostic error.toText).completeClientRequest pending (.error error)
  | none, none =>
      (actor.pushDiagnostic (runtime.sanitizer.sanitize raw)).completeClientRequest pending
        (.error (malformedAckError pending))
  | error, some result =>
      let result := runtime.sanitizer.sanitizeValue result
      if error.isSome || !validResponseResult pending.kind result then
        (actor.pushDiagnostic (runtime.sanitizer.sanitize raw)).completeClientRequest pending
          (.error (malformedAckError pending))
      else
        match mismatchedThread pending.kind result with
        | some (expected, threadId) =>
            (actor.pushDiagnostic ("session resume returned mismatched thread id: expected " ++
              expected ++ ", got " ++ threadId)).completeClientRequest pending
                (.error (.protocol "session resume returned mismatched thread id"))
        | none =>
            (actor.acknowledge runtime pending.kind raw result).completeClientRequest pending
              (.ok result)

/-- A frame without a method. -/
def handleResponse (runtime : Runtime) (actor : Actor) (raw : String) (value : Value) : Actor :=
  match (value.get "id").bind Value.asU64 with
  | none => actor
  | some id =>
      match actor.pending.find id with
      | none => actor
      | some pending =>
          { actor with pending := actor.pending.remove id }.answerPending runtime raw value
            pending

/-! ## Account notifications -/

/-- `account/login/completed`. -/
def loginCompleted (runtime : Runtime) (actor : Actor) (value : Value) : Actor :=
  match accountLoginCompletion (runtime.sanitizer.sanitizeValue value) with
  | none =>
      (actor.pushDiagnostic
        "Codex emitted a malformed account/login/completed notification").forgetLogin
  | some (loginId, success) =>
      match actor.accountLogin with
      | some (.starting waiters _ updated) =>
          { actor with accountLogin := some (.starting waiters (some (loginId, success)) updated) }
      | some (.pending pending _) =>
          if pending = loginId then
            { actor with accountLogin := if success then none else some .failed }
          else actor
      | _ => actor

/-- `account/updated`. -/
def accountUpdated (runtime : Runtime) (actor : Actor) (value : Value) : Actor :=
  if validAccountUpdated (runtime.sanitizer.sanitizeValue value) then
    match actor.accountLogin with
    | some (.starting waiters completion _) =>
        { actor with accountLogin := some (.starting waiters completion true) }
    | _ => { actor with accountLogin := none }
  else actor.pushDiagnostic "Codex emitted a malformed account/updated notification"

/-! ## Messages -/

/-- The run a message's parameters name. -/
def messageRunKey (value : Value) : Option (String × String) := do
  let params ← value.get "params"
  let thread ← params.str "threadId"
  let turn ← (params.str "turnId").or ((params.get "turn").bind (·.str "id"))
  return (thread, turn)

/-- `run_for_message`. -/
def runForMessage (value : Value) (runs : Dict (String × String) ProviderRunHandle) :
    Option ProviderRunHandle :=
  (messageRunKey value).bind runs.find

def messageHasRunIdentity (value : Value) : Bool :=
  ((value.get "params").bind Value.asObject).any fun params =>
    params.containsKey "threadId" && (params.containsKey "turnId" || params.containsKey "turn")

/-- `emit_terminal_and_retire`. -/
def emitTerminalAndRetire (actor : Actor) (run : ProviderRunHandle)
    (state : HarnessRunTerminal) (native : String) : Actor :=
  let actor := actor.emit ⟨.runTerminal run state, native⟩
  { actor with
    runs := actor.runs.remove (run.sessionId, run.nativeId)
    serverRequests := actor.serverRequests.retain fun request _ => request.run ≠ run
    reducer := actor.reducer.retireRun run }

/-- The frame of a JSON-RPC error. -/
def protocolErrorFrame (id : Value) (rejection : ServerRequestRejection) : Value :=
  .object [("id", id), ("error", .object [("code", .number (.integer rejection.code)),
    ("message", .string rejection.message)])]

/-- The event that reports a rejected request. -/
def rejectionEvent (rejection : ServerRequestRejection) (run : Option ProviderRunHandle)
    (method native : String) : NativeEvent :=
  if rejection.code = -32601 then .unknown run method native else .malformed run method native

/-- The end of a run whose terminal frame is malformed. -/
def endMalformed (actor : Actor) (run : Option ProviderRunHandle) : Actor :=
  match run with
  | some run =>
      actor.emitTerminalAndRetire run (.crashed "Codex emitted a malformed terminal frame")
        "\x7b\"event\":\"malformed-terminal-frame\"\x7d"
  | none => actor

/-- What is done with one event of the reducer. -/
def dispatch (completesRun : Bool) (run : Option ProviderRunHandle) (actor : Actor)
    (event : NativeEvent) : Actor :=
  match event.event with
  | .runTerminal run state => actor.emitTerminalAndRetire run state event.native
  | .malformed .. =>
      if completesRun then (actor.emit event).endMalformed run else actor.emit event
  | _ => actor.emit event

/-- The message's way through the reducer. -/
def reduceMessage (actor : Actor) (method native : String) (value : Value)
    (run : Option ProviderRunHandle) (request : Option ProviderRequestHandle) : Actor :=
  let (reducer, events) := actor.reducer.reduce native value run request
  events.foldl (dispatch (method = "turn/completed") run) { actor with reducer := reducer }

/-- A frame with a method that is no account notification. A write that fails
is reported before anything else has happened. -/
def handleMessage (runtime : Runtime) (writable : Bool) (actor : Actor) (raw : String)
    (value : Value) (method : String) : Except HarnessError Actor :=
  let value := runtime.sanitizer.sanitizeValue value
  let run := runForMessage value actor.runs
  let native := runtime.sanitizer.sanitize raw
  match value.get "id" with
  | some id =>
      match validateServerRequest value run actor.serverRequests with
      | .ok (handle, pending) =>
          .ok ({ actor with
            serverRequests := actor.serverRequests.set handle pending }.reduceMessage
              method native value run (some handle))
      | .error rejection =>
          if writable then
            .ok (((actor.writeFrame (protocolErrorFrame id rejection) true).pushDiagnostic
              native).emit (rejectionEvent rejection run method native))
          else .error (.transport "Codex stdin write failed")
  | none =>
      if messageHasRunIdentity value && run.isNone then
        .ok (actor.emit (.unknown none method native))
      else .ok (actor.reduceMessage method native value run none)

/-- The method a frame is treated by. -/
def frameMethod (value : Value) : String := (value.str "method").getD "codex.unknown"

/-- `handle_frame`. -/
def handleFrame (runtime : Runtime) (writable : Bool) (actor : Actor) (raw : String)
    (value : Value) : Except HarnessError Actor :=
  if (value.get "method").isNone then .ok (actor.handleResponse runtime raw value)
  else if frameMethod value = "account/login/completed" then
    .ok (actor.loginCompleted runtime value)
  else if frameMethod value = "account/updated" then .ok (actor.accountUpdated runtime value)
  else actor.handleMessage runtime writable raw value (frameMethod value)

/-! ## Settlement -/

inductive Settlement
  | shutdown
  | crashed
  deriving DecidableEq

/-- The terminal state and the payload a settlement gives every run. -/
def Settlement.terminal (sanitizer : Sanitizer) : Settlement → HarnessRunTerminal × String
  | .shutdown => (.interrupted, "\x7b\"event\":\"runtime-shutdown\"\x7d")
  | .crashed =>
      (.crashed (sanitizer.sanitize "Codex App Server disconnected"),
        "\x7b\"event\":\"process-exited\"\x7d")

/-- The error of a request that is settled. -/
def settledError (pending : PendingClient) : HarnessError :=
  if pending.mutation then .outcomeUnknown pending.method else .disconnected

/-- The reply to one request that is settled. -/
def settlePending (actor : Actor) (pending : PendingClient) : Actor :=
  match pending.reply with
  | some channel => actor.reply channel (.request (.error (settledError pending)))
  | none => actor

/-- `settle_runtime`. -/
def settleRuntime (runtime : Runtime) (arrival : Arrival) (settlement : Settlement)
    (actor : Actor) : Actor :=
  let settled := (actor.pending.inOrder arrival.pendingOrder).foldl
    (fun actor entry => actor.settlePending entry.2) { actor with pending := ∅ }
  let (state, native) := settlement.terminal runtime.sanitizer
  (settled.runs.inOrder arrival.runOrder).foldl
    (fun actor entry => actor.emitTerminalAndRetire entry.2 state native)
    { settled with serverRequests := ∅ }

/-- The end of the loop, where the login goes out of scope. -/
def close (actor : Actor) : Actor := { actor.forgetLogin with closed := true }

/-- A settlement and the end of the loop. -/
def exit (runtime : Runtime) (arrival : Arrival) (settlement : Settlement) (actor : Actor) :
    Actor :=
  (actor.settleRuntime runtime arrival settlement).close

/-! ## Commands -/

/-- The frame of a client's request. -/
def requestFrame (id : Nat) (method : String) (params : Value) : Value :=
  .object [("id", .number (.integer id)), ("method", .string method), ("params", params)]

/-- `operation_run_identity`. -/
def operationRunIdentity (method : String) (params : Value) : Option (String × String) := do
  let thread ← params.str "threadId"
  match method with
  | "turn/steer" => return (thread, ← params.str "expectedTurnId")
  | "turn/interrupt" => return (thread, ← params.str "turnId")
  | _ => none

/-- The run that an operation names but the runtime does not have. -/
def missingRun (actor : Actor) (request : ClientRequest) : Option (String × String) :=
  (operationRunIdentity request.method request.params).filter fun key =>
    (actor.runs.find key).isNone

def handleRequest (runtime : Runtime) (arrival : Arrival) (actor : Actor)
    (request : ClientRequest) : Actor :=
  match actor.missingRun request with
  | some (thread, turn) =>
      actor.reply actor.round (.request (.error (.notFound "run" (thread ++ "/" ++ turn))))
  | none =>
      let id := actor.nextId
      let actor := { actor with nextId := id + 1 }.writeFrame
        (requestFrame id request.method request.params) arrival.writable
      if arrival.writable then
        { actor with
          pending := actor.pending.set id
            ⟨request.method, request.mutation, request.kind, some actor.round⟩ }
      else
        let error : HarnessError :=
          if request.mutation then .outcomeUnknown request.method else .disconnected
        (actor.reply actor.round (.request (.error error))).exit runtime arrival .crashed

/-- The result a client's answer gives a pending server request. -/
def responseResult (kind : ServerRequestKind) (response : ProviderResponse) : Option Value :=
  match kind, response with
  | .approval, .approval approved =>
      some (.object [("decision", .string (if approved then "accept" else "decline"))])
  | .userInput questionIds, .userInput answer =>
      some (.object [("answers", .object (questionIds.map fun id =>
        (id, .object [("answers", .array [.string answer])])))])
  | _, _ => none

def responseFrame (rpcId result : Value) : Value := .object [("id", rpcId), ("result", result)]

/-- `respond_to_server_request`, with what the loop makes of its outcome. -/
def handleRespond (runtime : Runtime) (arrival : Arrival) (actor : Actor)
    (request : ProviderRequestHandle) (response : ProviderResponse) : Actor :=
  match actor.serverRequests.find request with
  | none =>
      actor.reply actor.round
        (.responded (.error (.notFound "provider request" request.toText)))
  | some pending =>
      if pending.uncertain then
        actor.reply actor.round (.responded (.error (.outcomeUnknown "provider/request/respond")))
      else
        match responseResult pending.kind response with
        | none =>
            actor.reply actor.round (.responded (.error (.invalidInput
              "provider response does not match request kind")))
        | some result =>
            let actor := actor.writeFrame (responseFrame pending.rpcId result) arrival.writable
            if arrival.writable then
              { actor with serverRequests := actor.serverRequests.remove request }.reply
                actor.round (.responded (.ok ()))
            else
              ({ actor with
                  serverRequests :=
                    actor.serverRequests.set request { pending with uncertain := true } }.reply
                actor.round (.responded (.error (.outcomeUnknown "provider/request/respond")))).exit
                  runtime arrival .crashed

/-- The parameters of a login start. -/
def loginStartParams : Value :=
  .object [("type", .string "chatgpt"), ("useHostedLoginSuccessPage", .bool true)]

/-- A login start that is sent to the provider. -/
def sendLoginStart (runtime : Runtime) (arrival : Arrival) (actor : Actor) : Actor :=
  let id := actor.nextId
  let actor := { actor with
    accountLogin := some (.starting [actor.round] none false)
    nextId := id + 1 }.writeFrame
      (requestFrame id "account/login/start" loginStartParams) arrival.writable
  if arrival.writable then
    { actor with
      pending := actor.pending.set id ⟨"account/login/start", true, .accountLoginStart, none⟩ }
  else
    (actor.settleLoginStart (.error (.outcomeUnknown "account/login/start"))).exit
      runtime arrival .crashed

def handleLoginStart (runtime : Runtime) (arrival : Arrival) (actor : Actor) : Actor :=
  match actor.accountLogin with
  | some (.starting waiters completion updated) =>
      { actor with
        accountLogin := some (.starting (waiters ++ [actor.round]) completion updated) }
  | some (.pending loginId authUrl) =>
      actor.reply actor.round (.loginStart (.ok (.loginInProgress loginId authUrl)))
  | some .failed | none => actor.sendLoginStart runtime arrival

def handleCommand (runtime : Runtime) (arrival : Arrival) (actor : Actor) :
    CommandMessage → Actor
  | .request request => actor.handleRequest runtime arrival request
  | .respond request response => actor.handleRespond runtime arrival request response
  | .diagnostics => actor.reply actor.round (.diagnostics actor.diagnostics)
  | .recordDiagnostic diagnostic => actor.pushDiagnostic diagnostic
  | .health => actor.reply actor.round .health
  | .accountLoginStatus =>
      actor.reply actor.round (.loginStatus (actor.accountLogin.bind AccountLoginState.status))
  | .accountLoginStart => actor.handleLoginStart runtime arrival
  | .shutdown =>
      ((actor.settleRuntime runtime arrival .shutdown).reply actor.round .shutdown).close

/-! ## The loop -/

def handleInbound (runtime : Runtime) (arrival : Arrival) (actor : Actor) : Inbound → Actor
  | .frame raw value =>
      match actor.handleFrame runtime arrival.writable raw value with
      | .ok actor => actor
      | .error _ => actor.exit runtime arrival .crashed
  | .malformed raw =>
      let raw := runtime.sanitizer.sanitize raw
      (actor.pushDiagnostic raw).emit (.malformed none "codex.malformed-frame" raw)
  | .oversized start =>
      let start := runtime.sanitizer.sanitize start
      (actor.pushDiagnostic start).emit (.malformed none "codex.oversized-frame" start)
  | .stderr chunk => actor.pushDiagnostic (runtime.sanitizer.sanitize chunk)
  | .eof => actor.exit runtime arrival .crashed

/-- A command that reaches a closed actor: its reply channel is dropped. -/
def abandon (actor : Actor) : Input → Actor
  | .command (.recordDiagnostic _) | .hangup | .inbound _ => actor
  | .command _ => actor.reply actor.round .dropped

/-- What the loop does with one input. -/
def handleInput (runtime : Runtime) (arrival : Arrival) (actor : Actor) : Actor :=
  if actor.closed then actor.abandon arrival.input
  else
    match arrival.input with
    | .command message => actor.handleCommand runtime arrival message
    | .hangup => actor.exit runtime arrival .shutdown
    | .inbound inbound => actor.handleInbound runtime arrival inbound

/-- One round of `run_actor`. -/
def step (runtime : Runtime) (actor : Actor) (arrival : Arrival) : Actor :=
  let actor := actor.handleInput runtime arrival
  { actor with round := actor.round + 1 }

/-- `run_actor` on everything that arrives, from the state after the handshake. -/
def run (runtime : Runtime) (arrivals : List Arrival) : Actor :=
  arrivals.foldl (step runtime) {}

end Actor

end YakShed.Codex
