/-
# The Codex event bridge

`CodexHarness` stands between the adapters, which send native events into one
shared channel, and the supervisor's event pump. Events of a run that is not
registered yet are kept aside; its registration hands them to the replay queue,
which the pump looks at before the channel.
-/

import YakShed.Collections.Dict
import YakShed.Concurrency.Program
import YakShed.Supervisor.Events

namespace YakShed.Codex

open Concurrent

def pendingEventCapacity : Nat := 128
def eventChannelCapacity : Nat := 128

/-! ## Native events -/

/-- `validate_opaque_id`. -/
def isProviderComponent (value : String) : Bool :=
  !(trimIsEmpty value || 4096 < value.utf8ByteSize || value.toList.any isControl)

/-- A native run. Its components have passed `validate_opaque_id`. -/
structure ProviderRunHandle where
  runtime : String
  sessionId : String
  nativeId : String
  accepted : isProviderComponent runtime && isProviderComponent sessionId &&
    isProviderComponent nativeId
  deriving DecidableEq

/-- `Display` of a native run. -/
def ProviderRunHandle.toText (run : ProviderRunHandle) : String :=
  run.runtime ++ "/" ++ run.sessionId ++ "/" ++ run.nativeId

structure ProviderCommandHandle where
  run : ProviderRunHandle
  nativeId : String
  deriving DecidableEq

structure ProviderRequestHandle where
  run : ProviderRunHandle
  nativeId : String
  deriving DecidableEq

inductive HarnessRunTerminal
  | completed
  | failed (diagnostic : String)
  | interrupted
  | crashed (diagnostic : String)
  deriving DecidableEq

/-- `matches!(state, HarnessRunTerminal::Crashed { .. })`. -/
def HarnessRunTerminal.isCrashed : HarnessRunTerminal → Bool
  | crashed _ => true
  | _ => false

def HarnessRunTerminal.state : HarnessRunTerminal → RunTerminal
  | completed => .completed
  | failed diagnostic => .failed diagnostic
  | interrupted => .interrupted
  | crashed diagnostic => .crashed diagnostic

/-- An adapter's event. Native payloads that no conversion reads are left out. -/
inductive HarnessEvent
  | runAccepted (run : ProviderRunHandle)
  | messageDelta (run : ProviderRunHandle) (chunk : String)
  | messageCompleted (run : ProviderRunHandle) (text : String)
  | approvalRequested (request : ProviderRequestHandle) (summary : String)
  | userInputRequested (request : ProviderRequestHandle) (prompt : String)
  | fileMutation (run : ProviderRunHandle) (path summary : String)
  | commandOutputDelta (run : ProviderRunHandle) (command : ProviderCommandHandle)
      (commandText chunk : String)
  | commandOutputCompleted (run : ProviderRunHandle) (command : ProviderCommandHandle)
      (commandText output : String)
  | runTerminal (run : ProviderRunHandle) (state : HarnessRunTerminal)
  | unknown (run : Option ProviderRunHandle) (itemType native : String)
  | malformed (run : Option ProviderRunHandle) (itemType native : String)
  deriving DecidableEq

namespace HarnessEvent

/-- `event_run`. -/
def run : HarnessEvent → Option ProviderRunHandle
  | runAccepted run | messageDelta run _ | messageCompleted run _ | fileMutation run _ _
  | commandOutputDelta run _ _ _ | commandOutputCompleted run _ _ _ | runTerminal run _ => some run
  | approvalRequested request _ | userInputRequested request _ => some request.run
  | unknown run _ _ | malformed run _ _ => run

/-- The run a terminal event ends, and whether its runtime failed. -/
def terminal : HarnessEvent → Option (ProviderRunHandle × Bool)
  | runTerminal run state => some (run, state.isCrashed)
  | _ => none

end HarnessEvent

/-! ## The bridge's state -/

/-- The `RunState` that the bridge's mutex guards. An adapter itself is behind
its port, so of `providers` only the keys are left. -/
structure RunState where
  providers : List ConnectionId := []
  runs : Dict ProviderRunRef (ConnectionId × RunId × ProviderRunHandle) := ∅
  nativeRefs : Dict ProviderRunHandle ProviderRunRef := ∅
  correlations : Dict RunId ProviderRunRef := ∅
  pendingEvents : Dict ProviderRunHandle (List HarnessEvent) := ∅
  replayEvents : List HarnessEvent := []

namespace RunState

def pendingOf (state : RunState) (run : ProviderRunHandle) : List HarnessEvent :=
  (state.pendingEvents.find run).getD []

def pendingFull (state : RunState) : Bool :=
  pendingEventCapacity ≤ (state.pendingEvents.values.map List.length).sum

/-- `next_event`: an event of an unknown run is kept. -/
def keep (state : RunState) (run : ProviderRunHandle) (event : HarnessEvent) : RunState :=
  { state with pendingEvents := state.pendingEvents.set run (state.pendingOf run ++ [event]) }

/-- `register_run`, once the port's reference is built. -/
def register (state : RunState) (connection : ConnectionId) (correlation : RunId)
    (native : ProviderRunHandle) (run : ProviderRunRef) : RunState :=
  { state with
    nativeRefs := state.nativeRefs.set native run
    runs := state.runs.set run (connection, correlation, native)
    correlations := state.correlations.set correlation run
    pendingEvents := state.pendingEvents.remove native
    replayEvents := state.replayEvents ++ state.pendingOf native }

/-- `retire_run`. -/
def retire (state : RunState) (native : ProviderRunHandle) (runtimeFailed : Bool) : RunState :=
  match state.nativeRefs.find native with
  | none => state
  | some run =>
      let state' := { state with nativeRefs := state.nativeRefs.remove native }
      match state.runs.find run with
      | none => state'
      | some (connection, correlation, _) =>
          let runs := state.runs.remove run
          let idle := !runs.values.any fun entry => entry.1 = connection
          { state' with
            runs := runs
            correlations := state.correlations.remove correlation
            providers :=
              if runtimeFailed && idle then state.providers.filter (· ≠ connection)
              else state.providers }

end RunState

/-! ## The world -/

/-- What `next_event` has in hand. -/
inductive Hand
  | empty
  /-- The replay queue was empty; the channel is next. -/
  | waiting
  /-- Taken from the channel, not looked up yet. -/
  | received (event : HarnessEvent)
  /-- Being converted. -/
  | converting (event : HarnessEvent)
  /-- Converted, its run retired. -/
  | retired (event : HarnessEvent)
  deriving DecidableEq

/-- The bridge with its channel and the permit of `event_ready`. The rest is a
record that the program has no variable for: the pump's place in `next_event`,
what the adapters sent, what was registered and what the pump was given. -/
structure World where
  state : RunState := {}
  events : List HarnessEvent := []
  eventReady : Bool := false
  hand : Hand := .empty
  emitted : List HarnessEvent := []
  registered : List ProviderRunHandle := []
  retired : List ProviderRunHandle := []
  returned : List (HarnessEvent × Except HarnessPortError RunHarnessEvent) := []

/-! ## Actions -/

inductive Act : Type → Type 1
  -- `next_event`
  | popReplay : Act (Option HarnessEvent)
  | pendingFull : Act Bool
  | notified : Act Unit
  | select : Act (Option HarnessEvent)
  | classify (event : HarnessEvent) : Act Bool
  | returned (result : Except HarnessPortError RunHarnessEvent) : Act Unit
  -- `convert_event`
  | runRef (run : ProviderRunHandle) : Act (Except HarnessPortError ProviderRunRef)
  | retireRun (run : ProviderRunHandle) (runtimeFailed : Bool) : Act Unit
  -- `start_run`
  | correlated (correlation : RunId) : Act (Option ProviderRunRef)
  | adapterStart (connection : ConnectionId) (correlation : RunId) :
      Act (Except HarnessPortError ProviderRunHandle)
  | registerRun (connection : ConnectionId) (correlation : RunId) (native : ProviderRunHandle) :
      Act (Except HarnessPortError ProviderRunRef)
  -- the adapters
  | send (event : HarnessEvent) : Act Unit

inductive Proc : Type → Type
  /-- The supervisor's event pump: one call of `next_event` after another. -/
  | pump : Proc Unit
  | nextEvent : Proc (Except HarnessPortError RunHarnessEvent)
  | startRun (connection : ConnectionId) (correlation : RunId) : Proc Unit
  /-- An adapter's event on its way through `forward`. -/
  | emit (event : HarnessEvent) : Proc Unit

/-- What happens at any time. -/
def Proc.isOutside {β : Type} : Proc β → Bool
  | .startRun .. | .emit _ => true
  | .pump | .nextEvent => false

/-- What the adapters decide. -/
inductive Oracle
  | silent
  | started (answer : Except HarnessPortError ProviderRunHandle)

/-- The port's reference to a native run. -/
def portRef (native : ProviderRunHandle) : Except HarnessPortError ProviderRunRef :=
  match ProviderRunRef.fromParts "codex" native.runtime native.sessionId native.nativeId with
  | .ok run => .ok run
  | .error (.invalidProviderId message) =>
      .error (.invalidInput ("invalid provider identifier: " ++ message))
  | .error _ => .error (.invalidInput "")

def Act.exec (oracle : Oracle) (world : World) : {β : Type} → Act β →
    Option (β × World × List (Proc Unit))
  | _, popReplay =>
      match world.state.replayEvents with
      | event :: rest =>
          some (some event,
            { world with
              state := { world.state with replayEvents := rest }, hand := .converting event }, [])
      | [] => some (none, { world with hand := .waiting }, [])
  | _, pendingFull => some (world.state.pendingFull, world, [])
  | _, notified =>
      if world.eventReady then some ((), { world with eventReady := false, hand := .empty }, [])
      else none
  -- biased: the permit goes before the channel
  | _, select =>
      if world.eventReady then some (none, { world with eventReady := false, hand := .empty }, [])
      else
        match world.events with
        | event :: rest =>
            some (some event, { world with events := rest, hand := .received event }, [])
        -- the bridge has a sender of its own, so the channel stays open
        | [] => none
  | _, classify event =>
      match event.run with
      | some run =>
          if (world.state.nativeRefs.find run).isNone then
            some (true, { world with state := world.state.keep run event, hand := .empty }, [])
          else some (false, { world with hand := .converting event }, [])
      | none => some (false, { world with hand := .converting event }, [])
  | _, returned result =>
      match world.hand with
      | .converting event | .retired event =>
          some ((),
            { world with hand := .empty, returned := world.returned ++ [(event, result)] }, [])
      | _ => some ((), { world with hand := .empty }, [])
  | _, runRef run =>
      match world.state.nativeRefs.find run with
      | some found => some (.ok found, world, [])
      | none => some (.error (.notFound run.toText), world, [])
  | _, retireRun run runtimeFailed =>
      let hand := match world.hand with
        | .converting event => Hand.retired event
        | hand => hand
      some ((),
        { world with
          state := world.state.retire run runtimeFailed, hand := hand
          retired := run :: world.retired }, [])
  | _, correlated correlation => some (world.state.correlations.find correlation, world, [])
  | _, adapterStart _ _ =>
      match oracle with
      | .started answer => some (answer, world, [])
      | .silent => none
  | _, registerRun connection correlation native =>
      match portRef native with
      | .error error => some (.error error, world, [])
      | .ok run =>
          some (.ok run,
            { world with
              state := world.state.register connection correlation native run
              eventReady := world.eventReady || (world.state.pendingEvents.find native).isSome
              registered := native :: world.registered }, [])
  | _, send event =>
      if world.events.length < eventChannelCapacity then
        some ((),
          { world with events := world.events ++ [event], emitted := world.emitted ++ [event] }, [])
      else none

/-! ## Programs -/

abbrev Bri (α : Type) : Type 1 := Prog Act Proc α

def act {β : Type} (action : Act β) : Bri β := Prog.act action

/-- `self.run_ref(run)?`. -/
def withRef {α : Type} (run : ProviderRunHandle)
    (next : ProviderRunRef → Bri (Except HarnessPortError α))
    : Bri (Except HarnessPortError α) := do
  match ← act (.runRef run) with
  | .error error => return .error error
  | .ok found => next found

/-- The match of `convert_event`. -/
def convertRefs : HarnessEvent → Bri (Except HarnessPortError RunHarnessEvent)
  | .runAccepted run => withRef run fun run => return .ok (.runAccepted run)
  | .messageDelta run chunk => withRef run fun run => return .ok (.messageDelta run chunk)
  | .messageCompleted run text => withRef run fun run => return .ok (.messageCompleted run text)
  | .approvalRequested request summary =>
      withRef request.run fun run =>
        return .ok (.approvalRequested ⟨run, request.nativeId⟩ summary)
  | .userInputRequested request prompt =>
      withRef request.run fun run =>
        return .ok (.userInputRequested ⟨run, request.nativeId⟩ prompt)
  | .fileMutation run path summary =>
      withRef run fun run => return .ok (.fileMutation run path summary)
  | .commandOutputDelta run command commandText chunk =>
      withRef run fun run => withRef command.run fun owner =>
        return .ok (.commandOutputDelta run ⟨owner, command.nativeId⟩ commandText chunk)
  | .commandOutputCompleted run command commandText output =>
      withRef run fun run => withRef command.run fun owner =>
        return .ok (.commandOutputCompleted run ⟨owner, command.nativeId⟩ commandText output)
  | .runTerminal run state => withRef run fun run => return .ok (.runTerminal run state.state)
  | .unknown (some run) itemType native =>
      withRef run fun run => return .ok (.unknown (some run) itemType native)
  | .unknown none itemType native => return .ok (.unknown none itemType native)
  | .malformed (some run) itemType native =>
      withRef run fun run => return .ok (.malformed (some run) itemType native)
  | .malformed none itemType native => return .ok (.malformed none itemType native)

def convertEvent (event : HarnessEvent) : Bri (Except HarnessPortError RunHarnessEvent) := do
  match ← convertRefs event with
  | .error error => return .error error
  | .ok converted =>
      match event.terminal with
      | some (run, runtimeFailed) => act (.retireRun run runtimeFailed)
      | none => pure ()
      return .ok converted

/-- One turn of the loop of `next_event`; `continue` is a call. -/
def nextEvent : Bri (Except HarnessPortError RunHarnessEvent) := do
  match ← act .popReplay with
  | some event => convertEvent event
  | none =>
      if ← act .pendingFull then
        act .notified
        Prog.invoke .nextEvent
      else
        match ← act .select with
        | none => Prog.invoke .nextEvent
        | some event =>
            if ← act (.classify event) then Prog.invoke .nextEvent
            else convertEvent event

/-- The single pump. A pump that an error ends is started again by the next
start, so it goes on here. -/
def pump : Bri Unit := do
  let result ← Prog.invoke .nextEvent
  act (.returned result)
  Prog.invoke .pump

/-- `start_run`, with the adapter's part of it in one step. -/
def startRun (connection : ConnectionId) (correlation : RunId) : Bri Unit := do
  match ← act (.correlated correlation) with
  | some _ => pure ()
  | none =>
      match ← act (.adapterStart connection correlation) with
      | .error _ => pure ()
      | .ok native =>
          let _ ← act (.registerRun connection correlation native)

def Proc.body : {β : Type} → Proc β → Bri β
  | _, .pump => Codex.pump
  | _, .nextEvent => Codex.nextEvent
  | _, .startRun connection correlation => Codex.startRun connection correlation
  | _, .emit event => act (.send event)

def bridge : Machine Act Proc World Oracle where
  exec := fun act oracle world => act.exec oracle world
  body := Proc.body

/-- A new harness with its pump. -/
def newBridge : Config Act Proc World where
  world := {}
  tasks := [Prog.invoke .pump]

end YakShed.Codex
