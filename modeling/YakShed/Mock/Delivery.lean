/-
# Exactly-once delivery of a script

What a plan says is sent for its run, and that every run of the harness keeps to
it: whatever operations overlap and wherever they are dropped, a step is gone from
the script exactly when its event is in the stream. Every section checks what it
relies on before it sends, so one invariant of the state is enough, and it does not
speak of what the operations remember from before they waited.
-/

import YakShed.Mock.Harness

namespace YakShed.Mock

open Codex (HarnessEvent HarnessRunTerminal NativeEvent ProviderCommandHandle ProviderComponent
  ProviderRequestHandle ProviderRunHandle)
open Concurrent

/-! ## What a plan says -/

namespace MockScriptStep

/-- How many command ids the step has generated for it. -/
def generated : MockScriptStep → Nat
  | commandOutput none _ _ _ => 1
  | _ => 0

def isFileMutation : MockScriptStep → Bool
  | fileMutation .. => true
  | _ => false

end MockScriptStep

/-- How many command ids are generated for some steps. -/
def generated (steps : List MockScriptStep) : Nat := (steps.map (·.generated)).sum

/-- The terminal that the plan's fault puts after some steps. -/
def MockRunPlan.crash (plan : MockRunPlan) (consumed : List MockScriptStep) :
    Option PendingTerminal :=
  match plan.fault with
  | some .exitAfterRunAccepted =>
      if consumed = [] then
        some ⟨.crashed "mock runtime exited after accepting run", MockHarness.runtimeExit⟩
      else none
  | some .exitAfterFileMutation =>
      if consumed.getLast?.any (·.isFileMutation) then
        some ⟨.crashed "mock runtime exited after file mutation", MockHarness.runtimeExit⟩
      else none
  | _ => none

namespace MockHarness

variable (harness : MockHarness) (run : ProviderRunHandle)

/-- The event of a step, where `number` is the next generated command id's. -/
def stepEvent (number : Nat) : MockScriptStep → Option NativeEvent
  | .message chunk native => some ⟨.messageDelta run chunk, harness.native native⟩
  | .messageCompleted text native => some ⟨.messageCompleted run text, harness.native native⟩
  | .approval requestId summary native =>
      some ⟨.approvalRequested ⟨run, requestId.value⟩ summary, harness.native native⟩
  | .userInput requestId prompt native =>
      some ⟨.userInputRequested ⟨run, requestId.value⟩ prompt, harness.native native⟩
  | .awaitResponse _ => none
  | .fileMutation path summary native =>
      some ⟨.fileMutation run path summary, harness.native native⟩
  | .commandOutput commandId command chunk native =>
      (ProviderCommandHandle.new run (commandId.getD ("command-" ++ padded number))).map
        fun handle => ⟨.commandOutputCompleted run handle command chunk, harness.native native⟩
  | .complete native => some ⟨.runTerminal run .completed, harness.native native⟩
  | .unknown itemType native => some (.unknown (some run) itemType (harness.native native))
  | .malformed itemType native => some (.malformed (some run) itemType (harness.native native))

/-- The events of some steps, in order. -/
def emitted : Nat → List MockScriptStep → List NativeEvent
  | _, [] => []
  | number, step :: rest =>
      (harness.stepEvent run number step).toList ++ emitted (number + step.generated) rest

/-- The event that the plan's fault puts before the steps. -/
def faultEvents : Option MockHarnessFault → List NativeEvent
  | some .emitUnknownEvent =>
      [.unknown (some run) "mock.future-item"
        (harness.native "\x7b\"type\":\"mock.future-item\",\"answer\":42\x7d")]
  | some .emitMalformedNativePayload =>
      [.malformed (some run) "mock.malformed" (harness.native "\x7bnot-json")]
  | _ => []

/-- How a run may end besides a `complete` step: not yet, by an interruption, or
as its plan's fault says. -/
inductive Ending (plan : MockRunPlan) (consumed : List MockScriptStep) : List NativeEvent → Prop
  | open : Ending plan consumed []
  | interrupted : Ending plan consumed [(harness.interruption run).event]
  | crashed (terminal : PendingTerminal) (fault : plan.crash consumed = some terminal) :
      Ending plan consumed
        [(harness.terminalDelivery run terminal.state terminal.native false).event]

/-- What is sent for a run, steers apart, each event with its cause. -/
def script (plan : MockRunPlan) (faults : List NativeEvent) (consumed : List MockScriptStep)
    (ending : List NativeEvent) : List Sent :=
  ⟨harness.acceptedEvent run, .accepted plan⟩ ::
    (faults.map (⟨·, .fault⟩) ++ (harness.emitted run 1 consumed).map (⟨·, .step⟩) ++
      ending.map (⟨·, .ending⟩))

variable {harness run}

theorem emitted_append (number : Nat) (steps rest : List MockScriptStep) :
    harness.emitted run number (steps ++ rest) =
      harness.emitted run number steps ++
        harness.emitted run (number + generated steps) rest := by
  induction steps generalizing number with
  | nil => rfl
  | cons step steps ih =>
      unfold generated
      rw [List.cons_append, emitted, emitted, ih, List.append_assoc, List.map_cons, List.sum_cons,
        Nat.add_assoc]
      rfl

theorem emitted_singleton (number : Nat) (step : MockScriptStep) :
    harness.emitted run number [step] = (harness.stepEvent run number step).toList :=
  List.append_nil _

theorem generated_append (steps rest : List MockScriptStep) :
    generated (steps ++ rest) = generated steps + generated rest := by
  unfold generated
  rw [List.map_append, List.sum_append]

theorem stepEvent_run {number : Nat} {step : MockScriptStep} {event : NativeEvent}
    (h : harness.stepEvent run number step = some event) : event.event.run = some run := by
  cases step with
  | awaitResponse requestId => cases h
  | commandOutput commandId command chunk native =>
      obtain ⟨handle, -, rfl⟩ := Option.map_eq_some_iff.mp h
      rfl
  | _ =>
      cases h
      rfl

end MockHarness

/-! ## What was sent for a run -/

/-- The event ends its run. -/
def Sent.isTerminal (sent : Sent) : Bool := sent.event.event.terminal.isSome

namespace World

def sentTo (world : World) (run : ProviderRunHandle) : List Sent :=
  world.sent.filter fun sent => sent.event.event.run = some run

/-- The recorded response of a request. -/
def response (world : World) (request : ProviderRequestHandle) : Option ProviderResponse :=
  (world.state.requests.find request).bind (·.response)

/-- All but the accepted steers. -/
def scripted (world : World) (run : ProviderRunHandle) : List Sent :=
  (world.sentTo run).filter fun sent => sent.cause ≠ .steer

end World

/-- What was sent for a run is what its plan says: `consumed` are the steps that
are gone from the script. -/
structure Delivered (harness : MockHarness) (world : World) (run : ProviderRunHandle)
    (record : RunRecord) (plan : MockRunPlan) (faults : List NativeEvent)
    (consumed : List MockScriptStep) (ending : List NativeEvent) : Prop where
  steps : plan.steps = consumed ++ record.steps
  first : (world.sentTo run).head? = some ⟨harness.acceptedEvent run, .accepted plan⟩
  scripted : world.scripted run = harness.script run plan faults consumed ending
  /-- The fault's event comes before every step. -/
  faults : faults = harness.faultEvents run plan.fault ∨
    faults = [] ∧ consumed = [] ∧ ending = []
  ends : harness.Ending run plan consumed ending
  steered : ∀ sent ∈ world.sentTo run, sent.cause = .steer →
    ∃ input, sent.event = harness.steerEvent run input
  answered : ∀ requestId, .awaitResponse requestId ∈ consumed →
    (world.response (ProviderRequestHandle.new run requestId)).isSome
  /-- Nothing follows a terminal, so there is at most one. -/
  last : ∀ before sent after, world.sentTo run = before ++ sent :: after → sent.isTerminal →
    after = []

/-- What a later world has kept: the events in the stream, and the responses. -/
structure World.Precedes (world world' : World) : Prop where
  sent : world.sent <+: world'.sent
  responses : ∀ request response, world.response request = some response →
    world'.response request = some response

namespace World

variable {world world' world'' : World} {run other : ProviderRunHandle}

theorem Precedes.refl (world : World) : world.Precedes world :=
  ⟨List.prefix_rfl, fun _ _ h => h⟩

theorem Precedes.trans (h : world.Precedes world') (h' : world'.Precedes world'') :
    world.Precedes world'' :=
  ⟨h.sent.trans h'.sent, fun request response hresponse =>
    h'.responses request response (h.responses request response hresponse)⟩

theorem sentTo_send (world : World) (event : NativeEvent) (cause : Cause)
    (h : event.event.run = some run) :
    (world.send event cause).sentTo run = world.sentTo run ++ [⟨event, cause⟩] := by
  unfold sentTo send
  rw [List.filter_append, List.filter_singleton, h]
  simp

theorem scripted_send (world : World) (event : NativeEvent) (cause : Cause)
    (h : event.event.run = some run) :
    (world.send event cause).scripted run =
      world.scripted run ++ if cause = .steer then [] else [⟨event, cause⟩] := by
  unfold scripted
  rw [sentTo_send world event cause h, List.filter_append, List.filter_singleton]
  by_cases hcause : cause = .steer
  · simp [hcause]
  · simp [hcause]

theorem sentTo_send_ne (world : World) (event : NativeEvent) (cause : Cause)
    (h : event.event.run = some run) (hne : other ≠ run) :
    (world.send event cause).sentTo other = world.sentTo other := by
  unfold sentTo send
  rw [List.filter_append, List.filter_singleton, h]
  simp [Ne.symm hne]

end World

/-! ## The staging of a step -/

/-- The requests with their responses are all still there. -/
def Requests.Extends (requests requests' : MockHarness.Requests) : Prop :=
  ∀ request record, requests.find request = some record → requests'.find request = some record

theorem Requests.Extends.refl (requests : MockHarness.Requests) :
    Requests.Extends requests requests :=
  fun _ _ h => h

namespace MockHarness

variable {harness : MockHarness} {run : ProviderRunHandle} {record record' : RunRecord}
  {requests requests' : Requests} {step : MockScriptStep} {pending : PendingDelivery}

/-- What a delivered step commits to. -/
inductive Commits (harness : MockHarness) (run : ProviderRunHandle) (record : RunRecord)
    (step : MockScriptStep) :
    PendingDelivery → Option MockHarnessFault → Prop
  | plain (event : NativeEvent) (open_ : event.event.terminal = none) :
      Commits harness run record step ⟨event, .step none⟩ record.fault
  | crash (event : NativeEvent) (open_ : event.event.terminal = none)
      (mutation : step.isFileMutation) (fault : record.fault = some .exitAfterFileMutation) :
      Commits harness run record step
        ⟨event, .step (some ⟨.crashed "mock runtime exited after file mutation", runtimeExit⟩)⟩ none
  | complete (native : String) :
      Commits harness run record step (harness.terminalDelivery run .completed native true)
        record.fault

/-- What `stage` gives for a step whose request is not open yet. -/
structure Staged (harness : MockHarness) (run : ProviderRunHandle) (record : RunRecord)
    (requests : Requests) (step : MockScriptStep) (pending : PendingDelivery)
    (record' : RunRecord) (requests' : Requests) : Prop where
  event : harness.stepEvent run record.nextCommandId step = some pending.event
  commits : Commits harness run record step pending record'.fault
  record : record' = { record with
    nextCommandId := record.nextCommandId + step.generated, fault := record'.fault }
  requests : Requests.Extends requests requests'

theorem extends_set {request : ProviderRequestHandle} (added : RequestRecord)
    (h : requests.find request = none) :
    Requests.Extends requests (requests.set request added) := by
  intro other record hother
  have hne : other ≠ request := by
    rintro rfl
    rw [h] at hother
    cases hother
  rwa [Dict.find_set_ne hne]

theorem stage_ok
    (hopen : ∀ requestId, step.requestId = some requestId →
      requests.find (ProviderRequestHandle.new run requestId) = none)
    (h : harness.stage run record requests step = .ok (pending, record', requests')) :
    Staged harness run record requests step pending record' requests' := by
  cases step with
  | awaitResponse requestId => cases h
  | approval requestId summary native | userInput requestId summary native =>
      cases h
      exact ⟨rfl, .plain _ rfl, rfl, extends_set _ (hopen requestId rfl)⟩
  | fileMutation path summary native =>
      unfold stage at h
      dsimp only at h
      split at h
      · next hfault =>
          cases h
          exact ⟨rfl, .crash _ rfl rfl hfault, rfl, .refl _⟩
      · cases h
        exact ⟨rfl, .plain _ rfl, rfl, .refl _⟩
  | commandOutput commandId command chunk native =>
      unfold stage at h
      dsimp only at h
      split at h
      · cases h
      · next handle hhandle =>
          cases h
          have hevent : harness.stepEvent run record.nextCommandId
              (.commandOutput commandId command chunk native) =
              some ⟨.commandOutputCompleted run handle command chunk, harness.native native⟩ := by
            rw [stepEvent, hhandle, Option.map_some]
          cases commandId with
          | none => exact ⟨hevent, .plain _ rfl, rfl, .refl _⟩
          | some text => exact ⟨hevent, .plain _ rfl, rfl, .refl _⟩
  | complete native =>
      cases h
      exact ⟨rfl, .complete native, rfl, .refl _⟩
  | _ =>
      cases h
      exact ⟨rfl, .plain _ rfl, rfl, .refl _⟩

end MockHarness

/-! ## The invariant of one run -/

namespace MockHarness

/-- What is staged, as it will be sent. -/
def stagedSent : Option PendingDelivery → List Sent
  | some ⟨event, .standalone⟩ => [⟨event, .fault⟩]
  | some ⟨event, .terminal _⟩ => [⟨event, .ending⟩]
  | _ => []

theorem stagedSent_none : stagedSent none = [] := rfl

/-- What may be staged between two sections, for the run's ending. -/
inductive Owes (harness : MockHarness) (run : ProviderRunHandle) (plan : MockRunPlan)
    (consumed : List MockScriptStep) : PendingDelivery → List NativeEvent → Prop
  | fault (event : NativeEvent) (only : harness.faultEvents run plan.fault = [event])
      (unstarted : consumed = []) : Owes harness run plan consumed ⟨event, .standalone⟩ []
  | crash (terminal : PendingTerminal) (fault : plan.crash consumed = some terminal) :
      Owes harness run plan consumed
        (harness.terminalDelivery run terminal.state terminal.native false)
        [(harness.terminalDelivery run terminal.state terminal.native false).event]

/-- The shape of what was sent for a run. -/
structure Logged (harness : MockHarness) (run : ProviderRunHandle) (plan : MockRunPlan)
    (log : List Sent) (active : Bool) : Prop where
  first : log.head? = some ⟨harness.acceptedEvent run, .accepted plan⟩
  steered : ∀ sent ∈ log, sent.cause = .steer → ∃ input, sent.event = harness.steerEvent run input
  running : active = true → ∀ sent ∈ log, sent.isTerminal = false
  ended : active = false →
    ∃ before last, log = before ++ [last] ∧ ∀ sent ∈ before, sent.isTerminal = false

/-- The record of a run has kept pace with what was sent. Together with what is
staged, that is what the plan says for the steps consumed. -/
structure Follows (harness : MockHarness) (run : ProviderRunHandle) (plan : MockRunPlan)
    (scripted : List Sent) (response : ProviderRequestHandle → Option ProviderResponse)
    (record : RunRecord) (consumed : List MockScriptStep) (ending : List NativeEvent) : Prop where
  steps : plan.steps = consumed ++ record.steps
  scripted : scripted ++ stagedSent record.pending =
    harness.script run plan (harness.faultEvents run plan.fault) consumed ending
  ends : harness.Ending run plan consumed ending
  answered : ∀ requestId, .awaitResponse requestId ∈ consumed →
    (response (ProviderRequestHandle.new run requestId)).isSome
  number : record.nextCommandId = 1 + generated consumed
  fault : record.fault = plan.fault ∨ record.fault = none
  pending : ∀ pending, record.pending = some pending →
    record.active = true ∧ Owes harness run plan consumed pending ending
  idle : record.active = true → record.pending = none → ending = []

/-- What holds of a run in every reached world. -/
structure Kept (harness : MockHarness) (world : World) (run : ProviderRunHandle)
    (record : RunRecord) (plan : MockRunPlan) (consumed : List MockScriptStep)
    (ending : List NativeEvent) : Prop where
  logged : Logged harness run plan (world.sentTo run) record.active
  follows : Follows harness run plan (world.scripted run) world.response record consumed ending

variable {harness : MockHarness} {world world' : World} {run : ProviderRunHandle}
  {record record' : RunRecord} {plan : MockRunPlan} {consumed : List MockScriptStep}
  {ending faults : List NativeEvent} {log : List Sent} {active : Bool}

theorem Logged.last (h : Logged harness run plan log active) {before after : List Sent}
    {sent : Sent} (hlog : log = before ++ sent :: after) (hterminal : sent.isTerminal) :
    after = [] := by
  cases active with
  | true =>
      have hmem : sent ∈ log := by
        rw [hlog]
        exact List.mem_append_right before List.mem_cons_self
      rw [h.running rfl sent hmem] at hterminal
      cases hterminal
  | false =>
      obtain ⟨front, last, hfront, hopen⟩ := h.ended rfl
      rcases List.eq_nil_or_concat after with rfl | ⟨middle, final, rfl⟩
      · rfl
      · have hsplit : before ++ sent :: middle ++ [final] = front ++ [last] := by
          rw [← hfront, hlog, List.concat_eq_append, List.append_assoc]
          rfl
        have hprefix : before ++ sent :: middle = front := (List.append_inj' hsplit rfl).1
        have hmem : sent ∈ front := by
          rw [← hprefix]
          exact List.mem_append_right before List.mem_cons_self
        rw [hopen sent hmem] at hterminal
        cases hterminal

/-- One more event for a run that is active. -/
theorem Logged.send (h : Logged harness run plan log true) (sent : Sent)
    (hsteer : sent.cause = .steer → ∃ input, sent.event = harness.steerEvent run input) :
    Logged harness run plan (log ++ [sent]) (!sent.isTerminal) where
  first := by
    rw [List.head?_append, h.first]
    rfl
  steered := by
    intro other hmem
    rcases List.mem_append.mp hmem with hmem | hmem
    · exact h.steered other hmem
    · obtain rfl := List.mem_singleton.mp hmem
      exact hsteer
  running := by
    intro hactive other hmem
    rcases List.mem_append.mp hmem with hmem | hmem
    · exact h.running rfl other hmem
    · obtain rfl := List.mem_singleton.mp hmem
      simpa using hactive
  ended := fun _ => ⟨log, sent, rfl, h.running rfl⟩

theorem script_ending :
    harness.script run plan faults consumed ending =
      harness.script run plan faults consumed [] ++ ending.map (⟨·, .ending⟩) := by
  unfold script
  simp

theorem script_step (step : MockScriptStep) :
    harness.script run plan faults (consumed ++ [step]) [] =
      harness.script run plan faults consumed [] ++
        ((harness.stepEvent run (1 + generated consumed) step).toList.map (⟨·, .step⟩)) := by
  unfold script
  rw [emitted_append, emitted_singleton]
  simp

/-- The invariant, without what is still staged. -/
theorem Kept.delivered (h : Kept harness world run record plan consumed ending) :
    ∃ faults ending, Delivered harness world run record plan faults consumed ending := by
  have hscripted := h.follows.scripted
  cases hpending : record.pending with
  | none =>
      rw [hpending, stagedSent_none, List.append_nil] at hscripted
      exact ⟨harness.faultEvents run plan.fault, ending, h.follows.steps, h.logged.first, hscripted,
        .inl rfl, h.follows.ends, h.logged.steered, h.follows.answered,
        fun before sent after => h.logged.last⟩
  | some pending =>
      rw [hpending] at hscripted
      obtain ⟨-, howes⟩ := h.follows.pending pending hpending
      cases howes with
      | fault event only unstarted =>
          rw [only, unstarted] at hscripted
          have hsplit : world.scripted run ++ [⟨event, .fault⟩] =
              harness.script run plan [] [] [] ++ [⟨event, .fault⟩] := hscripted
          have hrest := (List.append_inj' hsplit rfl).1
          exact ⟨[], [], h.follows.steps, h.logged.first, unstarted ▸ hrest,
            .inr ⟨rfl, unstarted, rfl⟩, .open, h.logged.steered, h.follows.answered,
            fun before sent after => h.logged.last⟩
      | crash terminal fault =>
          rw [script_ending] at hscripted
          have hrest := (List.append_inj' hscripted rfl).1
          exact ⟨harness.faultEvents run plan.fault, [], h.follows.steps, h.logged.first, hrest,
            .inl rfl, .open, h.logged.steered, h.follows.answered,
            fun before sent after => h.logged.last⟩

/-! ## What each section does to a run -/

variable {scripted : List Sent}
  {response response' : ProviderRequestHandle → Option ProviderResponse} {step : MockScriptStep}
  {pending : PendingDelivery} {event : NativeEvent}

theorem Follows.unstaged (h : Follows harness run plan scripted response record consumed ending)
    (hactive : record.active = true) (hnone : record.pending = none) :
    ending = [] ∧
      scripted = harness.script run plan (harness.faultEvents run plan.fault) consumed [] := by
  have hending := h.idle hactive hnone
  have hscripted := h.scripted
  rw [hnone, stagedSent_none, List.append_nil, hending] at hscripted
  exact ⟨hending, hscripted⟩

/-- Responses are only added. -/
theorem Follows.respond (h : Follows harness run plan scripted response record consumed ending)
    (hresponse : ∀ request answer, response request = some answer →
      response' request = some answer) :
    Follows harness run plan scripted response' record consumed ending :=
  { h with
    answered := by
      intro requestId hmem
      obtain ⟨answer, hanswer⟩ := Option.isSome_iff_exists.mp (h.answered requestId hmem)
      exact Option.isSome_iff_exists.mpr ⟨answer, hresponse _ answer hanswer⟩ }

/-- The approval of the run is delayed. -/
theorem Follows.delay (h : Follows harness run plan scripted response record consumed ending)
    (delayed : Bool) :
    Follows harness run plan scripted response { record with delayed } consumed ending :=
  ⟨h.steps, h.scripted, h.ends, h.answered, h.number, h.fault, h.pending, h.idle⟩

/-- What was staged is sent. -/
theorem Follows.flush (h : Follows harness run plan scripted response record consumed ending)
    (hpending : record.pending = some pending) (active : Bool)
    (hidle : active = true → ending = []) :
    Follows harness run plan (scripted ++ stagedSent (some pending)) response
      { record with pending := none, active } consumed ending where
  steps := h.steps
  scripted := by
    rw [stagedSent_none, List.append_nil, ← hpending]
    exact h.scripted
  ends := h.ends
  answered := h.answered
  number := h.number
  fault := h.fault
  pending := fun _ hnone => by cases hnone
  idle := fun hactive _ => hidle hactive

/-- An answered request lets its step go. -/
theorem Follows.await (h : Follows harness run plan scripted response record consumed ending)
    (hactive : record.active = true) (hnone : record.pending = none) {requestId : ProviderComponent}
    (hhead : record.steps.head? = some (.awaitResponse requestId))
    (hanswered : (response (ProviderRequestHandle.new run requestId)).isSome) :
    Follows harness run plan scripted response { record with steps := record.steps.tail }
      (consumed ++ [.awaitResponse requestId]) ending := by
  obtain ⟨rfl, hscripted⟩ := h.unstaged hactive hnone
  obtain ⟨rest, hrest⟩ := List.head?_eq_some_iff.mp hhead
  have hgenerated : generated (consumed ++ [.awaitResponse requestId]) = generated consumed :=
    generated_append _ _
  exact
    { steps := by
        rw [h.steps, hrest, List.append_assoc]
        rfl
      scripted := by
        change scripted ++ stagedSent record.pending = _
        rw [script_step, hnone, hscripted]
        rfl
      ends := .open
      answered := by
        intro other hmem
        rcases List.mem_append.mp hmem with hmem | hmem
        · exact h.answered other hmem
        · cases List.mem_singleton.mp hmem
          exact hanswered
      number := by rw [hgenerated, h.number]
      fault := h.fault
      pending := by
        intro pending hpending
        rw [hnone] at hpending
        cases hpending
      idle := fun _ _ => rfl }

/-- The event of a step is sent, and with it a crash may become due. -/
theorem Follows.deliver (h : Follows harness run plan scripted response record consumed ending)
    (hactive : record.active = true) (hnone : record.pending = none)
    (hhead : record.steps.head? = some step)
    (hevent : harness.stepEvent run record.nextCommandId step = some event)
    {due : List NativeEvent} (hsteps : record'.steps = record.steps.tail)
    (hnumber : record'.nextCommandId = record.nextCommandId + step.generated)
    (hfault : record'.fault = record.fault ∨ record'.fault = none)
    (hstaged : stagedSent record'.pending = due.map (⟨·, .ending⟩))
    (hends : harness.Ending run plan (consumed ++ [step]) due)
    (hpending : ∀ pending, record'.pending = some pending →
      record'.active = true ∧ Owes harness run plan (consumed ++ [step]) pending due)
    (hidle : record'.pending = none → due = []) :
    Follows harness run plan (scripted ++ [⟨event, .step⟩]) response record'
      (consumed ++ [step]) due := by
  obtain ⟨rfl, hscripted⟩ := h.unstaged hactive hnone
  obtain ⟨rest, hrest⟩ := List.head?_eq_some_iff.mp hhead
  exact
    { steps := by
        rw [h.steps, hsteps, hrest, List.append_assoc]
        rfl
      scripted := by
        rw [script_ending, script_step, ← h.number, hevent, hscripted, hstaged]
        rfl
      ends := hends
      answered := by
        intro requestId hmem
        rcases List.mem_append.mp hmem with hmem | hmem
        · exact h.answered requestId hmem
        · cases List.mem_singleton.mp hmem
          cases hevent
      number := by
        rw [hnumber, h.number, generated_append, Nat.add_assoc]
        rfl
      fault := by
        rcases hfault with hfault | hfault
        · rw [hfault]
          exact h.fault
        · exact .inr hfault
      pending := hpending
      idle := fun _ => hidle }

/-- The run is interrupted. -/
theorem Follows.interrupt (h : Follows harness run plan scripted response record consumed ending)
    (hactive : record.active = true) (hnone : record.pending = none) :
    Follows harness run plan (scripted ++ [⟨(harness.interruption run).event, .ending⟩]) response
      { record with pending := none, active := false } consumed
      [(harness.interruption run).event] := by
  obtain ⟨rfl, hscripted⟩ := h.unstaged hactive hnone
  exact
    { steps := h.steps
      scripted := by
        rw [script_ending, hscripted, stagedSent_none, List.append_nil]
        rfl
      ends := .interrupted
      answered := h.answered
      number := h.number
      fault := h.fault
      pending := fun _ hpending => by cases hpending
      idle := fun hactive => by cases hactive }

/-- A run begins, with what its plan's fault stages. -/
theorem Follows.accept (plan : MockRunPlan) :
    ∃ ending, Follows harness run plan [⟨harness.acceptedEvent run, .accepted plan⟩] response
      { active := true, delayed := false, nextCommandId := 1, steps := plan.steps,
        fault := plan.fault, pending := harness.stagedFault run plan.fault } [] ending := by
  have hanswered : ∀ requestId, .awaitResponse requestId ∈ ([] : List MockScriptStep) →
      (response (ProviderRequestHandle.new run requestId)).isSome :=
    fun _ hmem => absurd hmem List.not_mem_nil
  have hunstaged : ∀ pending, (none : Option PendingDelivery) = some pending →
      true = true ∧ Owes harness run plan [] pending [] :=
    fun _ hpending => by cases hpending
  obtain ⟨steps, fault⟩ := plan
  cases fault with
  | none =>
      exact ⟨[], rfl, rfl, .open, hanswered, rfl, .inl rfl, hunstaged, fun _ _ => rfl⟩
  | some fault =>
      cases fault with
      | exitAfterRunAccepted =>
          let terminal : PendingTerminal :=
            ⟨.crashed "mock runtime exited after accepting run", runtimeExit⟩
          refine ⟨_, rfl, rfl, .crashed terminal rfl, hanswered, rfl, .inl rfl, ?_, ?_⟩
          · intro pending hpending
            cases hpending
            exact ⟨rfl, .crash terminal rfl⟩
          · intro _ hpending
            cases hpending
      | emitUnknownEvent | emitMalformedNativePayload =>
          refine ⟨[], rfl, rfl, .open, hanswered, rfl, .inl rfl, ?_, fun _ _ => rfl⟩
          intro pending hpending
          cases hpending
          exact ⟨rfl, .fault _ rfl rfl⟩
      | _ =>
          exact ⟨[], rfl, rfl, .open, hanswered, rfl, .inl rfl, hunstaged, fun _ _ => rfl⟩

/-! ## The invariant of the harness -/

/-- Every run has kept pace with its plan, and has its number. -/
structure Inv (harness : MockHarness) (world : World) : Prop where
  runs : ∀ run record, world.state.runs.find run = some record →
    ∃ plan consumed ending, Kept harness world run record plan consumed ending
  absent : ∀ run, world.state.runs.find run = none → world.sentTo run = []
  numbered : ∀ run record, world.state.runs.find run = some record →
    ∃ key : ProviderComponent × ProviderComponent, ∃ number,
      run.runtime = key.1.value ∧ run.sessionId = key.2.value ∧
      run.nativeId = "run-" ++ padded number ∧ number < (world.state.nextRun.find key).getD 1

theorem Kept.frame (h : Kept harness world run record plan consumed ending)
    (hsent : world'.sentTo run = world.sentTo run) (hprecedes : world.Precedes world') :
    Kept harness world' run record plan consumed ending where
  logged := by
    rw [hsent]
    exact h.logged
  follows := by
    have hscripted : world'.scripted run = world.scripted run := by
      unfold World.scripted
      rw [hsent]
    rw [hscripted]
    exact h.follows.respond hprecedes.responses

/-- A section that sends nothing and leaves the runs alone. -/
theorem Inv.frame (h : Inv harness world) (hruns : world'.state.runs = world.state.runs)
    (hnext : world'.state.nextRun = world.state.nextRun) (hsent : world'.sent = world.sent)
    (hprecedes : world.Precedes world') : Inv harness world' := by
  have hsentTo : ∀ run, world'.sentTo run = world.sentTo run := by
    intro run
    unfold World.sentTo
    rw [hsent]
  refine ⟨?_, ?_, ?_⟩
  · intro run record hfind
    rw [hruns] at hfind
    obtain ⟨plan, consumed, ending, hkept⟩ := h.runs run record hfind
    exact ⟨plan, consumed, ending, hkept.frame (hsentTo run) hprecedes⟩
  · intro run hfind
    rw [hruns] at hfind
    rw [hsentTo]
    exact h.absent run hfind
  · intro run record hfind
    rw [hruns] at hfind
    rw [hnext]
    exact h.numbered run record hfind

/-- A section that is about one run. -/
theorem Inv.change (h : Inv harness world) (hfind : world.state.runs.find run = some record)
    (hruns : ∀ other, world'.state.runs.find other =
      if other = run then some record' else world.state.runs.find other)
    (hnext : world'.state.nextRun = world.state.nextRun)
    (hsent : ∀ other, other ≠ run → world'.sentTo other = world.sentTo other)
    (hprecedes : world.Precedes world')
    (hkept : ∀ plan consumed ending, Kept harness world run record plan consumed ending →
      ∃ plan consumed ending, Kept harness world' run record' plan consumed ending) :
    Inv harness world' := by
  refine ⟨?_, ?_, ?_⟩
  · intro other found hother
    rw [hruns] at hother
    split at hother
    · next heq =>
        cases hother
        rw [heq]
        obtain ⟨plan, consumed, ending, hold⟩ := h.runs run record hfind
        exact hkept plan consumed ending hold
    · next hne =>
        obtain ⟨plan, consumed, ending, hold⟩ := h.runs other found hother
        exact ⟨plan, consumed, ending, hold.frame (hsent other hne) hprecedes⟩
  · intro other hother
    rw [hruns] at hother
    split at hother
    · cases hother
    · next hne =>
        rw [hsent other hne]
        exact h.absent other hother
  · intro other found hother
    rw [hnext]
    rw [hruns] at hother
    split at hother
    · next heq =>
        rw [heq]
        exact h.numbered run record hfind
    · exact h.numbered other found hother

theorem find_setRun (other : ProviderRunHandle) :
    (world.setRun run record').state.runs.find other =
      if other = run then some record' else world.state.runs.find other :=
  Dict.find_set

/-- A section that only rewrites the record of a run. -/
theorem Inv.setRun (h : Inv harness world) (hfind : world.state.runs.find run = some record)
    (hactive : record'.active = record.active)
    (hfollows : ∀ plan consumed ending,
      Follows harness run plan (world.scripted run) world.response record consumed ending →
      ∃ consumed ending,
        Follows harness run plan (world.scripted run) world.response record' consumed ending) :
    Inv harness (world.setRun run record') ∧ world.Precedes (world.setRun run record') := by
  have hprecedes : world.Precedes (world.setRun run record') :=
    ⟨List.prefix_rfl, fun _ _ hresponse => hresponse⟩
  refine ⟨h.change hfind find_setRun rfl (fun _ _ => rfl) hprecedes ?_, hprecedes⟩
  intro plan consumed ending hkept
  obtain ⟨consumed', ending', hnew⟩ := hfollows plan consumed ending hkept.follows
  exact ⟨plan, consumed', ending', hactive ▸ hkept.logged, hnew⟩

/-- A section that sends an event of a script, and may open a request. -/
theorem Inv.send (h : Inv harness world) (hfind : world.state.runs.find run = some record)
    (hactive : record.active = true) (record' : RunRecord) (cause : Cause) {requests : Requests}
    (hrequests : Requests.Extends world.state.requests requests)
    (hrun : event.event.run = some run) (hcause : cause ≠ .steer)
    (hphase : record'.active = !(Sent.mk event cause).isTerminal)
    (hfollows : ∀ plan consumed ending,
      Follows harness run plan (world.scripted run) world.response record consumed ending →
      ∃ consumed ending, Follows harness run plan (world.scripted run ++ [⟨event, cause⟩])
        world.response record' consumed ending)
    (hworld : world' = (World.send { world with state := { world.state with requests } } event
      cause).setRun run record') :
    Inv harness world' ∧ world.Precedes world' := by
  have hprecedes : world.Precedes world' := by
    rw [hworld]
    refine ⟨List.prefix_append _ _, fun request answer hanswer => ?_⟩
    obtain ⟨old, hold, hresponse⟩ := Option.bind_eq_some_iff.mp hanswer
    exact Option.bind_eq_some_iff.mpr ⟨old, hrequests request old hold, hresponse⟩
  have hruns : ∀ other, world'.state.runs.find other =
      if other = run then some record' else world.state.runs.find other := by
    rw [hworld]
    exact fun other => find_setRun other
  refine ⟨h.change hfind hruns ?_ ?_ hprecedes ?_, hprecedes⟩
  · rw [hworld]
    rfl
  · rw [hworld]
    exact fun other hne => world.sentTo_send_ne event cause hrun hne
  · intro plan consumed ending hkept
    obtain ⟨consumed', ending', hnew⟩ := hfollows plan consumed ending hkept.follows
    have hsent : world'.sentTo run = world.sentTo run ++ [⟨event, cause⟩] := by
      rw [hworld]
      exact world.sentTo_send event cause hrun
    have hscripted : world'.scripted run = world.scripted run ++ [⟨event, cause⟩] := by
      rw [hworld]
      refine (world.scripted_send event cause hrun).trans ?_
      rw [if_neg hcause]
    refine ⟨plan, consumed', ending', ?_, ?_⟩
    · rw [hsent, hphase]
      exact (hactive ▸ hkept.logged).send _ fun hsteer => absurd hsteer hcause
    · rw [hscripted]
      exact hnew.respond hprecedes.responses

/-! ## The sections -/

theorem faultEvents_cons {fault : Option MockHarnessFault}
    (h : harness.faultEvents run fault = [event]) :
    event.event.run = some run ∧ event.event.terminal = none := by
  unfold faultEvents at h
  split at h
  · cases h
    exact ⟨rfl, rfl⟩
  · cases h
    exact ⟨rfl, rfl⟩
  · cases h

theorem Inv.flush (h : Inv harness world) :
    Inv harness (harness.flush run pending world).2 ∧
      world.Precedes (harness.flush run pending world).2 := by
  unfold MockHarness.flush
  split
  · exact ⟨h, .refl world⟩
  · next record hfind =>
      split
      · next hpending =>
          obtain ⟨plan, consumed, ending, hkept⟩ := h.runs run record hfind
          obtain ⟨hactive, howes⟩ := hkept.follows.pending pending hpending
          cases howes with
          | fault event only unstarted =>
              obtain ⟨hrun, hopen⟩ := faultEvents_cons only
              let sent : RunRecord := { record with pending := none, active := record.active }
              refine h.send hfind hactive sent .fault (.refl _) hrun nofun ?_ ?_ rfl
              · rw [Sent.isTerminal, hopen]
                exact hactive
              · intro plan consumed ending hfollows
                refine ⟨consumed, ending, hfollows.flush hpending record.active fun _ => ?_⟩
                obtain ⟨-, howes⟩ := hfollows.pending _ hpending
                cases howes
                rfl
          | crash terminal fault =>
              let sent : RunRecord := { record with pending := none, active := false }
              refine h.send hfind hactive sent .ending (.refl _) rfl nofun rfl ?_ rfl
              intro plan consumed ending hfollows
              exact ⟨consumed, ending, hfollows.flush hpending false nofun⟩
      · exact ⟨h, .refl world⟩

theorem Inv.inspect {releaseDelayed : Bool} (h : Inv harness world) :
    Inv harness (MockHarness.inspect run releaseDelayed world).2 ∧
      world.Precedes (MockHarness.inspect run releaseDelayed world).2 := by
  have hsame : Inv harness world ∧ world.Precedes world := ⟨h, .refl world⟩
  unfold MockHarness.inspect
  split
  · exact hsame
  · next record hfind =>
      split
      · exact hsame
      · next hactive =>
          split
          · exact hsame
          · next hpending =>
              have hactive : record.active = true := by simpa using hactive
              have hnone : record.pending = none := by simpa using hpending
              split
              · exact h.setRun hfind rfl fun plan consumed ending hfollows =>
                  ⟨consumed, ending, hfollows.delay true⟩
              · split
                · exact hsame
                · next requestId hhead =>
                    dsimp only
                    split
                    · exact hsame
                    · next answer hanswer =>
                        have hanswered :
                            (world.response (ProviderRequestHandle.new run requestId)).isSome :=
                          Option.isSome_iff_exists.mpr ⟨answer, hanswer⟩
                        exact h.setRun hfind rfl fun plan consumed ending hfollows =>
                          ⟨_, ending, hfollows.await hactive hnone hhead hanswered⟩
                · dsimp only
                  split
                  · exact hsame
                  · exact hsame

/-- The delivery of a step whose checks have passed. -/
theorem Inv.commitStep (h : Inv harness world) (hfind : world.state.runs.find run = some record)
    (hactive : record.active = true) (hnone : record.pending = none)
    (hhead : record.steps.head? = some step) {requests : Requests} {staged : RunRecord}
    (hstaged : Staged harness run record world.state.requests step pending staged requests)
    (hsteps : record'.steps = staged.steps) (hnumber : record'.nextCommandId = staged.nextCommandId)
    (hstill : record'.active = staged.active)
    (hfault : record'.fault = staged.fault ∨ record'.fault = none) :
    let world' := (harness.commitPending run record' pending
      { world with state := { world.state with requests } }).2
    Inv harness world' ∧ world.Precedes world' := by
  have hevent := hstaged.event
  have hrun := stepEvent_run hevent
  have hrecord := hstaged.record
  have hsteps' : record'.steps.tail = record.steps.tail := by rw [hsteps, hrecord]
  have hnumber' : record'.nextCommandId = record.nextCommandId + step.generated := by
    rw [hnumber, hrecord]
  have hactive' : record'.active = true := by rw [hstill, hrecord, hactive]
  have hcommits := hstaged.commits
  generalize hafter : staged.fault = after at hcommits hfault
  cases hcommits with
  | plain event hopen =>
      let sent : RunRecord := { record' with steps := record'.steps.tail, pending := none }
      refine h.send hfind hactive sent .step hstaged.requests hrun nofun ?_ ?_ rfl
      · rw [Sent.isTerminal, hopen]
        exact hactive'
      · intro plan consumed ending hfollows
        refine ⟨_, [], hfollows.deliver hactive hnone hhead hevent hsteps' hnumber' hfault rfl .open
          nofun fun _ => rfl⟩
  | crash event hopen mutation fault =>
      let terminal : PendingTerminal :=
        ⟨.crashed "mock runtime exited after file mutation", runtimeExit⟩
      let crash := harness.terminalDelivery run terminal.state terminal.native false
      let sent : RunRecord := { record' with steps := record'.steps.tail, pending := some crash }
      refine h.send hfind hactive sent .step hstaged.requests hrun nofun ?_ ?_ rfl
      · rw [Sent.isTerminal, hopen]
        exact hactive'
      · intro plan consumed ending hfollows
        have hplan : plan.fault = some .exitAfterFileMutation := by
          rcases hfollows.fault with heq | heq
          · rw [← heq, fault]
          · rw [heq] at fault
            cases fault
        have hcrash : plan.crash (consumed ++ [step]) = some terminal := by
          unfold MockRunPlan.crash
          rw [hplan]
          dsimp only
          rw [List.getLast?_concat, if_pos]
          exact mutation
        have hcleared : record'.fault = none := by
          rcases hfault with heq | heq
          · exact heq
          · exact heq
        refine ⟨_, [crash.event], hfollows.deliver hactive hnone hhead hevent hsteps' hnumber'
          (.inr hcleared) rfl (.crashed terminal hcrash) ?_ nofun⟩
        intro pending hpending
        cases hpending
        exact ⟨hactive', .crash terminal hcrash⟩
  | complete native =>
      let sent : RunRecord :=
        { record' with steps := record'.steps.tail, pending := none, active := false }
      refine h.send hfind hactive sent .step hstaged.requests hrun nofun rfl ?_ rfl
      intro plan consumed ending hfollows
      refine ⟨_, [], hfollows.deliver hactive hnone hhead hevent hsteps' hnumber' hfault rfl .open
        nofun fun _ => rfl⟩

theorem release_frame (record : RunRecord) (releasingApproval : Bool) :
    (record.release releasingApproval).steps = record.steps ∧
      (record.release releasingApproval).nextCommandId = record.nextCommandId ∧
      (record.release releasingApproval).active = record.active ∧
      ((record.release releasingApproval).fault = record.fault ∨
        (record.release releasingApproval).fault = none) := by
  cases releasingApproval with
  | false => exact ⟨rfl, rfl, rfl, .inl rfl⟩
  | true => exact ⟨rfl, rfl, rfl, .inr rfl⟩

theorem Inv.deliver {releaseDelayed : Bool} (h : Inv harness world) :
    Inv harness (harness.deliver run step releaseDelayed world).2 ∧
      world.Precedes (harness.deliver run step releaseDelayed world).2 := by
  have hsame : Inv harness world ∧ world.Precedes world := ⟨h, .refl world⟩
  unfold MockHarness.deliver
  split
  · exact hsame
  · next record hfind =>
      split
      · exact hsame
      · next hactive =>
          split
          · exact hsame
          · next hready =>
              have hactive : record.active = true := by simpa using hactive
              obtain ⟨hnone, hhead⟩ := not_or.mp hready
              have hnone : record.pending = none := by simpa using hnone
              dsimp only
              split
              · exact hsame
              · next hfresh =>
                  split
                  · exact hsame
                  · next pending staged requests hstage =>
                      have hopen : ∀ requestId, step.requestId = some requestId →
                          world.state.requests.find (ProviderRequestHandle.new run requestId) =
                            none := by
                        intro requestId hrequest
                        rw [hrequest] at hfresh
                        simpa [Option.filter] using hfresh
                      have hstaged := stage_ok hopen hstage
                      obtain ⟨hsteps, hnumber, hstill, hfault⟩ :=
                        release_frame staged (releaseDelayed && step.isApproval)
                      have hsection := h.commitStep hfind hactive hnone (not_not.mp hhead) hstaged
                        hsteps hnumber hstill hfault
                      split
                      · next hcommit => exact congrArg Prod.snd hcommit ▸ hsection
                      · next hcommit => exact congrArg Prod.snd hcommit ▸ hsection

/-- A steer is sent only to a run that is active and has nothing staged. -/
theorem Inv.acceptSteer {input : String} (h : Inv harness world) :
    Inv harness (harness.acceptSteer run input world).2 ∧
      world.Precedes (harness.acceptSteer run input world).2 := by
  have hsame : Inv harness world ∧ world.Precedes world := ⟨h, .refl world⟩
  unfold MockHarness.acceptSteer
  split
  · exact hsame
  · next record hfind =>
      split
      · exact hsame
      · next hactive =>
          split
          · exact hsame
          · have hactive : record.active = true := by simpa using hactive
            have hprecedes : world.Precedes (world.send (harness.steerEvent run input) .steer) :=
              ⟨List.prefix_append _ _, fun _ _ hresponse => hresponse⟩
            have hruns : ∀ other, world.state.runs.find other =
                if other = run then some record else world.state.runs.find other := by
              intro other
              split
              · next heq => rw [heq, hfind]
              · rfl
            refine ⟨h.change hfind hruns rfl
              (fun other hne => world.sentTo_send_ne _ _ rfl hne) hprecedes ?_, hprecedes⟩
            intro plan consumed ending hkept
            refine ⟨plan, consumed, ending, ?_, ?_⟩
            · rw [world.sentTo_send _ _ rfl, hactive]
              exact (hactive ▸ hkept.logged).send _ fun _ => ⟨input, rfl⟩
            · rw [world.scripted_send _ _ rfl, if_pos rfl, List.append_nil]
              exact hkept.follows

theorem Inv.commitInterrupt (h : Inv harness world) :
    Inv harness (harness.commitInterrupt run world).2 ∧
      world.Precedes (harness.commitInterrupt run world).2 := by
  have hsame : Inv harness world ∧ world.Precedes world := ⟨h, .refl world⟩
  unfold MockHarness.commitInterrupt
  split
  · exact hsame
  · next record hfind =>
      split
      · exact hsame
      · next hactive =>
          split
          · exact hsame
          · next hpending =>
              have hactive : record.active = true := by simpa using hactive
              have hnone : record.pending = none := by simpa using hpending
              let sent : RunRecord := { record with pending := none, active := false }
              refine h.send hfind hactive sent .ending (.refl _) rfl nofun rfl ?_ rfl
              intro plan consumed ending hfollows
              exact ⟨consumed, _, hfollows.interrupt hactive hnone⟩

theorem Inv.recordResponse {request : ProviderRequestHandle} {answer : ProviderResponse}
    (h : Inv harness world) :
    Inv harness (MockHarness.recordResponse request answer world).2 ∧
      world.Precedes (MockHarness.recordResponse request answer world).2 := by
  have hsame : Inv harness world ∧ world.Precedes world := ⟨h, .refl world⟩
  unfold MockHarness.recordResponse
  split
  · exact hsame
  · next record hfind =>
      split
      · exact hsame
      · split
        · split
          · exact hsame
          · exact hsame
        · next hunanswered =>
            refine ⟨h.frame rfl rfl rfl ?hprecedes, ?hprecedes⟩
            refine ⟨List.prefix_rfl, fun other old hold => ?_⟩
            obtain ⟨found, hfound, hresponse⟩ := Option.bind_eq_some_iff.mp hold
            have hne : other ≠ request := by
              rintro rfl
              rw [hfind] at hfound
              cases hfound
              rw [hunanswered] at hresponse
              cases hresponse
            unfold World.response
            rw [Dict.find_set_ne hne]
            exact hold

theorem takeRuntimeFault_frame (runtime : ProviderComponent) (state : State) :
    (takeRuntimeFault runtime state).2.runs = state.runs ∧
      (takeRuntimeFault runtime state).2.nextRun = state.nextRun ∧
      (takeRuntimeFault runtime state).2.requests = state.requests := by
  unfold takeRuntimeFault
  split
  · exact ⟨rfl, rfl, rfl⟩
  · split
    · exact ⟨rfl, rfl, rfl⟩
    · exact ⟨rfl, rfl, rfl⟩

theorem Inv.checkRuntime {runtime : ProviderComponent} (h : Inv harness world) :
    Inv harness (harness.checkRuntime runtime world).2 ∧
      world.Precedes (harness.checkRuntime runtime world).2 := by
  unfold MockHarness.checkRuntime
  split
  · exact ⟨h, .refl world⟩
  · obtain ⟨hruns, hnext, hrequests⟩ := takeRuntimeFault_frame runtime world.state
    refine ⟨h.frame hruns hnext rfl ?hprecedes, ?hprecedes⟩
    refine ⟨List.prefix_rfl, fun request answer hanswer => ?_⟩
    unfold World.response
    dsimp only
    rw [hrequests]
    exact hanswer

theorem Inv.addSession {runtime : ProviderComponent} {spec : StartSessionSpec}
    (h : Inv harness world) :
    Inv harness (MockHarness.addSession runtime spec world).2 ∧
      world.Precedes (MockHarness.addSession runtime spec world).2 := by
  have hsame : Inv harness world ∧ world.Precedes world := ⟨h, .refl world⟩
  unfold MockHarness.addSession
  split
  · exact hsame
  · dsimp only
    split
    · exact hsame
    · refine ⟨h.frame rfl rfl rfl ?hprecedes, ?hprecedes⟩
      exact ⟨List.prefix_rfl, fun _ _ hresponse => hresponse⟩

theorem value_of_new {text : String} {id : ProviderComponent}
    (h : ProviderComponent.new text = some id) : id.value = text := by
  unfold ProviderComponent.new at h
  split at h
  · cases h
    rfl
  · cases h

theorem component_eq {first second : ProviderComponent} (h : first.value = second.value) :
    first = second := by
  cases first
  cases second
  cases h
  rfl

/-- The number of a new run is not taken. -/
theorem Inv.fresh (h : Inv harness world) {session : ProviderSession} {runId : ProviderComponent}
    (hid : ProviderComponent.new ("run-" ++
      padded ((world.state.nextRun.find (session.runtime, session.id)).getD 1)) = some runId) :
    world.state.runs.find (ProviderRunHandle.new session.runtime session.id runId) = none := by
  rw [Option.eq_none_iff_forall_ne_some]
  intro record hfind
  obtain ⟨key, number, hruntime, hsession, hnumber, hlt⟩ := h.numbered _ record hfind
  have hkey : key = (session.runtime, session.id) := by
    apply Prod.ext
    · exact component_eq hruntime.symm
    · exact component_eq hsession.symm
  have hnumber : runId.value = "run-" ++ padded number := hnumber
  rw [value_of_new hid, String.append_right_inj] at hnumber
  have heq := padded_injective hnumber
  rw [hkey, ← heq] at hlt
  exact lt_irrefl _ hlt

/-- A run begins: its record is inserted and its acceptance is sent. -/
theorem Inv.begin (h : Inv harness world) (plan : MockRunPlan) (plans : List MockRunPlan)
    {key : ProviderComponent × ProviderComponent} (hfresh : world.state.runs.find run = none)
    (hruntime : run.runtime = key.1.value) (hsession : run.sessionId = key.2.value)
    (hnumber : run.nativeId = "run-" ++ padded ((world.state.nextRun.find key).getD 1))
    (hrecord : record =
      { active := true, delayed := false, nextCommandId := 1, steps := plan.steps,
        fault := plan.fault, pending := harness.stagedFault run plan.fault })
    (hworld : world' = (World.setRun { world with state := { world.state with
        plans
        nextRun := world.state.nextRun.set key ((world.state.nextRun.find key).getD 1 + 1) } }
      run record).send (harness.acceptedEvent run) (.accepted plan)) :
    Inv harness world' ∧ world.Precedes world' := by
  have hruns : ∀ other, world'.state.runs.find other =
      if other = run then some record else world.state.runs.find other := by
    rw [hworld]
    exact fun other => find_setRun other
  have hnext : ∀ other, (world'.state.nextRun.find other).getD 1 =
      if other = key then (world.state.nextRun.find key).getD 1 + 1
      else (world.state.nextRun.find other).getD 1 := by
    intro other
    rw [hworld]
    refine (congrArg (Option.getD · 1) Dict.find_set).trans ?_
    split
    · rfl
    · rfl
  have hsent : ∀ other, other ≠ run → world'.sentTo other = world.sentTo other := by
    rw [hworld]
    exact fun other hne => world.sentTo_send_ne _ _ rfl hne
  have hprecedes : world.Precedes world' := by
    rw [hworld]
    exact ⟨List.prefix_append _ _, fun _ _ hresponse => hresponse⟩
  have hlog : world'.sentTo run = [⟨harness.acceptedEvent run, .accepted plan⟩] := by
    rw [hworld]
    refine (world.sentTo_send _ _ rfl).trans ?_
    rw [h.absent run hfresh]
    rfl
  refine ⟨⟨?_, ?_, ?_⟩, hprecedes⟩
  · intro other found hother
    rw [hruns] at hother
    split at hother
    · next heq =>
        cases hother
        rw [heq, hrecord]
        obtain ⟨ending, hfollows⟩ : ∃ ending, Follows harness run plan
            [⟨harness.acceptedEvent run, .accepted plan⟩] world'.response _ [] ending :=
          Follows.accept plan
        have hscripted : world'.scripted run = [⟨harness.acceptedEvent run, .accepted plan⟩] := by
          unfold World.scripted
          rw [hlog]
          rfl
        refine ⟨plan, [], ending, ?_, hscripted ▸ hfollows⟩
        rw [hlog]
        refine ⟨rfl, ?_, ?_, fun hactive => by cases hactive⟩
        · intro sent hmem hsteer
          cases List.mem_singleton.mp hmem
          cases hsteer
        · intro _ sent hmem
          cases List.mem_singleton.mp hmem
          rfl
    · next hne =>
        obtain ⟨plan, consumed, ending, hold⟩ := h.runs other found hother
        exact ⟨plan, consumed, ending, hold.frame (hsent other hne) hprecedes⟩
  · intro other hother
    rw [hruns] at hother
    split at hother
    · cases hother
    · next hne =>
        rw [hsent other hne]
        exact h.absent other hother
  · intro other found hother
    rw [hruns] at hother
    split at hother
    · next heq =>
        rw [heq]
        refine ⟨key, _, hruntime, hsession, hnumber, ?_⟩
        rw [hnext, if_pos rfl]
        exact Nat.lt_succ_self _
    · obtain ⟨old, number, hr, hs, hn, hlt⟩ := h.numbered other found hother
      refine ⟨old, number, hr, hs, hn, ?_⟩
      rw [hnext]
      split
      · next heq =>
          rw [heq] at hlt
          exact Nat.lt_succ_of_lt hlt
      · exact hlt

theorem Inv.acceptRun {session : ProviderSession} (h : Inv harness world) :
    Inv harness (harness.acceptRun session world).2 ∧
      world.Precedes (harness.acceptRun session world).2 := by
  unfold MockHarness.acceptRun
  split
  · exact ⟨h, .refl world⟩
  · dsimp only
    split
    · refine ⟨h.frame rfl rfl rfl ?hprecedes, ?hprecedes⟩
      exact ⟨List.prefix_rfl, fun _ _ hresponse => hresponse⟩
    · next runId hid =>
        exact h.begin _ _ (h.fresh hid) rfl rfl (value_of_new hid) rfl rfl

/-! ## Every run -/

theorem Inv.exec {β : Type} (act : Act β) (oracle : Oracle) (h : Inv harness world) :
    Inv harness (harness.exec act oracle world).2 ∧
      world.Precedes (harness.exec act oracle world).2 := by
  cases act with
  | checkRuntime runtime => exact h.checkRuntime
  | addSession runtime spec => exact h.addSession
  | acceptRun session => exact h.acceptRun
  | flush run pending => exact h.flush
  | inspect run releaseDelayed => exact h.inspect
  | deliver run step releaseDelayed => exact h.deliver
  | acceptSteer run input => exact h.acceptSteer
  | commitInterrupt run => exact h.commitInterrupt
  | recordResponse request response => exact h.recordResponse
  | admitRun session | reserve | readPending run | findDelayed | checkSteer run
  | checkInterrupt run => exact ⟨h, .refl world⟩

variable {config config' : Config Act Proc World}

theorem Inv.move {entry : Move} (h : Inv harness config.world)
    (hmove : harness.move config entry = some config') :
    Inv harness config'.world ∧ config.world.Precedes config'.world := by
  cases entry with
  | step i oracle =>
      have htaken : harness.machine.step i oracle config = some config' := hmove
      rcases Machine.step_cases htaken with
        ⟨β, act, next, answer, world, spawned, -, hexec, rfl⟩ | ⟨β, proc, next, -, rfl⟩
      · cases hexec
        exact h.exec act oracle
      · exact ⟨h, .refl _⟩
  | call call =>
      cases hmove
      exact ⟨h, .refl _⟩
  | drop i =>
      cases hmove
      exact ⟨h, .refl _⟩

theorem Inv.reaches (h : Inv harness config.world) (hreaches : harness.Reaches config config') :
    Inv harness config'.world ∧ config.world.Precedes config'.world := by
  induction hreaches with
  | refl => exact ⟨h, .refl _⟩
  | tail _ hstep ih =>
      obtain ⟨entry, hmove⟩ := hstep
      obtain ⟨hinv, hprecedes⟩ := ih
      obtain ⟨hinv', hprecedes'⟩ := hinv.move hmove
      exact ⟨hinv', hprecedes.trans hprecedes'⟩

theorem inv_initial (plans : List MockRunPlan) (runtimeFault : Option MockHarnessFault)
    (runtimes : List Runtime) : Inv harness (initial plans runtimeFault runtimes).world := by
  have hruns : ∀ state : State, state.runs = ∅ →
      (runtimes.foldl State.withRuntime state).runs = ∅ := by
    induction runtimes with
    | nil => exact fun _ h => h
    | cons runtime rest ih => exact fun state h => ih (state.withRuntime runtime) h
  have hnone : ∀ run, (initial plans runtimeFault runtimes).world.state.runs.find run = none := by
    intro run
    change (runtimes.foldl State.withRuntime _).runs.find run = none
    rw [hruns _ rfl, Dict.find_empty]
  refine ⟨?_, fun _ _ => rfl, ?_⟩
  · intro run record hfind
    rw [hnone run] at hfind
    cases hfind
  · intro run record hfind
    rw [hnone run] at hfind
    cases hfind

/-- However the operations overlap and wherever they are dropped, what is sent for
a run is its acceptance, the event of its plan's fault and the events of the steps
that are gone from its script, with accepted steers between them; a terminal is the
last. What was sent and what was answered stays so. -/
theorem Reaches.delivers_exactly_once (plans : List MockRunPlan)
    (runtimeFault : Option MockHarnessFault) (runtimes : List Runtime)
    (hreaches : harness.Reaches (initial plans runtimeFault runtimes) config)
    (hlater : harness.Reaches config config') :
    (∀ run, config.world.state.runs.find run = none → config.world.sentTo run = []) ∧
    (∀ run record, config.world.state.runs.find run = some record →
      ∃ plan faults consumed ending,
        Delivered harness config.world run record plan faults consumed ending) ∧
    config.world.Precedes config'.world := by
  obtain ⟨hinv, -⟩ := (inv_initial plans runtimeFault runtimes).reaches hreaches
  refine ⟨hinv.absent, ?_, (hinv.reaches hlater).2⟩
  intro run record hfind
  obtain ⟨plan, consumed, ending, hkept⟩ := hinv.runs run record hfind
  obtain ⟨faults, ending', hdelivered⟩ := hkept.delivered
  exact ⟨plan, faults, consumed, ending', hdelivered⟩

def sampleRuntime : Runtime where
  handle := ⟨"runtime-a", by decide +kernel⟩
  connectionId := ⟨⟨BitVec.ofNat 128 (7 * 2 ^ 76 + 2 * 2 ^ 62 + 70), by decide⟩⟩
  faults := []

def sampleRequest : ProviderComponent := ⟨"request-0001", by decide +kernel⟩

def samplePlan : MockRunPlan where
  steps := [.message "chunk" "native", .approval sampleRequest "approve" "native",
    .awaitResponse sampleRequest, .commandOutput none "ls" "out" "native", .complete "native"]
  fault := some .emitUnknownEvent

def sampleSession : ProviderSession where
  id := ⟨"session-0001", by decide +kernel⟩
  runtime := sampleRuntime.handle
  connectionId := sampleRuntime.connectionId
  workingDirectory := "runtime-a://workspace"
  title := "test"

def sampleRun : ProviderRunHandle := ⟨"runtime-a", "session-0001", "run-0001", by decide +kernel⟩

/-- A steer comes between two steps; the first caller that answers the request goes
away before the step behind it is sent, and a second one answers it again. -/
def sampleSchedule : List Move :=
  let advance (i steps : Nat) : List Move := List.replicate steps (.step i {})
  let answer := Call.respondToRequest (ProviderRequestHandle.new sampleRun sampleRequest)
    (.approval .approved)
  [.call (.startSession sampleRuntime.handle ⟨"runtime-a://workspace", "test"⟩)] ++ advance 0 3 ++
  [.call (.startRun sampleSession)] ++ advance 1 21 ++
  [.call (.steer sampleRun "go on")] ++ advance 2 5 ++
  [.call answer] ++ advance 3 8 ++ [.drop 3, .call answer] ++ advance 4 11

/-- The run is over and its script is used up. -/
def isOver (world : World) : Bool :=
  (world.state.runs.find sampleRun).any fun record => !record.active && record.steps.isEmpty

set_option maxRecDepth 100000 in
theorem Reaches.delivers_exactly_once_sample :
    ∃ (config : Config Act Proc World) (record : RunRecord) (plan : MockRunPlan)
      (faults : List NativeEvent) (consumed : List MockScriptStep) (ending : List NativeEvent),
      config.world.state.runs.find sampleRun = some record ∧ record.steps = [] ∧
      Delivered ⟨[]⟩ config.world sampleRun record plan faults consumed ending := by
  obtain ⟨config, hreaches, hover⟩ : ∃ config, Reaches ⟨[]⟩
      (initial [samplePlan] none [sampleRuntime]) config ∧ isOver config.world = true :=
    Reaches.exists_of_replay sampleSchedule isOver (by decide +kernel)
  obtain ⟨record, hfind, hover⟩ := (Option.any_eq_true _ _).mp hover
  obtain ⟨-, hruns, -⟩ := delivers_exactly_once [samplePlan] none [sampleRuntime] hreaches .refl
  obtain ⟨plan, faults, consumed, ending, hdelivered⟩ := hruns sampleRun record hfind
  refine ⟨config, record, plan, faults, consumed, ending, hfind, ?_, hdelivered⟩
  simpa using (Bool.and_eq_true_iff.mp hover).2

end MockHarness

end YakShed.Mock
