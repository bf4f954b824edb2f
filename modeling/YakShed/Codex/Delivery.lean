/-
# Delivery of native events

The events that the pump is given for a native run are the adapters' events for
it, in their order. What is still on the way is kept in one equation for each
run: it is lost when a run is registered while its next event is in the pump's
hand and earlier ones are kept aside.
-/

import YakShed.Codex.Bridge
import YakShed.Concurrency.Outline

namespace YakShed.Codex

open Concurrent

/-! ## References -/

theorem requireProviderComponent_eq_ok {field value : String}
    (h : isProviderComponent value = true) :
    requireProviderComponent field value 4096 = .ok () := by
  unfold isProviderComponent at h
  rw [Bool.not_eq_true', Bool.or_eq_false_iff, Bool.or_eq_false_iff] at h
  obtain ⟨⟨hempty, hlong⟩, hcontrol⟩ := h
  unfold requireProviderComponent requireNonempty
  rw [hempty, hlong, hcontrol]
  rfl

theorem checkProviderRunIdentity_codex (native : ProviderRunHandle) :
    checkProviderRunIdentity "codex" native.runtime native.sessionId native.nativeId = .ok () := by
  have haccepted := native.accepted
  rw [Bool.and_eq_true, Bool.and_eq_true] at haccepted
  obtain ⟨⟨hruntime, hsession⟩, hnative⟩ := haccepted
  have hcodex : requireProviderComponent "provider namespace" "codex" 128 = .ok () := by
    decide +kernel
  unfold checkProviderRunIdentity
  rw [hcodex, requireProviderComponent_eq_ok hruntime, requireProviderComponent_eq_ok hsession,
    requireProviderComponent_eq_ok hnative]
  rfl

/-- The port's reference to a native run; every native run has one. -/
def ProviderRunHandle.ref (native : ProviderRunHandle) : ProviderRunRef :=
  ⟨⟨"codex", native.runtime, native.sessionId, native.nativeId,
    checkProviderRunIdentity_codex native⟩⟩

theorem portRef_eq (native : ProviderRunHandle) : portRef native = .ok native.ref := by
  unfold portRef ProviderRunRef.fromParts ProviderRunIdentity.new
  split
  · next run h =>
      split at h
      · next identity hnew =>
          split at hnew
          · cases hnew
            cases h
            rfl
          · cases hnew
      · cases h
  all_goals
    next h =>
      split at h
      · cases h
      · next hnew =>
          split at hnew
          · cases hnew
          · next herror =>
              rw [checkProviderRunIdentity_codex] at herror
              cases herror

/-- References keep native runs apart. -/
theorem ProviderRunHandle.ref_injective : Function.Injective ProviderRunHandle.ref := by
  rintro ⟨runtime, session, native, haccepted⟩ ⟨runtime', session', native', haccepted'⟩ heq
  simp only [ref, ProviderRunRef.mk.injEq, ProviderRunIdentity.mk.injEq, true_and] at heq
  obtain ⟨rfl, rfl, rfl⟩ := heq
  rfl

/-! ## What is to be delivered -/

namespace HarnessEvent

/-- The event as the port has it. -/
def converted : HarnessEvent → RunHarnessEvent
  | runAccepted run => .runAccepted run.ref
  | messageDelta run chunk => .messageDelta run.ref chunk
  | messageCompleted run text => .messageCompleted run.ref text
  | approvalRequested request summary =>
      .approvalRequested ⟨request.run.ref, request.nativeId⟩ summary
  | userInputRequested request prompt =>
      .userInputRequested ⟨request.run.ref, request.nativeId⟩ prompt
  | fileMutation run path summary => .fileMutation run.ref path summary
  | commandOutputDelta run command commandText chunk =>
      .commandOutputDelta run.ref ⟨command.run.ref, command.nativeId⟩ commandText chunk
  | commandOutputCompleted run command commandText output =>
      .commandOutputCompleted run.ref ⟨command.run.ref, command.nativeId⟩ commandText output
  | runTerminal run state => .runTerminal run.ref state.state
  | unknown run itemType native => .unknown (run.map (·.ref)) itemType native
  | malformed run itemType native => .malformed (run.map (·.ref)) itemType native

theorem run_converted (event : HarnessEvent) : event.converted.run = event.run.map (·.ref) := by
  cases event <;> rfl

/-- A command belongs to the run whose output it is. -/
def OwnsCommand : HarnessEvent → Prop
  | commandOutputDelta run command _ _ | commandOutputCompleted run command _ _ => command.run = run
  | _ => True

theorem run_of_terminal {event : HarnessEvent} {native : ProviderRunHandle} {failed : Bool}
    (h : event.terminal = some (native, failed)) : event.run = some native := by
  cases event <;> cases h
  rfl

end HarnessEvent

/-- One run's events among many. -/
def ofRun (native : ProviderRunHandle) (events : List HarnessEvent) : List HarnessEvent :=
  events.filter fun event => event.run = some native

@[simp] theorem ofRun_nil (native : ProviderRunHandle) : ofRun native [] = [] := rfl

@[simp] theorem ofRun_append (native : ProviderRunHandle) (first second : List HarnessEvent) :
    ofRun native (first ++ second) = ofRun native first ++ ofRun native second :=
  List.filter_append ..

theorem ofRun_cons (native : ProviderRunHandle) (event : HarnessEvent)
    (rest : List HarnessEvent) :
    ofRun native (event :: rest) = ofRun native [event] ++ ofRun native rest :=
  ofRun_append native [event] rest

theorem ofRun_singleton_ne {native : ProviderRunHandle} {event : HarnessEvent}
    (h : event.run ≠ some native) : ofRun native [event] = [] := by
  simp [ofRun, h]

theorem mem_ofRun {native : ProviderRunHandle} {events : List HarnessEvent}
    {event : HarnessEvent} :
    event ∈ ofRun native events ↔ event ∈ events ∧ event.run = some native := by
  simp [ofRun]

theorem ofRun_eq_nil {native : ProviderRunHandle} {events : List HarnessEvent}
    (h : ∀ event ∈ events, event.run ≠ some native) : ofRun native events = [] := by
  simpa [ofRun] using h

/-- What the adapters keep to: a command belongs to its event's run, and nothing
follows a run's terminal event. -/
def AdapterContract : (β : Type) → Act β → Oracle → World → Prop
  | _, .send event, _, world =>
      event.OwnsCommand ∧
        ∀ earlier ∈ world.emitted, earlier.terminal.isSome → earlier.run ≠ event.run
  | _, _, _, _ => True

/-- A run with events kept aside is not registered while the pump has an event
of that run in hand that it has not looked up yet. -/
def RegistersInTime : (β : Type) → Act β → Oracle → World → Prop
  | _, .registerRun _ _ native, _, world =>
      ∀ event, world.hand = .received event → event.run = some native →
        world.state.pendingEvents.find native = none
  | _, _, _, _ => True

def InTime (β : Type) (act : Act β) (oracle : Oracle) (world : World) : Prop :=
  AdapterContract β act oracle world ∧ RegistersInTime β act oracle world

/-! ## The invariant -/

/-- In hand and next to be returned. -/
def Hand.front : Hand → List HarnessEvent
  | converting event | retired event => [event]
  | _ => []

/-- In hand and behind what is kept aside. -/
def Hand.back : Hand → List HarnessEvent
  | received event => [event]
  | _ => []

/-- In hand with its run retired. -/
def Hand.done : Hand → List HarnessEvent
  | retired event => [event]
  | _ => []

namespace World

/-- A run's events on their way, in the order in which they come out. -/
def remaining (world : World) (native : ProviderRunHandle) : List HarnessEvent :=
  ofRun native world.hand.front ++ (ofRun native world.state.replayEvents ++
    (ofRun native (world.state.pendingOf native) ++
      (ofRun native world.hand.back ++ ofRun native world.events)))

def delivered (world : World) : List HarnessEvent := world.returned.map (·.1)

/-- What the pump was given for a native run. -/
def given (world : World) (native : ProviderRunHandle) : List RunHarnessEvent :=
  (world.returned.filterMap fun entry => entry.2.toOption).filter fun event =>
    event.run = some native.ref

end World

structure Faithful (world : World) : Prop where
  /-- Nothing is kept aside for a registered run. -/
  settled : ∀ native ∈ world.registered, world.state.pendingEvents.find native = none
  pending : ∀ native events, world.state.pendingEvents.find native = some events →
    ∀ event ∈ events, event.run = some native
  replay : ∀ event ∈ world.state.replayEvents, ∃ native ∈ world.registered,
    event.run = some native
  permit : world.hand = .waiting → world.eventReady = false → world.state.replayEvents = []
  received : ∀ event native, world.hand = .received event → event.run = some native →
    native ∈ world.registered → ofRun native world.state.replayEvents = []
  converting : ∀ event native, world.hand = .converting event → event.run = some native →
    native ∈ world.registered
  refs : ∀ native run, world.state.nativeRefs.find native = some run →
    native ∈ world.registered ∧ run = native.ref
  live : ∀ native ∈ world.registered, native ∉ world.retired →
    world.state.nativeRefs.find native = some native.ref
  /-- A run is retired by its terminal event. -/
  ended : ∀ native ∈ world.retired, ∃ event ∈ world.delivered ++ world.hand.done,
    event.run = some native ∧ event.terminal.isSome
  /-- Nothing is lost, added or overtaken. -/
  order : ∀ native, ofRun native world.emitted =
    ofRun native world.delivered ++ world.remaining native
  last : world.emitted.Pairwise fun first second =>
    first.terminal.isSome → first.run ≠ second.run
  commands : ∀ event ∈ world.emitted, event.OwnsCommand
  answers : ∀ entry ∈ world.returned, entry.2 = .ok entry.1.converted

namespace Faithful

theorem initial : Faithful {} where
  settled := fun _ hmem => by cases hmem
  pending := fun _ _ hfound => by cases hfound
  replay := fun _ hmem => by cases hmem
  permit := fun hhand _ => by cases hhand
  received := fun _ _ hhand _ _ => by cases hhand
  converting := fun _ _ hhand _ => by cases hhand
  refs := fun _ _ hfound => by cases hfound
  live := fun _ hmem _ => by cases hmem
  ended := fun _ hmem => by cases hmem
  order := fun _ => rfl
  last := .nil
  commands := fun _ hmem => by cases hmem
  answers := fun _ hmem => by cases hmem

variable {world : World} {native : ProviderRunHandle} {event : HarnessEvent}

theorem mem_emitted (h : Faithful world) (hmem : event ∈ world.remaining native) :
    event ∈ world.emitted ∧ event.run = some native := by
  apply mem_ofRun.mp
  rw [h.order]
  exact List.mem_append_right _ hmem

/-- A run with an event still to come is not retired. -/
theorem not_retired (h : Faithful world) (hmem : event ∈ world.remaining native)
    (hdone : world.hand.done = []) : native ∉ world.retired := by
  intro hretired
  obtain ⟨last, hlast, hrun, hterminal⟩ := h.ended native hretired
  rw [hdone, List.append_nil] at hlast
  have hpairs : (ofRun native world.emitted).Pairwise fun first second =>
      first.terminal.isSome → first.run ≠ second.run := h.last.filter _
  rw [h.order, List.pairwise_append] at hpairs
  apply hpairs.2.2 last (mem_ofRun.mpr ⟨hlast, hrun⟩) event hmem hterminal
  rw [hrun, (h.mem_emitted hmem).2]

/-- The reference of a registered run is there as long as its events come. -/
theorem found (h : Faithful world) (hmem : event ∈ world.remaining native)
    (hdone : world.hand.done = []) (hregistered : native ∈ world.registered) :
    world.state.nativeRefs.find native = some native.ref :=
  h.live native hregistered (h.not_retired hmem hdone)

theorem mem_remaining_front (hfront : event ∈ world.hand.front) (hrun : event.run = some native) :
    event ∈ world.remaining native :=
  List.mem_append_left _ (mem_ofRun.mpr ⟨hfront, hrun⟩)

theorem mem_remaining_back (hback : event ∈ world.hand.back) (hrun : event.run = some native) :
    event ∈ world.remaining native := by
  have hmem : event ∈ ofRun native world.hand.back := mem_ofRun.mpr ⟨hback, hrun⟩
  simp [World.remaining, hmem]

/-- The conversion of the event in hand finds its run. -/
theorem runRef (h : Faithful world) (hhand : world.hand = .converting event)
    (hrun : event.run = some native) :
    world.state.nativeRefs.find native = some native.ref := by
  have hmem : event ∈ world.remaining native := by
    apply mem_remaining_front ?_ hrun
    rw [hhand]
    exact List.mem_singleton_self event
  apply h.found hmem ?_ (h.converting event native hhand hrun)
  rw [hhand]
  rfl

/-! ### Steps of the pump -/

theorem popReplay_some (h : Faithful world) {rest : List HarnessEvent}
    (hhand : world.hand = .empty) (hreplay : world.state.replayEvents = event :: rest) :
    Faithful { world with
      state := { world.state with replayEvents := rest }, hand := .converting event } := by
  have hregistered := h.replay
  rw [hreplay] at hregistered
  refine
    { h with
      replay := fun other hmem => hregistered other (List.mem_cons_of_mem _ hmem)
      permit := fun hwaiting _ => by cases hwaiting
      received := fun _ _ hreceived _ _ => by cases hreceived
      converting := ?_
      ended := ?_
      order := ?_ }
  · rintro _ native ⟨⟩ hrun
    obtain ⟨known, hknown, hrun'⟩ := hregistered event List.mem_cons_self
    rw [hrun] at hrun'
    exact Option.some.inj hrun' ▸ hknown
  · intro native hmem
    simpa [World.delivered, hhand, Hand.done] using h.ended native hmem
  · intro native
    have horder := h.order native
    simp only [World.remaining, hhand, hreplay, ofRun_cons native event rest] at horder
    simpa [World.remaining, World.delivered, RunState.pendingOf, Hand.front, Hand.back] using horder

theorem popReplay_none (h : Faithful world) (hhand : world.hand = .empty)
    (hreplay : world.state.replayEvents = []) : Faithful { world with hand := .waiting } := by
  refine
    { h with
      permit := fun _ _ => hreplay
      received := fun _ _ hreceived _ _ => by cases hreceived
      converting := fun _ _ hconverting _ => by cases hconverting
      ended := ?_
      order := ?_ }
  · intro native hmem
    simpa [World.delivered, hhand, Hand.done] using h.ended native hmem
  · intro native
    have horder := h.order native
    simp only [World.remaining, hhand] at horder
    simpa [World.remaining, World.delivered, Hand.front, Hand.back] using horder

/-- The permit is taken, and `next_event` starts over. -/
theorem restart (h : Faithful world) (hhand : world.hand = .waiting) :
    Faithful { world with eventReady := false, hand := .empty } := by
  refine
    { h with
      permit := fun hwaiting _ => by cases hwaiting
      received := fun _ _ hreceived _ _ => by cases hreceived
      converting := fun _ _ hconverting _ => by cases hconverting
      ended := ?_
      order := ?_ }
  · intro native hmem
    simpa [World.delivered, hhand, Hand.done] using h.ended native hmem
  · intro native
    have horder := h.order native
    simp only [World.remaining, hhand] at horder
    simpa [World.remaining, World.delivered, Hand.front, Hand.back] using horder

theorem select_some (h : Faithful world) {rest : List HarnessEvent}
    (hhand : world.hand = .waiting) (hready : world.eventReady = false)
    (hevents : world.events = event :: rest) :
    Faithful { world with events := rest, hand := .received event } := by
  have hreplay := h.permit hhand hready
  refine
    { h with
      permit := fun hwaiting _ => by cases hwaiting
      received := fun _ native _ _ _ => by rw [hreplay]; rfl
      converting := fun _ _ hconverting _ => by cases hconverting
      ended := ?_
      order := ?_ }
  · intro native hmem
    simpa [World.delivered, hhand, Hand.done] using h.ended native hmem
  · intro native
    have horder := h.order native
    simp only [World.remaining, hhand, hevents, ofRun_cons native event rest] at horder
    simpa [World.remaining, World.delivered, Hand.front, Hand.back] using horder

/-- An event of an unknown run is the last of those kept aside. -/
theorem classify_keep (h : Faithful world) (hhand : world.hand = .received event)
    (hrun : event.run = some native) (hunknown : world.state.nativeRefs.find native = none) :
    Faithful { world with state := world.state.keep native event, hand := .empty } := by
  have hmem : event ∈ world.remaining native := by
    apply mem_remaining_back _ hrun
    rw [hhand]
    exact List.mem_singleton_self event
  have hdone : world.hand.done = [] := by
    rw [hhand]
    rfl
  have hnew : native ∉ world.registered := by
    intro hregistered
    rw [h.found hmem hdone hregistered] at hunknown
    cases hunknown
  have hfind : ∀ other, (world.state.keep native event).pendingEvents.find other =
      if other = native then some (world.state.pendingOf native ++ [event])
      else world.state.pendingEvents.find other := fun other => Dict.find_set
  refine
    { h with
      settled := ?_
      pending := ?_
      permit := fun hwaiting _ => by cases hwaiting
      received := fun _ _ hreceived _ _ => by cases hreceived
      converting := fun _ _ hconverting _ => by cases hconverting
      ended := ?_
      order := ?_ }
  · intro other hother
    rw [hfind, if_neg fun heq : other = native => hnew (heq ▸ hother)]
    exact h.settled other hother
  · intro other events hother
    rw [hfind] at hother
    split at hother
    · next heq =>
        subst heq
        cases hother
        intro kept hkept
        rcases List.mem_append.mp hkept with hold | hlast
        · cases hfound : world.state.pendingEvents.find other with
          | none => simp [RunState.pendingOf, hfound] at hold
          | some events =>
              rw [RunState.pendingOf, hfound] at hold
              exact h.pending other events hfound kept hold
        · rw [List.mem_singleton.mp hlast, hrun]
    · exact h.pending other events hother
  · intro other hother
    simpa [World.delivered, hhand, Hand.done] using h.ended other hother
  · intro other
    have horder := h.order other
    simp only [World.remaining, hhand, Hand.front, Hand.back] at horder
    have hpending : ofRun other ((world.state.keep native event).pendingOf other) =
        ofRun other (world.state.pendingOf other) ++ ofRun other [event] := by
      rw [RunState.pendingOf, hfind]
      by_cases heq : other = native
      · rw [if_pos heq, heq]
        exact ofRun_append ..
      · have hne : event.run ≠ some other := by
          rw [hrun]
          exact fun hsome => heq (Option.some.inj hsome).symm
        rw [if_neg heq, ofRun_singleton_ne hne, List.append_nil]
        rfl
    simp only [World.remaining, Hand.front, Hand.back, hpending]
    simpa [World.delivered, RunState.keep] using horder

/-- An event of a known run goes first, since nothing of its run is in front. -/
theorem classify_pass (h : Faithful world) (hhand : world.hand = .received event)
    (hknown : ∀ native, event.run = some native → native ∈ world.registered) :
    Faithful { world with hand := .converting event } := by
  refine
    { h with
      permit := fun hwaiting _ => by cases hwaiting
      received := fun _ _ hreceived _ _ => by cases hreceived
      converting := ?_
      ended := ?_
      order := ?_ }
  · rintro _ native ⟨⟩ hrun
    exact hknown native hrun
  · intro native hmem
    simpa [World.delivered, hhand, Hand.done] using h.ended native hmem
  · intro native
    have horder := h.order native
    simp only [World.remaining, hhand, Hand.front, Hand.back] at horder
    by_cases hrun : event.run = some native
    · have hregistered := hknown native hrun
      have hreplay := h.received event native hhand hrun hregistered
      have hpending : world.state.pendingOf native = [] := by
        rw [RunState.pendingOf, h.settled native hregistered]
        rfl
      simpa [World.remaining, World.delivered, Hand.front, Hand.back, hreplay, hpending]
        using horder
    · simpa [World.remaining, World.delivered, Hand.front, Hand.back, ofRun_singleton_ne hrun]
        using horder

theorem nativeRefs_retire (state : RunState) (native : ProviderRunHandle) (failed : Bool)
    (other : ProviderRunHandle) : (state.retire native failed).nativeRefs.find other =
      if other = native then none else state.nativeRefs.find other := by
  unfold RunState.retire
  split
  · next hnone =>
      split
      · next heq => rw [heq, hnone]
      · rfl
  · split <;> exact Dict.find_remove

theorem frame_retire (state : RunState) (native : ProviderRunHandle) (failed : Bool) :
    (state.retire native failed).pendingEvents = state.pendingEvents ∧
      (state.retire native failed).replayEvents = state.replayEvents := by
  unfold RunState.retire
  split
  · exact ⟨rfl, rfl⟩
  · split <;> exact ⟨rfl, rfl⟩

theorem retireRun (h : Faithful world) {failed : Bool} (hhand : world.hand = .converting event)
    (hterminal : event.terminal = some (native, failed)) :
    Faithful { world with
      state := world.state.retire native failed, hand := .retired event
      retired := native :: world.retired } := by
  have hrun := HarnessEvent.run_of_terminal hterminal
  obtain ⟨hpending, hreplay⟩ := frame_retire world.state native failed
  refine
    { h with
      settled := fun other hother => by rw [hpending]; exact h.settled other hother
      pending := fun other events hother => h.pending other events (by rwa [hpending] at hother)
      replay := fun other hother => h.replay other (by rwa [hreplay] at hother)
      permit := fun hwaiting _ => by cases hwaiting
      received := fun _ _ hreceived _ _ => by cases hreceived
      converting := fun _ _ hconverting _ => by cases hconverting
      refs := ?_
      live := ?_
      ended := ?_
      order := ?_ }
  · intro other run hother
    rw [nativeRefs_retire] at hother
    split at hother
    · cases hother
    · exact h.refs other run hother
  · intro other hregistered hlive
    rw [List.mem_cons, not_or] at hlive
    rw [nativeRefs_retire, if_neg hlive.1]
    exact h.live other hregistered hlive.2
  · intro other hother
    rcases List.mem_cons.mp hother with rfl | hother
    · refine ⟨event, List.mem_append_right _ (List.mem_singleton_self event), hrun, ?_⟩
      rw [hterminal]
      rfl
    · obtain ⟨last, hlast, hlastRun⟩ := h.ended other hother
      simp only [hhand, Hand.done, List.append_nil] at hlast
      exact ⟨last, List.mem_append_left _ hlast, hlastRun⟩
  · intro other
    have horder := h.order other
    simp only [World.remaining, hhand, Hand.front, Hand.back] at horder
    simpa [World.remaining, World.delivered, RunState.pendingOf, hpending, hreplay, Hand.front,
      Hand.back] using horder

/-- A run that is not over is not retired with what is in hand. -/
theorem returned (h : Faithful world) (hfront : world.hand.front = [event])
    (hback : world.hand.back = []) :
    Faithful { world with
      hand := .empty, returned := world.returned ++ [(event, .ok event.converted)] } := by
  refine
    { h with
      permit := fun hwaiting _ => by cases hwaiting
      received := fun _ _ hreceived _ _ => by cases hreceived
      converting := fun _ _ hconverting _ => by cases hconverting
      ended := ?_
      order := ?_
      answers := ?_ }
  · intro native hmem
    obtain ⟨last, hlast, hlastRun⟩ := h.ended native hmem
    refine ⟨last, ?_, hlastRun⟩
    rcases List.mem_append.mp hlast with hold | hdone
    · simp only [World.delivered] at hold
      simp [World.delivered, hold, Hand.done]
    · have heq : last = event := by
        cases hhand : world.hand with
        | retired other =>
            rw [hhand] at hdone hfront
            cases hfront
            exact List.mem_singleton.mp hdone
        | _ =>
            rw [hhand] at hdone
            cases hdone
      simp [World.delivered, heq]
  · intro native
    have horder := h.order native
    simp only [World.remaining, hfront, hback] at horder
    simpa [World.remaining, World.delivered, Hand.front, Hand.back] using horder
  · intro entry hmem
    rcases List.mem_append.mp hmem with hold | hnew
    · exact h.answers entry hold
    · rw [List.mem_singleton.mp hnew]

/-! ### Steps of the others -/

theorem send (h : Faithful world) (howns : event.OwnsCommand)
    (hlast : ∀ earlier ∈ world.emitted, earlier.terminal.isSome → earlier.run ≠ event.run) :
    Faithful { world with
      events := world.events ++ [event], emitted := world.emitted ++ [event] } := by
  refine { h with order := ?_, last := ?_, commands := ?_ }
  · intro native
    have horder := h.order native
    simp only [World.remaining] at horder
    simp [World.remaining, World.delivered, horder]
  · rw [List.pairwise_append]
    refine ⟨h.last, List.pairwise_singleton _ _, fun earlier hearlier second hsecond => ?_⟩
    rw [List.mem_singleton.mp hsecond]
    exact hlast earlier hearlier
  · intro other hother
    rcases List.mem_append.mp hother with hold | hnew
    · exact h.commands other hold
    · rw [List.mem_singleton.mp hnew]
      exact howns

/-- A registration hands over what was kept aside for the run. -/
theorem register (h : Faithful world) (connection : ConnectionId) (correlation : RunId)
    (hintime : ∀ event, world.hand = .received event → event.run = some native →
      world.state.pendingEvents.find native = none) :
    Faithful { world with
      state := world.state.register connection correlation native native.ref
      eventReady := world.eventReady || (world.state.pendingEvents.find native).isSome
      registered := native :: world.registered } := by
  have hkept : ∀ kept ∈ world.state.pendingOf native, kept.run = some native := by
    intro kept hmem
    unfold RunState.pendingOf at hmem
    cases hfound : world.state.pendingEvents.find native with
    | none => simp [hfound] at hmem
    | some events =>
        rw [hfound] at hmem
        exact h.pending native events hfound kept hmem
  have hother : ∀ other, other ≠ native → ofRun other (world.state.pendingOf native) = [] := by
    intro other hne
    apply ofRun_eq_nil
    intro kept hmem hrun
    rw [hkept kept hmem] at hrun
    exact hne (Option.some.inj hrun).symm
  have hpending : ∀ other, (world.state.register connection correlation native
      native.ref).pendingEvents.find other =
      if other = native then none else world.state.pendingEvents.find other :=
    fun other => Dict.find_remove
  have hrefs : ∀ other, (world.state.register connection correlation native
      native.ref).nativeRefs.find other =
      if other = native then some native.ref else world.state.nativeRefs.find other :=
    fun other => Dict.find_set
  refine
    { h with
      settled := ?_
      pending := ?_
      replay := ?_
      permit := ?_
      received := ?_
      converting := fun event other hconverting hrun =>
        List.mem_cons_of_mem _ (h.converting event other hconverting hrun)
      refs := ?_
      live := ?_
      order := ?_ }
  · intro other hregistered
    rw [hpending]
    split
    · rfl
    · next hne => exact h.settled other ((List.mem_cons.mp hregistered).resolve_left hne)
  · intro other events hfound
    rw [hpending] at hfound
    split at hfound
    · cases hfound
    · exact h.pending other events hfound
  · intro event hmem
    rcases List.mem_append.mp hmem with hold | hnew
    · obtain ⟨known, hknown, hrun⟩ := h.replay event hold
      exact ⟨known, List.mem_cons_of_mem _ hknown, hrun⟩
    · exact ⟨native, List.mem_cons_self, hkept event hnew⟩
  · intro hwaiting hready
    rw [Bool.or_eq_false_iff] at hready
    have hnone := Option.isSome_eq_false_iff.mp hready.2
    show world.state.replayEvents ++ world.state.pendingOf native = []
    rw [h.permit hwaiting hready.1, RunState.pendingOf, Option.isNone_iff_eq_none.mp hnone]
    rfl
  · intro event other hreceived hrun hregistered
    show ofRun other (world.state.replayEvents ++ world.state.pendingOf native) = []
    rw [ofRun_append]
    by_cases heq : other = native
    · subst heq
      have hnone : world.state.pendingOf other = [] := by
        rw [RunState.pendingOf, hintime event hreceived hrun]
        rfl
      rw [hnone, ofRun_nil, List.append_nil]
      by_cases hknown : other ∈ world.registered
      · exact h.received event other hreceived hrun hknown
      · apply ofRun_eq_nil
        intro replayed hmem hreplayed
        obtain ⟨known, hregistered, hrun'⟩ := h.replay replayed hmem
        rw [hreplayed] at hrun'
        exact hknown (Option.some.inj hrun' ▸ hregistered)
    · rw [hother other heq, List.append_nil]
      exact h.received event other hreceived hrun ((List.mem_cons.mp hregistered).resolve_left heq)
  · intro other run hfound
    rw [hrefs] at hfound
    split at hfound
    · next heq =>
        cases hfound
        exact ⟨heq ▸ List.mem_cons_self, by rw [heq]⟩
    · obtain ⟨hknown, hrun⟩ := h.refs other run hfound
      exact ⟨List.mem_cons_of_mem _ hknown, hrun⟩
  · intro other hregistered hlive
    rw [hrefs]
    split
    · next heq => rw [heq]
    · next hne => exact h.live other ((List.mem_cons.mp hregistered).resolve_left hne) hlive
  · intro other
    have horder := h.order other
    have hmoved : ofRun other ((world.state.register connection correlation native
        native.ref).replayEvents) ++
        ofRun other
          ((world.state.register connection correlation native native.ref).pendingOf other)
        = ofRun other world.state.replayEvents ++ ofRun other (world.state.pendingOf other) := by
      show ofRun other (world.state.replayEvents ++ world.state.pendingOf native) ++
        ofRun other (((world.state.register connection correlation native
          native.ref).pendingEvents.find other).getD []) = _
      rw [hpending, ofRun_append]
      by_cases heq : other = native
      · rw [if_pos heq, heq]
        simp
      · rw [if_neg heq, hother other heq, List.append_nil]
        rfl
    simp only [World.remaining] at horder ⊢
    rw [← List.append_assoc (ofRun other (RunState.replayEvents _)), hmoved, List.append_assoc]
    exact horder

end Faithful

/-! ## The outline -/

/-- A result of `next_event` for what is in hand. -/
def Hand.Answers (hand : Hand) (result : Except HarnessPortError RunHarnessEvent) : Prop :=
  ∃ event, result = .ok event.converted ∧ hand.front = [event] ∧ hand.back = []

/-- The pump's token is what it has in hand; the others have none. -/
def deliverySpec : {β : Type} → Proc β → Option Hand → (β → Option Hand → Prop) → Prop
  | _, .pump, token, _ => token = some .empty
  | _, .nextEvent, token, Q =>
      token = some .empty ∧ ∀ result hand, hand.Answers result → Q result (some hand)
  | _, .startRun .., token, Q => token = none ∧ Q () none
  | _, .emit _, token, Q => token = none ∧ Q () none

def deliveryOutline : Outline Proc World where
  Token := Option Hand
  Valid := fun world tokens => Faithful world ∧ tokens.filterMap id = [world.hand]
  perm := by
    rintro world tokens tokens' hperm ⟨hfaithful, hhand⟩
    refine ⟨hfaithful, ?_⟩
    have hsame := hperm.filterMap id
    rw [hhand] at hsame
    exact List.perm_singleton.mp hsame.symm
  spec := deliverySpec
  Idle := fun token => token = none

variable {β : Type}

theorem deliveryOutline_pump {act : Act β} {hand : Hand} {Q : β → Option Hand → Prop}
    (h : ∀ {world world' : World} {oracle : Oracle} {answer : β} {spawned : List (Proc Unit)},
      Faithful world → world.hand = hand →
      act.exec oracle world = some (answer, world', spawned) →
      spawned = [] ∧ Faithful world' ∧ Q answer (some world'.hand)) :
    deliveryOutline.Step bridge InTime act (some hand) Q := by
  rintro world others oracle answer world' spawned ⟨hfaithful, hhand⟩ _ hexec
  obtain ⟨hsame, hothers⟩ :=
    List.cons.inj (show hand :: others.filterMap id = [world.hand] from hhand)
  obtain ⟨rfl, hfaithful', hQ⟩ := h hfaithful hsame.symm hexec
  refine ⟨some world'.hand, [], .nil, ⟨hfaithful', ?_⟩, hQ⟩
  change world'.hand :: others.filterMap id = [world'.hand]
  rw [hothers]

theorem deliveryOutline_other {act : Act β} {Q : β → Option Hand → Prop}
    (h : ∀ {world world' : World} {oracle : Oracle} {answer : β} {spawned : List (Proc Unit)},
      Faithful world → InTime β act oracle world →
      act.exec oracle world = some (answer, world', spawned) →
      spawned = [] ∧ Faithful world' ∧ world'.hand = world.hand ∧ Q answer none) :
    deliveryOutline.Step bridge InTime act none Q := by
  rintro world others oracle answer world' spawned ⟨hfaithful, hhand⟩ hadmits hexec
  obtain ⟨rfl, hfaithful', hsame, hQ⟩ := h hfaithful hadmits hexec
  refine ⟨none, [], .nil, ⟨hfaithful', ?_⟩, hQ⟩
  rw [hsame]
  exact hhand

/-- Looking a run up changes nothing, and the event in hand finds its own. -/
theorem ok_withRef {event : HarnessEvent} {native : ProviderRunHandle} {α : Type}
    {next : ProviderRunRef → Bri (Except HarnessPortError α)}
    {Q : Except HarnessPortError α → Option Hand → Prop} (hrun : event.run = some native)
    (hnext : deliveryOutline.Ok bridge InTime Q (next native.ref) (some (.converting event))) :
    deliveryOutline.Ok bridge InTime Q (withRef native next) (some (.converting event)) := by
  apply Outline.Ok.bind
  apply Outline.Ok.act
  apply deliveryOutline_pump
  intro world world' oracle answer spawned hfaithful hhand hexec
  have hfound := hfaithful.runRef hhand hrun
  simp only [Act.exec, hfound, Option.some.injEq, Prod.mk.injEq] at hexec
  obtain ⟨rfl, rfl, rfl⟩ := hexec
  rw [hhand]
  exact ⟨rfl, hfaithful, hnext⟩

theorem ok_convertRefs {event : HarnessEvent} (howns : event.OwnsCommand) :
    deliveryOutline.Ok bridge InTime
      (fun result held => result = .ok event.converted ∧ held = some (.converting event))
      (convertRefs event) (some (.converting event)) := by
  cases event with
  | commandOutputDelta run command commandText chunk =>
      exact ok_withRef rfl (ok_withRef (congrArg some howns.symm) ⟨rfl, rfl⟩)
  | commandOutputCompleted run command commandText output =>
      exact ok_withRef rfl (ok_withRef (congrArg some howns.symm) ⟨rfl, rfl⟩)
  | unknown run itemType native =>
      cases run with
      | none => exact ⟨rfl, rfl⟩
      | some run => exact ok_withRef rfl ⟨rfl, rfl⟩
  | malformed run itemType native =>
      cases run with
      | none => exact ⟨rfl, rfl⟩
      | some run => exact ok_withRef rfl ⟨rfl, rfl⟩
  | _ => exact ok_withRef rfl ⟨rfl, rfl⟩

theorem ok_convertEvent {event : HarnessEvent} (howns : event.OwnsCommand)
    {Q : Except HarnessPortError RunHarnessEvent → Option Hand → Prop}
    (hQ : ∀ result hand, hand.Answers result → Q result (some hand)) :
    deliveryOutline.Ok bridge InTime Q (convertEvent event) (some (.converting event)) := by
  apply Outline.Ok.bind
  apply (ok_convertRefs howns).mono
  rintro _ _ ⟨rfl, rfl⟩
  dsimp only
  cases hterminal : event.terminal with
  | none => exact hQ _ _ ⟨event, rfl, rfl, rfl⟩
  | some ending =>
      obtain ⟨native, failed⟩ := ending
      apply Outline.Ok.bind
      apply Outline.Ok.act
      apply deliveryOutline_pump
      intro world world' oracle answer spawned hfaithful hhand hexec
      simp only [Act.exec, hhand, Option.some.injEq, Prod.mk.injEq] at hexec
      obtain ⟨-, rfl, rfl⟩ := hexec
      exact ⟨rfl, hfaithful.retireRun hhand hterminal, hQ _ _ ⟨event, rfl, rfl, rfl⟩⟩

theorem Faithful.ownsCommand {world : World} {event : HarnessEvent} (h : Faithful world)
    (hmem : event ∈ world.hand.front ++ world.hand.back) : event.OwnsCommand := by
  cases hrun : event.run with
  | none => cases event <;> trivial
  | some native =>
      have hremaining : event ∈ world.remaining native := by
        rcases List.mem_append.mp hmem with hfront | hback
        · exact mem_remaining_front hfront hrun
        · exact mem_remaining_back hback hrun
      exact h.commands event (h.mem_emitted hremaining).1

/-- After `popReplay` an event is in hand, or the channel is next. -/
theorem ok_nextEvent {Q : Except HarnessPortError RunHarnessEvent → Option Hand → Prop}
    (hQ : ∀ result hand, hand.Answers result → Q result (some hand)) :
    deliveryOutline.Ok bridge InTime Q nextEvent (some .empty) := by
  have hagain : deliveryOutline.Ok bridge InTime Q (Prog.invoke .nextEvent) (some .empty) :=
    Outline.Ok.invoke ⟨rfl, hQ⟩
  have hselect : deliveryOutline.Step bridge InTime .select (some .waiting) fun found held =>
      (found = none ∧ held = some .empty) ∨
        ∃ event, found = some event ∧ held = some (.received event) := by
    apply deliveryOutline_pump
    intro world world' oracle answer spawned hfaithful hhand hexec
    simp only [Act.exec] at hexec
    split at hexec
    · cases hexec
      exact ⟨rfl, hfaithful.restart hhand, .inl ⟨rfl, rfl⟩⟩
    · next hready =>
        split at hexec
        · next event rest hevents =>
            cases hexec
            rw [Bool.not_eq_true] at hready
            exact ⟨rfl, hfaithful.select_some hhand hready hevents, .inr ⟨event, rfl, rfl⟩⟩
        · cases hexec
  have hclassify : ∀ event, deliveryOutline.Step bridge InTime (.classify event)
      (some (.received event)) fun kept held =>
        (kept = true ∧ held = some .empty) ∨
          (kept = false ∧ held = some (.converting event) ∧ event.OwnsCommand) := by
    intro event
    apply deliveryOutline_pump
    intro world world' oracle answer spawned hfaithful hhand hexec
    have howns : event.OwnsCommand := by
      apply hfaithful.ownsCommand
      rw [hhand]
      exact List.mem_singleton_self event
    simp only [Act.exec] at hexec
    split at hexec
    · next native hrun =>
        split at hexec
        · next hunknown =>
            cases hexec
            rw [Option.isNone_iff_eq_none] at hunknown
            exact ⟨rfl, hfaithful.classify_keep hhand hrun hunknown, .inl ⟨rfl, rfl⟩⟩
        · next hknown =>
            cases hexec
            rw [Option.isNone_iff_eq_none] at hknown
            obtain ⟨run, hfound⟩ := Option.ne_none_iff_exists'.mp hknown
            refine ⟨rfl, hfaithful.classify_pass hhand ?_, .inr ⟨rfl, rfl, howns⟩⟩
            rw [hrun]
            rintro _ ⟨⟩
            exact (hfaithful.refs native run hfound).1
    · next hrun =>
        cases hexec
        refine ⟨rfl, hfaithful.classify_pass hhand ?_, .inr ⟨rfl, rfl, howns⟩⟩
        rw [hrun]
        intro native hsome
        cases hsome
  apply Outline.Ok.bind
  apply Outline.Ok.act
  apply deliveryOutline_pump
  intro world world' oracle answer spawned hfaithful hhand hexec
  simp only [Act.exec] at hexec
  split at hexec
  · next event rest hreplay =>
      cases hexec
      have hafter := hfaithful.popReplay_some hhand hreplay
      have howns : event.OwnsCommand := hafter.ownsCommand (List.mem_singleton_self event)
      exact ⟨rfl, hafter, ok_convertEvent howns hQ⟩
  · next hreplay =>
      cases hexec
      refine ⟨rfl, hfaithful.popReplay_none hhand hreplay, ?_⟩
      apply Outline.Ok.bind
      apply Outline.Ok.act
      apply deliveryOutline_pump
      intro world world' oracle full spawned hfaithful hhand hexec
      cases hexec
      refine ⟨rfl, hfaithful, ?_⟩
      rw [hhand]
      cases world.state.pendingFull with
      | true =>
          apply Outline.Ok.bind
          apply Outline.Ok.act
          apply deliveryOutline_pump
          intro world world' oracle answer spawned hfaithful hhand hexec
          simp only [Act.exec] at hexec
          split at hexec
          · cases hexec
            exact ⟨rfl, hfaithful.restart hhand, hagain⟩
          · cases hexec
      | false =>
          apply Outline.Ok.bind
          apply Outline.Ok.act
          apply hselect.mono
          rintro found held (⟨rfl, rfl⟩ | ⟨event, rfl, rfl⟩)
          · exact hagain
          · apply Outline.Ok.bind
            apply Outline.Ok.act
            apply (hclassify event).mono
            rintro kept held (⟨rfl, rfl⟩ | ⟨rfl, rfl, howns⟩)
            · exact hagain
            · exact ok_convertEvent howns hQ

theorem ok_pump {Q : Unit → Option Hand → Prop} :
    deliveryOutline.Ok bridge InTime Q pump (some .empty) := by
  apply Outline.Ok.bind
  apply Outline.Ok.invoke
  refine ⟨rfl, fun result hand hanswers => ?_⟩
  obtain ⟨event, rfl, hfront, hback⟩ := hanswers
  apply Outline.Ok.bind
  apply Outline.Ok.act
  apply deliveryOutline_pump
  intro world world' oracle answer spawned hfaithful hhand hexec
  subst hhand
  have hafter := hfaithful.returned hfront hback
  have heffect : (Act.returned (.ok event.converted)).exec oracle world = some ((),
      { world with
        hand := .empty, returned := world.returned ++ [(event, .ok event.converted)] }, []) := by
    cases hhand : world.hand with
    | converting other | retired other =>
        rw [hhand] at hfront
        cases hfront
        simp [Act.exec, hhand]
    | _ =>
        rw [hhand] at hfront
        cases hfront
  rw [heffect] at hexec
  cases hexec
  exact ⟨rfl, hafter, Outline.Ok.invoke rfl⟩

theorem ok_startRun (connection : ConnectionId) (correlation : RunId)
    {Q : Unit → Option Hand → Prop} (hQ : Q () none) :
    deliveryOutline.Ok bridge InTime Q (startRun connection correlation) none := by
  apply Outline.Ok.bind
  apply Outline.Ok.act
  apply deliveryOutline_other
  intro world world' oracle known spawned hfaithful _ hexec
  cases hexec
  refine ⟨rfl, hfaithful, rfl, ?_⟩
  cases world.state.correlations.find correlation with
  | some run => exact hQ
  | none =>
      apply Outline.Ok.bind
      apply Outline.Ok.act
      apply deliveryOutline_other
      intro world world' oracle started spawned hfaithful _ hexec
      cases oracle with
      | silent => cases hexec
      | started answer =>
          cases hexec
          refine ⟨rfl, hfaithful, rfl, ?_⟩
          cases started with
          | error error => exact hQ
          | ok native =>
              apply Outline.Ok.bind
              apply Outline.Ok.act
              apply deliveryOutline_other
              intro world world' oracle registered spawned hfaithful hintime hexec
              simp only [Act.exec, portRef_eq, Option.some.injEq, Prod.mk.injEq] at hexec
              obtain ⟨-, rfl, rfl⟩ := hexec
              exact ⟨rfl, hfaithful.register connection correlation hintime.2, rfl, hQ⟩

theorem deliveryOutline_sound : deliveryOutline.Sound bridge InTime := by
  intro β proc token Q hspec
  cases proc with
  | pump =>
      obtain rfl := hspec
      exact ok_pump
  | nextEvent =>
      obtain ⟨rfl, hQ⟩ := hspec
      exact ok_nextEvent hQ
  | startRun connection correlation =>
      obtain ⟨rfl, hQ⟩ := hspec
      exact ok_startRun connection correlation hQ
  | emit event =>
      obtain ⟨rfl, hQ⟩ := hspec
      apply Outline.Ok.act
      apply deliveryOutline_other
      intro world world' oracle answer spawned hfaithful hintime hexec
      simp only [Act.exec] at hexec
      split at hexec
      · cases hexec
        exact ⟨rfl, hfaithful.send hintime.1.1 hintime.1.2, rfl, hQ⟩
      · cases hexec

theorem deliveryOutline_open : deliveryOutline.Open Proc.isOutside := by
  rintro proc world tokens houtside ⟨hfaithful, hhand⟩
  refine ⟨none, ?_, hfaithful, hhand⟩
  unfold Proc.isOutside at houtside
  split at houtside
  all_goals first | exact ⟨rfl, rfl⟩ | cases houtside

theorem deliveryOutline_starting : deliveryOutline.Holds bridge InTime newBridge :=
  ⟨[some .empty], .cons (Outline.Ok.invoke rfl) .nil, .initial, rfl⟩

theorem faithful_of_reach {config : Config Act Proc World}
    (h : Machine.Reach bridge InTime Proc.isOutside newBridge config) : Faithful config.world := by
  obtain ⟨_, _, hvalid⟩ :=
    Outline.sound deliveryOutline_sound deliveryOutline_open deliveryOutline_starting h
  exact hvalid.1

theorem Faithful.given_eq {world : World} (h : Faithful world) (native : ProviderRunHandle) :
    world.given native = (ofRun native world.delivered).map (·.converted) := by
  have hanswers := h.answers
  unfold World.given World.delivered
  generalize world.returned = returned at hanswers
  induction returned with
  | nil => rfl
  | cons entry rest ih =>
      have hrest := ih fun other hmem => hanswers other (List.mem_cons_of_mem _ hmem)
      have hfirst : (entry :: rest).filterMap (fun entry => entry.2.toOption) =
          entry.1.converted :: rest.filterMap (fun entry => entry.2.toOption) := by
        apply List.filterMap_cons_some
        rw [hanswers entry List.mem_cons_self]
        rfl
      have hrun : (entry.1.converted.run = some native.ref) ↔ entry.1.run = some native := by
        rw [HarnessEvent.run_converted, Option.map_eq_some_iff]
        constructor
        · rintro ⟨other, hother, href⟩
          rw [hother, ProviderRunHandle.ref_injective href]
        · exact fun hsome => ⟨native, hsome, rfl⟩
      rw [hfirst, List.map_cons, List.filter_cons, ofRun,
        List.filter_cons]
      by_cases hmine : entry.1.run = some native
      · rw [if_pos (by simpa [hrun] using hmine), if_pos (by simpa using hmine), hrest]
        rfl
      · rw [if_neg (by simpa [hrun] using hmine), if_neg (by simpa using hmine), hrest]
        rfl

/-- Whatever the interleaving, if every registration comes in time: no call of
`next_event` fails, a run's events come out in their order with none left out or
repeated, and when `next_event` has nothing left to take, a registered run's
events are all out. -/
theorem delivery_of_inTime {config : Config Act Proc World}
    (h : Machine.Reach bridge InTime Proc.isOutside newBridge config) :
    (∀ entry ∈ config.world.returned, ∃ event, entry.2 = .ok event) ∧
    (∀ native, config.world.given native <+:
      (ofRun native config.world.emitted).map (·.converted)) ∧
    (∀ native ∈ config.world.registered, config.world.hand = .waiting →
      config.world.eventReady = false → config.world.events = [] →
      config.world.given native = (ofRun native config.world.emitted).map (·.converted)) := by
  have hfaithful := faithful_of_reach h
  refine ⟨fun entry hmem => ⟨_, hfaithful.answers entry hmem⟩, fun native => ?_, ?_⟩
  · rw [hfaithful.given_eq, hfaithful.order, List.map_append]
    exact List.prefix_append ..
  · intro native hregistered hhand hready hevents
    have hnone : config.world.remaining native = [] := by
      simp [World.remaining, hhand, hevents, hfaithful.permit hhand hready, RunState.pendingOf,
        hfaithful.settled native hregistered, Hand.front, Hand.back]
    rw [hfaithful.given_eq, hfaithful.order, hnone, List.append_nil]

/-! ## Replayed runs -/

instance (event : HarnessEvent) : Decidable event.OwnsCommand :=
  match event with
  | .commandOutputDelta run command _ _ | .commandOutputCompleted run command _ _ =>
      inferInstanceAs (Decidable (command.run = run))
  | .runAccepted _ | .messageDelta .. | .messageCompleted .. | .approvalRequested ..
  | .userInputRequested .. | .fileMutation .. | .runTerminal .. | .unknown .. | .malformed .. =>
      .isTrue trivial

/-- `AdapterContract`, decided. -/
def adapterGuard : (β : Type) → Act β → Oracle → World → Bool
  | _, .send event, _, world =>
      decide (event.OwnsCommand ∧
        ∀ earlier ∈ world.emitted, earlier.terminal.isSome → earlier.run ≠ event.run)
  | _, _, _, _ => true

/-- `RegistersInTime`, decided. -/
def registerGuard : (β : Type) → Act β → Oracle → World → Bool
  | _, .registerRun _ _ native, _, world =>
      world.hand.back.all fun event =>
        decide (event.run = some native → world.state.pendingEvents.find native = none)
  | _, _, _, _ => true

theorem adapterGuard_sound (β : Type) (act : Act β) (oracle : Oracle) (world : World)
    (h : adapterGuard β act oracle world = true) : AdapterContract β act oracle world := by
  cases act with
  | send event =>
      simp only [adapterGuard, decide_eq_true_eq] at h
      exact h
  | _ => trivial

theorem registerGuard_sound (β : Type) (act : Act β) (oracle : Oracle) (world : World)
    (h : registerGuard β act oracle world = true) : RegistersInTime β act oracle world := by
  cases act with
  | registerRun connection correlation native =>
      intro event hhand
      simp only [registerGuard, hhand, Hand.back, List.all_cons, List.all_nil, Bool.and_true,
        decide_eq_true_eq] at h
      exact h
  | _ => trivial

theorem inTimeGuard_sound (β : Type) (act : Act β) (oracle : Oracle) (world : World)
    (h : (adapterGuard β act oracle world && registerGuard β act oracle world) = true) :
    InTime β act oracle world := by
  rw [Bool.and_eq_true] at h
  exact ⟨adapterGuard_sound β act oracle world h.1, registerGuard_sound β act oracle world h.2⟩

/-- What a schedule reaches from a new harness. -/
theorem bridge_reaches {admits : ∀ β : Type, Act β → Oracle → World → Prop}
    (guard : ∀ β : Type, Act β → Oracle → World → Bool)
    (hguard : ∀ (β : Type) (act : Act β) (oracle : Oracle) (world : World),
      guard β act oracle world = true → admits β act oracle world)
    (schedule : List (Machine.Move Proc Oracle)) (check : Config Act Proc World → Bool)
    (h : (bridge.replay guard Proc.isOutside newBridge schedule).any check = true) :
    ∃ config, Machine.Reach bridge admits Proc.isOutside newBridge config ∧ check config = true :=
  Machine.Reach.exists_of_replay guard hguard schedule check h

def sampleNative : ProviderRunHandle := ⟨"runtime", "session", "run", by decide +kernel⟩

def sampleConnection : ConnectionId := ⟨⟨BitVec.ofNat 128 (7 * 2 ^ 76 + 2 * 2 ^ 62), by decide⟩⟩

def sampleCorrelation : RunId := ⟨⟨BitVec.ofNat 128 (7 * 2 ^ 76 + 2 * 2 ^ 62 + 1), by decide⟩⟩

namespace Schedule

def run (task : Nat) : Machine.Move Proc Oracle := .step task .silent

/-- A first event of a run that is not registered yet is kept aside, and the
pump is back at the channel. The pump is task 0. -/
def keptAside : List (Machine.Move Proc Oracle) :=
  [.spawn (.emit (.runAccepted sampleNative)), run 1, run 1, run 0, run 0, run 0, run 0, run 0,
    run 0, run 0, run 0, run 0, .spawn (.emit (.runTerminal sampleNative .completed)), run 2, run 2]

/-- A start that registers the run (task 3). -/
def registered : List (Machine.Move Proc Oracle) :=
  [.spawn (.startRun sampleConnection sampleCorrelation), run 3, run 3,
    .step 3 (.started (.ok sampleNative)), run 3]

/-- The run is registered before its second event is taken from the channel. -/
def inOrder : List (Machine.Move Proc Oracle) :=
  keptAside ++ registered ++ List.replicate 17 (run 0)

/-- The run is registered while its second event is in the pump's hand. -/
def overtaken : List (Machine.Move Proc Oracle) :=
  keptAside ++ [run 0] ++ registered ++ List.replicate 9 (run 0)

end Schedule

set_option maxRecDepth 100000 in
theorem inOrder_delivered :
    ∃ config, Machine.Reach bridge InTime Proc.isOutside newBridge config ∧
      (ofRun sampleNative config.world.emitted).length = 2 ∧
      config.world.given sampleNative =
        (ofRun sampleNative config.world.emitted).map (·.converted) := by
  obtain ⟨config, hreach, hcheck⟩ := bridge_reaches
    (fun β act oracle world => adapterGuard β act oracle world && registerGuard β act oracle world)
    inTimeGuard_sound Schedule.inOrder
    (fun config => decide ((ofRun sampleNative config.world.emitted).length = 2 ∧
      sampleNative ∈ config.world.registered ∧ config.world.hand = .waiting ∧
      config.world.eventReady = false ∧ config.world.events = [])) (by decide +kernel)
  obtain ⟨hlength, hregistered, hhand, hready, hevents⟩ := of_decide_eq_true hcheck
  exact ⟨config, hreach, hlength,
    (delivery_of_inTime hreach).2.2 sampleNative hregistered hhand hready hevents⟩

set_option maxRecDepth 100000 in
/-- The terminal event overtakes the run's first event, which then finds its
run retired: `next_event` fails for a run that was registered. -/
theorem overtaken_not_delivered :
    ∃ config, Machine.Reach bridge AdapterContract Proc.isOutside newBridge config ∧
      sampleNative ∈ config.world.registered ∧
      (∃ error, (.runAccepted sampleNative, .error error) ∈ config.world.returned) ∧
      ¬ config.world.given sampleNative <+:
        (ofRun sampleNative config.world.emitted).map (·.converted) := by
  obtain ⟨config, hreach, hcheck⟩ := bridge_reaches adapterGuard adapterGuard_sound
    Schedule.overtaken
    (fun config => decide (sampleNative ∈ config.world.registered ∧
      (HarnessEvent.runAccepted sampleNative, .error (.notFound sampleNative.toText)) ∈
        config.world.returned ∧
      ¬ config.world.given sampleNative <+:
        (ofRun sampleNative config.world.emitted).map (·.converted))) (by decide +kernel)
  obtain ⟨hregistered, herror, hprefix⟩ := of_decide_eq_true hcheck
  exact ⟨config, hreach, hregistered, ⟨_, herror⟩, hprefix⟩

end YakShed.Codex
