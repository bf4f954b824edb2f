/-
# The lifecycle of native runs

Three maps know a run: the active runs, the provider's pending requests and the
reducer's commands. A run enters the first with its `RunAccepted` event and
leaves all three with its `RunTerminal` event, wherever that comes from. The
events that name a run are therefore a sequence of lives, as long as the
provider does not start a turn under an id that is active.
-/

import YakShed.Codex.Actor
import YakShed.Collections.Lives

namespace YakShed.Codex

open Json

/-- What an event does to a run. -/
def markOf (run : ProviderRunHandle) (event : NativeEvent) : Option Mark :=
  if event.event.run = some run then
    match event.event with
    | .runAccepted _ => some .opens
    | .runTerminal .. => some .closes
    | _ => some .uses
  else none

/-- An event that neither accepts nor ends a run. -/
def HarnessEvent.isUse : HarnessEvent → Bool
  | runAccepted _ | runTerminal .. => false
  | _ => true

theorem markOf_accepted {run : ProviderRunHandle} {native : String} :
    markOf run ⟨.runAccepted run, native⟩ = some .opens := if_pos rfl

theorem markOf_terminal {run : ProviderRunHandle} {state : HarnessRunTerminal} {native : String} :
    markOf run ⟨.runTerminal run state, native⟩ = some .closes := if_pos rfl

theorem markOf_use {run : ProviderRunHandle} {event : NativeEvent} (huse : event.event.isUse)
    (hrun : event.event.run = some run) : markOf run event = some .uses := by
  unfold markOf
  rw [if_pos hrun]
  split
  · next h =>
    rw [h] at huse
    cases huse
  · next h =>
    rw [h] at huse
    cases huse
  · rfl

theorem markOf_other {run : ProviderRunHandle} {event : NativeEvent}
    (hrun : event.event.run ≠ some run) : markOf run event = none := if_neg hrun

/-! ## What the reducer can do -/

/-- An event that neither accepts nor ends a run and is not malformed. -/
def HarnessEvent.isPlain : HarnessEvent → Bool
  | runAccepted _ | runTerminal .. | malformed .. => false
  | _ => true

theorem HarnessEvent.isUse_of_isPlain {event : HarnessEvent} (h : event.isPlain) :
    event.isUse := by
  cases event with
  | runAccepted run => cases h
  | runTerminal run state => cases h
  | malformed run itemType native => rfl
  | messageDelta run chunk => rfl
  | messageCompleted run text => rfl
  | approvalRequested request summary => rfl
  | userInputRequested request prompt => rfl
  | fileMutation run path summary => rfl
  | commandOutputDelta run command commandText chunk => rfl
  | commandOutputCompleted run command commandText output => rfl
  | unknown run itemType native => rfl

/-- The events of one message: its run ends, or it is malformed, or it uses the run. -/
inductive Output (run : Option ProviderRunHandle) : List NativeEvent → Prop
  | terminal (ended : ProviderRunHandle) (state : HarnessRunTerminal) (native : String)
      (h : run = some ended) : Output run [⟨.runTerminal ended state, native⟩]
  | malformed (itemType native : String) : Output run [.malformed run itemType native]
  | uses (events : List NativeEvent)
      (h : ∀ event ∈ events, event.event.isPlain ∧ event.event.run = run) : Output run events

theorem Output.none {run : Option ProviderRunHandle} : Output run [] := by
  apply Output.uses
  intro event hmem
  cases hmem

theorem Output.use {run : Option ProviderRunHandle} {event : NativeEvent}
    (hplain : event.event.isPlain) (hrun : event.event.run = run) : Output run [event] := by
  apply Output.uses
  intro event' hmem
  rw [List.mem_singleton.mp hmem]
  exact ⟨hplain, hrun⟩

/-- What a message does: its events, and that a new command belongs to its run. -/
structure Reduced (reducer : Reducer) (run : Option ProviderRunHandle)
    (result : Reducer × List NativeEvent) : Prop where
  output : Output run result.2
  commands : ∀ handle text, result.1.commands.find handle = some text →
    some handle.run = run ∨ ∃ text, reducer.commands.find handle = some text

namespace Reducer

variable {reducer : Reducer} {params : Value} {run : Option ProviderRunHandle}
  {request : Option ProviderRequestHandle} {native method : String}
  {result : Reducer × List NativeEvent}

/-- Events only: the commands stay. -/
theorem reduced_same {events : List NativeEvent} (output : Output run events) :
    Reduced reducer run (reducer, events) :=
  ⟨output, fun _ text h => .inr ⟨text, h⟩⟩

theorem run_of_new {run : ProviderRunHandle} {id : String} {handle : ProviderCommandHandle}
    (h : ProviderCommandHandle.new run id = some handle) : handle.run = run := by
  unfold ProviderCommandHandle.new at h
  split at h
  · cases h
    rfl
  · cases h

theorem reduced_itemStarted (h : reducer.itemStarted params run native = some result) :
    Reduced reducer run result := by
  unfold itemStarted at h
  simp only [Option.bind_eq_bind, Option.bind_eq_some_iff] at h
  obtain ⟨item, _, itemType, _, run, rfl, id, _, h⟩ := h
  split at h
  · simp only [Option.bind_eq_some_iff] at h
    obtain ⟨command, _, handle, hhandle, h⟩ := h
    cases h
    refine ⟨Output.none, ?_⟩
    intro handle' text hfind
    by_cases heq : handle' = handle
    · left
      rw [heq, run_of_new hhandle]
    · rw [Dict.find_set_ne heq] at hfind
      exact .inr ⟨text, hfind⟩
  · split at h
    · cases h
      exact reduced_same Output.none
    · cases h
      exact reduced_same (Output.use rfl rfl)

theorem reduced_messageDelta (h : reducer.messageDelta params run native = some result) :
    Reduced reducer run result := by
  unfold messageDelta at h
  simp only [Option.bind_eq_bind, Option.bind_eq_some_iff] at h
  obtain ⟨run, rfl, chunk, _, h⟩ := h
  cases h
  exact reduced_same (Output.use rfl rfl)

theorem reduced_commandOutputDelta
    (h : reducer.commandOutputDelta params run native = some result) :
    Reduced reducer run result := by
  unfold commandOutputDelta at h
  simp only [Option.bind_eq_bind, Option.bind_eq_some_iff] at h
  obtain ⟨run, rfl, itemId, _, chunk, _, handle, _, text, _, h⟩ := h
  cases h
  exact reduced_same (Output.use rfl rfl)

theorem reduced_fileChangeOutputDelta
    (h : reducer.fileChangeOutputDelta params run native method = some result) :
    Reduced reducer run result := by
  unfold fileChangeOutputDelta at h
  simp only [Option.bind_eq_bind, Option.bind_eq_some_iff] at h
  obtain ⟨run, rfl, itemId, _, chunk, _, h⟩ := h
  cases h
  exact reduced_same (Output.use rfl rfl)

theorem mem_of_mapM_eq_some {α β : Type} {f : α → Option β} {items : List α} {results : List β}
    (h : items.mapM f = some results) {result : β} (hmem : result ∈ results) :
    ∃ item ∈ items, f item = some result := by
  induction items generalizing results with
  | nil =>
      cases h
      cases hmem
  | cons item rest ih =>
      rw [List.mapM_cons] at h
      simp only [Option.bind_eq_bind, Option.bind_eq_some_iff] at h
      obtain ⟨head, hhead, others, hothers, h⟩ := h
      cases h
      rcases List.mem_cons.mp hmem with rfl | hmem
      · exact ⟨item, List.mem_cons_self, hhead⟩
      · obtain ⟨item', hitem, hf⟩ := ih hothers hmem
        exact ⟨item', List.mem_cons_of_mem _ hitem, hf⟩

theorem reduced_fileChangeCompleted {item : Value} {run : ProviderRunHandle}
    (h : reducer.fileChangeCompleted native item run = some result) :
    Reduced reducer (some run) result := by
  unfold fileChangeCompleted at h
  simp only [Option.bind_eq_bind, Option.bind_eq_some_iff] at h
  obtain ⟨changes, _, mutations, hmutations, h⟩ := h
  cases h
  apply reduced_same
  apply Output.uses
  intro event hmem
  obtain ⟨change, _, hevent⟩ := mem_of_mapM_eq_some hmutations hmem
  unfold fileMutation at hevent
  simp only [Option.bind_eq_bind, Option.bind_eq_some_iff] at hevent
  obtain ⟨path, _, hevent⟩ := hevent
  cases hevent
  exact ⟨rfl, rfl⟩

theorem reduced_commandCompleted {item : Value} {run : ProviderRunHandle} {itemId : String}
    (h : reducer.commandCompleted native item run itemId method = some result) :
    Reduced reducer (some run) result := by
  unfold commandCompleted at h
  simp only [Option.bind_eq_bind, Option.bind_eq_some_iff] at h
  obtain ⟨handle, _, text, _, h⟩ := h
  have hcommands : ∀ handle' text', (reducer.commands.remove handle).find handle' = some text' →
      some handle'.run = some run ∨ ∃ text, reducer.commands.find handle' = some text := by
    intro handle' text' hfind
    rw [Dict.find_remove] at hfind
    split at hfind
    · cases hfind
    · exact .inr ⟨text', hfind⟩
  split at h
  · cases h
    exact ⟨.malformed _ _, hcommands⟩
  · cases h
    exact ⟨Output.use rfl rfl, hcommands⟩

theorem reduced_completedItem (h : reducer.completedItem params run native method = some result) :
    Reduced reducer run result := by
  unfold completedItem at h
  simp only [Option.bind_eq_bind, Option.bind_eq_some_iff] at h
  obtain ⟨run, rfl, item, _, itemId, _, itemType, _, h⟩ := h
  split at h
  · unfold messageCompleted at h
    simp only [Option.bind_eq_bind, Option.bind_eq_some_iff] at h
    obtain ⟨text, _, h⟩ := h
    cases h
    exact reduced_same (Output.use rfl rfl)
  · split at h
    · exact reduced_fileChangeCompleted h
    · split at h
      · exact reduced_commandCompleted h
      · cases h
        exact reduced_same (Output.use rfl rfl)

theorem reduced_commandApproval (hrequest : ∀ found, request = some found → run = some found.run)
    (h : reducer.commandApproval params request native = some result) :
    Reduced reducer run result := by
  unfold commandApproval at h
  simp only [Option.bind_eq_bind, Option.bind_eq_some_iff] at h
  obtain ⟨found, rfl, h⟩ := h
  cases h
  exact reduced_same (Output.use rfl (hrequest found rfl).symm)

theorem reduced_fileApproval (hrequest : ∀ found, request = some found → run = some found.run)
    (h : reducer.fileApproval params request native = some result) :
    Reduced reducer run result := by
  unfold fileApproval at h
  simp only [Option.bind_eq_bind, Option.bind_eq_some_iff] at h
  obtain ⟨found, rfl, h⟩ := h
  cases h
  exact reduced_same (Output.use rfl (hrequest found rfl).symm)

theorem reduced_userInput (hrequest : ∀ found, request = some found → run = some found.run)
    (h : reducer.userInput params request native = some result) :
    Reduced reducer run result := by
  unfold userInput at h
  simp only [Option.bind_eq_bind, Option.bind_eq_some_iff] at h
  obtain ⟨found, rfl, questions, _, prompts, _, h⟩ := h
  split at h
  · cases h
  · cases h
    exact reduced_same (Output.use rfl (hrequest found rfl).symm)

theorem reduced_turnCompleted (h : reducer.turnCompleted params run native method = some result) :
    Reduced reducer run result := by
  unfold turnCompleted at h
  simp only [Option.bind_eq_bind, Option.bind_eq_some_iff] at h
  obtain ⟨run, rfl, h⟩ := h
  have hcommands : ∀ handle text, (reducer.retireRun run).commands.find handle = some text →
      some handle.run = some run ∨ ∃ text, reducer.commands.find handle = some text := by
    intro handle text hfind
    exact .inr ⟨text, (Dict.find_retain_eq_some.mp hfind).1⟩
  split at h
  · cases h
    exact ⟨.terminal run _ _ rfl, hcommands⟩
  · cases h
    exact ⟨.malformed _ _, hcommands⟩

theorem reduced_reduceMethod (hrequest : ∀ found, request = some found → run = some found.run)
    (h : reducer.reduceMethod params run request native method = some result) :
    Reduced reducer run result := by
  unfold reduceMethod at h
  split at h
  · exact reduced_itemStarted h
  · exact reduced_messageDelta h
  · exact reduced_commandOutputDelta h
  · exact reduced_fileChangeOutputDelta h
  · exact reduced_completedItem h
  · exact reduced_commandApproval hrequest h
  · exact reduced_fileApproval hrequest h
  · exact reduced_userInput hrequest h
  · exact reduced_turnCompleted h
  · cases h
    exact reduced_same (Output.use rfl rfl)

/-- Whatever the message is, the reducer keeps to its run. -/
theorem reduced_reduce (reducer : Reducer) (native : String) (message : Value)
    (hrequest : ∀ found, request = some found → run = some found.run) :
    Reduced reducer run (reducer.reduce native message run request) := by
  unfold reduce
  split
  · next method _ =>
    show Reduced reducer run ((reducer.reduceMethod ((message.get "params").getD .null) run request
      native method).getD (reducer, [.malformed run method native]))
    cases h : reducer.reduceMethod ((message.get "params").getD .null) run request native
        method with
    | none => exact reduced_same (.malformed _ _)
    | some result => exact reduced_reduceMethod hrequest h
  · split
    · exact reduced_same Output.none
    · exact reduced_same (Output.use rfl rfl)

end Reducer

namespace Actor

variable {runtime : Runtime} {actor after : Actor} {run run' : ProviderRunHandle}

/-- The run is one of the active runs. -/
def Active (actor : Actor) (run : ProviderRunHandle) : Prop :=
  actor.runs.find (run.sessionId, run.nativeId) = some run

instance (actor : Actor) (run : ProviderRunHandle) : Decidable (Active actor run) :=
  inferInstanceAs (Decidable (actor.runs.find (run.sessionId, run.nativeId) = some run))

/-- The events follow the active runs, only active runs have requests or
commands, and a closed actor has no active run. -/
structure Tracked (actor : Actor) : Prop where
  keys : ∀ key run, actor.runs.find key = some run → key = (run.sessionId, run.nativeId)
  lives : ∀ run, follows (markOf run) actor.events false = some (decide (Active actor run))
  requests : ∀ request pending, actor.serverRequests.find request = some pending →
    Active actor request.run
  commands : ∀ handle text, actor.reducer.commands.find handle = some text →
    Active actor handle.run
  settled : actor.closed → ∀ key, actor.runs.find key = none

theorem Tracked.active_of_find (tracked : Tracked actor) {key : String × String}
    (h : actor.runs.find key = some run) : Active actor run := by
  unfold Active
  rw [← tracked.keys key run h]
  exact h

/-! ## What leaves the runs alone -/

/-- Nothing that the lifecycle of a run is about has changed. -/
structure SameRuns (actor after : Actor) : Prop where
  runs : after.runs = actor.runs
  serverRequests : after.serverRequests = actor.serverRequests
  reducer : after.reducer = actor.reducer
  events : after.events = actor.events
  closed : after.closed = actor.closed

theorem SameRuns.refl (actor : Actor) : SameRuns actor actor := ⟨rfl, rfl, rfl, rfl, rfl⟩

theorem SameRuns.trans {last : Actor} (h : SameRuns actor after) (h' : SameRuns after last) :
    SameRuns actor last :=
  ⟨h'.runs.trans h.runs, h'.serverRequests.trans h.serverRequests, h'.reducer.trans h.reducer,
    h'.events.trans h.events, h'.closed.trans h.closed⟩

theorem Tracked.same (tracked : Tracked actor) (same : SameRuns actor after) : Tracked after := by
  have hactive : ∀ run, Active after run ↔ Active actor run := by
    intro run
    unfold Active
    rw [same.runs]
  refine ⟨?_, ?_, ?_, ?_, ?_⟩
  · intro key run h
    rw [same.runs] at h
    exact tracked.keys key run h
  · intro run
    rw [same.events, tracked.lives run]
    exact congrArg some (decide_eq_decide.mpr (hactive run)).symm
  · intro request pending h
    rw [same.serverRequests] at h
    exact (hactive _).mpr (tracked.requests request pending h)
  · intro handle text h
    rw [same.reducer] at h
    exact (hactive _).mpr (tracked.commands handle text h)
  · intro hclosed
    rw [same.closed] at hclosed
    rw [same.runs]
    exact tracked.settled hclosed

theorem sameRuns_settleLoginStart (result : Except HarnessError HarnessAccountStatus) :
    SameRuns actor (actor.settleLoginStart result) := by
  unfold settleLoginStart
  split
  · exact ⟨rfl, rfl, rfl, rfl, rfl⟩
  · exact ⟨rfl, rfl, rfl, rfl, rfl⟩

theorem sameRuns_completeClientRequest (pending : PendingClient)
    (result : Except HarnessError Value) :
    SameRuns actor (actor.completeClientRequest pending result) := by
  unfold completeClientRequest
  split
  · exact sameRuns_settleLoginStart _
  · split
    · exact ⟨rfl, rfl, rfl, rfl, rfl⟩
    · exact SameRuns.refl actor

theorem Tracked.complete (tracked : Tracked actor) (pending : PendingClient)
    (result : Except HarnessError Value) : Tracked (actor.completeClientRequest pending result) :=
  tracked.same (sameRuns_completeClientRequest pending result)

theorem Tracked.diagnostic (tracked : Tracked actor) (value : String) :
    Tracked (actor.pushDiagnostic value) :=
  tracked.same ⟨rfl, rfl, rfl, rfl, rfl⟩

theorem sameRuns_loginCompleted (value : Value) :
    SameRuns actor (actor.loginCompleted runtime value) := by
  unfold loginCompleted
  split
  · exact ⟨rfl, rfl, rfl, rfl, rfl⟩
  · split
    · exact ⟨rfl, rfl, rfl, rfl, rfl⟩
    · split
      · exact ⟨rfl, rfl, rfl, rfl, rfl⟩
      · exact SameRuns.refl actor
    · exact SameRuns.refl actor

theorem sameRuns_accountUpdated (value : Value) :
    SameRuns actor (actor.accountUpdated runtime value) := by
  unfold accountUpdated
  split
  · split
    · exact ⟨rfl, rfl, rfl, rfl, rfl⟩
    · exact ⟨rfl, rfl, rfl, rfl, rfl⟩
  · exact ⟨rfl, rfl, rfl, rfl, rfl⟩

/-! ## The three changes of a run -/

/-- An event that uses active runs only. -/
theorem Tracked.emit (tracked : Tracked actor) {event : NativeEvent}
    (huse : event.event.isUse) (hactive : ∀ run, event.event.run = some run → Active actor run) :
    Tracked (actor.emit event) where
  keys := tracked.keys
  lives := by
    intro run
    show follows (markOf run) (actor.events ++ [event]) false = _
    rw [follows_concat (tracked.lives run)]
    by_cases hrun : event.event.run = some run
    · rw [markOf_use huse hrun, decide_eq_true (hactive run hrun)]
      exact congrArg some (decide_eq_true (hactive run hrun)).symm
    · rw [markOf_other hrun]
      rfl
  requests := tracked.requests
  commands := tracked.commands
  settled := tracked.settled

theorem active_retire {state : HarnessRunTerminal} {native : String} (hactive : Active actor run) :
    Active (actor.emitTerminalAndRetire run state native) run' ↔
      Active actor run' ∧ run' ≠ run := by
  show (actor.runs.remove (run.sessionId, run.nativeId)).find (run'.sessionId, run'.nativeId) =
    some run' ↔ _
  rw [Dict.find_remove]
  split
  · next hkey =>
    constructor
    · intro h
      cases h
    · rintro ⟨hactive', hne⟩
      unfold Active at hactive hactive'
      rw [hkey, hactive] at hactive'
      cases hactive'
      exact absurd rfl hne
  · next hkey =>
    constructor
    · intro h
      refine ⟨h, ?_⟩
      rintro rfl
      exact hkey rfl
    · exact fun h => h.1

/-- The terminal event of an active run retires it everywhere. -/
theorem Tracked.retire (tracked : Tracked actor) (hactive : Active actor run)
    (state : HarnessRunTerminal) (native : String) :
    Tracked (actor.emitTerminalAndRetire run state native) where
  keys := by
    intro key run' h
    have h : (actor.runs.remove (run.sessionId, run.nativeId)).find key = some run' := h
    rw [Dict.find_remove] at h
    split at h
    · cases h
    · exact tracked.keys key run' h
  lives := by
    intro run'
    show follows (markOf run') (actor.events ++ [⟨.runTerminal run state, native⟩]) false = _
    rw [follows_concat (tracked.lives run')]
    by_cases heq : run' = run
    · rw [heq, decide_eq_true hactive]
      have hnot : ¬ Active (actor.emitTerminalAndRetire run state native) run :=
        fun h => ((active_retire hactive).mp h).2 rfl
      rw [decide_eq_false hnot, markOf_terminal]
      rfl
    · have hrun : (NativeEvent.mk (.runTerminal run state) native).event.run ≠ some run' := by
        intro h
        exact heq (Option.some.inj h).symm
      rw [markOf_other hrun]
      apply congrArg some
      apply decide_eq_decide.mpr
      rw [active_retire hactive]
      exact ⟨fun h => ⟨h, heq⟩, fun h => h.1⟩
  requests := by
    intro request pending h
    obtain ⟨h, hne⟩ := Dict.find_retain_eq_some.mp h
    exact (active_retire hactive).mpr ⟨tracked.requests request pending h, by simpa using hne⟩
  commands := by
    intro handle text h
    obtain ⟨h, hne⟩ := Dict.find_retain_eq_some.mp h
    exact (active_retire hactive).mpr ⟨tracked.commands handle text h, by simpa using hne⟩
  settled := by
    intro hclosed key
    show (actor.runs.remove (run.sessionId, run.nativeId)).find key = none
    rw [Dict.find_remove, tracked.settled hclosed key, ite_self]

/-- A run whose key is free is accepted. -/
theorem Tracked.accept (tracked : Tracked actor) (run : ProviderRunHandle) (native : String)
    (hopen : actor.closed = false)
    (hfree : actor.runs.find (run.sessionId, run.nativeId) = none) :
    Tracked ({ actor with runs := actor.runs.set (run.sessionId, run.nativeId) run }.emit
      ⟨.runAccepted run, native⟩) := by
  have hactive : ∀ run', Active ({ actor with
      runs := actor.runs.set (run.sessionId, run.nativeId) run }.emit ⟨.runAccepted run, native⟩)
        run' ↔ run' = run ∨ Active actor run' := by
    intro run'
    show (actor.runs.set (run.sessionId, run.nativeId) run).find _ = some run' ↔ _
    rw [Dict.find_set]
    split
    · next hkey =>
      constructor
      · intro h
        cases h
        exact .inl rfl
      · rintro (rfl | h)
        · rfl
        · unfold Active at h
          rw [hkey, hfree] at h
          cases h
    · next hkey =>
      constructor
      · exact .inr
      · rintro (rfl | h)
        · exact absurd rfl hkey
        · exact h
  refine ⟨?_, ?_, ?_, ?_, ?_⟩
  · intro key run' h
    have h : (actor.runs.set (run.sessionId, run.nativeId) run).find key = some run' := h
    rw [Dict.find_set] at h
    split at h
    · next hkey =>
      cases h
      exact hkey
    · exact tracked.keys key run' h
  · intro run'
    show follows (markOf run') (actor.events ++ [⟨.runAccepted run, native⟩]) false = _
    rw [follows_concat (tracked.lives run')]
    by_cases heq : run' = run
    · rw [heq]
      have hnot : ¬ Active actor run := by
        intro h
        unfold Active at h
        rw [hfree] at h
        cases h
      rw [decide_eq_false hnot, decide_eq_true ((hactive run).mpr (.inl rfl)), markOf_accepted]
      rfl
    · have hrun : (NativeEvent.mk (.runAccepted run) native).event.run ≠ some run' := by
        intro h
        exact heq (Option.some.inj h).symm
      rw [markOf_other hrun]
      apply congrArg some
      apply decide_eq_decide.mpr
      rw [hactive]
      exact ⟨.inr, fun h => h.resolve_left heq⟩
  · intro request pending h
    exact (hactive _).mpr (.inr (tracked.requests request pending h))
  · intro handle text h
    exact (hactive _).mpr (.inr (tracked.commands handle text h))
  · intro hclosed
    cases hopen.symm.trans hclosed

/-! ## Messages -/

/-- The reducer's state changes for the benefit of an active run. -/
theorem Tracked.reducer (tracked : Tracked actor) {reducer : Reducer}
    (hcommands : ∀ handle text, reducer.commands.find handle = some text →
      Active actor handle.run) : Tracked { actor with reducer := reducer } :=
  ⟨tracked.keys, tracked.lives, tracked.requests, hcommands, tracked.settled⟩

theorem Tracked.endMalformed (tracked : Tracked actor) {run : Option ProviderRunHandle}
    (hactive : ∀ found, run = some found → Active actor found) :
    Tracked (actor.endMalformed run) := by
  unfold Actor.endMalformed
  split
  · next found => exact tracked.retire (hactive found rfl) _ _
  · exact tracked

theorem dispatch_plain {completesRun : Bool} {run : Option ProviderRunHandle} {event : NativeEvent}
    (hplain : event.event.isPlain) : dispatch completesRun run actor event = actor.emit event := by
  obtain ⟨event, native⟩ := event
  cases event with
  | runTerminal run state => cases hplain
  | malformed run itemType native => cases hplain
  | runAccepted run => rfl
  | messageDelta run chunk => rfl
  | messageCompleted run text => rfl
  | approvalRequested request summary => rfl
  | userInputRequested request prompt => rfl
  | fileMutation run path summary => rfl
  | commandOutputDelta run command commandText chunk => rfl
  | commandOutputCompleted run command commandText output => rfl
  | unknown run itemType native => rfl

theorem Tracked.dispatch (tracked : Tracked actor) {run : Option ProviderRunHandle}
    {events : List NativeEvent} (hactive : ∀ found, run = some found → Active actor found)
    (output : Output run events) (completesRun : Bool) :
    Tracked (events.foldl (dispatch completesRun run) actor) := by
  cases output with
  | terminal ended state native h => exact tracked.retire (hactive ended h) state native
  | malformed itemType native =>
      have hemit : Tracked (actor.emit (.malformed run itemType native)) :=
        tracked.emit rfl fun found h => hactive found h
      cases completesRun with
      | true => exact hemit.endMalformed hactive
      | false => exact hemit
  | uses events h =>
      induction events generalizing actor with
      | nil => exact tracked
      | cons event rest ih =>
          obtain ⟨hplain, hrun⟩ := h event List.mem_cons_self
          rw [List.foldl_cons, dispatch_plain hplain]
          have hemit : Tracked (actor.emit event) :=
            tracked.emit (HarnessEvent.isUse_of_isPlain hplain) fun found hfound =>
              hactive found (hrun.symm.trans hfound)
          exact ih hemit hactive fun event hmem => h event (List.mem_cons_of_mem _ hmem)

theorem Tracked.reduceMessage (tracked : Tracked actor) (method native : String) (value : Value)
    {run : Option ProviderRunHandle} {request : Option ProviderRequestHandle}
    (hactive : ∀ found, run = some found → Active actor found)
    (hrequest : ∀ found, request = some found → run = some found.run) :
    Tracked (actor.reduceMessage method native value run request) := by
  have reduced := Reducer.reduced_reduce actor.reducer native value hrequest
  unfold Actor.reduceMessage
  apply Tracked.dispatch
  · apply tracked.reducer
    intro handle text h
    rcases reduced.commands handle text h with hrun | ⟨text', hold⟩
    · exact hactive _ hrun.symm
    · exact tracked.commands handle text' hold
  · exact hactive
  · exact reduced.output

theorem Tracked.active_of_message (tracked : Tracked actor) {value : Value} :
    ∀ found, runForMessage value actor.runs = some found → Active actor found := by
  intro found h
  obtain ⟨key, _, hfind⟩ := Option.bind_eq_some_iff.mp h
  exact tracked.active_of_find hfind

/-- A request that is accepted belongs to the run of its message. -/
theorem run_of_validateServerRequest {value : Value} {run : Option ProviderRunHandle}
    {requests : Dict ProviderRequestHandle PendingServer} {handle : ProviderRequestHandle}
    {pending : PendingServer}
    (h : validateServerRequest value run requests = .ok (handle, pending)) :
    run = some handle.run := by
  unfold validateServerRequest at h
  obtain ⟨method, _, h⟩ := bind_eq_ok.mp h
  obtain ⟨kind, _, h⟩ := bind_eq_ok.mp h
  obtain ⟨found, hrun, h⟩ := bind_eq_ok.mp h
  obtain ⟨rpcId, _, h⟩ := bind_eq_ok.mp h
  obtain ⟨nativeId, _, h⟩ := bind_eq_ok.mp h
  dsimp only at h
  split at h
  · cases h
  · cases h
    exact orReject_eq_ok.mp hrun

theorem Tracked.handleMessage (tracked : Tracked actor) {writable : Bool} {raw method : String}
    {value : Value} (h : actor.handleMessage runtime writable raw value method = .ok after) :
    Tracked after := by
  unfold Actor.handleMessage at h
  simp only at h
  split at h
  · split at h
    · next handle pending hok =>
      cases h
      have hrun := run_of_validateServerRequest hok
      apply Tracked.reduceMessage
      · refine ⟨tracked.keys, tracked.lives, ?_, tracked.commands, tracked.settled⟩
        intro request pending' hfind
        rw [Dict.find_set] at hfind
        split at hfind
        · next heq =>
          rw [heq]
          exact tracked.active_of_message _ hrun
        · exact tracked.requests request pending' hfind
      · exact tracked.active_of_message
      · intro found heq
        cases heq
        exact hrun
    · next rejection _ =>
      split at h
      · cases h
        apply Tracked.emit
        · exact tracked.same ⟨rfl, rfl, rfl, rfl, rfl⟩
        · unfold rejectionEvent
          split
          · rfl
          · rfl
        · intro found hfound
          apply tracked.active_of_message
          rw [← hfound]
          unfold rejectionEvent
          split
          · rfl
          · rfl
      · cases h
  · split at h
    · cases h
      apply tracked.emit rfl
      intro found hfound
      cases hfound
    · cases h
      apply tracked.reduceMessage
      · exact tracked.active_of_message
      · intro found heq
        cases heq

/-! ## Responses -/

/-- The turn that a frame starts, as the key of its run: it is a valid response
to a pending start of a run. -/
def startedTurn (runtime : Runtime) (actor : Actor) (value : Value) :
    Option (String × String) := do
  if (value.get "method").isSome then none
  let id ← (value.get "id").bind Value.asU64
  let pending ← actor.pending.find id
  let result := runtime.sanitizer.sanitizeValue (← value.get "result")
  if (value.get "error").isSome || !validResponseResult pending.kind result then none
  match pending.kind with
  | .startRun sessionId =>
      return (sessionId.value, ← (result.get "turn").bind (·.str "id"))
  | _ => none

theorem startedTurn_eq {value result : Value} {id : Nat} {pending : PendingClient}
    {sessionId : ProviderComponent} {turnId : String} (hmethod : (value.get "method").isNone)
    (hid : (value.get "id").bind Value.asU64 = some id)
    (hpending : actor.pending.find id = some pending) (hresult : value.get "result" = some result)
    (hvalid : ¬ ((value.get "error").isSome ||
      !validResponseResult pending.kind (runtime.sanitizer.sanitizeValue result)) = true)
    (hkind : pending.kind = .startRun sessionId)
    (hturn : ((runtime.sanitizer.sanitizeValue result).get "turn").bind (·.str "id") =
      some turnId) :
    startedTurn runtime actor value = some (sessionId.value, turnId) := by
  rw [hkind] at hvalid
  rw [Option.isNone_iff_eq_none] at hmethod
  rw [Bool.not_eq_true, Bool.or_eq_false_iff, Bool.not_eq_false'] at hvalid
  simp [startedTurn, hmethod, hid, hpending, hresult, hvalid.1, hvalid.2, hkind, hturn]

theorem tracked_acknowledge (tracked : Tracked actor) (hopen : actor.closed = false)
    {kind : RequestKind} {raw : String}
    {result : Value}
    (hfree : ∀ sessionId turnId, kind = .startRun sessionId →
      (result.get "turn").bind (·.str "id") = some turnId →
        actor.runs.find (sessionId.value, turnId) = none) :
    Tracked (actor.acknowledge runtime kind raw result) := by
  unfold acknowledge
  cases kind with
  | session expectedThreadId =>
      dsimp only
      split
      · exact tracked.same ⟨rfl, rfl, rfl, rfl, rfl⟩
      · exact tracked
  | startRun sessionId =>
      dsimp only
      split
      · next turnId hturn =>
        obtain ⟨text, htext, hnew⟩ := Option.bind_eq_some_iff.mp hturn
        have hvalue : turnId.value = text := by
          unfold ProviderComponent.new at hnew
          split at hnew
          · cases hnew
            rfl
          · cases hnew
        apply tracked.accept (ProviderRunHandle.new runtime.handle sessionId turnId) _ hopen
        show actor.runs.find (sessionId.value, turnId.value) = none
        rw [hvalue]
        exact hfree sessionId text rfl htext
      · exact tracked
  | accountRead =>
      dsimp only
      split
      · exact tracked
      · exact tracked.same ⟨rfl, rfl, rfl, rfl, rfl⟩
  | accountLogout => exact tracked.same ⟨rfl, rfl, rfl, rfl, rfl⟩
  | emptyObject => exact tracked
  | accountLoginStart => exact tracked
  | threadList => exact tracked
  | turnSteer expectedTurnId => exact tracked

theorem tracked_handleResponse (tracked : Tracked actor) (hopen : actor.closed = false)
    {raw : String} {value : Value}
    (hmethod : (value.get "method").isNone)
    (hfree : ∀ key, startedTurn runtime actor value = some key → actor.runs.find key = none) :
    Tracked (actor.handleResponse runtime raw value) := by
  unfold handleResponse
  split
  · exact tracked
  · next id hid =>
    split
    · exact tracked
    · next pending hpending =>
      have tracked' : Tracked { actor with pending := actor.pending.remove id } :=
        tracked.same ⟨rfl, rfl, rfl, rfl, rfl⟩
      unfold answerPending
      split
      · exact (tracked'.diagnostic _).complete _ _
      · exact (tracked'.diagnostic _).complete _ _
      · next error result hresult =>
        dsimp only
        split
        · exact (tracked'.diagnostic _).complete _ _
        · next hvalid =>
          split
          · exact (tracked'.diagnostic _).complete _ _
          · apply Tracked.complete
            apply tracked_acknowledge tracked' hopen
            intro sessionId turnId hkind hturn
            exact hfree _ (startedTurn_eq hmethod hid hpending hresult hvalid hkind hturn)

/-! ## Settlement -/

theorem sameRuns_settlePending (entries : List (Nat × PendingClient)) (actor : Actor) :
    SameRuns actor (entries.foldl (fun actor entry => actor.settlePending entry.2) actor) := by
  induction entries generalizing actor with
  | nil => exact SameRuns.refl actor
  | cons entry rest ih =>
      have hentry : SameRuns actor (actor.settlePending entry.2) := by
        unfold settlePending
        split
        · exact ⟨rfl, rfl, rfl, rfl, rfl⟩
        · exact SameRuns.refl actor
      exact hentry.trans (ih _)

/-- Ending listed runs one after another leaves none of them. -/
theorem tracked_retireAll (tracked : Tracked actor) (state : HarnessRunTerminal)
    (native : String) (entries : List ((String × String) × ProviderRunHandle))
    (hnodup : (entries.map (·.1)).Nodup)
    (hfind : ∀ key run, (key, run) ∈ entries → actor.runs.find key = some run) :
    Tracked (entries.foldl (fun actor entry =>
      actor.emitTerminalAndRetire entry.2 state native) actor) ∧
    ∀ key, (entries.foldl (fun actor entry =>
      actor.emitTerminalAndRetire entry.2 state native) actor).runs.find key =
        if key ∈ entries.map (·.1) then none else actor.runs.find key := by
  induction entries generalizing actor with
  | nil => exact ⟨tracked, fun key => rfl⟩
  | cons entry rest ih =>
      obtain ⟨key, run⟩ := entry
      rw [List.map_cons, List.nodup_cons] at hnodup
      have hrun := hfind key run List.mem_cons_self
      have hkey := tracked.keys key run hrun
      have hremove : ∀ key', (actor.emitTerminalAndRetire run state native).runs.find key' =
          if key' = key then none else actor.runs.find key' := by
        intro key'
        show (actor.runs.remove (run.sessionId, run.nativeId)).find key' = _
        rw [← hkey, Dict.find_remove]
      have hrest : ∀ key' run', (key', run') ∈ rest →
          (actor.emitTerminalAndRetire run state native).runs.find key' = some run' := by
        intro key' run' hmem
        have hne : key' ≠ key := by
          rintro rfl
          exact hnodup.1 (List.mem_map.mpr ⟨(key', run'), hmem, rfl⟩)
        rw [hremove, if_neg hne]
        exact hfind key' run' (List.mem_cons_of_mem _ hmem)
      obtain ⟨htracked, hruns⟩ :=
        ih (tracked.retire (tracked.active_of_find hrun) state native) hnodup.2 hrest
      refine ⟨htracked, ?_⟩
      intro key'
      rw [List.foldl_cons, hruns key', hremove key', List.map_cons]
      by_cases heq : key' = key
      · rw [if_pos heq, ite_self, if_pos (List.mem_cons.mpr (.inl heq))]
      · rw [if_neg heq]
        exact if_congr (by simp [heq]) rfl rfl

/-- A settlement ends every run. -/
theorem tracked_settleRuntime (tracked : Tracked actor) (arrival : Arrival)
    (settlement : Settlement) :
    Tracked (actor.settleRuntime runtime arrival settlement) ∧
      ∀ key, (actor.settleRuntime runtime arrival settlement).runs.find key = none := by
  unfold settleRuntime
  have drained : SameRuns actor { actor with pending := ∅ } := ⟨rfl, rfl, rfl, rfl, rfl⟩
  have same : SameRuns actor ((actor.pending.inOrder arrival.pendingOrder).foldl
      (fun actor entry => actor.settlePending entry.2) { actor with pending := ∅ }) :=
    drained.trans (sameRuns_settlePending _ _)
  revert same
  generalize (actor.pending.inOrder arrival.pendingOrder).foldl
    (fun actor entry => actor.settlePending entry.2) { actor with pending := ∅ } = settled
  intro same
  have htracked := tracked.same same
  have hcleared : Tracked { settled with serverRequests := ∅ } := by
    refine ⟨htracked.keys, htracked.lives, ?_, htracked.commands, htracked.settled⟩
    intro request pending h
    rw [Dict.find_empty] at h
    cases h
  obtain ⟨hretired, hruns⟩ := tracked_retireAll hcleared
    (settlement.terminal runtime.sanitizer).1 (settlement.terminal runtime.sanitizer).2
    (settled.runs.inOrder arrival.runOrder) (Dict.nodup_inOrder _)
    (fun key run hmem => Dict.mem_inOrder.mp hmem)
  refine ⟨hretired, ?_⟩
  intro key
  refine (hruns key).trans ?_
  split
  · rfl
  · next hout =>
    cases hfind : settled.runs.find key with
    | none => rfl
    | some run =>
        have hmem : (key, run) ∈ settled.runs.inOrder arrival.runOrder :=
          Dict.mem_inOrder.mpr hfind
        exact absurd (List.mem_map.mpr ⟨(key, run), hmem, rfl⟩) hout

theorem tracked_close (tracked : Tracked actor) (hempty : ∀ key, actor.runs.find key = none) :
    Tracked actor.close :=
  ⟨tracked.keys, tracked.lives, tracked.requests, tracked.commands, fun _ => hempty⟩

theorem tracked_exit (tracked : Tracked actor) (arrival : Arrival) (settlement : Settlement) :
    Tracked (actor.exit runtime arrival settlement) := by
  obtain ⟨hsettled, hempty⟩ := tracked_settleRuntime tracked arrival settlement
  exact tracked_close hsettled hempty

/-! ## Commands -/

theorem tracked_handleRequest (tracked : Tracked actor) (arrival : Arrival)
    (request : ClientRequest) : Tracked (actor.handleRequest runtime arrival request) := by
  unfold handleRequest
  split
  · exact tracked.same ⟨rfl, rfl, rfl, rfl, rfl⟩
  · dsimp only
    split
    · exact tracked.same ⟨rfl, rfl, rfl, rfl, rfl⟩
    · apply tracked_exit
      exact tracked.same ⟨rfl, rfl, rfl, rfl, rfl⟩

theorem tracked_handleRespond (tracked : Tracked actor) (arrival : Arrival)
    (request : ProviderRequestHandle) (response : ProviderResponse) :
    Tracked (actor.handleRespond runtime arrival request response) := by
  unfold handleRespond
  split
  · exact tracked.same ⟨rfl, rfl, rfl, rfl, rfl⟩
  · next pending hpending =>
    split
    · exact tracked.same ⟨rfl, rfl, rfl, rfl, rfl⟩
    · split
      · exact tracked.same ⟨rfl, rfl, rfl, rfl, rfl⟩
      · dsimp only
        split
        · refine ⟨tracked.keys, tracked.lives, ?_, tracked.commands, tracked.settled⟩
          intro request' pending' hfind
          have hfind : (actor.serverRequests.remove request).find request' = some pending' := hfind
          rw [Dict.find_remove] at hfind
          split at hfind
          · cases hfind
          · exact tracked.requests request' pending' hfind
        · apply tracked_exit
          refine ⟨tracked.keys, tracked.lives, ?_, tracked.commands, tracked.settled⟩
          intro request' pending' hfind
          have hfind : (actor.serverRequests.set request { pending with uncertain := true }).find
            request' = some pending' := hfind
          rw [Dict.find_set] at hfind
          split at hfind
          · next heq =>
            rw [heq]
            exact tracked.requests request pending hpending
          · exact tracked.requests request' pending' hfind

theorem tracked_sendLoginStart (tracked : Tracked actor) (arrival : Arrival) :
    Tracked (actor.sendLoginStart runtime arrival) := by
  unfold sendLoginStart
  dsimp only
  split
  · exact tracked.same ⟨rfl, rfl, rfl, rfl, rfl⟩
  · apply tracked_exit
    refine Tracked.same ?_ (sameRuns_settleLoginStart _)
    exact tracked.same ⟨rfl, rfl, rfl, rfl, rfl⟩

theorem tracked_handleLoginStart (tracked : Tracked actor) (arrival : Arrival) :
    Tracked (actor.handleLoginStart runtime arrival) := by
  unfold handleLoginStart
  split
  · exact tracked.same ⟨rfl, rfl, rfl, rfl, rfl⟩
  · exact tracked.same ⟨rfl, rfl, rfl, rfl, rfl⟩
  · exact tracked_sendLoginStart tracked arrival
  · exact tracked_sendLoginStart tracked arrival

theorem tracked_handleCommand (tracked : Tracked actor) (arrival : Arrival)
    (message : CommandMessage) : Tracked (actor.handleCommand runtime arrival message) := by
  cases message with
  | request request => exact tracked_handleRequest tracked arrival request
  | respond request response => exact tracked_handleRespond tracked arrival request response
  | diagnostics => exact tracked.same ⟨rfl, rfl, rfl, rfl, rfl⟩
  | recordDiagnostic diagnostic => exact tracked.diagnostic diagnostic
  | health => exact tracked.same ⟨rfl, rfl, rfl, rfl, rfl⟩
  | accountLoginStatus => exact tracked.same ⟨rfl, rfl, rfl, rfl, rfl⟩
  | accountLoginStart => exact tracked_handleLoginStart tracked arrival
  | shutdown =>
      have hsettlement : Tracked (actor.settleRuntime runtime arrival .shutdown) ∧
          ∀ key, (actor.settleRuntime runtime arrival .shutdown).runs.find key = none :=
        tracked_settleRuntime tracked arrival .shutdown
      obtain ⟨hsettled, hempty⟩ := hsettlement
      have hreplied : Tracked ((actor.settleRuntime runtime arrival .shutdown).reply actor.round
          .shutdown) := hsettled.same ⟨rfl, rfl, rfl, rfl, rfl⟩
      exact tracked_close hreplied hempty

/-! ## The loop -/

/-- The provider starts a turn under an id that is active in its session. -/
def reusesActive (runtime : Runtime) (actor : Actor) (arrival : Arrival) : Bool :=
  match arrival.input with
  | .inbound (.frame _ value) =>
      !actor.closed &&
        (startedTurn runtime actor value).any fun key => (actor.runs.find key).isSome
  | _ => false

/-- The provider never does. -/
def noActiveReuse (runtime : Runtime) : Actor → List Arrival → Bool
  | _, [] => true
  | actor, arrival :: rest =>
      !reusesActive runtime actor arrival && noActiveReuse runtime (actor.step runtime arrival) rest

theorem free_of_not_reusesActive {arrival : Arrival} {raw : String} {value : Value}
    (hinput : arrival.input = .inbound (.frame raw value)) (hopen : actor.closed = false)
    (hfresh : reusesActive runtime actor arrival = false) {key : String × String}
    (hkey : startedTurn runtime actor value = some key) : actor.runs.find key = none := by
  unfold reusesActive at hfresh
  rw [hinput] at hfresh
  simpa [hopen, hkey] using hfresh

theorem tracked_handleInbound (tracked : Tracked actor) (hopen : actor.closed = false)
    {arrival : Arrival} {inbound : Inbound} (hinput : arrival.input = .inbound inbound)
    (hfresh : reusesActive runtime actor arrival = false) :
    Tracked (actor.handleInbound runtime arrival inbound) := by
  cases inbound with
  | frame raw value =>
      unfold handleInbound
      dsimp only
      split
      · next after h =>
        unfold handleFrame at h
        split at h
        · next hmethod =>
          cases h
          apply tracked_handleResponse tracked hopen hmethod
          intro key hkey
          exact free_of_not_reusesActive hinput hopen hfresh hkey
        · split at h
          · cases h
            exact tracked.same (sameRuns_loginCompleted value)
          · split at h
            · cases h
              exact tracked.same (sameRuns_accountUpdated value)
            · exact tracked.handleMessage h
      · exact tracked_exit tracked arrival .crashed
  | malformed raw =>
      apply (tracked.diagnostic _).emit rfl
      intro run hrun
      cases hrun
  | oversized start =>
      apply (tracked.diagnostic _).emit rfl
      intro run hrun
      cases hrun
  | stderr chunk => exact tracked.diagnostic _
  | eof => exact tracked_exit tracked arrival .crashed

/-- One round of the loop keeps track of the runs. -/
theorem tracked_step (tracked : Tracked actor) {arrival : Arrival}
    (hfresh : reusesActive runtime actor arrival = false) :
    Tracked (actor.step runtime arrival) := by
  have hinput : Tracked (actor.handleInput runtime arrival) := by
    unfold handleInput
    split
    · unfold abandon
      split
      · exact tracked
      · exact tracked
      · exact tracked
      · exact tracked.same ⟨rfl, rfl, rfl, rfl, rfl⟩
    · next hopen =>
      split
      · next message _ => exact tracked_handleCommand tracked arrival message
      · exact tracked_exit tracked arrival .shutdown
      · next inbound hinbound =>
        exact tracked_handleInbound tracked (Bool.eq_false_iff.mpr hopen) hinbound hfresh
  exact hinput.same ⟨rfl, rfl, rfl, rfl, rfl⟩

theorem tracked_init : Tracked {} where
  keys := by
    intro key run h
    rw [Dict.find_empty] at h
    cases h
  lives := fun run => rfl
  requests := by
    intro request pending h
    rw [Dict.find_empty] at h
    cases h
  commands := by
    intro handle text h
    rw [Dict.find_empty] at h
    cases h
  settled := by
    intro h
    cases h

/-- The loop keeps track of the native runs. -/
theorem tracked_foldl {arrivals : List Arrival} (tracked : Tracked actor)
    (hfresh : noActiveReuse runtime actor arrivals) :
    Tracked (arrivals.foldl (step runtime) actor) := by
  induction arrivals generalizing actor with
  | nil => exact tracked
  | cons arrival rest ih =>
      unfold noActiveReuse at hfresh
      rw [Bool.and_eq_true, Bool.not_eq_true'] at hfresh
      exact ih (tracked_step tracked hfresh.1) hfresh.2

/-- The run has been accepted and has not ended since. -/
def Running (run : ProviderRunHandle) (events : List NativeEvent) : Prop :=
  ∃ before first during, events = before ++ first :: during ∧ markOf run first = some .opens ∧
    ∀ event ∈ during, Mark.Quiet (markOf run event)

/-- Where the provider reuses no active turn id, only a run that is accepted and
has not ended has requests or commands, and once the loop is left the events
that name a run are lives of it: each begins with its acceptance and ends with
one terminal event, and no event names the run outside of them. -/
theorem run_lives {arrivals : List Arrival} (hfresh : noActiveReuse runtime {} arrivals)
    (run : ProviderRunHandle) :
    ((∃ request pending, request.run = run ∧
        (Actor.run runtime arrivals).serverRequests.find request = some pending) ∨
      (∃ handle text, handle.run = run ∧
        (Actor.run runtime arrivals).reducer.commands.find handle = some text) →
      Running run (Actor.run runtime arrivals).events) ∧
    ((Actor.run runtime arrivals).closed →
      Lived (markOf run) (Actor.run runtime arrivals).events) := by
  have tracked : Tracked (Actor.run runtime arrivals) := tracked_foldl tracked_init hfresh
  constructor
  · intro h
    have hactive : Active (Actor.run runtime arrivals) run := by
      rcases h with ⟨request, pending, rfl, hfind⟩ | ⟨handle, text, rfl, hfind⟩
      · exact tracked.requests request pending hfind
      · exact tracked.commands handle text hfind
    have hlives := tracked.lives run
    rw [decide_eq_true hactive] at hlives
    exact opening_of_follows hlives
  · intro hclosed
    apply lived_of_follows
    rw [tracked.lives run]
    apply congrArg some
    apply decide_eq_false
    unfold Active
    rw [tracked.settled hclosed]
    intro h
    cases h

/-! ## A turn id that is used again -/

section Sample

def reuseRuntime : Runtime := ⟨⟨"codex-runtime", by decide +kernel⟩, ⟨[], none⟩⟩

def reuseRun : ProviderRunHandle := ⟨"codex-runtime", "thread-7", "turn-3", by decide +kernel⟩

def startTurn : Arrival where
  input := .command (.request ⟨"turn/start", .object [("threadId", .string "thread-7")], true,
    .startRun ⟨"thread-7", by decide +kernel⟩, fun h => by cases h⟩)

/-- A frame of the provider as it is printed. -/
def received (value : Value) : Arrival where
  input := .inbound (.frame value.toText value)

/-- The response that starts the sample turn. -/
def turnStarted (id : Int) : Arrival :=
  received (.object [("id", .number (.integer id)), ("result", .object [("turn", .object
    [("id", .string "turn-3"), ("items", .array []), ("status", .string "inProgress")])])])

def turnEnded : Arrival :=
  received (.object [("method", .string "turn/completed"), ("params", .object
    [("threadId", .string "thread-7"), ("turn", .object
      [("id", .string "turn-3"), ("status", .string "completed")])])])

/-- The provider uses the id of a finished turn again. -/
def reusedTurn : List Arrival :=
  [startTurn, turnStarted 2, turnEnded, startTurn, turnStarted 3, { input := .inbound .eof }]

set_option maxRecDepth 100000 in
/-- No active turn id is reused, yet one handle is ended twice. -/
theorem reusedTurn_ends_twice :
    ¬ ∀ (runtime : Runtime) (arrivals : List Arrival), noActiveReuse runtime {} arrivals →
      (Actor.run runtime arrivals).closed → ∀ run,
        (∃ event ∈ (Actor.run runtime arrivals).events, markOf run event = some .opens) →
        ((Actor.run runtime arrivals).events.filter fun event =>
          markOf run event = some .closes).length = 1 := by
  intro h
  have hone := h reuseRuntime reusedTurn (by decide +kernel) (by decide +kernel) reuseRun
    (by decide +kernel)
  have htwo : ((Actor.run reuseRuntime reusedTurn).events.filter fun event =>
      markOf reuseRun event = some .closes).length = 2 := by decide +kernel
  rw [htwo] at hone
  cases hone

set_option maxRecDepth 100000 in
/-- Both uses of the id are lives of the handle. -/
theorem reusedTurn_lives :
    Lived (markOf reuseRun) (Actor.run reuseRuntime reusedTurn).events := by
  have hfresh : noActiveReuse reuseRuntime {} reusedTurn := by decide +kernel
  exact (run_lives hfresh reuseRun).2 (by decide +kernel)

end Sample

end Actor

end YakShed.Codex
