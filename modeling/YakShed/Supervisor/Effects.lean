/-
# What an action leaves alone

Frame facts about single actions: the parts of the world an action cannot
touch, and what a store call can do. Later modules never unfold
`Act.effect` for an action they are not about.
-/

import YakShed.Store.Lifecycle
import YakShed.Supervisor.Programs

namespace YakShed

open Concurrent

variable {β : Type} {world world' : World} {oracle : Oracle} {answer : β}
  {spawned : List (Proc Unit)}

namespace World

@[simp] theorem note_state (world : World) (obs : Obs) : (world.note obs).state = world.state := rfl

@[simp] theorem note_db (world : World) (obs : Obs) : (world.note obs).db = world.db := rfl

@[simp] theorem setChannel_state (world : World) (id : ChannelId) (channel : Channel) :
    (world.setChannel id channel).state = world.state := rfl

@[simp] theorem setChannel_db (world : World) (id : ChannelId) (channel : Channel) :
    (world.setChannel id channel).db = world.db := rfl

@[simp] theorem openChannel_state (world : World) (held : Nat) :
    (world.openChannel held).state = world.state := rfl

@[simp] theorem openChannel_db (world : World) (held : Nat) :
    (world.openChannel held).db = world.db := rfl

@[simp] theorem withState_state (world : World) (state : State) :
    (world.withState state).state = state := rfl

@[simp] theorem withState_db (world : World) (state : State) :
    (world.withState state).db = world.db := rfl

@[simp] theorem setChannel_log (world : World) (id : ChannelId) (channel : Channel) :
    (world.setChannel id channel).log = world.log := rfl

@[simp] theorem withState_log (world : World) (state : State) :
    (world.withState state).log = world.log := rfl

@[simp] theorem trySend_log (world : World) (id : ChannelId) (event : RunHarnessEvent) :
    (world.trySend id event).2.log = world.log := by
  unfold trySend
  dsimp only
  split
  · rfl
  · split <;> rfl

@[simp] theorem cloneRoute_log (world : World) (provider : ProviderRunRef) :
    (world.cloneRoute provider).2.log = world.log := by
  unfold cloneRoute
  split <;> rfl

@[simp] theorem trySend_issued (world : World) (id : ChannelId) (event : RunHarnessEvent) :
    (world.trySend id event).2.issued = world.issued := by
  unfold trySend
  dsimp only
  split
  · rfl
  · split <;> rfl

@[simp] theorem cloneRoute_issued (world : World) (provider : ProviderRunRef) :
    (world.cloneRoute provider).2.issued = world.issued := by
  unfold cloneRoute
  split <;> rfl

@[simp] theorem trySend_state (world : World) (id : ChannelId) (event : RunHarnessEvent) :
    (world.trySend id event).2.state = world.state := by
  unfold trySend
  dsimp only
  split
  · rfl
  · split <;> rfl

@[simp] theorem trySend_db (world : World) (id : ChannelId) (event : RunHarnessEvent) :
    (world.trySend id event).2.db = world.db := by
  unfold trySend
  dsimp only
  split
  · rfl
  · split <;> rfl

@[simp] theorem cloneRoute_state (world : World) (provider : ProviderRunRef) :
    (world.cloneRoute provider).2.state = world.state := by
  unfold cloneRoute
  split <;> rfl

@[simp] theorem cloneRoute_db (world : World) (provider : ProviderRunRef) :
    (world.cloneRoute provider).2.db = world.db := by
  unfold cloneRoute
  split <;> rfl

end World

/-- Buffering an event changes no map of attached runs. -/
theorem State.bufferHandshakeEvent_frame (state : State) (order : List RunId)
    (provider : ProviderRunRef)
    (event : RunHarnessEvent) :
    let state' := state.bufferHandshakeEvent order provider event
    state'.runs = state.runs ∧ state'.runsByProvider = state.runsByProvider ∧
      state'.routes = state.routes ∧ state'.workItems = state.workItems ∧
      state'.approvals = state.approvals ∧ state'.userInputs = state.userInputs ∧
      state'.approvalResponses = state.approvalResponses := by
  unfold bufferHandshakeEvent
  repeat' split
  all_goals exact ⟨rfl, rfl, rfl, rfl, rfl, rfl, rfl⟩

/-! ## Channels -/

/-- What any action may do to the channels: open new ones, but never take back
that a receiver was moved or dropped. -/
structure World.ChannelStep (world world' : World) : Prop where
  next : world.nextChannel ≤ world'.nextChannel
  kept : ∀ id < world.nextChannel, (world.channels id).moved = true →
    (world'.channels id).moved = true
  closed : ∀ id < world.nextChannel, (world.channels id).receiver = false →
    (world'.channels id).receiver = false
  opened : ∀ id, (world'.channels id).receiver = true ∨ (world'.channels id).moved = true →
    ((world.channels id).receiver = true ∨ (world.channels id).moved = true) ∨
      id < world'.nextChannel

namespace World.ChannelStep

theorem of_eq (hchannels : world'.channels = world.channels)
    (hnext : world'.nextChannel = world.nextChannel) : world.ChannelStep world' where
  next := hnext.ge
  kept := fun _ _ => by rw [hchannels]; exact id
  closed := fun _ _ => by rw [hchannels]; exact id
  opened := fun _ => by rw [hchannels]; exact .inl

/-- One channel changes, without a new receiver. -/
theorem set {id : ChannelId} {channel : Channel}
    (hmoved : (world.channels id).moved = true → channel.moved = true)
    (hreceiver : channel.receiver = true → (world.channels id).receiver = true)
    (hopened : channel.moved = true →
      (world.channels id).receiver = true ∨ (world.channels id).moved = true) :
    world.ChannelStep (world.setChannel id channel) where
  next := le_rfl
  kept := by
    intro other _ hother
    by_cases heq : other = id
    · subst heq
      simpa [World.setChannel] using hmoved hother
    · simpa [World.setChannel, heq] using hother
  closed := by
    intro other _ hother
    by_cases heq : other = id
    · subst heq
      rw [← Bool.not_eq_true] at hother ⊢
      simpa [World.setChannel] using fun h => hother (hreceiver h)
    · simpa [World.setChannel, heq] using hother
  opened := by
    intro other hother
    by_cases heq : other = id
    · subst heq
      have hsame : channel.receiver = true ∨ channel.moved = true := by
        simpa [World.setChannel] using hother
      exact .inl (hsame.elim (fun h => .inl (hreceiver h)) hopened)
    · exact .inl (by simpa [World.setChannel, heq] using hother)

theorem openChannel (world : World) (held : Nat) : world.ChannelStep (world.openChannel held) where
  next := Nat.le_succ _
  kept := by
    intro other hlt hother
    simpa [World.openChannel, World.setChannel, Nat.ne_of_lt hlt] using hother
  closed := by
    intro other hlt hother
    simpa [World.openChannel, World.setChannel, Nat.ne_of_lt hlt] using hother
  opened := by
    intro other hother
    by_cases heq : other = world.nextChannel
    · subst heq
      exact .inr (Nat.lt_succ_self _)
    · exact .inl (by simpa [World.openChannel, World.setChannel, heq] using hother)

theorem trySend (world : World) (id : ChannelId) (event : RunHarnessEvent) :
    world.ChannelStep (world.trySend id event).2 := by
  unfold World.trySend
  dsimp only
  split
  · exact of_eq rfl rfl
  · split
    · exact of_eq rfl rfl
    · exact set (fun h => h) (fun h => h) .inr

theorem cloneRoute (world : World) (provider : ProviderRunRef) :
    world.ChannelStep (world.cloneRoute provider).2 := by
  unfold World.cloneRoute
  split
  · exact set (fun h => h) (fun h => h) .inr
  · exact of_eq rfl rfl

/-- Nothing that is not a channel matters. -/
theorem congr {after : World} (h : world.ChannelStep after)
    (hchannels : world'.channels = after.channels)
    (hnext : world'.nextChannel = after.nextChannel) :
    world.ChannelStep world' where
  next := hnext ▸ h.next
  kept := by rw [hchannels]; exact h.kept
  closed := by rw [hchannels]; exact h.closed
  opened := by rw [hchannels, hnext]; exact h.opened

theorem note {after : World} (h : world.ChannelStep after) (obs : Obs) :
    world.ChannelStep (after.note obs) :=
  h.congr rfl rfl

end World.ChannelStep

/-! ## Ports -/

/-- The harness leaves nothing but an entry in the log. -/
theorem HarnessCall.noted {call : HarnessCall β} {result : Except HarnessPortError β}
    (h : call.exec world oracle = some (result, world')) :
    ∃ log, world' = { world with log := log } := by
  cases call <;> cases oracle <;> simp only [HarnessCall.exec, reduceCtorEq] at h
  case respond.acknowledged =>
    split at h <;> (cases h; exact ⟨_, rfl⟩)
  case nextEvent.event =>
    split at h <;> (cases h; exact ⟨_, rfl⟩)
  all_goals
    cases h
    exact ⟨_, rfl⟩

/-- The harness touches neither the state nor the store. -/
theorem HarnessCall.frame {call : HarnessCall β} {result : Except HarnessPortError β}
    (h : call.exec world oracle = some (result, world')) :
    world'.state = world.state ∧ world'.db = world.db := by
  obtain ⟨log, rfl⟩ := HarnessCall.noted h
  exact ⟨rfl, rfl⟩

variable [Sha256]

/-- A store call fails without effect, or is one call of the store. -/
theorem StoreCall.exec_cases {call : StoreCall β} {result : Except StoreError β}
    (h : call.exec oracle world = some (result, world')) :
    ∃ failure fresh occurredAt now, oracle = .store failure fresh occurredAt now ∧
      fresh ∉ world.issued ∧
      ((∃ error, failure = some error ∧ result = .error error ∧
          world' = { world with issued := fresh :: world.issued }) ∨
        (failure = none ∧ ∃ db, (call.op fresh occurredAt).exec now world.db = (result, db) ∧
          world' = { world with db := db, issued := fresh :: world.issued })) := by
  unfold StoreCall.exec at h
  split at h
  · next failure fresh occurredAt now =>
      split at h
      · cases h
      · next hfresh =>
          refine ⟨failure, fresh, occurredAt, now, rfl, hfresh, ?_⟩
          split at h
          · next error =>
              cases h
              exact .inl ⟨error, rfl, rfl, rfl⟩
          · cases h
            exact .inr ⟨rfl, _, rfl, rfl⟩
  · cases h

theorem StoreCall.state_eq {call : StoreCall β} {result : Except StoreError β}
    (h : call.exec oracle world = some (result, world')) : world'.state = world.state := by
  obtain ⟨_, _, _, _, _, _, ⟨_, _, _, rfl⟩ | ⟨_, _, _, rfl⟩⟩ := StoreCall.exec_cases h <;> rfl

/-- Whatever it answers, the database moves by one change of the store. -/
theorem StoreCall.change {call : StoreCall β} {result : Except StoreError β}
    (h : call.exec oracle world = some (result, world')) :
    ∃ now, Change now world.db world'.db := by
  obtain ⟨_, fresh, occurredAt, now, _, _, ⟨_, _, _, rfl⟩ | ⟨_, db, hexec, rfl⟩⟩ :=
    StoreCall.exec_cases h
  · exact ⟨now, .unchanged⟩
  · refine ⟨now, ?_⟩
    have hchange := AppStore.change now (call.op fresh occurredAt) world.db
    rwa [hexec] at hchange

/-! ## Actions -/

theorem supervisor_effect {act : Act β} {result : β × World × List (Proc Unit)}
    (h : supervisor.exec act oracle world = some result) : act.effect world oracle = some result :=
  Act.effect_of_exec h

/-- Only the critical sections touch the state. -/
theorem Act.state_eq {act : Act β} (hlock : act.takesStateLock = false)
    (h : act.effect world oracle = some (answer, world', spawned)) :
    world'.state = world.state := by
  cases act with
  | store site call =>
      obtain ⟨⟨result, after⟩, hexec, heq⟩ := Option.map_eq_some_iff.mp h
      cases heq
      exact StoreCall.state_eq hexec
  | harness call =>
      obtain ⟨⟨result, after⟩, hexec, heq⟩ := Option.map_eq_some_iff.mp h
      cases heq
      exact (HarnessCall.frame hexec).1
  | awaitStartup | lockStart | spawnConsumer | nextTimelineItemId | iterateCommands
  | ensureEventPump | receive =>
      simp only [Act.effect] at h
      repeat' split at h
      all_goals cases h
      all_goals rfl
  | trySend channel event =>
      cases h
      exact World.trySend_state _ _ _
  | finishStartup | unlockStart | broadcast | takePump | openChannel | dropSender
  | dropReceiver | finishConsumer | unlockState =>
      cases h
      rfl
  | _ => cases hlock

/-- The action is a call of the store. -/
def Act.isStore : {β : Type} → Act β → Bool
  | _, .store .. => true
  | _, _ => false

/-- Only store calls touch the database. -/
theorem Act.db_eq {act : Act β} (hstore : act.isStore = false)
    (h : act.effect world oracle = some (answer, world', spawned)) : world'.db = world.db := by
  cases act with
  | store site call => cases hstore
  | harness call =>
      obtain ⟨⟨result, after⟩, hexec, heq⟩ := Option.map_eq_some_iff.mp h
      cases heq
      exact (HarnessCall.frame hexec).2
  | awaitStartup | lockStart | spawnConsumer | nextTimelineItemId | iterateCommands
  | ensureEventPump | receive
  | clearForPumpFailure =>
      simp only [Act.effect] at h
      repeat' split at h
      all_goals cases h
      all_goals rfl
  | routeEvent provider event =>
      simp only [Act.effect] at h
      repeat' split at h
      all_goals cases h
      all_goals first | rfl | exact World.trySend_db _ _ _
  | trySend channel event =>
      cases h
      exact World.trySend_db _ _ _
  | cloneRoute provider | lockRoute provider =>
      cases h
      exact World.cloneRoute_db _ _
  | _ =>
      cases h
      rfl

/-- The action may leave an entry in the log. -/
def Act.isLogged : {β : Type} → Act β → Bool
  | _, .harness _ | _, .broadcast _ | _, .receive .. | _, .finishConsumer .. | _, .publishStart ..
  | _, .prepareRoute .. => true
  | _, _ => false

/-- The other actions leave none. -/
theorem Act.log_eq {act : Act β} (hlogged : act.isLogged = false)
    (h : act.effect world oracle = some (answer, world', spawned)) : world'.log = world.log := by
  cases act with
  | store site call =>
      obtain ⟨⟨result, after⟩, hexec, heq⟩ := Option.map_eq_some_iff.mp h
      cases heq
      obtain ⟨_, _, _, _, _, _, ⟨_, _, _, rfl⟩ | ⟨_, _, _, rfl⟩⟩ :=
        StoreCall.exec_cases hexec <;> rfl
  | harness | broadcast | receive | finishConsumer | publishStart | prepareRoute => cases hlogged
  | awaitStartup | lockStart | spawnConsumer | nextTimelineItemId | iterateCommands
  | ensureEventPump
  | clearForPumpFailure =>
      simp only [Act.effect] at h
      repeat' split at h
      all_goals cases h
      all_goals rfl
  | routeEvent provider event =>
      simp only [Act.effect] at h
      repeat' split at h
      all_goals cases h
      all_goals first | rfl | exact World.trySend_log _ _ _
  | trySend channel event =>
      cases h
      exact World.trySend_log _ _ _
  | cloneRoute provider | lockRoute provider =>
      cases h
      exact World.cloneRoute_log _ _
  | _ =>
      cases h
      rfl

theorem Act.channelStep {act : Act β}
    (h : act.effect world oracle = some (answer, world', spawned)) : world.ChannelStep world' := by
  cases act with
  | store site call =>
      obtain ⟨⟨result, after⟩, hexec, heq⟩ := Option.map_eq_some_iff.mp h
      cases heq
      obtain ⟨_, _, _, _, _, _, ⟨_, _, _, rfl⟩ | ⟨_, _, _, rfl⟩⟩ := StoreCall.exec_cases hexec
      all_goals exact .of_eq rfl rfl
  | harness call =>
      obtain ⟨⟨result, after⟩, hexec, heq⟩ := Option.map_eq_some_iff.mp h
      cases heq
      obtain ⟨log, rfl⟩ := HarnessCall.noted hexec
      exact .of_eq rfl rfl
  | awaitStartup | lockStart | nextTimelineItemId | iterateCommands | ensureEventPump
  | clearForPumpFailure =>
      simp only [Act.effect] at h
      repeat' split at h
      all_goals cases h
      all_goals exact .of_eq rfl rfl
  | spawnConsumer run item provider id =>
      simp only [Act.effect] at h
      split at h
      · next hfree =>
          cases h
          rw [Bool.and_eq_true] at hfree
          exact .set (fun _ => rfl) (fun _ => hfree.1) fun _ => .inl hfree.1
      · cases h
  | openChannel =>
      cases h
      exact .openChannel world 1
  | prepareRoute run item provider restored =>
      cases h
      exact (World.ChannelStep.openChannel world 0).congr rfl rfl
  | trySend channel event =>
      cases h
      exact .trySend world channel event
  | dropSender id =>
      cases h
      exact .set (fun h => h) (fun h => h) .inr
  | receive run id =>
      simp only [Act.effect] at h
      split at h
      · cases h
        refine .note (.set ?_ ?_ ?_) _
        · exact fun h => h
        · exact fun h => h
        · exact .inr
      · split at h
        · cases h
          exact .of_eq rfl rfl
        · cases h
  | dropReceiver id =>
      cases h
      exact .set (fun h => h) (fun h => (by cases h)) .inr
  | finishConsumer run id =>
      cases h
      refine .note (.set ?_ ?_ ?_) _
      · exact fun h => h
      · exact fun h => (by cases h)
      · exact .inr
  | cloneRoute provider | lockRoute provider =>
      cases h
      exact (World.ChannelStep.cloneRoute world provider).congr rfl rfl
  | routeEvent provider event =>
      simp only [Act.effect] at h
      split at h
      · split at h
        · cases h
          exact .of_eq rfl rfl
        · cases h
          exact .trySend world _ event
      · cases h
  | _ =>
      cases h
      exact .of_eq rfl rfl

/-- An entry about a consumer's own turn. -/
def Obs.isTurn : Obs → Bool
  | .received .. | .finished .. => true
  | _ => false

/-- The action is a consumer's own turn: it takes an event, or returns. -/
def Act.isTurn : {β : Type} → Act β → Bool
  | _, receive .. | _, finishConsumer .. => true
  | _, _ => false

/-- The log only grows, and only a consumer's turn reports one. -/
theorem Act.log_append {act : Act β}
    (h : act.effect world oracle = some (answer, world', spawned)) :
    ∃ added, world'.log = world.log ++ added ∧
      (act.isTurn = false → ∀ obs ∈ added, obs.isTurn = false) := by
  cases hlogged : act.isLogged with
  | false => exact ⟨[], by rw [Act.log_eq hlogged h, List.append_nil],
      fun _ _ hmem => (by cases hmem)⟩
  | true =>
      cases act with
      | harness call =>
          obtain ⟨⟨result, after⟩, hexec, heq⟩ := Option.map_eq_some_iff.mp h
          cases heq
          cases call <;> cases oracle <;> simp only [HarnessCall.exec, reduceCtorEq] at hexec
          case respond.acknowledged | nextEvent.event =>
            split at hexec <;> cases hexec
            · exact ⟨[_], rfl, by simp [Obs.isTurn]⟩
            · exact ⟨[], (List.append_nil _).symm, by simp⟩
          all_goals
            cases hexec
            exact ⟨[], (List.append_nil _).symm, by simp⟩
      | broadcast | publishStart | prepareRoute =>
          cases h
          exact ⟨[_], rfl, by simp [Obs.isTurn]⟩
      | receive run id =>
          simp only [Act.effect] at h
          split at h
          · cases h
            exact ⟨[_], rfl, fun hturn => (by cases hturn)⟩
          · split at h <;> cases h
            exact ⟨[], (List.append_nil _).symm, by simp⟩
      | finishConsumer run id =>
          cases h
          exact ⟨[_], rfl, fun hturn => (by cases hturn)⟩
      | _ => cases hlogged

/-- The action starts the consumer of a channel. -/
def Act.isSpawn : {β : Type} → Act β → Bool
  | _, spawnConsumer .. => true
  | _, _ => false

/-- Any other action starts the event pump, if anything. -/
theorem Act.spawned_cases {act : Act β} (hspawn : act.isSpawn = false)
    (h : act.effect world oracle = some (answer, world', spawned)) :
    spawned = [] ∨ spawned = [.runEventPump] := by
  cases act with
  | store site call | harness call =>
      obtain ⟨_, _, heq⟩ := Option.map_eq_some_iff.mp h
      cases heq
      exact .inl rfl
  | spawnConsumer => cases hspawn
  | awaitStartup | lockStart | nextTimelineItemId | iterateCommands | receive
  | clearForPumpFailure | routeEvent =>
      simp only [Act.effect] at h
      repeat' split at h
      all_goals cases h
      all_goals exact .inl rfl
  | ensureEventPump =>
      simp only [Act.effect] at h
      split at h <;> cases h
      · exact .inl rfl
      · exact .inr rfl
  | _ =>
      cases h
      exact .inl rfl

/-- Every action moves the database by one change of the store. -/
theorem Act.change {act : Act β} (h : act.effect world oracle = some (answer, world', spawned)) :
    ∃ now, Change now world.db world'.db := by
  cases hstore : act.isStore with
  | false =>
      rw [Act.db_eq hstore h]
      exact ⟨⟨0⟩, .unchanged⟩
  | true =>
      cases act with
      | store site call =>
          obtain ⟨⟨result, after⟩, hexec, heq⟩ := Option.map_eq_some_iff.mp h
          cases heq
          exact StoreCall.change hexec
      | _ => cases hstore

end YakShed
