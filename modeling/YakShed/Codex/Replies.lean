/-
# Replies to client requests

A client's request is answered once. Its reply channel waits in the map of
pending requests from the time its frame is written, and leaves the map with the
answer: the response that carries the request's id, or the settlement at the end
of the loop. What the channel is told follows from where the request was.
-/

import YakShed.Codex.Actor

namespace YakShed.Codex

open Json

namespace Actor

variable {runtime : Runtime} {actor after : Actor} {arrival : Arrival}

/-! ## Reply channels -/

/-- The channels that pending requests wait with. -/
def pendingChannels (pending : Dict Nat PendingClient) : List Nat :=
  pending.toList.filterMap fun entry => entry.2.reply

/-- Every channel the actor has answered or still has. -/
def channels (actor : Actor) : List Nat :=
  actor.replies.map (·.1) ++ (pendingChannels actor.pending ++ actor.waiters)

/-- Ids are given out in turn, and only a login start waits without a channel. -/
structure Numbered (actor : Actor) : Prop where
  ids : ∀ id pending, actor.pending.find id = some pending → id < actor.nextId
  login : ∀ id pending, actor.pending.find id = some pending →
    (pending.kind = .accountLoginStart ↔ pending.reply = none)

/-- No channel is left that waits for an answer. -/
structure Finished (actor : Actor) : Prop where
  pending : ∀ id, actor.pending.find id = none
  waiters : ∀ waiter, waiter ∉ actor.waiters

/-- Between two states the actor has been handed new channels, has sent no
request, and has told channels only what it may tell them. Channels neither
disappear nor double: afterwards there are the earlier ones and the new ones. -/
structure Answers (told : Nat → Reply → Prop) (actor after : Actor) (new : List Nat) : Prop where
  channels : after.channels.Perm (actor.channels ++ new)
  pending : ∀ id pending, after.pending.find id = some pending →
    actor.pending.find id = some pending
  waiters : ∀ waiter ∈ after.waiters, waiter ∈ actor.waiters
  nextId : after.nextId = actor.nextId
  round : after.round = actor.round
  told : ∀ channel reply, (channel, reply) ∈ after.replies →
    (channel, reply) ∈ actor.replies ∨ told channel reply
  closed : after.closed → actor.closed ∨ Finished after

/-- Nothing that replies are about has changed. -/
structure SameReplies (actor after : Actor) : Prop where
  nextId : after.nextId = actor.nextId
  pending : after.pending = actor.pending
  replies : after.replies = actor.replies
  waiters : after.waiters = actor.waiters
  round : after.round = actor.round
  closed : after.closed = actor.closed

theorem SameReplies.refl (actor : Actor) : SameReplies actor actor := ⟨rfl, rfl, rfl, rfl, rfl, rfl⟩

theorem SameReplies.trans {last : Actor} (h : SameReplies actor after)
    (h' : SameReplies after last) : SameReplies actor last :=
  ⟨h'.nextId.trans h.nextId, h'.pending.trans h.pending, h'.replies.trans h.replies,
    h'.waiters.trans h.waiters, h'.round.trans h.round, h'.closed.trans h.closed⟩

variable {told : Nat → Reply → Prop}

theorem SameReplies.answers (same : SameReplies actor after) : Answers told actor after [] where
  channels := by
    unfold Actor.channels
    rw [same.replies, same.pending, same.waiters, List.append_nil]
  pending := by
    intro id pending h
    rw [same.pending] at h
    exact h
  waiters := by
    intro waiter h
    rw [same.waiters] at h
    exact h
  nextId := same.nextId
  round := same.round
  told := by
    intro channel reply h
    rw [same.replies] at h
    exact .inl h
  closed := by
    intro h
    rw [same.closed] at h
    exact .inl h

/-- What has no channel left gets none by answering. -/
theorem Finished.answers {new : List Nat} (finished : Finished actor)
    (h : Answers told actor after new) : Finished after where
  pending := by
    intro id
    cases hfind : after.pending.find id with
    | none => rfl
    | some pending => cases (finished.pending id).symm.trans (h.pending id pending hfind)
  waiters := fun waiter hmem => finished.waiters waiter (h.waiters waiter hmem)

theorem Answers.trans {last : Actor} {new new' : List Nat} (h : Answers told actor after new)
    (h' : Answers told after last new') : Answers told actor last (new ++ new') where
  channels := by
    rw [← List.append_assoc]
    exact h'.channels.trans (h.channels.append_right new')
  pending := fun id pending hfind => h.pending id pending (h'.pending id pending hfind)
  waiters := fun waiter hmem => h.waiters waiter (h'.waiters waiter hmem)
  nextId := h'.nextId.trans h.nextId
  round := h'.round.trans h.round
  told := by
    intro channel reply hmem
    rcases h'.told channel reply hmem with hmem | htold
    · exact h.told channel reply hmem
    · exact .inr htold
  closed := by
    intro hclosed
    rcases h'.closed hclosed with hclosed | hfinished
    · rcases h.closed hclosed with hclosed | hfinished
      · exact .inl hclosed
      · exact .inr (hfinished.answers h')
    · exact .inr hfinished

theorem Numbered.answers (numbered : Numbered actor) {new : List Nat}
    (h : Answers told actor after new) : Numbered after := by
  constructor
  · intro id pending hfind
    rw [h.nextId]
    exact numbered.ids id pending (h.pending id pending hfind)
  · intro id pending hfind
    exact numbered.login id pending (h.pending id pending hfind)

theorem answers_reply {channel : Nat} {reply : Reply} (htold : told channel reply) :
    Answers told actor (actor.reply channel reply) [channel] where
  channels := by
    show ((actor.replies ++ [(channel, reply)]).map (·.1) ++ _).Perm _
    rw [List.map_append, List.append_assoc]
    unfold Actor.channels
    rw [List.append_assoc]
    exact List.Perm.append_left _ List.perm_append_comm
  pending := fun _ _ h => h
  waiters := fun _ h => h
  nextId := rfl
  round := rfl
  told := by
    intro channel' reply' hmem
    rcases List.mem_append.mp hmem with hmem | hmem
    · exact .inl hmem
    · cases List.mem_singleton.mp hmem
      exact .inr htold
  closed := .inl

/-! ## The login -/

/-- All channels that wait for a login are answered. -/
theorem answers_waiters {reply : Reply} (htold : ∀ waiter ∈ actor.waiters, told waiter reply)
    (hreplies : after.replies = actor.replies ++ actor.waiters.map fun waiter => (waiter, reply))
    (hpending : after.pending = actor.pending) (hwaiters : after.waiters = [])
    (hnextId : after.nextId = actor.nextId) (hround : after.round = actor.round)
    (hclosed : after.closed = actor.closed) : Answers told actor after [] where
  channels := by
    unfold Actor.channels
    rw [hreplies, hpending, hwaiters, List.map_append, List.map_map, List.append_nil,
      List.append_nil, List.append_assoc]
    have hmap : actor.waiters.map ((·.1) ∘ fun waiter => (waiter, reply)) = actor.waiters :=
      List.map_id' _
    rw [hmap]
    exact List.Perm.append_left _ List.perm_append_comm
  pending := by
    intro id pending h
    rw [hpending] at h
    exact h
  waiters := by
    intro waiter h
    rw [hwaiters] at h
    cases h
  nextId := hnextId
  round := hround
  told := by
    intro channel reply' hmem
    rw [hreplies] at hmem
    rcases List.mem_append.mp hmem with hmem | hmem
    · exact .inl hmem
    · obtain ⟨waiter, hwaiter, heq⟩ := List.mem_map.mp hmem
      cases heq
      exact .inr (htold _ hwaiter)
  closed := by
    intro h
    rw [hclosed] at h
    exact .inl h

theorem answers_forgetLogin (htold : ∀ waiter ∈ actor.waiters, ∀ reply, told waiter reply) :
    Answers told actor actor.forgetLogin [] :=
  answers_waiters (fun waiter hmem => htold waiter hmem _) rfl rfl rfl rfl rfl rfl

theorem waiters_loginAcknowledged {completion : Option (String × Bool)} {updated : Bool}
    {loginId authUrl : String} (actor : Actor) :
    waiters { actor with
      accountLogin := loginAcknowledged completion updated loginId authUrl } = [] := by
  unfold waiters loginAcknowledged
  cases updated with
  | true => rfl
  | false =>
      cases completion with
      | none => rfl
      | some completed =>
          obtain ⟨completedId, success⟩ := completed
          dsimp only
          by_cases heq : completedId = loginId
          · rw [if_pos heq]
            cases success with
            | true => rfl
            | false => rfl
          · rw [if_neg heq]
            rfl

/-- Without a login that starts nobody waits for one. -/
theorem waiters_eq_nil (h : ∀ waiters completion updated,
    actor.accountLogin = some (.starting waiters completion updated) → False) :
    actor.waiters = [] := by
  unfold waiters
  split
  · next waiters completion updated heq => exact absurd heq (h waiters completion updated)
  · rfl

theorem answers_settleLoginStart (htold : ∀ waiter ∈ actor.waiters, ∀ reply, told waiter reply)
    (result : Except HarnessError HarnessAccountStatus) :
    Answers told actor (actor.settleLoginStart result) [] := by
  unfold settleLoginStart
  split
  · next waiters completion updated hlogin =>
    have hwaiters : actor.waiters = waiters := by
      unfold Actor.waiters
      rw [hlogin]
    apply answers_waiters fun waiter hmem => htold waiter hmem (.loginStart result)
    · rw [hwaiters]
    · rfl
    · cases result with
      | error error => rfl
      | ok status =>
          cases status with
          | unknown => rfl
          | loginInProgress loginId authUrl => exact waiters_loginAcknowledged actor
    · rfl
    · rfl
    · rfl
  · next hlogin => exact SameReplies.answers ⟨rfl, rfl, rfl, (waiters_eq_nil hlogin).symm, rfl, rfl⟩

theorem answers_loginCompleted (htold : ∀ waiter ∈ actor.waiters, ∀ reply, told waiter reply)
    (value : Value) : Answers told actor (actor.loginCompleted runtime value) [] := by
  unfold loginCompleted
  split
  · have hdiagnosed : SameReplies actor (actor.pushDiagnostic
        "Codex emitted a malformed account/login/completed notification") :=
      ⟨rfl, rfl, rfl, rfl, rfl, rfl⟩
    exact hdiagnosed.answers.trans (answers_forgetLogin htold)
  · next loginId success _ =>
    apply SameReplies.answers
    split
    · next waiters completion updated hlogin =>
      refine ⟨rfl, rfl, rfl, ?_, rfl, rfl⟩
      unfold Actor.waiters
      rw [hlogin]
    · next pending authUrl hlogin =>
      split
      · refine ⟨rfl, rfl, rfl, ?_, rfl, rfl⟩
        unfold Actor.waiters
        rw [hlogin]
        cases success with
        | true => rfl
        | false => rfl
      · exact SameReplies.refl actor
    · exact SameReplies.refl actor

theorem sameReplies_accountUpdated (value : Value) :
    SameReplies actor (actor.accountUpdated runtime value) := by
  unfold accountUpdated
  split
  · split
    · next waiters completion updated hlogin =>
      refine ⟨rfl, rfl, rfl, ?_, rfl, rfl⟩
      unfold Actor.waiters
      rw [hlogin]
    · next hlogin => exact ⟨rfl, rfl, rfl, (waiters_eq_nil hlogin).symm, rfl, rfl⟩
  · exact ⟨rfl, rfl, rfl, rfl, rfl, rfl⟩

/-! ## Pending requests -/

theorem pendingChannels_set {pending : Dict Nat PendingClient} {id : Nat} {client : PendingClient}
    (hfresh : pending.find id = none) :
    pendingChannels (pending.set id client) = client.reply.toList ++ pendingChannels pending := by
  unfold pendingChannels
  rw [Dict.toList_set_of_find_eq_none hfresh, List.filterMap_cons]
  cases client.reply with
  | none => rfl
  | some channel => rfl

theorem pendingChannels_remove {pending : Dict Nat PendingClient} {id : Nat}
    {client : PendingClient} (hfind : pending.find id = some client) :
    (pendingChannels pending).Perm
      (client.reply.toList ++ pendingChannels (pending.remove id)) := by
  unfold pendingChannels
  refine ((Dict.toList_perm_remove hfind).filterMap _).trans ?_
  rw [List.filterMap_cons]
  cases client.reply with
  | none => exact List.Perm.refl _
  | some channel => exact List.Perm.refl _

/-- The actor that has taken a request off its map. -/
def take (actor : Actor) (id : Nat) : Actor := { actor with pending := actor.pending.remove id }

/-- What answers the request that was taken conserves the channels. -/
theorem Answers.of_take {id : Nat} {client : PendingClient}
    (hfind : actor.pending.find id = some client)
    (h : Answers told (actor.take id) after client.reply.toList) :
    Answers told actor after [] where
  channels := by
    rw [List.append_nil]
    refine h.channels.trans ?_
    show ((actor.replies.map (·.1) ++
      (pendingChannels (actor.pending.remove id) ++ actor.waiters)) ++ client.reply.toList).Perm
        (actor.replies.map (·.1) ++ (pendingChannels actor.pending ++ actor.waiters))
    rw [List.append_assoc]
    apply List.Perm.append_left
    apply List.Perm.symm
    refine ((pendingChannels_remove hfind).append_right _).trans ?_
    rw [List.append_assoc]
    exact List.perm_append_comm
  pending := by
    intro id' pending hfind'
    have hremove : (actor.pending.remove id).find id' = some pending := h.pending id' pending hfind'
    rw [Dict.find_remove] at hremove
    split at hremove
    · cases hremove
    · exact hremove
  waiters := h.waiters
  nextId := h.nextId
  round := h.round
  told := h.told
  closed := h.closed

/-- A request that is completed tells its channel. -/
theorem answers_completeClientRequest {pending : PendingClient}
    (hwaiters : ∀ waiter ∈ actor.waiters, ∀ reply, told waiter reply)
    (hlogin : pending.kind = .accountLoginStart ↔ pending.reply = none)
    {result : Except HarnessError Value}
    (htold : ∀ channel, pending.reply = some channel → told channel (.request result)) :
    Answers told actor (actor.completeClientRequest pending result) pending.reply.toList := by
  unfold completeClientRequest
  split
  · next hkind =>
    rw [hlogin.mp hkind]
    exact answers_settleLoginStart hwaiters _
  · split
    · next channel hreply =>
      rw [hreply]
      exact answers_reply (htold channel hreply)
    · next hreply =>
      rw [hreply]
      exact (SameReplies.refl actor).answers

/-! ## Responses -/

theorem answers_acknowledge (htold : ∀ waiter ∈ actor.waiters, ∀ reply, told waiter reply)
    (kind : RequestKind) (raw : String) (result : Value) :
    Answers told actor (actor.acknowledge runtime kind raw result) [] := by
  unfold acknowledge
  cases kind with
  | session expectedThreadId =>
      dsimp only
      split
      · exact SameReplies.answers ⟨rfl, rfl, rfl, rfl, rfl, rfl⟩
      · exact (SameReplies.refl actor).answers
  | startRun sessionId =>
      dsimp only
      split
      · exact SameReplies.answers ⟨rfl, rfl, rfl, rfl, rfl, rfl⟩
      · exact (SameReplies.refl actor).answers
  | accountRead =>
      dsimp only
      split
      · exact (SameReplies.refl actor).answers
      · exact answers_forgetLogin htold
  | accountLogout => exact answers_forgetLogin htold
  | emptyObject => exact (SameReplies.refl actor).answers
  | accountLoginStart => exact (SameReplies.refl actor).answers
  | threadList => exact (SameReplies.refl actor).answers
  | turnSteer expectedTurnId => exact (SameReplies.refl actor).answers

/-- A response that is valid names the thread that was to be resumed. -/
theorem mismatchedThread_eq_none {kind : RequestKind} {result : Value}
    (hvalid : validResponseResult kind result) : mismatchedThread kind result = none := by
  unfold mismatchedThread
  split
  · next expected =>
    cases result with
    | object fields =>
        unfold validResponseResult at hvalid
        simp only [Value.asObject, Bool.and_eq_true, Option.all_some, beq_iff_eq] at hvalid
        have hid : ((Value.object fields).get "thread").bind (·.str "id") = some expected :=
          hvalid.2
        rw [hid]
        simp
    | null => cases hvalid
    | bool b => cases hvalid
    | number n => cases hvalid
    | string text => cases hvalid
    | array items => cases hvalid
  · rfl

/-- The result a response gives to a pending request. -/
inductive Answer (runtime : Runtime) (pending : PendingClient) (value : Value) :
    Except HarnessError Value → Prop
  | accepted (result : Value) (hresult : value.get "result" = some result)
      (herror : value.get "error" = none)
      (hvalid : validResponseResult pending.kind (runtime.sanitizer.sanitizeValue result)) :
      Answer runtime pending value (.ok (runtime.sanitizer.sanitizeValue result))
  | refused (error : Value) (herror : value.get "error" = some error)
      (hresult : value.get "result" = none) :
      Answer runtime pending value (.error (classifyProtocolError error runtime.sanitizer))
  | malformed : Answer runtime pending value (.error (malformedAckError pending))

theorem answers_answerPending {pending : PendingClient} (raw : String) (value : Value)
    (hwaiters : ∀ waiter ∈ actor.waiters, ∀ reply, told waiter reply)
    (hlogin : pending.kind = .accountLoginStart ↔ pending.reply = none)
    (htold : ∀ channel result, pending.reply = some channel →
      Answer runtime pending value result → told channel (.request result)) :
    Answers told actor (actor.answerPending runtime raw value pending) pending.reply.toList := by
  have hdiagnosed : ∀ diagnostic error, Answer runtime pending value (.error error) →
      Answers told actor ((actor.pushDiagnostic diagnostic).completeClientRequest pending
        (.error error)) pending.reply.toList := by
    intro diagnostic error answer
    have hdiagnosed : SameReplies actor (actor.pushDiagnostic diagnostic) :=
      ⟨rfl, rfl, rfl, rfl, rfl, rfl⟩
    apply hdiagnosed.answers.trans
    apply answers_completeClientRequest _ hlogin
    · exact fun channel hreply => htold channel _ hreply answer
    · exact hwaiters
  unfold answerPending
  split
  · next error herror hresult => exact hdiagnosed _ _ (.refused error herror hresult)
  · exact hdiagnosed _ _ .malformed
  · next error result hresult =>
    dsimp only
    split
    · exact hdiagnosed _ _ .malformed
    · next hvalid =>
      rw [Bool.not_eq_true, Bool.or_eq_false_iff, Bool.not_eq_false'] at hvalid
      rw [mismatchedThread_eq_none hvalid.2]
      have hack : Answers told actor (actor.acknowledge runtime pending.kind raw
          (runtime.sanitizer.sanitizeValue result)) [] := answers_acknowledge hwaiters _ _ _
      apply hack.trans
      apply answers_completeClientRequest _ hlogin
      · intro channel hreply
        apply htold channel _ hreply
        have herror := Option.isNone_iff_eq_none.mp (Option.isSome_eq_false_iff.mp hvalid.1)
        exact .accepted result hresult herror hvalid.2
      · exact fun waiter hmem => hwaiters waiter (hack.waiters waiter hmem)

theorem answers_handleResponse (numbered : Numbered actor) (raw : String) (value : Value)
    (hwaiters : ∀ waiter ∈ actor.waiters, ∀ reply, told waiter reply)
    (htold : ∀ id pending channel result, (value.get "id").bind Value.asU64 = some id →
      actor.pending.find id = some pending → pending.reply = some channel →
        Answer runtime pending value result → told channel (.request result)) :
    Answers told actor (actor.handleResponse runtime raw value) [] := by
  unfold handleResponse
  split
  · exact (SameReplies.refl actor).answers
  · next id hid =>
    split
    · exact (SameReplies.refl actor).answers
    · next pending hpending =>
      apply Answers.of_take hpending
      show Answers told (actor.take id) ((actor.take id).answerPending runtime raw value pending)
        pending.reply.toList
      have hwaiters : ∀ waiter ∈ (actor.take id).waiters, ∀ reply, told waiter reply := hwaiters
      apply answers_answerPending raw value hwaiters (numbered.login id pending hpending)
      exact fun channel result => htold id pending channel result hid hpending

/-! ## Messages -/

theorem sameReplies_dispatch (completesRun : Bool) (run : Option ProviderRunHandle)
    (event : NativeEvent) : SameReplies actor (dispatch completesRun run actor event) := by
  unfold dispatch
  split
  · exact ⟨rfl, rfl, rfl, rfl, rfl, rfl⟩
  · split
    · cases run with
      | none => exact ⟨rfl, rfl, rfl, rfl, rfl, rfl⟩
      | some run => exact ⟨rfl, rfl, rfl, rfl, rfl, rfl⟩
    · exact ⟨rfl, rfl, rfl, rfl, rfl, rfl⟩
  · exact ⟨rfl, rfl, rfl, rfl, rfl, rfl⟩

theorem sameReplies_foldl {α : Type} {f : Actor → α → Actor}
    (hf : ∀ actor item, SameReplies actor (f actor item)) (items : List α) :
    SameReplies actor (items.foldl f actor) := by
  induction items generalizing actor with
  | nil => exact SameReplies.refl actor
  | cons item rest ih => exact (hf actor item).trans ih

theorem sameReplies_reduceMessage (method native : String) (value : Value)
    (run : Option ProviderRunHandle) (request : Option ProviderRequestHandle) :
    SameReplies actor (actor.reduceMessage method native value run request) := by
  unfold reduceMessage
  have hreducer : SameReplies actor { actor with
      reducer := (actor.reducer.reduce native value run request).1 } :=
  ⟨rfl, rfl, rfl, rfl, rfl, rfl⟩
  exact hreducer.trans (sameReplies_foldl (fun actor event => sameReplies_dispatch _ _ event) _)

theorem sameReplies_handleMessage {writable : Bool} {raw method : String} {value : Value}
    (h : actor.handleMessage runtime writable raw value method = .ok after) :
    SameReplies actor after := by
  unfold handleMessage at h
  dsimp only at h
  split at h
  · split at h
    · cases h
      refine SameReplies.trans ?_ (sameReplies_reduceMessage _ _ _ _ _)
      exact ⟨rfl, rfl, rfl, rfl, rfl, rfl⟩
    · split at h
      · cases h
        exact ⟨rfl, rfl, rfl, rfl, rfl, rfl⟩
      · cases h
  · split at h
    · cases h
      exact ⟨rfl, rfl, rfl, rfl, rfl, rfl⟩
    · cases h
      exact sameReplies_reduceMessage _ _ _ _ _

/-- What a frame makes the actor tell its clients. -/
theorem answers_handleFrame (numbered : Numbered actor) {writable : Bool} {raw : String}
    {value : Value} (hwaiters : ∀ waiter ∈ actor.waiters, ∀ reply, told waiter reply)
    (htold : ∀ id pending channel result, value.get "method" = none →
      (value.get "id").bind Value.asU64 = some id →
        actor.pending.find id = some pending → pending.reply = some channel →
          Answer runtime pending value result → told channel (.request result))
    (h : actor.handleFrame runtime writable raw value = .ok after) :
    Answers told actor after [] := by
  unfold handleFrame at h
  split at h
  · next hmethod =>
    cases h
    apply answers_handleResponse numbered raw value hwaiters
    exact fun id pending channel result =>
      htold id pending channel result (Option.isNone_iff_eq_none.mp hmethod)
  · split at h
    · cases h
      exact answers_loginCompleted hwaiters value
    · split at h
      · cases h
        exact (sameReplies_accountUpdated value).answers
      · exact (sameReplies_handleMessage h).answers

/-! ## Settlement -/

theorem answers_settleAll (entries : List (Nat × PendingClient))
    (htold : ∀ id pending channel, (id, pending) ∈ entries → pending.reply = some channel →
      told channel (.request (.error (settledError pending)))) :
    Answers told actor (entries.foldl (fun actor entry => actor.settlePending entry.2) actor)
      (entries.filterMap fun entry => entry.2.reply) := by
  induction entries generalizing actor with
  | nil => exact (SameReplies.refl actor).answers
  | cons entry rest ih =>
      obtain ⟨id, pending⟩ := entry
      have hrest : ∀ actor : Actor, Answers told actor
          (rest.foldl (fun actor entry => actor.settlePending entry.2) actor)
          (rest.filterMap fun entry => entry.2.reply) := by
        intro actor
        apply ih
        exact fun id' pending' channel hmem =>
          htold id' pending' channel (List.mem_cons_of_mem _ hmem)
      rw [List.foldl_cons, List.filterMap_cons]
      cases hreply : pending.reply with
      | none =>
          have hsettle : actor.settlePending pending = actor := by
            unfold settlePending
            rw [hreply]
          rw [hsettle]
          exact hrest actor
      | some channel =>
          have hsettle : actor.settlePending pending =
              actor.reply channel (.request (.error (settledError pending))) := by
            unfold settlePending
            rw [hreply]
          rw [hsettle]
          exact (answers_reply (htold id pending channel List.mem_cons_self hreply)).trans (hrest _)

/-- The actor that has taken all requests off its map. -/
def drain (actor : Actor) : Actor := { actor with pending := ∅ }

theorem Answers.of_drain {new : List Nat} (hnew : new.Perm (pendingChannels actor.pending))
    (h : Answers told actor.drain after new) : Answers told actor after [] where
  channels := by
    rw [List.append_nil]
    refine h.channels.trans ?_
    show ((actor.replies.map Prod.fst ++ ([] ++ actor.waiters)) ++ new).Perm
      (actor.replies.map Prod.fst ++ (pendingChannels actor.pending ++ actor.waiters))
    rw [List.append_assoc, List.nil_append]
    apply List.Perm.append_left
    exact List.perm_append_comm.trans (hnew.append_right _)
  pending := by
    intro id pending hfind
    have hnone := h.pending id pending hfind
    rw [show actor.drain.pending = ∅ from rfl, Dict.find_empty] at hnone
    cases hnone
  waiters := h.waiters
  nextId := h.nextId
  round := h.round
  told := h.told
  closed := h.closed

theorem sameReplies_retireAll (state : HarnessRunTerminal) (native : String)
    (entries : List ((String × String) × ProviderRunHandle)) :
    SameReplies actor (entries.foldl (fun actor entry =>
      actor.emitTerminalAndRetire entry.2 state native) actor) := by
  apply sameReplies_foldl
  exact fun actor entry => ⟨rfl, rfl, rfl, rfl, rfl, rfl⟩

/-- A settlement answers every pending request. -/
theorem answers_settleRuntime (settlement : Settlement)
    (htold : ∀ id pending channel, actor.pending.find id = some pending →
      pending.reply = some channel → told channel (.request (.error (settledError pending)))) :
    Answers told actor (actor.settleRuntime runtime arrival settlement) [] := by
  have hperm : ((actor.pending.inOrder arrival.pendingOrder).filterMap fun entry =>
      entry.2.reply).Perm (pendingChannels actor.pending) :=
    (Dict.inOrder_perm_toList arrival.pendingOrder).filterMap _
  apply Answers.of_drain hperm
  have hsettled : Answers told actor.drain
      ((actor.pending.inOrder arrival.pendingOrder).foldl
        (fun actor entry => actor.settlePending entry.2) actor.drain)
      ((actor.pending.inOrder arrival.pendingOrder).filterMap fun entry => entry.2.reply) := by
    apply answers_settleAll
    exact fun id pending channel hmem => htold id pending channel (Dict.mem_inOrder.mp hmem)
  have hretired : ∀ settled : Actor, SameReplies settled
      ((settled.runs.inOrder arrival.runOrder).foldl (fun actor entry =>
        actor.emitTerminalAndRetire entry.2 (settlement.terminal runtime.sanitizer).1
          (settlement.terminal runtime.sanitizer).2) { settled with serverRequests := ∅ }) := by
    intro settled
    refine SameReplies.trans ?_ (sameReplies_retireAll _ _ _)
    exact ⟨rfl, rfl, rfl, rfl, rfl, rfl⟩
  have htotal := hsettled.trans (hretired _).answers
  rw [List.append_nil] at htotal
  exact htotal

theorem pending_settleRuntime (settlement : Settlement) :
    (actor.settleRuntime runtime arrival settlement).pending = ∅ := by
  have hsettle : ∀ (entries : List (Nat × PendingClient)) (actor : Actor),
      (entries.foldl (fun actor entry => actor.settlePending entry.2) actor).pending =
        actor.pending := by
    intro entries
    induction entries with
    | nil => exact fun actor => rfl
    | cons entry rest ih =>
        intro actor
        rw [List.foldl_cons, ih]
        unfold settlePending
        split
        · rfl
        · rfl
  refine (sameReplies_retireAll (settlement.terminal runtime.sanitizer).1
    (settlement.terminal runtime.sanitizer).2 _).pending.trans ?_
  exact hsettle _ _

theorem answers_close (hpending : actor.pending = ∅)
    (htold : ∀ waiter ∈ actor.waiters, ∀ reply, told waiter reply) :
    Answers told actor actor.close [] := by
  have hforget : Answers told actor actor.forgetLogin [] := answers_forgetLogin htold
  have hfinished : Finished actor.close := by
    constructor
    · intro id
      show actor.pending.find id = none
      rw [hpending, Dict.find_empty]
    · intro waiter hmem
      cases hmem
  exact ⟨hforget.channels, hforget.pending, hforget.waiters, rfl, rfl, hforget.told,
    fun _ => .inr hfinished⟩

theorem answers_exit (settlement : Settlement)
    (hwaiters : ∀ waiter ∈ actor.waiters, ∀ reply, told waiter reply)
    (htold : ∀ id pending channel, actor.pending.find id = some pending →
      pending.reply = some channel → told channel (.request (.error (settledError pending)))) :
    Answers told actor (actor.exit runtime arrival settlement) [] := by
  have hsettled : Answers told actor (actor.settleRuntime runtime arrival settlement) [] :=
    answers_settleRuntime settlement htold
  exact hsettled.trans (answers_close (pending_settleRuntime settlement) fun waiter hmem =>
    hwaiters waiter (hsettled.waiters waiter hmem))

/-! ## One round -/

/-- In a round the actor has these channels, its pending requests are as `waits` says, and
its channels have been told only what `told` says. A login's channel may be told
anything. -/
structure Served (told : Nat → Reply → Prop) (waits : Nat → PendingClient → Prop)
    (now : Nat) (total : List Nat) (actor : Actor) : Prop where
  numbered : Numbered actor
  channels : actor.channels.Perm total
  pending : ∀ id pending, actor.pending.find id = some pending → waits id pending
  waiters : ∀ waiter ∈ actor.waiters, ∀ reply, told waiter reply
  told : ∀ channel reply, (channel, reply) ∈ actor.replies → told channel reply
  finished : actor.closed → Finished actor
  round : actor.round = now

variable {waits : Nat → PendingClient → Prop} {now : Nat} {total : List Nat}

theorem Served.answers (served : Served told waits now total actor) {new : List Nat}
    (h : Answers told actor after new) : Served told waits now (total ++ new) after where
  numbered := served.numbered.answers h
  channels := h.channels.trans (served.channels.append_right new)
  pending := fun id pending hfind => served.pending id pending (h.pending id pending hfind)
  waiters := fun waiter hmem => served.waiters waiter (h.waiters waiter hmem)
  told := by
    intro channel reply hmem
    rcases h.told channel reply hmem with hmem | htold
    · exact served.told channel reply hmem
    · exact htold
  finished := by
    intro hclosed
    rcases h.closed hclosed with hclosed | hfinished
    · exact (served.finished hclosed).answers h
    · exact hfinished
  round := h.round.trans served.round

theorem Served.settled (served : Served told waits now total actor)
    (h : Answers told actor after []) : Served told waits now total after := by
  have hserved := served.answers h
  rw [List.append_nil] at hserved
  exact hserved

/-- A request is sent under the next id. -/
theorem Served.send (served : Served told waits now total actor) {client : PendingClient}
    {new : List Nat} (hnew : client.reply.toList = new)
    (hlogin : client.kind = .accountLoginStart ↔ client.reply = none)
    (hwaits : waits actor.nextId client)
    (hpending : after.pending = actor.pending.set actor.nextId client)
    (hnextId : after.nextId = actor.nextId + 1) (hreplies : after.replies = actor.replies)
    (hwaiters : after.waiters = actor.waiters) (hclosed : after.closed = false)
    (hround : after.round = actor.round) : Served told waits now (total ++ new) after := by
  subst hnew
  have hfresh : actor.pending.find actor.nextId = none := by
    cases hfind : actor.pending.find actor.nextId with
    | none => rfl
    | some pending => exact absurd (served.numbered.ids _ _ hfind) (Nat.lt_irrefl _)
  have hfind : ∀ id pending, after.pending.find id = some pending →
      id = actor.nextId ∧ pending = client ∨ actor.pending.find id = some pending := by
    intro id pending h
    rw [hpending, Dict.find_set] at h
    split at h
    · next heq =>
      cases h
      exact .inl ⟨heq, rfl⟩
    · exact .inr h
  refine ⟨⟨?_, ?_⟩, ?_, ?_, ?_, ?_, ?_, hround.trans served.round⟩
  · intro id pending h
    rw [hnextId]
    rcases hfind id pending h with ⟨rfl, _⟩ | hold
    · exact Nat.lt_succ_self _
    · exact Nat.lt_succ_of_lt (served.numbered.ids id pending hold)
  · intro id pending h
    rcases hfind id pending h with ⟨_, rfl⟩ | hold
    · exact hlogin
    · exact served.numbered.login id pending hold
  · refine List.Perm.trans ?_ (served.channels.append_right _)
    unfold Actor.channels
    rw [hpending, hreplies, hwaiters, pendingChannels_set hfresh, List.append_assoc,
      List.append_assoc]
    apply List.Perm.append_left
    exact List.perm_append_comm
  · intro id pending h
    rcases hfind id pending h with ⟨rfl, rfl⟩ | hold
    · exact hwaits
    · exact served.pending id pending hold
  · rw [hwaiters]
    exact served.waiters
  · rw [hreplies]
    exact served.told
  · rw [hclosed]
    intro h
    cases h

/-- A channel joins those that wait for a login. -/
theorem Served.wait (served : Served told waits now total actor) {channel : Nat}
    (htold : ∀ reply, told channel reply) (hpending : after.pending = actor.pending)
    (hnextId : after.nextId = actor.nextId) (hreplies : after.replies = actor.replies)
    (hwaiters : after.waiters = actor.waiters ++ [channel]) (hclosed : after.closed = false)
    (hround : after.round = actor.round) : Served told waits now (total ++ [channel]) after := by
  refine ⟨⟨?_, ?_⟩, ?_, ?_, ?_, ?_, ?_, hround.trans served.round⟩
  · rw [hpending, hnextId]
    exact served.numbered.ids
  · rw [hpending]
    exact served.numbered.login
  · refine List.Perm.trans ?_ (served.channels.append_right _)
    unfold Actor.channels
    rw [hpending, hreplies, hwaiters, List.append_assoc, List.append_assoc]
  · rw [hpending]
    exact served.pending
  · rw [hwaiters]
    intro waiter hmem
    rcases List.mem_append.mp hmem with hmem | hmem
    · exact served.waiters waiter hmem
    · rw [List.mem_singleton.mp hmem]
      exact htold
  · rw [hreplies]
    exact served.told
  · rw [hclosed]
    intro h
    cases h

/-- What a channel may be told in a round, and what its request may wait with. -/
structure Allowed (runtime : Runtime) (told : Nat → Reply → Prop)
    (waits : Nat → PendingClient → Prop) (actor : Actor) (arrival : Arrival) : Prop where
  settled : ∀ id pending channel, waits id pending → pending.reply = some channel →
    told channel (.request (.error (settledError pending)))
  answered : ∀ raw value id pending channel result,
    arrival.input = .inbound (.frame raw value) → value.get "method" = none →
      (value.get "id").bind Value.asU64 = some id → waits id pending →
        pending.reply = some channel → Answer runtime pending value result →
          told channel (.request result)
  other : (∀ request, arrival.input ≠ .command (.request request)) →
    ∀ reply, told actor.round reply
  login : ∀ pending, pending.reply = none → ∀ id, waits id pending
  dropped : ∀ request, arrival.input = .command (.request request) → actor.closed →
    told actor.round .dropped
  missing : ∀ request key, arrival.input = .command (.request request) →
    actor.closed = false → actor.missingRun request = some key →
      told actor.round (.request (.error (.notFound "run" (key.1 ++ "/" ++ key.2))))
  failed : ∀ request, arrival.input = .command (.request request) → actor.closed = false →
    actor.missingRun request = none → arrival.writable = false →
      told actor.round (.request (.error
        (if request.mutation then .outcomeUnknown request.method else .disconnected)))
  sent : ∀ request, arrival.input = .command (.request request) → actor.closed = false →
    actor.missingRun request = none → arrival.writable →
      waits actor.nextId ⟨request.method, request.mutation, request.kind, some actor.round⟩

/-- An id that is given out but not used is skipped. -/
theorem Served.skip (served : Served told waits now total actor)
    (hpending : after.pending = actor.pending)
    (hnextId : actor.nextId ≤ after.nextId) (hreplies : after.replies = actor.replies)
    (hwaiters : after.waiters = actor.waiters) (hclosed : after.closed = actor.closed)
    (hround : after.round = actor.round) : Served told waits now total after := by
  refine ⟨⟨?_, ?_⟩, ?_, ?_, ?_, ?_, ?_, hround.trans served.round⟩
  · intro id pending h
    rw [hpending] at h
    exact lt_of_lt_of_le (served.numbered.ids id pending h) hnextId
  · rw [hpending]
    exact served.numbered.login
  · unfold Actor.channels
    rw [hpending, hreplies, hwaiters]
    exact served.channels
  · rw [hpending]
    exact served.pending
  · rw [hwaiters]
    exact served.waiters
  · rw [hreplies]
    exact served.told
  · intro h
    rw [hclosed] at h
    have finished := served.finished h
    constructor
    · rw [hpending]
      exact finished.pending
    · rw [hwaiters]
      exact finished.waiters

theorem Served.tick (served : Served told waits now total actor) :
    Served told waits (now + 1) total { actor with round := actor.round + 1 } :=
  ⟨⟨served.numbered.ids, served.numbered.login⟩, served.channels, served.pending, served.waiters,
    served.told,
    fun hclosed => ⟨(served.finished hclosed).pending, (served.finished hclosed).waiters⟩,
    congrArg (· + 1) served.round⟩

/-- The settlement at the end of the loop. -/
theorem Served.exit (served : Served told waits now total actor) (arrival : Arrival)
    (settlement : Settlement)
    (hsettled : ∀ id pending channel, waits id pending → pending.reply = some channel →
      told channel (.request (.error (settledError pending)))) :
    Served told waits now total (actor.exit runtime arrival settlement) := by
  apply served.settled
  apply answers_exit settlement served.waiters
  exact fun id pending channel hfind =>
    hsettled id pending channel (served.pending id pending hfind)

theorem served_handleRequest (served : Served told waits now total actor)
    (allowed : Allowed runtime told waits actor arrival) (hopen : actor.closed = false)
    {request : ClientRequest} (hinput : arrival.input = .command (.request request)) :
    Served told waits now (total ++ [actor.round])
      (actor.handleRequest runtime arrival request) := by
  unfold handleRequest
  split
  · next thread turn hmissing =>
    exact served.answers
      (answers_reply (allowed.missing request (thread, turn) hinput hopen hmissing))
  · next hmissing =>
    dsimp only
    split
    · next hwritable =>
      refine served.send rfl ?_ (allowed.sent request hinput hopen hmissing hwritable)
        rfl rfl rfl rfl hopen rfl
      constructor
      · intro hkind
        exact absurd hkind request.notLogin
      · intro hreply
        cases hreply
    · next hfailed =>
      apply Served.exit _ arrival .crashed allowed.settled
      have hskipped : Served told waits now total ({ actor with
          nextId := actor.nextId + 1 }.writeFrame
            (requestFrame actor.nextId request.method request.params) arrival.writable) :=
        served.skip rfl (Nat.le_succ _) rfl rfl rfl rfl
      exact hskipped.answers (answers_reply
        (allowed.failed request hinput hopen hmissing (Bool.eq_false_iff.mpr hfailed)))

theorem served_handleRespond (served : Served told waits now total actor)
    (allowed : Allowed runtime told waits actor arrival)
    (htold : ∀ reply, told actor.round reply) (request : ProviderRequestHandle)
    (response : ProviderResponse) :
    Served told waits now (total ++ [actor.round])
      (actor.handleRespond runtime arrival request response) := by
  unfold handleRespond
  split
  · exact served.answers (answers_reply (htold _))
  · split
    · exact served.answers (answers_reply (htold _))
    · split
      · exact served.answers (answers_reply (htold _))
      · dsimp only
        split
        · refine Served.answers ?_ (answers_reply (htold _))
          exact served.skip rfl (Nat.le_refl _) rfl rfl rfl rfl
        · apply Served.exit _ arrival .crashed allowed.settled
          refine Served.answers ?_ (answers_reply (htold _))
          exact served.skip rfl (Nat.le_refl _) rfl rfl rfl rfl

theorem served_sendLoginStart (served : Served told waits now total actor)
    (allowed : Allowed runtime told waits actor arrival) (hopen : actor.closed = false)
    (htold : ∀ reply, told actor.round reply) (hwaiters : actor.waiters = []) :
    Served told waits now (total ++ [actor.round]) (actor.sendLoginStart runtime arrival) := by
  have hwaiting : Served told waits now (total ++ [actor.round])
      { actor with accountLogin := some (.starting [actor.round] none false) } := by
    refine served.wait htold rfl rfl rfl ?_ hopen rfl
    rw [hwaiters]
    rfl
  unfold sendLoginStart
  dsimp only
  split
  · rw [← List.append_nil (total ++ [actor.round])]
    refine hwaiting.send rfl ?_ ?_ rfl rfl rfl rfl hopen rfl
    · exact ⟨fun _ => rfl, fun _ => rfl⟩
    · exact allowed.login _ rfl _
  · apply Served.exit _ arrival .crashed allowed.settled
    have hskipped : Served told waits now (total ++ [actor.round]) ({ actor with
        accountLogin := some (.starting [actor.round] none false)
        nextId := actor.nextId + 1 }.writeFrame
          (requestFrame actor.nextId "account/login/start" loginStartParams) arrival.writable) :=
      hwaiting.skip rfl (Nat.le_succ _) rfl rfl rfl rfl
    exact hskipped.settled (answers_settleLoginStart hskipped.waiters _)

/-- The arrival is a command with a reply channel. -/
def expectsReply (arrival : Arrival) : Bool :=
  match arrival.input with
  | .command (.recordDiagnostic _) | .hangup | .inbound _ => false
  | .command _ => true

/-- The channel of an arrival's command. -/
def commandChannel (arrival : Arrival) (round : Nat) : List Nat :=
  if expectsReply arrival then [round] else []

theorem served_handleCommand (served : Served told waits now total actor)
    (allowed : Allowed runtime told waits actor arrival) (hopen : actor.closed = false)
    {message : CommandMessage} (hinput : arrival.input = .command message) :
    Served told waits now (total ++ commandChannel arrival actor.round)
      (actor.handleCommand runtime arrival message) := by
  unfold commandChannel expectsReply
  rw [hinput]
  have htold : (∀ request, message ≠ .request request) → ∀ reply, told actor.round reply := by
    intro hne
    apply allowed.other
    intro request heq
    rw [hinput] at heq
    exact hne request (Input.command.inj heq)
  cases message with
  | request request => exact served_handleRequest served allowed hopen hinput
  | respond request response =>
      exact served_handleRespond served allowed (htold fun request h => by cases h) request response
  | diagnostics => exact served.answers (answers_reply (htold (fun request h => by cases h) _))
  | recordDiagnostic diagnostic =>
      exact served.answers (SameReplies.answers ⟨rfl, rfl, rfl, rfl, rfl, rfl⟩)
  | health => exact served.answers (answers_reply (htold (fun request h => by cases h) _))
  | accountLoginStatus =>
      exact served.answers (answers_reply (htold (fun request h => by cases h) _))
  | accountLoginStart =>
      have htold := htold fun request h => by cases h
      show Served told waits now (total ++ [actor.round]) (actor.handleLoginStart runtime arrival)
      unfold handleLoginStart
      split
      · next waiters completion updated hlogin =>
        refine served.wait htold rfl rfl rfl ?_ hopen rfl
        have hwaiters : actor.waiters = waiters := by
          unfold Actor.waiters
          rw [hlogin]
        rw [hwaiters]
        rfl
      · exact served.answers (answers_reply (htold _))
      · next hlogin =>
        apply served_sendLoginStart served allowed hopen htold
        unfold Actor.waiters
        rw [hlogin]
      · next hlogin =>
        apply served_sendLoginStart served allowed hopen htold
        unfold Actor.waiters
        rw [hlogin]
  | shutdown =>
      have hsettled : Answers told actor (actor.settleRuntime runtime arrival .shutdown) [] :=
        answers_settleRuntime .shutdown fun id pending channel hfind =>
          allowed.settled id pending channel (served.pending id pending hfind)
      have hreplied := (served.settled hsettled).answers
        (answers_reply (htold (fun request h => by cases h) .shutdown))
      apply hreplied.settled
      exact answers_close (pending_settleRuntime .shutdown) hreplied.waiters

theorem served_handleInbound (served : Served told waits now total actor)
    (allowed : Allowed runtime told waits actor arrival) {inbound : Inbound}
    (hinput : arrival.input = .inbound inbound) :
    Served told waits now total (actor.handleInbound runtime arrival inbound) := by
  cases inbound with
  | frame raw value =>
      unfold handleInbound
      dsimp only
      split
      · next after h =>
        apply served.settled
        apply answers_handleFrame served.numbered served.waiters _ h
        intro id pending channel result hmethod hid hfind hreply answer
        exact allowed.answered raw value id pending channel result hinput hmethod hid
          (served.pending id pending hfind) hreply answer
      · exact served.exit arrival .crashed allowed.settled
  | malformed raw => exact served.settled (SameReplies.answers ⟨rfl, rfl, rfl, rfl, rfl, rfl⟩)
  | oversized start => exact served.settled (SameReplies.answers ⟨rfl, rfl, rfl, rfl, rfl, rfl⟩)
  | stderr chunk => exact served.settled (SameReplies.answers ⟨rfl, rfl, rfl, rfl, rfl, rfl⟩)
  | eof => exact served.exit arrival .crashed allowed.settled

/-- A command that reaches a closed actor is dropped. -/
theorem served_abandon (served : Served told waits now total actor)
    (allowed : Allowed runtime told waits actor arrival) (hclosed : actor.closed) :
    Served told waits now (total ++ commandChannel arrival actor.round)
      (actor.abandon arrival.input) := by
  have hdropped : told actor.round .dropped := by
    by_cases hrequest : ∃ request, arrival.input = .command (.request request)
    · obtain ⟨request, hrequest⟩ := hrequest
      exact allowed.dropped request hrequest hclosed
    · exact allowed.other (fun request h => hrequest ⟨request, h⟩) _
  unfold commandChannel expectsReply abandon
  cases arrival.input with
  | hangup => exact served.answers (SameReplies.refl actor).answers
  | inbound inbound => exact served.answers (SameReplies.refl actor).answers
  | command message =>
      cases message with
      | recordDiagnostic diagnostic => exact served.answers (SameReplies.refl actor).answers
      | request request => exact served.answers (answers_reply hdropped)
      | respond request response => exact served.answers (answers_reply hdropped)
      | diagnostics => exact served.answers (answers_reply hdropped)
      | health => exact served.answers (answers_reply hdropped)
      | accountLoginStatus => exact served.answers (answers_reply hdropped)
      | accountLoginStart => exact served.answers (answers_reply hdropped)
      | shutdown => exact served.answers (answers_reply hdropped)

/-- One round of the loop serves the channels there are and those it is given. -/
theorem served_step (served : Served told waits now total actor)
    (allowed : Allowed runtime told waits actor arrival) :
    Served told waits (now + 1) (total ++ commandChannel arrival now)
      (actor.step runtime arrival) := by
  rw [← served.round]
  have hinput : Served told waits now (total ++ commandChannel arrival actor.round)
      (actor.handleInput runtime arrival) := by
    unfold handleInput
    split
    · next hclosed => exact served_abandon served allowed hclosed
    · next hopen =>
      have hopen := Bool.eq_false_iff.mpr hopen
      split
      · next message hmessage => exact served_handleCommand served allowed hopen hmessage
      · next hhangup =>
        unfold commandChannel expectsReply
        rw [hhangup, if_neg Bool.false_ne_true, List.append_nil]
        exact served.exit arrival .shutdown allowed.settled
      · next inbound hinbound =>
        unfold commandChannel expectsReply
        rw [hinbound, if_neg Bool.false_ne_true, List.append_nil]
        exact served_handleInbound served allowed hinbound
  rw [← served.round] at hinput
  exact hinput.tick

/-! ## Whole runs -/

section Run

variable {arrivals : List Arrival} {channel round : Nat} {request : ClientRequest}

/-- The channels of the arrivals' commands. -/
def commandChannels (arrivals : List Arrival) : List Nat :=
  (List.range arrivals.length).filter fun round => arrivals[round]?.any expectsReply

theorem commandChannels_concat (arrivals : List Arrival) (arrival : Arrival) :
    commandChannels (arrivals ++ [arrival]) =
      commandChannels arrivals ++ commandChannel arrival arrivals.length := by
  unfold commandChannels commandChannel
  rw [List.length_append, List.length_singleton, List.range_succ, List.filter_append]
  congr 1
  · apply List.filter_congr
    intro round hmem
    rw [List.getElem?_append_left (List.mem_range.mp hmem)]
  · rw [List.filter_singleton, List.getElem?_concat_length, Option.any_some]
    cases expectsReply arrival with
    | true => rfl
    | false => rfl

theorem run_concat (runtime : Runtime) (arrivals : List Arrival) (arrival : Arrival) :
    Actor.run runtime (arrivals ++ [arrival]) =
      (Actor.run runtime arrivals).step runtime arrival := by
  unfold Actor.run
  rw [List.foldl_append]
  rfl

theorem take_concat {arrival : Arrival} (h : arrivals[round]? = some arrival) :
    arrivals.take (round + 1) = arrivals.take round ++ [arrival] := by
  rw [List.take_add_one, h]
  rfl

/-- The id under which the request of a channel is sent. -/
def requestId (runtime : Runtime) (arrivals : List Arrival) (channel : Nat) : Nat :=
  (Actor.run runtime (arrivals.take channel)).nextId

/-- What the client is told by its channel. -/
def requestResult : Reply → Except HarnessError Value
  | .request result => result
  | _ => .error .disconnected

/-- A later frame is a response with the id of a channel's request. -/
structure RespondsTo (runtime : Runtime) (arrivals : List Arrival) (channel round : Nat)
    (value : Value) : Prop where
  later : channel < round
  arrived : ∃ raw arrival, arrivals[round]? = some arrival ∧
    arrival.input = .inbound (.frame raw value)
  method : value.get "method" = none
  id : (value.get "id").bind Value.asU64 = some (requestId runtime arrivals channel)

/-- The frame of a channel's request is handed to the child's input, whether or
not it can be written. -/
def Handed (runtime : Runtime) (arrivals : List Arrival) (channel : Nat)
    (request : ClientRequest) : Prop :=
  ∃ writable, (Actor.run runtime (arrivals.take (channel + 1))).stdin =
    (Actor.run runtime (arrivals.take channel)).stdin ++
      [(requestFrame (requestId runtime arrivals channel) request.method request.params, writable)]

/-- The results a request may be given. -/
inductive Honest (runtime : Runtime) (arrivals : List Arrival) (channel : Nat)
    (request : ClientRequest) : Except HarnessError Value → Prop
  | accepted (round : Nat) (value result : Value)
      (responds : RespondsTo runtime arrivals channel round value)
      (hresult : value.get "result" = some result)
      (hvalid : validResponseResult request.kind (runtime.sanitizer.sanitizeValue result)) :
      Honest runtime arrivals channel request (.ok (runtime.sanitizer.sanitizeValue result))
  | refused (round : Nat) (value error : Value)
      (responds : RespondsTo runtime arrivals channel round value)
      (herror : value.get "error" = some error) :
      Honest runtime arrivals channel request
        (.error (classifyProtocolError error runtime.sanitizer))
  | unknown (h : request.mutation) :
      Honest runtime arrivals channel request (.error (.outcomeUnknown request.method))
  | query (error : HarnessError) (h : request.mutation = false) :
      Honest runtime arrivals channel request (.error error)
  | unsent (error : HarnessError) (h : ¬ Handed runtime arrivals channel request) :
      Honest runtime arrivals channel request (.error error)

/-- What may be told the channel of one request. -/
def Told (runtime : Runtime) (arrivals : List Arrival) (own : Nat) (request : ClientRequest)
    (channel : Nat) (reply : Reply) : Prop :=
  channel = own → Honest runtime arrivals own request (requestResult reply)

/-- How that request waits. -/
def Waits (runtime : Runtime) (arrivals : List Arrival) (own : Nat) (request : ClientRequest)
    (round id : Nat) (pending : PendingClient) : Prop :=
  pending.reply = some own →
    id = requestId runtime arrivals own ∧ own ≤ round ∧
      pending = ⟨request.method, request.mutation, request.kind, some own⟩

theorem not_handed_of_stdin (h : (Actor.run runtime (arrivals.take (channel + 1))).stdin =
    (Actor.run runtime (arrivals.take channel)).stdin) :
    ¬ Handed runtime arrivals channel request := by
  rintro ⟨writable, hstdin⟩
  rw [h] at hstdin
  exact absurd hstdin (by simp)

theorem honest_unknown_or_query (error : HarnessError) :
    Honest runtime arrivals channel request (.error
      (if request.mutation then .outcomeUnknown request.method else error)) := by
  cases hmutation : request.mutation with
  | true => exact .unknown hmutation
  | false => exact .query _ hmutation

theorem honest_of_answer {pending : PendingClient} {value : Value}
    {result : Except HarnessError Value}
    (hpending : pending = ⟨request.method, request.mutation, request.kind, some channel⟩)
    (responds : RespondsTo runtime arrivals channel round value)
    (answer : Answer runtime pending value result) :
    Honest runtime arrivals channel request result := by
  subst hpending
  cases answer with
  | accepted result hresult herror hvalid =>
      exact .accepted round value result responds hresult hvalid
  | refused error herror hresult => exact .refused round value error responds herror
  | malformed => exact honest_unknown_or_query _

theorem stdin_step_of_closed (hinput : arrival.input = .command (.request request))
    (hclosed : actor.closed) : (actor.step runtime arrival).stdin = actor.stdin := by
  unfold step handleInput
  rw [hinput, if_pos hclosed]
  rfl

theorem stdin_step_of_missing (hinput : arrival.input = .command (.request request))
    (hopen : actor.closed = false) {key : String × String}
    (hmissing : actor.missingRun request = some key) :
    (actor.step runtime arrival).stdin = actor.stdin := by
  unfold step handleInput
  rw [hinput, hopen, if_neg Bool.false_ne_true]
  show (actor.handleRequest runtime arrival request).stdin = actor.stdin
  unfold handleRequest
  rw [hmissing]
  rfl

theorem allowed_round {own : Nat} {ownArrival : Arrival} (hown : arrivals[own]? = some ownArrival)
    (hownInput : ownArrival.input = .command (.request request))
    (harrival : arrivals[round]? = some arrival)
    (hround : (Actor.run runtime (arrivals.take round)).round = round) :
    Allowed runtime (Told runtime arrivals own request)
      (Waits runtime arrivals own request round) (Actor.run runtime (arrivals.take round))
      arrival := by
  have hstep : Actor.run runtime (arrivals.take (round + 1)) =
      (Actor.run runtime (arrivals.take round)).step runtime arrival := by
    rw [take_concat harrival, run_concat]
  -- in the request's own round the arrival is the request
  have hself : ∀ {request'}, arrival.input = .command (.request request') → round = own →
      request' = request := by
    intro request' hinput heq
    rw [← heq, harrival] at hown
    cases hown
    rw [hinput] at hownInput
    exact CommandMessage.request.inj (Input.command.inj hownInput)
  refine ⟨?_, ?_, ?_, ?_, ?_, ?_, ?_, ?_⟩
  · rintro id pending channel hwaits hreply rfl
    obtain ⟨_, _, rfl⟩ := hwaits hreply
    exact honest_unknown_or_query _
  · rintro raw value id pending channel result hinput hmethod hid hwaits hreply answer rfl
    obtain ⟨rfl, hle, hpending⟩ := hwaits hreply
    have hne : channel ≠ round := by
      rintro rfl
      rw [harrival] at hown
      cases hown
      rw [hinput] at hownInput
      cases hownInput
    exact honest_of_answer hpending
      ⟨lt_of_le_of_ne hle hne, ⟨raw, arrival, harrival, hinput⟩, hmethod, hid⟩ answer
  · intro hother reply heq
    rw [hround] at heq
    rw [← heq, harrival] at hown
    cases hown
    exact absurd hownInput (hother request)
  · intro pending hnone id hreply
    rw [hnone] at hreply
    cases hreply
  · intro request' hinput hclosed heq
    rw [hround] at heq
    cases hself hinput heq
    apply Honest.unsent
    apply not_handed_of_stdin
    rw [← heq, hstep]
    exact stdin_step_of_closed hinput hclosed
  · intro request' key hinput hopen hmissing heq
    rw [hround] at heq
    cases hself hinput heq
    apply Honest.unsent
    apply not_handed_of_stdin
    rw [← heq, hstep]
    exact stdin_step_of_missing hinput hopen hmissing
  · intro request' hinput _ _ _ heq
    rw [hround] at heq
    cases hself hinput heq
    exact honest_unknown_or_query _
  · intro request' hinput _ _ _ hreply
    rw [hround] at hreply
    cases hself hinput (Option.some.inj hreply)
    cases Option.some.inj hreply
    exact ⟨rfl, Nat.le_refl _, by rw [hround]⟩

theorem Served.later {own : Nat}
    (served : Served (Told runtime arrivals own request)
      (Waits runtime arrivals own request round) now total actor) :
    Served (Told runtime arrivals own request) (Waits runtime arrivals own request (round + 1))
      now total actor where
  numbered := served.numbered
  channels := served.channels
  pending := by
    intro id pending hfind hreply
    obtain ⟨hid, hle, hpending⟩ := served.pending id pending hfind hreply
    exact ⟨hid, Nat.le_succ_of_le hle, hpending⟩
  waiters := served.waiters
  told := served.told
  finished := served.finished
  round := served.round

theorem served_init : Served told waits 0 [] {} := by
  refine ⟨⟨?_, ?_⟩, List.Perm.refl _, ?_, ?_, ?_, ?_, rfl⟩
  · intro id pending h
    rw [Dict.find_empty] at h
    cases h
  · intro id pending h
    rw [Dict.find_empty] at h
    cases h
  · intro id pending h
    rw [Dict.find_empty] at h
    cases h
  · intro waiter hmem
    cases hmem
  · intro channel reply hmem
    cases hmem
  · intro hclosed
    cases hclosed

/-- Up to every round, channels are told only what they may be told. -/
theorem served_take {own : Nat} {ownArrival : Arrival}
    (hown : arrivals[own]? = some ownArrival)
    (hownInput : ownArrival.input = .command (.request request)) (hle : round ≤ arrivals.length) :
    Served (Told runtime arrivals own request) (Waits runtime arrivals own request round) round
      (commandChannels (arrivals.take round)) (Actor.run runtime (arrivals.take round)) := by
  induction round with
  | zero => exact served_init
  | succ round ih =>
      have harrival : arrivals[round]? = some arrivals[round] := List.getElem?_eq_getElem hle
      have served := ih (Nat.le_of_succ_le hle)
      have hstep := served_step served (allowed_round hown hownInput harrival served.round)
      rw [take_concat harrival, run_concat, commandChannels_concat,
        List.length_take_of_le (Nat.le_of_succ_le hle)]
      exact hstep.later

/-- A request's channel is among those of the commands, once. -/
theorem count_commandChannels {ownArrival : Arrival} (hown : arrivals[channel]? = some ownArrival)
    (hreply : expectsReply ownArrival) : (commandChannels arrivals).count channel = 1 := by
  apply List.count_eq_one_of_mem
  · exact List.nodup_range.filter _
  · unfold commandChannels
    rw [List.mem_filter, List.mem_range, hown]
    exact ⟨(List.getElem?_eq_some_iff.mp hown).1, hreply⟩

/-- When the loop has been left, every channel has been answered. -/
theorem channels_of_finished (finished : Finished actor) :
    actor.channels = actor.replies.map (·.1) := by
  have hpending : actor.pending.toList = [] := by
    rw [List.eq_nil_iff_forall_not_mem]
    rintro ⟨id, pending⟩ hmem
    cases (finished.pending id).symm.trans (Dict.mem_toList.mp hmem)
  unfold Actor.channels pendingChannels
  rw [hpending, List.eq_nil_iff_forall_not_mem.mpr finished.waiters]
  exact List.append_nil _

theorem exists_reply_of_count {replies : List (Nat × Reply)}
    (h : (replies.map (·.1)).count channel = 1) :
    ∃ reply, replies.filter (fun entry => entry.1 = channel) = [(channel, reply)] := by
  have hlength : (replies.filter fun entry => entry.1 = channel).length = 1 := by
    rw [← h, List.count_eq_countP, List.countP_map, ← List.countP_eq_length_filter]
    apply List.countP_congr
    intro entry _
    simp
  obtain ⟨⟨channel', reply⟩, heq⟩ := List.length_eq_one_iff.mp hlength
  have hmem : (channel', reply) ∈ replies.filter fun entry => entry.1 = channel := by
    rw [heq]
    exact List.mem_singleton_self _
  have hchannel : channel' = channel := by simpa using (List.mem_filter.mp hmem).2
  exact ⟨reply, by rw [heq, hchannel]⟩

theorem classifyProtocolError_cases (error : Value) (sanitizer : Sanitizer) :
    classifyProtocolError error sanitizer = .overloaded ∨
      ∃ diagnostic, classifyProtocolError error sanitizer = .protocol diagnostic := by
  unfold classifyProtocolError
  dsimp only
  split
  · exact .inl rfl
  · exact .inr ⟨_, rfl⟩

/-- What a mutation is told whose frame was handed to the child. -/
def Definite (runtime : Runtime) (arrivals : List Arrival) (channel : Nat)
    (request : ClientRequest) (result : Except HarnessError Value) : Prop :=
  (∃ value, result = .ok value) ∨
    (∃ round frame error, RespondsTo runtime arrivals channel round frame ∧
      frame.get "error" = some error ∧
        result = .error (classifyProtocolError error runtime.sanitizer)) ∨
    result = .error (.outcomeUnknown request.method)

theorem Honest.definite {result : Except HarnessError Value}
    (honest : Honest runtime arrivals channel request result) (hmutation : request.mutation)
    (handed : Handed runtime arrivals channel request) :
    Definite runtime arrivals channel request result := by
  cases honest with
  | accepted round value result responds hresult hvalid => exact .inl ⟨_, rfl⟩
  | refused round value error responds herror =>
      exact .inr (.inl ⟨round, value, error, responds, herror, rfl⟩)
  | unknown _ => exact .inr (.inr rfl)
  | query error h => cases h.symm.trans hmutation
  | unsent error h => exact absurd handed h

/-- The client is told that the runtime is disconnected or something is not
found, after which it may try again. -/
def isRetryable : Except HarnessError Value → Bool
  | .error .disconnected | .error (.notFound ..) => true
  | _ => false

theorem Definite.not_retryable {result : Except HarnessError Value}
    (definite : Definite runtime arrivals channel request result) : isRetryable result = false := by
  rcases definite with ⟨value, rfl⟩ | ⟨round, frame, error, _, _, rfl⟩ | rfl
  · rfl
  · rcases classifyProtocolError_cases error runtime.sanitizer with heq | ⟨diagnostic, heq⟩
    · rw [heq]
      rfl
    · rw [heq]
      rfl
  · rfl

/-- Every request is answered exactly once by the time the loop is left. A
result comes from a later response that carries the request's id and is valid
for it. A mutation whose frame was handed to the child is told a result, the
error of such a response or that its outcome is unknown, and never that the
runtime is disconnected or that something was not found. -/
theorem request_answered {arrival : Arrival} (harrival : arrivals[channel]? = some arrival)
    (hrequest : arrival.input = .command (.request request))
    (hclosed : (Actor.run runtime arrivals).closed) :
    ∃ reply, (Actor.run runtime arrivals).replies.filter (fun entry => entry.1 = channel) =
        [(channel, reply)] ∧
      (∀ value, requestResult reply = .ok value →
        ∃ round frame result, RespondsTo runtime arrivals channel round frame ∧
          frame.get "result" = some result ∧ value = runtime.sanitizer.sanitizeValue result ∧
            validResponseResult request.kind value) ∧
      (request.mutation → Handed runtime arrivals channel request →
        Definite runtime arrivals channel request (requestResult reply) ∧
          isRetryable (requestResult reply) = false) := by
  have served : Served (Told runtime arrivals channel request)
      (Waits runtime arrivals channel request arrivals.length) arrivals.length
      (commandChannels (arrivals.take arrivals.length))
      (Actor.run runtime (arrivals.take arrivals.length)) :=
    served_take harrival hrequest (Nat.le_refl arrivals.length)
  rw [List.take_length] at served
  have hcount : ((Actor.run runtime arrivals).replies.map (·.1)).count channel = 1 := by
    rw [← channels_of_finished (served.finished hclosed), served.channels.count_eq]
    apply count_commandChannels harrival
    unfold expectsReply
    rw [hrequest]
  obtain ⟨reply, hreply⟩ := exists_reply_of_count hcount
  have hmem : (channel, reply) ∈ (Actor.run runtime arrivals).replies := by
    apply List.mem_of_mem_filter
    rw [hreply]
    exact List.mem_singleton_self _
  have honest := served.told channel reply hmem rfl
  refine ⟨reply, hreply, ?_, ?_⟩
  · intro value hvalue
    rw [hvalue] at honest
    cases honest with
    | accepted round frame result responds hresult hvalid =>
        exact ⟨round, frame, result, responds, hresult, rfl, hvalid⟩
  · intro hmutation handed
    have definite := honest.definite hmutation handed
    exact ⟨definite, definite.not_retryable⟩

end Run

/-! ## A request the provider refuses -/

section Sample

def logoutRuntime : Runtime := ⟨⟨"codex-logout", by decide +kernel⟩, ⟨[], none⟩⟩

theorem accountLogout_ne_loginStart : RequestKind.accountLogout ≠ .accountLoginStart := by
  intro h
  cases h

def logoutRequest : ClientRequest :=
  ⟨"account/logout", .object [], true, .accountLogout, accountLogout_ne_loginStart⟩

/-- A response to the request with an id. -/
def logoutResponse (id : Int) (result : Value) : Value :=
  .object [("id", .number (.integer id)), ("result", result)]

/-- An acknowledgement that does not fit the schema of a logout. -/
def malformedLogout : Value := .object [("done", .bool true)]

def inboundFrame (value : Value) : Arrival :=
  { input := .inbound (.frame value.toText value) }

/-- Two mutations that are answered out of order, the first with a malformed
acknowledgement and the second twice, and the end of the child. -/
def logoutRun : List Arrival :=
  [{ input := .command (.request logoutRequest) }, { input := .command (.request logoutRequest) },
    inboundFrame (logoutResponse 3 (.object [])), inboundFrame (logoutResponse 2 malformedLogout),
    inboundFrame (logoutResponse 3 (.object [])), { input := .inbound .eof }]

theorem logoutRun_handed :
    Handed logoutRuntime logoutRun 0 logoutRequest ∧
      Handed logoutRuntime logoutRun 1 logoutRequest :=
  ⟨⟨true, rfl⟩, ⟨true, rfl⟩⟩

set_option maxRecDepth 100000 in
/-- The first request is told neither a success nor an error that may be retried,
the second the result of its own response. -/
theorem logoutRun_answered :
    (∃ reply, (Actor.run logoutRuntime logoutRun).replies.filter (fun entry => entry.1 = 0) =
        [(0, reply)] ∧
      (∀ value, requestResult reply = .ok value →
        ∃ round frame result, RespondsTo logoutRuntime logoutRun 0 round frame ∧
          frame.get "result" = some result ∧ value = logoutRuntime.sanitizer.sanitizeValue result ∧
            validResponseResult logoutRequest.kind value) ∧
      Definite logoutRuntime logoutRun 0 logoutRequest (requestResult reply) ∧
      isRetryable (requestResult reply) = false) ∧
    ∃ reply, (Actor.run logoutRuntime logoutRun).replies.filter (fun entry => entry.1 = 1) =
        [(1, reply)] ∧
      requestResult reply = .ok (.object []) ∧
      ∃ round frame result, RespondsTo logoutRuntime logoutRun 1 round frame ∧
        frame.get "result" = some result ∧
          .object [] = logoutRuntime.sanitizer.sanitizeValue result ∧
            validResponseResult logoutRequest.kind (.object []) := by
  have hclosed : (Actor.run logoutRuntime logoutRun).closed := by decide +kernel
  constructor
  · have harrival : logoutRun[0]? = some { input := .command (.request logoutRequest) } := rfl
    obtain ⟨reply, hreply, haccepted, hmutation⟩ := request_answered harrival rfl hclosed
    exact ⟨reply, hreply, haccepted, hmutation rfl logoutRun_handed.1⟩
  · have harrival : logoutRun[1]? = some { input := .command (.request logoutRequest) } := rfl
    obtain ⟨reply, hreply, haccepted, _⟩ := request_answered harrival rfl hclosed
    have hresult : (Actor.run logoutRuntime logoutRun).replies.filter (fun entry => entry.1 = 1) =
        [(1, .request (.ok (.object [])))] := by
      rfl
    have hsame : reply = .request (.ok (.object [])) := by
      rw [hresult] at hreply
      cases hreply
      rfl
    have hok : requestResult reply = .ok (.object []) := by
      rw [hsame]
      rfl
    exact ⟨reply, hreply, hok, haccepted _ hok⟩

end Sample

end Actor

end YakShed.Codex
