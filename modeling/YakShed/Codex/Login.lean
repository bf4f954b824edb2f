/-
# The account login

A login start is one request that many callers may wait for. Its response, the
completion of the login and the account's updates come in any order; until the
response is there the other messages are parked in the state that starts. What
an arrival means for the login is one of a few events, and the login goes from
event to event like a machine of its own.

Two events break the rule that everybody who waits is told. A response to an
account read or a logout forgets the login together with those who wait for it,
and a second completion takes the only place where completions are parked. Runs
without these two are the runs in which the login settles.
-/

import YakShed.Codex.Replies

namespace YakShed.Codex

open Json

/-! ## Events of a login -/

/-- What an arrival means for the login. -/
inductive LoginEvent
  | asked
  | answered (id : Nat) (result : Except HarnessError HarnessAccountStatus)
  | completed (loginId : String) (success : Bool)
  | refreshed
  | forgotten
  | other

namespace Actor

variable {runtime : Runtime} {actor after : Actor} {arrival : Arrival}

/-- The outcome of a request that a response settles. -/
def responseOutcome (runtime : Runtime) (pending : PendingClient) (value : Value) :
    Except HarnessError Value :=
  match value.get "error", value.get "result" with
  | some error, none => .error (classifyProtocolError error runtime.sanitizer)
  | none, none => .error (malformedAckError pending)
  | error, some result =>
      let result := runtime.sanitizer.sanitizeValue result
      if error.isSome || !validResponseResult pending.kind result then
        .error (malformedAckError pending)
      else .ok result

/-- A result that shows there is an account, or that there is none any more. -/
def endsLogin (kind : RequestKind) (result : Value) : Bool :=
  match kind with
  | .accountRead => !((result.get "account").getD .null).isNull
  | .accountLogout => true
  | _ => false

/-- What a response to a pending request means for the login. -/
def answerEvent (runtime : Runtime) (id : Nat) (pending : PendingClient) (value : Value) :
    LoginEvent :=
  if pending.kind = .accountLoginStart then
    .answered id ((responseOutcome runtime pending value).map loginStatus)
  else
    match responseOutcome runtime pending value with
    | .ok result => if endsLogin pending.kind result then .forgotten else .other
    | .error _ => .other

def responseEvent (runtime : Runtime) (actor : Actor) (value : Value) : LoginEvent :=
  match (value.get "id").bind Value.asU64 with
  | none => .other
  | some id =>
      match actor.pending.find id with
      | none => .other
      | some pending => answerEvent runtime id pending value

def frameEvent (runtime : Runtime) (actor : Actor) (value : Value) : LoginEvent :=
  if (value.get "method").isNone then actor.responseEvent runtime value
  else if frameMethod value = "account/login/completed" then
    match accountLoginCompletion (runtime.sanitizer.sanitizeValue value) with
    | some (loginId, success) => .completed loginId success
    | none => .forgotten
  else if frameMethod value = "account/updated" then
    if validAccountUpdated (runtime.sanitizer.sanitizeValue value) then .refreshed else .other
  else .other

def loginEvent (runtime : Runtime) (actor : Actor) : Input → LoginEvent
  | .command .accountLoginStart => .asked
  | .inbound (.frame _ value) => actor.frameEvent runtime value
  | _ => .other

end Actor

namespace LoginEvent

open Actor

/-- The login after an event of a round. -/
def next (round : Nat) (login : Option AccountLoginState) : LoginEvent → Option AccountLoginState
  | .asked =>
      match login with
      | some (.starting waiters completion updated) =>
          some (.starting (waiters ++ [round]) completion updated)
      | some (.pending loginId authUrl) => some (.pending loginId authUrl)
      | some .failed | none => some (.starting [round] none false)
  | .answered _ result =>
      match login, result with
      | some (.starting _ completion updated), .ok (.loginInProgress loginId authUrl) =>
          loginAcknowledged completion updated loginId authUrl
      | _, _ => none
  | .completed loginId success =>
      match login with
      | some (.starting waiters _ updated) =>
          some (.starting waiters (some (loginId, success)) updated)
      | some (.pending pending authUrl) =>
          if pending = loginId then (if success then none else some .failed)
          else some (.pending pending authUrl)
      | some .failed => some .failed
      | none => none
  | .refreshed =>
      match login with
      | some (.starting waiters completion _) => some (.starting waiters completion true)
      | _ => none
  | .forgotten => none
  | .other => login

/-- The channels of those who wait for a login. -/
def waiting : Option AccountLoginState → List Nat
  | some (.starting waiters _ _) => waiters
  | _ => []

/-- What an event of a round tells those who asked for a login. -/
def tells (round : Nat) (login : Option AccountLoginState) : LoginEvent → List (Nat × Reply)
  | .asked =>
      match login with
      | some (.pending loginId authUrl) =>
          [(round, .loginStart (.ok (.loginInProgress loginId authUrl)))]
      | _ => []
  | .answered _ result => (waiting login).map fun waiter => (waiter, .loginStart result)
  | .forgotten => (waiting login).map fun waiter => (waiter, .dropped)
  | .completed _ _ | .refreshed | .other => []

end LoginEvent

namespace Actor

variable {runtime : Runtime} {actor after : Actor} {arrival : Arrival} {callers : Nat → Prop}

/-- A login start waits for its response under this id. -/
def StartPending (actor : Actor) (id : Nat) : Prop :=
  ∃ pending, actor.pending.find id = some pending ∧ pending.kind = .accountLoginStart

/-- A caller who asks now has a start request sent. -/
def SendsStart (actor : Actor) : Prop :=
  actor.accountLogin = none ∨ actor.accountLogin = some .failed

/-- The start requests that wait after an event. -/
def StartsAfter (actor : Actor) (id : Nat) : LoginEvent → Prop
  | .asked => (actor.SendsStart ∧ id = actor.nextId) ∨ actor.StartPending id
  | .answered answered _ => id ≠ answered ∧ actor.StartPending id
  | _ => actor.StartPending id

/-- Between two states an event has happened to the login, and callers have been
told what the event tells them. -/
structure LoginStep (callers : Nat → Prop) (actor after : Actor) (event : LoginEvent) : Prop where
  login : after.accountLogin = event.next actor.round actor.accountLogin
  starts : ∀ id, after.StartPending id ↔ actor.StartsAfter id event
  told : ∀ channel reply, callers channel → (channel, reply) ∈ after.replies →
    (channel, reply) ∈ actor.replies ∨ (channel, reply) ∈ event.tells actor.round actor.accountLogin
  tells : ∀ entry ∈ event.tells actor.round actor.accountLogin, entry ∈ after.replies

/-! ## Messages that are not about the login -/

theorem accountLogin_foldl {α : Type} {f : Actor → α → Actor}
    (hf : ∀ actor item, (f actor item).accountLogin = actor.accountLogin) (items : List α) :
    (items.foldl f actor).accountLogin = actor.accountLogin := by
  induction items generalizing actor with
  | nil => rfl
  | cons item rest ih =>
      rw [List.foldl_cons, ih]
      exact hf actor item

theorem accountLogin_dispatch (completesRun : Bool) (run : Option ProviderRunHandle)
    (actor : Actor) (event : NativeEvent) :
    (dispatch completesRun run actor event).accountLogin = actor.accountLogin := by
  unfold dispatch
  split
  · rfl
  · split
    · cases run with
      | none => rfl
      | some run => rfl
    · rfl
  · rfl

theorem accountLogin_reduceMessage (method native : String) (value : Value)
    (run : Option ProviderRunHandle) (request : Option ProviderRequestHandle) :
    (actor.reduceMessage method native value run request).accountLogin = actor.accountLogin := by
  unfold reduceMessage
  exact accountLogin_foldl (accountLogin_dispatch _ _) _

theorem accountLogin_handleMessage {writable : Bool} {raw method : String} {value : Value}
    (h : actor.handleMessage runtime writable raw value method = .ok after) :
    after.accountLogin = actor.accountLogin := by
  unfold handleMessage at h
  dsimp only at h
  split at h
  · split at h
    · cases h
      exact accountLogin_reduceMessage _ _ _ _ _
    · split at h
      · cases h
        rfl
      · cases h
  · split at h
    · cases h
      rfl
    · cases h
      exact accountLogin_reduceMessage _ _ _ _ _

/-! ## One event -/

theorem StartPending.of_pending (hpending : after.pending = actor.pending) (id : Nat) :
    after.StartPending id ↔ actor.StartPending id := by
  unfold StartPending
  rw [hpending]

/-- What leaves the login, the pending requests and what callers are told alone. -/
theorem LoginStep.other (hlogin : after.accountLogin = actor.accountLogin)
    (hstarts : ∀ id, after.StartPending id ↔ actor.StartPending id)
    (htold : ∀ channel reply, callers channel → (channel, reply) ∈ after.replies →
      (channel, reply) ∈ actor.replies) : LoginStep callers actor after .other where
  login := hlogin
  starts := hstarts
  told := fun channel reply hcaller hmem => .inl (htold channel reply hcaller hmem)
  tells := by
    intro entry hmem
    cases hmem

theorem LoginStep.same (hlogin : after.accountLogin = actor.accountLogin)
    (hpending : after.pending = actor.pending) (hreplies : after.replies = actor.replies) :
    LoginStep callers actor after .other := by
  apply LoginStep.other hlogin (StartPending.of_pending hpending)
  intro channel reply _ hmem
  rw [hreplies] at hmem
  exact hmem

/-- A reply to a channel that did not ask for a login. -/
theorem LoginStep.reply {channel : Nat} (hcaller : ¬ callers channel) (reply : Reply) :
    LoginStep callers actor (actor.reply channel reply) .other := by
  apply LoginStep.other
  · rfl
  · exact fun id => Iff.rfl
  · intro channel' reply' hcaller' hmem
    rcases List.mem_append.mp hmem with hmem | hmem
    · exact hmem
    · cases List.mem_singleton.mp hmem
      exact absurd hcaller' hcaller

/-- An event that tells its replies and nothing else. -/
theorem LoginStep.of_replies {event : LoginEvent}
    (hlogin : after.accountLogin = event.next actor.round actor.accountLogin)
    (hstarts : ∀ id, after.StartPending id ↔ actor.StartsAfter id event)
    (hreplies : after.replies = actor.replies ++ event.tells actor.round actor.accountLogin) :
    LoginStep callers actor after event where
  login := hlogin
  starts := hstarts
  told := by
    intro channel reply _ hmem
    rw [hreplies] at hmem
    exact List.mem_append.mp hmem
  tells := by
    intro entry hmem
    rw [hreplies]
    exact List.mem_append_right _ hmem

/-- After an event a channel that did not ask for a login is told something. -/
theorem LoginStep.replied {event : LoginEvent} (h : LoginStep callers actor after event)
    {channel : Nat} (hcaller : ¬ callers channel) (reply : Reply) :
    LoginStep callers actor (after.reply channel reply) event where
  login := h.login
  starts := h.starts
  told := by
    intro channel' reply' hcaller' hmem
    rcases List.mem_append.mp hmem with hmem | hmem
    · exact h.told channel' reply' hcaller' hmem
    · cases List.mem_singleton.mp hmem
      exact absurd hcaller' hcaller
  tells := fun entry hmem => List.mem_append_left _ (h.tells entry hmem)

theorem waiting_accountLogin (actor : Actor) :
    LoginEvent.waiting actor.accountLogin = actor.waiters := by
  unfold LoginEvent.waiting waiters
  rfl

/-! ## Account notifications -/

theorem loginStep_loginCompleted (value : Value) :
    LoginStep callers actor (actor.loginCompleted runtime value)
      (match accountLoginCompletion (runtime.sanitizer.sanitizeValue value) with
        | some (loginId, success) => .completed loginId success
        | none => .forgotten) := by
  unfold loginCompleted
  cases accountLoginCompletion (runtime.sanitizer.sanitizeValue value) with
  | none =>
      apply LoginStep.of_replies rfl fun id => Iff.rfl
      show actor.replies ++ actor.waiters.map (fun waiter => (waiter, Reply.dropped)) = _
      rw [← waiting_accountLogin]
      rfl
  | some completion =>
      obtain ⟨loginId, success⟩ := completion
      dsimp only
      cases hlogin : actor.accountLogin with
      | none =>
          apply LoginStep.of_replies
          · rw [hlogin]
            rfl
          · exact fun id => Iff.rfl
          · exact (List.append_nil _).symm
      | some state =>
          cases state with
          | starting waiters completion updated =>
              apply LoginStep.of_replies
              · rw [hlogin]
                rfl
              · exact fun id => Iff.rfl
              · exact (List.append_nil _).symm
          | pending pending authUrl =>
              dsimp only
              by_cases heq : pending = loginId
              · rw [if_pos heq]
                apply LoginStep.of_replies
                · rw [hlogin]
                  exact (if_pos heq).symm
                · exact fun id => Iff.rfl
                · exact (List.append_nil _).symm
              · rw [if_neg heq]
                apply LoginStep.of_replies
                · rw [hlogin]
                  exact (if_neg heq).symm
                · exact fun id => Iff.rfl
                · exact (List.append_nil _).symm
          | failed =>
              apply LoginStep.of_replies
              · rw [hlogin]
                rfl
              · exact fun id => Iff.rfl
              · exact (List.append_nil _).symm

theorem loginStep_accountUpdated (value : Value) :
    LoginStep callers actor (actor.accountUpdated runtime value)
      (if validAccountUpdated (runtime.sanitizer.sanitizeValue value) then .refreshed
        else .other) := by
  unfold accountUpdated
  split
  · apply LoginStep.of_replies
    · cases hlogin : actor.accountLogin with
      | none => rfl
      | some state =>
          cases state with
          | starting waiters completion updated => rfl
          | pending pending authUrl => rfl
          | failed => rfl
    · intro id
      apply StartPending.of_pending
      split
      · rfl
      · rfl
    · rw [LoginEvent.tells, List.append_nil]
      split
      · rfl
      · rfl
  · exact LoginStep.same rfl rfl rfl

/-! ## Responses -/

/-- The answer to a pending request is its outcome, which a diagnostic or the
acknowledgement of the request comes before. -/
theorem answerPending_eq (raw : String) (value : Value) (pending : PendingClient) :
    actor.answerPending runtime raw value pending =
      match responseOutcome runtime pending value with
      | .ok result =>
          (actor.acknowledge runtime pending.kind raw result).completeClientRequest pending
            (.ok result)
      | .error error =>
          (actor.pushDiagnostic (match value.get "error", value.get "result" with
            | some _, none => error.toText
            | _, _ => runtime.sanitizer.sanitize raw)).completeClientRequest pending
              (.error error) := by
  unfold answerPending responseOutcome
  cases herror : value.get "error" with
  | none =>
      cases hresult : value.get "result" with
      | none => rfl
      | some result =>
          dsimp only
          by_cases hvalid : validResponseResult pending.kind
              (runtime.sanitizer.sanitizeValue result)
          · rw [hvalid, mismatchedThread_eq_none hvalid]
            rfl
          · rw [Bool.not_eq_true] at hvalid
            rw [hvalid]
            rfl
  | some error =>
      cases hresult : value.get "result" with
      | none => rfl
      | some result => rfl

/-- What is done to the login while a request is acknowledged. -/
theorem loginStep_acknowledge (kind : RequestKind) (raw : String) (result : Value) :
    LoginStep callers actor (actor.acknowledge runtime kind raw result)
      (if endsLogin kind result then .forgotten else .other) := by
  have hforget : LoginStep callers actor actor.forgetLogin .forgotten := by
    apply LoginStep.of_replies rfl fun id => Iff.rfl
    show actor.replies ++ actor.waiters.map (fun waiter => (waiter, Reply.dropped)) = _
    rw [← waiting_accountLogin]
    rfl
  unfold acknowledge endsLogin
  cases kind with
  | session expectedThreadId =>
      dsimp only
      split
      · exact LoginStep.same rfl rfl rfl
      · exact LoginStep.same rfl rfl rfl
  | startRun sessionId =>
      dsimp only
      split
      · exact LoginStep.same rfl rfl rfl
      · exact LoginStep.same rfl rfl rfl
  | accountRead =>
      dsimp only
      cases ((result.get "account").getD .null).isNull with
      | true => exact LoginStep.same rfl rfl rfl
      | false => exact hforget
  | accountLogout => exact hforget
  | emptyObject => exact LoginStep.same rfl rfl rfl
  | accountLoginStart => exact LoginStep.same rfl rfl rfl
  | threadList => exact LoginStep.same rfl rfl rfl
  | turnSteer expectedTurnId => exact LoginStep.same rfl rfl rfl

/-- The response to a login start settles it. -/
theorem loginStep_settleLoginStart {id : Nat}
    (result : Except HarnessError HarnessAccountStatus)
    (hlogin : after.accountLogin = actor.accountLogin)
    (hpending : after.pending = actor.pending.remove id)
    (hreplies : after.replies = actor.replies) :
    LoginStep callers actor (after.settleLoginStart result) (.answered id result) := by
  have hstarts : ∀ id', (after.settleLoginStart result).StartPending id' ↔
      actor.StartsAfter id' (.answered id result) := by
    intro id'
    have hsettled : (after.settleLoginStart result).pending = actor.pending.remove id := by
      rw [← hpending]
      unfold settleLoginStart
      split
      · rfl
      · rfl
    unfold StartsAfter StartPending
    rw [hsettled, Dict.find_remove]
    by_cases heq : id' = id
    · rw [if_pos heq]
      constructor
      · rintro ⟨pending, hfind, _⟩
        cases hfind
      · intro hne
        exact absurd heq hne.1
    · rw [if_neg heq]
      exact ⟨fun h => ⟨heq, h⟩, fun h => h.2⟩
  apply LoginStep.of_replies _ hstarts
  · unfold settleLoginStart LoginEvent.tells LoginEvent.waiting
    rw [hlogin, hreplies]
    cases actor.accountLogin with
    | none => exact (List.append_nil _).symm
    | some state =>
        cases state with
        | starting waiters completion updated => rfl
        | pending pending authUrl => exact (List.append_nil _).symm
        | failed => exact (List.append_nil _).symm
  · unfold settleLoginStart LoginEvent.next
    rw [hlogin]
    cases actor.accountLogin with
    | none => rfl
    | some state =>
        cases state with
        | pending pending authUrl => rfl
        | failed => rfl
        | starting waiters completion updated =>
            cases result with
            | error error => rfl
            | ok status =>
                cases status with
                | unknown => rfl
                | loginInProgress loginId authUrl => rfl

/-- A request that is no login start and is taken off the map leaves the login's alone. -/
theorem StartPending.take {id : Nat} {pending : PendingClient}
    (hfind : actor.pending.find id = some pending) (hkind : pending.kind ≠ .accountLoginStart)
    (id' : Nat) : (actor.take id).StartPending id' ↔ actor.StartPending id' := by
  unfold StartPending
  show (∃ pending, (actor.pending.remove id).find id' = some pending ∧ _) ↔ _
  by_cases heq : id' = id
  · rw [heq, Dict.find_remove, if_pos rfl, hfind]
    constructor
    · rintro ⟨_, hnone, _⟩
      cases hnone
    · rintro ⟨_, hsome, hstart⟩
      cases hsome
      exact absurd hstart hkind
  · rw [Dict.find_remove_ne heq]

/-- What happens once a request has been taken happens to the actor that had it. -/
theorem LoginStep.of_take {id : Nat} {pending : PendingClient} {event : LoginEvent}
    (hfind : actor.pending.find id = some pending) (hkind : pending.kind ≠ .accountLoginStart)
    (hevent : event = .forgotten ∨ event = .other)
    (h : LoginStep callers (actor.take id) after event) : LoginStep callers actor after event where
  login := h.login
  starts := by
    intro id'
    have hstarts := h.starts id'
    rcases hevent with rfl | rfl
    · exact hstarts.trans (StartPending.take hfind hkind id')
    · exact hstarts.trans (StartPending.take hfind hkind id')
  told := h.told
  tells := h.tells

theorem loginStep_handleResponse (raw : String) (value : Value)
    (hcallers : ∀ id pending channel, actor.pending.find id = some pending →
      pending.reply = some channel → ¬ callers channel) :
    LoginStep callers actor (actor.handleResponse runtime raw value)
      (actor.responseEvent runtime value) := by
  unfold handleResponse responseEvent
  cases (value.get "id").bind Value.asU64 with
  | none => exact LoginStep.same rfl rfl rfl
  | some id =>
      dsimp only
      cases hfind : actor.pending.find id with
      | none => exact LoginStep.same rfl rfl rfl
      | some pending =>
          show LoginStep callers actor ((actor.take id).answerPending runtime raw value pending)
            (answerEvent runtime id pending value)
          rw [answerPending_eq]
          unfold answerEvent
          by_cases hkind : pending.kind = .accountLoginStart
          · rw [if_pos hkind]
            cases responseOutcome runtime pending value with
            | error error =>
                dsimp only
                unfold completeClientRequest
                rw [if_pos hkind]
                exact loginStep_settleLoginStart _ rfl rfl rfl
            | ok result =>
                dsimp only
                unfold completeClientRequest
                rw [if_pos hkind, hkind]
                exact loginStep_settleLoginStart _ rfl rfl rfl
          · rw [if_neg hkind]
            have hcomplete : ∀ {event : LoginEvent} {after : Actor}
                (result : Except HarnessError Value), event = .forgotten ∨ event = .other →
                LoginStep callers (actor.take id) after event →
                  LoginStep callers actor (after.completeClientRequest pending result) event := by
              intro event after result hevent h
              unfold completeClientRequest
              rw [if_neg hkind]
              cases hreply : pending.reply with
              | none => exact h.of_take hfind hkind hevent
              | some channel =>
                  exact (h.of_take hfind hkind hevent).replied
                    (hcallers id pending channel hfind hreply) _
            cases responseOutcome runtime pending value with
            | error error => exact hcomplete _ (.inr rfl) (LoginStep.same rfl rfl rfl)
            | ok result =>
                apply hcomplete _ _ (loginStep_acknowledge pending.kind raw result)
                cases endsLogin pending.kind result with
                | true => exact .inl rfl
                | false => exact .inr rfl

theorem loginStep_handleFrame {writable : Bool} {raw : String} {value : Value}
    (hcallers : ∀ id pending channel, actor.pending.find id = some pending →
      pending.reply = some channel → ¬ callers channel)
    (h : actor.handleFrame runtime writable raw value = .ok after) :
    LoginStep callers actor after (actor.frameEvent runtime value) := by
  unfold handleFrame at h
  unfold frameEvent
  split at h
  · next hmethod =>
    cases h
    rw [if_pos hmethod]
    exact loginStep_handleResponse raw value hcallers
  · next hmethod =>
    rw [if_neg hmethod]
    split at h
    · next hcompleted =>
      cases h
      rw [if_pos hcompleted]
      exact loginStep_loginCompleted value
    · next hcompleted =>
      rw [if_neg hcompleted]
      split at h
      · next hupdated =>
        cases h
        rw [if_pos hupdated]
        exact loginStep_accountUpdated value
      · next hupdated =>
        rw [if_neg hupdated]
        have same := sameReplies_handleMessage h
        exact LoginStep.same (accountLogin_handleMessage h) same.pending same.replies

/-! ## Commands -/

theorem loginStep_handleRequest (numbered : Numbered actor) (hround : ¬ callers actor.round)
    (request : ClientRequest)
    (hafter : (actor.handleRequest runtime arrival request).closed = false) :
    LoginStep callers actor (actor.handleRequest runtime arrival request) .other := by
  unfold handleRequest at hafter ⊢
  split
  · exact LoginStep.reply hround _
  · next hmissing =>
    rw [hmissing] at hafter
    dsimp only at hafter ⊢
    cases hwritable : arrival.writable with
    | false =>
        rw [hwritable, if_neg Bool.false_ne_true] at hafter
        cases hafter
    | true =>
        rw [if_pos rfl]
        apply LoginStep.other
        · rfl
        · intro id
          show (∃ pending, (actor.pending.set actor.nextId _).find id = some pending ∧ _) ↔ _
          by_cases heq : id = actor.nextId
          · rw [heq, Dict.find_set_self]
            constructor
            · rintro ⟨pending, hfind, hkind⟩
              cases hfind
              exact absurd hkind request.notLogin
            · rintro ⟨pending, hfind, _⟩
              exact absurd (numbered.ids _ _ hfind) (Nat.lt_irrefl _)
          · rw [Dict.find_set_ne heq]
            rfl
        · exact fun channel reply _ hmem => hmem

theorem loginStep_handleRespond (hround : ¬ callers actor.round)
    (request : ProviderRequestHandle) (response : ProviderResponse)
    (hafter : (actor.handleRespond runtime arrival request response).closed = false) :
    LoginStep callers actor (actor.handleRespond runtime arrival request response) .other := by
  unfold handleRespond at hafter ⊢
  split
  · exact LoginStep.reply hround _
  · next pending hfind =>
    rw [hfind] at hafter
    dsimp only at hafter
    split
    · exact LoginStep.reply hround _
    · next huncertain =>
      rw [if_neg huncertain] at hafter
      split
      · exact LoginStep.reply hround _
      · next result hresult =>
        rw [hresult] at hafter
        dsimp only at hafter ⊢
        cases hwritable : arrival.writable with
        | false =>
            rw [hwritable, if_neg Bool.false_ne_true] at hafter
            cases hafter
        | true =>
            rw [if_pos rfl]
            apply LoginStep.replied _ hround
            exact LoginStep.same rfl rfl rfl

theorem loginStep_sendLoginStart (hsends : actor.SendsStart)
    (hafter : (actor.sendLoginStart runtime arrival).closed = false) :
    LoginStep callers actor (actor.sendLoginStart runtime arrival) .asked := by
  unfold sendLoginStart at hafter ⊢
  dsimp only at hafter ⊢
  cases hwritable : arrival.writable with
  | false =>
      rw [hwritable, if_neg Bool.false_ne_true] at hafter
      cases hafter
  | true =>
      rw [if_pos rfl]
      apply LoginStep.of_replies
      · rcases hsends with hnone | hfailed
        · rw [hnone]
          rfl
        · rw [hfailed]
          rfl
      · intro id
        show (∃ pending, (actor.pending.set actor.nextId _).find id = some pending ∧ _) ↔
          (actor.SendsStart ∧ id = actor.nextId) ∨ actor.StartPending id
        by_cases heq : id = actor.nextId
        · rw [heq, Dict.find_set_self]
          exact ⟨fun _ => .inl ⟨hsends, rfl⟩, fun _ => ⟨_, rfl, rfl⟩⟩
        · rw [Dict.find_set_ne heq]
          constructor
          · exact .inr
          · rintro (⟨_, h⟩ | h)
            · exact absurd h heq
            · exact h
      · rcases hsends with hnone | hfailed
        · rw [hnone]
          exact (List.append_nil _).symm
        · rw [hfailed]
          exact (List.append_nil _).symm

theorem loginStep_handleLoginStart
    (hafter : (actor.handleLoginStart runtime arrival).closed = false) :
    LoginStep callers actor (actor.handleLoginStart runtime arrival) .asked := by
  have hstarts : ∀ {after : Actor}, ¬ actor.SendsStart → after.pending = actor.pending →
      ∀ id, after.StartPending id ↔ actor.StartsAfter id .asked := by
    intro after hsends hpending id
    refine (StartPending.of_pending hpending id).trans ⟨.inr, ?_⟩
    rintro (⟨h, _⟩ | h)
    · exact absurd h hsends
    · exact h
  unfold handleLoginStart at hafter ⊢
  split
  · next waiters completion updated hlogin =>
    apply LoginStep.of_replies
    · rw [hlogin]
      rfl
    · apply hstarts _ rfl
      rintro (h | h)
      · cases hlogin.symm.trans h
      · cases hlogin.symm.trans h
    · rw [hlogin]
      exact (List.append_nil _).symm
  · next loginId authUrl hlogin =>
    apply LoginStep.of_replies
    · rw [hlogin]
      exact hlogin
    · apply hstarts _ rfl
      rintro (h | h)
      · cases hlogin.symm.trans h
      · cases hlogin.symm.trans h
    · rw [hlogin]
      rfl
  · next hlogin =>
    rw [hlogin] at hafter
    exact loginStep_sendLoginStart (.inr hlogin) hafter
  · next hlogin =>
    rw [hlogin] at hafter
    exact loginStep_sendLoginStart (.inl hlogin) hafter

theorem loginStep_handleCommand (numbered : Numbered actor) {message : CommandMessage}
    (hround : message ≠ .accountLoginStart → ¬ callers actor.round)
    (hafter : (actor.handleCommand runtime arrival message).closed = false) :
    LoginStep callers actor (actor.handleCommand runtime arrival message)
      (actor.loginEvent runtime (.command message)) := by
  cases message with
  | request request =>
      exact loginStep_handleRequest numbered (hround (fun h => by cases h)) request hafter
  | respond request response =>
      exact loginStep_handleRespond (hround (fun h => by cases h)) request response hafter
  | diagnostics => exact LoginStep.reply (hround (fun h => by cases h)) _
  | recordDiagnostic diagnostic => exact LoginStep.same rfl rfl rfl
  | health => exact LoginStep.reply (hround (fun h => by cases h)) _
  | accountLoginStatus => exact LoginStep.reply (hround (fun h => by cases h)) _
  | accountLoginStart => exact loginStep_handleLoginStart hafter
  | shutdown => cases hafter

/-! ## One round -/

theorem loginStep_handleInbound {inbound : Inbound}
    (hcallers : ∀ id pending channel, actor.pending.find id = some pending →
      pending.reply = some channel → ¬ callers channel)
    (hafter : (actor.handleInbound runtime arrival inbound).closed = false) :
    LoginStep callers actor (actor.handleInbound runtime arrival inbound)
      (actor.loginEvent runtime (.inbound inbound)) := by
  cases inbound with
  | frame raw value =>
      unfold handleInbound at hafter ⊢
      dsimp only at hafter ⊢
      cases hframe : actor.handleFrame runtime arrival.writable raw value with
      | ok after => exact loginStep_handleFrame hcallers hframe
      | error error =>
          rw [hframe] at hafter
          cases hafter
  | malformed raw => exact LoginStep.same rfl rfl rfl
  | oversized start => exact LoginStep.same rfl rfl rfl
  | stderr chunk => exact LoginStep.same rfl rfl rfl
  | eof => cases hafter

/-- A round that leaves the runtime alive is one event of the login. -/
theorem loginStep_step (numbered : Numbered actor)
    (hcallers : ∀ id pending channel, actor.pending.find id = some pending →
      pending.reply = some channel → ¬ callers channel)
    (hround : callers actor.round → arrival.input = .command .accountLoginStart)
    (hopen : actor.closed = false) (hafter : (actor.step runtime arrival).closed = false) :
    LoginStep callers actor (actor.step runtime arrival)
      (actor.loginEvent runtime arrival.input) := by
  have hinput : LoginStep callers actor (actor.handleInput runtime arrival)
      (actor.loginEvent runtime arrival.input) := by
    change (actor.handleInput runtime arrival).closed = false at hafter
    unfold handleInput at hafter ⊢
    rw [hopen, if_neg Bool.false_ne_true] at hafter ⊢
    cases hmessage : arrival.input with
    | command message =>
        rw [hmessage] at hafter
        apply loginStep_handleCommand numbered _ hafter
        intro hne hcaller
        rw [hmessage] at hround
        exact hne (Input.command.inj (hround hcaller))
    | hangup =>
        rw [hmessage] at hafter
        cases hafter
    | inbound inbound =>
        rw [hmessage] at hafter
        exact loginStep_handleInbound hcallers hafter
  exact ⟨hinput.login, hinput.starts, hinput.told, hinput.tells⟩

/-- A runtime that is alive after a round was alive before. -/
theorem closed_of_step (hafter : (actor.step runtime arrival).closed = false) :
    actor.closed = false := by
  cases hclosed : actor.closed with
  | false => rfl
  | true =>
      change (actor.handleInput runtime arrival).closed = false at hafter
      unfold handleInput at hafter
      rw [if_pos hclosed] at hafter
      have habandoned : (actor.abandon arrival.input).closed = actor.closed := by
        unfold abandon
        split
        · rfl
        · rfl
        · rfl
        · rfl
      exact absurd (hclosed.symm.trans (habandoned.symm.trans hafter)) (by decide)

/-! ## Whole runs -/

section Run

variable {arrivals : List Arrival} {caller sent round : Nat}

/-- A round's command asks for a login. -/
def AsksLogin (arrivals : List Arrival) (caller : Nat) : Prop :=
  ∃ arrival, arrivals[caller]? = some arrival ∧ arrival.input = .command .accountLoginStart

/-- The event of a round of a run. -/
def eventAt (runtime : Runtime) (arrivals : List Arrival) (round : Nat) : Option LoginEvent :=
  arrivals[round]?.map fun arrival =>
    (Actor.run runtime (arrivals.take round)).loginEvent runtime arrival.input

/-- A caller for whom the start request is sent. -/
structure SendsLogin (runtime : Runtime) (arrivals : List Arrival) (sent : Nat) : Prop where
  asks : AsksLogin arrivals sent
  pending : (Actor.run runtime (arrivals.take (sent + 1))).StartPending
    (requestId runtime arrivals sent)

/-- The start request that was sent for one caller is answered in a round. -/
structure StartAnswered (runtime : Runtime) (arrivals : List Arrival) (sent round : Nat)
    (result : Except HarnessError HarnessAccountStatus) : Prop where
  sends : SendsLogin runtime arrivals sent
  answered : eventAt runtime arrivals round =
    some (.answered (requestId runtime arrivals sent) result)

/-- Before a round a well-formed completion of a login has arrived. -/
def Completed (runtime : Runtime) (arrivals : List Arrival) (round : Nat) (loginId : String) :
    Prop :=
  ∃ completion < round, ∃ success,
    eventAt runtime arrivals completion = some (.completed loginId success)

/-- Before a round a start request has been answered with a login. -/
def Started (runtime : Runtime) (arrivals : List Arrival) (round : Nat) (loginId : String) :
    Prop :=
  ∃ sent < round, ∃ answered < round, ∃ authUrl,
    StartAnswered runtime arrivals sent answered (.ok (.loginInProgress loginId authUrl))

/-- A caller still waits, and so does a start request that was sent for them or before. -/
structure StillWaits (runtime : Runtime) (arrivals : List Arrival) (round caller : Nat) :
    Prop where
  waits : caller ∈ (Actor.run runtime (arrivals.take round)).waiters
  untold : ∀ reply, (caller, reply) ∉ (Actor.run runtime (arrivals.take round)).replies
  pending : ∃ sent ≤ caller, SendsLogin runtime arrivals sent ∧
    (Actor.run runtime (arrivals.take round)).StartPending (requestId runtime arrivals sent)

/-- A caller has been told, once, the result of a start request that was sent for
them or before. -/
def ToldResult (runtime : Runtime) (arrivals : List Arrival) (round caller : Nat) : Prop :=
  ∃ result, (Actor.run runtime (arrivals.take round)).replies.filter
      (fun entry => entry.1 = caller) = [(caller, .loginStart result)] ∧
    ∃ sent ≤ caller, ∃ answered < round, StartAnswered runtime arrivals sent answered result

/-- The login is settled as far as it can be after the first rounds: every caller
has been told the result of the start request or waits for it, and a login that
has been answered and has been completed is not pending. -/
structure LoginSettles (runtime : Runtime) (arrivals : List Arrival) (round : Nat) : Prop where
  callers : ∀ caller < round, AsksLogin arrivals caller →
    StillWaits runtime arrivals round caller ∨ ToldResult runtime arrivals round caller
  ended : ∀ loginId, Started runtime arrivals round loginId →
    Completed runtime arrivals round loginId → ∀ authUrl,
      (Actor.run runtime (arrivals.take round)).accountLogin ≠ some (.pending loginId authUrl)

/-- The login is not forgotten while somebody waits for it, and when it starts
without an update its completion is the one that is parked. -/
structure InTurn (runtime : Runtime) (arrivals : List Arrival) (round : Nat) : Prop where
  kept : eventAt runtime arrivals round = some .forgotten →
    (Actor.run runtime (arrivals.take round)).waiters = []
  parked : ∀ id loginId authUrl waiters completion,
    eventAt runtime arrivals round = some (.answered id (.ok (.loginInProgress loginId authUrl))) →
      (Actor.run runtime (arrivals.take round)).accountLogin =
        some (.starting waiters completion false) →
      Completed runtime arrivals round loginId → ∃ success, completion = some (loginId, success)

/-- What the login is like after the first rounds of a run in which everything
came in turn. -/
structure LoginKept (runtime : Runtime) (arrivals : List Arrival) (round : Nat)
    (actor : Actor) : Prop where
  starting : ∀ waiters completion updated,
    actor.accountLogin = some (.starting waiters completion updated) →
      ∃ sent rest, waiters = sent :: rest ∧ SendsLogin runtime arrivals sent ∧
        actor.StartPending (requestId runtime arrivals sent) ∧
          ∀ waiter ∈ waiters, sent ≤ waiter ∧ waiter < round ∧ AsksLogin arrivals waiter
  starts : ∀ id, actor.StartPending id →
    ∃ sent rest completion updated,
      actor.accountLogin = some (.starting (sent :: rest) completion updated) ∧
        id = requestId runtime arrivals sent
  told : ∀ caller reply, AsksLogin arrivals caller → (caller, reply) ∈ actor.replies →
    ∃ result, reply = .loginStart result ∧
      ∃ sent ≤ caller, ∃ answered < round, StartAnswered runtime arrivals sent answered result
  pending : ∀ loginId authUrl, actor.accountLogin = some (.pending loginId authUrl) →
    ¬ Completed runtime arrivals round loginId ∧
      ∃ sent < round, ∃ answered < round,
        StartAnswered runtime arrivals sent answered (.ok (.loginInProgress loginId authUrl))

theorem completed_succ {loginId : String} (h : Completed runtime arrivals (round + 1) loginId) :
    Completed runtime arrivals round loginId ∨
      ∃ success, eventAt runtime arrivals round = some (.completed loginId success) := by
  obtain ⟨completion, hlt, success, hevent⟩ := h
  rcases Nat.lt_succ_iff_lt_or_eq.mp hlt with hlt | rfl
  · exact .inl ⟨completion, hlt, success, hevent⟩
  · exact .inr ⟨success, hevent⟩

theorem loginAcknowledged_ne_starting {completion : Option (String × Bool)} {updated : Bool}
    {loginId authUrl : String} {waiters : List Nat} {completion' : Option (String × Bool)}
    {updated' : Bool} : loginAcknowledged completion updated loginId authUrl ≠
      some (.starting waiters completion' updated') := by
  unfold loginAcknowledged
  split
  · exact fun h => by cases h
  · split
    · split
      · split
        · exact fun h => by cases h
        · exact fun h => by cases h
      · exact fun h => by cases h
    · exact fun h => by cases h

/-- A login that is pending once it is acknowledged was neither updated nor completed. -/
theorem loginAcknowledged_eq_pending {completion : Option (String × Bool)} {updated : Bool}
    {loginId authUrl loginId' authUrl' : String}
    (h : loginAcknowledged completion updated loginId authUrl =
      some (.pending loginId' authUrl')) :
    loginId' = loginId ∧ authUrl' = authUrl ∧ updated = false ∧
      ∀ success, completion ≠ some (loginId, success) := by
  unfold loginAcknowledged at h
  cases updated with
  | true => cases h
  | false =>
      rw [if_neg Bool.false_ne_true] at h
      cases completion with
      | none =>
          cases h
          exact ⟨rfl, rfl, rfl, fun success h => by cases h⟩
      | some completed =>
          obtain ⟨completedId, success⟩ := completed
          dsimp only at h
          by_cases heq : completedId = loginId
          · rw [if_pos heq] at h
            cases success with
            | true => cases h
            | false => cases h
          · rw [if_neg heq] at h
            cases h
            refine ⟨rfl, rfl, rfl, ?_⟩
            rintro success' h
            cases h
            exact heq rfl

/-- What callers are told stays right when an event tells them what it may. -/
theorem LoginKept.told_step {event : LoginEvent}
    (kept : LoginKept runtime arrivals round actor)
    (h : LoginStep (AsksLogin arrivals) actor after event)
    (hnew : ∀ caller reply, (caller, reply) ∈ event.tells actor.round actor.accountLogin →
      ∃ result, reply = .loginStart result ∧
        ∃ sent ≤ caller, ∃ answered < round + 1,
          StartAnswered runtime arrivals sent answered result) :
    ∀ caller reply, AsksLogin arrivals caller → (caller, reply) ∈ after.replies →
      ∃ result, reply = .loginStart result ∧
        ∃ sent ≤ caller, ∃ answered < round + 1,
          StartAnswered runtime arrivals sent answered result := by
  intro caller reply hasks hmem
  rcases h.told caller reply hasks hmem with hmem | hmem
  · obtain ⟨result, hreply, sent, hsent, answered, hanswered, hstart⟩ :=
      kept.told caller reply hasks hmem
    exact ⟨result, hreply, sent, hsent, answered, Nat.lt_succ_of_lt hanswered, hstart⟩
  · exact hnew caller reply hmem

/-- A login that an event leaves pending stays so rightly, unless it is completed. -/
theorem LoginKept.pending_step {loginId authUrl : String}
    (kept : LoginKept runtime arrivals round actor)
    (hlogin : actor.accountLogin = some (.pending loginId authUrl))
    (hevent : ∀ success, eventAt runtime arrivals round ≠ some (.completed loginId success)) :
    ¬ Completed runtime arrivals (round + 1) loginId ∧
      ∃ sent < round + 1, ∃ answered < round + 1,
        StartAnswered runtime arrivals sent answered (.ok (.loginInProgress loginId authUrl)) := by
  obtain ⟨hcompleted, sent, hsent, answered, hanswered, hstart⟩ :=
    kept.pending loginId authUrl hlogin
  refine ⟨?_, sent, Nat.lt_succ_of_lt hsent, answered, Nat.lt_succ_of_lt hanswered, hstart⟩
  intro hlater
  rcases completed_succ hlater with hearlier | ⟨success, hnow⟩
  · exact hcompleted hearlier
  · exact hevent success hnow

/-- A start that an event leaves starting keeps its request and those who wait. -/
theorem LoginKept.starting_step {waiters : List Nat}
    {completion completion' : Option (String × Bool)}
    {updated updated' : Bool} (kept : LoginKept runtime arrivals round actor)
    (hlogin : actor.accountLogin = some (.starting waiters completion updated))
    (hafter : after.accountLogin = some (.starting waiters completion' updated'))
    (hstarts : ∀ id, after.StartPending id ↔ actor.StartPending id)
    (htold : ∀ caller reply, AsksLogin arrivals caller → (caller, reply) ∈ after.replies →
      ∃ result, reply = .loginStart result ∧ ∃ sent ≤ caller, ∃ answered < round + 1,
        StartAnswered runtime arrivals sent answered result) :
    LoginKept runtime arrivals (round + 1) after where
  starting := by
    intro waiters' _ _ heq
    cases hafter.symm.trans heq
    obtain ⟨sent, rest, hwaiters, hsends, hpending, hall⟩ := kept.starting _ _ _ hlogin
    refine ⟨sent, rest, hwaiters, hsends, (hstarts _).mpr hpending, ?_⟩
    intro waiter hmem
    obtain ⟨hle, hlt, hasks⟩ := hall waiter hmem
    exact ⟨hle, Nat.lt_succ_of_lt hlt, hasks⟩
  starts := by
    intro id hstart
    obtain ⟨sent, rest, _, _, heq, hid⟩ := kept.starts id ((hstarts id).mp hstart)
    cases hlogin.symm.trans heq
    exact ⟨sent, rest, completion', updated', hafter, hid⟩
  told := htold
  pending := by
    intro loginId authUrl heq
    cases hafter.symm.trans heq

/-- Where no login starts there is no start request. -/
theorem LoginKept.not_startPending (kept : LoginKept runtime arrivals round actor)
    (hlogin : ∀ waiters completion updated,
      actor.accountLogin ≠ some (.starting waiters completion updated)) (id : Nat) :
    ¬ actor.StartPending id := by
  intro hstart
  obtain ⟨sent, rest, completion, updated, heq, _⟩ := kept.starts id hstart
  exact hlogin _ _ _ heq

/-- After an event that leaves no login starting and no start request. -/
theorem LoginKept.of_not_starting
    (hlogin : ∀ waiters completion updated,
      after.accountLogin ≠ some (.starting waiters completion updated))
    (hstarts : ∀ id, ¬ after.StartPending id)
    (htold : ∀ caller reply, AsksLogin arrivals caller → (caller, reply) ∈ after.replies →
      ∃ result, reply = .loginStart result ∧ ∃ sent ≤ caller, ∃ answered < round + 1,
        StartAnswered runtime arrivals sent answered result)
    (hpending : ∀ loginId authUrl, after.accountLogin = some (.pending loginId authUrl) →
      ¬ Completed runtime arrivals (round + 1) loginId ∧
        ∃ sent < round + 1, ∃ answered < round + 1,
          StartAnswered runtime arrivals sent answered (.ok (.loginInProgress loginId authUrl))) :
    LoginKept runtime arrivals (round + 1) after where
  starting := fun waiters completion updated heq => absurd heq (hlogin waiters completion updated)
  starts := fun id hstart => absurd hstart (hstarts id)
  told := htold
  pending := hpending

theorem LoginKept.asked (kept : LoginKept runtime arrivals round actor)
    (h : LoginStep (AsksLogin arrivals) actor after .asked) (hround : actor.round = round)
    (hevent : eventAt runtime arrivals round = some .asked) (hasks : AsksLogin arrivals round)
    (hid : actor.nextId = requestId runtime arrivals round)
    (hafter : after = Actor.run runtime (arrivals.take (round + 1))) :
    LoginKept runtime arrivals (round + 1) after := by
  have hpast : ∀ loginId success,
      eventAt runtime arrivals round ≠ some (.completed loginId success) := by
    intro loginId success heq
    cases hevent.symm.trans heq
  have hnext := h.login
  have htells := kept.told_step h
  have hkeeps : ¬ actor.SendsStart → ∀ id, after.StartPending id ↔ actor.StartPending id := by
    intro hsends id
    apply (h.starts id).trans
    constructor
    · rintro (⟨hsend, _⟩ | hstart)
      · exact absurd hsend hsends
      · exact hstart
    · exact .inr
  -- a request is sent and its caller is the only one who waits
  have hsend : actor.SendsStart → after.accountLogin = some (.starting [round] none false) →
      LoginEvent.tells actor.round actor.accountLogin .asked = [] →
        LoginKept runtime arrivals (round + 1) after := by
    intro hsends hlogin htell
    have hnone : ∀ id, ¬ actor.StartPending id := by
      apply kept.not_startPending
      intro waiters completion updated heq
      rcases hsends with hlogin | hlogin
      · cases hlogin.symm.trans heq
      · cases hlogin.symm.trans heq
    have hstarts : ∀ id, after.StartPending id ↔ id = requestId runtime arrivals round := by
      intro id
      rw [← hid]
      apply (h.starts id).trans
      constructor
      · rintro (⟨_, heq⟩ | hstart)
        · exact heq
        · exact absurd hstart (hnone id)
      · exact fun heq => .inl ⟨hsends, heq⟩
    refine ⟨?_, ?_, ?_, ?_⟩
    · intro waiters completion updated heq
      cases hlogin.symm.trans heq
      refine ⟨round, [], rfl, ⟨hasks, ?_⟩, (hstarts _).mpr rfl, ?_⟩
      · rw [← hafter]
        exact (hstarts _).mpr rfl
      · intro waiter hmem
        rw [List.mem_singleton.mp hmem]
        exact ⟨Nat.le_refl _, Nat.lt_succ_self _, hasks⟩
    · intro id hstart
      exact ⟨round, [], none, false, hlogin, (hstarts id).mp hstart⟩
    · apply htells
      intro caller reply hmem
      rw [htell] at hmem
      cases hmem
    · intro loginId authUrl heq
      cases hlogin.symm.trans heq
  cases hlogin : actor.accountLogin with
  | none =>
      rw [hlogin, hround] at hnext
      apply hsend (.inl hlogin) hnext
      rw [hlogin]
      rfl
  | some state =>
      cases state with
      | failed =>
          rw [hlogin, hround] at hnext
          apply hsend (.inr hlogin) hnext
          rw [hlogin]
          rfl
      | pending loginId authUrl =>
          rw [hlogin] at hnext
          have hsends : ¬ actor.SendsStart := by
            rintro (heq | heq)
            · cases hlogin.symm.trans heq
            · cases hlogin.symm.trans heq
          apply LoginKept.of_not_starting
          · intro waiters completion updated heq
            cases hnext.symm.trans heq
          · intro id hstart
            apply kept.not_startPending _ id ((hkeeps hsends id).mp hstart)
            intro waiters completion updated heq
            cases hlogin.symm.trans heq
          · apply htells
            intro caller reply hmem
            rw [hlogin, hround] at hmem
            cases List.mem_singleton.mp hmem
            obtain ⟨_, sent, hsent, answered, hanswered, hstart⟩ := kept.pending _ _ hlogin
            exact ⟨_, rfl, sent, Nat.le_of_lt hsent, answered, Nat.lt_succ_of_lt hanswered, hstart⟩
          · intro loginId' authUrl' heq
            cases hnext.symm.trans heq
            exact kept.pending_step hlogin (hpast loginId)
      | starting waiters completion updated =>
          rw [hlogin, hround] at hnext
          have hsends : ¬ actor.SendsStart := by
            rintro (heq | heq)
            · cases hlogin.symm.trans heq
            · cases hlogin.symm.trans heq
          obtain ⟨sent, rest, rfl, hsendsLogin, hpending, hall⟩ := kept.starting _ _ _ hlogin
          refine ⟨?_, ?_, ?_, ?_⟩
          · intro waiters' completion' updated' heq
            cases hnext.symm.trans heq
            refine ⟨sent, rest ++ [round], rfl, hsendsLogin, (hkeeps hsends _).mpr hpending, ?_⟩
            intro waiter hmem
            rcases List.mem_append.mp hmem with hmem | hmem
            · obtain ⟨hle, hlt, hwaiter⟩ := hall waiter hmem
              exact ⟨hle, Nat.lt_succ_of_lt hlt, hwaiter⟩
            · rw [List.mem_singleton.mp hmem]
              have hfirst := hall sent List.mem_cons_self
              exact ⟨Nat.le_of_lt hfirst.2.1, Nat.lt_succ_self _, hasks⟩
          · intro id hstart
            obtain ⟨sent', rest', _, _, heq, hid'⟩ := kept.starts id ((hkeeps hsends id).mp hstart)
            cases hlogin.symm.trans heq
            exact ⟨sent, rest ++ [round], completion, updated, hnext, hid'⟩
          · apply htells
            intro caller reply hmem
            rw [hlogin] at hmem
            cases hmem
          · intro loginId authUrl heq
            cases hnext.symm.trans heq

theorem next_answered {waiters : List Nat} {completion : Option (String × Bool)} {updated : Bool}
    (id : Nat) (result : Except HarnessError HarnessAccountStatus) :
    LoginEvent.next round (some (.starting waiters completion updated)) (.answered id result) =
        none ∨
      ∃ loginId authUrl, result = .ok (.loginInProgress loginId authUrl) ∧
        LoginEvent.next round (some (.starting waiters completion updated))
            (.answered id result) =
          loginAcknowledged completion updated loginId authUrl := by
  cases result with
  | error error => exact .inl rfl
  | ok status =>
      cases status with
      | unknown => exact .inl rfl
      | loginInProgress loginId authUrl => exact .inr ⟨loginId, authUrl, rfl, rfl⟩

theorem next_refreshed {login : Option AccountLoginState}
    (h : ∀ waiters completion updated, login ≠ some (.starting waiters completion updated)) :
    LoginEvent.next round login .refreshed = none := by
  cases login with
  | none => rfl
  | some state =>
      cases state with
      | starting waiters completion updated => exact absurd rfl (h waiters completion updated)
      | pending loginId authUrl => rfl
      | failed => rfl

theorem LoginKept.answered {id : Nat} {result : Except HarnessError HarnessAccountStatus}
    (kept : LoginKept runtime arrivals round actor)
    (h : LoginStep (AsksLogin arrivals) actor after (.answered id result))
    (hevent : eventAt runtime arrivals round = some (.answered id result))
    (hstart : actor.StartPending id) (inTurn : InTurn runtime arrivals round)
    (hactor : actor = Actor.run runtime (arrivals.take round)) :
    LoginKept runtime arrivals (round + 1) after := by
  obtain ⟨sent, rest, completion, updated, hlogin, hid⟩ := kept.starts id hstart
  obtain ⟨_, _, hwaiters, hsends, _, hall⟩ := kept.starting _ _ _ hlogin
  cases hwaiters
  have hanswered : StartAnswered runtime arrivals sent round result := by
    refine ⟨hsends, ?_⟩
    rw [← hid]
    exact hevent
  have hnext := h.login
  rw [hlogin] at hnext
  apply LoginKept.of_not_starting
  · intro waiters' completion' updated' heq
    rcases next_answered id result with hnone | ⟨loginId, authUrl, _, hstate⟩
    · rw [hnone] at hnext
      cases hnext.symm.trans heq
    · rw [hstate] at hnext
      exact loginAcknowledged_ne_starting (hnext.symm.trans heq)
  · intro id' hstart'
    obtain ⟨hne, hold⟩ := (h.starts id').mp hstart'
    obtain ⟨_, _, _, _, heq, hid'⟩ := kept.starts id' hold
    cases hlogin.symm.trans heq
    exact hne (hid'.trans hid.symm)
  · apply kept.told_step h
    intro caller reply hmem
    rw [hlogin] at hmem
    obtain ⟨waiter, hwaiter, heq⟩ := List.mem_map.mp hmem
    cases heq
    exact ⟨result, rfl, sent, (hall caller hwaiter).1, round, Nat.lt_succ_self _, hanswered⟩
  · intro loginId authUrl heq
    rcases next_answered id result with hnone | ⟨loginId', authUrl', rfl, hstate⟩
    · rw [hnone] at hnext
      cases hnext.symm.trans heq
    · rw [hstate] at hnext
      obtain ⟨rfl, rfl, rfl, hparked⟩ := loginAcknowledged_eq_pending (hnext.symm.trans heq)
      have hlt : sent < round + 1 :=
        Nat.lt_succ_of_lt (hall sent List.mem_cons_self).2.1
      refine ⟨?_, sent, hlt, round, Nat.lt_succ_self _, hanswered⟩
      intro hcompleted
      rcases completed_succ hcompleted with hearlier | ⟨success, hnow⟩
      · rw [hactor] at hlogin
        obtain ⟨success, heq⟩ := inTurn.parked _ _ _ _ _ hevent hlogin hearlier
        exact hparked success heq
      · cases hevent.symm.trans hnow

theorem LoginKept.completed {loginId : String} {success : Bool}
    (kept : LoginKept runtime arrivals round actor)
    (h : LoginStep (AsksLogin arrivals) actor after (.completed loginId success))
    (hevent : eventAt runtime arrivals round = some (.completed loginId success)) :
    LoginKept runtime arrivals (round + 1) after := by
  have hstarts : ∀ id, after.StartPending id ↔ actor.StartPending id := h.starts
  have htold := kept.told_step h fun caller reply hmem => by cases hmem
  have hnext := h.login
  cases hlogin : actor.accountLogin with
  | some state =>
      rw [hlogin] at hnext
      cases state with
      | starting waiters completion updated => exact kept.starting_step hlogin hnext hstarts htold
      | failed =>
          apply LoginKept.of_not_starting _ _ htold
          · intro loginId' authUrl heq
            cases hnext.symm.trans heq
          · intro waiters completion updated heq
            cases hnext.symm.trans heq
          · intro id hstart
            apply kept.not_startPending _ id ((hstarts id).mp hstart)
            intro waiters completion updated heq
            cases hlogin.symm.trans heq
      | pending pending authUrl =>
          apply LoginKept.of_not_starting _ _ htold
          · intro loginId' authUrl' heq
            have hpending := hnext.symm.trans heq
            unfold LoginEvent.next at hpending
            dsimp only at hpending
            by_cases hid : pending = loginId
            · rw [if_pos hid] at hpending
              cases success with
              | true => cases hpending
              | false => cases hpending
            · rw [if_neg hid] at hpending
              cases hpending
              apply kept.pending_step hlogin
              intro success' hnow
              cases hevent.symm.trans hnow
              exact hid rfl
          · intro waiters completion updated heq
            have hstarting := hnext.symm.trans heq
            unfold LoginEvent.next at hstarting
            dsimp only at hstarting
            split at hstarting
            · split at hstarting
              · cases hstarting
              · cases hstarting
            · cases hstarting
          · intro id hstart
            apply kept.not_startPending _ id ((hstarts id).mp hstart)
            intro waiters completion updated heq
            cases hlogin.symm.trans heq
  | none =>
      rw [hlogin] at hnext
      apply LoginKept.of_not_starting _ _ htold
      · intro loginId' authUrl heq
        cases hnext.symm.trans heq
      · intro waiters completion updated heq
        cases hnext.symm.trans heq
      · intro id hstart
        apply kept.not_startPending _ id ((hstarts id).mp hstart)
        intro waiters completion updated heq
        cases hlogin.symm.trans heq

/-- An event after which there is no login, and which tells nobody who asked. -/
theorem LoginKept.cleared {event : LoginEvent} (kept : LoginKept runtime arrivals round actor)
    (h : LoginStep (AsksLogin arrivals) actor after event)
    (hstarts : ∀ id, after.StartPending id ↔ actor.StartPending id)
    (htells : event.tells actor.round actor.accountLogin = [])
    (hlogin : ∀ waiters completion updated,
      actor.accountLogin ≠ some (.starting waiters completion updated))
    (hafter : after.accountLogin = none) : LoginKept runtime arrivals (round + 1) after := by
  apply LoginKept.of_not_starting
  · intro waiters completion updated heq
    cases hafter.symm.trans heq
  · exact fun id hstart => kept.not_startPending hlogin id ((hstarts id).mp hstart)
  · apply kept.told_step h
    intro caller reply hmem
    rw [htells] at hmem
    cases hmem
  · intro loginId authUrl heq
    cases hafter.symm.trans heq

theorem LoginKept.refreshed (kept : LoginKept runtime arrivals round actor)
    (h : LoginStep (AsksLogin arrivals) actor after .refreshed) :
    LoginKept runtime arrivals (round + 1) after := by
  have hnext := h.login
  by_cases hstarting : ∃ waiters completion updated,
      actor.accountLogin = some (.starting waiters completion updated)
  · obtain ⟨waiters, completion, updated, hlogin⟩ := hstarting
    rw [hlogin] at hnext
    exact kept.starting_step hlogin hnext h.starts
      (kept.told_step h fun caller reply hmem => by cases hmem)
  · have hlogin : ∀ waiters completion updated,
        actor.accountLogin ≠ some (.starting waiters completion updated) :=
      fun waiters completion updated heq => hstarting ⟨waiters, completion, updated, heq⟩
    apply kept.cleared h h.starts rfl hlogin
    rw [hnext, next_refreshed hlogin]

theorem LoginKept.forgotten (kept : LoginKept runtime arrivals round actor)
    (h : LoginStep (AsksLogin arrivals) actor after .forgotten) (hwaiters : actor.waiters = []) :
    LoginKept runtime arrivals (round + 1) after := by
  apply kept.cleared h h.starts
  · unfold LoginEvent.tells
    rw [waiting_accountLogin, hwaiters]
    rfl
  · intro waiters completion updated heq
    obtain ⟨sent, rest, rfl, _⟩ := kept.starting _ _ _ heq
    unfold waiters at hwaiters
    rw [heq] at hwaiters
    cases hwaiters
  · exact h.login

theorem LoginKept.other (kept : LoginKept runtime arrivals round actor)
    (h : LoginStep (AsksLogin arrivals) actor after .other)
    (hevent : eventAt runtime arrivals round = some .other) :
    LoginKept runtime arrivals (round + 1) after := by
  have hnext : after.accountLogin = actor.accountLogin := h.login
  have htold := kept.told_step h fun caller reply hmem => by cases hmem
  by_cases hstarting : ∃ waiters completion updated,
      actor.accountLogin = some (.starting waiters completion updated)
  · obtain ⟨waiters, completion, updated, hlogin⟩ := hstarting
    exact kept.starting_step hlogin (hnext.trans hlogin) h.starts htold
  · have hlogin : ∀ waiters completion updated,
        actor.accountLogin ≠ some (.starting waiters completion updated) :=
      fun waiters completion updated heq => hstarting ⟨waiters, completion, updated, heq⟩
    apply LoginKept.of_not_starting _ _ htold
    · intro loginId authUrl heq
      apply kept.pending_step (hnext.symm.trans heq)
      intro success hnow
      cases hevent.symm.trans hnow
    · rw [hnext]
      exact hlogin
    · exact fun id hstart => kept.not_startPending hlogin id ((h.starts id).mp hstart)

/-- A frame is no command to log in, and a login start it answers was waiting. -/
theorem frameEvent_fits (runtime : Runtime) (actor : Actor) (value : Value) :
    match actor.frameEvent runtime value with
    | .asked => False
    | .answered id _ => actor.StartPending id
    | _ => True := by
  have hanswer : ∀ {id : Nat} {pending : PendingClient}, actor.pending.find id = some pending →
      match answerEvent runtime id pending value with
      | .asked => False
      | .answered id _ => actor.StartPending id
      | _ => True := by
    intro id pending hfind
    unfold answerEvent
    by_cases hkind : pending.kind = .accountLoginStart
    · rw [if_pos hkind]
      exact ⟨pending, hfind, hkind⟩
    · rw [if_neg hkind]
      cases responseOutcome runtime pending value with
      | error error => trivial
      | ok result =>
          dsimp only
          cases endsLogin pending.kind result with
          | true => trivial
          | false => trivial
  unfold frameEvent
  by_cases hmethod : (value.get "method").isNone
  · rw [if_pos hmethod]
    unfold responseEvent
    cases (value.get "id").bind Value.asU64 with
    | none => trivial
    | some id =>
        dsimp only
        cases hfind : actor.pending.find id with
        | none => trivial
        | some pending => exact hanswer hfind
  · rw [if_neg hmethod]
    by_cases hcompleted : frameMethod value = "account/login/completed"
    · rw [if_pos hcompleted]
      cases accountLoginCompletion (runtime.sanitizer.sanitizeValue value) with
      | none => trivial
      | some completion => trivial
    · rw [if_neg hcompleted]
      by_cases hupdated : frameMethod value = "account/updated"
      · rw [if_pos hupdated]
        cases validAccountUpdated (runtime.sanitizer.sanitizeValue value) with
        | true => trivial
        | false => trivial
      · rw [if_neg hupdated]
        trivial

theorem input_of_asked {input : Input} (h : actor.loginEvent runtime input = .asked) :
    input = .command .accountLoginStart := by
  unfold loginEvent at h
  split at h
  · rfl
  · next raw value =>
    have hfits := actor.frameEvent_fits runtime value
    rw [h] at hfits
    exact hfits.elim
  · cases h

/-- A login start that is answered was waiting. -/
theorem startPending_of_answered {input : Input} {id : Nat}
    {result : Except HarnessError HarnessAccountStatus}
    (h : actor.loginEvent runtime input = .answered id result) : actor.StartPending id := by
  unfold loginEvent at h
  split at h
  · cases h
  · next raw value =>
    have hfits := actor.frameEvent_fits runtime value
    rw [h] at hfits
    exact hfits
  · cases h

/-- One round of a run in which everything comes in turn. -/
theorem LoginKept.step {event : LoginEvent} (kept : LoginKept runtime arrivals round actor)
    (h : LoginStep (AsksLogin arrivals) actor after event) (hround : actor.round = round)
    (hevent : eventAt runtime arrivals round = some event) (inTurn : InTurn runtime arrivals round)
    (hactor : actor = Actor.run runtime (arrivals.take round))
    (hafter : after = Actor.run runtime (arrivals.take (round + 1))) :
    LoginKept runtime arrivals (round + 1) after := by
  obtain ⟨arrival, harrival, hinput⟩ := Option.map_eq_some_iff.mp hevent
  rw [← hactor] at hinput
  cases event with
  | asked =>
      have hasks : AsksLogin arrivals round := ⟨arrival, harrival, input_of_asked hinput⟩
      apply kept.asked h hround hevent hasks _ hafter
      rw [hactor]
      rfl
  | answered id result =>
      exact kept.answered h hevent (startPending_of_answered hinput) inTurn hactor
  | completed loginId success => exact kept.completed h hevent
  | refreshed => exact kept.refreshed h
  | forgotten =>
      apply kept.forgotten h
      rw [hactor]
      exact inTurn.kept hevent
  | other => exact kept.other h hevent

/-- After the first rounds the runtime still takes commands and frames. -/
def Alive (runtime : Runtime) (arrivals : List Arrival) (round : Nat) : Prop :=
  (Actor.run runtime (arrivals.take round)).closed = false

theorem run_take_succ {arrival : Arrival} (h : arrivals[round]? = some arrival) :
    Actor.run runtime (arrivals.take (round + 1)) =
      (Actor.run runtime (arrivals.take round)).step runtime arrival := by
  rw [take_concat h, run_concat]

theorem Alive.before {arrival : Arrival} (h : arrivals[round]? = some arrival)
    (alive : Alive runtime arrivals (round + 1)) : Alive runtime arrivals round := by
  unfold Alive at alive
  rw [run_take_succ h] at alive
  exact closed_of_step alive

theorem alive_of_le {earlier : Nat} (alive : Alive runtime arrivals round) (hle : earlier ≤ round)
    (hlength : round ≤ arrivals.length) : Alive runtime arrivals earlier := by
  induction round, hle using Nat.le_induction with
  | base => exact alive
  | succ round _ ih =>
      have harrival : arrivals[round]? = some arrivals[round] := List.getElem?_eq_getElem hlength
      exact ih (alive.before harrival) (Nat.le_of_succ_le hlength)

/-- The channel a request waits with is not one of those who asked for a login. -/
def OtherChannel (arrivals : List Arrival) (_id : Nat) (pending : PendingClient) : Prop :=
  ∀ channel, pending.reply = some channel → ¬ AsksLogin arrivals channel

variable (runtime) in
/-- In every round the channels are accounted for. -/
theorem served_login (hle : round ≤ arrivals.length) :
    Served (fun _ _ => True) (OtherChannel arrivals) round
      (commandChannels (arrivals.take round)) (Actor.run runtime (arrivals.take round)) := by
  induction round with
  | zero => exact served_init
  | succ round ih =>
      have harrival : arrivals[round]? = some arrivals[round] := List.getElem?_eq_getElem hle
      have served := ih (Nat.le_of_succ_le hle)
      rw [run_take_succ harrival, take_concat harrival, commandChannels_concat,
        List.length_take_of_le (Nat.le_of_succ_le hle)]
      apply served_step served
      refine ⟨?_, ?_, ?_, ?_, ?_, ?_, ?_, ?_⟩
      · exact fun _ _ _ _ _ => trivial
      · exact fun _ _ _ _ _ _ _ _ _ _ _ _ => trivial
      · exact fun _ _ => trivial
      · intro pending hnone id channel hreply
        cases hnone.symm.trans hreply
      · exact fun _ _ _ => trivial
      · exact fun _ _ _ _ _ => trivial
      · exact fun _ _ _ _ _ => trivial
      · rintro request hinput _ _ _ channel hreply ⟨arrival, hself, hasks⟩
        cases hreply
        rw [served.round, harrival] at hself
        cases hself
        cases hinput.symm.trans hasks

/-- Every round that the runtime survives is one event of the login. -/
theorem loginStep_round {arrival : Arrival} (harrival : arrivals[round]? = some arrival)
    (alive : Alive runtime arrivals (round + 1)) :
    LoginStep (AsksLogin arrivals) (Actor.run runtime (arrivals.take round))
      (Actor.run runtime (arrivals.take (round + 1)))
      ((Actor.run runtime (arrivals.take round)).loginEvent runtime arrival.input) := by
  have hle : round ≤ arrivals.length := Nat.le_of_lt (List.getElem?_eq_some_iff.mp harrival).1
  have served := served_login runtime hle
  have hbefore := alive.before harrival
  unfold Alive at alive
  rw [run_take_succ harrival] at alive ⊢
  apply loginStep_step served.numbered _ _ hbefore alive
  · exact fun id pending channel hfind => served.pending id pending hfind channel
  · rw [served.round]
    rintro ⟨own, hown, hasks⟩
    cases harrival.symm.trans hown
    exact hasks

/-- In a run in which everything has come in turn the login is kept. -/
theorem loginKept_of_inTurn (hle : round ≤ arrivals.length) (alive : Alive runtime arrivals round)
    (inTurn : ∀ earlier < round, InTurn runtime arrivals earlier) :
    LoginKept runtime arrivals round (Actor.run runtime (arrivals.take round)) := by
  induction round with
  | zero =>
      refine ⟨?_, ?_, ?_, ?_⟩
      · intro waiters completion updated heq
        cases heq
      · rintro id ⟨pending, hfind, _⟩
        change (∅ : Dict Nat PendingClient).find id = some pending at hfind
        rw [Dict.find_empty] at hfind
        cases hfind
      · intro caller reply _ hmem
        cases hmem
      · intro loginId authUrl heq
        cases heq
  | succ round ih =>
      have harrival : arrivals[round]? = some arrivals[round] := List.getElem?_eq_getElem hle
      have kept := ih (Nat.le_of_succ_le hle) (alive.before harrival)
        fun earlier hlt => inTurn earlier (Nat.lt_succ_of_lt hlt)
      have hround : (Actor.run runtime (arrivals.take round)).round = round :=
        (served_login runtime (Nat.le_of_succ_le hle)).round
      have hevent : eventAt runtime arrivals round =
          some ((Actor.run runtime (arrivals.take round)).loginEvent runtime
            arrivals[round].input) := by
        unfold eventAt
        rw [harrival]
        rfl
      exact kept.step (loginStep_round harrival alive) hround hevent
        (inTurn round (Nat.lt_succ_self round)) rfl rfl

/-- A caller's channel is told once or waits for the login. -/
theorem caller_channel (hle : round ≤ arrivals.length) (hcaller : caller < round)
    (hasks : AsksLogin arrivals caller) :
    caller ∈ (Actor.run runtime (arrivals.take round)).waiters ∧
        (∀ reply, (caller, reply) ∉ (Actor.run runtime (arrivals.take round)).replies) ∨
      ∃ reply, (Actor.run runtime (arrivals.take round)).replies.filter
        (fun entry => entry.1 = caller) = [(caller, reply)] := by
  have served := served_login runtime hle
  obtain ⟨arrival, harrival, hinput⟩ := hasks
  have hcount : (Actor.run runtime (arrivals.take round)).channels.count caller = 1 := by
    rw [served.channels.count_eq]
    have hown : (arrivals.take round)[caller]? = some arrival := by
      rw [List.getElem?_take_of_lt hcaller]
      exact harrival
    apply count_commandChannels hown
    unfold expectsReply
    rw [hinput]
  have hpending : caller ∉ pendingChannels (Actor.run runtime (arrivals.take round)).pending := by
    intro hmem
    obtain ⟨⟨id, pending⟩, hentry, hreply⟩ := List.mem_filterMap.mp hmem
    exact served.pending id pending (Dict.mem_toList.mp hentry) caller hreply
      ⟨arrival, harrival, hinput⟩
  unfold channels at hcount
  rw [List.count_append, List.count_append, List.count_eq_zero_of_not_mem hpending] at hcount
  by_cases hreplied :
      caller ∈ (Actor.run runtime (arrivals.take round)).replies.map (·.1)
  · right
    apply exists_reply_of_count
    have hpositive := List.count_pos_iff.mpr hreplied
    omega
  · left
    rw [List.count_eq_zero_of_not_mem hreplied] at hcount
    constructor
    · apply List.count_pos_iff.mp
      omega
    · intro reply hmem
      exact hreplied (List.mem_map.mpr ⟨(caller, reply), hmem, rfl⟩)

/-- A login that is kept settles. -/
theorem LoginKept.settles (hle : round ≤ arrivals.length)
    (kept : LoginKept runtime arrivals round (Actor.run runtime (arrivals.take round))) :
    LoginSettles runtime arrivals round where
  callers := by
    intro caller hcaller hasks
    rcases caller_channel hle hcaller hasks with ⟨hwaits, huntold⟩ | ⟨reply, hfilter⟩
    · left
      have hwaiting := hwaits
      unfold waiters at hwaiting
      split at hwaiting
      · next waiters completion updated hlogin =>
        obtain ⟨sent, rest, rfl, hsends, hpending, hall⟩ := kept.starting _ _ _ hlogin
        exact ⟨hwaits, huntold, sent, (hall caller hwaiting).1, hsends, hpending⟩
      · cases hwaiting
    · right
      have hmem : (caller, reply) ∈ (Actor.run runtime (arrivals.take round)).replies := by
        apply List.mem_of_mem_filter
        rw [hfilter]
        exact List.mem_singleton_self _
      obtain ⟨result, rfl, hstart⟩ := kept.told caller reply hasks hmem
      exact ⟨result, hfilter, hstart⟩
  ended := by
    intro loginId _ hcompleted authUrl heq
    exact (kept.pending loginId authUrl heq).1 hcompleted

/-- A round after which the login is settled came in turn. -/
theorem LoginKept.inTurn {arrival : Arrival} (harrival : arrivals[round]? = some arrival)
    (alive : Alive runtime arrivals (round + 1))
    (kept : LoginKept runtime arrivals round (Actor.run runtime (arrivals.take round)))
    (settles : LoginSettles runtime arrivals (round + 1)) : InTurn runtime arrivals round := by
  have hstep := loginStep_round harrival alive
  have hround : (Actor.run runtime (arrivals.take round)).round = round :=
    (served_login runtime (Nat.le_of_lt (List.getElem?_eq_some_iff.mp harrival).1)).round
  have hevent : ∀ {event}, eventAt runtime arrivals round = some event →
      (Actor.run runtime (arrivals.take round)).loginEvent runtime arrival.input = event := by
    intro event h
    unfold eventAt at h
    rw [harrival] at h
    exact Option.some.inj h
  constructor
  · intro hforgotten
    rw [hevent hforgotten] at hstep
    rw [List.eq_nil_iff_forall_not_mem]
    intro waiter hwaiter
    have hdropped : (waiter, Reply.dropped) ∈
        (Actor.run runtime (arrivals.take (round + 1))).replies := by
      apply hstep.tells
      unfold LoginEvent.tells
      rw [waiting_accountLogin]
      exact List.mem_map.mpr ⟨waiter, hwaiter, rfl⟩
    have hasks : waiter < round ∧ AsksLogin arrivals waiter := by
      have hwaiting := hwaiter
      unfold waiters at hwaiting
      split at hwaiting
      · next waiters completion updated hlogin =>
        obtain ⟨_, _, _, _, _, hall⟩ := kept.starting _ _ _ hlogin
        exact (hall waiter hwaiting).2
      · cases hwaiting
    rcases settles.callers waiter (Nat.lt_succ_of_lt hasks.1) hasks.2 with hstill | htold
    · exact hstill.untold _ hdropped
    · obtain ⟨result, hfilter, _⟩ := htold
      have hmem : (waiter, Reply.dropped) ∈
          (Actor.run runtime (arrivals.take (round + 1))).replies.filter
            fun entry => entry.1 = waiter := by
        rw [List.mem_filter]
        exact ⟨hdropped, decide_eq_true rfl⟩
      rw [hfilter] at hmem
      cases List.mem_singleton.mp hmem
  · intro id loginId authUrl waiters completion hanswered hlogin hcompleted
    rw [hevent hanswered] at hstep
    have hstart := startPending_of_answered (hevent hanswered)
    obtain ⟨sent, rest, _, _, heq, hid⟩ := kept.starts id hstart
    cases hlogin.symm.trans heq
    obtain ⟨_, _, hwaiters, hsends, _, hall⟩ := kept.starting _ _ _ hlogin
    cases hwaiters
    have hnext := hstep.login
    rw [hlogin] at hnext
    have hended := settles.ended loginId
      ⟨sent, Nat.lt_succ_of_lt (hall sent List.mem_cons_self).2.1, round, Nat.lt_succ_self round,
        authUrl, hsends, by rw [← hid]; exact hanswered⟩
      (by
        obtain ⟨earlier, hlt, success, hcompletion⟩ := hcompleted
        exact ⟨earlier, Nat.lt_succ_of_lt hlt, success, hcompletion⟩) authUrl
    rw [hnext] at hended
    cases completion with
    | none => exact absurd rfl hended
    | some completed =>
        obtain ⟨completedId, success⟩ := completed
        by_cases hsame : completedId = loginId
        · exact ⟨success, by rw [hsame]⟩
        · exact absurd (if_neg hsame) hended

/-- The login settles in all rounds that the runtime survives exactly when none of
them forgets a login that callers wait for, and every login whose completion
came before its response finds that completion parked. -/
theorem loginSettles_iff (runtime : Runtime) (arrivals : List Arrival) :
    (∀ round ≤ arrivals.length, Alive runtime arrivals round →
        LoginSettles runtime arrivals round) ↔
      ∀ round < arrivals.length, Alive runtime arrivals (round + 1) →
        InTurn runtime arrivals round := by
  constructor
  · intro settles round
    -- what came before is in turn, so the login is kept until this round
    induction round using Nat.strong_induction_on with
    | h round ih =>
      intro hlt alive
      have harrival : arrivals[round]? = some arrivals[round] := List.getElem?_eq_getElem hlt
      have hbefore := alive.before harrival
      have kept : LoginKept runtime arrivals round (Actor.run runtime (arrivals.take round)) := by
        apply loginKept_of_inTurn (Nat.le_of_lt hlt) hbefore
        exact fun earlier hearlier => ih earlier hearlier (Nat.lt_trans hearlier hlt)
          (alive_of_le hbefore hearlier (Nat.le_of_lt hlt))
      exact kept.inTurn harrival alive (settles (round + 1) hlt alive)
  · intro inTurn round hle alive
    apply LoginKept.settles hle
    apply loginKept_of_inTurn hle alive
    exact fun earlier hearlier => inTurn earlier (Nat.lt_of_lt_of_le hearlier hle)
      (alive_of_le alive hearlier hle)

end Run

/-! ## Runs in which a login does not settle -/

section Sample

/-- A login start, a logout and the logout's response, which forgets the caller. -/
def forgetfulRun : List Arrival :=
  let response : Value := .object [("id", .number (.integer 3)), ("result", .object [])]
  [{ input := .command .accountLoginStart },
    { input := .command (.request logoutRequest) },
    { input := .inbound (.frame response.toText response) }]

/-- The notification that a login has been completed. -/
def loginCompletedFrame (loginId : String) (success : Bool) : Value :=
  .object [("method", .string "account/login/completed"),
    ("params", .object [("loginId", .string loginId), ("success", .bool success)])]

/-- A login start, its completion, that of an older login and the response. -/
def overtakenRun : List Arrival :=
  let completed := loginCompletedFrame "login-2" true
  let stale := loginCompletedFrame "login-1" false
  let response : Value := .object [("id", .number (.integer 2)),
    ("result", .object [("type", .string "chatgpt"), ("loginId", .string "login-2"),
      ("authUrl", .string "auth-url")])]
  [{ input := .command .accountLoginStart },
    { input := .inbound (.frame completed.toText completed) },
    { input := .inbound (.frame stale.toText stale) },
    { input := .inbound (.frame response.toText response) }]

set_option maxRecDepth 100000 in
/-- One run drops a caller's channel, the other leaves a completed login pending. -/
theorem forgetful_overtaken_not_settled :
    Alive logoutRuntime forgetfulRun 3 ∧ ¬ LoginSettles logoutRuntime forgetfulRun 3 ∧
      Alive logoutRuntime overtakenRun 4 ∧ ¬ LoginSettles logoutRuntime overtakenRun 4 := by
  refine ⟨rfl, ?_, rfl, ?_⟩
  · intro settles
    rcases settles.callers 0 (by decide) ⟨_, rfl, rfl⟩ with hstill | ⟨result, hfilter, _⟩
    · cases hstill.waits
    · cases hfilter
  · intro settles
    apply settles.ended "login-2" _ _ "auth-url" rfl
    · refine ⟨0, by decide, 3, by decide, "auth-url", ⟨⟨_, rfl, rfl⟩, ?_⟩, rfl⟩
      exact ⟨_, rfl, rfl⟩
    · exact ⟨1, by decide, true, rfl⟩

end Sample

end Actor

end YakShed.Codex
