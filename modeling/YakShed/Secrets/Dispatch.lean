/-
# Dispatch and audit

One call of the broker on its own, against any backend: its checks, the lookup of
the backend, the wait for the lock and the backend under a timeout and a
cancellation, poll by poll, and what it reports to the audit sink. A put or delete
that is given up knows by its `dispatched` flag whether the backend has seen it.
-/

import YakShed.Secrets.Broker

namespace YakShed.Secrets

/-! ## Access -/

inductive SecretAccessPurpose
  | startHarness
  | refreshHarness
  | providerHttpRequest
  | gitHostRequest
  | mcpConnection
  | validateCredential
  deriving DecidableEq

structure SecretAccessContext where
  connectionId : ConnectionId
  slot : CredentialSlot
  purpose : SecretAccessPurpose
  requestId : OperationId
  deriving DecidableEq

inductive SecretAuditOutcome
  | succeeded
  | delegated
  | notFound
  | rejected
  | failed
  | uncertain
  | timedOut
  | cancelled
  deriving DecidableEq

structure SecretAuditEvent where
  connectionId : ConnectionId
  slot : CredentialSlot
  purpose : SecretAccessPurpose
  requestId : OperationId
  backend : Option SecretBackendId
  operation : SecretOperation
  outcome : SecretAuditOutcome
  deriving DecidableEq

/-- A call of a backend's resolver or administrator. -/
structure Invocation where
  backend : SecretBackendId
  locator : SecretLocator
  operation : SecretOperation
  deriving DecidableEq

/-- What the audit sink and the backends have seen. -/
structure Trace where
  audited : List SecretAuditEvent := []
  invoked : List Invocation := []
  deriving DecidableEq

/-- `audit`. -/
def Trace.audit (trace : Trace) (context : SecretAccessContext) (backend : Option SecretBackendId)
    (operation : SecretOperation) (outcome : SecretAuditOutcome) : Trace :=
  { trace with
    audited := trace.audited ++ [⟨context.connectionId, context.slot, context.purpose,
      context.requestId, backend, operation, outcome⟩] }

def Trace.invoke (trace : Trace) (invocation : Invocation) : Trace :=
  { trace with invoked := trace.invoked ++ [invocation] }

/-! ## Waiting -/

variable {α : Type}

/-- What one poll of the call finds: whether it is cancelled, whether the lock is
granted, what the backend's future returns if it is ready, and whether the
deadline has passed. -/
structure Poll (α : Type) where
  cancelled : Bool := false
  unlocked : Bool := true
  answer : Option (Except SecretError α) := none
  elapsed : Bool := false

/-- The state of `work`: before and after it has set `dispatched`. -/
inductive Work
  | waiting
  | dispatched
  deriving DecidableEq

/-- How the wait of `run` ends. -/
inductive Ending (α : Type)
  | answered (result : Except SecretError α)
  | stopped (reason : Stop)

def Ending.result (backend : SecretBackendId) : Ending α → Except SecretError α
  | answered result => result
  | stopped reason => .error (reason.error backend)

/-- A poll of `work`. The action is called in the poll that is granted the lock. -/
def Work.poll (invocation : Invocation) (now : Poll α) (trace : Trace) :
    Work → Option (Except SecretError α) × Work × Trace
  | waiting =>
      if now.unlocked then (now.answer, dispatched, trace.invoke invocation)
      else (none, waiting, trace)
  | dispatched => (now.answer, dispatched, trace)

/-- The polls of the biased `select!`: the cancellation first, then `work`, then
the deadline. `none` as long as the call has not completed. -/
def selectPolls (invocation : Invocation) : List (Poll α) → Work → Trace →
    Option (Ending α × Work × Trace)
  | [], _, _ => none
  | now :: rest, work, trace =>
      if now.cancelled then some (.stopped .cancelled, work, trace)
      else
        match work.poll invocation now trace with
        | (some result, work, trace) => some (.answered result, work, trace)
        | (none, work, trace) =>
            if now.elapsed then some (.stopped .timedOut, work, trace)
            else selectPolls invocation rest work trace

def SecretOperation.isMutation : SecretOperation → Bool
  | .put | .delete => true
  | .probe | .resolve => false

/-- The call gave up or says that it did. -/
def isInterruption : Except SecretError α → Bool
  | .error (.timedOut _) | .error (.cancelled _) => true
  | _ => false

/-- The outcome that `run` reports for a result. -/
def outcomeOf : Except SecretError α → SecretAuditOutcome
  | .ok _ => .succeeded
  | .error (.notFound _) => .notFound
  | .error (.uncertainWrite _) => .uncertain
  | .error (.timedOut _) => .timedOut
  | .error (.cancelled _) => .cancelled
  | .error _ => .failed

/-- What surrounds a call: whether it is cancelled before it waits, and its polls. -/
structure Env (α : Type) where
  cancelled : Bool := false
  polls : List (Poll α)

/-- A mutation that was given up after it was dispatched is uncertain. -/
def settle (backend : SecretBackendId) (operation : SecretOperation) (work : Work)
    (result : Except SecretError α) : Except SecretError α :=
  if operation.isMutation ∧ work = .dispatched ∧ isInterruption result then
    .error (.uncertainWrite backend)
  else result

/-- `CredentialBroker::run`; `none` if the call never completes. -/
def runCall (context : SecretAccessContext) (reference : SecretReference)
    (operation : SecretOperation) (env : Env α) (trace : Trace) :
    Option (Except SecretError α × Trace) :=
  let backend := reference.backendId
  if env.cancelled then
    some (.error (.cancelled backend), trace.audit context (some backend) operation .cancelled)
  else
    match selectPolls ⟨backend, reference.locator, operation⟩ env.polls .waiting trace with
    | none => none
    | some (ending, work, trace) =>
        let result := settle backend operation work (ending.result backend)
        some (result, trace.audit context (some backend) operation (outcomeOf result))

/-! ## The operations -/

/-- The backends by id, each with whether it has an administrator. -/
abbrev Registry : Type := Dict SecretBackendId Bool

/-- The arguments that every operation has. -/
structure Access where
  connections : List Connection
  supplied : CredentialBindingRecord
  context : SecretAccessContext

namespace Access

variable (access : Access)

def request : Request :=
  ⟨access.connections, access.supplied, access.context.connectionId, access.context.slot, .resolve⟩

/-- `current_binding`, which reports a failed check. -/
def currentBinding (operation : SecretOperation) (trace : Trace) :
    Except SecretError CredentialBinding × Trace :=
  match access.request.currentBinding with
  | .ok binding => (.ok binding, trace)
  | .error error => (.error error, trace.audit access.context none operation .rejected)

/-- `audited_backend`, which reports a backend that is not registered. -/
def auditedBackend (backends : Registry) (reference : SecretReference)
    (operation : SecretOperation) (trace : Trace) : Except SecretError Bool × Trace :=
  match backends.find reference.backendId with
  | some hasAdministrator => (.ok hasAdministrator, trace)
  | none =>
      (.error (.backendUnavailable reference.backendId),
        trace.audit access.context (some reference.backendId) operation .failed)

end Access

inductive CredentialStatus
  | present
  | missing
  | delegated (authority : String)
  | disabled
  deriving DecidableEq

inductive CredentialResolution
  | secret (value : String)
  | delegated (authority : String)
  deriving DecidableEq

inductive PutSecretOutcome
  | written
  | replaced
  deriving DecidableEq

inductive DeleteSecretOutcome
  | deleted
  | notFound
  deriving DecidableEq

section Operations

variable (backends : Registry) (access : Access)

/-- The result that `status` makes of the secret it resolves. -/
def statusOf : Except SecretError String → Except SecretError CredentialStatus
  | .ok _ => .ok .present
  | .error (.notFound _) => .ok .missing
  | .error error => .error error

def status (env : Env String) (trace : Trace) :
    Option (Except SecretError CredentialStatus × Trace) :=
  match access.currentBinding .probe trace with
  | (.error error, trace) => some (.error error, trace)
  | (.ok (.delegated authority), trace) =>
      some (.ok (.delegated authority), trace.audit access.context none .probe .delegated)
  | (.ok .disabled, trace) =>
      some (.ok .disabled, trace.audit access.context none .probe .rejected)
  | (.ok (.secret reference), trace) =>
      match access.auditedBackend backends reference .resolve trace with
      | (.error error, trace) => some (.error error, trace)
      | (.ok _, trace) =>
          (runCall access.context reference .resolve env trace).map fun (result, trace) =>
            (statusOf result, trace)

def resolve (env : Env String) (trace : Trace) :
    Option (Except SecretError CredentialResolution × Trace) :=
  match access.currentBinding .resolve trace with
  | (.error error, trace) => some (.error error, trace)
  | (.ok (.delegated authority), trace) =>
      some (.ok (.delegated authority), trace.audit access.context none .resolve .delegated)
  | (.ok .disabled, trace) =>
      some (.error (access.request.invalid .disabled),
        trace.audit access.context none .resolve .rejected)
  | (.ok (.secret reference), trace) =>
      match access.auditedBackend backends reference .resolve trace with
      | (.error error, trace) => some (.error error, trace)
      | (.ok _, trace) =>
          (runCall access.context reference .resolve env trace).map fun (result, trace) =>
            (result.map .secret, trace)

/-- `put` and `delete` up to the value and the options, which they hand on. -/
def mutate (operation : SecretOperation) (env : Env α) (trace : Trace) :
    Option (Except SecretError α × Trace) :=
  match access.currentBinding operation trace with
  | (.error error, trace) => some (.error error, trace)
  | (.ok .disabled, trace) =>
      some (.error (access.request.invalid .disabled),
        trace.audit access.context none operation .rejected)
  | (.ok (.delegated _), trace) =>
      some (.error (access.request.invalid .notSecretBacked),
        trace.audit access.context none operation .rejected)
  | (.ok (.secret reference), trace) =>
      match access.auditedBackend backends reference operation trace with
      | (.error error, trace) => some (.error error, trace)
      | (.ok false, trace) =>
          some (.error (.unsupportedOperation reference.backendId operation),
            trace.audit access.context (some reference.backendId) operation .failed)
      | (.ok true, trace) => runCall access.context reference operation env trace

def put (env : Env PutSecretOutcome) (trace : Trace) :
    Option (Except SecretError PutSecretOutcome × Trace) :=
  mutate backends access .put env trace

def delete (env : Env DeleteSecretOutcome) (trace : Trace) :
    Option (Except SecretError DeleteSecretOutcome × Trace) :=
  mutate backends access .delete env trace

end Operations

/-! ## One wait -/

/-- The backend has been called exactly if the work was dispatched. -/
def Work.Invoked (invocation : Invocation) (before : Trace) (work : Work) (trace : Trace) : Prop :=
  match work with
  | waiting => trace = before
  | dispatched => trace = before.invoke invocation

theorem Work.Invoked.poll {invocation : Invocation} {before trace trace' : Trace} {now : Poll α}
    {work work' : Work} {answer : Option (Except SecretError α)}
    (h : work.Invoked invocation before trace)
    (hpoll : work.poll invocation now trace = (answer, work', trace')) :
    work'.Invoked invocation before trace' ∧ (answer.isSome → work' = .dispatched) := by
  cases work with
  | waiting =>
      obtain rfl : trace = before := h
      simp only [Work.poll] at hpoll
      split at hpoll
      · cases hpoll
        exact ⟨rfl, fun _ => rfl⟩
      · cases hpoll
        exact ⟨rfl, fun hsome => (by cases hsome)⟩
  | dispatched =>
      cases hpoll
      exact ⟨h, fun _ => rfl⟩

theorem selectPolls_invoked {invocation : Invocation} {before trace trace' : Trace}
    {polls : List (Poll α)} {work work' : Work} {ending : Ending α}
    (h : work.Invoked invocation before trace)
    (hselect : selectPolls invocation polls work trace = some (ending, work', trace')) :
    work'.Invoked invocation before trace' ∧
      ((∃ result, ending = .answered result) → work' = .dispatched) := by
  induction polls generalizing work trace with
  | nil => cases hselect
  | cons now rest ih =>
      unfold selectPolls at hselect
      split at hselect
      · cases hselect
        exact ⟨h, fun ⟨_, hanswered⟩ => (by cases hanswered)⟩
      · split at hselect
        · next hpoll =>
            cases hselect
            obtain ⟨hinvoked, hdispatched⟩ := h.poll hpoll
            exact ⟨hinvoked, fun _ => hdispatched rfl⟩
        · next hpoll =>
            obtain ⟨hinvoked, _⟩ := h.poll hpoll
            split at hselect
            · cases hselect
              exact ⟨hinvoked, fun ⟨_, hanswered⟩ => (by cases hanswered)⟩
            · exact ih hinvoked hselect

/-- The wait ends because the call is cancelled or its deadline passes. -/
def Env.Interrupted (env : Env α) (invocation : Invocation) : Prop :=
  ∃ reason work trace,
    selectPolls invocation env.polls .waiting {} = some (.stopped reason, work, trace)

/-- What a completed wait leaves: one event with the outcome of the result, and
at most one call of the backend. -/
structure Ran (context : SecretAccessContext) (reference : SecretReference)
    (operation : SecretOperation) (env : Env α) (result : Except SecretError α) (trace : Trace) :
    Prop where
  audited : trace.audited = [⟨context.connectionId, context.slot, context.purpose,
    context.requestId, some reference.backendId, operation, outcomeOf result⟩]
  invoked : trace.invoked = [] ∨
    trace.invoked = [⟨reference.backendId, reference.locator, operation⟩]
  uninvoked : operation.isMutation = true → isInterruption result = true → trace.invoked = []
  uncertain : operation.isMutation = true →
    env.Interrupted ⟨reference.backendId, reference.locator, operation⟩ →
    trace.invoked ≠ [] → result = .error (.uncertainWrite reference.backendId)

theorem runCall_ran {context : SecretAccessContext} {reference : SecretReference}
    {operation : SecretOperation} {env : Env α} {result : Except SecretError α} {trace : Trace}
    (h : runCall context reference operation env {} = some (result, trace)) :
    Ran context reference operation env result trace := by
  unfold runCall at h
  dsimp only at h
  split at h
  · cases h
    exact ⟨rfl, .inl rfl, fun _ _ => rfl, fun _ _ hinvoked => absurd rfl hinvoked⟩
  · split at h
    · cases h
    next ending work after hselect =>
      cases h
      have hstart :
          Work.waiting.Invoked ⟨reference.backendId, reference.locator, operation⟩ {} {} :=
        rfl
      obtain ⟨hinvoked, hanswered⟩ := selectPolls_invoked hstart hselect
      cases work with
      | waiting =>
          obtain rfl : after = {} := hinvoked
          have hsame : settle reference.backendId operation .waiting
              (ending.result reference.backendId) = ending.result reference.backendId :=
            if_neg fun hsettled => (by cases hsettled.2.1)
          exact ⟨rfl, .inl rfl, fun _ _ => rfl, fun _ _ hinvoked => absurd rfl hinvoked⟩
      | dispatched =>
          obtain rfl : after = Trace.invoke {}
              ⟨reference.backendId, reference.locator, operation⟩ :=
            hinvoked
          refine ⟨rfl, .inr rfl, ?_, ?_⟩
          · intro hmutation hinterruption
            unfold settle at hinterruption
            split at hinterruption
            · cases hinterruption
            next hkept => exact absurd ⟨hmutation, rfl, hinterruption⟩ hkept
          · intro hmutation hinterrupted _
            obtain ⟨reason, work, trace, hstopped⟩ := hinterrupted
            cases hstopped.symm.trans hselect
            apply if_pos
            refine ⟨hmutation, rfl, ?_⟩
            cases reason <;> rfl

/-! ## The checks -/

namespace Access

variable (access : Access)

/-- The supplied binding is the current one of the connection's slot. -/
def IsCurrent : Prop :=
  ∃ connection,
    access.connections.find? (fun connection => connection.id == access.context.connectionId) =
      some connection ∧
    connection.credentials.find? (fun credential => credential.slot == access.context.slot) =
      some access.supplied

/-- The broker's checks let the call pass: to a secret, or, unless it is a put or
a delete, to a delegated authority. -/
structure Admitted (mutation : Bool) : Prop where
  valid : validateBindings access.connections = .ok ()
  current : access.IsCurrent
  usable : (∃ reference, access.supplied.binding = .secret reference) ∨
    mutation = false ∧ ∃ authority, access.supplied.binding = .delegated authority

variable {access}

theorem currentBinding_eq_ok_iff {binding : CredentialBinding} :
    access.request.currentBinding = .ok binding ↔
      validateBindings access.connections = .ok () ∧ access.IsCurrent ∧
        binding = access.supplied.binding := by
  unfold Request.currentBinding IsCurrent
  change (validateBindings access.connections >>= _) = _ ↔ _
  cases hvalid : validateBindings access.connections with
  | error error => simp [bind, Except.bind]
  | ok value =>
      simp only [bind, Except.bind, request, true_and]
      cases hconnection : access.connections.find? fun connection =>
          connection.id == access.context.connectionId with
      | none => simp [throw, throwThe, MonadExceptOf.throw]
      | some connection =>
          simp only [Option.some.injEq, exists_eq_left']
          cases hcredential : connection.credentials.find? fun credential =>
              credential.slot == access.context.slot with
          | none => simp [throw, throwThe, MonadExceptOf.throw]
          | some current =>
              by_cases hstale : current = access.supplied
              · simp [hstale, pure, Except.pure, eq_comm]
              · simp [hstale, throw, throwThe, MonadExceptOf.throw]

/-- What `current_binding` leaves of a call: its report, or the binding. -/
theorem currentBinding_cases (operation : SecretOperation) :
    (∃ error, access.currentBinding operation {} =
        (.error error, Trace.audit {} access.context none operation .rejected) ∧
      ∀ mutation, ¬ access.Admitted mutation) ∨
    access.currentBinding operation {} = (.ok access.supplied.binding, {}) ∧
      validateBindings access.connections = .ok () ∧ access.IsCurrent := by
  unfold currentBinding
  cases hbinding : access.request.currentBinding with
  | error error =>
      refine .inl ⟨error, rfl, ?_⟩
      intro mutation hadmitted
      have hok := currentBinding_eq_ok_iff.mpr ⟨hadmitted.valid, hadmitted.current, rfl⟩
      cases hbinding.symm.trans hok
  | ok binding =>
      obtain ⟨hvalid, hcurrent, rfl⟩ := currentBinding_eq_ok_iff.mp hbinding
      exact .inr ⟨rfl, hvalid, hcurrent⟩

end Access

/-! ## Every call -/

/-- The outcome that the audit has for a result, by operation. -/
def statusOutcome : Except SecretError CredentialStatus → SecretAuditOutcome
  | .ok .present => .succeeded
  | .ok .missing => .notFound
  | .ok (.delegated _) => .delegated
  | .ok .disabled => .rejected
  | .error error => outcomeOf (Except.error error : Except SecretError Unit)

def resolveOutcome : Except SecretError CredentialResolution → SecretAuditOutcome
  | .ok (.secret _) => .succeeded
  | .ok (.delegated _) => .delegated
  | .error error => outcomeOf (Except.error error : Except SecretError Unit)

/-- What is audited and invoked in a completed call. The event's outcome is that
of the result, except that what the checks turn away is rejected. -/
structure Exact {α β : Type} (backends : Registry) (access : Access) (mutation : Bool)
    (classify : Except SecretError β → SecretAuditOutcome) (env : Env α)
    (result : Except SecretError β) (trace : Trace) : Prop where
  audited : ∃ event, trace.audited = [event] ∧
    event.connectionId = access.context.connectionId ∧ event.slot = access.context.slot ∧
    event.purpose = access.context.purpose ∧ event.requestId = access.context.requestId ∧
    (access.Admitted mutation → event.outcome = classify result) ∧
    (¬ access.Admitted mutation → event.outcome = .rejected)
  once : trace.invoked.length ≤ 1
  target : ∀ invocation ∈ trace.invoked, validateBindings access.connections = .ok () ∧
    access.IsCurrent ∧ access.supplied.binding = .secret ⟨invocation.backend, invocation.locator⟩ ∧
    (backends.find invocation.backend).isSome
  uninvoked : mutation = true → isInterruption result = true → trace.invoked = []
  uncertain : mutation = true → ∀ invocation ∈ trace.invoked, env.Interrupted invocation →
    ∃ backend, result = .error (.uncertainWrite backend)

section Exactness

variable {β : Type} {backends : Registry} {access : Access} {mutation : Bool}
  {classify : Except SecretError β → SecretAuditOutcome} {env : Env α}

/-- A call that ends before it reaches a backend. -/
theorem Exact.uncalled {result : Except SecretError β} (backend : Option SecretBackendId)
    (operation : SecretOperation) {outcome : SecretAuditOutcome}
    (hadmitted : access.Admitted mutation → outcome = classify result)
    (hrefused : ¬ access.Admitted mutation → outcome = .rejected) :
    Exact backends access mutation classify env result
      (Trace.audit {} access.context backend operation outcome) where
  audited := ⟨_, rfl, rfl, rfl, rfl, rfl, hadmitted, hrefused⟩
  once := Nat.zero_le 1
  target := fun _ hmem => (by cases hmem)
  uninvoked := fun _ _ => rfl
  uncertain := fun _ _ hmem => (by cases hmem)

/-- A call that waited for a backend, and what is made of its result. -/
theorem Exact.ran {reference : SecretReference} {operation : SecretOperation}
    {result : Except SecretError α} {result' : Except SecretError β} {trace : Trace}
    (hran : Ran access.context reference operation env result trace)
    (hvalid : validateBindings access.connections = .ok ()) (hcurrent : access.IsCurrent)
    (hbinding : access.supplied.binding = .secret reference)
    (hbackend : (backends.find reference.backendId).isSome)
    (hclass : classify result' = outcomeOf result)
    (hmutation : mutation = true → operation.isMutation = true ∧
      (isInterruption result' = true → isInterruption result = true) ∧
      ∀ backend, result = .error (.uncertainWrite backend) →
        result' = .error (.uncertainWrite backend)) :
    Exact backends access mutation classify env result' trace where
  audited := by
    refine ⟨_, hran.audited, rfl, rfl, rfl, rfl, fun _ => hclass.symm, ?_⟩
    intro hrefused
    exact absurd ⟨hvalid, hcurrent, .inl ⟨reference, hbinding⟩⟩ hrefused
  once := by
    rcases hran.invoked with hnone | hone
    · rw [hnone]
      exact Nat.zero_le 1
    · rw [hone]
      exact le_rfl
  target := by
    intro invocation hmem
    rcases hran.invoked with hnone | hone
    · rw [hnone] at hmem
      cases hmem
    · rw [hone] at hmem
      obtain rfl := List.mem_singleton.mp hmem
      exact ⟨hvalid, hcurrent, hbinding, hbackend⟩
  uninvoked := by
    intro hmutates hinterruption
    obtain ⟨hoperation, hkept, _⟩ := hmutation hmutates
    exact hran.uninvoked hoperation (hkept hinterruption)
  uncertain := by
    intro hmutates invocation hmem hinterrupted
    obtain ⟨hoperation, _, hkept⟩ := hmutation hmutates
    have hinvoked : trace.invoked ≠ [] := List.ne_nil_of_mem hmem
    rcases hran.invoked with hnone | hone
    · exact absurd hnone hinvoked
    · rw [hone] at hmem
      obtain rfl := List.mem_singleton.mp hmem
      exact ⟨_, hkept _ (hran.uncertain hoperation hinterrupted hinvoked)⟩

variable (backends access) in
theorem auditedBackend_cases (reference : SecretReference) (operation : SecretOperation) :
    access.auditedBackend backends reference operation {} =
        (.error (.backendUnavailable reference.backendId),
          Trace.audit {} access.context (some reference.backendId) operation .failed) ∨
    ∃ hasAdministrator, access.auditedBackend backends reference operation {} =
        (.ok hasAdministrator, {}) ∧ (backends.find reference.backendId).isSome := by
  unfold Access.auditedBackend
  cases hfound : backends.find reference.backendId with
  | none => exact .inl rfl
  | some hasAdministrator => exact .inr ⟨hasAdministrator, rfl, rfl⟩

theorem not_admitted_of_disabled (h : access.supplied.binding = .disabled) (mutation : Bool) :
    ¬ access.Admitted mutation := by
  intro hadmitted
  rcases hadmitted.usable with ⟨reference, hsecret⟩ | ⟨_, authority, hdelegated⟩
  · cases h.symm.trans hsecret
  · cases h.symm.trans hdelegated

theorem statusOutcome_statusOf (result : Except SecretError String) :
    statusOutcome (statusOf result) = outcomeOf result := by
  rcases result with error | value
  · cases error <;> rfl
  · rfl

theorem status_exact {env : Env String} {result : Except SecretError CredentialStatus}
    {trace : Trace} (h : status backends access env {} = some (result, trace)) :
    Exact backends access false statusOutcome env result trace := by
  unfold status at h
  rcases access.currentBinding_cases .probe with
    ⟨error, hrefused, hnot⟩ | ⟨hbinding, hvalid, hcurrent⟩
  · rw [hrefused] at h
    cases h
    exact .uncalled none .probe (fun hadmitted => absurd hadmitted (hnot _)) fun _ => rfl
  · rw [hbinding] at h
    cases hsupplied : access.supplied.binding with
    | delegated authority =>
        rw [hsupplied] at h
        cases h
        apply Exact.uncalled none .probe fun _ => rfl
        exact fun hnot => absurd ⟨hvalid, hcurrent, .inr ⟨rfl, authority, hsupplied⟩⟩ hnot
    | disabled =>
        rw [hsupplied] at h
        cases h
        exact .uncalled none .probe (fun _ => rfl) fun _ => rfl
    | secret reference =>
        rw [hsupplied] at h
        rcases auditedBackend_cases backends access reference .resolve with
          hmissing | ⟨_, hbackend, hregistered⟩
        · simp only [hmissing] at h
          cases h
          apply Exact.uncalled (some reference.backendId) .resolve fun _ => rfl
          exact fun hnot => absurd ⟨hvalid, hcurrent, .inl ⟨reference, hsupplied⟩⟩ hnot
        · simp only [hbackend] at h
          obtain ⟨⟨found, after⟩, hrun, heq⟩ := Option.map_eq_some_iff.mp h
          cases heq
          exact .ran (runCall_ran hrun) hvalid hcurrent hsupplied hregistered
            (statusOutcome_statusOf found) fun hmutates => (by cases hmutates)

theorem resolveOutcome_map (result : Except SecretError String) :
    resolveOutcome (result.map .secret) = outcomeOf result := by
  rcases result with error | value
  · cases error <;> rfl
  · rfl

theorem resolve_exact {env : Env String} {result : Except SecretError CredentialResolution}
    {trace : Trace} (h : resolve backends access env {} = some (result, trace)) :
    Exact backends access false resolveOutcome env result trace := by
  unfold resolve at h
  rcases access.currentBinding_cases .resolve with
    ⟨error, hrefused, hnot⟩ | ⟨hbinding, hvalid, hcurrent⟩
  · rw [hrefused] at h
    cases h
    exact .uncalled none .resolve (fun hadmitted => absurd hadmitted (hnot _)) fun _ => rfl
  · rw [hbinding] at h
    cases hsupplied : access.supplied.binding with
    | delegated authority =>
        rw [hsupplied] at h
        cases h
        apply Exact.uncalled none .resolve fun _ => rfl
        exact fun hnot => absurd ⟨hvalid, hcurrent, .inr ⟨rfl, authority, hsupplied⟩⟩ hnot
    | disabled =>
        rw [hsupplied] at h
        cases h
        apply Exact.uncalled none .resolve ?_ fun _ => rfl
        exact fun hadmitted => absurd hadmitted (not_admitted_of_disabled hsupplied _)
    | secret reference =>
        rw [hsupplied] at h
        rcases auditedBackend_cases backends access reference .resolve with
          hmissing | ⟨_, hbackend, hregistered⟩
        · simp only [hmissing] at h
          cases h
          apply Exact.uncalled (some reference.backendId) .resolve fun _ => rfl
          exact fun hnot => absurd ⟨hvalid, hcurrent, .inl ⟨reference, hsupplied⟩⟩ hnot
        · simp only [hbackend] at h
          obtain ⟨⟨found, after⟩, hrun, heq⟩ := Option.map_eq_some_iff.mp h
          cases heq
          exact .ran (runCall_ran hrun) hvalid hcurrent hsupplied hregistered
            (resolveOutcome_map found) fun hmutates => (by cases hmutates)

theorem mutate_exact {operation : SecretOperation} (hmutation : operation.isMutation = true)
    {result : Except SecretError α} {trace : Trace}
    (h : mutate backends access operation env {} = some (result, trace)) :
    Exact backends access true outcomeOf env result trace := by
  unfold mutate at h
  rcases access.currentBinding_cases operation with
    ⟨error, hrefused, hnot⟩ | ⟨hbinding, hvalid, hcurrent⟩
  · rw [hrefused] at h
    cases h
    exact .uncalled none operation (fun hadmitted => absurd hadmitted (hnot _)) fun _ => rfl
  · rw [hbinding] at h
    cases hsupplied : access.supplied.binding with
    | delegated authority =>
        rw [hsupplied] at h
        cases h
        apply Exact.uncalled none operation ?_ fun _ => rfl
        intro hadmitted
        rcases hadmitted.usable with ⟨reference, hsecret⟩ | ⟨hread, _⟩
        · cases hsupplied.symm.trans hsecret
        · cases hread
    | disabled =>
        rw [hsupplied] at h
        cases h
        apply Exact.uncalled none operation ?_ fun _ => rfl
        exact fun hadmitted => absurd hadmitted (not_admitted_of_disabled hsupplied _)
    | secret reference =>
        rw [hsupplied] at h
        have hadmitted : access.Admitted true := ⟨hvalid, hcurrent, .inl ⟨reference, hsupplied⟩⟩
        rcases auditedBackend_cases backends access reference operation with
          hmissing | ⟨hasAdministrator, hbackend, hregistered⟩
        · simp only [hmissing] at h
          cases h
          exact .uncalled (some reference.backendId) operation (fun _ => rfl) fun hnot =>
            absurd hadmitted hnot
        · simp only [hbackend] at h
          cases hasAdministrator with
          | false =>
              cases h
              exact .uncalled (some reference.backendId) operation (fun _ => rfl) fun hnot =>
                absurd hadmitted hnot
          | true =>
              exact .ran (runCall_ran h) hvalid hcurrent hsupplied hregistered rfl fun _ =>
                ⟨hmutation, id, fun _ => id⟩

end Exactness

/-! ## Samples -/

def probedReference : SecretReference :=
  ⟨⟨"probed-backend", by decide +kernel⟩, ⟨"probed-locator", by decide +kernel⟩⟩

def probedBinding : CredentialBindingRecord :=
  ⟨⟨"probed.api_key", by decide +kernel⟩, .secret probedReference⟩

def probedConnection : Connection :=
  ⟨⟨⟨BitVec.ofNat 128 (7 * 2 ^ 76 + 2 * 2 ^ 62 + 22), by decide⟩⟩, "Probed", "codex", "fireworks",
    ⟨"probed", by decide +kernel⟩, [probedBinding]⟩

def probedContext : SecretAccessContext :=
  ⟨probedConnection.id, probedBinding.slot, .startHarness, ⟨"probe", by decide +kernel⟩⟩

/-- The connection is listed twice, so its secret is bound twice. -/
def boundTwice : Access := ⟨[probedConnection, probedConnection], probedBinding, probedContext⟩

def boundOnce : Access := ⟨[probedConnection], probedBinding, probedContext⟩

def probedBackends : Registry := (∅ : Registry).set probedReference.backendId true

/-- The call is cancelled while the backend works. -/
def cancelledPut : Env PutSecretOutcome := ⟨false, [{}, { cancelled := true }]⟩

/-! ## Every operation -/

/-- Every completed call is audited once, by its result or as rejected, and
reaches at most the backend of the current binding, at most once. A put or delete
that is given up says so only if the backend has not seen it. -/
theorem calls_exact (backends : Registry) (access : Access) :
    (∀ env result trace, status backends access env {} = some (result, trace) →
      Exact backends access false statusOutcome env result trace) ∧
    (∀ env result trace, resolve backends access env {} = some (result, trace) →
      Exact backends access false resolveOutcome env result trace) ∧
    (∀ env result trace, put backends access env {} = some (result, trace) →
      Exact backends access true outcomeOf env result trace) ∧
    ∀ env result trace, delete backends access env {} = some (result, trace) →
      Exact backends access true outcomeOf env result trace :=
  ⟨fun _ _ _ => status_exact, fun _ _ _ => resolve_exact, fun _ _ _ => mutate_exact rfl,
    fun _ _ _ => mutate_exact rfl⟩

/-- A put that is cancelled after it was dispatched. -/
theorem cancelledPut_exact :
    ∃ (result : Except SecretError PutSecretOutcome) (trace : Trace),
      put probedBackends boundOnce cancelledPut {} = some (result, trace) ∧
      result = .error (.uncertainWrite probedReference.backendId) ∧ trace.invoked ≠ [] ∧
      Exact probedBackends boundOnce true outcomeOf cancelledPut result trace :=
  ⟨_, _, rfl, rfl, List.cons_ne_nil _ _, (calls_exact probedBackends boundOnce).2.2.1 _ _ _ rfl⟩

/-- The backend fails with the message of the broker's own check. -/
def failingBackend : Env String :=
  ⟨false, [{ answer := some (.error (.backendFailure brokerId "duplicate secret reference")) }]⟩

/-- A failed check is rejected, and a backend's failure with the same error is not. -/
theorem resolve_outcome_not_of_result :
    ¬ ∃ classify : Except SecretError CredentialResolution → SecretAuditOutcome,
      ∀ backends access env result trace,
        resolve backends access env {} = some (result, trace) →
        ∀ event ∈ trace.audited, event.outcome = classify result := by
  rintro ⟨classify, h⟩
  have hrejected := h ∅ boundTwice failingBackend _ _ rfl _ List.mem_cons_self
  have hfailed := h probedBackends boundOnce failingBackend _ _ rfl _ List.mem_cons_self
  cases hrejected.trans hfailed.symm

end YakShed.Secrets
