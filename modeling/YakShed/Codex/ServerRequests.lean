/-
# The provider's requests

A request of the provider is either refused with a JSON-RPC error or registered
and announced. Two checks read it: `validateServerRequest` decides whether it is
registered, the reducer whether it is announced. They differ on one kind of
request, a single question without text, which is registered although nobody is
told of it. Besides, the id that is registered or refused is the redacted one,
and a request is a duplicate where its id has the same text as a pending one.
-/

import YakShed.Codex.Actor

namespace YakShed.Codex

open Json

/-- The request an event announces to the client. -/
def HarnessEvent.announces : HarnessEvent → Option ProviderRequestHandle
  | approvalRequested request _ | userInputRequested request _ => some request
  | _ => none

namespace Actor

variable {runtime : Runtime} {actor after : Actor} {raw : String} {value id : Value}

/-! ## What a request should lead to -/

/-- A frame with an id and a method, account notifications aside. -/
structure IsServerRequest (value id : Value) : Prop where
  id : value.get "id" = some id
  method : (value.get "method").isSome
  noLogin : frameMethod value ≠ "account/login/completed"
  noUpdate : frameMethod value ≠ "account/updated"

/-- Exactly one JSON-RPC error is written, for that id, and nothing is registered. -/
structure Refused (actor after : Actor) (id : Value) (rejection : ServerRequestRejection) :
    Prop where
  error : after.stdin = actor.stdin ++ [(protocolErrorFrame id rejection, true)]
  requests : after.serverRequests = actor.serverRequests
  unannounced : ∃ event, after.events = actor.events ++ [event] ∧ event.event.announces = none

/-- One request is registered under that id, and the only event announces it. -/
def Registered (actor after : Actor) (id : Value) : Prop :=
  ∃ handle kind event,
    event.event.announces = some handle ∧ actor.serverRequests.find handle = none ∧
      after.serverRequests = actor.serverRequests.set handle ⟨id, kind, false⟩ ∧
      after.events = actor.events ++ [event] ∧ after.stdin = actor.stdin

/-- The id belongs to a pending request of the run. -/
def Awaits (actor : Actor) (run : Option ProviderRunHandle) (id : Value) : Prop :=
  ∃ handle pending, actor.serverRequests.find handle = some pending ∧
    some handle.run = run ∧ pending.rpcId = id

/-- The request is refused or registered, and refused as a duplicate only where
its own id is pending in its run. -/
def Handled (runtime : Runtime) (actor after : Actor) (value id : Value) : Prop :=
  (∃ rejection, Refused actor after id rejection ∧
    (rejection = duplicateRequestId →
      Awaits actor (runForMessage (runtime.sanitizer.sanitizeValue value) actor.runs) id)) ∨
  Registered actor after id

/-! ## When it does -/

/-- The request is for an active run, passes the checks of its method and has an
id that can be a handle's. -/
structure Admissible (value : Value) (runs : Dict (String × String) ProviderRunHandle)
    (handle : ProviderRequestHandle) : Prop where
  kind : ∃ method kind, value.str "method" = some method ∧
    validateServerRequestKind value method = .ok kind
  run : runForMessage value runs = some handle.run
  id : (value.get "id").bind requestIdText = some handle.nativeId
  component : isProviderComponent handle.nativeId

/-- The request asks one question, and the question has no text. -/
def AsksNothing (value : Value) : Prop :=
  value.str "method" = some "item/tool/requestUserInput" ∧
    ∃ params question, value.get "params" = some params ∧
      (params.get "questions").bind Value.asArray = some [question] ∧
      question.str "question" = some ""

/-- The requests that are handled: redaction leaves the id, the request does not
ask nothing under a handle that is free, and the text of its id is that of a
pending one only if the id itself is pending. -/
structure Answerable (runtime : Runtime) (actor : Actor) (value id : Value) : Prop where
  unredacted : runtime.sanitizer.sanitizeValue id = id
  asks : ∀ handle, Admissible (runtime.sanitizer.sanitizeValue value) actor.runs handle →
    actor.serverRequests.find handle = none →
    ¬ AsksNothing (runtime.sanitizer.sanitizeValue value)
  distinct : ∀ handle, Admissible (runtime.sanitizer.sanitizeValue value) actor.runs handle →
    (actor.serverRequests.find handle).isSome → Awaits actor (some handle.run) id

/-! ## The checks of the actor -/

/-- Only rejections with a property come out of a check. -/
def RejectsWith {α : Type} (only : ServerRequestRejection → Prop)
    (check : Except ServerRequestRejection α) : Prop :=
  ∀ rejection, check = .error rejection → only rejection

section RejectsWith

variable {α β : Type} {only : ServerRequestRejection → Prop} {rejection : ServerRequestRejection}

theorem rejectsWith_ok (found : α) : RejectsWith only (.ok found) := by
  intro rejection h
  cases h

theorem rejectsWith_error (h : only rejection) :
    RejectsWith only (.error rejection : Except ServerRequestRejection α) := by
  intro rejection' heq
  cases heq
  exact h

theorem rejectsWith_orReject {value : Option α} (h : only rejection) :
    RejectsWith only (orReject value rejection) := by
  cases value with
  | none => exact rejectsWith_error h
  | some found => exact rejectsWith_ok found

theorem RejectsWith.bind {check : Except ServerRequestRejection α}
    {next : α → Except ServerRequestRejection β} (hcheck : RejectsWith only check)
    (hnext : ∀ found, RejectsWith only (next found)) : RejectsWith only (check >>= next) := by
  cases check with
  | error rejection => exact rejectsWith_error (hcheck rejection rfl)
  | ok found => exact hnext found

theorem rejectsWith_mapM {check : α → Except ServerRequestRejection β} {items : List α}
    (h : ∀ item, RejectsWith only (check item)) : RejectsWith only (items.mapM check) := by
  induction items with
  | nil => exact rejectsWith_ok []
  | cons item rest ih =>
      rw [List.mapM_cons]
      apply (h item).bind
      intro found
      apply ih.bind
      intro others
      exact rejectsWith_ok (found :: others)

end RejectsWith

theorem requestParams_rejects : RejectsWith (· = invalidParams) (requestParams value) := by
  unfold requestParams
  refine RejectsWith.bind (rejectsWith_orReject ?_) ?_
  · rfl
  · intro params
    split
    · exact rejectsWith_error rfl
    · exact rejectsWith_ok params

theorem validateUserInputParams_rejects :
    RejectsWith (· = invalidParams) (validateUserInputParams value) := by
  unfold validateUserInputParams
  apply requestParams_rejects.bind
  intro params
  split
  · exact rejectsWith_error rfl
  · refine RejectsWith.bind (rejectsWith_orReject ?_) ?_
    · rfl
    · intro questions
      apply rejectsWith_mapM
      intro question
      unfold validateQuestion
      split
      · exact rejectsWith_error rfl
      · exact rejectsWith_orReject rfl

/-- The checks of a method and its parameters refuse no request as a duplicate. -/
theorem validateServerRequestKind_rejects (method : String) :
    RejectsWith (· ≠ duplicateRequestId) (validateServerRequestKind value method) := by
  have hinvalid : ∀ {α : Type} {check : Except ServerRequestRejection α},
      RejectsWith (· = invalidParams) check → RejectsWith (· ≠ duplicateRequestId) check := by
    intro α check h rejection heq
    rw [h rejection heq]
    decide
  unfold validateServerRequestKind
  split
  · refine RejectsWith.bind (hinvalid ?_) (fun _ => rejectsWith_ok _)
    apply requestParams_rejects.bind
    intro params
    split
    · exact rejectsWith_ok ()
    · exact rejectsWith_error rfl
  · refine RejectsWith.bind (hinvalid ?_) (fun _ => rejectsWith_ok _)
    apply requestParams_rejects.bind
    intro params
    split
    · exact rejectsWith_ok ()
    · exact rejectsWith_error rfl
  · exact (hinvalid validateUserInputParams_rejects).bind fun _ => rejectsWith_ok _
  · exact rejectsWith_error (by decide)

theorem validateServerRequest_cases (value : Value)
    (runs : Dict (String × String) ProviderRunHandle)
    (requests : Dict ProviderRequestHandle PendingServer) :
    (∃ handle kind rpcId, Admissible value runs handle ∧ requests.find handle = none ∧
      value.get "id" = some rpcId ∧
      validateServerRequest value (runForMessage value runs) requests =
        .ok (handle, ⟨rpcId, kind, false⟩)) ∨
    (∃ handle, Admissible value runs handle ∧ (requests.find handle).isSome ∧
      validateServerRequest value (runForMessage value runs) requests =
        .error duplicateRequestId) ∨
    (∃ rejection, rejection ≠ duplicateRequestId ∧
      (∀ handle, ¬ Admissible value runs handle) ∧
      validateServerRequest value (runForMessage value runs) requests = .error rejection) := by
  unfold validateServerRequest
  cases hmethod : value.str "method" with
  | none =>
      refine .inr (.inr ⟨invalidRequest, by decide, ?_, rfl⟩)
      intro handle admissible
      obtain ⟨method, kind, hsome, _⟩ := admissible.kind
      cases hmethod.symm.trans hsome
  | some method =>
  cases hkind : validateServerRequestKind value method with
  | error rejection =>
      refine .inr (.inr ⟨rejection, ?_, ?_, ?_⟩)
      · exact validateServerRequestKind_rejects method rejection hkind
      · intro handle admissible
        obtain ⟨method', kind, hsome, hok⟩ := admissible.kind
        cases hmethod.symm.trans hsome
        cases hkind.symm.trans hok
      · simp [orReject, hkind, bind, Except.bind]
  | ok kind =>
  cases hrun : runForMessage value runs with
  | none =>
      refine .inr (.inr ⟨noActiveRun, by decide, ?_, ?_⟩)
      · intro handle admissible
        cases hrun.symm.trans admissible.run
      · simp [orReject, hkind, bind, Except.bind]
  | some run =>
  cases hid : value.get "id" with
  | none =>
      refine .inr (.inr ⟨invalidRequestId, by decide, ?_, ?_⟩)
      · intro handle admissible
        have hnone := admissible.id
        rw [hid] at hnone
        cases hnone
      · simp [orReject, hkind, bind, Except.bind]
  | some rpcId =>
  cases htext : requestIdText rpcId with
  | none =>
      refine .inr (.inr ⟨invalidRequestId, by decide, ?_, ?_⟩)
      · intro handle admissible
        have hnone := admissible.id
        rw [hid, Option.bind_some, htext] at hnone
        cases hnone
      · simp [orReject, hkind, htext, Option.filter, bind, Except.bind]
  | some text =>
  by_cases hcomponent : isProviderComponent text
  · have admissible : Admissible value runs ⟨run, text⟩ :=
      ⟨⟨method, kind, hmethod, hkind⟩, hrun, by rw [hid]; exact htext, hcomponent⟩
    cases hfound : requests.find ⟨run, text⟩ with
    | some pending =>
        refine .inr (.inl ⟨⟨run, text⟩, admissible, by rw [hfound]; rfl, ?_⟩)
        simp [orReject, hkind, htext, hcomponent, Option.filter, hfound, bind, Except.bind,
          throw, throwThe, MonadExceptOf.throw]
    | none =>
        refine .inl ⟨⟨run, text⟩, kind, rpcId, admissible, hfound, rfl, ?_⟩
        simp [orReject, hkind, htext, hcomponent, Option.filter, hfound, bind, Except.bind,
          pure, Except.pure]
  · refine .inr (.inr ⟨invalidRequestId, by decide, ?_, ?_⟩)
    · intro handle admissible
      have hsome := admissible.id
      rw [hid, Option.bind_some, htext] at hsome
      cases hsome
      exact hcomponent admissible.component
    · simp [orReject, hkind, htext, hcomponent, Option.filter, bind, Except.bind]

/-! ## The reducer's check -/

/-- What the checks of a user-input request establish. -/
structure Asks (value : Value) (questions : List Value) : Prop where
  found : ∃ params, value.get "params" = some params ∧
    (params.get "questions").bind Value.asArray = some questions
  nonempty : questions ≠ []
  texts : ∀ question ∈ questions, (question.str "question").isSome

theorem texts_of_mapM {questions : List Value} {questionIds : List String}
    (h : questions.mapM validateQuestion = .ok questionIds) :
    ∀ question ∈ questions, (question.str "question").isSome := by
  induction questions generalizing questionIds with
  | nil =>
      intro question hmem
      cases hmem
  | cons head rest ih =>
      rw [List.mapM_cons] at h
      cases hhead : validateQuestion head with
      | error rejection =>
          rw [hhead] at h
          cases h
      | ok found =>
          cases hrest : rest.mapM validateQuestion with
          | error rejection =>
              simp only [hhead, hrest, bind, Except.bind] at h
              cases h
          | ok others =>
              intro question hmem
              rcases List.mem_cons.mp hmem with rfl | hmem
              · unfold validateQuestion at hhead
                cases htext : question.str "question" with
                | some text => rfl
                | none =>
                    rw [htext, Option.isNone_none, Bool.or_true] at hhead
                    cases hhead
              · exact ih hrest question hmem

theorem params_of_requestParams {fields : Fields} (h : requestParams value = .ok fields) :
    value.get "params" = some (.object fields) := by
  unfold requestParams at h
  obtain ⟨fields', hfields, h⟩ := bind_eq_ok.mp h
  have hobject := orReject_eq_ok.mp hfields
  have heq : fields' = fields := by
    split at h
    · cases h
    · cases h
      rfl
  rw [heq] at hobject
  obtain ⟨params, hparams, hobject⟩ := Option.bind_eq_some_iff.mp hobject
  cases params with
  | object found =>
      cases hobject
      exact hparams
  | null => cases hobject
  | bool b => cases hobject
  | number n => cases hobject
  | string text => cases hobject
  | array items => cases hobject

theorem asks_of_validateUserInputParams {questionIds : List String}
    (h : validateUserInputParams value = .ok questionIds) : ∃ questions, Asks value questions := by
  unfold validateUserInputParams at h
  obtain ⟨fields, hfields, h⟩ := bind_eq_ok.mp h
  split at h
  · cases h
  · obtain ⟨questions, hquestions, h⟩ := bind_eq_ok.mp h
    have hfilter := Option.filter_eq_some_iff.mp (orReject_eq_ok.mp hquestions)
    refine ⟨questions, ⟨.object fields, params_of_requestParams hfields, hfilter.1⟩, ?_, ?_⟩
    · rintro rfl
      cases hfilter.2
    · exact texts_of_mapM h

theorem mapM_eq_some {questions : List Value}
    (h : ∀ question ∈ questions, (question.str "question").isSome) :
    ∃ texts, questions.mapM (fun question => question.str "question") = some texts ∧
      questions.map (fun question => question.str "question") = texts.map some := by
  induction questions with
  | nil => exact ⟨[], rfl, rfl⟩
  | cons head rest ih =>
      obtain ⟨text, htext⟩ := Option.isSome_iff_exists.mp (h head List.mem_cons_self)
      obtain ⟨texts, hrest, hmap⟩ :=
        ih fun question hmem => h question (List.mem_cons_of_mem _ hmem)
      refine ⟨text :: texts, ?_, ?_⟩
      · rw [List.mapM_cons, htext, hrest]
        rfl
      · rw [List.map_cons, List.map_cons, htext, hmap]

/-- Joined texts are empty only where there is one text, and it is empty. -/
theorem intercalate_eq_empty {texts : List String} (hnonempty : texts ≠ []) :
    "\n".intercalate texts = "" ↔ texts = [""] := by
  match texts with
  | [] => exact absurd rfl hnonempty
  | [text] =>
      rw [String.intercalate_singleton]
      constructor
      · rintro rfl
        rfl
      · intro h
        cases h
        rfl
  | text :: other :: rest =>
      constructor
      · intro h
        rw [String.intercalate_cons_cons] at h
        have hlist := congrArg String.toList h
        simp at hlist
      · intro h
        cases h

theorem asksNothing_iff {questions : List Value} {texts : List String}
    (hmethod : value.str "method" = some "item/tool/requestUserInput")
    (asks : Asks value questions)
    (hmap : questions.map (fun question => question.str "question") = texts.map some) :
    AsksNothing value ↔ texts = [""] := by
  obtain ⟨params, hparams, hquestions⟩ := asks.found
  constructor
  · rintro ⟨_, params', question, hparams', hquestions', htext⟩
    rw [hparams] at hparams'
    cases hparams'
    rw [hquestions] at hquestions'
    cases hquestions'
    rw [List.map_singleton, htext, ← List.map_singleton (f := some)] at hmap
    exact (List.map_injective_iff.mpr (Option.some_injective String) hmap).symm
  · rintro rfl
    obtain ⟨question, rest, rfl⟩ := List.exists_cons_of_ne_nil asks.nonempty
    rw [List.map_cons, List.map_singleton] at hmap
    obtain ⟨htext, hrest⟩ := List.cons.inj hmap
    rw [List.map_eq_nil_iff.mp hrest] at hquestions
    exact ⟨hmethod, params, question, hparams, hquestions, htext⟩

/-- What the reducer makes of a registered request: it announces it, or reports
it as malformed where it asks nothing. -/
theorem reduce_request (reducer : Reducer) (handle : ProviderRequestHandle)
    (run : Option ProviderRunHandle) (native : String) {method : String}
    {kind : ServerRequestKind} (hmethod : value.str "method" = some method)
    (hkind : validateServerRequestKind value method = .ok kind) :
    (¬ AsksNothing value ∧ ∃ event, event.event.announces = some handle ∧
      reducer.reduce native value run (some handle) = (reducer, [event])) ∨
    (AsksNothing value ∧ reducer.reduce native value run (some handle) =
      (reducer, [.malformed run method native])) := by
  have hreduce : reducer.reduce native value run (some handle) =
      (reducer.reduceMethod ((value.get "params").getD .null) run (some handle) native method).getD
        (reducer, [.malformed run method native]) := by
    unfold Reducer.reduce
    rw [hmethod]
  rw [hreduce]
  unfold validateServerRequestKind at hkind
  split at hkind
  · left
    refine ⟨?_, _, rfl, rfl⟩
    rintro ⟨hother, _⟩
    exact absurd (Option.some.inj (hmethod.symm.trans hother)) (by decide)
  · left
    refine ⟨?_, _, rfl, rfl⟩
    rintro ⟨hother, _⟩
    exact absurd (Option.some.inj (hmethod.symm.trans hother)) (by decide)
  · obtain ⟨questionIds, hids, _⟩ := bind_eq_ok.mp hkind
    obtain ⟨questions, asks⟩ := asks_of_validateUserInputParams hids
    obtain ⟨texts, htexts, hmap⟩ := mapM_eq_some asks.texts
    obtain ⟨params, hparams, hquestions⟩ := asks.found
    have hnonempty : texts ≠ [] := by
      rintro rfl
      exact asks.nonempty (List.map_eq_nil_iff.mp hmap)
    have huser : reducer.userInput params (some handle) native =
        if "\n".intercalate texts = "" then none
        else some (reducer, [⟨.userInputRequested handle ("\n".intercalate texts), native⟩]) := by
      unfold Reducer.userInput
      simp only [Option.bind_eq_bind, Option.bind_some, hquestions, htexts]
      rfl
    have hbranch : reducer.reduceMethod ((value.get "params").getD .null) run (some handle) native
        "item/tool/requestUserInput" = reducer.userInput params (some handle) native := by
      rw [hparams]
      rfl
    rw [hbranch, huser]
    by_cases hempty : "\n".intercalate texts = ""
    · right
      rw [if_pos hempty]
      have htext := (intercalate_eq_empty hnonempty).mp hempty
      exact ⟨(asksNothing_iff hmethod asks hmap).mpr htext, rfl⟩
    · left
      rw [if_neg hempty]
      refine ⟨?_, _, rfl, rfl⟩
      intro hasks
      exact hempty ((intercalate_eq_empty hnonempty).mpr
        ((asksNothing_iff hmethod asks hmap).mp hasks))
  · cases hkind

/-! ## One frame -/

theorem IsServerRequest.sanitized (request : IsServerRequest value id) :
    (runtime.sanitizer.sanitizeValue value).get "id" =
      some (runtime.sanitizer.sanitizeValue id) := by
  unfold Sanitizer.sanitizeValue
  rw [Value.get_mapStrings, request.id, Option.map_some]

theorem Admissible.unique {runs : Dict (String × String) ProviderRunHandle}
    {handle handle' : ProviderRequestHandle} (h : Admissible value runs handle)
    (h' : Admissible value runs handle') : handle = handle' := by
  obtain ⟨run, nativeId⟩ := handle
  obtain ⟨run', nativeId'⟩ := handle'
  have hrun := h.run.symm.trans h'.run
  have hid := h.id.symm.trans h'.id
  cases hrun
  cases hid
  rfl

theorem protocolErrorFrame_injective {id' : Value} {rejection rejection' : ServerRequestRejection}
    (h : protocolErrorFrame id rejection = protocolErrorFrame id' rejection') :
    id = id' ∧ rejection = rejection' := by
  unfold protocolErrorFrame at h
  obtain ⟨code, message⟩ := rejection
  obtain ⟨code', message'⟩ := rejection'
  simp only [Value.object.injEq, List.cons.injEq, Prod.mk.injEq, Value.number.injEq,
    Number.integer.injEq, Value.string.injEq, true_and, and_true] at h
  obtain ⟨hid, hcode, hmessage⟩ := h
  exact ⟨hid, by rw [hcode, hmessage]⟩

theorem dispatch_announces {event : NativeEvent} {handle : ProviderRequestHandle}
    {completesRun : Bool} {run : Option ProviderRunHandle}
    (h : event.event.announces = some handle) :
    dispatch completesRun run actor event = actor.emit event := by
  obtain ⟨event, native⟩ := event
  cases event with
  | approvalRequested request summary => rfl
  | userInputRequested request prompt => rfl
  | runAccepted run => cases h
  | messageDelta run chunk => cases h
  | messageCompleted run text => cases h
  | fileMutation run path summary => cases h
  | commandOutputDelta run command commandText chunk => cases h
  | commandOutputCompleted run command commandText output => cases h
  | runTerminal run state => cases h
  | unknown run itemType native => cases h
  | malformed run itemType native => cases h

/-- The actor after it has registered a request. -/
def register (actor : Actor) (handle : ProviderRequestHandle) (pending : PendingServer) : Actor :=
  { actor with serverRequests := actor.serverRequests.set handle pending }

/-- A request that is announced is handled if its id was left by redaction. -/
theorem handled_emit_iff {handle : ProviderRequestHandle} {kind : ServerRequestKind}
    {event : NativeEvent} {id' : Value} (hfree : actor.serverRequests.find handle = none)
    (hevent : event.event.announces = some handle) :
    Handled runtime actor ((actor.register handle ⟨id', kind, false⟩).emit event) value id ↔
      id' = id := by
  constructor
  · rintro (⟨rejection, refused, _⟩ | ⟨handle', kind', event', hevent', _, hrequests, hevents, _⟩)
    · exact absurd refused.error (by simp [emit, register])
    · have heq : event = event' := by
        have hlist := List.append_cancel_left hevents
        exact (List.cons.inj hlist).1
      rw [← heq, hevent] at hevent'
      cases hevent'
      have hfind := congrArg (Dict.find · handle) hrequests
      simp only [emit, register, Dict.find_set_self] at hfind
      cases hfind
      rfl
  · rintro rfl
    exact .inr ⟨handle, kind, event, hevent, hfree, rfl, rfl, rfl⟩

/-- A request that is registered and reported as malformed is not handled. -/
theorem not_handled_malformed {handle : ProviderRequestHandle} {pending : PendingServer}
    {completesRun : Bool} {run : ProviderRunHandle} {method native : String} :
    ¬ Handled runtime actor (dispatch completesRun (some run) (actor.register handle pending)
      (.malformed (some run) method native)) value id := by
  rintro (⟨rejection, refused, _⟩ | ⟨handle', kind, event, hevent, _, _, hevents, _⟩)
  · have hstdin := refused.error
    cases completesRun with
    | true => simp [dispatch, NativeEvent.malformed, endMalformed, emitTerminalAndRetire, emit,
        register] at hstdin
    | false => simp [dispatch, NativeEvent.malformed, emit, register] at hstdin
  · cases completesRun with
    | true => simp [dispatch, NativeEvent.malformed, endMalformed, emitTerminalAndRetire, emit,
        register] at hevents
    | false =>
        have hlist := List.append_cancel_left hevents
        rw [← (List.cons.inj hlist).1] at hevent
        cases hevent

/-- A request that is refused is handled if redaction left its id, and if it is
a duplicate, then of its own id. -/
theorem handled_reject_iff {id' : Value} {rejection : ServerRequestRejection}
    {event : NativeEvent} {diagnostic : String} (hevent : event.event.announces = none) :
    Handled runtime actor
      (((actor.writeFrame (protocolErrorFrame id' rejection) true).pushDiagnostic
        diagnostic).emit event) value id ↔
    id' = id ∧ (rejection = duplicateRequestId →
      Awaits actor (runForMessage (runtime.sanitizer.sanitizeValue value) actor.runs) id) := by
  constructor
  · rintro (⟨rejection', refused, hawaits⟩ | ⟨handle, kind, event', _, _, _, _, hstdin⟩)
    · have hlist := List.append_cancel_left refused.error
      have hframe := congrArg Prod.fst (List.cons.inj hlist).1
      obtain ⟨rfl, rfl⟩ := protocolErrorFrame_injective hframe
      exact ⟨rfl, hawaits⟩
    · exact absurd hstdin (by simp [emit, pushDiagnostic, writeFrame])
  · rintro ⟨rfl, hawaits⟩
    exact .inl ⟨rejection, ⟨rfl, rfl, event, rfl, hevent⟩, hawaits⟩

theorem announces_rejectionEvent {rejection : ServerRequestRejection}
    {run : Option ProviderRunHandle} {method native : String} :
    (rejectionEvent rejection run method native).event.announces = none := by
  unfold rejectionEvent
  split
  · rfl
  · rfl

/-- Every server request is refused or answerable if and only if redaction
leaves its id, it asks something, and no other pending id of its run has the
same text. -/
theorem handled_iff_answerable (request : IsServerRequest value id) :
    (∃ after, actor.handleFrame runtime true raw value = .ok after ∧
      Handled runtime actor after value id) ↔ Answerable runtime actor value id := by
  have hframe : actor.handleFrame runtime true raw value =
      actor.handleMessage runtime true raw value (frameMethod value) := by
    unfold handleFrame
    have hmethod : (value.get "method").isNone = false := by
      rw [Option.isNone_eq_false_iff]
      exact request.method
    rw [hmethod, if_neg Bool.false_ne_true, if_neg request.noLogin, if_neg request.noUpdate]
  rw [hframe]
  unfold handleMessage
  simp only [request.sanitized]
  rcases validateServerRequest_cases (runtime.sanitizer.sanitizeValue value) actor.runs
      actor.serverRequests with
    ⟨handle, kind, rpcId, admissible, hfree, hid, hok⟩ |
    ⟨handle, admissible, htaken, herror⟩ | ⟨rejection, hne, hnone, herror⟩
  · rw [request.sanitized] at hid
    cases hid
    obtain ⟨method, kind', hmethod, hkind⟩ := admissible.kind
    simp only [hok, Except.ok.injEq, exists_eq_left']
    have hregister : ∀ pending, reduceMessage
        { actor with serverRequests := actor.serverRequests.set handle pending }
        (frameMethod value) (runtime.sanitizer.sanitize raw)
        (runtime.sanitizer.sanitizeValue value)
        (runForMessage (runtime.sanitizer.sanitizeValue value) actor.runs) (some handle) =
      reduceMessage (actor.register handle pending) (frameMethod value)
        (runtime.sanitizer.sanitize raw) (runtime.sanitizer.sanitizeValue value)
        (some handle.run) (some handle) := by
      intro pending
      rw [admissible.run]
      rfl
    rw [hregister]
    unfold reduceMessage
    rcases reduce_request
        (actor.register handle ⟨runtime.sanitizer.sanitizeValue id, kind, false⟩).reducer handle
        (some handle.run) (runtime.sanitizer.sanitize raw) hmethod hkind with
      ⟨hasks, event, hevent, hreduce⟩ | ⟨hasks, hreduce⟩
    · rw [hreduce]
      show Handled runtime actor (dispatch _ _ (actor.register handle _) event) value id ↔ _
      rw [dispatch_announces hevent, handled_emit_iff hfree hevent]
      constructor
      · intro hid
        refine ⟨hid, fun _ _ _ => hasks, ?_⟩
        intro handle' admissible' htaken
        rw [admissible'.unique admissible, hfree] at htaken
        cases htaken
      · exact Answerable.unredacted
    · rw [hreduce]
      constructor
      · intro handled
        exact absurd handled not_handled_malformed
      · intro answerable
        exact absurd hasks (answerable.asks handle admissible hfree)
  · simp only [herror, if_true, Except.ok.injEq, exists_eq_left']
    rw [handled_reject_iff announces_rejectionEvent]
    constructor
    · rintro ⟨hid, hawaits⟩
      have hawaits := hawaits rfl
      refine ⟨hid, ?_, ?_⟩
      · intro handle' admissible' hfree
        rw [admissible'.unique admissible] at hfree
        rw [hfree] at htaken
        cases htaken
      · intro handle' admissible' _
        rw [admissible'.unique admissible, ← admissible.run]
        exact hawaits
    · intro answerable
      refine ⟨answerable.unredacted, fun _ => ?_⟩
      rw [admissible.run]
      exact answerable.distinct handle admissible htaken
  · simp only [herror, if_true, Except.ok.injEq, exists_eq_left']
    rw [handled_reject_iff announces_rejectionEvent]
    constructor
    · rintro ⟨hid, _⟩
      exact ⟨hid, fun handle admissible => absurd admissible (hnone handle),
        fun handle admissible => absurd admissible (hnone handle)⟩
    · intro answerable
      exact ⟨answerable.unredacted, fun heq => absurd heq hne⟩

/-! ## A request that asks nothing -/

section Sample

def sampleRuntime : Runtime := ⟨⟨"codex-local", by decide +kernel⟩, ⟨["hunter2"], none⟩⟩

def sampleRun : ProviderRunHandle := ⟨"codex-local", "thread-1", "turn-1", by decide +kernel⟩

/-- An actor with one active run. -/
def sampleActor : Actor := { runs := Dict.set ∅ ("thread-1", "turn-1") sampleRun }

/-- A request of the sample run with these further parameters. -/
def sampleRequest (method : String) (params : Fields) : Value :=
  .object [("id", .number (.integer 7)), ("method", .string method),
    ("params", .object ([("threadId", .string "thread-1"), ("turnId", .string "turn-1"),
      ("itemId", .string "item-1")] ++ params))]

/-- A user-input request whose only question has no text. -/
def blankQuestion : Value :=
  sampleRequest "item/tool/requestUserInput"
    [("isBlocking", .bool true), ("questions", .array [.object
      [("id", .string "q1"), ("header", .string "Name"), ("question", .string "")]])]

def commandApprovalRequest : Value :=
  sampleRequest "item/commandExecution/requestApproval"
    [("startedAtMs", .number (.integer 1)), ("command", .string "make")]

set_option maxRecDepth 100000 in
/-- The blank question is registered, but neither refused nor announced. -/
theorem blankQuestion_not_handled :
    IsServerRequest blankQuestion (.number (.integer 7)) ∧
      ¬ ∃ after, sampleActor.handleFrame sampleRuntime true blankQuestion.toText blankQuestion =
        .ok after ∧
          Handled sampleRuntime sampleActor after blankQuestion (.number (.integer 7)) := by
  refine ⟨⟨rfl, rfl, by decide +kernel, by decide +kernel⟩, ?_⟩
  rintro ⟨after, hafter, handled⟩
  have heval : (sampleActor.handleFrame sampleRuntime true blankQuestion.toText
      blankQuestion).toOption.map (fun after =>
        (after.stdin.length, after.events.map (·.event.announces))) = some (0, [none]) := by
    decide +kernel
  rw [hafter] at heval
  obtain ⟨hstdin, hevents⟩ := Prod.mk.inj (Option.some.inj heval)
  rcases handled with ⟨rejection, refused, _⟩ | ⟨handle, kind, event, hevent, _, _, hlist, _⟩
  · rw [refused.error] at hstdin
    cases hstdin
  · rw [hlist] at hevents
    have hnone : event.event.announces = none := (List.cons.inj hevents).1
    rw [hevent] at hnone
    cases hnone

set_option maxRecDepth 100000 in
/-- A request for approval is announced. -/
theorem commandApprovalRequest_handled :
    ∃ after, sampleActor.handleFrame sampleRuntime true commandApprovalRequest.toText
      commandApprovalRequest = .ok after ∧
        Handled sampleRuntime sampleActor after commandApprovalRequest (.number (.integer 7)) := by
  have hmethod : (sampleRuntime.sanitizer.sanitizeValue commandApprovalRequest).str "method" =
      some "item/commandExecution/requestApproval" := by decide +kernel
  apply (handled_iff_answerable ⟨rfl, rfl, by decide +kernel, by decide +kernel⟩).mpr
  refine ⟨rfl, ?_, ?_⟩
  · rintro handle _ _ ⟨huser, _⟩
    exact absurd (Option.some.inj (hmethod.symm.trans huser)) (by decide)
  · intro handle _ htaken
    cases htaken

end Sample

end Actor

end YakShed.Codex
