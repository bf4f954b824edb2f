/-
# What the actor accepts

The pinned schemas of the responses and notifications, and the checks of the
requests a provider sends. All of them read redacted messages.
-/

import YakShed.Codex.Reducer
import YakShed.Codex.Sanitizer

namespace YakShed.Codex

open Json

/-! ## Identifiers and errors -/

/-- The outcome of `RuntimeHandle::new`, `ProviderSessionId::new` or
`ProviderRunId::new`, which make one check. -/
structure ProviderComponent where
  value : String
  accepted : isProviderComponent value
  deriving DecidableEq

def ProviderComponent.new (value : String) : Option ProviderComponent :=
  if h : isProviderComponent value then some ⟨value, h⟩ else none

def ProviderRunHandle.new (runtime session native : ProviderComponent) : ProviderRunHandle where
  runtime := runtime.value
  sessionId := session.value
  nativeId := native.value
  accepted := by rw [runtime.accepted, session.accepted, native.accepted]; rfl

/-- `Display` of a request. -/
def ProviderRequestHandle.toText (request : ProviderRequestHandle) : String :=
  request.run.toText ++ "/" ++ request.nativeId

/-- The errors a Codex runtime returns. -/
inductive HarnessError
  | invalidInput (message : String)
  | notFound (entity id : String)
  | overloaded
  | disconnected
  | outcomeUnknown (operation : String)
  | protocol (diagnostic : String)
  | transport (diagnostic : String)
  deriving DecidableEq

/-- `Display` of an error. -/
def HarnessError.toText : HarnessError → String
  | invalidInput message => "invalid input: " ++ message
  | notFound entity id => entity ++ " not found: " ++ id
  | overloaded => "runtime is overloaded"
  | disconnected => "runtime is disconnected"
  | outcomeUnknown operation => "outcome is unknown for mutating operation: " ++ operation
  | protocol diagnostic => "provider protocol failure: " ++ diagnostic
  | transport diagnostic => "provider transport failure: " ++ diagnostic

/-- `classify_protocol_error`. -/
def classifyProtocolError (error : Value) (sanitizer : Sanitizer) : HarnessError :=
  let raw := error.toText
  if Occurs "serverOverloaded" raw ∨ Occurs "overload" (raw.map Char.toLower) then .overloaded
  else .protocol (sanitizer.sanitize raw)

/-! ## Responses -/

/-- What a client's request expects for an answer. -/
inductive RequestKind
  | emptyObject
  | accountRead
  | accountLoginStart
  | accountLogout
  | threadList
  | session (expectedThreadId : Option String)
  | startRun (sessionId : ProviderComponent)
  | turnSteer (expectedTurnId : ProviderComponent)
  deriving DecidableEq

def hasFields (object : Fields) (fields : List String) : Bool :=
  fields.all object.containsKey

/-- An optional field is absent, null or as required. -/
def optionalField (object : Fields) (field : String) (valid : Value → Bool) : Bool :=
  (object.get field).all fun value => value.isNull || valid value

def validTurn (value : Value) : Bool :=
  match value.asObject with
  | none => false
  | some turn =>
      hasFields turn ["id", "items", "status"] &&
        (value.str "id").any isProviderComponent &&
        ((value.get "items").bind Value.asArray).isSome &&
        (value.str "status").any
          (["completed", "interrupted", "failed", "inProgress"].contains ·)

/-- The fields a thread must have. -/
def threadFields : List String :=
  ["cliVersion", "createdAt", "cwd", "ephemeral", "id", "modelProvider", "preview",
    "sessionId", "source", "status", "turns", "updatedAt"]

def validThread (value : Value) : Bool :=
  match value.asObject with
  | none => false
  | some thread =>
      hasFields thread threadFields &&
        (value.str "cliVersion").isSome &&
        ((value.get "createdAt").bind Value.asI64).isSome &&
        (value.str "cwd").isSome &&
        ((value.get "ephemeral").bind Value.asBool).isSome &&
        (value.str "id").any isProviderComponent &&
        (value.str "modelProvider").isSome &&
        (value.str "preview").isSome &&
        (value.str "sessionId").isSome &&
        (value.get "source").any
          (fun source =>
            source.asStr.isSome || source.asObject.any fun fields => !fields.isEmpty) &&
        (((value.get "status").bind (·.str "type")).any
          (["notLoaded", "idle", "systemError", "active"].contains ·)) &&
        ((value.get "turns").bind Value.asArray).any (·.all validTurn) &&
        ((value.get "updatedAt").bind Value.asI64).isSome

/-- The fields a session's response must have. -/
def sessionFields : List String :=
  ["approvalPolicy", "approvalsReviewer", "cwd", "model", "modelProvider", "sandbox", "thread"]

/-- `valid_response_result`. -/
def validResponseResult (kind : RequestKind) (result : Value) : Bool :=
  match result.asObject with
  | none => false
  | some object =>
      match kind with
      | .emptyObject | .accountLogout => object.isEmpty
      | .accountRead =>
          ((object.get "requiresOpenaiAuth").bind Value.asBool).isSome &&
            optionalField object "account" fun account =>
              account.asObject.isSome &&
                (account.str "type").any (["apiKey", "chatgpt", "amazonBedrock"].contains ·)
      | .accountLoginStart =>
          result.str "type" == some "chatgpt" && (result.str "loginId").isSome &&
            (result.str "authUrl").isSome
      | .threadList =>
          ((object.get "data").bind Value.asArray).any (·.all validThread) &&
            optionalField object "nextCursor" fun cursor => cursor.asStr.isSome
      | .session expectedThreadId =>
          hasFields object sessionFields &&
            (result.str "cwd").isSome && (result.str "model").isSome &&
            (result.str "modelProvider").isSome &&
            ((object.get "sandbox").bind Value.asObject).isSome &&
            (object.get "thread").any validThread &&
            expectedThreadId.all fun expected =>
              ((object.get "thread").bind (·.str "id")) == some expected
      | .startRun _ => (object.get "turn").any validTurn
      | .turnSteer expectedTurnId => result.str "turnId" == some expectedTurnId.value

/-! ## Account notifications -/

/-- `account_login_completion`. -/
def accountLoginCompletion (value : Value) : Option (String × Bool) := do
  let params ← (value.get "params").bind Value.asObject
  let loginId ← (params.get "loginId").bind Value.asStr
  let success ← (params.get "success").bind Value.asBool
  if optionalField params "error" (·.asStr.isSome) &&
      optionalField params "onboardingEntrypoint" (·.asStr == some "life_sciences") then
    return (loginId, success)
  else none

def authModes : List String :=
  ["apikey", "chatgpt", "chatgptAuthTokens", "headers", "agentIdentity",
    "personalAccessToken", "bedrockApiKey"]

def planTypes : List String :=
  ["free", "go", "plus", "pro", "prolite", "team", "self_serve_business_prolite",
    "self_serve_business_usage_based", "business", "ent26", "enterprise_cbp_automation",
    "enterprise_cbp_usage_based", "enterprise", "edu", "unknown"]

def validAccountUpdated (value : Value) : Bool :=
  match (value.get "params").bind Value.asObject with
  | none => false
  | some params =>
      optionalField params "authMode" (·.asStr.any (authModes.contains ·)) &&
        optionalField params "planType" (·.asStr.any (planTypes.contains ·))

/-! ## Server requests -/

inductive ServerRequestKind
  | approval
  | userInput (questionIds : List String)
  deriving DecidableEq

/-- A request of the provider that waits for its answer. -/
structure PendingServer where
  rpcId : Value
  kind : ServerRequestKind
  uncertain : Bool := false

structure ServerRequestRejection where
  code : Int
  message : String
  deriving DecidableEq

def invalidParams : ServerRequestRejection := ⟨-32602, "invalid request parameters"⟩
def invalidRequest : ServerRequestRejection := ⟨-32600, "invalid request"⟩
def invalidRequestId : ServerRequestRejection := ⟨-32600, "invalid request id"⟩
def duplicateRequestId : ServerRequestRejection := ⟨-32600, "duplicate request id"⟩
def methodNotSupported : ServerRequestRejection := ⟨-32601, "method not supported"⟩
def noActiveRun : ServerRequestRejection := ⟨-32602, "request does not identify an active run"⟩

/-- What `ok_or` makes of a missing value. -/
def orReject {α : Type} (value : Option α) (rejection : ServerRequestRejection) :
    Except ServerRequestRejection α :=
  match value with
  | some found => .ok found
  | none => .error rejection

theorem bind_eq_ok {α β : Type} {check : Except ServerRequestRejection α}
    {next : α → Except ServerRequestRejection β} {result : β} :
    check >>= next = .ok result ↔ ∃ found, check = .ok found ∧ next found = .ok result := by
  cases check with
  | error rejection =>
      constructor
      · intro h
        cases h
      · rintro ⟨found, h, _⟩
        cases h
  | ok found =>
      constructor
      · intro h
        exact ⟨found, rfl, h⟩
      · rintro ⟨found', h, hnext⟩
        cases h
        exact hnext

theorem orReject_eq_ok {α : Type} {value : Option α} {rejection : ServerRequestRejection}
    {found : α} : orReject value rejection = .ok found ↔ value = some found := by
  cases value with
  | none => simp [orReject]
  | some found' => simp [orReject]

/-- `request_params`. -/
def requestParams (value : Value) : Except ServerRequestRejection Fields := do
  let params ← orReject ((value.get "params").bind Value.asObject) invalidParams
  if ((params.get "threadId").bind Value.asStr).isNone ||
      ((params.get "turnId").bind Value.asStr).isNone then
    throw invalidParams
  return params

def validateCommandApprovalParams (value : Value) : Except ServerRequestRejection Unit := do
  let params ← requestParams value
  if ((params.get "itemId").bind Value.asStr).isSome &&
      ((params.get "startedAtMs").bind Value.asI64).isSome then return ()
  else throw invalidParams

def validateFileApprovalParams (value : Value) : Except ServerRequestRejection Unit := do
  let params ← requestParams value
  if ((params.get "itemId").bind Value.asStr).isSome then return () else throw invalidParams

/-- The check of one question, which returns its id. -/
def validateQuestion (question : Value) : Except ServerRequestRejection String := do
  if (question.str "header").isNone || (question.str "question").isNone then
    throw invalidParams
  orReject (question.str "id") invalidParams

def validateUserInputParams (value : Value) : Except ServerRequestRejection (List String) := do
  let params ← requestParams value
  if ((params.get "itemId").bind Value.asStr).isNone ||
      ((params.get "isBlocking").bind Value.asBool).isNone then
    throw invalidParams
  let questions ← orReject (((params.get "questions").bind Value.asArray).filter (!·.isEmpty))
    invalidParams
  questions.mapM validateQuestion

/-- The checks of a request's method and parameters. -/
def validateServerRequestKind (value : Value) (method : String) :
    Except ServerRequestRejection ServerRequestKind :=
  match method with
  | "item/commandExecution/requestApproval" => do
      validateCommandApprovalParams value
      return .approval
  | "item/fileChange/requestApproval" => do
      validateFileApprovalParams value
      return .approval
  | "item/tool/requestUserInput" => do
      let questionIds ← validateUserInputParams value
      return .userInput questionIds
  | _ => throw methodNotSupported

/-- A request's id as text: a string's own, an integer's digits. -/
def requestIdText : Value → Option String
  | .string text => some text
  | .number (.integer value) =>
      if -i64Limit ≤ value ∧ value < u64Limit then some (toString value) else none
  | _ => none

/-- `validate_server_request`. -/
def validateServerRequest (value : Value) (run : Option ProviderRunHandle)
    (requests : Dict ProviderRequestHandle PendingServer) :
    Except ServerRequestRejection (ProviderRequestHandle × PendingServer) := do
  let method ← orReject (value.str "method") invalidRequest
  let kind ← validateServerRequestKind value method
  let run ← orReject run noActiveRun
  let rpcId ← orReject ((value.get "id").filter fun id => (requestIdText id).isSome)
    invalidRequestId
  let nativeId ← orReject ((requestIdText rpcId).filter isProviderComponent) invalidRequestId
  let handle : ProviderRequestHandle := ⟨run, nativeId⟩
  if (requests.find handle).isSome then throw duplicateRequestId
  return (handle, ⟨rpcId, kind, false⟩)

end YakShed.Codex
