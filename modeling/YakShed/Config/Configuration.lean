/-
# The application's configuration

`AppConfig` with the checks every stored configuration has passed, the changes
callers may ask for, and the store that applies them one at a time under a
revision and writes the result to `config.toml`.
-/

import YakShed.Domain.Credentials

namespace YakShed.Config

/-! ## Backend capabilities -/

inductive SecretBackendAccess
  | readWrite
  | resolveOnly
  deriving DecidableEq

inductive SecretBackendAvailability
  | available
  | missingFeature (feature : String)
  | unsupportedPlatform
  deriving DecidableEq

structure SecretBackendCapability where
  kind : String
  availability : SecretBackendAvailability
  access : SecretBackendAccess
  validateLocator : Option (SecretLocator → Except String Unit)

inductive SecretBackendConfigurationError
  | unsupportedKind (backend : SecretBackendId) (kind : String)
  | missingFeature (backend : SecretBackendId) (kind feature : String)
  | unsupportedPlatform (backend : SecretBackendId) (kind : String)
  | wrongKind (backend : SecretBackendId) (expected : String)
  | duplicateLocalFilePath (backend : SecretBackendId)
  | absolutePathRequired (backend : SecretBackendId)
  deriving DecidableEq

/-- `Path::is_absolute`. -/
def isAbsolutePath (path : String) : Bool := path.toList.head? == some '/'

def validateBackendConfiguration (backend : SecretBackend)
    (capabilities : List SecretBackendCapability) :
    Except SecretBackendConfigurationError Unit := do
  if backend.settings.localFilePath.any fun path => !isAbsolutePath path then
    throw (.absolutePathRequired backend.id)
  match capabilities.find? fun capability => capability.kind == backend.kind with
  | none => throw (.unsupportedKind backend.id backend.kind)
  | some capability =>
      match capability.availability with
      | .available => return ()
      | .missingFeature feature => throw (.missingFeature backend.id backend.kind feature)
      | .unsupportedPlatform => throw (.unsupportedPlatform backend.id backend.kind)

/-! ## The configuration -/

inductive CredentialMigrationPhase
  | copying
  | cleanupPending
  deriving DecidableEq

inductive CredentialCopyState
  | copying
  | copied
  deriving DecidableEq

structure CredentialCopyReceipt where
  locator : SecretLocator
  state : CredentialCopyState
  deriving DecidableEq

structure CredentialMigrationRecord where
  source : SecretBackend
  target : SecretBackend
  phase : CredentialMigrationPhase
  locators : List SecretLocator
  receipts : List CredentialCopyReceipt
  deriving DecidableEq

/-- Every locator of the manifest has a receipt for a finished copy. -/
def CredentialMigrationRecord.allCopied (record : CredentialMigrationRecord) : Bool :=
  record.locators.all fun locator =>
    record.receipts.any fun receipt => receipt.locator == locator && receipt.state == .copied

/-- Canonical non-secret application configuration. -/
structure AppConfig where
  connections : List Connection := []
  secretBackends : List SecretBackend := []
  credentialMigration : Option CredentialMigrationRecord := none
  theme : String := "system"
  deriving DecidableEq

/-- All secrets that connections are bound to. -/
def AppConfig.references (config : AppConfig) : List SecretReference :=
  config.connections.flatMap Connection.references

inductive ConfigValidationError
  | invalid (message : String)
  | secretBackend (error : SecretBackendConfigurationError)
  deriving DecidableEq

/-- `map_err(|error| ConfigValidationError::invalid(error.to_string()))`. -/
def invalidValue {α : Type} : Except ValidationError α → Except ConfigValidationError α
  | .ok value => .ok value
  | .error error => .error (.invalid error.message)

/-- The loop over the backends, with the ids and the local files it has seen. -/
def validateBackends (capabilities : List SecretBackendCapability) :
    List SecretBackend → List SecretBackendId → List String → Except ConfigValidationError Unit
  | [], _, _ => .ok ()
  | backend :: rest, ids, paths => do
      invalidValue backend.validate
      match validateBackendConfiguration backend capabilities with
      | .error error => throw (.secretBackend error)
      | .ok () => pure ()
      if backend.settings.localFilePath.any fun path => paths.contains path then
        throw (.secretBackend (.duplicateLocalFilePath backend.id))
      if backend.id ∈ ids then
        throw (.invalid ("duplicate secret backend id: " ++ backend.id.value))
      validateBackends capabilities rest (backend.id :: ids)
        (backend.settings.localFilePath.toList ++ paths)

/-- The loop over a connection's credentials. -/
def validateReferences (capabilities : List SecretBackendCapability)
    (backends : List SecretBackend) : List CredentialBindingRecord →
    Except ConfigValidationError Unit
  | [] => .ok ()
  | credential :: rest => do
      match credential.binding.secretReference with
      | none => pure ()
      | some reference =>
          match backends.find? fun backend => backend.id == reference.backendId with
          | none =>
              throw (.invalid
                ("credential references unknown secret backend: " ++ reference.backendId.value))
          | some backend =>
              match (capabilities.find? fun capability =>
                  capability.kind == backend.kind).bind (·.validateLocator) with
              | none => pure ()
              | some validateLocator =>
                  match validateLocator reference.locator with
                  | .error message => throw (.invalid message)
                  | .ok () => pure ()
      validateReferences capabilities backends rest

/-- The loop over the connections, with the ids and the state roots it has seen. -/
def validateConnections (capabilities : List SecretBackendCapability)
    (backends : List SecretBackend) : List Connection → List ConnectionId →
    List ProviderStateRootId → Except ConfigValidationError Unit
  | [], _, _ => .ok ()
  | connection :: rest, ids, roots => do
      invalidValue connection.validate
      if connection.id ∈ ids then
        throw (.invalid ("duplicate connection id: " ++ connection.id.uuid.toText))
      if connection.providerState ∈ roots then
        throw (.invalid ("duplicate provider state root: " ++ connection.providerState.value))
      validateReferences capabilities backends connection.credentials
      validateConnections capabilities backends rest (connection.id :: ids)
        (connection.providerState :: roots)

def validateMigration (backends : List SecretBackend) (migration : CredentialMigrationRecord) :
    Except ConfigValidationError Unit := do
  if migration.source.settings.localFilePath = none ∨ migration.target.settings ≠ .localOs ∨
      migration.source.id = migration.target.id then
    throw (.invalid "credential migration backend pair is invalid")
  let receiptLocators := migration.receipts.map (·.locator)
  if ¬ receiptLocators.Nodup then
    throw (.invalid "credential migration contains duplicate receipts")
  if ¬ migration.locators.Nodup ∨
      receiptLocators.any fun locator => locator ∉ migration.locators then
    throw (.invalid "credential migration manifest is invalid")
  let sourceConfigured := backends.any (· == migration.source)
  let targetConfigured := backends.any (· == migration.target)
  if backends.any fun backend =>
      backend.id == migration.target.id && backend != migration.target then
    throw (.invalid "credential migration target id is already in use")
  match migration.phase with
  | .copying =>
      if !sourceConfigured then
        throw (.invalid "copying credential migration requires its source backend")
  | .cleanupPending =>
      if sourceConfigured || !targetConfigured || !migration.allCopied then
        throw (.invalid
          "cleanup credential migration requires its target and a fully copied manifest")

def AppConfig.validate (capabilities : List SecretBackendCapability) (config : AppConfig) :
    Except ConfigValidationError Unit := do
  if trimIsEmpty config.theme then throw (.invalid "ui.theme cannot be empty")
  validateBackends capabilities config.secretBackends [] []
  validateConnections capabilities config.secretBackends config.connections [] []
  match config.credentialMigration with
  | none => return ()
  | some migration => validateMigration config.secretBackends migration

/-! ## Changes -/

/-- Validated configuration mutations available to application callers. -/
inductive ConfigChange
  | putConnection (connection : Connection)
  | putConnectionWithSecretBackends (connection : Connection) (secretBackends : List SecretBackend)
  | removeConnection (id : ConnectionId)
  | putSecretBackend (backend : SecretBackend)
  | removeSecretBackend (id : SecretBackendId)
  | beginCredentialMigration (record : CredentialMigrationRecord)
  | recordCredentialCopy (locator : SecretLocator) (state : CredentialCopyState)
  | checkpointCredentialMigration
  | finishCredentialMigration
  | setUiTheme (theme : String)
  | reset
  deriving DecidableEq

/-- `config.toml` cannot be written: whether the new file is in place all the
same, and whether it can be read back. -/
structure WriteFault where
  committed : Bool
  readable : Bool
  deriving DecidableEq

inductive ConfigError
  | conflict (expected actual : Nat)
  | validation (error : ConfigValidationError)
  | revisionOverflow
  | invalidMigrationTransition (message : String)
  | io (fault : WriteFault)
  deriving DecidableEq

namespace AppConfig

/-- `retain(|item| item.id != connection.id)`, `push` and `sort_by_key`. -/
def putConnection (config : AppConfig) (connection : Connection) : AppConfig :=
  { config with
    connections :=
      (config.connections.filter (·.id ≠ connection.id) ++ [connection]).insertionSort
        fun first second => first.id.uuid ≤ second.id.uuid }

/-- `retain(|item| item.id != backend.id)` and `push`. -/
def replaceBackend (backends : List SecretBackend) (backend : SecretBackend) : List SecretBackend :=
  backends.filter (·.id ≠ backend.id) ++ [backend]

def sortBackends (backends : List SecretBackend) : List SecretBackend :=
  backends.insertionSort fun first second => first.id.value ≤ second.id.value

end AppConfig

/-- What a checkpoint makes of one binding. -/
def moveBinding (source target : SecretBackendId) : CredentialBinding → CredentialBinding
  | .secret reference =>
      if reference.backendId = source then .secret { reference with backendId := target }
      else .secret reference
  | .delegated authority => .delegated authority
  | .disabled => .disabled

/-- What a checkpoint makes of one connection. -/
def moveConnection (source target : SecretBackendId) (connection : Connection) : Connection :=
  { connection with
    credentials := connection.credentials.map fun credential =>
      { credential with binding := moveBinding source target credential.binding } }

/-- The state of a locator's receipt. -/
def CredentialMigrationRecord.copyState (record : CredentialMigrationRecord)
    (locator : SecretLocator) : Option CredentialCopyState :=
  (record.receipts.find? fun receipt => receipt.locator == locator).map fun receipt => receipt.state

/-- A receipt replaces the one of the same locator. -/
def CredentialMigrationRecord.putReceipt (record : CredentialMigrationRecord)
    (receipt : CredentialCopyReceipt) : CredentialMigrationRecord :=
  { record with
    receipts :=
      (record.receipts.filter (·.locator ≠ receipt.locator) ++ [receipt]).insertionSort
        fun first second => first.locator.value ≤ second.locator.value }

/-- Receipts advance from absent to copying to copied. -/
def copyAdvances : Option CredentialCopyState → CredentialCopyState → Bool
  | none, .copying | some .copying, .copied => true
  | _, _ => false

def applyChange (config : AppConfig) : ConfigChange → Except ConfigError AppConfig
  | .putConnection connection => .ok (config.putConnection connection)
  | .putConnectionWithSecretBackends connection secretBackends =>
      .ok { config.putConnection connection with
        secretBackends := AppConfig.sortBackends
          (secretBackends.foldl AppConfig.replaceBackend config.secretBackends) }
  | .removeConnection id =>
      .ok { config with connections := config.connections.filter (·.id ≠ id) }
  | .putSecretBackend backend =>
      .ok { config with
        secretBackends := AppConfig.sortBackends
          (AppConfig.replaceBackend config.secretBackends backend) }
  | .removeSecretBackend id =>
      .ok { config with secretBackends := config.secretBackends.filter (·.id ≠ id) }
  | .beginCredentialMigration record =>
      if config.credentialMigration.isSome || record.phase ≠ .copying ||
          !record.receipts.isEmpty then
        .error (.invalidMigrationTransition
          "begin requires an inactive migration and an empty copying record")
      else .ok { config with credentialMigration := some record }
  | .recordCredentialCopy locator state =>
      match config.credentialMigration with
      | none =>
          .error (.invalidMigrationTransition "copy receipt requires an active migration")
      | some record =>
          if record.phase ≠ .copying || !record.locators.contains locator then
            .error (.invalidMigrationTransition
              "copy receipt requires the copying phase and a manifest locator")
          else if !copyAdvances (record.copyState locator) state then
            .error (.invalidMigrationTransition
              "copy receipts may only advance from absent to copying to copied")
          else .ok { config with credentialMigration := some (record.putReceipt ⟨locator, state⟩) }
  | .checkpointCredentialMigration =>
      match config.credentialMigration with
      | none => .error (.invalidMigrationTransition "checkpoint requires an active migration")
      | some record =>
          if record.phase ≠ .copying || !record.allCopied then
            .error (.invalidMigrationTransition
              "checkpoint requires a copied receipt for every manifest locator")
          else
            .ok { config with
              connections := config.connections.map
                (moveConnection record.source.id record.target.id)
              secretBackends := AppConfig.sortBackends (AppConfig.replaceBackend
                (config.secretBackends.filter (·.id ≠ record.source.id)) record.target)
              credentialMigration := some { record with phase := .cleanupPending } }
  | .finishCredentialMigration =>
      if config.credentialMigration.map (·.phase) = some .cleanupPending then
        .ok { config with credentialMigration := none }
      else .error (.invalidMigrationTransition "finish requires the cleanup-pending phase")
  | .setUiTheme theme => .ok { config with theme := theme }
  | .reset => .ok {}

/-! ## The store -/

structure ConfigSnapshot where
  revision : Nat := 0
  config : AppConfig := {}
  deriving DecidableEq

/-- The state in memory and the configuration that `config.toml` holds. -/
structure ConfigStore where
  state : ConfigSnapshot := {}
  file : AppConfig := {}
  deriving DecidableEq

def revisionMax : Nat := 2 ^ 64 - 1

namespace ConfigStore

variable (capabilities : List SecretBackendCapability)

/-- What `update` writes and returns when the file system does not fail. -/
def plan (store : ConfigStore) (expectedRevision : Nat) (change : ConfigChange) :
    Except ConfigError ConfigSnapshot := do
  if store.state.revision ≠ expectedRevision then
    throw (.conflict expectedRevision store.state.revision)
  let config ← applyChange store.state.config change
  match config.validate capabilities with
  | .error error => throw (.validation error)
  | .ok () => pure ()
  if store.state.revision = revisionMax then throw .revisionOverflow
  return ⟨store.state.revision + 1, config⟩

/-- After a failed write the store takes what it finds in the file, which is the
old configuration or the new one. -/
def recover (store : ConfigStore) (fault : WriteFault) (next : ConfigSnapshot) : ConfigStore :=
  let file := if fault.committed then next.config else store.file
  if fault.readable && (file.validate capabilities).isOk then
    let revision := if file = store.state.config then store.state.revision else next.revision
    { state := ⟨revision, file⟩, file }
  else { store with file }

/-- `StoreInner::update`. -/
def update (fault : Option WriteFault) (store : ConfigStore) (expectedRevision : Nat)
    (change : ConfigChange) : Except ConfigError ConfigSnapshot × ConfigStore :=
  match store.plan capabilities expectedRevision change with
  | .error error => (.error error, store)
  | .ok next =>
      match fault with
      | none => (.ok next, ⟨next, next.config⟩)
      | some fault => (.error (.io fault), store.recover capabilities fault next)

/-- `open`: the file is read again and the revisions start over. -/
def reopen (store : ConfigStore) : Option ConfigStore :=
  match store.file.validate capabilities with
  | .ok () => some { state := ⟨0, store.file⟩, file := store.file }
  | .error _ => none

end ConfigStore

end YakShed.Config
