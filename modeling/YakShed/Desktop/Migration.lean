/-
# The migration of the interim secrets

`secrets.json` was the store of credentials before the keychain. Each start of the
application goes on with moving what is in it: the configuration records what has been
copied, is then rebound to the keychain as a whole, and the file is purged last. Any call
may fail, a failed call may have had its effect, and the application may end at any point.

Between two starts the user's commands change connections and store credentials. They
run side by side, each of their calls at a time of its own. A write that its caller has
given up is a call that has not been answered.
-/

import YakShed.Config.Startup
import YakShed.Faults.Pool

namespace YakShed.Migration

open Config Secrets Faults

/-! ## What the application is built with -/

theorem localId_accepted : requireIdentifier "secret backend id" "local-os" = .ok () := by
  decide +kernel

theorem legacyId_accepted : requireIdentifier "secret backend id" "local-file" = .ok () := by
  decide +kernel

/-- `local_backend`. -/
def localBackend : SecretBackend := ⟨⟨"local-os", localId_accepted⟩, .localOs⟩

def legacyId : SecretBackendId := ⟨"local-file", legacyId_accepted⟩

/-- `legacy_backend`, whose path is that of `secrets.json` in the data root. -/
def legacyBackend (sourcePath : String) : SecretBackend := ⟨legacyId, .localFile sourcePath⟩

/-- The path of `secrets.json` and `backend_capabilities`. -/
structure App where
  sourcePath : String
  capabilities : List SecretBackendCapability

namespace App

def legacy (app : App) : SecretBackend := legacyBackend app.sourcePath

/-- `LocalFileBackend::from_config`, as far as it can fail. -/
def opens (app : App) (backend : SecretBackend) : Bool :=
  backend.settings.localFilePath.isSome &&
    (validateBackendConfiguration backend app.capabilities).isOk

end App

def production : ProductionConfig := ⟨localBackend, "codex"⟩

/-! ## The calls of the migration -/

/-- `CredentialMigrationPendingReason`. -/
inductive PendingReason
  | locked
  | denied
  | unavailable
  | collision
  | missingSource
  | sourceInUse
  | targetInUse
  | failed
  | cleanupRequired
  deriving DecidableEq

/-- `pending` of `classify_secret_error`. -/
def classify : SecretError → PendingReason
  | .locked _ => .locked
  | .denied _ _ => .denied
  | .backendUnavailable _ => .unavailable
  | _ => .failed

inductive Call : Type → Type
  /-- `try_exists` of the source; `none` where it fails. -/
  | sourceExists : Call (Option Bool)
  | snapshot : Call ConfigSnapshot
  | update (expectedRevision : Nat) (change : ConfigChange) :
      Call (Except ConfigError ConfigSnapshot)
  /-- Whether one of the paths leads to the source, as far as they can be resolved. -/
  | leadsToSource (paths : List String) : Call Bool
  | locators : Call (Except SecretError (List SecretLocator))
  | resolveSource (locator : SecretLocator) : Call (Except SecretError String)
  | resolveTarget (locator : SecretLocator) : Call (Except SecretError String)
  /-- `put` with `NO_OVERWRITE`. -/
  | putTarget (locator : SecretLocator) (value : String) : Call (Except SecretError Unit)
  | purge : Call (Except SecretError Unit)

/-- A part of the migration, which may leave the migration pending. -/
abbrev Action (α : Type) : Type 1 := Fallible Call PendingReason α

variable {α : Type}

/-- `store.update`, whose errors leave the migration pending. -/
def update (snapshot : ConfigSnapshot) (change : ConfigChange) : Action ConfigSnapshot :=
  (Fallible.attempt (.update snapshot.revision change)).mapError fun _ => .failed

/-- A call whose errors are classified. -/
def classified (request : Call (Except SecretError α)) : Action α :=
  (Fallible.attempt request).mapError classify

/-- `resolve`, where a secret may be missing. -/
def resolveIfPresent (request : Call (Except SecretError String)) : Action (Option String) := do
  match ← Fallible.ask request with
  | .ok secret => pure (some secret)
  | .error (.notFound _) => pure none
  | .error error => throw (classify error)

/-- `configured_local_file_owns_path`. -/
def ownsPath (backends : List SecretBackend) (except : Option SecretBackendId) : Action Bool :=
  Fallible.ask (.leadsToSource
    ((backends.filter fun backend => except ≠ some backend.id).filterMap
      (·.settings.localFilePath)))

/-! ## The migration -/

/-- The receipts by locator; of two the later one counts. -/
abbrev Receipts : Type := SecretLocator → Option CredentialCopyState

def receiptsOf (receipts : List CredentialCopyReceipt) : Receipts :=
  receipts.foldl (fun found receipt => Function.update found receipt.locator (some receipt.state))
    fun _ => none

/-- A copy that has not been announced yet is. -/
def announce (locator : SecretLocator) (snapshot : ConfigSnapshot) (receipts : Receipts) :
    Action (ConfigSnapshot × Receipts) := do
  if receipts locator = none then
    let snapshot ← update snapshot (.recordCredentialCopy locator .copying)
    pure (snapshot, Function.update receipts locator (some .copying))
  else pure (snapshot, receipts)

/-- The secret is put into the target, which has none. -/
def putMissing (locator : SecretLocator) (secret : String) (snapshot : ConfigSnapshot)
    (receipts : Receipts) : Action (ConfigSnapshot × Receipts) := do
  if receipts locator = some .copied then throw .collision
  else
    let announced ← announce locator snapshot receipts
    match ← Fallible.ask (.putTarget locator secret) with
    | .ok () => pure announced
    | .error (.alreadyExists _) => throw .collision
    | .error error => throw (classify error)

/-- The secret is in the target, by an earlier copy or by this one. -/
def ensurePut (locator : SecretLocator) (secret : String) (snapshot : ConfigSnapshot)
    (receipts : Receipts) : Action (ConfigSnapshot × Receipts) := do
  match ← resolveIfPresent (.resolveTarget locator) with
  | some existing =>
      if receipts locator = none ∨ secret ≠ existing then throw .collision
      else pure (snapshot, receipts)
  | none => putMissing locator secret snapshot receipts

/-- The copy that was read back is recorded, unless it was before. -/
def recordCopied (locator : SecretLocator) (receipt : Option CredentialCopyState)
    (snapshot : ConfigSnapshot) (receipts : Receipts) : Action (ConfigSnapshot × Receipts) := do
  if receipt ≠ some .copied then
    let snapshot ← update snapshot (.recordCredentialCopy locator .copied)
    pure (snapshot, Function.update receipts locator (some .copied))
  else pure (snapshot, receipts)

/-- The copy of one locator. -/
def copyOne (locator : SecretLocator) (snapshot : ConfigSnapshot) (receipts : Receipts) :
    Action (ConfigSnapshot × Receipts) := do
  match ← resolveIfPresent (.resolveSource locator) with
  | none => throw .missingSource
  | some secret =>
      let put ← ensurePut locator secret snapshot receipts
      let migrated ← classified (.resolveTarget locator)
      if secret ≠ migrated then throw .failed
      else recordCopied locator (receipts locator) put.1 put.2

/-- The loop over the manifest. -/
def copyEach : List SecretLocator → ConfigSnapshot → Receipts → Action ConfigSnapshot
  | [], snapshot, _ => pure snapshot
  | locator :: rest, snapshot, receipts => do
      let copied ← copyOne locator snapshot receipts
      copyEach rest copied.1 copied.2

def finish (snapshot : ConfigSnapshot) : Action Unit := do
  let _ ← update snapshot .finishCredentialMigration

/-- The purge of the source and the end of the migration. -/
def purgeAndFinish (snapshot : ConfigSnapshot) : Action Unit := do
  match ← Fallible.ask .purge with
  | .ok () => finish snapshot
  | .error _ => throw .cleanupRequired

/-- The migration after its checkpoint. -/
def cleanUp (exist : Bool) (snapshot : ConfigSnapshot) : Action Unit := do
  if ← ownsPath snapshot.config.secretBackends none then throw .sourceInUse
  else if exist then purgeAndFinish snapshot
  else finish snapshot

/-- The migration of a source that is there. -/
def copyAll (snapshot : ConfigSnapshot) (record : CredentialMigrationRecord) : Action Unit := do
  let sourceLocators ← classified .locators
  if sourceLocators.any fun locator => locator ∉ record.locators then throw .failed
  else
    let snapshot ← copyEach record.locators snapshot (receiptsOf record.receipts)
    let snapshot ← update snapshot .checkpointCredentialMigration
    cleanUp true snapshot

/-- A migration that has begun. -/
def resume (app : App) (exist : Bool) (snapshot : ConfigSnapshot)
    (record : CredentialMigrationRecord) : Action Unit := do
  if record.source ≠ app.legacy ∨ record.target ≠ localBackend then throw .failed
  else if app.opens record.source = false then throw .failed
  else if record.phase = .cleanupPending then cleanUp exist snapshot
  else if exist then copyAll snapshot record
  else if record.locators ≠ [] then throw .missingSource
  else
    let snapshot ← update snapshot .checkpointCredentialMigration
    finish snapshot

/-- `sort` and `dedup`. -/
def manifest (locators : List SecretLocator) : List SecretLocator :=
  locators.dedup.insertionSort fun first second => first.value ≤ second.value

/-- The locators that a migration begins with: those of the source, and those that are bound
to it. -/
def initialLocators (app : App) (exist : Bool) (config : AppConfig) :
    Action (List SecretLocator) := do
  if exist then
    let locators ← classified .locators
    pure (locators ++
      (config.references.filter (·.backendId = app.legacy.id)).map (·.locator))
  else pure []

/-- The begin of a migration. -/
def begin (app : App) (exist : Bool) (snapshot : ConfigSnapshot) : Action ConfigSnapshot := do
  if snapshot.config.secretBackends.any fun backend =>
      backend.id == localBackend.id && backend != localBackend then
    throw .targetInUse
  else if ← ownsPath snapshot.config.secretBackends (some app.legacy.id) then throw .sourceInUse
  else if app.opens app.legacy = false then throw .failed
  else
    let locators ← initialLocators app exist snapshot.config
    update snapshot (.beginCredentialMigration
      ⟨app.legacy, localBackend, .copying, manifest locators, []⟩)

/-- A start without a migration on record, whose source is not configured. -/
def unconfigured (exist : Bool) (snapshot : ConfigSnapshot) : Action Unit := do
  if exist then
    if ← ownsPath snapshot.config.secretBackends none then throw .sourceInUse
    else throw .failed
  else pure ()

/-- `migrate_interim_secrets`, which returns that it is ready or throws why it is pending. -/
def migrateInterimSecrets (app : App) : Action Unit := do
  match ← Fallible.ask .sourceExists with
  | none => throw .failed
  | some exist =>
      let snapshot ← Fallible.ask .snapshot
      match snapshot.config.credentialMigration with
      | some record => resume app exist snapshot record
      | none =>
          if app.legacy ∉ snapshot.config.secretBackends then unconfigured exist snapshot
          else
            let snapshot ← begin app exist snapshot
            match snapshot.config.credentialMigration with
            -- What was begun is in the snapshot that the store returned.
            | none => throw .failed
            | some record => resume app exist snapshot record

/-! ## The world -/

/-- `secrets.json`, of whose secrets at a locator the first counts. A purge overwrites the file
before it removes it. -/
inductive SecretsFile
  | absent
  | spoiled
  | holds (secrets : List (SecretLocator × String))
  deriving DecidableEq

namespace SecretsFile

/-- What is read from the file. One that is not there is created empty. -/
def secrets : SecretsFile → List (SecretLocator × String)
  | holds secrets => secrets
  | absent | spoiled => []

def find (file : SecretsFile) (locator : SecretLocator) : Option String :=
  file.secrets.lookup locator

end SecretsFile

inductive Event
  /-- The user's change of a connection reached the configuration. -/
  | put (connection : ConnectionId)
  /-- The user's credential reached a backend. -/
  | set (reference : SecretReference) (value : String)
  deriving DecidableEq

/-- The configuration in memory and on disk, the source, the keychain's entries of the
target, the backends of the running broker, and what users did, newest first. -/
structure World where
  serving : Bool := false
  config : ConfigStore := {}
  source : SecretsFile := .absent
  target : SecretLocator → Option String := fun _ => none
  broker : List SecretBackend := []
  events : List Event := []

namespace World

/-- The world with the source claimed by a reader. -/
def Claimed (world world' : World) : Prop :=
  world' = world ∨ world.source = .absent ∧ world' = { world with source := .holds [] }

/-- The source is open. -/
def Open (world world' : World) : Prop :=
  world.source ≠ .spoiled ∧ world' = { world with source := .holds world.source.secrets }

/-- The configuration store is asked for an update, which may fail. -/
def Updates (app : App) (world : World) (expectedRevision : Nat) (change : ConfigChange)
    (answer : Except ConfigError ConfigSnapshot) (world' : World) : Prop :=
  ∃ fault config, world.config.update app.capabilities fault expectedRevision change =
    (answer, config) ∧ world' = { world with config }

end World

/-- The answers to the migration. -/
def answers (app : App) : Answers Call World := fun _ request world answer world' =>
  match request with
  | .sourceExists => world' = world ∧ ∀ exist, answer = some exist →
      (exist = false ↔ world.source = .absent)
  | .snapshot => answer = world.config.state ∧ world' = world
  | .update expectedRevision change => world.Updates app expectedRevision change answer world'
  | .leadsToSource _ => world' = world
  | .locators =>
      match answer with
      | .ok locators => world.Open world' ∧
          ∀ locator, (world.source.find locator).isSome → locator ∈ locators
      | .error _ => world.Claimed world'
  | .resolveSource locator =>
      match answer with
      | .ok value => world.Open world' ∧ world.source.find locator = some value
      | .error _ => world.Claimed world'
  | .resolveTarget locator => world' = world ∧
      match answer with
      | .ok value => world.target locator = some value
      | .error (.notFound _) => world.target locator = none
      | .error _ => True
  | .putTarget locator value =>
      let stored := { world with target := Function.update world.target locator (some value) }
      match answer with
      | .ok () => world.target locator = none ∧ world' = stored
      | .error _ => world' = world ∨ world.target locator = none ∧ world' = stored
  | .purge =>
      match answer with
      | .ok () => world' = { world with source := .absent }
      | .error _ => world' = world ∨ world.source ≠ .absent ∧
          (world' = { world with source := .spoiled } ∨ world' = { world with source := .absent })

/-! ## The ports -/

inductive SecretPortError
  | connectionNotFound
  | bindingNotFound
  | notSecretBacked
  | resolveOnly
  | backendUnavailable
  | locked
  | denied
  | authenticationRequired
  | alreadyExists
  | uncertainWrite
  | migrationPending
  | failed
  deriving DecidableEq

def SecretPortError.of : SecretError → SecretPortError
  | .alreadyExists _ => .alreadyExists
  | .backendUnavailable _ | .timedOut _ | .cancelled _ => .backendUnavailable
  | .locked _ => .locked
  | .denied _ _ => .denied
  | .authenticationRequired _ => .authenticationRequired
  | .uncertainWrite _ => .uncertainWrite
  | .invalidBinding _ _ .unknownConnection => .connectionNotFound
  | .invalidBinding _ _ .unknownSlot => .bindingNotFound
  | .invalidBinding _ _ _ => .notSecretBacked
  | .notFound _ | .invalidLocator _ _ | .unsupportedOperation _ _ | .protocolViolation _ _
  | .backendFailure _ _ => .failed

/-- The calls of the running application, and its start as a whole. -/
inductive Request : Type → Type
  | startUp : Request Unit
  | snapshot : Request ConfigSnapshot
  | update (expectedRevision : Nat) (change : ConfigChange) :
      Request (Except ConfigError ConfigSnapshot)
  /-- `broker.put`, up to the end of its work. -/
  | brokerPut (connection : Connection) (binding : CredentialBindingRecord) (value : String)
      (overwrite : Bool) : Request (Except SecretError Unit)

/-- `ProductionConfig::put_connection`. -/
def putConnection (expectedRevision : Nat) (connection : Connection) :
    Fallible Request ConfigPortError ConfigSnapshot := do
  let snapshot ← Fallible.ask .snapshot
  match production.change snapshot.config connection with
  | .error error => throw error
  | .ok change => (Fallible.attempt (.update expectedRevision change)).mapError .store

/-- What `set_connection_credential` looks up in the configuration, and its refusals. -/
def writable (app : App) (config : AppConfig) (connectionId : ConnectionId)
    (slot : CredentialSlot) :
    Except SecretPortError (Connection × CredentialBindingRecord) := do
  match config.connections.find? (·.id = connectionId) with
  | none => throw .connectionNotFound
  | some connection =>
      match connection.credentials.find? (·.slot = slot) with
      | none => throw .bindingNotFound
      | some binding =>
          let backend := binding.binding.secretReference.bind fun reference =>
            config.secretBackends.find? (·.id = reference.backendId)
          let capability := backend.bind fun backend =>
            app.capabilities.find? (·.kind = backend.kind)
          if capability.any (·.access = .resolveOnly) then throw .resolveOnly
          if config.credentialMigration.any fun record =>
              record.phase = .copying && binding.binding.secretReference.any
                (·.backendId = record.source.id) then
            throw .migrationPending
          return (connection, binding)

/-- `ProductionSecrets::set_connection_credential`. -/
def setConnectionCredential (app : App) (connectionId : ConnectionId) (slot : CredentialSlot)
    (value : String) (overwrite : Bool) : Fallible Request SecretPortError Unit := do
  let snapshot ← Fallible.ask .snapshot
  match writable app snapshot.config connectionId slot with
  | .error error => throw error
  | .ok (connection, binding) =>
      (Fallible.attempt (.brokerPut connection binding value overwrite)).mapError .of

/-! ## The application -/

/-- The backends that `build_broker` builds. -/
def brokerBackends (config : AppConfig) : List SecretBackend :=
  if config.secretBackends.any (·.id = localBackend.id) then config.secretBackends
  else config.secretBackends ++ [localBackend]

/-- A start: the configuration is read, the migration goes on, whatever comes of it, and the
broker is built. -/
def Starts (app : App) (world world' : World) : Prop :=
  ∃ config result migrated, world.config.reopen app.capabilities = some config ∧
    Runs (answers app) (migrateInterimSecrets app).run { world with config } (some result)
      migrated ∧
    (buildBroker app.capabilities migrated.config.state.config localBackend).isOk ∧
    world' = { migrated with
      serving := true
      broker := brokerBackends migrated.config.state.config }

/-- A start that comes to no end. -/
def StartBreaks (app : App) (world world' : World) : Prop :=
  world' = world ∨ ∃ config result, world.config.reopen app.capabilities = some config ∧
    Runs (answers app) (migrateInterimSecrets app).run { world with config } result world'

namespace World

/-- The user's credential is stored by the backend of the broker that its reference names: in
the target, in the source, or elsewhere. A local file under any id may be the source. -/
inductive Stores (app : App) (world : World) (reference : SecretReference) (value : String)
    (overwrite : Bool) : World → Prop
  | target (backend : reference.backendId = localBackend.id) (serves : localBackend ∈ world.broker)
      (free : world.target reference.locator = none ∨ overwrite = true) :
      Stores app world reference value overwrite
        { world with target := Function.update world.target reference.locator (some value) }
  | source (path : String) (serves : ⟨reference.backendId, .localFile path⟩ ∈ world.broker)
      (usable : world.source ≠ .spoiled)
      (free : world.source.find reference.locator = none ∨ overwrite = true) :
      Stores app world reference value overwrite
        { world with
          source := .holds ((reference.locator, value) :: world.source.secrets) }
  | elsewhere (backend : SecretBackend) (named : backend.id = reference.backendId)
      (serves : backend ∈ world.broker) (other : backend ≠ localBackend ∧ backend ≠ app.legacy) :
      Stores app world reference value overwrite world

/-- What comes of a credential that goes to the broker. -/
def Puts (app : App) (world : World) (reference : SecretReference) (value : String)
    (overwrite : Bool) (answer : Except SecretError Unit) (world' : World) : Prop :=
  let stored := ∃ stored, world.Stores app reference value overwrite stored ∧
    world' = { stored with events := .set reference value :: world.events }
  match answer with
  | .ok () => stored
  | .error _ => stored ∨ world.Claimed world'

/-- The connection that an update puts, unless the update is refused before it is written. -/
def noted (app : App) (world : World) (expectedRevision : Nat) (change : ConfigChange) :
    List Event :=
  if (world.config.plan app.capabilities expectedRevision change).isOk then
    match change with
    | .putConnection connection | .putConnectionWithSecretBackends connection _ =>
        [.put connection.id]
    | _ => []
  else []

end World

/-- The answers to the application. Its commands are served between a start and the next end. -/
def requestAnswers (app : App) : Answers Request World := fun _ request world answer world' =>
  match request with
  | .startUp => world.serving = false ∧ Starts app world world'
  | .snapshot => world.serving = true ∧ answer = world.config.state ∧ world' = world
  | .update expectedRevision change =>
      world.serving = true ∧ ∃ updated,
        world.Updates app expectedRevision change answer updated ∧
          world' = { updated with
            events := world.noted app expectedRevision change ++ world.events }
  | .brokerPut _ binding value overwrite =>
      world.serving = true ∧
        match binding.binding.secretReference with
        | none => (∃ error, answer = .error error) ∧ world' = world
        | some reference => world.Puts app reference value overwrite answer world'

/-- What a call leaves that is not answered any more. -/
def requestInterrupts (app : App) : ∀ β : Type, Request β → World → World → Prop :=
  fun _ request world world' =>
    match request with
    | .startUp => world.serving = false ∧ StartBreaks app world world'
    | request => ∃ answer, requestAnswers app _ request world answer world'

/-- What runs in the application: its start, and the user's commands. -/
inductive Started (app : App) : Prog Request Unit → Prop
  | startUp : Started app (.call .startUp .done)
  | putConnection (expectedRevision : Nat) (connection : Connection) :
      Started app ((putConnection expectedRevision connection).run.bind fun _ => .done ())
  | setConnectionCredential (connectionId : ConnectionId) (slot : CredentialSlot)
      (value : String) (overwrite : Bool) :
      Started app ((setConnectionCredential app connectionId slot value overwrite).run.bind
        fun _ => .done ())

/-- The application through any number of starts. At its end all that runs is lost. -/
def surroundings (app : App) : Surroundings Request World where
  answers := requestAnswers app
  interrupts := requestInterrupts app
  fails world world' := world' = { world with serving := false }
  starts := Started app

end YakShed.Migration
