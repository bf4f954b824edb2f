/-
# The configuration as TOML

The records that `config.toml` is made of, their codecs, and the conversions
between them and the configuration. A configuration that validation accepts is
converted back from what it is written as.
-/

import YakShed.Config.Validation
import YakShed.Domain.Parsing
import YakShed.Toml.Codec

namespace YakShed.Config

open Toml

/-- The version that every configuration is written in. -/
def schemaVersion : UInt32 := 1

/-! ## Records -/

/-- A secret store as the file has it; which parts there are depends on the kind. -/
structure SecretBackendDto where
  id : String
  kind : String
  account : Option String
  path : Option String
  executable : Option String

/-- A credential, told apart by its `source`. -/
inductive CredentialBindingDto
  | delegated (slot : CredentialSlot) (authority : String)
  | secret (slot : CredentialSlot) (backend locator : String)
  | disabled (slot : CredentialSlot)

/-- A connection. Its identifier and its state root are checked when they are read. -/
structure ConnectionDto where
  id : ConnectionId
  name : String
  harness : String
  modelProvider : String
  providerState : ProviderStateRootId
  credentials : List CredentialBindingDto

/-- How far the copy of one secret has come. -/
structure CredentialCopyReceiptDto where
  locator : String
  state : CredentialCopyState

/-- The record of a migration of secrets between two stores. -/
structure CredentialMigrationDto where
  source : SecretBackendDto
  target : SecretBackendDto
  phase : CredentialMigrationPhase
  locators : List String
  receipts : List CredentialCopyReceiptDto

/-- What the file keeps for the interface. -/
structure UiDto where
  theme : String := "system"

/-- The whole file. -/
structure ConfigDto where
  schemaVersion : UInt32
  connections : List ConnectionDto
  secretBackends : List SecretBackendDto
  credentialMigration : Option CredentialMigrationDto
  ui : UiDto

/-! ## Codecs -/

/-- The message of a failed check. -/
def said {α : Type} : Except ValidationError α → Except String α
  | .ok value => .ok value
  | .error error => .error error.message

namespace Codecs

/-- An identifier as `serde` reads it, through its checked constructor. -/
def connectionId [UuidErrors] : Codec ConnectionId :=
  Codec.string.via (fun id => id.uuid.toText) fun text => said (ConnectionId.fromStr text)

def providerStateRootId : Codec ProviderStateRootId :=
  Codec.string.via (·.value) fun text => said (ProviderStateRootId.new text)

def credentialSlot : Codec CredentialSlot :=
  Codec.string.via (·.value) fun text => said (CredentialSlot.new text)

/-- The names of the variants in snake case. -/
def phase : Codec CredentialMigrationPhase where
  serialize
    | .copying => .string "copying"
    | .cleanupPending => .string "cleanup_pending"
  deserialize
    | .string "copying" => .ok .copying
    | .string "cleanup_pending" => .ok .cleanupPending
    | .string name => .error (.unknownVariant name)
    | _ => .error (.invalidType "a string")

def copyState : Codec CredentialCopyState where
  serialize
    | .copying => .string "copying"
    | .copied => .string "copied"
  deserialize
    | .string "copying" => .ok .copying
    | .string "copied" => .ok .copied
    | .string name => .error (.unknownVariant name)
    | _ => .error (.invalidType "a string")

/-- The keys of a secret store, in the order of a table. -/
def secretBackendFields (dto : SecretBackendDto) : Fields where
  entries :=
    [("account", dto.account.map Codec.string.serialize),
      ("executable", dto.executable.map Codec.string.serialize),
      ("id", some (Codec.string.serialize dto.id)),
      ("kind", some (Codec.string.serialize dto.kind)),
      ("path", dto.path.map Codec.string.serialize)]
  ordered := (by decide +kernel :
    ["account", "executable", "id", "kind", "path"].Pairwise (· < ·))

/-- Unknown keys are refused, and absent parts are read as absent. -/
def secretBackend : Codec SecretBackendDto where
  serialize := fun dto => .table (secretBackendFields dto).table
  deserialize := fun value => do
    let table ← value.asTable
    table.expect ["id", "kind", "account", "path", "executable"]
    let id ← table.field .string "id"
    let kind ← table.field .string "kind"
    let account ← table.fieldOption .string "account"
    let path ← table.fieldOption .string "path"
    let executable ← table.fieldOption .string "executable"
    return ⟨id, kind, account, path, executable⟩

/-- The keys of a credential: the tag and what its variant has. -/
def credentialBindingFields : CredentialBindingDto → Fields
  | .delegated slot authority =>
      { entries :=
          [("authority", some (Codec.string.serialize authority)),
            ("slot", some (credentialSlot.serialize slot)),
            ("source", some (.string "delegated"))]
        ordered := (by decide +kernel : ["authority", "slot", "source"].Pairwise (· < ·)) }
  | .secret slot backend locator =>
      { entries :=
          [("backend", some (Codec.string.serialize backend)),
            ("locator", some (Codec.string.serialize locator)),
            ("slot", some (credentialSlot.serialize slot)),
            ("source", some (.string "secret"))]
        ordered := (by decide +kernel :
          ["backend", "locator", "slot", "source"].Pairwise (· < ·)) }
  | .disabled slot =>
      { entries :=
          [("slot", some (credentialSlot.serialize slot)), ("source", some (.string "disabled"))]
        ordered := (by decide +kernel : ["slot", "source"].Pairwise (· < ·)) }

/-- The tag is read first and the other keys are those of its variant. -/
def credentialBinding : Codec CredentialBindingDto where
  serialize := fun dto => .table (credentialBindingFields dto).table
  deserialize := fun value => do
    let (source, table) ← (← value.asTable).tagged "source"
    match source with
    | "delegated" =>
        table.expect ["slot", "authority"]
        let slot ← table.field credentialSlot "slot"
        let authority ← table.field .string "authority"
        return .delegated slot authority
    | "secret" =>
        table.expect ["slot", "backend", "locator"]
        let slot ← table.field credentialSlot "slot"
        let backend ← table.field .string "backend"
        let locator ← table.field .string "locator"
        return .secret slot backend locator
    | "disabled" =>
        table.expect ["slot"]
        let slot ← table.field credentialSlot "slot"
        return .disabled slot
    | name => throw (.unknownVariant name)

/-- A list that is left out when it is empty. -/
def unlessEmpty {α : Type} (codec : Codec α) (values : List α) : Option Value :=
  if values.isEmpty then none else some (codec.list.serialize values)

/-- The keys of a connection; a connection without credentials has no such key. -/
def connectionFields [UuidErrors] (dto : ConnectionDto) : Fields where
  entries :=
    [("credentials", unlessEmpty credentialBinding dto.credentials),
      ("harness", some (Codec.string.serialize dto.harness)),
      ("id", some (connectionId.serialize dto.id)),
      ("model_provider", some (Codec.string.serialize dto.modelProvider)),
      ("name", some (Codec.string.serialize dto.name)),
      ("provider_state", some (providerStateRootId.serialize dto.providerState))]
  ordered := (by decide +kernel :
    ["credentials", "harness", "id", "model_provider", "name", "provider_state"].Pairwise (· < ·))

/-- Credentials may be left out of the file. -/
def connection [UuidErrors] : Codec ConnectionDto where
  serialize := fun dto => .table (connectionFields dto).table
  deserialize := fun value => do
    let table ← value.asTable
    table.expect ["id", "name", "harness", "model_provider", "provider_state", "credentials"]
    let id ← table.field connectionId "id"
    let name ← table.field .string "name"
    let harness ← table.field .string "harness"
    let modelProvider ← table.field .string "model_provider"
    let providerState ← table.field providerStateRootId "provider_state"
    let credentials ← table.fieldOr credentialBinding.list "credentials" []
    return ⟨id, name, harness, modelProvider, providerState, credentials⟩

/-- The keys of a receipt. -/
def receiptFields (dto : CredentialCopyReceiptDto) : Fields where
  entries :=
    [("locator", some (Codec.string.serialize dto.locator)),
      ("state", some (copyState.serialize dto.state))]
  ordered := (by decide +kernel : ["locator", "state"].Pairwise (· < ·))

def receipt : Codec CredentialCopyReceiptDto where
  serialize := fun dto => .table (receiptFields dto).table
  deserialize := fun value => do
    let table ← value.asTable
    table.expect ["locator", "state"]
    let locator ← table.field .string "locator"
    let state ← table.field copyState "state"
    return ⟨locator, state⟩

/-- The keys of a migration; empty lists are left out. -/
def migrationFields (dto : CredentialMigrationDto) : Fields where
  entries :=
    [("locators", unlessEmpty .string dto.locators),
      ("phase", some (phase.serialize dto.phase)),
      ("receipts", unlessEmpty receipt dto.receipts),
      ("source", some (secretBackend.serialize dto.source)),
      ("target", some (secretBackend.serialize dto.target))]
  ordered := (by decide +kernel :
    ["locators", "phase", "receipts", "source", "target"].Pairwise (· < ·))

/-- Both lists may be left out of the file. -/
def migration : Codec CredentialMigrationDto where
  serialize := fun dto => .table (migrationFields dto).table
  deserialize := fun value => do
    let table ← value.asTable
    table.expect ["source", "target", "phase", "locators", "receipts"]
    let source ← table.field secretBackend "source"
    let target ← table.field secretBackend "target"
    let migrationPhase ← table.field phase "phase"
    let locators ← table.fieldOr (Codec.list .string) "locators" []
    let receipts ← table.fieldOr receipt.list "receipts" []
    return ⟨source, target, migrationPhase, locators, receipts⟩

/-- The one key of the interface. -/
def uiFields (dto : UiDto) : Fields where
  entries := [("theme", some (Codec.string.serialize dto.theme))]
  ordered := List.pairwise_singleton _ _

def ui : Codec UiDto where
  serialize := fun dto => .table (uiFields dto).table
  deserialize := fun value => do
    let table ← value.asTable
    table.expect ["theme"]
    let theme ← table.field .string "theme"
    return ⟨theme⟩

/-- The keys of the file. Its lists are written even when they are empty. -/
def configFields [UuidErrors] (dto : ConfigDto) : Fields where
  entries :=
    [("connections", some (connection.list.serialize dto.connections)),
      ("credential_migration", dto.credentialMigration.map migration.serialize),
      ("schema_version", some (Codec.u32.serialize dto.schemaVersion)),
      ("secret_backends", some (secretBackend.list.serialize dto.secretBackends)),
      ("ui", some (ui.serialize dto.ui))]
  ordered := (by decide +kernel :
    ["connections", "credential_migration", "schema_version", "secret_backends", "ui"].Pairwise
      (· < ·))

/-- Only the version has to be there. -/
def config [UuidErrors] : Codec ConfigDto where
  serialize := fun dto => .table (configFields dto).table
  deserialize := fun value => do
    let table ← value.asTable
    table.expect ["schema_version", "connections", "secret_backends", "credential_migration", "ui"]
    let schemaVersion ← table.field .u32 "schema_version"
    let connections ← table.fieldOr connection.list "connections" []
    let secretBackends ← table.fieldOr secretBackend.list "secret_backends" []
    let credentialMigration ← table.fieldOption migration "credential_migration"
    let uiDto ← table.fieldOr ui "ui" {}
    return ⟨schemaVersion, connections, secretBackends, credentialMigration, uiDto⟩

/-! ## What is written is read back -/

instance [UuidErrors] : connectionId.Lawful := by
  apply Codec.via_lawful
  intro id
  rw [ConnectionId.fromStr_toText]
  rfl

instance : providerStateRootId.Lawful := by
  apply Codec.via_lawful
  intro root
  rw [ProviderStateRootId.new_value]
  rfl

instance : credentialSlot.Lawful := by
  apply Codec.via_lawful
  intro slot
  rw [CredentialSlot.new_value]
  rfl

instance : phase.Lawful where
  canonical := fun value => by cases value <;> exact .string _
  roundTrip := fun value => by cases value <;> rfl

instance : copyState.Lawful where
  canonical := fun value => by cases value <;> exact .string _
  roundTrip := fun value => by cases value <;> rfl

/-- A list that may be left out is canonical where it is written. -/
theorem canonical_unlessEmpty {α : Type} {codec : Codec α} [codec.Lawful] {values : List α}
    (value : Value) (h : unlessEmpty codec values = some value) : value.Canonical := by
  unfold unlessEmpty at h
  split at h
  · cases h
  · cases h
    exact Codec.Lawful.canonical values

/-- A list that was left out is read as the empty one. -/
theorem fieldOr_unlessEmpty {α : Type} {codec : Codec α} [codec.Lawful] {fields : Fields}
    {key : String} {values : List α}
    (h : fields.entries.lookup key = some (unlessEmpty codec values)) :
    fields.table.fieldOr codec.list key [] = .ok values := by
  cases values with
  | nil => exact Fields.fieldOr_absent h
  | cons value rest => exact Fields.fieldOr_table h

instance : secretBackend.Lawful where
  canonical := by
    intro dto
    apply Fields.canonical_table
    simp [secretBackendFields, Codec.Lawful.canonical]
  roundTrip := by
    intro dto
    have hexpect : (secretBackendFields dto).table.expect
        ["id", "kind", "account", "path", "executable"] = .ok () :=
      Fields.expect_table (by simp [secretBackendFields])
    have hid : (secretBackendFields dto).table.field .string "id" =
        .ok dto.id := Fields.field_table rfl
    have hkind : (secretBackendFields dto).table.field .string "kind" =
        .ok dto.kind := Fields.field_table rfl
    have haccount : (secretBackendFields dto).table.fieldOption .string "account" =
        .ok dto.account := Fields.fieldOption_table rfl
    have hpath : (secretBackendFields dto).table.fieldOption .string "path" =
        .ok dto.path := Fields.fieldOption_table rfl
    have hexecutable : (secretBackendFields dto).table.fieldOption .string "executable" =
        .ok dto.executable := Fields.fieldOption_table rfl
    simp only [secretBackend, Value.asTable, bind, Except.bind, hexpect, hid, hkind, haccount,
      hpath, hexecutable]
    rfl

instance : credentialBinding.Lawful where
  canonical := by
    intro dto
    apply Fields.canonical_table
    cases dto <;> simp [credentialBindingFields, Codec.Lawful.canonical, Value.Canonical.string]
  roundTrip := by
    intro dto
    cases dto with
    | delegated slot authority =>
        let fields := credentialBindingFields (.delegated slot authority)
        have htag : fields.table.tagged "source" =
            .ok ("delegated", (fields.without "source").table) := Fields.tagged_table rfl
        have hexpect : (fields.without "source").table.expect ["slot", "authority"] = .ok () :=
          Fields.expect_table (by simp [fields, credentialBindingFields, Fields.without])
        have hslot : (fields.without "source").table.field credentialSlot "slot" = .ok slot :=
          Fields.field_table rfl
        have hauthority : (fields.without "source").table.field .string "authority" =
            .ok authority :=
          Fields.field_table rfl
        simp only [fields] at htag hexpect hslot hauthority
        simp only [credentialBinding, Value.asTable, bind, Except.bind, htag, hexpect, hslot,
          hauthority]
        rfl
    | secret slot backend locator =>
        let fields := credentialBindingFields (.secret slot backend locator)
        have htag : fields.table.tagged "source" =
            .ok ("secret", (fields.without "source").table) := Fields.tagged_table rfl
        have hexpect : (fields.without "source").table.expect ["slot", "backend", "locator"] =
            .ok () :=
          Fields.expect_table (by simp [fields, credentialBindingFields, Fields.without])
        have hslot : (fields.without "source").table.field credentialSlot "slot" = .ok slot :=
          Fields.field_table rfl
        have hbackend : (fields.without "source").table.field .string "backend" = .ok backend :=
          Fields.field_table rfl
        have hlocator : (fields.without "source").table.field .string "locator" = .ok locator :=
          Fields.field_table rfl
        simp only [fields] at htag hexpect hslot hbackend hlocator
        simp only [credentialBinding, Value.asTable, bind, Except.bind, htag, hexpect, hslot,
          hbackend, hlocator]
        rfl
    | disabled slot =>
        let fields := credentialBindingFields (.disabled slot)
        have htag : fields.table.tagged "source" =
            .ok ("disabled", (fields.without "source").table) := Fields.tagged_table rfl
        have hexpect : (fields.without "source").table.expect ["slot"] = .ok () :=
          Fields.expect_table (by simp [fields, credentialBindingFields, Fields.without])
        have hslot : (fields.without "source").table.field credentialSlot "slot" = .ok slot :=
          Fields.field_table rfl
        simp only [fields] at htag hexpect hslot
        simp only [credentialBinding, Value.asTable, bind, Except.bind, htag, hexpect, hslot]
        rfl

instance [UuidErrors] : connection.Lawful where
  canonical := by
    intro dto
    apply Fields.canonical_table
    simpa [connectionFields, Codec.Lawful.canonical] using canonical_unlessEmpty
  roundTrip := by
    intro dto
    have hexpect : (connectionFields dto).table.expect
        ["id", "name", "harness", "model_provider", "provider_state", "credentials"] = .ok () :=
      Fields.expect_table (by simp [connectionFields])
    have hid : (connectionFields dto).table.field connectionId "id" =
        .ok dto.id := Fields.field_table rfl
    have hname : (connectionFields dto).table.field .string "name" =
        .ok dto.name := Fields.field_table rfl
    have hharness : (connectionFields dto).table.field .string "harness" =
        .ok dto.harness := Fields.field_table rfl
    have hmodelprovider : (connectionFields dto).table.field .string "model_provider" =
        .ok dto.modelProvider := Fields.field_table rfl
    have hproviderstate : (connectionFields dto).table.field providerStateRootId "provider_state" =
        .ok dto.providerState := Fields.field_table rfl
    have hcredentials : (connectionFields dto).table.fieldOr credentialBinding.list
        "credentials" [] = .ok dto.credentials := fieldOr_unlessEmpty rfl
    simp only [connection, Value.asTable, bind, Except.bind, hexpect, hid, hname, hharness,
      hmodelprovider, hproviderstate, hcredentials]
    rfl

instance : receipt.Lawful where
  canonical := by
    intro dto
    apply Fields.canonical_table
    simp [receiptFields, Codec.Lawful.canonical]
  roundTrip := by
    intro dto
    have hexpect : (receiptFields dto).table.expect
        ["locator", "state"] = .ok () :=
      Fields.expect_table (by simp [receiptFields])
    have hlocator : (receiptFields dto).table.field .string "locator" =
        .ok dto.locator := Fields.field_table rfl
    have hstate : (receiptFields dto).table.field copyState "state" =
        .ok dto.state := Fields.field_table rfl
    simp only [receipt, Value.asTable, bind, Except.bind, hexpect, hlocator, hstate]
    rfl

instance : migration.Lawful where
  canonical := by
    intro dto
    apply Fields.canonical_table
    simpa [migrationFields, Codec.Lawful.canonical] using
      And.intro canonical_unlessEmpty canonical_unlessEmpty
  roundTrip := by
    intro dto
    have hexpect : (migrationFields dto).table.expect
        ["source", "target", "phase", "locators", "receipts"] = .ok () :=
      Fields.expect_table (by simp [migrationFields])
    have hsource : (migrationFields dto).table.field secretBackend "source" =
        .ok dto.source := Fields.field_table rfl
    have htarget : (migrationFields dto).table.field secretBackend "target" =
        .ok dto.target := Fields.field_table rfl
    have hphase : (migrationFields dto).table.field phase "phase" =
        .ok dto.phase := Fields.field_table rfl
    have hlocators : (migrationFields dto).table.fieldOr (Codec.list .string) "locators" [] =
        .ok dto.locators := fieldOr_unlessEmpty rfl
    have hreceipts : (migrationFields dto).table.fieldOr receipt.list "receipts" [] =
        .ok dto.receipts := fieldOr_unlessEmpty rfl
    simp only [migration, Value.asTable, bind, Except.bind, hexpect, hsource, htarget, hphase,
      hlocators, hreceipts]
    rfl

instance : ui.Lawful where
  canonical := by
    intro dto
    apply Fields.canonical_table
    simp [uiFields, Codec.Lawful.canonical]
  roundTrip := by
    intro dto
    have hexpect : (uiFields dto).table.expect
        ["theme"] = .ok () :=
      Fields.expect_table (by simp [uiFields])
    have htheme : (uiFields dto).table.field .string "theme" =
        .ok dto.theme := Fields.field_table rfl
    simp only [ui, Value.asTable, bind, Except.bind, hexpect, htheme]
    rfl

instance [UuidErrors] : config.Lawful where
  canonical := by
    intro dto
    apply Fields.canonical_table
    simp [configFields, Codec.Lawful.canonical]
  roundTrip := by
    intro dto
    have hexpect : (configFields dto).table.expect
        ["schema_version", "connections", "secret_backends", "credential_migration", "ui"] =
          .ok () :=
      Fields.expect_table (by simp [configFields])
    have hschemaversion : (configFields dto).table.field .u32 "schema_version" =
        .ok dto.schemaVersion := Fields.field_table rfl
    have hconnections : (configFields dto).table.fieldOr connection.list "connections" [] =
        .ok dto.connections := Fields.fieldOr_table rfl
    have hsecretbackends : (configFields dto).table.fieldOr secretBackend.list
        "secret_backends" [] = .ok dto.secretBackends := Fields.fieldOr_table rfl
    have hcredentialmigration : (configFields dto).table.fieldOption migration
        "credential_migration" = .ok dto.credentialMigration := Fields.fieldOption_table rfl
    have hui : (configFields dto).table.fieldOr ui "ui" {} =
        .ok dto.ui := Fields.fieldOr_table rfl
    simp only [config, Value.asTable, bind, Except.bind, hexpect, hschemaversion, hconnections,
      hsecretbackends, hcredentialmigration, hui]
    rfl

end Codecs

/-! ## Conversions -/

/-- The store that a record stands for, if its parts fit its kind. -/
def SecretBackendDto.tryInto (dto : SecretBackendDto) : Except ValidationError SecretBackend := do
  let id ← SecretBackendId.new dto.id
  let settings ←
    SecretBackendSettings.fromConfigParts dto.kind dto.account dto.path dto.executable
  return ⟨id, settings⟩

/-- The record of a store. -/
def SecretBackendDto.of (backend : SecretBackend) : SecretBackendDto :=
  let (account, path, executable) := backend.settings.configParts
  ⟨backend.id.value, backend.kind, account, path, executable⟩

/-- The credential that a record stands for; a reference is checked. -/
def CredentialBindingDto.tryInto :
    CredentialBindingDto → Except ValidationError CredentialBindingRecord
  | delegated slot authority => .ok ⟨slot, .delegated authority⟩
  | secret slot backend locator => do
      let backendId ← SecretBackendId.new backend
      let locator ← SecretLocator.new locator
      return ⟨slot, .secret ⟨backendId, locator⟩⟩
  | disabled slot => .ok ⟨slot, .disabled⟩

/-- The record of a credential. -/
def CredentialBindingDto.of (record : CredentialBindingRecord) : CredentialBindingDto :=
  match record.binding with
  | .delegated authority => .delegated record.slot authority
  | .secret reference => .secret record.slot reference.backendId.value reference.locator.value
  | .disabled => .disabled record.slot

/-- The connection that a record stands for. -/
def ConnectionDto.tryInto (dto : ConnectionDto) : Except ValidationError Connection := do
  let credentials ← dto.credentials.mapM CredentialBindingDto.tryInto
  return ⟨dto.id, dto.name, dto.harness, dto.modelProvider, dto.providerState, credentials⟩

def ConnectionDto.of (connection : Connection) : ConnectionDto where
  id := connection.id
  name := connection.name
  harness := connection.harness
  modelProvider := connection.modelProvider
  providerState := connection.providerState
  credentials := connection.credentials.map CredentialBindingDto.of

def CredentialCopyReceiptDto.tryInto (dto : CredentialCopyReceiptDto) :
    Except ValidationError CredentialCopyReceipt := do
  let locator ← SecretLocator.new dto.locator
  return ⟨locator, dto.state⟩

def CredentialCopyReceiptDto.of (receipt : CredentialCopyReceipt) : CredentialCopyReceiptDto :=
  ⟨receipt.locator.value, receipt.state⟩

/-- The migration that a record stands for, with both stores checked. -/
def CredentialMigrationDto.tryInto (dto : CredentialMigrationDto) :
    Except ValidationError CredentialMigrationRecord := do
  let source ← dto.source.tryInto
  let target ← dto.target.tryInto
  let locators ← dto.locators.mapM SecretLocator.new
  let receipts ← dto.receipts.mapM CredentialCopyReceiptDto.tryInto
  return ⟨source, target, dto.phase, locators, receipts⟩

def CredentialMigrationDto.of (record : CredentialMigrationRecord) : CredentialMigrationDto where
  source := .of record.source
  target := .of record.target
  phase := record.phase
  locators := record.locators.map (·.value)
  receipts := record.receipts.map CredentialCopyReceiptDto.of

/-- `map(TryInto::try_into).transpose()`. -/
def tryIntoOption : Option CredentialMigrationDto →
    Except ValidationError (Option CredentialMigrationRecord)
  | none => .ok none
  | some dto => do return some (← dto.tryInto)

/-- The configuration that a file stands for. -/
def ConfigDto.tryInto (dto : ConfigDto) : Except ValidationError AppConfig := do
  let connections ← dto.connections.mapM ConnectionDto.tryInto
  let secretBackends ← dto.secretBackends.mapM SecretBackendDto.tryInto
  let credentialMigration ← tryIntoOption dto.credentialMigration
  return ⟨connections, secretBackends, credentialMigration, dto.ui.theme⟩

/-- What is written of a configuration. -/
def ConfigDto.of (config : AppConfig) : ConfigDto where
  schemaVersion := Config.schemaVersion
  connections := config.connections.map ConnectionDto.of
  secretBackends := config.secretBackends.map SecretBackendDto.of
  credentialMigration := config.credentialMigration.map CredentialMigrationDto.of
  ui := ⟨config.theme⟩

/-! ## What is converted is converted back -/

/-- A valid store is converted back from its record. -/
theorem SecretBackendDto.tryInto_of {backend : SecretBackend} (h : backend.validate = .ok ()) :
    (of backend).tryInto = .ok backend := by
  have hsettings := SecretBackendSettings.fromConfigParts_configParts h
  simp only [tryInto, of, SecretBackend.kind, SecretBackendId.new_value, hsettings, bind,
    Except.bind]
  rfl

/-- A credential is converted back whatever it refers to. -/
theorem CredentialBindingDto.tryInto_of (record : CredentialBindingRecord) :
    (of record).tryInto = .ok record := by
  obtain ⟨slot, authority | ⟨backendId, locator⟩ | _⟩ := record
  · rfl
  · simp only [tryInto, of, SecretBackendId.new_value, SecretLocator.new_value, bind, Except.bind]
    rfl
  · rfl

theorem ConnectionDto.tryInto_of (connection : Connection) :
    (of connection).tryInto = .ok connection := by
  have hcredentials := Codec.mapM_map_ok connection.credentials fun record _ =>
    CredentialBindingDto.tryInto_of record
  simp only [tryInto, of, hcredentials, bind, Except.bind]
  rfl

theorem CredentialCopyReceiptDto.tryInto_of (receipt : CredentialCopyReceipt) :
    (of receipt).tryInto = .ok receipt := by
  simp only [tryInto, of, SecretLocator.new_value, bind, Except.bind]
  rfl

theorem CredentialMigrationDto.tryInto_of {record : CredentialMigrationRecord}
    (hsource : record.source.validate = .ok ()) (htarget : record.target.validate = .ok ()) :
    (of record).tryInto = .ok record := by
  have hlocators := Codec.mapM_map_ok record.locators fun locator _ =>
    SecretLocator.new_value locator
  have hreceipts := Codec.mapM_map_ok record.receipts fun receipt _ =>
    CredentialCopyReceiptDto.tryInto_of receipt
  simp only [tryInto, of, SecretBackendDto.tryInto_of hsource, SecretBackendDto.tryInto_of htarget,
    hlocators, hreceipts, bind, Except.bind]
  rfl

/-- A configuration whose stores are valid is converted back from what is written. -/
theorem ConfigDto.tryInto_of {config : AppConfig}
    (hbackends : ∀ backend ∈ config.secretBackends, backend.validate = .ok ())
    (hmigration : ∀ record ∈ config.credentialMigration,
      record.source.validate = .ok () ∧ record.target.validate = .ok ()) :
    (of config).tryInto = .ok config := by
  have hconnections := Codec.mapM_map_ok config.connections fun connection _ =>
    ConnectionDto.tryInto_of connection
  have hconverted := Codec.mapM_map_ok config.secretBackends fun backend hmem =>
    SecretBackendDto.tryInto_of (hbackends backend hmem)
  have hrecord : tryIntoOption (config.credentialMigration.map CredentialMigrationDto.of) =
      .ok config.credentialMigration := by
    cases hfound : config.credentialMigration with
    | none => rfl
    | some record =>
        obtain ⟨hsource, htarget⟩ := hmigration record hfound
        simp only [Option.map_some, tryIntoOption, bind, Except.bind,
          CredentialMigrationDto.tryInto_of hsource htarget]
        rfl
  simp only [tryInto, of, hconnections, hconverted, hrecord, bind, Except.bind]
  rfl

/-! ## What is accepted -/

/-- A store that was read is valid. -/
theorem SecretBackendDto.validate_of_tryInto {dto : SecretBackendDto} {backend : SecretBackend}
    (h : dto.tryInto = .ok backend) : backend.validate = .ok () := by
  obtain ⟨id, _, hrest⟩ := bind_ok h
  obtain ⟨settings, hsettings, hsame⟩ := bind_ok hrest
  cases hsame
  exact SecretBackendSettings.validate_of_fromConfigParts hsettings

/-- The source of a migration that was read is a valid store. -/
theorem ConfigDto.source_of_tryInto {dto : ConfigDto} {config : AppConfig}
    (h : dto.tryInto = .ok config) :
    ∀ record ∈ config.credentialMigration, record.source.validate = .ok () := by
  obtain ⟨connections, _, hrest⟩ := bind_ok h
  obtain ⟨backends, _, hrest⟩ := bind_ok hrest
  obtain ⟨migration, hmigration, hsame⟩ := bind_ok hrest
  cases hsame
  intro record hrecord
  obtain rfl : migration = some record := hrecord
  cases hdto : dto.credentialMigration with
  | none =>
      rw [hdto] at hmigration
      cases hmigration
  | some written =>
      rw [hdto] at hmigration
      obtain ⟨found, hfound, hsame⟩ := bind_ok hmigration
      cases hsame
      obtain ⟨source, hsource, hrest⟩ := bind_ok hfound
      obtain ⟨target, _, hrest⟩ := bind_ok hrest
      obtain ⟨locators, _, hrest⟩ := bind_ok hrest
      obtain ⟨receipts, _, hsame⟩ := bind_ok hrest
      cases hsame
      exact SecretBackendDto.validate_of_tryInto hsource

end YakShed.Config
