/-
# Connections and their credentials

A connection binds credential slots to secrets that a backend keeps. The
identifiers carry the outcome of their constructors' checks; a connection and a
backend are plain records that are validated as a whole, wherever they enter a
configuration.
-/

import YakShed.Domain.Values

namespace YakShed

/-! ## Identifiers -/

/-- The characters of `require_identifier`. -/
def isIdentifierChar (c : Char) : Bool :=
  c.isAlphanum || c == '-' || c == '_' || c == '.'

def requireIdentifier (field value : String) : Except ValidationError Unit := do
  requireNonempty field value
  if value.toList.all isIdentifierChar then return ()
  else throw ⟨field ++ " may contain only ASCII letters, digits, '.', '-' and '_'"⟩

/-- The part of a path component that a device name is compared with. -/
def windowsStem (value : String) : List Char := value.toList.takeWhile (· != '.')

def isWindowsReservedName (value : String) : Bool :=
  let stem := windowsStem value
  ["con", "prn", "aux", "nul"].any (·.toList == stem) ||
    (["com", "lpt"].any (·.toList == stem.take 3) && stem.length == 4 &&
      (stem.drop 3).all fun c => '1'.toNat ≤ c.toNat && c.toNat ≤ '9'.toNat)

/-- The checks of `ProviderStateRootId::new` in the order it makes them. -/
def checkProviderStateRootId (value : String) : Except ValidationError Unit := do
  requireIdentifier "provider state root id" value
  if value.toList.map Char.toLower ≠ value.toList then
    throw ⟨"provider state root id must already be lowercase"⟩
  if value = "." ∨ value = ".." ∨ value.toList.getLast? = some '.' ∨
      value.toList.getLast? = some ' ' then
    throw ⟨"provider state root id must be one safe path component"⟩
  if isWindowsReservedName value then
    throw ⟨"provider state root id cannot be a Windows reserved device name"⟩

/-- The checks of `SecretLocator::new` in the order it makes them. -/
def checkSecretLocator (value : String) : Except ValidationError Unit := do
  requireNonempty "secret locator" value
  if 4096 < value.utf8ByteSize then throw ⟨"secret locator exceeds 4096 bytes"⟩
  if value.toList.any isControl then throw ⟨"secret locator cannot contain control characters"⟩

structure CredentialSlot where
  value : String
  accepted : requireIdentifier "credential slot" value = .ok ()

structure OperationId where
  value : String
  accepted : requireIdentifier "operation id" value = .ok ()

structure ProviderStateRootId where
  value : String
  accepted : checkProviderStateRootId value = .ok ()

structure SecretBackendId where
  value : String
  accepted : requireIdentifier "secret backend id" value = .ok ()

structure SecretLocator where
  value : String
  accepted : checkSecretLocator value = .ok ()

instance : DecidableEq CredentialSlot
  | ⟨value, _⟩, ⟨value', _⟩ => decidable_of_iff (value = value') (by simp)

instance : DecidableEq OperationId
  | ⟨value, _⟩, ⟨value', _⟩ => decidable_of_iff (value = value') (by simp)

instance : DecidableEq ProviderStateRootId
  | ⟨value, _⟩, ⟨value', _⟩ => decidable_of_iff (value = value') (by simp)

instance : DecidableEq SecretBackendId
  | ⟨value, _⟩, ⟨value', _⟩ => decidable_of_iff (value = value') (by simp)

instance : DecidableEq SecretLocator
  | ⟨value, _⟩, ⟨value', _⟩ => decidable_of_iff (value = value') (by simp)

/-- One normalized non-secret reference to backend-owned secret material. -/
structure SecretReference where
  backendId : SecretBackendId
  locator : SecretLocator
  deriving DecidableEq

/-! ## Connections -/

/-- Closed set of canonical credential-reference forms. -/
inductive CredentialBinding
  | delegated (authority : String)
  | secret (reference : SecretReference)
  | disabled
  deriving DecidableEq

namespace CredentialBinding

def validate : CredentialBinding → Except ValidationError Unit
  | delegated authority => requireNonempty "delegated credential authority" authority
  | secret _ | disabled => .ok ()

/-- `secret_reference`. -/
def secretReference : CredentialBinding → Option SecretReference
  | secret reference => some reference
  | delegated _ | disabled => none

end CredentialBinding

/-- One credential slot and its non-secret binding. -/
structure CredentialBindingRecord where
  slot : CredentialSlot
  binding : CredentialBinding
  deriving DecidableEq

/-- A configured harness/model-provider trust boundary. -/
structure Connection where
  id : ConnectionId
  name : String
  harness : String
  modelProvider : String
  providerState : ProviderStateRootId
  credentials : List CredentialBindingRecord
  deriving DecidableEq

namespace Connection

/-- The loop of `Connection::validate`, with the slots it has seen. -/
def validateCredentials : List CredentialBindingRecord → List CredentialSlot →
    Except ValidationError Unit
  | [], _ => .ok ()
  | credential :: rest, slots => do
      credential.binding.validate
      if credential.slot ∈ slots then
        throw ⟨"duplicate credential slot: " ++ credential.slot.value⟩
      validateCredentials rest (credential.slot :: slots)

def validate (connection : Connection) : Except ValidationError Unit := do
  requireNonempty "connection name" connection.name
  requireNonempty "connection harness" connection.harness
  requireNonempty "connection model_provider" connection.modelProvider
  validateCredentials connection.credentials []

/-- The secrets the connection's slots are bound to. -/
def references (connection : Connection) : List SecretReference :=
  connection.credentials.filterMap (·.binding.secretReference)

end Connection

/-! ## Backends -/

/-- Closed, kind-correlated settings for configured secret backends. -/
inductive SecretBackendSettings
  | localOs
  | onePassword (account : String) (executable : Option String)
  | environment
  | memory
  | localFile (path : String)
  deriving DecidableEq

namespace SecretBackendSettings

def kind : SecretBackendSettings → String
  | localOs => "local-os"
  | onePassword .. => "onepassword"
  | environment => "environment"
  | memory => "memory"
  | localFile _ => "local-file"

def validate : SecretBackendSettings → Except ValidationError Unit
  | onePassword account executable => do
      requireNonempty "secret backend account" account
      match executable with
      | some executable => requireNonempty "secret backend executable" executable
      | none => return ()
  | localFile path => requireNonempty "secret backend path" path
  | localOs | environment | memory => .ok ()

/-- The path of a local file. -/
def localFilePath : SecretBackendSettings → Option String
  | localFile path => some path
  | localOs | onePassword .. | environment | memory => none

end SecretBackendSettings

/-- Configuration for a secret-reference backend, never a secret value. -/
structure SecretBackend where
  id : SecretBackendId
  settings : SecretBackendSettings
  deriving DecidableEq

namespace SecretBackend

def validate (backend : SecretBackend) : Except ValidationError Unit := backend.settings.validate

def kind (backend : SecretBackend) : String := backend.settings.kind

end SecretBackend

end YakShed
