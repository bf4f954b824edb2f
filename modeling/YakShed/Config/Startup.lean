/-
# Starting from a saved configuration

At start-up the application builds a credential broker from the configuration it
saved. The configuration was accepted by `AppConfig::validate`, the broker has a
validator of its own, and only the broker's looks for secrets that are bound
twice. A change keeps the broker satisfied exactly if it binds no secret twice.
-/

import Mathlib.Data.List.Flatten
import Mathlib.Data.List.Induction
import YakShed.Config.Validation
import YakShed.Secrets.Bindings

namespace YakShed.Config

open Secrets

/-! ## Building the broker -/

/-- A backend as `CredentialBroker::new` is given it: the id it is registered
under and the ids its two halves report. -/
structure SecretBackendHandle where
  registered : SecretBackendId
  resolver : SecretBackendId
  administrator : Option SecretBackendId

/-- `from_config` of the backend's kind; `none` for the kinds that have none. -/
def buildBackendHandle (capabilities : List SecretBackendCapability) (backend : SecretBackend) :
    Option (Except SecretBackendConfigurationError SecretBackendHandle) :=
  let checked (handle : SecretBackendHandle) :=
    match validateBackendConfiguration backend capabilities with
    | .error error => Except.error error
    | .ok () => .ok handle
  match backend.settings with
  | .localFile _ | .localOs => some (checked ⟨backend.id, backend.id, some backend.id⟩)
  | .onePassword .. => some (checked ⟨backend.id, backend.id, none⟩)
  | .environment | .memory => none

/-- `StartupError::internal`. -/
structure StartupError where
  deriving DecidableEq

def buildBackendHandles (capabilities : List SecretBackendCapability) :
    List SecretBackend → Except StartupError (List SecretBackendHandle)
  | [] => .ok []
  | backend :: rest =>
      match buildBackendHandle capabilities backend with
      | none => buildBackendHandles capabilities rest
      | some (.error _) => .error {}
      | some (.ok handle) =>
          match buildBackendHandles capabilities rest with
          | .error error => .error error
          | .ok handles => .ok (handle :: handles)

/-- The registry loop of `CredentialBroker::new`. -/
def register : List SecretBackendHandle → List SecretBackendId →
    Except SecretError (List SecretBackendId)
  | [], registry => .ok registry
  | handle :: rest, registry =>
      if handle.registered ≠ handle.resolver then
        .error (.backendFailure handle.registered "backend registry key does not match descriptor")
      else if handle.administrator.any (· ≠ handle.resolver) then
        .error (.backendFailure handle.resolver "administrator identity does not match resolver")
      else if handle.resolver ∈ registry then
        .error (.backendFailure handle.resolver "duplicate backend ID")
      else register rest (handle.resolver :: registry)

/-- `CredentialBroker::new`, as far as it can fail. -/
def newBroker (handles : List SecretBackendHandle) (connections : List Connection) :
    Except SecretError (List SecretBackendId) := do
  validateBindings connections
  register handles []

def buildBroker (capabilities : List SecretBackendCapability) (config : AppConfig)
    (fallback : SecretBackend) : Except StartupError (List SecretBackendId) := do
  let configured :=
    if config.secretBackends.any fun backend => backend.id == fallback.id then
      config.secretBackends
    else config.secretBackends ++ [fallback]
  let handles ← buildBackendHandles capabilities configured
  match newBroker handles config.connections with
  | .error _ => throw {}
  | .ok registry => return registry

/-! ## Storing a connection -/

inductive HarnessCredentialDelivery
  | harnessManaged
  | delegated (authority : String)
  | processEnvironment (name : String)
  deriving DecidableEq

/-- One credential slot and the delivery mechanism fixed by its harness adapter. -/
structure HarnessCredentialRequirement where
  slot : CredentialSlot
  delivery : HarnessCredentialDelivery
  required : Bool

def codexAccountSlot : CredentialSlot := ⟨"codex.account", by decide +kernel⟩

def fireworksSlot : CredentialSlot := ⟨"fireworks.api_key", by decide +kernel⟩

def credentialRequirementsFor (modelProvider : String) :
    Option (List HarnessCredentialRequirement) :=
  if modelProvider = "openai" then
    some [⟨codexAccountSlot, .delegated "codex-app-server", true⟩]
  else if modelProvider = "fireworks" then
    some [⟨fireworksSlot, .processEnvironment "FIREWORKS_API_KEY", true⟩]
  else none

inductive ConfigPortError
  | migrationPending
  | unsupported
  | credentialRequirement (remediation : String)
  | store (error : ConfigError)
  deriving DecidableEq

def requirementError (requirement : HarnessCredentialRequirement) : ConfigPortError :=
  .credentialRequirement (match requirement.delivery with
    | .delegated authority =>
        requirement.slot.value ++ " must be delegated to " ++ authority ++
          "; replace the secret-backed binding"
    | _ => "configure " ++ requirement.slot.value ++ " as required by the selected harness")

/-- A binding fits the requirement of its slot. -/
def compatible (requirement : HarnessCredentialRequirement) : CredentialBinding → Bool
  | .disabled => !requirement.required
  | .delegated bound =>
      match requirement.delivery with
      | .delegated declared => bound == declared
      | .harnessManaged => true
      | .processEnvironment _ => false
  | .secret _ =>
      match requirement.delivery with
      | .processEnvironment _ => true
      | .delegated _ | .harnessManaged => false

/-- The loop over the requirements. -/
def checkRequirements (connection : Connection) :
    List HarnessCredentialRequirement → Except ConfigPortError Unit
  | [] => .ok ()
  | requirement :: rest =>
      match connection.credentials.find? fun credential => credential.slot == requirement.slot with
      | none =>
          if requirement.required then .error (requirementError requirement)
          else checkRequirements connection rest
      | some credential =>
          if compatible requirement credential.binding then checkRequirements connection rest
          else .error (requirementError requirement)

def validateCredentialRequirements (connection : Connection) (harnessId : String) :
    Except ConfigPortError Unit := do
  if connection.harness ≠ harnessId then throw .unsupported
  match credentialRequirementsFor connection.modelProvider with
  | none => throw .unsupported
  | some requirements =>
      checkRequirements connection requirements
      if connection.credentials.any fun credential =>
          !requirements.any fun requirement => requirement.slot == credential.slot then
        throw (.credentialRequirement
          "remove credential slots not declared by the selected harness")

/-- The parts of `ProductionConfig` that `put_connection` reads. -/
structure ProductionConfig where
  localBackend : SecretBackend
  harnessId : String

namespace ProductionConfig

/-- The change `put_connection` asks the store for. -/
def change (production : ProductionConfig) (config : AppConfig) (connection : Connection) :
    Except ConfigPortError ConfigChange := do
  if config.credentialMigration.map (·.phase) = some .copying then throw .migrationPending
  validateCredentialRequirements connection production.harnessId
  if connection.references.any fun reference =>
      reference.backendId == production.localBackend.id then
    return .putConnectionWithSecretBackends connection [production.localBackend]
  else return .putConnection connection

def putConnection (production : ProductionConfig) (capabilities : List SecretBackendCapability)
    (fault : Option WriteFault) (store : ConfigStore) (expectedRevision : Nat)
    (connection : Connection) : Except ConfigPortError ConfigSnapshot × ConfigStore :=
  match production.change store.state.config connection with
  | .error error => (.error error, store)
  | .ok change =>
      match store.update capabilities fault expectedRevision change with
      | (.ok snapshot, store) => (.ok snapshot, store)
      | (.error error, store) => (.error (.store error), store)

end ProductionConfig

/-! ## Reachable configurations -/

/-- What accepted changes and restarts make of a new installation, if each
change that is carried out is admitted. -/
inductive Reaches (capabilities : List SecretBackendCapability)
    (admits : AppConfig → ConfigChange → Prop) : ConfigStore → Prop
  | new : Reaches capabilities admits {}
  | update {store : ConfigStore} (fault : Option WriteFault) (expectedRevision : Nat)
      (change : ConfigChange) (before : Reaches capabilities admits store)
      (admitted : ∀ next, store.plan capabilities expectedRevision change = .ok next →
        admits store.state.config change) :
      Reaches capabilities admits (store.update capabilities fault expectedRevision change).2
  | reopen {store store' : ConfigStore} (before : Reaches capabilities admits store)
      (opened : store.reopen capabilities = some store') : Reaches capabilities admits store'

/-- The change binds no secret twice: a connection that is put has no secret
twice and none of another connection's, and at a checkpoint no locator is in use
at both backends. -/
def BindsOnce (config : AppConfig) : ConfigChange → Prop
  | .putConnection connection | .putConnectionWithSecretBackends connection _ =>
      connection.references.Nodup ∧
      ∀ other ∈ config.connections, other.id ≠ connection.id →
        ∀ reference ∈ other.references, reference ∉ connection.references
  | .checkpointCredentialMigration =>
      ∀ record, config.credentialMigration = some record →
        ∀ locator, ⟨record.source.id, locator⟩ ∈ config.references →
          ⟨record.target.id, locator⟩ ∉ config.references
  | _ => True

/-- At a checkpoint only the locators of the bindings can be in use. -/
theorem bindsOnce_checkpoint_iff (config : AppConfig) :
    BindsOnce config .checkpointCredentialMigration ↔
      ∀ record ∈ config.credentialMigration, ∀ reference ∈ config.references,
        reference.backendId = record.source.id →
          ⟨record.target.id, reference.locator⟩ ∉ config.references := by
  constructor
  · intro h record hrecord reference hmem hsource
    apply h record hrecord
    rw [← hsource]
    exact hmem
  · intro h record hrecord locator hmem
    exact h record hrecord _ hmem rfl

instance decidableBindsOnce (config : AppConfig) (change : ConfigChange) :
    Decidable (BindsOnce config change) :=
  match change with
  | .putConnection _ | .putConnectionWithSecretBackends _ _ =>
      inferInstanceAs (Decidable (_ ∧ _))
  | .checkpointCredentialMigration => decidable_of_iff' _ (bindsOnce_checkpoint_iff config)
  | .removeConnection _ | .putSecretBackend _ | .removeSecretBackend _
  | .beginCredentialMigration _ | .recordCredentialCopy _ _ | .finishCredentialMigration
  | .setUiTheme _ | .reset => .isTrue trivial

variable {capabilities : List SecretBackendCapability}

/-! ## The broker's rule under changes -/

/-- The broker accepts the configuration. -/
def AppConfig.Acceptable (config : AppConfig) : Prop :=
  validateBindings config.connections = .ok ()

instance (config : AppConfig) : Decidable config.Acceptable :=
  inferInstanceAs (Decidable (validateBindings config.connections = .ok ()))

theorem acceptable_iff {config : AppConfig} (h : config.validate capabilities = .ok ()) :
    config.Acceptable ↔ config.references.Nodup := by
  unfold AppConfig.Acceptable
  rw [validateBindings_eq_ok_iff]
  exact and_iff_right (valid_of_validateConnections (validate_parts h).2.1)

theorem references_putConnection (config : AppConfig) (connection : Connection) :
    ((config.putConnection connection).references).Perm
      ((config.connections.filter (·.id ≠ connection.id)).flatMap Connection.references ++
        connection.references) := by
  unfold AppConfig.references AppConfig.putConnection
  have hperm := List.perm_insertionSort
    (fun first second : Connection => first.id.uuid ≤ second.id.uuid)
    (config.connections.filter (·.id ≠ connection.id) ++ [connection])
  have hreferences := hperm.flatMap_right Connection.references
  rw [List.flatMap_append, List.flatMap_singleton] at hreferences
  exact hreferences

/-- Where a checkpoint moves a reference. -/
def moveReference (source target : SecretBackendId) (reference : SecretReference) :
    SecretReference :=
  if reference.backendId = source then { reference with backendId := target } else reference

theorem references_moveConnection (source target : SecretBackendId) (connection : Connection) :
    (moveConnection source target connection).references =
      connection.references.map (moveReference source target) := by
  unfold Connection.references moveConnection
  rw [List.filterMap_map, List.map_filterMap]
  apply List.filterMap_congr
  intro credential _
  show (moveBinding source target credential.binding).secretReference =
    credential.binding.secretReference.map (moveReference source target)
  cases credential.binding with
  | secret reference =>
      unfold moveBinding moveReference CredentialBinding.secretReference
      by_cases hsource : reference.backendId = source
      · simp [hsource]
      · simp [hsource]
  | delegated authority => rfl
  | disabled => rfl

theorem flatMap_moveConnection (source target : SecretBackendId) (connections : List Connection) :
    (connections.map (moveConnection source target)).flatMap Connection.references =
      (connections.flatMap Connection.references).map (moveReference source target) := by
  rw [List.flatMap_map, List.map_flatMap]
  simp only [references_moveConnection]

/-- Moving references from one backend to another keeps them distinct exactly if
no locator is in use at both. -/
theorem nodup_map_moveReference {source target : SecretBackendId} (hne : source ≠ target)
    {references : List SecretReference} (hnodup : references.Nodup) :
    (references.map (moveReference source target)).Nodup ↔
      ∀ locator, ⟨source, locator⟩ ∈ references → ⟨target, locator⟩ ∉ references := by
  constructor
  · intro hmap locator hsource htarget
    have heq := List.inj_on_of_nodup_map hmap hsource htarget (by simp [moveReference, hne.symm])
    exact hne (congrArg SecretReference.backendId heq)
  · intro hapart
    apply hnodup.map_on
    rintro ⟨backend, locator⟩ hfirst ⟨backend', locator'⟩ hsecond heq
    unfold moveReference at heq
    by_cases h : backend = source
    · by_cases h' : backend' = source
      · simp only [h, h', if_true, SecretReference.mk.injEq, true_and] at heq ⊢
        exact heq
      · simp only [h, h', if_true, if_false, SecretReference.mk.injEq] at heq
        obtain ⟨rfl, rfl⟩ := heq
        exact absurd hsecond (hapart locator (h ▸ hfirst))
    · by_cases h' : backend' = source
      · simp only [h, h', if_true, if_false, SecretReference.mk.injEq] at heq
        obtain ⟨rfl, rfl⟩ := heq
        exact absurd hfirst (hapart locator (h' ▸ hsecond))
      · simp only [h, h', if_false] at heq
        exact heq

theorem nodup_putConnection {config : AppConfig} (connection : Connection)
    (hnodup : config.references.Nodup) :
    (config.putConnection connection).references.Nodup ↔
      BindsOnce config (.putConnection connection) := by
  rw [(references_putConnection config connection).nodup_iff, List.nodup_append]
  have hkept : ((config.connections.filter (·.id ≠ connection.id)).flatMap
      Connection.references).Nodup :=
    hnodup.sublist (List.filter_sublist.flatMap Connection.references)
  constructor
  · rintro ⟨_, hmine, hapart⟩
    refine ⟨hmine, fun other hother hne reference hmem hshared => ?_⟩
    apply hapart reference _ reference hshared rfl
    exact List.mem_flatMap.mpr ⟨other, List.mem_filter.mpr ⟨hother, decide_eq_true hne⟩, hmem⟩
  · rintro ⟨hmine, hapart⟩
    refine ⟨hkept, hmine, ?_⟩
    rintro reference hmem _ hshared rfl
    obtain ⟨other, hother, hreference⟩ := List.mem_flatMap.mp hmem
    obtain ⟨hother, hne⟩ := List.mem_filter.mp hother
    exact hapart other hother (of_decide_eq_true hne) reference hreference hshared

/-- From a configuration without a repeated reference, a change leads to one
without exactly if it binds no secret twice. -/
theorem nodup_applyChange {config config' : AppConfig} {change : ConfigChange}
    (hvalid : config.validate capabilities = .ok ()) (hnodup : config.references.Nodup)
    (happly : applyChange config change = .ok config') :
    config'.references.Nodup ↔ BindsOnce config change := by
  cases change with
  | putConnection connection =>
      cases happly
      exact nodup_putConnection connection hnodup
  | putConnectionWithSecretBackends connection secretBackends =>
      cases happly
      exact nodup_putConnection connection hnodup
  | removeConnection id =>
      cases happly
      exact iff_of_true (hnodup.sublist (List.filter_sublist.flatMap Connection.references)) trivial
  | putSecretBackend backend =>
      cases happly
      exact iff_of_true hnodup trivial
  | removeSecretBackend id =>
      cases happly
      exact iff_of_true hnodup trivial
  | beginCredentialMigration record =>
      simp only [applyChange] at happly
      split at happly
      · cases happly
      · cases happly
        exact iff_of_true hnodup trivial
  | recordCredentialCopy locator state =>
      simp only [applyChange] at happly
      split at happly
      · cases happly
      · split at happly
        · cases happly
        · split at happly
          · cases happly
          · cases happly
            exact iff_of_true hnodup trivial
  | checkpointCredentialMigration =>
      simp only [applyChange] at happly
      split at happly
      · cases happly
      · next record hrecord =>
          split at happly
          · cases happly
          · cases happly
            show ((config.connections.map
              (moveConnection record.source.id record.target.id)).flatMap
                Connection.references).Nodup ↔ _
            rw [flatMap_moveConnection]
            apply (nodup_map_moveReference (source_ne_target hvalid hrecord) hnodup).trans
            constructor
            · intro hapart found hfound
              rw [hrecord] at hfound
              cases hfound
              exact hapart
            · exact fun hbinds => hbinds record hrecord
  | finishCredentialMigration =>
      simp only [applyChange] at happly
      split at happly
      · cases happly
        exact iff_of_true hnodup trivial
      · cases happly
  | setUiTheme theme =>
      cases happly
      exact iff_of_true hnodup trivial
  | reset =>
      cases happly
      exact iff_of_true List.nodup_nil trivial

/-! ## Every saved configuration -/

/-- A configuration the application may start from. -/
structure Sound (capabilities : List SecretBackendCapability) (config : AppConfig) : Prop where
  valid : config.validate capabilities = .ok ()
  once : config.references.Nodup

theorem Sound.next {store : ConfigStore} {expectedRevision : Nat} {change : ConfigChange}
    {next : ConfigSnapshot} (h : Sound capabilities store.state.config)
    (hplan : store.plan capabilities expectedRevision change = .ok next) :
    BindsOnce store.state.config change ↔ Sound capabilities next.config := by
  obtain ⟨happly, hvalid, _⟩ := plan_parts hplan
  rw [← nodup_applyChange h.valid h.once happly]
  exact ⟨fun hnodup => ⟨hvalid, hnodup⟩, fun hsound => hsound.once⟩

theorem recover_file (store : ConfigStore) (fault : WriteFault) (next : ConfigSnapshot) :
    (store.recover capabilities fault next).file = next.config ∨
      (store.recover capabilities fault next).file = store.file := by
  have hfile : (store.recover capabilities fault next).file =
      if fault.committed then next.config else store.file := by
    unfold ConfigStore.recover
    dsimp only
    split
    · split
      · rfl
      · rfl
    · split
      · rfl
      · rfl
  rw [hfile]
  split
  · exact .inl rfl
  · exact .inr rfl

theorem recover_state (store : ConfigStore) (fault : WriteFault) (next : ConfigSnapshot) :
    (store.recover capabilities fault next).state.config =
        (store.recover capabilities fault next).file ∨
      (store.recover capabilities fault next).state = store.state := by
  unfold ConfigStore.recover
  dsimp only
  split
  · split
    · exact .inl rfl
    · exact .inr rfl
  · split
    · exact .inl rfl
    · exact .inr rfl

theorem sound_of_reaches {store : ConfigStore} (h : Reaches capabilities BindsOnce store) :
    Sound capabilities store.state.config ∧ Sound capabilities store.file := by
  induction h with
  | new =>
      have hdefault : Sound capabilities {} := ⟨rfl, List.nodup_nil⟩
      exact ⟨hdefault, hdefault⟩
  | @update store fault expectedRevision change _ admitted ih =>
      obtain ⟨hstate, hfile⟩ := ih
      unfold ConfigStore.update
      cases hplan : store.plan capabilities expectedRevision change with
      | error error => exact ⟨hstate, hfile⟩
      | ok next =>
          have hnext := (hstate.next hplan).mp (admitted next hplan)
          cases fault with
          | none => exact ⟨hnext, hnext⟩
          | some fault =>
              have hwritten : Sound capabilities (store.recover capabilities fault next).file := by
                rcases recover_file store fault next with heq | heq
                · exact heq ▸ hnext
                · exact heq ▸ hfile
              refine ⟨?_, hwritten⟩
              rcases recover_state store fault next with heq | heq
              · exact heq ▸ hwritten
              · exact heq ▸ hstate
  | reopen _ opened ih =>
      unfold ConfigStore.reopen at opened
      split at opened
      · cases opened
        exact ⟨ih.2, ih.2⟩
      · cases opened

theorem buildBackendHandles_ok {backends : List SecretBackend}
    (h : ∀ backend ∈ backends, validateBackendConfiguration backend capabilities = .ok ()) :
    ∃ handles, buildBackendHandles capabilities backends = .ok handles ∧
      (∀ handle ∈ handles, handle.registered = handle.resolver ∧
        ∀ id ∈ handle.administrator, id = handle.resolver) ∧
      (handles.map (·.resolver)).Sublist (backends.map (·.id)) := by
  induction backends with
  | nil => exact ⟨[], rfl, by simp, List.Sublist.refl _⟩
  | cons backend rest ih =>
      obtain ⟨handles, hbuild, hhandles, hsublist⟩ :=
        ih fun other hmem => h other (List.mem_cons_of_mem _ hmem)
      have hconfiguration := h backend List.mem_cons_self
      unfold buildBackendHandles
      cases hhandle : buildBackendHandle capabilities backend with
      | none =>
          refine ⟨handles, hbuild, hhandles, ?_⟩
          exact hsublist.trans (List.sublist_cons_self _ _)
      | some built =>
          have hbuilt : ∃ administrator, built = .ok ⟨backend.id, backend.id, administrator⟩ ∧
              ∀ id ∈ administrator, id = backend.id := by
            unfold buildBackendHandle at hhandle
            simp only [hconfiguration] at hhandle
            split at hhandle
            all_goals cases hhandle
            all_goals exact ⟨_, rfl, by simp⟩
          obtain ⟨administrator, rfl, hadministrator⟩ := hbuilt
          refine ⟨⟨backend.id, backend.id, administrator⟩ :: handles, by simp only [hbuild], ?_, ?_⟩
          · intro handle hmem
            rcases List.mem_cons.mp hmem with rfl | hrest
            · exact ⟨rfl, hadministrator⟩
            · exact hhandles handle hrest
          · exact hsublist.cons_cons backend.id

theorem register_ok {handles : List SecretBackendHandle} {registry : List SecretBackendId}
    (hhandles : ∀ handle ∈ handles, handle.registered = handle.resolver ∧
      ∀ id ∈ handle.administrator, id = handle.resolver)
    (hnodup : (handles.map (·.resolver)).Nodup)
    (hnew : ∀ handle ∈ handles, handle.resolver ∉ registry) :
    ∃ registry', register handles registry = .ok registry' := by
  induction handles generalizing registry with
  | nil => exact ⟨registry, rfl⟩
  | cons handle rest ih =>
      obtain ⟨hregistered, hadministrator⟩ := hhandles handle List.mem_cons_self
      rw [List.map_cons, List.nodup_cons] at hnodup
      have hadministered : handle.administrator.any (· ≠ handle.resolver) = false := by
        cases hsome : handle.administrator with
        | none => rfl
        | some id => simpa using hadministrator id hsome
      unfold register
      rw [if_neg (by simpa using hregistered),
        if_neg (by rw [hadministered]; exact Bool.false_ne_true),
        if_neg (hnew handle List.mem_cons_self)]
      apply ih
      · exact fun other hmem => hhandles other (List.mem_cons_of_mem _ hmem)
      · exact hnodup.2
      · intro other hmem hseen
        rcases List.mem_cons.mp hseen with heq | hseen
        · exact hnodup.1 (heq ▸ List.mem_map_of_mem hmem)
        · exact hnew other (List.mem_cons_of_mem _ hmem) hseen

/-- The broker of a configuration the application may start from can be built. -/
theorem Sound.buildBroker {config : AppConfig} (h : Sound capabilities config)
    {fallback : SecretBackend}
    (hfallback : validateBackendConfiguration fallback capabilities = .ok ()) :
    ∃ registry, buildBroker capabilities config fallback = .ok registry := by
  obtain ⟨hbackends, hconnections, _⟩ := validate_parts h.valid
  obtain ⟨husable, hnodup, _⟩ := usable_of_validateBackends hbackends
  have hconfigured : ∀ backends, (∀ backend ∈ backends,
      validateBackendConfiguration backend capabilities = .ok ()) →
      (backends.map (·.id)).Nodup → ∃ handles registry,
        buildBackendHandles capabilities backends = .ok handles ∧
        newBroker handles config.connections = .ok registry := by
    intro backends hall hids
    obtain ⟨handles, hbuild, hhandles, hsublist⟩ := buildBackendHandles_ok hall
    have hregister : ∃ registry, register handles [] = .ok registry :=
      register_ok hhandles (hids.sublist hsublist) (by simp)
    obtain ⟨registry, hregister⟩ := hregister
    have haccepted : validateBindings config.connections = .ok () :=
      (acceptable_iff h.valid).mpr h.once
    exact ⟨handles, registry, hbuild, by rw [newBroker, haccepted]; exact hregister⟩
  unfold Config.buildBroker
  split
  · obtain ⟨handles, registry, hbuild, hnew⟩ :=
      hconfigured _ (fun backend hmem => (husable backend hmem).2) hnodup
    exact ⟨registry, by simp only [hbuild, bind, Except.bind, hnew]; rfl⟩
  · next hfresh =>
      have hall : ∀ backend ∈ config.secretBackends ++ [fallback],
          validateBackendConfiguration backend capabilities = .ok () := by
        intro backend hmem
        rcases List.mem_append.mp hmem with hmem | hmem
        · exact (husable backend hmem).2
        · exact List.mem_singleton.mp hmem ▸ hfallback
      have hids : ((config.secretBackends ++ [fallback]).map (·.id)).Nodup := by
        rw [List.map_append, List.nodup_append]
        refine ⟨hnodup, List.nodup_singleton _, ?_⟩
        rintro id hmem _ hsame rfl
        obtain ⟨backend, hbackend, rfl⟩ := List.mem_map.mp hmem
        apply hfresh
        rw [List.any_eq_true]
        exact ⟨backend, hbackend, by simpa using hsame⟩
      obtain ⟨handles, registry, hbuild, hnew⟩ := hconfigured _ hall hids
      exact ⟨registry, by simp only [hbuild, bind, Except.bind, hnew]; rfl⟩

/-- If every change that is carried out binds no secret twice, the broker
accepts the configuration in memory and the saved one and can be built from it;
and a change that does not leads to one the broker rejects. -/
theorem startup_of_bindsOnce {store : ConfigStore} (h : Reaches capabilities BindsOnce store) :
    store.state.config.Acceptable ∧ store.file.Acceptable ∧
    (∀ fallback, validateBackendConfiguration fallback capabilities = .ok () →
      ∃ registry, buildBroker capabilities store.file fallback = .ok registry) ∧
    ∀ (expectedRevision : Nat) (change : ConfigChange) (next : ConfigSnapshot),
      store.plan capabilities expectedRevision change = .ok next →
      (next.config.Acceptable ↔ BindsOnce store.state.config change) := by
  obtain ⟨hstate, hfile⟩ := sound_of_reaches h
  refine ⟨(acceptable_iff hstate.valid).mpr hstate.once,
    (acceptable_iff hfile.valid).mpr hfile.once,
    fun fallback hfallback => hfile.buildBroker hfallback, ?_⟩
  intro expectedRevision change next hplan
  obtain ⟨happly, hvalid, _⟩ := plan_parts hplan
  rw [acceptable_iff hvalid]
  exact nodup_applyChange hstate.valid hstate.once happly

/-! ## Replayed runs -/

/-- Changes made one after another, none of which meets a fault. -/
def replay (capabilities : List SecretBackendCapability) (changes : List ConfigChange) :
    ConfigStore :=
  changes.foldl (fun store change =>
    (store.update capabilities none store.state.revision change).2) {}

/-- Every change is admitted where it is made, so the run reaches its end. -/
theorem replay_reaches {admits : AppConfig → ConfigChange → Prop} (changes : List ConfigChange)
    (h : ∀ n (hn : n < changes.length),
      admits (replay capabilities (changes.take n)).state.config changes[n]) :
    Reaches capabilities admits (replay capabilities changes) := by
  induction changes using List.reverseRecOn with
  | nil => exact .new
  | append_singleton done change ih =>
      have hdone : Reaches capabilities admits (replay capabilities done) := by
        apply ih
        intro n hn
        have hbefore := h n (by rw [List.length_append]; omega)
        rwa [List.take_append_of_le_length hn.le, List.getElem_append_left hn] at hbefore
      have hlast := h done.length (by simp)
      rw [List.take_left', List.getElem_concat_length rfl] at hlast
      · unfold replay
        rw [List.foldl_append]
        exact .update none _ change hdone fun _ _ => hlast
      · rfl

/-- The capabilities of a release build. -/
def releaseCapabilities : List SecretBackendCapability :=
  [⟨"local-os", .available, .readWrite, none⟩, ⟨"local-file", .available, .readWrite, none⟩]

def localOs : SecretBackend := ⟨⟨"local-os", by decide +kernel⟩, .localOs⟩

def legacyFile : SecretBackend :=
  ⟨⟨"local-file", by decide +kernel⟩, .localFile "/Users/sample/secrets.json"⟩

def sampleLocator : SecretLocator := ⟨"shared", by decide +kernel⟩

/-- A connection whose API key is kept under the sample locator. -/
def sampleConnection (id : ConnectionId) (root : ProviderStateRootId) (backend : SecretBackend) :
    Connection :=
  ⟨id, "Fireworks", "codex", "fireworks", root,
    [⟨fireworksSlot, .secret ⟨backend.id, sampleLocator⟩⟩]⟩

def firstConnection (backend : SecretBackend) : Connection :=
  sampleConnection ⟨⟨BitVec.ofNat 128 (7 * 2 ^ 76 + 2 * 2 ^ 62 + 11), by decide⟩⟩
    ⟨"first", by decide +kernel⟩ backend

def secondConnection (backend : SecretBackend) : Connection :=
  sampleConnection ⟨⟨BitVec.ofNat 128 (7 * 2 ^ 76 + 2 * 2 ^ 62 + 12), by decide⟩⟩
    ⟨"second", by decide +kernel⟩ backend

def sampleProduction : ProductionConfig := ⟨localOs, "codex"⟩

/-- A legacy connection and a new one use one locator of different backends;
then the legacy secret is copied. -/
def migrationChanges : List ConfigChange :=
  [.putSecretBackend legacyFile, .putConnection (firstConnection legacyFile),
    .putConnectionWithSecretBackends (secondConnection localOs) [localOs],
    .beginCredentialMigration ⟨legacyFile, localOs, .copying, [sampleLocator], []⟩,
    .recordCredentialCopy sampleLocator .copying, .recordCredentialCopy sampleLocator .copied]

/-- A connection whose API key is kept under a locator of its own. -/
def separateConnection (backend : SecretBackend) : Connection :=
  { secondConnection backend with
    credentials := [⟨fireworksSlot, .secret ⟨backend.id, ⟨"separate", by decide +kernel⟩⟩⟩] }

/-- The legacy secret of one connection is copied and moved while another
connection has its own in the keychain. -/
def separateChanges : List ConfigChange :=
  [.putSecretBackend legacyFile, .putConnection (firstConnection legacyFile),
    .putConnectionWithSecretBackends (separateConnection localOs) [localOs],
    .beginCredentialMigration ⟨legacyFile, localOs, .copying, [sampleLocator], []⟩,
    .recordCredentialCopy sampleLocator .copying, .recordCredentialCopy sampleLocator .copied,
    .checkpointCredentialMigration, .finishCredentialMigration]

set_option maxRecDepth 100000 in
/-- Two connections and a checkpoint that bind no secret twice: the configuration
is saved at its eighth revision with both connections at the keychain, and the
broker is built from it. -/
theorem separateChanges_starts :
    let store := replay releaseCapabilities separateChanges
    store.state.revision = 8 ∧
    store.file.references.map (·.backendId) = [localOs.id, localOs.id] ∧
    store.file.credentialMigration = none ∧ store.file.Acceptable ∧
    (∃ registry, buildBroker releaseCapabilities store.file localOs = .ok registry) ∧
    ∀ next, store.plan releaseCapabilities 8 (.putConnection (firstConnection localOs)) = .ok next →
      (next.config.Acceptable ↔
        BindsOnce store.state.config (.putConnection (firstConnection localOs))) := by
  intro store
  have hreaches : Reaches releaseCapabilities BindsOnce store :=
    replay_reaches separateChanges (by decide +kernel)
  have hstarts := startup_of_bindsOnce hreaches
  exact ⟨by decide +kernel, by decide +kernel, by decide +kernel, hstarts.2.1,
    hstarts.2.2.1 localOs (by decide +kernel), fun next => hstarts.2.2.2 8 _ next⟩

set_option maxRecDepth 100000 in
/-- Two connections put with one secret, and a checkpoint that moves a secret
onto one in use: each time the configuration is saved, and no broker can be built
from it. -/
theorem boundTwice_not_starts :
    let first :=
      sampleProduction.putConnection releaseCapabilities none {} 0 (firstConnection localOs)
    let second :=
      sampleProduction.putConnection releaseCapabilities none first.2 1 (secondConnection localOs)
    let migrated := replay releaseCapabilities migrationChanges
    let checkpoint := migrated.update releaseCapabilities none 6 .checkpointCredentialMigration
    first.1.isOk ∧ second.1.isOk ∧ Reaches releaseCapabilities (fun _ _ => True) second.2 ∧
      ¬ second.2.file.Acceptable ∧
      buildBroker releaseCapabilities second.2.file localOs = .error {} ∧
    Reaches releaseCapabilities (fun _ _ => True) migrated ∧ migrated.file.Acceptable ∧
      checkpoint.1.isOk ∧ ¬ checkpoint.2.file.Acceptable := by
  intro first second migrated checkpoint
  have hsecond : second.2 = replay releaseCapabilities
      [.putConnectionWithSecretBackends (firstConnection localOs) [localOs],
        .putConnectionWithSecretBackends (secondConnection localOs) [localOs]] := by
    decide +kernel
  refine ⟨by decide +kernel, by decide +kernel, ?_, by decide +kernel, by decide +kernel, ?_,
    by decide +kernel, by decide +kernel, by decide +kernel⟩
  · rw [hsecond]
    exact replay_reaches _ fun _ _ => trivial
  · exact replay_reaches _ fun _ _ => trivial

end YakShed.Config
