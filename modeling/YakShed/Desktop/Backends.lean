/-
# Configured backends

Which backends are configured in memory and on disk. The changes that the ports and the
migration ask for take none away but the source of a migration, and that only while the
migration is copying. So a failed write leaves memory ahead of the disk in nothing else:
what memory has configured is on disk, or being migrated.
-/

import YakShed.Desktop.Migration

namespace YakShed.Migration

open Config Secrets Faults

variable {app : App} {config config' : AppConfig} {id : SecretBackendId}

/-! ## Configured backends -/

def Configures (config : AppConfig) (id : SecretBackendId) : Prop :=
  ∃ backend ∈ config.secretBackends, backend.id = id

/-- A migration is copying from the backend. -/
def Retiring (config : AppConfig) (id : SecretBackendId) : Prop :=
  ∃ record, config.credentialMigration = some record ∧ record.phase = .copying ∧
    record.source.id = id

theorem configures_replaceBackend {backends : List SecretBackend} (other : SecretBackend)
    (h : ∃ backend ∈ backends, backend.id = id) :
    ∃ backend ∈ AppConfig.replaceBackend backends other, backend.id = id := by
  obtain ⟨backend, hmem, hid⟩ := h
  unfold AppConfig.replaceBackend
  by_cases hother : backend.id = other.id
  · exact ⟨other, List.mem_append_right _ (List.mem_singleton_self other), hother.symm.trans hid⟩
  · have hkept : backend ∈ backends.filter fun backend => backend.id ≠ other.id :=
      List.mem_filter.mpr ⟨hmem, decide_eq_true hother⟩
    exact ⟨backend, List.mem_append_left _ hkept, hid⟩

theorem configures_replaceBackends {backends : List SecretBackend} (others : List SecretBackend)
    (h : ∃ backend ∈ backends, backend.id = id) :
    ∃ backend ∈ others.foldl AppConfig.replaceBackend backends, backend.id = id := by
  induction others generalizing backends with
  | nil => exact h
  | cons other rest ih => exact ih (configures_replaceBackend other h)

theorem configures_sortBackends {backends : List SecretBackend}
    (h : ∃ backend ∈ backends, backend.id = id) :
    ∃ backend ∈ AppConfig.sortBackends backends, backend.id = id := by
  obtain ⟨backend, hmem, hid⟩ := h
  exact ⟨backend, (List.mem_insertionSort _).mpr hmem, hid⟩

/-- The changes that the ports and the migration ask for. -/
def Ordinary : ConfigChange → Prop
  | .putConnection _ | .putConnectionWithSecretBackends _ _ | .beginCredentialMigration _
  | .recordCredentialCopy _ _ | .checkpointCredentialMigration | .finishCredentialMigration => True
  | _ => False

/-- They take no backend away but the source of a migration that copies. -/
theorem configures_applyChange {change : ConfigChange} (hordinary : Ordinary change)
    (happly : applyChange config change = .ok config') (h : Configures config id) :
    Retiring config id ∨ Configures config' id := by
  cases change with
  | putConnection connection =>
      cases happly
      exact Or.inr h
  | putConnectionWithSecretBackends connection backends =>
      cases happly
      exact Or.inr (configures_sortBackends (configures_replaceBackends backends h))
  | beginCredentialMigration record =>
      simp only [applyChange] at happly
      split at happly
      · cases happly
      · cases happly
        exact Or.inr h
  | recordCredentialCopy locator state =>
      simp only [applyChange] at happly
      repeat' split at happly
      all_goals cases happly
      exact Or.inr h
  | checkpointCredentialMigration =>
      simp only [applyChange] at happly
      split at happly
      · cases happly
      next record hrecord =>
        split at happly
        · cases happly
        next hcopying =>
          cases happly
          obtain ⟨backend, hmem, hid⟩ := h
          by_cases hsource : backend.id = record.source.id
          · left
            refine ⟨record, hrecord, ?_, hsource.symm.trans hid⟩
            rw [Bool.or_eq_true, not_or] at hcopying
            exact not_not.mp fun hphase => hcopying.1 (decide_eq_true hphase)
          · right
            apply configures_sortBackends
            apply configures_replaceBackend
            exact ⟨backend, List.mem_filter.mpr ⟨hmem, decide_eq_true hsource⟩, hid⟩
  | finishCredentialMigration =>
      simp only [applyChange] at happly
      split at happly
      · cases happly
        exact Or.inr h
      · cases happly
  | _ => exact absurd hordinary not_false

theorem references_of_validateConnections {capabilities : List SecretBackendCapability}
    {backends : List SecretBackend} {connections : List Connection} {ids : List ConnectionId}
    {roots : List ProviderStateRootId}
    (h : validateConnections capabilities backends connections ids roots = .ok ()) :
    ∀ connection ∈ connections,
      validateReferences capabilities backends connection.credentials = .ok () := by
  induction connections generalizing ids roots with
  | nil => exact fun _ hmem => absurd hmem List.not_mem_nil
  | cons connection rest ih =>
      simp only [validateConnections, bind, Except.bind, throw, throwThe,
        MonadExceptOf.throw] at h
      repeat' split at h
      all_goals try cases h
      next _ _ hreferences =>
        intro other hmem
        rcases List.mem_cons.mp hmem with rfl | hmem
        · exact hreferences
        · exact ih h other hmem

theorem configured_of_validateReferences {capabilities : List SecretBackendCapability}
    {backends : List SecretBackend} {credentials : List CredentialBindingRecord}
    (h : validateReferences capabilities backends credentials = .ok ()) :
    ∀ binding ∈ credentials, ∀ reference, binding.binding.secretReference = some reference →
      ∃ backend ∈ backends, backend.id = reference.backendId := by
  induction credentials with
  | nil => exact fun _ hmem => absurd hmem List.not_mem_nil
  | cons credential rest ih =>
      have hparts : validateReferences capabilities backends rest = .ok () ∧
          ∀ reference, credential.binding.secretReference = some reference →
            ∃ backend ∈ backends, backend.id = reference.backendId := by
        unfold validateReferences at h
        cases hfirst : credential.binding.secretReference with
        | none =>
            rw [hfirst] at h
            exact ⟨h, fun _ hreference => by cases hreference⟩
        | some reference =>
            rw [hfirst] at h
            cases hfind : backends.find? fun backend => backend.id == reference.backendId with
            | none =>
                simp only [hfind] at h
                cases h
            | some backend =>
                refine ⟨?_, ?_⟩
                · simp only [hfind, bind, Except.bind, throw, throwThe, MonadExceptOf.throw] at h
                  repeat' split at h
                  all_goals first | cases h | exact h
                · rintro _ ⟨⟩
                  have hid := List.find?_some hfind
                  exact ⟨backend, List.mem_of_find?_eq_some hfind, eq_of_beq hid⟩
      intro binding hmem
      rcases List.mem_cons.mp hmem with rfl | hmem
      · exact hparts.2
      · exact ih hparts.1 binding hmem

/-- The backend that a credential of a valid configuration refers to is configured. -/
theorem configures_of_validate (hvalid : config.validate app.capabilities = .ok ())
    {connection : Connection} (hconnection : connection ∈ config.connections)
    {binding : CredentialBindingRecord} (hbinding : binding ∈ connection.credentials)
    {reference : SecretReference}
    (hreference : binding.binding.secretReference = some reference) :
    Configures config reference.backendId :=
  configured_of_validateReferences
    (references_of_validateConnections (validate_parts hvalid).2.1 connection hconnection)
    binding hbinding reference hreference

/-! ## Updates of the store -/

/-- What an update can leave: nothing changed; what was planned; or, after a failed write, the old
file or the new one, from which memory was read again or not. -/
inductive Updated (app : App) (store : ConfigStore) (next : ConfigSnapshot) : ConfigStore → Prop
  | written : Updated app store next ⟨next, next.config⟩
  | kept (file : AppConfig) (found : file = next.config ∨ file = store.file) :
      Updated app store next { store with file }
  | recovered (revision : Nat) (file : AppConfig) (found : file = next.config ∨ file = store.file)
      (valid : file.validate app.capabilities = .ok ()) :
      Updated app store next ⟨⟨revision, file⟩, file⟩

theorem update_outcomes {store store' : ConfigStore} {fault : Option WriteFault} {revision : Nat}
    {change : ConfigChange} {answer : Except ConfigError ConfigSnapshot}
    (h : store.update app.capabilities fault revision change = (answer, store')) :
    store' = store ∨ ∃ next, store.plan app.capabilities revision change = .ok next ∧
      Updated app store next store' := by
  unfold ConfigStore.update at h
  split at h
  · cases h
    exact Or.inl rfl
  next next hnext =>
    refine Or.inr ⟨next, hnext, ?_⟩
    split at h
    · cases h
      exact Updated.written
    next fault =>
      cases h
      have hfound : (if fault.committed then next.config else store.file) = next.config ∨
          (if fault.committed then next.config else store.file) = store.file := by
        split
        · exact Or.inl rfl
        · exact Or.inr rfl
      unfold ConfigStore.recover
      dsimp only
      generalize (if fault.committed then next.config else store.file) = file at hfound ⊢
      split
      · next hread =>
          rw [Bool.and_eq_true] at hread
          refine Updated.recovered _ file hfound ?_
          cases hvalid : file.validate app.capabilities with
          | ok _ => rfl
          | error error =>
              rw [hvalid] at hread
              cases hread.2
      · exact Updated.kept file hfound

/-- What memory has configured is on disk, unless a migration is copying from it. -/
def Aligned (store : ConfigStore) : Prop :=
  ∀ id, Configures store.state.config id →
    Retiring store.state.config id ∨ Configures store.file id

theorem Aligned.updated {store store' : ConfigStore} (h : Aligned store) {revision : Nat}
    {change : ConfigChange} (hordinary : Ordinary change) {fault : Option WriteFault}
    {answer : Except ConfigError ConfigSnapshot}
    (hupdate : store.update app.capabilities fault revision change = (answer, store')) :
    Aligned store' := by
  rcases update_outcomes hupdate with rfl | ⟨next, hplan, hupdated⟩
  · exact h
  · cases hupdated with
    | written => exact fun _ => Or.inr
    | recovered revision file found valid => exact fun _ => Or.inr
    | kept file found =>
        intro id hmemory
        rcases found with rfl | rfl
        · exact configures_applyChange hordinary (plan_parts hplan).1 hmemory
        · exact h id hmemory

/-- Memory is valid, and in line with the disk. -/
structure Prepared (app : App) (store : ConfigStore) : Prop where
  aligned : Aligned store
  valid : store.state.config.validate app.capabilities = .ok ()

theorem Prepared.updated {store store' : ConfigStore} (h : Prepared app store) {revision : Nat}
    {change : ConfigChange} (hordinary : Ordinary change) {fault : Option WriteFault}
    {answer : Except ConfigError ConfigSnapshot}
    (hupdate : store.update app.capabilities fault revision change = (answer, store')) :
    Prepared app store' := by
  refine ⟨h.aligned.updated hordinary hupdate, ?_⟩
  rcases update_outcomes hupdate with rfl | ⟨next, hplan, hupdated⟩
  · exact h.valid
  · cases hupdated with
    | written => exact (plan_parts hplan).2.1
    | recovered revision file found valid => exact valid
    | kept file found => exact h.valid

end YakShed.Migration
