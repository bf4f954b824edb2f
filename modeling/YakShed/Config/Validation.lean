/-
# What validation establishes

What a configuration that `AppConfig::validate` accepts is known to be, part by
part, and what an update that is carried out has checked.
-/

import YakShed.Config.Configuration

namespace YakShed.Config

variable {capabilities : List SecretBackendCapability}

theorem valid_of_validateConnections {backends : List SecretBackend}
    {connections : List Connection} {ids : List ConnectionId} {roots : List ProviderStateRootId}
    (h : validateConnections capabilities backends connections ids roots = .ok ()) :
    ∀ connection ∈ connections, connection.validate = .ok () := by
  induction connections generalizing ids roots with
  | nil => simp
  | cons connection rest ih =>
      unfold validateConnections at h
      cases hvalid : connection.validate with
      | error error =>
          rw [hvalid] at h
          cases h
      | ok value =>
          rw [hvalid] at h
          by_cases hid : connection.id ∈ ids
          · simp only [hid, if_true] at h
            cases h
          by_cases hroot : connection.providerState ∈ roots
          · simp only [hid, hroot, if_true, if_false] at h
            cases h
          cases hreferences : validateReferences capabilities backends connection.credentials with
          | error error =>
              simp only [hid, hroot, if_false, hreferences] at h
              cases h
          | ok found =>
              simp only [hid, hroot, if_false, hreferences] at h
              intro other hmem
              rcases List.mem_cons.mp hmem with rfl | hrest
              · exact hvalid
              · exact ih h other hrest

/-- The backends of a valid configuration are valid and can all be built, and no
two have one id. -/
theorem usable_of_validateBackends {backends : List SecretBackend} {ids : List SecretBackendId}
    {paths : List String} (h : validateBackends capabilities backends ids paths = .ok ()) :
    (∀ backend ∈ backends, backend.validate = .ok () ∧
        validateBackendConfiguration backend capabilities = .ok ()) ∧
      (backends.map (·.id)).Nodup ∧ ∀ backend ∈ backends, backend.id ∉ ids := by
  induction backends generalizing ids paths with
  | nil => simp
  | cons backend rest ih =>
      unfold validateBackends at h
      cases hvalid : backend.validate with
      | error error =>
          rw [hvalid] at h
          cases h
      | ok value =>
          rw [hvalid] at h
          cases hconfiguration : validateBackendConfiguration backend capabilities with
          | error error =>
              simp only [hconfiguration] at h
              cases h
          | ok checked =>
              simp only [hconfiguration] at h
              by_cases hpath : backend.settings.localFilePath.any fun path => paths.contains path
              · simp only [hpath, if_true] at h
                cases h
              by_cases hid : backend.id ∈ ids
              · simp only [hpath, hid, if_true] at h
                cases h
              simp only [hpath, hid, if_false] at h
              obtain ⟨hrest, hnodup, hnew⟩ := ih h
              refine ⟨?_, ?_, ?_⟩
              · intro other hmem
                rcases List.mem_cons.mp hmem with rfl | hother
                · exact ⟨hvalid, hconfiguration⟩
                · exact hrest other hother
              · rw [List.map_cons, List.nodup_cons]
                refine ⟨?_, hnodup⟩
                intro hmem
                obtain ⟨other, hother, heq⟩ := List.mem_map.mp hmem
                exact hnew other hother (heq ▸ List.mem_cons_self)
              · intro other hmem
                rcases List.mem_cons.mp hmem with rfl | hother
                · exact hid
                · exact fun hseen => hnew other hother (List.mem_cons_of_mem _ hseen)

theorem validate_parts {config : AppConfig} (h : config.validate capabilities = .ok ()) :
    validateBackends capabilities config.secretBackends [] [] = .ok () ∧
      validateConnections capabilities config.secretBackends config.connections [] [] = .ok () ∧
      ∀ migration, config.credentialMigration = some migration →
        validateMigration config.secretBackends migration = .ok () := by
  unfold AppConfig.validate at h
  by_cases htheme : trimIsEmpty config.theme
  · simp only [htheme, if_true] at h
    cases h
  simp only [htheme] at h
  cases hbackends : validateBackends capabilities config.secretBackends [] [] with
  | error error =>
      rw [hbackends] at h
      cases h
  | ok value =>
      rw [hbackends] at h
      cases hconnections :
          validateConnections capabilities config.secretBackends config.connections [] [] with
      | error error =>
          rw [hconnections] at h
          cases h
      | ok value =>
          rw [hconnections] at h
          refine ⟨rfl, rfl, fun migration hmigration => ?_⟩
          rw [hmigration] at h
          exact h

theorem validMigration_parts {backends : List SecretBackend} {record : CredentialMigrationRecord}
    (h : validateMigration backends record = .ok ()) :
    record.target.settings = .localOs ∧ record.source.id ≠ record.target.id ∧
      (record.phase = .copying → record.source ∈ backends) := by
  unfold validateMigration at h
  by_cases hpair : record.source.settings.localFilePath = none ∨
      record.target.settings ≠ .localOs ∨ record.source.id = record.target.id
  · rw [if_pos hpair] at h
    cases h
  obtain ⟨_, htarget, hids⟩ : ¬ record.source.settings.localFilePath = none ∧
      ¬ record.target.settings ≠ .localOs ∧ ¬ record.source.id = record.target.id := by
    simpa only [not_or] using hpair
  refine ⟨not_not.mp htarget, hids, ?_⟩
  intro hphase
  by_contra habsent
  have hmissing : (!backends.any fun backend => backend == record.source) = true := by
    simp only [Bool.not_eq_true', List.any_eq_false, beq_iff_eq]
    rintro backend hmem rfl
    exact habsent hmem
  rw [if_neg hpair] at h
  simp only [hphase, hmissing, if_true, bind, Except.bind, throw, throwThe,
    MonadExceptOf.throw] at h
  repeat' split at h
  all_goals cases h

/-- In a valid configuration a migration's backends differ. -/
theorem source_ne_target {config : AppConfig} (h : config.validate capabilities = .ok ())
    {record : CredentialMigrationRecord} (hrecord : config.credentialMigration = some record) :
    record.source.id ≠ record.target.id :=
  (validMigration_parts ((validate_parts h).2.2 record hrecord)).2.1

/-! ## Updates -/

/-- A change keeps the source of the migration, or the migration is copying. -/
theorem source_applyChange {config config' : AppConfig} {change : ConfigChange}
    (happly : applyChange config change = .ok config') {record' : CredentialMigrationRecord}
    (hrecord' : config'.credentialMigration = some record') :
    record'.phase = .copying ∨
      ∃ record, config.credentialMigration = some record ∧ record'.source = record.source := by
  cases change with
  | putConnection | putConnectionWithSecretBackends | removeConnection | putSecretBackend
  | removeSecretBackend | setUiTheme =>
      cases happly
      exact .inr ⟨record', hrecord', rfl⟩
  | reset =>
      cases happly
      cases hrecord'
  | finishCredentialMigration =>
      simp only [applyChange] at happly
      split at happly
      · cases happly
        cases hrecord'
      · cases happly
  | beginCredentialMigration record =>
      simp only [applyChange] at happly
      split at happly
      · cases happly
      next hbegin =>
        cases happly
        cases hrecord'
        left
        by_contra hphase
        simp [hphase] at hbegin
  | recordCredentialCopy locator state =>
      simp only [applyChange] at happly
      split at happly
      · cases happly
      next record hrecord =>
        split at happly
        · cases happly
        split at happly
        · cases happly
        cases happly
        cases hrecord'
        exact .inr ⟨record, hrecord, rfl⟩
  | checkpointCredentialMigration =>
      simp only [applyChange] at happly
      split at happly
      · cases happly
      next record hrecord =>
        split at happly
        · cases happly
        cases happly
        cases hrecord'
        exact .inr ⟨record, hrecord, rfl⟩

theorem plan_parts {store : ConfigStore} {expectedRevision : Nat} {change : ConfigChange}
    {next : ConfigSnapshot} (h : store.plan capabilities expectedRevision change = .ok next) :
    applyChange store.state.config change = .ok next.config ∧
      next.config.validate capabilities = .ok () ∧ store.state.revision = expectedRevision ∧
      next.revision = store.state.revision + 1 := by
  unfold ConfigStore.plan at h
  by_cases hrevision : store.state.revision ≠ expectedRevision
  · rw [if_pos hrevision] at h
    cases h
  rw [if_neg hrevision] at h
  cases happly : applyChange store.state.config change with
  | error error =>
      rw [happly] at h
      cases h
  | ok config =>
      rw [happly] at h
      cases hvalid : config.validate capabilities with
      | error error =>
          simp only [hvalid, bind, Except.bind] at h
          cases h
      | ok value =>
          simp only [hvalid, bind, Except.bind] at h
          by_cases hmax : store.state.revision = revisionMax
          · simp only [hmax, if_true] at h
            cases h
          · simp only [hmax, if_false] at h
            cases h
            exact ⟨rfl, hvalid, not_not.mp hrevision, rfl⟩

end YakShed.Config
