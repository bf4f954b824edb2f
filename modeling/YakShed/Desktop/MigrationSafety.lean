/-
# No credential is lost in the migration

Through any number of starts, each cut off anywhere, and the user's commands between
them: what a connection's binding resolved to it still resolves to, unless the user has
set another value or another binding. The source is purged only when every secret that was
in it is in the target, and nothing in the target is ever overwritten by the migration.

The rebinding is safe because the run that does it has read every secret of the source
back from the target. The purge may come in a later run, which relies on what the
configuration says: `Kept.cleaning` is the invariant that carries it there.
-/

import YakShed.Desktop.Backends

namespace YakShed.Migration

open Config Secrets Faults

/-! ## What bindings resolve to -/

/-- A slot of a connection is bound to a secret. -/
def Binds (config : AppConfig) (id : ConnectionId) (slot : CredentialSlot)
    (reference : SecretReference) : Prop :=
  ∃ connection ∈ config.connections, connection.id = id ∧
    ∃ credential ∈ connection.credentials, credential.slot = slot ∧
      credential.binding = .secret reference

/-- What a reference to the source or to the target resolves to under a configuration. The
secrets of other backends are not in the world. -/
def World.value (app : App) (world : World) (config : AppConfig) (reference : SecretReference) :
    Option String :=
  if reference.backendId = legacyId ∧ app.legacy ∈ config.secretBackends then
    world.source.find reference.locator
  else if reference.backendId = localBackend.id ∧ localBackend ∈ config.secretBackends then
    world.target reference.locator
  else none

/-- A slot is bound to the source or to the target, and there is a value for it. -/
def Resolves (app : App) (world : World) (config : AppConfig) (id : ConnectionId)
    (slot : CredentialSlot) (value : String) : Prop :=
  ∃ reference, Binds config id slot reference ∧ world.value app config reference = some value

/-- A slot is bound to a backend of a configuration that no migration is about. -/
structure BoundElsewhere (config : AppConfig) (id : ConnectionId) (slot : CredentialSlot)
    (reference : SecretReference) (backend : SecretBackend) : Prop where
  binds : Binds config id slot reference
  configured : backend ∈ config.secretBackends
  named : backend.id = reference.backendId
  source : backend.id ≠ legacyId
  target : backend.id ≠ localBackend.id

/-- A value is there still, or one that the user has set since. -/
def Survives (events : List Event) (locator : SecretLocator) (value : String)
    (now : Option String) : Prop :=
  ∃ found, now = some found ∧
    (found = value ∨ ∃ backend, .set ⟨backend, locator⟩ found ∈ events)

/-- The source has been copied as a whole. -/
def World.Copied (world : World) : Prop :=
  ∀ locator value, world.source.find locator = some value → world.target locator = some value

/-- What is to be purged has been copied. -/
def World.Fresh (app : App) (world : World) : Prop :=
  ∀ record, world.config.file.credentialMigration = some record →
    record.phase = .cleanupPending → record.source = app.legacy → world.Copied

/-- What a configuration owes to the credentials that were there at the start. -/
structure Kept (app : App) (start world : World) (config : AppConfig) : Prop where
  bound : ∀ id slot value, Resolves app start start.config.file id slot value →
    .put id ∈ world.events ∨ ∃ reference, Binds config id slot reference ∧
      Survives world.events reference.locator value (world.value app config reference)
  elsewhere : ∀ id slot reference backend,
    BoundElsewhere start.config.file id slot reference backend →
      .put id ∈ world.events ∨ BoundElsewhere config id slot reference backend
  moved : start.Fresh app → ∀ locator value, start.source.find locator = some value →
    Survives world.events locator value (world.source.find locator) ∨
      app.legacy ∉ config.secretBackends ∧
        Survives world.events locator value (world.target locator)
  cleaning : start.Fresh app → ∀ record, config.credentialMigration = some record →
    record.phase = .cleanupPending → record.source = app.legacy →
      ∀ locator value, start.source.find locator = some value →
        Survives world.events locator value (world.target locator)

variable {app : App} {start world world' : World} {config config' : AppConfig}

theorem Survives.self {events : List Event} {locator : SecretLocator} {value : String}
    {now : Option String} (h : now = some value) : Survives events locator value now :=
  ⟨value, h, Or.inl rfl⟩

theorem World.value_source {reference : SecretReference} (hid : reference.backendId = legacyId)
    (hmem : app.legacy ∈ config.secretBackends) :
    world.value app config reference = world.source.find reference.locator :=
  if_pos ⟨hid, hmem⟩

theorem World.value_target {reference : SecretReference}
    (hid : reference.backendId = localBackend.id) (hmem : localBackend ∈ config.secretBackends) :
    world.value app config reference = world.target reference.locator := by
  have hne : ¬ (reference.backendId = legacyId ∧ app.legacy ∈ config.secretBackends) := by
    rintro ⟨hlegacy, -⟩
    exact absurd (hid.symm.trans hlegacy) (by decide +kernel)
  exact (if_neg hne).trans (if_pos ⟨hid, hmem⟩)

/-- What a reference resolves to is in the source or in the target. -/
theorem Survives.cases {events : List Event} {locator : SecretLocator} {value : String}
    {reference : SecretReference}
    (h : Survives events locator value (world.value app config reference)) :
    reference.backendId = legacyId ∧ app.legacy ∈ config.secretBackends ∧
        Survives events locator value (world.source.find reference.locator) ∨
      reference.backendId = localBackend.id ∧ localBackend ∈ config.secretBackends ∧
        Survives events locator value (world.target reference.locator) := by
  unfold World.value at h
  split at h
  · next hlegacy => exact Or.inl ⟨hlegacy.1, hlegacy.2, h⟩
  · split at h
    · next htarget => exact Or.inr ⟨htarget.1, htarget.2, h⟩
    · obtain ⟨found, hfound, -⟩ := h
      cases hfound

/-- What may become of the values in a step: they stay or the user sets them. -/
structure Sustains (world world' : World) : Prop where
  events : ∃ newer, world'.events = newer ++ world.events
  source : ∀ locator value, Survives world.events locator value (world.source.find locator) →
    Survives world'.events locator value (world'.source.find locator)
  target : ∀ locator value, Survives world.events locator value (world.target locator) →
    Survives world'.events locator value (world'.target locator)

theorem Kept.sustained (h : Kept app start world config) (hstep : Sustains world world') :
    Kept app start world' config where
  bound := by
    intro id slot value hresolves
    obtain ⟨newer, hevents⟩ := hstep.events
    rcases h.bound id slot value hresolves with hput | ⟨reference, hbinds, hsurvives⟩
    · left
      rw [hevents]
      exact List.mem_append_right _ hput
    · refine Or.inr ⟨reference, hbinds, ?_⟩
      rcases hsurvives.cases with ⟨hid, hmem, hsource⟩ | ⟨hid, hmem, htarget⟩
      · rw [World.value_source hid hmem]
        exact hstep.source _ _ hsource
      · rw [World.value_target hid hmem]
        exact hstep.target _ _ htarget
  elsewhere := by
    intro id slot reference backend hbound
    obtain ⟨newer, hevents⟩ := hstep.events
    rw [hevents]
    exact (h.elsewhere id slot reference backend hbound).imp_left (List.mem_append_right newer)
  moved := by
    intro hfresh locator value hstart
    rcases h.moved hfresh locator value hstart with hsource | ⟨hlegacy, htarget⟩
    · exact Or.inl (hstep.source _ _ hsource)
    · exact Or.inr ⟨hlegacy, hstep.target _ _ htarget⟩
  cleaning := fun hfresh record hrecord hphase hsource locator value hstart =>
    hstep.target _ _ (h.cleaning hfresh record hrecord hphase hsource locator value hstart)

/-- A change of the configuration that rebinds nothing but the connections it is about. -/
structure Extends (app : App) (spared : ConnectionId → Prop) (config config' : AppConfig) :
    Prop where
  binds : ∀ id slot reference, ¬ spared id → Binds config id slot reference →
    Binds config' id slot reference
  legacy : app.legacy ∈ config'.secretBackends ↔ app.legacy ∈ config.secretBackends
  target : localBackend ∈ config.secretBackends → localBackend ∈ config'.secretBackends
  others : ∀ backend ∈ config.secretBackends, backend.id ≠ localBackend.id →
    backend ∈ config'.secretBackends
  cleaning : ∀ record, config'.credentialMigration = some record →
    record.phase = .cleanupPending → config.credentialMigration = some record

theorem Extends.survives {spared : ConnectionId → Prop} (h : Extends app spared config config')
    {events : List Event} {locator : SecretLocator} {value : String} {reference : SecretReference}
    (hsurvives : Survives events locator value (world.value app config reference)) :
    Survives events locator value (world.value app config' reference) := by
  rcases hsurvives.cases with ⟨hid, hmem, hsource⟩ | ⟨hid, hmem, htarget⟩
  · rw [World.value_source hid (h.legacy.mpr hmem)]
    exact hsource
  · rw [World.value_target hid (h.target hmem)]
    exact htarget

theorem Kept.extended {spared : ConnectionId → Prop} (h : Kept app start world config)
    (hstep : Extends app spared config config')
    (hspared : ∀ id, spared id → .put id ∈ world.events) :
    Kept app start world config' where
  bound := by
    intro id slot value hresolves
    rcases h.bound id slot value hresolves with hput | ⟨reference, hbinds, hsurvives⟩
    · exact Or.inl hput
    · by_cases hid : spared id
      · exact Or.inl (hspared id hid)
      · exact Or.inr ⟨reference, hstep.binds id slot reference hid hbinds, hstep.survives hsurvives⟩
  elsewhere := by
    intro id slot reference backend hstart
    rcases h.elsewhere id slot reference backend hstart with hput | hbound
    · exact Or.inl hput
    · by_cases hid : spared id
      · exact Or.inl (hspared id hid)
      · exact Or.inr ⟨hstep.binds id slot reference hid hbound.binds,
          hstep.others backend hbound.configured hbound.target, hbound.named, hbound.source,
          hbound.target⟩
  moved := by
    rw [hstep.legacy]
    exact h.moved
  cleaning := fun hfresh record hrecord hphase =>
    h.cleaning hfresh record (hstep.cleaning record hrecord hphase) hphase

/-! ## Changes of the configuration -/

theorem Extends.of_migration {migration : Option CredentialMigrationRecord}
    (hcleaning : ∀ record, migration = some record → record.phase = .cleanupPending →
      config.credentialMigration = some record) :
    Extends app (fun _ => False) config { config with credentialMigration := migration } :=
  ⟨fun _ _ _ _ => id, Iff.rfl, id, fun _ hmem _ => hmem, hcleaning⟩

/-- The changes of a migration that rebind nothing. -/
def Quiet : ConfigChange → Prop
  | .beginCredentialMigration _ | .recordCredentialCopy _ _ | .finishCredentialMigration => True
  | _ => False

theorem Quiet.ordinary {change : ConfigChange} (h : Quiet change) : Ordinary change := by
  cases change with
  | beginCredentialMigration | recordCredentialCopy | finishCredentialMigration => exact trivial
  | _ => exact absurd h not_false

theorem Extends.of_quiet {change : ConfigChange} (hquiet : Quiet change)
    (happly : applyChange config change = .ok config') :
    Extends app (fun _ => False) config config' := by
  cases change with
  | beginCredentialMigration record =>
      simp only [applyChange] at happly
      split at happly
      · cases happly
      next hbegin =>
        cases happly
        apply Extends.of_migration
        intro record' hrecord' hphase
        obtain rfl := Option.some.inj hrecord'
        simp [hphase] at hbegin
  | recordCredentialCopy locator state =>
      simp only [applyChange] at happly
      split at happly
      · cases happly
      next record hrecord =>
        split at happly
        · cases happly
        next hcopying =>
          split at happly
          · cases happly
          cases happly
          apply Extends.of_migration
          intro record' hrecord' hphase
          obtain rfl := Option.some.inj hrecord'
          have hphase : record.phase = .cleanupPending := hphase
          simp [hphase] at hcopying
  | finishCredentialMigration =>
      simp only [applyChange] at happly
      split at happly
      · cases happly
        apply Extends.of_migration
        intro record' hrecord'
        cases hrecord'
      · cases happly
  | _ => exact absurd hquiet id

theorem mem_sortBackends_replace {backends : List SecretBackend} {backend other : SecretBackend} :
    other ∈ AppConfig.sortBackends (AppConfig.replaceBackend backends backend) ↔
      other ∈ backends ∧ other.id ≠ backend.id ∨ other = backend := by
  unfold AppConfig.sortBackends AppConfig.replaceBackend
  rw [List.mem_insertionSort, List.mem_append, List.mem_filter, List.mem_singleton,
    decide_eq_true_iff]

theorem legacy_id_ne : app.legacy.id ≠ localBackend.id := by
  change legacyId ≠ localBackend.id
  decide +kernel

theorem binds_putConnection {config : AppConfig} {connection : Connection} {id : ConnectionId}
    {slot : CredentialSlot} {reference : SecretReference} (hid : id ≠ connection.id)
    (h : Binds config id slot reference) :
    Binds (config.putConnection connection) id slot reference := by
  obtain ⟨bound, hmem, rfl, hbound⟩ := h
  refine ⟨bound, ?_, rfl, hbound⟩
  unfold AppConfig.putConnection
  rw [List.mem_insertionSort, List.mem_append, List.mem_filter]
  exact Or.inl ⟨hmem, decide_eq_true hid⟩

/-- The changes that the ports ask for. -/
inductive FromPorts : ConfigChange → ConnectionId → Prop
  | plain (connection : Connection) : FromPorts (.putConnection connection) connection.id
  | withLocal (connection : Connection) :
      FromPorts (.putConnectionWithSecretBackends connection [localBackend]) connection.id

theorem Extends.of_ports {change : ConfigChange} {id : ConnectionId} (hports : FromPorts change id)
    (happly : applyChange config change = .ok config') :
    Extends app (· = id) config config' := by
  cases hports with
  | plain connection =>
      cases happly
      exact ⟨fun _ _ _ hid => binds_putConnection hid, Iff.rfl, id, fun _ hmem _ => hmem,
        fun _ hrecord _ => hrecord⟩
  | withLocal connection =>
      cases happly
      refine ⟨fun _ _ _ hid => binds_putConnection hid, ?_, ?_, ?_, fun _ hrecord _ => hrecord⟩
      · change app.legacy ∈ AppConfig.sortBackends (AppConfig.replaceBackend _ _) ↔ _
        rw [mem_sortBackends_replace]
        constructor
        · rintro (⟨hmem, -⟩ | heq)
          · exact hmem
          · exact absurd (congrArg SecretBackend.id heq) legacy_id_ne
        · exact fun hmem => Or.inl ⟨hmem, legacy_id_ne⟩
      · intro _
        change localBackend ∈ AppConfig.sortBackends (AppConfig.replaceBackend _ _)
        rw [mem_sortBackends_replace]
        exact Or.inr rfl
      · intro backend hmem hid
        change backend ∈ AppConfig.sortBackends (AppConfig.replaceBackend _ _)
        rw [mem_sortBackends_replace]
        exact Or.inl ⟨hmem, hid⟩

theorem moveBinding_secret (source target : SecretBackendId) (reference : SecretReference) :
    moveBinding source target (.secret reference) =
      .secret (moveReference source target reference) := by
  unfold moveReference
  by_cases hid : reference.backendId = source
  · rw [if_pos hid]
    exact if_pos hid
  · rw [if_neg hid]
    exact if_neg hid

theorem binds_moved {id : ConnectionId} {slot : CredentialSlot} {reference : SecretReference}
    (h : Binds config id slot reference) (source target : SecretBackendId)
    (hconnections : config'.connections = config.connections.map (moveConnection source target)) :
    Binds config' id slot (moveReference source target reference) := by
  obtain ⟨connection, hmem, hid, credential, hcredential, hslot, hbinding⟩ := h
  unfold Binds
  rw [hconnections]
  refine ⟨_, List.mem_map_of_mem hmem, hid, _, List.mem_map_of_mem hcredential, hslot, ?_⟩
  rw [hbinding, moveBinding_secret]

theorem Survives.copied {events : List Event} {locator : SecretLocator} {value : String}
    (h : Survives events locator value (world.source.find locator)) (hcopied : world.Copied) :
    Survives events locator value (world.target locator) := by
  obtain ⟨found, hfound, hkept⟩ := h
  exact ⟨found, hcopied _ _ hfound, hkept⟩

/-- A checkpoint moves what references resolve to with them. -/
theorem Kept.checkpoint (h : Kept app start world config) {record : CredentialMigrationRecord}
    (hrecord : config.credentialMigration = some record) (hsource : record.source = app.legacy)
    (htarget : record.target = localBackend) (hcopied : world.Copied)
    (happly : applyChange config .checkpointCredentialMigration = .ok config') :
    Kept app start world config' ∧ app.legacy ∉ config'.secretBackends := by
  simp only [applyChange, hrecord] at happly
  split at happly
  · cases happly
  cases happly
  rw [hsource, htarget]
  have hlegacy : app.legacy ∉ AppConfig.sortBackends (AppConfig.replaceBackend
      (config.secretBackends.filter (·.id ≠ app.legacy.id)) localBackend) := by
    rw [mem_sortBackends_replace]
    rintro (⟨hmem, -⟩ | heq)
    · exact of_decide_eq_true (List.mem_filter.mp hmem).2 rfl
    · exact legacy_id_ne (congrArg SecretBackend.id heq)
  have hlocal : localBackend ∈ AppConfig.sortBackends (AppConfig.replaceBackend
      (config.secretBackends.filter (·.id ≠ app.legacy.id)) localBackend) :=
    mem_sortBackends_replace.mpr (Or.inr rfl)
  refine ⟨⟨?_, ?_, ?_, ?_⟩, hlegacy⟩
  · intro id slot value hresolves
    refine (h.bound id slot value hresolves).imp_right ?_
    rintro ⟨reference, hbinds, hsurvives⟩
    refine ⟨_, binds_moved hbinds app.legacy.id localBackend.id rfl, ?_⟩
    unfold moveReference
    rcases hsurvives.cases with ⟨hbackend, -, hkept⟩ | ⟨hbackend, -, hkept⟩
    · have hlegacyId : reference.backendId = app.legacy.id := hbackend
      rw [if_pos hlegacyId, World.value_target rfl hlocal]
      exact hkept.copied hcopied
    · have hne : reference.backendId ≠ app.legacy.id := by
        rw [hbackend]
        exact legacy_id_ne.symm
      rw [if_neg hne, World.value_target hbackend hlocal]
      exact hkept
  · intro id slot reference backend hstart
    refine (h.elsewhere id slot reference backend hstart).imp_right fun hbound => ?_
    have hne : reference.backendId ≠ app.legacy.id := hbound.named ▸ hbound.source
    have hunmoved : moveReference app.legacy.id localBackend.id reference = reference :=
      if_neg hne
    have hkept : backend ∈ config.secretBackends.filter (·.id ≠ app.legacy.id) :=
      List.mem_filter.mpr ⟨hbound.configured, decide_eq_true hbound.source⟩
    refine ⟨?_, ?_, hbound.named, hbound.source, hbound.target⟩
    · rw [← hunmoved]
      exact binds_moved hbound.binds app.legacy.id localBackend.id rfl
    · exact mem_sortBackends_replace.mpr (Or.inl ⟨hkept, hbound.target⟩)
  · intro hfresh locator value hstart
    right
    refine ⟨hlegacy, ?_⟩
    rcases h.moved hfresh locator value hstart with hkept | ⟨-, hkept⟩
    · exact hkept.copied hcopied
    · exact hkept
  · intro hfresh record' _ _ _ locator value hstart
    rcases h.moved hfresh locator value hstart with hkept | ⟨-, hkept⟩
    · exact hkept.copied hcopied
    · exact hkept

/-! ## Updates of the store -/

/-- An update leaves memory and file with what they had or with what was planned. -/
theorem update_views {store store' : ConfigStore} {fault : Option WriteFault} {revision : Nat}
    {change : ConfigChange} {answer : Except ConfigError ConfigSnapshot}
    (h : store.update app.capabilities fault revision change = (answer, store'))
    {P : AppConfig → Prop} (hstate : P store.state.config) (hfile : P store.file)
    (hplan : ∀ next, store.plan app.capabilities revision change = .ok next → P next.config) :
    P store'.state.config ∧ P store'.file := by
  rcases update_outcomes h with rfl | ⟨next, hnext, hupdated⟩
  · exact ⟨hstate, hfile⟩
  · have hfound : ∀ file, file = next.config ∨ file = store.file → P file := by
      rintro file (rfl | rfl)
      · exact hplan next hnext
      · exact hfile
    cases hupdated with
    | written => exact ⟨hplan next hnext, hplan next hnext⟩
    | kept file found => exact ⟨hstate, hfound file found⟩
    | recovered revision file found valid => exact ⟨hfound file found, hfound file found⟩

theorem update_ok {store store' : ConfigStore} {fault : Option WriteFault} {revision : Nat}
    {change : ConfigChange} {snapshot : ConfigSnapshot}
    (h : store.update app.capabilities fault revision change = (.ok snapshot, store')) :
    store' = ⟨snapshot, snapshot.config⟩ ∧
      store.plan app.capabilities revision change = .ok snapshot := by
  unfold ConfigStore.update at h
  split at h
  · cases h
  next next hnext =>
    split at h
    · cases h
      exact ⟨rfl, hnext⟩
    · cases h

/-! ## The invariant -/

/-- What holds of the store and the values at every point of a migration, of the configuration in
memory and of the one on disk. -/
structure Inv (app : App) (start world : World) : Prop where
  memory : Kept app start world world.config.state.config
  disk : Kept app start world world.config.file
  target : ∀ locator value, start.target locator = some value →
    Survives world.events locator value (world.target locator)
  prepared : Prepared app world.config

/-- A step that leaves the configuration alone. -/
theorem Inv.sustained (h : Inv app start world) (hstep : Sustains world world')
    (hconfig : world'.config = world.config) : Inv app start world' where
  memory := by
    rw [hconfig]
    exact h.memory.sustained hstep
  disk := by
    rw [hconfig]
    exact h.disk.sustained hstep
  target := fun locator value hstart => hstep.target _ _ (h.target locator value hstart)
  prepared := by
    rw [hconfig]
    exact h.prepared

theorem Sustains.refl (world : World) : Sustains world world :=
  ⟨⟨[], rfl⟩, fun _ _ => id, fun _ _ => id⟩

/-- Nothing but the configuration changes. -/
theorem Kept.reconfigured (h : Kept app start world config) (store : ConfigStore) :
    Kept app start { world with config := store } config :=
  h.sustained ⟨⟨[], rfl⟩, fun _ _ => id, fun _ _ => id⟩

theorem Inv.updated (h : Inv app start world) {revision : Nat} {change : ConfigChange}
    (hordinary : Ordinary change) {answer : Except ConfigError ConfigSnapshot}
    (hupdates : world.Updates app revision change answer world')
    (hplan : ∀ next, world.config.plan app.capabilities revision change = .ok next →
      Kept app start world next.config) :
    Inv app start world' := by
  obtain ⟨fault, store, hupdate, rfl⟩ := hupdates
  obtain ⟨hmemory, hdisk⟩ := update_views hupdate h.memory h.disk hplan
  exact ⟨hmemory.reconfigured store, hdisk.reconfigured store, h.target,
    h.prepared.updated hordinary hupdate⟩

theorem Sustains.claimed (h : world.Claimed world') : Sustains world world' := by
  rcases h with rfl | ⟨habsent, rfl⟩
  · exact Sustains.refl _
  · refine ⟨⟨[], rfl⟩, ?_, fun _ _ => id⟩
    intro locator value hsurvives
    rw [habsent] at hsurvives
    exact hsurvives

theorem Sustains.opened (h : world.Open world') : Sustains world world' := by
  obtain ⟨-, rfl⟩ := h
  exact ⟨⟨[], rfl⟩, fun _ _ => id, fun _ _ => id⟩

theorem Inv.claimed (h : Inv app start world) (hclaimed : world.Claimed world') :
    Inv app start world' := by
  apply h.sustained (Sustains.claimed hclaimed)
  rcases hclaimed with rfl | ⟨-, rfl⟩
  · rfl
  · rfl

theorem Inv.opened (h : Inv app start world) (hopened : world.Open world') :
    Inv app start world' := by
  apply h.sustained (Sustains.opened hopened)
  obtain ⟨-, rfl⟩ := hopened
  rfl

/-- A value is stored where there was none. -/
theorem Sustains.stored {locator : SecretLocator} (hfree : world.target locator = none)
    (value : String) :
    Sustains world
      { world with target := Function.update world.target locator (some value) } := by
  refine ⟨⟨[], rfl⟩, fun _ _ => id, ?_⟩
  intro other expected hsurvives
  by_cases hother : other = locator
  · rw [hother, hfree] at hsurvives
    obtain ⟨found, hfound, -⟩ := hsurvives
    cases hfound
  · change Survives _ other expected (Function.update world.target locator (some value) other)
    rw [Function.update_of_ne hother]
    exact hsurvives

/-! ## The calls of a migration -/

/-- Memory and file agree on a snapshot that is valid. -/
structure Settled (app : App) (world : World) (snapshot : ConfigSnapshot) : Prop where
  config : world.config = ⟨snapshot, snapshot.config⟩
  valid : snapshot.config.validate app.capabilities = .ok ()

theorem update_upholds {snapshot : ConfigSnapshot} {change : ConfigChange}
    (hs : Inv app start world) (hsettled : Settled app world snapshot)
    (hordinary : Ordinary change)
    (hkept : ∀ config, applyChange snapshot.config change = .ok config →
      Kept app start world config) :
    Upholds (answers app) (Inv app start)
      (OnOk fun snapshot' world' => Settled app world' snapshot' ∧
        world' = { world with config := ⟨snapshot', snapshot'.config⟩ } ∧
        applyChange snapshot.config change = .ok snapshot'.config)
      (update snapshot change).run world := by
  have hplanned : ∀ next, world.config.plan app.capabilities snapshot.revision change = .ok next →
      applyChange snapshot.config change = .ok next.config ∧
        next.config.validate app.capabilities = .ok () := by
    intro next hplan
    rw [hsettled.config] at hplan
    obtain ⟨happly, hvalid, -⟩ := plan_parts hplan
    exact ⟨happly, hvalid⟩
  apply Upholds.callOk hs
  intro answer world' answered
  refine ⟨hs.updated hordinary answered fun next hplan => hkept _ (hplanned next hplan).1, ?_⟩
  rintro snapshot' rfl
  obtain ⟨fault, store, hupdate, rfl⟩ := answered
  obtain ⟨rfl, hplan⟩ := update_ok hupdate
  obtain ⟨happly, hvalid⟩ := hplanned _ hplan
  exact ⟨⟨rfl, hvalid⟩, rfl, happly⟩

/-- The rule for a change that rebinds nothing. -/
theorem quietUpdate_upholds {snapshot : ConfigSnapshot} {change : ConfigChange}
    (hs : Inv app start world) (hsettled : Settled app world snapshot) (hquiet : Quiet change) :
    Upholds (answers app) (Inv app start)
      (OnOk fun snapshot' world' => Settled app world' snapshot' ∧
        world' = { world with config := ⟨snapshot', snapshot'.config⟩ } ∧
        applyChange snapshot.config change = .ok snapshot'.config)
      (update snapshot change).run world := by
  apply update_upholds hs hsettled hquiet.ordinary
  intro config happly
  have hmemory := hs.memory
  rw [hsettled.config] at hmemory
  exact hmemory.extended (Extends.of_quiet hquiet happly) fun _ => False.elim

theorem resolveIfPresent_upholds {request : Call (Except SecretError String)}
    {post : Option String → World → Prop} (hs : Inv app start world)
    (hstep : ∀ answer world', answers app _ request world answer world' → Inv app start world')
    (hsome : ∀ secret world', answers app _ request world (.ok secret) world' →
      post (some secret) world')
    (hnone : ∀ reference world', answers app _ request world (.error (.notFound reference)) world' →
      post none world') :
    Upholds (answers app) (Inv app start) (OnOk post) (resolveIfPresent request).run world := by
  unfold resolveIfPresent
  apply Upholds.askOk hs
  intro answer world' answered
  have hs' := hstep answer world' answered
  cases answer with
  | ok secret => exact ⟨hs', hsome secret world' answered⟩
  | error error =>
      cases error with
      | notFound reference => exact ⟨hs', hnone reference world' answered⟩
      | _ => exact ⟨hs', trivial⟩

/-- How far a copy has come. -/
structure Advances (app : App) (world : World) (snapshot : ConfigSnapshot) (world' : World)
    (snapshot' : ConfigSnapshot) : Prop where
  settled : Settled app world' snapshot'
  source : world'.source.find = world.source.find
  target : ∀ locator value, world.target locator = some value →
    world'.target locator = some value
  record : ∀ record, snapshot.config.credentialMigration = some record →
    ∃ receipts, snapshot'.config.credentialMigration = some { record with receipts }

theorem Advances.refl {snapshot : ConfigSnapshot} (h : Settled app world snapshot) :
    Advances app world snapshot world snapshot :=
  ⟨h, rfl, fun _ _ => id, fun record hrecord => ⟨record.receipts, hrecord⟩⟩

theorem Advances.trans {world'' : World} {snapshot snapshot' snapshot'' : ConfigSnapshot}
    (h : Advances app world snapshot world' snapshot')
    (h' : Advances app world' snapshot' world'' snapshot'') :
    Advances app world snapshot world'' snapshot'' where
  settled := h'.settled
  source := h'.source.trans h.source
  target locator value := h'.target locator value ∘ h.target locator value
  record := by
    intro record hrecord
    obtain ⟨receipts, hrecord'⟩ := h.record record hrecord
    obtain ⟨receipts', hrecord''⟩ := h'.record _ hrecord'
    exact ⟨receipts', hrecord''⟩

theorem Advances.opened {snapshot : ConfigSnapshot} (h : Settled app world snapshot)
    (hopened : world.Open world') : Advances app world snapshot world' snapshot := by
  obtain ⟨-, rfl⟩ := hopened
  exact ⟨⟨h.config, h.valid⟩, rfl, fun _ _ => id, fun record hrecord => ⟨record.receipts, hrecord⟩⟩

theorem Advances.stored {snapshot : ConfigSnapshot} {locator : SecretLocator}
    (h : Settled app world snapshot) (hfree : world.target locator = none) (value : String) :
    Advances app world snapshot
      { world with target := Function.update world.target locator (some value) } snapshot where
  settled := ⟨h.config, h.valid⟩
  source := rfl
  target := by
    intro other expected hother
    by_cases heq : other = locator
    · rw [heq, hfree] at hother
      cases hother
    · exact (Function.update_of_ne heq _ _).trans hother
  record := fun record hrecord => ⟨record.receipts, hrecord⟩

/-- A receipt changes nothing but the receipts. -/
theorem Advances.recorded {snapshot snapshot' : ConfigSnapshot} {locator : SecretLocator}
    {state : CredentialCopyState}
    (hsettled : Settled app { world with config := ⟨snapshot', snapshot'.config⟩ } snapshot')
    (happly : applyChange snapshot.config (.recordCredentialCopy locator state) =
      .ok snapshot'.config) :
    Advances app world snapshot { world with config := ⟨snapshot', snapshot'.config⟩ }
      snapshot' where
  settled := hsettled
  source := rfl
  target := fun _ _ => id
  record := by
    intro record hrecord
    simp only [applyChange, hrecord] at happly
    split at happly
    · cases happly
    split at happly
    · cases happly
    have happly := (Except.ok.inj happly).symm
    rw [happly]
    exact ⟨_, rfl⟩

/-! ## Copies -/

/-- A copy is recorded. -/
theorem recordUpdate_upholds {snapshot : ConfigSnapshot} {locator : SecretLocator}
    {state : CredentialCopyState} (receipts : Receipts) (hs : Inv app start world)
    (hsettled : Settled app world snapshot) :
    Upholds (answers app) (Inv app start)
      (OnOk fun recorded world' => Advances app world snapshot world' recorded.1 ∧
        world'.target = world.target)
      (do
        let snapshot ← update snapshot (.recordCredentialCopy locator state)
        pure (snapshot, Function.update receipts locator (some state)) :
        Action (ConfigSnapshot × Receipts)).run world := by
  have hquiet : Quiet (.recordCredentialCopy locator state) := trivial
  apply Upholds.bindOk
  apply (quietUpdate_upholds hs hsettled hquiet).monoOk fun _ => id
  rintro snapshot' _ hs' ⟨hsettled', rfl, happly⟩
  exact ⟨hs', Advances.recorded hsettled' happly, rfl⟩

theorem announce_upholds {snapshot : ConfigSnapshot} (locator : SecretLocator) (receipts : Receipts)
    (hs : Inv app start world) (hsettled : Settled app world snapshot) :
    Upholds (answers app) (Inv app start)
      (OnOk fun announced world' => Advances app world snapshot world' announced.1 ∧
        world'.target = world.target)
      (announce locator snapshot receipts).run world := by
  unfold announce
  split
  · exact recordUpdate_upholds receipts hs hsettled
  · exact ⟨hs, Advances.refl hsettled, rfl⟩

theorem recordCopied_upholds {snapshot : ConfigSnapshot} (locator : SecretLocator)
    (receipt : Option CredentialCopyState) (receipts : Receipts) (hs : Inv app start world)
    (hsettled : Settled app world snapshot) :
    Upholds (answers app) (Inv app start)
      (OnOk fun recorded world' => Advances app world snapshot world' recorded.1 ∧
        world'.target = world.target)
      (recordCopied locator receipt snapshot receipts).run world := by
  unfold recordCopied
  split
  · exact recordUpdate_upholds receipts hs hsettled
  · exact ⟨hs, Advances.refl hsettled, rfl⟩

theorem putMissing_upholds {snapshot : ConfigSnapshot} {locator : SecretLocator} {secret : String}
    {receipts : Receipts} (hs : Inv app start world) (hsettled : Settled app world snapshot) :
    Upholds (answers app) (Inv app start)
      (OnOk fun put world' => Advances app world snapshot world' put.1)
      (putMissing locator secret snapshot receipts).run world := by
  unfold putMissing
  split
  · exact ⟨hs, trivial⟩
  · apply Upholds.bindOk
    apply (announce_upholds locator receipts hs hsettled).monoOk fun _ => id
    rintro announced world₁ hs₁ ⟨hadvances, -⟩
    apply Upholds.askOk hs₁
    intro answer world₂ answered
    cases answer with
    | ok _ =>
        obtain ⟨hfree, rfl⟩ := answered
        exact ⟨hs₁.sustained (Sustains.stored hfree secret) rfl,
          hadvances.trans (Advances.stored hadvances.settled hfree secret)⟩
    | error error =>
        have hs₂ : Inv app start world₂ := by
          rcases answered with rfl | ⟨hfree, rfl⟩
          · exact hs₁
          · exact hs₁.sustained (Sustains.stored hfree secret) rfl
        cases error with
        | alreadyExists reference => exact ⟨hs₂, trivial⟩
        | _ => exact ⟨hs₂, trivial⟩

theorem ensurePut_upholds {snapshot : ConfigSnapshot} {locator : SecretLocator} {secret : String}
    {receipts : Receipts} (hs : Inv app start world) (hsettled : Settled app world snapshot) :
    Upholds (answers app) (Inv app start)
      (OnOk fun put world' => Advances app world snapshot world' put.1)
      (ensurePut locator secret snapshot receipts).run world := by
  unfold ensurePut
  apply Upholds.bindOk
  apply resolveIfPresent_upholds hs
  case hstep =>
    rintro _ _ ⟨rfl, -⟩
    exact hs
  case hsome =>
    rintro existing _ ⟨rfl, -⟩
    dsimp only
    split
    · exact ⟨hs, trivial⟩
    · exact ⟨hs, Advances.refl hsettled⟩
  case hnone =>
    rintro _ _ ⟨rfl, -⟩
    exact putMissing_upholds hs hsettled

/-- What is copied has been read back from the target. -/
theorem copyOne_upholds {snapshot : ConfigSnapshot} (locator : SecretLocator) (receipts : Receipts)
    (hs : Inv app start world) (hsettled : Settled app world snapshot) :
    Upholds (answers app) (Inv app start)
      (OnOk fun copied world' => Advances app world snapshot world' copied.1 ∧
        ∀ value, world'.source.find locator = some value → world'.target locator = some value)
      (copyOne locator snapshot receipts).run world := by
  unfold copyOne
  apply Upholds.bindOk
  apply resolveIfPresent_upholds hs
  case hstep =>
    intro answer world₁ answered
    cases answer with
    | ok value =>
        obtain ⟨hopened, -⟩ := answered
        exact hs.opened hopened
    | error error => exact hs.claimed answered
  case hnone => exact fun _ _ answered => ⟨hs.claimed answered, trivial⟩
  case hsome =>
    rintro secret world₁ ⟨hopened, hsecret⟩
    have hadvances := Advances.opened hsettled hopened
    have hsource : world₁.source.find locator = some secret := by
      obtain ⟨-, rfl⟩ := hopened
      exact hsecret
    apply Upholds.bindOk
    apply (ensurePut_upholds (hs.opened hopened) hadvances.settled).monoOk fun _ => id
    intro put world₂ hs₂ hput
    apply Upholds.bindOk
    apply Upholds.callOk hs₂
    rintro answer world₃ ⟨rfl, hanswer⟩
    refine ⟨hs₂, ?_⟩
    rintro migrated rfl
    split
    · exact ⟨hs₂, trivial⟩
    · next heq =>
        apply (recordCopied_upholds locator (receipts locator) put.2 hs₂ hput.settled).monoOk
          fun _ => id
        rintro recorded world₄ - ⟨hrecorded, htarget⟩
        refine ⟨hadvances.trans (hput.trans hrecorded), ?_⟩
        intro value hvalue
        rw [hrecorded.source, hput.source, hsource] at hvalue
        obtain rfl := Option.some.inj hvalue
        rw [htarget, not_not.mp heq]
        exact hanswer

theorem copyEach_upholds {snapshot : ConfigSnapshot} (locators : List SecretLocator)
    (receipts : Receipts) (hs : Inv app start world) (hsettled : Settled app world snapshot) :
    Upholds (answers app) (Inv app start)
      (OnOk fun snapshot' world' => Advances app world snapshot world' snapshot' ∧
        ∀ locator ∈ locators, ∀ value,
          world'.source.find locator = some value → world'.target locator = some value)
      (copyEach locators snapshot receipts).run world := by
  induction locators generalizing snapshot receipts world with
  | nil => exact ⟨hs, Advances.refl hsettled, fun _ hmem => absurd hmem List.not_mem_nil⟩
  | cons locator rest ih =>
      unfold copyEach
      apply Upholds.bindOk
      apply (copyOne_upholds locator receipts hs hsettled).monoOk fun _ => id
      rintro copied world₁ hs₁ ⟨hadvances, hcopied⟩
      apply (ih copied.2 hs₁ hadvances.settled).monoOk fun _ => id
      rintro snapshot' world₂ - ⟨hrest, hcopiedRest⟩
      refine ⟨hadvances.trans hrest, ?_⟩
      intro other hmem value hvalue
      rcases List.mem_cons.mp hmem with rfl | hmem
      · rw [hrest.source] at hvalue
        exact hrest.target _ _ (hcopied value hvalue)
      · exact hcopiedRest other hmem value hvalue

/-! ## The purge -/

/-- A migration that is cleaning up has retired its source. -/
theorem retired_of_valid {record : CredentialMigrationRecord}
    (hvalid : config.validate app.capabilities = .ok ())
    (hrecord : config.credentialMigration = some record)
    (hphase : record.phase = .cleanupPending) : record.source ∉ config.secretBackends := by
  have h := (validate_parts hvalid).2.2 record hrecord
  intro hmem
  have hconfigured : config.secretBackends.any (· == record.source) = true :=
    List.any_eq_true.mpr ⟨record.source, hmem, beq_self_eq_true _⟩
  unfold validateMigration at h
  simp only [hphase, hconfigured, Bool.true_or, if_true, bind, Except.bind, throw, throwThe,
    MonadExceptOf.throw] at h
  repeat' split at h
  all_goals cases h

theorem Kept.purged (h : Kept app start world config) (hlegacy : app.legacy ∉ config.secretBackends)
    (htarget : start.Fresh app → ∀ locator value, start.source.find locator = some value →
      Survives world.events locator value (world.target locator)) (source : SecretsFile) :
    Kept app start { world with source } config where
  bound := by
    intro id slot value hresolves
    refine (h.bound id slot value hresolves).imp_right ?_
    rintro ⟨reference, hbinds, hsurvives⟩
    refine ⟨reference, hbinds, ?_⟩
    rcases hsurvives.cases with ⟨-, hmem, -⟩ | ⟨hid, hmem, hkept⟩
    · exact absurd hmem hlegacy
    · rw [World.value_target hid hmem]
      exact hkept
  elsewhere := h.elsewhere
  moved := fun hfresh locator value hstart => Or.inr ⟨hlegacy, htarget hfresh locator value hstart⟩
  cleaning := h.cleaning

/-- The configuration says that the source may go. -/
structure Cleaning (app : App) (world : World) (snapshot : ConfigSnapshot) : Prop where
  settled : Settled app world snapshot
  record : ∃ record, snapshot.config.credentialMigration = some record ∧
    record.phase = .cleanupPending ∧ record.source = app.legacy

theorem Cleaning.retired {snapshot : ConfigSnapshot} (h : Cleaning app world snapshot) :
    app.legacy ∉ snapshot.config.secretBackends := by
  obtain ⟨record, hrecord, hphase, hsource⟩ := h.record
  rw [← hsource]
  exact retired_of_valid h.settled.valid hrecord hphase

theorem Inv.purged {snapshot : ConfigSnapshot} (h : Inv app start world)
    (hcleaning : Cleaning app world snapshot) (source : SecretsFile) :
    Inv app start { world with source } := by
  obtain ⟨record, hrecord, hphase, hsource⟩ := hcleaning.record
  have hmemory : world.config.state.config = snapshot.config :=
    congrArg (·.state.config) hcleaning.settled.config
  have hfile : world.config.file = snapshot.config :=
    congrArg (·.file) hcleaning.settled.config
  have hretired := hcleaning.retired
  have htarget := fun hfresh =>
    h.memory.cleaning hfresh record (hmemory.symm ▸ hrecord) hphase hsource
  exact ⟨h.memory.purged (hmemory.symm ▸ hretired) htarget source,
    h.disk.purged (hfile.symm ▸ hretired) htarget source, h.target, h.prepared⟩

/-- What a migration that is ready has left behind. -/
structure Finished (app : App) (world : World) : Prop where
  disk : world.config.file = world.config.state.config
  migration : world.config.file.credentialMigration = none
  legacy : app.legacy ∉ world.config.file.secretBackends
  source : world.source = .absent

theorem finish_upholds {snapshot : ConfigSnapshot} (hs : Inv app start world)
    (hcleaning : Cleaning app world snapshot) (habsent : world.source = .absent) :
    Upholds (answers app) (Inv app start) (OnOk fun _ => Finished app) (finish snapshot).run
      world := by
  have hquiet : Quiet .finishCredentialMigration := trivial
  have hretired := hcleaning.retired
  unfold finish
  apply Upholds.bindOk
  apply (quietUpdate_upholds hs hcleaning.settled hquiet).monoOk fun _ => id
  rintro snapshot' _ hs' ⟨-, rfl, happly⟩
  simp only [applyChange] at happly
  split at happly
  · have happly := (Except.ok.inj happly).symm
    refine ⟨hs', rfl, ?_, ?_, habsent⟩
    · change snapshot'.config.credentialMigration = none
      rw [happly]
    · change app.legacy ∉ snapshot'.config.secretBackends
      rw [happly]
      exact hretired
  · cases happly

theorem purgeAndFinish_upholds {snapshot : ConfigSnapshot} (hs : Inv app start world)
    (hcleaning : Cleaning app world snapshot) :
    Upholds (answers app) (Inv app start) (OnOk fun _ => Finished app)
      (purgeAndFinish snapshot).run world := by
  unfold purgeAndFinish
  apply Upholds.askOk hs
  intro answer world' answered
  cases answer with
  | ok _ =>
      obtain rfl := answered
      exact finish_upholds (hs.purged hcleaning .absent)
        ⟨⟨hcleaning.settled.config, hcleaning.settled.valid⟩, hcleaning.record⟩ rfl
  | error error =>
      rcases answered with rfl | ⟨-, rfl | rfl⟩
      · exact ⟨hs, trivial⟩
      · exact ⟨hs.purged hcleaning .spoiled, trivial⟩
      · exact ⟨hs.purged hcleaning .absent, trivial⟩

/-! ## The run of a migration -/

/-- The rebinding of everything that has been copied. -/
theorem checkpoint_upholds {snapshot : ConfigSnapshot} {record : CredentialMigrationRecord}
    (hs : Inv app start world) (hsettled : Settled app world snapshot)
    (hrecord : snapshot.config.credentialMigration = some record)
    (hsource : record.source = app.legacy) (htarget : record.target = localBackend)
    (hcopied : world.Copied) :
    Upholds (answers app) (Inv app start)
      (OnOk fun snapshot' world' => Cleaning app world' snapshot' ∧
        world'.source = world.source)
      (update snapshot .checkpointCredentialMigration).run world := by
  have hmemory := hs.memory
  rw [hsettled.config] at hmemory
  have hordinary : Ordinary .checkpointCredentialMigration := trivial
  apply (update_upholds hs hsettled hordinary fun config happly =>
    (hmemory.checkpoint hrecord hsource htarget hcopied happly).1).monoOk fun _ => id
  rintro snapshot' _ - ⟨hsettled', rfl, happly⟩
  refine ⟨⟨hsettled', ?_⟩, rfl⟩
  simp only [applyChange, hrecord] at happly
  split at happly
  · cases happly
  have happly := (Except.ok.inj happly).symm
  rw [happly]
  exact ⟨_, rfl, rfl, hsource⟩

theorem ownsPath_upholds {post : Bool → World → Prop} (backends : List SecretBackend)
    (except : Option SecretBackendId) (hs : Inv app start world)
    (hpost : ∀ owned, post owned world) :
    Upholds (answers app) (Inv app start) (OnOk post) (ownsPath backends except).run world := by
  apply Upholds.askE hs
  rintro answer _ rfl
  exact ⟨hs, hpost answer⟩

theorem locators_upholds {snapshot : ConfigSnapshot} (hs : Inv app start world)
    (hsettled : Settled app world snapshot) :
    Upholds (answers app) (Inv app start)
      (OnOk fun locators world' => Advances app world snapshot world' snapshot ∧
        ∀ locator value, world'.source.find locator = some value → locator ∈ locators)
      (classified .locators).run world := by
  apply Upholds.callOk hs
  intro answer world' answered
  cases answer with
  | error error =>
      refine ⟨hs.claimed answered, ?_⟩
      rintro _ ⟨⟩
  | ok locators =>
      obtain ⟨hopened, hlisted⟩ := answered
      refine ⟨hs.opened hopened, ?_⟩
      rintro _ ⟨⟩
      refine ⟨Advances.opened hsettled hopened, ?_⟩
      intro locator value hvalue
      obtain ⟨-, rfl⟩ := hopened
      exact hlisted locator (Option.isSome_of_eq_some hvalue)

theorem cleanUp_upholds {snapshot : ConfigSnapshot} {exist : Bool} (hs : Inv app start world)
    (hcleaning : Cleaning app world snapshot) (hexist : exist = false → world.source = .absent) :
    Upholds (answers app) (Inv app start) (OnOk fun _ => Finished app)
      (cleanUp exist snapshot).run world := by
  unfold cleanUp
  apply Upholds.bindOk
  apply ownsPath_upholds _ _ hs
  intro owned
  cases owned with
  | true => exact ⟨hs, trivial⟩
  | false =>
      cases exist with
      | true => exact purgeAndFinish_upholds hs hcleaning
      | false => exact finish_upholds hs hcleaning (hexist rfl)

theorem copyAll_upholds {snapshot : ConfigSnapshot} {record : CredentialMigrationRecord}
    (hs : Inv app start world) (hsettled : Settled app world snapshot)
    (hrecord : snapshot.config.credentialMigration = some record)
    (hsource : record.source = app.legacy) (htarget : record.target = localBackend) :
    Upholds (answers app) (Inv app start) (OnOk fun _ => Finished app)
      (copyAll snapshot record).run world := by
  unfold copyAll
  apply Upholds.bindOk
  apply (locators_upholds hs hsettled).monoOk fun _ => id
  rintro sourceLocators world₁ hs₁ ⟨hadvances, hlisted⟩
  split
  · exact ⟨hs₁, trivial⟩
  · next hmanifest =>
      apply Upholds.bindOk
      apply (copyEach_upholds record.locators _ hs₁ hadvances.settled).monoOk fun _ => id
      rintro snapshot₂ world₂ hs₂ ⟨hcopying, hcopied⟩
      obtain ⟨receipts, hrecord₂⟩ := hcopying.record record hrecord
      -- The manifest has every locator of the source, so all of the source has been copied.
      have hall : world₂.Copied := by
        intro locator value hvalue
        have hvalue₁ := hvalue
        rw [hcopying.source] at hvalue₁
        have hmem : locator ∈ record.locators := by
          by_contra hnot
          apply hmanifest
          exact List.any_eq_true.mpr ⟨locator, hlisted locator value hvalue₁, decide_eq_true hnot⟩
        exact hcopied locator hmem value hvalue
      apply Upholds.bindOk
      apply (checkpoint_upholds hs₂ hcopying.settled hrecord₂ hsource htarget hall).monoOk
        fun _ => id
      rintro snapshot₃ world₃ hs₃ ⟨hcleaning, -⟩
      exact cleanUp_upholds hs₃ hcleaning fun h => by cases h

/-- What a migration that has begun does, from wherever it was left. -/
theorem resume_upholds {snapshot : ConfigSnapshot} {record : CredentialMigrationRecord}
    {exist : Bool} (hs : Inv app start world) (hsettled : Settled app world snapshot)
    (hrecord : snapshot.config.credentialMigration = some record)
    (hexist : exist = false → world.source = .absent) :
    Upholds (answers app) (Inv app start) (OnOk fun _ => Finished app)
      (resume app exist snapshot record).run world := by
  unfold resume
  split
  · exact ⟨hs, trivial⟩
  next hpair =>
    obtain ⟨hsource, htarget⟩ : record.source = app.legacy ∧ record.target = localBackend := by
      rw [not_or, not_not, not_not] at hpair
      exact hpair
    split
    · exact ⟨hs, trivial⟩
    split
    · next hphase => exact cleanUp_upholds hs ⟨hsettled, record, hrecord, hphase, hsource⟩ hexist
    split
    · exact copyAll_upholds hs hsettled hrecord hsource htarget
    next hnot =>
      have habsent := hexist (Bool.eq_false_iff.mpr hnot)
      have hcopied : world.Copied := by
        intro locator value hvalue
        rw [habsent] at hvalue
        cases hvalue
      split
      · exact ⟨hs, trivial⟩
      · apply Upholds.bindOk
        apply (checkpoint_upholds hs hsettled hrecord hsource htarget hcopied).monoOk fun _ => id
        rintro snapshot₁ world₁ hs₁ ⟨hcleaning, hsame⟩
        exact finish_upholds hs₁ hcleaning (hsame.trans habsent)

theorem begin_upholds {snapshot : ConfigSnapshot} {exist : Bool} (hs : Inv app start world)
    (hsettled : Settled app world snapshot) :
    Upholds (answers app) (Inv app start)
      (OnOk fun snapshot' world' => Settled app world' snapshot' ∧
        (exist = false → world'.source = world.source))
      (begin app exist snapshot).run world := by
  unfold begin
  split
  · exact ⟨hs, trivial⟩
  apply Upholds.bindOk
  apply ownsPath_upholds _ _ hs
  intro owned
  split
  · exact ⟨hs, trivial⟩
  split
  · exact ⟨hs, trivial⟩
  have hbegin : ∀ world₁ locators, Inv app start world₁ → Settled app world₁ snapshot →
      (exist = false → world₁.source = world.source) →
      Upholds (answers app) (Inv app start)
        (OnOk fun snapshot' world' => Settled app world' snapshot' ∧
          (exist = false → world'.source = world.source))
        (update snapshot (.beginCredentialMigration
          ⟨app.legacy, localBackend, .copying, manifest locators, []⟩)).run world₁ := by
    intro world₁ locators hs₁ hsettled₁ hsame
    apply (quietUpdate_upholds hs₁ hsettled₁ (by exact trivial)).monoOk fun _ => id
    rintro snapshot' _ - ⟨hsettled', rfl, -⟩
    exact ⟨hsettled', hsame⟩
  apply Upholds.bindOk
  unfold initialLocators
  cases exist with
  | true =>
      apply Upholds.bindOk
      apply (locators_upholds hs hsettled).monoOk fun _ => id
      rintro locators world₁ hs₁ ⟨hadvances, -⟩
      exact ⟨hs₁, hbegin world₁ _ hs₁ hadvances.settled fun h => by cases h⟩
  | false => exact ⟨hs, hbegin world _ hs hsettled fun _ => rfl⟩

theorem unconfigured_upholds {snapshot : ConfigSnapshot} {exist : Bool} (hs : Inv app start world)
    (hfinished : exist = false → Finished app world) :
    Upholds (answers app) (Inv app start) (OnOk fun _ => Finished app)
      (unconfigured exist snapshot).run world := by
  unfold unconfigured
  split
  · apply Upholds.bindOk
    apply ownsPath_upholds _ _ hs
    intro owned
    split
    · exact ⟨hs, trivial⟩
    · exact ⟨hs, trivial⟩
  next hnot => exact ⟨hs, hfinished (Bool.eq_false_iff.mpr hnot)⟩

theorem migrate_upholds (hs : Inv app start world)
    (hsettled : Settled app world world.config.state) :
    Upholds (answers app) (Inv app start) (OnOk fun _ => Finished app)
      (migrateInterimSecrets app).run world := by
  unfold migrateInterimSecrets
  apply Upholds.askOk hs
  rintro answer world ⟨rfl, hanswer⟩
  cases answer with
  | none => exact ⟨hs, trivial⟩
  | some exist =>
      have hexist := hanswer exist rfl
      apply Upholds.askOk hs
      rintro snapshot world ⟨rfl, rfl⟩
      split
      · next record hrecord => exact resume_upholds hs hsettled hrecord hexist.mp
      next hnone =>
        split
        · next hlegacy =>
            have hfile : world.config.file = world.config.state.config :=
              congrArg (·.file) hsettled.config
            apply unconfigured_upholds hs
            exact fun hfalse =>
              ⟨hfile, hfile ▸ hnone, hfile ▸ hlegacy, hexist.mp hfalse⟩
        · apply Upholds.bindOk
          apply (begin_upholds hs hsettled).monoOk fun _ => id
          rintro snapshot₁ world₁ hs₁ ⟨hsettled₁, hsame⟩
          split
          · exact ⟨hs₁, trivial⟩
          next record hrecord =>
            apply resume_upholds hs₁ hsettled₁ hrecord
            exact fun hfalse => (hsame hfalse).trans (hexist.mp hfalse)

end YakShed.Migration
