/-
# Credentials through any number of starts

The migration runs in every start. Between an end of the application and its next start
nothing runs, and what the configuration on disk binds then is what the next start finds.

From any such moment on, in every run, a binding resolves to what it resolved to unless
the user has set the credential or has put the connection. No assumption about how far an
earlier migration has come is needed for it; only for secrets that nothing binds it matters
that what is to be purged has been copied.
-/

import YakShed.Desktop.MigrationSafety

namespace YakShed.Migration

open Config Secrets Faults

variable {app : App} {start world world' : World} {config : AppConfig}

/-! ## The invariant of the application -/

/-- The configurations that count: the one on disk, and while the application serves its
commands the one in memory. -/
def World.Configured (world : World) (config : AppConfig) : Prop :=
  config = world.config.file ∨ world.serving = true ∧ config = world.config.state.config

structure Sound (app : App) (start world : World) : Prop where
  kept : ∀ config, world.Configured config → Kept app start world config
  target : ∀ locator value, start.target locator = some value →
    Survives world.events locator value (world.target locator)

theorem Kept.self (start : World) : Kept app start start start.config.file where
  bound := fun _ _ _ ⟨reference, hbinds, hvalue⟩ =>
    Or.inr ⟨reference, hbinds, Survives.self hvalue⟩
  elsewhere := fun _ _ _ _ => Or.inr
  moved := fun _ _ _ hstart => Or.inl (Survives.self hstart)
  cleaning := fun hfresh record hrecord hphase hsource _ _ hstart =>
    Survives.self (hfresh record hrecord hphase hsource _ _ hstart)

theorem Sound.self (hidle : start.serving = false) : Sound app start start where
  kept := by
    rintro config (rfl | ⟨hserving, -⟩)
    · exact Kept.self start
    · rw [hidle] at hserving
      cases hserving
  target := fun _ _ => Survives.self

theorem Sound.sustained (h : Sound app start world) (hstep : Sustains world world')
    (hconfigured : ∀ config, world'.Configured config → world.Configured config) :
    Sound app start world' where
  kept := fun config hconfig => (h.kept config (hconfigured config hconfig)).sustained hstep
  target := fun locator value hstart => hstep.target _ _ (h.target locator value hstart)

/-- What a run of the migration leaves, served or not. -/
theorem Inv.sound (h : Inv app start world) (hsame : Sustains world world')
    (hconfig : world'.config = world.config) : Sound app start world' where
  kept := by
    unfold World.Configured
    rw [hconfig]
    rintro config (rfl | ⟨-, rfl⟩)
    · exact h.disk.sustained hsame
    · exact h.memory.sustained hsame
  target := fun locator value hstart => hsame.target _ _ (h.target locator value hstart)

/-! ## A start -/

theorem reopen_settled {store : ConfigStore}
    (h : world.config.reopen app.capabilities = some store) :
    store.file = world.config.file ∧ Settled app { world with config := store } store.state := by
  unfold ConfigStore.reopen at h
  split at h
  · next hvalid =>
      obtain rfl := Option.some.inj h
      exact ⟨rfl, rfl, hvalid⟩
  · cases h

theorem Sound.reopened (h : Sound app start world) {store : ConfigStore}
    (hfile : store.file = world.config.file)
    (hsettled : Settled app { world with config := store } store.state) :
    Inv app start { world with config := store } := by
  have hdisk := (h.kept _ (Or.inl rfl)).reconfigured store
  rw [← hfile] at hdisk
  have hsame : store.file = store.state.config := congrArg (·.file) hsettled.config
  have hmemory := hdisk
  rw [hsame] at hmemory
  have hprepared : Prepared app store := by
    refine ⟨?_, hsettled.valid⟩
    unfold Aligned
    rw [hsame]
    exact fun _ => Or.inr
  exact ⟨hmemory, hdisk, h.target, hprepared⟩

/-- A run of the migration, wherever it is cut off. -/
theorem Sound.migrated (h : Sound app start world) {store : ConfigStore}
    (hopened : world.config.reopen app.capabilities = some store)
    {result : Option (Except PendingReason Unit)}
    (hrun : Runs (answers app) (migrateInterimSecrets app).run { world with config := store }
      result world') :
    Inv app start world' ∧ (result = some (.ok ()) → Finished app world') := by
  obtain ⟨hfile, hsettled⟩ := reopen_settled hopened
  obtain ⟨hinv, hpost⟩ := (migrate_upholds (h.reopened hfile hsettled) hsettled).runs hrun
  exact ⟨hinv, fun hresult => hpost _ hresult⟩

theorem Sound.started (h : Sound app start world) (hstarts : Starts app world world') :
    Sound app start world' := by
  obtain ⟨store, result, migrated, hopened, hrun, -, rfl⟩ := hstarts
  obtain ⟨hinv, -⟩ := h.migrated hopened hrun
  exact hinv.sound ⟨⟨[], rfl⟩, fun _ _ => id, fun _ _ => id⟩ rfl

theorem Sound.broken (h : Sound app start world) (hbreaks : StartBreaks app world world') :
    Sound app start world' := by
  rcases hbreaks with rfl | ⟨store, result, hopened, hrun⟩
  · exact h
  · obtain ⟨hinv, -⟩ := h.migrated hopened hrun
    exact hinv.sound (Sustains.refl world') rfl

/-! ## The commands -/

theorem Survives.later {events : List Event} {locator : SecretLocator} {value : String}
    {now : Option String} (h : Survives events locator value now) (newer : List Event) :
    Survives (newer ++ events) locator value now := by
  obtain ⟨found, hfound, hkept⟩ := h
  refine ⟨found, hfound, hkept.imp_right ?_⟩
  rintro ⟨backend, hset⟩
  exact ⟨backend, List.mem_append_right newer hset⟩

theorem Sustains.logged (world : World) (newer : List Event) :
    Sustains world { world with events := newer ++ world.events } :=
  ⟨⟨newer, rfl⟩, fun _ _ hsurvives => hsurvives.later newer, fun _ _ hsurvives =>
    hsurvives.later newer⟩

/-- The value that the user has set is the one that is found. -/
theorem Survives.set {events : List Event} {reference : SecretReference} {value expected : String} :
    Survives (.set reference value :: events) reference.locator expected (some value) :=
  ⟨value, rfl, Or.inr ⟨reference.backendId, List.mem_cons_self⟩⟩

theorem Sustains.set {reference : SecretReference} {value : String} {overwrite : Bool}
    (h : world.Stores app reference value overwrite world') :
    Sustains world { world' with events := .set reference value :: world.events } := by
  have hlogged := Sustains.logged world [.set reference value]
  refine ⟨⟨[.set reference value], by cases h <;> rfl⟩, ?_, ?_⟩
  · intro locator expected hsurvives
    cases h with
    | source path _ _ _ =>
        change Survives _ locator expected
          (((reference.locator, value) :: world.source.secrets).lookup locator)
        by_cases hlocator : locator = reference.locator
        · rw [hlocator, List.lookup_cons_self]
          exact Survives.set
        · rw [List.lookup_cons, beq_false_of_ne hlocator]
          exact hlogged.source locator expected hsurvives
    | target _ _ _ => exact hlogged.source locator expected hsurvives
    | elsewhere _ _ _ _ => exact hlogged.source locator expected hsurvives
  · intro locator expected hsurvives
    cases h with
    | target _ _ _ =>
        change Survives _ locator expected
          (Function.update world.target reference.locator (some value) locator)
        by_cases hlocator : locator = reference.locator
        · rw [hlocator, Function.update_self]
          exact Survives.set
        · rw [Function.update_of_ne hlocator]
          exact hlogged.target locator expected hsurvives
    | source _ _ _ _ => exact hlogged.target locator expected hsurvives
    | elsewhere _ _ _ _ => exact hlogged.target locator expected hsurvives

theorem Sound.put (h : Sound app start world) {reference : SecretReference} {value : String}
    {overwrite : Bool} {answer : Except SecretError Unit}
    (hputs : world.Puts app reference value overwrite answer world') : Sound app start world' := by
  have hstored : (∃ stored, world.Stores app reference value overwrite stored ∧
      world' = { stored with events := .set reference value :: world.events }) →
        Sound app start world' := by
    rintro ⟨stored, hstores, rfl⟩
    apply h.sustained (Sustains.set hstores)
    cases hstores <;> exact fun _ hconfig => hconfig
  cases answer with
  | ok _ => exact hstored hputs
  | error error =>
      rcases hputs with hputs | hclaimed
      · exact hstored hputs
      · apply h.sustained (Sustains.claimed hclaimed)
        rcases hclaimed with rfl | ⟨-, rfl⟩
        · exact fun _ hconfig => hconfig
        · exact fun _ hconfig => hconfig

/-- A change that the ports ask for rebinds the connection that is noted. -/
theorem Sound.updated (h : Sound app start world) (hserving : world.serving = true)
    {revision : Nat} {change : ConfigChange} {id : ConnectionId} (hports : FromPorts change id)
    {answer : Except ConfigError ConfigSnapshot}
    (hupdates : world.Updates app revision change answer world') :
    Sound app start { world' with events := world.noted app revision change ++ world.events } := by
  obtain ⟨fault, store, hupdate, rfl⟩ := hupdates
  let noted : World := { world with events := world.noted app revision change ++ world.events }
  have hlogged : Sustains world noted := Sustains.logged world _
  have hmemory := (h.kept _ (Or.inr ⟨hserving, rfl⟩)).sustained hlogged
  have hdisk := (h.kept _ (Or.inl rfl)).sustained hlogged
  have hplan : ∀ next, world.config.plan app.capabilities revision change = .ok next →
      Kept app start noted next.config := by
    intro next hplan
    apply hmemory.extended (Extends.of_ports hports (plan_parts hplan).1)
    rintro _ rfl
    apply List.mem_append_left
    unfold World.noted
    rw [hplan]
    cases hports with
    | plain connection => exact List.mem_cons_self
    | withLocal connection => exact List.mem_cons_self
  obtain ⟨hmemory', hdisk'⟩ := update_views hupdate hmemory hdisk hplan
  refine ⟨?_, fun locator value hstart => hlogged.target _ _ (h.target locator value hstart)⟩
  rintro config (rfl | ⟨-, rfl⟩)
  · exact hdisk'.reconfigured store
  · exact hmemory'.reconfigured store

/-! ## Runs of the application -/

/-- The changes that are asked for are those of the ports. -/
def Ported : ∀ β : Type, Request β → Prop
  | _, .update _ change => ∃ id, FromPorts change id
  | _, _ => True

theorem change_fromPorts {config : AppConfig} {connection : Connection} {change : ConfigChange}
    (h : production.change config connection = .ok change) : FromPorts change connection.id := by
  simp only [ProductionConfig.change, bind, Except.bind, pure, Except.pure, throw, throwThe,
    MonadExceptOf.throw] at h
  repeat' split at h
  all_goals cases h
  · exact FromPorts.withLocal connection
  · exact FromPorts.plain connection

theorem Started.ported {program : Prog Request Unit} (h : Started app program) :
    program.Calls Ported := by
  cases h with
  | startUp => exact ⟨trivial, fun _ => trivial⟩
  | putConnection expectedRevision connection =>
      apply Prog.Calls.bind
      · unfold Migration.putConnection
        apply Prog.Calls.bindE (Prog.Calls.askE trivial)
        intro snapshot
        split
        · exact Prog.Calls.throwE _
        · next change hchange =>
            exact Prog.Calls.mapErrorE (Prog.Calls.attemptE ⟨_, change_fromPorts hchange⟩)
      · exact fun _ => trivial
  | setConnectionCredential connectionId slot value overwrite =>
      apply Prog.Calls.bind
      · unfold Migration.setConnectionCredential
        apply Prog.Calls.bindE (Prog.Calls.askE trivial)
        intro snapshot
        split
        · exact Prog.Calls.throwE _
        · exact Prog.Calls.mapErrorE (Prog.Calls.attemptE trivial)
      · exact fun _ => trivial

theorem Sound.answered {β : Type} {request : Request β} {answer : β} (h : Sound app start world)
    (hported : Ported β request) (hanswers : requestAnswers app β request world answer world') :
    Sound app start world' := by
  cases request with
  | startUp => exact h.started hanswers.2
  | snapshot =>
      obtain ⟨-, -, rfl⟩ := hanswers
      exact h
  | update expectedRevision change =>
      obtain ⟨hserving, updated, hupdates, rfl⟩ := hanswers
      obtain ⟨id, hports⟩ := hported
      exact h.updated hserving hports hupdates
  | brokerPut connection binding value overwrite =>
      obtain ⟨-, hputs⟩ := hanswers
      split at hputs
      · obtain ⟨-, rfl⟩ := hputs
        exact h
      · exact h.put hputs

theorem Sound.interrupted {β : Type} {request : Request β} (h : Sound app start world)
    (hported : Ported β request) (hinterrupts : requestInterrupts app β request world world') :
    Sound app start world' := by
  cases request with
  | startUp => exact h.broken hinterrupts.2
  | snapshot =>
      obtain ⟨answer, hanswers⟩ := hinterrupts
      exact h.answered hported hanswers
  | update expectedRevision change =>
      obtain ⟨answer, hanswers⟩ := hinterrupts
      exact h.answered hported hanswers
  | brokerPut connection binding value overwrite =>
      obtain ⟨answer, hanswers⟩ := hinterrupts
      exact h.answered hported hanswers

theorem Sound.stopped (h : Sound app start world) :
    Sound app start { world with serving := false } := by
  have hsame : Sustains world { world with serving := false } :=
    ⟨⟨[], rfl⟩, fun _ _ => id, fun _ _ => id⟩
  apply h.sustained hsame
  rintro config (rfl | ⟨hserving, -⟩)
  · exact Or.inl rfl
  · cases hserving

/-- The invariant holds in every run from a moment at which nothing ran. -/
theorem reaches_sound {pool : Pool Request World} (hidle : start.serving = false)
    (h : Pool.Reaches (surroundings app) ⟨start, []⟩ pool) : Sound app start pool.world := by
  have hstarts : ∀ program, (surroundings app).starts program → program.Calls Ported :=
    fun _ => Started.ported
  have hlegal : Pool.Legal Ported (⟨start, []⟩ : Pool Request World) :=
    fun _ hmem => absurd hmem List.not_mem_nil
  apply h.preserves _ _ _ hstarts hlegal (Sound.self hidle)
  · exact fun _ _ _ _ _ hported hanswers hs => hs.answered hported hanswers
  · exact fun _ _ _ _ hported hinterrupts hs => hs.interrupted hported hinterrupts
  · rintro world _ rfl hs
    exact hs.stopped

/-! ### A run -/

section Sample

/-- The source where it can be opened. -/
def World.opened {β : Type} (world : World) (answer : Except SecretError β) :
    Except SecretError β × World :=
  if world.source = .spoiled then (.error (.backendFailure legacyId "spoiled"), world)
  else (answer, { world with source := .holds world.source.secrets })

/-- Nothing fails but the removal of a file that held secrets, which is overwritten. -/
def respond (app : App) : ∀ β : Type, Call β → World → β × World
  | _, .sourceExists, world => (some (decide (world.source ≠ .absent)), world)
  | _, .snapshot, world => (world.config.state, world)
  | _, .update expectedRevision change, world =>
      let updated := world.config.update app.capabilities none expectedRevision change
      (updated.1, { world with config := updated.2 })
  | _, .leadsToSource _, world => (false, world)
  | _, .locators, world => world.opened (.ok (world.source.secrets.map (·.1)))
  | _, .resolveSource locator, world =>
      world.opened ((world.source.find locator).elim (.error (.notFound ⟨legacyId, locator⟩)) .ok)
  | _, .resolveTarget locator, world =>
      ((world.target locator).elim (.error (.notFound ⟨localBackend.id, locator⟩)) .ok, world)
  | _, .putTarget locator value, world =>
      if world.target locator = none then
        (.ok (), { world with target := Function.update world.target locator (some value) })
      else (.error (.alreadyExists ⟨localBackend.id, locator⟩), world)
  | _, .purge, world =>
      if world.source.secrets = [] then (.ok (), { world with source := .absent })
      else (.error (.backendFailure legacyId "busy"), { world with source := .spoiled })

theorem claimed_opened (h : world.source ≠ .spoiled) :
    world.Claimed { world with source := .holds world.source.secrets } := by
  cases hsource : world.source with
  | spoiled => exact absurd hsource h
  | absent => exact Or.inr ⟨hsource, rfl⟩
  | holds secrets =>
      left
      change { world with source := .holds secrets } = world
      rw [← hsource]

theorem respond_answers (app : App) (β : Type) (request : Call β) (world : World) :
    answers app β request world (respond app β request world).1
      (respond app β request world).2 := by
  cases request with
  | sourceExists =>
      refine ⟨rfl, ?_⟩
      intro exist hexist
      obtain rfl := Option.some.inj hexist
      exact decide_eq_false_iff_not.trans not_not
  | snapshot => exact ⟨rfl, rfl⟩
  | update expectedRevision change => exact ⟨none, _, rfl, rfl⟩
  | leadsToSource paths => rfl
  | locators =>
      unfold respond World.opened
      dsimp only
      by_cases hspoiled : world.source = .spoiled
      · rw [if_pos hspoiled]
        exact Or.inl rfl
      · rw [if_neg hspoiled]
        refine ⟨⟨hspoiled, rfl⟩, ?_⟩
        intro locator hfound
        rw [SecretsFile.find, List.lookup_isSome_iff] at hfound
        obtain ⟨secret, hmem, hlocator⟩ := hfound
        rw [eq_of_beq hlocator]
        exact List.mem_map_of_mem hmem
  | resolveSource locator =>
      unfold respond World.opened
      dsimp only
      by_cases hspoiled : world.source = .spoiled
      · rw [if_pos hspoiled]
        exact Or.inl rfl
      · rw [if_neg hspoiled]
        cases hfound : world.source.find locator with
        | none => exact claimed_opened hspoiled
        | some value => exact ⟨⟨hspoiled, rfl⟩, hfound⟩
  | resolveTarget locator =>
      refine ⟨rfl, ?_⟩
      unfold respond
      dsimp only
      cases world.target locator with
      | none => rfl
      | some value => rfl
  | putTarget locator value =>
      unfold respond answers
      dsimp only
      by_cases hfree : world.target locator = none
      · rw [if_pos hfree]
        exact ⟨hfree, rfl⟩
      · rw [if_neg hfree]
        exact Or.inl rfl
  | purge =>
      unfold respond answers
      dsimp only
      by_cases hempty : world.source.secrets = []
      · rw [if_pos hempty]
      · rw [if_neg hempty]
        refine Or.inr ⟨?_, Or.inl rfl⟩
        intro habsent
        rw [habsent] at hempty
        exact hempty rfl

def sampleApp : App := ⟨"/Users/sample/secrets.json", releaseCapabilities⟩

def spareLocator : SecretLocator := ⟨"spare", by decide +kernel⟩

/-- The secret of a connection and one that nothing binds are copied, and the
connection is moved to the keychain. -/
def cleaningChanges : List ConfigChange :=
  [.putSecretBackend sampleApp.legacy, .putConnection (firstConnection sampleApp.legacy),
    .beginCredentialMigration
      ⟨sampleApp.legacy, localBackend, .copying, [sampleLocator, spareLocator], []⟩,
    .recordCredentialCopy sampleLocator .copying, .recordCredentialCopy sampleLocator .copied,
    .recordCredentialCopy spareLocator .copying, .recordCredentialCopy spareLocator .copied,
    .checkpointCredentialMigration]

def sampleSecrets : List (SecretLocator × String) :=
  [(sampleLocator, "key"), (spareLocator, "spare")]

def cleaningConfig : AppConfig := (Config.replay releaseCapabilities cleaningChanges).file

/-- The application has ended before it could remove the file it had copied. -/
def cleaningWorld : World :=
  { config := ⟨⟨0, cleaningConfig⟩, cleaningConfig⟩
    source := .holds sampleSecrets
    target := fun locator => sampleSecrets.lookup locator }

/-- The migration as a whole. -/
def migrated (world : World) : Except PendingReason Unit × World :=
  replay (respond sampleApp) (migrateInterimSecrets sampleApp).run world

/-- The application after a start. -/
def started (world : World) : World :=
  { (migrated world).2 with
    serving := true
    broker := brokerBackends (migrated world).2.config.state.config }

theorem started_reached {start world : World} {tasks : List (Prog Request Unit)}
    (h : Pool.Reaches (surroundings sampleApp) ⟨start, []⟩ ⟨world, tasks⟩)
    (hidle : world.serving = false)
    (hopened : world.config.reopen sampleApp.capabilities = some world.config)
    (hbroker : (buildBroker sampleApp.capabilities (migrated world).2.config.state.config
      localBackend).isOk) :
    Pool.Reaches (surroundings sampleApp) ⟨start, []⟩ ⟨started world, tasks ++ [.done ()]⟩ := by
  have hstarts : Starts sampleApp world (started world) :=
    ⟨_, _, _, hopened, runs_replay (respond_answers sampleApp) _ _, hbroker, rfl⟩
  have hanswers : requestAnswers sampleApp Unit .startUp world () (started world) :=
    ⟨hidle, hstarts⟩
  exact h.trans (Pool.Reaches.alone (.call hanswers .done) Started.startUp tasks)

/-- The first start fails to remove the file, and the application ends again. -/
def interruptedWorld : World := { started cleaningWorld with serving := false }

set_option maxRecDepth 100000 in
theorem interruptedWorld_reached :
    Pool.Reaches (surroundings sampleApp) ⟨cleaningWorld, []⟩ ⟨interruptedWorld, []⟩ := by
  have hstarted : Pool.Reaches (surroundings sampleApp) ⟨cleaningWorld, []⟩
      ⟨started cleaningWorld, [.done ()]⟩ :=
    started_reached .refl rfl (by decide +kernel) (by decide +kernel)
  exact hstarted.tail (Pool.Step.fail rfl)

/-- The second start removes it. -/
def startedWorld : World := started interruptedWorld

set_option maxRecDepth 100000 in
theorem startedWorld_reached :
    Pool.Reaches (surroundings sampleApp) ⟨cleaningWorld, []⟩ ⟨startedWorld, [.done ()]⟩ :=
  started_reached interruptedWorld_reached rfl (by decide +kernel) (by decide +kernel)

theorem cleaningWorld_resolves :
    Resolves sampleApp cleaningWorld cleaningWorld.config.file
      (firstConnection sampleApp.legacy).id fireworksSlot "key" := by
  refine ⟨⟨localBackend.id, sampleLocator⟩, ?_, by decide +kernel⟩
  exact ⟨firstConnection localBackend, by decide +kernel, rfl, _, List.mem_cons_self, rfl, rfl⟩

/-- All secrets of the file were copied. -/
theorem cleaningWorld_fresh : cleaningWorld.Fresh sampleApp :=
  fun _ _ _ _ _ _ hsource => hsource

end Sample

/-! ### Every run -/

variable {pool : Pool Request World}

/-- Through any number of starts, cut off anywhere, and whatever the user does between them: from
a moment on at which nothing ran, and unless the user has put its connection, a slot that is bound
to the source or to the target resolves to what it resolved to then, or to a value that the user
has set since, and a slot that is bound to another backend is still bound to it. -/
theorem credentials_survive {id : ConnectionId} {slot : CredentialSlot}
    (hidle : start.serving = false)
    (h : Pool.Reaches (surroundings app) ⟨start, []⟩ pool)
    (hput : .put id ∉ pool.world.events) (hconfig : pool.world.Configured config) :
    (∀ value, Resolves app start start.config.file id slot value →
      ∃ reference, Binds config id slot reference ∧
        Survives pool.world.events reference.locator value
          (pool.world.value app config reference)) ∧
    ∀ reference backend, BoundElsewhere start.config.file id slot reference backend →
      BoundElsewhere config id slot reference backend := by
  have hkept := (reaches_sound hidle h).kept config hconfig
  constructor
  · exact fun value hresolves => (hkept.bound id slot value hresolves).resolve_left hput
  · exact fun reference backend hbound =>
      (hkept.elsewhere id slot reference backend hbound).resolve_left hput

set_option maxRecDepth 100000 in
/-- The first start fails to remove the source and the second removes it, and the secret that the
connection is bound to is there. -/
theorem credentials_survive_sample :
    startedWorld.source = .absent ∧ ∃ reference,
      Binds startedWorld.config.file (firstConnection sampleApp.legacy).id fireworksSlot
        reference ∧
      Survives startedWorld.events reference.locator "key"
        (startedWorld.value sampleApp startedWorld.config.file reference) :=
  ⟨by decide +kernel, (credentials_survive rfl startedWorld_reached (by decide +kernel)
    (Or.inl rfl)).1 "key" cleaningWorld_resolves⟩

/-- No secret of the source is lost, bound or not: it is in the source, or the source is no
backend any more and it is in the target. This asks that a migration which had come to its
cleanup by then had copied the source. What is in the target is never overwritten but by the
user. -/
theorem secrets_survive (hidle : start.serving = false)
    (h : Pool.Reaches (surroundings app) ⟨start, []⟩ pool)
    (hconfig : pool.world.Configured config) :
    (start.Fresh app → ∀ locator value, start.source.find locator = some value →
      Survives pool.world.events locator value (pool.world.source.find locator) ∨
        app.legacy ∉ config.secretBackends ∧
          Survives pool.world.events locator value (pool.world.target locator)) ∧
    ∀ locator value, start.target locator = some value →
      Survives pool.world.events locator value (pool.world.target locator) :=
  ⟨((reaches_sound hidle h).kept config hconfig).moved, (reaches_sound hidle h).target⟩

set_option maxRecDepth 100000 in
/-- The secret that nothing binds was in the source, which the two starts have removed. -/
theorem secrets_survive_sample :
    cleaningWorld.source.find spareLocator = some "spare" ∧
    interruptedWorld.source = .spoiled ∧ startedWorld.source = .absent ∧
    (Survives startedWorld.events spareLocator "spare" (startedWorld.source.find spareLocator) ∨
      sampleApp.legacy ∉ startedWorld.config.file.secretBackends ∧
        Survives startedWorld.events spareLocator "spare" (startedWorld.target spareLocator)) ∧
    Survives startedWorld.events spareLocator "spare" (startedWorld.target spareLocator) := by
  have hsurvive := secrets_survive rfl startedWorld_reached (Or.inl rfl)
  exact ⟨by decide +kernel, by decide +kernel, by decide +kernel,
    hsurvive.1 cleaningWorld_fresh spareLocator "spare" (by decide +kernel),
    hsurvive.2 spareLocator "spare" (by decide +kernel)⟩

/-- Once a start finds the migration ready, the source is gone, and no backend and no record of
it is left. What the source or the target resolved is resolved by the target, and all secrets of
the source are there, if a migration that had come to its cleanup by then had copied them. -/
theorem migration_finishes {store : ConfigStore} (hidle : start.serving = false)
    (h : Pool.Reaches (surroundings app) ⟨start, []⟩ pool)
    (hopened : pool.world.config.reopen app.capabilities = some store)
    (hrun : Runs (answers app) (migrateInterimSecrets app).run
      { pool.world with config := store } (some (.ok ())) world') :
    Finished app world' ∧
      (∀ id slot value, Resolves app start start.config.file id slot value →
        .put id ∈ world'.events ∨ ∃ reference, Binds world'.config.file id slot reference ∧
          reference.backendId = localBackend.id ∧
            Survives world'.events reference.locator value (world'.target reference.locator)) ∧
      (start.Fresh app → ∀ locator value, start.source.find locator = some value →
        Survives world'.events locator value (world'.target locator)) := by
  obtain ⟨hinv, hfinished⟩ := (reaches_sound hidle h).migrated hopened hrun
  have hfinished := hfinished rfl
  refine ⟨hfinished, ?_, ?_⟩
  · intro id slot value hresolves
    refine (hinv.disk.bound id slot value hresolves).imp_right ?_
    rintro ⟨reference, hbinds, hsurvives⟩
    rcases hsurvives.cases with ⟨-, hmem, -⟩ | ⟨hid, -, hkept⟩
    · exact absurd hmem hfinished.legacy
    · exact ⟨reference, hbinds, hid, hkept⟩
  · intro hfresh locator value hstart
    rcases hinv.disk.moved hfresh locator value hstart with ⟨found, hfound, -⟩ | ⟨-, hkept⟩
    · rw [hfinished.source] at hfound
      cases hfound
    · exact hkept

set_option maxRecDepth 100000 in
/-- The second start is ready, and has what the first one left. -/
theorem migration_finishes_sample :
    (migrated cleaningWorld).1 = .error .cleanupRequired ∧
    Finished sampleApp (migrated interruptedWorld).2 ∧
    (.put (firstConnection sampleApp.legacy).id ∈ (migrated interruptedWorld).2.events ∨
      ∃ reference, Binds (migrated interruptedWorld).2.config.file
          (firstConnection sampleApp.legacy).id fireworksSlot reference ∧
        reference.backendId = localBackend.id ∧
          Survives (migrated interruptedWorld).2.events reference.locator "key"
            ((migrated interruptedWorld).2.target reference.locator)) ∧
    Survives (migrated interruptedWorld).2.events spareLocator "spare"
      ((migrated interruptedWorld).2.target spareLocator) := by
  have hopened : interruptedWorld.config.reopen sampleApp.capabilities =
      some interruptedWorld.config := by
    decide +kernel
  have hready : (migrated interruptedWorld).1 = .ok () := by decide +kernel
  have hrun := runs_replay (respond_answers sampleApp) (migrateInterimSecrets sampleApp).run
    interruptedWorld
  change Runs _ _ _ (some (migrated interruptedWorld).1) _ at hrun
  rw [hready] at hrun
  obtain ⟨hfinished, hbound, hall⟩ :=
    migration_finishes rfl interruptedWorld_reached hopened hrun
  exact ⟨by decide +kernel, hfinished, hbound _ _ _ cleaningWorld_resolves,
    hall cleaningWorld_fresh spareLocator "spare" (by decide +kernel)⟩

end YakShed.Migration
