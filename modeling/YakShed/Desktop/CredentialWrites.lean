/-
# Where the user's credentials are written

`set_connection_credential` looks a binding up in the configuration in memory, and writes
later. By then the configuration on disk may be another one: a write of it may have failed
and still be in place. What saves the credential is that a migration that copies refuses
writes to its source. So the backend that a credential is written to has an identifier
that the configuration on disk names, too. Which backend has it there is not said.

A command relies on the others: they may change the configuration between its two calls.
-/

import YakShed.Desktop.CredentialSafety

namespace YakShed.Migration

open Config Secrets Faults

variable {app : App} {world world' : World} {config config' : AppConfig} {id : SecretBackendId}

/-- The backend is configured in memory and on disk. -/
def World.Knows (world : World) (id : SecretBackendId) : Prop :=
  Configures world.config.state.config id ∧ Configures world.config.file id

/-- The ports take no backend away. -/
theorem FromPorts.configures {change : ConfigChange} {connection : ConnectionId}
    (hports : FromPorts change connection) (happly : applyChange config change = .ok config')
    (h : Configures config id) : Configures config' id := by
  cases hports with
  | plain connection =>
      cases happly
      exact h
  | withLocal connection =>
      cases happly
      exact configures_sortBackends (configures_replaceBackends [localBackend] h)

theorem FromPorts.ordinary {change : ConfigChange} {connection : ConnectionId}
    (h : FromPorts change connection) : Ordinary change := by
  cases h with
  | plain connection => exact trivial
  | withLocal connection => exact trivial

theorem World.Knows.updated (h : world.Knows id) {revision : Nat} {change : ConfigChange}
    {connection : ConnectionId} (hports : FromPorts change connection)
    {answer : Except ConfigError ConfigSnapshot}
    (hupdates : world.Updates app revision change answer world') : world'.Knows id := by
  obtain ⟨fault, store, hupdate, rfl⟩ := hupdates
  have hplan : ∀ next, world.config.plan app.capabilities revision change = .ok next →
      Configures next.config id :=
    fun next hplan => hports.configures (plan_parts hplan).1 h.1
  exact update_views (P := (Configures · id)) hupdate h.1 h.2 hplan

/-! ## What a command finds -/

/-- While the application serves, memory is valid and in line with the disk. -/
def Ready (app : App) (world : World) : Prop :=
  world.serving = true → Prepared app world.config

/-- What others may do between the calls of a command. -/
def World.Lets (world world' : World) : Prop :=
  world.serving = true → world'.serving = true ∧ ∀ id, world.Knows id → world'.Knows id

instance letsPreorder : IsPreorder World World.Lets where
  refl _ := fun hserving => ⟨hserving, fun _ hknows => hknows⟩
  trans _ _ _ h h' := by
    intro hserving
    obtain ⟨hserving', hknows⟩ := h hserving
    obtain ⟨hserving'', hknows'⟩ := h' hserving'
    exact ⟨hserving'', fun id hid => hknows' id (hknows id hid)⟩

/-- A credential is written to a backend that is known. -/
def Right : ∀ β : Type, Request β → World → Prop
  | _, .update _ change, _ => ∃ id, FromPorts change id
  | _, .brokerPut _ binding _ _, world => world.serving = true →
      ∀ reference, binding.binding.secretReference = some reference →
        world.Knows reference.backendId
  | _, _, _ => True

/-- What the lookup of a command has checked. -/
theorem writable_ok {connectionId : ConnectionId} {slot : CredentialSlot}
    {found : Connection × CredentialBindingRecord}
    (h : writable app config connectionId slot = .ok found) :
    found.1 ∈ config.connections ∧ found.2 ∈ found.1.credentials ∧
      ∀ reference, found.2.binding.secretReference = some reference →
        ¬ Retiring config reference.backendId := by
  unfold writable at h
  split at h
  · cases h
  next connection hconnection =>
    split at h
    · cases h
    next binding hbinding =>
      dsimp only at h
      split at h
      · cases h
      split at h
      · cases h
      next hcopying =>
        cases h
        refine ⟨List.mem_of_find?_eq_some hconnection, List.mem_of_find?_eq_some hbinding, ?_⟩
        rintro reference hreference ⟨record, hrecord, hphase, hsource⟩
        apply hcopying
        rw [hrecord, hreference]
        simp [hphase, hsource]

theorem Ready.knows (h : Ready app world) (hserving : world.serving = true)
    {connectionId : ConnectionId} {slot : CredentialSlot}
    {found : Connection × CredentialBindingRecord}
    (hfound : writable app world.config.state.config connectionId slot = .ok found)
    {reference : SecretReference}
    (hreference : found.2.binding.secretReference = some reference) :
    world.Knows reference.backendId := by
  obtain ⟨hconnection, hbinding, hretiring⟩ := writable_ok hfound
  have hprepared := h hserving
  have hmemory : Configures world.config.state.config reference.backendId :=
    configures_of_validate hprepared.valid hconnection hbinding hreference
  exact ⟨hmemory,
    (hprepared.aligned _ hmemory).resolve_left (hretiring reference hreference)⟩

theorem Started.guarded {program : Prog Request Unit} (h : Started app program) (world : World) :
    Pool.Guarded (surroundings app) (Ready app) World.Lets Right program world := by
  cases h with
  | startUp => exact fun _ _ _ => ⟨trivial, fun _ _ _ => trivial⟩
  | putConnection expectedRevision connection =>
      intro world₁ _ _
      refine ⟨trivial, ?_⟩
      intro snapshot world₂ _
      dsimp only [Prog.bind, ExceptT.bindCont]
      cases hchange : production.change snapshot.config connection with
      | error error => exact trivial
      | ok change =>
          intro world₃ _ _
          exact ⟨⟨_, change_fromPorts hchange⟩, fun _ _ _ => trivial⟩
  | setConnectionCredential connectionId slot value overwrite =>
      intro world₁ _ hready
      refine ⟨trivial, ?_⟩
      rintro snapshot world₂ ⟨hserving, rfl, rfl⟩
      dsimp only [Prog.bind, ExceptT.bindCont]
      cases hfound : writable app world₂.config.state.config connectionId slot with
      | error error => exact trivial
      | ok found =>
          intro world₃ hlets _
          refine ⟨?_, fun _ _ _ => trivial⟩
          rintro - reference hreference
          exact (hlets hserving).2 _ (hready.knows hserving hfound hreference)

theorem Ready.of_prepared (h : Prepared app world.config) : Ready app world :=
  fun _ => h

theorem Lets.of_config (hserving : world.serving = true → world'.serving = true)
    (hconfig : world'.config = world.config) : world.Lets world' := by
  intro h
  refine ⟨hserving h, ?_⟩
  intro id hknows
  unfold World.Knows
  rw [hconfig]
  exact hknows

theorem Ready.of_config (h : Ready app world) (hserving : world'.serving = world.serving)
    (hconfig : world'.config = world.config) : Ready app world' := by
  unfold Ready
  rw [hserving, hconfig]
  exact h

/-- A credential that is stored leaves the configuration alone. -/
theorem World.Puts.frame {reference : SecretReference} {value : String} {overwrite : Bool}
    {answer : Except SecretError Unit}
    (h : world.Puts app reference value overwrite answer world') :
    world'.serving = world.serving ∧ world'.config = world.config := by
  have hstored : (∃ stored, world.Stores app reference value overwrite stored ∧
      world' = { stored with events := .set reference value :: world.events }) →
        world'.serving = world.serving ∧ world'.config = world.config := by
    rintro ⟨stored, hstores, rfl⟩
    cases hstores with
    | target | source | elsewhere => exact ⟨rfl, rfl⟩
  cases answer with
  | ok _ => exact hstored h
  | error error =>
      rcases h with h | rfl | ⟨-, rfl⟩
      · exact hstored h
      · exact ⟨rfl, rfl⟩
      · exact ⟨rfl, rfl⟩

theorem Ready.answered {β : Type} {request : Request β} {answer : β} (h : Ready app world)
    (hright : Right β request world)
    (hanswers : requestAnswers app β request world answer world') :
    world.Lets world' ∧ Ready app world' := by
  cases request with
  | startUp =>
      obtain ⟨hidle, store, result, migrated, hopened, hrun, -, rfl⟩ := hanswers
      refine ⟨?_, ?_⟩
      · intro hserving
        rw [hidle] at hserving
        cases hserving
      · exact Ready.of_prepared ((Sound.self hidle).migrated hopened hrun).1.prepared
  | snapshot =>
      obtain ⟨-, -, rfl⟩ := hanswers
      exact ⟨refl_of World.Lets _, h⟩
  | update expectedRevision change =>
      obtain ⟨hserving, updated, hupdates, rfl⟩ := hanswers
      obtain ⟨connection, hports⟩ := hright
      have hknows : ∀ id, world.Knows id → updated.Knows id :=
        fun id hid => hid.updated hports hupdates
      obtain ⟨fault, store, hupdate, rfl⟩ := hupdates
      refine ⟨fun _ => ⟨hserving, hknows⟩, ?_⟩
      exact Ready.of_prepared ((h hserving).updated hports.ordinary hupdate)
  | brokerPut connection binding value overwrite =>
      obtain ⟨-, hputs⟩ := hanswers
      have hsame : world'.serving = world.serving ∧ world'.config = world.config := by
        split at hputs
        · obtain ⟨-, rfl⟩ := hputs
          exact ⟨rfl, rfl⟩
        · exact hputs.frame
      obtain ⟨hserving, hconfig⟩ := hsame
      exact ⟨Lets.of_config (fun hs => hserving.trans hs) hconfig, h.of_config hserving hconfig⟩

theorem Ready.interrupted {β : Type} {request : Request β} (h : Ready app world)
    (hright : Right β request world)
    (hinterrupts : requestInterrupts app β request world world') :
    world.Lets world' ∧ Ready app world' := by
  cases request with
  | startUp =>
      obtain ⟨hidle, hbreaks⟩ := hinterrupts
      refine ⟨?_, ?_⟩
      · intro hserving
        rw [hidle] at hserving
        cases hserving
      · rcases hbreaks with rfl | ⟨store, result, hopened, hrun⟩
        · exact h
        · exact Ready.of_prepared ((Sound.self hidle).migrated hopened hrun).1.prepared
  | snapshot =>
      obtain ⟨answer, hanswers⟩ := hinterrupts
      exact h.answered hright hanswers
  | update expectedRevision change =>
      obtain ⟨answer, hanswers⟩ := hinterrupts
      exact h.answered hright hanswers
  | brokerPut connection binding value overwrite =>
      obtain ⟨answer, hanswers⟩ := hinterrupts
      exact h.answered hright hanswers

/-! ## Every run -/

/-- When a credential is about to be stored, whatever has become of the configuration since its
binding was looked up, and whichever writes of it have failed: the backend that its reference
names is configured in memory and on disk. -/
theorem written_where_known {start : World} {pool : Pool Request World}
    (hidle : start.serving = false)
    (h : Pool.Reaches (surroundings app) ⟨start, []⟩ pool) {i : Nat} {connection : Connection}
    {binding : CredentialBindingRecord} {value : String} {overwrite : Bool}
    {next : Except SecretError Unit → Prog Request Unit}
    (htask : pool.tasks[i]? = some (.call (.brokerPut connection binding value overwrite) next))
    (hserving : pool.world.serving = true) {reference : SecretReference}
    (hreference : binding.binding.secretReference = some reference) :
    pool.world.Knows reference.backendId := by
  have hready : Ready app start := by
    intro h
    rw [hidle] at h
    cases h
  have hanswers : ∀ (β : Type) (request : Request β) (world : World) (answer : β)
      (world' : World), Ready app world → Right β request world →
      (surroundings app).answers β request world answer world' →
        world.Lets world' ∧ Ready app world' :=
    fun _ _ _ _ _ hready hright hanswers => hready.answered hright hanswers
  have hinterrupts : ∀ (β : Type) (request : Request β) (world world' : World), Ready app world →
      Right β request world → (surroundings app).interrupts β request world world' →
        world.Lets world' ∧ Ready app world' :=
    fun _ _ _ _ hready hright hinterrupts => hready.interrupted hright hinterrupts
  have hfails : ∀ world world', Ready app world → (surroundings app).fails world world' →
      Ready app world' := by
    rintro world _ - rfl hserving
    cases hserving
  obtain ⟨hready', htasks⟩ := h.guarded hanswers hinterrupts hfails
    (fun program world hstarted => Started.guarded hstarted world) hready
    (fun _ hmem => absurd hmem List.not_mem_nil)
  obtain ⟨hright, -⟩ := htasks _ (List.mem_of_getElem? htask) _ (refl_of World.Lets _) hready'
  exact hright hserving reference hreference

/-- A command that has looked its binding up goes on to store the credential. -/
theorem writing_reached {start : World} {tasks : List (Prog Request Unit)}
    (h : Pool.Reaches (surroundings app) ⟨start, []⟩ ⟨world, tasks⟩)
    (hserving : world.serving = true) {connectionId : ConnectionId} {slot : CredentialSlot}
    {connection : Connection} {binding : CredentialBindingRecord}
    (hfound : writable app world.config.state.config connectionId slot =
      .ok (connection, binding)) (value : String) (overwrite : Bool) :
    ∃ next, Pool.Reaches (surroundings app) ⟨start, []⟩
      ⟨world, tasks ++ [.call (.brokerPut connection binding value overwrite) next]⟩ := by
  let program := (setConnectionCredential app connectionId slot value overwrite).run.bind
    fun _ => .done ()
  have hstarted : Started app program :=
    Started.setConnectionCredential connectionId slot value overwrite
  have hstart : Pool.Step (surroundings app) ⟨world, tasks⟩ ⟨world, tasks ++ [program]⟩ :=
    Pool.Step.start program hstarted
  have hanswers : requestAnswers app _ .snapshot world world.config.state world :=
    ⟨hserving, rfl, rfl⟩
  have hsnapshot : Pool.Step (surroundings app) ⟨world, tasks ++ [program]⟩
      ⟨world, (tasks ++ [program]).set tasks.length _⟩ :=
    Pool.Step.answer tasks.length List.getElem?_concat_length hanswers
  rw [List.set_append_right _ _ (Nat.le_refl _), Nat.sub_self] at hsnapshot
  dsimp only [Prog.bind, ExceptT.bindCont] at hsnapshot
  rw [hfound] at hsnapshot
  exact ⟨_, (h.tail hstart).tail hsnapshot⟩

set_option maxRecDepth 100000 in
/-- After the migration the credential of the connection is stored in the keychain. -/
theorem written_where_known_sample : startedWorld.Knows localBackend.id := by
  have hfound : writable sampleApp startedWorld.config.state.config
      (firstConnection sampleApp.legacy).id fireworksSlot =
        .ok (firstConnection localBackend,
          ⟨fireworksSlot, .secret ⟨localBackend.id, sampleLocator⟩⟩) := by
    decide +kernel
  obtain ⟨next, hreached⟩ := writing_reached startedWorld_reached rfl hfound "new" true
  exact written_where_known (i := 1) rfl hreached rfl rfl rfl

end YakShed.Migration
