/-
# What the local secret file holds

What an operation returns tells what the file holds after it: the map it held
before, or that map with the operation's change. Everything but three calls leaves
the file alone, so a proof about an operation is one about its commit, its
overwriting and its removal.

A purge overwrites the file before it removes it, and a removal that fails then
leaves a file that cannot be read, although the error says nothing was changed. The
results are about runs in which that does not happen.
-/

import YakShed.Secrets.LocalFile

namespace YakShed.Secrets.LocalFile

open Faults

/-! ## The calls -/

/-- Where a removal fails, no byte of the file has been overwritten. -/
def RemovesCleanly (β : Type) (request : Call β) (world : World) : β → Prop :=
  match request with
  | .removeFile => fun answer =>
      ∀ kind, answer = .error kind → kind ≠ .notFound → world.overwritten = false
  | _ => fun _ => True

/-- The answers of a world in which no removal fails after an overwriting. -/
def cleanAnswers : Answers Call World := fun β request world answer world' =>
  answers β request world answer world' ∧ RemovesCleanly β request world answer

/-- The file and whether it has been overwritten. -/
def World.disk (world : World) : Option Bytes × Bool := (world.file, world.overwritten)

def Call.touchesFile {β : Type} : Call β → Bool
  | .commit _ | .writeZeros _ _ | .removeFile => true
  | _ => false

variable {world world' : World} {β : Type}

theorem disk_of_answered {request : Call β} {answer : β} (h : request.touchesFile = false)
    (answered : cleanAnswers β request world answer world') : world'.disk = world.disk := by
  obtain ⟨answered, _⟩ := answered
  cases request with
  | commit bytes => cases h
  | writeZeros offset count => cases h
  | removeFile => cases h
  | cached => exact congrArg World.disk answered.2
  | cache path =>
      rw [show world' = { world with cached := some path } from answered]
      rfl
  | abandoned =>
      rw [answered.2]
      rfl
  | fileExists => exact congrArg World.disk answered.2
  | inspectFile => exact congrArg World.disk answered.2.2
  | readToEnd => exact congrArg World.disk answered.2
  | _ => exact congrArg World.disk answered

variable {α ε : Type}

theorem keeps_ask {request : Call α} (h : request.touchesFile = false) :
    Keeps cleanAnswers World.disk (Fallible.ask request : Fallible Call ε α).run :=
  Within.askE fun _ _ _ answered => disk_of_answered h answered

theorem keeps_attempt {request : Call (Except ε α)} (h : request.touchesFile = false) :
    Keeps cleanAnswers World.disk (Fallible.attempt request).run :=
  Within.attemptE fun _ _ _ answered => disk_of_answered h answered

theorem keeps_throwIf (problem : Bool) (error : ε) :
    Keeps cleanAnswers World.disk (Fallible.throwIf problem error : Fallible Call ε Unit).run :=
  Within.throwIfE problem error

/-! ## Directories and checks -/

theorem keeps_collectMissing (paths missing : List Path) :
    Keeps cleanAnswers World.disk (collectMissing paths missing).run := by
  induction paths generalizing missing with
  | nil => exact Within.throwE _
  | cons current rest ih =>
      apply Within.bindE (keeps_ask rfl)
      intro present
      cases present with
      | true => exact Within.pureE _
      | false => exact ih _

theorem keeps_createMissing (missing : List Path) :
    Keeps cleanAnswers World.disk (createMissing missing).run := by
  induction missing with
  | nil => exact Within.pureE _
  | cons directory rest ih =>
      apply Within.bindE (keeps_ask rfl)
      intro created
      cases created with
      | ok _ => exact Within.bindE (keeps_attempt rfl) fun _ => ih
      | error kind =>
          cases kind with
          | alreadyExists => exact ih
          | _ => exact Within.throwE _

theorem keeps_canonicalStorePath (path : Path) :
    Keeps cleanAnswers World.disk (canonicalStorePath path).run := by
  have hancestors : Keeps cleanAnswers World.disk (createPrivateAncestors path).run := by
    unfold createPrivateAncestors
    split
    · exact Within.throwE _
    · exact Within.bindE (keeps_collectMissing _ _) fun missing => keeps_createMissing _
  apply Within.bindE hancestors
  intro _
  split
  · exact Within.throwE _
  · exact Within.bindE (keeps_attempt rfl) fun parent => Within.pureE _

namespace LocalFileState

variable (state : LocalFileState)

theorem keeps_validateNoExtendedAcl (path : Path) (rejectDefaultAcl : Bool) (component : String) :
    Keeps cleanAnswers World.disk
      (state.validateNoExtendedAcl path rejectDefaultAcl component).run := by
  apply Within.bindE (keeps_attempt rfl).mapErrorE
  intro problem
  cases problem with
  | none => exact Within.pureE _
  | some check => exact Within.throwE _

theorem keeps_inspectDirectory (component message : String) (path : Path) :
    Keeps cleanAnswers World.disk (state.inspectDirectory component message path).run :=
  (keeps_attempt rfl).mapErrorE

theorem keeps_validateAncestors (ancestors : List Path) :
    Keeps cleanAnswers World.disk (state.validateAncestors ancestors).run := by
  induction ancestors with
  | nil => exact Within.pureE _
  | cons ancestor rest ih =>
      apply Within.bindE (state.keeps_inspectDirectory _ _ _)
      intro metadata
      apply Within.bindE (Within.throwIfE _ _)
      intro _
      apply Within.bindE (state.keeps_validateNoExtendedAcl _ _ _)
      intro _
      apply Within.bindE (Within.throwIfE _ _)
      intro _
      exact Within.bindE (Within.throwIfE _ _) fun _ => ih

theorem keeps_validateParent (path : Path) :
    Keeps cleanAnswers World.disk (state.validateParent path).run := by
  unfold validateParent
  split
  · exact Within.throwE _
  · apply Within.bindE (state.keeps_inspectDirectory _ _ _)
    intro metadata
    apply Within.bindE (Within.throwIfE _ _)
    intro _
    apply Within.bindE (state.keeps_validateNoExtendedAcl _ _ _)
    intro _
    apply Within.bindE (Within.throwIfE _ _)
    intro _
    exact Within.bindE (Within.throwIfE _ _) fun _ => state.keeps_validateAncestors _

theorem keeps_initialized : Keeps cleanAnswers World.disk state.initialized.run := by
  apply Within.bindE (keeps_ask rfl)
  intro cached
  cases cached with
  | some path => exact Within.pureE _
  | none =>
      apply Within.bindE (keeps_canonicalStorePath _).mapErrorE
      intro path
      apply Within.bindE (state.keeps_validateParent path)
      intro _
      exact Within.bindE (keeps_ask rfl) fun _ => Within.pureE _

/-! ## Locks -/

theorem keeps_throwIfAbandoned (error : SecretError) :
    Keeps cleanAnswers World.disk (throwIfAbandoned error).run :=
  Within.bindE (keeps_ask rfl) fun _ => Within.throwIfE _ _

theorem upholds_throwIfAbandoned (error : SecretError) :
    Upholds cleanAnswers (fun _ => True)
      (fun result world' => world'.disk = world.disk ∧ ∀ thrown, result = .error thrown →
        thrown = error) (throwIfAbandoned error).run world := by
  apply Upholds.bindE
  apply Upholds.askE trivial
  intro given world' answered
  have hdisk : world'.disk = world.disk := disk_of_answered rfl answered
  refine ⟨trivial, ?_⟩
  cases given with
  | true =>
      apply Upholds.throwE trivial
      refine ⟨hdisk, ?_⟩
      intro thrown h
      cases h
      rfl
  | false =>
      apply Upholds.pureE trivial
      refine ⟨hdisk, ?_⟩
      intro thrown h
      cases h

theorem keeps_waitForProcessLock (taken : Nat) :
    Keeps cleanAnswers World.disk (state.waitForProcessLock taken).run := by
  induction taken with
  | zero => exact Within.pureE _
  | succ taken ih => exact Within.bindE (keeps_throwIfAbandoned _) fun _ => ih

theorem keeps_waitForFileLock (errors : List IoErrorKind) :
    Keeps cleanAnswers World.disk (state.waitForFileLock errors).run := by
  induction errors with
  | nil => exact keeps_throwIfAbandoned _
  | cons kind rest ih =>
      apply Within.bindE (keeps_throwIfAbandoned _)
      intro _
      split
      · exact ih
      · exact Within.throwE _

theorem keeps_lock : Keeps cleanAnswers World.disk state.lock.run := by
  apply Within.bindE state.keeps_initialized
  intro path
  apply Within.bindE (keeps_ask rfl)
  intro taken
  apply Within.bindE (state.keeps_waitForProcessLock taken)
  intro _
  apply Within.bindE (state.keeps_validateParent path)
  intro _
  have hexclusive : Keeps cleanAnswers World.disk (state.lockExclusive (lockPath path)).run := by
    apply Within.bindE (keeps_attempt rfl).mapErrorE
    intro _
    exact Within.bindE (keeps_ask rfl) fun errors => state.keeps_waitForFileLock errors
  apply Within.bindE hexclusive
  intro _
  exact Within.bindE (state.keeps_validateParent path) fun _ => Within.pureE _

/-! ## Reading -/

theorem keeps_validateFile (metadata : Metadata) :
    Keeps cleanAnswers World.disk (state.validateFile metadata).run :=
  Within.bindE (Within.throwIfE _ _) fun _ => Within.throwIfE _ _

theorem keeps_openValidatedStoreIfPresent (path : Path) :
    Keeps cleanAnswers World.disk (state.openValidatedStoreIfPresent path).run := by
  apply Within.bindE (keeps_ask rfl)
  intro inspected
  cases inspected with
  | error kind =>
      cases kind with
      | notFound => exact Within.pureE _
      | _ => exact Within.throwE _
  | ok metadata =>
      apply Within.bindE (Within.throwIfE _ _)
      intro _
      apply Within.bindE (state.keeps_validateNoExtendedAcl _ _ _)
      intro _
      apply Within.bindE (state.keeps_validateFile _)
      intro _
      apply Within.bindE (keeps_attempt rfl).mapErrorE
      intro _
      apply Within.bindE (keeps_attempt rfl).mapErrorE
      intro opened
      apply Within.bindE (Within.throwIfE _ _)
      intro _
      apply Within.bindE (state.keeps_validateFile _)
      intro _
      exact Within.bindE (Within.throwIfE _ _) fun _ => Within.pureE _

theorem keeps_validateStoreIfPresent (path : Path) :
    Keeps cleanAnswers World.disk (state.validateStoreIfPresent path).run :=
  Within.bindE (state.keeps_openValidatedStoreIfPresent path) fun _ => Within.pureE _

theorem keeps_load (path : Path) : Keeps cleanAnswers World.disk (state.load path).run := by
  apply Within.bindE (state.keeps_openValidatedStoreIfPresent path)
  intro present
  apply Within.bindE (Within.throwIfE _ _)
  intro _
  apply Within.bindE (keeps_attempt rfl).mapErrorE
  intro bytes
  split
  · exact Within.pureE _
  · exact Within.throwE _

/-! ## What the file holds -/

/-- The map that a file of this backend holds, if it can be read. No file holds the
empty map. -/
def persisted (file : Option Bytes) : Option (String → Option String) :=
  match file with
  | none => some fun _ => none
  | some bytes => (parseStore state.format state.id bytes).toOption.map fun store =>
      store.secrets.find

/-- The file holds a map, and nothing of it has been overwritten. -/
structure Holds (world : World) (map : String → Option String) : Prop where
  persisted : state.persisted world.file = some map
  intact : world.overwritten = false

/-- What an operation that was to turn one map into another has left behind. -/
def Left (before after : String → Option String) (result : Except SecretError α)
    (world : World) : Prop :=
  match result with
  | .ok _ => state.Holds world after
  | .error error => state.Holds world before ∨ (error = .uncertainWrite state.id ∧
      state.Holds world after)

variable {state} {before after map : String → Option String}

theorem Holds.of_disk (h : state.Holds world map) (hdisk : world'.disk = world.disk) :
    state.Holds world' map := by
  have hfile : world'.file = world.file := congrArg Prod.fst hdisk
  have hintact : world'.overwritten = world.overwritten := congrArg Prod.snd hdisk
  exact ⟨hfile ▸ h.persisted, hintact.trans h.intact⟩

/-- A missing file holds nothing. -/
theorem Holds.eq_empty (h : state.Holds world map) (hfile : world.file = none) :
    map = fun _ => none := by
  have hpersisted := h.persisted
  rw [hfile] at hpersisted
  exact (Option.some.inj hpersisted).symm

theorem holds_of_none (hfile : world.file = none) (hintact : world.overwritten = false) :
    state.Holds world fun _ => none := by
  refine ⟨?_, hintact⟩
  rw [hfile]
  rfl

/-- A part of an operation that leaves the file alone. -/
theorem Keeps.left {program : Action α} {rest : α → Action β}
    (h : Keeps cleanAnswers World.disk program.run) (holds : state.Holds world before)
    (hrest : ∀ value world', state.Holds world' before →
      Upholds cleanAnswers (fun _ => True) (state.Left before after) (rest value).run world') :
    Upholds cleanAnswers (fun _ => True) (state.Left before after)
      (program >>= rest).run world :=
  h.first (fun _ _ => trivial) (fun value world' hdisk => hrest value world' (holds.of_disk hdisk))
    fun _ _ hdisk => .inl (holds.of_disk hdisk)

/-- What `load` finds in a file that holds a map. -/
theorem upholds_load (path : Path) (holds : state.Holds world map) :
    Upholds cleanAnswers (fun _ => True) (fun result world' =>
      state.Holds world' map ∧ ∀ store, result = .ok store →
        world'.file ≠ none ∧ store.secrets.find = map ∧ store.formatVersion = formatVersion ∧
          store.backendId = state.id)
      (state.load path).run world := by
  have hskip : ∀ (error : SecretError) (world' : World), world'.disk = world.disk →
      state.Holds world' map ∧ ∀ store, (.error error : Except SecretError LocalFileStore) =
        .ok store → world'.file ≠ none ∧ store.secrets.find = map ∧
          store.formatVersion = formatVersion ∧ store.backendId = state.id := by
    intro error world' hdisk
    refine ⟨holds.of_disk hdisk, ?_⟩
    intro store h
    cases h
  apply (state.keeps_openValidatedStoreIfPresent path).first (fun _ _ => trivial) _ hskip
  intro present world₁ hdisk₁
  apply (keeps_throwIf _ _).first (fun _ _ => trivial) _
    fun error world' hdisk => hskip error world' (hdisk.trans hdisk₁)
  intro _ world₂ hdisk₂
  apply Upholds.bindE
  apply Upholds.mapErrorE
  apply Upholds.attemptE trivial
  rintro answer world₃ ⟨⟨hread, heq⟩, _⟩
  refine ⟨trivial, ?_⟩
  rw [heq]
  have hdisk := hdisk₂.trans hdisk₁
  cases answer with
  | error kind => exact hskip _ _ hdisk
  | ok bytes =>
      have hfile : world₂.file = some bytes := hread bytes rfl
      have hpersisted := (holds.of_disk hdisk).persisted
      rw [hfile] at hpersisted
      dsimp only [Except.mapError]
      cases hparse : parseStore state.format state.id bytes with
      | error error => exact Upholds.throwE trivial (hskip _ _ hdisk)
      | ok store =>
          apply Upholds.pureE trivial
          refine ⟨holds.of_disk hdisk, ?_⟩
          intro store' hstore
          cases hstore
          change (parseStore state.format state.id bytes).toOption.map
            (fun store => store.secrets.find) = some map at hpersisted
          rw [hparse] at hpersisted
          refine ⟨by rw [hfile]; exact Option.some_ne_none bytes, Option.some.inj hpersisted, ?_⟩
          unfold parseStore at hparse
          split at hparse
          · cases hparse
          · split at hparse
            · cases hparse
            · next hversion =>
              split at hparse
              · cases hparse
              · next hbackend =>
                cases hparse
                exact ⟨not_not.mp hversion, not_not.mp hbackend⟩

/-! ## Writing -/

/-- A store that is in the file is what the file holds. -/
theorem holds_of_written (lawful : state.format.Lawful) {store : LocalFileStore} {json : Bytes}
    (hversion : store.formatVersion = formatVersion) (hbackend : store.backendId = state.id)
    (hjson : state.format.toJson store = .ok json) (hfile : world.file = some (json ++ [10]))
    (hintact : world.overwritten = false) : state.Holds world store.secrets.find := by
  obtain ⟨read, hread, hversion', hbackend', hfind⟩ := lawful store json hjson
  refine ⟨?_, hintact⟩
  rw [hfile]
  unfold persisted parseStore
  dsimp only
  rw [hread]
  dsimp only
  rw [if_neg (not_not.mpr (hversion'.trans hversion)),
    if_neg (not_not.mpr (hbackend'.trans hbackend))]
  exact congrArg some (funext hfind)

theorem upholds_save (lawful : state.format.Lawful) (path : Path) (store : LocalFileStore)
    (hversion : store.formatVersion = formatVersion) (hbackend : store.backendId = state.id)
    (holds : state.Holds world before) :
    Upholds cleanAnswers (fun _ => True) (state.Left before store.secrets.find)
      (state.save path store).run world := by
  have hwritten : ∀ {world' : World}, state.Holds world' store.secrets.find →
      Upholds cleanAnswers (fun _ => True) (state.Left before store.secrets.find)
        ((state.validateStoreIfPresent path).mapError
          fun _ => .uncertainWrite state.id).run world' := by
    intro world' holds'
    apply Upholds.mapErrorE
    apply ((state.keeps_validateStoreIfPresent path) world').mono (fun _ _ => trivial)
    intro result world'' _ hdisk
    cases result with
    | ok _ => exact holds'.of_disk hdisk
    | error error => exact .inr ⟨rfl, holds'.of_disk hdisk⟩
  -- up to the commit nothing has changed, and after it every error is an uncertain write
  apply Upholds.bindE
  apply Upholds.mapErrorE
  unfold writeStoreWithHooks
  apply (keeps_attempt rfl).mapErrorE.first (fun _ _ => trivial) _
    fun _ _ hdisk => .inl (holds.of_disk hdisk)
  intro _ world₁ hdisk₁
  have holds₁ := holds.of_disk hdisk₁
  cases hjson : state.format.toJson store with
  | error message => exact Upholds.throwE trivial (.inl holds₁)
  | ok json =>
      apply (keeps_attempt rfl).mapErrorE.first (fun _ _ => trivial) _
        fun _ _ hdisk => .inl (holds₁.of_disk hdisk)
      intro _ world₂ hdisk₂
      have holds₂ := holds₁.of_disk hdisk₂
      apply (keeps_attempt rfl).mapErrorE.first (fun _ _ => trivial) _
        fun _ _ hdisk => .inl (holds₂.of_disk hdisk)
      intro _ world₃ hdisk₃
      have holds₃ := holds₂.of_disk hdisk₃
      apply Upholds.bindE
      apply Upholds.mapErrorE
      apply Upholds.attemptE trivial
      rintro committed world₄ ⟨hcommit, _⟩
      refine ⟨trivial, ?_⟩
      rcases hcommit with rfl | ⟨hfailed, rfl⟩
      · have holds₄ : state.Holds (world₃.replace (some (json ++ [10]))) store.secrets.find :=
          holds_of_written lawful hversion hbackend hjson rfl rfl
        cases committed with
        | error kind => exact .inr ⟨rfl, holds₄⟩
        | ok _ =>
            apply Upholds.mapErrorE
            apply Upholds.attemptE trivial
            rintro synced world₅ ⟨rfl, _⟩
            cases synced with
            | error kind => exact ⟨trivial, .inr ⟨rfl, holds₄⟩⟩
            | ok _ => exact ⟨trivial, hwritten holds₄⟩
      · cases committed with
        | ok _ => exact absurd rfl hfailed
        | error kind => exact .inl holds₃

/-- A claim leaves the map as it is: a store that it creates is empty. -/
theorem upholds_claimOrValidate (lawful : state.format.Lawful) (path : Path)
    (holds : state.Holds world map) :
    Upholds cleanAnswers (fun _ => True) (fun _ world' => state.Holds world' map)
      (state.claimOrValidate path).run world := by
  apply Upholds.bindE
  apply Upholds.askE trivial
  rintro inspected world₁ ⟨⟨hmissing, _, rfl⟩, _⟩
  refine ⟨trivial, ?_⟩
  cases inspected with
  | ok metadata =>
      apply Upholds.bindE
      apply (upholds_load path holds).mono (fun _ _ => trivial)
      intro result world₂ _ hloaded
      cases result with
      | ok store => exact Upholds.pureE trivial hloaded.1
      | error error => exact hloaded.1
  | error kind =>
      cases kind with
      | notFound =>
          have hempty : map = (∅ : Dict String String).find := by
            rw [holds.eq_empty (hmissing rfl)]
            exact funext fun locator => (Dict.find_empty).symm
          have hsave := upholds_save lawful path ⟨formatVersion, state.id, ∅⟩ rfl rfl holds
          apply hsave.mono (fun _ _ => trivial)
          intro result world₂ _ hleft
          cases result with
          | ok _ =>
              rw [hempty]
              exact hleft
          | error error =>
              rcases hleft with hbefore | ⟨_, hafter⟩
              · exact hbefore
              · rw [hempty]
                exact hafter
      | _ => exact Upholds.throwE trivial holds

/-- What an operation does under the locks it does from the map that the file holds. -/
theorem upholds_withStoreLock (lawful : state.format.Lawful) {action : Path → Action α}
    (holds : state.Holds world before)
    (haction : ∀ path world', state.Holds world' before →
      Upholds cleanAnswers (fun _ => True) (state.Left before after) (action path).run world') :
    Upholds cleanAnswers (fun _ => True) (state.Left before after)
      (state.withStoreLock action).run world := by
  apply Keeps.left state.keeps_lock holds
  intro path world₁ holds₁
  apply Keeps.left (state.keeps_validateStoreIfPresent path) holds₁
  intro _ world₂ holds₂
  apply Keeps.left (keeps_throwIfAbandoned _) holds₂
  intro _ world₃ holds₃
  apply Upholds.bindE
  apply (upholds_claimOrValidate lawful path holds₃).mono (fun _ _ => trivial)
  intro claimed world₄ _ holds₄
  cases claimed with
  | error error => exact .inl holds₄
  | ok _ =>
      apply Keeps.left (state.keeps_validateStoreIfPresent path) holds₄
      exact fun _ world₅ holds₅ => haction path world₅ holds₅

/-! ## The operations -/

/-- An operation that loads the store first. -/
theorem upholds_of_load {path : Path} {rest : LocalFileStore → Action α}
    (holds : state.Holds world before)
    (hrest : ∀ store world', state.Holds world' before → store.secrets.find = before →
      store.formatVersion = formatVersion → store.backendId = state.id →
        Upholds cleanAnswers (fun _ => True) (state.Left before after) (rest store).run world') :
    Upholds cleanAnswers (fun _ => True) (state.Left before after)
      (state.load path >>= rest).run world := by
  apply Upholds.bindE
  apply (upholds_load path holds).mono (fun _ _ => trivial)
  intro result world' _ hloaded
  cases result with
  | error error => exact .inl hloaded.1
  | ok store =>
      obtain ⟨_, hfind, hversion, hbackend⟩ := hloaded.2 store rfl
      exact hrest store world' hloaded.1 hfind hversion hbackend

/-- The end of an operation that has left something behind. -/
theorem upholds_of_save (lawful : state.format.Lawful) {path : Path} {store : LocalFileStore}
    {value : α} (hversion : store.formatVersion = formatVersion)
    (hbackend : store.backendId = state.id) (hafter : store.secrets.find = after)
    (holds : state.Holds world before) :
    Upholds cleanAnswers (fun _ => True) (state.Left before after)
      (do state.save path store; pure value : Action α).run world := by
  apply Upholds.bindE
  apply (upholds_save lawful path store hversion hbackend holds).mono (fun _ _ => trivial)
  intro result world' _ hleft
  rw [hafter] at hleft
  cases result with
  | ok _ => exact Upholds.pureE trivial hleft
  | error error => exact hleft

theorem upholds_put (lawful : state.format.Lawful) (locator : SecretLocator) (value : String)
    (overwrite : Bool) (path : Path) (holds : state.Holds world before) :
    Upholds cleanAnswers (fun _ => True)
      (state.Left before (Function.update before locator.value (some value)))
      (state.put locator value overwrite path).run world := by
  apply upholds_of_load holds
  intro store world₁ holds₁ hfind hversion hbackend
  apply Keeps.left (Within.throwIfE _ _) holds₁
  intro _ world₂ holds₂
  apply Keeps.left (keeps_throwIfAbandoned _) holds₂
  intro _ world₃ holds₃
  apply upholds_of_save lawful _ _ _ holds₃
  · exact hversion
  · exact hbackend
  · funext key
    show (store.secrets.set locator.value value).find key = _
    rw [Dict.find_set, hfind, Function.update_apply]

theorem upholds_delete (lawful : state.format.Lawful) (locator : SecretLocator) (path : Path)
    (holds : state.Holds world before) :
    Upholds cleanAnswers (fun _ => True)
      (state.Left before (Function.update before locator.value none))
      (state.delete locator path).run world := by
  apply upholds_of_load holds
  intro store world₁ holds₁ hfind hversion hbackend
  split
  · next hnone =>
    apply Upholds.pureE trivial
    have hsame : Function.update before locator.value none = before := by
      rw [Function.update_eq_self_iff, ← hfind]
      exact (Option.isNone_iff_eq_none.mp hnone).symm
    rw [hsame]
    exact holds₁
  · apply Keeps.left (keeps_throwIfAbandoned _) holds₁
    intro _ world₂ holds₂
    apply upholds_of_save lawful _ _ _ holds₂
    · exact hversion
    · exact hbackend
    · funext key
      show (store.secrets.remove locator.value).find key = _
      rw [Dict.find_remove, hfind, Function.update_apply]

/-- An operation that only reads what it has loaded. -/
theorem upholds_reading {path : Path} {rest : LocalFileStore → Action α}
    (hrest : ∀ store, Keeps cleanAnswers World.disk (rest store).run)
    (holds : state.Holds world before) :
    Upholds cleanAnswers (fun _ => True) (state.Left before before)
      (state.load path >>= rest).run world := by
  apply upholds_of_load holds
  intro store world₁ holds₁ _ _ _
  apply (hrest store world₁).mono (fun _ _ => trivial)
  intro result world₂ _ hdisk
  cases result with
  | ok value => exact holds₁.of_disk hdisk
  | error error => exact .inl (holds₁.of_disk hdisk)

theorem keeps_resolved (locator : SecretLocator) (store : LocalFileStore) :
    Keeps cleanAnswers World.disk
      (match store.secrets.find locator.value with
        | some value => pure value
        | none => throw (.notFound (state.summary locator)) : Action String).run := by
  split
  · exact Within.pureE _
  · exact Within.throwE _

theorem keeps_located (store : LocalFileStore) :
    Keeps cleanAnswers World.disk
      (match state.toLocators (store.secrets.toList.map (·.1)) with
        | .ok locators => pure (locators.mergeSort fun a b => a.value ≤ b.value)
        | .error error => throw error : Action (List SecretLocator)).run := by
  split
  · exact Within.pureE _
  · exact Within.throwE _

/-! ## Purging -/

/-- What overwriting may have done to the file: nothing, or it is there but spoilt. -/
def MayBeSpoilt (disk : Option Bytes × Bool) (world : World) : Prop :=
  world.disk = disk ∨ world.overwritten = true ∧ world.file ≠ none

theorem mayBeSpoilt_zero {disk : Option Bytes × Bool} (hfile : disk.1 ≠ none)
    (h : MayBeSpoilt disk world) (offset count : Nat) :
    MayBeSpoilt disk (world.zero offset count) := by
  have hpresent : world.file ≠ none := by
    rcases h with hdisk | ⟨_, hpresent⟩
    · rw [← hdisk] at hfile
      exact hfile
    · exact hpresent
  have hzero : (world.zero offset count).file ≠ none := by
    intro hnone
    exact hpresent (Option.map_eq_none_iff.mp hnone)
  by_cases hcount : count = 0
  · subst hcount
    rcases h with hdisk | ⟨hspoilt, _⟩
    · left
      rw [← hdisk]
      unfold World.disk World.zero
      cases world.file with
      | none => simp
      | some bytes => simp
    · refine .inr ⟨?_, hzero⟩
      show (world.overwritten || _) = true
      rw [hspoilt, Bool.true_or]
  · refine .inr ⟨?_, hzero⟩
    show (world.overwritten || count != 0) = true
    rw [Bool.or_eq_true, bne_iff_ne]
    exact .inr hcount

theorem upholds_overwrite {disk : Option Bytes × Bool} (hfile : disk.1 ≠ none) (offset : Nat)
    (counts : List Nat) (h : MayBeSpoilt disk world) :
    Upholds cleanAnswers (fun _ => True)
      (fun result world' => result = .ok () ∧ MayBeSpoilt disk world')
      (overwrite offset counts).run world := by
  induction counts generalizing offset world with
  | nil =>
      apply Upholds.bindE
      apply Upholds.askE trivial
      rintro synced world₁ ⟨rfl, _⟩
      exact ⟨trivial, Upholds.pureE trivial ⟨rfl, h⟩⟩
  | cons count rest ih =>
      apply Upholds.bindE
      apply Upholds.askE trivial
      rintro written world₁ ⟨⟨covered, _, _, rfl⟩, _⟩
      refine ⟨trivial, ?_⟩
      have hzero := mayBeSpoilt_zero hfile h offset covered
      cases written with
      | ok _ => exact ih _ hzero
      | error kind => exact Upholds.pureE trivial ⟨rfl, hzero⟩

theorem upholds_bestEffortZero {disk : Option Bytes × Bool} (hfile : disk.1 ≠ none)
    (h : MayBeSpoilt disk world) :
    Upholds cleanAnswers (fun _ => True)
      (fun result world' => result = .ok () ∧ MayBeSpoilt disk world')
      state.bestEffortZero.run world := by
  apply Upholds.bindE
  apply Upholds.askE trivial
  rintro opened world₁ ⟨rfl, _⟩
  refine ⟨trivial, ?_⟩
  cases opened with
  | error kind => exact Upholds.pureE trivial ⟨rfl, h⟩
  | ok _ =>
      apply Upholds.bindE
      apply Upholds.askE trivial
      rintro inspected world₂ ⟨rfl, _⟩
      refine ⟨trivial, ?_⟩
      cases inspected with
      | error kind => exact Upholds.pureE trivial ⟨rfl, h⟩
      | ok metadata =>
          dsimp only
          split
          · exact Upholds.pureE trivial ⟨rfl, h⟩
          · apply Upholds.bindE
            apply Upholds.askE trivial
            rintro rewound world₃ ⟨rfl, _⟩
            refine ⟨trivial, ?_⟩
            cases rewound with
            | error kind => exact Upholds.pureE trivial ⟨rfl, h⟩
            | ok _ => exact upholds_overwrite hfile 0 _ h

theorem upholds_zeroStore (path : Path) (validateContents present : Bool)
    (hfile : present = true → world.file ≠ none) :
    Upholds cleanAnswers (fun _ => True)
      (fun result world' => match result with
        | .ok _ => MayBeSpoilt world.disk world'
        | .error _ => world'.disk = world.disk)
      (state.zeroStore path validateContents present).run world := by
  have hzero : ∀ world', world'.disk = world.disk → world.file ≠ none →
      Upholds cleanAnswers (fun _ => True)
        (fun result world' => match result with
          | .ok _ => MayBeSpoilt world.disk world'
          | .error _ => world'.disk = world.disk) state.bestEffortZero.run world' := by
    intro world' hdisk hpresent
    apply (upholds_bestEffortZero hpresent (.inl hdisk)).mono (fun _ _ => trivial)
    rintro result world'' _ ⟨rfl, h⟩
    exact h
  unfold zeroStore
  cases present with
  | false => exact Upholds.pureE trivial (.inl rfl)
  | true =>
      have hpresent := hfile rfl
      rw [if_pos rfl]
      cases validateContents with
      | false =>
          apply (state.keeps_validateStoreIfPresent path).first (fun _ _ => trivial) _
            fun _ _ hdisk => hdisk
          exact fun _ world' hdisk => hzero world' hdisk hpresent
      | true =>
          have hload : Keeps cleanAnswers World.disk (discard (state.load path)).run := by
            apply Within.bindE (state.keeps_load path)
            exact fun _ => Within.pureE _
          apply hload.first (fun _ _ => trivial) _ fun _ _ hdisk => hdisk
          exact fun _ world' hdisk => hzero world' hdisk hpresent

/-- A removal takes the file away, spoilt or not. Where it fails nothing was spoilt. -/
theorem upholds_removeStore (holds : state.Holds world before)
    (h : MayBeSpoilt world.disk world') :
    Upholds cleanAnswers (fun _ => True)
      (fun result world'' => match result with
        | .ok removed => state.Holds world'' (fun _ => none) ∧
            (removed = false → state.Holds world'' before)
        | .error _ => state.Holds world'' before)
      state.removeStore.run world' := by
  apply Upholds.bindE
  apply Upholds.askE trivial
  rintro removed world'' ⟨hremoved, hclean⟩
  refine ⟨trivial, ?_⟩
  cases removed with
  | ok _ =>
      obtain ⟨_, rfl⟩ := hremoved
      apply Upholds.pureE trivial
      refine ⟨holds_of_none rfl rfl, ?_⟩
      intro hfalse
      cases hfalse
  | error kind =>
      have hintact : kind ≠ .notFound → state.Holds world' before := by
        intro hkind
        rcases h with hdisk | ⟨hspoilt, _⟩
        · exact holds.of_disk hdisk
        · exact absurd ((hclean kind rfl hkind).symm.trans hspoilt) Bool.false_ne_true
      cases kind with
      | notFound =>
          obtain ⟨hnone, rfl⟩ := hremoved
          rcases h with hdisk | ⟨_, hpresent⟩
          · have holds' := holds.of_disk hdisk
            apply Upholds.pureE trivial
            refine ⟨?_, fun _ => holds'⟩
            rw [← holds'.eq_empty hnone]
            exact holds'
          · exact absurd hnone hpresent
      | _ =>
          rw [show world'' = world' from hremoved]
          exact Upholds.throwE trivial (hintact (by decide))

theorem upholds_purge (validateContents : Bool) (holds : state.Holds world before) :
    Upholds cleanAnswers (fun _ => True) (state.Left before fun _ => none)
      (state.purge validateContents).run world := by
  apply Keeps.left state.keeps_lock holds
  intro path world₁ holds₁
  apply Keeps.left (keeps_throwIfAbandoned _) holds₁
  intro _ world₂ holds₂
  apply Upholds.bindE
  apply Upholds.askE trivial
  rintro present world₃ ⟨⟨hpresent, rfl⟩, _⟩
  refine ⟨trivial, ?_⟩
  apply Upholds.bindE
  apply (upholds_zeroStore path validateContents present hpresent).mono (fun _ _ => trivial)
  intro zeroed world₄ _ hzeroed
  cases zeroed with
  | error error => exact .inl (holds₂.of_disk hzeroed)
  | ok _ =>
      apply Upholds.bindE
      apply (upholds_removeStore holds₂ hzeroed).mono (fun _ _ => trivial)
      intro removed world₅ _ hremoved
      cases removed with
      | error error => exact .inl hremoved
      | ok removed =>
          obtain ⟨hempty, hbefore⟩ := hremoved
          -- from here on the file is gone
          apply Upholds.bindE
          apply (upholds_throwIfAbandoned (.uncertainWrite state.id)).mono (fun _ _ => trivial)
          rintro given world₆ _ ⟨hdisk, hgiven⟩
          cases given with
          | error error =>
              cases hgiven error rfl
              exact .inr ⟨rfl, hempty.of_disk hdisk⟩
          | ok _ =>
              apply Upholds.mapErrorE
              apply Upholds.attemptE trivial
              rintro synced world₇ ⟨rfl, _⟩
              refine ⟨trivial, ?_⟩
              cases synced with
              | ok _ => exact hempty.of_disk hdisk
              | error kind =>
                  cases removed with
                  | true => exact .inr ⟨rfl, hempty.of_disk hdisk⟩
                  | false => exact .inl ((hbefore rfl).of_disk hdisk)

/-! ## Every operation -/

end LocalFileState

/-- The map that an operation is to leave behind. -/
def Operation.expected (map : String → Option String) : Operation → String → Option String
  | .put locator value _ => Function.update map locator.value (some value)
  | .delete locator => Function.update map locator.value none
  | .resolve _ | .probe | .locators => map
  | .purge | .purgeAfterMigration => fun _ => none

/-- A result that is honest about a map before and after, of which one was expected. -/
inductive Honest (before expected after : String → Option String) :
    Except SecretError Returned → Prop
  | ok (value : Returned) (h : after = expected) : Honest before expected after (.ok value)
  | uncertain (backend : SecretBackendId) (h : after = before ∨ after = expected) :
      Honest before expected after (.error (.uncertainWrite backend))
  | failed (error : SecretError) (certain : ∀ backend, error ≠ .uncertainWrite backend)
      (h : after = before) : Honest before expected after (.error error)

namespace LocalFileState

variable {state : LocalFileState} {before after : String → Option String}

/-- A result is passed on under another name. -/
theorem upholds_returned {program : Action α} {f : α → Returned}
    (h : Upholds cleanAnswers (fun _ => True) (state.Left before after) program.run world) :
    Upholds cleanAnswers (fun _ => True) (state.Left before after)
      (do let value ← program; pure (f value) : Action Returned).run world := by
  apply Upholds.bindE
  apply h.mono (fun _ _ => trivial)
  intro result world' _ hleft
  cases result with
  | ok value => exact Upholds.pureE trivial hleft
  | error error => exact hleft

theorem upholds_work (lawful : state.format.Lawful) (operation : Operation)
    (holds : state.Holds world before) :
    Upholds cleanAnswers (fun _ => True) (state.Left before (operation.expected before))
      (state.work operation).run world := by
  cases operation with
  | put locator value overwrite =>
      apply upholds_returned
      apply upholds_withStoreLock lawful holds
      exact fun path world' => upholds_put lawful locator value overwrite path
  | delete locator =>
      apply upholds_returned
      apply upholds_withStoreLock lawful holds
      exact fun path world' => upholds_delete lawful locator path
  | resolve locator =>
      apply upholds_returned
      apply upholds_withStoreLock lawful holds
      exact fun path world' => upholds_reading (keeps_resolved locator)
  | probe =>
      apply upholds_returned
      apply upholds_withStoreLock lawful holds
      exact fun path world' => upholds_reading fun store => Within.pureE _
  | locators =>
      apply upholds_returned
      apply upholds_withStoreLock lawful holds
      exact fun path world' => upholds_reading keeps_located
  | purge => exact upholds_returned (upholds_purge true holds)
  | purgeAfterMigration => exact upholds_returned (upholds_purge false holds)

theorem upholds_runAbandonable (lawful : state.format.Lawful) (operation : Operation)
    (holds : state.Holds world before) :
    Upholds cleanAnswers (fun _ => True) (state.Left before (operation.expected before))
      (state.runAbandonable operation).run world := by
  apply Keeps.left (keeps_ask rfl) holds
  intro spawned world₁ holds₁
  apply Keeps.left (Within.throwIfE _ _) holds₁
  intro _ world₂ holds₂
  apply Keeps.left (keeps_throwIfAbandoned _) holds₂
  exact fun _ world₃ holds₃ => upholds_work lawful operation holds₃

/-- One call of the backend, with a flag of its own. -/
def Calls (state : LocalFileState) (answers : Answers Call World) (world : World)
    (operation : Operation) (result : Except SecretError Returned) (world' : World) : Prop :=
  Runs answers (state.runAbandonable operation).run { world with abandoned := false }
    (some result) world'

theorem Calls.left {operation : Operation} {result : Except SecretError Returned}
    (lawful : state.format.Lawful) (holds : state.Holds world before)
    (call : state.Calls cleanAnswers world operation result world') :
    state.Left before (operation.expected before) result world' := by
  have holds' : state.Holds { world with abandoned := false } before := holds.of_disk rfl
  exact ((upholds_runAbandonable lawful operation holds').runs call).2 result rfl

/-- The worlds that a sequence of calls reaches. -/
inductive Reached (state : LocalFileState) (answers : Answers Call World) (start : World) :
    World → Prop
  | start : Reached state answers start start
  | call {world world' : World} (operation : Operation) (result : Except SecretError Returned)
      (before : Reached state answers start world)
      (call : state.Calls answers world operation result world') :
      Reached state answers start world'

/-- A call after which the file can be read. -/
theorem Calls.readable {operation : Operation} {result : Except SecretError Returned}
    (lawful : state.format.Lawful) (holds : state.Holds world before)
    (call : state.Calls cleanAnswers world operation result world') :
    ∃ map, state.Holds world' map ∧ Honest before (operation.expected before) map result := by
  have hleft := call.left lawful holds
  cases result with
  | ok value => exact ⟨_, hleft, .ok value rfl⟩
  | error error =>
      rcases hleft with hbefore | ⟨rfl, hafter⟩
      · refine ⟨before, hbefore, ?_⟩
        by_cases huncertain : ∃ backend, error = .uncertainWrite backend
        · obtain ⟨backend, rfl⟩ := huncertain
          exact .uncertain backend (.inl rfl)
        · exact .failed error (fun backend h => huncertain ⟨backend, h⟩) rfl
      · exact ⟨_, hafter, .uncertain state.id (.inr rfl)⟩

/-- After every sequence of calls the file holds a map. -/
theorem Reached.holds {start : World} (lawful : state.format.Lawful)
    (holds : ∃ map, state.Holds start map) (reached : state.Reached cleanAnswers start world) :
    ∃ map, state.Holds world map := by
  induction reached with
  | start => exact holds
  | call operation result _ call ih =>
      obtain ⟨before, hbefore⟩ := ih
      obtain ⟨map, hmap, _⟩ := call.readable lawful hbefore
      exact ⟨map, hmap⟩

/-- In a sequence of calls in which no removal of an overwritten file fails, every
call is honest: its result says what has become of the map, and the file can still
be read. -/
theorem calls_honest {start : World} {operation : Operation}
    {result : Except SecretError Returned} (lawful : state.format.Lawful)
    (readable : (state.persisted start.file).isSome) (intact : start.overwritten = false)
    (reached : state.Reached cleanAnswers start world)
    (call : state.Calls cleanAnswers world operation result world') :
    ∃ before after, state.persisted world.file = some before ∧
      state.persisted world'.file = some after ∧
        Honest before (operation.expected before) after result := by
  obtain ⟨map, hmap⟩ := Option.isSome_iff_exists.mp readable
  obtain ⟨before, hbefore⟩ := reached.holds lawful ⟨map, hmap, intact⟩
  obtain ⟨after, hafter, honest⟩ := call.readable lawful hbefore
  exact ⟨before, after, hbefore.persisted, hafter.persisted, honest⟩

end LocalFileState

/-! ## A purge that fails -/

section Sample

/-- Every call succeeds, except for removals where they are to fail. -/
def respond (removable : Bool) (β : Type) (request : Call β) (world : World) : β × World :=
  match request with
  | .spawned => (true, world)
  | .cached => (world.cached, world)
  | .cache path => ((), { world with cached := some path })
  | .abandoned => (world.abandoned, world)
  | .contention => (0, world)
  | .flockErrors => ([], world)
  | .openLock _ => (.ok (), world)
  | .dirExists _ => (true, world)
  | .createDir _ => (.ok (), world)
  | .setPermissions _ _ => (.ok (), world)
  | .canonicalize path => (.ok path, world)
  | .inspectDir _ => (.ok { isDir := true, mode := 0o700 }, world)
  | .aclProblem _ _ => (.ok none, world)
  | .syncDirectory _ => (.ok (), world)
  | .fileExists => (world.file.isSome, world)
  | .inspectFile =>
      (match world.file with
        | some bytes => .ok { isFile := true, mode := 0o600, len := bytes.length }
        | none => .error .notFound, world)
  | .openFile => (.ok (), world)
  | .openedMetadata => (.ok { isFile := true, mode := 0o600 }, world)
  | .readToEnd =>
      (match world.file with
        | some bytes => .ok bytes
        | none => .error .other, world)
  | .openAtomic => (.ok (), world)
  | .writeAtomic _ => (.ok (), world)
  | .commit bytes => (.ok (), world.replace (some bytes))
  | .openWritable => (.ok (), world)
  | .writableMetadata =>
      (.ok { isFile := true, mode := 0o600, len := (world.file.getD []).length }, world)
  | .rewind => (.ok (), world)
  | .writeZeros offset count => (.ok (), world.zero offset count)
  | .syncWritable => (.ok (), world)
  | .removeFile =>
      match world.file with
      | none => (.error .notFound, world)
      | some _ => if removable then (.ok (), world.replace none) else (.error .other, world)

theorem respond_answers (removable : Bool) (β : Type) (request : Call β) (world : World) :
    answers β request world (respond removable β request world).1
      (respond removable β request world).2 := by
  obtain ⟨file, overwritten, abandoned, cached⟩ := world
  cases request with
  | abandoned => exact ⟨fun h => h, rfl⟩
  | cached => exact ⟨rfl, rfl⟩
  | fileExists =>
      refine ⟨?_, rfl⟩
      intro hsome hnone
      change file.isSome = true at hsome
      rw [show file = none from hnone] at hsome
      cases hsome
  | inspectFile =>
      cases file with
      | none =>
          refine ⟨fun _ => rfl, ?_, rfl⟩
          intro metadata h
          cases h
      | some bytes =>
          refine ⟨?_, fun _ _ => Option.some_ne_none bytes, rfl⟩
          intro h
          cases h
  | readToEnd =>
      cases file with
      | none =>
          refine ⟨?_, rfl⟩
          intro bytes h
          cases h
      | some bytes =>
          refine ⟨?_, rfl⟩
          intro bytes' h
          cases h
          rfl
  | commit bytes => exact .inl rfl
  | writeZeros offset count => exact ⟨count, Nat.le_refl _, fun _ => rfl, rfl⟩
  | removeFile =>
      cases file with
      | none => exact ⟨rfl, rfl⟩
      | some bytes =>
          cases removable with
          | true => exact ⟨Option.some_ne_none bytes, rfl⟩
          | false => rfl
  | _ => rfl

theorem respond_cleanAnswers (β : Type) (request : Call β) (world : World) :
    cleanAnswers β request world (respond true β request world).1
      (respond true β request world).2 := by
  refine ⟨respond_answers true β request world, ?_⟩
  obtain ⟨file, overwritten, abandoned, cached⟩ := world
  cases request with
  | removeFile =>
      cases file with
      | none =>
          intro kind h hkind
          cases h
          exact absurd rfl hkind
      | some bytes =>
          intro kind h
          cases h
  | _ => trivial

def devLocal : SecretBackendId := ⟨"dev-local", by decide +kernel⟩

def jsonBytes (text : String) : Bytes := text.toList.map fun c => c.toNat.toUInt8

def emptyJson : Bytes :=
  jsonBytes "\x7b\"format_version\":1,\"backend_id\":\"dev-local\",\"secrets\":\x7b\x7d\x7d"

def keyJson : Bytes := jsonBytes
  "\x7b\"format_version\":1,\"backend_id\":\"dev-local\",\"secrets\":\x7b\"key\":\"value\"\x7d\x7d"

/-- The texts of the empty store and of one with a single secret. -/
def sampleFormat : StoreFormat where
  toJson store :=
    if store.formatVersion = 1 ∧ store.backendId = devLocal then
      if store.secrets.toList = [] then .ok emptyJson
      else if store.secrets.toList = [("key", "value")] then .ok keyJson
      else .error "unsupported"
    else .error "unsupported"
  fromJson bytes :=
    if bytes = emptyJson ++ [10] then some ⟨1, devLocal, ∅⟩
    else if bytes = keyJson ++ [10] then some ⟨1, devLocal, Dict.set ∅ "key" "value"⟩
    else none

theorem find_eq_of_toList_eq {a b : Dict String String} (h : a.toList = b.toList) (key : String) :
    a.find key = b.find key := by
  apply Option.ext
  intro value
  rw [← Dict.mem_toList, ← Dict.mem_toList, h]

theorem sampleFormat_lawful : sampleFormat.Lawful := by
  intro store json hjson
  unfold sampleFormat at hjson ⊢
  dsimp only at hjson ⊢
  split at hjson
  · next hheader =>
    obtain ⟨hversion, hbackend⟩ := hheader
    split at hjson
    · next hempty =>
      cases hjson
      refine ⟨_, if_pos rfl, hversion.symm, hbackend.symm, ?_⟩
      exact fun key => find_eq_of_toList_eq (Eq.symm hempty) key
    · split at hjson
      · next hkey =>
        cases hjson
        have hother : keyJson ++ [10] ≠ emptyJson ++ [10] := by decide +kernel
        rw [if_neg hother]
        refine ⟨_, if_pos rfl, hversion.symm, hbackend.symm, ?_⟩
        exact fun key => find_eq_of_toList_eq (Eq.symm hkey) key
      · cases hjson
  · cases hjson

def devState : LocalFileState := ⟨devLocal, ["home", "secrets.json"], 0, sampleFormat⟩

def sampleLocator : SecretLocator := ⟨"key", by decide +kernel⟩

/-- A file that holds one secret. -/
def keyWorld : World := { file := some (keyJson ++ [10]) }

set_option maxRecDepth 100000 in
/-- A secret is stored where there was no file. -/
theorem putSecret_honest :
    ∃ before after, devState.persisted none = some before ∧
      devState.persisted (some (keyJson ++ [10])) = some after ∧
        Honest before ((Operation.put sampleLocator "value" false).expected before) after
          (.ok (.put .written)) := by
  have hcall : devState.Calls cleanAnswers {} (.put sampleLocator "value" false)
      (.ok (.put .written)) { keyWorld with cached := some ["home", "secrets.json"] } :=
    runs_replay respond_cleanAnswers
      (devState.runAbandonable (.put sampleLocator "value" false)).run {}
  exact LocalFileState.calls_honest sampleFormat_lawful rfl rfl .start hcall

set_option maxRecDepth 100000 in
/-- A purge whose removal fails says that it has changed nothing, and the file
cannot be read any more. -/
theorem failedPurge_not_honest :
    ∃ result world', devState.Calls answers keyWorld .purge result world' ∧
      (devState.persisted keyWorld.file).isSome ∧
        result = .error (.backendFailure devLocal "failed to purge local secret store") ∧
          ¬ ∃ before after, devState.persisted keyWorld.file = some before ∧
            devState.persisted world'.file = some after ∧
              Honest before (Operation.purge.expected before) after result := by
  refine ⟨_, _, runs_replay (respond_answers false) _ _, rfl, rfl, ?_⟩
  rintro ⟨before, after, _, hafter, _⟩
  cases hafter

end Sample

end YakShed.Secrets.LocalFile
