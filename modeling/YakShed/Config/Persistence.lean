/-
# The configuration file under write faults

The store's update on the text of `config.toml`: a write may fail before or after
the new text is in place, and a store whose write failed reads the file again.
Whatever the order of faults, what it holds in memory is what the file says.
-/

import YakShed.Collections.Keyed
import YakShed.Config.Format
import YakShed.Config.Startup

namespace YakShed.Config

open Toml

/-! ## Reading and writing -/

inductive ConfigFileError
  | config (error : ConfigError)
  | parse (error : DeError)
  | unsupportedSchema (found supported : Nat)
  | serialize (message : String)
  | io
  deriving DecidableEq

/-- `ConfigError::Validation` of a message. -/
def ConfigFileError.invalid (message : String) : ConfigFileError :=
  .config (.validation (.invalid message))

def supportedSchema : Nat := schemaVersion.toNat

/-- `schema_version`. -/
def schemaVersionOf (value : Value) : Except ConfigFileError Nat :=
  match (value.get "schema_version").bind Value.asInteger with
  | none => .error (.invalid "schema_version must be a positive integer")
  | some version =>
      if 0 ≤ version ∧ version < 4294967296 then .ok version.toNat
      else .error (.invalid "schema_version must be a positive integer")

structure Migration where
  fromVersion : Nat
  apply : Value → Except ConfigFileError Value

/-- What a run of migrations that stops is good for. -/
def arrivedAt (target : Nat) (value : Value) (version : Nat) : Except ConfigFileError Value :=
  if version = target then .ok value
  else .error (.invalid ("schema version " ++ toString version ++
    " has no migration path to " ++ toString target))

def runMigrations (target : Nat) : Value → Nat → List Migration → Except ConfigFileError Value
  | value, version, [] => arrivedAt target value version
  | value, version, migration :: rest =>
      if version = target then arrivedAt target value version
      else if migration.fromVersion < version then runMigrations target value version rest
      else if migration.fromVersion ≠ version then arrivedAt target value version
      else do
        let value ← migration.apply value
        let version ← schemaVersionOf value
        if version ≠ migration.fromVersion + 1 then
          throw (.invalid ("migration from schema " ++ toString migration.fromVersion ++
            " did not produce schema " ++ toString (migration.fromVersion + 1)))
        runMigrations target value version rest

/-- `MIGRATIONS`. -/
def migrations : List Migration := []

def migrate (value : Value) : Except ConfigFileError Value := do
  let version ← schemaVersionOf value
  if supportedSchema < version then throw (.unsupportedSchema version supportedSchema)
  runMigrations supportedSchema value version migrations

section Files

variable [Toml.Text] [UuidErrors] (capabilities : List SecretBackendCapability)

/-- `read_config` of a file with this text. -/
def readConfig (source : String) : Except ConfigFileError AppConfig :=
  match Text.fromStr source with
  | .error error => .error (.parse error)
  | .ok value =>
      match migrate value with
      | .error error => .error error
      | .ok value =>
          match Codecs.config.deserialize value with
          | .error error => .error (.parse error)
          | .ok dto =>
              match dto.tryInto with
              | .error error => .error (.invalid error.message)
              | .ok config =>
                  match config.validate capabilities with
                  | .error error => .error (.config (.validation error))
                  | .ok () => .ok config

/-- How far a write comes. -/
inductive WriteOutcome
  | done
  | failedBefore
  | failedAfter
  deriving DecidableEq

/-- `write_config`: what it returns and the file's text after it. -/
def writeConfig (outcome : WriteOutcome) (text : String) (config : AppConfig) :
    Except ConfigFileError Unit × String :=
  match Text.toStringPretty (Codecs.config.serialize (.of config)) with
  | .error message => (.error (.serialize message), text)
  | .ok serialized =>
      match outcome with
      | .done => (.ok (), serialized)
      | .failedBefore => (.error .io, text)
      | .failedAfter => (.error .io, serialized)

/-- The state in memory and the text of `config.toml`. -/
structure ConfigFileStore where
  state : ConfigSnapshot
  text : String

/-- One call of `update`. The file can be read back after it or not. -/
structure Attempt where
  expectedRevision : Nat
  change : ConfigChange
  outcome : WriteOutcome := .done
  readable : Bool := true

namespace ConfigFileStore

/-- `open`: a file that is there is read, and otherwise the default is written. -/
def openConfig (outcome : WriteOutcome) : Option String → Except ConfigFileError ConfigFileStore
  | some text => do
      let config ← readConfig capabilities text
      return ⟨⟨0, config⟩, text⟩
  | none =>
      match writeConfig outcome "" {} with
      | (.ok (), text) => .ok ⟨{}, text⟩
      | (.error error, _) => .error error

/-- The store with the configuration in place of the text. -/
def abstract (store : ConfigFileStore) : ConfigStore := ⟨store.state, store.state.config⟩

/-- The state that is taken from the file after a failed write. -/
def observe (readable : Bool) (store : ConfigFileStore) (next : ConfigSnapshot) : ConfigFileStore :=
  if readable then
    match readConfig capabilities store.text with
    | .ok observed =>
        let revision :=
          if observed = store.state.config then store.state.revision else next.revision
        { store with state := ⟨revision, observed⟩ }
    | .error _ => store
  else store

/-- `StoreInner::update`. -/
def update (store : ConfigFileStore) (attempt : Attempt) :
    Except ConfigFileError ConfigSnapshot × ConfigFileStore :=
  match ConfigStore.plan capabilities store.abstract attempt.expectedRevision attempt.change with
  | .error error => (.error (.config error), store)
  | .ok next =>
      match writeConfig attempt.outcome store.text next.config with
      | (.ok (), text) => (.ok next, ⟨next, text⟩)
      | (.error error, text) =>
          (.error error, observe capabilities attempt.readable { store with text } next)

/-- What a sequence of updates leaves. -/
def after (store : ConfigFileStore) (attempts : List Attempt) : ConfigFileStore :=
  attempts.foldl (fun store attempt => (store.update capabilities attempt).2) store

end ConfigFileStore

/-! ## What is written is read -/

/-- A configuration that survives being written. -/
structure Storable (config : AppConfig) : Prop where
  valid : config.validate capabilities = .ok ()
  source : ∀ record ∈ config.credentialMigration, record.source.validate = .ok ()

variable {capabilities}

omit [Toml.Text] in
theorem migrate_configFields (config : AppConfig) :
    migrate (Codecs.config.serialize (.of config)) =
      .ok (Codecs.config.serialize (.of config)) := by
  have hversion : schemaVersionOf (Codecs.config.serialize (.of config)) = .ok 1 := by
    have hget : (Codecs.config.serialize (.of config)).get "schema_version" =
        some (Codec.u32.serialize Config.schemaVersion) := by
      change (Fields.table _).lookup "schema_version" = _
      rw [Fields.table, lookup_present (Codecs.configFields _).ordered]
      rfl
    have hinteger : Codec.u32.serialize Config.schemaVersion = .integer 1 := rfl
    rw [schemaVersionOf, hget, hinteger, Option.bind_some, Value.asInteger]
    exact if_pos (by omega)
  simp only [migrate, hversion, bind, Except.bind]
  rfl

omit [Toml.Text] [UuidErrors] in
theorem Storable.tryInto {config : AppConfig} (h : Storable capabilities config) :
    (ConfigDto.of config).tryInto = .ok config := by
  obtain ⟨hbackends, _, hmigration⟩ := validate_parts h.valid
  apply ConfigDto.tryInto_of
  · exact fun backend hmem => ((usable_of_validateBackends hbackends).1 backend hmem).1
  · intro record hrecord
    refine ⟨h.source record hrecord, ?_⟩
    obtain ⟨htarget, _⟩ := validMigration_parts (hmigration record hrecord)
    rw [SecretBackend.validate, htarget]
    rfl

theorem Storable.readConfig [LawfulText] {config : AppConfig} (h : Storable capabilities config)
    {text : String}
    (hwritten : Text.toStringPretty (Codecs.config.serialize (.of config)) = .ok text) :
    Config.readConfig capabilities text = .ok config := by
  have hfrom : Text.fromStr text = .ok (Codecs.config.serialize (.of config)) :=
    LawfulText.fromStr_toStringPretty (Codec.Lawful.canonical _) hwritten
  have hdto : Codecs.config.deserialize (Codecs.config.serialize (.of config)) = .ok (.of config) :=
    Codec.Lawful.roundTrip _
  simp only [Config.readConfig, hfrom, migrate_configFields, hdto, h.tryInto, h.valid]

theorem storable_of_readConfig {text : String} {config : AppConfig}
    (h : Config.readConfig capabilities text = .ok config) : Storable capabilities config := by
  unfold Config.readConfig at h
  split at h
  · cases h
  split at h
  · cases h
  split at h
  · cases h
  next dto _ =>
    split at h
    · cases h
    next found hfound =>
      split at h
      · cases h
      next hvalid =>
        cases h
        exact ⟨hvalid, ConfigDto.source_of_tryInto hfound⟩

omit [Toml.Text] [UuidErrors] in
theorem Storable.applyChange {config config' : AppConfig} {change : ConfigChange}
    (h : Storable capabilities config) (happly : applyChange config change = .ok config')
    (hvalid : config'.validate capabilities = .ok ()) : Storable capabilities config' := by
  refine ⟨hvalid, ?_⟩
  intro record' hrecord'
  rcases source_applyChange happly hrecord' with hcopying | ⟨record, hrecord, hsource⟩
  · obtain ⟨hbackends, _, hmigration⟩ := validate_parts hvalid
    have hmem := (validMigration_parts (hmigration record' hrecord')).2.2 hcopying
    exact ((usable_of_validateBackends hbackends).1 _ hmem).1
  · rw [hsource]
    exact h.source record hrecord

/-! ## One update -/

/-- What memory holds is what the file says. -/
def ConfigFileStore.Settled (capabilities : List SecretBackendCapability)
    (store : ConfigFileStore) : Prop :=
  readConfig capabilities store.text = .ok store.state.config

/-- A write puts the new text in place or leaves the old one, and it returns
`Ok` only if the new text is in place. -/
theorem writeConfig_cases (outcome : WriteOutcome) (text : String) (config : AppConfig) :
    (∃ serialized, Text.toStringPretty (Codecs.config.serialize (.of config)) = .ok serialized ∧
      (writeConfig outcome text config = (.ok (), serialized) ∨
        ∃ error, writeConfig outcome text config = (.error error, serialized))) ∨
    ∃ error, writeConfig outcome text config = (.error error, text) := by
  unfold writeConfig
  cases hwritten : Text.toStringPretty (Codecs.config.serialize (.of config)) with
  | error message => exact .inr ⟨_, rfl⟩
  | ok serialized =>
      cases outcome with
      | done => exact .inl ⟨serialized, rfl, .inl rfl⟩
      | failedBefore => exact .inr ⟨_, rfl⟩
      | failedAfter => exact .inl ⟨serialized, rfl, .inr ⟨_, rfl⟩⟩

namespace ConfigFileStore

theorem observe_readable {store : ConfigFileStore} {next : ConfigSnapshot} {observed : AppConfig}
    (h : readConfig capabilities store.text = .ok observed) :
    store.observe capabilities true next = { store with
      state := ⟨if observed = store.state.config then store.state.revision else next.revision,
        observed⟩ } := by
  simp only [observe, if_true, h]

/-- What an update leaves: the store as it was, the planned state with its text,
or, when the write failed, one of the two under the error. -/
theorem update_cases [LawfulText] {store : ConfigFileStore} {attempt : Attempt}
    (h : store.Settled capabilities) (hreadable : attempt.readable = true) :
    (∃ error, store.update capabilities attempt = (.error error, store)) ∨
    ∃ (next : ConfigSnapshot) (text : String),
      ConfigStore.plan capabilities store.abstract attempt.expectedRevision attempt.change =
        .ok next ∧
      Text.toStringPretty (Codecs.config.serialize (.of next.config)) = .ok text ∧
      readConfig capabilities text = .ok next.config ∧
      (store.update capabilities attempt = (.ok next, ⟨next, text⟩) ∨
        ∃ error revision, store.update capabilities attempt =
            (.error error, ⟨⟨revision, next.config⟩, text⟩) ∧
          (next.config = store.state.config ∧ revision = store.state.revision ∨
            next.config ≠ store.state.config ∧ revision = next.revision)) := by
  cases hplan : ConfigStore.plan capabilities store.abstract attempt.expectedRevision
      attempt.change with
  | error error =>
      left
      refine ⟨.config error, ?_⟩
      rw [update, hplan]
  | ok next =>
      obtain ⟨happly, hvalid, _⟩ := plan_parts hplan
      have hstorable : Storable capabilities next.config :=
        (storable_of_readConfig h).applyChange happly hvalid
      rcases writeConfig_cases attempt.outcome store.text next.config with
        ⟨text, hwritten, hdone | ⟨error, hfailed⟩⟩ | ⟨error, hfailed⟩
      · refine .inr ⟨next, text, rfl, hwritten, hstorable.readConfig hwritten, .inl ?_⟩
        simp only [update, hplan, hdone]
      · have hread := hstorable.readConfig hwritten
        have hupdate : store.update capabilities attempt = (.error error,
            ⟨⟨if next.config = store.state.config then store.state.revision else next.revision,
              next.config⟩, text⟩) := by
          simp only [update, hplan, hfailed, hreadable]
          rw [observe_readable hread]
        refine .inr ⟨next, text, rfl, hwritten, hread, .inr ⟨error, _, hupdate, ?_⟩⟩
        by_cases hsame : next.config = store.state.config
        · exact .inl ⟨hsame, if_pos hsame⟩
        · exact .inr ⟨hsame, if_neg hsame⟩
      · left
        refine ⟨error, ?_⟩
        simp only [update, hplan, hfailed, hreadable]
        rw [observe_readable h, if_pos rfl]

/-- What an update guarantees, however far its write comes. -/
structure Agrees (capabilities : List SecretBackendCapability) (store : ConfigFileStore)
    (attempt : Attempt) : Prop where
  settled : (store.update capabilities attempt).2.Settled capabilities
  returned : ∀ snapshot, (store.update capabilities attempt).1 = .ok snapshot →
    (store.update capabilities attempt).2.state = snapshot ∧
      readConfig capabilities (store.update capabilities attempt).2.text = .ok snapshot.config
  stale : attempt.expectedRevision ≠ store.state.revision →
    (store.update capabilities attempt).2 = store
  monotone : store.state.revision ≤ (store.update capabilities attempt).2.state.revision
  increases : (store.update capabilities attempt).2.state.config ≠ store.state.config →
    store.state.revision < (store.update capabilities attempt).2.state.revision

theorem Settled.agrees [LawfulText] {store : ConfigFileStore} {attempt : Attempt}
    (h : store.Settled capabilities) (hreadable : attempt.readable = true) :
    Agrees capabilities store attempt := by
  rcases update_cases h hreadable with ⟨error, hupdate⟩ |
    ⟨next, text, hplan, _, hread, hupdate | ⟨error, revision, hupdate, hrevision⟩⟩
  · constructor
    · rw [hupdate]
      exact h
    · intro snapshot hok
      rw [hupdate] at hok
      cases hok
    · intro _
      rw [hupdate]
    · rw [hupdate]
    · intro hchanged
      rw [hupdate] at hchanged
      exact absurd rfl hchanged
  · obtain ⟨_, _, hcurrent, hnext⟩ := plan_parts hplan
    constructor
    · rw [hupdate]
      exact hread
    · intro snapshot hok
      rw [hupdate] at hok ⊢
      cases hok
      exact ⟨rfl, hread⟩
    · exact fun hstale => absurd hcurrent.symm hstale
    · rw [hupdate]
      exact hnext ▸ Nat.le_succ _
    · intro _
      rw [hupdate]
      exact hnext ▸ Nat.lt_succ_self _
  · obtain ⟨_, _, hcurrent, hnext⟩ := plan_parts hplan
    constructor
    · rw [hupdate]
      exact hread
    · intro snapshot hok
      rw [hupdate] at hok
      cases hok
    · exact fun hstale => absurd hcurrent.symm hstale
    · rw [hupdate]
      rcases hrevision with ⟨_, rfl⟩ | ⟨_, rfl⟩
      · exact le_rfl
      · exact hnext ▸ Nat.le_succ _
    · intro hchanged
      rw [hupdate] at hchanged ⊢
      rcases hrevision with ⟨hsame, _⟩ | ⟨_, rfl⟩
      · exact absurd hsame hchanged
      · exact hnext ▸ Nat.lt_succ_self _

/-! ## Every sequence of updates -/

omit [Toml.Text] [UuidErrors] in
theorem storable_default : Storable capabilities {} where
  valid := rfl
  source := by
    intro record hrecord
    cases hrecord

theorem settled_of_openConfig [LawfulText] {outcome : WriteOutcome} {existing : Option String}
    {store : ConfigFileStore} (h : openConfig capabilities outcome existing = .ok store) :
    store.Settled capabilities := by
  cases existing with
  | some text =>
      obtain ⟨config, hread, hsame⟩ := bind_ok h
      cases hsame
      exact hread
  | none =>
      unfold openConfig at h
      rcases writeConfig_cases outcome "" {} with
        ⟨text, hwritten, hdone | ⟨error, hfailed⟩⟩ | ⟨error, hfailed⟩
      · rw [hdone] at h
        cases h
        exact storable_default.readConfig hwritten
      · rw [hfailed] at h
        cases h
      · rw [hfailed] at h
        cases h

theorem Settled.after [LawfulText] {store : ConfigFileStore} {attempts : List Attempt}
    (h : store.Settled capabilities) (hreadable : ∀ attempt ∈ attempts, attempt.readable = true) :
    (store.after capabilities attempts).Settled capabilities := by
  induction attempts generalizing store with
  | nil => exact h
  | cons attempt rest ih =>
      apply ih
      · exact (h.agrees (hreadable attempt List.mem_cons_self)).settled
      · exact fun other hmem => hreadable other (List.mem_cons_of_mem _ hmem)

/-- After every update of every sequence, memory and file agree. -/
theorem agrees_after [LawfulText] {outcome : WriteOutcome} {existing : Option String}
    {store : ConfigFileStore} {attempts : List Attempt} {attempt : Attempt}
    (hopen : openConfig capabilities outcome existing = .ok store)
    (hreadable : ∀ attempt ∈ attempts, attempt.readable = true)
    (hlast : attempt.readable = true) :
    Agrees capabilities (store.after capabilities attempts) attempt :=
  ((settled_of_openConfig hopen).after hreadable).agrees hlast

/-! ## The configurations that are reached -/

/-- What is observed after a failed write is the state that was, or what the file says. -/
theorem observe_config (readable : Bool) (store : ConfigFileStore) (next : ConfigSnapshot) :
    (store.observe capabilities readable next).state.config = store.state.config ∨
      readConfig capabilities store.text =
        .ok (store.observe capabilities readable next).state.config := by
  cases readable with
  | false => exact .inl rfl
  | true =>
      cases hread : readConfig capabilities store.text with
      | error error =>
          left
          simp only [observe, hread, if_true]
      | ok observed =>
          right
          rw [observe_readable hread]

end ConfigFileStore

/-- A configuration in memory can be written and read again, whatever the file
says after a failed write. -/
theorem Storable.update {store : ConfigFileStore} {attempt : Attempt}
    (h : Storable capabilities store.state.config) :
    Storable capabilities (store.update capabilities attempt).2.state.config := by
  cases hplan : ConfigStore.plan capabilities store.abstract attempt.expectedRevision
      attempt.change with
  | error error =>
      rw [ConfigFileStore.update, hplan]
      exact h
  | ok next =>
      obtain ⟨happly, hvalid, _⟩ := plan_parts hplan
      rcases hwrite : writeConfig attempt.outcome store.text next.config with ⟨error | _, text⟩
      · simp only [ConfigFileStore.update, hplan, hwrite]
        rcases ConfigFileStore.observe_config attempt.readable { store with text } next with
          hsame | hread
        · rw [hsame]
          exact h
        · exact storable_of_readConfig hread
      · simp only [ConfigFileStore.update, hplan, hwrite]
        exact h.applyChange happly hvalid

theorem Storable.after {store : ConfigFileStore} {attempts : List Attempt}
    (h : Storable capabilities store.state.config) :
    Storable capabilities (store.after capabilities attempts).state.config := by
  induction attempts generalizing store with
  | nil => exact h
  | cons attempt rest ih => exact ih h.update

/-- Neither the conversion nor the file changes or refuses the configuration. -/
structure RoundTrips (capabilities : List SecretBackendCapability) (config : AppConfig) :
    Prop where
  converted : (ConfigDto.of config).tryInto = .ok config
  accepted : config.validate capabilities = .ok ()
  reread : ∀ text, Text.toStringPretty (Codecs.config.serialize (.of config)) = .ok text →
    readConfig capabilities text = .ok config

theorem Storable.roundTrips [LawfulText] {config : AppConfig} (h : Storable capabilities config) :
    RoundTrips capabilities config where
  converted := h.tryInto
  accepted := h.valid
  reread _ hwritten := h.readConfig hwritten

/-- Every configuration that updates reach, and every one a further update is about
to write, is read as it was written. -/
theorem config_roundTrips [LawfulText] {outcome : WriteOutcome} {existing : Option String}
    {store : ConfigFileStore} {attempts : List Attempt}
    (hopen : ConfigFileStore.openConfig capabilities outcome existing = .ok store) :
    RoundTrips capabilities (store.after capabilities attempts).state.config ∧
      ∀ expected change next,
        ConfigStore.plan capabilities (store.after capabilities attempts).abstract expected
            change = .ok next →
          RoundTrips capabilities next.config := by
  have hreached : Storable capabilities (store.after capabilities attempts).state.config :=
    (storable_of_readConfig (ConfigFileStore.settled_of_openConfig hopen)).after
  constructor
  · exact hreached.roundTrips
  · intro expected change next hplan
    obtain ⟨happly, hvalid, _⟩ := plan_parts hplan
    exact (hreached.applyChange happly hvalid).roundTrips

end Files

/-! ## An example -/

section Example

/-- A configuration without connections and backends. -/
def themed (theme : String) : AppConfig := { theme }

def themeText (theme : String) : String :=
  "schema_version = 1\nconnections = []\nsecret_backends = []\n\n[ui]\ntheme = \"" ++ theme ++
    "\"\n"

/-- A connection with a secret whose copy into the keychain has begun. -/
def migrating (theme : String) : AppConfig where
  connections := [firstConnection legacyFile]
  secretBackends := [legacyFile, localOs]
  credentialMigration := some
    ⟨legacyFile, localOs, .copying, [sampleLocator], [⟨sampleLocator, .copying⟩]⟩
  theme := theme

def migratingText (theme : String) : String :=
  "schema_version = 1\n\n" ++
  "[[connections]]\nid = \"00000000-0000-7000-8000-00000000000b\"\nname = \"Fireworks\"\n" ++
  "harness = \"codex\"\nmodel_provider = \"fireworks\"\nprovider_state = \"first\"\n\n" ++
  "[[connections.credentials]]\nsource = \"secret\"\nslot = \"fireworks.api_key\"\n" ++
  "backend = \"local-file\"\nlocator = \"shared\"\n\n" ++
  "[[secret_backends]]\nid = \"local-file\"\nkind = \"local-file\"\n" ++
  "path = \"/Users/sample/secrets.json\"\n\n" ++
  "[[secret_backends]]\nid = \"local-os\"\nkind = \"local-os\"\n\n" ++
  "[credential_migration]\nphase = \"copying\"\nlocators = [\"shared\"]\n\n" ++
  "[credential_migration.source]\nid = \"local-file\"\nkind = \"local-file\"\n" ++
  "path = \"/Users/sample/secrets.json\"\n\n" ++
  "[credential_migration.target]\nid = \"local-os\"\nkind = \"local-os\"\n\n" ++
  "[[credential_migration.receipts]]\nlocator = \"shared\"\nstate = \"copying\"\n\n" ++
  "[ui]\ntheme = \"" ++ theme ++ "\"\n"

/-- Every identifier of the examples is one that parses. -/
local instance exampleErrors : UuidErrors := ⟨fun _ => ""⟩

/-- The configurations that the examples write, as they are printed. -/
def documents : List (AppConfig × String) :=
  [(themed "system", themeText "system"), (themed "dark", themeText "dark"),
    (migrating "system", migratingText "system"), (migrating "dark", migratingText "dark")]

/-- What is printed for a configuration. -/
def documentValue (document : AppConfig × String) : Value :=
  Codecs.config.serialize (.of document.1)

theorem documents_storable :
    ∀ document ∈ documents, Storable releaseCapabilities document.1 := by
  intro document hmem
  constructor
  · exact (by decide +kernel : ∀ document ∈ documents,
      document.1.validate releaseCapabilities = .ok ()) document hmem
  · exact (by decide +kernel : ∀ document ∈ documents,
      ∀ record ∈ document.1.credentialMigration, record.source.validate = .ok ()) document hmem

/-- No two of the documents are written alike. -/
theorem nodup_documentValue : (documents.map documentValue).Nodup := by
  have hnodup : (documents.map (·.1)).Nodup := by decide +kernel
  refine List.Nodup.map_on ?_ (List.Nodup.of_map (·.1) hnodup)
  intro first hfirst second hsecond hsame
  have hdto := congrArg Codecs.config.deserialize hsame
  rw [documentValue, documentValue, Codec.Lawful.roundTrip, Codec.Lawful.roundTrip] at hdto
  have hconfig := congrArg ConfigDto.tryInto (Except.ok.inj hdto)
  rw [(documents_storable first hfirst).tryInto, (documents_storable second hsecond).tryInto]
    at hconfig
  exact List.inj_on_of_nodup_map hnodup hfirst hsecond (Except.ok.inj hconfig)

open Classical in
/-- `toml::to_string_pretty` on these documents. -/
noncomputable def printDocument (value : Value) : Except String String :=
  match Keyed.lookup documentValue documents value with
  | some document => .ok document.2
  | none => .error "unsupported"

/-- `toml::from_str` on their texts. -/
def parseDocument (text : String) : Except DeError Value :=
  match Keyed.lookup (·.2) documents text with
  | some document => .ok (documentValue document)
  | none => .error (.malformed "unsupported")

open Classical in
theorem printDocument_value {document : AppConfig × String} (hmem : document ∈ documents) :
    printDocument (documentValue document) = .ok document.2 := by
  unfold printDocument
  rw [Keyed.lookup_of_mem nodup_documentValue hmem]

open Classical in
/-- What is printed is parsed. -/
theorem parseDocument_printDocument {value : Value} {text : String}
    (h : printDocument value = .ok text) : parseDocument text = .ok value := by
  have hnodup : (documents.map (·.2)).Nodup := by decide +kernel
  unfold printDocument at h
  split at h
  · next document hfound =>
      cases h
      unfold parseDocument
      rw [Keyed.lookup_of_mem hnodup (Keyed.mem_of_lookup hfound)]
      exact congrArg Except.ok (Keyed.key_of_lookup hfound)
  · cases h

noncomputable local instance exampleText : Toml.Text := ⟨printDocument, parseDocument⟩

local instance exampleLawful : LawfulText := ⟨fun _ h => parseDocument_printDocument h⟩

/-- The write of the dark theme fails after it is in place. -/
theorem darkTheme_agrees :
    ∃ store, ConfigFileStore.openConfig [] .done none = .ok store ∧
      ConfigFileStore.Agrees [] (store.after [] [⟨0, .setUiTheme "dark", .failedAfter, true⟩])
        ⟨1, .setUiTheme "system", .done, true⟩ := by
  have hprinted : Text.toStringPretty (Codecs.config.serialize (.of {})) =
      .ok (themeText "system") :=
    printDocument_value (List.mem_cons_self : (themed "system", themeText "system") ∈ documents)
  have hopen : ConfigFileStore.openConfig [] .done none = .ok ⟨{}, themeText "system"⟩ := by
    unfold ConfigFileStore.openConfig writeConfig
    rw [hprinted]
  refine ⟨_, hopen, ConfigFileStore.agrees_after hopen ?_ rfl⟩
  intro attempt hmem
  rw [List.mem_singleton.mp hmem]

/-- The dark theme, whose write failed in the middle of a migration and whose file
could not be read either, is planned once more and can be read back. -/
theorem migrating_roundTrips :
    ∃ store, ConfigFileStore.openConfig releaseCapabilities .done
        (some (migratingText "system")) = .ok store ∧
      store.state.config = migrating "system" ∧
      RoundTrips releaseCapabilities (store.after releaseCapabilities
        [⟨0, .setUiTheme "dark", .failedAfter, false⟩]).state.config ∧
      ∀ expected change next,
        ConfigStore.plan releaseCapabilities (store.after releaseCapabilities
            [⟨0, .setUiTheme "dark", .failedAfter, false⟩]).abstract expected change = .ok next →
          RoundTrips releaseCapabilities next.config := by
  have hmem : (migrating "system", migratingText "system") ∈ documents :=
    List.mem_cons_of_mem _ (List.mem_cons_of_mem _ List.mem_cons_self)
  have hread : readConfig releaseCapabilities (migratingText "system") =
      .ok (migrating "system") :=
    (documents_storable _ hmem).readConfig (printDocument_value hmem)
  have hopen : ConfigFileStore.openConfig releaseCapabilities .done
      (some (migratingText "system")) =
        .ok ⟨⟨0, migrating "system"⟩, migratingText "system"⟩ := by
    simp only [ConfigFileStore.openConfig, hread]
    rfl
  obtain ⟨hreached, hplanned⟩ := config_roundTrips hopen
  exact ⟨_, hopen, rfl, hreached, hplanned⟩

end Example

end YakShed.Config
