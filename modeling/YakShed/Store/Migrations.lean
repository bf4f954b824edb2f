/-
# Schema upgrades

The migrations of `yakshed.sqlite3` and the opening of a database of any version.
Every migration copies the rows of the tables it rebuilds into tables with other
constraints, so an upgrade succeeds when the constraints of one version imply those
of the next on the copied rows. What the upgrade will make of a run can be read off
it at every version, and no migration changes that.
-/

import YakShed.Store.Schema

namespace YakShed.Sqlite

open Tables

/-! ## The migrations -/

/-- The columns that `MIGRATE_V2_TO_V3` selects: only an ended run keeps its end. -/
def LegacyRunColumns.withEnd (row : LegacyRunColumns) : LegacyRunColumns :=
  { row with endedAtMs := if row.status.isOneOf endedStatuses then row.endedAtMs else .null }

/-- The columns that `MIGRATE_V4_TO_V5` selects: the namespace stands for the runtime
and the provider run for its session. -/
def LegacyRunColumns.widen (row : LegacyRunColumns) : RunColumns :=
  { row with
    providerRuntimeId := row.providerNamespace
    providerSessionId := row.providerRunId }

def migrateV1ToV2 (contents : Contents RunColumns) :
    Except Violation (Contents LegacyRunColumns) := do
  let runs ← runsV2.insertAll [] (contents.runs.map (·.toLegacyRunColumns))
  return { contents with runs }

def migrateV2ToV3 (contents : Contents LegacyRunColumns) :
    Except Violation (Contents LegacyRunColumns) := do
  let runs ← runsV3.insertAll [] (contents.runs.map (·.withEnd))
  return { contents with runs }

def migrateV3ToV4 (contents : Contents LegacyRunColumns) :
    Except Violation (Contents LegacyRunColumns) :=
  match contents.artifacts with
  | none => .ok { contents with artifacts := some [] }
  | some _ => .error .tableExists

def migrateV4ToV5 (contents : Contents LegacyRunColumns) :
    Except Violation (Contents RunColumns) := do
  let runs ← runsV5.insertAll [] (contents.runs.map (·.widen))
  return { contents with runs }

def migrateV5ToV6 (contents : Contents RunColumns) : Except Violation (Contents RunColumns) := do
  let timelineItems ← timelineItems.insertAll [] contents.timelineItems
  let approvalRequests ← approvalRequests.insertAll [] contents.approvalRequests
  let projectionCursors ← projectionCursors.insertAll [] contents.projectionCursors
  return { contents with timelineItems, approvalRequests, projectionCursors }

def schemaVersion : Nat := 6

/-- A database with the tables of its `user_version`. -/
inductive Stored
  | v0
  | v1 (contents : Contents RunColumns)
  | v2 (contents : Contents LegacyRunColumns)
  | v3 (contents : Contents LegacyRunColumns)
  | v4 (contents : Contents LegacyRunColumns)
  | v5 (contents : Contents RunColumns)
  | v6 (contents : Contents RunColumns)

namespace Stored

def version : Stored → Nat
  | v0 => 0
  | v1 _ => 1
  | v2 _ => 2
  | v3 _ => 3
  | v4 _ => 4
  | v5 _ => 5
  | v6 _ => 6

/-- The next of `migrations`. -/
def next : Stored → Except Violation Stored
  | v0 => .ok (v1 {})
  | v1 contents => (migrateV1ToV2 contents).map v2
  | v2 contents => (migrateV2ToV3 contents).map v3
  | v3 contents => (migrateV3ToV4 contents).map v4
  | v4 contents => (migrateV4ToV5 contents).map v5
  | v5 contents => (migrateV5ToV6 contents).map v6
  | v6 contents => .ok (v6 contents)

def applyAll : Nat → Stored → Except Violation Stored
  | 0, stored => .ok stored
  | count + 1, stored => do
      let stored ← stored.next
      applyAll count stored

/-- `to_latest`, which runs in one transaction. -/
def toLatest (stored : Stored) : Except Violation Stored :=
  applyAll (schemaVersion - stored.version) stored

end Stored

def violationText : Violation → String
  | .check => "CHECK constraint failed"
  | .unique => "UNIQUE constraint failed"
  | .tableExists => "table already exists"

/-- `open_connection` from the migrations on. Foreign keys are off while they run,
so dropping a rebuilt table deletes no row that refers to it. -/
def openConnection (stored : Stored) : Except StoreError (Contents RunColumns) :=
  match stored.toLatest with
  | .error violation => .error (.migration (violationText violation))
  | .ok (.v6 contents) =>
      if contents.Linked (·.toLegacyRunColumns) then .ok contents
      else .error (.integrity "database contains invalid foreign-key references")
  | .ok _ => .error (.migration "no migration path")

/-! ## Databases of every version -/

/-- A run as one of the versions keeps it. -/
inductive StoredRun
  | legacy (row : LegacyRunColumns)
  | full (row : RunColumns)

namespace StoredRun

def common : StoredRun → LegacyRunColumns
  | legacy row => row
  | full row => row.toLegacyRunColumns

/-- The connection and the provider identity of a run, as its table keys them. -/
def identity : StoredRun → List Value
  | legacy row => legacyProviderKey.of row
  | full row => providerKey.of row

/-- The run has no provider identity, or the texts of one that its constructor accepts. -/
def Accepted : StoredRun → Prop
  | legacy row => row.providerNamespace = .null ∨ ∃ ns runId,
      row.providerNamespace = .text ns ∧ row.providerRunId = .text runId ∧
        checkNamespacedProviderId ns runId = .ok ()
  | full row => row.providerNamespace = .null ∨ ∃ ns runtimeId sessionId runId,
      row.providerNamespace = .text ns ∧ row.providerRuntimeId = .text runtimeId ∧
        row.providerSessionId = .text sessionId ∧ row.providerRunId = .text runId ∧
        checkProviderRunIdentity ns runtimeId sessionId runId = .ok ()

/-- What the upgrade makes of a run. -/
def upgraded : StoredRun → RunColumns
  | legacy row => row.withEnd.widen
  | full row => { row with toLegacyRunColumns := row.toLegacyRunColumns.withEnd }

end StoredRun

namespace Stored

def runs : Stored → List StoredRun
  | v0 => []
  | v2 contents | v3 contents | v4 contents => contents.runs.map .legacy
  | v1 contents | v5 contents | v6 contents => contents.runs.map .full

def others : Stored → Others
  | v0 => {}
  | v2 contents | v3 contents | v4 contents => contents.toOthers
  | v1 contents | v5 contents | v6 contents => contents.toOthers

/-- A database as its migrations may have left it. -/
def Satisfies : Stored → Prop
  | v0 => True
  | v1 contents => contents.Satisfies (·.toLegacyRunColumns) runsV5 ∧ contents.artifacts = none
  | v2 contents => contents.Satisfies id runsV2 ∧ contents.artifacts = none
  | v3 contents => contents.Satisfies id runsV3 ∧ contents.artifacts = none
  | v4 contents => contents.Satisfies id runsV3 ∧ contents.artifacts.isSome
  | v5 contents | v6 contents =>
      contents.Satisfies (·.toLegacyRunColumns) runsV5 ∧ contents.artifacts.isSome

end Stored

/-! ## One migration -/

@[simp] theorem withEnd_withEnd (row : LegacyRunColumns) : row.withEnd.withEnd = row.withEnd := by
  unfold LegacyRunColumns.withEnd
  cases hended : row.status.isOneOf endedStatuses with
  | true => simp only [if_true]
  | false => simp only [Bool.false_eq_true, if_false]

/-- Under the check of version 3 the selection of an end changes nothing. -/
theorem withEnd_of_endedCheck {row : LegacyRunColumns} (h : endedCheck row = true) :
    row.withEnd = row := by
  unfold LegacyRunColumns.withEnd
  cases hended : row.status.isOneOf endedStatuses with
  | true => rw [if_pos rfl]
  | false =>
      have hnone : row.endedAtMs = .null := by
        unfold endedCheck at h
        rw [hended] at h
        simpa using h
      rw [if_neg Bool.false_ne_true, ← hnone]

/-- The end of an ended run is there in version 2 already. -/
theorem endedCheck_withEnd {row : LegacyRunColumns} (h : notStartedCheck row = true) :
    endedCheck row.withEnd = true := by
  unfold endedCheck LegacyRunColumns.withEnd
  cases hended : row.status.isOneOf endedStatuses with
  | true =>
      have hstarted : row.status.isOneOf ["starting", "running"] = false := by
        cases hstatus : row.status with
        | text value =>
            rw [hstatus] at hended
            have hmem : value ∈ endedStatuses := of_decide_eq_true hended
            simp only [endedStatuses, List.mem_cons, List.not_mem_nil, or_false] at hmem
            rcases hmem with rfl | rfl | rfl <;> decide
        | null | integer | real | blob => rfl
      have hsome : row.endedAtMs ≠ .null := by
        unfold notStartedCheck at h
        rw [hstarted] at h
        simpa using h
      simp only [if_true, hsome, ne_eq, not_false_eq_true, decide_true, beq_self_eq_true]
  | false =>
      simp only [Bool.false_eq_true, if_false, ne_eq, not_true_eq_false, decide_false,
        beq_self_eq_true]

theorem runsV2_map_withEnd {rows : List LegacyRunColumns} (h : runsV2.Holds rows) :
    runsV3.Holds (rows.map (·.withEnd)) := by
  apply h.map
  · intro row hrow check hcheck
    simp only [runsV2, List.forall_mem_cons] at hrow
    obtain ⟨hrequired, hstatus, hprovider, hended, _⟩ := hrow
    simp only [runsV3, List.mem_cons, List.not_mem_nil, or_false] at hcheck
    rcases hcheck with rfl | rfl | rfl | rfl
    · exact hrequired
    · exact hstatus
    · exact hprovider
    · exact endedCheck_withEnd hended
  · intro key hkey
    -- The selection keeps every column that a key reads.
    refine ⟨key, hkey, fun first second hclash => ?_⟩
    simp only [runsV3, List.mem_cons, List.not_mem_nil, or_false] at hkey
    rcases hkey with rfl | rfl | rfl
    · exact hclash
    · exact hclash
    · exact hclash

theorem runsV3_map_widen {rows : List LegacyRunColumns} (h : runsV3.Holds rows) :
    runsV5.Holds (rows.map (·.widen)) := by
  apply h.map
  · intro row hrow check hcheck
    simp only [runsV3, List.forall_mem_cons] at hrow
    obtain ⟨hrequired, hstatus, hprovider, hended, _⟩ := hrow
    simp only [runsV5, List.mem_cons, List.not_mem_nil, or_false] at hcheck
    rcases hcheck with rfl | rfl | rfl | rfl
    · exact hrequired
    · exact hstatus
    · have hboth : decide (row.providerNamespace = .null) = decide (row.providerRunId = .null) :=
        beq_iff_eq.mp hprovider
      unfold providerCheck LegacyRunColumns.widen
      dsimp only
      rw [hboth]
      simp only [beq_self_eq_true, Bool.and_self]
    · exact hended
  · intro key hkey
    simp only [runsV5, List.mem_cons, List.not_mem_nil, or_false] at hkey
    rcases hkey with rfl | rfl | rfl
    · exact ⟨_, List.mem_cons_self, fun first second hclash => hclash⟩
    · exact ⟨_, List.mem_cons_of_mem _ List.mem_cons_self, fun first second hclash => hclash⟩
    · refine ⟨legacyProviderKey, by simp [runsV3], ?_⟩
      rintro first second ⟨hsame, hnull⟩
      simp only [providerKey, legacyProviderKey, Key.of, List.map_cons, List.map_nil,
        List.cons.injEq, and_true, List.mem_cons, List.not_mem_nil, or_false, not_or,
        Key.Clash] at hsame hnull ⊢
      exact ⟨⟨hsame.1, hsame.2.1, hsame.2.2.2.2⟩, hnull.1, hnull.2.1, hnull.2.2.2.2⟩

section Links

variable {ρ σ : Type} {common : ρ → LegacyRunColumns} {common' : σ → LegacyRunColumns}

/-- References survive a copy of the runs that keeps ids, connections and items. -/
theorem Contents.Linked.map_runs {contents : Contents ρ} (h : contents.Linked common)
    (select : ρ → σ) (hid : ∀ row, (common' (select row)).id = (common row).id)
    (hconnection : ∀ row, (common' (select row)).connectionId = (common row).connectionId)
    (hitem : ∀ row, (common' (select row)).workItemId = (common row).workItemId) :
    Contents.Linked common' { contents with runs := contents.runs.map select } := by
  have hkey : ∀ row, (runKey common').of (select row) = (runKey common).of row := by
    intro row
    simp only [runKey, Key.of, List.map_cons, List.map_nil, hid, hconnection]
  constructor
  · exact h.workItems
  · exact h.edgeParents
  · exact h.edgeChildren
  · apply h.runs.map_rows select
    intro row
    simp only [Key.of, List.map_cons, List.map_nil, hitem]
  · exact h.timelineItems.map_parents select hkey
  · exact h.approvalRequests.map_parents select hkey
  · exact h.projectionCursors.map_parents select hkey
  · exact h.artifactItems
  · apply h.artifactRuns.map_parents select
    intro row
    simp only [Key.of, List.map_cons, List.map_nil, hid]

end Links

theorem migrateV2ToV3_ok {contents : Contents LegacyRunColumns}
    (h : contents.Satisfies id runsV2) :
    migrateV2ToV3 contents = .ok { contents with runs := contents.runs.map (·.withEnd) } ∧
      Contents.Satisfies id runsV3 { contents with runs := contents.runs.map (·.withEnd) } := by
  have hruns := runsV2_map_withEnd h.runs
  constructor
  · rw [migrateV2ToV3, hruns.insertAll_nil]
    rfl
  · constructor
    · exact h.others
    · exact hruns
    · exact h.artifacts
    · exact h.linked.map_runs _ (fun _ => rfl) (fun _ => rfl) (fun _ => rfl)

theorem migrateV4ToV5_ok {contents : Contents LegacyRunColumns}
    (h : contents.Satisfies id runsV3) :
    migrateV4ToV5 contents = .ok { contents with runs := contents.runs.map (·.widen) } ∧
      Contents.Satisfies (·.toLegacyRunColumns) runsV5
        { contents with runs := contents.runs.map (·.widen) } := by
  have hruns := runsV3_map_widen h.runs
  constructor
  · rw [migrateV4ToV5, hruns.insertAll_nil]
    rfl
  · constructor
    · exact h.others
    · exact hruns
    · exact h.artifacts
    · exact h.linked.map_runs _ (fun _ => rfl) (fun _ => rfl) (fun _ => rfl)

/-- The tables that the last migration rebuilds had its constraints from the start. -/
theorem migrateV5ToV6_ok {contents : Contents RunColumns} (h : contents.toOthers.Holds) :
    migrateV5ToV6 contents = .ok contents := by
  rw [migrateV5ToV6, h.timelineItems.insertAll_nil, h.approvalRequests.insertAll_nil,
    h.projectionCursors.insertAll_nil]
  rfl

/-- What one migration does to a database that satisfies its constraints. -/
structure Follows (stored next : Stored) : Prop where
  satisfies : next.Satisfies
  version : next.version = stored.version + 1
  upgraded : next.runs.map (·.upgraded) = stored.runs.map (·.upgraded)
  others : next.others = stored.others

theorem Stored.next_ok {stored : Stored} (h : stored.Satisfies) (hfirst : 2 ≤ stored.version)
    (hlast : stored.version < schemaVersion) :
    ∃ next, stored.next = .ok next ∧ Follows stored next := by
  cases stored with
  | v0 => exact absurd hfirst (by decide)
  | v1 contents => exact absurd hfirst (by simp [version])
  | v2 contents =>
      obtain ⟨hnext, hsatisfies⟩ := migrateV2ToV3_ok h.1
      refine ⟨.v3 _, congrArg (Except.map v3) hnext, ⟨hsatisfies, h.2⟩, rfl, ?_, rfl⟩
      change (List.map _ (contents.runs.map _)).map _ = (contents.runs.map _).map _
      simp only [List.map_map]
      apply List.map_congr_left
      intro row _
      exact congrArg LegacyRunColumns.widen (withEnd_withEnd row)
  | v3 contents =>
      have hnext : migrateV3ToV4 contents = .ok { contents with artifacts := some [] } := by
        rw [migrateV3ToV4, h.2]
      refine ⟨.v4 _, congrArg (Except.map v4) hnext, ⟨⟨h.1.others, h.1.runs, ?_, ?_⟩, rfl⟩, rfl,
        rfl, rfl⟩
      · exact Schema.Holds.nil
      · have hlinked := h.1.linked
        constructor
        · exact hlinked.workItems
        · exact hlinked.edgeParents
        · exact hlinked.edgeChildren
        · exact hlinked.runs
        · exact hlinked.timelineItems
        · exact hlinked.approvalRequests
        · exact hlinked.projectionCursors
        · intro row hrow
          cases hrow
        · intro row hrow
          cases hrow
  | v4 contents =>
      obtain ⟨hnext, hsatisfies⟩ := migrateV4ToV5_ok h.1
      refine ⟨.v5 _, congrArg (Except.map v5) hnext, ⟨hsatisfies, h.2⟩, rfl, ?_, rfl⟩
      change (List.map _ (contents.runs.map _)).map _ = (contents.runs.map _).map _
      simp only [List.map_map]
      rfl
  | v5 contents =>
      exact ⟨.v6 contents, congrArg (Except.map v6) (migrateV5ToV6_ok h.1.others), h, rfl, rfl, rfl⟩
  | v6 contents => exact absurd hlast (lt_irrefl _)

/-! ## Every upgrade -/

/-- However many migrations remain, they all succeed. -/
theorem Stored.applyAll_ok {stored : Stored} (count : Nat) (h : stored.Satisfies)
    (hfirst : 2 ≤ stored.version) (hlast : stored.version + count = schemaVersion) :
    ∃ contents, applyAll count stored = .ok (.v6 contents) ∧
      (v6 contents).Satisfies ∧
      (v6 contents).runs.map (·.upgraded) = stored.runs.map (·.upgraded) ∧
      contents.toOthers = stored.others := by
  induction count generalizing stored with
  | zero =>
      cases stored with
      | v6 contents => exact ⟨contents, rfl, h, rfl, rfl⟩
      | v0 | v1 _ | v2 _ | v3 _ | v4 _ | v5 _ =>
          exact absurd hlast (by simp [version, schemaVersion])
  | succ count ih =>
      obtain ⟨next, hnext, hfollows⟩ := Stored.next_ok h hfirst (by omega)
      have hversion := hfollows.version
      obtain ⟨contents, happly, hsatisfies, hupgraded, hothers⟩ :=
        ih hfollows.satisfies (by omega) (by omega)
      refine ⟨contents, ?_, hsatisfies, hupgraded.trans hfollows.upgraded,
        hothers.trans hfollows.others⟩
      rw [applyAll, hnext]
      exact happly

/-! ## Reading a migrated run -/

/-- The bound on a component and the characters it must not have. -/
theorem tooLong_eq_false {value : String} {maxLen : Nat} :
    ¬(maxLen < value.utf8ByteSize || value.toList.any isControl) = true ↔
      value.utf8ByteSize ≤ maxLen ∧ value.toList.any isControl = false := by
  rw [Bool.not_eq_true, Bool.or_eq_false_iff, decide_eq_false_iff_not, not_lt]

theorem requireProviderComponent_ok {field value : String} {maxLen : Nat} :
    requireProviderComponent field value maxLen = .ok () ↔ trimIsEmpty value = false ∧
      value.utf8ByteSize ≤ maxLen ∧ value.toList.any isControl = false := by
  unfold requireProviderComponent requireNonempty
  rw [← tooLong_eq_false]
  cases trimIsEmpty value with
  | true => simp [bind, Except.bind]
  | false =>
      cases (decide (maxLen < value.utf8ByteSize) || value.toList.any isControl) with
      | true => simp [bind, Except.bind, throw, throwThe, MonadExceptOf.throw]
      | false => simp [bind, Except.bind, pure, Except.pure]

theorem checkNamespacedProviderId_ok {ns value : String}
    (h : checkNamespacedProviderId ns value = .ok ()) :
    (trimIsEmpty ns = false ∧ ns.utf8ByteSize ≤ 128 ∧ ns.toList.any isControl = false) ∧
      trimIsEmpty value = false ∧ value.utf8ByteSize ≤ 4096 ∧
        value.toList.any isControl = false := by
  unfold checkNamespacedProviderId requireNonempty at h
  rw [← tooLong_eq_false, ← tooLong_eq_false]
  cases hns : trimIsEmpty ns with
  | true => simp [hns, bind, Except.bind] at h
  | false =>
      cases hvalue : trimIsEmpty value with
      | true => simp [hns, hvalue, bind, Except.bind] at h
      | false =>
          simp only [hns, hvalue, Bool.false_eq_true, if_false, bind, Except.bind] at h
          split at h
          · cases h
          · next hfirst =>
              split at h
              · cases h
              · next hsecond => exact ⟨⟨rfl, hfirst⟩, rfl, hsecond⟩

theorem checkProviderRunIdentity_widened {ns runId : String}
    (h : checkNamespacedProviderId ns runId = .ok ()) :
    checkProviderRunIdentity ns ns runId runId = .ok () := by
  obtain ⟨⟨hns, hnsLength, hnsControl⟩, hrun⟩ := checkNamespacedProviderId_ok h
  have hruntime : ns.utf8ByteSize ≤ 4096 := le_trans hnsLength (by decide)
  unfold checkProviderRunIdentity
  rw [requireProviderComponent_ok.mpr ⟨hns, hnsLength, hnsControl⟩,
    requireProviderComponent_ok.mpr ⟨hns, hruntime, hnsControl⟩,
    requireProviderComponent_ok.mpr hrun, requireProviderComponent_ok.mpr hrun]
  rfl

theorem runStatusFromValue_ok {status : String} (h : status ∈ runStatuses) :
    ∃ found, runStatusFromValue status = .ok found := by
  simp only [runStatuses, List.mem_cons, List.not_mem_nil, or_false] at h
  rcases h with rfl | rfl | rfl | rfl | rfl | rfl | rfl
  · exact ⟨_, rfl⟩
  · exact ⟨_, rfl⟩
  · exact ⟨_, rfl⟩
  · exact ⟨_, rfl⟩
  · exact ⟨_, rfl⟩
  · exact ⟨_, rfl⟩
  · exact ⟨_, rfl⟩

/-- The column holds a text that the constructor accepts. -/
def Reads {α : Type} (fromStr : String → Except ValidationError α) (value : Value) : Prop :=
  ∃ text, value = .text text ∧ ∃ found, fromStr text = .ok found

theorem parseColumn_ok {α : Type} {fromStr : String → Except ValidationError α} {column : Nat}
    {name : String} {value : Value} :
    (∃ found, parseColumn fromStr column name value = .ok found) ↔ Reads fromStr value := by
  constructor
  · rintro ⟨found, hfound⟩
    obtain ⟨text, htext, hparsed⟩ := bind_ok hfound
    cases value with
    | text value =>
        cases htext
        cases hread : fromStr text with
        | error error =>
            rw [hread] at hparsed
            cases hparsed
        | ok other => exact ⟨text, rfl, other, hread⟩
    | null | integer | real | blob => cases htext
  · rintro ⟨text, rfl, found, hfound⟩
    exact ⟨found, parseColumn_text hfound⟩

theorem getInteger_ok {column : Nat} {name : String} {value : Value} :
    (∃ found, getInteger column name value = .ok found) ↔ ∃ ms, value = .integer ms := by
  cases value <;> simp [getInteger]

theorem getOptional_getInteger_ok {column : Nat} {name : String} {value : Value} :
    (∃ found, getOptional (getInteger column name) value = .ok found) ↔
      value = .null ∨ ∃ ms, value = .integer ms := by
  cases value <;> simp [getOptional, getInteger, Except.map]

theorem runStatus_ok {row : RunColumns} (h : row.status.isOneOf runStatuses = true) :
    ∃ found, row.runStatus = .ok found := by
  cases hstatus : row.status with
  | text value =>
      rw [hstatus] at h
      obtain ⟨found, hfound⟩ := runStatusFromValue_ok (of_decide_eq_true h)
      refine ⟨found, ?_⟩
      unfold RunColumns.runStatus
      rw [hstatus]
      exact hfound
  | null | integer | real | blob =>
      rw [hstatus] at h
      cases h

/-- What `get_run` needs of a row besides its identity and its status. -/
structure RunColumns.Readable [UuidErrors] (row : RunColumns) : Prop where
  connectionId : Reads ConnectionId.fromStr row.connectionId
  workItemId : Reads WorkItemId.fromStr row.workItemId
  createdAtMs : ∃ ms, row.createdAtMs = .integer ms
  endedAtMs : row.endedAtMs = .null ∨ ∃ ms, row.endedAtMs = .integer ms

/-- A row is read if its columns are. -/
theorem runFromRow_ok [UuidErrors] {row : RunColumns} {id : RunId}
    {identity : Option ProviderRunIdentity} (hid : row.id = .text id.uuid.toText)
    (hstatus : row.status.isOneOf runStatuses = true) (hidentity : row.identity = .ok identity) :
    (∃ snapshot, runFromRow row = .ok snapshot) ↔ row.Readable := by
  have hrun : parseColumn RunId.fromStr 0 "id" row.id = .ok id := by
    rw [hid, parseColumn_text (RunId.fromStr_toText id)]
  obtain ⟨status, hstatus⟩ := runStatus_ok hstatus
  constructor
  · rintro ⟨snapshot, hread⟩
    obtain ⟨_, _, hread⟩ := bind_ok hread
    obtain ⟨connection, hconnection, hread⟩ := bind_ok hread
    obtain ⟨item, hitem, hread⟩ := bind_ok hread
    obtain ⟨_, _, hread⟩ := bind_ok hread
    obtain ⟨_, _, hread⟩ := bind_ok hread
    obtain ⟨created, hcreated, hread⟩ := bind_ok hread
    obtain ⟨ended, hended, _⟩ := bind_ok hread
    exact ⟨parseColumn_ok.mp ⟨connection, hconnection⟩, parseColumn_ok.mp ⟨item, hitem⟩,
      getInteger_ok.mp ⟨created, hcreated⟩, getOptional_getInteger_ok.mp ⟨ended, hended⟩⟩
  · intro h
    obtain ⟨connection, hconnection⟩ :
        ∃ found, parseColumn ConnectionId.fromStr 1 "connection_id" row.connectionId = .ok found :=
      parseColumn_ok.mpr h.connectionId
    obtain ⟨item, hitem⟩ :
        ∃ found, parseColumn WorkItemId.fromStr 2 "work_item_id" row.workItemId = .ok found :=
      parseColumn_ok.mpr h.workItemId
    obtain ⟨created, hcreated⟩ :
        ∃ found, getInteger 8 "created_at_ms" row.createdAtMs = .ok found :=
      getInteger_ok.mpr h.createdAtMs
    obtain ⟨ended, hended⟩ :
        ∃ found, getOptional (getInteger 9 "ended_at_ms") row.endedAtMs = .ok found :=
      getOptional_getInteger_ok.mpr h.endedAtMs
    refine ⟨⟨id, connection, item, status, identity, ⟨created⟩, ended.map UtcTimestamp.mk⟩, ?_⟩
    unfold runFromRow
    rw [hrun, hconnection, hitem, hstatus, hidentity, hcreated, hended]
    rfl

/-- Four texts that are accepted together are the identity of their row. -/
theorem identity_of_accepted {row : RunColumns} {ns runtimeId sessionId runId : String}
    (hns : row.providerNamespace = .text ns) (hruntime : row.providerRuntimeId = .text runtimeId)
    (hsession : row.providerSessionId = .text sessionId) (hrun : row.providerRunId = .text runId)
    (haccepted : checkProviderRunIdentity ns runtimeId sessionId runId = .ok ()) :
    row.identity = .ok (some ⟨ns, runtimeId, sessionId, runId, haccepted⟩) := by
  unfold RunColumns.identity
  rw [hns, hruntime, hsession, hrun]
  change ((ProviderRunIdentity.new ns runtimeId sessionId runId).map some).mapError _ = _
  rw [ProviderRunIdentity.new_of_accepted haccepted]
  rfl

/-- The identity that a migrated run is read with. -/
theorem StoredRun.identity_upgraded {run : StoredRun} (haccepted : run.Accepted)
    (hprovider : providerCheck run.upgraded = true) :
    ∃ identity, run.upgraded.identity = .ok identity ∧
      optional .text (identity.map (·.ns)) = run.common.providerNamespace ∧
      optional .text (identity.map (·.runId)) = run.common.providerRunId := by
  have habsent : run.upgraded.providerNamespace = .null →
      run.upgraded.identity = .ok none ∧ run.upgraded.providerRunId = .null := by
    intro hnull
    simp only [providerCheck, hnull, decide_true, Bool.and_eq_true, beq_iff_eq] at hprovider
    obtain ⟨⟨hruntime, hsession⟩, hrun⟩ := hprovider
    replace hruntime := of_decide_eq_true hruntime.symm
    replace hsession := of_decide_eq_true hsession.symm
    replace hrun := of_decide_eq_true hrun.symm
    refine ⟨?_, hrun⟩
    unfold RunColumns.identity
    rw [hnull, hruntime, hsession, hrun]
    rfl
  cases run with
  | legacy row =>
      rcases haccepted with hnull | ⟨ns, runId, hns, hrun, hcheck⟩
      · obtain ⟨hidentity, hrun⟩ := habsent hnull
        exact ⟨none, hidentity, hnull.symm, hrun.symm⟩
      · exact ⟨_, identity_of_accepted hns hns hrun hrun (checkProviderRunIdentity_widened hcheck),
          hns.symm, hrun.symm⟩
  | full row =>
      rcases haccepted with hnull | ⟨ns, runtimeId, sessionId, runId, hns, hruntime, hsession, hrun,
        hcheck⟩
      · obtain ⟨hidentity, hrun⟩ := habsent hnull
        exact ⟨none, hidentity, hnull.symm, hrun.symm⟩
      · exact ⟨_, identity_of_accepted hns hruntime hsession hrun hcheck, hns.symm, hrun.symm⟩

/-! ## Every upgrade preserves every run -/

/-- A run before and after the upgrade. -/
structure Carried [UuidErrors] (contents : Contents RunColumns) (before : StoredRun)
    (after : RunColumns) : Prop where
  id : after.id = before.common.id
  connectionId : after.connectionId = before.common.connectionId
  workItemId : after.workItemId = before.common.workItemId
  status : after.status = before.common.status
  createdAtMs : after.createdAtMs = before.common.createdAtMs
  endedAtMs : after.endedAtMs =
    if before.common.status.isOneOf endedStatuses then before.common.endedAtMs else .null
  ended : after.endedAtMs ≠ .null ↔ after.status.isOneOf endedStatuses = true
  identity : before.Accepted →
    ∃ identity, after.identity = .ok identity ∧
      optional .text (identity.map (·.ns)) = before.common.providerNamespace ∧
      optional .text (identity.map (·.runId)) = before.common.providerRunId
  readable : before.Accepted → ∀ id : RunId, after.id = .text id.uuid.toText →
    ((∃ snapshot, getRun contents id = .ok snapshot) ↔ after.Readable)

/-- What opening a database of an older version leaves of it. -/
structure Upgraded [UuidErrors] (stored : Stored) (contents : Contents RunColumns) : Prop where
  satisfies : (Stored.v6 contents).Satisfies
  runs : List.Forall₂ (Carried contents) stored.runs contents.runs
  distinct : ∀ first ∈ stored.runs.zip contents.runs, ∀ second ∈ stored.runs.zip contents.runs,
    first.1.identity ≠ second.1.identity → providerKey.of first.2 ≠ providerKey.of second.2
  others : contents.toOthers = stored.others

/-- The rows of one version are told apart by their identity, and so are the upgraded ones. -/
theorem Stored.identity_eq_of_upgraded {stored : Stored} {first second : StoredRun}
    (hfirst : first ∈ stored.runs) (hsecond : second ∈ stored.runs)
    (h : providerKey.of first.upgraded = providerKey.of second.upgraded) :
    first.identity = second.identity := by
  have hlegacy : ∀ row row' : LegacyRunColumns,
      providerKey.of row.withEnd.widen = providerKey.of row'.withEnd.widen →
        legacyProviderKey.of row = legacyProviderKey.of row' := by
    intro row row' hkey
    simp only [providerKey, legacyProviderKey, Key.of, List.map_cons, List.map_nil,
      List.cons.injEq, and_true] at hkey ⊢
    exact ⟨hkey.1, hkey.2.1, hkey.2.2.2.2⟩
  cases stored with
  | v0 => cases hfirst
  | v2 contents | v3 contents | v4 contents =>
      obtain ⟨row, _, rfl⟩ := List.mem_map.mp hfirst
      obtain ⟨row', _, rfl⟩ := List.mem_map.mp hsecond
      exact hlegacy row row' h
  | v1 contents | v5 contents | v6 contents =>
      obtain ⟨row, _, rfl⟩ := List.mem_map.mp hfirst
      obtain ⟨row', _, rfl⟩ := List.mem_map.mp hsecond
      exact h

/-- A run that is found under its id. -/
theorem getRun_of_mem [UuidErrors] {contents : Contents RunColumns} {row : RunColumns} {id : RunId}
    (hruns : runsV5.Holds contents.runs) (hrow : row ∈ contents.runs)
    (hid : row.id = .text id.uuid.toText) :
    getRun contents id = (runFromRow row).mapError mapDatabaseError := by
  have hnodup : (contents.runs.map (·.id)).Nodup := by
    rw [List.nodup_iff_pairwise_ne, List.pairwise_map]
    apply (hruns.distinct _ List.mem_cons_self).imp_of_mem
    intro first second hfirst _ hdistinct hsame
    have hrequired : notNull requiredRunColumns first.toLegacyRunColumns = true :=
      hruns.checked first hfirst _ List.mem_cons_self
    have hid : Value.null ∉ Key.of [fun row : RunColumns => row.id] first := by
      unfold notNull requiredRunColumns Key.of at hrequired
      rw [List.map_cons, List.all_cons, Bool.and_eq_true, decide_eq_true_iff] at hrequired
      simpa [Key.of] using Ne.symm hrequired.1
    exact hdistinct ⟨congrArg ([·]) hsame, hid⟩
  have hfound : Keyed.lookup (·.id) contents.runs (.text id.uuid.toText) = some row :=
    hid ▸ Keyed.lookup_of_mem hnodup hrow
  rw [getRun, hfound]

theorem StoredRun.carried [UuidErrors] {contents : Contents RunColumns} {run : StoredRun}
    (hruns : runsV5.Holds contents.runs) (hrow : run.upgraded ∈ contents.runs) :
    Carried contents run run.upgraded := by
  have hchecks := hruns.checked _ hrow
  simp only [runsV5, List.forall_mem_cons] at hchecks
  obtain ⟨_, hstatus, hprovider, hended, _⟩ := hchecks
  have hcommon : run.upgraded.toLegacyRunColumns = run.common.withEnd := by
    cases run <;> rfl
  constructor
  · rw [hcommon, LegacyRunColumns.withEnd]
  · rw [hcommon, LegacyRunColumns.withEnd]
  · rw [hcommon, LegacyRunColumns.withEnd]
  · rw [hcommon, LegacyRunColumns.withEnd]
  · rw [hcommon, LegacyRunColumns.withEnd]
  · rw [hcommon, LegacyRunColumns.withEnd]
  · unfold endedCheck at hended
    rw [beq_iff_eq.mp hended, decide_eq_true_iff]
  · exact fun haccepted => StoredRun.identity_upgraded haccepted hprovider
  · intro haccepted id hid
    obtain ⟨identity, hidentity, _⟩ := StoredRun.identity_upgraded haccepted hprovider
    rw [getRun_of_mem hruns hrow hid, ← runFromRow_ok hid hstatus hidentity]
    cases runFromRow run.upgraded with
    | error error => simp [Except.mapError]
    | ok snapshot => simp [Except.mapError]

/-- In the last version the upgrade has nothing left to do. -/
theorem upgraded_full {rows : List RunColumns} (h : runsV5.Holds rows) :
    (rows.map StoredRun.full).map (·.upgraded) = rows := by
  have hsame : ∀ row ∈ rows, (StoredRun.full row).upgraded = row := by
    intro row hrow
    have hchecks := h.checked row hrow
    simp only [runsV5, List.forall_mem_cons] at hchecks
    rw [StoredRun.upgraded, withEnd_of_endedCheck hchecks.2.2.2.1]
  rw [List.map_map]
  exact (List.map_congr_left hsame).trans (List.map_id' rows)

/-- A database of version 2 or later is upgraded without a violated constraint, and
every run in it is carried over. -/
theorem openConnection_preserves [UuidErrors] {stored : Stored} (h : stored.Satisfies)
    (hversion : 2 ≤ stored.version) :
    ∃ contents, openConnection stored = .ok contents ∧ Upgraded stored contents := by
  have hlast : stored.version ≤ schemaVersion := by
    cases stored <;> simp [Stored.version, schemaVersion]
  obtain ⟨contents, happly, hsatisfies, hupgraded, hothers⟩ :=
    Stored.applyAll_ok (schemaVersion - stored.version) h hversion (by omega)
  have hruns : contents.runs = stored.runs.map (·.upgraded) :=
    (upgraded_full hsatisfies.1.runs).symm.trans hupgraded
  refine ⟨contents, ?_, hsatisfies, ?_, ?_, hothers⟩
  · unfold openConnection Stored.toLatest
    rw [happly]
    exact if_pos hsatisfies.1.linked
  · rw [hruns, List.forall₂_map_right_iff, List.forall₂_same]
    intro run hrun
    exact run.carried hsatisfies.1.runs (hruns ▸ List.mem_map_of_mem hrun)
  · rw [hruns, ← List.map_prod_left_eq_zip]
    intro first hfirst second hsecond hdistinct hsame
    obtain ⟨run, hrun, rfl⟩ := List.mem_map.mp hfirst
    obtain ⟨run', hrun', rfl⟩ := List.mem_map.mp hsecond
    exact hdistinct (Stored.identity_eq_of_upgraded hrun hrun' hsame)

section Example

/-- One of four identifiers. -/
def storedId (n : Nat) : Uuid :=
  ⟨BitVec.ofNat 128 (7 * 2 ^ 76 + 2 * 2 ^ 62 + 56 + n % 4),
    (by decide : ∀ k : Fin 4, isUuidV7 (BitVec.ofNat 128 (7 * 2 ^ 76 + 2 * 2 ^ 62 + 56 + k)) = true)
      ⟨n % 4, Nat.mod_lt n (by decide)⟩⟩

def sampleRun : RunId := ⟨storedId 0⟩

/-- Every identifier of the examples is one that parses. -/
local instance exampleErrors : UuidErrors := ⟨fun _ => ""⟩

def sampleOthers : Others where
  projects := [⟨.text "project", .text "Project", .integer 0⟩]
  workItems := [⟨.text (storedId 1).toText, .text "project", .text "Item", .text "ready",
    .integer 1, .integer 0, .integer 0, .null⟩]

/-- A run with a provider identity. -/
def sampleRow (connection : Value) (status : String) (createdAtMs endedAtMs : Value) :
    LegacyRunColumns where
  id := .text sampleRun.uuid.toText
  connectionId := connection
  workItemId := .text (storedId 1).toText
  status := .text status
  providerNamespace := .text "codex"
  providerRunId := .text "turn"
  createdAtMs := createdAtMs
  endedAtMs := endedAtMs

/-- A version 2 database: a disconnected run still has an end there. -/
def sampleStored (connection createdAtMs : Value) : Stored :=
  .v2 { sampleOthers with
    runs := [sampleRow connection "disconnected" createdAtMs (.integer 5)] }

/-- A connection that the store would write. -/
def sampleConnection : Value := .text (storedId 2).toText

/-- A UUID of version 4. -/
def foreignConnection : Value := .text "550e8400-e29b-41d4-a716-446655440000"

theorem sampleOthers_holds : sampleOthers.Holds := by
  constructor
  all_goals decide +kernel

/-- The values that the examples have for the connection and the creation of the run. -/
def sampleValues : List (Value × Value) :=
  [(sampleConnection, .integer 0), (foreignConnection, .integer 0),
    (sampleConnection, .text "yesterday")]

theorem sampleStored_satisfies :
    ∀ values ∈ sampleValues, (sampleStored values.1 values.2).Satisfies := by
  have hruns : ∀ values ∈ sampleValues,
      runsV2.Holds [sampleRow values.1 "disconnected" values.2 (.integer 5)] := by decide +kernel
  have hlinked : ∀ values ∈ sampleValues, Contents.Linked id { sampleOthers with
      runs := [sampleRow values.1 "disconnected" values.2 (.integer 5)] } := by decide +kernel
  intro values hmem
  exact ⟨⟨sampleOthers_holds, hruns values hmem, Schema.Holds.nil, hlinked values hmem⟩, rfl⟩

/-- The disconnected run loses its end on the way and nothing else. -/
theorem openConnection_preserves_sampleStored :
    ∃ contents,
      openConnection (sampleStored sampleConnection (.integer 0)) = .ok contents ∧
      Upgraded (sampleStored sampleConnection (.integer 0)) contents :=
  openConnection_preserves (sampleStored_satisfies (sampleConnection, .integer 0) (by decide))
    (by decide)

/-- A version 5 database whose run has no runtime to speak of. -/
def sampleWide : Stored :=
  .v5 { sampleOthers with
    runs := [{ (sampleRow sampleConnection "running" (.integer 0) .null).widen with
      providerRuntimeId := .text "" }]
    artifacts := some [] }

theorem sampleWide_satisfies : sampleWide.Satisfies := by
  refine ⟨⟨sampleOthers_holds, ?_, ?_, ?_⟩, rfl⟩
  all_goals decide +kernel

/-- The tables take any value for the connection of a run and for its times, and any
text for its runtime; such a run is not read. -/
theorem openConnection_unreadable :
    ((sampleStored foreignConnection (.integer 0)).Satisfies ∧
      2 ≤ (sampleStored foreignConnection (.integer 0)).version ∧
      checkNamespacedProviderId "codex" "turn" = .ok () ∧
      openConnection (sampleStored foreignConnection (.integer 0)) >>= (getRun · sampleRun) =
        .error (.integrity
          "Conversion error from type Text at index: 1, connection id must be a UUIDv7")) ∧
    ((sampleStored sampleConnection (.text "yesterday")).Satisfies ∧
      2 ≤ (sampleStored sampleConnection (.text "yesterday")).version ∧
      openConnection (sampleStored sampleConnection (.text "yesterday")) >>=
          (getRun · sampleRun) =
        .error (.integrity "Invalid column type Text at index: 8, name: created_at_ms")) ∧
    sampleWide.Satisfies ∧ 2 ≤ sampleWide.version ∧
      openConnection sampleWide >>= (getRun · sampleRun) =
        .error (.integrity
          "Conversion error from type Text at index: 0, provider runtime id cannot be empty") :=
  ⟨⟨sampleStored_satisfies (foreignConnection, .integer 0) (by decide), by decide,
      by decide +kernel, by decide +kernel⟩,
    ⟨sampleStored_satisfies (sampleConnection, .text "yesterday") (by decide), by decide,
      by decide +kernel⟩,
    sampleWide_satisfies, by decide, by decide +kernel⟩

end Example

end YakShed.Sqlite
