/-
# Work-item revisions

The revision of a work item counts the changes of everything that can be read
about it: its row, its runs, their timelines and their approvals. A call either
bumps the item or leaves all of that as it is, so that two readings of one
revision are readings of one content.
-/

import YakShed.Collections.Paging
import YakShed.Store.Creation
import YakShed.Store.ExactlyOnce

namespace YakShed

/-- What is stored of one work item. -/
structure Aggregate where
  item : Option WorkItemRow
  parent : Option WorkItemId
  runs : List RunRow
  timeline : List TimelineItemRow
  approvals : List ApprovalRow

namespace Database

variable {db db' : Database} {item : WorkItemId}

def runsOf (db : Database) (item : WorkItemId) : List RunRow :=
  db.runs.filter (·.workItemId = item)

/-- The run is one of the item's. -/
def Owns (db : Database) (item : WorkItemId) (run : RunId) : Prop :=
  run ∈ (db.runsOf item).map (·.id)

instance (run : RunId) : Decidable (db.Owns item run) := by
  unfold Owns
  infer_instance

def aggregate (db : Database) (item : WorkItemId) : Aggregate :=
  { item := db.findWorkItem item, parent := db.parentOf item, runs := db.runsOf item
    timeline := db.timelineItems.filter fun row => db.Owns item row.runId
    approvals := db.approvalRequests.filter fun row => db.Owns item row.runId }

theorem owns_iff (hids : (db.runs.map (·.id)).Nodup) {run : RunId} :
    db.Owns item run ↔ ∃ row, db.findRun run = some row ∧ row.workItemId = item := by
  unfold Owns runsOf
  constructor
  · intro h
    obtain ⟨row, hrow, rfl⟩ := List.mem_map.mp h
    obtain ⟨hmem, hitem⟩ := List.mem_filter.mp hrow
    exact ⟨row, Keyed.lookup_of_mem hids hmem, of_decide_eq_true hitem⟩
  · rintro ⟨row, hrow, hitem⟩
    refine List.mem_map.mpr ⟨row, List.mem_filter.mpr ⟨Keyed.mem_of_lookup hrow, ?_⟩,
      Keyed.key_of_lookup hrow⟩
    exact decide_eq_true hitem

/-! ## One call -/

/-- The item was bumped, or all that is stored of it is as it was. -/
inductive Versioned (db db' : Database) (item : WorkItemId) (row : WorkItemRow) : Prop
  | bumped (row' : WorkItemRow) (found : db'.findWorkItem item = some row')
      (next : row'.revision = row.revision + 1)
  | untouched (same : db'.aggregate item = db.aggregate item)

/-- Nothing that is stored of the item has changed. -/
theorem aggregate_eq (hitem : db'.findWorkItem item = db.findWorkItem item)
    (hparent : db'.parentOf item = db.parentOf item) (hruns : db'.runsOf item = db.runsOf item)
    (htimeline : db'.timelineItems.filter (fun row => db.Owns item row.runId) =
      db.timelineItems.filter fun row => db.Owns item row.runId)
    (happrovals : db'.approvalRequests.filter (fun row => db.Owns item row.runId) =
      db.approvalRequests.filter fun row => db.Owns item row.runId) :
    db'.aggregate item = db.aggregate item := by
  have howns : ∀ run, db'.Owns item run ↔ db.Owns item run := fun run => by
    unfold Owns
    rw [hruns]
  unfold aggregate
  simp only [howns, hitem, hparent, hruns, htimeline, happrovals]

theorem findWorkItem_bumpRevision {other : WorkItemId} {ms : Int} :
    (db.bumpRevision other ms).findWorkItem item =
      if item = other then (db.findWorkItem item).map (·.bump ms) else db.findWorkItem item := by
  split
  · next h =>
      subst h
      exact Keyed.lookup_update_self fun _ => rfl
  · next h => exact Keyed.lookup_update_ne (fun _ => rfl) h

/-- The last step of most calls: one item is bumped, and what else has changed
is that item's. -/
theorem Versioned.of_bump {row : WorkItemRow} {before : Database} {other : WorkItemId} {ms : Int}
    (hrow : db.findWorkItem item = some row) (hitems : before.workItems = db.workItems)
    (hedges : before.workEdges = db.workEdges)
    (hsame : item ≠ other → before.runsOf item = db.runsOf item ∧
      before.timelineItems.filter (fun row => db.Owns item row.runId) =
        db.timelineItems.filter (fun row => db.Owns item row.runId) ∧
      before.approvalRequests.filter (fun row => db.Owns item row.runId) =
        db.approvalRequests.filter fun row => db.Owns item row.runId) :
    db.Versioned (before.bumpRevision other ms) item row := by
  have hfound : before.findWorkItem item = some row := by
    unfold findWorkItem
    rw [hitems]
    exact hrow
  by_cases hother : item = other
  · refine .bumped (row.bump ms) ?_ rfl
    rw [findWorkItem_bumpRevision, if_pos hother, hfound, Option.map_some]
  · obtain ⟨hruns, htimeline, happrovals⟩ := hsame hother
    refine .untouched (aggregate_eq ?_ ?_ hruns htimeline happrovals)
    · rw [findWorkItem_bumpRevision, if_neg hother, hfound, hrow]
    · unfold parentOf
      exact congrArg (fun edges => (Keyed.lookup _ edges item).map _) hedges

section Changes

variable [Sha256] {now : UtcTimestamp}

omit [Sha256] in
/-- Appending rows of other runs is not seen. -/
theorem filter_append_of_not_owns {α : Type} {runOf : α → RunId} {rows more : List α}
    (h : ∀ row ∈ more, ¬ db.Owns item (runOf row)) :
    (rows ++ more).filter (fun row => db.Owns item (runOf row)) =
      rows.filter fun row => db.Owns item (runOf row) := by
  have hnone : more.filter (fun row => db.Owns item (runOf row)) = [] := by
    refine List.filter_eq_nil_iff.mpr fun row hrow => ?_
    rw [decide_eq_true_eq]
    exact h row hrow
  rw [List.filter_append, hnone, List.append_nil]

omit [Sha256] in
/-- Rewriting rows of other runs is not seen. -/
theorem filter_map_of_not_owns {f : ApprovalRow → ApprovalRow}
    (hrun : ∀ row, (f row).runId = row.runId)
    (hsame : ∀ row ∈ db.approvalRequests, db.Owns item row.runId → f row = row) :
    (db.approvalRequests.map f).filter (fun row => db.Owns item row.runId) =
      db.approvalRequests.filter fun row => db.Owns item row.runId := by
  refine Paging.filter_map_of_kept fun row hrow => ⟨?_, fun howns => ?_⟩
  · rw [hrun]
  · exact hsame row hrow (of_decide_eq_true howns)

omit [Sha256] in
/-- Answering an approval bumps the item of its run. -/
theorem Versioned.of_answer (hdb : db.Sound) {row : WorkItemRow}
    (hrow : db.findWorkItem item = some row) {id : ApprovalRequestId} {found : ApprovalRow}
    (hfound : db.findApproval id = some found) {f : ApprovalRow → ApprovalRow}
    (hrun : ∀ row, (f row).runId = row.runId) {before : Database} {ms : Int}
    (hitems : before.workItems = db.workItems) (hedges : before.workEdges = db.workEdges)
    (hruns : before.runs = db.runs) (htimeline : before.timelineItems = db.timelineItems)
    (happrovals : before.approvalRequests = Keyed.update (·.id) id f db.approvalRequests) :
    db.Versioned (before.bumpIfFound (db.approvalWorkItem id) ms) item row := by
  obtain ⟨run, hfoundRun, _⟩ := hdb.approvalRun found (Keyed.mem_of_lookup hfound)
  have hitem : db.approvalWorkItem id = some run.workItemId := by
    unfold approvalWorkItem
    rw [hfound]
    change (db.findRun found.runId).bind _ = _
    rw [hfoundRun]
    rfl
  rw [hitem]
  refine .of_bump hrow hitems hedges fun hne => ⟨?_, ?_, ?_⟩
  · unfold runsOf
    rw [hruns]
  · rw [htimeline]
  · rw [happrovals]
    refine filter_map_of_not_owns (fun other => ?_) fun other hother howns => ?_
    · split
      · exact hrun other
      · rfl
    · refine if_neg fun hid => hne ?_
      have hlookup := Keyed.lookup_of_mem hdb.approvalIds hother
      rw [show other.id = id from hid] at hlookup
      obtain rfl : found = other := Option.some.inj (hfound.symm.trans hlookup)
      obtain ⟨owner, howner, hownerItem⟩ := (owns_iff hdb.runIds).mp howns
      rw [hfoundRun] at howner
      cases howner
      exact hownerItem.symm

/-- One call bumps the item or leaves it alone. -/
theorem versioned (hdb : db.Sound) (h : Change now db db') {row : WorkItemRow}
    (hrow : db.findWorkItem item = some row) : db.Versioned db' item row := by
  have hnotOwned : ∀ {run : RunId} {found : RunRow}, db.findRun run = some found →
      item ≠ found.workItemId → ¬ db.Owns item run := by
    intro run found hfound hne howns
    obtain ⟨other, hother, hitem⟩ := (owns_iff hdb.runIds).mp howns
    rw [hfound] at hother
    cases hother
    exact hne hitem.symm
  cases h with
  | unchanged | project => exact .untouched rfl
  | workItem command hfresh hproject hparent =>
      have hne : command.id ≠ item := by
        rintro rfl
        rw [hfresh] at hrow
        cases hrow
      refine .untouched (aggregate_eq ?_ (parentOf_afterWorkItem hne) rfl rfl rfl)
      exact Keyed.lookup_append_singleton_ne hne
  | archive root found =>
      have hfound : (db.afterArchive root now).findWorkItem item =
          some (if row.id ∈ db.subtree db.workEdges.length [root] ∧ row.status ≠ .archived then
            row.archive now.unixMillis
          else row) := by
        refine (Keyed.lookup_map fun row => ?_).trans (congrArg (Option.map _) hrow)
        split <;> rfl
      by_cases haffected : row.id ∈ db.subtree db.workEdges.length [root] ∧ row.status ≠ .archived
      · rw [if_pos haffected] at hfound
        exact .bumped (row.archive now.unixMillis) hfound rfl
      · rw [if_neg haffected, ← hrow] at hfound
        exact .untouched (aggregate_eq hfound rfl rfl rfl rfl)
  | run command hfresh hitem hfree =>
      refine .of_bump hrow rfl rfl fun hne => ⟨?_, rfl, rfl⟩
      unfold runsOf
      rw [List.filter_append]
      have hother : [command.row now].filter (fun row => row.workItemId = item) = [] := by
        refine List.filter_eq_nil_iff.mpr fun added hadded => ?_
        rw [List.mem_singleton.mp hadded, decide_eq_true_eq]
        exact Ne.symm hne
      rw [hother, List.append_nil]
  | transition command run hlegal hfound hstatus hfree haudit =>
      refine .of_bump hrow rfl rfl fun hne => ⟨?_, rfl, ?_⟩
      · refine Paging.filter_map_of_kept fun other hother => ⟨?_, fun hitem => ?_⟩
        · split <;> rfl
        · refine if_neg fun hid => hne ?_
          have hlookup := Keyed.lookup_of_mem hdb.runIds hother
          rw [show other.id = command.runId from hid] at hlookup
          obtain rfl : run = other := Option.some.inj (hfound.symm.trans hlookup)
          exact (of_decide_eq_true hitem).symm
      · dsimp only
        split
        · refine filter_map_of_not_owns (fun other => ?_) fun other _ howns => ?_
          · split <;> rfl
          · refine if_neg fun hpending => hnotOwned hfound hne ?_
            have hrun : other.runId = command.runId := by
              unfold ApprovalRow.isPendingFor at hpending
              rw [Bool.and_eq_true] at hpending
              exact of_decide_eq_true hpending.1
            exact hrun ▸ howns
        · rfl
  | batch batch run hfound hconnection hreceipt hitem =>
      refine .of_bump hrow rfl rfl fun hne => ⟨rfl, ?_, rfl⟩
      refine filter_append_of_not_owns fun added hadded => ?_
      rw [batch.runId_of_mem_rowsFrom now hadded]
      exact hnotOwned hfound hne
  | approval approval run hfresh hfound hrunning hfree hitem =>
      refine .of_bump hrow rfl rfl fun hne => ⟨rfl, rfl, ?_⟩
      refine filter_append_of_not_owns fun added hadded => ?_
      rw [List.mem_singleton.mp hadded]
      exact hnotOwned hfound hne
  | begin response found hfound hpending haudit =>
      have hrun : ∀ row : ApprovalRow,
          (row.begin response.decision now.unixMillis).runId = row.runId := fun _ => rfl
      exact .of_answer hdb hrow hfound hrun rfl rfl rfl rfl rfl
  | confirm response found decision hfound hresponding hdecided haudit =>
      have hrun : ∀ row : ApprovalRow, (row.confirm now.unixMillis).runId = row.runId :=
        fun _ => rfl
      have hbefore : db.Versioned (bumpIfFound
          { db with
            approvalRequests := Keyed.update (·.id) response.approvalId (·.confirm now.unixMillis)
              db.approvalRequests }
          (db.approvalWorkItem response.approvalId) now.unixMillis) item row :=
        .of_answer hdb hrow hfound hrun rfl rfl rfl rfl rfl
      cases hbefore with
      | bumped row' hrow' hnext => exact .bumped row' hrow' hnext
      | untouched hsame => exact .untouched hsame

end Changes

end Database

end YakShed
