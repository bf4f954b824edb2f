/-
# Listings

A listing serves the rows of a table in the order of a key, some at a time. Its
pages make up the whole list where each starts after the last row of the one
before, because the keys of the rows strictly increase in every database that
the store can reach. While a work item keeps its revision, its lists stay what
they are.
-/

import YakShed.Store.Reading
import Mathlib.Data.List.Forall2

namespace YakShed

variable {now : UtcTimestamp} {db db' : Database} {item : WorkItemId}

/-! ## Identifiers of timeline items -/

theorem Database.Accepts.nodup_ids {rows : List TimelineItemRow} (h : db.Accepts rows)
    (hids : (db.timelineItems.map (·.id)).Nodup) :
    ((db.addItems rows).timelineItems.map (·.id)).Nodup := by
  induction rows generalizing db with
  | nil =>
      rw [addItems_nil]
      exact hids
  | cons row rest ih =>
      have hfresh : row.id ∉ db.timelineItems.map (·.id) := by
        intro hmem
        obtain ⟨other, hother, hid⟩ := List.mem_map.mp hmem
        have hviolation := h.1
        unfold TimelineItemRow.violation at hviolation
        have hany : db.timelineItems.any (·.id = row.id) = true :=
          List.any_eq_true.mpr ⟨other, hother, decide_eq_true hid⟩
        rw [hany] at hviolation
        split at hviolation <;> cases hviolation
      have hnext : ((db.addItems [row]).timelineItems.map (·.id)).Nodup := by
        simp only [addItems, List.map_append, List.map_cons, List.map_nil]
        rw [← List.concat_eq_append]
        exact hids.concat hfresh
      have hrest := ih h.2 hnext
      rwa [addItems_addItems] at hrest

section Calls

variable [Sha256]

/-- What an append adds to the timelines has passed the constraints of the table. -/
theorem appendTimelineBatch_timeline {batch : TimelineBatch} {cursor : StreamCursor}
    (h : (appendTimelineBatch now batch).run db = .ok (cursor, db')) :
    ∃ rows, db'.timelineItems = db.timelineItems ++ rows ∧ db.Accepts rows ∧
      ∀ row ∈ rows, row.revision ≤ i64Max := by
  unfold appendTimelineBatch at h
  simp only [Txn.bind_eq_ok, Txn.lift_eq_ok, Txn.read_eq_ok] at h
  obtain ⟨_, _, ⟨_, rfl⟩, _, _, ⟨rfl, rfl⟩, _, _, ⟨_, rfl⟩, _, _, ⟨_, rfl⟩, _, _, ⟨_, rfl⟩,
    _, _, ⟨_, rfl⟩, h⟩ := h
  split at h
  · simp only [Txn.pure_eq_ok] at h
    exact ⟨[], by rw [h.2, List.append_nil], trivial, by simp⟩
  · unfold commitBatch at h
    simp only [Txn.bind_eq_ok, Txn.lift_eq_ok, Txn.read_eq_ok, Txn.write_eq_ok, Txn.pure_eq_ok,
      insertItems_eq_ok, bumpWorkItemRevision_eq_ok] at h
    obtain ⟨_, _, ⟨_, rfl⟩, _, _, ⟨rfl, rfl⟩, _, _, ⟨hroom, haccepts, rfl⟩, _, _, ⟨_, rfl⟩, _, _,
      ⟨rfl, rfl⟩, _, _, rfl, _, _, ⟨_, rfl⟩, _, rfl⟩ := h
    refine ⟨_, rfl, haccepts, fun row hrow => ?_⟩
    have hrevision := List.mem_map_of_mem (f := TimelineItemRow.revision) hrow
    rw [TimelineBatch.map_revision_rowsFrom, List.mem_range'_1] at hrevision
    rcases hroom with hnil | hroom
    · rw [hnil] at hrow
      cases hrow
    · omega

/-- Timelines only grow, by rows that the table accepts. -/
theorem Database.timeline_after (db : Database) (call : Call) :
    ∃ rows, (db.after call).timelineItems = db.timelineItems ++ rows ∧ db.Accepts rows ∧
      ∀ row ∈ rows, row.revision ≤ i64Max := by
  have hkept : ∀ {db' : Database}, db'.timelineItems = db.timelineItems →
      ∃ rows, db'.timelineItems = db.timelineItems ++ rows ∧ db.Accepts rows ∧
        ∀ row ∈ rows, row.revision ≤ i64Max :=
    fun hsame => ⟨[], by rw [hsame, List.append_nil], trivial, by simp⟩
  unfold Database.after
  rcases hexec : call.op.exec call.now db with ⟨result, db'⟩
  cases result with
  | error error => exact hkept (congrArg _ (AppStore.exec_error hexec))
  | ok value =>
      have hframe := AppStore.frame_of_ok hexec
      obtain ⟨op, now⟩ := call
      cases op with
      | appendTimelineBatch batch => exact appendTimelineBatch_timeline (AppStore.exec_ok hexec)
      | _ => exact hkept (hframe.timeline rfl)

theorem Database.timelineIds_after (hids : (db.timelineItems.map (·.id)).Nodup) (call : Call) :
    ((db.after call).timelineItems.map (·.id)).Nodup := by
  obtain ⟨rows, hrows, haccepts, _⟩ := db.timeline_after call
  rw [hrows]
  exact haccepts.nodup_ids hids

/-! ## Reachable databases -/

/-- What makes every listing of a database an ordered list. -/
structure Database.Ordered (db : Database) : Prop where
  sound : db.Sound
  timelineIds : (db.timelineItems.map (·.id)).Nodup
  ingested : ∃ log, db.Ingested log

namespace Database

omit [Sha256] in
theorem Ordered.empty : empty.Ordered where
  sound := .empty
  timelineIds := .nil
  ingested := ⟨[], .empty⟩

theorem Ordered.after (h : db.Ordered) (call : Call) : (db.after call).Ordered where
  sound := h.sound.step (db.change_after call)
  timelineIds := timelineIds_after h.timelineIds call
  ingested := by
    obtain ⟨log, hlog⟩ := h.ingested
    exact ⟨_, hlog.after call⟩

theorem Ordered.afterAll (h : db.Ordered) (calls : List Call) : (db.afterAll calls).Ordered := by
  induction calls generalizing db with
  | nil => exact h
  | cons call calls ih => exact ih (h.after call)

/-! ## Revisions over many calls -/

/-- The revision of a work item never falls, and a revision that is kept keeps
everything that is stored of the item. -/
theorem versioned_afterAll (hdb : db.Sound) {row : WorkItemRow}
    (hrow : db.findWorkItem item = some row) (calls : List Call) :
    ∃ row', (db.afterAll calls).findWorkItem item = some row' ∧
      (row.revision < row'.revision ∨
        row' = row ∧ (db.afterAll calls).aggregate item = db.aggregate item) := by
  induction calls generalizing db row with
  | nil => exact ⟨row, hrow, .inr ⟨rfl, rfl⟩⟩
  | cons call calls ih =>
      have hchange := db.change_after call
      have hdb' := hdb.step hchange
      rw [afterAll_cons]
      cases versioned hdb hchange hrow with
      | bumped next hnext hrevision =>
          obtain ⟨last, hlast, hlarger | ⟨rfl, _⟩⟩ := ih hdb' hnext
          · exact ⟨last, hlast, .inl (by omega)⟩
          · exact ⟨last, hlast, .inl (by omega)⟩
      | untouched hsame =>
          have hitem : (db.after call).findWorkItem item = some row :=
            (congrArg Aggregate.item hsame).trans hrow
          obtain ⟨last, hlast, hlarger | ⟨hrow', hkept⟩⟩ := ih hdb' hitem
          · exact ⟨last, hlast, .inl hlarger⟩
          · exact ⟨last, hlast, .inr ⟨hrow', hkept.trans hsame⟩⟩

/-- Between two readings of one revision nothing of the item changes. -/
theorem aggregate_between (hdb : db.Sound) {row row' : WorkItemRow}
    (hrow : db.findWorkItem item = some row) {first second : List Call}
    (hrow' : (db.afterAll (first ++ second)).findWorkItem item = some row')
    (hrevision : row'.revision = row.revision) :
    (db.afterAll first).aggregate item = db.aggregate item := by
  obtain ⟨middle, hmiddle, hlarger | ⟨_, hsame⟩⟩ := versioned_afterAll hdb hrow first
  · obtain ⟨last, hlast, hfinal⟩ := versioned_afterAll (hdb.afterAll first) hmiddle second
    rw [afterAll_append, hlast] at hrow'
    cases hrow'
    rcases hfinal with hfinal | ⟨rfl, _⟩ <;> omega
  · exact hsame

/-- A run stays where it is. -/
theorem Owns.afterAll (hdb : db.Sound) {run : RunId} (h : db.Owns item run) (calls : List Call) :
    (db.afterAll calls).Owns item run := by
  obtain ⟨row, hrow, hitem⟩ := (owns_iff hdb.runIds).mp h
  have hstays : ∀ {row row' : RunRow}, row.Step row' → row.workItemId = item →
      row'.workItemId = item := fun hstep hitem => hstep.identity.2.2.trans hitem
  obtain ⟨row', hrow', hitem'⟩ := findRun_afterAll hstays hrow hitem calls
  exact (owns_iff (hdb.afterAll calls).runIds).mpr ⟨row', hrow', hitem'⟩

end Database

/-- What is read about an item does not depend on the time, and changes nothing. -/
theorem AppStore.About.exec_eq {α : Type} {op : AppStore α} (h : op.About db item)
    (now now' : UtcTimestamp) : op.exec now db = ((op.exec now' db).1, db) := by
  cases h with
  | workItem => rw [getWorkItem_exec, getWorkItem_exec]
  | runs after limit => rw [listRunsForWorkItem_exec, listRunsForWorkItem_exec]
  | run owns => rw [getRun_exec, getRun_exec]
  | timeline query owns => rw [listTimelinePage_exec, listTimelinePage_exec]
  | approvals owns after limit => rw [listApprovalsForRun_exec, listApprovalsForRun_exec]
  | userInputs owns after limit =>
      rw [listPendingUserInputsForRun_exec, listPendingUserInputsForRun_exec]

/-! ## Pages of a listing -/

omit [Sha256] in
theorem readRows_eq_ok {α β : Type} {convert : α → Except StoreError β} {rows : List α}
    {items : List β} :
    readRows convert rows = .ok items ↔
      List.Forall₂ (fun row item => convert row = .ok item) rows items := by
  unfold readRows
  induction rows generalizing items with
  | nil =>
      rw [List.mapM_nil, List.forall₂_nil_left_iff]
      exact ⟨fun h => (Except.ok.inj h).symm, fun h => h ▸ rfl⟩
  | cons row rest ih =>
      rw [List.mapM_cons, List.forall₂_cons_left_iff]
      cases hrow : convert row with
      | error error =>
          constructor
          · intro h
            cases h
          · rintro ⟨_, _, h, _⟩
            cases h
      | ok item =>
          cases hrest : rest.mapM convert with
          | error error =>
              constructor
              · intro h
                cases h
              · rintro ⟨_, _, _, h, _⟩
                rw [← ih, hrest] at h
                cases h
          | ok others =>
              constructor
              · intro h
                cases h
                exact ⟨item, others, rfl, ih.mp hrest, rfl⟩
              · rintro ⟨_, _, h, hothers, rfl⟩
                cases h
                rw [← ih, hrest] at hothers
                cases hothers
                rfl

omit [Sha256] in
theorem exists_getLast?_of_forall₂ {α β : Type} {R : α → β → Prop} {xs : List α} {ys : List β}
    (h : List.Forall₂ R xs ys) {y : β} (hlast : ys.getLast? = some y) :
    ∃ x, xs.getLast? = some x ∧ R x y := by
  have hreverse := List.forall₂_reverse_iff.mpr h
  rw [List.getLast?_eq_head?_reverse] at hlast
  cases hys : ys.reverse with
  | nil =>
      rw [hys] at hlast
      cases hlast
  | cons other rest =>
      rw [hys] at hlast hreverse
      cases hlast
      obtain ⟨x, others, hxy, _, hxs⟩ := List.forall₂_cons_right_iff.mp hreverse
      refine ⟨x, ?_, hxy⟩
      rw [List.getLast?_eq_head?_reverse, hxs]
      rfl

/-- A listing of the store: its rows, and how one is named and shown. Rows are typed:
the contents are those whose columns the store can read. -/
structure Listing (α β κ : Type) where
  op : Option κ → Nat → AppStore (Page β κ)
  rows : Database → List α
  key : α → κ
  itemKey : β → κ
  order : κ → Nat
  convert : α → Except StoreError β

namespace Listing

variable {α β κ : Type}

/-- The rows after a bound. -/
def after (listing : Listing α β κ) (db : Database) (bound : Option κ) : List α :=
  Paging.after (fun row => listing.order (listing.key row)) (listing.rows db)
    (bound.map listing.order)

/-- The operation reads one page of the rows, which are in order. -/
structure Lawful (listing : Listing α β κ) : Prop where
  itemKey : ∀ {row item}, listing.convert row = .ok item →
    listing.itemKey item = listing.key row
  sorted : ∀ {db}, db.Ordered → (listing.rows db).Pairwise fun first second =>
    listing.order (listing.key first) < listing.order (listing.key second)
  page : ∀ {now db after limit page},
    ((listing.op after limit).exec now db).1 = .ok page → 1 ≤ limit ∧
      (readRows listing.convert ((listing.after db after).take (limit + 1))).map
        (Page.ofRows listing.itemKey limit) = .ok page

variable {listing : Listing α β κ}

/-- A page is the front of the rows after its bound, and the rest comes after
the bound that it names. -/
theorem Lawful.split (h : listing.Lawful) (hdb : db.Ordered) {bound : Option κ} {limit : Nat}
    {page : Page β κ} (hpage : ((listing.op bound limit).exec now db).1 = .ok page) :
    ∃ taken, readRows listing.convert taken = .ok page.items ∧
      listing.after db bound = taken ++
        (page.nextAfter.elim [] fun next => listing.after db (some next)) := by
  obtain ⟨hlimit, hread⟩ := h.page hpage
  cases hfetched : readRows listing.convert ((listing.after db bound).take (limit + 1)) with
  | error error =>
      rw [hfetched] at hread
      cases hread
  | ok fetched =>
      rw [hfetched] at hread
      cases hread
      have hall := readRows_eq_ok.mp hfetched
      have hlength := hall.length_eq
      have hsame : fetched.take (limit + 1) = fetched := by
        refine List.take_of_length_le ?_
        rw [← hlength]
        exact List.length_take_le _ _
      have htaken : List.Forall₂ (fun row item => listing.convert row = .ok item)
          ((listing.after db bound).take limit) (fetched.take limit) := by
        have hfront := List.forall₂_take limit hall
        rwa [List.take_take, Nat.min_eq_left (Nat.le_succ limit)] at hfront
      refine ⟨(listing.after db bound).take limit, ?_, ?_⟩
      · refine readRows_eq_ok.mpr ?_
        rw [Page.ofRows, hsame]
        exact htaken
      · dsimp only [Page.ofRows]
        rw [hsame]
        rw [List.length_take] at hlength
        split
        · next hmore =>
            have hfull : limit < (listing.after db bound).length := by omega
            cases hlast : (fetched.take limit).getLast? with
            | none =>
                have hempty := List.getLast?_eq_none_iff.mp hlast
                have hzero := congrArg List.length hempty
                rw [List.length_take, List.length_nil] at hzero
                omega
            | some last =>
                obtain ⟨lastRow, hlastRow, hconvert⟩ := exists_getLast?_of_forall₂ htaken hlast
                have hrest := Paging.after_page (h.sorted hdb) hfull hlastRow
                rw [← h.itemKey hconvert] at hrest
                have hnext : listing.after db (some (listing.itemKey last)) =
                    (listing.after db bound).drop limit := hrest
                change _ = _ ++ listing.after db (some (listing.itemKey last))
                rw [hnext, List.take_append_drop]
        · next hmore =>
            rw [Option.elim_none, List.append_nil, List.take_of_length_le]
            omega

/-- No row of a listing comes twice. -/
theorem Lawful.nodup (h : listing.Lawful) (hdb : db.Ordered) {items : List β}
    (hread : readRows listing.convert (listing.rows db) = .ok items) :
    (items.map listing.itemKey).Nodup := by
  have hkeys : List.Forall₂ Eq ((listing.rows db).map listing.key)
      (items.map listing.itemKey) := by
    rw [List.forall₂_map_left_iff, List.forall₂_map_right_iff]
    exact (readRows_eq_ok.mp hread).imp fun _ _ hconvert => (h.itemKey hconvert).symm
  rw [List.forall₂_eq_eq_eq] at hkeys
  rw [← hkeys]
  refine List.pairwise_map.mpr ((h.sorted hdb).imp fun hlt heq => ?_)
  rw [heq] at hlt
  exact lt_irrefl _ hlt

end Listing

/-! ## The four listings -/

omit [Sha256] in
/-- Some rows of a table, by identifier. -/
theorem pairwise_listing {α κ : Type} {key : α → κ} (uuid : κ → Uuid)
    (huuid : Function.Injective uuid) {rows : List α} (h : (rows.map key).Nodup)
    (keep : α → Bool) :
    (orderById (fun row => uuid (key row)) (rows.filter keep)).Pairwise fun first second =>
      (uuid (key first)).order < (uuid (key second)).order := by
  apply pairwise_orderById
  have hkept : ((rows.filter keep).map key).Nodup := h.sublist (List.filter_sublist.map key)
  have huuids := hkept.map huuid
  rwa [List.map_map] at huuids

omit [Sha256] in
/-- Rows that can always be read are fetched as they are. -/
theorem page_of_map {α β κ : Type} (convert : α → β) (key : β → κ) (limit : Nat) (rows : List α) :
    (readRows (fun row => .ok (convert row)) (rows.take (limit + 1))).map (Page.ofRows key limit) =
      .ok (Page.ofRows key limit (rows.map convert)) := by
  have hread : readRows (fun row => .ok (convert row)) (rows.take (limit + 1)) =
      .ok ((rows.take (limit + 1)).map convert) := by
    refine readRows_eq_ok.mpr (List.forall₂_map_right_iff.mpr ?_)
    exact List.forall₂_same.mpr fun _ _ => rfl
  rw [hread]
  simp only [Except.map, Page.ofRows, List.map_take, List.take_take, Nat.min_self]

omit [Sha256] in
theorem validatePageSize_eq_ok {limit accepted : Nat} (h : validatePageSize limit = .ok accepted) :
    1 ≤ limit ∧ accepted = limit := by
  unfold validatePageSize at h
  split at h
  · next hlimit =>
      cases h
      exact ⟨hlimit.1, rfl⟩
  · cases h

omit [Sha256] in
/-- A page size that is not refused is the one that is used. -/
theorem page_of_validated {limit : Nat} {α : Type} {answer : Nat → Except StoreError α} {value : α}
    (h : (validatePageSize limit).bind answer = .ok value) :
    1 ≤ limit ∧ answer limit = .ok value := by
  cases hlimit : validatePageSize limit with
  | error error =>
      rw [hlimit] at h
      cases h
  | ok accepted =>
      obtain ⟨hpositive, rfl⟩ := validatePageSize_eq_ok hlimit
      rw [hlimit] at h
      exact ⟨hpositive, h⟩

omit [Sha256] in
theorem ApprovalRow.id_of_snapshot {row : ApprovalRow} {item : ApprovalSnapshot}
    (h : row.snapshot = .ok item) : item.id = row.id := by
  change row.approvalStatus.bind _ = _ at h
  cases hstatus : row.approvalStatus with
  | error error =>
      rw [hstatus] at h
      cases h
  | ok status =>
      rw [hstatus] at h
      cases h
      rfl

/-- The runs of a work item. -/
def runListing (item : WorkItemId) : Listing RunRow RunSnapshot RunId where
  op := .listRunsForWorkItem item
  rows db := orderById (·.id.uuid) (db.runsOf item)
  key := (·.id)
  itemKey := (·.id)
  order := (·.uuid.order)
  convert row := .ok row.snapshot

/-- The approvals of a run. -/
def approvalListing (run : RunId) : Listing ApprovalRow ApprovalSnapshot ApprovalRequestId where
  op := .listApprovalsForRun run
  rows db := db.approvalRows run
  key := (·.id)
  itemKey := (·.id)
  order := (·.uuid.order)
  convert := ApprovalRow.snapshot

/-- The requests for user input of a run that have no answer. -/
def pendingListing (run : RunId) :
    Listing TimelineItemRow PendingUserInputSnapshot TimelineItemId where
  op := .listPendingUserInputsForRun run
  rows db := db.pendingRows run
  key := (·.id)
  itemKey := (·.id)
  order := (·.uuid.order)
  convert := TimelineItemRow.pendingUserInput

/-- The timeline of a run. -/
def timelineListing (run : RunId) :
    Listing TimelineItemRow TimelineItemSnapshot TimelineRevision where
  op after limit := .listTimelinePage ⟨run, after, limit⟩
  rows db := db.timelineRows run
  key := (·.revision)
  itemKey := (·.revision)
  order := id
  convert row := .ok row.snapshot

namespace Listing.Lawful

theorem runs (item : WorkItemId) : (runListing item).Lawful where
  itemKey := by
    intro row item h
    cases h
    rfl
  sorted := by
    intro db hdb
    apply pairwise_listing RunId.uuid
    · rintro ⟨first⟩ ⟨second⟩ rfl
      rfl
    · exact hdb.sound.runIds
  page := by
    intro now db after limit page h
    change ((AppStore.listRunsForWorkItem item after limit).exec now db).1 = _ at h
    rw [listRunsForWorkItem_exec] at h
    cases hlimit : validatePageSize limit with
    | error error =>
        rw [hlimit] at h
        cases h
    | ok accepted =>
        obtain ⟨hpositive, rfl⟩ := validatePageSize_eq_ok hlimit
        rw [hlimit] at h
        refine ⟨hpositive, (page_of_map _ _ _ _).trans ?_⟩
        cases after <;> exact h

theorem approvals (run : RunId) : (approvalListing run).Lawful where
  itemKey := ApprovalRow.id_of_snapshot
  sorted := by
    intro db hdb
    apply pairwise_listing ApprovalRequestId.uuid
    · rintro ⟨first⟩ ⟨second⟩ rfl
      rfl
    · exact hdb.sound.approvalIds
  page := by
    intro now db after limit page h
    change ((AppStore.listApprovalsForRun run after limit).exec now db).1 = _ at h
    rw [listApprovalsForRun_exec] at h
    obtain ⟨hlimit, hpage⟩ := page_of_validated h
    exact ⟨hlimit, hpage⟩

theorem pending (run : RunId) : (pendingListing run).Lawful where
  itemKey := by
    intro row item h
    change row.pendingUserInput = _ at h
    unfold TimelineItemRow.pendingUserInput at h
    split at h <;> cases h
    rfl
  sorted := by
    intro db hdb
    change (orderById _ (List.filter _ (List.filter _ _))).Pairwise _
    rw [List.filter_filter]
    apply pairwise_listing TimelineItemId.uuid
    · rintro ⟨first⟩ ⟨second⟩ rfl
      rfl
    · exact hdb.timelineIds
  page := by
    intro now db after limit page h
    change ((AppStore.listPendingUserInputsForRun run after limit).exec now db).1 = _ at h
    rw [listPendingUserInputsForRun_exec] at h
    obtain ⟨hlimit, hpage⟩ := page_of_validated h
    exact ⟨hlimit, hpage⟩

theorem timeline (run : RunId) : (timelineListing run).Lawful where
  itemKey := by
    intro row item h
    cases h
    rfl
  sorted := by
    intro db hdb
    obtain ⟨log, hlog⟩ := hdb.ingested
    have hincreasing : (db.timeline run).Pairwise fun first second =>
        first.revision < second.revision := by
      rw [← List.pairwise_map (f := fun row : TimelineItemRow => row.revision), hlog.revisions]
      exact List.pairwise_lt_range'
    have hsorted : db.timelineRows run = db.timeline run :=
      List.Pairwise.insertionSort_eq (hincreasing.imp fun h => h.le)
    change (db.timelineRows run).Pairwise _
    rw [hsorted]
    exact hincreasing
  page := by
    intro now db after limit page h
    change ((AppStore.listTimelinePage ⟨run, after, limit⟩).exec now db).1 = _ at h
    rw [listTimelinePage_exec] at h
    obtain ⟨hlimit, hpage⟩ := page_of_validated h
    refine ⟨hlimit, (page_of_map _ _ _ _).trans ?_⟩
    have hbound : after.map (timelineListing run).order = after := by
      cases after <;> rfl
    rw [Listing.after, hbound]
    cases hchecked : after.elim (.ok 0) checkedI64 with
    | error error =>
        rw [hchecked] at hpage
        cases hpage
    | ok checked =>
        rw [hchecked] at hpage
        exact hpage

end Listing.Lawful

end Calls

end YakShed
