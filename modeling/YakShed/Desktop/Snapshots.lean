/-
# Consistent pages

The loop of the paged reads is a sequence lock: the revision of a work item
versions everything that is stored of it, so that a page between two readings
of one revision is a page of the content at the first. Every answer of a paged
read is the answer it would give alone in a state the store was in meanwhile, and
the pages of one revision make up one list.
-/

import YakShed.Desktop.Pages

namespace YakShed.Desktop

variable [Sha256] {db : Database} {trace : List Call}

/-! ## Runs of a command -/

namespace Runs

variable {α β : Type} {value : α}

theorem done_eq {result result' : Except DesktopError α}
    (h : Runs result db (.done result') trace) : result = result' := by
  induction trace generalizing db with
  | nil =>
      cases h
      rfl
  | cons call trace ih =>
      cases h with
      | other _ rest => exact ih rest

theorem bind {session : Session β} {next : β → Session α}
    (h : Runs (.ok value) db (session >>= next) trace) :
    ∃ found first second, trace = first ++ second ∧ Runs (.ok found) db session first ∧
      Runs (.ok value) (db.afterAll first) (next found) second := by
  induction trace generalizing db session with
  | nil =>
      cases session with
      | done result =>
          cases result with
          | ok found => exact ⟨found, [], [], rfl, .done, h⟩
          | error error => cases done_eq h
      | ask op answer => cases h
  | cons call trace ih =>
      cases session with
      | done result =>
          cases result with
          | ok found => exact ⟨found, [], _, rfl, .done, h⟩
          | error error => cases done_eq h
      | ask op answer =>
          cases h with
          | other _ rest =>
              have hwhole :
                  Runs (.ok value) (db.after call) (Session.ask op answer >>= next) trace :=
                rest
              obtain ⟨found, first, second, rfl, hfirst, hsecond⟩ := ih hwhole
              exact ⟨found, call :: first, second, rfl, .other call hfirst, hsecond⟩
          | ask now rest =>
              obtain ⟨found, first, second, rfl, hfirst, hsecond⟩ := ih rest
              exact ⟨found, _ :: first, second, rfl, .ask now hfirst, hsecond⟩

/-- A call of the store is answered in one of the states it went through. -/
theorem store {op : AppStore α} (h : Runs (.ok value) db (Session.store op) trace) :
    ∃ first rest now, trace = first ++ rest ∧
      (op.exec now (db.afterAll first)).1 = .ok value := by
  induction trace generalizing db with
  | nil => cases h
  | cons call trace ih =>
      cases h with
      | other _ rest =>
          obtain ⟨first, second, now, rfl, hanswer⟩ := ih rest
          exact ⟨call :: first, second, now, rfl, hanswer⟩
      | ask now rest =>
          have hresult := done_eq rest
          cases hanswer : (op.exec now db).1 with
          | error error =>
              rw [hanswer] at hresult
              cases hresult
          | ok found =>
              rw [hanswer] at hresult
              cases hresult
              exact ⟨[], _, now, rfl, hanswer⟩

end Runs

/-! ## One round of the loop -/

variable {item : WorkItemId}

/-- Where in the course of a command its last round read what. -/
structure Round {β κ : Type} (db : Database) (trace : List Call) (item : WorkItemId)
    (list : AppStore (Page β κ)) (workItem : WorkItemSnapshot) (page : Page β κ) : Prop where
  reads : ∃ before middle last, before ++ middle ++ last <+: trace ∧
    (∃ now, ((AppStore.getWorkItem item).exec now (db.afterAll before)).1 = .ok workItem) ∧
    (∃ now, (list.exec now (db.afterAll (before ++ middle))).1 = .ok page) ∧
    ∃ now current,
      ((AppStore.getWorkItem item).exec now (db.afterAll (before ++ middle ++ last))).1 =
        .ok current ∧ current.revision = workItem.revision

theorem Round.prepend {β κ : Type} {list : AppStore (Page β κ)} {workItem : WorkItemSnapshot}
    {page : Page β κ} {first : List Call}
    (h : Round (db.afterAll first) trace item list workItem page) :
    Round db (first ++ trace) item list workItem page := by
  obtain ⟨before, middle, last, hprefix, hitem, hpage, hcurrent⟩ := h.reads
  simp only [← Database.afterAll_append, ← List.append_assoc] at hitem hpage hcurrent
  refine ⟨first ++ before, middle, last, ?_, hitem, hpage, hcurrent⟩
  rw [List.append_assoc, List.append_assoc, ← List.append_assoc before]
  exact (List.prefix_append_right_inj first).mpr hprefix

/-- An answer of the loop comes from a round that read one revision twice. -/
theorem round_of_loop {β κ ε : Type} {expected : Option Nat} {list : AppStore (Page β κ)}
    {envelope : WorkItemSnapshot → Page β κ → ε} {retries : Nat} {value : ε}
    (h : Runs (.ok value) db (snapshotLoop item expected list envelope retries) trace) :
    ∃ workItem page, Round db trace item list workItem page ∧
      expected.any (· ≠ workItem.revision) = false ∧ value = envelope workItem page := by
  induction retries generalizing db trace with
  | zero => cases Runs.done_eq h
  | succ retries ih =>
      obtain ⟨workItem, first, rest, rfl, hasksItem, hrest⟩ := Runs.bind h
      obtain ⟨before, afterItem, now, rfl, hitem⟩ := Runs.store hasksItem
      split at hrest
      · cases Runs.done_eq hrest
      · next hexpected =>
          obtain ⟨page, second, rest, rfl, hasksPage, hrest⟩ := Runs.bind hrest
          obtain ⟨toPage, afterPage, now', rfl, hpage⟩ := Runs.store hasksPage
          obtain ⟨current, third, rest, rfl, hasksCurrent, hrest⟩ := Runs.bind hrest
          obtain ⟨toCurrent, afterCurrent, now'', rfl, hcurrent⟩ := Runs.store hasksCurrent
          split at hrest
          · next hsame =>
              have hvalue := Runs.done_eq hrest
              cases hvalue
              refine ⟨workItem, page, ⟨before, afterItem ++ toPage, afterPage ++ toCurrent, ?_,
                ⟨now, hitem⟩, ⟨now', ?_⟩, now'', current, ?_, hsame⟩, by simpa using hexpected, rfl⟩
              · exact ⟨afterCurrent ++ rest, by simp⟩
              · simpa [Database.afterAll_append] using hpage
              · simpa [Database.afterAll_append] using hcurrent
          · obtain ⟨workItem', page', hround, hexpected', hvalue⟩ := ih hrest
            refine ⟨workItem', page', ?_, hexpected', hvalue⟩
            have hlater := hround.prepend.prepend.prepend
            simpa using hlater

/-! ## The state a round shows -/

/-- A read about the item gives this answer at any time, and changes nothing. -/
def Answers {β : Type} (db : Database) (op : AppStore β) (answer : β) : Prop :=
  ∀ now, op.exec now db = (.ok answer, db)

theorem revision_of_answer {now : UtcTimestamp} {workItem : WorkItemSnapshot}
    (h : ((AppStore.getWorkItem item).exec now db).1 = .ok workItem) :
    ∃ row, db.findWorkItem item = some row ∧ row.revision = workItem.revision := by
  rw [getWorkItem_exec] at h
  cases hrow : db.findWorkItem item with
  | none =>
      rw [hrow] at h
      cases h
  | some row =>
      rw [hrow] at h
      cases h
      exact ⟨row, rfl, rfl⟩

/-- A round shows the state in which it first read the revision. -/
theorem Round.shows {β κ : Type} {list : AppStore (Page β κ)} {workItem : WorkItemSnapshot}
    {page : Page β κ} (h : Round db trace item list workItem page) (hdb : db.Sound)
    (habout : ∀ calls, list.About (db.afterAll calls) item) :
    ∃ seen, seen <+: trace ∧ Answers (db.afterAll seen) (.getWorkItem item) workItem ∧
      Answers (db.afterAll seen) list page := by
  obtain ⟨before, middle, last, hprefix, ⟨now, hitem⟩, ⟨now', hpage⟩, now'', current, hcurrent,
    hsame⟩ := h.reads
  refine ⟨before, ?_, fun now => ?_, fun now => ?_⟩
  · rw [List.append_assoc] at hprefix
    exact (List.prefix_append before _).trans hprefix
  · rw [AppStore.About.workItem.exec_eq now, hitem]
  · have hsound := hdb.afterAll before
    obtain ⟨row, hrow, hrevision⟩ := revision_of_answer hitem
    obtain ⟨row', hrow', hrevision'⟩ := revision_of_answer hcurrent
    rw [List.append_assoc, Database.afterAll_append] at hrow'
    have hcontent := Database.aggregate_between hsound hrow hrow'
      (hrevision'.trans (hsame.trans hrevision.symm))
    rw [← Database.afterAll_append] at hcontent
    have hids := (hdb.afterAll (before ++ middle)).runIds
    rw [(habout before).exec_eq now now', ← hpage,
      answer_eq_of_aggregate hsound.runIds hids hcontent (habout before)]

namespace Session

variable {α β : Type} {now : UtcTimestamp}

theorem alone_store {op : AppStore β} {answer : β} (h : Answers db op answer)
    (next : β → Session α) : (store op >>= next).alone now db = (next answer).alone now db := by
  change (bind _ _).alone now db = _
  rw [store, bind, alone, h now]
  rfl

/-- In a state that a round shows, the loop alone ends after its first round. -/
theorem alone_loop {β κ ε : Type} {expected : Option Nat} {list : AppStore (Page β κ)}
    {envelope : WorkItemSnapshot → Page β κ → ε} {retries : Nat} {workItem : WorkItemSnapshot}
    {page : Page β κ} (hitem : Answers db (.getWorkItem item) workItem)
    (hpage : Answers db list page) (hexpected : expected.any (· ≠ workItem.revision) = false) :
    (snapshotLoop item expected list envelope (retries + 1)).alone now db =
      .ok (envelope workItem page) := by
  rw [snapshotLoop, alone_store hitem, hexpected]
  change (store list >>= _).alone now db = _
  rw [alone_store hpage, alone_store hitem, if_pos rfl]
  rfl

end Session

/-! ## Paged commands -/

/-- A command that serves a list of a work item page by page. -/
structure PagedCommand (ε γ κ τ : Type) where
  fetch : Option κ → Nat → Option Nat → Session ε
  revision : ε → Nat
  rows : ε → List γ
  nextAfter : ε → Option τ
  /-- How an envelope names a bound. -/
  name : κ → τ
  rowName : γ → τ
  /-- The whole list in one state of the store. -/
  complete : Database → Except StoreError (List γ)

namespace PagedCommand

variable {ε γ κ τ : Type}

/-- Further pages of one revision: each starts where the one before it ended,
until one names no bound. -/
inductive Follows (command : PagedCommand ε γ κ τ) (pinned : Nat) :
    Database → Option τ → List Call → List ε → Prop
  | finished {db : Database} : Follows command pinned db none [] []
  | page {db : Database} {limit : Nat} {envelope : ε} {trace later : List Call} {rest : List ε}
      (bound : κ)
      (fetched : Runs (.ok envelope) db (command.fetch (some bound) limit (some pinned)) trace)
      (others : Follows command pinned (db.afterAll trace) (command.nextAfter envelope) later
        rest) :
      Follows command pinned db (some (command.name bound)) (trace ++ later) (envelope :: rest)

/-- What the pages of a command promise about the states of the store they were
assembled in. -/
structure Consistent (command : PagedCommand ε γ κ τ) (item : WorkItemId) (db : Database) :
    Prop where
  /-- A page is what the command alone returns in one state it went through. -/
  snapshot : ∀ {after limit expected trace envelope},
    Runs (.ok envelope) db (command.fetch after limit expected) trace →
    ∃ seen, seen <+: trace ∧
      (∃ row, (db.afterAll seen).findWorkItem item = some row ∧
        row.revision = command.revision envelope) ∧
      ∀ now, (command.fetch after limit expected).alone now (db.afterAll seen) = .ok envelope
  /-- The pages from the first to the last, all of the revision of the first. -/
  pages : ∀ {limit expected trace first later rest},
    Runs (.ok first) db (command.fetch none limit expected) trace →
    command.Follows (command.revision first) (db.afterAll trace) (command.nextAfter first) later
      rest →
    ∃ seen, seen <+: trace ∧
      (∃ row, (db.afterAll seen).findWorkItem item = some row ∧
        row.revision = command.revision first) ∧
      command.complete (db.afterAll seen) = .ok ((first :: rest).flatMap command.rows) ∧
      (((first :: rest).flatMap command.rows).map command.rowName).Nodup

/-! ### From a listing -/

variable {α β : Type}

/-- The command reads its pages off a listing of the store. -/
structure Serves (command : PagedCommand ε γ κ τ) (listing : Listing α β κ) (frontend : β → γ)
    (item : WorkItemId) : Prop where
  answered : ∀ {db after limit expected trace envelope}, db.Sound →
    Runs (.ok envelope) db (command.fetch after limit expected) trace →
    ∃ seen workItem size page, seen <+: trace ∧
      Answers (db.afterAll seen) (.getWorkItem item) workItem ∧
      (listing.op after size).About (db.afterAll seen) item ∧
      Answers (db.afterAll seen) (listing.op after size) page ∧
      command.revision envelope = workItem.revision ∧
      expected.any (· ≠ workItem.revision) = false ∧
      command.rows envelope = page.items.map frontend ∧
      command.nextAfter envelope = page.nextAfter.map command.name ∧
      ∀ now, (command.fetch after limit expected).alone now (db.afterAll seen) = .ok envelope
  complete : ∀ db, command.complete db =
    (readRows listing.convert (listing.rows db)).map (·.map frontend)
  name_injective : Function.Injective command.name
  rowName : ∀ item, command.rowName (frontend item) = command.name (listing.itemKey item)

namespace Serves

variable {command : PagedCommand ε γ κ τ} {listing : Listing α β κ} {frontend : β → γ}

/-- The pages that follow are read off the state that the first page shows. -/
theorem follows (h : command.Serves listing frontend item) (hlawful : listing.Lawful)
    {shown : Database} (hshown : shown.Ordered) {row : WorkItemRow}
    (hrow : shown.findWorkItem item = some row) {token : Option τ} {later : List Call}
    {rest : List ε} (hfollows : command.Follows row.revision db token later rest)
    (calls : List Call) (hdb : db = shown.afterAll calls) (next : Option κ)
    (hnext : next.map command.name = token) :
    ∃ items, readRows listing.convert
        (next.elim [] fun bound => listing.after shown (some bound)) = .ok items ∧
      rest.flatMap command.rows = items.map frontend := by
  induction hfollows generalizing calls next with
  | finished =>
      obtain rfl := Option.map_eq_none_iff.mp hnext
      exact ⟨[], rfl, rfl⟩
  | @page db limit envelope trace later rest bound fetched others ih =>
      obtain ⟨bound', rfl, hname⟩ := Option.map_eq_some_iff.mp hnext
      obtain rfl := h.name_injective hname
      have hsound : db.Sound := hdb ▸ (hshown.afterAll calls).sound
      obtain ⟨seen, workItem, size, page, hseen, hitem, habout, hpage, hrevision, hexpected, hrows,
        hbound, _⟩ := h.answered hsound fetched
      have hpinned : workItem.revision = row.revision :=
        (not_not.mp (of_decide_eq_false hexpected)).symm
      obtain ⟨row', hrow', hsame⟩ := revision_of_answer (congrArg Prod.fst (hitem ⟨0⟩))
      have hpath : db.afterAll seen = shown.afterAll (calls ++ seen) := by
        rw [hdb, Database.afterAll_append]
      rw [hpath] at hrow' habout hpage
      have hcontent : (shown.afterAll (calls ++ seen)).aggregate item = shown.aggregate item := by
        rw [← List.append_nil (calls ++ seen)] at hrow'
        exact Database.aggregate_between hshown.sound hrow hrow' (hsame.trans hpinned)
      have hread : ((listing.op (some bound') size).exec ⟨0⟩ shown).1 = .ok page := by
        rw [answer_eq_of_aggregate (hshown.afterAll _).sound.runIds hshown.sound.runIds
          hcontent.symm habout, hpage]
      obtain ⟨taken, htaken, hsplit⟩ := hlawful.split hshown hread
      obtain ⟨items, hitems, hothers⟩ := ih (calls ++ trace)
        (by rw [hdb, Database.afterAll_append]) page.nextAfter hbound.symm
      refine ⟨page.items ++ items, ?_, ?_⟩
      · rw [Option.elim_some, hsplit]
        exact readRows_eq_ok.mpr (List.rel_append (readRows_eq_ok.mp htaken)
          (readRows_eq_ok.mp hitems))
      · rw [List.flatMap_cons, hrows, hothers, List.map_append]

theorem consistent (h : command.Serves listing frontend item) (hlawful : listing.Lawful)
    (hdb : db.Ordered) : command.Consistent item db where
  snapshot := by
    intro after limit expected trace envelope hruns
    obtain ⟨seen, workItem, size, page, hseen, hitem, _, _, hrevision, _, _, _, halone⟩ :=
      h.answered hdb.sound hruns
    obtain ⟨row, hrow, hsame⟩ := revision_of_answer (congrArg Prod.fst (hitem ⟨0⟩))
    exact ⟨seen, hseen, ⟨row, hrow, hsame.trans hrevision.symm⟩, halone⟩
  pages := by
    intro limit expected trace first later rest hruns hfollows
    obtain ⟨seen, workItem, size, page, hseen, hitem, _, hpage, hrevision, _, hrows, hbound, _⟩ :=
      h.answered hdb.sound hruns
    obtain ⟨row, hrow, hsame⟩ := revision_of_answer (congrArg Prod.fst (hitem ⟨0⟩))
    have hshown := hdb.afterAll seen
    obtain ⟨unread, rfl⟩ := hseen
    rw [hrevision, ← hsame, Database.afterAll_append] at hfollows
    obtain ⟨taken, htaken, hsplit⟩ := hlawful.split hshown (congrArg Prod.fst (hpage ⟨0⟩))
    obtain ⟨items, hitems, hothers⟩ := h.follows hlawful hshown hrow hfollows unread rfl
      page.nextAfter hbound.symm
    have hall : readRows listing.convert (listing.rows (db.afterAll seen)) =
        .ok (page.items ++ items) := by
      change readRows listing.convert (listing.after (db.afterAll seen) none) = _
      rw [hsplit]
      exact readRows_eq_ok.mpr (List.rel_append (readRows_eq_ok.mp htaken)
        (readRows_eq_ok.mp hitems))
    have hfetched : (first :: rest).flatMap command.rows = (page.items ++ items).map frontend := by
      rw [List.flatMap_cons, hrows, hothers, List.map_append]
    refine ⟨seen, List.prefix_append _ _, ⟨row, hrow, hsame.trans hrevision.symm⟩, ?_, ?_⟩
    · rw [h.complete, hall, hfetched]
      rfl
    · have hnames : ((page.items ++ items).map frontend).map command.rowName =
          ((page.items ++ items).map listing.itemKey).map command.name := by
        rw [List.map_map, List.map_map]
        exact List.map_congr_left fun item _ => h.rowName item
      rw [hfetched, hnames]
      exact (hlawful.nodup hshown hall).map h.name_injective

end Serves

end PagedCommand

/-! ## The commands -/

variable {run : RunId}

theorem loop_answered {β κ ε : Type} {expected : Option Nat} {list : AppStore (Page β κ)}
    {envelope : WorkItemSnapshot → Page β κ → ε} {value : ε} (hdb : db.Sound)
    (habout : ∀ calls, list.About (db.afterAll calls) item)
    (h : Runs (.ok value) db (snapshotLoop item expected list envelope snapshotRetries) trace) :
    ∃ seen workItem page, seen <+: trace ∧
      Answers (db.afterAll seen) (.getWorkItem item) workItem ∧
      Answers (db.afterAll seen) list page ∧ expected.any (· ≠ workItem.revision) = false ∧
      value = envelope workItem page := by
  obtain ⟨workItem, page, hround, hexpected, hvalue⟩ := round_of_loop h
  obtain ⟨seen, hseen, hitem, hpage⟩ := hround.shows hdb habout
  exact ⟨seen, workItem, page, hseen, hitem, hpage, hexpected, hvalue⟩

/-- A command that gets past the check of the run goes on in a state whose run is
the item's. -/
theorem owns_of_required (hdb : db.Sound) (h : Runs (.ok ()) db (requireRunOf item run) trace) :
    (db.afterAll trace).Owns item run := by
  obtain ⟨found, first, rest, rfl, hasks, hrest⟩ := Runs.bind h
  obtain ⟨before, after, now, rfl, hfound⟩ := Runs.store hasks
  split at hrest
  · cases Runs.done_eq hrest
  · next hitem =>
      have howns : (db.afterAll before).Owns item run := by
        rw [getRun_exec] at hfound
        cases hrow : (db.afterAll before).findRun run with
        | none =>
            rw [hrow] at hfound
            cases hfound
        | some row =>
            rw [hrow] at hfound
            cases hfound
            exact (Database.owns_iff (hdb.afterAll before).runIds).mpr
              ⟨row, hrow, not_not.mp hitem⟩
      rw [List.append_assoc, Database.afterAll_append]
      exact howns.afterAll (hdb.afterAll before) _

theorem alone_required {α : Type} {now : UtcTimestamp} (hdb : db.Sound) (h : db.Owns item run)
    (rest : Session α) :
    (requireRunOf item run >>= fun _ => rest).alone now db = rest.alone now db := by
  obtain ⟨row, hrow, hitem⟩ := (Database.owns_iff hdb.runIds).mp h
  change Session.alone now db (Session.bind (Session.bind (.ask _ _) _) _) = _
  rw [Session.bind, Session.bind, Session.alone, getRun_exec, hrow]
  change Session.alone now db (Session.bind (if row.workItemId ≠ item then _ else _) _) = _
  rw [if_neg (not_not.mpr hitem)]
  rfl

theorem required_answered {β κ ε : Type} {expected : Option Nat} {list : AppStore (Page β κ)}
    {envelope : WorkItemSnapshot → Page β κ → ε} {value : ε} (hdb : db.Sound)
    (habout : ∀ db : Database, db.Owns item run → list.About db item)
    (h : Runs (.ok value) db (requireRunOf item run >>= fun _ =>
      snapshotLoop item expected list envelope snapshotRetries) trace) :
    ∃ seen workItem page, seen <+: trace ∧ (db.afterAll seen).Owns item run ∧
      Answers (db.afterAll seen) (.getWorkItem item) workItem ∧
      Answers (db.afterAll seen) list page ∧ expected.any (· ≠ workItem.revision) = false ∧
      value = envelope workItem page := by
  obtain ⟨_, first, second, rfl, hrequired, hloop⟩ := Runs.bind h
  have howns := owns_of_required hdb hrequired
  have hsound := hdb.afterAll first
  obtain ⟨seen, workItem, page, hseen, hitem, hpage, hexpected, hvalue⟩ :=
    loop_answered hsound (fun calls => habout _ (howns.afterAll hsound calls)) hloop
  rw [← Database.afterAll_append] at hitem hpage
  refine ⟨first ++ seen, workItem, page, ?_, ?_, hitem, hpage, hexpected, hvalue⟩
  · exact (List.prefix_append_right_inj first).mpr hseen
  · rw [Database.afterAll_append]
    exact howns.afterAll hsound seen

/-- The four lists, as their commands serve them. -/
def workItemSnapshotPages (item : WorkItemId) :
    PagedCommand WorkItemSnapshotEnvelope FrontendRunSnapshot RunId String where
  fetch := getWorkItemSnapshotPage item
  revision := (·.revision)
  rows := (·.runs)
  nextAfter := (·.nextRunAfter)
  name := (·.uuid.toText)
  rowName := (·.id)
  complete db := .ok ((orderById (·.id.uuid) (db.runsOf item)).map fun row =>
    frontendRun row.snapshot)

def runApprovalPages (item : WorkItemId) (run : RunId) :
    PagedCommand RunApprovalPageEnvelope FrontendApprovalSnapshot ApprovalRequestId String where
  fetch := getRunApprovalPage item run
  revision := (·.workItemRevision)
  rows := (·.approvals)
  nextAfter := (·.nextAfter)
  name := (·.uuid.toText)
  rowName := (·.id)
  complete db := (readRows ApprovalRow.snapshot (db.approvalRows run)).map (·.map frontendApproval)

def pendingUserInputPages (item : WorkItemId) (run : RunId) :
    PagedCommand PendingUserInputPageEnvelope FrontendPendingUserInput TimelineItemId
      String where
  fetch := getPendingUserInputPage item run
  revision := (·.workItemRevision)
  rows := (·.inputs)
  nextAfter := (·.nextAfter)
  name := (·.uuid.toText)
  rowName := (·.id)
  complete db := (readRows TimelineItemRow.pendingUserInput (db.pendingRows run)).map
    (·.map frontendPendingUserInput)

def workItemTimelinePages (item : WorkItemId) (run : RunId) :
    PagedCommand WorkItemTimelineEnvelope FrontendTimelineItemSnapshot TimelineRevision Nat where
  fetch := getWorkItemTimelinePageAtRevision item run
  revision := (·.workItemRevision)
  rows := (·.items)
  nextAfter := (·.nextAfter)
  name := id
  rowName := (·.revision)
  complete db := .ok ((db.timelineRows run).map fun row => frontendTimelineItem row.snapshot)

namespace PagedCommand.Serves

omit [Sha256] in
theorem map_readRows {α β γ : Type} (convert : α → β) (frontend : β → γ) (rows : List α) :
    (readRows (fun row => .ok (convert row)) rows).map (·.map frontend) =
      .ok (rows.map fun row => frontend (convert row)) := by
  have hread : readRows (fun row => .ok (convert row)) rows = .ok (rows.map convert) :=
    readRows_eq_ok.mpr (List.forall₂_map_right_iff.mpr (List.forall₂_same.mpr fun _ _ => rfl))
  rw [hread]
  simp only [Except.map, List.map_map, Function.comp_def]

theorem workItemSnapshot (item : WorkItemId) :
    (workItemSnapshotPages item).Serves (runListing item) frontendRun item where
  answered := by
    intro db after limit expected trace envelope hdb h
    obtain ⟨seen, workItem, page, hseen, hitem, hpage, hexpected, rfl⟩ :=
      loop_answered hdb (fun calls => .runs _ _) h
    refine ⟨seen, workItem, _, page, hseen, hitem, .runs _ _, hpage, rfl, hexpected, rfl, rfl,
      fun now => Session.alone_loop hitem hpage hexpected⟩
  complete := fun db => (map_readRows _ _ _).symm
  name_injective := by
    rintro ⟨first⟩ ⟨second⟩ h
    exact congrArg _ (Uuid.toText_injective h)
  rowName := fun _ => rfl

theorem runApproval (item : WorkItemId) (run : RunId) :
    (runApprovalPages item run).Serves (approvalListing run) frontendApproval item where
  answered := by
    intro db after limit expected trace envelope hdb h
    obtain ⟨seen, workItem, page, hseen, howns, hitem, hpage, hexpected, rfl⟩ :=
      required_answered hdb (fun _ howns => .approvals howns _ _) h
    refine ⟨seen, workItem, _, page, hseen, hitem, .approvals howns _ _, hpage, rfl, hexpected,
      rfl, rfl, fun now => ?_⟩
    exact (alone_required (hdb.afterAll seen) howns _).trans
      (Session.alone_loop hitem hpage hexpected)
  complete := fun _ => rfl
  name_injective := by
    rintro ⟨first⟩ ⟨second⟩ h
    exact congrArg _ (Uuid.toText_injective h)
  rowName := fun _ => rfl

theorem pendingUserInput (item : WorkItemId) (run : RunId) :
    (pendingUserInputPages item run).Serves (pendingListing run) frontendPendingUserInput
      item where
  answered := by
    intro db after limit expected trace envelope hdb h
    obtain ⟨seen, workItem, page, hseen, howns, hitem, hpage, hexpected, rfl⟩ :=
      required_answered hdb (fun _ howns => .userInputs howns _ _) h
    refine ⟨seen, workItem, _, page, hseen, hitem, .userInputs howns _ _, hpage, rfl, hexpected,
      rfl, rfl, fun now => ?_⟩
    exact (alone_required (hdb.afterAll seen) howns _).trans
      (Session.alone_loop hitem hpage hexpected)
  complete := fun _ => rfl
  name_injective := by
    rintro ⟨first⟩ ⟨second⟩ h
    exact congrArg _ (Uuid.toText_injective h)
  rowName := fun _ => rfl

theorem workItemTimeline (item : WorkItemId) (run : RunId) :
    (workItemTimelinePages item run).Serves (timelineListing run) frontendTimelineItem
      item where
  answered := by
    intro db after limit expected trace envelope hdb h
    obtain ⟨seen, workItem, page, hseen, howns, hitem, hpage, hexpected, rfl⟩ :=
      required_answered hdb (fun _ howns => .timeline ⟨run, after, limit⟩ howns) h
    refine ⟨seen, workItem, limit, page, hseen, hitem, .timeline _ howns, hpage, rfl, hexpected,
      rfl, Option.map_id_apply.symm, fun now => ?_⟩
    exact (alone_required (hdb.afterAll seen) howns _).trans
      (Session.alone_loop hitem hpage hexpected)
  complete := fun db => (map_readRows _ _ _).symm
  name_injective := Function.injective_id
  rowName := fun _ => rfl

end PagedCommand.Serves

/-! ## The guarantee -/

/-- What the paged reads promise of one state of the store. -/
structure PagesConsistent (db : Database) : Prop where
  workItem : ∀ item, (workItemSnapshotPages item).Consistent item db
  approvals : ∀ item run, (runApprovalPages item run).Consistent item db
  userInputs : ∀ item run, (pendingUserInputPages item run).Consistent item db
  timeline : ∀ item run, (workItemTimelinePages item run).Consistent item db

/-- From any state of the store, whatever others call meanwhile: a page is a page
of one committed state of the revision it names, and the pages of one revision make
up the list of one such state. -/
theorem pagesConsistent (calls : List Call) :
    PagesConsistent (Database.empty.afterAll calls) := by
  have hdb := Database.Ordered.empty.afterAll calls
  exact
    { workItem := fun item =>
        (PagedCommand.Serves.workItemSnapshot item).consistent (.runs item) hdb
      approvals := fun item run =>
        (PagedCommand.Serves.runApproval item run).consistent (.approvals run) hdb
      userInputs := fun item run =>
        (PagedCommand.Serves.pendingUserInput item run).consistent (.pending run) hdb
      timeline := fun item run =>
        (PagedCommand.Serves.workItemTimeline item run).consistent (.timeline run) hdb }

end YakShed.Desktop
