/-
# Traversals

A reader follows a listing from page to page while other calls write to the
store between its requests. What it gets is a visit of the changing table: the
rows come in the order of their keys, none twice, and every row that the listing
keeps all along is there when the last page has been served.
-/

import YakShed.Store.Listings

namespace YakShed

variable {now : UtcTimestamp} {db db' : Database}

/-! ## Table constraints -/

/-- What the constraints of the tables say about the rows of a listing. -/
structure Database.Constrained (db : Database) : Prop where
  projectIds : (db.projects.map (·.id)).Nodup
  workItemIds : (db.workItems.map (·.id)).Nodup
  runIds : (db.runs.map (·.id)).Nodup
  approvalIds : (db.approvalRequests.map (·.id)).Nodup
  /-- The status of a request says whether it has a decision. -/
  decisions : ∀ row ∈ db.approvalRequests, ∃ status, row.approvalStatus = .ok status
  timelineIds : (db.timelineItems.map (·.id)).Nodup
  revisions : (db.timelineItems.map fun row => (row.runId, row.revision)).Nodup
  /-- The column has 64 bits, one for the sign. -/
  range : ∀ row ∈ db.timelineItems, row.revision ≤ i64Max

theorem Database.Constrained.empty : Database.empty.Constrained where
  projectIds := .nil
  workItemIds := .nil
  runIds := .nil
  approvalIds := .nil
  decisions := by simp [Database.empty]
  timelineIds := .nil
  revisions := .nil
  range := by simp [Database.empty]

theorem Database.Accepts.nodup_revisions {rows : List TimelineItemRow} (h : db.Accepts rows)
    (hrevisions : (db.timelineItems.map fun row => (row.runId, row.revision)).Nodup) :
    ((db.addItems rows).timelineItems.map fun row => (row.runId, row.revision)).Nodup := by
  induction rows generalizing db with
  | nil =>
      rw [addItems_nil]
      exact hrevisions
  | cons row rest ih =>
      have hfresh : (row.runId, row.revision) ∉
          db.timelineItems.map fun row => (row.runId, row.revision) := by
        intro hmem
        obtain ⟨other, hother, heq⟩ := List.mem_map.mp hmem
        obtain ⟨hrun, hrevision⟩ := Prod.mk.inj heq
        have hviolation := h.1
        unfold TimelineItemRow.violation at hviolation
        have hany : (db.timelineItems.any fun other =>
            other.runId = row.runId && other.revision = row.revision) = true :=
          List.any_eq_true.mpr ⟨other, hother, by simp [hrun, hrevision]⟩
        rw [hany] at hviolation
        split at hviolation
        · cases hviolation
        · split at hviolation <;> cases hviolation
      have hnext : ((db.addItems [row]).timelineItems.map fun row =>
          (row.runId, row.revision)).Nodup := by
        simp only [addItems, List.map_append, List.map_cons, List.map_nil]
        rw [← List.concat_eq_append]
        exact hrevisions.concat hfresh
      have hrest := ih h.2 hnext
      rwa [addItems_addItems] at hrest

theorem ApprovalRow.Step.readable {row row' : ApprovalRow} (h : row.Step row')
    (hrow : ∃ status, row.approvalStatus = .ok status) :
    ∃ status, row'.approvalStatus = .ok status := by
  obtain ⟨status, hstatus⟩ := hrow
  cases h with
  | same => exact ⟨status, hstatus⟩
  | voided ms hpending => exact ⟨.voided row.decision, rfl⟩
  | begun decision ms hpending => exact ⟨.responding decision, rfl⟩
  | confirmed ms hresponding =>
      unfold ApprovalRow.approvalStatus at hstatus ⊢
      rw [hresponding] at hstatus
      cases hdecision : row.decision with
      | none =>
          rw [hdecision] at hstatus
          cases hstatus
      | some decision =>
          refine ⟨.resolved decision, ?_⟩
          dsimp only [ApprovalRow.confirm]
          rw [hdecision]

section Calls

variable [Sha256]

namespace Change

theorem projectIds (h : Change now db db') (hids : (db.projects.map (·.id)).Nodup) :
    (db'.projects.map (·.id)).Nodup := by
  cases h with
  | project command hfresh => exact Keyed.nodup_append_singleton hids hfresh
  | begin response row =>
      rw [Database.afterBegin, Database.bumpIfFound_projects]
      exact hids
  | confirm response row decision =>
      rw [Database.afterConfirm, Database.bumpIfFound_projects]
      exact hids
  | _ => exact hids

theorem workItemIds_nodup (h : Change now db db') (hids : (db.workItems.map (·.id)).Nodup) :
    (db'.workItems.map (·.id)).Nodup := by
  rcases Database.graph_cases h with ⟨heq, _⟩ | ⟨item, ms, heq, _⟩ |
    ⟨command, hfresh, _, _, heq, _⟩ | ⟨root, heq, _⟩
  · exact heq ▸ hids
  · rw [heq, Keyed.keys_update]
    · exact hids
    · exact fun _ => rfl
  · exact heq ▸ Keyed.nodup_append_singleton hids hfresh
  · rw [heq, Database.afterArchive, List.map_map]
    refine (List.map_congr_left fun row _ => ?_) ▸ hids
    rw [Function.comp_apply]
    split <;> rfl

theorem decisions (h : Change now db db') (hids : (db.approvalRequests.map (·.id)).Nodup)
    (hdecisions : ∀ row ∈ db.approvalRequests, ∃ status, row.approvalStatus = .ok status) :
    ∀ row ∈ db'.approvalRequests, ∃ status, row.approvalStatus = .ok status := by
  intro row' hrow
  rcases h.approval_origin hids hrow with ⟨row, hmem, hstep⟩ | ⟨hconsistent, _⟩
  · exact hstep.readable (hdecisions row hmem)
  · unfold ApprovalRow.Consistent at hconsistent
    unfold ApprovalRow.approvalStatus
    cases hstatus : row'.status <;> rw [hstatus] at hconsistent
    case pending => exact ⟨.pending, by rw [hconsistent.1]⟩
    case voided => exact ⟨.voided row'.decision, rfl⟩
    case responding =>
      obtain ⟨decision, hdecision⟩ := Option.isSome_iff_exists.mp hconsistent.1
      exact ⟨.responding decision, by rw [hdecision]⟩
    case resolved =>
      obtain ⟨decision, hdecision⟩ := Option.isSome_iff_exists.mp hconsistent.1
      exact ⟨.resolved decision, by rw [hdecision]⟩

end Change

namespace Database.Constrained

/-- No call breaks a constraint. -/
theorem after (h : db.Constrained) (call : Call) : (db.after call).Constrained := by
  have hchange := db.change_after call
  obtain ⟨rows, hrows, haccepts, hrange⟩ := db.timeline_after call
  constructor
  · exact hchange.projectIds h.projectIds
  · exact hchange.workItemIds_nodup h.workItemIds
  · exact hchange.runIds h.runIds
  · exact hchange.approvalIds h.approvalIds
  · exact hchange.decisions h.approvalIds h.decisions
  · exact timelineIds_after h.timelineIds call
  · rw [hrows]
    exact haccepts.nodup_revisions h.revisions
  · intro row hrow
    rw [hrows] at hrow
    exact (List.mem_append.mp hrow).elim (h.range row) (hrange row)

theorem afterAll (h : db.Constrained) (calls : List Call) : (db.afterAll calls).Constrained := by
  induction calls generalizing db with
  | nil => exact h
  | cons call calls ih => exact ih (h.after call)

end Database.Constrained

theorem Database.timeline_afterAll (db : Database) (calls : List Call) :
    db.timelineItems ⊆ (db.afterAll calls).timelineItems := by
  induction calls generalizing db with
  | nil => exact List.Subset.refl _
  | cons call calls ih =>
      obtain ⟨rows, hrows, _⟩ := db.timeline_after call
      refine List.Subset.trans ?_ (ih (db.after call))
      rw [hrows]
      exact List.subset_append_left _ _

/-! ## One request -/

omit [Sha256] in
/-- Reading rows fails on one of them. -/
theorem readRows_eq_error {α β : Type} {convert : α → Except StoreError β} {rows : List α}
    {error : StoreError} (h : readRows convert rows = .error error) :
    ∃ row ∈ rows, convert row = .error error := by
  unfold readRows at h
  induction rows with
  | nil => cases h
  | cons row rest ih =>
      rw [List.mapM_cons] at h
      cases hrow : convert row with
      | error first =>
          rw [hrow] at h
          cases h
          exact ⟨row, List.mem_cons_self, hrow⟩
      | ok item =>
          rw [hrow] at h
          cases hrest : rest.mapM convert with
          | error later =>
              rw [hrest] at h
              cases h
              obtain ⟨found, hmem, hfound⟩ := ih hrest
              exact ⟨found, List.mem_cons_of_mem _ hmem, hfound⟩
          | ok items =>
              rw [hrest] at h
              cases h

namespace Listing

variable {α β κ : Type}

/-- A place where a reader may go on: the start, or after a row that a database
has listed. -/
def Admits (listing : Listing α β κ) (bound : Option κ) : Prop :=
  ∀ key ∈ bound, ∃ db : Database, db.Constrained ∧ key ∈ (listing.rows db).map listing.key

/-- What the operation of a listing answers, and how its rows are told apart:
`name` is the identifier of the row that an item was read from, and `blocked`
says which databases hold a row that cannot be read. -/
structure Exact (listing : Listing α β κ) (name : β → Uuid) (blocked : Database → Prop) : Prop where
  itemKey : ∀ {row item}, listing.convert row = .ok item → listing.itemKey item = listing.key row
  injective : Function.Injective listing.order
  sorted : ∀ {db}, db.Constrained → (listing.rows db).Pairwise fun first second =>
    listing.order (listing.key first) < listing.order (listing.key second)
  answer : ∀ {now db bound limit}, 1 ≤ limit → limit ≤ maxPageSize → listing.Admits bound →
    ((listing.op bound limit).exec now db).1 =
      (readRows listing.convert ((listing.after db bound).take (limit + 1))).map
        (Page.ofRows listing.itemKey limit)
  readable : ∀ {db row error}, db.Constrained → row ∈ listing.rows db →
    listing.convert row = .error error → blocked db
  named : ∀ {db calls row row' item item'}, db.Constrained → row ∈ listing.rows db →
    row' ∈ listing.rows (db.afterAll calls) → listing.convert row = .ok item →
    listing.convert row' = .ok item' → name item = name item' → listing.key row = listing.key row'

variable {listing : Listing α β κ} {name : β → Uuid} {blocked : Database → Prop}

omit [Sha256] in
theorem mem_of_mem_after {bound : Option κ} {row : α} (h : row ∈ listing.after db bound) :
    row ∈ listing.rows db := (Paging.mem_after.mp h).1

/-- One request is answered by the front of the rows after its bound, or fails
on a row that cannot be read. -/
theorem Exact.page (h : listing.Exact name blocked) (now : UtcTimestamp) (db : Database)
    {bound : Option κ} {limit : Nat}
    (hlimit : 1 ≤ limit) (hmax : limit ≤ maxPageSize) (hbound : listing.Admits bound) :
    (∃ error, ((listing.op bound limit).exec now db).1 = .error error ∧
        ∃ row ∈ listing.rows db, listing.convert row = .error error) ∨
      ∃ page, ((listing.op bound limit).exec now db).1 = .ok page ∧
        List.Forall₂ (fun row item => listing.convert row = .ok item)
          ((listing.after db bound).take limit) page.items ∧
        page.nextAfter = if limit < (listing.after db bound).length then
          ((listing.after db bound).take limit).getLast?.map listing.key else none := by
  rw [h.answer hlimit hmax hbound]
  cases hread : readRows listing.convert ((listing.after db bound).take (limit + 1)) with
  | error error =>
      obtain ⟨row, hrow, hconvert⟩ := readRows_eq_error hread
      exact .inl ⟨error, rfl, row, mem_of_mem_after (List.mem_of_mem_take hrow), hconvert⟩
  | ok fetched =>
      have hall := readRows_eq_ok.mp hread
      have hlength := hall.length_eq
      have hfront := List.forall₂_take limit hall
      rw [List.length_take] at hlength
      rw [List.take_take, Nat.min_eq_left (Nat.le_succ limit)] at hfront
      have hsame : fetched.take (limit + 1) = fetched :=
        List.take_of_length_le (hlength ▸ Nat.min_le_left _ _)
      refine .inr ⟨_, rfl, ?_, ?_⟩
      · rw [Page.ofRows, hsame]
        exact hfront
      · have hkeys : (fetched.take limit).map listing.itemKey =
            ((listing.after db bound).take limit).map listing.key := by
          refine (List.forall₂_eq_eq_eq ▸ ?_ : _ = _).symm
          rw [List.forall₂_map_left_iff, List.forall₂_map_right_iff]
          exact hfront.imp fun _ _ hconvert => (h.itemKey hconvert).symm
        dsimp only [Page.ofRows]
        rw [hsame, ← List.getLast?_map, hkeys, List.getLast?_map]
        refine if_congr ?_ rfl rfl
        omega

end Listing

/-! ## Many requests -/

/-- Where a reader stands. -/
inductive Outcome (κ : Type)
  | pending (bound : Option κ)
  | finished
  | failed (error : StoreError)

structure Traversal (β κ : Type) where
  pages : List (Page β κ)
  outcome : Outcome κ

/-- All items of the pages so far. -/
def Traversal.items {β κ : Type} (traversal : Traversal β κ) : List β :=
  traversal.pages.flatMap (·.items)

/-- What others write before a request, and the time of the request. -/
structure Request where
  writes : List Call
  now : UtcTimestamp

/-- The database that a request reads. -/
def Database.serving (db : Database) (requests : Nat → Request) : Nat → Database
  | 0 => db.afterAll (requests 0).writes
  | request + 1 => (db.serving requests request).afterAll (requests (request + 1)).writes

theorem Database.Constrained.serving (h : db.Constrained) (requests : Nat → Request)
    (request : Nat) : (db.serving requests request).Constrained := by
  induction request with
  | zero => exact h.afterAll _
  | succ request ih => exact ih.afterAll _

/-- A later request reads what calls have made of the database of an earlier one. -/
theorem Database.serving_le (db : Database) (requests : Nat → Request) {first second : Nat}
    (hle : first ≤ second) :
    ∃ calls, db.serving requests second = (db.serving requests first).afterAll calls := by
  induction second, hle using Nat.le_induction with
  | base => exact ⟨[], rfl⟩
  | succ second _ ih =>
      obtain ⟨calls, hcalls⟩ := ih
      exact ⟨calls ++ (requests (second + 1)).writes, by rw [serving, hcalls, afterAll_append]⟩

namespace Listing

variable {α β κ : Type}

/-- One request, which goes on from `next_after` of the page before. -/
def request (listing : Listing α β κ) (limit : Nat) (now : UtcTimestamp) (db : Database)
    (traversal : Traversal β κ) : Traversal β κ :=
  match traversal.outcome with
  | .pending bound =>
      match ((listing.op bound limit).exec now db).1 with
      | .ok page =>
          { pages := traversal.pages ++ [page]
            outcome := page.nextAfter.elim .finished fun next => .pending (some next) }
      | .error error => { traversal with outcome := .failed error }
  | .finished | .failed _ => traversal

/-- The traversal of a listing, from `None` on. -/
def traverse (listing : Listing α β κ) (limit : Nat) (db : Database) (requests : Nat → Request) :
    Nat → Traversal β κ
  | 0 => ⟨[], .pending none⟩
  | count + 1 => listing.request limit (requests count).now (db.serving requests count)
      (listing.traverse limit db requests count)

/-- The rows of a listing, seen as one changing table. -/
def visit (listing : Listing α β κ) (limit : Nat) (db : Database) (requests : Nat → Request) :
    Nat → Paging.Visit α Nat :=
  Paging.visit (fun row => listing.order (listing.key row)) limit fun request =>
    listing.rows (db.serving requests request)

/-- A traversal is a visit of the changing table, as far as its rows can be read. -/
def Follows (listing : Listing α β κ) (limit : Nat) (db : Database) (requests : Nat → Request)
    (count : Nat) (traversal : Traversal β κ) : Prop :=
  let reads (visit : Paging.Visit α Nat) : Prop :=
    List.Forall₂ (fun row item => listing.convert row = .ok item) visit.rows traversal.items
  match traversal.outcome with
  | .pending bound =>
      reads (listing.visit limit db requests count) ∧ listing.Admits bound ∧
        (listing.visit limit db requests count).next = some (bound.map listing.order)
  | .finished =>
      reads (listing.visit limit db requests count) ∧
        (listing.visit limit db requests count).next = none
  | .failed error =>
      ∃ served < count, reads (listing.visit limit db requests served) ∧
        ∃ row ∈ listing.rows (db.serving requests served), listing.convert row = .error error

variable {listing : Listing α β κ} {name : β → Uuid} {blocked : Database → Prop}

theorem Exact.follows (h : listing.Exact name blocked) (hdb : db.Constrained) {limit : Nat}
    (hlimit : 1 ≤ limit) (hmax : limit ≤ maxPageSize) (requests : Nat → Request) (count : Nat) :
    listing.Follows limit db requests count (listing.traverse limit db requests count) := by
  induction count with
  | zero =>
      change List.Forall₂ _ [] [] ∧ _ ∧ _
      exact ⟨.nil, fun _ hkey => by simp at hkey, rfl⟩
  | succ count ih =>
      change listing.Follows limit db requests (count + 1) (listing.request limit _ _ _)
      have hturn : listing.visit limit db requests (count + 1) =
          (listing.visit limit db requests count).turn _ limit
            (listing.rows (db.serving requests count)) := rfl
      generalize listing.traverse limit db requests count = traversal at ih
      obtain ⟨pages, outcome⟩ := traversal
      cases outcome with
      | pending bound =>
          obtain ⟨hreads, hadmits, hnext⟩ := ih
          rw [Paging.Visit.turn, hnext] at hturn
          rcases h.page (requests count).now (db.serving requests count) hlimit hmax hadmits with
            ⟨error, hanswer, hrow⟩ | ⟨page, hanswer, hpage, hafter⟩
          · dsimp only [request]
            rw [hanswer]
            exact ⟨count, Nat.lt_succ_self _, hreads, hrow⟩
          · have hboth : List.Forall₂ (fun row item => listing.convert row = .ok item)
                (listing.visit limit db requests (count + 1)).rows
                ((pages ++ [page]).flatMap (·.items)) := by
              rw [hturn, List.flatMap_append, List.flatMap_singleton]
              exact List.rel_append hreads hpage
            have hrequest : listing.request limit (requests count).now (db.serving requests count)
                ⟨pages, .pending bound⟩ = ⟨pages ++ [page],
                  page.nextAfter.elim .finished fun next => .pending (some next)⟩ := by
              dsimp only [request]
              rw [hanswer]
            rw [hrequest]
            have hlater : (listing.visit limit db requests (count + 1)).next =
                page.nextAfter.map fun next => some (listing.order next) := by
              rw [hturn, hafter]
              change (if limit < (listing.after (db.serving requests count) bound).length then
                _ else none) = _
              split
              · rw [Option.map_map]
                rfl
              · rfl
            cases hmore : page.nextAfter with
            | none =>
                rw [hmore] at hlater
                exact ⟨hboth, hlater⟩
            | some next =>
                rw [hmore] at hlater hafter
                refine ⟨hboth, ?_, hlater⟩
                rintro _ ⟨⟩
                refine ⟨db.serving requests count, hdb.serving requests count, ?_⟩
                split at hafter
                · obtain ⟨last, hlast, hkey⟩ := Option.map_eq_some_iff.mp hafter.symm
                  rw [← hkey]
                  have hmem := List.mem_of_mem_take (List.mem_of_getLast? hlast)
                  exact List.mem_map_of_mem (mem_of_mem_after hmem)
                · cases hafter
      | finished =>
          obtain ⟨hreads, hnext⟩ := ih
          have hsame : listing.visit limit db requests (count + 1) =
              listing.visit limit db requests count := by
            rw [hturn, Paging.Visit.turn, hnext]
          change List.Forall₂ _ _ _ ∧ _ = none
          rw [hsame]
          exact ⟨hreads, hnext⟩
      | failed error =>
          obtain ⟨served, hlt, hreads, hrow⟩ := ih
          exact ⟨served, Nat.lt_succ_of_lt hlt, hreads, hrow⟩

/-- The rows behind the items of a traversal are those of a visit. -/
theorem Follows.reads {limit count : Nat} {requests : Nat → Request} {traversal : Traversal β κ}
    (h : listing.Follows limit db requests count traversal) :
    ∃ served ≤ count, List.Forall₂ (fun row item => listing.convert row = .ok item)
      (listing.visit limit db requests served).rows traversal.items := by
  obtain ⟨pages, outcome⟩ := traversal
  cases outcome with
  | pending bound => exact ⟨count, le_rfl, h.1⟩
  | finished => exact ⟨count, le_rfl, h.1⟩
  | failed error =>
      obtain ⟨served, hlt, hreads, _⟩ := h
      exact ⟨served, hlt.le, hreads⟩

section Outcomes

variable {limit count : Nat} {requests : Nat → Request} {traversal : Traversal β κ}

theorem Follows.pending (h : listing.Follows limit db requests count traversal) {bound : Option κ}
    (hpending : traversal.outcome = .pending bound) :
    (listing.visit limit db requests count).next = some (bound.map listing.order) := by
  obtain ⟨pages, outcome⟩ := traversal
  cases hpending
  exact h.2.2

theorem Follows.finished (h : listing.Follows limit db requests count traversal)
    (hfinished : traversal.outcome = .finished) :
    List.Forall₂ (fun row item => listing.convert row = .ok item)
        (listing.visit limit db requests count).rows traversal.items ∧
      (listing.visit limit db requests count).next = none := by
  obtain ⟨pages, outcome⟩ := traversal
  cases hfinished
  exact h

theorem Follows.failed (h : listing.Follows limit db requests count traversal) {error : StoreError}
    (hfailed : traversal.outcome = .failed error) :
    ∃ served < count, ∃ row ∈ listing.rows (db.serving requests served),
      listing.convert row = .error error := by
  obtain ⟨pages, outcome⟩ := traversal
  cases hfailed
  obtain ⟨served, hlt, _, hrow⟩ := h
  exact ⟨served, hlt, hrow⟩

end Outcomes

omit [Sha256] in
theorem exists_of_forall₂ {R : α → β → Prop} {rows : List α} {items : List β}
    (hreads : List.Forall₂ R rows items) {item : β} (hitem : item ∈ items) :
    ∃ row ∈ rows, R row item := by
  induction hreads with
  | nil => cases hitem
  | @cons first second rest others hfirst _ ih =>
      rcases List.mem_cons.mp hitem with rfl | hitem
      · exact ⟨first, List.mem_cons_self, hfirst⟩
      · obtain ⟨row, hmem, hrow⟩ := ih hitem
        exact ⟨row, List.mem_cons_of_mem _ hmem, hrow⟩

omit [Sha256] in
/-- What holds along the rows holds along what is read from them. -/
theorem pairwise_of_forall₂ {R : α → β → Prop} {P : α → α → Prop} {Q : β → β → Prop}
    {rows : List α} {items : List β} (hreads : List.Forall₂ R rows items) (hrows : rows.Pairwise P)
    (h : ∀ {first second item item'}, R first item → R second item' → P first second →
      Q item item') : items.Pairwise Q := by
  induction hreads with
  | nil => exact .nil
  | @cons row item rest others hrow hrest ih =>
      obtain ⟨hhead, htail⟩ := List.pairwise_cons.mp hrows
      refine List.pairwise_cons.mpr ⟨fun other hother => ?_, ih htail⟩
      obtain ⟨row', hmem, hrow'⟩ := exists_of_forall₂ hrest hother
      exact h hrow hrow' (hhead row' hmem)

/-- What a reader can rely on, whatever is written between its requests. -/
structure Pagination (listing : Listing α β κ) (name : β → Uuid) (blocked : Database → Prop)
    (limit : Nat) (db : Database) (requests : Nat → Request) : Prop where
  increasing : ∀ count, ((listing.traverse limit db requests count).items.map fun item =>
    listing.order (listing.itemKey item)).Pairwise (· < ·)
  once : ∀ count, ((listing.traverse limit db requests count).items.map name).Nodup
  /-- What is returned was in the listing when its page was read. -/
  served : ∀ count, ∀ item ∈ (listing.traverse limit db requests count).items,
    ∃ request < count, ∃ row ∈ listing.rows (db.serving requests request),
      listing.convert row = .ok item
  /-- Every row that was in the listing at each of the requests is returned. -/
  complete : ∀ count, (listing.traverse limit db requests count).outcome = .finished →
    ∀ key, (∀ request < count,
      key ∈ (listing.rows (db.serving requests request)).map listing.key) →
    key ∈ (listing.traverse limit db requests count).items.map listing.itemKey
  /-- Where finitely many rows ever enter the listing, the traversal ends. -/
  terminates :
    {key | ∃ request, key ∈ (listing.rows (db.serving requests request)).map listing.key}.Finite →
    ∃ count, ∀ bound, (listing.traverse limit db requests count).outcome ≠ .pending bound
  failed : ∀ count error, (listing.traverse limit db requests count).outcome = .failed error →
    ∃ request < count, blocked (db.serving requests request)

theorem Exact.pagination (h : listing.Exact name blocked) (hdb : db.Constrained) {limit : Nat}
    (hlimit : 1 ≤ limit) (hmax : limit ≤ maxPageSize) (requests : Nat → Request) :
    listing.Pagination name blocked limit db requests := by
  have hfollows := h.follows hdb hlimit hmax requests
  have hcovers : ∀ count, (listing.visit limit db requests count).Covers
      (fun row => listing.order (listing.key row)) limit
      (fun request => listing.rows (db.serving requests request)) count :=
    Paging.Visit.Covers.visit hlimit fun request => h.sorted (hdb.serving requests request)
  have hserved : ∀ count, ∀ row ∈ (listing.visit limit db requests count).rows,
      ∃ request < count, row ∈ listing.rows (db.serving requests request) :=
    fun count => (hcovers count).served
  constructor
  case increasing =>
    intro count
    obtain ⟨served, _, hreads⟩ := (hfollows count).reads
    refine List.pairwise_map.mpr (pairwise_of_forall₂ hreads (hcovers served).sorted ?_)
    intro first second item item' hfirst hsecond hlt
    rw [h.itemKey hfirst, h.itemKey hsecond]
    exact hlt
  case once =>
    intro count
    obtain ⟨served, _, hreads⟩ := (hfollows count).reads
    have hrows := List.Pairwise.and_mem.mp (hcovers served).sorted
    refine List.pairwise_map.mpr (pairwise_of_forall₂ hreads hrows ?_)
    rintro first second item item' hfirst hsecond ⟨hmem, hmem', hlt⟩ hname
    obtain ⟨request, _, hrow⟩ := hserved served first hmem
    obtain ⟨request', _, hrow'⟩ := hserved served second hmem'
    -- one of the two requests reads what calls have made of the database of the other
    have hkey : listing.key first = listing.key second := by
      rcases Nat.le_total request request' with hle | hle
      · obtain ⟨calls, hcalls⟩ := db.serving_le requests hle
        rw [hcalls] at hrow'
        exact h.named (hdb.serving requests request) hrow hrow' hfirst hsecond hname
      · obtain ⟨calls, hcalls⟩ := db.serving_le requests hle
        rw [hcalls] at hrow
        exact (h.named (hdb.serving requests request') hrow' hrow hsecond hfirst hname.symm).symm
    rw [hkey] at hlt
    exact lt_irrefl _ hlt
  case served =>
    intro count item hitem
    obtain ⟨served, hle, hreads⟩ := (hfollows count).reads
    obtain ⟨row, hmem, hconvert⟩ := exists_of_forall₂ hreads hitem
    obtain ⟨request, hlt, hrow⟩ := hserved served row hmem
    exact ⟨request, hlt.trans_le hle, row, hrow, hconvert⟩
  case complete =>
    intro count hfinished key hkey
    obtain ⟨hreads, hnext⟩ := (hfollows count).finished hfinished
    have hstays : ∀ request < count, listing.order key ∈
        (listing.rows (db.serving requests request)).map fun row =>
          listing.order (listing.key row) := by
      intro request hlt
      obtain ⟨row, hrow, hsame⟩ := List.mem_map.mp (hkey request hlt)
      exact List.mem_map.mpr ⟨row, hrow, congrArg listing.order hsame⟩
    rcases (hcovers count).complete hstays with hk | ⟨bound, hbound, _⟩
    · obtain ⟨row, hrow, hsame⟩ := List.mem_map.mp hk
      obtain ⟨item, hitem, hconvert⟩ := exists_of_forall₂ hreads.flip hrow
      refine List.mem_map.mpr ⟨item, hitem, ?_⟩
      exact (h.itemKey hconvert).trans (h.injective hsame)
    · rw [hnext] at hbound
      cases hbound
  case terminates =>
    intro hfinite
    have himage : {k | ∃ request, k ∈ (listing.rows (db.serving requests request)).map fun row =>
        listing.order (listing.key row)}.Finite := by
      refine (hfinite.image listing.order).subset ?_
      rintro k ⟨request, hk⟩
      obtain ⟨row, hrow, rfl⟩ := List.mem_map.mp hk
      exact ⟨listing.key row, ⟨request, List.mem_map_of_mem hrow⟩, rfl⟩
    obtain ⟨count, hcount⟩ := Paging.exists_visit_finished hlimit
      (fun request => h.sorted (hdb.serving requests request)) himage
    refine ⟨count, fun bound hpending => ?_⟩
    have hnext := (hfollows count).pending hpending
    rw [visit, hcount] at hnext
    cases hnext
  case failed =>
    intro count error hfailed
    obtain ⟨request, hlt, row, hrow, hconvert⟩ := (hfollows count).failed hfailed
    exact ⟨request, hlt, h.readable (hdb.serving requests request) hrow hconvert⟩

end Listing

/-! ## The listings of the store -/

omit [Sha256] in
theorem validatePageSize_of_le {limit : Nat} (hlimit : 1 ≤ limit) (hmax : limit ≤ maxPageSize) :
    validatePageSize limit = .ok limit := if_pos ⟨hlimit, hmax⟩

/-- The projects. -/
def projectListing : Listing ProjectRow ProjectSnapshot ProjectId where
  op := .listProjects
  rows db := orderById (·.id.uuid) db.projects
  key := (·.id)
  itemKey := (·.id)
  order := (·.uuid.order)
  convert row := .ok row.snapshot

/-- The work items of a project, as they are shown. -/
def workItemListing (project : ProjectId) (includeArchived : Bool) :
    Listing WorkItemSnapshot WorkItemSnapshot WorkItemId where
  op after limit := .listWorkItems ⟨project, after, limit, includeArchived⟩
  rows db := (orderById (·.id.uuid) (db.workItems.filter fun row =>
    row.projectId = project && (includeArchived || row.status ≠ .archived))).map db.workItemSnapshot
  key := (·.id)
  itemKey := (·.id)
  order := (·.uuid.order)
  convert := .ok

/-- The runs that an operation keeps. -/
def Listing.ofRuns (op : Option RunId → Nat → AppStore (Page RunSnapshot RunId))
    (keep : RunRow → Bool) : Listing RunRow RunSnapshot RunId where
  op := op
  rows db := orderById (·.id.uuid) (db.runs.filter keep)
  key := (·.id)
  itemKey := (·.id)
  order := (·.uuid.order)
  convert row := .ok row.snapshot

def activeRunListing : Listing RunRow RunSnapshot RunId :=
  .ofRuns .listActiveRuns (·.status.isActive)

def reconciliationListing : Listing RunRow RunSnapshot RunId :=
  .ofRuns .listRunsNeedingReconciliation (·.status.needsReconciliation)

/-- The approvals that an operation keeps. -/
def Listing.ofApprovals
    (op : Option ApprovalRequestId → Nat → AppStore (Page ApprovalSnapshot ApprovalRequestId))
    (keep : ApprovalRow → Bool) : Listing ApprovalRow ApprovalSnapshot ApprovalRequestId where
  op := op
  rows db := orderById (·.id.uuid) (db.approvalRequests.filter keep)
  key := (·.id)
  itemKey := (·.id)
  order := (·.uuid.order)
  convert := ApprovalRow.snapshot

def pendingApprovalListing : Listing ApprovalRow ApprovalSnapshot ApprovalRequestId :=
  .ofApprovals .listPendingApprovals (·.status = .pending)

def unconfirmedListing : Listing ApprovalRow ApprovalSnapshot ApprovalRequestId :=
  .ofApprovals .listUnconfirmedApprovalResponses (·.status = .responding)

/-- A request for user input that names no item of the provider. -/
def Database.Unattributed (db : Database) (run : RunId) : Prop :=
  ∃ row ∈ db.timelineItems, row.runId = run ∧ row.kind = "user_input_requested" ∧
    row.provider = none

/-- The paged listings of the store, what names an item of each, and what keeps
a page of it from being read. -/
inductive Listing.Paged : {α β κ : Type} → Listing α β κ → (β → Uuid) → (Database → Prop) → Prop
  | projects : Paged projectListing (·.id.uuid) fun _ => False
  | workItems (project : ProjectId) (includeArchived : Bool) :
      Paged (workItemListing project includeArchived) (·.id.uuid) fun _ => False
  | runs (item : WorkItemId) : Paged (runListing item) (·.id.uuid) fun _ => False
  | activeRuns : Paged activeRunListing (·.id.uuid) fun _ => False
  | needingReconciliation : Paged reconciliationListing (·.id.uuid) fun _ => False
  | timeline (run : RunId) : Paged (timelineListing run) (·.id.uuid) fun _ => False
  | approvals (run : RunId) : Paged (approvalListing run) (·.id.uuid) fun _ => False
  | pendingApprovals : Paged pendingApprovalListing (·.id.uuid) fun _ => False
  | unconfirmed : Paged unconfirmedListing (·.id.uuid) fun _ => False
  | userInputs (run : RunId) : Paged (pendingListing run) (·.id.uuid) (·.Unattributed run)

namespace Listing.Exact

variable {α β κ : Type} {listing : Listing α β κ} {name : β → Uuid} {blocked : Database → Prop}

/-- A listing in the order of the identifiers that name its items. -/
theorem of_uuid {uuid : κ → Uuid} (huuid : Function.Injective uuid)
    (horder : ∀ key, listing.order key = (uuid key).order)
    (hname : ∀ item, name item = uuid (listing.itemKey item))
    (hitemKey : ∀ {row item}, listing.convert row = .ok item →
      listing.itemKey item = listing.key row)
    (hsorted : ∀ {db}, db.Constrained → (listing.rows db).Pairwise fun first second =>
      (uuid (listing.key first)).order < (uuid (listing.key second)).order)
    (hanswer : ∀ {now db bound limit}, 1 ≤ limit → limit ≤ maxPageSize →
      ((listing.op bound limit).exec now db).1 =
        (readRows listing.convert ((listing.after db bound).take (limit + 1))).map
          (Page.ofRows listing.itemKey limit))
    (hreadable : ∀ {db row error}, db.Constrained → row ∈ listing.rows db →
      listing.convert row = .error error → blocked db) : listing.Exact name blocked where
  itemKey := hitemKey
  injective := by
    intro first second h
    rw [horder, horder] at h
    exact huuid (Uuid.order_injective h)
  sorted := by
    intro db hdb
    simp only [horder]
    exact hsorted hdb
  answer := fun hlimit hmax _ => hanswer hlimit hmax
  readable := hreadable
  named := by
    intro db calls row row' item item' _ _ _ hrow hrow' hsame
    rw [hname, hname] at hsame
    rw [← hitemKey hrow, ← hitemKey hrow']
    exact huuid hsame

theorem projects : projectListing.Exact (·.id.uuid) fun _ => False := by
  have huuid : Function.Injective ProjectId.uuid := by
    rintro ⟨first⟩ ⟨second⟩ rfl
    rfl
  apply of_uuid huuid (fun _ => rfl) (fun _ => rfl)
  case hitemKey =>
    intro row item h
    cases h
    rfl
  case hsorted =>
    intro db hdb
    exact pairwise_orderById _ ((List.map_map ▸ hdb.projectIds.map huuid : List.Nodup _))
  case hanswer =>
    intro now db bound limit hlimit hmax
    change ((AppStore.listProjects bound limit).exec now db).1 = _
    rw [listProjects_exec, validatePageSize_of_le hlimit hmax]
    refine .trans ?_ (page_of_map _ _ _ _).symm
    rfl
  case hreadable =>
    intro db row error _ _ h
    cases h

theorem workItems (project : ProjectId) (includeArchived : Bool) :
    (workItemListing project includeArchived).Exact (·.id.uuid) fun _ => False := by
  have huuid : Function.Injective WorkItemId.uuid := by
    rintro ⟨first⟩ ⟨second⟩ rfl
    rfl
  apply of_uuid huuid (fun _ => rfl) (fun _ => rfl)
  case hitemKey =>
    intro row item h
    cases h
    rfl
  case hsorted =>
    intro db hdb
    exact List.pairwise_map.mpr (pairwise_listing WorkItemId.uuid huuid hdb.workItemIds _)
  case hanswer =>
    intro now db bound limit hlimit hmax
    change ((AppStore.listWorkItems ⟨project, bound, limit, includeArchived⟩).exec now db).1 = _
    rw [listWorkItems_exec, validatePageSize_of_le hlimit hmax]
    refine .trans ?_ (page_of_map id _ _ _).symm
    rw [List.map_id]
    cases bound with
    | none => rfl
    | some last =>
        change Except.ok (Page.ofRows _ _ ((List.filter _ _).map _)) =
          Except.ok (Page.ofRows _ _ (List.filter _ (List.map _ _)))
        rw [List.filter_map]
        rfl
  case hreadable =>
    intro db row error _ _ h
    cases h

theorem ofRuns {op : Option RunId → Nat → AppStore (Page RunSnapshot RunId)}
    {keep : RunRow → Bool}
    (hbody : ∀ now after limit, (op after limit).body now = listRuns keep after limit) :
    (Listing.ofRuns op keep).Exact (·.id.uuid) fun _ => False := by
  have huuid : Function.Injective RunId.uuid := by
    rintro ⟨first⟩ ⟨second⟩ rfl
    rfl
  apply of_uuid huuid (fun _ => rfl) (fun _ => rfl)
  case hitemKey =>
    intro row item h
    cases h
    rfl
  case hsorted =>
    intro db hdb
    exact pairwise_listing RunId.uuid huuid hdb.runIds keep
  case hanswer =>
    intro now db bound limit hlimit hmax
    have hrun := listRuns_run db keep bound limit
    rw [← hbody now] at hrun
    change ((op bound limit).exec now db).1 = _
    rw [AppStore.exec_of_run hrun, validatePageSize_of_le hlimit hmax]
    refine .trans ?_ (page_of_map _ _ _ _).symm
    rfl
  case hreadable =>
    intro db row error _ _ h
    cases h

theorem ofApprovals
    {op : Option ApprovalRequestId → Nat → AppStore (Page ApprovalSnapshot ApprovalRequestId)}
    {keep : ApprovalRow → Bool}
    (hbody : ∀ now after limit, (op after limit).body now = listApprovals keep after limit) :
    (Listing.ofApprovals op keep).Exact (·.id.uuid) fun _ => False := by
  have huuid : Function.Injective ApprovalRequestId.uuid := by
    rintro ⟨first⟩ ⟨second⟩ rfl
    rfl
  apply of_uuid huuid (fun _ => rfl) (fun _ => rfl)
  case hitemKey => exact ApprovalRow.id_of_snapshot
  case hsorted =>
    intro db hdb
    exact pairwise_listing ApprovalRequestId.uuid huuid hdb.approvalIds keep
  case hanswer =>
    intro now db bound limit hlimit hmax
    have hrun := listApprovals_run db keep bound limit
    rw [← hbody now] at hrun
    change ((op bound limit).exec now db).1 = _
    rw [AppStore.exec_of_run hrun, validatePageSize_of_le hlimit hmax]
    rfl
  case hreadable =>
    intro db row error hdb hrow h
    have hmem : row ∈ db.approvalRequests :=
      List.mem_of_mem_filter ((List.perm_insertionSort _ _).mem_iff.mp hrow)
    obtain ⟨status, hstatus⟩ := hdb.decisions row hmem
    change row.approvalStatus.bind _ = _ at h
    rw [hstatus] at h
    cases h

theorem userInputs (run : RunId) :
    (pendingListing run).Exact (·.id.uuid) (·.Unattributed run) := by
  have huuid : Function.Injective TimelineItemId.uuid := by
    rintro ⟨first⟩ ⟨second⟩ rfl
    rfl
  apply of_uuid huuid (fun _ => rfl) (fun _ => rfl)
  case hitemKey => exact (Lawful.pending run).itemKey
  case hsorted =>
    intro db hdb
    change (orderById _ (List.filter _ (List.filter _ _))).Pairwise _
    rw [List.filter_filter]
    exact pairwise_listing TimelineItemId.uuid huuid hdb.timelineIds _
  case hanswer =>
    intro now db bound limit hlimit hmax
    change ((AppStore.listPendingUserInputsForRun run bound limit).exec now db).1 = _
    rw [listPendingUserInputsForRun_exec, validatePageSize_of_le hlimit hmax]
    rfl
  case hreadable =>
    intro db row error _ hrow h
    have hmem := (List.perm_insertionSort _ _).mem_iff.mp hrow
    obtain ⟨htimeline, hkind⟩ := List.mem_filter.mp hmem
    obtain ⟨hrow, hrun⟩ := List.mem_filter.mp htimeline
    refine ⟨row, hrow, of_decide_eq_true hrun, of_decide_eq_true (Bool.and_elim_left hkind), ?_⟩
    change row.pendingUserInput = _ at h
    unfold TimelineItemRow.pendingUserInput at h
    split at h
    · cases h
    · assumption

omit [Sha256] in
theorem mem_of_mem_timelineRows {run : RunId} {row : TimelineItemRow}
    (h : row ∈ db.timelineRows run) : row ∈ db.timelineItems ∧ row.runId = run := by
  obtain ⟨hrow, hrun⟩ := List.mem_filter.mp ((List.perm_insertionSort _ _).mem_iff.mp h)
  exact ⟨hrow, of_decide_eq_true hrun⟩

theorem timeline (run : RunId) :
    (timelineListing run).Exact (·.id.uuid) fun _ => False where
  itemKey := (Lawful.timeline run).itemKey
  injective := fun _ _ h => h
  sorted := by
    intro db hdb
    have hsorted : (db.timelineRows run).Pairwise fun first second =>
        first.revision ≤ second.revision := List.pairwise_insertionSort _ _
    have hdistinct : ((db.timelineRows run).map (·.revision)).Nodup := by
      refine ((List.perm_insertionSort _ _).map _).nodup_iff.mpr ?_
      have hpairs := hdb.revisions.sublist (List.filter_sublist
        (p := fun row => row.runId = run).map fun row : TimelineItemRow =>
          (row.runId, row.revision))
      refine List.Nodup.of_map (Prod.mk run) ?_
      rw [List.map_map]
      refine (List.map_congr_left fun row hrow => ?_) ▸ hpairs
      exact congrArg (·, row.revision) (of_decide_eq_true (List.mem_filter.mp hrow).2)
    refine (hsorted.and (List.pairwise_map.mp hdistinct)).imp fun h => ?_
    exact lt_of_le_of_ne h.1 h.2
  answer := by
    intro now db bound limit hlimit hmax hbound
    change ((AppStore.listTimelinePage ⟨run, bound, limit⟩).exec now db).1 = _
    have hchecked : ∃ checked, bound.elim (.ok 0) checkedI64 = .ok checked := by
      cases bound with
      | none => exact ⟨0, rfl⟩
      | some last =>
          obtain ⟨other, hother, hlast⟩ := hbound last rfl
          obtain ⟨row, hrow, rfl⟩ := List.mem_map.mp hlast
          exact ⟨row.revision, if_pos (hother.range row (mem_of_mem_timelineRows hrow).1)⟩
    obtain ⟨checked, hchecked⟩ := hchecked
    rw [listTimelinePage_exec, validatePageSize_of_le hlimit hmax]
    dsimp only [Except.bind]
    rw [hchecked]
    refine .trans ?_ (page_of_map _ _ _ _).symm
    cases bound <;> rfl
  readable := by
    intro db row error _ _ h
    cases h
  named := by
    intro db calls row row' item item' hdb hrow hrow' hread hread' hname
    cases hread
    cases hread'
    -- the row is still there, and its identifier names one row only
    have hstays := db.timeline_afterAll calls (mem_of_mem_timelineRows hrow).1
    have hids := (hdb.afterAll calls).timelineIds
    have hsame : row.id = row'.id := congrArg TimelineItemId.mk hname
    exact congrArg _ (List.inj_on_of_nodup_map hids hstays (mem_of_mem_timelineRows hrow').1 hsame)

end Listing.Exact

/-- Following the pages of any listing, over any database, with any page size
and whatever is written in between. -/
theorem listing_pagination {α β κ : Type} {listing : Listing α β κ} {name : β → Uuid}
    {blocked : Database → Prop} (hpaged : listing.Paged name blocked) (hdb : db.Constrained)
    {limit : Nat} (hlimit : 1 ≤ limit) (hmax : limit ≤ maxPageSize) (requests : Nat → Request) :
    listing.Pagination name blocked limit db requests := by
  have hexact : listing.Exact name blocked := by
    cases hpaged with
    | projects => exact .projects
    | workItems project includeArchived => exact .workItems project includeArchived
    | runs item => exact Listing.Exact.ofRuns fun _ _ _ => rfl
    | activeRuns => exact .ofRuns fun _ _ _ => rfl
    | needingReconciliation => exact .ofRuns fun _ _ _ => rfl
    | timeline run => exact .timeline run
    | approvals run => exact Listing.Exact.ofApprovals fun _ _ _ => rfl
    | pendingApprovals => exact .ofApprovals fun _ _ _ => rfl
    | unconfirmed => exact .ofApprovals fun _ _ _ => rfl
    | userInputs run => exact .userInputs run
  exact hexact.pagination hdb hlimit hmax requests

end Calls

/-! ## A request that names no item of the provider -/

open Creation (sampleId sampleBefore)

/-- A run whose harness asks for user input without naming an item. -/
def sampleUnattributed : List Call :=
  sampleBefore ++
    [⟨.createRun ⟨⟨sampleId 2⟩, ⟨sampleId 3⟩, ⟨sampleId 1⟩, none⟩, ⟨1⟩⟩,
      ⟨.appendTimelineBatch ⟨⟨sampleId 4⟩, ⟨sampleId 3⟩, ⟨sampleId 2⟩, "codex", "stream", 0,
        [⟨⟨sampleId 5⟩, "user_input_requested", "prompt", none⟩]⟩, ⟨2⟩⟩]

/-- A reader that nobody disturbs. -/
def sampleRequests : Nat → Request := fun _ => ⟨[], ⟨3⟩⟩

/-- Two projects. -/
def sampleProjects : Database :=
  Database.empty.afterAll (sampleBefore ++ [⟨.createProject ⟨⟨sampleId 6⟩, "last"⟩, ⟨1⟩⟩])

/-- A third project is created before the second request. -/
def busyRequests : Nat → Request
  | 1 => ⟨[⟨.createProject ⟨⟨sampleId 4⟩, "middle"⟩, ⟨2⟩⟩], ⟨3⟩⟩
  | _ => ⟨[], ⟨3⟩⟩

set_option maxRecDepth 100000 in
/-- A traversal returns all three. -/
theorem listing_pagination_sampleProjects :
    ((projectListing.traverse 1 sampleProjects busyRequests 3).items.map fun project =>
      (project.id, project.name)) =
        [(⟨sampleId 0⟩, "project"), (⟨sampleId 4⟩, "middle"), (⟨sampleId 6⟩, "last")] ∧
    projectListing.Pagination (·.id.uuid) (fun _ => False) 1 sampleProjects busyRequests :=
  ⟨by decide +kernel, listing_pagination .projects (Database.Constrained.empty.afterAll _)
    (by decide) (by decide) busyRequests⟩

set_option maxRecDepth 100000 in
/-- The request is in the listing at every time, and no traversal ever returns it. -/
theorem pendingListing_unattributed :
    (∀ request, ⟨sampleId 5⟩ ∈ ((pendingListing ⟨sampleId 2⟩).rows ((Database.empty.afterAll
      sampleUnattributed).serving sampleRequests request)).map (pendingListing ⟨sampleId 2⟩).key) ∧
    ∀ count, ((pendingListing ⟨sampleId 2⟩).traverse 1 (Database.empty.afterAll
      sampleUnattributed) sampleRequests count).items = [] ∧
      ((pendingListing ⟨sampleId 2⟩).traverse 1 (Database.empty.afterAll
        sampleUnattributed) sampleRequests count).outcome ≠ .finished := by
  have hserving : ∀ request, (Database.empty.afterAll sampleUnattributed).serving sampleRequests
      request = Database.empty.afterAll sampleUnattributed := by
    intro request
    induction request with
    | zero => rfl
    | succ request ih => exact ih
  have hlisted : ⟨sampleId 5⟩ ∈ ((pendingListing ⟨sampleId 2⟩).rows
      (Database.empty.afterAll sampleUnattributed)).map (pendingListing ⟨sampleId 2⟩).key := by
    decide +kernel
  have hfails : ∃ error, ((AppStore.listPendingUserInputsForRun ⟨sampleId 2⟩ none 1).exec ⟨3⟩
      (Database.empty.afterAll sampleUnattributed)).1 = .error error :=
    ⟨.integrity "Invalid column type Null at index: 3, name: provider_namespace", by decide +kernel⟩
  obtain ⟨error, hfails⟩ := hfails
  have hstuck : ∀ count, (pendingListing ⟨sampleId 2⟩).traverse 1 (Database.empty.afterAll
      sampleUnattributed) sampleRequests (count + 1) = ⟨[], .failed error⟩ := by
    intro count
    induction count with
    | zero =>
        change (pendingListing ⟨sampleId 2⟩).request 1 ⟨3⟩ (Database.empty.afterAll
          sampleUnattributed) ⟨[], .pending none⟩ = _
        unfold Listing.request
        dsimp only [pendingListing]
        rw [hfails]
    | succ count ih => rw [Listing.traverse, ih]; rfl
  refine ⟨fun request => (hserving request).symm ▸ hlisted, fun count => ?_⟩
  cases count with
  | zero => exact ⟨rfl, fun h => by cases h⟩
  | succ count =>
      rw [hstuck count]
      exact ⟨rfl, fun h => by cases h⟩

end YakShed
