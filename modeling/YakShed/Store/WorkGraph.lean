/-
# The work graph

Work items and their parent edges form a forest: an edge is only ever added
with its child, and never moved. This is what lets the recursive query of
`archiveWorkSubtree` come to an end, and what keeps archiving closed under
descendants.
-/

import YakShed.Collections.Walk
import YakShed.Store.Acceptance

namespace YakShed

def CreateWorkItem.row (command : CreateWorkItem) (now : UtcTimestamp) : WorkItemRow :=
  { id := command.id, projectId := command.projectId, title := command.title, status := .ready
    revision := 1, createdAtMs := now.unixMillis, updatedAtMs := now.unixMillis
    archivedAtMs := none }

namespace Database

/-- A stored edge leads from `parent` to `child`. -/
def IsParent (db : Database) (parent child : WorkItemId) : Prop :=
  Walk.Step WorkEdgeRow.parentId WorkEdgeRow.childId db.workEdges parent child

/-- The item is the root or below it. -/
def Descends (db : Database) (root item : WorkItemId) : Prop :=
  Relation.ReflTransGen db.IsParent root item

/-- What every change keeps of the items and their edges. -/
structure Forest (db : Database) : Prop where
  itemIds : (db.workItems.map (·.id)).Nodup
  children : (db.workEdges.map (·.childId)).Nodup
  ranked : Walk.Ranked WorkEdgeRow.parentId WorkEdgeRow.childId db.workEdges
  edges : ∀ edge ∈ db.workEdges, ∃ parent child, db.findWorkItem edge.parentId = some parent ∧
    db.findWorkItem edge.childId = some child ∧ parent.projectId = child.projectId ∧
    (parent.status = .archived → child.status = .archived)

theorem Forest.empty : Database.empty.Forest where
  itemIds := List.nodup_nil
  children := List.nodup_nil
  ranked := .nil
  edges := by simp [Database.empty]

/-! ## The recursive query -/

variable {db db' : Database}

theorem childrenOf_eq_next (db : Database) (items : List WorkItemId) :
    db.childrenOf items = Walk.next WorkEdgeRow.parentId WorkEdgeRow.childId db.workEdges items :=
  rfl

/-- The query finds what walks of at most so many edges reach. -/
theorem mem_subtree {rounds : Nat} {frontier : List WorkItemId} {item : WorkItemId} :
    item ∈ db.subtree rounds frontier ↔ ∃ first ∈ frontier, ∃ path, path.length ≤ rounds ∧
      Walk.Along WorkEdgeRow.parentId WorkEdgeRow.childId db.workEdges first path item := by
  induction rounds generalizing frontier with
  | zero =>
      constructor
      · exact fun h => ⟨item, h, [], le_rfl, .nil item⟩
      · rintro ⟨first, hfirst, path, hlength, hpath⟩
        cases hpath with
        | nil => exact hfirst
        | cons => simp at hlength
  | succ rounds ih =>
      have hround : item ∈ db.subtree (rounds + 1) frontier ↔
          item ∈ frontier ∨ item ∈ db.subtree rounds (db.childrenOf frontier) := by
        rw [subtree]
        cases hchildren : db.childrenOf frontier with
        | nil =>
            have hnone : item ∉ db.subtree rounds [] := by
              rw [ih]
              simp
            simp [hnone]
        | cons child rest => simp
      rw [hround, ih]
      constructor
      · rintro (h | ⟨child, hchild, path, hlength, hpath⟩)
        · exact ⟨item, h, [], Nat.zero_le _, .nil item⟩
        · obtain ⟨edge, hedge, hparent, rfl⟩ := Walk.mem_next.mp (childrenOf_eq_next db _ ▸ hchild)
          exact ⟨edge.parentId, hparent, edge :: path, Nat.succ_le_succ hlength, .cons hedge hpath⟩
      · rintro ⟨first, hfirst, path, hlength, hpath⟩
        cases hpath with
        | nil => exact .inl hfirst
        | @cons edge path _ hedge hrest =>
            refine .inr ⟨edge.childId, ?_, path, Nat.le_of_succ_le_succ hlength, hrest⟩
            rw [childrenOf_eq_next]
            exact Walk.mem_next.mpr ⟨edge, hedge, hfirst, rfl⟩

/-- In a forest one round for each edge finds every descendant. -/
theorem Forest.mem_subtree (h : db.Forest) {root item : WorkItemId} :
    item ∈ db.subtree db.workEdges.length [root] ↔ db.Descends root item := by
  rw [Database.mem_subtree]
  refine Iff.trans ?_ Walk.reflTransGen_iff.symm
  constructor
  · rintro ⟨first, hfirst, path, _, hpath⟩
    rw [List.mem_singleton.mp hfirst] at hpath
    exact ⟨path, hpath⟩
  · rintro ⟨path, hpath⟩
    exact ⟨root, List.mem_singleton_self root, path, hpath.length_le h.ranked, hpath⟩

/-! ## Changes -/

section Changes

variable [Sha256] {now : UtcTimestamp}

omit [Sha256] in
/-- A new item is no one's parent. -/
theorem parentOf_afterWorkItem {command : CreateWorkItem} {id : WorkItemId}
    (hne : command.id ≠ id) : (db.afterWorkItem command now).parentOf id = db.parentOf id := by
  unfold parentOf afterWorkItem
  cases command.parentId with
  | none => rw [Option.map_none, Option.toList_none, List.append_nil]
  | some parent =>
      have hother : Keyed.lookup (·.childId) (db.workEdges ++ [⟨parent, command.id⟩]) id =
          Keyed.lookup (·.childId) db.workEdges id := Keyed.lookup_append_singleton_ne hne
      exact congrArg (Option.map (·.parentId)) hother

/-- What a call can do to the work graph. -/
theorem graph_cases (h : Change now db db') :
    (db'.workItems = db.workItems ∧ db'.workEdges = db.workEdges) ∨
    (∃ item ms, db'.workItems = Keyed.update (·.id) item (·.bump ms) db.workItems ∧
      db'.workEdges = db.workEdges) ∨
    (∃ command : CreateWorkItem, db.findWorkItem command.id = none ∧
      (db.findProject command.projectId).isSome ∧
      (∀ parentId, command.parentId = some parentId →
        checkParent db command.projectId parentId = .ok ()) ∧
      db'.workItems = (db.afterWorkItem command now).workItems ∧
      db'.workEdges = (db.afterWorkItem command now).workEdges) ∨
    ∃ root, db'.workItems = (db.afterArchive root now).workItems ∧
      db'.workEdges = db.workEdges := by
  have hbump : ∀ {before after : Database} {item : Option WorkItemId} {ms : Int},
      before.workItems = db.workItems → before.workEdges = db.workEdges →
      after.workItems = (before.bumpIfFound item ms).workItems →
      after.workEdges = (before.bumpIfFound item ms).workEdges →
      (after.workItems = db.workItems ∧ after.workEdges = db.workEdges) ∨
        ∃ item ms, after.workItems = Keyed.update (·.id) item (·.bump ms) db.workItems ∧
          after.workEdges = db.workEdges := by
    intro before after item ms hitems hedges hitems' hedges'
    cases item with
    | none => exact .inl ⟨hitems'.trans hitems, hedges'.trans hedges⟩
    | some item =>
        refine .inr ⟨item, ms, hitems'.trans ?_, hedges'.trans hedges⟩
        rw [← hitems]
        rfl
  cases h with
  | unchanged | project => exact .inl ⟨rfl, rfl⟩
  | workItem command fresh project parent =>
      exact .inr (.inr (.inl ⟨command, fresh, project, parent, rfl, rfl⟩))
  | archive root => exact .inr (.inr (.inr ⟨root, rfl, rfl⟩))
  | run | transition | batch | approval => exact .inr (.inl ⟨_, _, rfl, rfl⟩)
  | begin | confirm =>
      refine (hbump ?_ ?_ rfl rfl).imp_right .inl
      · rfl
      · rfl

omit [Sha256] in
/-- Rewriting the items in place keeps the forest. -/
theorem Forest.of_map (h : db.Forest) {f : WorkItemRow → WorkItemRow}
    (hitems : db'.workItems = db.workItems.map f) (hedges : db'.workEdges = db.workEdges)
    (hid : ∀ row, (f row).id = row.id) (hproject : ∀ row, (f row).projectId = row.projectId)
    (harchived : ∀ edge ∈ db.workEdges, ∀ parent child,
      db.findWorkItem edge.parentId = some parent → db.findWorkItem edge.childId = some child →
      (parent.status = .archived → child.status = .archived) →
      (f parent).status = .archived → (f child).status = .archived) : db'.Forest where
  itemIds := by
    rw [hitems, List.map_map]
    exact (List.map_congr_left fun row _ => hid row) ▸ h.itemIds
  children := hedges ▸ h.children
  ranked := hedges ▸ h.ranked
  edges := by
    rw [hedges]
    intro edge hedge
    obtain ⟨parent, child, hparent, hchild, hsame, hclosed⟩ := h.edges edge hedge
    have hfind : ∀ id, db'.findWorkItem id = (db.findWorkItem id).map f := fun id => by
      unfold findWorkItem
      rw [hitems, Keyed.lookup_map hid]
    refine ⟨f parent, f child, ?_, ?_, ?_, harchived edge hedge parent child hparent hchild hclosed⟩
    · rw [hfind, hparent, Option.map_some]
    · rw [hfind, hchild, Option.map_some]
    · rw [hproject, hproject, hsame]

omit [Sha256] in
/-- Hanging a new item below an active one of its project keeps the forest. -/
theorem Forest.addItem (h : db.Forest) {command : CreateWorkItem}
    (hfresh : db.findWorkItem command.id = none)
    (hparent : ∀ parentId, command.parentId = some parentId →
      checkParent db command.projectId parentId = .ok ())
    (hitems : db'.workItems = (db.afterWorkItem command now).workItems)
    (hedges : db'.workEdges = (db.afterWorkItem command now).workEdges) : db'.Forest := by
  have hkept : ∀ {id row}, db.findWorkItem id = some row → db'.findWorkItem id = some row := by
    intro id row hrow
    unfold findWorkItem
    rw [hitems]
    exact Keyed.lookup_append_of_some hrow
  have hself : db'.findWorkItem command.id = some (command.row now) := by
    unfold findWorkItem
    rw [hitems]
    exact Keyed.lookup_append_singleton_self hfresh
  have hendpoint : ∀ edge ∈ db.workEdges,
      edge.parentId ≠ command.id ∧ edge.childId ≠ command.id := by
    intro edge hedge
    obtain ⟨parent, child, hfoundParent, hfoundChild, _⟩ := h.edges edge hedge
    constructor
    · intro heq
      rw [heq, hfresh] at hfoundParent
      cases hfoundParent
    · intro heq
      rw [heq, hfresh] at hfoundChild
      cases hfoundChild
  have hold : ∀ edge ∈ db.workEdges, ∃ parent child, db'.findWorkItem edge.parentId = some parent ∧
      db'.findWorkItem edge.childId = some child ∧ parent.projectId = child.projectId ∧
      (parent.status = .archived → child.status = .archived) := by
    intro edge hedge
    obtain ⟨parent, child, hfoundParent, hfoundChild, hrest⟩ := h.edges edge hedge
    exact ⟨parent, child, hkept hfoundParent, hkept hfoundChild, hrest⟩
  have hids : (db'.workItems.map (·.id)).Nodup := by
    rw [hitems]
    exact Keyed.nodup_append_singleton h.itemIds hfresh
  cases hcommand : command.parentId with
  | none =>
      have hsame : db'.workEdges = db.workEdges := by
        rw [hedges, afterWorkItem, hcommand]
        exact List.append_nil _
      exact
        { itemIds := hids, children := hsame ▸ h.children, ranked := hsame ▸ h.ranked
          edges := hsame ▸ hold }
  | some parentId =>
      have hadded : db'.workEdges = db.workEdges ++ [⟨parentId, command.id⟩] := by
        rw [hedges, afterWorkItem, hcommand]
        rfl
      obtain ⟨parent, hfoundParent, hproject, hactive⟩ : ∃ parent,
          db.findWorkItem parentId = some parent ∧ parent.projectId = command.projectId ∧
          parent.status ≠ .archived := by
        have hcheck := hparent parentId hcommand
        unfold checkParent at hcheck
        split at hcheck
        · cases hcheck
        · next parent hfound =>
            split at hcheck
            · cases hcheck
            · next hproject =>
                split at hcheck
                · cases hcheck
                · next hactive => exact ⟨parent, hfound, not_not.mp hproject, hactive⟩
      have hne : parentId ≠ command.id := by
        rintro rfl
        rw [hfresh] at hfoundParent
        cases hfoundParent
      refine { itemIds := hids, children := ?_, ranked := ?_, edges := ?_ }
      · rw [hadded]
        refine Keyed.nodup_append_singleton h.children ?_
        exact Keyed.lookup_eq_none.mpr fun edge hedge => (hendpoint edge hedge).2
      · rw [hadded]
        exact h.ranked.append hne hendpoint
      · rw [hadded]
        intro edge hedge
        rcases List.mem_append.mp hedge with hedge | hedge
        · exact hold edge hedge
        · rw [List.mem_singleton.mp hedge]
          exact ⟨parent, command.row now, hkept hfoundParent, hself, hproject,
            fun harchived => absurd harchived hactive⟩

/-- A new forest after every change. -/
theorem Forest.step (h : db.Forest) (hchange : Change now db db') : db'.Forest := by
  rcases graph_cases hchange with ⟨hitems, hedges⟩ | ⟨item, ms, hitems, hedges⟩ |
    ⟨command, hfresh, _, hparent, hitems, hedges⟩ | ⟨root, hitems, hedges⟩
  · refine h.of_map (f := id) ?_ hedges ?_ ?_ ?_
    · rw [hitems, List.map_id]
    · exact fun _ => rfl
    · exact fun _ => rfl
    · exact fun _ _ _ _ _ _ hclosed => hclosed
  · have hstatus : ∀ row : WorkItemRow,
        (if row.id = item then row.bump ms else row).status = row.status := fun row => by
      split <;> rfl
    refine h.of_map hitems hedges ?_ ?_ ?_
    · intro row
      split <;> rfl
    · intro row
      split <;> rfl
    · intro edge _ parent child _ _ hclosed
      rw [hstatus, hstatus]
      exact hclosed
  · exact h.addItem hfresh hparent hitems hedges
  · refine h.of_map hitems hedges ?_ ?_ ?_
    · intro row
      split <;> rfl
    · intro row
      split <;> rfl
    · intro edge hedge parent child hparent hchild hclosed harchived
      have hdown : edge.parentId ∈ db.subtree db.workEdges.length [root] →
          edge.childId ∈ db.subtree db.workEdges.length [root] := fun hmem =>
        h.mem_subtree.mpr ((h.mem_subtree.mp hmem).tail ⟨edge, hedge, rfl, rfl⟩)
      have hparentId : parent.id = edge.parentId := Keyed.key_of_lookup hparent
      have hchildId : child.id = edge.childId := Keyed.key_of_lookup hchild
      by_cases hstatus : child.status = .archived
      · split
        · rfl
        · exact hstatus
      · have hbelow : parent.id ∈ db.subtree db.workEdges.length [root] := by
          by_contra hout
          rw [if_neg fun hin => hout hin.1] at harchived
          exact hstatus (hclosed harchived)
        rw [if_pos ⟨hchildId ▸ hdown (hparentId ▸ hbelow), hstatus⟩]
        rfl

theorem Forest.afterAll (h : db.Forest) (calls : List Call) : (db.afterAll calls).Forest :=
  afterAll_induction Forest.step h calls

/-! ## Archiving -/

omit [Sha256] in
/-- Archived items have archived descendants only. -/
theorem Forest.archived_of_descends (h : db.Forest) {root item : WorkItemId} {row : WorkItemRow}
    (hbelow : db.Descends root item) (hrow : db.findWorkItem root = some row)
    (harchived : row.status = .archived) :
    ∃ row', db.findWorkItem item = some row' ∧ row'.status = .archived := by
  induction hbelow with
  | refl => exact ⟨row, hrow, harchived⟩
  | tail _ hstep ih =>
      obtain ⟨edge, hedge, rfl, rfl⟩ := hstep
      obtain ⟨parent, child, hparent, hchild, _, hclosed⟩ := h.edges edge hedge
      obtain ⟨found, hfound, hstatus⟩ := ih
      rw [hparent] at hfound
      cases hfound
      exact ⟨child, hchild, hclosed hstatus⟩

theorem archiveWorkSubtree_exec (now : UtcTimestamp) {root : WorkItemId}
    (hroot : (db.findWorkItem root).isSome) :
    (AppStore.archiveWorkSubtree root).exec now db =
      (.ok (db.workItems.countP fun row =>
        row.id ∈ db.subtree db.workEdges.length [root] && row.status ≠ .archived),
        { db with
          workItems := db.workItems.map fun row =>
            if row.id ∈ db.subtree db.workEdges.length [root] && row.status ≠ .archived then
              row.archive now.unixMillis
            else row }) := by
  have hnone : ¬ (db.findWorkItem root).isNone = true := by
    rw [Option.isNone_iff_eq_none, ← Option.not_isSome_iff_eq_none, not_not]
    exact hroot
  refine AppStore.exec_accepts ?_
  change (YakShed.archiveWorkSubtree now root).run db = _
  unfold YakShed.archiveWorkSubtree
  simp only [Txn.bind_eq_ok, Txn.read_eq_ok]
  refine ⟨db, db, ⟨rfl, rfl⟩, ?_⟩
  rw [if_neg hnone]
  simp only [Txn.bind_eq_ok, Txn.write_eq_ok, Txn.pure_eq_ok]
  exact ⟨(), _, rfl, trivial, rfl⟩

theorem archiveWorkSubtree_unknown (now : UtcTimestamp) {root : WorkItemId}
    (hroot : db.findWorkItem root = none) :
    (AppStore.archiveWorkSubtree root).exec now db =
      (.error (.notFound "work item" root.uuid.toText), db) := by
  refine AppStore.exec_rejects ?_
  change (YakShed.archiveWorkSubtree now root).run db = _
  unfold YakShed.archiveWorkSubtree
  change (if (db.findWorkItem root).isNone = true then _ else _ : Txn Nat).run db = _
  rw [hroot]
  rfl

/-- What is known of the items and edges of a database. -/
structure WorkGraph (db : Database) : Prop where
  itemIds : (db.workItems.map (·.id)).Nodup
  oneParent : (db.workEdges.map (·.childId)).Nodup
  acyclic : ∀ item, ¬ Relation.TransGen db.IsParent item item
  sameProject : ∀ parent child, db.IsParent parent child → ∃ row row',
    db.findWorkItem parent = some row ∧ db.findWorkItem child = some row' ∧
    row.projectId = row'.projectId
  archived : ∀ root item row, db.Descends root item → db.findWorkItem root = some row →
    row.status = .archived → ∃ row', db.findWorkItem item = some row' ∧ row'.status = .archived
  /-- The recursive query runs out of children. -/
  terminates : ∀ root, ∃ rounds, db.childrenOf^[rounds] [root] = []
  archives : ∀ now root, (db.findWorkItem root).isSome → ∃ affected : WorkItemRow → Bool,
    (∀ row, affected row = true ↔ db.Descends root row.id ∧ row.status ≠ .archived) ∧
    (AppStore.archiveWorkSubtree root).exec now db = (.ok (db.workItems.countP affected),
      { db with
        workItems := db.workItems.map fun row =>
          if affected row then row.archive now.unixMillis else row })
  unknown : ∀ now root, db.findWorkItem root = none →
    (AppStore.archiveWorkSubtree root).exec now db =
      (.error (.notFound "work item" root.uuid.toText), db)

theorem Forest.workGraph (h : db.Forest) : db.WorkGraph where
  itemIds := h.itemIds
  oneParent := h.children
  acyclic := h.ranked.acyclic
  sameProject := by
    rintro _ _ ⟨edge, hedge, rfl, rfl⟩
    obtain ⟨parent, child, hparent, hchild, hproject, _⟩ := h.edges edge hedge
    exact ⟨parent, child, hparent, hchild, hproject⟩
  archived := fun _ _ _ hbelow hrow harchived => h.archived_of_descends hbelow hrow harchived
  terminates := by
    intro root
    have hnext : db.childrenOf =
        Walk.next WorkEdgeRow.parentId WorkEdgeRow.childId db.workEdges := by
      funext items
      exact db.childrenOf_eq_next items
    rw [hnext]
    exact ⟨db.workEdges.length + 1, Walk.iterate_next_eq_nil h.ranked (Nat.lt_succ_self _)⟩
  archives := by
    intro now root hroot
    refine ⟨_, fun row => ?_, archiveWorkSubtree_exec now hroot⟩
    rw [Bool.and_eq_true, decide_eq_true_eq, decide_eq_true_eq, h.mem_subtree]
  unknown := fun now _ hroot => archiveWorkSubtree_unknown now hroot

/-- After any calls the work items form a forest that archiving respects. -/
theorem workGraph_afterAll (calls : List Call) : (Database.empty.afterAll calls).WorkGraph :=
  (Forest.empty.afterAll calls).workGraph

end Changes

end Database

end YakShed
