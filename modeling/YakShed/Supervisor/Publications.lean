/-
# Publications

A task that has changed something reads the revision of the work item and then
broadcasts: two actions, between which others may do the same. `Announces` says of
a program that it broadcasts in no other way. Where no such read fails and no
publication of a work item is overtaken by one that read a later revision, the
notifications of the item carry revisions that never fall, and none below what its
own task has made of the item before.
-/

import YakShed.Concurrency.History
import YakShed.Store.Digest
import YakShed.Store.Listings
import YakShed.Supervisor.Footprint
import YakShed.Supervisor.Ledger

namespace YakShed

open Concurrent

/-! ## Programs -/

/-- The revision that is broadcast after a read. -/
def readRevision (found : Except StoreError WorkItemSnapshot) : DataRevision :=
  match found with
  | .ok snapshot => snapshot.revision
  | .error _ => 0

/-- A program whose every broadcast comes right after the read of its revision. -/
inductive Announces {α : Type} : Sup α → Prop
  | done (value : α) : Announces (.done value)
  | publication {site : Site} {item : WorkItemId} {kind : AppEventKind} {next : Unit → Sup α}
      (rest : ∀ answer, Announces (next answer)) :
      Announces (.perform (.store site (.getWorkItem item)) fun found =>
        .perform (.broadcast ⟨item, readRevision found, kind⟩) next)
  | perform {β : Type} {act : Act β} {next : β → Sup α} (silent : act.announces = false)
      (rest : ∀ answer, Announces (next answer)) : Announces (.perform act next)
  | call {β : Type} {proc : Proc β} {next : β → Sup α}
      (rest : ∀ result, Announces (next result)) : Announces (.call proc next)

theorem Announces.bind {α β : Type} {program : Sup α} {rest : α → Sup β} (h : Announces program)
    (hrest : ∀ value, Announces (rest value)) : Announces (program >>= rest) := by
  change Announces (program.bind rest)
  induction h with
  | done value => exact hrest value
  | publication _ ih => exact .publication ih
  | perform silent _ ih => exact .perform silent ih
  | call _ ih => exact .call ih

theorem Announces.perform_cases {α β : Type} {act : Act β} {next : β → Sup α}
    (h : Announces (.perform act next)) :
    (act.announces = false ∧ ∀ answer, Announces (next answer)) ∨
      ∃ (site : Site) (item : WorkItemId) (kind : AppEventKind) (rest : Unit → Sup α),
        (Prog.perform act next : Sup α) = .perform (.store site (.getWorkItem item)) (fun found =>
          .perform (.broadcast ⟨item, readRevision found, kind⟩) rest) ∧
        ∀ answer, Announces (rest answer) := by
  generalize hprogram : (Prog.perform act next : Sup α) = program at h
  cases h with
  | done | call => cases hprogram
  | publication rest => exact .inr ⟨_, _, _, _, rfl, rest⟩
  | perform silent rest =>
      cases hprogram
      exact .inl ⟨silent, rest⟩

theorem announces_routine : Routine Announces where
  done := .done
  bind := Announces.bind
  act := fun _ _ hsilent => .perform hsilent .done
  publish := fun _ _ => .publication .done
  turn := fun _ _ hsilent _ => .perform hsilent .done

theorem Announces.invoke {β : Type} (proc : Proc β) : Announces (Prog.invoke proc) :=
  .call .done

/-- The supervisor broadcasts in no other way. -/
theorem Announces.body {β : Type} (proc : Proc β) : Announces proc.body := by
  cases hconsumer : proc.isConsumer with
  | false =>
      have hstarts : Starts Announces :=
        routine_starts announces_routine fun _ => .perform rfl .done
      exact body_all announces_routine (fun _ _ _ _ => .invoke _) (fun _ _ _ _ => .invoke _)
        (startRun_all announces_routine.toQuiet hstarts) (fun _ _ => .invoke _) (.invoke _) proc
        hconsumer
  | true =>
      cases proc with
      | consumeRun run item provider channel deltas =>
          have happlies : Applies Announces run channel := by
            refine ⟨⟨?_, ?_, ?_⟩, ?_, ?_⟩
            all_goals
              intros
              exact .perform rfl .done
          exact consumeRun_all announces_routine.toQuiet deltas happlies
            (fun _ _ => .perform rfl .done) (.perform rfl .done) (.perform rfl .done)
            (.perform rfl .done) fun _ => .invoke _
      | _ => cases hconsumer

/-! ## Revisions -/

/-- The revision of a work item; one that is not there stands at zero. -/
def Database.revisionOf (db : Database) (item : WorkItemId) : DataRevision :=
  ((db.findWorkItem item).map (·.revision)).getD 0

section Revisions

variable [Sha256] {now : UtcTimestamp} {db db' : Database} {item : WorkItemId}

theorem Change.revisionOf_le (h : Change now db db') (hdb : db.Sound) :
    db.revisionOf item ≤ db'.revisionOf item := by
  unfold Database.revisionOf
  cases hrow : db.findWorkItem item with
  | none => exact Nat.zero_le _
  | some row =>
      cases Database.versioned hdb h hrow with
      | bumped row' hrow' hnext =>
          rw [hrow', Option.map_some, Option.map_some, Option.getD_some, Option.getD_some, hnext]
          exact Nat.le_succ _
      | untouched hsame =>
          have hitem : db'.findWorkItem item = some row :=
            (congrArg Aggregate.item hsame).trans hrow
          rw [hitem]

/-- A read that the store serves finds the item's revision. -/
theorem readRevision_eq {oracle : Oracle} {world world' : World}
    {found : Except StoreError WorkItemSnapshot} (hserved : oracle.Served)
    (h : (StoreCall.getWorkItem item).exec oracle world = some (found, world')) :
    readRevision found = world.db.revisionOf item ∧ world'.db = world.db := by
  obtain ⟨failure, fresh, occurredAt, now, rfl, _, ⟨error, hfailure, _⟩ |
    ⟨_, db, hexec, rfl⟩⟩ := StoreCall.exec_cases h
  · cases (show failure = none from hserved).symm.trans hfailure
  · change (AppStore.getWorkItem item).exec now world.db = _ at hexec
    rw [getWorkItem_exec] at hexec
    unfold Database.revisionOf
    cases hrow : world.db.findWorkItem item with
    | none =>
        rw [hrow] at hexec
        cases hexec
        exact ⟨rfl, rfl⟩
    | some row =>
        rw [hrow] at hexec
        cases hexec
        exact ⟨rfl, rfl⟩

end Revisions

/-! ## Waiting publications -/

/-- The notification that the action broadcasts. -/
def Act.event : {β : Type} → Act β → Option AppEvent
  | _, broadcast event => some event
  | _, _ => none

/-- The action is the read of a publication. -/
def Act.readsRevision : {β : Type} → Act β → Bool
  | _, store _ (.getWorkItem _) => true
  | _, _ => false

/-- The notification that a task is about to broadcast. -/
def waiting (config : Config Act Proc World) (i : Nat) : Option AppEvent :=
  (config.next i).bind fun next => next.2.event

/-- The notification that a step broadcast. -/
def sent (moment : Moment Act World) : Option AppEvent :=
  moment.act.bind fun act => act.2.event

/-- No read of a publication fails, and a notification is broadcast only when
none of the same work item waits with an older revision. -/
structure InTurn (config : Config Act Proc World) (i : Nat) (oracle : Oracle) : Prop where
  served : ∀ {β : Type} {act : Act β}, config.next i = some ⟨β, act⟩ →
    act.readsRevision = true → oracle.Served
  turn : ∀ {event : AppEvent}, waiting config i = some event → ∀ {j : Nat} {other : AppEvent},
    waiting config j = some other → other.workItemId = event.workItemId →
      event.revision ≤ other.revision

/-- The notifications of each work item come with revisions that never fall, and
each with one that is not below what an earlier step of its own task, above all
the change that it reports, made of the item. -/
structure InOrder (moments : List (Moment Act World)) : Prop where
  increasing : (moments.filterMap sent).Pairwise fun first second =>
    second.workItemId = first.workItemId → first.revision ≤ second.revision
  produced : ∀ {before after : List (Moment Act World)} {moment : Moment Act World}
    {event : AppEvent}, moments = before ++ moment :: after → sent moment = some event →
    ∀ earlier ∈ before, earlier.task = moment.task →
      earlier.after.db.revisionOf event.workItemId ≤ event.revision

/-! ## The invariant -/

/-- A task is between publications, or in one whose revision is up to date. -/
inductive Standing (moments : List (Moment Act World)) (db : Database) (i : Nat) :
    Sup Unit → Prop
  | between {task : Sup Unit} (h : Announces task) : Standing moments db i task
  | publishing {event : AppEvent} {next : Unit → Sup Unit}
      (rest : ∀ answer, Announces (next answer))
      (read : event.revision ≤ db.revisionOf event.workItemId)
      (later : ∀ other ∈ moments.filterMap sent, event.workItemId = other.workItemId →
        other.revision ≤ event.revision)
      (own : ∀ moment ∈ moments, moment.task = i →
        moment.after.db.revisionOf event.workItemId ≤ event.revision) :
      Standing moments db i (.perform (.broadcast event) next)

structure Published (config : Config Act Proc World) (moments : List (Moment Act World)) :
    Prop where
  sound : config.world.db.Sound
  tasks : ∀ i task, config.tasks[i]? = some task → Standing moments config.world.db i task
  past : ∀ moment ∈ moments, ∀ item,
    moment.after.db.revisionOf item ≤ config.world.db.revisionOf item
  stored : ∀ event ∈ moments.filterMap sent,
    event.revision ≤ config.world.db.revisionOf event.workItemId
  ordered : InOrder moments

section Steps

variable {config : Config Act Proc World} {moments : List (Moment Act World)}
  {moment : Moment Act World}

/-- What a step may broadcast. -/
structure MayFollow (moment : Moment Act World) (config : Config Act Proc World)
    (moments : List (Moment Act World)) (event : AppEvent) : Prop where
  read : event.revision ≤ moment.after.db.revisionOf event.workItemId
  later : ∀ other ∈ moments.filterMap sent, event.workItemId = other.workItemId →
    other.revision ≤ event.revision
  own : ∀ earlier ∈ moments, earlier.task = moment.task →
    earlier.after.db.revisionOf event.workItemId ≤ event.revision
  turn : ∀ {j : Nat} {other : AppEvent}, waiting config j = some other →
    other.workItemId = event.workItemId → event.revision ≤ other.revision

theorem filterMap_sent_append :
    (moments ++ [moment]).filterMap sent = moments.filterMap sent ++ (sent moment).toList := by
  rw [List.filterMap_append]
  cases h : sent moment <;> simp [h]

theorem InOrder.append (h : InOrder moments)
    (hsent : ∀ event, sent moment = some event → MayFollow moment config moments event) :
    InOrder (moments ++ [moment]) where
  increasing := by
    rw [filterMap_sent_append, List.pairwise_append]
    refine ⟨h.increasing, ?_, ?_⟩
    · cases sent moment with
      | none => exact .nil
      | some event => exact List.pairwise_singleton _ _
    · intro other hother event hevent
      exact (hsent event (Option.mem_toList.mp hevent)).later other hother
  produced := by
    intro before after last event hsplit hlast
    rcases List.eq_nil_or_concat after with rfl | ⟨front, final, rfl⟩
    · obtain ⟨rfl, hsame⟩ := List.append_inj' hsplit rfl
      cases hsame
      exact (hsent event hlast).own
    · have hshorter : moments = before ++ last :: front := by
        have hsplit' : moments ++ [moment] = (before ++ last :: front) ++ [final] := by
          rw [hsplit, List.concat_eq_append, List.append_assoc, List.cons_append]
        exact (List.append_inj' hsplit' rfl).1
      exact h.produced hshorter hlast

/-- A task that does nothing stands where it was. -/
theorem Standing.stays {j : Nat} {task : Sup Unit} {db : Database}
    (h : Standing moments db j task) (htask : config.tasks[j]? = some task)
    (hgrown : ∀ item, db.revisionOf item ≤ moment.after.db.revisionOf item)
    (hother : moment.task ≠ j)
    (hsent : ∀ event, sent moment = some event → MayFollow moment config moments event) :
    Standing (moments ++ [moment]) moment.after.db j task := by
  cases h with
  | between h => exact .between h
  | @publishing event next rest read later own =>
      refine .publishing rest (read.trans (hgrown _)) ?_ ?_
      · intro other hmem hitem
        rw [filterMap_sent_append] at hmem
        rcases List.mem_append.mp hmem with hmem | hmem
        · exact later other hmem hitem
        · have hwaiting : waiting config j = some event := by
            unfold waiting
            rw [Config.next_perform htask]
            rfl
          exact (hsent other (Option.mem_toList.mp hmem)).turn hwaiting hitem
      · intro earlier hmem htask'
        rcases List.mem_append.mp hmem with hmem | hmem
        · exact own earlier hmem htask'
        · rw [List.mem_singleton.mp hmem] at htask'
          exact absurd htask' hother

/-- One step, by what it leaves of its own task. -/
theorem Published.append (h : Published config moments) (moment : Moment Act World)
    {tasks : List (Sup Unit)} {task : Sup Unit} (hsound : moment.after.db.Sound)
    (hgrown : ∀ item, config.world.db.revisionOf item ≤ moment.after.db.revisionOf item)
    (htasks : ∀ j task', tasks[j]? = some task' → moment.task = j ∧ task' = task ∨
      moment.task ≠ j ∧ config.tasks[j]? = some task' ∨ Announces task')
    (htask : Standing (moments ++ [moment]) moment.after.db moment.task task)
    (hsent : ∀ event, sent moment = some event → MayFollow moment config moments event) :
    Published ⟨moment.after, tasks⟩ (moments ++ [moment]) where
  sound := hsound
  tasks := by
    intro j task' htask'
    rcases htasks j task' htask' with ⟨rfl, rfl⟩ | ⟨hother, hold⟩ | hannounces
    · exact htask
    · exact (h.tasks j task' hold).stays hold hgrown hother hsent
    · exact .between hannounces
  past := by
    intro earlier hmem item
    rcases List.mem_append.mp hmem with hmem | hmem
    · exact (h.past earlier hmem item).trans (hgrown item)
    · rw [List.mem_singleton.mp hmem]
  stored := by
    intro event hmem
    rw [filterMap_sent_append] at hmem
    rcases List.mem_append.mp hmem with hmem | hmem
    · exact (h.stored event hmem).trans (hgrown _)
    · exact (hsent event (Option.mem_toList.mp hmem)).read
  ordered := h.ordered.append hsent

theorem tasks_after {tasks : List (Sup Unit)} {i j : Nat} {task task' : Sup Unit}
    {spawned : List (Proc Unit)}
    (h : (tasks.set i task ++ spawned.map Prog.invoke)[j]? = some task') :
    i = j ∧ task' = task ∨ i ≠ j ∧ tasks[j]? = some task' ∨ Announces task' := by
  rw [List.getElem?_append] at h
  split at h
  · rw [List.getElem?_set] at h
    split at h
    · next hsame =>
        split at h
        · cases h
          exact .inl ⟨hsame, rfl⟩
        · cases h
    · next hother => exact .inr (.inl ⟨hother, h⟩)
  · obtain ⟨proc, _, rfl⟩ := List.mem_map.mp (List.mem_of_getElem? h)
    exact .inr (.inr (.invoke proc))

variable [Sha256] {config' : Config Act Proc World} {i : Nat} {oracle : Oracle}

/-- An action that is neither of a publication. -/
theorem Published.silent (h : Published config moments) {β : Type} {act : Act β} {answer : β}
    {world : World} {spawned : List (Proc Unit)} {next : β → Sup Unit}
    (heffect : act.effect config.world oracle = some (answer, world, spawned))
    (hsilent : act.announces = false) (hrest : Announces (next answer)) :
    Published ⟨world, config.tasks.set i (next answer) ++ spawned.map Prog.invoke⟩
      (moments ++ [⟨i, some ⟨β, act⟩, world⟩]) := by
  obtain ⟨now, hchange⟩ := Act.change heffect
  apply h.append ⟨i, some ⟨β, act⟩, world⟩
  · exact h.sound.step hchange
  · exact fun item => hchange.revisionOf_le h.sound
  · exact fun j task' htask' => tasks_after htask'
  · exact .between hrest
  · intro event hevent
    cases act with
    | broadcast event => cases hsilent
    | _ => cases hevent

/-- The read of a publication: the task now waits with the item's revision. -/
theorem Published.reads (h : Published config moments) {site : Site} {item : WorkItemId}
    {kind : AppEventKind} {found : Except StoreError WorkItemSnapshot} {world : World}
    {next : Unit → Sup Unit} (hserved : oracle.Served)
    (hexec : (StoreCall.getWorkItem item).exec oracle config.world = some (found, world))
    (hrest : ∀ answer, Announces (next answer)) :
    Published ⟨world, config.tasks.set i (.perform
        (.broadcast ⟨item, readRevision found, kind⟩) next) ++ [].map Prog.invoke⟩
      (moments ++ [⟨i, some ⟨_, .store site (.getWorkItem item)⟩, world⟩]) := by
  obtain ⟨hread, hdb⟩ := readRevision_eq hserved hexec
  have hsound : world.db.Sound := hdb ▸ h.sound
  have hgrown : ∀ item, config.world.db.revisionOf item ≤ world.db.revisionOf item :=
    fun item => le_of_eq (by rw [hdb])
  have hnone : ∀ event, sent ⟨i, some ⟨_, .store site (.getWorkItem item)⟩, world⟩ = some event →
      MayFollow ⟨i, some ⟨_, .store site (.getWorkItem item)⟩, world⟩ config moments event := by
    intro event hevent
    cases hevent
  apply h.append ⟨i, some ⟨_, .store site (.getWorkItem item)⟩, world⟩ hsound hgrown
    (fun j task' htask' => tasks_after htask') ?_ hnone
  refine .publishing hrest ?_ ?_ ?_
  · rw [hread, hdb]
  · intro other hmem hitem
    rw [filterMap_sent_append] at hmem
    rcases List.mem_append.mp hmem with hmem | hmem
    · have hstored := h.stored other hmem
      rw [hread]
      rwa [← hitem] at hstored
    · cases hmem
  · intro earlier hmem _
    rw [hread]
    rcases List.mem_append.mp hmem with hmem | hmem
    · exact h.past earlier hmem item
    · rw [List.mem_singleton.mp hmem, hdb]

omit [Sha256] in
/-- The broadcast of a publication. -/
theorem Published.broadcasts (h : Published config moments) {event : AppEvent}
    {next : Unit → Sup Unit}
    (htask : config.tasks[i]? = some (.perform (.broadcast event) next))
    (hturn : InTurn config i oracle) :
    Published ⟨config.world.note (.published event),
        config.tasks.set i (next ()) ++ [].map Prog.invoke⟩
      (moments ++ [⟨i, some ⟨_, .broadcast event⟩, config.world.note (.published event)⟩]) := by
  have hwaiting : waiting config i = some event := by
    unfold waiting
    rw [Config.next_perform htask]
    rfl
  cases h.tasks i _ htask with
  | between hannounces =>
      rcases hannounces.perform_cases with ⟨hsilent, _⟩ | ⟨site, item, kind, rest, hprogram, _⟩
      · cases hsilent
      · rw [hprogram] at htask
        unfold waiting at hwaiting
        rw [Config.next_perform htask] at hwaiting
        cases hwaiting
  | publishing rest read later own =>
      apply h.append ⟨i, some ⟨_, .broadcast event⟩, config.world.note (.published event)⟩
      · exact h.sound
      · exact fun _ => le_rfl
      · exact fun j task' htask' => tasks_after htask'
      · exact .between (rest ())
      · intro other hother
        cases hother
        exact ⟨read, later, own, fun hwaits hitem => hturn.turn hwaiting hwaits hitem⟩

theorem Published.step (h : Published config moments) (hturn : InTurn config i oracle)
    (htaken : supervisor.step i oracle config = some config') :
    Published config' (moments ++ [⟨i, config.next i, config'.world⟩]) := by
  rcases Machine.step_cases htaken with
    ⟨β, act, next, answer, world, spawned, htask, hexec, rfl⟩ | ⟨β, proc, next, htask, rfl⟩
  · have hnext := Config.next_perform htask
    have heffect := supervisor_effect hexec
    rw [hnext]
    generalize hprogram : (Prog.perform act next : Sup Unit) = task at htask
    cases h.tasks i _ htask with
    | publishing rest read later own =>
        cases hprogram
        cases heffect
        exact h.broadcasts htask hturn
    | between hannounces =>
        cases hprogram
        rcases hannounces.perform_cases with
          ⟨hsilent, hrest⟩ | ⟨site, item, kind, rest, hread, hrest⟩
        · exact h.silent heffect hsilent (hrest answer)
        · cases hread
          obtain ⟨⟨found, after⟩, hfound, heq⟩ := Option.map_eq_some_iff.mp heffect
          cases heq
          exact h.reads (hturn.served hnext rfl) hfound hrest
  · have hrest : Announces ((supervisor.body proc).bind next) := by
      cases h.tasks i _ htask with
      | between hannounces =>
          cases hannounces with
          | call hrest => exact (Announces.body proc).bind hrest
    rw [Config.next_call htask]
    have hnone : ∀ event, sent ⟨i, none, config.world⟩ = some event →
        MayFollow ⟨i, none, config.world⟩ config moments event := by
      intro event hevent
      cases hevent
    have hafter : ∀ j task', (config.tasks.set i ((supervisor.body proc).bind next))[j]? =
        some task' → i = j ∧ task' = (supervisor.body proc).bind next ∨
          i ≠ j ∧ config.tasks[j]? = some task' ∨ Announces task' := by
      intro j task' htask'
      have hempty : (config.tasks.set i ((supervisor.body proc).bind next) ++
          [].map Prog.invoke)[j]? = some task' := by
        rwa [List.map_nil, List.append_nil]
      exact tasks_after hempty
    have hsame := h.append ⟨i, none, config.world⟩ h.sound (fun _ => le_rfl)
      hafter
      (.between hrest) hnone
    exact hsame

end Steps

/-! ## Whole histories -/

section Histories

variable [Sha256] {calls : List Call} {issued : List Uuid} {config : Config Act Proc World}
  {moments : List (Moment Act World)}

omit [Sha256] in
theorem Published.spawn (h : Published config moments) (proc : Proc Unit) :
    Published (config.spawn proc) moments where
  sound := h.sound
  tasks := by
    intro i task htask
    change (config.tasks ++ [Prog.invoke proc])[i]? = some task at htask
    rw [List.getElem?_append] at htask
    split at htask
    · exact h.tasks i task htask
    · obtain rfl := List.mem_singleton.mp (List.mem_of_getElem? htask)
      exact .between (.invoke proc)
  past := h.past
  stored := h.stored
  ordered := h.ordered

theorem published_start :
    Published (newSupervisor (Database.empty.afterAll calls) issued) [] where
  sound := Database.Sound.empty.afterAll calls
  tasks := by
    intro i task htask
    obtain rfl := List.mem_singleton.mp (List.mem_of_getElem? htask)
    exact .between (.invoke .startup)
  past := by
    intro moment hmem
    cases hmem
  stored := by
    intro event hmem
    cases hmem
  ordered := by
    refine ⟨.nil, ?_⟩
    intro before after moment event hsplit
    exact absurd hsplit.symm (List.append_ne_nil_of_right_ne_nil _ (List.cons_ne_nil _ _))

theorem published_of_history
    (h : Machine.History supervisor InTurn Proc.isRequest
      (newSupervisor (Database.empty.afterAll calls) issued) config moments) :
    Published config moments := by
  induction h with
  | start => exact published_start
  | step i oracle _ allowed taken ih => exact ih.step allowed taken
  | spawn proc _ _ ih => exact ih.spawn proc

end Histories

/-! ## Replayed schedules -/

section Replays

/-- `InTurn`, decided. -/
def turnGuard (config : Config Act Proc World) (i : Nat) (oracle : Oracle) : Bool :=
  (match config.next i with
    | some ⟨_, act⟩ => !act.readsRevision || decide oracle.Served
    | none => true) &&
  (waiting config i).all fun event => (List.range config.tasks.length).all fun j =>
    (waiting config j).all fun other =>
      !decide (other.workItemId = event.workItemId) || decide (event.revision ≤ other.revision)

theorem lt_of_waiting {config : Config Act Proc World} {j : Nat} {event : AppEvent}
    (h : waiting config j = some event) : j < config.tasks.length := by
  unfold waiting Config.next at h
  split at h
  · next htask => exact (List.getElem?_eq_some_iff.mp htask).1
  · cases h

theorem turnGuard_sound (config : Config Act Proc World) (i : Nat) (oracle : Oracle)
    (h : turnGuard config i oracle = true) : InTurn config i oracle := by
  obtain ⟨hserved, hturn⟩ := (Bool.and_eq_true _ _).mp h
  constructor
  · intro β act hnext hread
    rw [hnext] at hserved
    rcases (Bool.or_eq_true _ _).mp hserved with hreads | hserved
    · rw [hread] at hreads
      cases hreads
    · exact of_decide_eq_true hserved
  · intro event hevent j other hother hitem
    rw [hevent, Option.all_some, List.all_eq_true] at hturn
    have hpair := hturn j (List.mem_range.mpr (lt_of_waiting hother))
    rw [hother, Option.all_some, decide_eq_true hitem] at hpair
    exact of_decide_eq_true hpair

/-- The revision of the second notification cannot be read. -/
def Schedule.unread : List (Machine.Move Proc Oracle) :=
  Schedule.startup ++ Schedule.startHandshake ++
    [.step 1 (.started (.ok sampleRun)), Schedule.run 1, Schedule.store 1 12,
      .step 1 (.store (some .closed) (sampleUuid 13) ⟨0⟩ ⟨0⟩), Schedule.run 1]

/-- A steer reads the revision, and the run's end is reported before it broadcasts. -/
def Schedule.overtaken : List (Machine.Move Proc Oracle) :=
  Schedule.started ++
    [.spawn (.steer ⟨sampleUuid 10⟩ "text"), Schedule.run 4, Schedule.run 4, Schedule.run 4,
      .step 4 (.acknowledged (.error (.outcomeUnknown "steer"))), Schedule.store 4 21,
      Schedule.store 4 22, Schedule.store 4 23,
      .step 2 (.event (.ok (some (.runTerminal sampleRun .completed)))), .step 2 (.runOrder []),
      Schedule.run 3, Schedule.run 3, .step 3 (.commandOrder []), Schedule.store 3 24,
      Schedule.store 3 25, Schedule.store 3 26, Schedule.run 3, Schedule.run 4]

def fallsBack (moments : List (Moment Act World)) : Bool :=
  decide (¬ (moments.filterMap sent).Pairwise fun first second =>
    second.workItemId = first.workItemId → first.revision ≤ second.revision)

theorem not_inOrder_of_fallsBack {moments : List (Moment Act World)}
    (h : fallsBack moments = true) : ¬ InOrder moments := by
  intro hordered
  exact of_decide_eq_true h hordered.increasing

end Replays

/-! ## Order of the notifications -/

/-- Where no publication fails to read the revision and none is overtaken by one
that read a later revision, the notifications of each work item are in order. -/
theorem inOrder_of_inTurn [Sha256] {calls : List Call} {issued : List Uuid}
    {config : Config Act Proc World} {moments : List (Moment Act World)}
    (h : Machine.History supervisor InTurn Proc.isRequest
      (newSupervisor (Database.empty.afterAll calls) issued) config moments) :
    InOrder moments :=
  (published_of_history h).ordered

set_option maxRecDepth 100000 in
theorem started_inOrder :
    ∃ config moments, Machine.History supervisor InTurn Proc.isRequest
        (newSupervisor (Database.empty.afterAll Schedule.oneItemCalls) oneItemIssued)
        config moments ∧
      1 < (moments.filterMap sent).length ∧ InOrder moments := by
  obtain ⟨config, moments, hhistory, hcheck⟩ := Machine.History.exists_of_record turnGuard
    turnGuard_sound Schedule.started (fun moments => decide (1 < (moments.filterMap sent).length))
    (show ((supervisor.record turnGuard Proc.isRequest (newSupervisor oneItem oneItemIssued) []
      Schedule.started).any fun run => decide (1 < (run.2.filterMap sent).length)) = true by
        decide +kernel)
  rw [← oneItem_eq] at hhistory
  exact ⟨config, moments, hhistory, of_decide_eq_true hcheck, inOrder_of_inTurn hhistory⟩

set_option maxRecDepth 100000 in
/-- A read that fails stands for revision zero, and a publication may be overtaken. -/
theorem unread_overtaken_not_inOrder :
    (∃ config moments, Machine.History supervisor (fun _ _ _ => True) Proc.isRequest
        (newSupervisor (Database.empty.afterAll Schedule.oneItemCalls) oneItemIssued)
        config moments ∧ ¬ InOrder moments) ∧
    ∃ config moments, Machine.History supervisor (fun _ _ oracle => oracle.Served) Proc.isRequest
        (newSupervisor (Database.empty.afterAll Schedule.oneItemCalls) oneItemIssued)
        config moments ∧ ¬ InOrder moments := by
  rw [oneItem_eq]
  constructor
  · obtain ⟨config, moments, hhistory, hcheck⟩ := Machine.History.exists_of_record
      (fun _ _ _ => true) (fun _ _ _ _ => trivial) Schedule.unread fallsBack
      (show ((supervisor.record (fun _ _ _ => true) Proc.isRequest
        (newSupervisor oneItem oneItemIssued) [] Schedule.unread).any fun run =>
          fallsBack run.2) = true by decide +kernel)
    exact ⟨config, moments, hhistory, not_inOrder_of_fallsBack hcheck⟩
  · obtain ⟨config, moments, hhistory, hcheck⟩ := Machine.History.exists_of_record
      (fun _ _ oracle => decide oracle.Served) (fun _ _ _ => of_decide_eq_true)
      Schedule.overtaken fallsBack
      (show ((supervisor.record (fun _ _ oracle => decide oracle.Served) Proc.isRequest
        (newSupervisor oneItem oneItemIssued) [] Schedule.overtaken).any fun run =>
          fallsBack run.2) = true by decide +kernel)
    exact ⟨config, moments, hhistory, not_inOrder_of_fallsBack hcheck⟩

end YakShed
