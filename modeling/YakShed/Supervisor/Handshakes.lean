/-
# Starts whose outcome is unknown

Events of provider runs that have no route yet are buffered, for the start in
progress and for the starts that were given up. A map and a queue hold the latter
together; each buffer and the number of buffers have a limit.

A run is put into the queue only by the start that created it, and only once. A start
holds the run as a token from its creation on, so that no two starts have the same one.
-/

import YakShed.Store.Digest
import YakShed.Supervisor.Footprint
import YakShed.Supervisor.Ledger

namespace YakShed

open Concurrent

/-! ## Counting events -/

namespace EventBuffer

variable (buffer : EventBuffer) (run : ProviderRunRef)

theorem remove_of_find_eq_none {buffer : EventBuffer} {run : ProviderRunRef}
    (h : Dict.find buffer run = none) : Dict.remove buffer run = buffer := by
  have hnot : run ∉ buffer := AList.lookup_eq_none.mp h
  apply AList.ext
  exact List.kerase_of_notMem_keys hnot

theorem count_set (events : List RunHarnessEvent) :
    count (Dict.set buffer run events) = events.length + count (Dict.remove buffer run) := rfl

theorem count_remove :
    count buffer =
      ((Dict.find buffer run).getD []).length + count (Dict.remove buffer run) := by
  cases hfind : Dict.find buffer run with
  | none =>
      rw [remove_of_find_eq_none hfind]
      exact (Nat.zero_add _).symm
  | some events =>
      have hperm := (Dict.toList_perm_remove hfind).map fun entry => entry.2.length
      unfold count Dict.values
      rw [List.map_map, List.map_map]
      exact hperm.sum_eq

theorem count_remove_le : count (Dict.remove buffer run) ≤ count buffer := by
  rw [count_remove buffer run]
  exact Nat.le_add_left _ _

theorem count_push (event : RunHarnessEvent) :
    count (push buffer run event) = count buffer + 1 := by
  unfold push
  rw [count_set, count_remove buffer run, List.length_append, List.length_singleton]
  omega

end EventBuffer

/-! ## The buffers -/

namespace State

/-- The queue enumerates the map, and every limit is kept. -/
structure Buffered (state : State) : Prop where
  distinct : state.uncertainStartOrder.Nodup
  keys : ∀ run, run ∈ state.uncertainStartOrder ↔ (state.uncertainStarts.find run).isSome
  starts : state.uncertainStartOrder.length ≤ maxUncertainStarts
  each : ∀ run pending, state.uncertainStarts.find run = some pending →
    EventBuffer.count pending.events ≤ routeChannelCapacity
  pending : EventBuffer.count state.pendingEvents ≤ routeChannelCapacity

variable {state state' : State} {run : RunId}

theorem Buffered.initial : Buffered {} where
  distinct := List.nodup_nil
  keys := by simp
  starts := Nat.zero_le _
  each := by simp
  pending := Nat.zero_le _

/-- Only the three fields matter. -/
theorem Buffered.congr (h : state.Buffered)
    (hstarts : state'.uncertainStarts = state.uncertainStarts)
    (horder : state'.uncertainStartOrder = state.uncertainStartOrder)
    (hpending : EventBuffer.count state'.pendingEvents ≤ routeChannelCapacity) :
    state'.Buffered where
  distinct := horder ▸ h.distinct
  keys := by
    rw [hstarts, horder]
    exact h.keys
  starts := horder ▸ h.starts
  each := hstarts ▸ h.each
  pending := hpending

/-- The number of starts that are kept is the length of the queue. -/
theorem Buffered.keys_perm (h : state.Buffered) :
    state.uncertainStartOrder.Perm (state.uncertainStarts.toList.map (·.1)) := by
  have hkeys : (state.uncertainStarts.toList.map (·.1)).Nodup := by
    unfold Dict.toList
    rw [List.map_map]
    exact state.uncertainStarts.nodupKeys
  rw [List.perm_ext_iff_of_nodup h.distinct hkeys]
  intro run
  rw [h.keys, Option.isSome_iff_exists, List.mem_map]
  constructor
  · rintro ⟨pending, hfind⟩
    exact ⟨(run, pending), Dict.mem_toList.mpr hfind, rfl⟩
  · rintro ⟨⟨_, pending⟩, hmem, rfl⟩
    exact ⟨pending, Dict.mem_toList.mp hmem⟩

theorem Buffered.length_entries (h : state.Buffered) :
    state.uncertainStarts.entries.length = state.uncertainStartOrder.length := by
  rw [h.keys_perm.length_eq, List.length_map]
  unfold Dict.toList
  rw [List.length_map]

/-! ## The sections that touch them -/

/-- A start leaves the map and the queue. -/
theorem Buffered.remove (h : state.Buffered)
    (hstarts : state'.uncertainStarts = state.uncertainStarts.remove run)
    (horder : state'.uncertainStartOrder = state.uncertainStartOrder.filter (· ≠ run))
    (hpending : EventBuffer.count state'.pendingEvents ≤ EventBuffer.count state.pendingEvents) :
    state'.Buffered where
  distinct := by
    rw [horder]
    exact h.distinct.filter _
  keys := by
    intro other
    rw [horder, hstarts, List.mem_filter, Dict.find_remove, h.keys, decide_eq_true_eq]
    by_cases hsame : other = run
    · simp [hsame]
    · simp [hsame]
  starts := by
    rw [horder]
    exact (List.length_filter_le _ _).trans h.starts
  each := by
    intro other pending hfind
    rw [hstarts, Dict.find_remove] at hfind
    split at hfind
    · cases hfind
    · exact h.each other pending hfind
  pending := hpending.trans h.pending

theorem Buffered.closeRun (h : state.Buffered) (run : RunId) : (state.closeRun run).Buffered := by
  apply h.remove rfl rfl
  unfold State.closeRun
  cases state.runs.find run with
  | none => exact Nat.le_refl _
  | some provider => exact EventBuffer.count_remove_le _ _

/-- A buffer of a start that is kept is replaced by another. -/
theorem Buffered.replace (h : state.Buffered) {pending : PendingStart}
    (hfind : (state.uncertainStarts.find run).isSome)
    (hcount : EventBuffer.count pending.events ≤ routeChannelCapacity) :
    ({ state with uncertainStarts := state.uncertainStarts.set run pending } : State).Buffered where
  distinct := h.distinct
  keys := by
    intro other
    rw [h.keys, Dict.find_set]
    split
    · next hsame => simp [hsame, hfind]
    · rfl
  starts := h.starts
  each := by
    intro other found hother
    rw [Dict.find_set] at hother
    split at hother
    · cases hother
      exact hcount
    · exact h.each other found hother
  pending := h.pending

theorem firstSilentStart_eq_some {pending : PendingStart}
    (h : state.firstSilentStart = some (run, pending)) :
    state.uncertainStarts.find run = some pending ∧ pending.events = ∅ := by
  unfold firstSilentStart at h
  obtain ⟨other, _, hother⟩ := List.exists_of_findSome?_eq_some h
  split at hother
  · next found hfound =>
      split at hother
      · next hempty =>
          cases hother
          refine ⟨hfound, ?_⟩
          apply AList.ext
          exact List.isEmpty_iff.mp hempty
      · cases hother
  · cases hother

theorem Buffered.bufferHandshakeEvent (h : state.Buffered) (order : List RunId)
    (provider : ProviderRunRef) (event : RunHarnessEvent) :
    (state.bufferHandshakeEvent order provider event).Buffered := by
  unfold State.bufferHandshakeEvent
  split
  · split
    · next hroom =>
        refine h.congr rfl rfl ?_
        rw [EventBuffer.count_push]
        exact hroom
    · exact h.congr rfl rfl h.pending
  · split
    · next id pending hfound =>
        have hfind : state.uncertainStarts.find id = some pending :=
          Dict.mem_inOrder.mp (List.mem_of_find?_eq_some hfound)
        apply h.replace (Option.isSome_of_mem hfind)
        split
        · next hroom =>
            rw [EventBuffer.count_push]
            exact hroom
        · exact h.each id pending hfind
    · split
      · next id pending hfound =>
          obtain ⟨hfind, hempty⟩ := firstSilentStart_eq_some hfound
          apply h.replace (Option.isSome_of_mem hfind)
          show EventBuffer.count (Dict.set pending.events provider [event]) ≤ _
          have hone : EventBuffer.count (Dict.set ∅ provider [event]) = 1 := rfl
          rw [hempty, hone]
          decide
      · exact h

theorem bufferHandshakeEvent_order (state : State) (order : List RunId)
    (provider : ProviderRunRef) (event : RunHarnessEvent) :
    (state.bufferHandshakeEvent order provider event).uncertainStartOrder =
      state.uncertainStartOrder := by
  unfold State.bufferHandshakeEvent
  repeat' split
  all_goals rfl

/-- Before another start is kept the oldest one leaves, if there is no room. -/
theorem Buffered.makeRoom (h : state.Buffered) (run : RunId) :
    ∃ room : State, room.Buffered ∧ room.uncertainStartOrder.length < maxUncertainStarts ∧
      room.uncertainStartOrder ⊆ state.uncertainStartOrder ∧
      (state.retainUnknownHandshake run).uncertainStarts =
        room.uncertainStarts.set run ⟨state.pendingEvents, state.pendingOverflow⟩ ∧
      (state.retainUnknownHandshake run).uncertainStartOrder =
        room.uncertainStartOrder ++ [run] := by
  unfold State.retainUnknownHandshake
  cases horder : state.uncertainStartOrder with
  | nil =>
      refine ⟨state, h, ?_, fun _ => by rw [horder]; exact id, rfl, ?_⟩
      · rw [horder]
        decide
      · rw [horder]
  | cons evicted rest =>
      have hdistinct := h.distinct
      rw [horder] at hdistinct
      have hrest : rest = state.uncertainStartOrder.filter (· ≠ evicted) := by
        have hkept : rest.filter (· ≠ evicted) = rest := by
          apply List.filter_eq_self.mpr
          intro other hother
          have hne : other ≠ evicted := fun heq => (List.nodup_cons.mp hdistinct).1 (heq ▸ hother)
          simpa using hne
        rw [horder, List.filter_cons_of_neg (by simp), hkept]
      by_cases hfull : maxUncertainStarts ≤ state.uncertainStarts.entries.length
      · refine ⟨{ state with
            uncertainStarts := state.uncertainStarts.remove evicted, uncertainStartOrder := rest },
          h.remove rfl hrest (Nat.le_refl _), ?_, fun _ => List.mem_cons_of_mem evicted, ?_, ?_⟩
        · have hstarts := h.starts
          rw [horder] at hstarts
          exact hstarts
        · simp only [if_pos hfull]
        · simp only [if_pos hfull]
      · refine ⟨state, h, ?_, fun _ => by rw [horder]; exact id, ?_, ?_⟩
        · rw [← h.length_entries]
          exact Nat.lt_of_not_le hfull
        · simp only [if_neg hfull]
        · simp only [if_neg hfull, horder]

theorem Buffered.mem_retained (h : state.Buffered) {other : RunId}
    (hmem : other ∈ (state.retainUnknownHandshake run).uncertainStartOrder) :
    other ∈ state.uncertainStartOrder ∨ other = run := by
  obtain ⟨room, _, _, hsubset, _, horder⟩ := h.makeRoom run
  rw [horder, List.mem_append, List.mem_singleton] at hmem
  exact hmem.imp_left fun hroom => hsubset hroom

/-- A start that is not kept yet is kept. -/
theorem Buffered.retainUnknownHandshake (h : state.Buffered)
    (hfresh : run ∉ state.uncertainStartOrder) : (state.retainUnknownHandshake run).Buffered := by
  obtain ⟨room, hroom, hlength, hsubset, hstarts, horder⟩ := h.makeRoom run
  have hnew : run ∉ room.uncertainStartOrder := fun hmem => hfresh (hsubset hmem)
  constructor
  case distinct =>
    rw [horder, List.nodup_append]
    refine ⟨hroom.distinct, List.nodup_singleton run, ?_⟩
    intro other hother last hlast heq
    rw [List.mem_singleton.mp hlast] at heq
    exact hnew (heq ▸ hother)
  case keys =>
    intro other
    rw [horder, hstarts, List.mem_append, List.mem_singleton, hroom.keys, Dict.find_set]
    by_cases hsame : other = run
    · simp [hsame]
    · simp [hsame]
  case starts =>
    rw [horder, List.length_append]
    exact hlength
  case each =>
    intro other pending hfind
    rw [hstarts, Dict.find_set] at hfind
    split at hfind
    · cases hfind
      exact h.pending
    · exact hroom.each other pending hfind
  case pending => exact Nat.zero_le _

end State

/-! ## Actions -/

section Actions

variable [Sha256] {β : Type} {world world' : World} {oracle : Oracle} {answer : β}
  {spawned : List (Proc Unit)}

/-- Every action but one keeps the buffers in order and lengthens no queue. -/
theorem Act.buffered {act : Act β} (hretains : act.retains = false)
    (buffered : world.state.Buffered)
    (h : act.effect world oracle = some (answer, world', spawned)) :
    world'.state.Buffered ∧ world'.state.uncertainStartOrder ⊆ world.state.uncertainStartOrder := by
  cases hlock : act.takesStateLock with
  | false =>
      rw [Act.state_eq hlock h]
      exact ⟨buffered, fun _ => id⟩
  | true =>
      cases act with
      | retainUnknownHandshake => cases hretains
      | beginHandshake | finishStartHandshake | publishStart | takePending =>
          cases h
          exact ⟨buffered.congr rfl rfl (Nat.zero_le _), fun _ => id⟩
      | closeRun site run =>
          cases h
          exact ⟨buffered.closeRun run, List.filter_sublist.subset⟩
      | takeUncertainStart run =>
          cases h
          exact ⟨buffered.remove rfl rfl (Nat.le_refl _), List.filter_sublist.subset⟩
      | clearForPumpFailure =>
          simp only [Act.effect] at h
          split at h
          · cases h
            exact ⟨.initial, List.nil_subset _⟩
          · cases h
      | routeEvent provider event =>
          simp only [Act.effect] at h
          split at h
          · next order =>
              split at h
              · cases h
                refine ⟨buffered.bufferHandshakeEvent order provider event, ?_⟩
                rw [World.withState_state, State.bufferHandshakeEvent_order]
                exact fun _ => id
              · cases h
                rw [World.trySend_state]
                exact ⟨buffered, fun _ => id⟩
          · cases h
      | cloneRoute provider | lockRoute provider =>
          simp only [Act.effect, Option.some.injEq, Prod.mk.injEq] at h
          obtain ⟨_, rfl, _⟩ := h
          have hstate := World.cloneRoute_state world provider
          exact ⟨buffered.congr (congrArg _ hstate) (congrArg _ hstate)
            ((congrArg (fun state : State => EventBuffer.count state.pendingEvents) hstate).trans_le
              buffered.pending), fun _ hmem => hstate ▸ hmem⟩
      | insertWorkItem | insertUncertainRun | removeUncertainRun | prepareRoute | isAttached
      | removeRouteState | activeRun | getApproval | getResponse | insertResponse | insertApproval
      | removeApproval | getUserInput | insertUserInput | removeUserInput =>
          cases h
          exact ⟨buffered.congr rfl rfl buffered.pending, fun _ => id⟩
      | _ => cases hlock

theorem StoreCall.createRun_id {connection : ConnectionId} {item : WorkItemId}
    {result : Except StoreError RunSnapshot}
    (h : (StoreCall.createRun connection item).exec oracle world = some (result, world')) :
    ∃ fresh, fresh ∉ world.issued ∧ world'.issued = fresh :: world.issued ∧
      ∀ snapshot, result = .ok snapshot → snapshot.id = ⟨fresh⟩ := by
  obtain ⟨_, fresh, occurredAt, now, _, hfresh, ⟨_, _, rfl, rfl⟩ | ⟨_, db, hop, rfl⟩⟩ :=
    StoreCall.exec_cases h
  · refine ⟨fresh, hfresh, rfl, ?_⟩
    intro snapshot heq
    cases heq
  · refine ⟨fresh, hfresh, rfl, ?_⟩
    rintro snapshot rfl
    rcases createRun_eq_ok (AppStore.exec_ok hop) with
      ⟨_, row, hrow, rfl⟩ | ⟨_, _, _, rfl, _⟩
    · have hid : row.id = ⟨fresh⟩ := Keyed.key_of_lookup hrow
      exact hid
    · rfl

end Actions

/-! ## The starts in progress -/

/-- The runs that starts hold as tokens, and the buffers. -/
structure Handshaking (world : World) (tokens : List (Option RunId)) : Prop where
  buffered : world.state.Buffered
  issued : ∀ run ∈ world.state.uncertainStartOrder, run.uuid ∈ world.issued
  held : ∀ run, some run ∈ tokens →
    run.uuid ∈ world.issued ∧ run ∉ world.state.uncertainStartOrder
  single : (tokens.filterMap id).Nodup

/-- Any task may go on with any token; only one that holds a run may keep its start. -/
def handshakeOutline : Outline Proc World where
  Token := Option RunId
  Valid := Handshaking
  perm := fun hperm hvalid => {
    buffered := hvalid.buffered
    issued := hvalid.issued
    held := fun run hmem => hvalid.held run (hperm.mem_iff.mpr hmem)
    single := (hperm.filterMap id).nodup_iff.mp hvalid.single }
  spec := fun _ _ Q => ∀ result held, Q result held
  Idle := fun _ => True

theorem Handshaking.start {world : World} {tokens : List (Option RunId)}
    (h : Handshaking world tokens) (spawned : List (Proc Unit)) :
    Handshaking world (spawned.map (fun _ => none) ++ tokens) where
  buffered := h.buffered
  issued := h.issued
  held := by
    intro run hmem
    rcases List.mem_append.mp hmem with hnew | hold
    · obtain ⟨_, _, heq⟩ := List.mem_map.mp hnew
      cases heq
    · exact h.held run hold
  single := by
    rw [List.filterMap_append, List.filterMap_map]
    have hnone : spawned.filterMap (id ∘ fun _ => (none : Option RunId)) = [] := by
      apply List.filterMap_eq_nil_iff.mpr
      intro _ _
      rfl
    rw [hnone]
    exact h.single

/-- Nothing is issued less and nothing new is queued. -/
theorem Handshaking.mono {world world' : World} {tokens : List (Option RunId)}
    (h : Handshaking world tokens) (hbuffered : world'.state.Buffered)
    (horder : world'.state.uncertainStartOrder ⊆ world.state.uncertainStartOrder)
    (hissued : world.issued ⊆ world'.issued) : Handshaking world' tokens where
  buffered := hbuffered
  issued := fun run hmem => hissued (h.issued run (horder hmem))
  held := fun run hmem =>
    ⟨hissued (h.held run hmem).1, fun hqueued => (h.held run hmem).2 (horder hqueued)⟩
  single := h.single

section Outline

variable [Sha256] {β : Type}

omit [Sha256] in
theorem handshakeOutline_starts (spawned : List (Proc Unit)) :
    List.Forall₂ (fun proc held => handshakeOutline.spec proc held fun _ _ => True)
      spawned (spawned.map fun _ => none) := by
  induction spawned with
  | nil => exact .nil
  | cons proc rest ih => exact .cons (fun _ _ => trivial) ih

theorem handshakeOutline_keeps {act : Act β} (hretains : act.retains = false)
    (token : Option RunId) : handshakeOutline.Keeps supervisor anyStep act token := by
  intro world others oracle answer world' spawned hvalid _ hexec
  have heffect := supervisor_effect hexec
  obtain ⟨hbuffered, horder⟩ := Act.buffered hretains hvalid.buffered heffect
  have hmono := hvalid.mono hbuffered horder (Act.issued_subset heffect)
  refine ⟨token, spawned.map fun _ => none, handshakeOutline_starts spawned, ?_, rfl⟩
  exact handshakeOutline.perm List.perm_middle (hmono.start spawned)

/-- A start is given the run it creates. -/
theorem handshakeOutline_createRun (connection : ConnectionId) (item : WorkItemId)
    (token : Option RunId) :
    handshakeOutline.Step supervisor anyStep (.store .elsewhere (.createRun connection item)) token
      fun answer held => ∀ snapshot, answer = .ok snapshot → held = some snapshot.id := by
  intro world others oracle answer world' spawned hvalid _ hexec
  have heffect := supervisor_effect hexec
  obtain ⟨hbuffered, horder⟩ := Act.buffered rfl hvalid.buffered heffect
  have hmono := hvalid.mono hbuffered horder (Act.issued_subset heffect)
  have hstate := Act.state_eq rfl heffect
  obtain ⟨⟨result, after⟩, hcall, heq⟩ := Option.map_eq_some_iff.mp heffect
  cases heq
  obtain ⟨fresh, hfresh, hissued, hid⟩ := StoreCall.createRun_id hcall
  cases answer with
  | error error =>
      refine ⟨token, [], .nil, hmono, ?_⟩
      intro snapshot heq
      cases heq
  | ok snapshot =>
      have huuid : snapshot.id.uuid = fresh := congrArg RunId.uuid (hid snapshot rfl)
      have hnew : snapshot.id.uuid ∉ world.issued := fun hmem => hfresh (huuid ▸ hmem)
      refine ⟨some snapshot.id, [], .nil, ?_, ?_⟩
      · refine ⟨hbuffered, hmono.issued, ?_, ?_⟩
        · intro run hmem
          rcases List.mem_cons.mp hmem with heq | hold
          · cases heq
            refine ⟨?_, fun hqueued => hnew (hvalid.issued _ (horder hqueued))⟩
            rw [hissued, huuid]
            exact List.mem_cons_self
          · exact hmono.held run (List.mem_cons_of_mem _ hold)
        · show (snapshot.id :: others.filterMap id).Nodup
          refine List.nodup_cons.mpr ⟨?_,
            hvalid.single.sublist (List.sublist_cons_self _ _ |>.filterMap id)⟩
          intro hmem
          obtain ⟨held, hheld, heq⟩ := List.mem_filterMap.mp hmem
          obtain rfl : held = some snapshot.id := heq
          exact hnew (hvalid.held snapshot.id (List.mem_cons_of_mem _ hheld)).1
      · rintro _ ⟨⟩
        rfl

/-- The start that holds a run may keep it. -/
theorem handshakeOutline_retain (run : RunId) :
    handshakeOutline.Step supervisor anyStep (.retainUnknownHandshake run) (some run)
      fun _ _ => True := by
  intro world others oracle answer world' spawned hvalid _ hexec
  have heffect := supervisor_effect hexec
  cases heffect
  obtain ⟨hissued, hfresh⟩ := hvalid.held run List.mem_cons_self
  have hsingle : (run :: others.filterMap id).Nodup := hvalid.single
  refine ⟨none, [], .nil, ⟨hvalid.buffered.retainUnknownHandshake hfresh, ?_, ?_, ?_⟩, trivial⟩
  · intro other hmem
    rcases hvalid.buffered.mem_retained hmem with hold | rfl
    · exact hvalid.issued other hold
    · exact hissued
  · intro other hmem
    have hother : some other ∈ others :=
      (List.mem_cons.mp hmem).resolve_left (fun heq => by cases heq)
    have hheld := hvalid.held other (List.mem_cons_of_mem _ hother)
    refine ⟨hheld.1, ?_⟩
    intro hqueued
    rcases hvalid.buffered.mem_retained hqueued with hold | rfl
    · exact hheld.2 hold
    · exact (List.nodup_cons.mp hsingle).1 (List.mem_filterMap.mpr ⟨some other, hother, rfl⟩)
  · exact (List.nodup_cons.mp hsingle).2

/-! ## The functions -/

/-- Programs that may run with any token. -/
def Unhurried {α : Type} (program : Sup α) : Prop :=
  ∀ token, handshakeOutline.Ok supervisor anyStep (fun _ _ => True) program token

theorem unhurried_act {act : Act β} (hretains : act.retains = false) :
    Unhurried (YakShed.act act) :=
  fun token => Outline.Ok.act ((handshakeOutline_keeps hretains token).step fun _ => trivial)

theorem unhurried_bind {α : Type} {program : Sup α} {rest : α → Sup β} (h : Unhurried program)
    (hrest : ∀ value, Unhurried (rest value)) : Unhurried (program >>= rest) :=
  fun token => Outline.Ok.bind ((h token).mono fun value held _ => hrest value held)

theorem unhurried_routine : Routine fun program => Unhurried program where
  done := fun _ _ => trivial
  bind := unhurried_bind
  act := fun action hquiet _ => unhurried_act (by cases action <;> first | rfl | cases hquiet)
  publish := fun _ _ => unhurried_bind (unhurried_act rfl) fun _ => unhurried_act rfl
  turn := fun _ _ _ hretains => unhurried_act hretains

theorem unhurried_invoke (proc : Proc β) : Unhurried (Prog.invoke proc) :=
  fun _ => Outline.Ok.invoke fun _ _ => trivial

/-- A start keeps no run but its own. -/
theorem unhurried_startRunLocked (item : WorkItemId) (connection : ConnectionId)
    (input : String) : Unhurried (startRunLocked item connection input) := by
  intro token
  apply ok_attempt
  apply Outline.Ok.act
  apply (handshakeOutline_createRun connection item token).mono
  intro created held hheld
  refine ⟨fun _ _ => trivial, ?_⟩
  rintro snapshot rfl
  obtain rfl := hheld snapshot rfl
  -- up to the harness's answer the run is held
  have hquiet : Quiet fun program => handshakeOutline.Stays supervisor anyStep
      (some snapshot.id : Option RunId) program :=
    Quiet.stays fun _ action hquiet => handshakeOutline_keeps
      (by cases action <;> first | rfl | cases hquiet) _
  refine Outline.Ok.bind ((hquiet.publish _ _).ok fun _ => ?_)
  refine ok_act ((handshakeOutline_keeps rfl _).step fun _ => ?_)
  refine ok_act ((handshakeOutline_keeps rfl _).step fun _ => ?_)
  refine ok_act ((handshakeOutline_keeps rfl _).step fun _ => ?_)
  refine ok_act ((handshakeOutline_keeps rfl _).step fun answer => ?_)
  have routine : Routine fun program => Unhurried program := unhurried_routine
  have hmove : ∀ (site : Site) (target : RunStatus),
      Unhurried (transition snapshot.id .starting target none site) :=
    fun _ _ => transition_all routine.toQuiet (unhurried_act rfl)
  cases answer with
  | ok provider =>
      exact attachStarted_all routine.toQuiet (routine_attaches routine) item provider _
  | error error =>
      have hfailed : Unhurried (act .finishStartHandshake >>= fun _ =>
          act (.closeRun .elsewhere snapshot.id) >>= fun _ =>
            attempt (transition snapshot.id .starting .failed none) .store fun _ =>
              (return .error (.harness error) :
                Sup (Except RunOrchestrationError RunSnapshot))) := by
        refine unhurried_bind (unhurried_act rfl) fun _ =>
          unhurried_bind (unhurried_act rfl) fun _ => ?_
        exact routine.attempt (hmove _ _) fun _ => routine.done _
      cases error with
      | outcomeUnknown operation =>
          refine ok_act ((handshakeOutline_retain snapshot.id).mono ?_)
          intro _ held _
          have hrest : Unhurried (attempt (transition snapshot.id .starting .outcomeUnknown none)
              .store fun _ => publish item (.runOutcomeUnknown snapshot.id operation) >>= fun _ =>
                (return .error (.harness (.outcomeUnknown operation)) :
                  Sup (Except RunOrchestrationError RunSnapshot))) :=
            routine.attempt (hmove _ _) fun _ =>
              routine.bind (routine.publish _ _) fun _ => routine.done _
          exact hrest held
      | _ => exact hfailed _

theorem unhurried_startRun (item : WorkItemId) (connection : ConnectionId) (input : String) :
    Unhurried (startRun item connection input) := by
  have routine : Routine fun program => Unhurried program := unhurried_routine
  refine routine.attempt (unhurried_act rfl) fun _ => unhurried_bind (unhurried_act rfl) fun _ => ?_
  refine unhurried_bind (unhurried_startRunLocked item connection input) fun _ => ?_
  exact unhurried_bind (unhurried_act rfl) fun _ => routine.done _

theorem handshakeOutline_sound : handshakeOutline.Sound supervisor anyStep := by
  have routine : Routine fun program => Unhurried program := unhurried_routine
  intro β proc token Q hspec
  have hbody : Unhurried proc.body := by
    cases hconsumer : proc.isConsumer with
    | false =>
        exact body_all routine (fun _ _ _ _ => unhurried_invoke _)
          (fun _ _ _ _ => unhurried_invoke _)
          unhurried_startRun (fun _ _ => unhurried_invoke _) (unhurried_invoke _) proc hconsumer
    | true =>
        cases proc with
        | consumeRun run item provider channel deltas =>
            exact consumeRun_all routine.toQuiet deltas (routine_applies routine run channel)
              (fun _ _ => unhurried_act rfl) (unhurried_act rfl) (unhurried_act rfl)
              (unhurried_act rfl) fun _ => unhurried_invoke _
        | _ => cases hconsumer
  exact (hbody token).mono fun value held _ => hspec value held

omit [Sha256] in
theorem handshakeOutline_open : handshakeOutline.Open Proc.isRequest :=
  fun _ _ _ _ hvalid => ⟨none, fun _ _ => trivial, hvalid.start [.startup]⟩

theorem handshakeOutline_starting (db : Database) (issued : List Uuid) :
    handshakeOutline.Holds supervisor anyStep (newSupervisor db issued) := by
  refine ⟨[none], .cons (Outline.Ok.invoke fun _ _ => trivial) .nil, ?_⟩
  refine ⟨.initial, ?_, ?_, List.nodup_nil⟩
  · intro run hmem
    cases hmem
  · intro run hmem
    cases List.mem_singleton.mp hmem

end Outline

/-- In every reachable state the queue enumerates the starts that are kept, and all
buffers are within their limits. -/
theorem handshakes_bounded [Sha256] (db : Database) (issued : List Uuid)
    {config : Config Act Proc World}
    (h : Machine.Reach supervisor anyStep Proc.isRequest (newSupervisor db issued) config) :
    let state := config.world.state
    state.uncertainStartOrder.Nodup ∧
      state.uncertainStartOrder.Perm (state.uncertainStarts.toList.map (·.1)) ∧
      state.uncertainStarts.entries.length ≤ 64 ∧
      (∀ run pending, state.uncertainStarts.find run = some pending →
        EventBuffer.count pending.events ≤ 64) ∧
      EventBuffer.count state.pendingEvents ≤ 64 := by
  obtain ⟨tokens, _, hvalid⟩ := Outline.sound handshakeOutline_sound handshakeOutline_open
    (handshakeOutline_starting db issued) h
  have buffered := hvalid.buffered
  exact ⟨buffered.distinct, buffered.keys_perm, buffered.length_entries.trans_le buffered.starts,
    buffered.each, buffered.pending⟩

namespace Schedule

/-- A start whose outcome the harness does not know, with what happens while the
harness is called; the change of the run's status fails. -/
def startUnknown (task fresh : Nat) (during : List (Machine.Move Proc Oracle)) :
    List (Machine.Move Proc Oracle) :=
  [.spawn (.startRun ⟨sampleUuid 1⟩ ⟨sampleUuid 3⟩ "input"), run task, run task, run task,
    store task fresh, store task (fresh + 1), run task, run task, run task, run task] ++ during ++
  [.step task (.started (.error (.outcomeUnknown "start"))), run task,
    .step task (.store (some .closed) (sampleUuid (fresh + 2)) ⟨0⟩ ⟨0⟩), run task]

/-- The event pump takes events of a provider run that has no route. -/
def buffered (count : Nat) : List (Machine.Move Proc Oracle) :=
  (List.replicate count [run 2, .step 2 (.event (.ok (some (.messageDelta sampleRun "chunk")))),
    .step 2 (.runOrder [])]).flatten

/-- One start more than are kept; two events come during the first and more than
are kept during the last. -/
def startsUnknown : List (Machine.Move Proc Oracle) :=
  startup ++ startUnknown 1 64 (buffered 2) ++
    (List.range 63).flatMap (fun n => startUnknown (n + 3) (67 + 3 * n) []) ++
    startUnknown 66 256 (buffered 65)

end Schedule

set_option maxRecDepth 100000 in
/-- The oldest start has made room, with its events, and the newest has as many
events as are kept. -/
theorem handshakes_bounded_startUnknown :
    ∃ config, Machine.Reach supervisor anyStep Proc.isRequest (newSupervisor oneItem oneItemIssued)
        config ∧
      let state := config.world.state
      (state.uncertainStartOrder.length = 64 ∧
        state.uncertainStarts.find ⟨sampleUuid 64⟩ = none ∧
        (state.uncertainStarts.find ⟨sampleUuid 256⟩).map (fun pending =>
          (EventBuffer.count pending.events, pending.overflow)) = some (64, true)) ∧
      state.uncertainStartOrder.Nodup ∧
      state.uncertainStartOrder.Perm (state.uncertainStarts.toList.map (·.1)) ∧
      state.uncertainStarts.entries.length ≤ 64 ∧
      (∀ run pending, state.uncertainStarts.find run = some pending →
        EventBuffer.count pending.events ≤ 64) ∧
      EventBuffer.count state.pendingEvents ≤ 64 := by
  obtain ⟨config, hreach, hcheck⟩ := supervisor_reaches oneItem oneItemIssued
    (fun _ _ _ _ => true) (fun _ _ _ _ _ => trivial) Schedule.startsUnknown
    (fun config => decide (config.world.state.uncertainStartOrder.length = 64 ∧
      config.world.state.uncertainStarts.find ⟨sampleUuid 64⟩ = none ∧
      (config.world.state.uncertainStarts.find ⟨sampleUuid 256⟩).map (fun pending =>
        (EventBuffer.count pending.events, pending.overflow)) = some (64, true)))
    (by decide +kernel)
  exact ⟨config, hreach, of_decide_eq_true hcheck, handshakes_bounded oneItem oneItemIssued hreach⟩

end YakShed
