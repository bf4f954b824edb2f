/-
# A provider's terminal report

The consumer that takes a terminal event off its channel owes the run that
status until it is durable. `TerminalInTime` says of the consumer's last writes
that nothing comes between its read of the status and its compare-and-set.
-/

import YakShed.Store.Digest
import YakShed.Supervisor.Footprint
import YakShed.Supervisor.Ledger

namespace YakShed

open Concurrent

/-! ## What the report asks for -/

/-- The run has ended as the provider reported. -/
def Database.EndedAs (db : Database) (run : RunId) (state : RunTerminal) : Prop :=
  ∃ row, db.findRun run = some row ∧ row.status = state.status ∧ row.endedAtMs.isSome

def RunHarnessEvent.HasCommandId : RunHarnessEvent → Prop
  | .commandOutputDelta _ command _ _ => ∃ id, commandProviderId command = .ok id
  | _ => True

/-- The store accepts the call on the database as it is. -/
def StoreCall.Accepted [Sha256] {β : Type} (call : StoreCall β) (oracle : Oracle)
    (db : Database) : Prop :=
  match oracle with
  | .store _ fresh occurredAt now => ((call.op fresh occurredAt).exec now db).1.isOk = true
  | _ => True

/-- The store does not fail. The event that a consumer takes off its channel has a
command identifier that `NamespacedProviderId::new` accepts. When it applies a
terminal event, the store accepts the rows that were still buffered, and the run's
status is the one just read, from which the reported status is legal, or is the
reported status already. -/
def TerminalInTime [Sha256] : (β : Type) → Act β → Oracle → World → Prop
  | _, .receive _ channel, _, world =>
      ∀ event ∈ (world.channels channel).queue.head?, event.HasCommandId
  | _, .store (.terminal _) (.transitionRun run expected target _), oracle, world =>
      oracle.Served ∧ ∃ row ∈ world.db.findRun run,
        row.status = target ∨ row.status = expected ∧ expected.canTransitionTo target = true
  | _, .store (.terminal _)
      (.appendTimelineBatch connection run sourceNamespace streamId cursor items), oracle, world =>
      oracle.Served ∧ (StoreCall.appendTimelineBatch connection run sourceNamespace streamId cursor
        items).Accepted oracle world.db
  | _, .store _ _, oracle, _ => oracle.Served
  | _, _, _, _ => True

section Store

variable [Sha256] {now : UtcTimestamp} {db db' : Database} {run : RunId} {state : RunTerminal}

/-- An ended run never changes. -/
theorem Database.EndedAs.change (h : db.EndedAs run state) (hchange : Change now db db') :
    db'.EndedAs run state := by
  obtain ⟨row, hrow, hstatus, hended⟩ := h
  obtain ⟨row', hrow', hstep⟩ := hchange.findRun hrow
  rw [hstep.eq_of_isTerminal (by rw [hstatus]; exact state.isTerminal_status)] at hrow'
  exact ⟨row, hrow', hstatus, hended⟩

theorem Change.findRun_isSome (hchange : Change now db db') (h : (db.findRun run).isSome) :
    (db'.findRun run).isSome := by
  obtain ⟨row, hrow⟩ := Option.isSome_iff_exists.mp h
  obtain ⟨row', hrow', _⟩ := hchange.findRun hrow
  rw [hrow']
  rfl

theorem StoreCall.Accepted.answer_ok {β : Type} {call : StoreCall β} {oracle : Oracle}
    {world world' : World} {result : Except StoreError β} (h : call.Accepted oracle world.db)
    (hserved : oracle.Served) (hexec : call.exec oracle world = some (result, world')) :
    ∃ value, result = .ok value := by
  refine StoreCall.answer_ok hserved (fun fresh occurredAt now horacle => ?_) hexec
  subst horacle
  change ((call.op fresh occurredAt).exec now world.db).1.isOk = true at h
  rcases hop : (call.op fresh occurredAt).exec now world.db with ⟨_ | value, db⟩
  · rw [hop] at h
    cases h
  · exact ⟨value, db, rfl⟩

/-- A status that is the reported one already, or moves to it, ends the run. -/
theorem World.Ledger.ended_of_transition {world world' : World} (hworld : world.Ledger)
    {oracle : Oracle} {answer : Except StoreError RunSnapshot} {row : RunRow}
    {expected : RunStatus} (hrow : world.db.findRun run = some row)
    (hstatus : row.status = state.status ∨
      row.status = expected ∧ expected.canTransitionTo state.status = true)
    (hserved : oracle.Served)
    (h : (StoreCall.transitionRun run expected state.status none).exec oracle world =
      some (answer, world')) : world'.db.EndedAs run state := by
  rcases hstatus with hdone | ⟨hstatus, hlegal⟩
  · have hended : row.endedAtMs.isSome = true := by
      rw [hworld.sound.ended row (Keyed.mem_of_lookup hrow), hdone]
      exact state.isTerminal_status
    obtain ⟨now, hchange⟩ := StoreCall.change h
    exact Database.EndedAs.change ⟨row, hrow, hdone, hended⟩ hchange
  · obtain ⟨command, rfl, htarget, _, _, hdb⟩ := hworld.transition hserved hrow hstatus hlegal
      (by rw [Option.none_or]; exact hworld.provider_free hrow) h
    refine ⟨row.transition command, ?_, htarget, ?_⟩
    · rw [hdb]
      exact Database.findRun_afterTransition_self hrow
    · rw [RunRow.transition, endedAtFor, htarget, if_pos state.isTerminal_status]
      rfl

end Store

/-! ## The outline -/

/-- What a task is: the consumer of a channel, with the status it owes, or any
other. -/
inductive Duty
  | other
  | consumes (run : RunId) (channel : ChannelId) (owed : Option RunTerminal)

def Duty.channel : Duty → Option ChannelId
  | other => none
  | consumes _ channel _ => some channel

structure Dutiful (world : World) (tokens : List Duty) : Prop where
  ledger : world.Ledger
  opened : ∀ id, (world.channels id).receiver = true ∨ (world.channels id).moved = true →
    id < world.nextChannel
  /-- A channel has one consumer. -/
  single : (tokens.filterMap Duty.channel).Nodup
  live : ∀ channel ∈ tokens.filterMap Duty.channel,
    (world.channels channel).moved = true ∧ ∀ run, Obs.finished run channel ∉ world.log
  closed : ∀ run channel, Obs.finished run channel ∈ world.log →
    (world.channels channel).receiver = false ∧ channel < world.nextChannel
  known : ∀ run channel state, Duty.consumes run channel (some state) ∈ tokens →
    (world.db.findRun run).isSome
  /-- A report is owed by its consumer until it is durable. -/
  kept : ∀ run channel provider state status,
    Obs.received run channel (.runTerminal provider state) (some status) ∈ world.log →
    status.isTerminal = false →
    Duty.consumes run channel (some state) ∈ tokens ∨ world.db.EndedAs run state

theorem Dutiful.perm {world : World} {tokens tokens' : List Duty} (hperm : tokens.Perm tokens')
    (h : Dutiful world tokens) : Dutiful world tokens' where
  ledger := h.ledger
  opened := h.opened
  single := ((hperm.filterMap _).nodup_iff).mp h.single
  live := fun channel hmem => h.live channel ((hperm.filterMap _).mem_iff.mpr hmem)
  closed := h.closed
  known := fun run channel state hmem => h.known run channel state (hperm.mem_iff.mpr hmem)
  kept := fun run channel provider state status hmem hstatus =>
    (h.kept run channel provider state status hmem hstatus).imp_left hperm.mem_iff.mp

def DeltaBuffer.HasCommandIds (deltas : DeltaBuffer) : Prop :=
  ∀ command entry, deltas.commands.find command = some entry →
    ∃ id, commandProviderId command = .ok id

/-- A consumer starts a turn with nothing owed and ends with no duty. -/
def dutySpec : {β : Type} → Proc β → Duty → (β → Duty → Prop) → Prop
  | _, .consumeRun run _ _ channel deltas, token, Q =>
      token = .consumes run channel none ∧ deltas.HasCommandIds ∧ Q () .other
  | _, _, token, Q => token = .other ∧ ∀ result, Q result .other

def dutyOutline : Outline Proc World where
  Token := Duty
  Valid := Dutiful
  perm := Dutiful.perm
  spec := dutySpec
  Idle := fun token => token = .other

section Steps

variable [Sha256] {β : Type}

/-- A step that moves no duty and reports no turn. -/
theorem Dutiful.effect {world world' : World} {tokens : List Duty} {act : Act β} {oracle : Oracle}
    {answer : β} {spawned : List (Proc Unit)} (h : Dutiful world tokens)
    (hturn : act.isTurn = false)
    (heffect : act.effect world oracle = some (answer, world', spawned)) :
    Dutiful world' tokens := by
  obtain ⟨now, hchange⟩ := Act.change heffect
  obtain ⟨added, hlog, hadded⟩ := Act.log_append heffect
  have hchannels := Act.channelStep heffect
  have hmem : ∀ obs : Obs, obs.isTurn = true → obs ∈ world'.log → obs ∈ world.log := by
    intro obs hobs hmem
    rw [hlog] at hmem
    refine (List.mem_append.mp hmem).resolve_right fun hnew => ?_
    rw [hadded hturn obs hnew] at hobs
    cases hobs
  refine
    { ledger := h.ledger.effect heffect, opened := ?_, single := h.single, live := ?_, closed := ?_
      known := fun run channel state hmem =>
        hchange.findRun_isSome (h.known run channel state hmem)
      kept := ?_ }
  · intro id hid
    rcases hchannels.opened id hid with hold | hnew
    · exact lt_of_lt_of_le (h.opened id hold) hchannels.next
    · exact hnew
  · intro channel hchannel
    obtain ⟨hmoved, hfinished⟩ := h.live channel hchannel
    exact ⟨hchannels.kept channel (h.opened channel (.inr hmoved)) hmoved,
      fun run hnew => hfinished run (hmem _ rfl hnew)⟩
  · intro run channel hnew
    obtain ⟨hreceiver, hlt⟩ := h.closed run channel (hmem _ rfl hnew)
    exact ⟨hchannels.closed channel hlt hreceiver, lt_of_lt_of_le hlt hchannels.next⟩
  · intro run channel provider state status hnew hstatus
    exact (h.kept run channel provider state status (hmem _ rfl hnew) hstatus).imp_right
      fun hended => hended.change hchange

omit [Sha256] in
/-- A task without duties may start anywhere. -/
theorem Dutiful.other {world : World} {tokens : List Duty} (h : Dutiful world tokens) :
    Dutiful world (.other :: tokens) where
  ledger := h.ledger
  opened := h.opened
  single := h.single
  live := h.live
  closed := h.closed
  known := fun run channel state hmem =>
    h.known run channel state ((List.mem_cons.mp hmem).resolve_left (by simp))
  kept := fun run channel provider state status hmem hstatus =>
    (h.kept run channel provider state status hmem hstatus).imp_left (List.mem_cons_of_mem _)

/-- What an answer was seen in. -/
def Answers (act : Act β) (token : Duty) (answer : β) : Prop :=
  ∃ world others oracle world' spawned, Dutiful world (token :: others) ∧
    TerminalInTime β act oracle world ∧
    act.effect world oracle = some (answer, world', spawned)

theorem dutyOutline_step {act : Act β} (hturn : act.isTurn = false) (hspawn : act.isSpawn = false)
    (token : Duty) :
    dutyOutline.Step supervisor TerminalInTime act token fun answer held =>
      held = token ∧ Answers act token answer := by
  intro world others oracle answer world' spawned hvalid hadmits hexec
  have heffect := supervisor_effect hexec
  have hanswers : Answers act token answer :=
    ⟨world, others, oracle, world', spawned, hvalid, hadmits, heffect⟩
  have hafter := Dutiful.effect hvalid hturn heffect
  rcases Act.spawned_cases hspawn heffect with rfl | rfl
  · exact ⟨token, [], .nil, hafter, rfl, hanswers⟩
  · refine ⟨token, [.other], .cons ⟨rfl, fun _ => rfl⟩ .nil, ?_, rfl, hanswers⟩
    exact Dutiful.perm (List.Perm.swap token Duty.other others) hafter.other

/-- A new consumer owes nothing. -/
theorem Dutiful.spawn {world world' : World} {tokens : List Duty} {run : RunId} {item : WorkItemId}
    {provider : ProviderRunRef} {channel : ChannelId} {oracle : Oracle} {answer : Unit}
    {spawned : List (Proc Unit)} (h : Dutiful world tokens)
    (heffect : (Act.spawnConsumer run item provider channel).effect world oracle =
      some (answer, world', spawned)) :
    spawned = [.consumeRun run item provider channel {}] ∧
      Dutiful world' (.consumes run channel none :: tokens) := by
  have hafter := h.effect rfl heffect
  simp only [Act.effect] at heffect
  split at heffect
  · next hfree =>
      cases heffect
      rw [Bool.and_eq_true, Bool.not_eq_true'] at hfree
      refine ⟨rfl, { hafter with single := ?_, live := ?_, known := ?_, kept := ?_ }⟩
      · refine List.nodup_cons.mpr ⟨fun hmem => ?_, h.single⟩
        rw [(h.live channel hmem).1] at hfree
        cases hfree.2
      · intro other hmem
        rcases List.mem_cons.mp hmem with rfl | hmem
        · refine ⟨by simp [World.setChannel], fun run' hfinished => ?_⟩
          rw [(h.closed run' other hfinished).1] at hfree
          cases hfree.1
        · exact hafter.live other hmem
      · intro run' channel' state hmem
        exact h.known run' channel' state ((List.mem_cons.mp hmem).resolve_left (by simp))
      · intro run' channel' provider' state status hmem hstatus
        exact (h.kept run' channel' provider' state status hmem hstatus).imp_left
          (List.mem_cons_of_mem _)
  · cases heffect

theorem dutyOutline_keeps {act : Act β} (hturn : act.isTurn = false) (token : Duty) :
    dutyOutline.Keeps supervisor TerminalInTime act token := by
  cases hspawn : act.isSpawn with
  | false => exact (dutyOutline_step hturn hspawn token).mono fun _ _ h => h.1
  | true =>
      cases act with
      | spawnConsumer run item provider channel =>
          intro world others oracle answer world' spawned hvalid _ hexec
          obtain ⟨rfl, hafter⟩ := Dutiful.spawn hvalid (supervisor_effect hexec)
          refine ⟨token, [.consumes run channel none], .cons ⟨rfl, ?_, rfl⟩ .nil, ?_, rfl⟩
          · intro command entry hfound
            cases hfound
          · exact Dutiful.perm (List.Perm.swap token _ others) hafter
      | _ => cases hspawn

omit [Sha256] in
/-- Paying what is owed. -/
theorem Dutiful.paid {world : World} {others : List Duty} {run : RunId} {channel : ChannelId}
    {state : RunTerminal} (h : Dutiful world (.consumes run channel (some state) :: others))
    (hended : world.db.EndedAs run state) :
    Dutiful world (.consumes run channel none :: others) where
  ledger := h.ledger
  opened := h.opened
  single := h.single
  live := h.live
  closed := h.closed
  known := by
    intro run' channel' state' hmem
    exact h.known run' channel' state'
      (List.mem_cons_of_mem _ ((List.mem_cons.mp hmem).resolve_left (by simp)))
  kept := by
    intro run' channel' provider' state' status hmem hstatus
    rcases h.kept run' channel' provider' state' status hmem hstatus with howed | hdone
    · rcases List.mem_cons.mp howed with heq | howed
      · cases heq
        exact .inr hended
      · exact .inl (List.mem_cons_of_mem _ howed)
    · exact .inr hdone

/-- The transition of a terminal event pays what its consumer owes. -/
theorem dutyOutline_pay (run : RunId) (channel : ChannelId) (state : RunTerminal)
    (expected : RunStatus) :
    dutyOutline.Step supervisor TerminalInTime
      (.store (.terminal channel) (.transitionRun run expected state.status none))
      (.consumes run channel (some state)) fun _ held => held = .consumes run channel none := by
  intro world others oracle answer world' spawned hvalid hadmits hexec
  have heffect := supervisor_effect hexec
  have hafter := Dutiful.effect hvalid rfl heffect
  obtain ⟨⟨result, after⟩, hcall, heq⟩ := Option.map_eq_some_iff.mp heffect
  cases heq
  obtain ⟨hserved, row, hrow, hstatus⟩ := hadmits
  exact ⟨_, [], .nil, hafter.paid (hvalid.ledger.ended_of_transition hrow hstatus hserved hcall),
    rfl⟩

omit [Sha256] in
theorem Dutiful.channel_ne {world : World} {others : List Duty} {run : RunId}
    {channel : ChannelId} {owed : Option RunTerminal}
    (h : Dutiful world (.consumes run channel owed :: others)) {other : ChannelId}
    (hmem : other ∈ others.filterMap Duty.channel) : other ≠ channel := by
  rintro rfl
  exact (List.nodup_cons.mp h.single).1 hmem

/-- A consumer that owes nothing may return. -/
theorem dutyOutline_finish (run : RunId) (channel : ChannelId) :
    dutyOutline.Step supervisor TerminalInTime (.finishConsumer run channel)
      (.consumes run channel none) fun _ held => held = .other := by
  intro world others oracle answer world' spawned hvalid _ hexec
  have heffect := supervisor_effect hexec
  have hledger := hvalid.ledger.effect heffect
  have hchannels := Act.channelStep heffect
  cases heffect
  have hlive := hvalid.live channel List.mem_cons_self
  refine ⟨.other, [], .nil, Dutiful.other ?_, rfl⟩
  have hmemLog : ∀ obs ∈ world.log ++ [Obs.finished run channel],
      obs ≠ .finished run channel → obs ∈ world.log := fun obs hmem hne =>
    (List.mem_append.mp hmem).resolve_right fun h => hne (List.mem_singleton.mp h)
  refine
    { ledger := hledger, opened := ?_, single := (List.nodup_cons.mp hvalid.single).2, live := ?_
      closed := ?_, known := ?_, kept := ?_ }
  · intro id hid
    exact (hchannels.opened id hid).elim (hvalid.opened id) fun h => h
  · intro other hmem
    have hne := hvalid.channel_ne hmem
    have hold := hvalid.live other (List.mem_cons_of_mem _ hmem)
    refine ⟨hchannels.kept other (hvalid.opened other (.inr hold.1)) hold.1, fun run' hnew => ?_⟩
    refine hold.2 run' (hmemLog _ hnew fun heq => ?_)
    cases heq
    exact hne rfl
  · intro run' other hnew
    rcases List.mem_append.mp hnew with hold | hnew
    · obtain ⟨hreceiver, hlt⟩ := hvalid.closed run' other hold
      exact ⟨hchannels.closed other hlt hreceiver, hlt⟩
    · cases List.mem_singleton.mp hnew
      exact ⟨by simp [World.note, World.setChannel], hvalid.opened channel (.inr hlive.1)⟩
  · intro run' other state hmem
    exact hvalid.known run' other state (List.mem_cons_of_mem _ hmem)
  · intro run' other provider state status hmem hstatus
    rcases hvalid.kept run' other provider state status (hmemLog _ hmem (by simp)) hstatus
      with howed | hdone
    · exact .inl ((List.mem_cons.mp howed).resolve_left (by simp))
    · exact .inr hdone

/-- What a consumer owes once it has taken an event in a status. -/
def RunHarnessEvent.owes (event : RunHarnessEvent) (status : Option RunStatus) :
    Option RunTerminal :=
  match event, status with
  | .runTerminal _ state, some status => if status.isTerminal then none else some state
  | _, _ => none

omit [Sha256] in
theorem RunHarnessEvent.owes_eq_some {event : RunHarnessEvent} {status : Option RunStatus}
    {state : RunTerminal} (h : event.owes status = some state) : status.isSome := by
  unfold owes at h
  split at h
  · rfl
  · cases h

omit [Sha256] in
theorem RunHarnessEvent.eq_runTerminal_of_owes {event : RunHarnessEvent}
    {status : Option RunStatus} {state : RunTerminal} (h : event.owes status = some state) :
    ∃ provider, event = .runTerminal provider state := by
  unfold owes at h
  split at h
  · split at h
    · cases h
    · cases h
      exact ⟨_, rfl⟩
  · cases h

theorem dutyOutline_receive (run : RunId) (channel : ChannelId) :
    dutyOutline.Step supervisor TerminalInTime (.receive run channel) (.consumes run channel none)
      fun answer held => (answer = none → held = .consumes run channel none) ∧
        ∀ event, answer = some event → event.HasCommandId ∧
          ∃ status, held = .consumes run channel (event.owes status) := by
  intro world others oracle answer world' spawned hvalid hadmits hexec
  have heffect := supervisor_effect hexec
  have hledger := hvalid.ledger.effect heffect
  have hchannels := Act.channelStep heffect
  simp only [Act.effect] at heffect
  split at heffect
  · next event rest hqueue =>
      cases heffect
      have hmemLog : ∀ obs ∈ world.log ++ [Obs.received run channel event (world.status run)],
          obs ≠ .received run channel event (world.status run) → obs ∈ world.log :=
        fun obs hmem hne =>
          (List.mem_append.mp hmem).resolve_right fun h => hne (List.mem_singleton.mp h)
      refine ⟨.consumes run channel (event.owes (world.status run)), [], .nil, ?_,
        fun h => (by cases h), ?_⟩
      · refine
          { ledger := hledger, opened := ?_, single := hvalid.single, live := ?_, closed := ?_
            known := ?_, kept := ?_ }
        · intro id hid
          exact (hchannels.opened id hid).elim (hvalid.opened id) fun h => h
        · intro other hmem
          have hold := hvalid.live other hmem
          exact ⟨hchannels.kept other (hvalid.opened other (.inr hold.1)) hold.1,
            fun run' hnew => hold.2 run' (hmemLog _ hnew (by simp))⟩
        · intro run' other hnew
          obtain ⟨hreceiver, hlt⟩ := hvalid.closed run' other (hmemLog _ hnew (by simp))
          exact ⟨hchannels.closed other hlt hreceiver, hlt⟩
        · intro run' other state hmem
          rcases List.mem_cons.mp hmem with heq | hmem
          · obtain ⟨rfl, rfl, howed⟩ := Duty.consumes.inj heq
            have hsome := RunHarnessEvent.owes_eq_some howed.symm
            simpa [World.status] using hsome
          · exact hvalid.known run' other state (List.mem_cons_of_mem _ hmem)
        · intro run' other provider state status hmem hstatus
          rcases List.mem_append.mp hmem with hold | hnew
          · rcases hvalid.kept run' other provider state status hold hstatus with howed | hdone
            · exact .inl (List.mem_cons_of_mem _ ((List.mem_cons.mp howed).resolve_left (by simp)))
            · exact .inr hdone
          · obtain ⟨rfl, rfl, rfl, hread⟩ := Obs.received.inj (List.mem_singleton.mp hnew)
            rw [← hread, RunHarnessEvent.owes, if_neg (by simp [hstatus])]
            exact .inl List.mem_cons_self
      · rintro _ ⟨⟩
        have htaken : event ∈ (world.channels channel).queue.head? := by
          rw [hqueue]
          rfl
        exact ⟨hadmits event htaken, _, rfl⟩
  · split at heffect
    · cases heffect
      exact ⟨_, [], .nil, hvalid, fun _ => rfl, fun _ h => (by cases h)⟩
    · cases heffect

/-! ## The consumer -/

omit [Sha256] in
theorem DeltaBuffer.HasCommandIds.empty : DeltaBuffer.HasCommandIds {} := by
  intro command entry hfound
  cases hfound

omit [Sha256] in
theorem DeltaBuffer.HasCommandIds.pushCommand {deltas : DeltaBuffer} (h : deltas.HasCommandIds)
    {command : ProviderCommandRef} {id : NamespacedProviderId}
    (hid : commandProviderId command = .ok id) (commandText chunk : String) :
    (deltas.pushCommand command commandText chunk).HasCommandIds := by
  intro other entry hfound
  change Dict.find (Dict.set deltas.commands command _) other = some entry at hfound
  rw [Dict.find_set] at hfound
  split at hfound
  · next heq => exact ⟨id, heq ▸ hid⟩
  · exact h other entry hfound

omit [Sha256] in
theorem takeCommandItems_ends {commands : List (ProviderCommandRef × String × String)}
    (h : ∀ entry ∈ commands, ∃ id, commandProviderId entry.1 = .ok id) :
    (takeCommandItems commands).Ends fun result => ∃ items, result = .ok items := by
  induction commands with
  | nil => exact ⟨[], rfl⟩
  | cons entry rest ih =>
      obtain ⟨command, commandText, output⟩ := entry
      obtain ⟨id, hid⟩ := h _ List.mem_cons_self
      refine Prog.Ends.bind (Prog.Ends.anything _) fun itemId _ => ?_
      rw [hid]
      refine Prog.Ends.bind (ih fun other hmem => h other (List.mem_cons_of_mem _ hmem)) ?_
      rintro _ ⟨items, rfl⟩
      exact ⟨_, rfl⟩

omit [Sha256] in
/-- Buffered commands with proper identifiers can always be flushed. -/
theorem takeItems_ends {deltas : DeltaBuffer} (h : deltas.HasCommandIds) :
    (takeItems deltas).Ends fun result => ∃ items, result = .ok items := by
  refine Prog.Ends.bind (Prog.Ends.anything _) fun message _ => ?_
  refine Prog.Ends.bind (Prog.Ends.anything _) fun order _ => ?_
  refine Prog.Ends.bind (takeCommandItems_ends fun entry hmem => ?_) ?_
  · have hmem := (List.perm_insertionSort _ _).mem_iff.mp hmem
    exact h entry.1 entry.2 (Dict.mem_inOrder.mp hmem)
  · rintro _ ⟨items, rfl⟩
    exact ⟨_, rfl⟩

/-- What an event leaves in the buffer has proper identifiers. -/
def LeavesCommandIds (result : Except RunOrchestrationError DeltaBuffer) : Prop :=
  ∀ deltas, result = .ok deltas → deltas.HasCommandIds

omit [Sha256] in
theorem attempt_ends {β γ ε ε' : Type} {P : Except ε' γ → Prop} {program : Sup (Except ε β)}
    {convert : ε → ε'} {next : β → Sup (Except ε' γ)} (herror : ∀ error, P (.error error))
    (hnext : ∀ value, (next value).Ends P) : (attempt program convert next).Ends P := by
  refine Prog.Ends.bind (Prog.Ends.anything program) fun result _ => ?_
  cases result with
  | error error => exact herror _
  | ok value => exact hnext value

omit [Sha256] in
theorem applyEvent_ends (channel : ChannelId) (run : RunId) (item : WorkItemId)
    (provider : ProviderRunRef) {deltas : DeltaBuffer} {event : RunHarnessEvent}
    (hdeltas : deltas.HasCommandIds) (hevent : event.HasCommandId) :
    (applyEvent channel run item provider deltas event).Ends LeavesCommandIds := by
  have herror : ∀ error, LeavesCommandIds (.error error) := fun _ _ h => (by cases h)
  have hempty : LeavesCommandIds (.ok {}) := by
    rintro _ ⟨⟩
    exact .empty
  have hrows : ∀ items, (appendRows (.consumer channel) run item provider items).Ends
      LeavesCommandIds := fun items => attempt_ends herror fun _ => hempty
  have hfull : ∀ deltas : DeltaBuffer, deltas.HasCommandIds → Prog.Ends LeavesCommandIds
      (if deltaBatchChunks ≤ deltas.chunks then
        attempt (takeItems deltas) id (appendRows (.consumer channel) run item provider)
      else return .ok deltas) := by
    intro deltas hdeltas
    split
    · exact attempt_ends herror hrows
    · rintro _ ⟨⟩
      exact hdeltas
  cases event with
  | runAccepted =>
      rintro _ ⟨⟩
      exact hdeltas
  | messageDelta _ chunk => exact hfull _ hdeltas
  | commandOutputDelta _ command commandText chunk =>
      obtain ⟨id, hid⟩ := hevent
      exact hfull _ (hdeltas.pushCommand hid commandText chunk)
  | messageCompleted | fileMutation | unknown | malformed =>
      exact attempt_ends herror fun items =>
        Prog.Ends.bind (Prog.Ends.anything _) fun row _ => hrows _
  | commandOutputCompleted _ command commandText output =>
      refine attempt_ends herror fun items => ?_
      cases commandProviderId command with
      | error error => exact herror _
      | ok id => exact Prog.Ends.bind (Prog.Ends.anything _) fun row _ => hrows _
  | approvalRequested request summary =>
      refine attempt_ends herror fun items => attempt_ends herror fun _ => ?_
      unfold applyApprovalRequested
      cases requestProviderId request with
      | error error => exact herror _
      | ok id =>
          refine attempt_ends herror fun approval => ?_
          refine Prog.Ends.bind (Prog.Ends.anything _) fun _ _ => ?_
          exact Prog.Ends.bind (Prog.Ends.anything _) fun _ _ => hempty
  | userInputRequested request prompt =>
      refine attempt_ends herror fun items => ?_
      refine Prog.Ends.bind (Prog.Ends.anything _) fun inputId _ => ?_
      cases requestProviderId request with
      | error error => exact herror _
      | ok id =>
          refine Prog.Ends.bind (Prog.Ends.anything _) fun _ _ => attempt_ends herror fun _ => ?_
          exact Prog.Ends.bind (Prog.Ends.anything _) fun _ _ => hempty
  | runTerminal _ state =>
      exact attempt_ends herror fun items => attempt_ends herror fun _ =>
        attempt_ends herror fun _ => hempty

theorem dutyOutline_quiet {token : Duty} :
    Quiet fun program => dutyOutline.Stays supervisor TerminalInTime token program :=
  Quiet.stays fun _ _ hquiet => dutyOutline_keeps (Act.isTurn_of_isQuiet hquiet) token

theorem dutyOutline_routine {token : Duty} :
    Routine fun program => dutyOutline.Stays supervisor TerminalInTime token program :=
  Routine.stays fun _ _ hturn => dutyOutline_keeps hturn token

/-- A consumer's store call that succeeds whenever it is in time. -/
theorem dutyOutline_store {call : StoreCall β} {site : Site} {token : Duty}
    (hok : ∀ {world world' : World} {others : List Duty} {oracle : Oracle}
      {result : Except StoreError β}, Dutiful world (token :: others) →
      TerminalInTime _ (.store site call) oracle world →
      call.exec oracle world = some (result, world') → ∃ value, result = .ok value) :
    dutyOutline.Step supervisor TerminalInTime (.store site call) token fun answer held =>
      held = token ∧ ∃ value, answer = .ok value := by
  refine (dutyOutline_step rfl rfl token).mono ?_
  rintro answer _ ⟨rfl, world, others, oracle, world', spawned, hvalid, hadmits, heffect⟩
  obtain ⟨⟨result, after⟩, hexec, heq⟩ := Option.map_eq_some_iff.mp heffect
  cases heq
  exact ⟨rfl, hok hvalid hadmits hexec⟩

variable {run : RunId} {channel : ChannelId} {state : RunTerminal}

theorem dutyOutline_getRun :
    dutyOutline.Step supervisor TerminalInTime (.store .elsewhere (.getRun run))
      (.consumes run channel (some state)) fun answer held =>
        held = .consumes run channel (some state) ∧ ∃ value, answer = .ok value :=
  dutyOutline_store fun hvalid hserved hexec =>
    StoreCall.getRun_ok hserved (hvalid.known run channel state List.mem_cons_self) hexec

theorem dutyOutline_getStreamCursor {connection : ConnectionId} {sourceNamespace streamId : String}
    {token : Duty} (hnamespace : trimIsEmpty sourceNamespace = false)
    (hstream : trimIsEmpty streamId = false) :
    dutyOutline.Step supervisor TerminalInTime
      (.store .elsewhere (.getStreamCursor ⟨connection, run, sourceNamespace, streamId⟩))
      token fun answer held => held = token ∧ ∃ value, answer = .ok value :=
  dutyOutline_store fun _ hserved hexec =>
    StoreCall.getStreamCursor_ok hserved hnamespace hstream hexec

theorem dutyOutline_append {connection : ConnectionId} {sourceNamespace streamId : String}
    {cursor : StreamCursor} {items : List NewTimelineItem} {token : Duty} :
    dutyOutline.Step supervisor TerminalInTime (.store (.terminal channel)
      (.appendTimelineBatch connection run sourceNamespace streamId cursor items))
      token fun answer held => held = token ∧ ∃ value, answer = .ok value :=
  dutyOutline_store fun _ hadmits hexec => hadmits.2.answer_ok hadmits.1 hexec

/-- The rows still buffered are appended. -/
theorem ok_appendTerminal (item : WorkItemId) (provider : ProviderRunRef)
    (items : List NewTimelineItem) :
    dutyOutline.Ok supervisor TerminalInTime
      (fun result held => held = .consumes run channel (some state) ∧ ∃ value, result = .ok value)
      (appendItems (.terminal channel) run item items (some provider))
      (.consumes run channel (some state)) := by
  unfold appendItems
  split
  · exact ⟨rfl, (), rfl⟩
  · refine ok_attempt (Outline.Ok.act (dutyOutline_getRun.mono ?_))
    rintro _ _ ⟨rfl, snapshot, rfl⟩
    refine ⟨fun _ h => (by cases h), fun snapshot _ => ?_⟩
    refine ok_attempt (Outline.Ok.act ((dutyOutline_getStreamCursor
      provider.providerId.trimIsEmpty_ns (trimIsEmpty_toText run.uuid)).mono ?_))
    rintro _ _ ⟨rfl, found, rfl⟩
    refine ⟨fun _ h => (by cases h), fun found _ => ?_⟩
    refine ok_attempt (Outline.Ok.act (dutyOutline_getRun.mono ?_))
    rintro _ _ ⟨rfl, snapshot, rfl⟩
    refine ⟨fun _ h => (by cases h), fun snapshot _ => ?_⟩
    refine ok_attempt (Outline.Ok.act (dutyOutline_append.mono ?_))
    rintro _ _ ⟨rfl, committed, rfl⟩
    refine ⟨fun _ h => (by cases h), fun _ _ => ?_⟩
    exact Outline.Ok.bind ((dutyOutline_quiet.publish _ _).ok fun _ => ⟨rfl, (), rfl⟩)

/-- However it ends, applying the terminal event leaves nothing owed. -/
theorem ok_applyTerminal (item : WorkItemId) (provider : ProviderRunRef) {deltas : DeltaBuffer}
    (hdeltas : deltas.HasCommandIds) (reporter : ProviderRunRef) :
    dutyOutline.Ok supervisor TerminalInTime (fun _ held => held = .consumes run channel none)
      (applyEvent channel run item provider deltas (.runTerminal reporter state))
      (.consumes run channel (some state)) := by
  refine ok_attempt (((takeItems_all dutyOutline_quiet deltas).and_ends
    (takeItems_ends hdeltas)).mono ?_)
  rintro _ _ ⟨rfl, items, rfl⟩
  refine ⟨fun _ h => (by cases h), fun items _ => ?_⟩
  refine ok_attempt ((ok_appendTerminal item provider items).mono ?_)
  rintro _ _ ⟨rfl, value, rfl⟩
  refine ⟨fun _ h => (by cases h), fun _ _ => ?_⟩
  refine ok_attempt (ok_attempt (Outline.Ok.act (dutyOutline_getRun.mono ?_)))
  rintro _ _ ⟨rfl, snapshot, rfl⟩
  refine ⟨fun _ h => (by cases h), fun snapshot _ => ?_⟩
  refine ok_attempt (ok_attempt (Outline.Ok.act
    ((dutyOutline_pay run channel state snapshot.status).mono ?_)))
  rintro answer _ rfl
  refine ⟨fun _ _ => ⟨fun _ _ => ⟨fun _ _ => rfl, fun _ h => (by cases h)⟩,
    fun _ h => (by cases h)⟩,
    fun moved _ => ?_⟩
  refine Outline.Ok.bind ((dutyOutline_quiet.publish _ _).ok fun _ => ?_)
  exact ⟨fun _ h => (by cases h), fun _ _ => ⟨fun _ h => (by cases h), fun _ _ => rfl⟩⟩

theorem ok_finishConsumer :
    dutyOutline.Ok supervisor TerminalInTime (fun _ held => held = .other)
      (finishConsumer run channel) (.consumes run channel none) :=
  ok_act ((dutyOutline_keeps rfl _).step fun _ => dutyOutline_finish run channel)

theorem ok_consumptionFailed (item : WorkItemId) :
    dutyOutline.Ok supervisor TerminalInTime (fun _ held => held = .other)
      (consumptionFailed run item >>= fun _ => finishConsumer run channel)
      (.consumes run channel none) :=
  Outline.Ok.bind (Outline.Stays.ok (consumptionFailed_all dutyOutline_quiet item
    fun _ _ => dutyOutline_keeps rfl _) fun _ => ok_finishConsumer)

theorem ok_consumeRun (item : WorkItemId) (provider : ProviderRunRef) {deltas : DeltaBuffer}
    (hdeltas : deltas.HasCommandIds) :
    dutyOutline.Ok supervisor TerminalInTime (fun _ held => held = .other)
      (consumeRun run item provider channel deltas) (.consumes run channel none) := by
  refine ok_act ((dutyOutline_receive run channel).mono fun received held hreceived => ?_)
  cases received with
  | none =>
      rw [hreceived.1 rfl]
      exact ok_finishConsumer
  | some event =>
      obtain ⟨hevent, status, rfl⟩ := hreceived.2 event rfl
      cases howed : event.owes status with
      | none =>
          refine Outline.Ok.bind (((applyEvent_all dutyOutline_quiet
            (routine_applies dutyOutline_routine run channel) item provider deltas event).and_ends
              (applyEvent_ends channel run item provider hdeltas hevent)).mono ?_)
          rintro result _ ⟨rfl, hresult⟩
          cases result with
          | error error => exact ok_consumptionFailed item
          | ok deltas =>
              dsimp only
              split
              · exact ok_finishConsumer
              · exact Outline.Ok.invoke ⟨rfl, hresult deltas rfl, rfl⟩
      | some state =>
          obtain ⟨reporter, rfl⟩ := RunHarnessEvent.eq_runTerminal_of_owes howed
          refine Outline.Ok.bind ((ok_applyTerminal item provider hdeltas reporter).mono ?_)
          rintro result _ rfl
          cases result with
          | error error => exact ok_consumptionFailed item
          | ok deltas => exact ok_finishConsumer

/-! ## Every interleaving -/

omit [Sha256] in
theorem dutySpec_other {proc : Proc β} (hconsumer : proc.isConsumer = false)
    {Q : β → Duty → Prop} (hQ : ∀ result, Q result .other) : dutySpec proc .other Q := by
  cases proc with
  | consumeRun => cases hconsumer
  | _ => exact ⟨rfl, hQ⟩

theorem dutyOutline_sound : dutyOutline.Sound supervisor TerminalInTime := by
  intro β proc token Q hspec
  cases hconsumer : proc.isConsumer with
  | true =>
      cases proc with
      | consumeRun run item provider channel deltas =>
          obtain ⟨rfl, hdeltas, hQ⟩ := hspec
          exact (ok_consumeRun item provider hdeltas).mono (by rintro _ _ rfl; exact hQ)
      | _ => cases hconsumer
  | false =>
      have hother : token = .other ∧ ∀ result, Q result .other := by
        cases proc with
        | consumeRun => cases hconsumer
        | _ => exact hspec
      obtain ⟨rfl, hQ⟩ := hother
      have hroutine : Routine fun program =>
          dutyOutline.Stays supervisor TerminalInTime Duty.other program := dutyOutline_routine
      have hstarts := routine_starts hroutine fun run => Outline.Stays.act (dutyOutline_keeps rfl _)
      refine Outline.Stays.ok (body_all hroutine
        (fun _ _ _ _ => ?_) (fun _ _ _ _ => ?_) (startRun_all hroutine.toQuiet hstarts)
        (fun _ _ => ?_) ?_ proc hconsumer) hQ
      all_goals exact Outline.Stays.invoke ⟨rfl, fun _ => rfl⟩

omit [Sha256] in
theorem dutyOutline_open : dutyOutline.Open Proc.isRequest := by
  intro proc world tokens hrequest hvalid
  refine ⟨.other, dutySpec_other ?_ fun _ => rfl, Dutiful.other hvalid⟩
  unfold Proc.isRequest at hrequest
  split at hrequest
  all_goals first | rfl | cases hrequest

theorem dutyOutline_starting {db : Database} {issued : List Uuid} (hfounded : Founded db issued) :
    dutyOutline.Holds supervisor TerminalInTime (newSupervisor db issued) := by
  refine ⟨[.other], .cons (Outline.Ok.invoke ⟨rfl, fun _ => rfl⟩) .nil, ?_⟩
  refine ⟨hfounded.ledger, ?_, .nil, ?_, ?_, ?_, ?_⟩
  · rintro id (hreceiver | hmoved)
    · cases hreceiver
    · cases hmoved
  · intro channel hmem
    cases hmem
  · intro run channel hmem
    cases hmem
  · intro run channel state hmem
    cases List.mem_singleton.mp hmem
  · intro run channel provider state status hmem
    cases hmem

variable {db : Database} {issued : List Uuid} {config : Config Act Proc World}

theorem dutiful_of_reach (hfounded : Founded db issued)
    (h : Machine.Reach supervisor TerminalInTime Proc.isRequest (newSupervisor db issued)
      config) : ∃ tokens, Dutiful config.world tokens := by
  obtain ⟨tokens, _, hvalid⟩ := Outline.sound dutyOutline_sound dutyOutline_open
    (dutyOutline_starting hfounded) h
  exact ⟨tokens, hvalid⟩

/-- Under any interleaving in which no consumer's last writes come too late: when
a consumer has finished, a terminal event it took off its channel before the run
had ended is the run's durable end. -/
theorem ended_of_terminalInTime (hfounded : Founded db issued)
    (h : Machine.Reach supervisor TerminalInTime Proc.isRequest (newSupervisor db issued) config)
    {run : RunId} {channel : ChannelId} {provider : ProviderRunRef} {state : RunTerminal}
    {status : RunStatus}
    (hreceived : .received run channel (.runTerminal provider state) (some status) ∈
      config.world.log)
    (hlive : status.isTerminal = false) (hfinished : .finished run channel ∈ config.world.log) :
    config.world.db.EndedAs run state := by
  obtain ⟨tokens, hvalid⟩ := dutiful_of_reach hfounded h
  refine (hvalid.kept run channel provider state status hreceived hlive).resolve_left
    fun howed => ?_
  exact (hvalid.live channel (List.mem_filterMap.mpr ⟨_, howed, rfl⟩)).2 run hfinished

end Steps

/-! ## Replayed runs -/

instance (event : RunHarnessEvent) : Decidable event.HasCommandId :=
  match event with
  | .commandOutputDelta _ command _ _ =>
      match h : commandProviderId command with
      | .ok id => .isTrue ⟨id, h⟩
      | .error _ => .isFalse fun ⟨_, hid⟩ => by cases h.symm.trans hid
  | .runAccepted .. | .messageDelta .. | .messageCompleted .. | .commandOutputCompleted ..
  | .fileMutation .. | .approvalRequested .. | .userInputRequested .. | .unknown ..
  | .malformed .. | .runTerminal .. => .isTrue trivial

instance {β : Type} (call : StoreCall β) (oracle : Oracle) (db : Database) :
    Decidable (call.Accepted oracle db) := by
  cases oracle <;> unfold StoreCall.Accepted <;> infer_instance

/-- `TerminalInTime`, decided. -/
def terminalGuard : (β : Type) → Act β → Oracle → World → Bool
  | _, .receive _ channel, _, world =>
      decide (∀ event ∈ (world.channels channel).queue.head?, event.HasCommandId)
  | _, .store (.terminal _) (.transitionRun run expected target _), oracle, world =>
      decide (oracle.Served ∧ ∃ row ∈ world.db.findRun run,
        row.status = target ∨ row.status = expected ∧ expected.canTransitionTo target = true)
  | _, .store (.terminal _)
      (.appendTimelineBatch connection run sourceNamespace streamId cursor items), oracle, world =>
      decide (oracle.Served ∧ (StoreCall.appendTimelineBatch connection run sourceNamespace streamId
        cursor items).Accepted oracle world.db)
  | _, .store _ _, oracle, _ => decide oracle.Served
  | _, _, _, _ => true

theorem terminalGuard_sound (β : Type) (act : Act β) (oracle : Oracle) (world : World)
    (h : terminalGuard β act oracle world = true) : TerminalInTime β act oracle world := by
  cases act with
  | store site call =>
      cases site <;> cases call <;> (simp only [terminalGuard, decide_eq_true_eq] at h; exact h)
  | receive =>
      simp only [terminalGuard, decide_eq_true_eq] at h
      exact h
  | _ => trivial

/-- A started run, whose provider reports its end, up to where the consumer has
read the run's status. -/
def Schedule.terminalReported : List (Machine.Move Proc Oracle) :=
  Schedule.started ++
    [.step 2 (.event (.ok (some (.runTerminal sampleRun .completed)))), .step 2 (.runOrder []),
      Schedule.run 3, Schedule.run 3, .step 3 (.commandOrder []), Schedule.store 3 20]

def Schedule.terminalApplied : List (Machine.Move Proc Oracle) :=
  Schedule.terminalReported ++ [Schedule.store 3 21, Schedule.store 3 22, Schedule.run 3,
    Schedule.run 3, Schedule.run 3]

/-- A steer whose outcome is unknown writes its status in between. -/
def Schedule.terminalOvertaken : List (Machine.Move Proc Oracle) :=
  Schedule.terminalReported ++
    [.spawn (.steer ⟨sampleUuid 10⟩ "text"), Schedule.run 4, Schedule.run 4, Schedule.run 4,
      .step 4 (.acknowledged (.error (.outcomeUnknown "steer"))), Schedule.store 4 21,
      Schedule.store 4 22, Schedule.store 3 23, Schedule.store 3 24, Schedule.run 3, Schedule.run 3]

theorem oneItem_founded : Founded oneItem oneItemIssued :=
  ⟨⟨_, oneItem_eq.symm⟩, fun row hrow => (by cases hrow)⟩

set_option maxRecDepth 100000 in
theorem terminalApplied_ended :
    ∃ config, Founded oneItem oneItemIssued ∧
      Machine.Reach supervisor TerminalInTime Proc.isRequest (newSupervisor oneItem oneItemIssued)
        config ∧
      .received ⟨sampleUuid 10⟩ 0 (.runTerminal sampleRun .completed) (some .running) ∈
        config.world.log ∧
      RunStatus.running.isTerminal = false ∧ .finished ⟨sampleUuid 10⟩ 0 ∈ config.world.log ∧
      config.world.db.EndedAs ⟨sampleUuid 10⟩ .completed := by
  obtain ⟨config, hreach, hcheck⟩ := supervisor_reaches oneItem oneItemIssued
    terminalGuard terminalGuard_sound Schedule.terminalApplied
    (fun config =>
      .received ⟨sampleUuid 10⟩ 0 (.runTerminal sampleRun .completed) (some .running) ∈
        config.world.log ∧ .finished ⟨sampleUuid 10⟩ 0 ∈ config.world.log) (by decide +kernel)
  obtain ⟨hreceived, hfinished⟩ := of_decide_eq_true hcheck
  exact ⟨config, oneItem_founded, hreach, hreceived, rfl, hfinished,
    ended_of_terminalInTime oneItem_founded hreach hreceived rfl hfinished⟩

set_option maxRecDepth 100000 in
/-- The report is lost, although the run could still have ended. -/
theorem terminalOvertaken_not_ended :
    ∃ config, Founded oneItem oneItemIssued ∧
      Machine.Reach supervisor (fun _ _ oracle _ => oracle.Served) Proc.isRequest
        (newSupervisor oneItem oneItemIssued) config ∧
      .received ⟨sampleUuid 10⟩ 0 (.runTerminal sampleRun .completed) (some .running) ∈
        config.world.log ∧
      .finished ⟨sampleUuid 10⟩ 0 ∈ config.world.log ∧
      config.world.status ⟨sampleUuid 10⟩ = some .outcomeUnknown ∧
      RunStatus.outcomeUnknown.canTransitionTo .completed = true ∧
      ¬ config.world.db.EndedAs ⟨sampleUuid 10⟩ .completed := by
  obtain ⟨config, hreach, hcheck⟩ := supervisor_reaches oneItem oneItemIssued
    (fun _ _ oracle _ => decide oracle.Served) (fun _ _ _ _ => of_decide_eq_true)
    Schedule.terminalOvertaken
    (fun config =>
      .received ⟨sampleUuid 10⟩ 0 (.runTerminal sampleRun .completed) (some .running) ∈
        config.world.log ∧ .finished ⟨sampleUuid 10⟩ 0 ∈ config.world.log ∧
      config.world.status ⟨sampleUuid 10⟩ = some .outcomeUnknown) (by decide +kernel)
  obtain ⟨hreceived, hfinished, hstatus⟩ := of_decide_eq_true hcheck
  refine ⟨config, oneItem_founded, hreach, hreceived, hfinished, hstatus, rfl, ?_⟩
  rintro ⟨row, hrow, hended, _⟩
  rw [World.status, hrow] at hstatus
  rw [Option.map_some, hended] at hstatus
  cases hstatus

end YakShed
