/-
# What the page shows

The page is coherent where the run, the timeline, the approvals and the inputs it
shows belong to the selected work item, and it follows the user where that item is
the one chosen last. Handlers assign the variables after an `await` without looking
at them again, so neither holds in every run of the page. Both hold wherever no
handler waits, in every run in which each reply is taken in time: while the item and
the run it was asked for are still the ones on show.
-/

import YakShed.Desktop.View

namespace YakShed.Desktop

/-! ## Coherent views -/

namespace View

/-- The pages on show are pages of the run on show. -/
structure OfRun (view : View) : Prop where
  timeline : ∀ item ∈ view.timeline, ∃ run, view.run = some run ∧ item.runId = run.id
  approvals : ∀ approval ∈ view.approvals, ∃ run, view.run = some run ∧ approval.runId = run.id
  inputs : ∀ input ∈ view.inputs, ∃ run, view.run = some run ∧ input.runId = run.id

/-- Everything on show belongs to the selected work item and to one of its runs. -/
structure Coherent (view : View) : Prop where
  run : ∀ run, view.run = some run → ∃ selected, view.selected = some selected ∧
    run ∈ selected.runs ∧ run.workItemId = selected.workItem.id
  pages : view.OfRun

/-- A change that none of this depends on. -/
structure Same (view view' : View) : Prop where
  selected : view'.selected = view.selected
  run : view'.run = view.run
  timeline : view'.timeline = view.timeline
  approvals : view'.approvals = view.approvals
  inputs : view'.inputs = view.inputs

variable {view view' : View}

theorem Same.refl (view : View) : view.Same view := ⟨rfl, rfl, rfl, rfl, rfl⟩

theorem Same.shown (h : view.Same view') : view'.shown = view.shown := by
  rw [View.shown, View.shown, h.selected]

theorem Same.current (h : view.Same view') : view'.current = view.current := by
  rw [View.current, View.current, h.selected, h.run]

theorem Same.ofRun (h : view.Same view') (hpages : view.OfRun) : view'.OfRun where
  timeline := by
    rw [h.timeline, h.run]
    exact hpages.timeline
  approvals := by
    rw [h.approvals, h.run]
    exact hpages.approvals
  inputs := by
    rw [h.inputs, h.run]
    exact hpages.inputs

theorem current_eq_some {item run : String} : view.current = some (item, run) ↔
    ∃ selected shown, view.selected = some selected ∧ view.run = some shown ∧
      selected.workItem.id = item ∧ shown.id = run := by
  simp [current, Option.bind_eq_some_iff]

theorem same_notice (view : View) (event : FrontendEvent) : view.Same (view.notice event) := by
  unfold notice
  split
  · exact ⟨rfl, rfl, rfl, rfl, rfl⟩
  · exact ⟨rfl, rfl, rfl, rfl, rfl⟩
  · exact Same.refl view

theorem same_reject (caller : Caller) (error : DesktopError) (view : View) :
    view.Same (caller.reject error view) := by
  cases caller
  · exact Same.refl view
  · exact ⟨rfl, rfl, rfl, rfl, rfl⟩

end View

/-! ## Steps in time -/

/-- The handler is about to show what the user chose last. -/
def Waiting.Selects (selection : Option Selection) : Waiting → Prop
  | openItem item => selection = some (.opened item)
  | createWorkItem ticket => selection = some (.creating ticket)
  | created snapshot => selection = some (.opened snapshot.workItem.id)
  | _ => False

/-- One of the handlers is about to show what the user chose last. -/
def Awaited (others : List Waiting) (selection : Option Selection) : Prop :=
  ∃ waiting ∈ others, waiting.Selects selection

/-- One of the handlers is about to show the pages of the run on show. -/
def Refreshed (others : List Waiting) (view : View) : Prop :=
  ∃ refresh, .pages refresh ∈ others ∧ view.current = some (refresh.item, refresh.run)

/-- A reply is in time if what the handler is about to show is what the user chose
last, and is pages of the run on show; a reply that fails, if what it was asked for
is on show already. Else another handler must wait that puts it right. An event may
show no other item at all. -/
def Waiting.InTime (state : Frontend) (others : List Waiting) : Waiting → Reply → Prop
  | openItem item, .snapshot _ =>
      state.selection = some (.opened item) ∨ Awaited others state.selection
  | openItem item, .failed _ => state.selection = some (.opened item) →
      state.view.shown = some item ∨ Awaited others state.selection
  | createWorkItem ticket, .failed _ => state.selection = some (.creating ticket) →
      let rest := (state.selections.filter (· ≠ .creating ticket)).head?
      state.view.shown = rest.bind (·.item) ∨ Awaited others rest
  | created snapshot, .items _ => state.selection = some (.opened snapshot.workItem.id) ∨
      Awaited others state.selection
  | created snapshot, .failed _ => state.selection = some (.opened snapshot.workItem.id) →
      state.view.shown = some snapshot.workItem.id ∨ Awaited others state.selection
  | reconciled item, .snapshot _ =>
      state.view.shown = some item ∨ Awaited others state.selection
  | event before, .snapshot _ => state.view.shown = some before.workItem.id
  | pages _, .failed _ => state.view.OfRun ∨ Refreshed others state.view
  | pages refresh, reply => ∀ refresh', refresh.take reply = some refresh' →
      refresh'.isComplete → state.view.current = some (refresh.item, refresh.run) ∨
        Refreshed others state.view
  | _, _ => True

def Frontend.InTime (state : Frontend) : Input → Prop
  | .reply index reply => ∀ waiting, state.waiting[index]? = some waiting →
      waiting.InTime state (state.waiting.eraseIdx index) reply
  | _ => True

/-- A run of the page in which every step meets a condition. -/
def Frontend.Leads (condition : Frontend → Input → Prop) : Frontend → List Input → Frontend → Prop
  | state, [], final => state = final
  | state, input :: rest, final => ∃ next, state.step input = some next ∧
      condition state input ∧ next.Leads condition rest final

/-! ## The invariant -/

/-- The pages that have come are pages of the run they were asked for. -/
structure Refresh.Owned (refresh : Refresh) : Prop where
  timeline : ∀ page, refresh.timeline = some page → ∀ item ∈ page.items, item.runId = refresh.run
  approvals : ∀ page, refresh.approvals = some page →
    ∀ approval ∈ page.approvals, approval.runId = refresh.run
  inputs : ∀ page, refresh.inputs = some page → ∀ input ∈ page.inputs, input.runId = refresh.run

/-- What a handler keeps is what the facade answered. -/
def Waiting.Owned : Waiting → Prop
  | created snapshot => snapshot.Owned
  | event before => before.Owned
  | pages refresh => refresh.Owned
  | _ => True

namespace Refresh

variable {refresh refresh' : Refresh} {reply : Reply}

/-- A page that has come changes nothing else. -/
theorem take_spec (h : refresh.take reply = some refresh') (howned : refresh.Owned)
    (habout : (Waiting.pages refresh).About reply) :
    refresh'.item = refresh.item ∧ refresh'.run = refresh.run ∧
      refresh'.caller = refresh.caller ∧ refresh'.Owned := by
  unfold take at h
  split at h
  · next page =>
      split at h
      · cases h
        refine ⟨rfl, rfl, rfl, ?_, howned.approvals, howned.inputs⟩
        rintro _ ⟨⟩
        exact habout
      · cases h
  · next page =>
      split at h
      · cases h
        refine ⟨rfl, rfl, rfl, howned.timeline, ?_, howned.inputs⟩
        rintro _ ⟨⟩
        exact habout
      · cases h
  · next page =>
      split at h
      · cases h
        refine ⟨rfl, rfl, rfl, howned.timeline, howned.approvals, ?_⟩
        rintro _ ⟨⟩
        exact habout
      · cases h
  · cases h

theorem proceed_of_not_isComplete (h : ¬refresh.isComplete) (view : View) :
    refresh.proceed view = (view, some (.pages refresh)) := by
  unfold isComplete at h
  unfold proceed
  split
  · next htimeline happrovals hinputs =>
      rw [htimeline, happrovals, hinputs] at h
      exact absurd rfl h
  · rfl

end Refresh

namespace Frontend

/-- The item the user chose last is on show or will be. -/
def Follows (state : Frontend) : Prop :=
  state.view.shown = state.selection.bind (·.item) ∨ Awaited state.waiting state.selection

/-- What the page shows is right already, or a handler waits that will make it so. -/
structure Inv (state : Frontend) : Prop where
  run : state.view.run = state.view.selected.bind (·.runs.getLast?)
  owned : ∀ selected, state.view.selected = some selected → selected.Owned
  waiting : ∀ waiting ∈ state.waiting, waiting.Owned
  pages : state.view.OfRun ∨ Refreshed state.waiting state.view
  selection : state.Follows

/-- The handlers that wait before and after one of them, or a new one, has run; the
others wait as before. -/
structure Moves (state next : Frontend) (others : List Waiting) (resumed added : Option Waiting) :
    Prop where
  split : ∀ waiting ∈ state.waiting, waiting ∈ others ∨ resumed = some waiting
  kept : ∀ waiting ∈ others, waiting ∈ next.waiting
  arrives : ∀ waiting, added = some waiting → waiting ∈ next.waiting
  among : ∀ waiting ∈ next.waiting, waiting ∈ state.waiting ∨ added = some waiting

variable {state next : Frontend} {others : List Waiting} {resumed added : Option Waiting}

theorem moves_call (called : Frontend) (hcalled : called.waiting = state.waiting) (view : View)
    (added : Option Waiting) :
    state.Moves (called.call view added) state.waiting none added where
  split _ hwaiting := .inl hwaiting
  kept waiting hwaiting := List.mem_append_left _ (hcalled ▸ hwaiting)
  arrives waiting hadded := by
    apply List.mem_append_right
    rw [hadded]
    exact List.mem_cons_self
  among waiting hwaiting := by
    rcases List.mem_append.mp hwaiting with hold | hnew
    · exact .inl (hcalled ▸ hold)
    · exact .inr (Option.mem_toList.mp hnew)

theorem moves_proceed {index : Nat} {waiting : Waiting}
    (hwaiting : state.waiting[index]? = some waiting)
    (view : View) (added : Option Waiting) (selections : List Selection) :
    state.Moves (state.proceed index view added selections) (state.waiting.eraseIdx index)
      (some waiting) added := by
  obtain ⟨hindex, hat⟩ := List.getElem?_eq_some_iff.mp hwaiting
  constructor
  · intro other hother
    obtain ⟨place, hplace, rfl⟩ := List.mem_iff_getElem.mp hother
    by_cases hself : place = index
    · subst hself
      exact .inr (congrArg some hat.symm)
    · exact .inl (List.mem_eraseIdx_iff_getElem.mpr ⟨place, hplace, hself, rfl⟩)
  · intro other hother
    cases added with
    | none => exact hother
    | some added =>
        obtain ⟨place, hplace, hdifferent, rfl⟩ := List.mem_eraseIdx_iff_getElem.mp hother
        change _ ∈ state.waiting.set index added
        rw [List.mem_iff_getElem]
        refine ⟨place, by simpa using hplace, ?_⟩
        rw [List.getElem_set_ne hdifferent.symm]
  · rintro _ rfl
    change _ ∈ state.waiting.set index _
    exact List.mem_set hindex _
  · intro other hother
    cases added with
    | none => exact .inl (List.mem_of_mem_eraseIdx hother)
    | some added =>
        rcases List.mem_or_eq_of_mem_set hother with hold | rfl
        · exact .inl hold
        · exact .inr rfl

theorem Moves.awaited (hmoves : state.Moves next others resumed added)
    {selection : Option Selection} (h : Awaited others selection) :
    Awaited next.waiting selection := by
  obtain ⟨waiting, hwaiting, hselects⟩ := h
  exact ⟨waiting, hmoves.kept waiting hwaiting, hselects⟩

theorem Moves.refreshed (hmoves : state.Moves next others resumed added) {view : View}
    (h : Refreshed others view) : Refreshed next.waiting view := by
  obtain ⟨refresh, hrefresh, hcurrent⟩ := h
  exact ⟨refresh, hmoves.kept _ hrefresh, hcurrent⟩

/-! ## One section of a handler -/

theorem refreshRunData_spec {caller : Caller} {view view' : View} {added : Option Waiting}
    {selected : WorkItemSnapshotEnvelope} (hselected : view.selected = some selected)
    (h : refreshRunData caller view = (view', added)) :
    view'.selected = some selected ∧ view'.run = selected.runs.getLast? ∧
      (∀ waiting, added = some waiting → waiting.Owned) ∧
      (view'.OfRun ∨ ∃ refresh, added = some (.pages refresh) ∧
        view'.current = some (refresh.item, refresh.run)) := by
  unfold refreshRunData at h
  rw [hselected] at h
  cases hrun : selected.runs.getLast? with
  | none =>
      simp only [hrun, Prod.mk.injEq] at h
      obtain ⟨rfl, rfl⟩ := h
      refine ⟨rfl, rfl, ?_, .inl ⟨nofun, nofun, nofun⟩⟩
      intro waiting hadded
      cases caller
      · cases hadded
      · cases hadded
        trivial
  | some run =>
      simp only [hrun, Prod.mk.injEq] at h
      obtain ⟨rfl, rfl⟩ := h
      refine ⟨rfl, rfl, ?_, .inr ⟨_, rfl, rfl⟩⟩
      rintro _ ⟨⟩
      exact ⟨nofun, nofun, nofun⟩

/-- The pages that have all come are put on show. -/
theorem proceed_spec {refresh : Refresh} {view view' : View} {added : Option Waiting}
    (hcomplete : refresh.isComplete) (howned : refresh.Owned)
    (h : refresh.proceed view = (view', added)) :
    view'.selected = view.selected ∧ view'.run = view.run ∧
      (∀ waiting, added = some waiting → waiting.Owned) ∧
      (view.current = some (refresh.item, refresh.run) → view'.OfRun) := by
  obtain ⟨caller, item, run, revision, timeline, approvals, inputs⟩ := refresh
  cases timeline with
  | none => cases hcomplete
  | some timelinePage =>
      cases approvals with
      | none => cases hcomplete
      | some approvalPage =>
          cases inputs with
          | none => cases hcomplete
          | some inputPage =>
              obtain ⟨hview, hadded⟩ := Prod.mk.inj h
              subst hview
              refine ⟨rfl, rfl, ?_, ?_⟩
              · intro waiting hwaiting
                rw [← hadded] at hwaiting
                cases caller
                · cases hwaiting
                · cases hwaiting
                  trivial
              · intro hcurrent
                obtain ⟨selected, shown, _, hshown, _, rfl⟩ := View.current_eq_some.mp hcurrent
                constructor
                · exact fun item hitem => ⟨shown, hshown, howned.timeline _ rfl item hitem⟩
                · exact fun approval happroval =>
                    ⟨shown, hshown, howned.approvals _ rfl approval happroval⟩
                · exact fun input hinput => ⟨shown, hshown, howned.inputs _ rfl input hinput⟩

theorem Inv.waitingOwned (h : state.Inv) (hmoves : state.Moves next others resumed added)
    (hadded : ∀ waiting, added = some waiting → waiting.Owned) :
    ∀ waiting ∈ next.waiting, waiting.Owned := by
  intro waiting hwaiting
  rcases hmoves.among waiting hwaiting with hold | hnew
  · exact h.waiting waiting hold
  · exact hadded waiting hnew

/-- A section that leaves the item on show and what the user chose last. -/
theorem Inv.follows_kept (h : state.Inv) (hmoves : state.Moves next others resumed added)
    (hshown : next.view.shown = state.view.shown) (hselection : next.selection = state.selection)
    (hresumed : ∀ waiting, resumed = some waiting → waiting.Selects state.selection →
      state.view.shown = state.selection.bind (·.item) ∨ Awaited others state.selection) :
    next.Follows := by
  have hkept : state.view.shown = state.selection.bind (·.item) ∨
      Awaited others state.selection := by
    rcases h.selection with hright | ⟨waiting, hwaiting, hselects⟩
    · exact .inl hright
    · rcases hmoves.split waiting hwaiting with hother | hself
      · exact .inr ⟨waiting, hother, hselects⟩
      · exact hresumed waiting hself hselects
  unfold Follows
  rw [hshown, hselection]
  exact hkept.imp_right hmoves.awaited

/-- A section that shows nothing else. -/
theorem Inv.same (h : state.Inv) (hmoves : state.Moves next others resumed added)
    (hsame : state.view.Same next.view)
    (hadded : ∀ waiting, added = some waiting → waiting.Owned)
    (hpages : ∀ refresh, resumed = some (.pages refresh) →
      (state.view.OfRun ∨ Refreshed others state.view) ∨ ∃ refresh',
        added = some (.pages refresh') ∧ refresh'.item = refresh.item ∧
          refresh'.run = refresh.run)
    (hfollows : next.Follows) : next.Inv where
  run := by
    rw [hsame.run, hsame.selected]
    exact h.run
  owned := by
    rw [hsame.selected]
    exact h.owned
  waiting := h.waitingOwned hmoves hadded
  pages := by
    have hkept : (state.view.OfRun ∨ Refreshed others state.view) ∨
        Refreshed next.waiting state.view := by
      rcases h.pages with hright | ⟨refresh, hrefresh, hcurrent⟩
      · exact .inl (.inl hright)
      · rcases hmoves.split _ hrefresh with hother | hself
        · exact .inl (.inr ⟨refresh, hother, hcurrent⟩)
        · rcases hpages refresh hself with hright | ⟨refresh', hadded', hitem, hrun⟩
          · exact .inl hright
          · right
            refine ⟨refresh', hmoves.arrives _ hadded', ?_⟩
            rw [hcurrent, hitem, hrun]
    unfold Refreshed at hkept ⊢
    rw [hsame.current]
    rcases hkept with (hright | hrefreshed) | hrefreshed
    · exact .inl (hsame.ofRun hright)
    · exact .inr (hmoves.refreshed hrefreshed)
    · exact .inr hrefreshed
  selection := hfollows

/-- A section that shows a snapshot. -/
theorem Inv.shows (h : state.Inv) (hmoves : state.Moves next others resumed added)
    {caller : Caller} {base : View} {snapshot : WorkItemSnapshotEnvelope}
    (hbase : base.selected = some snapshot)
    (hshow : refreshRunData caller base = (next.view, added)) (howned : snapshot.Owned)
    (hfollows : next.Follows) : next.Inv := by
  obtain ⟨hselected, hrun, hadded, hpages⟩ := refreshRunData_spec hbase hshow
  constructor
  · rw [hrun, hselected]
    rfl
  · intro selected hsome
    rw [hselected] at hsome
    cases hsome
    exact howned
  · exact h.waitingOwned hmoves hadded
  · rcases hpages with hright | ⟨refresh, hadded, hcurrent⟩
    · exact .inl hright
    · exact .inr ⟨refresh, hmoves.arrives _ hadded, hcurrent⟩
  · exact hfollows

/-! ## One step -/

/-- A section that shows the pages of a run, or waits for more of them. -/
theorem Inv.reply_pages (h : state.Inv) {index : Nat} {refresh refresh' : Refresh} {reply : Reply}
    {view : View} (hwaiting : state.waiting[index]? = some (.pages refresh))
    (habout : (Waiting.pages refresh).About reply) (htake : refresh.take reply = some refresh')
    (hproceed : refresh'.proceed state.view = (view, added))
    (hintime : refresh'.isComplete → state.view.current = some (refresh.item, refresh.run) ∨
      Refreshed (state.waiting.eraseIdx index) state.view) :
    (state.proceed index view added state.selections).Inv := by
  have howned : refresh.Owned := h.waiting _ (List.mem_of_getElem? hwaiting)
  obtain ⟨hitem, hrun, _, howned'⟩ := Refresh.take_spec htake howned habout
  have hmoves := moves_proceed hwaiting view added state.selections
  have hfollows (hshown : view.shown = state.view.shown) :
      (state.proceed index view added state.selections).Follows := by
    apply h.follows_kept hmoves hshown rfl
    rintro _ ⟨⟩ hselects
    exact hselects.elim
  by_cases hcomplete : refresh'.isComplete
  · obtain ⟨hselected, hshownRun, hadded, hpages⟩ := proceed_spec hcomplete howned' hproceed
    have hcurrent : view.current = state.view.current := by
      rw [View.current, View.current, hselected, hshownRun]
    constructor
    · exact hshownRun.trans (h.run.trans (by rw [← hselected]; rfl))
    · exact fun selected hsome => h.owned selected (hselected.symm.trans hsome)
    · exact h.waitingOwned hmoves hadded
    · rcases hintime hcomplete with hright | ⟨other, hother, hright⟩
      · rw [← hitem, ← hrun] at hright
        exact .inl (hpages hright)
      · exact .inr ⟨other, hmoves.kept _ hother, hcurrent.trans hright⟩
    · exact hfollows (by rw [View.shown, View.shown, hselected])
  · rw [Refresh.proceed_of_not_isComplete hcomplete] at hproceed
    cases hproceed
    apply h.same hmoves (View.Same.refl _)
    · rintro _ ⟨⟩
      exact howned'
    · rintro _ ⟨⟩
      exact .inr ⟨refresh', rfl, hitem, hrun⟩
    · exact hfollows rfl

/-- A handler that ends without showing anything. -/
theorem Inv.reply_ends (h : state.Inv) {index : Nat} {waiting : Waiting} {view : View}
    (hwaiting : state.waiting[index]? = some waiting) (hsame : state.view.Same view)
    (hpages : ∀ refresh, waiting = .pages refresh →
      state.view.OfRun ∨ Refreshed (state.waiting.eraseIdx index) state.view)
    (hselects : waiting.Selects state.selection →
      state.view.shown = state.selection.bind (·.item) ∨
        Awaited (state.waiting.eraseIdx index) state.selection) :
    (state.proceed index view none state.selections).Inv := by
  have hmoves := moves_proceed hwaiting view none state.selections
  apply h.same hmoves hsame nofun
  · rintro refresh ⟨⟩
    exact .inl (hpages refresh rfl)
  · apply h.follows_kept hmoves hsame.shown rfl
    rintro _ ⟨⟩
    exact hselects

/-- A handler that shows a snapshot of what the user chose last, or of the item on
show, or of another item while what the user chose last is still waited for. -/
theorem Inv.reply_shows (h : state.Inv) {index : Nat} {waiting : Waiting} {caller : Caller}
    {base view : View} {snapshot : WorkItemSnapshotEnvelope}
    (hwaiting : state.waiting[index]? = some waiting)
    (hshow : refreshRunData caller base = (view, added)) (hbase : base.selected = some snapshot)
    (howned : snapshot.Owned)
    (hitem : some snapshot.workItem.id = state.selection.bind (·.item) ∨
      (state.view.shown = some snapshot.workItem.id ∧ ¬waiting.Selects state.selection) ∨
      Awaited (state.waiting.eraseIdx index) state.selection) :
    (state.proceed index view added state.selections).Inv := by
  have hmoves := moves_proceed hwaiting view added state.selections
  have hshown : view.shown = some snapshot.workItem.id := by
    rw [View.shown, (refreshRunData_spec hbase hshow).1]
    rfl
  apply h.shows hmoves hbase hshow howned
  rcases hitem with hright | ⟨hsame, hselects⟩ | hawaited
  · exact .inl (hshown.trans hright)
  · apply h.follows_kept hmoves (hshown.trans hsame.symm) rfl
    rintro _ ⟨⟩ hself
    exact absurd hself hselects
  · exact .inr (hmoves.awaited hawaited)

/-- A created item takes the place of its form, whose handler goes on. -/
theorem Inv.reply_created (h : state.Inv) {index ticket : Nat} {snapshot : WorkItemSnapshotEnvelope}
    (hwaiting : state.waiting[index]? = some (.createWorkItem ticket)) (howned : snapshot.Owned) :
    (state.proceed index state.view (some (.created snapshot))
      (Waiting.select state.selections (.createWorkItem ticket) (.snapshot snapshot))).Inv := by
  have hmoves := moves_proceed hwaiting state.view (some (.created snapshot))
    (Waiting.select state.selections (.createWorkItem ticket) (.snapshot snapshot))
  have hselection : (state.proceed index state.view (some (.created snapshot))
      (Waiting.select state.selections (.createWorkItem ticket) (.snapshot snapshot))).selection =
        state.selection.map fun selection =>
          if selection = .creating ticket then .opened snapshot.workItem.id else selection :=
    List.head?_map
  apply h.same hmoves (View.Same.refl _)
  · rintro _ ⟨⟩
    exact howned
  · nofun
  · by_cases hlatest : state.selection = some (.creating ticket)
    · right
      refine ⟨.created snapshot, hmoves.arrives _ rfl, ?_⟩
      rw [hselection, hlatest]
      exact congrArg some (if_pos rfl)
    · apply h.follows_kept hmoves rfl
      · rw [hselection]
        cases hcase : state.selection with
        | none => rfl
        | some selection =>
            have hother : selection ≠ .creating ticket := by
              rintro rfl
              exact hlatest hcase
            exact congrArg some (if_neg hother)
      · rintro _ ⟨⟩ hselects
        exact absurd hselects hlatest

/-- A form that creates nothing gives way to what the user chose before. -/
theorem Inv.reply_notCreated (h : state.Inv) {index ticket : Nat} {error : DesktopError}
    (hwaiting : state.waiting[index]? = some (.createWorkItem ticket))
    (hintime : (Waiting.createWorkItem ticket).InTime state (state.waiting.eraseIdx index)
      (.failed error)) :
    (state.proceed index state.view none
      (Waiting.select state.selections (.createWorkItem ticket) (.failed error))).Inv := by
  have hmoves := moves_proceed hwaiting state.view none
    (Waiting.select state.selections (.createWorkItem ticket) (.failed error))
  apply h.same hmoves (View.Same.refl _) nofun nofun
  by_cases hlatest : state.selection = some (.creating ticket)
  · exact (hintime hlatest).imp_right hmoves.awaited
  · apply h.follows_kept hmoves rfl
    · change (state.selections.filter _).head? = state.selections.head?
      cases hcase : state.selections with
      | nil => rfl
      | cons selection rest =>
          have hother : selection ≠ .creating ticket := by
            rintro rfl
            exact hlatest (congrArg List.head? hcase)
          rw [List.filter_cons_of_pos (by simpa using hother)]
          rfl
    · rintro _ ⟨⟩ hselects
      exact absurd hselects hlatest

theorem Inv.reply (h : state.Inv) {index : Nat} {waiting : Waiting} {reply : Reply} {view : View}
    (hwaiting : state.waiting[index]? = some waiting) (habout : waiting.About reply)
    (hintime : waiting.InTime state (state.waiting.eraseIdx index) reply)
    (hresume : waiting.resume state.view reply = some (view, added)) :
    (state.proceed index view added (waiting.select state.selections reply)).Inv := by
  have howned := h.waiting _ (List.mem_of_getElem? hwaiting)
  unfold Waiting.resume at hresume
  split at hresume
  · next item snapshot =>
      apply h.reply_shows hwaiting (Option.some.inj hresume) rfl habout.2
      rcases hintime with hlatest | hawaited
      · left
        rw [hlatest, habout.1]
        rfl
      · exact .inr (.inr hawaited)
  · next ticket snapshot =>
      cases hresume
      exact h.reply_created hwaiting habout
  · next snapshot items =>
      apply h.reply_shows hwaiting (Option.some.inj hresume) rfl howned
      rcases hintime with hlatest | hawaited
      · left
        rw [hlatest]
        rfl
      · exact .inr (.inr hawaited)
  · next run =>
      cases hresume
      have hmoves := moves_proceed hwaiting state.view
        (state.view.selected.map fun selected => .reconciled selected.workItem.id) state.selections
      apply h.same hmoves (View.Same.refl _)
      · intro waiting hadded
        obtain ⟨selected, _, rfl⟩ := Option.map_eq_some_iff.mp hadded
        trivial
      · nofun
      · apply h.follows_kept hmoves rfl rfl
        rintro _ ⟨⟩ hselects
        exact hselects.elim
  · next item snapshot =>
      apply h.reply_shows hwaiting (Option.some.inj hresume) rfl habout.2
      rcases hintime with hsame | hawaited
      · right
        left
        rw [hsame, habout.1]
        exact ⟨rfl, not_false⟩
      · exact .inr (.inr hawaited)
  · next before refreshed =>
      have hid : (if before.revision ≤ refreshed.revision then refreshed else before).workItem.id =
          before.workItem.id := by
        split
        · exact habout.1
        · rfl
      apply h.reply_shows hwaiting (Option.some.inj hresume) rfl
      · split
        · exact habout.2
        · exact howned
      · rw [hid]
        exact .inr (.inl ⟨hintime, not_false⟩)
  · next items =>
      cases hresume
      exact h.reply_ends hwaiting ⟨rfl, rfl, rfl, rfl, rfl⟩ nofun False.elim
  · next refresh error =>
      cases hresume
      apply h.reply_ends hwaiting (View.same_reject _ _ _) _ False.elim
      exact fun _ _ => hintime
  · next refresh hreply =>
      obtain ⟨refresh', htake, hproceed⟩ := Option.map_eq_some_iff.mp hresume
      have hintime' : ∀ refresh', refresh.take reply = some refresh' → refresh'.isComplete →
          state.view.current = some (refresh.item, refresh.run) ∨
            Refreshed (state.waiting.eraseIdx index) state.view := by
        cases reply with
        | failed error => exact absurd rfl (hreply error)
        | snapshot _ | items _ | run _ | timeline _ | approvals _ | inputs _ => exact hintime
      exact h.reply_pages hwaiting habout htake hproceed (hintime' refresh' htake)
  · next before error =>
      cases hresume
      exact h.reply_ends hwaiting (View.same_reject _ _ _) nofun False.elim
  · next error =>
      cases hresume
      exact h.reply_ends hwaiting (View.same_reject _ _ _) nofun False.elim
  · next error hpages hevent hitems =>
      cases hresume
      cases waiting with
      | openItem item =>
          apply h.reply_ends hwaiting (View.Same.refl _) nofun
          intro hselects
          have hright := hintime hselects
          rw [hselects] at hright ⊢
          exact hright
      | createWorkItem ticket => exact h.reply_notCreated hwaiting hintime
      | created snapshot =>
          apply h.reply_ends hwaiting (View.Same.refl _) nofun
          intro hselects
          have hright := hintime hselects
          rw [hselects] at hright ⊢
          exact hright
      | reconcileRun | reconciled _ =>
          exact h.reply_ends hwaiting (View.Same.refl _) nofun False.elim
      | event before => exact absurd rfl (hevent before)
      | eventItems => exact absurd rfl hitems
      | pages refresh => exact absurd rfl (hpages refresh)
  · cases hresume

/-- A handler that is called and shows nothing yet. -/
theorem Inv.call_same (h : state.Inv) (called : Frontend) (hcalled : called.waiting = state.waiting)
    {view : View} (hsame : state.view.Same view)
    (hadded : ∀ waiting, added = some waiting → waiting.Owned)
    (hselection : called.selection = state.selection ∨
      ∃ waiting, added = some waiting ∧ waiting.Selects called.selection) :
    (called.call view added).Inv := by
  have hmoves := moves_call called hcalled view added
  apply h.same hmoves hsame hadded nofun
  rcases hselection with hselection | ⟨waiting, hwaiting, hselects⟩
  · exact h.follows_kept hmoves hsame.shown hselection nofun
  · exact .inr ⟨waiting, hmoves.arrives waiting hwaiting, hselects⟩

theorem handleEvent_cases (event : FrontendEvent) (view : View) :
    handleEvent event view = (view, none) ∨ ∃ before, view.selected = some before ∧
      (handleEvent event view = (view.notice event, some (.event before)) ∨
        handleEvent event view = refreshRunData .event (view.notice event)) := by
  unfold handleEvent
  cases view.selected with
  | none => exact .inl rfl
  | some before =>
      by_cases hother : event.workItemId ≠ before.workItem.id
      · exact .inl (if_pos hother)
      · right
        refine ⟨before, rfl, ?_⟩
        simp only [if_neg hother]
        by_cases hneeds : needsSnapshot before.revision event
        · exact .inl (if_pos hneeds)
        · exact .inr (if_neg hneeds)

/-- Handling an event shows no other item before a reply has come. -/
theorem shown_handleEvent (event : FrontendEvent) (view : View) :
    (handleEvent event view).1.shown = view.shown := by
  rcases handleEvent_cases event view with hnone | ⟨before, hselected, hwaits | hshow⟩
  · rw [hnone]
  · rw [hwaits]
    exact (View.same_notice view event).shown
  · have hbase := (View.same_notice view event).selected.trans hselected
    rw [hshow, View.shown, View.shown, (refreshRunData_spec hbase Prod.mk.eta.symm).1, hselected]

theorem Inv.handle (h : state.Inv) (event : FrontendEvent) (rest : List FrontendEvent) :
    ({ state with queue := rest }.call (handleEvent event state.view).1
      (handleEvent event state.view).2).Inv := by
  have hshown := shown_handleEvent event state.view
  rcases handleEvent_cases event state.view with hnone | ⟨before, hselected, hwaits | hshow⟩
  · rw [hnone]
    exact h.call_same { state with queue := rest } rfl (View.Same.refl _) nofun (.inl rfl)
  · rw [hwaits]
    apply h.call_same { state with queue := rest } rfl (View.same_notice _ _) _ (.inl rfl)
    rintro _ ⟨⟩
    exact h.owned before hselected
  · have hmoves : state.Moves ({ state with queue := rest }.call (handleEvent event state.view).1
        (handleEvent event state.view).2) state.waiting none (handleEvent event state.view).2 := by
      apply moves_call
      rfl
    have hbase := (View.same_notice state.view event).selected.trans hselected
    apply h.shows hmoves hbase (hshow.symm.trans Prod.mk.eta.symm) (h.owned before hselected)
    exact h.follows_kept hmoves hshown rfl nofun

theorem Inv.step (h : state.Inv) {input : Input} (hstep : state.step input = some next)
    (habout : state.About input) (hintime : state.InTime input) : next.Inv := by
  cases input with
  | event event =>
      cases hstep
      exact ⟨h.run, h.owned, h.waiting, h.pages, h.selection⟩
  | handle =>
      simp only [Frontend.step] at hstep
      split at hstep
      · cases hstep
      · next event rest _ =>
          split at hstep
          · cases hstep
          · rw [← Option.some.inj hstep]
            exact h.handle event rest
  | openItem item =>
      cases hstep
      apply h.call_same { state with selections := .opened item.id :: state.selections } rfl
         (View.Same.refl _)
      · rintro _ ⟨⟩
        trivial
      · exact .inr ⟨_, rfl, rfl⟩
  | createWorkItem title =>
      simp only [Frontend.step] at hstep
      split at hstep
      · cases hstep
        exact h
      · cases hstep
        apply h.call_same { state with
          tickets := state.tickets + 1
          selections := .creating state.tickets :: state.selections } rfl (View.Same.refl _)
        · rintro _ ⟨⟩
          trivial
        · exact .inr ⟨_, rfl, rfl⟩
  | reconcileCurrent =>
      simp only [Frontend.step] at hstep
      split at hstep
      · cases hstep
        apply h.call_same state rfl (View.Same.refl _) _ (.inl rfl)
        rintro _ ⟨⟩
        trivial
      · cases hstep
        exact h
  | reply index reply =>
      obtain ⟨waiting, hwaiting, hstep⟩ := Option.bind_eq_some_iff.mp hstep
      obtain ⟨⟨view, added⟩, hresume, hstep⟩ := Option.bind_eq_some_iff.mp hstep
      cases hstep
      exact h.reply hwaiting (habout waiting hwaiting) (hintime waiting hwaiting) hresume

/-! ## Every run -/

theorem Inv.initial : Inv {} where
  run := rfl
  owned := nofun
  waiting := by
    intro waiting hwaiting
    cases hwaiting
  pages := by
    left
    constructor
    all_goals
      intro row hrow
      cases hrow
  selection := .inl rfl

/-- Every reply is about what was asked, and it is taken in time. -/
def Timely (state : Frontend) (input : Input) : Prop := state.About input ∧ state.InTime input

theorem Inv.leads (h : state.Inv) {inputs : List Input} {final : Frontend}
    (hleads : state.Leads Timely inputs final) : final.Inv := by
  induction inputs generalizing state with
  | nil =>
      cases hleads
      exact h
  | cons input rest ih =>
      obtain ⟨next, hstep, ⟨habout, hintime⟩, hrest⟩ := hleads
      exact ih (h.step hstep habout hintime) hrest

/-- The page shows one item, the one the user chose last. -/
structure Sound (state : Frontend) : Prop where
  coherent : state.view.Coherent
  selected : state.view.shown = state.selection.bind (·.item)

theorem Inv.sound (h : state.Inv) (hquiet : state.waiting = []) : state.Sound where
  coherent := by
    constructor
    · intro run hrun
      have hlast := h.run
      rw [hrun] at hlast
      obtain ⟨selected, hselected, hmem⟩ := Option.bind_eq_some_iff.mp hlast.symm
      have hmem := List.mem_of_getLast? hmem
      exact ⟨selected, hselected, hmem, h.owned selected hselected run hmem⟩
    · rcases h.pages with hright | ⟨refresh, hrefresh, _⟩
      · exact hright
      · rw [hquiet] at hrefresh
        cases hrefresh
  selected := by
    rcases h.selection with hright | ⟨waiting, hwaiting, _⟩
    · exact hright
    · rw [hquiet] at hwaiting
      cases hwaiting

/-- The steps of the event queue: an event is handled, or its handler goes on. -/
def OfEvent (state : Frontend) : Input → Prop
  | .handle => True
  | .reply index _ => ∃ waiting, state.waiting[index]? = some waiting ∧ waiting.ofEvent
  | _ => False

theorem shown_resume_event {waiting : Waiting} {reply : Reply} {view : View}
    (hevent : waiting.ofEvent) (habout : waiting.About reply)
    (hintime : waiting.InTime state others reply)
    (hresume : waiting.resume state.view reply = some (view, added)) :
    view.shown = state.view.shown := by
  cases waiting with
  | openItem _ | createWorkItem _ | created _ | reconcileRun | reconciled _ => cases hevent
  | event before =>
      cases reply with
      | snapshot refreshed =>
          have hbase := (refreshRunData_spec rfl (Option.some.inj hresume)).1
          rw [View.shown, hbase, hintime]
          change some _ = _
          split
          · exact congrArg some habout.1
          · rfl
      | failed error =>
          cases hresume
          exact (View.same_reject _ _ _).shown
      | items _ | run _ | timeline _ | approvals _ | inputs _ => cases hresume
  | eventItems =>
      cases reply with
      | items items =>
          cases hresume
          rfl
      | failed error =>
          cases hresume
          exact (View.same_reject _ _ _).shown
      | snapshot _ | run _ | timeline _ | approvals _ | inputs _ => cases hresume
  | pages refresh =>
      have hproceed : ∀ refresh' : Refresh, (refresh'.proceed state.view).1.shown =
          state.view.shown := by
        intro refresh'
        unfold Refresh.proceed
        split
        · rfl
        · rfl
      cases reply with
      | failed error =>
          cases hresume
          exact (View.same_reject _ _ _).shown
      | snapshot _ | items _ | run _ => cases hresume
      | timeline _ | approvals _ | inputs _ =>
          obtain ⟨refresh', _, hview⟩ := Option.map_eq_some_iff.mp hresume
          have hshown := hproceed refresh'
          rw [hview] at hshown
          exact hshown

/-- An event handled in time leaves the item on show. -/
theorem shown_of_event {input : Input} (hstep : state.step input = some next)
    (htimely : state.Timely input) (hevent : state.OfEvent input) :
    next.view.shown = state.view.shown := by
  cases input with
  | event _ | openItem _ | createWorkItem _ | reconcileCurrent => exact hevent.elim
  | handle =>
      simp only [Frontend.step] at hstep
      split at hstep
      · cases hstep
      · next event rest _ =>
          split at hstep
          · cases hstep
          · rw [← Option.some.inj hstep]
            exact shown_handleEvent event state.view
  | reply index reply =>
      obtain ⟨waiting, hwaiting, hofEvent⟩ := hevent
      obtain ⟨found, hfound, hstep⟩ := Option.bind_eq_some_iff.mp hstep
      obtain rfl : waiting = found := Option.some.inj (hwaiting.symm.trans hfound)
      obtain ⟨⟨view, added⟩, hresume, hstep⟩ := Option.bind_eq_some_iff.mp hstep
      cases hstep
      exact shown_resume_event hofEvent (htimely.1 waiting hwaiting) (htimely.2 waiting hwaiting)
        hresume

/-- In every run whose replies are all taken in time, the page is sound wherever no
handler waits, and no event shows another item. -/
theorem view_follows_selection {inputs : List Input} {state : Frontend}
    (h : Leads Timely {} inputs state) :
    (state.waiting = [] → state.Sound) ∧
      ∀ input next, state.step input = some next → state.Timely input → state.OfEvent input →
        next.view.shown = state.view.shown :=
  ⟨(Inv.initial.leads h).sound, fun _ _ => shown_of_event⟩

/-! ### Replies that come late -/

section Example

def sampleItem (item : String) : FrontendWorkItemSnapshot :=
  { id := item, projectId := "project", title := item, status := "ready", parentId := none
    revision := 1, createdAtMs := 0, updatedAtMs := 0 }

/-- A work item with one run. -/
def sampleSnapshot (item run : String) (revision : Nat) : WorkItemSnapshotEnvelope :=
  { revision, workItem := sampleItem item
    runs := [{ id := run, connectionId := "connection", workItemId := item, status := .running,
               createdAtMs := 0, endedAtMs := none }]
    nextRunAfter := none }

def sampleApproval (run : String) : FrontendApprovalSnapshot :=
  { id := run ++ "-approval", connectionId := "connection", runId := run, kind := "command"
    summary := "rm", status := "pending", decision := none, requestedAtMs := 0
    responseStartedAtMs := none, resolvedAtMs := none, voidedAtMs := none }

/-- The three pages of a run, with one approval, for the handler at a place. -/
def samplePages (index : Nat) (run : String) : List Input :=
  [.reply index (.timeline ⟨run, 1, [], none⟩),
    .reply index (.approvals ⟨1, [sampleApproval run], none⟩), .reply index (.inputs ⟨1, [], none⟩)]

/-- An item is opened and everything comes in order. -/
def sampleOpened (item run : String) : List Input :=
  [.openItem (sampleItem item), .reply 0 (.snapshot (sampleSnapshot item run 1))] ++
    samplePages 0 run

theorem about_reply {index : Nat} {waiting : Waiting} {reply : Reply}
    (hwaiting : state.waiting[index]? = some waiting) (habout : waiting.About reply) :
    state.About (.reply index reply) := by
  intro other hother
  obtain rfl := Option.some.inj (hwaiting.symm.trans hother)
  exact habout

theorem sampleSnapshot_owned (item run : String) (revision : Nat) :
    (sampleSnapshot item run revision).Owned := by
  intro shown hshown
  rw [List.mem_singleton.mp hshown]
  rfl

/-- Two items are opened one after the other, and an event of the second is handled
while the pages of both are still to come. -/
def sampleInterleaved : List Input :=
  [.openItem (sampleItem "first"), .openItem (sampleItem "second"),
    .reply 0 (.snapshot (sampleSnapshot "first" "first-run" 1)),
    .event ⟨"second", 2, .workItemPatched⟩,
    .reply 1 (.snapshot (sampleSnapshot "second" "second-run" 1)), .handle] ++
      (samplePages 0 "first-run" ++ (samplePages 0 "second-run" ++
        ([.reply 0 (.snapshot (sampleSnapshot "second" "second-run" 2))] ++
          (samplePages 0 "second-run" ++ [.reply 0 (.items [sampleItem "second"])]))))

/-- The pages of the first item come while those of the second are awaited, and
every other reply is of what is on show. -/
theorem sampleInterleaved_leads :
    ∃ state, Leads Timely {} sampleInterleaved state ∧ state.waiting = [] ∧
      state.view.shown = some "second" := by
  have htimely : ∀ {state : Frontend} {index : Nat} {waiting : Waiting} {reply : Reply},
      state.waiting[index]? = some waiting → waiting.About reply →
        waiting.InTime state (state.waiting.eraseIdx index) reply →
        state.Timely (.reply index reply) := by
    intro state index waiting reply hwaiting habout hintime
    refine ⟨about_reply hwaiting habout, ?_⟩
    intro other hother
    obtain rfl := Option.some.inj (hwaiting.symm.trans hother)
    exact hintime
  have hpages : ∀ run approval, approval ∈ [sampleApproval run] → approval.runId = run := by
    intro run approval happroval
    rw [List.mem_singleton.mp happroval]
    rfl
  have hsnapshot := sampleSnapshot_owned
  refine ⟨_, ⟨_, rfl, ⟨trivial, trivial⟩, _, rfl, ⟨trivial, trivial⟩,
    _, rfl, htimely rfl ⟨rfl, hsnapshot _ _ _⟩ (.inr ⟨_, List.mem_singleton_self _, rfl⟩),
    _, rfl, ⟨trivial, trivial⟩, _, rfl, htimely rfl ⟨rfl, hsnapshot _ _ _⟩ (.inl rfl),
    _, rfl, ⟨trivial, trivial⟩,
    -- The pages of the first item.
    _, rfl, htimely rfl nofun fun _ _ _ => .inr ⟨_, List.mem_cons_self, rfl⟩,
    _, rfl, htimely rfl (hpages _) fun _ _ _ => .inr ⟨_, List.mem_cons_self, rfl⟩,
    _, rfl, htimely rfl nofun fun _ _ _ => .inr ⟨_, List.mem_cons_self, rfl⟩,
    -- The pages of the second.
    _, rfl, htimely rfl nofun fun _ _ _ => .inl rfl,
    _, rfl, htimely rfl (hpages _) fun _ _ _ => .inl rfl,
    _, rfl, htimely rfl nofun fun _ _ _ => .inl rfl,
    -- The event.
    _, rfl, htimely rfl ⟨rfl, hsnapshot _ _ _⟩ rfl,
    _, rfl, htimely rfl nofun fun _ _ _ => .inl rfl,
    _, rfl, htimely rfl (hpages _) fun _ _ _ => .inl rfl,
    _, rfl, htimely rfl nofun fun _ _ _ => .inl rfl,
    _, rfl, htimely rfl trivial trivial, rfl⟩, rfl, rfl⟩

theorem view_follows_selection_sampleInterleaved :
    ∃ state, Leads Timely {} sampleInterleaved state ∧ state.view.shown = some "second" ∧
      state.Sound ∧
        ∀ input next, state.step input = some next → state.Timely input → state.OfEvent input →
          next.view.shown = state.view.shown := by
  obtain ⟨state, hleads, hidle, hshown⟩ := sampleInterleaved_leads
  have hfollows := view_follows_selection hleads
  exact ⟨state, hleads, hshown, hfollows.1 hidle, hfollows.2⟩

/-- Two items are opened one after the other, and the pages of the first come last. -/
def sampleMixed : List Input :=
  [.openItem (sampleItem "first"), .openItem (sampleItem "second"),
    .reply 0 (.snapshot (sampleSnapshot "first" "first-run" 1)),
    .reply 1 (.snapshot (sampleSnapshot "second" "second-run" 1))] ++
      (samplePages 1 "second-run" ++ samplePages 0 "first-run")

/-- An item changes, and another one is opened before the snapshot of the change has come. -/
def sampleSwitched : List Input :=
  sampleOpened "first" "first-run" ++
    ([.event ⟨"first", 2, .workItemPatched⟩, .handle, .openItem (sampleItem "second"),
      .reply 1 (.snapshot (sampleSnapshot "second" "second-run" 1))] ++
        samplePages 1 "second-run")

/-- With every reply a success, an approval of the first item is shown under the
second, and the event of the first switches the page back to it. -/
theorem view_mixes_items :
    (∃ state, Leads About {} sampleMixed state ∧ state.waiting = [] ∧
      state.view.shown = some "second" ∧ sampleApproval "first-run" ∈ state.view.approvals ∧
      ¬state.view.Coherent) ∧
    ∃ state next input, Leads About {} sampleSwitched state ∧ state.step input = some next ∧
      state.About input ∧ state.OfEvent input ∧ state.view.shown = some "second" ∧
      next.view.shown = some "first" := by
  have hpages : ∀ run approval, approval ∈ [sampleApproval run] → approval.runId = run := by
    intro run approval happroval
    rw [List.mem_singleton.mp happroval]
    rfl
  have hsnapshot := sampleSnapshot_owned
  constructor
  · refine ⟨_, ⟨_, rfl, trivial, _, rfl, trivial, _, rfl, about_reply rfl ⟨rfl, hsnapshot _ _ _⟩,
      _, rfl, about_reply rfl ⟨rfl, hsnapshot _ _ _⟩, _, rfl, about_reply rfl nofun,
      _, rfl, about_reply rfl (hpages _), _, rfl, about_reply rfl nofun,
      _, rfl, about_reply rfl nofun, _, rfl, about_reply rfl (hpages _),
      _, rfl, about_reply rfl nofun, rfl⟩, rfl, rfl, List.mem_cons_self, ?_⟩
    intro hcoherent
    obtain ⟨run, hrun, hid⟩ := hcoherent.pages.approvals _ List.mem_cons_self
    cases hrun
    exact absurd hid (by decide)
  · refine ⟨_, _, .reply 0 (.snapshot (sampleSnapshot "first" "first-run" 2)),
      ⟨_, rfl, trivial, _, rfl, about_reply rfl ⟨rfl, hsnapshot _ _ _⟩,
      _, rfl, about_reply rfl nofun, _, rfl, about_reply rfl (hpages _),
      _, rfl, about_reply rfl nofun, _, rfl, trivial, _, rfl, trivial, _, rfl, trivial,
      _, rfl, about_reply rfl ⟨rfl, hsnapshot _ _ _⟩, _, rfl, about_reply rfl nofun,
      _, rfl, about_reply rfl (hpages _), _, rfl, about_reply rfl nofun, rfl⟩,
      rfl, about_reply rfl ⟨rfl, hsnapshot _ _ _⟩, ⟨_, rfl, rfl⟩, rfl, rfl⟩

end Example

end Frontend

end YakShed.Desktop
