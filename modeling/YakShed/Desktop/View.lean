/-
# The view and its handlers

The variables of the desktop page that show a work item, and the handlers that
assign them. A handler runs without interruption from one awaited reply to the next,
so what it keeps across an `await` is data here, and one step of the page is either
something the user or the facade does or the run of one handler up to its next call.
Events wait in a queue and are handled one at a time; what the user does is not.
-/

import YakShed.Desktop.Pages

namespace YakShed.Desktop

/-! ## Events -/

inductive FrontendEventKind
  | workItemPatched
  | timelineBatchAppended (runId : String) (itemCount : Nat)
  | approvalOpened (runId approvalId : String)
  | approvalResolved (runId approvalId : String)
  | userInputOpened (runId requestId prompt : String)
  | userInputResponded (runId requestId : String)
  | runStatusChanged (runId : String) (status : FrontendRunStatus)
  | runOutcomeUnknown (runId operation : String)
  deriving DecidableEq

structure FrontendEvent where
  workItemId : String
  revision : Nat
  kind : FrontendEventKind
  deriving DecidableEq

def needsSnapshot (localRevision : Nat) (event : FrontendEvent) : Bool :=
  localRevision < event.revision

/-! ## The variables -/

structure View where
  items : List FrontendWorkItemSnapshot := []
  selected : Option WorkItemSnapshotEnvelope := none
  run : Option FrontendRunSnapshot := none
  timeline : List FrontendTimelineItemSnapshot := []
  approvals : List FrontendApprovalSnapshot := []
  inputs : List FrontendPendingUserInput := []
  error : Option DesktopError := none
  uncertain : Option String := none
  batchNotice : Option String := none
  deriving DecidableEq

namespace View

/-- The work item the page shows. -/
def shown (view : View) : Option String := view.selected.map (·.workItem.id)

/-- The work item and the run the page shows. -/
def current (view : View) : Option (String × String) := do
  let selected ← view.selected
  let run ← view.run
  return (selected.workItem.id, run.id)

/-- The notices that an event sets before anything is fetched. -/
def notice (view : View) (event : FrontendEvent) : View :=
  match event.kind with
  | .timelineBatchAppended _ itemCount =>
      { view with batchNotice := some ("Batch received · " ++ toString itemCount ++ " updates") }
  | .runOutcomeUnknown _ operation =>
      { view with
        uncertain := some (operation ++ " may have completed. Reconcile before retrying.") }
  | _ => view

end View

/-! ## What a handler waits for -/

/-- The handler that called `refreshRunData`. -/
inductive Caller
  | action
  | event
  deriving DecidableEq

/-- The three pages that `refreshRunData` asked for and those that came. -/
structure Refresh where
  caller : Caller
  item : String
  run : String
  revision : Nat
  timeline : Option WorkItemTimelineEnvelope := none
  approvals : Option RunApprovalPageEnvelope := none
  inputs : Option PendingUserInputPageEnvelope := none
  deriving DecidableEq

/-- A handler at an `await`, with the variables of its own that it reads again. -/
inductive Waiting
  /-- `openItem`, for the snapshot. -/
  | openItem (item : String)
  /-- `createWorkItem`, for the created item. -/
  | createWorkItem (ticket : Nat)
  /-- `createWorkItem`, for the list of items. -/
  | created (snapshot : WorkItemSnapshotEnvelope)
  /-- `reconcileCurrent`, for the run. -/
  | reconcileRun
  /-- `reconcileCurrent`, for the snapshot. -/
  | reconciled (item : String)
  /-- `handleEvent`, for the snapshot. -/
  | event (before : WorkItemSnapshotEnvelope)
  /-- `handleEvent`, for the list of items. -/
  | eventItems
  /-- Any of them in `refreshRunData`, for the pages. -/
  | pages (refresh : Refresh)
  deriving DecidableEq

inductive Reply
  | snapshot (envelope : WorkItemSnapshotEnvelope)
  | items (items : List FrontendWorkItemSnapshot)
  | run (run : FrontendRunSnapshot)
  | timeline (page : WorkItemTimelineEnvelope)
  | approvals (page : RunApprovalPageEnvelope)
  | inputs (page : PendingUserInputPageEnvelope)
  | failed (error : DesktopError)
  deriving DecidableEq

/-- What the handler does after `refreshRunData`. -/
def Caller.next : Caller → Option Waiting
  | action => none
  | event => some .eventItems

/-- A rejected promise: the event queue catches it, and nothing else does. -/
def Caller.reject (caller : Caller) (error : DesktopError) (view : View) : View :=
  match caller with
  | action => view
  | event => { view with error := some error }

/-- `refreshRunData` up to its calls. -/
def refreshRunData (caller : Caller) (view : View) : View × Option Waiting :=
  match view.selected with
  | none => (view, caller.next)
  | some selected =>
      match selected.runs.getLast? with
      | none =>
          ({ view with run := none, timeline := [], approvals := [], inputs := [] }, caller.next)
      | some run =>
          ({ view with run := some run },
            some (.pages
              { caller, item := selected.workItem.id, run := run.id
                revision := selected.revision }))

namespace Refresh

/-- One more page has come. -/
def take (refresh : Refresh) : Reply → Option Refresh
  | .timeline page =>
      if refresh.timeline.isNone then some { refresh with timeline := some page } else none
  | .approvals page =>
      if refresh.approvals.isNone then some { refresh with approvals := some page } else none
  | .inputs page =>
      if refresh.inputs.isNone then some { refresh with inputs := some page } else none
  | _ => none

def isComplete (refresh : Refresh) : Bool :=
  refresh.timeline.isSome && refresh.approvals.isSome && refresh.inputs.isSome

/-- `refreshRunData` from `Promise.all` on. -/
def proceed (refresh : Refresh) (view : View) : View × Option Waiting :=
  match refresh.timeline, refresh.approvals, refresh.inputs with
  | some timelinePage, some approvalPage, some inputPage =>
      ({ view with
          timeline := timelinePage.items
          approvals := approvalPage.approvals
          inputs := inputPage.inputs }, refresh.caller.next)
  | _, _, _ => (view, some (.pages refresh))

end Refresh

/-- A handler goes on with its reply, up to its next call. -/
def Waiting.resume (view : View) : Waiting → Reply → Option (View × Option Waiting)
  | openItem _, .snapshot snapshot =>
      some (refreshRunData .action { view with selected := some snapshot })
  | createWorkItem _, .snapshot snapshot => some (view, some (.created snapshot))
  | created snapshot, .items items =>
      some (refreshRunData .action { view with items, selected := some snapshot })
  | reconcileRun, .run _ =>
      some (view, view.selected.map fun selected => .reconciled selected.workItem.id)
  | reconciled _, .snapshot snapshot =>
      some (refreshRunData .action { view with selected := some snapshot, uncertain := none })
  | event before, .snapshot refreshed =>
      some (refreshRunData .event { view with
        selected := some (if before.revision ≤ refreshed.revision then refreshed else before) })
  | eventItems, .items items => some ({ view with items }, none)
  | pages refresh, .failed error => some (refresh.caller.reject error view, none)
  | pages refresh, reply => (refresh.take reply).map fun refresh => refresh.proceed view
  | event _, .failed error | eventItems, .failed error =>
      some (Caller.event.reject error view, none)
  | _, .failed _ => some (view, none)
  | _, _ => none

/-- `handleEvent` up to its first call. -/
def handleEvent (event : FrontendEvent) (view : View) : View × Option Waiting :=
  match view.selected with
  | none => (view, none)
  | some before =>
      if event.workItemId ≠ before.workItem.id then (view, none)
      else if needsSnapshot before.revision event then (view.notice event, some (.event before))
      else refreshRunData .event (view.notice event)

/-- The handlers that the event queue runs. -/
def Waiting.ofEvent : Waiting → Bool
  | event _ | eventItems => true
  | pages refresh => refresh.caller = .event
  | _ => false

/-! ## The page -/

/-- What the user chose last: an item of the list, or the item of a form that was
sent, which has no id until it is created. -/
inductive Selection
  | opened (item : String)
  | creating (ticket : Nat)
  deriving DecidableEq

def Selection.item : Selection → Option String
  | opened item => some item
  | creating _ => none

/-- The variables, the events that wait and the handlers that wait, in the order
they were called. `selections` is what the user chose, the last choice first, and
`tickets` counts the forms that were sent; the page has neither. -/
structure Frontend where
  view : View := {}
  queue : List FrontendEvent := []
  waiting : List Waiting := []
  tickets : Nat := 0
  selections : List Selection := []
  deriving DecidableEq

inductive Input
  /-- An event is emitted. -/
  | event (event : FrontendEvent)
  /-- The queue runs `handleEvent` of its next event. -/
  | handle
  | openItem (item : FrontendWorkItemSnapshot)
  /-- The form is sent with this title, trimmed. -/
  | createWorkItem (title : String)
  | reconcileCurrent
  /-- A handler that waits is answered. -/
  | reply (index : Nat) (reply : Reply)
  deriving DecidableEq

/-- A created item takes the place of the form it was created from, and a form that
created nothing chose nothing. -/
def Waiting.select (selections : List Selection) : Waiting → Reply → List Selection
  | createWorkItem ticket, .snapshot snapshot =>
      selections.map fun selection =>
        if selection = .creating ticket then .opened snapshot.workItem.id else selection
  | createWorkItem ticket, .failed _ => selections.filter (· ≠ .creating ticket)
  | _, _ => selections

namespace Frontend

/-- What the user chose last. -/
def selection (state : Frontend) : Option Selection := state.selections.head?

/-- The handler at a place has run up to its next call. -/
def proceed (state : Frontend) (index : Nat) (view : View) (next : Option Waiting)
    (selections : List Selection) : Frontend :=
  { state with
    view, selections
    waiting := next.elim (state.waiting.eraseIdx index) (state.waiting.set index) }

/-- A handler is called and runs up to its first call. -/
def call (state : Frontend) (view : View) (next : Option Waiting) : Frontend :=
  { state with view, waiting := state.waiting ++ next.toList }

def step (state : Frontend) : Input → Option Frontend
  | .event event => some { state with queue := state.queue ++ [event] }
  | .handle =>
      match state.queue with
      | [] => none
      | event :: rest =>
          if state.waiting.any (·.ofEvent) then none
          else
            let (view, next) := handleEvent event state.view
            some ({ state with queue := rest }.call view next)
  | .openItem item =>
      some ({ state with selections := .opened item.id :: state.selections }.call state.view
        (some (.openItem item.id)))
  | .createWorkItem title =>
      if title = "" then some state
      else some ({ state with
          tickets := state.tickets + 1
          selections := .creating state.tickets :: state.selections }.call state.view
            (some (.createWorkItem state.tickets)))
  | .reconcileCurrent =>
      match state.view.run, state.view.selected with
      | some _, some _ => some (state.call state.view (some .reconcileRun))
      | _, _ => some state
  | .reply index reply => do
      let waiting ← state.waiting[index]?
      let (view, next) ← waiting.resume state.view reply
      return state.proceed index view next (waiting.select state.selections reply)

end Frontend

/-! ## Replies about what was asked -/

/-- All runs of a snapshot are runs of its work item. -/
def WorkItemSnapshotEnvelope.Owned (snapshot : WorkItemSnapshotEnvelope) : Prop :=
  ∀ run ∈ snapshot.runs, run.workItemId = snapshot.workItem.id

/-- The facade answers about the work item and the run it was asked about. -/
def Waiting.About : Waiting → Reply → Prop
  | openItem item, .snapshot snapshot | reconciled item, .snapshot snapshot =>
      snapshot.workItem.id = item ∧ snapshot.Owned
  | createWorkItem _, .snapshot snapshot => snapshot.Owned
  | event before, .snapshot snapshot =>
      snapshot.workItem.id = before.workItem.id ∧ snapshot.Owned
  | pages refresh, .timeline page => ∀ item ∈ page.items, item.runId = refresh.run
  | pages refresh, .approvals page => ∀ approval ∈ page.approvals, approval.runId = refresh.run
  | pages refresh, .inputs page => ∀ input ∈ page.inputs, input.runId = refresh.run
  | _, _ => True

def Frontend.About (state : Frontend) : Input → Prop
  | .reply index reply => ∀ waiting, state.waiting[index]? = some waiting → waiting.About reply
  | _ => True

end YakShed.Desktop
