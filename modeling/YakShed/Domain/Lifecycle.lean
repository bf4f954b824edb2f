/-
# Run and approval lifecycles

The status machines of runs and approvals and the snapshots the store returns.
`RunStatus.canTransitionTo` is the whole legal-edge matrix; everything the store
promises about runs is a consequence of never writing a status off that matrix.
-/

import YakShed.Domain.Values

namespace YakShed

inductive WorkItemStatus
  | ready
  | archived
  deriving DecidableEq, Repr

inductive RunStatus
  | starting
  | running
  | completed
  | failed
  | interrupted
  | disconnected
  | outcomeUnknown
  deriving DecidableEq, Repr

namespace RunStatus

def canTransitionTo : RunStatus → RunStatus → Bool
  | starting, running | starting, interrupted | starting, failed | starting, outcomeUnknown => true
  | running, completed | running, failed | running, interrupted | running, disconnected
  | running, outcomeUnknown => true
  | disconnected, running | disconnected, interrupted | disconnected, outcomeUnknown => true
  | outcomeUnknown, running | outcomeUnknown, completed | outcomeUnknown, failed
  | outcomeUnknown, interrupted | outcomeUnknown, disconnected => true
  | _, _ => false

/-- `is_terminal` of the store. -/
def isTerminal : RunStatus → Bool
  | completed | failed | interrupted => true
  | _ => false

/-- The statuses from which a live provider run may still report. -/
def isActive : RunStatus → Bool
  | starting | running => true
  | _ => false

/-- `run_status_value` of the store. -/
def value : RunStatus → String
  | starting => "starting"
  | running => "running"
  | completed => "completed"
  | failed => "failed"
  | interrupted => "interrupted"
  | disconnected => "disconnected"
  | outcomeUnknown => "outcome_unknown"

theorem isTerminal_iff {status : RunStatus} :
    status.isTerminal = true ↔
      status = completed ∨ status = failed ∨ status = interrupted := by
  cases status <;> simp [isTerminal]

theorem not_canTransitionTo_of_isTerminal {status : RunStatus} (hterm : status.isTerminal = true)
    (target : RunStatus) : status.canTransitionTo target = false := by
  cases status <;> first | rfl | simp [isTerminal] at hterm

end RunStatus

inductive ApprovalDecision
  | approved
  | denied
  deriving DecidableEq, Repr

/-- `decision_value` of the store. -/
def ApprovalDecision.value : ApprovalDecision → String
  | approved => "approved"
  | denied => "denied"

inductive ApprovalStatus
  | pending
  | responding (decision : ApprovalDecision)
  | resolved (decision : ApprovalDecision)
  | voided (decision : Option ApprovalDecision)
  deriving DecidableEq, Repr

/-! ## Snapshots -/

/-- `u64` counters are natural numbers here; every conversion to the database's
`i64` is checked where the source checks it. -/
abbrev StreamCursor := Nat
abbrev TimelineRevision := Nat
abbrev DataRevision := Nat

structure ProjectSnapshot where
  id : ProjectId
  name : String
  createdAt : UtcTimestamp
  deriving DecidableEq, Repr

structure WorkItemSnapshot where
  id : WorkItemId
  projectId : ProjectId
  title : String
  status : WorkItemStatus
  parentId : Option WorkItemId
  revision : DataRevision
  createdAt : UtcTimestamp
  updatedAt : UtcTimestamp
  deriving DecidableEq, Repr

structure RunSnapshot where
  id : RunId
  connectionId : ConnectionId
  workItemId : WorkItemId
  status : RunStatus
  providerId : Option ProviderRunIdentity
  createdAt : UtcTimestamp
  endedAt : Option UtcTimestamp
  deriving DecidableEq

structure TimelineItemSnapshot where
  id : TimelineItemId
  connectionId : ConnectionId
  runId : RunId
  revision : TimelineRevision
  kind : String
  body : String
  providerId : Option NamespacedProviderId
  createdAt : UtcTimestamp
  deriving DecidableEq

structure ApprovalSnapshot where
  id : ApprovalRequestId
  connectionId : ConnectionId
  runId : RunId
  providerId : NamespacedProviderId
  kind : String
  summary : String
  status : ApprovalStatus
  requestedAt : UtcTimestamp
  responseStartedAt : Option UtcTimestamp
  resolvedAt : Option UtcTimestamp
  voidedAt : Option UtcTimestamp
  deriving DecidableEq

end YakShed
