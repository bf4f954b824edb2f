/-
# The credential broker

`CredentialBroker::run` holds a lock for each secret reference while it waits for
the backend, and gives up on a timeout or a cancellation. `LocalOsBackend` does
the backend's part on a blocking worker, which goes on when nobody waits for it
any more. The broker's calls and the workers are tasks over one keychain.
-/

import YakShed.Collections.Dict
import YakShed.Concurrency.Program
import YakShed.Secrets.Bindings

namespace YakShed.Secrets

open Concurrent

/-! ## The keychain -/

inductive StoreError
  | notFound
  | duplicate
  | unavailable
  | locked
  | denied
  | failed
  deriving DecidableEq

/-- Why the system refuses an operation as a whole. -/
inductive KeychainFault
  | unavailable
  | locked
  | denied
  | failed
  deriving DecidableEq

def KeychainFault.error : KeychainFault → StoreError
  | unavailable => .unavailable
  | locked => .locked
  | denied => .denied
  | failed => .failed

/-- The passwords of one service, by account. -/
abbrev Keychain : Type := Dict String ByteArray

/-- `LocalOsBackend::account`. -/
def account (reference : SecretReference) : String :=
  "backend/" ++ reference.backendId.value ++ "/" ++ reference.locator.value

theorem requireIdentifier_chars {field value : String}
    (h : requireIdentifier field value = .ok ()) :
    ∀ c ∈ value.toList, isIdentifierChar c = true := by
  unfold requireIdentifier at h
  cases hnonempty : requireNonempty field value with
  | error error =>
      rw [hnonempty] at h
      cases h
  | ok checked =>
      rw [hnonempty] at h
      by_cases hall : value.toList.all isIdentifierChar = true
      · exact List.all_eq_true.mp hall
      · simp only [bind, Except.bind, hall] at h
        cases h

/-- A backend id has no slash, so the accounts of two secrets differ. -/
theorem account_injective {first second : SecretReference} (h : account first = account second) :
    first = second := by
  obtain ⟨⟨id, hid⟩, ⟨locator, hlocator⟩⟩ := first
  obtain ⟨⟨id', hid'⟩, ⟨locator', hlocator'⟩⟩ := second
  have htext : id.toList ++ '/' :: locator.toList = id'.toList ++ '/' :: locator'.toList := by
    have hlist := congrArg String.toList h
    simpa [account] using hlist
  have hslash : ∀ text : String, requireIdentifier "secret backend id" text = .ok () →
      '/' ∉ text.toList := by
    intro text haccepted hmem
    have hchar := requireIdentifier_chars haccepted '/' hmem
    revert hchar
    decide
  have hsplit : ∀ (xs ys : List Char) (as bs : List Char), '/' ∉ xs → '/' ∉ ys →
      xs ++ '/' :: as = ys ++ '/' :: bs → xs = ys ∧ as = bs := by
    intro xs
    induction xs with
    | nil =>
        intro ys as bs _ hys heq
        cases ys with
        | nil =>
            cases heq
            exact ⟨rfl, rfl⟩
        | cons y ys =>
            cases heq
            exact absurd List.mem_cons_self hys
    | cons x xs ih =>
        intro ys as bs hxs hys heq
        cases ys with
        | nil =>
            cases heq
            exact absurd List.mem_cons_self hxs
        | cons y ys =>
            simp only [List.cons_append, List.cons.injEq] at heq
            obtain ⟨rfl, hrest⟩ := heq
            obtain ⟨rfl, rfl⟩ := ih ys as bs (fun hmem => hxs (List.mem_cons_of_mem _ hmem))
              (fun hmem => hys (List.mem_cons_of_mem _ hmem)) hrest
            exact ⟨rfl, rfl⟩
  obtain ⟨hids, hlocators⟩ := hsplit _ _ _ _ (hslash id hid) (hslash id' hid') htext
  obtain rfl := String.toList_inj.mp hids
  obtain rfl := String.toList_inj.mp hlocators
  rfl

inductive Operation
  | put (value : String) (overwrite : Bool)
  | delete
  | resolve
  deriving DecidableEq

namespace Operation

/-- `matches!(operation, SecretOperation::Put | SecretOperation::Delete)`. -/
def isMutation : Operation → Bool
  | put .. | delete => true
  | resolve => false

end Operation

/-- What a keychain operation returns. -/
inductive Reply
  | bytes (value : ByteArray)
  | stored (replaced : Bool)
  | erased (deleted : Bool)

/-- `NativeKeychain::resolve`, `put` and `delete`, each at one moment. -/
def Operation.execute (entry : String) (fault : Option KeychainFault) (keychain : Keychain) :
    Operation → Except StoreError Reply × Keychain
  | resolve =>
      match fault, keychain.find entry with
      | some fault, _ => (.error fault.error, keychain)
      | none, some value => (.ok (.bytes value), keychain)
      | none, none => (.error .notFound, keychain)
  | put value overwrite =>
      match fault, keychain.find entry with
      | some fault, _ => (.error fault.error, keychain)
      | none, some _ =>
          if overwrite then (.ok (.stored true), keychain.set entry value.toUTF8)
          else (.error .duplicate, keychain)
      | none, none => (.ok (.stored false), keychain.set entry value.toUTF8)
  | delete =>
      match fault with
      | some fault => (.error fault.error, keychain)
      | none => (.ok (.erased (keychain.find entry).isSome), keychain.remove entry)

/-! ## Answers -/

inductive Answer
  /-- `PutSecretOutcome`. -/
  | written
  | replaced
  /-- `DeleteSecretOutcome`. -/
  | deleted
  | nothingToDelete
  | secret (value : String)
  deriving DecidableEq

/-- `map_store_error` with a locator. -/
def mapStoreError (reference : SecretReference) : StoreError → SecretError
  | .notFound => .notFound reference
  | .duplicate => .alreadyExists reference
  | .unavailable => .backendUnavailable reference.backendId
  | .locked => .locked reference.backendId
  | .denied => .denied reference.backendId
  | .failed => .backendFailure reference.backendId "macOS Keychain operation failed"

/-- What `resolve`, `put` and `delete` of the backend make of the reply. -/
def answer (reference : SecretReference) : Except StoreError Reply → Except SecretError Answer
  | .error error => .error (mapStoreError reference error)
  | .ok (.stored replaced) => .ok (if replaced then .replaced else .written)
  | .ok (.erased deleted) => .ok (if deleted then .deleted else .nothingToDelete)
  | .ok (.bytes value) =>
      match String.fromUTF8? value with
      | some value => .ok (.secret value)
      | none => .error (.protocolViolation reference.backendId "keychain value is not UTF-8")

/-! ## Requests -/

/-- One call of the broker, past its checks. -/
structure Call where
  reference : SecretReference
  operation : Operation
  deriving DecidableEq

/-- The arguments of `resolve`, `put` and `delete`. -/
structure Request where
  connections : List Connection
  supplied : CredentialBindingRecord
  connectionId : ConnectionId
  slot : CredentialSlot
  operation : Operation

namespace Request

def invalid (request : Request) (reason : InvalidBindingReason) : SecretError :=
  .invalidBinding request.connectionId request.slot reason

/-- `current_binding`. -/
def currentBinding (request : Request) : Except SecretError CredentialBinding := do
  validateBindings request.connections
  match request.connections.find? fun connection => connection.id == request.connectionId with
  | none => throw (request.invalid .unknownConnection)
  | some connection =>
      match connection.credentials.find? fun credential => credential.slot == request.slot with
      | none => throw (request.invalid .unknownSlot)
      | some current =>
          if current ≠ request.supplied then throw (request.invalid .staleBinding)
          else return current.binding

/-- The checks before `run`: what the call works on, or what it returns at once.
The registry says for each backend whether it has an administrator. -/
def toCall (backends : Dict SecretBackendId Bool) (request : Request) :
    Except (Except SecretError String) Call :=
  match request.currentBinding with
  | .error error => .error (.error error)
  | .ok (.delegated authority) =>
      if request.operation.isMutation then .error (.error (request.invalid .notSecretBacked))
      else .error (.ok authority)
  | .ok .disabled => .error (.error (request.invalid .disabled))
  | .ok (.secret reference) =>
      match backends.find reference.backendId with
      | none => .error (.error (.backendUnavailable reference.backendId))
      | some hasAdministrator =>
          match request.operation with
          | .resolve => .ok ⟨reference, .resolve⟩
          | .put value overwrite =>
              if hasAdministrator then .ok ⟨reference, .put value overwrite⟩
              else .error (.error (.unsupportedOperation reference.backendId .put))
          | .delete =>
              if hasAdministrator then .ok ⟨reference, .delete⟩
              else .error (.error (.unsupportedOperation reference.backendId .delete))

end Request

/-! ## The world -/

/-- A `tokio::sync::Mutex` behind an `Arc`: how many own it, and the calls that
wait for it in the order they came. The first of them may hold it. -/
structure KeyLock where
  strong : Nat := 0
  queue : List Nat := []

/-- A keychain operation on a blocking worker. -/
structure Job where
  id : Nat
  call : Call
  result : Option (Except StoreError Reply) := none

/-- The record of a call: when it was made, when it took its place at the lock,
and when it returned what. -/
structure CallRecord where
  call : Call
  issued : Nat
  queued : Option Nat := none
  returned : Option (Nat × Except SecretError Answer) := none
  deriving DecidableEq

/-- `locks` is the table of weak pointers. Jobs are numbered in the order they
are dispatched. `clock` and `calls` are a record that the program has no variable
for; a call's number stands for its future. -/
structure World where
  keychain : Keychain := ∅
  locks : Dict SecretReference Nat := ∅
  cells : Nat → KeyLock := fun _ => {}
  nextLock : Nat := 0
  jobs : Dict Nat Job := ∅
  nextJob : Nat := 0
  clock : Nat := 0
  calls : Dict Nat CallRecord := ∅

namespace World

def setCell (world : World) (lock : Nat) (cell : KeyLock) : World :=
  { world with cells := Function.update world.cells lock cell }

/-- Something happens to a call. -/
def note (world : World) (id : Nat) (change : CallRecord → CallRecord) : World :=
  match world.calls.find id with
  | none => { world with clock := world.clock + 1 }
  | some record =>
      { world with clock := world.clock + 1, calls := world.calls.set id (change record) }

/-- Drops a weak pointer to a lock that nobody owns. -/
def liveLocks (world : World) : Dict SecretReference Nat :=
  world.locks.retain fun _ lock => 0 < (world.cells lock).strong

/-- A call leaves the lock's queue: its future is dropped, or its guard. -/
def leave (world : World) (lock id : Nat) : World :=
  world.setCell lock
    { world.cells lock with queue := (world.cells lock).queue.filter (· ≠ id) }

/-- One owner fewer. -/
def dropArc (world : World) (lock : Nat) : World :=
  world.setCell lock { world.cells lock with strong := (world.cells lock).strong - 1 }

end World

/-! ## Actions -/

/-- Why a call gives up. -/
inductive Stop
  | cancelled
  | timedOut
  deriving DecidableEq

def Stop.error (backend : SecretBackendId) : Stop → SecretError
  | cancelled => .cancelled backend
  | timedOut => .timedOut backend

inductive Act : Type → Type
  | issue (call : Call) : Act Nat
  | isCancelled : Act Bool
  | getLock (reference : SecretReference) : Act Nat
  /-- The first poll of `lock.lock()`, unless the cancellation comes first. -/
  | enqueue (id lock : Nat) : Act (Option Stop)
  | acquire (id lock : Nat) : Act (Option Stop)
  /-- `spawn_blocking`. -/
  | dispatch (id : Nat) (call : Call) : Act Nat
  | join (job : Nat) : Act (Except Stop (Except StoreError Reply))
  | unlock (id lock : Nat) : Act Unit
  | finish (id : Nat) (lock : Option Nat) (result : Except SecretError Answer) : Act Unit
  | execute (job : Nat) : Act Unit

inductive Proc : Type → Type
  | request (asked : Request) : Proc Unit
  | worker (job : Nat) : Proc Unit

def Proc.isOutside {β : Type} : Proc β → Bool
  | .request _ => true
  | .worker _ => false

/-- What the scheduler, the caller and the system decide. -/
inductive Oracle
  | proceed
  | stop (reason : Stop)
  | refuse (reason : KeychainFault)

def Oracle.stopped : Oracle → Option Stop
  | stop reason => some reason
  | proceed | refuse _ => none

def Oracle.faulted : Oracle → Option KeychainFault
  | refuse reason => some reason
  | proceed | stop _ => none

def Act.exec (oracle : Oracle) (world : World) : {β : Type} → Act β →
    Option (β × World × List (Proc Unit))
  | _, issue call =>
      some (world.clock,
        { world with
          clock := world.clock + 1
          calls := world.calls.set world.clock { call, issued := world.clock } }, [])
  | _, isCancelled => some (oracle.stopped = some .cancelled, world, [])
  | _, getLock reference =>
      let world := { world with locks := world.liveLocks }
      match world.locks.find reference with
      | some lock =>
          let cell := world.cells lock
          some (lock, world.setCell lock { cell with strong := cell.strong + 1 }, [])
      | none =>
          let lock := world.nextLock
          some (lock,
            { world.setCell lock { strong := 1 } with
              locks := world.locks.set reference lock, nextLock := lock + 1 }, [])
  | _, enqueue id lock =>
      match oracle.stopped with
      | some .cancelled => some (some .cancelled, world, [])
      | _ =>
          let cell := world.cells lock
          let world := world.setCell lock { cell with queue := cell.queue ++ [id] }
          some (none, world.note id fun record => { record with queued := some world.clock }, [])
  | _, acquire id lock =>
      match oracle.stopped with
      | some stop => some (some stop, world.leave lock id, [])
      | none => if (world.cells lock).queue.head? = some id then some (none, world, []) else none
  | _, dispatch id call =>
      let job := world.nextJob
      some (job,
        { world with
          jobs := world.jobs.set job { id, call }, nextJob := job + 1 }, [.worker job])
  | _, join job =>
      match oracle.stopped with
      | some stop => some (.error stop, world, [])
      | none =>
          match (world.jobs.find job).bind (·.result) with
          | some result => some (.ok result, world, [])
          | none => none
  | _, unlock id lock => some ((), world.leave lock id, [])
  | _, finish id lock result =>
      let world := match lock with
        | some lock => world.dropArc lock
        | none => world
      some ((), world.note id fun record =>
        { record with returned := some (world.clock, result) }, [])
  | _, execute job =>
      match world.jobs.find job with
      | none => none
      | some found =>
          -- a job has one worker, which runs once
          if found.result.isSome then none
          else
            let done :=
              found.call.operation.execute (account found.call.reference) oracle.faulted
                world.keychain
            some ((),
              { world with
                keychain := done.2
                jobs := world.jobs.set job { found with result := some done.1 } }, [])

/-! ## Programs -/

abbrev Bro (α : Type) : Type 1 := Prog Act Proc α

def act {β : Type} (action : Act β) : Bro β := Prog.act action

/-- What `run` makes of the end of its wait. A put or delete that is given up
once it was dispatched is uncertain. -/
def outcome (call : Call) : Except Stop (Except StoreError Reply) → Except SecretError Answer
  | .ok reply => answer call.reference reply
  | .error stop =>
      if call.operation.isMutation then .error (.uncertainWrite call.reference.backendId)
      else .error (stop.error call.reference.backendId)

/-- The lock is there: `work` from then on. -/
def dispatched (id lock : Nat) (call : Call) : Bro (Except SecretError Answer) := do
  let job ← act (.dispatch id call)
  let joined ← act (.join job)
  act (.unlock id lock)
  return outcome call joined

/-- The `select!` of `run`. -/
def select (id lock : Nat) (call : Call) : Bro (Except SecretError Answer) := do
  match ← act (.enqueue id lock) with
  | some stop => return .error (stop.error call.reference.backendId)
  | none =>
      match ← act (.acquire id lock) with
      | some stop => return .error (stop.error call.reference.backendId)
      | none => dispatched id lock call

/-- `CredentialBroker::run`. -/
def run (call : Call) : Bro Unit := do
  let id ← act (.issue call)
  if ← act .isCancelled then
    act (.finish id none (.error (.cancelled call.reference.backendId)))
  else
    let lock ← act (.getLock call.reference)
    let result ← select id lock call
    act (.finish id (some lock) result)

def Proc.body (backends : Dict SecretBackendId Bool) {β : Type} : Proc β → Bro β
  | .request asked =>
      match asked.toCall backends with
      | .ok call => run call
      | .error _ => return ()
  | .worker job => act (.execute job)

def broker (backends : Dict SecretBackendId Bool) : Machine Act Proc World Oracle where
  exec act oracle world := act.exec oracle world
  body := Proc.body backends

/-- A broker over a keychain, before its first call. -/
def newBroker (keychain : Keychain) : Config Act Proc World := ⟨{ keychain }, []⟩

end YakShed.Secrets
