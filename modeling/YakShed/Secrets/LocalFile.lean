/-
# The local secret file

The backend that development builds keep secrets in one private file with. Its
functions are programs of file system calls; every one of them may fail, and the
caller may give up the operation at any time, which the flag that is polled says.

Locks are taken before anything is read, so the file belongs to one operation at a
time. How often a lock is found taken is up to the world, and so is whatever the
parent directories are like. A commit replaces the file or does nothing.
-/

import YakShed.Domain.Parsing
import YakShed.Faults.Program
import YakShed.Secrets.Dispatch
import Mathlib.Data.List.Infix

namespace YakShed.Secrets.LocalFile

open Faults

/-! ## The file system -/

/-- The components of an absolute path. -/
abbrev Path : Type := List String

def Path.display (path : Path) : String := "/" ++ "/".intercalate path

def Path.parent (path : Path) : Option Path := if path = [] then none else some path.dropLast

structure Metadata where
  isDir : Bool := false
  isFile : Bool := false
  mode : Nat := 0
  uid : Nat := 0
  dev : Nat := 0
  ino : Nat := 0
  len : Nat := 0
  deriving DecidableEq

/-- The calls of the backend. Those without a path are about the store's file, and
`opened…` and `writable…` about a descriptor of it. -/
inductive Call : Type → Type
  | spawned : Call Bool
  | cached : Call (Option Path)
  | cache (path : Path) : Call Unit
  | abandoned : Call Bool
  /-- How often the process lock is found taken before it is granted. -/
  | contention : Call Nat
  /-- The errors of `flock` before it succeeds. -/
  | flockErrors : Call (List IoErrorKind)
  | openLock (path : Path) : Call (Except IoErrorKind Unit)
  | dirExists (path : Path) : Call Bool
  | createDir (path : Path) : Call (Except IoErrorKind Unit)
  | setPermissions (path : Path) (mode : Nat) : Call (Except IoErrorKind Unit)
  | canonicalize (path : Path) : Call (Except IoErrorKind Path)
  | inspectDir (path : Path) : Call (Except IoErrorKind Metadata)
  | aclProblem (path : Path) (rejectDefaultAcl : Bool) : Call (Except IoErrorKind (Option String))
  | syncDirectory (path : Path) : Call (Except IoErrorKind Unit)
  | fileExists : Call Bool
  | inspectFile : Call (Except IoErrorKind Metadata)
  | openFile : Call (Except IoErrorKind Unit)
  | openedMetadata : Call (Except IoErrorKind Metadata)
  | readToEnd : Call (Except IoErrorKind Bytes)
  | openAtomic : Call (Except IoErrorKind Unit)
  | writeAtomic (bytes : Bytes) : Call (Except IoErrorKind Unit)
  /-- `AtomicWriteFile::commit` of what has been written. -/
  | commit (bytes : Bytes) : Call (Except IoErrorKind Unit)
  | openWritable : Call (Except IoErrorKind Unit)
  | writableMetadata : Call (Except IoErrorKind Metadata)
  | rewind : Call (Except IoErrorKind Unit)
  | writeZeros (offset count : Nat) : Call (Except IoErrorKind Unit)
  | syncWritable : Call (Except IoErrorKind Unit)
  | removeFile : Call (Except IoErrorKind Unit)

abbrev Io (α : Type) : Type 1 := Fallible Call IoErrorKind α

abbrev Action (α : Type) : Type 1 := Fallible Call SecretError α

/-! ## Errors -/

def backendFailure (backend : SecretBackendId) (message : String) : SecretError :=
  .backendFailure backend message

/-- `map_io_error`. -/
def mapIoError (backend : SecretBackendId) (message : String) : IoErrorKind → SecretError
  | .permissionDenied =>
      .denied backend (some "check local secret store ownership and permissions")
  | _ => backendFailure backend message

/-- `untrusted_component`. -/
def untrustedComponent (backend : SecretBackendId) (component : String) (path : Path)
    (check : String) : SecretError :=
  .denied backend (some ("untrusted " ++ component ++ " " ++ path.display ++ ": " ++ check))

inductive SecurityProblem
  | notRegular
  | permissions
  | owner
  | changed

def insecure (backend : SecretBackendId) (problem : SecurityProblem) : SecretError :=
  .denied backend (some (match problem with
    | .notRegular => "replace the local secret store with a private regular file"
    | .permissions => "remove group and other permissions from the local secret store"
    | .owner => "make the effective user the owner of the local secret store"
    | .changed => "retry after securing the replaced local secret store"))

inductive WriteStoreError
  | beforeCommit
  | uncertain

/-- `map_write_error`. -/
def mapWriteError (backend : SecretBackendId) : WriteStoreError → SecretError
  | .beforeCommit => backendFailure backend "failed to write local secret store"
  | .uncertain => .uncertainWrite backend

/-! ## The store's text -/

def formatVersion : Nat := 1

structure LocalFileStore where
  formatVersion : Nat
  backendId : SecretBackendId
  secrets : Dict String String

/-- `serde_json` on stores. -/
structure StoreFormat where
  toJson : LocalFileStore → Except String Bytes
  fromJson : Bytes → Option LocalFileStore

/-- A store that was written, with the line's end after it, reads as that store. -/
def StoreFormat.Lawful (format : StoreFormat) : Prop :=
  ∀ store json, format.toJson store = .ok json →
    ∃ read, format.fromJson (json ++ [10]) = some read ∧
      read.formatVersion = store.formatVersion ∧ read.backendId = store.backendId ∧
        ∀ locator, read.secrets.find locator = store.secrets.find locator

/-- The checks of `read_store` on what it has read. -/
def parseStore (format : StoreFormat) (backend : SecretBackendId) (bytes : Bytes) :
    Except SecretError LocalFileStore :=
  match format.fromJson bytes with
  | none => .error (backendFailure backend "invalid local secret store")
  | some store =>
      if store.formatVersion ≠ formatVersion then
        .error (.protocolViolation backend "unsupported local secret store format")
      else if store.backendId ≠ backend then
        .error (.protocolViolation backend "local secret store belongs to another backend")
      else .ok store

/-! ## Directories -/

/-- The directories that do not exist, from the nearest on. -/
def collectMissing : List Path → List Path → Io (List Path)
  | [], _ => throw .invalidInput
  | current :: rest, missing => do
      let present ← Fallible.ask (.dirExists current)
      if present then pure missing else collectMissing rest (missing ++ [current])

def createMissing : List Path → Io Unit
  | [] => pure ()
  | directory :: rest => do
      match ← Fallible.ask (.createDir directory) with
      | .ok () =>
          Fallible.attempt (.setPermissions directory 0o700)
          createMissing rest
      | .error .alreadyExists => createMissing rest
      | .error kind => throw kind

/-- `create_private_ancestors`. -/
def createPrivateAncestors (path : Path) : Io Unit :=
  match path.parent with
  | none => throw .invalidInput
  | some parent => do
      let missing ← collectMissing parent.inits.reverse []
      createMissing missing.reverse

/-- `canonical_store_path`. -/
def canonicalStorePath (path : Path) : Io Path := do
  createPrivateAncestors path
  match path.getLast? with
  | none => throw .invalidInput
  | some fileName => do
      let parent ← Fallible.attempt (.canonicalize path.dropLast)
      pure (parent ++ [fileName])

/-- `lock_path`. -/
def lockPath (path : Path) : Path := path.dropLast ++ [path.getLast?.getD "" ++ ".lock"]

/-! ## The backend -/

/-- `LocalFileState`, with the process's effective user and the format of the store. -/
structure LocalFileState where
  id : SecretBackendId
  configuredPath : Path
  effectiveUid : Nat
  format : StoreFormat

namespace LocalFileState

variable (state : LocalFileState)

/-- `validate_no_extended_acl`. -/
def validateNoExtendedAcl (path : Path) (rejectDefaultAcl : Bool) (component : String) :
    Action Unit := do
  let problem ← (Fallible.attempt (.aclProblem path rejectDefaultAcl)).mapError
    (mapIoError state.id "failed to inspect local secret store access controls")
  match problem with
  | some check => throw (untrustedComponent state.id component path check)
  | none => pure ()

/-- Metadata of a directory that has to be there. -/
def inspectDirectory (component message : String) (path : Path) : Action Metadata :=
  (Fallible.attempt (.inspectDir path)).mapError fun kind =>
    if kind = .notFound ∨ kind = .notADirectory then
      untrustedComponent state.id component path "not a directory"
    else mapIoError state.id message kind

/-- `validate_ancestor_chain`, on the ancestors from the root on. -/
def validateAncestors : List Path → Action Unit
  | [] => pure ()
  | ancestor :: rest => do
      let metadata ← state.inspectDirectory "ancestor"
        "failed to inspect local secret store ancestor" ancestor
      Fallible.throwIf (!metadata.isDir)
        (untrustedComponent state.id "ancestor" ancestor "not a directory")
      state.validateNoExtendedAcl ancestor false "ancestor"
      Fallible.throwIf (metadata.uid != 0 && metadata.uid != state.effectiveUid)
        (untrustedComponent state.id "ancestor" ancestor "foreign owner")
      Fallible.throwIf (metadata.mode &&& 0o022 != 0)
        (untrustedComponent state.id "ancestor" ancestor "group- or other-writable")
      validateAncestors rest

/-- `validate_parent`. -/
def validateParent (path : Path) : Action Unit :=
  match path.parent with
  | none => throw (untrustedComponent state.id "store parent" path "missing")
  | some parent => do
      let metadata ← state.inspectDirectory "store parent"
        "failed to inspect local secret store parent" parent
      Fallible.throwIf (!metadata.isDir)
        (untrustedComponent state.id "store parent" parent "not a directory")
      state.validateNoExtendedAcl parent true "store parent"
      Fallible.throwIf (metadata.uid != state.effectiveUid)
        (untrustedComponent state.id "store parent" parent "foreign owner")
      Fallible.throwIf (metadata.mode &&& 0o022 != 0)
        (untrustedComponent state.id "store parent" parent "group- or other-writable")
      state.validateAncestors parent.inits.dropLast

def initialized : Action Path := do
  match ← Fallible.ask .cached with
  | some path => pure path
  | none => do
      let path ← (canonicalStorePath state.configuredPath).mapError
        (mapIoError state.id "failed to initialize local secret store")
      state.validateParent path
      Fallible.ask (.cache path)
      pure path

/-! ## Reading -/

/-- The checks that the path's and the descriptor's metadata have in common. -/
def validateFile (metadata : Metadata) : Action Unit := do
  Fallible.throwIf (metadata.mode &&& 0o077 != 0) (insecure state.id .permissions)
  Fallible.throwIf (metadata.uid != state.effectiveUid) (insecure state.id .owner)

/-- `open_validated_store_if_present`: whether there is a file, which is then open. -/
def openValidatedStoreIfPresent (path : Path) : Action Bool := do
  match ← Fallible.ask .inspectFile with
  | .error .notFound => pure false
  | .error kind => throw (mapIoError state.id "failed to inspect local secret store" kind)
  | .ok metadata => do
      Fallible.throwIf (!metadata.isFile) (insecure state.id .notRegular)
      state.validateNoExtendedAcl path true "store"
      state.validateFile metadata
      (Fallible.attempt .openFile).mapError
        (mapIoError state.id "failed to open local secret store")
      let opened ← (Fallible.attempt .openedMetadata).mapError
        (mapIoError state.id "failed to inspect open local secret store")
      Fallible.throwIf (!opened.isFile) (insecure state.id .notRegular)
      state.validateFile opened
      Fallible.throwIf (opened.dev != metadata.dev || opened.ino != metadata.ino)
        (insecure state.id .changed)
      pure true

/-- `validate_store_if_present`. -/
def validateStoreIfPresent (path : Path) : Action Unit := do
  let _ ← state.openValidatedStoreIfPresent path
  pure ()

/-- `read_store`. -/
def load (path : Path) : Action LocalFileStore := do
  let present ← state.openValidatedStoreIfPresent path
  Fallible.throwIf (!present)
    (backendFailure state.id "local secret store disappeared before opening")
  let bytes ← (Fallible.attempt .readToEnd).mapError
    (mapIoError state.id "failed to read local secret store")
  match parseStore state.format state.id bytes with
  | .ok store => pure store
  | .error error => throw error

/-! ## Writing -/

/-- `write_store_with_hooks`. -/
def writeStoreWithHooks (path : Path) (store : LocalFileStore) :
    Fallible Call WriteStoreError Unit := do
  (Fallible.attempt .openAtomic).mapError fun _ => .beforeCommit
  match state.format.toJson store with
  | .error _ => throw .beforeCommit
  | .ok json => do
      (Fallible.attempt (.writeAtomic json)).mapError fun _ => .beforeCommit
      (Fallible.attempt (.writeAtomic [10])).mapError fun _ => .beforeCommit
      (Fallible.attempt (.commit (json ++ [10]))).mapError fun _ => .uncertain
      (Fallible.attempt (.syncDirectory path.dropLast)).mapError fun _ => .uncertain

/-- `write_store`. -/
def save (path : Path) (store : LocalFileStore) : Action Unit := do
  (state.writeStoreWithHooks path store).mapError (mapWriteError state.id)
  (state.validateStoreIfPresent path).mapError fun _ => .uncertainWrite state.id

/-- `claim_or_validate`. -/
def claimOrValidate (path : Path) : Action Unit := do
  match ← Fallible.ask .inspectFile with
  | .ok _ => do
      let _ ← state.load path
      pure ()
  | .error .notFound => state.save path ⟨formatVersion, state.id, ∅⟩
  | .error kind => throw (mapIoError state.id "failed to inspect local secret store" kind)

/-! ## Locks -/

def throwIfAbandoned (error : SecretError) : Action Unit := do
  let abandoned ← Fallible.ask .abandoned
  Fallible.throwIf abandoned error

/-- The loop of `with_process_lock`. -/
def waitForProcessLock : Nat → Action Unit
  | 0 => pure ()
  | taken + 1 => do
      throwIfAbandoned (.cancelled state.id)
      waitForProcessLock taken

/-- The loop of `lock_exclusive`. -/
def waitForFileLock : List IoErrorKind → Action Unit
  | [] => throwIfAbandoned (.cancelled state.id)
  | kind :: rest => do
      throwIfAbandoned (.cancelled state.id)
      if kind = .interrupted ∨ kind = .wouldBlock then waitForFileLock rest
      else throw (mapIoError state.id "failed to lock local secret store" kind)

/-- `lock_exclusive`. -/
def lockExclusive (path : Path) : Action Unit := do
  (Fallible.attempt (.openLock path)).mapError
    (mapIoError state.id "failed to open local secret store lock")
  let errors ← Fallible.ask .flockErrors
  state.waitForFileLock errors

/-- What an operation does before it touches the store: the locks and the checks of the parent. -/
def lock : Action Path := do
  let path ← state.initialized
  let taken ← Fallible.ask .contention
  state.waitForProcessLock taken
  state.validateParent path
  state.lockExclusive (lockPath path)
  state.validateParent path
  pure path

/-- `with_store_lock`. -/
def withStoreLock {α : Type} (action : Path → Action α) : Action α := do
  let path ← state.lock
  state.validateStoreIfPresent path
  throwIfAbandoned (.cancelled state.id)
  state.claimOrValidate path
  state.validateStoreIfPresent path
  action path

/-! ## Purging -/

/-- The sizes of the writes that cover a length. -/
def zeroCounts (len : Nat) : List Nat :=
  List.replicate (len / 4096) 4096 ++ if len % 4096 = 0 then [] else [len % 4096]

def overwrite : Nat → List Nat → Action Unit
  | _, [] => do
      let _ ← Fallible.ask .syncWritable
      pure ()
  | offset, count :: rest => do
      match ← Fallible.ask (.writeZeros offset count) with
      | .ok () => overwrite (offset + count) rest
      | .error _ => pure ()

def bestEffortZero : Action Unit := do
  match ← Fallible.ask .openWritable with
  | .error _ => pure ()
  | .ok () =>
      match ← Fallible.ask .writableMetadata with
      | .error _ => pure ()
      | .ok metadata =>
          if !metadata.isFile || metadata.uid != state.effectiveUid ||
              metadata.mode &&& 0o077 != 0 then pure ()
          else
            match ← Fallible.ask .rewind with
            | .error _ => pure ()
            | .ok () => overwrite 0 (zeroCounts metadata.len)

/-- `remove_file`: whether there was a file. -/
def removeStore : Action Bool := do
  match ← Fallible.ask .removeFile with
  | .ok () => pure true
  | .error .notFound => pure false
  | .error kind => throw (mapIoError state.id "failed to purge local secret store" kind)

/-- What `purge` does to a file that is present. -/
def zeroStore (path : Path) (validateContents present : Bool) : Action Unit :=
  if present then do
    if validateContents then discard (state.load path) else state.validateStoreIfPresent path
    state.bestEffortZero
  else pure ()

def purge (validateContents : Bool) : Action Unit := do
  let path ← state.lock
  throwIfAbandoned (.cancelled state.id)
  let present ← Fallible.ask .fileExists
  state.zeroStore path validateContents present
  let storeRemoved ← state.removeStore
  throwIfAbandoned (.uncertainWrite state.id)
  (Fallible.attempt (.syncDirectory path.dropLast)).mapError fun kind =>
    if storeRemoved then .uncertainWrite state.id
    else mapIoError state.id "failed to sync purged local secret store" kind

/-! ## Operations -/

def summary (locator : SecretLocator) : SecretReference := ⟨state.id, locator⟩

def put (locator : SecretLocator) (value : String) (overwrite : Bool) (path : Path) :
    Action PutSecretOutcome := do
  let store ← state.load path
  let existed := (store.secrets.find locator.value).isSome
  Fallible.throwIf (existed && !overwrite) (.alreadyExists (state.summary locator))
  throwIfAbandoned (.cancelled state.id)
  state.save path { store with secrets := store.secrets.set locator.value value }
  pure (if existed then .replaced else .written)

def delete (locator : SecretLocator) (path : Path) : Action DeleteSecretOutcome := do
  let store ← state.load path
  if (store.secrets.find locator.value).isNone then pure .notFound
  else
    throwIfAbandoned (.cancelled state.id)
    state.save path { store with secrets := store.secrets.remove locator.value }
    pure .deleted

def resolve (locator : SecretLocator) (path : Path) : Action String := do
  let store ← state.load path
  match store.secrets.find locator.value with
  | some value => pure value
  | none => throw (.notFound (state.summary locator))

def probe (path : Path) : Action Unit := do
  let _ ← state.load path
  pure ()

/-- The locators of the keys, or the error of the first that is none. -/
def toLocators (keys : List String) : Except SecretError (List SecretLocator) :=
  keys.mapM fun key =>
    (SecretLocator.new key).mapError fun _ =>
      .protocolViolation state.id "invalid locator in local secret store"

def locators (path : Path) : Action (List SecretLocator) := do
  let store ← state.load path
  match state.toLocators (store.secrets.toList.map (·.1)) with
  | .ok locators => pure (locators.mergeSort fun a b => a.value ≤ b.value)
  | .error error => throw error

end LocalFileState

/-- A call of the backend. -/
inductive Operation
  | put (locator : SecretLocator) (value : String) (overwrite : Bool)
  | delete (locator : SecretLocator)
  | resolve (locator : SecretLocator)
  | probe
  | locators
  | purge
  | purgeAfterMigration

/-- What a call returns. -/
inductive Returned
  | put (outcome : PutSecretOutcome)
  | deleted (outcome : DeleteSecretOutcome)
  | resolved (value : String)
  | available
  | locators (locators : List SecretLocator)
  | purged

namespace LocalFileState

variable (state : LocalFileState)

/-- What the worker of an operation does once it runs. -/
def work : Operation → Action Returned
  | .put locator value overwrite => do
      let outcome ← state.withStoreLock (state.put locator value overwrite)
      pure (.put outcome)
  | .delete locator => do
      let outcome ← state.withStoreLock (state.delete locator)
      pure (.deleted outcome)
  | .resolve locator => do
      let value ← state.withStoreLock (state.resolve locator)
      pure (.resolved value)
  | .probe => do
      state.withStoreLock state.probe
      pure .available
  | .locators => do
      let locators ← state.withStoreLock state.locators
      pure (.locators locators)
  | .purge => do
      state.purge true
      pure .purged
  | .purgeAfterMigration => do
      state.purge false
      pure .purged

/-- `run_abandonable`. A worker that could not be started has failed. -/
def runAbandonable (operation : Operation) : Action Returned := do
  let spawned ← Fallible.ask .spawned
  Fallible.throwIf (!spawned) (backendFailure state.id "local secret store worker failed")
  throwIfAbandoned (.cancelled state.id)
  state.work operation

end LocalFileState

/-! ## The world -/

/-- The store's file, and what the process knows. `overwritten` tells whether bytes
of the file have been overwritten in place. -/
structure World where
  file : Option Bytes := none
  overwritten : Bool := false
  abandoned : Bool := false
  cached : Option Path := none

namespace World

/-- Bytes from an offset on become zero. -/
def zero (world : World) (offset count : Nat) : World :=
  { world with
    file := world.file.map fun bytes =>
      bytes.take offset ++ List.replicate count 0 ++ bytes.drop (offset + count)
    overwritten := world.overwritten || count != 0 }

def replace (world : World) (file : Option Bytes) : World :=
  { world with file := file, overwritten := false }

end World

/-- The answers a call may have. A missing file is reported as missing and no other
is; the flag stays set; a write may stop anywhere. -/
def answers : Answers Call World := fun _ request world =>
  match request with
  | .cached => fun answer world' => answer = world.cached ∧ world' = world
  | .cache path => fun _ world' => world' = { world with cached := some path }
  | .abandoned => fun answer world' =>
      (world.abandoned → answer = true) ∧ world' = { world with abandoned := answer }
  | .fileExists => fun answer world' => (answer = true → world.file ≠ none) ∧ world' = world
  | .inspectFile => fun answer world' =>
      (answer = .error .notFound → world.file = none) ∧
        (∀ metadata, answer = .ok metadata → world.file ≠ none) ∧ world' = world
  | .readToEnd => fun answer world' =>
      (∀ bytes, answer = .ok bytes → world.file = some bytes) ∧ world' = world
  | .commit bytes => fun answer world' =>
      world' = world.replace (some bytes) ∨ (answer ≠ .ok () ∧ world' = world)
  | .writeZeros offset count => fun answer world' =>
      ∃ written ≤ count, (answer = .ok () → written = count) ∧ world' = world.zero offset written
  | .removeFile => fun answer world' =>
      match answer with
      | .ok () => world.file ≠ none ∧ world' = world.replace none
      | .error .notFound => world.file = none ∧ world' = world
      | .error _ => world' = world
  | _ => fun _ world' => world' = world

end YakShed.Secrets.LocalFile
