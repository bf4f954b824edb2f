/-
# The artifact store

Blobs under their SHA-256 digest. A blob that turns out corrupt is replaced by a
protocol of renames, whose state on disk is the `.old` file beside it. Everything that
is done to the files of one digest is done under that digest's lock; so it is one
program here, of file system calls each of which may fail, and the operations are
programs of such programs.

A call that fails may still have had its effect. The names in a directory are durable
from the directory's next `fsync` on; until then a power loss may bring back any of the
states since the last one.
-/

import YakShed.Faults.Pool
import YakShed.Store.Timeline

namespace YakShed.Artifacts

open Faults

/-! ## The files of a digest -/

structure ContentDigest where
  text : String
  deriving DecidableEq

/-- `digest_from_hasher` of all that was hashed. Its check of the text never fails. -/
def digestOf [Sha256] (content : Bytes) : ContentDigest :=
  ⟨hexEncode (Sha256.digest content)⟩

/-- A file: its inode, what is in it and when that was modified. -/
structure Blob where
  inode : Nat
  content : Bytes
  modified : Nat
  deriving DecidableEq

inductive Entry
  | canonical
  | sidecar

/-- The entries of a digest in its shard's directory. -/
structure Files where
  canonical : Option Blob := none
  sidecar : Option Blob := none
  deriving DecidableEq

namespace Files

def get (files : Files) : Entry → Option Blob
  | .canonical => files.canonical
  | .sidecar => files.sidecar

def put (files : Files) (blob : Option Blob) : Entry → Files
  | .canonical => { files with canonical := blob }
  | .sidecar => { files with sidecar := blob }

def rename (files : Files) (source target : Entry) : Files :=
  (files.put none source).put (files.get source) target

/-- The file of an inode is modified at a time. -/
def touch (files : Files) (inode time : Nat) : Files :=
  let touched (blob : Blob) : Blob :=
    if blob.inode = inode then { blob with modified := time } else blob
  ⟨files.canonical.map touched, files.sidecar.map touched⟩

end Files

/-- What the holder of a digest's lock works on: the digest's files, the earlier states
that a power loss may bring back, and the clock. -/
structure Shelf where
  files : Files := {}
  behind : List Files := []
  clock : Nat := 0
  deriving DecidableEq

namespace Shelf

def become (shelf : Shelf) (files : Files) : Shelf :=
  { shelf with files, behind := shelf.files :: shelf.behind }

def touch (shelf : Shelf) (inode time : Nat) : Shelf :=
  { shelf with
    files := shelf.files.touch inode time
    behind := shelf.behind.map (·.touch inode time) }

end Shelf

/-! ## File system calls -/

/-- The calls made under the lock of a digest. `staged` is the caller's file in the
staging directory. -/
inductive Call : Type → Type
  | exists (entry : Entry) : Call (Except IoErrorKind Bool)
  | rename (source target : Entry) : Call (Except IoErrorKind Unit)
  /-- The rename of the staged file to the canonical one. -/
  | promote (staged : Blob) : Call (Except IoErrorKind Unit)
  | remove (entry : Entry) : Call (Except IoErrorKind Unit)
  | removeStaged : Call (Except IoErrorKind Unit)
  | setPermissions : Call (Except IoErrorKind Unit)
  | createShard : Call (Except IoErrorKind Unit)
  | syncShard : Call (Except IoErrorKind Unit)
  | syncRoot : Call (Except IoErrorKind Unit)
  /-- The canonical file is opened; the answer is what is in it. -/
  | openFile : Call (Except IoErrorKind Bytes)
  | readToEnd (content : Bytes) : Call (Except IoErrorKind Bytes)
  | modified : Call (Except IoErrorKind Nat)
  | openWritable : Call (Except IoErrorKind Unit)
  | now : Call Nat
  | setModified (time : Nat) : Call (Except IoErrorKind Unit)
  | syncFile : Call (Except IoErrorKind Unit)
  /-- How many names in the quarantine are found taken. -/
  | quarantineTaken : Call Nat
  | probeQuarantine : Call (Except IoErrorKind Unit)
  | linkQuarantine : Call (Except IoErrorKind Unit)
  | syncQuarantine : Call (Except IoErrorKind Unit)

/-- A call that changes something, where that is possible. -/
def Changes (possible : Prop) (after shelf : Shelf) (answer : Except IoErrorKind Unit)
    (shelf' : Shelf) : Prop :=
  match answer with
  | .ok () => possible ∧ shelf' = after
  | .error _ => shelf' = shelf ∨ possible ∧ shelf' = after

/-- A call that looks at something. -/
def Looks {α : Type} (shelf : Shelf) (answer : Except IoErrorKind α) (shelf' : Shelf)
    (found : α → Prop) : Prop :=
  shelf' = shelf ∧ ∀ value, answer = .ok value → found value

/-- The answers of the file system. -/
def answers : Answers Call Shelf := fun _ request shelf answer shelf' =>
  match request with
  | .exists entry =>
      Looks shelf answer shelf' fun found => found = (shelf.files.get entry).isSome
  | .rename source target =>
      Changes (shelf.files.get source).isSome
        (shelf.become (shelf.files.rename source target)) shelf answer shelf'
  | .promote staged =>
      Changes True (shelf.become (shelf.files.put (some staged) .canonical)) shelf answer shelf'
  | .remove entry =>
      Changes (shelf.files.get entry).isSome (shelf.become (shelf.files.put none entry)) shelf
        answer shelf'
  | .syncShard => Changes True { shelf with behind := [] } shelf answer shelf'
  | .openFile =>
      Looks shelf answer shelf' fun content =>
        ∃ blob, shelf.files.canonical = some blob ∧ content = blob.content
  | .readToEnd content => Looks shelf answer shelf' fun bytes => bytes = content
  | .modified =>
      Looks shelf answer shelf' fun time =>
        ∃ blob, shelf.files.canonical = some blob ∧ time = blob.modified
  | .openWritable => Looks shelf answer shelf' fun _ => shelf.files.canonical.isSome
  | .setModified time =>
      match shelf.files.canonical with
      | some blob => Changes True (shelf.touch blob.inode time) shelf answer shelf'
      | none => shelf' = shelf
  | .now => shelf.clock ≤ answer ∧ shelf' = { shelf with clock := answer }
  | .quarantineTaken => shelf' = shelf
  | .removeStaged | .setPermissions | .createShard | .syncRoot | .syncFile | .probeQuarantine
  | .linkQuarantine | .syncQuarantine => shelf' = shelf

/-! ## Errors -/

inductive ArtifactError
  | tooLarge (maxSize : Nat)
  | digestMismatch (expected actual : ContentDigest)
  | notFound (digest : ContentDigest)
  | boundExceeded (byteLen maxBytes : Nat)
  | invalidInput (message : String)
  | repairRollback (repair rollback : ArtifactError)
  | io (kind : IoErrorKind)

abbrev Action (α : Type) : Type 1 := Fallible Call ArtifactError α

variable {α : Type}

/-- A file system call whose error is returned. -/
def io (request : Call (Except IoErrorKind α)) : Action α :=
  (Fallible.attempt request).mapError .io

/-! ## Under the lock of a digest -/

/-- `create_directory_durable` of the digest's shard. -/
def createShardDurable : Action Unit := do
  io .createShard
  io .setPermissions
  io .syncRoot

def refreshLease : Action Unit := do
  io .openWritable
  let time ← Fallible.ask .now
  io (.setModified time)
  io .syncFile

def reconcileRepairSidecar : Action Unit := do
  let sidecar ← io (.exists .sidecar)
  if sidecar then
    let canonical ← io (.exists .canonical)
    if canonical then
      io (.remove .sidecar)
    else
      io (.rename .sidecar .canonical)
      io .setPermissions
    io .syncShard

/-- The rollback that `rollback_repair_error` tries. -/
def rollback : Action Unit := do
  reconcileRepairSidecar
  let canonical ← io (.exists .canonical)
  if canonical then pure () else throw (.io .notFound)

/-- `rollback_repair_error`, and the return of its error. -/
def rollbackRepairError (repair : ArtifactError) : Action Unit := do
  rollback.mapError fun rollback => .repairRollback repair rollback
  throw repair

def finishPromotion : Action Unit := do
  io .setPermissions
  io .syncShard
  io .syncRoot

def promoteStaging (staged : Blob) : Action Unit := do
  io (.promote staged)
  finishPromotion

def promoteRepairStaging (staged : Blob) : Action Unit := do
  io (.rename .canonical .sidecar)
  (io .syncShard).handle rollbackRepairError
  (io (.promote staged)).handle rollbackRepairError
  finishPromotion
  io (.remove .sidecar)
  io .syncShard

/-- The search for a free name in the quarantine, and the link under it. -/
def linkQuarantine : Nat → Action Unit
  | 0 => do
      io .probeQuarantine
      io .linkQuarantine
      io .syncQuarantine
  | taken + 1 => do
      io .probeQuarantine
      linkQuarantine taken

def quarantineCorrupt : Action Unit := do
  refreshLease
  let taken ← Fallible.ask .quarantineTaken
  linkQuarantine taken

def replaceCorruptBlob (staged : Blob) : Action Unit := do
  quarantineCorrupt
  promoteRepairStaging staged

variable [Sha256]

/-- `open_file`. -/
def openFile (digest : ContentDigest) : Action Bytes := do
  match ← Fallible.ask .openFile with
  | .ok content => pure content
  | .error .notFound => throw (.notFound digest)
  | .error kind => throw (.io kind)

def verifyFile (expected : ContentDigest) : Action Unit := do
  let content ← openFile expected
  let bytes ← io (.readToEnd content)
  if digestOf bytes ≠ expected then throw (.digestMismatch expected (digestOf bytes))

/-- Whether `verify_file` finds the digest's file corrupt. Its other errors are returned. -/
def isCorrupt (digest : ContentDigest) : Action Bool :=
  (do verifyFile digest; pure false).handle fun
    | .digestMismatch _ _ => pure true
    | error => throw error

/-- `publish` under the lock. -/
def publishStaged (digest : ContentDigest) (staged : Blob) : Action Unit := do
  createShardDurable
  let found ← io (.exists .canonical)
  if found then
    let corrupt ← isCorrupt digest
    if corrupt then replaceCorruptBlob staged else io .removeStaged
  else promoteStaging staged
  refreshLease

/-- `open` under the lock. What is opened can be read after it. -/
def openBounded (digest : ContentDigest) (maxBytes : Nat) : Action Bytes := do
  reconcileRepairSidecar
  let content ← openFile digest
  if maxBytes < content.length then throw (.boundExceeded content.length maxBytes)
  pure (content.take maxBytes)

/-- `verify` under the lock. -/
def verifyReconciled (expected : ContentDigest) : Action Unit := do
  reconcileRepairSidecar
  verifyFile expected

/-- What `collect_unreferenced` does with one unreferenced blob, at the time it read
before it looked for blobs. -/
def collectOne (now grace : Nat) : Action Bool := do
  match ← Fallible.ask .modified with
  | .error .notFound => pure false
  | .error kind => throw (.io kind)
  | .ok modified =>
      if modified ≤ now ∧ grace ≤ now - modified then
        io (.remove .canonical)
        pure true
      else pure false

/-! ## Sections -/

/-- What is done under a digest's lock. -/
inductive Section : Type → Type
  | publish (digest : ContentDigest) (staged : Blob) : Section (Except ArtifactError Unit)
  | open (digest : ContentDigest) (maxBytes : Nat) : Section (Except ArtifactError Bytes)
  | verify (digest : ContentDigest) : Section (Except ArtifactError Unit)
  | reconcile (digest : ContentDigest) : Section (Except ArtifactError Unit)
  | collect (digest : ContentDigest) (referenced : List ContentDigest) (now grace : Nat) :
      Section (Except ArtifactError Bool)

namespace Section

variable {β : Type}

omit [Sha256] in
def digest : Section β → ContentDigest
  | publish digest _ | .open digest _ | verify digest | reconcile digest
  | collect digest _ _ _ => digest

def program : Section β → Prog Call β
  | publish digest staged => (publishStaged digest staged).run
  | .open digest maxBytes => (openBounded digest maxBytes).run
  | verify digest => (verifyReconciled digest).run
  | reconcile _ => reconcileRepairSidecar.run
  | collect _ _ now grace => (collectOne now grace).run

end Section

/-! ## The store -/

/-- What has happened to the blobs. -/
inductive Event
  /-- A `publish` returned, with the lease it took; its names are all durable or not. -/
  | published (digest : ContentDigest) (lease : Nat) (durable : Bool)
  /-- A blob was removed by a collection that began at `now`. -/
  | removed (digest : ContentDigest) (blob : Blob) (referenced : List ContentDigest)
      (now grace : Nat)
  | powerLost

/-- The files of every digest, the clock, and what happened, newest first. -/
structure World where
  files : ContentDigest → Files := fun _ => {}
  behind : ContentDigest → List Files := fun _ => []
  clock : Nat := 0
  events : List Event := []

namespace World

def shelf (world : World) (digest : ContentDigest) : Shelf :=
  ⟨world.files digest, world.behind digest, world.clock⟩

/-- The world after a section on a digest, with what it is noted for. -/
def shelve (world : World) (digest : ContentDigest) (shelf : Shelf) (noted : List Event) :
    World where
  files := Function.update world.files digest shelf.files
  behind := Function.update world.behind digest shelf.behind
  clock := shelf.clock
  events := noted ++ world.events

end World

/-- What a section that took a shelf from one state to another is noted for. -/
def Section.noted {β : Type} (before after : Shelf) : Section β → Option β → List Event
  | .publish digest _, some (.ok ()) => [.published digest after.clock after.behind.isEmpty]
  | .collect digest referenced now grace, _ =>
      match before.files.canonical, after.files.canonical with
      | some blob, none => [.removed digest blob referenced now grace]
      | _, _ => []
  | _, _ => []

/-- The calls of the operations: sections, and what is done without a lock. -/
inductive StoreCall : Type → Type 1
  | underLock {β : Type} (work : Section β) : StoreCall β
  | now : StoreCall Nat
  | dataRootIsDir : StoreCall (Except IoErrorKind Bool)
  /-- `create_directory_durable` of one of the store's own directories. -/
  | createDirectory (name : String) : StoreCall (Except IoErrorKind Unit)
  | canonicalize : StoreCall (Except IoErrorKind Unit)
  /-- The digests that have a sidecar; an entry may turn out unreadable. -/
  | listSidecars : StoreCall (Except IoErrorKind (List (Except IoErrorKind ContentDigest)))
  | listBlobs : StoreCall (Except IoErrorKind (List (Except IoErrorKind ContentDigest)))
  /-- `create_staging_file`, under a name that is not taken; the answer is its inode. -/
  | createStaging : StoreCall (Except IoErrorKind Nat)
  | writeStaging (bytes : Bytes) : StoreCall (Except IoErrorKind Unit)
  | flushStaging : StoreCall (Except IoErrorKind Unit)
  | syncStaging : StoreCall (Except IoErrorKind Unit)
  | stagingModified : StoreCall Nat
  | removeStaging : StoreCall (Except IoErrorKind Unit)
  /-- The old files of the staging and quarantine directories are removed and counted. -/
  | collectDebris (now grace : Nat) : StoreCall (Except IoErrorKind Nat)

/-- A call that leaves the blobs alone takes time. -/
def World.Elapses (world world' : World) : Prop :=
  ∃ clock, world.clock ≤ clock ∧ world' = { world with clock }

/-- The answers to the operations. -/
def storeAnswers : Answers StoreCall World := fun _ request world answer world' =>
  match request with
  | .underLock work =>
      ∃ shelf, Runs answers work.program (world.shelf work.digest) (some answer) shelf ∧
        world' = world.shelve work.digest shelf
          (work.noted (world.shelf work.digest) shelf (some answer))
  | .now => world.clock ≤ answer ∧ world' = { world with clock := answer }
  | .listSidecars =>
      world.Elapses world' ∧ ∀ listed, answer = .ok listed →
        ∀ digest, (world.files digest).sidecar.isSome → .ok digest ∈ listed
  | _ => world.Elapses world'

/-- What a section may leave that is cut off. -/
def storeInterrupts : ∀ β : Type, StoreCall β → World → World → Prop :=
  fun _ request world world' =>
  match request with
  | .underLock work =>
      ∃ shelf, Runs answers work.program (world.shelf work.digest) none shelf ∧
        world' = world.shelve work.digest shelf (work.noted (world.shelf work.digest) shelf none)
  | _ => world.Elapses world'

/-- Every directory falls back to a state since its last `fsync`. -/
def powerLoss (world world' : World) : Prop :=
  (∀ digest, world'.files digest ∈ world.files digest :: world.behind digest) ∧
    (∀ digest, world'.behind digest = []) ∧ world'.clock = world.clock ∧
    world'.events = .powerLost :: world.events

/-! ## Operations -/

abbrev Operation (α : Type) : Type 1 := Fallible StoreCall ArtifactError α

def storeIo (request : StoreCall (Except IoErrorKind α)) : Operation α :=
  (Fallible.attempt request).mapError .io

/-- A section whose error is returned. -/
def locked (work : Section (Except ArtifactError α)) : Operation α :=
  Fallible.attempt (.underLock work)

/-- `recover_repair_sidecars` on what the directories list. -/
def recoverRepairSidecars : List (Except IoErrorKind ContentDigest) → Operation Unit
  | [] => pure ()
  | .error kind :: _ => throw (.io kind)
  | .ok digest :: rest => do
      locked (.reconcile digest)
      recoverRepairSidecars rest

/-- `with_clock`. -/
def withClock : Operation Unit := do
  let isDir ← storeIo .dataRootIsDir
  if !isDir then throw (.invalidInput "artifact data root must be an existing directory")
  storeIo (.createDirectory "artifacts")
  storeIo (.createDirectory "sha256")
  storeIo (.createDirectory "staging")
  storeIo (.createDirectory "quarantine")
  storeIo .canonicalize
  let listed ← storeIo .listSidecars
  recoverRepairSidecars listed

/-- `ArtifactMetadata`, of which only the media type is looked at. -/
structure ArtifactMetadata (M : Type) where
  mediaType : String
  rest : M

structure ArtifactRecord (M : Type) where
  metadata : ArtifactMetadata M
  digest : ContentDigest
  byteLen : Nat

/-- The copy of a source into the staging file. Each read gives some bytes, none at the
end, or an error. -/
def copySource (maxSize : Nat) : List (Except IoErrorKind Bytes) → Bytes → Operation Bytes
  | [], content => pure content
  | .error kind :: _, _ => throw (.io kind)
  | .ok bytes :: reads, content =>
      if bytes = [] then pure content
      else if maxSize < content.length + bytes.length then do
        storeIo .removeStaging
        throw (.tooLarge maxSize)
      else do
        storeIo (.writeStaging bytes)
        copySource maxSize reads (content ++ bytes)

def publish {M : Type} (maxSize : Nat) (source : List (Except IoErrorKind Bytes))
    (metadata : ArtifactMetadata M) : Operation (ArtifactRecord M) := do
  if trimIsEmpty metadata.mediaType then
    throw (.invalidInput "artifact media type cannot be empty")
  let inode ← storeIo .createStaging
  let content ← copySource maxSize source []
  storeIo .flushStaging
  storeIo .syncStaging
  let modified ← Fallible.ask .stagingModified
  locked (.publish (digestOf content) ⟨inode, content, modified⟩)
  pure ⟨metadata, digestOf content, content.length⟩

/-- `open`. -/
def openArtifact (digest : ContentDigest) (maxBytes : Nat) : Operation Bytes :=
  locked (.open digest maxBytes)

def verify (digest : ContentDigest) : Operation Unit := locked (.verify digest)

/-- The loop of `collect_unreferenced`. -/
def collectEach (referenced : List ContentDigest) (now grace : Nat) :
    List (Except IoErrorKind ContentDigest) → Nat → Operation Nat
  | [], removed => pure removed
  | .error kind :: _, _ => throw (.io kind)
  | .ok digest :: rest, removed =>
      if digest ∈ referenced then collectEach referenced now grace rest removed
      else do
        let gone ← locked (.collect digest referenced now grace)
        collectEach referenced now grace rest (if gone then removed + 1 else removed)

def collectUnreferenced (referenced : List ContentDigest) (grace : Nat) : Operation Nat := do
  let now ← Fallible.ask .now
  let debris ← storeIo (.collectDebris now grace)
  let listed ← storeIo .listBlobs
  collectEach referenced now grace listed debris

/-- An operation as a program of its own, whose result goes to its caller. -/
def Operation.start (operation : Operation α) : Prog StoreCall Unit :=
  operation.run.bind fun _ => .done ()

/-- What callers start: the operations, by however many stores over one root. -/
inductive Started : Prog StoreCall Unit → Prop
  | withClock : Started withClock.start
  | publish {M : Type} (maxSize : Nat) (source : List (Except IoErrorKind Bytes))
      (metadata : ArtifactMetadata M) : Started (publish maxSize source metadata).start
  | open (digest : ContentDigest) (maxBytes : Nat) : Started (openArtifact digest maxBytes).start
  | verify (digest : ContentDigest) : Started (verify digest).start
  | collect (referenced : List ContentDigest) (grace : Nat) :
      Started (collectUnreferenced referenced grace).start

/-- The store at work: any number of operations side by side, a thread or the process
lost at any point, and power losses. -/
def surroundings : Surroundings StoreCall World where
  answers := storeAnswers
  interrupts := storeInterrupts
  fails := powerLoss
  starts := Started

end YakShed.Artifacts
