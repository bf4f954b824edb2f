/-
# Crash safety of the artifact store

Any number of operations run side by side on one store. Any of their calls may fail,
any of them may be lost at any point, and so may the power. A blob that a `publish`
returned is there, with its content and its lease, until a collection removes it, and
that removes only what is unreferenced and whose lease has run out. What is in the
middle of a repair is still there afterwards, and the next start puts it back.

A lease is a time of the clock, which is taken never to go back.
-/

import YakShed.Store.ArtifactRecovery
import YakShed.Store.Digest

namespace YakShed.Artifacts

open Faults

section Soundness

variable [Sha256]

/-! ## What was promised -/

omit [Sha256] in
/-- By what has happened the blob of a digest is owed to a `publish` with a lease.
`lasting` asks for what a power loss cannot take away. -/
def Held (digest : ContentDigest) (lease : Nat) : Bool → List Event → Prop
  | _, [] => False
  | lasting, .published published taken durable :: older =>
      published = digest ∧ taken = lease ∧ (lasting → durable) ∨ Held digest lease lasting older
  | lasting, .removed removed _ _ _ _ :: older =>
      removed ≠ digest ∧ Held digest lease lasting older
  | _, .powerLost :: older => Held digest lease true older

omit [Sha256] in
/-- A removal was allowed by what had happened before it: the blob was unreferenced, it was
old enough, and so was the lease of every `publish` that it was owed to. -/
def Allowed (digest : ContentDigest) (blob : Blob) (referenced : List ContentDigest)
    (now grace : Nat) (older : List Event) : Prop :=
  digest ∉ referenced ∧ blob.modified + grace ≤ now ∧
    ∀ lease, Held digest lease false older → lease + grace ≤ now

/-- What holds of the store in every run. -/
structure Sound (world : World) : Prop where
  held : ∀ digest lease, Held digest lease false world.events →
    lease ≤ world.clock ∧ (world.files digest).Holds digest lease
  lasting : ∀ digest lease, Held digest lease true world.events →
    lease ≤ world.clock ∧ ∀ files ∈ (world.shelf digest).states, files.Holds digest lease
  allowed : ∀ newer older digest blob referenced now grace,
    world.events = newer ++ .removed digest blob referenced now grace :: older →
      Allowed digest blob referenced now grace older

/-! ## Sections in the store -/

/-- What the operations see to before they begin a section. -/
def Section.Legal {β : Type} : Section β → Prop
  | .publish digest staged => digestOf staged.content = digest
  | .collect digest referenced _ _ => digest ∉ referenced
  | _ => True

/-- What a section does, whether it ends or is cut off. -/
def Section.Effect {β : Type} (start : Shelf) (result : Option β) (shelf : Shelf) :
    Section β → Prop
  | .publish digest _ =>
      Keeps digest start shelf ∧ (result = some (.ok ()) → Published digest start shelf)
  | .open digest _ | .verify digest | .reconcile digest => Keeps digest start shelf
  | .collect _ _ now grace => shelf = start ∨ Collected now grace start shelf

theorem Section.effect {β : Type} {work : Section β} (hlegal : work.Legal) {start shelf : Shelf}
    {result : Option β} (run : Runs answers work.program start result shelf) :
    work.Effect start result shelf := by
  cases work with
  | publish digest staged =>
      obtain ⟨hkeeps, hpost⟩ := (publishStaged_upholds hlegal start).runs run
      exact ⟨hkeeps, hpost _⟩
  | «open» digest maxBytes => exact ((openBounded_upholds maxBytes start).runs run).1
  | verify digest => exact ((verifyReconciled_upholds start).runs run).1
  | reconcile digest => exact ((reconcile_upholds start).runs run).1
  | collect digest referenced now grace => exact ((collectOne_upholds now grace start).runs run).1

section Shelves

omit [Sha256]

variable (world : World) (digest : ContentDigest) (shelf : Shelf) (noted : List Event)

theorem World.shelf_shelve : (world.shelve digest shelf noted).shelf digest = shelf := by
  unfold World.shelve World.shelf
  dsimp only
  rw [Function.update_self, Function.update_self]

theorem World.shelf_shelve_of_ne {other : ContentDigest} (h : other ≠ digest) :
    (world.shelve digest shelf noted).shelf other =
      { world.shelf other with clock := shelf.clock } := by
  unfold World.shelve World.shelf
  dsimp only
  rw [Function.update_of_ne h, Function.update_of_ne h]

theorem World.files_shelve_of_ne {other : ContentDigest} (h : other ≠ digest) :
    (world.shelve digest shelf noted).files other = world.files other := by
  unfold World.shelve
  exact Function.update_of_ne h shelf.files world.files

end Shelves

variable {world world' : World}

/-- What loses nothing of any digest keeps every promise. -/
theorem Sound.moved (h : Sound world) (hevents : world'.events = world.events)
    (hclock : world.clock ≤ world'.clock)
    (hkeeps : ∀ digest, Keeps digest (world.shelf digest) (world'.shelf digest)) :
    Sound world' where
  held := by
    intro digest lease hheld
    rw [hevents] at hheld
    obtain ⟨hlease, hholds⟩ := h.held digest lease hheld
    exact ⟨hlease.trans hclock, (hkeeps digest).holds lease hlease hholds⟩
  lasting := by
    intro digest lease hheld
    rw [hevents] at hheld
    obtain ⟨hlease, hholds⟩ := h.lasting digest lease hheld
    exact ⟨hlease.trans hclock, (hkeeps digest).allHold lease hlease hholds⟩
  allowed := by
    rw [hevents]
    exact h.allowed

theorem Keeps.shelve {digest : ContentDigest} {shelf : Shelf}
    (h : Keeps digest (world.shelf digest) shelf) (noted : List Event) (other : ContentDigest) :
    Keeps other (world.shelf other) ((world.shelve digest shelf noted).shelf other) := by
  by_cases hother : other = digest
  · rw [hother, World.shelf_shelve]
    exact h
  · rw [World.shelf_shelve_of_ne _ _ _ _ hother]
    exact Keeps.now h.clock

/-- A new promise that is kept already. -/
theorem Sound.published (h : Sound world) {digest : ContentDigest} {durable : Bool}
    (hholds : (world.files digest).Holds digest world.clock)
    (hdurable : durable = true → world.behind digest = []) :
    Sound { world with events := .published digest world.clock durable :: world.events } where
  held := by
    rintro other lease (⟨rfl, rfl, -⟩ | hheld)
    · exact ⟨le_rfl, hholds⟩
    · exact h.held other lease hheld
  lasting := by
    rintro other lease (⟨rfl, rfl, hlasting⟩ | hheld)
    · refine ⟨le_rfl, ?_⟩
      intro files hmem
      change files ∈ world.files digest :: world.behind digest at hmem
      rw [hdurable (hlasting rfl)] at hmem
      obtain rfl := List.mem_singleton.mp hmem
      exact hholds
    · exact h.lasting other lease hheld
  allowed := by
    intro newer older other blob referenced now grace hevents
    cases newer with
    | nil => cases hevents
    | cons event newer => exact h.allowed _ _ _ _ _ _ _ (List.cons.inj hevents).2

omit [Sha256] in
/-- What is owed after a removal is owed to other digests' publishes. -/
theorem Held.of_removed {digest removed : ContentDigest} {lease : Nat} {lasting : Bool}
    {blob : Blob} {referenced : List ContentDigest} {now grace : Nat} {older : List Event}
    (h : Held digest lease lasting (.removed removed blob referenced now grace :: older)) :
    digest ≠ removed ∧ Held digest lease lasting older := ⟨h.1.symm, h.2⟩

theorem Sound.collected (h : Sound world) {digest : ContentDigest} {referenced : List ContentDigest}
    {now grace : Nat} {blob : Blob} (hlegal : digest ∉ referenced)
    (hblob : (world.files digest).canonical = some blob) (hold : blob.modified ≤ now)
    (hgrace : grace ≤ now - blob.modified) :
    Sound (world.shelve digest
      ((world.shelf digest).become ((world.files digest).put none .canonical))
      [.removed digest blob referenced now grace]) where
  held := by
    intro other lease hheld
    obtain ⟨hother, hheld⟩ := hheld.of_removed
    obtain ⟨hlease, hholds⟩ := h.held other lease hheld
    refine ⟨hlease, ?_⟩
    rw [World.files_shelve_of_ne _ _ _ _ hother]
    exact hholds
  lasting := by
    intro other lease hheld
    obtain ⟨hother, hheld⟩ := hheld.of_removed
    rw [World.shelf_shelve_of_ne _ _ _ _ hother]
    exact h.lasting other lease hheld
  allowed := by
    intro newer older other blob' referenced' now' grace' hevents
    cases newer with
    | nil =>
        cases hevents
        refine ⟨hlegal, by omega, ?_⟩
        intro lease hheld
        obtain ⟨-, held, hheld, -, hlease⟩ := h.held digest lease hheld
        obtain rfl := Option.some.inj (hblob.symm.trans hheld)
        omega
    | cons event newer => exact h.allowed _ _ _ _ _ _ _ (List.cons.inj hevents).2

section Notes

omit [Sha256]

variable {digest : ContentDigest} {referenced : List ContentDigest} {now grace : Nat}
  {start : Shelf}

theorem noted_collect_self (result : Option (Except ArtifactError Bool)) :
    (Section.collect digest referenced now grace).noted start start result = [] := by
  unfold Section.noted
  dsimp only
  cases start.files.canonical with
  | none => rfl
  | some blob => rfl

theorem noted_collect_removed {blob : Blob} (h : start.files.canonical = some blob)
    (result : Option (Except ArtifactError Bool)) :
    (Section.collect digest referenced now grace).noted start
      (start.become (start.files.put none .canonical)) result =
      [.removed digest blob referenced now grace] := by
  unfold Section.noted
  dsimp only
  rw [h]
  rfl

end Notes

/-- A section keeps the store sound, whether it ends or is cut off. -/
theorem Sound.section {β : Type} {work : Section β} (h : Sound world) (hlegal : work.Legal)
    {result : Option β} {shelf : Shelf}
    (heffect : work.Effect (world.shelf work.digest) result shelf) :
    Sound (world.shelve work.digest shelf (work.noted (world.shelf work.digest) shelf result)) := by
  have hquiet : Keeps work.digest (world.shelf work.digest) shelf →
      Sound (world.shelve work.digest shelf []) := fun hkeeps =>
    h.moved rfl hkeeps.clock (hkeeps.shelve [])
  cases work with
  | publish digest staged =>
      obtain ⟨hkeeps, hpublished⟩ := heffect
      cases result with
      | none => exact hquiet hkeeps
      | some result =>
          cases result with
          | error error => exact hquiet hkeeps
          | ok _ =>
              have hpublished := hpublished rfl
              have hshelf := World.shelf_shelve world digest shelf []
              apply (hquiet hkeeps).published
              · change ((world.shelve digest shelf []).shelf digest).files.Holds digest shelf.clock
                rw [hshelf]
                exact hpublished.lease
              · intro hempty
                change ((world.shelve digest shelf []).shelf digest).behind = []
                rw [hshelf]
                exact List.isEmpty_iff.mp hempty
  | «open» digest maxBytes => exact hquiet heffect
  | verify digest => exact hquiet heffect
  | reconcile digest => exact hquiet heffect
  | collect digest referenced now grace =>
      rcases heffect with rfl | ⟨blob, hblob, hold, hgrace, rfl⟩
      · rw [noted_collect_self]
        exact hquiet (Keeps.refl _)
      · rw [noted_collect_removed hblob]
        exact h.collected hlegal hblob hold hgrace

/-- A power loss takes back only what was not promised to last. -/
theorem Sound.powerLoss (h : Sound world) (hloss : powerLoss world world') : Sound world' := by
  obtain ⟨hfiles, hbehind, hclock, hevents⟩ := hloss
  have hstates : ∀ digest lease, Held digest lease true world.events →
      lease ≤ world'.clock ∧ (world'.files digest).Holds digest lease := by
    intro digest lease hheld
    obtain ⟨hlease, hholds⟩ := h.lasting digest lease hheld
    rw [hclock]
    exact ⟨hlease, hholds _ (hfiles digest)⟩
  refine ⟨?_, ?_, ?_⟩
  · intro digest lease hheld
    rw [hevents] at hheld
    exact hstates digest lease hheld
  · intro digest lease hheld
    rw [hevents] at hheld
    obtain ⟨hlease, hholds⟩ := hstates digest lease hheld
    refine ⟨hlease, ?_⟩
    intro files hmem
    change files ∈ world'.files digest :: world'.behind digest at hmem
    rw [hbehind] at hmem
    obtain rfl := List.mem_singleton.mp hmem
    exact hholds
  · intro newer older digest blob referenced now grace heq
    rw [hevents] at heq
    cases newer with
    | nil => cases heq
    | cons event newer => exact h.allowed _ _ _ _ _ _ _ (List.cons.inj heq).2

/-! ## What the operations call -/

/-- The sections that operations begin are legal. -/
def StoreCall.Legal : ∀ β : Type, StoreCall β → Prop
  | _, .underLock work => work.Legal
  | _, _ => True

theorem storeIo_calls {α : Type} {request : StoreCall (Except IoErrorKind α)}
    (h : request.Legal) : (storeIo request).run.Calls StoreCall.Legal :=
  .mapErrorE (.attemptE h)

theorem start_calls {α : Type} {operation : Operation α}
    (h : operation.run.Calls StoreCall.Legal) : operation.start.Calls StoreCall.Legal :=
  h.bind fun _ => trivial

theorem recoverRepairSidecars_calls (listed : List (Except IoErrorKind ContentDigest)) :
    (recoverRepairSidecars listed).run.Calls StoreCall.Legal := by
  induction listed with
  | nil => exact .pureE ()
  | cons entry rest ih =>
      cases entry with
      | error kind => exact .throwE _
      | ok digest => exact .bindE (.attemptE trivial) fun _ => ih

theorem withClock_calls : withClock.run.Calls StoreCall.Legal := by
  have hlist : (storeIo .listSidecars >>= recoverRepairSidecars).run.Calls StoreCall.Legal :=
    .bindE (storeIo_calls trivial) recoverRepairSidecars_calls
  have hrest : (do
      storeIo (.createDirectory "artifacts")
      storeIo (.createDirectory "sha256")
      storeIo (.createDirectory "staging")
      storeIo (.createDirectory "quarantine")
      storeIo .canonicalize
      storeIo .listSidecars >>= recoverRepairSidecars : Operation Unit).run.Calls StoreCall.Legal :=
    .bindE (storeIo_calls trivial) fun _ => .bindE (storeIo_calls trivial) fun _ =>
      .bindE (storeIo_calls trivial) fun _ => .bindE (storeIo_calls trivial) fun _ =>
        .bindE (storeIo_calls trivial) fun _ => hlist
  refine Prog.Calls.bindE (storeIo_calls trivial) ?_
  intro isDir
  cases isDir with
  | true => exact hrest
  | false => exact .bindE (.throwE _) fun _ => hrest

theorem copySource_calls (maxSize : Nat) (source : List (Except IoErrorKind Bytes))
    (content : Bytes) : (copySource maxSize source content).run.Calls StoreCall.Legal := by
  induction source generalizing content with
  | nil => exact .pureE content
  | cons read reads ih =>
      cases read with
      | error kind => exact .throwE _
      | ok bytes =>
          unfold copySource
          split
          · exact .pureE content
          · split
            · exact .bindE (storeIo_calls trivial) fun _ => .throwE _
            · exact .bindE (storeIo_calls trivial) fun _ => ih _

theorem publish_calls {M : Type} (maxSize : Nat) (source : List (Except IoErrorKind Bytes))
    (metadata : ArtifactMetadata M) :
    (publish maxSize source metadata).run.Calls StoreCall.Legal := by
  have hpublish : ∀ inode content, (do
      storeIo .flushStaging
      storeIo .syncStaging
      let modified ← Fallible.ask .stagingModified
      locked (.publish (digestOf content) ⟨inode, content, modified⟩)
      pure ⟨metadata, digestOf content, content.length⟩ :
      Operation (ArtifactRecord M)).run.Calls StoreCall.Legal := fun _ _ =>
    .bindE (storeIo_calls trivial) fun _ => .bindE (storeIo_calls trivial) fun _ =>
      .bindE (.askE trivial) fun _ => .bindE (.attemptE rfl) fun _ => .pureE _
  unfold publish
  split
  · exact .bindE (.throwE _) fun _ => .bindE (storeIo_calls trivial) fun inode =>
      .bindE (copySource_calls _ _ _) (hpublish inode)
  · exact .bindE (storeIo_calls trivial) fun inode =>
      .bindE (copySource_calls _ _ _) (hpublish inode)

theorem collectEach_calls (referenced : List ContentDigest) (now grace : Nat)
    (listed : List (Except IoErrorKind ContentDigest)) (removed : Nat) :
    (collectEach referenced now grace listed removed).run.Calls StoreCall.Legal := by
  induction listed generalizing removed with
  | nil => exact .pureE removed
  | cons entry rest ih =>
      cases entry with
      | error kind => exact .throwE _
      | ok digest =>
          unfold collectEach
          split
          · exact ih removed
          · next hnot => exact .bindE (.attemptE hnot) fun _ => ih _

/-- Every operation begins legal sections only. -/
theorem Started.legal {program : Prog StoreCall Unit} (h : Started program) :
    program.Calls StoreCall.Legal := by
  cases h with
  | withClock => exact start_calls withClock_calls
  | publish maxSize source metadata => exact start_calls (publish_calls maxSize source metadata)
  | «open» digest maxBytes => exact start_calls (.attemptE trivial)
  | verify digest => exact start_calls (.attemptE trivial)
  | collect referenced grace =>
      apply start_calls
      exact .bindE (.askE trivial) fun now => .bindE (storeIo_calls trivial) fun debris =>
        .bindE (storeIo_calls trivial) fun listed => collectEach_calls _ _ _ _ _

/-! ## Runs of the store -/

section Elapses

omit [Sha256]

theorem World.Elapses.refl (world : World) : world.Elapses world := ⟨_, le_rfl, rfl⟩

theorem World.Elapses.trans {world'' : World} (h : world.Elapses world')
    (h' : world'.Elapses world'') : world.Elapses world'' := by
  obtain ⟨clock, hclock, rfl⟩ := h
  obtain ⟨clock', hclock', rfl⟩ := h'
  exact ⟨clock', hclock.trans hclock', rfl⟩

end Elapses

theorem World.Elapses.keeps (h : world.Elapses world') (digest : ContentDigest) :
    Keeps digest (world.shelf digest) (world'.shelf digest) := by
  obtain ⟨clock, hclock, rfl⟩ := h
  exact Keeps.now hclock

theorem Sound.elapses (h : Sound world) (helapses : world.Elapses world') : Sound world' := by
  apply h.moved _ _ helapses.keeps
  · obtain ⟨clock, -, rfl⟩ := helapses
    rfl
  · obtain ⟨clock, hclock, rfl⟩ := helapses
    exact hclock

/-- What a call does to the world: a section its effect, any other only takes time. -/
theorem storeAnswers_cases {β : Type} {request : StoreCall β} {answer : β}
    (h : storeAnswers β request world answer world') :
    (∃ (work : Section β) (shelf : Shelf), request = .underLock work ∧
      Runs answers work.program (world.shelf work.digest) (some answer) shelf ∧
      world' = world.shelve work.digest shelf
        (work.noted (world.shelf work.digest) shelf (some answer))) ∨
      world.Elapses world' := by
  cases request with
  | underLock work =>
      obtain ⟨shelf, run, hworld⟩ := h
      exact Or.inl ⟨work, shelf, rfl, run, hworld⟩
  | now => exact Or.inr ⟨answer, h⟩
  | listSidecars => exact Or.inr h.1
  | _ => exact Or.inr h

theorem storeInterrupts_cases {β : Type} {request : StoreCall β}
    (h : storeInterrupts β request world world') :
    (∃ (work : Section β) (shelf : Shelf), request = .underLock work ∧
      Runs answers work.program (world.shelf work.digest) none shelf ∧
      world' = world.shelve work.digest shelf
        (work.noted (world.shelf work.digest) shelf none)) ∨
      world.Elapses world' := by
  cases request with
  | underLock work =>
      obtain ⟨shelf, run, hworld⟩ := h
      exact Or.inl ⟨work, shelf, rfl, run, hworld⟩
  | _ => exact Or.inr h

variable {pool pool' : Pool StoreCall World}

theorem Sound.answer {β : Type} {request : StoreCall β} {answer : β} (hlegal : request.Legal)
    (answered : storeAnswers β request world answer world') (h : Sound world) : Sound world' := by
  rcases storeAnswers_cases answered with ⟨work, shelf, rfl, run, rfl⟩ | helapses
  · exact h.section hlegal (Section.effect hlegal run)
  · exact h.elapses helapses

theorem Sound.interrupt {β : Type} {request : StoreCall β} (hlegal : request.Legal)
    (interrupted : storeInterrupts β request world world') (h : Sound world) : Sound world' := by
  rcases storeInterrupts_cases interrupted with ⟨work, shelf, rfl, run, rfl⟩ | helapses
  · exact h.section hlegal (Section.effect hlegal run)
  · exact h.elapses helapses

/-- The store is sound in every run. -/
theorem Sound.reaches (hlegal : pool.Legal StoreCall.Legal)
    (h : Pool.Reaches surroundings pool pool') (hsound : Sound pool.world) : Sound pool'.world :=
  h.preserves (fun _ _ _ _ _ => Sound.answer) (fun _ _ _ _ => Sound.interrupt)
    (fun _ _ hloss hsound => hsound.powerLoss hloss) (fun _ => Started.legal) hlegal hsound

theorem Sound.fresh (h : world.events = []) : Sound world where
  held := by
    rw [h]
    exact fun _ _ => False.elim
  lasting := by
    rw [h]
    exact fun _ _ => False.elim
  allowed := by
    rw [h]
    intro newer older _ _ _ _ _ heq
    cases newer with
    | nil => cases heq
    | cons event newer => cases heq

theorem legal_nil : (⟨world, []⟩ : Pool StoreCall World).Legal StoreCall.Legal :=
  fun _ hmem => absurd hmem List.not_mem_nil

end Soundness

/-! ### A file system without failures -/

section Sample

def change (possible : Bool) (after shelf : Shelf) : Except IoErrorKind Unit × Shelf :=
  if possible then (.ok (), after) else (.error .notFound, shelf)

def look {α : Type} (found : Option α) (shelf : Shelf) : Except IoErrorKind α × Shelf :=
  (found.elim (.error .notFound) .ok, shelf)

def respond : ∀ β : Type, Call β → Shelf → β × Shelf
  | _, .exists entry, shelf => look (some (shelf.files.get entry).isSome) shelf
  | _, .rename source target, shelf =>
      change (shelf.files.get source).isSome (shelf.become (shelf.files.rename source target)) shelf
  | _, .promote staged, shelf =>
      change true (shelf.become (shelf.files.put (some staged) .canonical)) shelf
  | _, .remove entry, shelf =>
      change (shelf.files.get entry).isSome (shelf.become (shelf.files.put none entry)) shelf
  | _, .syncShard, shelf => change true { shelf with behind := [] } shelf
  | _, .openFile, shelf => look (shelf.files.canonical.map Blob.content) shelf
  | _, .readToEnd content, shelf => look (some content) shelf
  | _, .modified, shelf => look (shelf.files.canonical.map Blob.modified) shelf
  | _, .openWritable, shelf => look (shelf.files.canonical.map fun _ => ()) shelf
  | _, .setModified time, shelf =>
      match shelf.files.canonical with
      | some blob => change true (shelf.touch blob.inode time) shelf
      | none => (.ok (), shelf)
  | _, .now, shelf => (shelf.clock + 1, { shelf with clock := shelf.clock + 1 })
  | _, .quarantineTaken, shelf => (0, shelf)
  | _, .removeStaged, shelf => (.ok (), shelf)
  | _, .setPermissions, shelf => (.ok (), shelf)
  | _, .createShard, shelf => (.ok (), shelf)
  | _, .syncRoot, shelf => (.ok (), shelf)
  | _, .syncFile, shelf => (.ok (), shelf)
  | _, .probeQuarantine, shelf => (.ok (), shelf)
  | _, .linkQuarantine, shelf => (.ok (), shelf)
  | _, .syncQuarantine, shelf => (.ok (), shelf)

theorem change_changes (possible : Bool) (after shelf : Shelf) :
    Changes possible after shelf (change possible after shelf).1
      (change possible after shelf).2 := by
  cases possible with
  | true => exact ⟨rfl, rfl⟩
  | false => exact Or.inl rfl

theorem look_looks {α β : Type} {found : β → Prop} {f : α → β} {value : Option α} (shelf : Shelf)
    (h : ∀ a, value = some a → found (f a)) :
    Looks shelf (look (value.map f) shelf).1 (look (value.map f) shelf).2 found := by
  refine ⟨rfl, ?_⟩
  cases value with
  | none => exact fun _ h => by cases h
  | some a =>
      rintro _ ⟨⟩
      exact h a rfl

theorem respond_answers (β : Type) (request : Call β) (shelf : Shelf) :
    answers β request shelf (respond β request shelf).1 (respond β request shelf).2 := by
  cases request with
  | «exists» entry => exact ⟨rfl, fun _ h => (Except.ok.inj h).symm⟩
  | rename source target => exact change_changes _ _ _
  | promote staged => exact ⟨trivial, rfl⟩
  | remove entry => exact change_changes _ _ _
  | syncShard => exact ⟨trivial, rfl⟩
  | openFile => exact look_looks shelf fun blob h => ⟨blob, h, rfl⟩
  | readToEnd content => exact ⟨rfl, fun _ h => (Except.ok.inj h).symm⟩
  | modified => exact look_looks shelf fun blob h => ⟨blob, h, rfl⟩
  | openWritable =>
      apply look_looks
      intro blob h
      rw [h]
      rfl
  | setModified time =>
      unfold respond answers
      dsimp only
      cases shelf.files.canonical with
      | none => rfl
      | some blob => exact ⟨trivial, rfl⟩
  | now => exact ⟨Nat.le_succ _, rfl⟩
  | _ => rfl

/-- The answers of a store over that file system, which lists what it is given. -/
def storeRespond [Sha256] (digests : List ContentDigest) :
    ∀ β : Type, StoreCall β → World → β × World
  | _, .underLock work, world =>
      let (answer, shelf) := replay respond work.program (world.shelf work.digest)
      (answer, world.shelve work.digest shelf
        (work.noted (world.shelf work.digest) shelf (some answer)))
  | _, .now, world => (world.clock + 1, { world with clock := world.clock + 1 })
  | _, .dataRootIsDir, world => (.ok true, world)
  | _, .createDirectory _, world => (.ok (), world)
  | _, .canonicalize, world => (.ok (), world)
  | _, .listSidecars, world => (.error .other, world)
  | _, .listBlobs, world => (.ok (digests.map .ok), world)
  | _, .createStaging, world => (.ok world.events.length, world)
  | _, .writeStaging _, world => (.ok (), world)
  | _, .flushStaging, world => (.ok (), world)
  | _, .syncStaging, world => (.ok (), world)
  | _, .stagingModified, world => (world.clock, world)
  | _, .removeStaging, world => (.ok (), world)
  | _, .collectDebris _ _, world => (.ok 0, world)

theorem storeRespond_answers [Sha256] (digests : List ContentDigest) (β : Type)
    (request : StoreCall β) (world : World) :
    storeAnswers β request world (storeRespond digests β request world).1
      (storeRespond digests β request world).2 := by
  cases request with
  | underLock work => exact ⟨_, runs_replay respond_answers _ _, rfl⟩
  | now => exact ⟨Nat.le_succ _, rfl⟩
  | listSidecars => exact ⟨World.Elapses.refl world, fun _ h => by cases h⟩
  | _ => exact World.Elapses.refl world

def sampleMetadata : ArtifactMetadata Unit := ⟨"text/plain", ()⟩

/-- The digest of "hi". -/
def sampleDigest : ContentDigest := digestOf [104, 105]

/-- The start, a `publish` of "hi" and its collection. -/
def publishedWorld : World :=
  (replay (storeRespond []) (publish 64 [.ok [104, 105]] sampleMetadata).start {}).2

def collectedWorld : World :=
  (replay (storeRespond [sampleDigest]) (collectUnreferenced [] 0).start publishedWorld).2

theorem publishedWorld_reached :
    Pool.Reaches surroundings ⟨{}, []⟩ ⟨publishedWorld, [.done ()]⟩ :=
  Pool.Reaches.alone (runs_replay (storeRespond_answers []) _ _)
    (Started.publish 64 [.ok [104, 105]] sampleMetadata) []

theorem collectedWorld_reached :
    Pool.Reaches surroundings ⟨{}, []⟩ ⟨collectedWorld, [.done (), .done ()]⟩ :=
  publishedWorld_reached.trans
    (Pool.Reaches.alone (runs_replay (storeRespond_answers [sampleDigest]) _ _)
      (Started.collect [] 0) [.done ()])

end Sample

/-! ### Every run -/

variable {world world' : World} {pool pool' : Pool StoreCall World}

/-- In every run a collection removes only blobs that are unreferenced, and whose leases,
the last one and every one that is still owed, have run out. A power loss leaves nothing
owed to a `publish` that returned before its name was durable. -/
theorem removals_allowed [Sha256] (hfresh : world.events = [])
    (h : Pool.Reaches surroundings ⟨world, []⟩ pool) {newer older : List Event}
    {digest : ContentDigest} {blob : Blob} {referenced : List ContentDigest} {now grace : Nat}
    (hevents : pool.world.events = newer ++ .removed digest blob referenced now grace :: older) :
    Allowed digest blob referenced now grace older :=
  ((Sound.fresh hfresh).reaches legal_nil h).allowed _ _ _ _ _ _ _ hevents

set_option maxRecDepth 100000 in
/-- The blob is removed at a time when its lease has run out. -/
theorem removals_allowed_sample :
    Allowed sampleDigest ⟨0, [104, 105], 1⟩ [] 2 0 publishedWorld.events := by
  have hevents : collectedWorld.events =
      [] ++ .removed sampleDigest ⟨0, [104, 105], 1⟩ [] 2 0 :: publishedWorld.events := rfl
  exact removals_allowed rfl collectedWorld_reached hevents

section Repairs
variable [Sha256]

section Presence

omit [Sha256]

def Removed (digest : ContentDigest) (events : List Event) : Prop :=
  ∃ blob referenced now grace, .removed digest blob referenced now grace ∈ events

/-- The blob is there under one of its names. -/
def World.Present (world : World) (digest : ContentDigest) : Prop :=
  (world.files digest).Present

/-- The blob is there under one of its names, whatever a power loss takes back. -/
def World.DurablyPresent (world : World) (digest : ContentDigest) : Prop :=
  ∀ files ∈ (world.shelf digest).states, files.Present

/-- A blob that is there stays there unless a collection removes it or, where it is not
durably there, a power loss comes. -/
def Stays (digest : ContentDigest) (world world' : World) : Prop :=
  ∃ newer, world'.events = newer ++ world.events ∧
    (¬ Removed digest newer →
      (world.DurablyPresent digest → world'.DurablyPresent digest) ∧
        (.powerLost ∉ newer → world.Present digest → world'.Present digest))

theorem not_removed_of_append {digest : ContentDigest} {newest newer : List Event}
    (h : ¬ Removed digest (newest ++ newer)) :
    ¬ Removed digest newest ∧ ¬ Removed digest newer := by
  constructor
  · rintro ⟨blob, referenced, now, grace, hmem⟩
    exact h ⟨blob, referenced, now, grace, List.mem_append_left _ hmem⟩
  · rintro ⟨blob, referenced, now, grace, hmem⟩
    exact h ⟨blob, referenced, now, grace, List.mem_append_right _ hmem⟩

instance staysPreorder (digest : ContentDigest) : IsPreorder World (Stays digest) where
  refl _ := ⟨[], rfl, fun _ => ⟨id, fun _ => id⟩⟩
  trans := by
    rintro _ _ _ ⟨newer, hevents, hstays⟩ ⟨newest, hevents', hstays'⟩
    refine ⟨newest ++ newer, ?_, ?_⟩
    · rw [hevents', hevents, List.append_assoc]
    · intro hnot
      obtain ⟨hnewest, hnewer⟩ := not_removed_of_append hnot
      obtain ⟨hdurable, hpresent⟩ := hstays hnewer
      obtain ⟨hdurable', hpresent'⟩ := hstays' hnewest
      refine ⟨hdurable' ∘ hdurable, ?_⟩
      intro hpower
      rw [List.mem_append, not_or] at hpower
      exact hpresent' hpower.1 ∘ hpresent hpower.2

end Presence

theorem Stays.section {β : Type} {work : Section β} {result : Option β} {shelf : Shelf}
    (heffect : work.Effect (world.shelf work.digest) result shelf) (digest : ContentDigest) :
    Stays digest world
      (world.shelve work.digest shelf (work.noted (world.shelf work.digest) shelf result)) := by
  have hquiet : Keeps work.digest (world.shelf work.digest) shelf → ∀ noted,
      Stays digest world (world.shelve work.digest shelf noted) := fun hkeeps noted =>
    let hkept := hkeeps.shelve noted digest
    ⟨noted, rfl, fun _ => ⟨hkept.allPresent, fun _ => hkept.present⟩⟩
  cases work with
  | publish published staged => exact hquiet heffect.1 _
  | «open» opened maxBytes => exact hquiet heffect _
  | verify verified => exact hquiet heffect _
  | reconcile reconciled => exact hquiet heffect _
  | collect collected referenced now grace =>
      rcases heffect with rfl | ⟨blob, hblob, -, -, rfl⟩
      · exact hquiet (Keeps.refl _) _
      · rw [noted_collect_removed hblob]
        refine ⟨_, rfl, ?_⟩
        intro hnot
        by_cases hdigest : digest = collected
        · rw [hdigest] at hnot
          exact absurd ⟨blob, referenced, now, grace, List.mem_cons_self⟩ hnot
        · constructor
          · intro hpresent files hmem
            change files ∈ ((world.shelve collected _ _).shelf digest).states at hmem
            rw [World.shelf_shelve_of_ne _ _ _ _ hdigest] at hmem
            exact hpresent files hmem
          · intro _ hpresent
            change ((world.shelve collected _ _).files digest).Present
            rw [World.files_shelve_of_ne _ _ _ _ hdigest]
            exact hpresent

theorem Stays.elapses (h : world.Elapses world') (digest : ContentDigest) :
    Stays digest world world' := by
  refine ⟨[], ?_, fun _ => ⟨(h.keeps digest).allPresent, fun _ => (h.keeps digest).present⟩⟩
  obtain ⟨clock, -, rfl⟩ := h
  rfl

omit [Sha256] in
theorem Stays.powerLoss (h : powerLoss world world') (digest : ContentDigest) :
    Stays digest world world' := by
  obtain ⟨hfiles, hbehind, -, hevents⟩ := h
  refine ⟨[.powerLost], hevents, ?_⟩
  intro _
  constructor
  · intro hpresent files hmem
    change files ∈ world'.files digest :: world'.behind digest at hmem
    rw [hbehind] at hmem
    obtain rfl := List.mem_singleton.mp hmem
    exact hpresent _ (hfiles digest)
  · exact fun hpower => absurd (List.mem_singleton_self _) hpower

theorem Stays.answer {β : Type} {request : StoreCall β} {answer : β} (hlegal : request.Legal)
    (answered : storeAnswers β request world answer world') (digest : ContentDigest) :
    Stays digest world world' := by
  rcases storeAnswers_cases answered with ⟨work, shelf, rfl, run, rfl⟩ | helapses
  · exact Stays.section (Section.effect hlegal run) digest
  · exact Stays.elapses helapses digest

theorem Stays.interrupt {β : Type} {request : StoreCall β} (hlegal : request.Legal)
    (interrupted : storeInterrupts β request world world') (digest : ContentDigest) :
    Stays digest world world' := by
  rcases storeInterrupts_cases interrupted with ⟨work, shelf, rfl, run, rfl⟩ | helapses
  · exact Stays.section (Section.effect hlegal run) digest
  · exact Stays.elapses helapses digest

theorem Stays.reaches (hlegal : pool.Legal StoreCall.Legal)
    (h : Pool.Reaches surroundings pool pool') (digest : ContentDigest) :
    Stays digest pool.world pool'.world ∧ pool'.Legal StoreCall.Legal :=
  h.moves (fun _ _ _ _ _ hlegal answered => Stays.answer hlegal answered digest)
    (fun _ _ _ _ hlegal interrupted => Stays.interrupt hlegal interrupted digest)
    (fun _ _ hloss => Stays.powerLoss hloss digest) (fun _ => Started.legal) hlegal

end Repairs

section Starts

variable [Sha256]

omit [Sha256] in
/-- What a start does to the files of every digest. -/
structure Recovering (world world' : World) : Prop where
  present : ∀ digest, (world.files digest).Present → (world'.files digest).Present
  canonical : ∀ digest blob, (world.files digest).canonical = some blob →
    (world'.files digest).canonical = some blob
  sidecar : ∀ digest, (world.files digest).sidecar = none → (world'.files digest).sidecar = none

section Recovery

omit [Sha256]

theorem Recovering.refl (world : World) : Recovering world world :=
  ⟨fun _ => id, fun _ _ => id, fun _ => id⟩

theorem Recovering.trans {world'' : World} (h : Recovering world world')
    (h' : Recovering world' world'') : Recovering world world'' where
  present digest := h'.present digest ∘ h.present digest
  canonical digest blob := h'.canonical digest blob ∘ h.canonical digest blob
  sidecar digest := h'.sidecar digest ∘ h.sidecar digest

theorem World.Elapses.recovering (h : world.Elapses world') : Recovering world world' := by
  obtain ⟨clock, -, rfl⟩ := h
  exact ⟨fun _ => id, fun _ _ => id, fun _ => id⟩

/-- A reconciled digest has no sidecar any more. -/
theorem Reconciled.recovering {digest : ContentDigest} {shelf : Shelf}
    (h : Reconciled (world.shelf digest) shelf) (noted : List Event) :
    Recovering world (world.shelve digest shelf noted) := by
  have hself : (world.shelve digest shelf noted).files digest = shelf.files :=
    congrArg Shelf.files (World.shelf_shelve world digest shelf noted)
  refine ⟨?_, ?_, ?_⟩
  · intro other hpresent
    by_cases hother : other = digest
    · rw [hother] at hpresent ⊢
      rw [hself]
      exact Or.inl (h.present hpresent)
    · rw [World.files_shelve_of_ne _ _ _ _ hother]
      exact hpresent
  · intro other blob hblob
    by_cases hother : other = digest
    · rw [hother] at hblob ⊢
      rw [hself]
      exact h.canonical blob hblob
    · rw [World.files_shelve_of_ne _ _ _ _ hother]
      exact hblob
  · intro other hnone
    by_cases hother : other = digest
    · rw [hother, hself]
      exact h.noSidecar
    · rw [World.files_shelve_of_ne _ _ _ _ hother]
      exact hnone

end Recovery

/-- The rule for a call of a start that begins no section. -/
theorem Recovering.io {start : World} {α : Type} {post : World → Prop}
    (request : StoreCall (Except IoErrorKind α)) {rest : α → Operation Unit}
    (hs : Recovering start world)
    (hquiet : ∀ answer world', storeAnswers _ request world answer world' →
      world.Elapses world')
    (hok : ∀ value world', storeAnswers _ request world (.ok value) world' →
      Recovering start world' →
        Upholds storeAnswers (fun _ => True) (fun result world' => result = .ok () → post world')
          (rest value).run world') :
    Upholds storeAnswers (fun _ => True) (fun result world' => result = .ok () → post world')
      (storeIo request >>= rest).run world := by
  apply Upholds.bindE
  apply Upholds.mapErrorE
  apply Upholds.attemptE trivial
  intro answer world' answered
  refine ⟨trivial, ?_⟩
  cases answer with
  | error kind => exact fun h => by cases h
  | ok value => exact hok value world' answered (hs.trans (hquiet _ _ answered).recovering)

end Starts

section Publishing

variable [Sha256]

/-- The rule for a call that takes time only. -/
theorem World.Elapses.io {start : World} {α β : Type} {post : β → World → Prop}
    (request : StoreCall (Except IoErrorKind α)) {rest : α → Operation β}
    (hs : start.Elapses world)
    (hquiet : ∀ answer world', storeAnswers _ request world answer world' →
      world.Elapses world')
    (hok : ∀ value world', start.Elapses world' →
      Upholds storeAnswers (fun _ => True) (OnOk post) (rest value).run world') :
    Upholds storeAnswers (fun _ => True) (OnOk post) (storeIo request >>= rest).run world := by
  apply Upholds.bindOk
  apply Upholds.callOk trivial
  intro answer world' answered
  exact ⟨trivial, fun value _ => hok value world' (hs.trans (hquiet _ _ answered))⟩

end Publishing

end YakShed.Artifacts
