/-
# The artifact store under the lock of a digest

What each section does to the files of its digest, from any state in which it may begin
and however many of its calls fail. None but the collection loses anything: a file that
is there stays there under one of its two names, and a blob that is what its digest says
stays that. `Keeps` holds wherever a section is cut off.
-/

import YakShed.Store.Artifacts

namespace YakShed.Artifacts

open Faults

/-! ## States of a digest's files -/

section States

variable [Sha256]

/-- The canonical blob is what its digest says, and was touched no earlier than at a time. -/
def Files.Holds (digest : ContentDigest) (lease : Nat) (files : Files) : Prop :=
  ∃ blob, files.canonical = some blob ∧ digestOf blob.content = digest ∧ lease ≤ blob.modified

omit [Sha256] in
/-- The blob or its sidecar is there. -/
def Files.Present (files : Files) : Prop := files.canonical.isSome ∨ files.sidecar.isSome

omit [Sha256] in
/-- The states that a power loss may leave. -/
def Shelf.states (shelf : Shelf) : List Files := shelf.files :: shelf.behind

/-- What a section that collects nothing preserves. -/
structure Keeps (digest : ContentDigest) (shelf shelf' : Shelf) : Prop where
  clock : shelf.clock ≤ shelf'.clock
  present : shelf.files.Present → shelf'.files.Present
  allPresent : (∀ files ∈ shelf.states, files.Present) → ∀ files ∈ shelf'.states, files.Present
  holds : ∀ lease, lease ≤ shelf.clock → shelf.files.Holds digest lease →
    shelf'.files.Holds digest lease
  allHold : ∀ lease, lease ≤ shelf.clock → (∀ files ∈ shelf.states, files.Holds digest lease) →
    ∀ files ∈ shelf'.states, files.Holds digest lease

variable {digest : ContentDigest} {shelf shelf' shelf'' : Shelf} {files : Files}

theorem Keeps.refl (shelf : Shelf) : Keeps digest shelf shelf :=
  ⟨le_rfl, id, id, fun _ _ => id, fun _ _ => id⟩

theorem Keeps.trans (h : Keeps digest shelf shelf') (h' : Keeps digest shelf' shelf'') :
    Keeps digest shelf shelf'' where
  clock := h.clock.trans h'.clock
  present := fun hpresent => h'.present (h.present hpresent)
  allPresent := fun hpresent => h'.allPresent (h.allPresent hpresent)
  holds := fun lease hlease hholds =>
    h'.holds lease (hlease.trans h.clock) (h.holds lease hlease hholds)
  allHold := fun lease hlease hholds =>
    h'.allHold lease (hlease.trans h.clock) (h.allHold lease hlease hholds)

instance keepsShelf : IsPreorder Shelf (Keeps digest) where
  refl := Keeps.refl
  trans _ _ _ := Keeps.trans

/-- New entries, where the old ones were no better. -/
theorem Keeps.become (hpresent : shelf.files.Present → files.Present)
    (hholds : ∀ lease, shelf.files.Holds digest lease → files.Holds digest lease) :
    Keeps digest shelf (shelf.become files) where
  clock := le_rfl
  present := hpresent
  allPresent := by
    intro hall other hmem
    rcases List.mem_cons.mp hmem with rfl | hmem
    · exact hpresent (hall _ List.mem_cons_self)
    · exact hall other hmem
  holds := fun lease _ => hholds lease
  allHold := by
    intro lease _ hall other hmem
    rcases List.mem_cons.mp hmem with rfl | hmem
    · exact hholds lease (hall _ List.mem_cons_self)
    · exact hall other hmem

omit [Sha256] in
theorem Files.present_touch (files : Files) (inode time : Nat) :
    (files.touch inode time).Present ↔ files.Present := by
  unfold Files.Present Files.touch
  rw [Option.isSome_map, Option.isSome_map]

theorem Files.Holds.touch {lease : Nat} (h : files.Holds digest lease) (inode : Nat) {time : Nat}
    (htime : lease ≤ time) : (files.touch inode time).Holds digest lease := by
  obtain ⟨blob, hblob, hdigest, hlease⟩ := h
  unfold Files.Holds Files.touch
  dsimp only
  rw [hblob, Option.map_some]
  refine ⟨_, rfl, ?_⟩
  split
  · exact ⟨hdigest, htime⟩
  · exact ⟨hdigest, hlease⟩

theorem Keeps.touch {time : Nat} (htime : shelf.clock ≤ time) (inode : Nat) :
    Keeps digest shelf (shelf.touch inode time) where
  clock := le_rfl
  present := (Files.present_touch _ _ _).mpr
  allPresent := by
    intro hall other hmem
    have hmem : other ∈ shelf.states.map (·.touch inode time) := hmem
    obtain ⟨old, hold, rfl⟩ := List.mem_map.mp hmem
    exact (Files.present_touch _ _ _).mpr (hall old hold)
  holds := fun lease hlease hholds => hholds.touch inode (hlease.trans htime)
  allHold := by
    intro lease hlease hall other hmem
    have hmem : other ∈ shelf.states.map (·.touch inode time) := hmem
    obtain ⟨old, hold, rfl⟩ := List.mem_map.mp hmem
    exact (hall old hold).touch inode (hlease.trans htime)

theorem Keeps.sync : Keeps digest shelf { shelf with behind := [] } where
  clock := le_rfl
  present := id
  allPresent := by
    intro hall other hmem
    obtain rfl := List.mem_singleton.mp hmem
    exact hall _ List.mem_cons_self
  holds := fun _ _ => id
  allHold := by
    intro lease _ hall other hmem
    obtain rfl := List.mem_singleton.mp hmem
    exact hall _ List.mem_cons_self

theorem Keeps.now {time : Nat} (htime : shelf.clock ≤ time) :
    Keeps digest shelf { shelf with clock := time } :=
  ⟨htime, id, id, fun _ _ => id, fun _ _ => id⟩

theorem Keeps.changes {possible : Prop} {after : Shelf} {answer : Except IoErrorKind Unit}
    (hafter : possible → Keeps digest shelf after)
    (h : Changes possible after shelf answer shelf') : Keeps digest shelf shelf' := by
  cases answer with
  | ok _ =>
      obtain ⟨hpossible, rfl⟩ := h
      exact hafter hpossible
  | error kind =>
      rcases h with rfl | ⟨hpossible, rfl⟩
      · exact Keeps.refl _
      · exact hafter hpossible

/-- Where a call cannot lose anything. -/
def Call.Safe (digest : ContentDigest) (shelf : Shelf) {β : Type} : Call β → Prop
  | .rename .canonical .sidecar => ¬ shelf.files.Holds digest 0
  | .rename .sidecar .canonical | .promote _ => shelf.files.canonical = none
  | .rename .canonical .canonical | .rename .sidecar .sidecar | .remove .canonical => False
  | .remove .sidecar => shelf.files.canonical.isSome
  | .setModified time => shelf.clock ≤ time
  | _ => True

theorem Files.Holds.not_none {lease : Nat} (h : files.Holds digest lease) :
    files.canonical ≠ none := by
  obtain ⟨blob, hblob, -⟩ := h
  rw [hblob]
  exact Option.some_ne_none blob

theorem Files.Holds.mono {lease lease' : Nat} (h : files.Holds digest lease)
    (hle : lease' ≤ lease) :
    files.Holds digest lease' := by
  obtain ⟨blob, hblob, hdigest, hlease⟩ := h
  exact ⟨blob, hblob, hdigest, hle.trans hlease⟩

/-- What a call does that cannot lose anything. -/
theorem Keeps.call {β : Type} {request : Call β} {answer : β} (hsafe : request.Safe digest shelf)
    (h : answers β request shelf answer shelf') : Keeps digest shelf shelf' := by
  cases request with
  | rename source target =>
      apply Keeps.changes _ h
      intro hsource
      cases source with
      | canonical =>
          cases target with
          | canonical => exact absurd hsafe id
          | sidecar =>
              apply Keeps.become
              · exact fun _ => Or.inr hsource
              · exact fun lease hholds => absurd (hholds.mono (Nat.zero_le lease)) hsafe
      | sidecar =>
          cases target with
          | canonical =>
              apply Keeps.become
              · exact fun _ => Or.inl hsource
              · exact fun lease hholds => absurd hsafe hholds.not_none
          | sidecar => exact absurd hsafe id
  | promote staged =>
      apply Keeps.changes _ h
      intro _
      apply Keeps.become
      · exact fun _ => Or.inl rfl
      · exact fun lease hholds => absurd hsafe hholds.not_none
  | remove entry =>
      apply Keeps.changes _ h
      intro _
      cases entry with
      | canonical => exact absurd hsafe id
      | sidecar =>
          apply Keeps.become
          · exact fun _ => Or.inl hsafe
          · exact fun _ => id
  | syncShard => exact Keeps.changes (fun _ => Keeps.sync) h
  | setModified time =>
      unfold answers at h
      dsimp only at h
      split at h
      · next blob _ => exact Keeps.changes (fun _ => Keeps.touch hsafe blob.inode) h
      · obtain rfl := h
        exact Keeps.refl _
  | now =>
      obtain ⟨htime, rfl⟩ := h
      exact Keeps.now htime
  | «exists» | openFile | readToEnd | modified | openWritable =>
      obtain ⟨rfl, -⟩ := h
      exact Keeps.refl _
  | removeStaged | setPermissions | createShard | syncRoot | syncFile | quarantineTaken
  | probeQuarantine | linkQuarantine | syncQuarantine =>
      obtain rfl := h
      exact Keeps.refl _

end States

/-! ## Under the lock -/

section Sections

variable [Sha256] {digest : ContentDigest} {start shelf : Shelf} {α β : Type}

/-- The rule for a file system call that cannot lose anything. -/
theorem Keeps.lastIo {post : α → Shelf → Prop} (request : Call (Except IoErrorKind α))
    (hs : Keeps digest start shelf) (hsafe : request.Safe digest shelf)
    (hok : ∀ value shelf', answers _ request shelf (.ok value) shelf' →
      Keeps digest start shelf' → post value shelf') :
    Upholds answers (Keeps digest start) (OnOk post) (Artifacts.io request).run shelf := by
  apply Upholds.callOk hs
  intro answer shelf' answered
  have hs' := hs.trans (Keeps.call hsafe answered)
  refine ⟨hs', ?_⟩
  rintro value rfl
  exact hok value shelf' answered hs'

theorem Keeps.io {post : β → Shelf → Prop} (request : Call (Except IoErrorKind α))
    {rest : α → Action β} (hs : Keeps digest start shelf) (hsafe : request.Safe digest shelf)
    (hok : ∀ value shelf', answers _ request shelf (.ok value) shelf' →
      Keeps digest start shelf' →
        Upholds answers (Keeps digest start) (OnOk post) (rest value).run shelf') :
    Upholds answers (Keeps digest start) (OnOk post) (Artifacts.io request >>= rest).run shelf :=
  Upholds.bindOk (Keeps.lastIo request hs hsafe hok)

/-- What a section preserves of the shelf it is run on, it preserves of an earlier one. -/
theorem Keeps.after {post post' : α → Shelf → Prop} {program : Action α}
    (hs : Keeps digest start shelf)
    (h : Upholds answers (Keeps digest shelf) (OnOk post) program.run shelf)
    (hpost : ∀ value shelf', Keeps digest start shelf' → post value shelf' → post' value shelf') :
    Upholds answers (Keeps digest start) (OnOk post') program.run shelf := by
  apply h.monoOk fun _ => hs.trans
  exact fun value shelf' hkeeps => hpost value shelf' (hs.trans hkeeps)

/-- What a reconciled digest has. -/
structure Reconciled (start shelf : Shelf) : Prop where
  noSidecar : shelf.files.sidecar = none
  present : start.files.Present → shelf.files.canonical.isSome
  canonical : ∀ blob, start.files.canonical = some blob → shelf.files.canonical = some blob

theorem reconcile_upholds (start : Shelf) :
    Upholds answers (Keeps digest start) (OnOk fun _ => Reconciled start)
      reconcileRepairSidecar.run start := by
  unfold reconcileRepairSidecar
  apply Keeps.io (.exists .sidecar) (Keeps.refl start) trivial
  intro found shelf answered _
  obtain ⟨rfl, hfound⟩ := answered
  have hfound : found = shelf.files.sidecar.isSome := hfound found rfl
  cases found with
  | false =>
      apply Upholds.pureE (Keeps.refl shelf)
      have hnone := Option.isNone_iff_eq_none.mp (Option.isSome_eq_false_iff.mp hfound.symm)
      refine ⟨hnone, ?_, fun _ => id⟩
      rintro (hcanonical | hsidecar)
      · exact hcanonical
      · rw [hnone] at hsidecar
        cases hsidecar
  | true =>
      apply Keeps.io (.exists .canonical) (Keeps.refl shelf) trivial
      intro found shelf answered _
      obtain ⟨rfl, hfound⟩ := answered
      have hfound : found = shelf.files.canonical.isSome := hfound found rfl
      cases found with
      | true =>
          apply Keeps.io (.remove .sidecar) (Keeps.refl shelf) hfound.symm
          rintro _ _ ⟨-, rfl⟩ hkeeps
          apply Keeps.lastIo .syncShard hkeeps trivial
          rintro _ _ ⟨-, rfl⟩ -
          exact ⟨rfl, fun _ => hfound.symm, fun _ => id⟩
      | false =>
          have hnone := Option.isNone_iff_eq_none.mp (Option.isSome_eq_false_iff.mp hfound.symm)
          apply Keeps.io (.rename .sidecar .canonical) (Keeps.refl shelf) hnone
          rintro _ _ ⟨hsome, rfl⟩ hkeeps
          apply Keeps.io .setPermissions hkeeps trivial
          rintro _ _ rfl hkeeps
          apply Keeps.lastIo .syncShard hkeeps trivial
          rintro _ _ ⟨-, rfl⟩ -
          refine ⟨rfl, fun _ => hsome, ?_⟩
          intro blob hblob
          rw [hnone] at hblob
          cases hblob

/-- The error of a repair is returned, rolled back or not. -/
theorem rollbackRepairError_upholds {post : Unit → Shelf → Prop} (repair : ArtifactError)
    (start : Shelf) :
    Upholds answers (Keeps digest start) (OnOk post) (rollbackRepairError repair).run start := by
  unfold rollbackRepairError
  apply Upholds.bindOk
  apply Upholds.mapErrorE
  unfold rollback
  apply Upholds.bindE
  apply (reconcile_upholds start).mono fun _ => id
  intro result shelf hkeeps _
  cases result with
  | error error => exact trivial
  | ok _ =>
      apply Upholds.bindE
      apply Upholds.mapErrorE
      apply Upholds.attemptE hkeeps
      rintro answer shelf' answered
      have hsafe : Call.Safe digest shelf (.exists .canonical) := trivial
      have hkeeps := hkeeps.trans (Keeps.call hsafe answered)
      cases answer with
      | error kind => exact ⟨hkeeps, trivial⟩
      | ok found =>
          cases found with
          | false => exact ⟨hkeeps, hkeeps, trivial⟩
          | true => exact ⟨hkeeps, hkeeps, hkeeps, trivial⟩

/-- The rule for a call whose error is rolled back. -/
theorem Keeps.handled {post : Unit → Shelf → Prop} (request : Call (Except IoErrorKind Unit))
    {rest : Unit → Action Unit} (hs : Keeps digest start shelf)
    (hsafe : request.Safe digest shelf)
    (hok : ∀ shelf', answers _ request shelf (.ok ()) shelf' → Keeps digest start shelf' →
      Upholds answers (Keeps digest start) (OnOk post) (rest ()).run shelf') :
    Upholds answers (Keeps digest start) (OnOk post)
      ((Artifacts.io request).handle rollbackRepairError >>= rest).run shelf := by
  apply Upholds.bindOk
  apply Upholds.handleE
  apply Upholds.mapErrorE
  apply Upholds.attemptE hs
  intro answer shelf' answered
  have hs' := hs.trans (Keeps.call hsafe answered)
  cases answer with
  | ok _ => exact ⟨hs', hok shelf' answered hs'⟩
  | error kind =>
      exact ⟨hs', hs'.after (rollbackRepairError_upholds _ shelf') fun _ _ _ h => h⟩

/-- What a refreshed lease changes of a shelf. -/
structure Refreshed (digest : ContentDigest) (start shelf : Shelf) : Prop where
  behind : start.behind = [] → shelf.behind = []
  lease : start.files.Holds digest 0 → shelf.files.Holds digest shelf.clock
  content : shelf.files.Holds digest 0 → start.files.Holds digest 0

theorem refreshLease_upholds (start : Shelf) :
    Upholds answers (Keeps digest start) (OnOk fun _ => Refreshed digest start)
      refreshLease.run start := by
  unfold refreshLease
  apply Keeps.io .openWritable (Keeps.refl start) trivial
  rintro _ shelf ⟨rfl, hopened⟩ -
  have hopened : shelf.files.canonical.isSome := hopened _ rfl
  obtain ⟨blob, hblob⟩ := Option.isSome_iff_exists.mp hopened
  apply Upholds.bindOk
  apply Upholds.askE (Keeps.refl shelf)
  rintro time _ ⟨htime, rfl⟩
  have hkeeps : Keeps digest shelf { shelf with clock := time } := Keeps.now htime
  refine ⟨hkeeps, ?_⟩
  apply Keeps.io (.setModified time) hkeeps le_rfl
  rintro _ shelf' answered hkeeps
  apply Keeps.lastIo .syncFile hkeeps trivial
  rintro _ _ rfl -
  unfold answers at answered
  dsimp only at answered
  rw [hblob] at answered
  obtain ⟨-, rfl⟩ := answered
  have htouched : (shelf.files.touch blob.inode time).canonical =
      some { blob with modified := time } := by
    unfold Files.touch
    dsimp only
    rw [hblob, Option.map_some, if_pos rfl]
  refine ⟨?_, ?_, ?_⟩
  · intro hbehind
    change shelf.behind.map _ = []
    rw [hbehind, List.map_nil]
  · rintro ⟨blob', hblob', hdigest, -⟩
    obtain rfl := Option.some.inj (hblob.symm.trans hblob')
    exact ⟨_, htouched, hdigest, le_rfl⟩
  · rintro ⟨blob', hblob', hdigest, -⟩
    obtain rfl := Option.some.inj (htouched.symm.trans hblob')
    exact ⟨blob, hblob, hdigest, Nat.zero_le _⟩

/-- What `verify_file` says of the canonical blob. -/
def Verified (digest : ContentDigest) (files : Files) : Except ArtifactError Unit → Prop
  | .ok _ => files.Holds digest 0
  | .error (.digestMismatch _ _) => files.canonical.isSome ∧ ¬ files.Holds digest 0
  | .error _ => True

theorem verifyFile_upholds (start : Shelf) :
    Upholds answers (· = start) (fun result _ => Verified digest start.files result)
      (verifyFile digest).run start := by
  unfold verifyFile openFile
  apply Upholds.bindE
  apply Upholds.bindE
  apply Upholds.askE
  case hs => exact rfl
  rintro answer shelf ⟨rfl, hanswer⟩
  refine ⟨rfl, ?_⟩
  cases answer with
  | error kind =>
      cases kind with
      | notFound => exact ⟨rfl, trivial⟩
      | _ => exact ⟨rfl, trivial⟩
  | ok content =>
      refine ⟨rfl, ?_⟩
      obtain ⟨blob, hblob, rfl⟩ := hanswer content rfl
      apply Upholds.bindE
      apply Upholds.mapErrorE
      apply Upholds.attemptE
      case hs => exact rfl
      rintro answer shelf ⟨rfl, hanswer⟩
      refine ⟨rfl, ?_⟩
      cases answer with
      | error kind => exact trivial
      | ok bytes =>
          obtain rfl := hanswer bytes rfl
          change Upholds _ _ _ (ite _ _ _) _
          split
          · next hne =>
              refine ⟨rfl, by rw [hblob]; rfl, ?_⟩
              rintro ⟨blob', hblob', hdigest, -⟩
              obtain rfl := Option.some.inj (hblob.symm.trans hblob')
              exact hne hdigest
          · next heq => exact ⟨rfl, blob, hblob, not_not.mp heq, Nat.zero_le _⟩

/-- Only a blob that is not what its digest says is found corrupt. -/
theorem isCorrupt_upholds (start : Shelf) :
    Upholds answers (Keeps digest start)
      (OnOk fun corrupt shelf => shelf = start ∧
        (if corrupt then start.files.canonical.isSome ∧ ¬ start.files.Holds digest 0
          else start.files.Holds digest 0))
      (isCorrupt digest).run start := by
  have hrefl : ∀ shelf, shelf = start → Keeps digest start shelf := by
    rintro shelf rfl
    exact Keeps.refl shelf
  unfold isCorrupt
  apply Upholds.handleE
  apply Upholds.bindE
  apply (verifyFile_upholds start).mono hrefl
  rintro result shelf rfl hverified
  cases result with
  | ok _ => exact ⟨Keeps.refl shelf, rfl, hverified⟩
  | error error =>
      cases error with
      | digestMismatch expected actual => exact ⟨Keeps.refl shelf, rfl, hverified⟩
      | _ => exact ⟨Keeps.refl shelf, trivial⟩

theorem linkQuarantine_upholds (taken : Nat) (start : Shelf) :
    Upholds answers (Keeps digest start) (OnOk fun _ shelf => shelf = start)
      (linkQuarantine taken).run start := by
  induction taken with
  | zero =>
      unfold linkQuarantine
      apply Keeps.io .probeQuarantine (Keeps.refl start) trivial
      rintro _ shelf rfl hkeeps
      apply Keeps.io .linkQuarantine hkeeps trivial
      rintro _ shelf rfl hkeeps
      apply Keeps.lastIo .syncQuarantine hkeeps trivial
      exact fun _ _ h _ => h
  | succ taken ih =>
      unfold linkQuarantine
      apply Keeps.io .probeQuarantine (Keeps.refl start) trivial
      rintro _ shelf rfl hkeeps
      exact ih

/-- A shelf whose blob is what its digest says, with no name that could be lost. -/
def Shelf.Settled (digest : ContentDigest) (shelf : Shelf) : Prop :=
  shelf.behind = [] ∧ shelf.files.Holds digest 0

theorem finishPromotion_upholds {files : Files} (start : Shelf) (hfiles : start.files = files) :
    Upholds answers (Keeps digest start)
      (OnOk fun _ shelf => shelf.behind = [] ∧ shelf.files = files) finishPromotion.run start := by
  unfold finishPromotion
  apply Keeps.io .setPermissions (Keeps.refl start) trivial
  rintro _ shelf rfl hkeeps
  apply Keeps.io .syncShard hkeeps trivial
  rintro _ _ ⟨-, rfl⟩ hkeeps
  apply Keeps.lastIo .syncRoot hkeeps trivial
  rintro _ _ rfl -
  exact ⟨rfl, hfiles⟩

variable {staged : Blob}

theorem Files.Holds.of_canonical {files : Files} {blob : Blob} (h : files.canonical = some blob)
    (hdigest : digestOf blob.content = digest) : files.Holds digest 0 :=
  ⟨blob, h, hdigest, Nat.zero_le _⟩

theorem promoteStaging_upholds (hstaged : digestOf staged.content = digest) (start : Shelf)
    (hnone : start.files.canonical = none) :
    Upholds answers (Keeps digest start) (OnOk fun _ => Shelf.Settled digest)
      (promoteStaging staged).run start := by
  unfold promoteStaging
  apply Keeps.io (.promote staged) (Keeps.refl start) hnone
  rintro _ _ ⟨-, rfl⟩ hkeeps
  apply hkeeps.after (finishPromotion_upholds _ rfl)
  rintro _ shelf - ⟨hbehind, hfiles⟩
  exact ⟨hbehind, .of_canonical (by rw [hfiles]; rfl) hstaged⟩

theorem promoteRepairStaging_upholds (hstaged : digestOf staged.content = digest) (start : Shelf)
    (hcorrupt : ¬ start.files.Holds digest 0) :
    Upholds answers (Keeps digest start) (OnOk fun _ => Shelf.Settled digest)
      (promoteRepairStaging staged).run start := by
  unfold promoteRepairStaging
  apply Keeps.io (.rename .canonical .sidecar) (Keeps.refl start) hcorrupt
  rintro _ _ ⟨-, rfl⟩ hkeeps
  apply Keeps.handled .syncShard hkeeps trivial
  rintro _ ⟨-, rfl⟩ hkeeps
  apply Keeps.handled (.promote staged) hkeeps rfl
  rintro _ ⟨-, rfl⟩ hkeeps
  apply Upholds.bindOk
  apply hkeeps.after (finishPromotion_upholds _ rfl)
  rintro _ shelf hkeeps ⟨-, hfiles⟩
  have hcanonical : shelf.files.canonical = some staged := by rw [hfiles]; rfl
  have hsome : shelf.files.canonical.isSome := by rw [hcanonical]; rfl
  apply Keeps.io (.remove .sidecar) hkeeps hsome
  rintro _ _ ⟨-, rfl⟩ hkeeps
  apply Keeps.lastIo .syncShard hkeeps trivial
  rintro _ _ ⟨-, rfl⟩ -
  exact ⟨rfl, .of_canonical hcanonical hstaged⟩

theorem replaceCorruptBlob_upholds (hstaged : digestOf staged.content = digest) (start : Shelf)
    (hcorrupt : ¬ start.files.Holds digest 0) :
    Upholds answers (Keeps digest start) (OnOk fun _ => Shelf.Settled digest)
      (replaceCorruptBlob staged).run start := by
  unfold replaceCorruptBlob quarantineCorrupt
  apply Upholds.bindOk
  apply Upholds.bindOk
  apply (Keeps.refl start).after (refreshLease_upholds start)
  intro _ shelf hkeeps hrefreshed
  apply Upholds.bindOk
  apply Upholds.askE hkeeps
  rintro taken _ rfl
  refine ⟨hkeeps, ?_⟩
  apply hkeeps.after (linkQuarantine_upholds taken _)
  rintro _ _ hkeeps rfl
  apply hkeeps.after (promoteRepairStaging_upholds hstaged _ (hcorrupt ∘ hrefreshed.content))
  exact fun _ _ _ => id

/-- What a `publish` that returns leaves: the blob is there under its lease, and its name
is durable unless the blob was there before. -/
structure Published (digest : ContentDigest) (start shelf : Shelf) : Prop where
  lease : shelf.files.Holds digest shelf.clock
  durable : shelf.behind = [] ∨ start.files.Holds digest 0

theorem createShardDurable_upholds (start : Shelf) :
    Upholds answers (Keeps digest start) (OnOk fun _ shelf => shelf = start)
      createShardDurable.run start := by
  unfold createShardDurable
  apply Keeps.io .createShard (Keeps.refl start) trivial
  rintro _ shelf rfl hkeeps
  apply Keeps.io .setPermissions hkeeps trivial
  rintro _ shelf rfl hkeeps
  apply Keeps.lastIo .syncRoot hkeeps trivial
  exact fun _ _ h _ => h

theorem publishStaged_upholds (hstaged : digestOf staged.content = digest) (start : Shelf) :
    Upholds answers (Keeps digest start) (OnOk fun _ => Published digest start)
      (publishStaged digest staged).run start := by
  -- Whichever way the blob got there, the lease is taken last.
  have hlease : ∀ shelf, Keeps digest start shelf → shelf.files.Holds digest 0 →
      shelf.behind = [] ∨ start.files.Holds digest 0 →
        Upholds answers (Keeps digest start) (OnOk fun _ => Published digest start)
          refreshLease.run shelf := by
    intro shelf hkeeps hholds hdurable
    apply hkeeps.after (refreshLease_upholds shelf)
    intro _ shelf' _ hrefreshed
    exact ⟨hrefreshed.lease hholds, hdurable.imp_left hrefreshed.behind⟩
  unfold publishStaged
  apply Upholds.bindOk
  apply (Keeps.refl start).after (createShardDurable_upholds start)
  rintro _ shelf hkeeps rfl
  apply Keeps.io (.exists .canonical) hkeeps trivial
  intro found shelf answered _
  obtain ⟨rfl, hfound⟩ := answered
  have hfound : found = shelf.files.canonical.isSome := hfound found rfl
  cases found with
  | false =>
      have hnone := Option.isNone_iff_eq_none.mp (Option.isSome_eq_false_iff.mp hfound.symm)
      apply Upholds.bindOk
      apply hkeeps.after (promoteStaging_upholds hstaged shelf hnone)
      exact fun _ shelf' hkeeps hsettled => hlease shelf' hkeeps hsettled.2 (Or.inl hsettled.1)
  | true =>
      apply Upholds.bindOk
      apply hkeeps.after (isCorrupt_upholds shelf)
      rintro corrupt _ hkeeps ⟨rfl, hcorrupt⟩
      cases corrupt with
      | true =>
          apply Upholds.bindOk
          apply hkeeps.after (replaceCorruptBlob_upholds hstaged _ hcorrupt.2)
          exact fun _ shelf' hkeeps hsettled =>
            hlease shelf' hkeeps hsettled.2 (Or.inl hsettled.1)
      | false =>
          apply Keeps.io .removeStaged hkeeps trivial
          rintro _ _ rfl hkeeps
          exact hlease _ hkeeps hcorrupt (Or.inr hcorrupt)

theorem openBounded_upholds (maxBytes : Nat) (start : Shelf) :
    Upholds answers (Keeps digest start)
      (OnOk fun bytes shelf => Reconciled start shelf ∧ bytes.length ≤ maxBytes ∧
        ∃ blob, shelf.files.canonical = some blob ∧ bytes = blob.content)
      (openBounded digest maxBytes).run start := by
  unfold openBounded openFile
  apply Upholds.bindOk
  apply (Keeps.refl start).after (reconcile_upholds start)
  intro _ shelf hkeeps hreconciled
  apply Upholds.bindOk
  apply Upholds.bindOk
  apply Upholds.askE hkeeps
  rintro answer shelf ⟨rfl, hanswer⟩
  refine ⟨hkeeps, ?_⟩
  cases answer with
  | error kind =>
      cases kind with
      | notFound => exact ⟨hkeeps, trivial⟩
      | _ => exact ⟨hkeeps, trivial⟩
  | ok content =>
      refine ⟨hkeeps, ?_⟩
      obtain ⟨blob, hblob, rfl⟩ := hanswer content rfl
      change Upholds _ _ _ (ite _ _ _) _
      split
      · exact ⟨hkeeps, trivial⟩
      · next hle =>
          have hle : blob.content.length ≤ maxBytes := Nat.le_of_not_lt hle
          have htake : blob.content.take maxBytes = blob.content := List.take_of_length_le hle
          rw [htake]
          exact ⟨hkeeps, hreconciled, hle, blob, hblob, rfl⟩

theorem verifyReconciled_upholds (start : Shelf) :
    Upholds answers (Keeps digest start)
      (OnOk fun _ shelf => Reconciled start shelf ∧ shelf.files.Holds digest 0)
      (verifyReconciled digest).run start := by
  unfold verifyReconciled
  apply Upholds.bindOk
  apply (Keeps.refl start).after (reconcile_upholds start)
  intro _ shelf hkeeps hreconciled
  apply (verifyFile_upholds shelf).mono
  · rintro _ rfl
    exact hkeeps
  · rintro result _ rfl hverified
    cases result with
    | ok _ => exact ⟨hreconciled, hverified⟩
    | error error => exact trivial

omit [Sha256] in
/-- What a collection that removes a blob does to its shelf. -/
def Collected (now grace : Nat) (start shelf : Shelf) : Prop :=
  ∃ blob, start.files.canonical = some blob ∧ blob.modified ≤ now ∧ grace ≤ now - blob.modified ∧
    shelf = start.become (start.files.put none .canonical)

omit [Sha256] in
theorem collectOne_upholds (now grace : Nat) (start : Shelf) :
    Upholds answers (fun shelf => shelf = start ∨ Collected now grace start shelf)
      (fun _ _ => True) (collectOne now grace).run start := by
  unfold collectOne
  apply Upholds.bindE
  apply Upholds.askE
  case hs => exact Or.inl rfl
  rintro answer shelf ⟨rfl, hanswer⟩
  refine ⟨Or.inl rfl, ?_⟩
  cases answer with
  | error kind =>
      cases kind with
      | notFound => exact ⟨Or.inl rfl, trivial⟩
      | _ => exact ⟨Or.inl rfl, trivial⟩
  | ok modified =>
      obtain ⟨blob, hblob, rfl⟩ := hanswer modified rfl
      change Upholds _ _ _ (ite _ _ _) _
      split
      · next hold =>
          have hcollected :
              Collected now grace shelf (shelf.become (shelf.files.put none .canonical)) :=
            ⟨blob, hblob, hold.1, hold.2, rfl⟩
          apply Upholds.bindE
          apply Upholds.mapErrorE
          apply Upholds.attemptE
          case hs => exact Or.inl rfl
          intro answer shelf' answered
          cases answer with
          | ok _ =>
              obtain ⟨-, rfl⟩ := answered
              exact ⟨Or.inr hcollected, Or.inr hcollected, trivial⟩
          | error kind =>
              rcases answered with rfl | ⟨-, rfl⟩
              · exact ⟨Or.inl rfl, trivial⟩
              · exact ⟨Or.inr hcollected, trivial⟩
      · exact ⟨Or.inl rfl, trivial⟩

end Sections

end YakShed.Artifacts
