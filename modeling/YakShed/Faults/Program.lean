/-
# Programs of fallible calls

Programs that do nothing but call, and a world that answers. The world says for
each call which answers it allows and what it is like after each of them, so that
an error is an answer like any other. A run may be cut off between two calls.

`Upholds` is the rule for such programs: an invariant holds wherever a run is cut
off, and a postcondition where it ends. The rules below take a program apart along
its binds; those for `Within` say that a program moves the world only along a
preorder, which is all that needs to be known about most of its parts.
-/

import Mathlib.Order.Defs.Unbundled

namespace Faults

universe u

/-- A program that returns an `α`: finished, or one call and the rest of the program. -/
inductive Prog (Call : Type → Type u) (α : Type) : Type (max 1 u)
  | done (value : α)
  | call {β : Type} (request : Call β) (next : β → Prog Call α)

variable {Call : Type → Type u} {α β ε σ τ : Type}

namespace Prog

def bind : Prog Call α → (α → Prog Call β) → Prog Call β
  | done value, rest => rest value
  | call request next, rest => call request fun answer => (next answer).bind rest

instance : Monad (Prog Call) where
  pure := done
  bind := bind

end Prog

/-- The programs that may throw. -/
abbrev Fallible (Call : Type → Type u) (ε α : Type) : Type (max 1 u) := ExceptT ε (Prog Call) α

namespace Fallible

/-- One call, whose answer is a value even where it is an error. -/
def ask (request : Call α) : Fallible Call ε α :=
  ExceptT.mk (.call request fun answer => .done (.ok answer))

/-- One call whose error is thrown. -/
def attempt (request : Call (Except ε α)) : Fallible Call ε α := ExceptT.mk (.call request .done)

/-- The errors of a program under another type. -/
def mapError {ε' : Type} (f : ε → ε') (program : Fallible Call ε α) : Fallible Call ε' α :=
  ExceptT.mk (program.run.bind fun result => .done (result.mapError f))

/-- What comes after a program that has thrown. -/
def handle {ε' : Type} (program : Fallible Call ε α) (handler : ε → Fallible Call ε' α) :
    Fallible Call ε' α :=
  ExceptT.mk (program.run.bind fun result =>
    match result with
    | .ok value => .done (.ok value)
    | .error error => (handler error).run)

def throwIf (problem : Bool) (error : ε) : Fallible Call ε Unit :=
  if problem then throw error else pure ()

end Fallible

/-! ## Runs -/

/-- The answers a world allows to a call, each with the world after it. -/
abbrev Answers (Call : Type → Type u) (σ : Type) : Type (max 1 u) :=
  ∀ β : Type, Call β → σ → β → σ → Prop

/-- The runs of a program: what it returns, `none` where it was cut off, and the world then. -/
inductive Runs (answers : Answers Call σ) : Prog Call α → σ → Option α → σ → Prop
  | done {value : α} {s : σ} : Runs answers (.done value) s (some value) s
  | cut {program : Prog Call α} {s : σ} : Runs answers program s none s
  | call {β : Type} {request : Call β} {next : β → Prog Call α} {answer : β} {s s' s'' : σ}
      {result : Option α} (answered : answers β request s answer s')
      (rest : Runs answers (next answer) s' result s'') :
      Runs answers (.call request next) s result s''

variable {answers : Answers Call σ} {inv : σ → Prop} {s : σ}

/-- The invariant holds at every point of every run and the postcondition at its end. -/
def Upholds (answers : Answers Call σ) (inv : σ → Prop) (post : α → σ → Prop) :
    Prog Call α → σ → Prop
  | .done value, s => inv s ∧ post value s
  | .call request next, s =>
      inv s ∧ ∀ answer s', answers _ request s answer s' →
        Upholds answers inv post (next answer) s'

theorem Upholds.start {post : α → σ → Prop} {program : Prog Call α}
    (h : Upholds answers inv post program s) : inv s := by
  cases program with
  | done value => exact h.1
  | call request next => exact h.1

/-- The rule is sound. -/
theorem Upholds.runs {post : α → σ → Prop} {program : Prog Call α} {result : Option α} {s' : σ}
    (h : Upholds answers inv post program s) (run : Runs answers program s result s') :
    inv s' ∧ ∀ value, result = some value → post value s' := by
  induction run with
  | done =>
      refine ⟨h.1, ?_⟩
      intro value heq
      cases heq
      exact h.2
  | cut =>
      refine ⟨h.start, ?_⟩
      rintro value h
      cases h
  | call answered _ ih => exact ih (h.2 _ _ answered)

theorem Upholds.mono {inv' : σ → Prop} {post post' : α → σ → Prop} {program : Prog Call α}
    (hinv : ∀ s, inv s → inv' s) (hpost : ∀ value s, inv s → post value s → post' value s)
    (h : Upholds answers inv post program s) : Upholds answers inv' post' program s := by
  induction program generalizing s with
  | done value => exact ⟨hinv s h.1, hpost value s h.1 h.2⟩
  | call request next ih =>
      exact ⟨hinv s h.1, fun answer s' answered => ih answer (h.2 answer s' answered)⟩

theorem Upholds.bind {post : β → σ → Prop} {program : Prog Call α} {rest : α → Prog Call β}
    (h : Upholds answers inv (fun value => Upholds answers inv post (rest value)) program s) :
    Upholds answers inv post (program.bind rest) s := by
  induction program generalizing s with
  | done value => exact h.2
  | call request next ih =>
      exact ⟨h.1, fun answer s' answered => ih answer (h.2 answer s' answered)⟩

/-! ## Programs that may throw -/

namespace Upholds

variable {post : Except ε β → σ → Prop}

/-- The rule for a bind: the rest is run after a value and skipped after an error. -/
theorem bindE {program : Fallible Call ε α} {rest : α → Fallible Call ε β}
    (h : Upholds answers inv (fun result s =>
      match result with
      | .ok value => Upholds answers inv post (rest value).run s
      | .error error => post (.error error) s) program.run s) :
    Upholds answers inv post (program >>= rest).run s := by
  apply Upholds.bind
  apply h.mono (fun s hs => hs)
  intro result s hs hresult
  cases result with
  | ok value => exact hresult
  | error error => exact ⟨hs, hresult⟩

theorem pureE {value : β} (hs : inv s) (h : post (.ok value) s) :
    Upholds answers inv post (pure value : Fallible Call ε β).run s := ⟨hs, h⟩

theorem throwE {error : ε} (hs : inv s) (h : post (.error error) s) :
    Upholds answers inv post (throw error : Fallible Call ε β).run s := ⟨hs, h⟩

theorem askE {request : Call β} (hs : inv s)
    (h : ∀ answer s', answers _ request s answer s' → inv s' ∧ post (.ok answer) s') :
    Upholds answers inv post (Fallible.ask request : Fallible Call ε β).run s :=
  ⟨hs, fun answer s' answered => h answer s' answered⟩

theorem attemptE {request : Call (Except ε β)} (hs : inv s)
    (h : ∀ answer s', answers _ request s answer s' → inv s' ∧ post answer s') :
    Upholds answers inv post (Fallible.attempt request).run s :=
  ⟨hs, fun answer s' answered => h answer s' answered⟩

theorem mapErrorE {ε' : Type} {f : ε → ε'} {post : Except ε' β → σ → Prop}
    {program : Fallible Call ε β}
    (h : Upholds answers inv (fun result s => post (result.mapError f) s) program.run s) :
    Upholds answers inv post (program.mapError f).run s := by
  apply Upholds.bind
  apply h.mono (fun s hs => hs)
  exact fun result s hs hresult => ⟨hs, hresult⟩

theorem handleE {ε' : Type} {post : Except ε' β → σ → Prop} {program : Fallible Call ε β}
    {handler : ε → Fallible Call ε' β}
    (h : Upholds answers inv (fun result s =>
      match result with
      | .ok value => post (.ok value) s
      | .error error => Upholds answers inv post (handler error).run s) program.run s) :
    Upholds answers inv post (program.handle handler).run s := by
  apply Upholds.bind
  apply h.mono (fun s hs => hs)
  intro result s hs hresult
  cases result with
  | ok value => exact ⟨hs, hresult⟩
  | error error => exact hresult

end Upholds

/-! ## Results without an error -/

/-- A postcondition of what is returned without an error. -/
def OnOk (post : α → σ → Prop) : Except ε α → σ → Prop
  | .ok value, s => post value s
  | .error _, _ => True

namespace Upholds

variable {post : β → σ → Prop}

/-- The rule for a part of a program whose error is the program's. -/
theorem bindOk {program : Fallible Call ε α} {rest : α → Fallible Call ε β}
    (h : Upholds answers inv (OnOk fun value => Upholds answers inv (OnOk post) (rest value).run)
      program.run s) :
    Upholds answers inv (OnOk post) (program >>= rest).run s := by
  apply Upholds.bindE
  apply h.mono fun _ => id
  intro result s' _ hresult
  cases result with
  | ok value => exact hresult
  | error error => exact trivial

theorem monoOk {inv' : σ → Prop} {post' : β → σ → Prop} {program : Fallible Call ε β}
    (h : Upholds answers inv (OnOk post) program.run s) (hinv : ∀ s, inv s → inv' s)
    (hpost : ∀ value s, inv s → post value s → post' value s) :
    Upholds answers inv' (OnOk post') program.run s := by
  apply h.mono hinv
  intro result s' hs' hresult
  cases result with
  | ok value => exact hpost value s' hs' hresult
  | error error => exact trivial

/-- The rule for a call whose answer is looked at. -/
theorem askOk {request : Call α} {rest : α → Fallible Call ε β} (hs : inv s)
    (h : ∀ answer s', answers _ request s answer s' →
      Upholds answers inv (OnOk post) (rest answer).run s') :
    Upholds answers inv (OnOk post) (Fallible.ask request >>= rest).run s := by
  apply Upholds.bindOk
  apply Upholds.askE hs
  intro answer s' answered
  have hrest := h answer s' answered
  exact ⟨hrest.start, hrest⟩

/-- The rule for a call whose error is thrown under another type. -/
theorem callOk {ε' : Type} {f : ε' → ε} {request : Call (Except ε' β)} (hs : inv s)
    (h : ∀ answer s', answers _ request s answer s' →
      inv s' ∧ ∀ value, answer = .ok value → post value s') :
    Upholds answers inv (OnOk post) ((Fallible.attempt request).mapError f).run s := by
  apply Upholds.mapErrorE
  apply Upholds.attemptE hs
  intro answer s' answered
  obtain ⟨hs', hok⟩ := h answer s' answered
  cases answer with
  | ok value => exact ⟨hs', hok value rfl⟩
  | error error => exact ⟨hs', trivial⟩

end Upholds

/-! ## Programs that move along a preorder -/

/-- A program moves the world along a relation, wherever it is cut off. -/
def Within (answers : Answers Call σ) (R : σ → σ → Prop) (program : Prog Call α) : Prop :=
  ∀ s, Upholds answers (R s) (fun _ => R s) program s

/-- A program leaves what `view` sees of the world alone. -/
abbrev Keeps (answers : Answers Call σ) (view : σ → τ) (program : Prog Call α) : Prop :=
  Within answers (fun s s' => view s' = view s) program

instance keepsPreorder (view : σ → τ) : IsPreorder σ fun s s' => view s' = view s where
  refl _ := rfl
  trans _ _ _ h h' := h'.trans h

variable {R : σ → σ → Prop}

namespace Within

/-- A part of a program goes first. -/
theorem first {program : Fallible Call ε α} {rest : α → Fallible Call ε β}
    {post : Except ε β → σ → Prop} (h : Within answers R program.run)
    (hinv : ∀ s', R s s' → inv s')
    (hok : ∀ value s', R s s' → Upholds answers inv post (rest value).run s')
    (herror : ∀ error s', R s s' → post (.error error) s') :
    Upholds answers inv post (program >>= rest).run s := by
  apply Upholds.bindE
  apply (h s).mono hinv
  intro result s' _ hview
  cases result with
  | ok value => exact hok value s' hview
  | error error => exact herror error s' hview

theorem mono {R' : σ → σ → Prop} {program : Prog Call α} (hR : ∀ s s', R s s' → R' s s')
    (h : Within answers R program) : Within answers R' program :=
  fun s => (h s).mono (hR s) fun _ s' _ => hR s s'

variable [IsPreorder σ R]

theorem bind {program : Prog Call α} {rest : α → Prog Call β} (h : Within answers R program)
    (hrest : ∀ value, Within answers R (rest value)) : Within answers R (program.bind rest) := by
  intro s
  apply Upholds.bind
  apply (h s).mono (fun s' hs => hs)
  intro value s' _ hs
  exact (hrest value s').mono (fun s'' hs' => IsTrans.trans s s' s'' hs hs')
    fun _ s'' _ hs' => IsTrans.trans s s' s'' hs hs'

theorem done (value : α) : Within answers R (.done value : Prog Call α) :=
  fun s => ⟨refl_of R s, refl_of R s⟩

theorem bindE {program : Fallible Call ε α} {rest : α → Fallible Call ε β}
    (h : Within answers R program.run) (hrest : ∀ value, Within answers R (rest value).run) :
    Within answers R (program >>= rest).run := by
  apply Within.bind h
  intro result
  cases result with
  | ok value => exact hrest value
  | error error => exact Within.done _

theorem pureE (value : α) : Within answers R (pure value : Fallible Call ε α).run :=
  Within.done _

theorem throwE (error : ε) : Within answers R (throw error : Fallible Call ε α).run :=
  Within.done _

theorem throwIfE (problem : Bool) (error : ε) :
    Within answers R (Fallible.throwIf problem error : Fallible Call ε Unit).run := by
  cases problem with
  | true => exact Within.done _
  | false => exact Within.done _

theorem call {β : Type} {request : Call β} {next : β → Prog Call α}
    (h : ∀ s answer s', answers _ request s answer s' → R s s')
    (hnext : ∀ answer, Within answers R (next answer)) :
    Within answers R (.call request next) := by
  intro s
  refine ⟨refl_of R s, ?_⟩
  intro answer s' answered
  have hs := h s answer s' answered
  exact (hnext answer s').mono (fun s'' hs' => IsTrans.trans s s' s'' hs hs')
    fun _ s'' _ hs' => IsTrans.trans s s' s'' hs hs'

theorem askE {request : Call α} (h : ∀ s answer s', answers _ request s answer s' → R s s') :
    Within answers R (Fallible.ask request : Fallible Call ε α).run :=
  Within.call h fun _ => Within.done _

theorem attemptE {request : Call (Except ε α)}
    (h : ∀ s answer s', answers _ request s answer s' → R s s') :
    Within answers R (Fallible.attempt request).run :=
  Within.call h fun _ => Within.done _

theorem mapErrorE {ε' : Type} {f : ε → ε'} {program : Fallible Call ε α}
    (h : Within answers R program.run) : Within answers R (program.mapError f).run :=
  h.bind fun _ => Within.done _

theorem handleE {ε' : Type} {program : Fallible Call ε α} {handler : ε → Fallible Call ε' α}
    (h : Within answers R program.run) (hhandler : ∀ error, Within answers R (handler error).run) :
    Within answers R (program.handle handler).run := by
  apply Within.bind h
  intro result
  cases result with
  | ok value => exact Within.done _
  | error error => exact hhandler error

end Within

/-! ## Replaying a program -/

/-- The run in which every call is answered by a function of the world. -/
def replay (respond : ∀ β : Type, Call β → σ → β × σ) : Prog Call α → σ → α × σ
  | .done value, s => (value, s)
  | .call request next, s =>
      let (answer, s) := respond _ request s
      replay respond (next answer) s

theorem runs_replay {respond : ∀ β : Type, Call β → σ → β × σ}
    (h : ∀ (β : Type) (request : Call β) (s : σ),
      answers β request s (respond β request s).1 (respond β request s).2)
    (program : Prog Call α) (s : σ) :
    Runs answers program s (some (replay respond program s).1) (replay respond program s).2 := by
  induction program generalizing s with
  | done value => exact .done
  | call request next ih => exact .call (h _ request s) (ih _ _)

/-! ## Files -/

abbrev Bytes : Type := List UInt8

inductive IoErrorKind
  | notFound
  | notADirectory
  | permissionDenied
  | alreadyExists
  | invalidInput
  | interrupted
  | wouldBlock
  | other
  deriving DecidableEq

end Faults
