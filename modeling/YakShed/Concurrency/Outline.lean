/-
# Proof outlines

An invariant of the shared world alone is rarely enough: it has to speak of
what each task is in the middle of. In an outline every task holds a token, an
auxiliary value that only its own actions change, and `Valid` relates the world
to the tokens of all tasks. `Ok` walks a program once and asks of each action
that it keep `Valid` whatever tokens the others hold; `sound` turns this into an
invariant of every reached configuration.
-/

import YakShed.Concurrency.Program
import Mathlib.Data.List.Forall2
import Mathlib.Data.List.Perm.Basic

namespace Concurrent

universe u v

variable {Act : Type → Type u} {Proc : Type → Type v} {σ ω : Type}

/-- The auxiliary part of a proof about every interleaving. -/
structure Outline (Proc : Type → Type v) (σ : Type) where
  Token : Type
  Valid : σ → List Token → Prop
  /-- Tasks have no order. -/
  perm : ∀ {world : σ} {tokens tokens' : List Token}, tokens.Perm tokens' →
    Valid world tokens → Valid world tokens'
  /-- The token with which a procedure may be called, for what it then returns. -/
  spec : {β : Type} → Proc β → Token → (β → Token → Prop) → Prop
  /-- What a finished task may still hold. -/
  Idle : Token → Prop

namespace Outline

variable (outline : Outline Proc σ) (machine : Machine Act Proc σ ω)
  (admits : ∀ β : Type, Act β → ω → σ → Prop)

/-- An action may be performed with a token, and leaves one for its answer. -/
def Step {β : Type} (act : Act β) (token : outline.Token) (Q : β → outline.Token → Prop) : Prop :=
  ∀ (world : σ) (others : List outline.Token) (oracle : ω) (answer : β) (world' : σ)
    (spawned : List (Proc Unit)), outline.Valid world (token :: others) →
    admits β act oracle world → machine.exec act oracle world = some (answer, world', spawned) →
    ∃ (token' : outline.Token) (started : List outline.Token),
      List.Forall₂ (fun proc held => outline.spec proc held fun _ => outline.Idle) spawned started ∧
      outline.Valid world' (token' :: started ++ others) ∧ Q answer token'

/-- A program may run with a token and ends as `Q` says. -/
def Ok {α : Type} (Q : α → outline.Token → Prop) :
    Prog Act Proc α → outline.Token → Prop
  | .done value, token => Q value token
  | .perform act next, token =>
      outline.Step machine admits act token fun answer held => Ok Q (next answer) held
  | .call proc next, token =>
      ∃ R, outline.spec proc token R ∧ ∀ result held, R result held → Ok Q (next result) held

variable {outline machine admits} {α β : Type}

theorem Step.mono {act : Act β} {token : outline.Token} {Q Q' : β → outline.Token → Prop}
    (hQ : ∀ answer held, Q answer held → Q' answer held)
    (h : outline.Step machine admits act token Q) : outline.Step machine admits act token Q' := by
  intro world others oracle answer world' spawned hvalid hadmits hexec
  obtain ⟨held, started, hstarted, hvalid', hq⟩ :=
    h world others oracle answer world' spawned hvalid hadmits hexec
  exact ⟨held, started, hstarted, hvalid', hQ answer held hq⟩

/-! ## Rules -/

theorem Ok.mono {Q Q' : α → outline.Token → Prop}
    (hQ : ∀ value held, Q value held → Q' value held) {program : Prog Act Proc α}
    {token : outline.Token} (h : outline.Ok machine admits Q program token) :
    outline.Ok machine admits Q' program token := by
  induction program generalizing token with
  | done value => exact hQ value token h
  | perform act next ih => exact Step.mono (fun answer held => ih answer) h
  | call proc next ih =>
      obtain ⟨R, hspec, hnext⟩ := h
      exact ⟨R, hspec, fun result held hR => ih result (hnext result held hR)⟩

theorem Ok.bind {Q : β → outline.Token → Prop} {program : Prog Act Proc α}
    {rest : α → Prog Act Proc β} {token : outline.Token}
    (h : outline.Ok machine admits (fun value held => outline.Ok machine admits Q (rest value) held)
      program token) : outline.Ok machine admits Q (program >>= rest) token := by
  change outline.Ok machine admits Q (program.bind rest) token
  induction program generalizing token with
  | done value => exact h
  | perform act next ih => exact Step.mono (fun answer held => ih answer) h
  | call proc next ih =>
      obtain ⟨R, hspec, hnext⟩ := h
      exact ⟨R, hspec, fun result held hR => ih result (hnext result held hR)⟩

theorem Ok.pure {Q : α → outline.Token → Prop} {value : α} {token : outline.Token}
    (h : Q value token) : outline.Ok machine admits Q (pure value) token := h

theorem Ok.act {Q : β → outline.Token → Prop} {action : Act β} {token : outline.Token}
    (h : outline.Step machine admits action token Q) :
    outline.Ok machine admits Q (Prog.act action) token := h

theorem Ok.invoke {Q : β → outline.Token → Prop} {proc : Proc β} {token : outline.Token}
    (h : outline.spec proc token Q) : outline.Ok machine admits Q (Prog.invoke proc) token :=
  ⟨Q, h, fun _ _ hQ => hQ⟩

variable (outline machine admits) in
/-- An action that the token's holder may always perform and that leaves the
token as it is. -/
def Keeps (action : Act β) (token : outline.Token) : Prop :=
  outline.Step machine admits action token fun _ held => held = token

theorem Keeps.step {Q : β → outline.Token → Prop} {action : Act β} {token : outline.Token}
    (h : outline.Keeps machine admits action token) (hQ : ∀ answer, Q answer token) :
    outline.Step machine admits action token Q :=
  Step.mono (by rintro answer _ rfl; exact hQ answer) h

variable (outline machine admits) in
/-- The program leaves the token as it is. -/
def Stays (token : outline.Token) (program : Prog Act Proc α) : Prop :=
  outline.Ok machine admits (fun _ held => held = token) program token

theorem Stays.ok {Q : α → outline.Token → Prop} {program : Prog Act Proc α} {token : outline.Token}
    (h : outline.Stays machine admits token program) (hQ : ∀ value, Q value token) :
    outline.Ok machine admits Q program token :=
  Ok.mono (by rintro value _ rfl; exact hQ value) h

theorem Stays.done {token : outline.Token} (value : α) :
    outline.Stays machine admits token (.done value : Prog Act Proc α) := rfl

theorem Stays.bind {program : Prog Act Proc α} {rest : α → Prog Act Proc β}
    {token : outline.Token} (h : outline.Stays machine admits token program)
    (hrest : ∀ value, outline.Stays machine admits token (rest value)) :
    outline.Stays machine admits token (program >>= rest) :=
  Ok.bind (h.ok hrest)

theorem Stays.act {action : Act β} {token : outline.Token}
    (h : outline.Keeps machine admits action token) :
    outline.Stays machine admits token (Prog.act action) := h

theorem Stays.invoke {proc : Proc β} {token : outline.Token}
    (h : outline.spec proc token fun _ held => held = token) :
    outline.Stays machine admits token (Prog.invoke proc) := Ok.invoke h

/-- What a program returns, beside what it leaves. -/
theorem Ok.and_ends {Q : α → outline.Token → Prop} {P : α → Prop} {program : Prog Act Proc α}
    {token : outline.Token} (h : outline.Ok machine admits Q program token)
    (hends : program.Ends P) :
    outline.Ok machine admits (fun value held => Q value held ∧ P value) program token := by
  induction program generalizing token with
  | done value => exact ⟨h, hends⟩
  | perform act next ih => exact Step.mono (fun answer held hok => ih answer hok (hends answer)) h
  | call proc next ih =>
      obtain ⟨R, hspec, hnext⟩ := h
      exact ⟨R, hspec, fun result held hR => ih result (hnext result held hR) (hends result)⟩

/-! ## Soundness -/

variable (outline machine admits) in
/-- The tasks can be given tokens they run well with. -/
def Holds (config : Config Act Proc σ) : Prop :=
  ∃ tokens : List outline.Token,
    List.Forall₂ (fun task held => outline.Ok machine admits (fun _ => outline.Idle) task held)
      config.tasks tokens ∧
    outline.Valid config.world tokens

/-- One task of many, and putting another program with another token in its
place. -/
theorem forall₂_split {A B : Type*} {R : A → B → Prop} {xs : List A} {ys : List B}
    (h : List.Forall₂ R xs ys) {i : Nat} {x : A} (hx : xs[i]? = some x) :
    ∃ before y after, ys = before ++ y :: after ∧ R x y ∧
      ∀ x' y', R x' y' → List.Forall₂ R (xs.set i x') (before ++ y' :: after) := by
  induction h generalizing i with
  | nil => cases hx
  | @cons head held rest holds hhead hrest ih =>
      cases i with
      | zero =>
          cases hx
          exact ⟨[], held, holds, rfl, hhead, fun x' y' hxy => .cons hxy hrest⟩
      | succ i =>
          obtain ⟨before, y, after, rfl, hxy, hset⟩ := ih hx
          exact ⟨held :: before, y, after, rfl, hxy,
            fun x' y' hxy' => .cons hhead (hset x' y' hxy')⟩

theorem forall₂_append {A B : Type*} {R : A → B → Prop} {xs xs' : List A} {ys ys' : List B}
    (h : List.Forall₂ R xs ys) (h' : List.Forall₂ R xs' ys') :
    List.Forall₂ R (xs ++ xs') (ys ++ ys') :=
  List.rel_append h h'

/-- Every procedure's body does what its specification says. -/
def Sound (outline : Outline Proc σ) (machine : Machine Act Proc σ ω)
    (admits : ∀ β : Type, Act β → ω → σ → Prop) : Prop :=
  ∀ {β : Type} (proc : Proc β) (token : outline.Token) (Q : β → outline.Token → Prop),
    outline.spec proc token Q → outline.Ok machine admits Q (machine.body proc) token

/-- A call from outside can be given a token at any time. -/
def Open (outline : Outline Proc σ) (external : Proc Unit → Bool) : Prop :=
  ∀ (proc : Proc Unit) (world : σ) (tokens : List outline.Token), external proc = true →
    outline.Valid world tokens →
    ∃ token, (outline.spec proc token fun _ => outline.Idle) ∧ outline.Valid world (token :: tokens)

theorem Holds.step (hsound : outline.Sound machine admits) {config config' : Config Act Proc σ}
    {i : Nat} {oracle : ω} (h : outline.Holds machine admits config)
    (hallowed : config.Allows admits i oracle)
    (htaken : machine.step i oracle config = some config') :
    outline.Holds machine admits config' := by
  obtain ⟨tokens, htasks, hvalid⟩ := h
  rcases Machine.step_cases htaken with
    ⟨β, act, next, answer, world, spawned, htask, hexec, rfl⟩ | ⟨β, proc, next, htask, rfl⟩
  · obtain ⟨before, token, after, rfl, hok, hset⟩ := forall₂_split htasks htask
    obtain ⟨token', started, hstarted, hvalid', hnext⟩ :=
      hok config.world (before ++ after) oracle answer world spawned
        (outline.perm List.perm_middle hvalid) (Config.allows_perform hallowed htask) hexec
    refine ⟨(before ++ token' :: after) ++ started, forall₂_append (hset _ token' hnext) ?_, ?_⟩
    · rw [List.forall₂_map_left_iff]
      exact hstarted.imp fun _ _ hspec => Ok.invoke hspec
    · refine outline.perm ?_ hvalid'
      have hrotate : (started ++ (before ++ after)).Perm (before ++ (after ++ started)) := by
        rw [← List.append_assoc before]
        exact List.perm_append_comm
      have hinsert := (hrotate.cons token').trans List.perm_middle.symm
      simpa using hinsert
  · obtain ⟨before, token, after, rfl, ⟨R, hspec, hnext⟩, hset⟩ := forall₂_split htasks htask
    refine ⟨before ++ token :: after, hset _ token ?_, hvalid⟩
    exact Ok.bind ((hsound proc token R hspec).mono hnext)

/-- Every reached configuration holds the outline. -/
theorem sound (hsound : outline.Sound machine admits) {external : Proc Unit → Bool}
    (hopen : outline.Open external) {start config : Config Act Proc σ}
    (hstart : outline.Holds machine admits start)
    (h : Machine.Reach machine admits external start config) :
    outline.Holds machine admits config := by
  induction h with
  | start => exact hstart
  | step i oracle _ allowed taken ih => exact ih.step hsound allowed taken
  | spawn proc _ outside ih =>
      obtain ⟨tokens, htasks, hvalid⟩ := ih
      obtain ⟨token, hspec, hvalid'⟩ := hopen proc _ tokens outside hvalid
      refine ⟨tokens ++ [token], forall₂_append htasks (.cons (Ok.invoke hspec) .nil), ?_⟩
      exact outline.perm (List.perm_append_singleton token tokens).symm hvalid'

end Outline

end Concurrent
