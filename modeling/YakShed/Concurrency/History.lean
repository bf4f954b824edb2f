/-
# Histories

The steps that led to a configuration, each with the task that took it, and a
condition on steps that may look at all tasks: what the others are about to do,
and not only at the shared world.
-/

import YakShed.Concurrency.Program

namespace Concurrent

universe u v

variable {Act : Type → Type u} {Proc : Type → Type v} {σ ω : Type}

/-- One step: the task that took it, its action unless it unfolded a call, and
the world after it. -/
structure Moment (Act : Type → Type u) (σ : Type) where
  task : Nat
  act : Option (Sigma Act)
  after : σ

/-- The action that a task performs next. -/
def Config.next (config : Config Act Proc σ) (i : Nat) : Option (Sigma Act) :=
  match config.tasks[i]? with
  | some (.perform act _) => some ⟨_, act⟩
  | _ => none

theorem Config.next_perform {config : Config Act Proc σ} {i : Nat} {β : Type} {act : Act β}
    {rest : β → Prog Act Proc Unit} (h : config.tasks[i]? = some (.perform act rest)) :
    config.next i = some ⟨β, act⟩ := by
  unfold next
  rw [h]

theorem Config.next_call {config : Config Act Proc σ} {i : Nat} {β : Type} {proc : Proc β}
    {rest : β → Prog Act Proc Unit} (h : config.tasks[i]? = some (.call proc rest)) :
    config.next i = none := by
  unfold next
  rw [h]

namespace Machine

/-- The runs whose steps are all allowed, with their steps in order. -/
inductive History (machine : Machine Act Proc σ ω)
    (allows : Config Act Proc σ → Nat → ω → Prop) (external : Proc Unit → Bool)
    (start : Config Act Proc σ) : Config Act Proc σ → List (Moment Act σ) → Prop
  | start : History machine allows external start start []
  | step {config config' : Config Act Proc σ} {moments : List (Moment Act σ)} (i : Nat)
      (oracle : ω) (before : History machine allows external start config moments)
      (allowed : allows config i oracle) (taken : machine.step i oracle config = some config') :
      History machine allows external start config'
        (moments ++ [⟨i, config.next i, config'.world⟩])
  | spawn {config : Config Act Proc σ} {moments : List (Moment Act σ)} (proc : Proc Unit)
      (before : History machine allows external start config moments)
      (outside : external proc = true) :
      History machine allows external start (config.spawn proc) moments

variable {machine : Machine Act Proc σ ω} {allows : Config Act Proc σ → Nat → ω → Prop}
  {external : Proc Unit → Bool} {start config config' : Config Act Proc σ}
  {moments moments' : List (Moment Act σ)}

/-! ## Replaying a schedule -/

/-- Replays a schedule and records its steps; `none` when an entry cannot run or
does not pass. -/
def record (machine : Machine Act Proc σ ω) (guard : Config Act Proc σ → Nat → ω → Bool)
    (external : Proc Unit → Bool) :
    Config Act Proc σ → List (Moment Act σ) → List (Move Proc ω) →
      Option (Config Act Proc σ × List (Moment Act σ))
  | config, moments, [] => some (config, moments)
  | config, moments, .step i oracle :: rest =>
      if guard config i oracle then
        match machine.step i oracle config with
        | some config' =>
            record machine guard external config'
              (moments ++ [⟨i, config.next i, config'.world⟩]) rest
        | none => none
      else none
  | config, moments, .spawn proc :: rest =>
      if external proc then record machine guard external (config.spawn proc) moments rest
      else none

theorem History.of_record {guard : Config Act Proc σ → Nat → ω → Bool}
    {schedule : List (Move Proc ω)}
    (hguard : ∀ config i oracle, guard config i oracle = true → allows config i oracle)
    (hbefore : History machine allows external start config moments)
    (h : machine.record guard external config moments schedule = some (config', moments')) :
    History machine allows external start config' moments' := by
  induction schedule generalizing config moments with
  | nil =>
      cases h
      exact hbefore
  | cons entry rest ih =>
      cases entry with
      | step i oracle =>
          unfold record at h
          split at h
          · next hpasses =>
              split at h
              · next middle hstep =>
                  exact ih (.step i oracle hbefore (hguard _ _ _ hpasses) hstep) h
              · cases h
          · cases h
      | spawn proc =>
          unfold record at h
          split at h
          · next houtside => exact ih (.spawn proc hbefore houtside) h
          · cases h

/-- A recorded schedule that passes a check is a history that does. -/
theorem History.exists_of_record (guard : Config Act Proc σ → Nat → ω → Bool)
    (hguard : ∀ config i oracle, guard config i oracle = true → allows config i oracle)
    (schedule : List (Move Proc ω)) (check : List (Moment Act σ) → Bool)
    (h : (machine.record guard external start [] schedule).any (fun run => check run.2) = true) :
    ∃ config moments, History machine allows external start config moments ∧
      check moments = true := by
  obtain ⟨⟨config, moments⟩, hrecord, hcheck⟩ := (Option.any_eq_true _ _).mp h
  exact ⟨config, moments, .of_record hguard .start hrecord, hcheck⟩

end Machine

end Concurrent
