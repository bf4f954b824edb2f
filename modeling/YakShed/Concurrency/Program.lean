/-
# Concurrent programs

Programs of atomic actions and calls of named procedures, and a machine that
interleaves a pool of them over one shared world. Everything an action does not
determine itself (the environment's answers) comes from an oracle, so that a
schedule is a list of task numbers and oracles and can be replayed.

Recursion goes through procedure names, which keeps programs finite trees.
-/

import Mathlib.Data.List.Basic

namespace Concurrent

universe u v

/-- A program that returns an `α`: finished, one atomic action, or a procedure
call, each with the rest of the program. -/
inductive Prog (Act : Type → Type u) (Proc : Type → Type v) (α : Type) : Type (max 1 u v)
  | done (value : α)
  | perform {β : Type} (act : Act β) (next : β → Prog Act Proc α)
  | call {β : Type} (proc : Proc β) (next : β → Prog Act Proc α)

variable {Act : Type → Type u} {Proc : Type → Type v} {α β : Type}

namespace Prog

def bind : Prog Act Proc α → (α → Prog Act Proc β) → Prog Act Proc β
  | done value, rest => rest value
  | perform act next, rest => perform act fun answer => (next answer).bind rest
  | call proc next, rest => call proc fun result => (next result).bind rest

instance : Monad (Prog Act Proc) where
  pure := done
  bind := bind

/-- One action. -/
def act (action : Act α) : Prog Act Proc α := perform action done

/-- One procedure call. -/
def invoke (proc : Proc α) : Prog Act Proc α := call proc done

/-- All that the program may return. -/
def Ends (P : α → Prop) : Prog Act Proc α → Prop
  | done value => P value
  | perform _ next => ∀ answer, (next answer).Ends P
  | call _ next => ∀ result, (next result).Ends P

theorem Ends.bind {P : α → Prop} {Q : β → Prop} {program : Prog Act Proc α}
    {rest : α → Prog Act Proc β} (h : program.Ends P)
    (hrest : ∀ value, P value → (rest value).Ends Q) :
    (program >>= rest).Ends Q := by
  change (program.bind rest).Ends Q
  induction program with
  | done value => exact hrest value h
  | perform act next ih => exact fun answer => ih answer (h answer)
  | call proc next ih => exact fun result => ih result (h result)

theorem Ends.anything (program : Prog Act Proc α) : program.Ends fun _ => True := by
  induction program with
  | done value => trivial
  | perform act next ih => exact ih
  | call proc next ih => exact ih

end Prog

/-! ## The machine -/

/-- What the programs run on: the effect of each action under an oracle, with
the procedures it starts as new tasks (`none` while it cannot run), and the
body of each procedure. -/
structure Machine (Act : Type → Type u) (Proc : Type → Type v) (σ ω : Type) where
  exec : {β : Type} → Act β → ω → σ → Option (β × σ × List (Proc Unit))
  body : {β : Type} → Proc β → Prog Act Proc β

/-- The shared world and the tasks. Finished tasks keep their place. -/
structure Config (Act : Type → Type u) (Proc : Type → Type v) (σ : Type) where
  world : σ
  tasks : List (Prog Act Proc Unit)

variable {σ ω : Type}

namespace Config

/-- A new task that runs a procedure. -/
def spawn (config : Config Act Proc σ) (proc : Proc Unit) : Config Act Proc σ :=
  { config with tasks := config.tasks ++ [Prog.invoke proc] }

/-- The action task `i` is about to perform is admitted. -/
def Allows (admits : ∀ β : Type, Act β → ω → σ → Prop) (config : Config Act Proc σ) (i : Nat)
    (oracle : ω) : Prop :=
  match config.tasks[i]? with
  | some (.perform act _) => admits _ act oracle config.world
  | _ => True

theorem allows_perform {admits : ∀ β : Type, Act β → ω → σ → Prop} {config : Config Act Proc σ}
    {β : Type} {act : Act β} {next : β → Prog Act Proc Unit} {i : Nat} {oracle : ω}
    (h : config.Allows admits i oracle) (htask : config.tasks[i]? = some (.perform act next)) :
    admits β act oracle config.world := by
  unfold Allows at h
  rwa [htask] at h

end Config

namespace Machine

/-- Task `i` takes one step: its next action, or the unfolding of its call. -/
def step (machine : Machine Act Proc σ ω) (i : Nat) (oracle : ω) (config : Config Act Proc σ) :
    Option (Config Act Proc σ) :=
  match config.tasks[i]? with
  | some (.perform act next) =>
      match machine.exec act oracle config.world with
      | some (answer, world, spawned) =>
          some ⟨world, config.tasks.set i (next answer) ++ spawned.map Prog.invoke⟩
      | none => none
  | some (.call proc next) =>
      some { config with tasks := config.tasks.set i ((machine.body proc).bind next) }
  | _ => none

/-- One entry of a schedule: a step of a task, or a call from outside. -/
inductive Move (Proc : Type → Type v) (ω : Type)
  | step (i : Nat) (oracle : ω)
  | spawn (proc : Proc Unit)

/-- Calls from outside are of a kind. -/
def Move.isOutside (external : Proc Unit → Bool) : Move Proc ω → Bool
  | .step .. => true
  | .spawn proc => external proc

def move (machine : Machine Act Proc σ ω) (config : Config Act Proc σ) :
    Move Proc ω → Option (Config Act Proc σ)
  | .step i oracle => machine.step i oracle config
  | .spawn proc => some (config.spawn proc)

/-- The configurations that admitted steps and calls from outside reach. -/
inductive Reach (machine : Machine Act Proc σ ω) (admits : ∀ β : Type, Act β → ω → σ → Prop)
    (external : Proc Unit → Bool) (start : Config Act Proc σ) : Config Act Proc σ → Prop
  | start : Reach machine admits external start start
  | step {config config' : Config Act Proc σ} (i : Nat) (oracle : ω)
      (before : Reach machine admits external start config)
      (allowed : config.Allows admits i oracle)
      (taken : machine.step i oracle config = some config') :
      Reach machine admits external start config'
  | spawn {config : Config Act Proc σ} (proc : Proc Unit)
      (before : Reach machine admits external start config) (outside : external proc = true) :
      Reach machine admits external start (config.spawn proc)

variable {machine : Machine Act Proc σ ω} {admits : ∀ β : Type, Act β → ω → σ → Prop}
  {external : Proc Unit → Bool} {start config config' : Config Act Proc σ}

/-- What a step of a task can do. -/
theorem step_cases {i : Nat} {oracle : ω} (h : machine.step i oracle config = some config') :
    (∃ (β : Type) (act : Act β) (next : β → Prog Act Proc Unit) (answer : β) (world : σ)
        (spawned : List (Proc Unit)), config.tasks[i]? = some (.perform act next) ∧
      machine.exec act oracle config.world = some (answer, world, spawned) ∧
      config' = ⟨world, config.tasks.set i (next answer) ++ spawned.map Prog.invoke⟩) ∨
    ∃ (β : Type) (proc : Proc β) (next : β → Prog Act Proc Unit),
      config.tasks[i]? = some (.call proc next) ∧
      config' = { config with tasks := config.tasks.set i ((machine.body proc).bind next) } := by
  unfold step at h
  split at h
  · next act next htask =>
      split at h
      · next answer world spawned hexec =>
          cases h
          exact .inl ⟨_, act, next, answer, world, spawned, htask, hexec, rfl⟩
      · cases h
  · next proc next htask =>
      cases h
      exact .inr ⟨_, proc, next, htask, rfl⟩
  · cases h

/-- What every admitted action keeps of the world holds of every reached one. -/
theorem Reach.invariant {P : σ → Prop} (hstart : P start.world)
    (hstep : ∀ (β : Type) (act : Act β) (oracle : ω) (world : σ) (answer : β) (world' : σ)
      (spawned : List (Proc Unit)), P world → admits β act oracle world →
      machine.exec act oracle world = some (answer, world', spawned) → P world')
    (h : Reach machine admits external start config) : P config.world := by
  induction h with
  | start => exact hstart
  | step i oracle _ allowed taken ih =>
      rcases step_cases taken with ⟨β, act, next, answer, world, spawned, htask, hexec, rfl⟩ |
        ⟨β, proc, next, _, rfl⟩
      · exact hstep β act oracle _ answer world spawned ih
          (Config.allows_perform allowed htask) hexec
      · exact ih
  | spawn proc _ _ ih => exact ih

theorem Reach.mono {admits' : ∀ β : Type, Act β → ω → σ → Prop}
    (hadmits : ∀ (β : Type) (act : Act β) (oracle : ω) (world : σ),
      admits β act oracle world → admits' β act oracle world)
    (h : Reach machine admits external start config) :
    Reach machine admits' external start config := by
  induction h with
  | start => exact .start
  | step i oracle _ allowed taken ih =>
      refine .step i oracle ih ?_ taken
      unfold Config.Allows at allowed ⊢
      split
      · next act next htask =>
          rw [htask] at allowed
          exact hadmits _ act oracle _ allowed
      · trivial
  | spawn proc _ outside ih => exact .spawn proc ih outside

/-! ## Replaying a schedule -/

/-- A guard on actions and on calls from outside lets the entry pass. -/
def passes (guard : ∀ β : Type, Act β → ω → σ → Bool) (external : Proc Unit → Bool)
    (config : Config Act Proc σ) : Move Proc ω → Bool
  | .step i oracle =>
      match config.tasks[i]? with
      | some (.perform act _) => guard _ act oracle config.world
      | _ => true
  | .spawn proc => external proc

/-- Replays a schedule; `none` when an entry cannot run or does not pass. -/
def replay (machine : Machine Act Proc σ ω) (guard : ∀ β : Type, Act β → ω → σ → Bool)
    (external : Proc Unit → Bool) (config : Config Act Proc σ) (schedule : List (Move Proc ω)) :
    Option (Config Act Proc σ) :=
  schedule.foldlM (fun config entry =>
    if passes guard external config entry then machine.move config entry else none) config

/-- A replayed schedule reaches where it ends. -/
theorem Reach.of_replay {guard : ∀ β : Type, Act β → ω → σ → Bool} {schedule : List (Move Proc ω)}
    (hguard : ∀ (β : Type) (act : Act β) (oracle : ω) (world : σ),
      guard β act oracle world = true → admits β act oracle world)
    (hbefore : Reach machine admits external start config)
    (h : machine.replay guard external config schedule = some config') :
    Reach machine admits external start config' := by
  induction schedule generalizing config with
  | nil =>
      cases h
      exact hbefore
  | cons entry rest ih =>
      obtain ⟨middle, hmove, hrest⟩ := Option.bind_eq_some_iff.mp h
      obtain ⟨hpasses, hmove⟩ := Option.ite_none_right_eq_some.mp hmove
      refine ih ?_ hrest
      cases entry with
      | step i oracle =>
          refine .step i oracle hbefore ?_ hmove
          unfold Config.Allows
          split
          · next act next htask =>
              rw [passes, htask] at hpasses
              exact hguard _ act oracle _ hpasses
          · trivial
      | spawn proc =>
          cases hmove
          exact .spawn proc hbefore hpasses

/-- A schedule whose last configuration passes a check reaches one that does. -/
theorem Reach.exists_of_replay (guard : ∀ β : Type, Act β → ω → σ → Bool)
    (hguard : ∀ (β : Type) (act : Act β) (oracle : ω) (world : σ),
      guard β act oracle world = true → admits β act oracle world)
    (schedule : List (Move Proc ω)) (check : Config Act Proc σ → Bool)
    (h : (machine.replay guard external start schedule).any check = true) :
    ∃ config, Reach machine admits external start config ∧ check config = true := by
  obtain ⟨config, hconfig, hcheck⟩ := (Option.any_eq_true _ _).mp h
  exact ⟨config, .of_replay hguard .start hconfig, hcheck⟩

end Machine

end Concurrent
