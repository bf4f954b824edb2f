/-
# Programs side by side

A pool of programs over one world. A step is one call as a whole, so a call may stand
for all that is done under a lock. A program may also end inside of a call, which then
leaves one of the worlds it passes through, or between two calls; and something may
befall the world that ends all programs.

What the calls that programs may make do to the world, any run does: `Reaches.moves`.
-/

import Mathlib.Logic.Relation
import YakShed.Faults.Program

namespace Faults

universe u

variable {Call : Type → Type u} {α β ε σ : Type}

/-! ## The calls of a program -/

/-- Every call that the program can come to is legal. -/
def Prog.Calls (legal : ∀ β : Type, Call β → Prop) : Prog Call α → Prop
  | .done _ => True
  | .call request next => legal _ request ∧ ∀ answer, (next answer).Calls legal

namespace Prog.Calls

variable {legal : ∀ β : Type, Call β → Prop}

theorem bind {program : Prog Call α} {rest : α → Prog Call β} (h : program.Calls legal)
    (hrest : ∀ value, (rest value).Calls legal) : (program.bind rest).Calls legal := by
  induction program with
  | done value => exact hrest value
  | call request next ih => exact ⟨h.1, fun answer => ih answer (h.2 answer)⟩

theorem pureE (value : α) : (pure value : Fallible Call ε α).run.Calls legal := trivial

theorem throwE (error : ε) : (throw error : Fallible Call ε α).run.Calls legal := trivial

theorem askE {request : Call α} (h : legal _ request) :
    (Fallible.ask request : Fallible Call ε α).run.Calls legal :=
  ⟨h, fun _ => trivial⟩

theorem attemptE {request : Call (Except ε α)} (h : legal _ request) :
    (Fallible.attempt request).run.Calls legal :=
  ⟨h, fun _ => trivial⟩

theorem mapErrorE {ε' : Type} {f : ε → ε'} {program : Fallible Call ε α}
    (h : program.run.Calls legal) : (program.mapError f).run.Calls legal :=
  h.bind fun _ => trivial

theorem bindE {program : Fallible Call ε α} {rest : α → Fallible Call ε β}
    (h : program.run.Calls legal) (hrest : ∀ value, (rest value).run.Calls legal) :
    (program >>= rest).run.Calls legal := by
  apply h.bind
  intro result
  cases result with
  | ok value => exact hrest value
  | error error => exact trivial

end Prog.Calls

/-! ## Pools -/

structure Pool (Call : Type → Type u) (σ : Type) where
  world : σ
  tasks : List (Prog Call Unit)

/-- What a pool runs in. -/
structure Surroundings (Call : Type → Type u) (σ : Type) where
  answers : Answers Call σ
  /-- The worlds that a call which is never answered may leave. -/
  interrupts : ∀ β : Type, Call β → σ → σ → Prop
  /-- What may befall the world, and ends all programs. -/
  fails : σ → σ → Prop
  /-- The programs that are started. -/
  starts : Prog Call Unit → Prop

namespace Pool

/-- One step of the pool. -/
inductive Step (around : Surroundings Call σ) : Pool Call σ → Pool Call σ → Prop
  | answer {pool : Pool Call σ} {β : Type} {request : Call β} {next : β → Prog Call Unit}
      {answer : β} {world : σ} (i : Nat) (task : pool.tasks[i]? = some (.call request next))
      (answered : around.answers β request pool.world answer world) :
      Step around pool ⟨world, pool.tasks.set i (next answer)⟩
  | interrupt {pool : Pool Call σ} {β : Type} {request : Call β} {next : β → Prog Call Unit}
      {world : σ} (i : Nat) (task : pool.tasks[i]? = some (.call request next))
      (interrupted : around.interrupts β request pool.world world) :
      Step around pool ⟨world, pool.tasks.set i (.done ())⟩
  | drop {pool : Pool Call σ} (i : Nat) :
      Step around pool { pool with tasks := pool.tasks.set i (.done ()) }
  | fail {pool : Pool Call σ} {world : σ} (failed : around.fails pool.world world) :
      Step around pool ⟨world, []⟩
  | start {pool : Pool Call σ} (program : Prog Call Unit) (started : around.starts program) :
      Step around pool { pool with tasks := pool.tasks ++ [program] }

def Reaches (around : Surroundings Call σ) : Pool Call σ → Pool Call σ → Prop :=
  Relation.ReflTransGen (Step around)

variable {around : Surroundings Call σ} {pool pool' : Pool Call σ}
  {legal : ∀ β : Type, Call β → Prop} {R : σ → σ → Prop}

/-- The tasks make legal calls only. -/
def Legal (legal : ∀ β : Type, Call β → Prop) (pool : Pool Call σ) : Prop :=
  ∀ task ∈ pool.tasks, task.Calls legal

theorem Legal.calls (h : pool.Legal legal) {i : Nat} {request : Call β}
    {next : β → Prog Call Unit} (task : pool.tasks[i]? = some (.call request next)) :
    legal β request ∧ ∀ answer, (next answer).Calls legal :=
  h _ (List.mem_of_getElem? task)

theorem Legal.set (h : pool.Legal legal) (world : σ) (i : Nat) {program : Prog Call Unit}
    (hprogram : program.Calls legal) :
    Legal legal (⟨world, pool.tasks.set i program⟩ : Pool Call σ) := by
  intro task hmem
  rcases List.mem_or_eq_of_mem_set hmem with hmem | rfl
  · exact h task hmem
  · exact hprogram

/-- A step moves the world along a relation that contains what legal calls do. -/
theorem Step.moves (hrefl : ∀ s, R s s)
    (hanswers : ∀ (β : Type) (request : Call β) (s : σ) (answer : β) (s' : σ), legal β request →
      around.answers β request s answer s' → R s s')
    (hinterrupts : ∀ (β : Type) (request : Call β) (s s' : σ), legal β request →
      around.interrupts β request s s' → R s s')
    (hfails : ∀ s s', around.fails s s' → R s s')
    (hstarts : ∀ program, around.starts program → program.Calls legal)
    (hlegal : pool.Legal legal) (h : Step around pool pool') :
    R pool.world pool'.world ∧ pool'.Legal legal := by
  cases h with
  | answer i task answered =>
      obtain ⟨hrequest, hnext⟩ := hlegal.calls task
      exact ⟨hanswers _ _ _ _ _ hrequest answered, hlegal.set _ i (hnext _)⟩
  | interrupt i task interrupted =>
      obtain ⟨hrequest, -⟩ := hlegal.calls task
      exact ⟨hinterrupts _ _ _ _ hrequest interrupted, hlegal.set _ i trivial⟩
  | drop i => exact ⟨hrefl _, hlegal.set _ i trivial⟩
  | fail failed => exact ⟨hfails _ _ failed, fun _ hmem => absurd hmem List.not_mem_nil⟩
  | start program started =>
      refine ⟨hrefl _, ?_⟩
      intro task hmem
      rcases List.mem_append.mp hmem with hmem | hmem
      · exact hlegal task hmem
      · obtain rfl := List.mem_singleton.mp hmem
        exact hstarts task started

/-- Any run moves the world along a preorder that contains what legal calls do. -/
theorem Reaches.moves [IsPreorder σ R]
    (hanswers : ∀ (β : Type) (request : Call β) (s : σ) (answer : β) (s' : σ), legal β request →
      around.answers β request s answer s' → R s s')
    (hinterrupts : ∀ (β : Type) (request : Call β) (s s' : σ), legal β request →
      around.interrupts β request s s' → R s s')
    (hfails : ∀ s s', around.fails s s' → R s s')
    (hstarts : ∀ program, around.starts program → program.Calls legal)
    (hlegal : pool.Legal legal) (h : Reaches around pool pool') :
    R pool.world pool'.world ∧ pool'.Legal legal := by
  induction h with
  | refl => exact ⟨refl_of R _, hlegal⟩
  | tail _ hstep ih =>
      obtain ⟨hmoved, hlegal⟩ := ih
      obtain ⟨hmoves, hlegal⟩ :=
        hstep.moves (refl_of R) hanswers hinterrupts hfails hstarts hlegal
      exact ⟨trans_of R hmoved hmoves, hlegal⟩

instance preservesPreorder (inv : σ → Prop) : IsPreorder σ fun s s' => inv s → inv s' where
  refl _ := id
  trans _ _ _ h h' := h' ∘ h

/-- An invariant that legal calls preserve holds at the end of any run. -/
theorem Reaches.preserves {inv : σ → Prop}
    (hanswers : ∀ (β : Type) (request : Call β) (s : σ) (answer : β) (s' : σ), legal β request →
      around.answers β request s answer s' → inv s → inv s')
    (hinterrupts : ∀ (β : Type) (request : Call β) (s s' : σ), legal β request →
      around.interrupts β request s s' → inv s → inv s')
    (hfails : ∀ s s', around.fails s s' → inv s → inv s')
    (hstarts : ∀ program, around.starts program → program.Calls legal)
    (hlegal : pool.Legal legal) (h : Reaches around pool pool') (hinv : inv pool.world) :
    inv pool'.world :=
  (h.moves hanswers hinterrupts hfails hstarts hlegal).1 hinv

/-! ### Programs that rely on each other -/

section Guarded

variable (around : Surroundings Call σ) (inv : σ → Prop) (R : σ → σ → Prop)
  (right : ∀ β : Type, Call β → σ → Prop)

/-- Whatever the others do along `R`, each next call of the program is right for the world that
it meets. -/
def Guarded : Prog Call α → σ → Prop
  | .done _, _ => True
  | .call request next, s => ∀ s', R s s' → inv s' → right _ request s' ∧
      ∀ answer s'', around.answers _ request s' answer s'' → Guarded (next answer) s''

variable {around inv R right}

theorem Guarded.moved [IsTrans σ R] {program : Prog Call α} {s s' : σ}
    (h : Guarded around inv R right program s) (hR : R s s') :
    Guarded around inv R right program s' := by
  cases program with
  | done value => exact trivial
  | call request next => exact fun s'' hR' => h s'' (trans_of R hR hR')

/-- Where right calls keep the invariant and move the world along `R`, they are the only ones
that a run makes. -/
theorem Reaches.guarded [IsPreorder σ R]
    (hanswers : ∀ (β : Type) (request : Call β) (s : σ) (answer : β) (s' : σ), inv s →
      right β request s → around.answers β request s answer s' → R s s' ∧ inv s')
    (hinterrupts : ∀ (β : Type) (request : Call β) (s s' : σ), inv s → right β request s →
      around.interrupts β request s s' → R s s' ∧ inv s')
    (hfails : ∀ s s', inv s → around.fails s s' → inv s')
    (hstarts : ∀ program s, around.starts program → Guarded around inv R right program s)
    (hinv : inv pool.world)
    (htasks : ∀ task ∈ pool.tasks, Guarded around inv R right task pool.world)
    (h : Reaches around pool pool') :
    inv pool'.world ∧ ∀ task ∈ pool'.tasks, Guarded around inv R right task pool'.world := by
  induction h with
  | refl => exact ⟨hinv, htasks⟩
  | @tail before after _ hstep ih =>
      obtain ⟨hinv, htasks⟩ := ih
      have hset : ∀ (world : σ) (i : Nat) (program : Prog Call Unit), R before.world world →
          Guarded around inv R right program world →
          ∀ task ∈ before.tasks.set i program, Guarded around inv R right task world := by
        intro world i program hR hprogram task hmem
        rcases List.mem_or_eq_of_mem_set hmem with hmem | rfl
        · exact (htasks task hmem).moved hR
        · exact hprogram
      cases hstep with
      | answer i task answered =>
          obtain ⟨hright, hnext⟩ := htasks _ (List.mem_of_getElem? task) _ (refl_of R _) hinv
          obtain ⟨hR, hinv'⟩ := hanswers _ _ _ _ _ hinv hright answered
          exact ⟨hinv', hset _ i _ hR (hnext _ _ answered)⟩
      | interrupt i task interrupted =>
          obtain ⟨hright, -⟩ := htasks _ (List.mem_of_getElem? task) _ (refl_of R _) hinv
          obtain ⟨hR, hinv'⟩ := hinterrupts _ _ _ _ hinv hright interrupted
          exact ⟨hinv', hset _ i _ hR trivial⟩
      | drop i => exact ⟨hinv, hset _ i _ (refl_of R _) trivial⟩
      | fail failed => exact ⟨hfails _ _ hinv failed, fun _ hmem => absurd hmem List.not_mem_nil⟩
      | start program started =>
          refine ⟨hinv, ?_⟩
          intro task hmem
          rcases List.mem_append.mp hmem with hmem | hmem
          · exact htasks task hmem
          · obtain rfl := List.mem_singleton.mp hmem
            exact hstarts task _ started

end Guarded

/-- A program that is started and runs to its end beside others that wait. -/
theorem Reaches.alone {program : Prog Call Unit} {s s' : σ}
    (run : Runs around.answers program s (some ()) s') (started : around.starts program)
    (tasks : List (Prog Call Unit)) :
    Reaches around ⟨s, tasks⟩ ⟨s', tasks ++ [.done ()]⟩ := by
  have hrun : ∀ {program : Prog Call Unit} {s s' : σ} {result : Option Unit},
      Runs around.answers program s result s' → result = some () →
        Reaches around ⟨s, tasks ++ [program]⟩ ⟨s', tasks ++ [.done ()]⟩ := by
    intro program s s' result run
    induction run with
    | done => exact fun _ => .refl
    | cut => exact fun h => by cases h
    | @call _ request next answer s s' _ _ answered _ ih =>
        let pool : Pool Call σ := ⟨s, tasks ++ [.call request next]⟩
        have htask : pool.tasks[tasks.length]? = some (.call request next) :=
          List.getElem?_concat_length
        have hstep := Step.answer tasks.length htask answered
        rw [List.set_append_right _ _ (Nat.le_refl _), Nat.sub_self] at hstep
        exact fun h => .head hstep (ih h)
  exact .head (.start program started) (hrun run rfl)

end Pool

end Faults
