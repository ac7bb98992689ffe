import Mathlib.Logic.Function.Basic
import Togewire.Foundation.Transition

/-!
# Concurrent programs over shared memory

A task is a tree of atomic operations on a shared memory, and a pool interleaves the operations of
unboundedly many tasks.  Every task carries a trace, an abstraction of the operations it has
performed and the answers it got.  A discipline says which operation may follow which trace; that a
program obeys it is a fact about the program text alone, proved by composition over its binds.  An
assertion about the memory and all traces is then an invariant of every interleaving as soon as
each single operation which the discipline allows preserves it.
-/

namespace Interleaving

open Transition

/-- Atomic operations and the answers they give. -/
structure Signature where
  Op : Type
  Answer : Op → Type

/-- A program which performs operations one at a time. -/
inductive Program (S : Signature) (α : Type) : Type
  | done (result : α)
  | call (op : S.Op) (next : S.Answer op → Program S α)

namespace Program

variable {S : Signature} {α β σ τ : Type}

/-- Run one program and then another on its result. -/
def andThen : Program S α → (α → Program S β) → Program S β
  | done result, next => next result
  | call op rest, next => call op fun answer => (rest answer).andThen next

instance : Monad (Program S) where
  pure := done
  bind := andThen

/-- The program performing one operation. -/
def perform (op : S.Op) : Program S (S.Answer op) := call op done

/-- Run a program as one over a larger signature. -/
def lift {T : Signature} (embed : S.Op → T.Op)
    (reply : ∀ op, T.Answer (embed op) → S.Answer op) : Program S α → Program T α
  | done result => done result
  | call op next => call (embed op) fun answer => (next (reply op answer)).lift embed reply

/-! ### Running alone -/

/-- Run a program to its end with no other task in between. -/
def exec (answer : σ → (op : S.Op) → Option (S.Answer op × σ)) :
    Program S α → σ → Option (α × σ)
  | done result, shared => some (result, shared)
  | call op next, shared =>
      match answer shared op with
      | none => none
      | some (reply, after) => (next reply).exec answer after

variable {answer : σ → (op : S.Op) → Option (S.Answer op × σ)}

theorem exec_bind (program : Program S α) (next : α → Program S β) (shared : σ) :
    (program >>= next).exec answer shared =
      (program.exec answer shared).bind fun outcome => (next outcome.1).exec answer outcome.2 := by
  change (program.andThen next).exec answer shared = _
  induction program generalizing shared with
  | done result => rfl
  | call op rest ih =>
      simp only [andThen, exec]
      cases answer shared op with
      | none => rfl
      | some outcome => exact ih outcome.1 outcome.2

/-- A program that begins with an operation ends only if the operation answers. -/
theorem exec_perform_bind {op : S.Op} {next : S.Answer op → Program S α} {shared : σ}
    {outcome : α × σ} (ran : (perform op >>= next).exec answer shared = some outcome) :
    ∃ reply after, answer shared op = some (reply, after) ∧
      (next reply).exec answer after = some outcome := by
  rw [exec_bind] at ran
  cases answered : answer shared op with
  | none => simp [perform, exec, answered] at ran
  | some given => exact ⟨given.1, given.2, rfl, by simpa [perform, exec, answered] using ran⟩

/-- Run alone, the program comes to an end with an outcome meeting the postcondition. -/
def Yields (answer : σ → (op : S.Op) → Option (S.Answer op × σ)) (program : Program S α)
    (shared : σ) (post : α → σ → Prop) : Prop :=
  ∃ result after, program.exec answer shared = some (result, after) ∧ post result after

@[simp] theorem yields_pure (result : α) (shared : σ) (post : α → σ → Prop) :
    (pure result : Program S α).Yields answer shared post ↔ post result shared := by
  constructor
  · rintro ⟨_, _, ran, holds⟩
    obtain ⟨rfl, rfl⟩ := Prod.mk.inj (Option.some.inj ran)
    exact holds
  · exact fun holds => ⟨result, shared, rfl, holds⟩

@[simp] theorem yields_bind (program : Program S α) (next : α → Program S β) (shared : σ)
    (post : β → σ → Prop) :
    (program >>= next).Yields answer shared post ↔
      program.Yields answer shared fun result after => (next result).Yields answer after post := by
  constructor
  · rintro ⟨result, after, ran, holds⟩
    rw [exec_bind] at ran
    cases first : program.exec answer shared with
    | none => simp [first] at ran
    | some outcome =>
        rw [first] at ran
        exact ⟨outcome.1, outcome.2, first, result, after, ran, holds⟩
  · rintro ⟨middle, between, first, result, after, second, holds⟩
    exact ⟨result, after, by rw [exec_bind, first]; exact second, holds⟩

/-- An operation that answers yields its answer. -/
theorem yields_perform {op : S.Op} {shared after : σ} {reply : S.Answer op}
    {post : S.Answer op → σ → Prop} (answered : answer shared op = some (reply, after))
    (holds : post reply after) : (perform op).Yields answer shared post :=
  ⟨reply, after, by simp [perform, exec, answered], holds⟩

theorem Yields.mono {program : Program S α} {shared : σ} {post weaker : α → σ → Prop}
    (yields : program.Yields answer shared post)
    (implied : ∀ result after, post result after → weaker result after) :
    program.Yields answer shared weaker := by
  obtain ⟨result, after, ran, holds⟩ := yields
  exact ⟨result, after, ran, implied result after holds⟩

end Program

/-! ## Disciplines -/

/-- What a task may do next, in terms of an abstraction of what it has done. -/
structure Discipline (S : Signature) (τ : Type) where
  start : τ
  next : τ → (op : S.Op) → S.Answer op → τ
  allows : τ → S.Op → Prop

namespace Program

variable {S : Signature} {α β τ : Type}

/-- Every operation the program performs is allowed after what it has done before, whatever the
answers, and its result meets the final condition. -/
def Obeys (discipline : Discipline S τ) : Program S α → τ → (α → τ → Prop) → Prop
  | done result, trace, finish => finish result trace
  | call op next, trace, finish =>
      discipline.allows trace op ∧
        ∀ answer, (next answer).Obeys discipline (discipline.next trace op answer) finish

variable {discipline : Discipline S τ}

@[simp] theorem obeys_pure (result : α) (trace : τ) (finish : α → τ → Prop) :
    (pure result : Program S α).Obeys discipline trace finish ↔ finish result trace := Iff.rfl

@[simp] theorem obeys_bind (program : Program S α) (next : α → Program S β) (trace : τ)
    (finish : β → τ → Prop) :
    (program >>= next).Obeys discipline trace finish ↔
      program.Obeys discipline trace fun result trace =>
        (next result).Obeys discipline trace finish := by
  change (program.andThen next).Obeys discipline trace finish ↔ _
  induction program generalizing trace with
  | done result => exact Iff.rfl
  | call op rest ih =>
      simp only [andThen, Obeys]
      exact and_congr Iff.rfl (forall_congr' fun answer => ih answer _)

@[simp] theorem obeys_perform (op : S.Op) (trace : τ) (finish : S.Answer op → τ → Prop) :
    (perform op).Obeys discipline trace finish ↔
      discipline.allows trace op ∧
        ∀ answer, finish answer (discipline.next trace op answer) := Iff.rfl

theorem Obeys.bind {program : Program S α} {next : α → Program S β} {trace : τ}
    {finish : β → τ → Prop}
    (obeys : program.Obeys discipline trace fun result trace =>
      (next result).Obeys discipline trace finish) :
    (program >>= next).Obeys discipline trace finish :=
  (obeys_bind program next trace finish).mpr obeys

/-- One allowed operation, and then the rest of the program. -/
theorem Obeys.perform {op : S.Op} {next : S.Answer op → Program S α} {trace : τ}
    {finish : α → τ → Prop} (allowed : discipline.allows trace op)
    (rest : ∀ answer, (next answer).Obeys discipline (discipline.next trace op answer) finish) :
    (Program.perform op >>= next).Obeys discipline trace finish :=
  Obeys.bind ⟨allowed, rest⟩

/-- A weaker final condition. -/
theorem Obeys.mono {program : Program S α} {trace : τ} {finish weaker : α → τ → Prop}
    (obeys : program.Obeys discipline trace finish)
    (implied : ∀ result trace, finish result trace → weaker result trace) :
    program.Obeys discipline trace weaker := by
  induction program generalizing trace with
  | done result => exact implied result trace obeys
  | call op next ih => exact ⟨obeys.1, fun answer => ih answer (obeys.2 answer)⟩

/-- A discipline kept over the small signature carries over to a larger one which follows it. -/
theorem Obeys.lift {T : Signature} {ω : Type} {wide : Discipline T ω} {embed : S.Op → T.Op}
    {reply : ∀ op, T.Answer (embed op) → S.Answer op} (follows : τ → ω → Prop)
    (allows : ∀ trace follower op, follows trace follower → discipline.allows trace op →
      wide.allows follower (embed op))
    (next : ∀ trace follower op answer, follows trace follower → discipline.allows trace op →
      follows (discipline.next trace op (reply op answer)) (wide.next follower (embed op) answer))
    {program : Program S α} {trace : τ} {follower : ω} {finish : α → τ → Prop}
    (obeys : program.Obeys discipline trace finish) (start : follows trace follower) :
    (program.lift embed reply).Obeys wide follower fun result follower =>
      ∃ trace, finish result trace ∧ follows trace follower := by
  induction program generalizing trace follower with
  | done result => exact ⟨trace, obeys, start⟩
  | call op rest ih =>
      obtain ⟨allowed, obeys⟩ := obeys
      exact ⟨allows _ _ op start allowed,
        fun answer => ih _ (obeys (reply op answer)) (next _ _ op answer start allowed)⟩

end Program

/-! ## Pools of tasks -/

/-- A shared memory `σ` with its operations: the programs started by requests `ρ`, the effect of
an operation under an input `ι`, and the changes `ε` made from outside. -/
structure Machine (S : Signature) (σ ρ ι ε : Type) where
  initial : σ → Prop
  accept : σ → Nat → ρ → Option (Program S Unit × σ)
  perform : σ → Nat → (op : S.Op) → ι → Option (S.Answer op × σ)
  outside : σ → ε → Option σ

/-- A shared memory with the remaining program and the trace of every task. -/
structure Pool (S : Signature) (σ τ : Type) where
  shared : σ
  size : Nat
  task : Nat → Program S Unit
  /-- History: what each task has done. -/
  trace : Nat → τ

/-- One step of a pool. -/
inductive PoolEvent (ρ ι ε : Type)
  | start (request : ρ)
  | advance (actor : Nat) (input : ι)
  | outside (change : ε)

namespace Machine

variable {S : Signature} {σ ρ ι ε τ : Type}

/-- The effect of one event on the pool, if it can happen. -/
def step (machine : Machine S σ ρ ι ε) (discipline : Discipline S τ) (pool : Pool S σ τ) :
    PoolEvent ρ ι ε → Option (Pool S σ τ)
  | .start request =>
      match machine.accept pool.shared pool.size request with
      | none => none
      | some (program, shared) =>
          some
            { pool with
              shared := shared
              size := pool.size + 1
              task := Function.update pool.task pool.size program }
  | .advance actor input =>
      match pool.task actor with
      | .done _ => none
      | .call op next =>
          match machine.perform pool.shared actor op input with
          | none => none
          | some (answer, shared) =>
              some
                { pool with
                  shared := shared
                  task := Function.update pool.task actor (next answer)
                  trace := Function.update pool.trace actor
                    (discipline.next (pool.trace actor) op answer) }
  | .outside change => (machine.outside pool.shared change).map fun shared => { pool with shared }

/-- A task performs operations while no other task does. -/
def solo (machine : Machine S σ ρ ι ε) (discipline : Discipline S τ) (actor : Nat) :
    List ι → Program S Unit → σ → τ → Option (Program S Unit × σ × τ)
  | [], program, shared, trace => some (program, shared, trace)
  | _ :: _, .done _, _, _ => none
  | input :: inputs, .call op next, shared, trace =>
      match machine.perform shared actor op input with
      | none => none
      | some (answer, after) =>
          machine.solo discipline actor inputs (next answer) after
            (discipline.next trace op answer)

/-- The pool before any task has been started. -/
def boot (discipline : Discipline S τ) (shared : σ) : Pool S σ τ where
  shared := shared
  size := 0
  task _ := .done ()
  trace _ := discipline.start

/-- All interleavings of the machine's tasks. -/
def system (machine : Machine S σ ρ ι ε) (discipline : Discipline S τ) :
    System (Pool S σ τ) (PoolEvent ρ ι ε) where
  initial pool := ∃ shared, machine.initial shared ∧ pool = boot discipline shared
  step := machine.step discipline

/-- A side condition on the operation a step performs. -/
def Permits (permit : σ → (Nat → τ) → Nat → S.Op → ι → Prop) (pool : Pool S σ τ) :
    PoolEvent ρ ι ε → Prop
  | .advance actor input =>
      match pool.task actor with
      | .done _ => True
      | .call op _ => permit pool.shared pool.trace actor op input
  | _ => True

theorem permits_true (pool : Pool S σ τ) (event : PoolEvent ρ ι ε) :
    Permits (fun _ _ _ _ (_ : ι) => True) pool event := by
  cases event with
  | advance actor input =>
      rw [Permits]
      split <;> trivial
  | start | outside => trivial

instance decidablePermits (permit : σ → (Nat → τ) → Nat → S.Op → ι → Prop)
    [∀ shared trace actor op input, Decidable (permit shared trace actor op input)]
    (pool : Pool S σ τ) : ∀ event : PoolEvent ρ ι ε, Decidable (Permits permit pool event)
  | .advance actor input =>
      match h : pool.task actor with
      | .done _ => isTrue (by simp [Permits, h])
      | .call op _ =>
          decidable_of_iff (permit pool.shared pool.trace actor op input) (by simp [Permits, h])
  | .start _ | .outside _ => isTrue trivial

instance decidablePermitted (machine : Machine S σ ρ ι ε) (discipline : Discipline S τ)
    (permit : σ → (Nat → τ) → Nat → S.Op → ι → Prop)
    [∀ shared trace actor op input, Decidable (permit shared trace actor op input)]
    (pool : Pool S σ τ) (schedule : List (PoolEvent ρ ι ε)) :
    Decidable ((machine.system discipline).Admits (Permits permit) pool schedule) :=
  have (pool : Pool S σ τ) (event : PoolEvent ρ ι ε) : Decidable (Permits permit pool event) :=
    decidablePermits permit pool event
  System.decidableAdmits _ _ pool schedule

/-- What makes an assertion about the memory and the traces hold of all interleavings. -/
structure Safe (machine : Machine S σ ρ ι ε) (discipline : Discipline S τ)
    (permit : σ → (Nat → τ) → Nat → S.Op → ι → Prop) (assertion : σ → (Nat → τ) → Prop) :
    Prop where
  initial : ∀ shared, machine.initial shared → assertion shared fun _ => discipline.start
  accept : ∀ shared traces actor request program after, assertion shared traces →
    traces actor = discipline.start → machine.accept shared actor request = some (program, after) →
      assertion after traces ∧ program.Obeys discipline discipline.start fun _ _ => True
  perform : ∀ shared traces actor op input answer after, assertion shared traces →
    discipline.allows (traces actor) op → permit shared traces actor op input →
      machine.perform shared actor op input = some (answer, after) →
        assertion after
          (Function.update traces actor (discipline.next (traces actor) op answer))
  outside : ∀ shared traces change after, assertion shared traces →
    machine.outside shared change = some after → assertion after traces

/-- The assertion holds, every task obeys the discipline, and those not yet started are idle. -/
structure Guarded (discipline : Discipline S τ) (assertion : σ → (Nat → τ) → Prop)
    (pool : Pool S σ τ) : Prop where
  holds : assertion pool.shared pool.trace
  obeys : ∀ actor, (pool.task actor).Obeys discipline (pool.trace actor) fun _ _ => True
  unstarted : ∀ actor, pool.size ≤ actor →
    pool.task actor = .done () ∧ pool.trace actor = discipline.start

variable {machine : Machine S σ ρ ι ε} {discipline : Discipline S τ}
  {permit : σ → (Nat → τ) → Nat → S.Op → ι → Prop} {assertion : σ → (Nat → τ) → Prop}
  {before after : Pool S σ τ}

theorem Guarded.start (safe : machine.Safe discipline permit assertion)
    (guarded : Guarded discipline assertion before) {request : ρ}
    (step : machine.step discipline before (.start request) = some after) :
    Guarded discipline assertion after := by
  simp only [Machine.step] at step
  split at step
  · simp at step
  · rename_i program shared accepted
    obtain rfl := Option.some.inj step
    have fresh_trace := (guarded.unstarted before.size (Nat.le_refl _)).2
    obtain ⟨kept, started⟩ := safe.accept _ _ _ _ _ _ guarded.holds fresh_trace accepted
    refine ⟨kept, ?_, ?_⟩
    · intro actor
      by_cases fresh : actor = before.size
      · subst fresh
        simpa [fresh_trace] using started
      · simpa [fresh] using guarded.obeys actor
    · intro actor later
      have beyond : before.size + 1 ≤ actor := later
      have older : actor ≠ before.size := by omega
      simpa [older] using guarded.unstarted actor (by omega)

theorem Guarded.advance (safe : machine.Safe discipline permit assertion)
    (guarded : Guarded discipline assertion before) {actor : Nat} {input : ι}
    (permitted : Permits permit before (.advance actor input : PoolEvent ρ ι ε))
    (step : machine.step discipline before (.advance actor input) = some after) :
    Guarded discipline assertion after := by
  have obeyed := guarded.obeys actor
  simp only [Permits] at permitted
  simp only [Machine.step] at step
  split at step
  · simp at step
  · rename_i op next remaining
    rw [remaining] at obeyed permitted
    split at step
    · simp at step
    · rename_i answer shared performed
      obtain rfl := Option.some.inj step
      refine ⟨safe.perform _ _ _ _ _ _ _ guarded.holds obeyed.1 permitted performed, ?_, ?_⟩
      · intro other
        by_cases same : other = actor
        · subst same
          simpa using obeyed.2 answer
        · simpa [same] using guarded.obeys other
      · intro other later
        have idle := (guarded.unstarted other later).1
        have different : other ≠ actor := by
          rintro rfl
          simp [remaining] at idle
        simpa [different] using guarded.unstarted other later

/-- A safe assertion is guarded in every interleaving. -/
theorem Safe.guarded (safe : machine.Safe discipline permit assertion) {pool : Pool S σ τ}
    (reach : (machine.system discipline).ReachableUnder (Permits permit) pool) :
    Guarded discipline assertion pool := by
  refine reach.invariant _ ?_ ?_
  · rintro _ ⟨shared, initial, rfl⟩
    exact ⟨safe.initial shared initial, fun _ => trivial, fun _ _ => ⟨rfl, rfl⟩⟩
  · intro before event after _ guarded permitted step
    cases event with
    | start request => exact guarded.start safe step
    | advance actor input => exact guarded.advance safe permitted step
    | outside change =>
        simp only [system, Machine.step, Option.map_eq_some_iff] at step
        obtain ⟨shared, changed, rfl⟩ := step
        exact ⟨safe.outside _ _ _ _ guarded.holds changed, guarded.obeys, guarded.unstarted⟩

/-- Without a side condition it is guarded in every interleaving whatsoever. -/
theorem Safe.guarded_of_reachable
    (safe : machine.Safe discipline (fun _ _ _ _ _ => True) assertion) {pool : Pool S σ τ}
    (reach : (machine.system discipline).Reachable pool) : Guarded discipline assertion pool :=
  safe.guarded (reach.mono fun pool event _ => permits_true pool event)

/-- Every task keeps to the discipline up to its end; those not yet started have done nothing. -/
structure Settling (discipline : Discipline S τ) (finish : τ → Prop) (pool : Pool S σ τ) :
    Prop where
  obeys : ∀ actor,
    (pool.task actor).Obeys discipline (pool.trace actor) fun _ trace => finish trace
  unstarted : ∀ actor, pool.size ≤ actor →
    pool.task actor = .done () ∧ pool.trace actor = discipline.start

/-- That is a fact about the programs alone, whatever the memory. -/
theorem settling_of_reachable {finish : τ → Prop} (begun : finish discipline.start)
    (accepts : ∀ shared actor request program after,
      machine.accept shared actor request = some (program, after) →
        program.Obeys discipline discipline.start fun _ trace => finish trace)
    {pool : Pool S σ τ} (reach : (machine.system discipline).Reachable pool) :
    Settling discipline finish pool := by
  refine reach.invariant _ ?_ ?_
  · rintro _ ⟨shared, initial, rfl⟩
    exact ⟨fun _ => begun, fun _ _ => ⟨rfl, rfl⟩⟩
  · rintro before event after _ ⟨obeys, unstarted⟩ - step
    cases event with
    | start request =>
        simp only [system, Machine.step] at step
        split at step
        · cases step
        · rename_i program shared accepted
          obtain rfl := Option.some.inj step
          refine ⟨fun actor => ?_, fun actor later => ?_⟩
          · by_cases fresh : actor = before.size
            · subst fresh
              simpa [(unstarted before.size (Nat.le_refl _)).2] using
                accepts _ _ _ _ _ accepted
            · simpa [fresh] using obeys actor
          · have beyond : before.size + 1 ≤ actor := later
            have older : actor ≠ before.size := by omega
            simpa [older] using unstarted actor (by omega)
    | advance actor input =>
        have mine := obeys actor
        simp only [system, Machine.step] at step
        split at step
        · cases step
        · rename_i op next remaining
          rw [remaining] at mine
          split at step
          · cases step
          · rename_i answer shared performed
            obtain rfl := Option.some.inj step
            refine ⟨fun other => ?_, fun other later => ?_⟩
            · by_cases same : other = actor
              · subst same
                simpa using mine.2 answer
              · simpa [same] using obeys other
            · have idle := (unstarted other later).1
              have different : other ≠ actor := by
                rintro rfl
                simp [remaining] at idle
              simpa [different] using unstarted other later
    | outside change =>
        simp only [system, Machine.step, Option.map_eq_some_iff] at step
        obtain ⟨shared, changed, rfl⟩ := step
        exact ⟨obeys, unstarted⟩

/-! ### One task at a time -/

/-- The pool in which a task has come to another program and trace. -/
def settleTask (pool : Pool S σ τ) (actor : Nat) (program : Program S Unit) (shared : σ)
    (trace : τ) : Pool S σ τ :=
  { pool with
    shared := shared
    task := Function.update pool.task actor program
    trace := Function.update pool.trace actor trace }

/-- What a task does alone, an interleaving does. -/
theorem reachable_solo {pool : Pool S σ τ} (reach : (machine.system discipline).Reachable pool)
    {actor : Nat} {inputs : List ι} {program : Program S Unit} {shared : σ} {trace : τ}
    (ran : machine.solo discipline actor inputs (pool.task actor) pool.shared (pool.trace actor) =
      some (program, shared, trace)) :
    (machine.system discipline).Reachable (settleTask pool actor program shared trace) := by
  induction inputs generalizing pool with
  | nil =>
      obtain ⟨rfl, same⟩ := Prod.mk.inj (Option.some.inj ran)
      obtain ⟨rfl, rfl⟩ := Prod.mk.inj same
      rw [settleTask, Function.update_eq_self, Function.update_eq_self]
      exact reach
  | cons input inputs ih =>
      cases remaining : pool.task actor with
      | done result =>
          rw [remaining] at ran
          cases ran
      | call op next =>
          rw [remaining, Machine.solo] at ran
          cases performed : machine.perform pool.shared actor op input with
          | none => simp [performed] at ran
          | some outcome =>
              obtain ⟨answer, after⟩ := outcome
              rw [performed] at ran
              have step : (machine.system discipline).step pool (.advance actor input) =
                  some (settleTask pool actor (next answer) after
                    (discipline.next (pool.trace actor) op answer)) := by
                simp only [system, Machine.step, remaining, performed, settleTask]
              have reached := ih (reach.next trivial step)
              simp only [settleTask, Function.update_self, Function.update_idem] at reached
              exact reached ran

/-- A task that has been started is there. -/
theorem reachable_start {pool : Pool S σ τ} (reach : (machine.system discipline).Reachable pool)
    {request : ρ} {program : Program S Unit} {shared : σ}
    (accepted : machine.accept pool.shared pool.size request = some (program, shared)) :
    (machine.system discipline).Reachable
      { pool with
        shared := shared
        size := pool.size + 1
        task := Function.update pool.task pool.size program } := by
  have step : (machine.system discipline).step pool (.start request) =
      some
        { pool with
          shared := shared
          size := pool.size + 1
          task := Function.update pool.task pool.size program } := by
    simp only [system, Machine.step, accepted]
  exact reach.next trivial step

end Machine

end Interleaving
