import Mathlib.Tactic.TypeStar

/-!
# Guarded transition systems

A system is a set of initial states together with an executable step function, which is absent
where an event is not enabled.  The same step function replays concrete schedules and generates
the reachable states, so a counterexample schedule and an invariant proof speak about one object.
`ReachableUnder allowed` restricts the runs to those whose every step meets a side condition on
the state before it; plain reachability is the unrestricted case.
-/

namespace Transition

/-- A guarded step is enabled, and comes to its successor. -/
theorem of_guarded {σ : Type*} {guard : Prop} [Decidable guard] {next after : σ}
    (performed : (if guard then some next else none) = some after) : guard ∧ next = after :=
  (Option.ite_none_right_eq_some.mp performed).imp_right Option.some.inj

/-- A guarded operation is enabled, and comes to its answer and its successor. -/
theorem of_guarded_answer {α σ : Type*} {guard : Prop} [Decidable guard] {answer other : α}
    {next after : σ}
    (performed : (if guard then some (answer, next) else none) = some (other, after)) :
    guard ∧ answer = other ∧ next = after :=
  (of_guarded performed).imp_right Prod.mk.inj

/-- A transition system over states `σ` and events `ε`. -/
structure System (σ ε : Type*) where
  /-- States in which a run may start. -/
  initial : σ → Prop
  /-- Successor under one event, absent when the event is not enabled. -/
  step : σ → ε → Option σ

namespace System

variable {σ ε : Type*}

/-- Execute a schedule, failing at the first event which is not enabled. -/
def run (system : System σ ε) : σ → List ε → Option σ
  | state, [] => some state
  | state, event :: schedule =>
      match system.step state event with
      | none => none
      | some next => system.run next schedule

/-- States reached by runs whose every step is allowed in the state before it. -/
inductive ReachableUnder (system : System σ ε) (allowed : σ → ε → Prop) : σ → Prop
  | start {state : σ} : system.initial state → ReachableUnder system allowed state
  | next {before after : σ} {event : ε} :
      ReachableUnder system allowed before →
      allowed before event →
      system.step before event = some after →
      ReachableUnder system allowed after

/-- States reached by any run. -/
abbrev Reachable (system : System σ ε) : σ → Prop :=
  system.ReachableUnder fun _ _ => True

/-- Every step of a schedule is allowed in the state it is taken from. -/
def Admits (system : System σ ε) (allowed : σ → ε → Prop) : σ → List ε → Prop
  | _, [] => True
  | state, event :: schedule =>
      allowed state event ∧
        ∀ next, system.step state event = some next → system.Admits allowed next schedule

instance decidableAdmits (system : System σ ε) (allowed : σ → ε → Prop)
    [∀ state event, Decidable (allowed state event)] :
    ∀ state schedule, Decidable (system.Admits allowed state schedule)
  | _, [] => isTrue trivial
  | state, event :: schedule =>
      match result : system.step state event with
      | none => decidable_of_iff (allowed state event) (by simp [Admits, result])
      | some next =>
          have := decidableAdmits system allowed next schedule
          decidable_of_iff (allowed state event ∧ system.Admits allowed next schedule)
            (by simp [Admits, result])

/-- An assertion holds of every reachable state once it holds initially and every allowed step
from a reachable state preserves it. -/
theorem ReachableUnder.invariant {system : System σ ε} {allowed : σ → ε → Prop}
    (assertion : σ → Prop) (start : ∀ state, system.initial state → assertion state)
    (preserved : ∀ before event after, system.ReachableUnder allowed before →
      assertion before → allowed before event → system.step before event = some after →
      assertion after)
    {state : σ} (reach : system.ReachableUnder allowed state) : assertion state := by
  induction reach with
  | start initial => exact start _ initial
  | next reach permitted step ih => exact preserved _ _ _ reach ih permitted step

/-- Weakening the side condition keeps every run. -/
theorem ReachableUnder.mono {system : System σ ε} {allowed weaker : σ → ε → Prop}
    (implied : ∀ state event, allowed state event → weaker state event) {state : σ}
    (reach : system.ReachableUnder allowed state) : system.ReachableUnder weaker state := by
  induction reach with
  | start initial => exact .start initial
  | next _ permitted step ih => exact .next ih (implied _ _ permitted) step

/-- A schedule executes step by step. -/
theorem run_cons_eq_some {system : System σ ε} {before after : σ} {event : ε} {schedule : List ε} :
    system.run before (event :: schedule) = some after ↔
      ∃ next, system.step before event = some next ∧ system.run next schedule = some after := by
  cases step : system.step before event with
  | none => simp [System.run, step]
  | some next => simp [System.run, step]

/-- Executing an admitted schedule from a reachable state reaches its end state. -/
theorem ReachableUnder.run {system : System σ ε} {allowed : σ → ε → Prop} {before after : σ}
    {schedule : List ε} (reach : system.ReachableUnder allowed before)
    (admitted : system.Admits allowed before schedule)
    (execution : system.run before schedule = some after) :
    system.ReachableUnder allowed after := by
  induction schedule generalizing before with
  | nil =>
      obtain rfl : before = after := by simpa [System.run] using execution
      exact reach
  | cons event schedule ih =>
      obtain ⟨permitted, later⟩ := admitted
      obtain ⟨next, step, remaining⟩ := run_cons_eq_some.mp execution
      exact ih (reach.next permitted step) (later next step) remaining

/-- Nothing is asked of the steps of a run without a side condition. -/
theorem admits_true (system : System σ ε) (state : σ) (schedule : List ε) :
    system.Admits (fun _ _ => True) state schedule := by
  induction schedule generalizing state with
  | nil => trivial
  | cons event schedule ih => exact ⟨trivial, fun next _ => ih next⟩

/-- The end state of a schedule known to execute. -/
def final (system : System σ ε) (before : σ) (schedule : List ε)
    (executes : (system.run before schedule).isSome) : σ :=
  (system.run before schedule).get executes

theorem ReachableUnder.final {system : System σ ε} {allowed : σ → ε → Prop} {before : σ}
    {schedule : List ε} (initial : system.initial before)
    (admitted : system.Admits allowed before schedule)
    (executes : (system.run before schedule).isSome) :
    system.ReachableUnder allowed (system.final before schedule executes) :=
  (ReachableUnder.start initial).run admitted (Option.some_get executes).symm

theorem reachable_final {system : System σ ε} {before : σ} (initial : system.initial before)
    (schedule : List ε) (executes : (system.run before schedule).isSome) :
    system.Reachable (system.final before schedule executes) :=
  ReachableUnder.final initial (system.admits_true before schedule) executes

end System

end Transition
