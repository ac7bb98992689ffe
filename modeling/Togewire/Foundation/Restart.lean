import Togewire.Foundation.Program

/-!
# Machines which are stopped and started again

A machine is stopped between any two operations, and goes on with what its memory leaves behind.
The tasks of a process which has ended never perform another operation.  An assertion which is safe
for one process, and which the memory keeps when nobody works on it, is safe over restarts.
-/

namespace Interleaving

/-- A memory, and the process which works on it. -/
structure Hosted (σ : Type) where
  shared : σ
  running : Bool
  /-- The process which runs, or has run last. -/
  process : Nat
  /-- The process each task belongs to. -/
  owner : Nat → Nat

namespace Hosted

variable {σ τ : Type}

/-- The first process. -/
def first (shared : σ) : Hosted σ where
  shared := shared
  running := true
  process := 0
  owner _ := 0

/-- A task of the process which runs. -/
def Alive (hosted : Hosted σ) (task : Nat) : Prop :=
  hosted.running = true ∧ hosted.owner task = hosted.process

instance (hosted : Hosted σ) (task : Nat) : Decidable (hosted.Alive task) :=
  inferInstanceAs (Decidable (_ ∧ _))

/-- The traces of those which are alive; the others count as if they had done nothing. -/
def living (hosted : Hosted σ) (start : τ) (traces : Nat → τ) (task : Nat) : τ :=
  if hosted.Alive task then traces task else start

@[simp] theorem living_of_alive {hosted : Hosted σ} {task : Nat} (alive : hosted.Alive task)
    (start : τ) (traces : Nat → τ) : hosted.living start traces task = traces task :=
  if_pos alive

@[simp] theorem living_start (hosted : Hosted σ) (start : τ) :
    (hosted.living start fun _ => start) = fun _ => start :=
  funext fun _ => ite_self _

theorem living_of_dead {hosted : Hosted σ} (dead : ∀ task, ¬ hosted.Alive task) (start : τ)
    (traces : Nat → τ) : hosted.living start traces = fun _ => start :=
  funext fun task => if_neg (dead task)

end Hosted

/-- What happens to a memory from outside. -/
inductive Disruption (ε : Type)
  | change (change : ε)
  | stop
  | start

namespace Machine

variable {S : Signature} {σ ρ ι ε τ : Type}

/-- The machine over any number of processes; `halt` is what a process leaves behind. -/
def restarting (machine : Machine S σ ρ ι ε) (halt : σ → σ) :
    Machine S (Hosted σ) ρ ι (Disruption ε) where
  initial hosted := ∃ shared, machine.initial shared ∧ hosted = .first shared
  accept hosted actor request :=
    if hosted.running then
      (machine.accept hosted.shared actor request).map fun accepted =>
        (accepted.1,
          { hosted with
            shared := accepted.2
            owner := Function.update hosted.owner actor hosted.process })
    else
      none
  perform hosted actor op input :=
    if hosted.Alive actor then
      (machine.perform hosted.shared actor op input).map fun performed =>
        (performed.1, { hosted with shared := performed.2 })
    else
      none
  outside hosted disruption :=
    match disruption with
    | .change change =>
        (machine.outside hosted.shared change).map fun shared => { hosted with shared := shared }
    | .stop => some { hosted with shared := halt hosted.shared, running := false }
    | .start =>
        if hosted.running then
          none
        else
          some { hosted with running := true, process := hosted.process + 1 }

/-- An assertion about the memory and those alive. -/
structure Survives (discipline : Discipline S τ) (assertion : σ → (Nat → τ) → Prop)
    (hosted : Hosted σ) (traces : Nat → τ) : Prop where
  holds : assertion hosted.shared (hosted.living discipline.start traces)
  owned : ∀ task, hosted.owner task ≤ hosted.process

variable {machine : Machine S σ ρ ι ε} {discipline : Discipline S τ}
  {permit : σ → (Nat → τ) → Nat → S.Op → ι → Prop} {assertion : σ → (Nat → τ) → Prop}
  {halt : σ → σ}

/-- A side condition on the operations of those alive. -/
def Permitted (discipline : Discipline S τ) (permit : σ → (Nat → τ) → Nat → S.Op → ι → Prop)
    (hosted : Hosted σ) (traces : Nat → τ) (actor : Nat) (op : S.Op) (input : ι) : Prop :=
  permit hosted.shared (hosted.living discipline.start traces) actor op input

instance decidablePermittedLiving
    [∀ shared traces actor op input, Decidable (permit shared traces actor op input)]
    (hosted : Hosted σ) (traces : Nat → τ) (actor : Nat) (op : S.Op) (input : ι) :
    Decidable (Permitted discipline permit hosted traces actor op input) :=
  inferInstanceAs (Decidable (permit _ _ _ _ _))

theorem Survives.stop {hosted : Hosted σ} {traces : Nat → τ}
    (survives : Survives discipline assertion hosted traces)
    (halts : assertion (halt hosted.shared) fun _ => discipline.start) :
    Survives discipline assertion { hosted with shared := halt hosted.shared, running := false }
      traces := by
  refine ⟨?_, survives.owned⟩
  rw [Hosted.living_of_dead]
  · exact halts
  · rintro task ⟨running, -⟩
    cases running

theorem Survives.start {hosted : Hosted σ} {traces : Nat → τ}
    (survives : Survives discipline assertion hosted traces) (stopped : hosted.running = false) :
    Survives discipline assertion { hosted with running := true, process := hosted.process + 1 }
      traces := by
  refine ⟨?_, fun task => Nat.le_succ_of_le (survives.owned task)⟩
  have holds := survives.holds
  rw [Hosted.living_of_dead] at holds ⊢
  · exact holds
  · rintro task ⟨-, owned⟩
    exact absurd (survives.owned task) (by simp only at owned; omega)
  · rintro task ⟨running, -⟩
    exact absurd (running.symm.trans stopped) (by decide)

theorem Safe.restarting (safe : machine.Safe discipline permit assertion)
    (halts : ∀ shared traces, assertion shared traces →
      assertion (halt shared) fun _ => discipline.start) :
    (machine.restarting halt).Safe discipline (Permitted discipline permit)
      (Survives discipline assertion) where
  initial := by
    rintro _ ⟨shared, initial, rfl⟩
    refine ⟨?_, fun _ => Nat.le_refl _⟩
    rw [Hosted.living_start]
    exact safe.initial shared initial
  accept := by
    intro hosted traces actor request program after survives idle accepted
    simp only [Machine.restarting, Option.ite_none_right_eq_some, Option.map_eq_some_iff,
      Prod.mk.injEq] at accepted
    obtain ⟨running, ⟨began, shared⟩, taken, rfl, rfl⟩ := accepted
    have unstarted : hosted.living discipline.start traces actor = discipline.start := by
      unfold Hosted.living
      split
      · exact idle
      · rfl
    obtain ⟨kept, obeys⟩ := safe.accept _ _ _ _ _ _ survives.holds unstarted taken
    have same : Hosted.living
        { hosted with
          shared := shared
          owner := Function.update hosted.owner actor hosted.process }
        discipline.start traces = hosted.living discipline.start traces := by
      funext task
      by_cases fresh : task = actor
      · subst fresh
        rw [unstarted]
        unfold Hosted.living
        split
        · exact idle
        · rfl
      · have alive : Hosted.Alive
            { hosted with
              shared := shared
              owner := Function.update hosted.owner actor hosted.process } task ↔
            hosted.Alive task := by
          simp [Hosted.Alive, fresh]
        simp only [Hosted.living, alive]
    refine ⟨⟨?_, ?_⟩, obeys⟩
    · rw [same]
      exact kept
    · intro task
      by_cases same : task = actor
      · simp [same]
      · simpa [same] using survives.owned task
  perform := by
    intro hosted traces actor op input answer after survives allowed permitted performed
    simp only [Machine.restarting, Option.ite_none_right_eq_some, Option.map_eq_some_iff,
      Prod.mk.injEq] at performed
    obtain ⟨alive, ⟨reply, shared⟩, done, rfl, rfl⟩ := performed
    rw [← Hosted.living_of_alive alive discipline.start traces] at allowed
    have kept := safe.perform _ _ _ _ _ _ _ survives.holds allowed permitted done
    rw [Hosted.living_of_alive alive] at kept
    have same : Hosted.living { hosted with shared := shared } discipline.start
        (Function.update traces actor (discipline.next (traces actor) op reply)) =
          Function.update (hosted.living discipline.start traces) actor
            (discipline.next (traces actor) op reply) := by
      funext task
      by_cases same : task = actor
      · subst same
        rw [Function.update_self]
        exact (Hosted.living_of_alive alive _ _).trans (Function.update_self ..)
      · rw [Function.update_of_ne same]
        unfold Hosted.living
        rw [Function.update_of_ne same]
        rfl
    refine ⟨?_, survives.owned⟩
    rw [same]
    exact kept
  outside := by
    intro hosted traces disruption after survives changed
    cases disruption with
    | change change =>
        obtain ⟨shared, moved, rfl⟩ := Option.map_eq_some_iff.mp changed
        exact ⟨safe.outside _ _ _ _ survives.holds moved, survives.owned⟩
    | stop =>
        obtain rfl := Option.some.inj changed
        exact survives.stop (halts _ _ survives.holds)
    | start =>
        simp only [Machine.restarting] at changed
        split at changed
        · cases changed
        · rename_i stopped
          obtain rfl := Option.some.inj changed
          exact survives.start (by simpa using stopped)

end Machine

end Interleaving
