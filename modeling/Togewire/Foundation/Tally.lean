import Mathlib.Data.Set.Card
import Mathlib.Logic.Function.Basic

/-!
# Counters of tasks

A counter which is raised when a task enters a stage, and lowered when a task leaves it, says how
many tasks are in that stage.  The lemmas state what one task's move does to such a count.
-/

namespace Interleaving

open Function

variable {ι κ τ : Type*} {stage wider : τ → Prop} {traces : ι → τ} {count total : Nat}
  {actor : ι} {next : τ}

/-- The tasks in a stage. -/
def tasksIn (stage : τ → Prop) (traces : ι → τ) : Set ι := {task | stage (traces task)}

@[simp] theorem mem_tasksIn {task : ι} : task ∈ tasksIn stage traces ↔ stage (traces task) :=
  Iff.rfl

/-- Exactly so many tasks are in a stage. -/
def Tally (stage : τ → Prop) (traces : ι → τ) (count : Nat) : Prop :=
  (tasksIn stage traces).encard = count

namespace Tally

theorem encard_eq (tally : Tally stage traces count) : (tasksIn stage traces).encard = count :=
  tally

theorem empty (none : ∀ task, ¬ stage (traces task)) : Tally stage traces 0 := by
  have nobody : tasksIn stage traces = ∅ := Set.eq_empty_of_forall_notMem none
  rw [Tally, nobody]
  exact Set.encard_empty

theorem pos (tally : Tally stage traces count) (inside : stage (traces actor)) : 0 < count := by
  have occupied : 0 < (tasksIn stage traces).encard := Set.encard_pos.mpr ⟨actor, inside⟩
  rw [tally.encard_eq] at occupied
  exact_mod_cast occupied

theorem le (tally : Tally stage traces count) (all : Tally wider traces total)
    (implied : ∀ task, stage (traces task) → wider (traces task)) : count ≤ total := by
  have included : tasksIn stage traces ⊆ tasksIn wider traces := implied
  have fewer := Set.encard_le_encard included
  rw [tally.encard_eq, all.encard_eq] at fewer
  exact_mod_cast fewer

variable [DecidableEq ι]

theorem stay (tally : Tally stage traces count) (same : stage next ↔ stage (traces actor)) :
    Tally stage (update traces actor next) count := by
  have unchanged : tasksIn stage (update traces actor next) = tasksIn stage traces := by
    ext task
    by_cases self : task = actor
    · subst self
      simp [same]
    · simp [self]
  rw [Tally, unchanged]
  exact tally

theorem enter (tally : Tally stage traces count) (outside : ¬ stage (traces actor))
    (inside : stage next) : Tally stage (update traces actor next) (count + 1) := by
  have joined : tasksIn stage (update traces actor next) = insert actor (tasksIn stage traces) := by
    ext task
    by_cases self : task = actor
    · subst self
      simp [inside]
    · simp [self]
  have fresh : actor ∉ tasksIn stage traces := outside
  rw [Tally, joined, Set.encard_insert_of_notMem fresh, tally.encard_eq]
  rfl

theorem leave (tally : Tally stage traces count) (inside : stage (traces actor))
    (outside : ¬ stage next) : Tally stage (update traces actor next) (count - 1) := by
  have parted : tasksIn stage (update traces actor next) = tasksIn stage traces \ {actor} := by
    ext task
    by_cases self : task = actor
    · subst self
      simp [outside]
    · simp [self]
  have member : actor ∈ tasksIn stage traces := inside
  rw [Tally, parted, Set.encard_sdiff_singleton_of_mem member, tally.encard_eq]
  rfl

end Tally

end Interleaving
