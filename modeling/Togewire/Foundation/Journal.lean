import Mathlib.Data.List.TakeDrop

/-!
# Edits and snapshots

A value is edited in memory, and snapshots of it are written down now and then.  A snapshot says
after how many edits it was taken; that no edit is lost between memory and what is written is a
matter of these numbers.
-/

namespace Journal

variable {σ : Type*}

/-- What a value has become by edits, the first one first. -/
def replay (base : σ) (edits : List (σ → σ)) : σ := edits.foldl (fun value edit => edit value) base

@[simp] theorem replay_append (base : σ) (edits later : List (σ → σ)) :
    replay base (edits ++ later) = replay (replay base edits) later :=
  List.foldl_append

@[simp] theorem replay_singleton (base : σ) (edit : σ → σ) : replay base [edit] = edit base := rfl

/-- A value written down, and how many edits had been made to it. -/
structure Snapshot (σ : Type*) where
  edits : Nat
  value : σ

/-- A snapshot has the effect of every edit made before it. -/
structure Snapshot.Complete (base : σ) (edits : List (σ → σ)) (snapshot : Snapshot σ) : Prop where
  edits_le : snapshot.edits ≤ edits.length
  value_eq : snapshot.value = replay base (edits.take snapshot.edits)

/-- A snapshot taken now. -/
theorem Snapshot.complete_now (base : σ) (edits : List (σ → σ)) :
    Complete base edits ⟨edits.length, replay base edits⟩ where
  edits_le := Nat.le_refl _
  value_eq := by rw [List.take_length]

/-- Later edits leave a snapshot as it is. -/
theorem Snapshot.Complete.edit {base : σ} {edits : List (σ → σ)} {snapshot : Snapshot σ}
    (complete : snapshot.Complete base edits) (edit : σ → σ) :
    snapshot.Complete base (edits ++ [edit]) where
  edits_le := by
    rw [List.length_append]
    exact Nat.le_add_right_of_le complete.edits_le
  value_eq := by
    rw [complete.value_eq, List.take_append_of_le_length complete.edits_le]

/-- Complete snapshots, the last one first, written in the order in which they were taken. -/
structure Landed (base : σ) (edits : List (σ → σ)) (snapshots : List (Snapshot σ)) : Prop where
  complete : ∀ snapshot ∈ snapshots, snapshot.Complete base edits
  ordered : snapshots.Pairwise fun later earlier => earlier.edits < later.edits

variable {base : σ} {edits : List (σ → σ)} {snapshots : List (Snapshot σ)}

theorem Landed.nil (base : σ) (edits : List (σ → σ)) : Landed base edits [] where
  complete := nofun
  ordered := .nil

theorem Landed.edit (landed : Landed base edits snapshots) (edit : σ → σ) :
    Landed base (edits ++ [edit]) snapshots where
  complete snapshot member := (landed.complete snapshot member).edit edit
  ordered := landed.ordered

theorem Landed.land (landed : Landed base edits snapshots) {snapshot : Snapshot σ}
    (complete : snapshot.Complete base edits)
    (newer : ∀ earlier ∈ snapshots, earlier.edits < snapshot.edits) :
    Landed base edits (snapshot :: snapshots) where
  complete := List.forall_mem_cons.mpr ⟨complete, landed.complete⟩
  ordered := List.pairwise_cons.mpr ⟨newer, landed.ordered⟩

/-- How many edits are written down. -/
def durable (snapshots : List (Snapshot σ)) : Nat := (snapshots.head?.map Snapshot.edits).getD 0

/-- What is not written down is forgotten: the snapshots stay complete. -/
theorem Landed.truncate (landed : Landed base edits snapshots) :
    Landed base (edits.take (durable snapshots)) snapshots where
  complete snapshot member := by
    have complete := landed.complete snapshot member
    have older : snapshot.edits ≤ durable snapshots := by
      cases snapshots with
      | nil => simp at member
      | cons last rest =>
          rcases List.mem_cons.mp member with rfl | earlier
          · exact Nat.le_refl _
          · exact Nat.le_of_lt ((List.pairwise_cons.mp landed.ordered).1 snapshot earlier)
    refine ⟨?_, ?_⟩
    · rw [List.length_take]
      exact Nat.le_min.mpr ⟨older, complete.edits_le⟩
    · rw [complete.value_eq, List.take_take, Nat.min_eq_left older]
  ordered := landed.ordered

/-- What is written down is the value after the edits which are kept. -/
theorem Landed.head_value (landed : Landed base edits snapshots) {last : Snapshot σ}
    (head : snapshots.head? = some last) :
    last.value = replay base (edits.take (durable snapshots)) := by
  have complete := landed.complete last (List.mem_of_mem_head? head)
  rw [complete.value_eq, durable, head]
  rfl

end Journal
