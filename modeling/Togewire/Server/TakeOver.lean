import Togewire.Server.Trace

/-!
# The newest togedemon wins

The slot names the newest connection, and the stream should be its own until its body ends.  A task
that retires the pipe has looked at the slot before, under another lock.  If no connection has taken
the slot since then, the look still stands: a free slot is still free, and one's own token is in it
or has been taken out.  So the newest connection keeps its pipe as long as no task retires it on an
outdated look.
-/

namespace Togewire.Server

open Interleaving Transition

namespace TakeOver

/-- The operations which retire the current pipe. -/
def retires : Op → Bool
  | .playTrack _ _ | .playLive | .stop => true
  | _ => false

/-- The pipe of the connection in the slot, once it has one and while its body is open. -/
def livePipe (state : AppState) (traces : Nat → Trace) : Option Nat :=
  state.togedemonCancel.bind fun holder => (traces holder).pipe

/-- A task retires the pipe only if no connection has taken the slot since the task's last look at
it, or the one in the slot has no open stream. -/
def RetiresUpToDate (state : AppState) (traces : Nat → Trace) (actor : Nat) (op : Op)
    (_ : Input) : Prop :=
  retires op = true →
    state.slotSeen actor = state.takeovers ∨ livePipe state traces = none

instance (state : AppState) (traces : Nat → Trace) (actor : Nat) (op : Op) (input : Input) :
    Decidable (RetiresUpToDate state traces actor op input) :=
  inferInstanceAs (Decidable (_ → _))

/-- The connection whose uncancelled token is in the slot has the current pipe from `play_live` to
the end of its body. -/
def NewestWins (pool : Pool signature AppState Trace) : Prop :=
  ∀ handler pipe, pool.shared.togedemonCancel = some handler →
    pool.shared.cancelled handler = false → (pool.trace handler).pipe = some pipe →
      pool.shared.streamManager.generation = pipe

/-- What a task's last look at the slot tells about it. -/
structure Placed (state : AppState) (actor : Nat) (trace : Trace) : Prop where
  bound : state.slotSeen actor ≤ state.takeovers
  newest : state.togedemonCancel = some actor → state.slotSeen actor = state.takeovers
  free : trace.slot = .free → state.slotSeen actor = state.takeovers →
    state.togedemonCancel = none
  own : trace.slot = .own → state.slotSeen actor = state.takeovers →
    state.togedemonCancel = some actor ∨ state.togedemonCancel = none
  wins : ∀ pipe, state.togedemonCancel = some actor → trace.pipe = some pipe →
    state.streamManager.generation = pipe

/-- The operations which touch neither the slot nor the pipes. -/
def quiet : Op → Bool
  | .playTrack _ _ | .playLive | .stop | .togedemonLive _ | .takeSlot | .pump _ | .releaseSlot
  | .dropTogedemon => false
  | _ => true

variable {state after : AppState} {actor other : Nat} {op : Op} {answer : op.Answer}
  {input : Input} {trace : Trace} {traces : Nat → Trace}

theorem next_slot_of_quiet (trace : Trace) (answer : op.Answer) (untouched : quiet op = true) :
    (trace.next op answer).slot = trace.slot ∧ (trace.next op answer).pipe = trace.pipe := by
  cases op <;> first | exact ⟨rfl, rfl⟩ | cases untouched

theorem slot_of_quiet (untouched : quiet op = true)
    (performed : state.perform actor op input = some (answer, after)) :
    after.togedemonCancel = state.togedemonCancel ∧ after.takeovers = state.takeovers ∧
      after.slotSeen = state.slotSeen ∧ after.streamManager = state.streamManager := by
  cases op with
  | readMonitor =>
      obtain ⟨-, -, rfl⟩ := of_guarded_answer performed
      exact ⟨rfl, rfl, rfl, rfl⟩
  | playTrack | playLive | stop | togedemonLive | takeSlot | pump | releaseSlot | dropTogedemon =>
      cases untouched
  | _ =>
      obtain ⟨-, rfl⟩ := Prod.mk.inj (Option.some.inj performed)
      exact ⟨rfl, rfl, rfl, rfl⟩

theorem Placed.frame {next : Trace} (placed : Placed state actor trace)
    (slot : after.togedemonCancel = state.togedemonCancel)
    (takeovers : after.takeovers = state.takeovers)
    (seen : after.slotSeen actor = state.slotSeen actor)
    (generation : after.streamManager.generation = state.streamManager.generation)
    (view : next.slot = trace.slot) (pipe : ∀ p, next.pipe = some p → trace.pipe = some p) :
    Placed after actor next where
  bound := by rw [seen, takeovers]; exact placed.bound
  newest := by rw [slot, seen, takeovers]; exact placed.newest
  free := by rw [view, slot, seen, takeovers]; exact placed.free
  own := by rw [view, slot, seen, takeovers]; exact placed.own
  wins p := by
    rw [slot, generation]
    exact fun held opened => placed.wins p held (pipe p opened)

theorem placed_of_free (slot : state.togedemonCancel = none)
    (seen : state.slotSeen actor = state.takeovers) : Placed state actor trace where
  bound := seen.le
  newest _ := seen
  free _ _ := slot
  own _ _ := Or.inr slot
  wins _ held := by simp [slot] at held

theorem placed_of_taken (view : trace.slot = .taken)
    (seen : state.slotSeen actor = state.takeovers)
    (wins : ∀ pipe, state.togedemonCancel = some actor → trace.pipe = some pipe →
      state.streamManager.generation = pipe) : Placed state actor trace where
  bound := seen.le
  newest _ := seen
  free found := by simp [view] at found
  own found := by simp [view] at found
  wins := wins

/-- Emptying the slot keeps every other task's place. -/
theorem Placed.emptied (placed : Placed state other trace)
    (slot : after.togedemonCancel = none) (takeovers : after.takeovers = state.takeovers)
    (seen : after.slotSeen other = state.slotSeen other) : Placed after other trace where
  bound := by rw [seen, takeovers]; exact placed.bound
  newest held := by simp [slot] at held
  free _ _ := slot
  own _ _ := Or.inr slot
  wins _ held := by simp [slot] at held

/-- A connection that takes the slot outdates every other task's look. -/
theorem Placed.surpassed (placed : Placed state other trace) (different : other ≠ actor)
    (slot : after.togedemonCancel = some actor) (takeovers : after.takeovers = state.takeovers + 1)
    (seen : after.slotSeen other = state.slotSeen other) : Placed after other trace := by
  have bound := placed.bound
  have outdated : after.slotSeen other ≠ after.takeovers := by omega
  have elsewhere : after.togedemonCancel ≠ some other := by
    rw [slot]
    exact fun same => different (Option.some.inj same).symm
  refine ⟨by omega, ?_, ?_, ?_, ?_⟩
  · exact fun held => absurd held elsewhere
  · exact fun _ current => absurd current outdated
  · exact fun _ current => absurd current outdated
  · exact fun _ held => absurd held elsewhere

/-- Whoever retires the pipe as permitted takes it from no one else's open connection. -/
theorem no_open_stream (placed : ∀ task, Placed state task (traces task))
    (permitted : RetiresUpToDate state traces actor op input) (retiring : retires op = true)
    (looked : (traces actor).slot = .free ∨ (traces actor).slot = .own) {pipe : Nat}
    (held : state.togedemonCancel = some other) (opened : (traces other).pipe = some pipe) :
    other = actor ∧ (traces actor).slot = .own := by
  rcases permitted retiring with current | closed
  · rcases looked with view | view
    · have free := (placed actor).free view current
      simp [free] at held
    · rcases (placed actor).own view current with mine | free
      · rw [held] at mine
        exact ⟨Option.some.inj mine, view⟩
      · simp [free] at held
  · simp [livePipe, held, opened] at closed

/-- Retiring the pipe keeps a task's place unless the slot holds it with an open stream. -/
theorem Placed.retired {next : Trace} (placed : Placed state other trace)
    (slot : after.togedemonCancel = state.togedemonCancel)
    (takeovers : after.takeovers = state.takeovers) (seen : after.slotSeen = state.slotSeen)
    (view : next.slot = trace.slot)
    (closed : ∀ pipe, state.togedemonCancel = some other → next.pipe = some pipe →
      after.streamManager.generation = pipe) : Placed after other next where
  bound := by rw [seen, takeovers]; exact placed.bound
  newest := by rw [slot, seen, takeovers]; exact placed.newest
  free := by rw [view, slot, seen, takeovers]; exact placed.free
  own := by rw [view, slot, seen, takeovers]; exact placed.own
  wins pipe := by rw [slot]; exact closed pipe

/-- A task that found the slot free and retires the pipe as permitted keeps every task's place. -/
theorem placed_of_retired {next : Trace} (placed : ∀ task, Placed state task (traces task))
    (permitted : RetiresUpToDate state traces actor op input) (retiring : retires op = true)
    (looked : (traces actor).slot = .free) (slot : after.togedemonCancel = state.togedemonCancel)
    (takeovers : after.takeovers = state.takeovers) (seen : after.slotSeen = state.slotSeen)
    (view : next.slot = (traces actor).slot) (pipe : next.pipe = (traces actor).pipe) :
    Placed after actor next ∧ ∀ task, task ≠ actor → Placed after task (traces task) := by
  have closed (task pipe : Nat) (held : state.togedemonCancel = some task) :
      (traces task).pipe ≠ some pipe := by
    intro opened
    have mine := (no_open_stream placed permitted retiring (Or.inl looked) held opened).2
    simp [looked] at mine
  constructor
  · refine (placed actor).retired slot takeovers seen view fun p held opened => ?_
    rw [pipe] at opened
    exact absurd opened (closed actor p held)
  · intro task _
    refine (placed task).retired slot takeovers seen rfl fun p held opened => ?_
    exact absurd opened (closed task p held)

theorem placed_of_quiet (untouched : quiet op = true)
    (placed : ∀ task, Placed state task (traces task))
    (performed : state.perform actor op input = some (answer, after)) :
    Placed after actor ((traces actor).next op answer) ∧
      ∀ task, task ≠ actor → Placed after task (traces task) := by
  obtain ⟨slot, takeovers, seen, stream⟩ := slot_of_quiet untouched performed
  obtain ⟨view, pipe⟩ := next_slot_of_quiet (traces actor) answer untouched
  have frame (task : Nat) (next : Trace) (view : next.slot = (traces task).slot)
      (pipe : next.pipe = (traces task).pipe) : Placed after task next :=
    (placed task).frame slot takeovers (by rw [seen]) (by rw [stream]) view
      fun p opened => pipe ▸ opened
  exact ⟨frame actor _ view pipe, fun task _ => frame task _ rfl rfl⟩

theorem Placed.seen (placed : Placed state other trace) (different : other ≠ actor) :
    Placed (state.see actor) other trace :=
  placed.frame rfl rfl (by simp [AppState.see, different]) rfl rfl fun _ => id

theorem placed_togedemonLive (placed : ∀ task, Placed state task (traces task)) (look : Look) :
    Placed (state.see actor) actor
        ((traces actor).next (.togedemonLive look) state.togedemonCancel.isSome) ∧
      ∀ task, task ≠ actor → Placed (state.see actor) task (traces task) := by
  refine ⟨?_, fun task different => (placed task).seen different⟩
  cases occupied : state.togedemonCancel with
  | none => exact placed_of_free occupied (by simp [AppState.see])
  | some holder =>
      refine placed_of_taken (by cases look <;> rfl) (by simp [AppState.see]) ?_
      intro pipe held opened
      exact (placed actor).wins pipe held (by cases look <;> exact opened)

theorem placed_takeSlot (placed : ∀ task, Placed state task (traces task))
    (closed : (traces actor).pipe = none) :
    Placed (state.takeSlot actor) actor ((traces actor).next .takeSlot ()) ∧
      ∀ task, task ≠ actor → Placed (state.takeSlot actor) task (traces task) := by
  rw [AppState.takeSlot, AppState.cancelSlot_eq]
  constructor
  · refine ⟨?_, ?_, ?_, ?_, ?_⟩
    · simp [AppState.see]
    · simp [AppState.see]
    · simp [Trace.next]
    · simp [AppState.see]
    · intro pipe _ opened
      simp [Trace.next, closed] at opened
  · exact fun task different =>
      (placed task).surpassed different rfl rfl (by simp [AppState.see, different])

/-- A connection leaves the slot unless another has taken it over. -/
theorem placed_releaseSlot (placed : ∀ task, Placed state task (traces task)) :
    Placed (state.releaseSlot actor).2 actor
        ((traces actor).next .releaseSlot (state.releaseSlot actor).1) ∧
      ∀ task, task ≠ actor → Placed (state.releaseSlot actor).2 task (traces task) := by
  by_cases cancelled : state.cancelled actor = true
  · rw [AppState.releaseSlot, if_pos cancelled]
    refine ⟨?_, fun task different => (placed task).seen different⟩
    refine placed_of_taken rfl (by simp [AppState.see]) fun pipe held opened => ?_
    exact (placed actor).wins pipe held opened
  · rw [AppState.releaseSlot, if_neg cancelled]
    refine ⟨placed_of_free rfl (by simp [AppState.see]), fun task different => ?_⟩
    exact (placed task).emptied rfl rfl (by simp [AppState.see, different])

theorem placed_dropTogedemon (placed : ∀ task, Placed state task (traces task)) :
    Placed (state.dropTogedemon actor) actor ((traces actor).next .dropTogedemon ()) ∧
      ∀ task, task ≠ actor → Placed (state.dropTogedemon actor) task (traces task) := by
  rw [AppState.dropTogedemon, AppState.cancelSlot_eq]
  refine ⟨placed_of_free rfl (by simp [AppState.see]), fun task different => ?_⟩
  exact (placed task).emptied rfl rfl (by simp [AppState.see, different])

theorem placed_perform (placed : ∀ task, Placed state task (traces task))
    (allowed : (traces actor).Allows op)
    (permitted : RetiresUpToDate state traces actor op input)
    (performed : state.perform actor op input = some (answer, after)) :
    Placed after actor ((traces actor).next op answer) ∧
      ∀ task, task ≠ actor → Placed after task (traces task) := by
  cases op with
  | playTrack filePath seekMs =>
      obtain ⟨-, rfl⟩ := Prod.mk.inj (Option.some.inj performed)
      exact placed_of_retired placed permitted rfl allowed.1 rfl rfl rfl rfl rfl
  | stop =>
      obtain ⟨-, rfl⟩ := Prod.mk.inj (Option.some.inj performed)
      exact placed_of_retired placed permitted rfl allowed rfl rfl rfl rfl rfl
  | playLive =>
      obtain ⟨rfl, rfl⟩ := Prod.mk.inj (Option.some.inj performed)
      refine ⟨(placed actor).retired rfl rfl rfl rfl fun _ _ => Option.some.inj, ?_⟩
      intro task different
      refine (placed task).retired rfl rfl rfl rfl fun _ held opened => ?_
      exact absurd (no_open_stream placed permitted rfl (Or.inr allowed.1) held opened).1 different
  | togedemonLive look =>
      obtain ⟨rfl, rfl⟩ := Prod.mk.inj (Option.some.inj performed)
      exact placed_togedemonLive placed look
  | takeSlot =>
      obtain ⟨-, rfl⟩ := Prod.mk.inj (Option.some.inj performed)
      exact placed_takeSlot placed allowed.1
  | pump pipe =>
      obtain ⟨-, rfl, rfl⟩ := of_guarded_answer performed
      refine ⟨?_, fun task _ => placed task⟩
      cases ended : input.bodyEnded with
      | false => exact placed actor
      | true => exact (placed actor).frame rfl rfl rfl rfl rfl fun _ opened => by cases opened
  | releaseSlot =>
      obtain ⟨rfl, rfl⟩ := Prod.mk.inj (Option.some.inj performed)
      exact placed_releaseSlot placed
  | dropTogedemon =>
      obtain ⟨-, rfl⟩ := Prod.mk.inj (Option.some.inj performed)
      exact placed_dropTogedemon placed
  | _ => exact placed_of_quiet rfl placed performed

theorem safe : machine.Safe Trace.discipline RetiresUpToDate
    fun state traces => ∀ task, Placed state task (traces task) where
  initial := by
    rintro state ⟨cache, playerEnabled, authenticated, now, rfl⟩ task
    exact placed_of_free rfl rfl
  accept := by
    intro state traces actor request program after placed _ accepted
    refine ⟨fun task => ?_, Trace.guides_accept accepted⟩
    rw [AppState.accept_eq accepted]
    exact (placed task).frame rfl rfl rfl rfl rfl fun _ => id
  perform := by
    intro state traces actor op input answer after placed allowed permitted performed
    obtain ⟨mine, others⟩ := placed_perform placed allowed permitted performed
    exact (Function.forall_update_iff traces fun task trace => Placed after task trace).mpr
      ⟨mine, others⟩
  outside := by
    intro state traces change after placed changed task
    obtain rfl := Option.some.inj changed
    cases change <;> exact (placed task).frame rfl rfl rfl rfl rfl fun _ => id

/-- The connections, the monitor, the prepares and the player switch in any order. -/
abbrev system := machine.system Trace.discipline

/-- If no task retires the pipe on a look at the slot that a connection has outdated, the newest
connection keeps the stream. -/
theorem newest_wins {pool : Pool signature AppState Trace}
    (reach : system.ReachableUnder (Machine.Permits RetiresUpToDate) pool) : NewestWins pool := by
  intro handler pipe held _ opened
  exact ((safe.guarded reach).holds handler).wins pipe held opened

/-- A task performs its next operation. -/
def advance (actor : Nat) : PoolEvent Request Input Change :=
  .advance actor { bodyEnded := false }

/-- One connection takes over from another, which then leaves. -/
def handover : List (PoolEvent Request Input Change) :=
  [.start .push, advance 0, advance 0, advance 0, .start .push, advance 1, advance 1, advance 1,
    advance 0, advance 0]

theorem handover_newest_wins :
    let pool := system.final (bareServer Trace.discipline) handover rfl
    (pool.trace 1).pipe = some 2 ∧ NewestWins pool :=
  ⟨rfl, newest_wins (System.ReachableUnder.final (bareServer_initial _) (by decide) rfl)⟩

/-- Two connections take the slot, and the older one switches to its live input last. -/
def overtaken : List (PoolEvent Request Input Change) :=
  [.start .push, .start .push, advance 0, advance 0, advance 1, advance 1, advance 1, advance 0]

/-- The older connection has the stream, and the newest one is in the slot. -/
theorem overtaken_loses_stream : ¬ ∀ pool, system.Reachable pool → NewestWins pool := by
  intro wins
  have reach : system.Reachable (system.final (bareServer Trace.discipline) overtaken rfl) :=
    System.reachable_final (bareServer_initial _) overtaken rfl
  have current := wins _ reach 1 1 rfl rfl rfl
  exact absurd current (by decide)

end TakeOver

end Togewire.Server
