import Togewire.Stream.Manager
import Togewire.Stream.Ogg

/-!
# Producers of cached files

`play_track` swaps the pipe and starts a task which opens the file and pumps it.  The flag behind
`has_track` is set with the swap and not cleared when the task ends, so it is right as long as no
task comes to the end of its input before its pipe is retired.
-/

namespace Togewire.Stream

open Transition

/-- The task `play_track` starts. -/
inductive FileTask
  | opening (seekMs : Int)
  | pumping (seekMs : Int) (pump : Pump)

/-- The task has come to its end. -/
def FileTask.ended : FileTask → Bool
  | .pumping _ (.ended _) => true
  | _ => false

/-- The manager, and the task `play_track` has started for each generation. -/
structure Playout where
  manager : Manager
  tasks : Nat → Option FileTask

/-- What a task waits for. -/
inductive Answer
  /-- The file has been opened, or not. -/
  | opened (result : Except String Unit)
  /-- A read has come back. -/
  | received (result : Except String (Option OggPage))
  /-- The wait for a page is over. -/
  | due
  /-- A wait or a read is given up, since the pipe has been retired. -/
  | cancelled

/-- What happens to a manager and its producers. -/
inductive PlayEvent
  | playTrack (filePath : String) (seekMs : Int)
  | playLive
  | stop
  /-- The producer of a live input calls its pipe. -/
  | live (generation : Nat) (call : Call)
  /-- The task of a generation goes on. -/
  | task (generation : Nat) (answer : Answer)

namespace Manager

def call (manager : Manager) (generation : Nat) : Call → Manager
  | .setHeaders headers => manager.setHeaders generation headers
  | .send page => manager.send generation page

def calls (manager : Manager) (generation : Nat) (calls : List Call) : Manager :=
  calls.foldl (fun manager => manager.call generation) manager

/-- Whether the pipe of a generation was retired. -/
def retired (manager : Manager) (generation : Nat) : Bool := (manager.pipes generation).shutdown

/-- A call on a pipe neither retires pipes nor switches the input. -/
structure Keeps (manager after : Manager) : Prop where
  generation : after.generation = manager.generation
  playingFile : after.playingFile = manager.playingFile
  retired : ∀ generation, after.retired generation = manager.retired generation

theorem keeps_call (manager : Manager) (generation : Nat) (call : Call) :
    manager.Keeps (manager.call generation call) := by
  cases call with
  | setHeaders headers =>
      refine ⟨rfl, rfl, fun other => ?_⟩
      by_cases same : other = generation
      · subst same
        simp [Manager.call, Manager.setHeaders, Manager.retired, Pipe.setHeaders]
      · simp [Manager.call, Manager.setHeaders, Manager.retired, same]
  | send page =>
      refine ⟨rfl, rfl, fun other => ?_⟩
      by_cases same : other = generation
      · subst same
        simp [Manager.call, Manager.send, Manager.retired, Pipe.send]
      · simp [Manager.call, Manager.send, Manager.retired, same]

theorem keeps_calls (manager : Manager) (generation : Nat) (calls : List Call) :
    manager.Keeps (manager.calls generation calls) := by
  induction calls generalizing manager with
  | nil => exact ⟨rfl, rfl, fun _ => rfl⟩
  | cons call calls ih =>
      have first := keeps_call manager generation call
      have rest := ih (manager.call generation call)
      exact ⟨rest.generation.trans first.generation, rest.playingFile.trans first.playingFile,
        fun other => (rest.retired other).trans (first.retired other)⟩

end Manager

/-- What becomes of a task, and its calls on the pipe. -/
def FileTask.advance (retired : Bool) : FileTask → Answer → Option (FileTask × List Call)
  | .opening seekMs, .opened (.ok ()) => some (.pumping seekMs .start, [])
  | .opening seekMs, .opened (.error error) => some (.pumping seekMs (.ended (.error error)), [])
  | .pumping seekMs pump, .received result =>
      if pump.reads then
        let (next, calls) := pump.read (seekBase seekMs) result
        some (.pumping seekMs next, calls)
      else
        none
  | .pumping seekMs (.due page), .due =>
      if retired then some (.pumping seekMs (.ended (.ok ())), [])
      else some (.pumping seekMs .playing, [.send page.data])
  | .pumping seekMs pump, .cancelled =>
      if pump.watches && retired then some (.pumping seekMs (.ended (.ok ())), []) else none
  | _, _ => none

namespace Playout

/-- Swap the pipe, and start the task of the new generation, if any. -/
def swap (playout : Playout) (manager : Manager) (task : Option FileTask) : Playout :=
  { manager := manager
    tasks := Function.update playout.tasks manager.generation task }

/-- A task goes on. -/
def advance (playout : Playout) (generation : Nat) (answer : Answer) : Option Playout :=
  match playout.tasks generation with
  | none => none
  | some task =>
      (task.advance (playout.manager.retired generation) answer).map fun (next, calls) =>
        { manager := playout.manager.calls generation calls
          tasks := Function.update playout.tasks generation (some next) }

/-- The effect of one event, if it can happen. -/
def step (playout : Playout) : PlayEvent → Option Playout
  | .playTrack filePath seekMs =>
      some (playout.swap (playout.manager.playTrack filePath seekMs) (some (.opening seekMs)))
  | .playLive => some (playout.swap playout.manager.playLive none)
  | .stop => some (playout.swap playout.manager.stop none)
  | .live generation call => some { playout with manager := playout.manager.call generation call }
  | .task generation answer => playout.advance generation answer

/-- All orders of switches and of what the tasks do. -/
def system : System Playout PlayEvent where
  initial playout := playout = { manager := .new, tasks := fun _ => none }
  step := step

/-! ## A track that is fed -/

/-- The input does not end here: the file is there, and a read gives a page, at first a header
page. -/
def goesOn : FileTask → Answer → Bool
  | _, .opened (.ok ()) => true
  | .pumping _ (.headers none _), .received (.ok (some page)) => page.isHeader
  | _, .received (.ok (some _)) => true
  | _, .due | _, .cancelled => true
  | _, _ => false

/-- No task comes to the end of its input before its pipe is retired. -/
def Lasts (playout : Playout) : PlayEvent → Prop
  | .task generation answer =>
      (playout.tasks generation).all (fun task =>
        playout.manager.retired generation || goesOn task answer) = true
  | _ => True

instance (playout : Playout) : ∀ event, Decidable (playout.Lasts event)
  | .task _ _ => inferInstanceAs (Decidable (_ = true))
  | .playTrack _ _ | .playLive | .stop | .live _ _ => isTrue trivial

/-- The task of the current generation, which plays a file, has not ended. -/
def Running (playout : Playout) : Prop :=
  ∃ task, playout.tasks playout.manager.generation = some task ∧ task.ended = false

/-- The invariant of all runs. -/
structure Fed (playout : Playout) : Prop where
  current : playout.manager.retired playout.manager.generation = false
  started : playout.manager.hasTrack = true →
    (playout.tasks playout.manager.generation).isSome = true
  lasting : ∀ generation task, playout.tasks generation = some task → task.ended = true →
    playout.manager.retired generation = true

/-- A page does not end a pump, unless it stands where the first header page should. -/
theorem readPage_goesOn {seekMs : Int} {pump : Pump} {page : OggPage}
    (reads : pump.reads = true) (goes : goesOn (.pumping seekMs pump) (.received (.ok (some page))))
    (base : Nat) : (FileTask.pumping seekMs (pump.readPage base page).1).ended = false := by
  have sought (opening : Bytes) :
      (FileTask.pumping seekMs (Pump.seek base opening page).1).ended = false := by
    rw [Pump.seek]
    split <;> rfl
  cases pump with
  | headers head tagsSeq =>
      cases head with
      | none =>
          have isHeader : page.isHeader = true := goes
          rw [Pump.readPage, isHeader]
          rfl
      | some head =>
          rw [Pump.readPage]
          split
          · rfl
          · exact sought _
  | seeking opening => exact sought opening
  | playing => rfl
  | due | ended => cases reads

/-- A task whose pipe is not retired ends only at the end of its input. -/
theorem retired_of_ended {retired : Bool} {task next : FileTask} {answer : Answer}
    {calls : List Call} (advanced : task.advance retired answer = some (next, calls))
    (goes : retired = true ∨ goesOn task answer = true) (ended : next.ended = true) :
    retired = true := by
  obtain retires | goes := goes
  · exact retires
  · match task, answer with
    | .opening _, .opened (.ok ()) =>
        obtain ⟨rfl, -⟩ := Prod.mk.inj (Option.some.inj advanced)
        cases ended
    | .pumping seekMs pump, .received (.ok (some page)) =>
        obtain ⟨reads, rfl, -⟩ := of_guarded_answer advanced
        have lasts := readPage_goesOn reads goes (seekBase seekMs)
        exact absurd ended (Bool.eq_false_iff.mp lasts)
    | .pumping _ (.due page), .due =>
        obtain ⟨retires, -⟩ | ⟨-, same⟩ := ite_eq_iff.mp advanced
        · exact retires
        · obtain ⟨rfl, -⟩ := Prod.mk.inj (Option.some.inj same)
          cases ended
    | .pumping _ pump, .cancelled =>
        obtain ⟨watched, -⟩ := Option.ite_none_right_eq_some.mp advanced
        exact ((Bool.and_eq_true _ _).mp watched).2

variable {playout after : Playout}

theorem Fed.calls (fed : playout.Fed) {manager : Manager} (keeps : playout.manager.Keeps manager) :
    Fed { playout with manager } where
  current := by
    rw [keeps.generation, keeps.retired]
    exact fed.current
  started plays := by
    rw [keeps.generation]
    exact fed.started (keeps.playingFile.symm.trans plays)
  lasting generation task kept ended := by
    rw [keeps.retired]
    exact fed.lasting generation task kept ended

theorem Fed.swap (fed : playout.Fed) {playingFile : Bool} {source : Source}
    {task : Option FileTask} (plays : playingFile = true → task.isSome = true)
    (fresh : ∀ started, task = some started → started.ended = false) :
    (playout.swap (playout.manager.swapPipe playingFile source) task).Fed where
  current := by simp [Playout.swap, Manager.retired, Manager.swapPipe, Pipe.new]
  started playing := by
    simpa [Playout.swap] using plays playing
  lasting := by
    intro generation other kept ended
    by_cases newest : generation = playout.manager.generation + 1
    · subst newest
      have started : task = some other := by simpa [Playout.swap] using kept
      exact absurd ended (Bool.eq_false_iff.mp (fresh other started))
    · have earlier : playout.tasks generation = some other := by
        simpa [Playout.swap, newest] using kept
      have retires := fed.lasting generation other earlier ended
      by_cases current : generation = playout.manager.generation
      · subst current
        simp [Playout.swap, Manager.retired, Manager.swapPipe, Pipe.retire]
      · simpa [Playout.swap, Manager.retired, Manager.swapPipe, newest, current] using retires

theorem Fed.update (fed : playout.Fed) {generation : Nat} {next : FileTask}
    (ends : next.ended = true → playout.manager.retired generation = true) :
    Fed { playout with tasks := Function.update playout.tasks generation (some next) } where
  current := fed.current
  started plays := by
    by_cases own : playout.manager.generation = generation
    · subst own
      simp
    · simpa [own] using fed.started plays
  lasting := by
    refine (Function.forall_update_iff playout.tasks fun generation kept => ∀ task,
      kept = some task → task.ended = true → playout.manager.retired generation = true).mpr ⟨?_, ?_⟩
    · intro task same ended
      obtain rfl := Option.some.inj same
      exact ends ended
    · exact fun other _ => fed.lasting other

theorem Fed.advance (fed : playout.Fed) {generation : Nat} {answer : Answer}
    (lasts : playout.Lasts (.task generation answer))
    (step : playout.advance generation answer = some after) : after.Fed := by
  rw [Playout.advance] at step
  cases held : playout.tasks generation with
  | none => simp [held] at step
  | some task =>
      rw [held] at step
      obtain ⟨⟨next, calls⟩, advanced, rfl⟩ := Option.map_eq_some_iff.mp step
      have goes : playout.manager.retired generation = true ∨ goesOn task answer = true := by
        simpa [Lasts, held] using lasts
      exact (fed.update (retired_of_ended advanced goes)).calls
        (playout.manager.keeps_calls generation calls)

theorem Fed.step {event : PlayEvent} (fed : playout.Fed) (lasts : playout.Lasts event)
    (step : playout.step event = some after) : after.Fed := by
  cases event with
  | playTrack filePath seekMs =>
      obtain rfl := Option.some.inj step
      exact fed.swap (fun _ => rfl) fun started same => by obtain rfl := Option.some.inj same; rfl
  | playLive | stop =>
      obtain rfl := Option.some.inj step
      exact fed.swap nofun nofun
  | live generation call =>
      obtain rfl := Option.some.inj step
      exact fed.calls (playout.manager.keeps_call generation call)
  | task generation answer => exact fed.advance lasts step

/-- If no task comes to the end of its input before its pipe is retired, a file is said to play only
while its task runs. -/
theorem track_is_running (reach : system.ReachableUnder Lasts playout) :
    playout.manager.hasTrack = true → playout.Running := by
  have fed : playout.Fed := by
    refine reach.invariant _ ?_ fun before event after _ fed lasts step => fed.step lasts step
    rintro _ rfl
    exact ⟨rfl, nofun, nofun⟩
  intro plays
  obtain ⟨task, held⟩ := Option.isSome_iff_exists.mp (fed.started plays)
  refine ⟨task, held, Bool.eq_false_iff.mpr fun ended => ?_⟩
  exact Bool.eq_false_iff.mp fed.current (fed.lasting _ task held ended)

def silent : Playout := { manager := .new, tasks := fun _ => none }

/-- A file plays its first page, and another one takes its place. -/
def replaced : List PlayEvent :=
  [.playTrack "song.ogg" 0, .task 1 (.opened (.ok ())),
    .task 1 (.received (.ok (some ⟨[1], 0⟩))), .task 1 (.received (.ok (some ⟨[2], 960⟩))),
    .task 1 .due, .playTrack "next.ogg" 0, .task 1 .cancelled, .task 2 (.opened (.ok ()))]

theorem replaced_is_running :
    let playout := system.final silent replaced rfl
    playout.manager.hasTrack = true ∧ playout.Running := by
  have reach : system.ReachableUnder Lasts (system.final silent replaced rfl) :=
    System.ReachableUnder.final rfl (by decide) rfl
  exact ⟨rfl, track_is_running reach rfl⟩

/-- A file is played to its end. -/
def finished : List PlayEvent :=
  [.playTrack "song.ogg" 0, .task 1 (.opened (.ok ())),
    .task 1 (.received (.ok (some ⟨[1], 0⟩))), .task 1 (.received (.ok (some ⟨[2], 960⟩))),
    .task 1 .due, .task 1 (.received (.ok none))]

/-- The flag outlives the task. -/
theorem finished_is_not_running : ¬ ∀ playout, system.Reachable playout →
    playout.manager.hasTrack = true → playout.Running := by
  intro running
  have reach : system.Reachable (system.final silent finished rfl) :=
    System.reachable_final rfl finished rfl
  obtain ⟨task, held, lasts⟩ := running _ reach rfl
  obtain rfl := Option.some.inj held
  cases lasts

end Playout

end Togewire.Stream
