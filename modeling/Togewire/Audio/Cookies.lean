import Mathlib.Logic.Function.Basic
import Togewire.Foundation.Lineage
import Togewire.Foundation.Program

/-!
# The cookies file

Every run of yt-dlp gets a copy of the cookies file, rewrites it, and hands it back unless the file
has been replaced meanwhile.  Copies go in and out one at a time.  The file may be replaced from
outside at any moment but between the look at it and the write of a run which hands its copy back,
and every content written by a run then replaces the one this run has read.
-/

namespace Togewire.Audio.Cookies

open Interleaving Lineage Transition

/-- The bytes of a file. -/
abbrev Content := List UInt8

/-! ## Operations -/

/-- The files the runs share. -/
structure Disk where
  /-- The task which has `COOKIES_TURN`. -/
  turn : Option Nat
  files : String → Option Content
  /-- The private copies by run. -/
  copies : Nat → Option Content
  runs : Nat
  /-- The file a task is about to write, after finding it as it had read it. -/
  saving : Option String
  /-- History: the files at startup. -/
  loaded : String → Option Content
  /-- History: what each task has read at its start. -/
  read : Nat → Option Content
  /-- History: the versions of each file, the last one first. -/
  versions : String → List (Version (Option Content))

/-- The operations of a run of yt-dlp with cookies. -/
inductive Op
  | nextRun
  | acquireTurn
  | releaseTurn
  | readFile (file : String)
  | removeCopy (run : Nat)
  | writeCopy (run : Nat) (content : Content)
  | runYtdlp (run : Nat)
  | readCopy (run : Nat)
  | unchanged (file : String) (read : Content)
  | writeFile (file : String) (learned : Content)

def Op.Answer : Op → Type
  | nextRun => Nat
  | readFile _ | readCopy _ => Option Content
  | writeCopy _ _ | runYtdlp _ | unchanged _ _ | writeFile _ _ => Bool
  | acquireTurn | releaseTurn | removeCopy _ => Unit

abbrev signature : Signature := ⟨Op, Op.Answer⟩

abbrev Task := Program signature

/-- What the outside world contributes to a step. -/
structure Input where
  /-- Whether a file which exists can be read. -/
  readable : Bool := true
  /-- How many bytes reach a file which is written, if it can be opened. -/
  written : Option Nat := none
  /-- Whether yt-dlp ends in time. -/
  ends : Bool := true

/-- What is read of a file. -/
def Input.reads (input : Input) (content : Option Content) : Option Content :=
  if input.readable then content else none

namespace Disk

/-- A file gets another content. -/
def put (disk : Disk) (file : String) (version : Version (Option Content)) : Disk :=
  { disk with
    files := Function.update disk.files file version.value
    versions := Function.update disk.versions file (version :: disk.versions file) }

/-- The effect of one operation. -/
def perform (disk : Disk) (actor : Nat) (op : Op) (input : Input) : Option (op.Answer × Disk) :=
  match op with
  | .nextRun => some (disk.runs, { disk with runs := disk.runs + 1 })
  | .acquireTurn =>
      if disk.turn = none then some ((), { disk with turn := some actor }) else none
  | .releaseTurn => some ((), { disk with turn := none, saving := none })
  | .readFile file =>
      let found := input.reads (disk.files file)
      some (found, { disk with read := Function.update disk.read actor found })
  | .removeCopy run => some ((), { disk with copies := Function.update disk.copies run none })
  | .writeCopy run content =>
      match input.written with
      | none => some (false, disk)
      | some count =>
          some (decide (content.length ≤ count),
            { disk with
              copies := Function.update disk.copies run (some (content.take count)) })
  | .runYtdlp _ => some (input.ends, disk)
  | .readCopy run => some (input.reads (disk.copies run), disk)
  | .unchanged file read =>
      if input.reads (disk.files file) = some read then
        some (true, { disk with saving := some file })
      else
        some (false, disk)
  | .writeFile file learned =>
      let wrote := { disk with saving := none }
      match input.written with
      | none => some (false, wrote)
      | some count =>
          some (decide (learned.length ≤ count),
            wrote.put file ⟨some (disk.read actor), some (learned.take count)⟩)

end Disk

/-! ## Runs -/

def ask (op : Op) : Task op.Answer := Program.perform (S := signature) op

def nextRun : Task Nat := ask .nextRun
def acquireTurn : Task Unit := ask .acquireTurn
def releaseTurn : Task Unit := ask .releaseTurn
def readFile (file : String) : Task (Option Content) := ask (.readFile file)
def removeCopy (run : Nat) : Task Unit := ask (.removeCopy run)
def writeCopy (run : Nat) (content : Content) : Task Bool := ask (.writeCopy run content)
def runYtdlp (run : Nat) : Task Bool := ask (.runYtdlp run)
def readCopy (run : Nat) : Task (Option Content) := ask (.readCopy run)
def unchanged (file : String) (read : Content) : Task Bool := ask (.unchanged file read)
def writeFile (file : String) (learned : Content) : Task Bool := ask (.writeFile file learned)

/-- One run's copy of the cookies file. -/
structure RunCookies where
  file : String
  run : Nat
  /-- The file as copied. -/
  read : Content

/-- `Drop`. -/
def RunCookies.drop (cookies : RunCookies) : Task Unit := removeCopy cookies.run

/-- `Cookies::copy`, absent on an error. -/
def copy (file : String) : Task (Option RunCookies) := do
  let run ← nextRun
  acquireTurn
  let found ← readFile file
  releaseTurn
  match found with
  | none => pure none
  | some read => do
      let cookies : RunCookies := ⟨file, run, read⟩
      removeCopy run
      if ← writeCopy run read then
        pure (some cookies)
      else
        cookies.drop
        pure none

/-- Write what was learned to a file which is as it was read. -/
def writeBack (cookies : RunCookies) (learned : Content) : Task Unit := do
  if ← unchanged cookies.file cookies.read then
    let _ ← writeFile cookies.file learned
  else
    pure ()

/-- Hand back a copy which is not as it was read. -/
def handBack (cookies : RunCookies) (learned : Content) : Task Unit :=
  if learned = cookies.read then
    pure ()
  else do
    acquireTurn
    writeBack cookies learned
    releaseTurn

/-- `Cookies::save`: what the run has left in its copy is written back. -/
def save (cookies : RunCookies) : Task Unit := do
  match ← readCopy cookies.run with
  | none => pure ()
  | some learned => handBack cookies learned

/-- A search or a download: a run which does not end in time is killed. -/
def ytdlp (file : String) : Task Unit := do
  match ← copy file with
  | none => pure ()
  | some cookies =>
      if ← runYtdlp cookies.run then
        save cookies
      else
        pure ()
      cookies.drop

/-- What happens outside. -/
inductive Change
  /-- Someone replaces or removes a file. -/
  | replaceFile (file : String) (content : Option Content)
  /-- yt-dlp writes its own copy. -/
  | rewriteCopy (run : Nat) (content : Option Content)

/-- A file is not replaced between a task's look at it and the write. -/
def Disk.outside (disk : Disk) : Change → Option Disk
  | .replaceFile file content =>
      if disk.saving = some file then none else some (disk.put file ⟨none, content⟩)
  | .rewriteCopy run content =>
      some { disk with copies := Function.update disk.copies run content }

/-- Nobody has the turn yet. -/
def start (files : String → Option Content) (copies : Nat → Option Content) : Disk where
  turn := none
  files := files
  copies := copies
  runs := 0
  saving := none
  loaded := files
  read _ := none
  versions _ := []

/-- All orders of runs and replacements.  A run names the file it takes. -/
def machine : Machine signature Disk String Input Change where
  initial disk := ∃ files copies, disk = start files copies
  accept disk _ file := some (ytdlp file, disk)
  perform := Disk.perform
  outside := Disk.outside

/-! ## What each task has done -/

/-- Where a run stands: what it has read, whether it has the turn, and whether it is about to write
the file, which is as it was read. -/
inductive Stage
  | away (held : Option (String × Content))
  | turn (held : Option (String × Content))
  | matched (file : String) (read : Content)

namespace Stage

/-- The file a task has read, and what it has read of it. -/
def held : Stage → Option (String × Content)
  | away held | turn held => held
  | matched file read => some (file, read)

/-- Whether the task is between taking the turn and giving it back. -/
def holdsTurn : Stage → Bool
  | away _ => false
  | turn _ | matched _ _ => true

def next (stage : Stage) : (op : Op) → op.Answer → Stage
  | .acquireTurn, _ => turn stage.held
  | .releaseTurn, _ => away stage.held
  | .readFile file, found => turn (Option.map (fun read => (file, read)) found)
  | .unchanged file read, true => matched file read
  | .writeFile _ _, _ => turn stage.held
  | _, _ => stage

/-- A file is read, compared and written in one turn. -/
def Allows (stage : Stage) : Op → Prop
  | .acquireTurn => ∃ held, stage = away held
  | .releaseTurn => stage.holdsTurn = true
  | .readFile _ => ∃ held, stage = turn held
  | .unchanged file read => stage = turn (some (file, read))
  | .writeFile file _ => ∃ read, stage = matched file read
  | _ => True

end Stage

def discipline : Discipline signature Stage where
  start := .away none
  next := Stage.next
  allows := Stage.Allows

theorem guides_copy (file : String) :
    (copy file).Obeys discipline (.away none) fun cookies stage =>
      ∀ run, cookies = some run → stage = .away (some (run.file, run.read)) := by
  refine Program.Obeys.perform trivial fun run => ?_
  refine Program.Obeys.perform ⟨none, rfl⟩ fun _ => ?_
  refine Program.Obeys.perform ⟨none, rfl⟩ fun found => ?_
  refine Program.Obeys.perform rfl fun _ => ?_
  cases found with
  | none => exact nofun
  | some read =>
      refine Program.Obeys.perform trivial fun _ => Program.Obeys.perform trivial fun opened => ?_
      cases opened with
      | false => exact ⟨trivial, fun _ => nofun⟩
      | true =>
          rintro cookies copied
          obtain rfl := Option.some.inj copied
          rfl

theorem guides_writeBack (cookies : RunCookies) (learned : Content) :
    (writeBack cookies learned).Obeys discipline (.turn (some (cookies.file, cookies.read)))
      fun _ stage => stage.holdsTurn = true := by
  refine Program.Obeys.perform rfl fun same => ?_
  cases same with
  | false => rfl
  | true => exact ⟨⟨cookies.read, rfl⟩, fun _ => rfl⟩

theorem guides_handBack (cookies : RunCookies) (learned : Content) :
    (handBack cookies learned).Obeys discipline (.away (some (cookies.file, cookies.read)))
      fun _ _ => True := by
  rw [handBack]
  split
  · trivial
  · refine Program.Obeys.perform ⟨_, rfl⟩ fun _ => ?_
    refine Program.Obeys.bind ((guides_writeBack cookies learned).mono ?_)
    exact fun _ stage turn => ⟨turn, fun _ => trivial⟩

theorem guides_save (cookies : RunCookies) :
    (save cookies).Obeys discipline (.away (some (cookies.file, cookies.read)))
      fun _ _ => True := by
  refine Program.Obeys.perform trivial fun learned => ?_
  cases learned with
  | none => trivial
  | some learned => exact guides_handBack cookies learned

theorem guides_ytdlp (file : String) :
    (ytdlp file).Obeys discipline (.away none) fun _ _ => True := by
  refine Program.Obeys.bind ((guides_copy file).mono fun copied stage holds => ?_)
  cases copied with
  | none => trivial
  | some cookies =>
      obtain rfl := holds cookies rfl
      refine Program.Obeys.perform trivial fun ends => ?_
      cases ends with
      | false => exact ⟨trivial, fun _ => trivial⟩
      | true =>
          refine Program.Obeys.bind ((guides_save cookies).mono ?_)
          exact fun _ stage _ => ⟨trivial, fun _ => trivial⟩

/-! ## Every write replaces what its run has read -/

namespace Disk

/-- A file is its last version, and no version written by a run stands over another content than
this run has read. -/
def Recorded (disk : Disk) (file : String) : Prop :=
  disk.files file = latest (disk.loaded file) (disk.versions file) ∧
    Chained (disk.loaded file) (disk.versions file)

/-- What a run knows of the files. -/
def Knows (disk : Disk) (actor : Nat) (stage : Stage) : Prop :=
  (∀ file read, stage.held = some (file, read) → disk.read actor = some read) ∧
    ∀ file read, stage = .matched file read →
      disk.saving = some file ∧ disk.files file = some read

/-- The invariant of all interleavings. -/
structure Linear (disk : Disk) (stages : Nat → Stage) : Prop where
  turn : ∀ task, (stages task).holdsTurn = true ↔ disk.turn = some task
  knows : ∀ task, disk.Knows task (stages task)
  recorded : ∀ file, disk.Recorded file

variable {disk after : Disk} {stages : Nat → Stage} {actor : Nat} {op : Op} {answer : op.Answer}
  {input : Input} {next : Stage} {file : String}

theorem recorded_put (recorded : ∀ file, disk.Recorded file) {version : Version (Option Content)}
    (replaces : ∀ base, version.base = some base → disk.files file = base) (other : String) :
    (disk.put file version).Recorded other := by
  by_cases same : other = file
  · subst same
    obtain ⟨last, chained⟩ := recorded other
    constructor
    · simp [put, latest]
    · simp only [put, Function.update_self]
      exact chained.extend fun base derived => last.symm.trans (replaces base derived)
  · simpa [Recorded, put, same] using recorded other

section Steps

variable (linear : disk.Linear stages)
include linear

theorem Linear.turn_update (same : next.holdsTurn = (stages actor).holdsTurn) (task : Nat) :
    (Function.update stages actor next task).holdsTurn = true ↔ disk.turn = some task := by
  revert task
  refine (Function.forall_update_iff stages fun task stage =>
    stage.holdsTurn = true ↔ disk.turn = some task).mpr ⟨?_, fun task _ => linear.turn task⟩
  rw [same]
  exact linear.turn actor

/-- Nobody but the holder of the turn is about to write a file. -/
theorem Linear.knows_of_turn (holds : (stages actor).holdsTurn = true) {task : Nat}
    (different : task ≠ actor) (read : after.read task = disk.read task) :
    after.Knows task (stages task) := by
  constructor
  · rw [read]
    exact (linear.knows task).1
  · intro file content matched
    have other : disk.turn = some task := (linear.turn task).mp (by rw [matched]; rfl)
    have own : disk.turn = some actor := (linear.turn actor).mp holds
    exact absurd (Option.some.inj (other.symm.trans own)) different

theorem Linear.update (holds : (stages actor).holdsTurn = true)
    (read : ∀ task, task ≠ actor → after.read task = disk.read task)
    (turn : ∀ task, (Function.update stages actor next task).holdsTurn = true ↔
      after.turn = some task)
    (own : after.Knows actor next) (recorded : ∀ file, after.Recorded file) :
    after.Linear (Function.update stages actor next) where
  turn := turn
  knows := (Function.forall_update_iff stages fun task stage => after.Knows task stage).mpr
    ⟨own, fun task different => linear.knows_of_turn holds different (read task different)⟩
  recorded := recorded

theorem Linear.keep (turn : after.turn = disk.turn) (read : after.read = disk.read)
    (saving : after.saving = disk.saving) (files : after.files = disk.files)
    (recorded : ∀ file, after.Recorded file) :
    after.Linear (Function.update stages actor (stages actor)) := by
  rw [Function.update_eq_self]
  refine ⟨?_, fun task => ?_, recorded⟩
  · rw [turn]
    exact linear.turn
  · rw [Knows, read, saving, files]
    exact linear.knows task

theorem linear_acquireTurn (unheld : disk.turn = none) :
    Linear { disk with turn := some actor }
      (Function.update stages actor (.turn (stages actor).held)) where
  turn := by
    refine (Function.forall_update_iff stages fun task stage =>
      stage.holdsTurn = true ↔ some actor = some task).mpr ⟨⟨fun _ => rfl, fun _ => rfl⟩, ?_⟩
    intro task different
    constructor
    · intro holds
      have held := (linear.turn task).mp holds
      rw [unheld] at held
      cases held
    · exact fun same => absurd (Option.some.inj same).symm different
  knows := by
    refine (Function.forall_update_iff stages fun task stage =>
      Knows { disk with turn := some actor } task stage).mpr ⟨?_, fun task _ => linear.knows task⟩
    exact ⟨(linear.knows actor).1, nofun⟩
  recorded := linear.recorded

theorem linear_releaseTurn (holds : (stages actor).holdsTurn = true) :
    Linear { disk with turn := none, saving := none }
      (Function.update stages actor (.away (stages actor).held)) := by
  refine linear.update holds (fun _ _ => rfl) ?_ ⟨(linear.knows actor).1, nofun⟩ linear.recorded
  refine (Function.forall_update_iff stages fun task stage =>
    stage.holdsTurn = true ↔ none = some task).mpr ⟨⟨nofun, nofun⟩, fun task different => ?_⟩
  constructor
  · intro other
    have same := ((linear.turn actor).mp holds).symm.trans ((linear.turn task).mp other)
    exact absurd (Option.some.inj same).symm different
  · exact nofun

theorem linear_readFile (holds : (stages actor).holdsTurn = true) (file : String)
    (found : Option Content) :
    Linear { disk with read := Function.update disk.read actor found }
      (Function.update stages actor (.turn (found.map fun read => (file, read)))) := by
  refine linear.update holds ?_ (linear.turn_update holds.symm) ⟨?_, nofun⟩ linear.recorded
  · exact fun task different => Function.update_of_ne different _ _
  · intro other read held
    obtain ⟨content, rfl, same⟩ := Option.map_eq_some_iff.mp held
    obtain ⟨rfl, rfl⟩ := Prod.mk.inj same
    exact Function.update_self ..

theorem linear_unchanged {read : Content} (stage : stages actor = .turn (some (file, read)))
    (same : disk.files file = some read) :
    Linear { disk with saving := some file }
      (Function.update stages actor (.matched file read)) := by
  have holds : (stages actor).holdsTurn = true := by rw [stage]; rfl
  have knows := (linear.knows actor).1
  rw [stage] at knows
  refine linear.update holds (fun _ _ => rfl) (linear.turn_update holds.symm) ⟨knows, ?_⟩
    linear.recorded
  intro other content matched
  obtain ⟨rfl, rfl⟩ := Stage.matched.inj matched
  exact ⟨rfl, same⟩

theorem linear_writeFile {read : Content} (stage : stages actor = .matched file read)
    (learned : Content) {reply : Bool}
    (performed : disk.perform actor (.writeFile file learned) input = some (reply, after)) :
    after.Linear (Function.update stages actor (.turn (some (file, read)))) := by
  have holds : (stages actor).holdsTurn = true := by rw [stage]; rfl
  obtain ⟨held, matched⟩ := linear.knows actor
  have source : disk.read actor = some read := held file read (by rw [stage]; rfl)
  have same : disk.files file = some read := (matched file read stage).2
  rw [stage] at held
  have stays : (Stage.turn (some (file, read))).holdsTurn = (stages actor).holdsTurn := holds.symm
  have turn := linear.turn_update stays
  simp only [perform] at performed
  split at performed
  · obtain ⟨-, rfl⟩ := Prod.mk.inj (Option.some.inj performed)
    exact linear.update holds (fun _ _ => rfl) turn ⟨held, nofun⟩ linear.recorded
  · obtain ⟨-, rfl⟩ := Prod.mk.inj (Option.some.inj performed)
    refine linear.update holds (fun _ _ => rfl) turn ⟨held, nofun⟩ ?_
    refine recorded_put linear.recorded fun base derived => ?_
    exact same.trans (source.symm.trans (Option.some.inj derived))

theorem linear_perform (allowed : (stages actor).Allows op)
    (performed : disk.perform actor op input = some (answer, after)) :
    after.Linear (Function.update stages actor ((stages actor).next op answer)) := by
  cases op with
  | acquireTurn =>
      obtain ⟨unheld, -, rfl⟩ := of_guarded_answer performed
      exact linear_acquireTurn linear unheld
  | releaseTurn =>
      obtain ⟨-, rfl⟩ := Prod.mk.inj (Option.some.inj performed)
      exact linear_releaseTurn linear allowed
  | readFile file =>
      obtain ⟨rfl, rfl⟩ := Prod.mk.inj (Option.some.inj performed)
      obtain ⟨held, stage⟩ := allowed
      exact linear_readFile linear (by rw [stage]; rfl) file _
  | unchanged file read =>
      obtain ⟨same, reply⟩ | ⟨-, reply⟩ := ite_eq_iff.mp performed
      · obtain ⟨rfl, rfl⟩ := Prod.mk.inj (Option.some.inj reply)
        exact linear_unchanged linear allowed (Option.ite_none_right_eq_some.mp same).2
      · obtain ⟨rfl, rfl⟩ := Prod.mk.inj (Option.some.inj reply)
        exact linear.keep rfl rfl rfl rfl linear.recorded
  | writeFile file learned =>
      obtain ⟨read, stage⟩ := allowed
      rw [stage]
      exact linear_writeFile linear stage learned performed
  | writeCopy run content =>
      simp only [perform] at performed
      split at performed
      · obtain ⟨-, rfl⟩ := Prod.mk.inj (Option.some.inj performed)
        exact linear.keep rfl rfl rfl rfl linear.recorded
      · obtain ⟨-, rfl⟩ := Prod.mk.inj (Option.some.inj performed)
        exact linear.keep rfl rfl rfl rfl linear.recorded
  | nextRun | removeCopy | runYtdlp | readCopy =>
      obtain ⟨-, rfl⟩ := Prod.mk.inj (Option.some.inj performed)
      exact linear.keep rfl rfl rfl rfl linear.recorded

end Steps

theorem linear_outside (linear : disk.Linear stages) {change : Change}
    (changed : disk.outside change = some after) : after.Linear stages := by
  cases change with
  | replaceFile file content =>
      obtain ⟨unwatched, same⟩ := Option.ite_none_left_eq_some.mp changed
      obtain rfl := Option.some.inj same
      refine ⟨linear.turn, fun task => ⟨(linear.knows task).1, ?_⟩,
        recorded_put linear.recorded nofun⟩
      intro other read stage
      obtain ⟨saving, same⟩ := (linear.knows task).2 other read stage
      have different : other ≠ file := by
        rintro rfl
        exact unwatched saving
      refine ⟨saving, ?_⟩
      simpa [put, different] using same
  | rewriteCopy run content =>
      obtain rfl := Option.some.inj changed
      exact ⟨linear.turn, linear.knows, linear.recorded⟩

end Disk

theorem safe : machine.Safe discipline (fun _ _ _ _ _ => True) Disk.Linear where
  initial := by
    rintro _ ⟨files, copies, rfl⟩
    exact ⟨fun _ => ⟨nofun, nofun⟩, fun _ => ⟨nofun, nofun⟩, fun _ => ⟨rfl, trivial⟩⟩
  accept := by
    intro disk stages actor file program after linear _ accepted
    obtain ⟨rfl, rfl⟩ := Prod.mk.inj (Option.some.inj accepted)
    exact ⟨linear, guides_ytdlp file⟩
  perform disk stages actor op input answer after linear allowed _ performed :=
    Disk.linear_perform linear allowed performed
  outside disk stages change after linear changed := Disk.linear_outside linear changed

/-- All interleavings of runs, and of replacements of the files. -/
abbrev system := machine.system discipline

/-- A cookies file is its last version, and every version written by a run stands over just what
this run had read at its start. -/
theorem writes_replace_what_was_read {pool : Pool signature Disk Stage}
    (reach : system.Reachable pool) (file : String) :
    pool.shared.files file = latest (pool.shared.loaded file) (pool.shared.versions file) ∧
      ∀ newer version older read, pool.shared.versions file = newer ++ version :: older →
        version.base = some read → latest (pool.shared.loaded file) older = read := by
  obtain ⟨last, chained⟩ := (safe.guarded_of_reachable reach).holds.recorded file
  refine ⟨last, fun newer version older read versions derived => ?_⟩
  rw [versions] at chained
  exact chained.latest_eq derived

/-- A file of one byte. -/
def stored : Disk := start (fun _ => some [1]) fun _ => none

def advance (count actor : Nat) : List (PoolEvent String Input Change) :=
  List.replicate count (.advance actor { written := some 9 })

/-- Two runs overlap.  The first hands its copy back, and then the file is replaced. -/
def overlapping : List (PoolEvent String Input Change) :=
  [.start "cookies", .start "cookies"] ++ advance 7 0 ++ advance 7 1 ++
    [.outside (.rewriteCopy 0 (some [1, 2])), .outside (.rewriteCopy 1 (some [1, 3]))] ++
    advance 6 0 ++ advance 5 1 ++ [.outside (.replaceFile "cookies" (some [4]))]

theorem overlapping_writes :
    let pool := system.final (Machine.boot discipline stored) overlapping rfl
    pool.shared.versions "cookies" = [⟨none, some [4]⟩, ⟨some (some [1]), some [1, 2]⟩] ∧
      pool.shared.files "cookies" = some [4] ∧
        latest (pool.shared.loaded "cookies") [] = some [1] := by
  have initial : system.initial (Machine.boot discipline stored) :=
    ⟨stored, ⟨_, _, rfl⟩, rfl⟩
  obtain ⟨last, replaced⟩ :=
    writes_replace_what_was_read (System.reachable_final initial overlapping rfl) "cookies"
  exact ⟨rfl, last, replaced [_] _ [] _ rfl rfl⟩

end Togewire.Audio.Cookies
