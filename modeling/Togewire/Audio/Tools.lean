import Mathlib.Logic.Function.Basic
import Togewire.Audio.Releases
import Togewire.Foundation.Restart

/-!
# yt-dlp and Deno

The tools are downloaded on first use, checked against the published sums, and moved into place as a
whole; yt-dlp then updates itself.  All of that happens under one lock.  So what is in place is
genuine, however often the server is stopped in between, the runs of its updater are as far apart as
they should be, and nothing is installed while one of them goes on.
-/

namespace Togewire.Audio.Tools

open Interleaving Sums Transition

/-! ## yt-dlp's updater -/

/-- How a run of the updater ended. -/
inductive Run
  | failed
  | timedOut
  | output (success : Bool) (stdout stderr : List Char)

/-- `CANT_UPDATE` -/
def cantUpdateReasons : List String :=
  ["Use that to update", "Re-download the latest release", "cannot be updated", "Use git to pull",
    "Build the executable again", "Unable to write to"]

/-- `contains` -/
def contains (text part : List Char) : Bool := text.tails.any fun rest => part.isPrefixOf rest

/-- It has installed a new version. -/
def saysUpdated (stdout : List Char) : Bool :=
  (Words.lines '\n' stdout).any fun line => "Updated yt-dlp to".toList.isPrefixOf line

/-- Its last error is one of those that will not go away. -/
def saysItCannot (stderr : List Char) : Bool :=
  let why := (((Words.lines '\n' stderr).reverse.find? fun line =>
    "ERROR:".toList.isPrefixOf line).getD "yt-dlp failed".toList)
  cantUpdateReasons.any fun reason => contains why reason.toList

/-! ## Operations -/

/-- The operations of `update` and `ensure_tools`. -/
inductive Op
  /-- History: an update is asked for, this far from the last check. -/
  | call (gap : Nat)
  | isFile (tool : Tool)
  | updatesOff
  | setUpdatesOff (off : Bool)
  | lockUpdates
  | unlockUpdates
  | recentlyChecked (gap : Nat)
  | recentlyUpdated (gap : Nat)
  | setChecked
  | setUpdated
  | startUpdater
  | endUpdater
  | createDir
  | getText (url : String)
  | getBytes (url : String)
  | writeTemp (tool : Tool) (content : List UInt8)
  | setPermissions (tool : Tool)
  | rename (tool : Tool)

def Op.Answer : Op → Type
  | isFile _ | updatesOff | recentlyChecked _ | recentlyUpdated _ | createDir | writeTemp _ _
  | setPermissions _ | rename _ => Bool
  | endUpdater => Run
  | getText _ => Option (List Char)
  | getBytes _ => Option (List UInt8)
  | call _ | setUpdatesOff _ | lockUpdates | unlockUpdates | setChecked | setUpdated
  | startUpdater => Unit

abbrev signature : Signature := ⟨Op, Op.Answer⟩

abbrev Task := Program signature

def ask (op : Op) : Task op.Answer := Program.perform (S := signature) op

def call (gap : Nat) : Task Unit := ask (.call gap)
def isFile (tool : Tool) : Task Bool := ask (.isFile tool)
def updatesOff : Task Bool := ask .updatesOff
def setUpdatesOff (off : Bool) : Task Unit := ask (.setUpdatesOff off)
def lockUpdates : Task Unit := ask .lockUpdates
def unlockUpdates : Task Unit := ask .unlockUpdates
def recentlyChecked (gap : Nat) : Task Bool := ask (.recentlyChecked gap)
def recentlyUpdated (gap : Nat) : Task Bool := ask (.recentlyUpdated gap)
def setChecked : Task Unit := ask .setChecked
def setUpdated : Task Unit := ask .setUpdated
def startUpdater : Task Unit := ask .startUpdater
def endUpdater : Task Run := ask .endUpdater
def createDir : Task Bool := ask .createDir
def getText (url : String) : Task (Option (List Char)) := ask (.getText url)
def getBytes (url : String) : Task (Option (List UInt8)) := ask (.getBytes url)
def writeTemp (tool : Tool) (content : List UInt8) : Task Bool := ask (.writeTemp tool content)
def setPermissions (tool : Tool) : Task Bool := ask (.setPermissions tool)
def rename (tool : Tool) : Task Bool := ask (.rename tool)

/-! ## Tasks -/

/-- `UPDATE_GAP`, in nanoseconds. -/
def updateGap : Nat := 600000000000

/-- Run the updater, which the lock is held for. -/
def runUpdater : Task Bool := do
  startUpdater
  match ← endUpdater with
  | .failed | .timedOut => pure false
  | .output success stdout stderr =>
      if saysUpdated stdout then do
        setUpdated
        pure true
      else if success = false ∧ saysItCannot stderr = true then do
        setUpdatesOff true
        pure false
      else
        pure false

/-- What `update` does under the lock. -/
def check (gap : Nat) : Task Bool := do
  if ← recentlyChecked gap then
    recentlyUpdated gap
  else do
    setChecked
    runUpdater

/-- `update` -/
def update (gap : Nat) : Task Bool := do
  if ← updatesOff then
    pure false
  else if ← isFile .ytdlp then do
    lockUpdates
    let updated ← check gap
    unlockUpdates
    pure updated
  else
    pure false

/-- `install_bin` -/
def installBin (tool : Tool) (content : List UInt8) : Task Bool := do
  if ← writeTemp tool content then
    if ← setPermissions tool then
      rename tool
    else
      pure false
  else
    pure false

section Release

variable (sha256 : List UInt8 → List UInt8) (inflate : List UInt8 → Option (List UInt8))
  (platform : Platform)

/-- `download_verified` -/
def downloadVerified (tool : Tool) : Task (Option (List UInt8)) := do
  if ← createDir then
    match ← getText (platform.sumsUrl tool) with
    | none => pure none
    | some sums =>
        match parseSha256sums sums (platform.assetName tool).toList with
        | none => pure none
        | some expected => do
            match ← getBytes (platform.assetUrl tool) with
            | none => pure none
            | some bytes =>
                if Hexadecimal.encode (sha256 bytes) = expected then
                  pure (some bytes)
                else
                  pure none
  else
    pure none

/-- A tool is downloaded, checked, unpacked and put in place. -/
def install (tool : Tool) : Task Bool := do
  match ← downloadVerified sha256 platform tool with
  | none => pure false
  | some asset =>
      match unpack inflate tool asset with
      | none => pure false
      | some content => installBin tool content

/-- yt-dlp is installed if it is missing, and then counts as checked. -/
def ensureYtdlp : Task Bool := do
  if ← isFile .ytdlp then
    pure true
  else if ← install sha256 inflate platform .ytdlp then do
    setUpdatesOff false
    setChecked
    pure true
  else
    pure false

/-- Deno is installed if it is missing, unless the system has its own. -/
def ensureDeno : Task Bool :=
  if platform.systemDeno then
    pure true
  else do
    if ← isFile .deno then
      pure true
    else
      install sha256 inflate platform .deno

/-- Whether a tool is missing. -/
def isMissing : Task Bool := do
  if ← isFile .ytdlp then
    if platform.systemDeno then
      pure false
    else do
      let present ← isFile .deno
      pure !present
  else
    pure true

/-- What is missing is looked for again under the lock. -/
def installMissing : Task Bool := do
  if ← ensureYtdlp sha256 inflate platform then
    ensureDeno sha256 inflate platform
  else
    pure false

/-- `ensure_tools` -/
def ensureTools : Task Bool := do
  if ← isMissing platform then do
    lockUpdates
    let installed ← installMissing sha256 inflate platform
    unlockUpdates
    pure installed
  else
    pure true

end Release

/-! ## The machine -/

/-- A run of yt-dlp's updater, or an installation of yt-dlp. -/
structure Check where
  /-- When the lock was taken for the run, or when the installation was done. -/
  since : Nat
  /-- When the run began, or when the installation was done. -/
  time : Nat
  /-- How far the caller wants the run from those before it. -/
  gap : Nat
  deriving DecidableEq

/-- The tools, the state of their updates, and the history of both. -/
structure Toolbox where
  /-- In nanoseconds. -/
  now : Nat := 0
  file : Tool → Option (List UInt8)
  temp : Tool → Option (List UInt8)
  /-- Who has the lock. -/
  updates : Option Nat := none
  /-- When it was last checked. -/
  checked : Option Nat := none
  /-- When a new version last came in. -/
  updated : Option Nat := none
  off : Bool := false
  /-- History: how far apart the callers want the updates. -/
  asked : Nat → Option Nat := fun _ => none
  /-- History: when the lock was taken last. -/
  locked : Nat := 0
  /-- History: whose updater runs. -/
  updater : Option Nat := none
  /-- History: how often the updater has been started, and how often it had been when each task last
  began to install a tool. -/
  runs : Nat := 0
  begun : Nat → Nat := fun _ => 0
  /-- History: the runs of this process, the last one first. -/
  checks : List Check := []
  /-- History: what was put in place by others, yt-dlp's updater included. -/
  foreign : List (Tool × List UInt8) := []
  /-- History: what the release pages have served. -/
  texts : List (String × List Char) := []
  assets : List (String × List UInt8) := []
  /-- History: the updater was started while it ran, or it ran while a tool was installed. -/
  collided : Bool := false

namespace Toolbox

/-- The tools as the first process finds them. -/
def found (file temp : Tool → Option (List UInt8)) : Toolbox where
  file := file
  temp := temp
  foreign := [Tool.ytdlp, Tool.deno].filterMap fun tool => (file tool).map (Prod.mk tool)

/-- Whether a time is less than this long ago. -/
def recent (box : Toolbox) (gap : Nat) : Option Nat → Bool
  | none => false
  | some time => decide (box.now - time < gap)

/-- An updater runs, or one was started since the task began to install a tool. -/
def disturbed (box : Toolbox) (actor : Nat) : Bool :=
  box.updater.isSome || decide (box.begun actor ≠ box.runs)

/-- A task does something for an installation. -/
def note (box : Toolbox) (actor : Nat) : Toolbox :=
  { box with collided := box.collided || box.disturbed actor }

/-- Others put a tool in place, or delete it. -/
def put (box : Toolbox) (tool : Tool) : Option (List UInt8) → Toolbox
  | none => { box with file := Function.update box.file tool none }
  | some content =>
      { box with
        file := Function.update box.file tool (some content)
        foreign := (tool, content) :: box.foreign }

/-- The temporary file of a tool is written or removed. -/
def setTemp (box : Toolbox) (tool : Tool) (content : Option (List UInt8)) : Toolbox :=
  { box with temp := Function.update box.temp tool content }

/-- A task begins to install a tool. -/
def begin (box : Toolbox) (actor : Nat) : Toolbox :=
  { box with
    begun := Function.update box.begun actor box.runs
    collided := box.collided || box.updater.isSome }

/-- A temporary file is moved into place. -/
def install (box : Toolbox) (tool : Tool) (content : List UInt8) : Toolbox :=
  { box with
    file := Function.update box.file tool (some content)
    temp := Function.update box.temp tool none
    checks := if tool = .ytdlp then ⟨box.now, box.now, 0⟩ :: box.checks else box.checks }

end Toolbox

/-- How an operation turns out. -/
inductive Input
  | silent
  | fails
  /-- The write fails after so many bytes. -/
  | cutShort (count : Nat)
  | text (text : List Char)
  | bytes (bytes : List UInt8)
  /-- The updater ends, and may have replaced the file. -/
  | ended (run : Run) (replaced : Option (List UInt8))

namespace Toolbox

/-- The effect of one operation, as it turns out. -/
def perform (box : Toolbox) (actor : Nat) : (op : Op) → Input → Option (op.Answer × Toolbox)
  | .call gap, _ => some ((), { box with asked := Function.update box.asked actor (some gap) })
  | .isFile tool, _ => some ((box.file tool).isSome, box)
  | .updatesOff, _ => some (box.off, box)
  | .setUpdatesOff off, _ => some ((), { box with off := off })
  | .lockUpdates, _ =>
      if box.updates = none then
        some ((), { box with updates := some actor, locked := box.now })
      else
        none
  | .unlockUpdates, _ => some ((), { box with updates := none })
  | .recentlyChecked gap, _ => some (box.recent gap box.checked, box)
  | .recentlyUpdated gap, _ => some (box.recent gap box.updated, box)
  | .setChecked, _ => some ((), { box with checked := some box.now })
  | .setUpdated, _ => some ((), { box with updated := some box.now })
  | .startUpdater, _ =>
      some
        ((),
          { box with
            updater := some actor
            runs := box.runs + 1
            checks := ⟨box.locked, box.now, (box.asked actor).getD 0⟩ :: box.checks
            collided := box.collided || box.updater.isSome })
  | .endUpdater, .ended run none => some (run, { box with updater := none })
  | .endUpdater, .ended run (some content) =>
      some (run, { box.put .ytdlp (some content) with updater := none })
  | .createDir, .silent => some (true, box.begin actor)
  | .createDir, .fails => some (false, box.begin actor)
  | .getText url, .text text =>
      some (some text, { box.note actor with texts := (url, text) :: box.texts })
  | .getText _, .fails => some (none, box.note actor)
  | .getBytes url, .bytes bytes =>
      some (some bytes, { box.note actor with assets := (url, bytes) :: box.assets })
  | .getBytes _, .fails => some (none, box.note actor)
  | .writeTemp tool content, .silent => some (true, (box.note actor).setTemp tool (some content))
  | .writeTemp tool content, .cutShort count =>
      some (false, (box.note actor).setTemp tool (some (content.take count)))
  | .writeTemp _ _, .fails => some (false, box.note actor)
  | .setPermissions _, .silent => some (true, box.note actor)
  | .setPermissions _, .fails => some (false, box.note actor)
  | .rename tool, .silent =>
      (box.temp tool).map fun content => (true, (box.note actor).install tool content)
  | .rename _, .fails => some (false, box.note actor)
  | _, _ => none

/-- What a process leaves behind. -/
def halt (box : Toolbox) : Toolbox :=
  { box with
    updates := none
    checked := none
    updated := none
    off := false
    updater := none
    checks := [] }

end Toolbox

inductive Request
  | update (gap : Nat)
  | ensureTools

/-- Time goes on, and others put tools in place or delete them. -/
inductive Outside
  | tick (nanoseconds : Nat)
  | put (tool : Tool) (content : Option (List UInt8))

section Release

variable (sha256 : List UInt8 → List UInt8) (inflate : List UInt8 → Option (List UInt8))
  (platform : Platform)

def Request.run : Request → Task Unit
  | .update gap => do
      call gap
      let _ ← Tools.update gap
      pure ()
  | .ensureTools => do
      let _ ← Tools.ensureTools sha256 inflate platform
      pure ()

/-- One process. -/
def machine : Machine signature Toolbox Request Input Outside where
  initial box := ∃ file temp, box = .found file temp
  accept box _ request := some (request.run sha256 inflate platform, box)
  perform := Toolbox.perform
  outside box change :=
    match change with
    | .tick nanoseconds => some { box with now := box.now + nanoseconds }
    | .put tool content => some (box.put tool content)

end Release

/-! ## What each task has done -/

/-- What a task has noted, and how far it is with an update or an installation. -/
structure Trace where
  /-- How far apart its caller wants the updates. -/
  gap : Option Nat := none
  /-- It has the lock. -/
  holding : Bool := false
  /-- It knows that the last check was not within that time. -/
  stale : Bool := false
  /-- It has noted that it is checked now. -/
  noted : Bool := false
  /-- Its updater runs. -/
  updating : Bool := false
  /-- It has begun to install a tool. -/
  installing : Bool := false
  /-- It has installed yt-dlp, and not noted it. -/
  unnoted : Bool := false
  /-- The sums it was served, and from where. -/
  sums : Option (String × List Char) := none
  asset : Option (String × List UInt8) := none
  /-- What it has put into the temporary file. -/
  written : Option (Tool × List UInt8) := none

section Release

variable (sha256 : List UInt8 → List UInt8) (inflate : List UInt8 → Option (List UInt8))
  (platform : Platform)

namespace Trace

def next (trace : Trace) : (op : Op) → op.Answer → Trace
  | .call gap, _ => { trace with gap := some gap }
  | .lockUpdates, _ => { gap := trace.gap, holding := true }
  | .unlockUpdates, _ => {}
  | .recentlyChecked _, false => { trace with stale := true }
  | .setChecked, _ => { trace with stale := false, noted := trace.stale, unnoted := false }
  | .startUpdater, _ => { trace with stale := false, noted := false, updating := true }
  | .endUpdater, _ => { trace with updating := false }
  | .createDir, _ => { trace with installing := true }
  | .getText url, some (text : List Char) => { trace with sums := some (url, text) }
  | .getBytes url, some (bytes : List UInt8) => { trace with asset := some (url, bytes) }
  | .writeTemp tool content, true => { trace with written := some (tool, content) }
  | .writeTemp _ _, false => { trace with written := none }
  | .rename tool, true =>
      { trace with
        stale := false
        noted := false
        unnoted := trace.unnoted || decide (tool = .ytdlp)
        written := none }
  | _, _ => trace

/-- The lock is held, and an installation goes on. -/
structure Installs (trace : Trace) : Prop where
  holding : trace.holding = true
  idle : trace.updating = false
  begun : trace.installing = true

/-- The lock guards the times, the updater and the files. -/
def Allows (trace : Trace) : Op → Prop
  | .call _ => trace = {}
  | .lockUpdates => trace = { gap := trace.gap }
  | .unlockUpdates => trace.holding = true ∧ trace.updating = false ∧ trace.unnoted = false
  | .recentlyChecked gap =>
      trace.holding = true ∧ trace.gap = some gap ∧ trace.unnoted = false
  | .recentlyUpdated _ | .setChecked | .setUpdated => trace.holding = true
  | .startUpdater =>
      trace.holding = true ∧ trace.updating = false ∧ trace.installing = false ∧
        trace.noted = true ∧ trace.unnoted = false
  | .endUpdater => trace.updating = true
  | .createDir => trace.holding = true ∧ trace.updating = false
  | .getText _ | .getBytes _ | .writeTemp _ _ | .setPermissions _ => trace.Installs
  | .rename tool =>
      trace.Installs ∧
        ∃ content text asset, trace.written = some (tool, content) ∧
          trace.sums = some (platform.sumsUrl tool, text) ∧
            trace.asset = some (platform.assetUrl tool, asset) ∧
              Genuine sha256 inflate platform tool content text asset
  | .isFile _ | .updatesOff | .setUpdatesOff _ => True

end Trace

def discipline : Discipline signature Trace where
  start := {}
  next := Trace.next
  allows := Trace.Allows sha256 inflate platform

end Release

namespace Trace

variable {sha256 : List UInt8 → List UInt8} {inflate : List UInt8 → Option (List UInt8)}
  {platform : Platform} {trace : Trace}

abbrev Guides {α : Type} (sha256 : List UInt8 → List UInt8)
    (inflate : List UInt8 → Option (List UInt8)) (platform : Platform) (trace : Trace)
    (task : Task α) (finish : α → Trace → Prop) : Prop :=
  task.Obeys (discipline sha256 inflate platform) trace finish

/-- The lock is held, no updater runs, and what was installed is noted. -/
structure Ready (trace : Trace) : Prop where
  holding : trace.holding = true
  idle : trace.updating = false
  tidy : trace.unnoted = false

theorem guides_runUpdater (ready : trace.Ready) (fresh : trace.installing = false)
    (noted : trace.noted = true) :
    Guides sha256 inflate platform trace runUpdater fun _ after => after.Ready := by
  have done : ({ trace with stale := false, noted := false, updating := false } : Trace).Ready :=
    ⟨ready.holding, rfl, ready.tidy⟩
  refine Program.Obeys.perform ⟨ready.holding, ready.idle, fresh, noted, ready.tidy⟩ fun _ => ?_
  refine Program.Obeys.perform rfl fun (run : Run) => ?_
  cases run with
  | failed | timedOut => exact done
  | output success stdout stderr =>
      dsimp only
      split
      · exact ⟨ready.holding, fun _ => done⟩
      · split
        · exact ⟨trivial, fun _ => done⟩
        · exact done

theorem guides_check {gap : Nat} (ready : trace.Ready) (fresh : trace.installing = false)
    (asked : trace.gap = some gap) :
    Guides sha256 inflate platform trace (check gap) fun _ after => after.Ready := by
  refine Program.Obeys.perform ⟨ready.holding, asked, ready.tidy⟩ fun (recent : Bool) => ?_
  cases recent with
  | true => exact ⟨ready.holding, fun _ => ready⟩
  | false =>
      refine Program.Obeys.perform ready.holding fun _ => ?_
      exact guides_runUpdater ⟨ready.holding, ready.idle, rfl⟩ fresh rfl

theorem guides_update (gap : Nat) :
    Guides sha256 inflate platform { gap := some gap } (update gap) fun _ _ => True := by
  refine Program.Obeys.perform trivial fun (off : Bool) => ?_
  cases off with
  | true => trivial
  | false =>
      refine Program.Obeys.perform trivial fun (present : Bool) => ?_
      cases present with
      | false => trivial
      | true =>
          refine Program.Obeys.perform rfl fun _ => ?_
          apply Program.Obeys.bind
          refine (guides_check ⟨rfl, rfl, rfl⟩ rfl rfl).mono fun updated after ready => ?_
          exact ⟨⟨ready.holding, ready.idle, ready.tidy⟩, fun _ => trivial⟩

theorem guides_downloadVerified (tool : Tool) (ready : trace.Ready) :
    Guides sha256 inflate platform trace (downloadVerified sha256 platform tool)
      fun downloaded after => after.Ready ∧
        ∀ asset, downloaded = some asset → after.installing = true ∧ ∃ text,
          after.sums = some (platform.sumsUrl tool, text) ∧
            after.asset = some (platform.assetUrl tool, asset) ∧
              parseSha256sums text (platform.assetName tool).toList =
                some (Hexadecimal.encode (sha256 asset)) := by
  refine Program.Obeys.perform ⟨ready.holding, ready.idle⟩ fun (created : Bool) => ?_
  cases created with
  | false => exact ⟨⟨ready.holding, ready.idle, ready.tidy⟩, by simp⟩
  | true =>
      refine Program.Obeys.perform ⟨ready.holding, ready.idle, rfl⟩
        fun (sums : Option (List Char)) => ?_
      cases sums with
      | none => exact ⟨⟨ready.holding, ready.idle, ready.tidy⟩, by simp⟩
      | some text =>
          dsimp only
          cases named : parseSha256sums text (platform.assetName tool).toList with
          | none => exact ⟨⟨ready.holding, ready.idle, ready.tidy⟩, by simp⟩
          | some expected =>
              refine Program.Obeys.perform ⟨ready.holding, ready.idle, rfl⟩
                fun (asset : Option (List UInt8)) => ?_
              cases asset with
              | none => exact ⟨⟨ready.holding, ready.idle, ready.tidy⟩, by simp⟩
              | some asset =>
                  dsimp only
                  split
                  · rename_i same
                    refine ⟨⟨ready.holding, ready.idle, ready.tidy⟩, ?_⟩
                    rintro _ ⟨⟩
                    exact ⟨rfl, text, rfl, rfl, by rw [named, same]⟩
                  · exact ⟨⟨ready.holding, ready.idle, ready.tidy⟩, by simp⟩

/-- After an installation, no updater runs, and all but this tool is noted. -/
structure Installed (trace : Trace) (tool : Tool) (installed : Bool) : Prop where
  holding : trace.holding = true
  idle : trace.updating = false
  tidy : trace.unnoted = true → installed = true ∧ tool = .ytdlp

theorem Ready.installed (ready : trace.Ready) (tool : Tool) (installed : Bool) :
    trace.Installed tool installed :=
  ⟨ready.holding, ready.idle, by simp [ready.tidy]⟩

theorem guides_installBin {tool : Tool} {content asset : List UInt8} {text : List Char}
    (ready : trace.Ready) (begun : trace.installing = true)
    (sums : trace.sums = some (platform.sumsUrl tool, text))
    (served : trace.asset = some (platform.assetUrl tool, asset))
    (genuine : Genuine sha256 inflate platform tool content text asset) :
    Guides sha256 inflate platform trace (installBin tool content)
      fun installed after => after.Installed tool installed := by
  have installs : trace.Installs := ⟨ready.holding, ready.idle, begun⟩
  refine Program.Obeys.perform installs fun (written : Bool) => ?_
  cases written with
  | false => exact ⟨ready.holding, ready.idle, by simp [ready.tidy, discipline, next]⟩
  | true =>
      refine Program.Obeys.perform ⟨ready.holding, ready.idle, begun⟩ fun (executable : Bool) => ?_
      cases executable with
      | false => exact ⟨ready.holding, ready.idle, by simp [ready.tidy, discipline, next]⟩
      | true =>
          have installs : ({ trace with written := some (tool, content) } : Trace).Installs :=
            ⟨ready.holding, ready.idle, begun⟩
          refine Program.Obeys.perform ⟨installs, content, text, asset, rfl, sums, served, genuine⟩
            fun (moved : Bool) => ?_
          cases moved <;>
            exact ⟨ready.holding, ready.idle, by simp [ready.tidy, discipline, next]⟩

theorem guides_install (tool : Tool) (ready : trace.Ready) :
    Guides sha256 inflate platform trace (install sha256 inflate platform tool)
      fun installed after => after.Installed tool installed := by
  apply Program.Obeys.bind
  refine (guides_downloadVerified tool ready).mono ?_
  rintro downloaded after ⟨ready, verified⟩
  cases downloaded with
  | none => exact ready.installed tool false
  | some asset =>
      obtain ⟨begun, text, sums, served, named⟩ := verified asset rfl
      dsimp only
      cases unpacked : unpack inflate tool asset with
      | none => exact ready.installed tool false
      | some content =>
          exact guides_installBin ready begun sums served (genuine_of_unpack named unpacked)

theorem guides_ensureYtdlp (ready : trace.Ready) :
    Guides sha256 inflate platform trace (ensureYtdlp sha256 inflate platform)
      fun _ after => after.Ready := by
  refine Program.Obeys.perform trivial fun (present : Bool) => ?_
  cases present with
  | true => exact ready
  | false =>
      apply Program.Obeys.bind
      refine (guides_install .ytdlp ready).mono fun installed after done => ?_
      cases installed with
      | false => exact ⟨done.holding, done.idle, by simpa using done.tidy⟩
      | true =>
          refine Program.Obeys.perform trivial fun _ => ?_
          exact ⟨done.holding, fun _ => ⟨done.holding, done.idle, rfl⟩⟩

theorem guides_ensureDeno (ready : trace.Ready) :
    Guides sha256 inflate platform trace (ensureDeno sha256 inflate platform)
      fun _ after => after.Ready := by
  unfold ensureDeno
  split
  · exact ready
  · refine Program.Obeys.perform trivial fun (present : Bool) => ?_
    cases present with
    | true => exact ready
    | false =>
        refine (guides_install .deno ready).mono fun installed after done => ?_
        exact ⟨done.holding, done.idle, by simpa using done.tidy⟩

theorem guides_installMissing (ready : trace.Ready) :
    Guides sha256 inflate platform trace (installMissing sha256 inflate platform)
      fun _ after => after.Ready := by
  apply Program.Obeys.bind
  refine (guides_ensureYtdlp ready).mono fun installed after ready => ?_
  cases installed with
  | false => exact ready
  | true => exact guides_ensureDeno ready

theorem guides_isMissing :
    Guides sha256 inflate platform trace (isMissing platform) fun _ after => after = trace := by
  refine Program.Obeys.perform trivial fun (present : Bool) => ?_
  cases present with
  | false => rfl
  | true =>
      rw [if_pos rfl]
      split
      · rfl
      · exact ⟨trivial, fun _ => rfl⟩

theorem guides_ensureTools :
    Guides sha256 inflate platform {} (ensureTools sha256 inflate platform) fun _ _ => True := by
  apply Program.Obeys.bind
  refine guides_isMissing.mono ?_
  rintro missing _ rfl
  cases missing with
  | false => trivial
  | true =>
      refine Program.Obeys.perform rfl fun _ => ?_
      apply Program.Obeys.bind
      refine (guides_installMissing ⟨rfl, rfl, rfl⟩).mono fun installed after ready => ?_
      exact ⟨⟨ready.holding, ready.idle, ready.tidy⟩, fun _ => trivial⟩

theorem guides_run (request : Request) :
    Guides sha256 inflate platform {} (request.run sha256 inflate platform) fun _ _ => True := by
  cases request with
  | update gap =>
      refine Program.Obeys.perform rfl fun _ => ?_
      exact Program.Obeys.bind (guides_update gap)
  | ensureTools => exact Program.Obeys.bind guides_ensureTools

end Trace

/-! ## Genuine tools, and updates far enough apart -/

namespace Toolbox

variable (sha256 : List UInt8 → List UInt8) (inflate : List UInt8 → Option (List UInt8))
  (platform : Platform)

/-- The releases have served it, with the sum they published. -/
def Published (box : Toolbox) (tool : Tool) (content : List UInt8) : Prop :=
  ∃ text asset, (platform.sumsUrl tool, text) ∈ box.texts ∧
    (platform.assetUrl tool, asset) ∈ box.assets ∧
      Genuine sha256 inflate platform tool content text asset

/-- What a task relies on. -/
structure Works (box : Toolbox) (task : Nat) (trace : Trace) : Prop where
  asked : ∀ gap, trace.gap = some gap → box.asked task = some gap
  lock : trace.holding = true → box.updates = some task
  inside : trace.updating = true → trace.holding = true
  far : trace.stale = true ∨ trace.noted = true → trace.holding = true ∧
    ∃ gap, trace.gap = some gap ∧ ∀ check ∈ box.checks, check.since + gap ≤ box.now
  noted : trace.noted = true → ∃ time, box.checked = some time ∧ box.locked ≤ time
  begun : trace.installing = true → trace.holding = true ∧ box.begun task = box.runs
  unnoted : trace.unnoted = true → trace.holding = true
  sums : ∀ served, trace.sums = some served → served ∈ box.texts
  asset : ∀ served, trace.asset = some served → served ∈ box.assets
  temp : ∀ tool content, trace.written = some (tool, content) → trace.holding = true ∧
    box.temp tool = some content

/-- What is in place was put there by others, or was published. -/
def Stocked (box : Toolbox) : Prop :=
  ∀ tool content, box.file tool = some content →
    (tool, content) ∈ box.foreign ∨ box.Published sha256 inflate platform tool content

/-- The runs are far enough apart, and no time lies ahead. -/
structure Timed (box : Toolbox) : Prop where
  spaced : box.checks.Pairwise fun later earlier => earlier.since + later.gap ≤ later.time
  past : ∀ time, box.checked = some time → time ≤ box.now
  known : ∀ check ∈ box.checks, check.since ≤ box.now
  locked : box.locked ≤ box.now

/-- The time that is kept is not before any run. -/
def Latest (box : Toolbox) : Prop :=
  ∀ check ∈ box.checks, ∃ time, box.checked = some time ∧ check.since ≤ time

/-- The invariant of all interleavings of one process. -/
structure Sound (box : Toolbox) (traces : Nat → Trace) : Prop where
  stocked : box.Stocked sha256 inflate platform
  timed : box.Timed
  apart : box.collided = false
  updater : ∀ task, box.updater = some task → (traces task).updating = true
  latest : (∀ task, (traces task).unnoted = false) → box.Latest
  works : ∀ task, box.Works task (traces task)

/-- What is known of what was served and asked for is known later. -/
structure Extends (box after : Toolbox) : Prop where
  asked : after.asked = box.asked
  texts : box.texts ⊆ after.texts
  assets : box.assets ⊆ after.assets

variable {sha256 inflate platform} {box after : Toolbox} {traces : Nat → Trace} {actor task : Nat}
  {trace next : Trace}

theorem Extends.of_eq (asked : after.asked = box.asked) (texts : after.texts = box.texts)
    (assets : after.assets = box.assets) : box.Extends after :=
  ⟨asked, texts ▸ List.Subset.refl _, assets ▸ List.Subset.refl _⟩

theorem Published.mono {tool : Tool} {content : List UInt8}
    (published : box.Published sha256 inflate platform tool content) (grows : box.Extends after) :
    after.Published sha256 inflate platform tool content := by
  obtain ⟨text, asset, sums, served, genuine⟩ := published
  exact ⟨text, asset, grows.texts sums, grows.assets served, genuine⟩

theorem Stocked.mono (stocked : box.Stocked sha256 inflate platform)
    (file : after.file = box.file) (foreign : after.foreign = box.foreign)
    (grows : box.Extends after) : after.Stocked sha256 inflate platform := by
  intro tool content present
  rw [file] at present
  rw [foreign]
  exact (stocked tool content present).imp_right fun published => published.mono grows

theorem Stocked.put (stocked : box.Stocked sha256 inflate platform) (tool : Tool)
    (content : Option (List UInt8)) : (box.put tool content).Stocked sha256 inflate platform := by
  intro other bytes present
  cases content with
  | none =>
      refine stocked other bytes ?_
      by_cases same : other = tool
      · simp [Toolbox.put, same] at present
      · simpa [Toolbox.put, same] using present
  | some content =>
      by_cases same : other = tool
      · subst same
        obtain rfl : content = bytes := by simpa [Toolbox.put] using present
        exact .inl List.mem_cons_self
      · refine (stocked other bytes ?_).imp_left (List.mem_cons_of_mem _)
        simpa [Toolbox.put, same] using present

theorem Timed.later (timed : box.Timed) (checks : after.checks = box.checks)
    (checked : after.checked = box.checked) (locked : after.locked = box.locked)
    (now : box.now ≤ after.now) : after.Timed where
  spaced := checks ▸ timed.spaced
  past time at_time := Nat.le_trans (timed.past time (checked ▸ at_time)) now
  known check member := Nat.le_trans (timed.known check (checks ▸ member)) now
  locked := locked ▸ Nat.le_trans timed.locked now

/-- What is not recent is as far back as was asked for, and so is all before it. -/
theorem Timed.stale (timed : box.Timed) (latest : box.Latest) {gap : Nat}
    (old : box.recent gap box.checked = false) :
    ∀ check ∈ box.checks, check.since + gap ≤ box.now := by
  intro check member
  obtain ⟨time, checked, before⟩ := latest check member
  have past := timed.past time checked
  have far : gap ≤ box.now - time := by simpa [recent, checked] using old
  omega

theorem works_of_idle : box.Works task {} := by
  constructor <;> simp

/-- Without the lock, a task relies on its caller and what it was served only. -/
theorem Works.elsewhere (works : box.Works task trace) (free : trace.holding = false)
    (grows : box.Extends after) : after.Works task trace where
  asked gap wanted := grows.asked ▸ works.asked gap wanted
  lock holding := absurd (free.symm.trans holding) (by decide)
  inside := works.inside
  far sure := absurd (free.symm.trans (works.far sure).1) (by decide)
  noted sure := absurd (free.symm.trans (works.far (.inr sure)).1) (by decide)
  begun begun := absurd (free.symm.trans (works.begun begun).1) (by decide)
  unnoted := works.unnoted
  sums served sums := grows.texts (works.sums served sums)
  asset served asset := grows.assets (works.asset served asset)
  temp tool content temp := absurd (free.symm.trans (works.temp tool content temp).1) (by decide)

/-- Only one task has the lock. -/
theorem Sound.only (sound : box.Sound sha256 inflate platform traces)
    (mine : (traces actor).holding = true) (theirs : (traces task).holding = true) :
    task = actor := by
  have lock := (sound.works actor).lock mine
  rw [(sound.works task).lock theirs] at lock
  exact Option.some.inj lock

/-- Whoever has the lock without running the updater can be sure that nobody runs it. -/
theorem Sound.idle (sound : box.Sound sha256 inflate platform traces)
    (mine : (traces actor).holding = true) (idle : (traces actor).updating = false) :
    box.updater = none := by
  by_contra running
  obtain ⟨task, running⟩ := Option.ne_none_iff_exists'.mp running
  have updating := sound.updater task running
  obtain rfl := sound.only mine ((sound.works task).inside updating)
  rw [idle] at updating
  cases updating

/-- Whoever has the lock and has noted what it installed can rely on the time that is kept. -/
theorem Sound.kept (sound : box.Sound sha256 inflate platform traces)
    (mine : (traces actor).holding = true) (tidy : (traces actor).unnoted = false) :
    box.Latest := by
  refine sound.latest fun task => Bool.eq_false_iff.mpr fun unnoted => ?_
  obtain rfl := sound.only mine ((sound.works task).unnoted unnoted)
  rw [tidy] at unnoted
  cases unnoted

/-- An installation under the lock is not disturbed. -/
theorem Sound.note_eq (sound : box.Sound sha256 inflate platform traces)
    (installs : (traces actor).Installs) : box.note actor = box := by
  have same := ((sound.works actor).begun installs.begun).2
  have quiet : box.disturbed actor = false := by
    simp [disturbed, sound.idle installs.holding installs.idle, same]
  rw [note, quiet, Bool.or_false]

theorem Sound.work (sound : box.Sound sha256 inflate platform traces)
    (mine : (traces actor).holding = true) (grows : box.Extends after)
    (stocked : after.Stocked sha256 inflate platform) (timed : after.Timed)
    (apart : after.collided = false)
    (updater : ∀ task, after.updater = some task →
      (Function.update traces actor next task).updating = true)
    (latest : next.unnoted = false → after.Latest) (works : after.Works actor next) :
    after.Sound sha256 inflate platform (Function.update traces actor next) where
  stocked := stocked
  timed := timed
  apart := apart
  updater := updater
  latest tidy := latest (by simpa using tidy actor)
  works := by
    refine (Function.forall_update_iff traces fun task trace => after.Works task trace).mpr
      ⟨works, fun task different => (sound.works task).elsewhere ?_ grows⟩
    exact Bool.eq_false_iff.mpr fun theirs => different (sound.only mine theirs)

/-- The task with the lock goes on, and the updater is as it was. -/
theorem Sound.carry (sound : box.Sound sha256 inflate platform traces)
    (updating : next.updating = (traces actor).updating) (same : after.updater = box.updater)
    (task : Nat) (running : after.updater = some task) :
    (Function.update traces actor next task).updating = true := by
  rw [same] at running
  by_cases its : task = actor
  · subst its
    rw [Function.update_self, updating]
    exact sound.updater task running
  · rw [Function.update_of_ne its]
    exact sound.updater task running

/-- The task with the lock changes nothing but what it knows. -/
theorem Sound.retrace (sound : box.Sound sha256 inflate platform traces)
    (mine : (traces actor).holding = true) (updating : next.updating = (traces actor).updating)
    (unnoted : next.unnoted = (traces actor).unnoted) (works : box.Works actor next) :
    box.Sound sha256 inflate platform (Function.update traces actor next) :=
  sound.work mine (.of_eq rfl rfl rfl) sound.stocked sound.timed sound.apart
    (sound.carry updating rfl) (fun tidy => sound.kept mine (unnoted.symm.trans tidy)) works

theorem Sound.call (sound : box.Sound sha256 inflate platform traces) (fresh : traces actor = {})
    (gap : Nat) :
    { box with asked := Function.update box.asked actor (some gap) }.Sound sha256 inflate platform
      (Function.update traces actor { gap := some gap }) where
  stocked tool content present := sound.stocked tool content present
  timed := sound.timed.later rfl rfl rfl (Nat.le_refl _)
  apart := sound.apart
  updater := sound.carry (by rw [fresh]) rfl
  latest tidy := by
    refine sound.latest fun task => ?_
    by_cases its : task = actor
    · rw [its, fresh]
    · simpa [its] using tidy task
  works := by
    refine (Function.forall_update_iff traces fun task trace => Works _ task trace).mpr
      ⟨?_, fun task different => ?_⟩
    · constructor <;> simp
    · have works := sound.works task
      refine ⟨fun other wanted => ?_, works.lock, works.inside, works.far, works.noted, works.begun,
        works.unnoted, works.sums, works.asset, works.temp⟩
      exact (Function.update_of_ne different _ _).trans (works.asked other wanted)

theorem Sound.lock (sound : box.Sound sha256 inflate platform traces) (free : box.updates = none)
    (fresh : traces actor = { gap := (traces actor).gap }) :
    { box with updates := some actor, locked := box.now }.Sound sha256 inflate platform
      (Function.update traces actor { gap := (traces actor).gap, holding := true }) := by
  have nobody : ∀ task, (traces task).holding = false := fun task =>
    Bool.eq_false_iff.mpr fun holding => by simpa [free] using (sound.works task).lock holding
  have tidy : ∀ task, (traces task).unnoted = false := fun task =>
    Bool.eq_false_iff.mpr fun unnoted =>
      absurd ((nobody task).symm.trans ((sound.works task).unnoted unnoted)) (by decide)
  refine ⟨sound.stocked.mono rfl rfl (.of_eq rfl rfl rfl),
    ⟨sound.timed.spaced, sound.timed.past, sound.timed.known, Nat.le_refl _⟩, sound.apart,
    sound.carry (by rw [fresh]) rfl, fun _ => sound.latest tidy, ?_⟩
  refine (Function.forall_update_iff traces fun task trace => Works _ task trace).mpr
    ⟨⟨(sound.works actor).asked, fun _ => rfl, ?_, ?_, ?_, ?_, ?_, ?_, ?_, ?_⟩, fun task _ => ?_⟩
  case refine_9 => exact (sound.works task).elsewhere (nobody task) (.of_eq rfl rfl rfl)
  all_goals simp

theorem Sound.unlock (sound : box.Sound sha256 inflate platform traces)
    (mine : (traces actor).holding = true) (idle : (traces actor).updating = false)
    (tidy : (traces actor).unnoted = false) :
    { box with updates := none }.Sound sha256 inflate platform
      (Function.update traces actor {}) := by
  have nobody := sound.idle mine idle
  refine sound.work mine (.of_eq rfl rfl rfl) (sound.stocked.mono rfl rfl (.of_eq rfl rfl rfl))
    (sound.timed.later rfl rfl rfl (Nat.le_refl _)) sound.apart ?_ (fun _ => sound.kept mine tidy)
    works_of_idle
  simp [nobody]

/-- The task with the lock notes that it is checked now. -/
theorem Sound.check (sound : box.Sound sha256 inflate platform traces)
    (mine : (traces actor).holding = true) :
    { box with checked := some box.now }.Sound sha256 inflate platform
      (Function.update traces actor
        { traces actor with stale := false, noted := (traces actor).stale, unnoted := false }) := by
  have works := sound.works actor
  refine sound.work mine (.of_eq rfl rfl rfl) (sound.stocked.mono rfl rfl (.of_eq rfl rfl rfl))
    ⟨sound.timed.spaced, ?_, sound.timed.known, sound.timed.locked⟩ sound.apart
    (sound.carry rfl rfl)
    (fun _ check member => ⟨box.now, rfl, sound.timed.known check member⟩)
    ⟨works.asked, works.lock, works.inside, ?_, fun _ => ⟨box.now, rfl, sound.timed.locked⟩,
      works.begun, by simp, works.sums, works.asset, works.temp⟩
  · rintro _ ⟨⟩
    exact Nat.le_refl _
  · rintro (stale | noted)
    · cases stale
    · exact works.far (.inl noted)

/-- The updater is started as long after every earlier run as was asked for. -/
theorem Sound.startUpdater (sound : box.Sound sha256 inflate platform traces)
    (allowed : (traces actor).Allows sha256 inflate platform .startUpdater) :
    { box with
      updater := some actor
      runs := box.runs + 1
      checks := ⟨box.locked, box.now, (box.asked actor).getD 0⟩ :: box.checks
      collided := box.collided || box.updater.isSome }.Sound sha256 inflate platform
        (Function.update traces actor
          { traces actor with stale := false, noted := false, updating := true }) := by
  obtain ⟨mine, idle, fresh, noted, tidy⟩ := allowed
  have works := sound.works actor
  obtain ⟨-, gap, wanted, far⟩ := works.far (.inr noted)
  obtain ⟨time, checked, since⟩ := works.noted noted
  refine sound.work mine (.of_eq rfl rfl rfl) (sound.stocked.mono rfl rfl (.of_eq rfl rfl rfl))
    ⟨List.pairwise_cons.mpr ⟨fun earlier member => ?_, sound.timed.spaced⟩, sound.timed.past,
      List.forall_mem_cons.mpr ⟨sound.timed.locked, sound.timed.known⟩, sound.timed.locked⟩
    (by simp [sound.idle mine idle, sound.apart]) ?_
    (fun _ => List.forall_mem_cons.mpr ⟨⟨time, checked, since⟩, sound.kept mine tidy⟩)
    ⟨works.asked, works.lock, fun _ => mine, by simp, by simp, by simp [fresh], works.unnoted,
      works.sums, works.asset, works.temp⟩
  · rw [works.asked gap wanted]
    exact far earlier member
  · rintro task ⟨⟩
    rw [Function.update_self]

theorem Sound.endUpdater (sound : box.Sound sha256 inflate platform traces)
    (mine : (traces actor).updating = true) :
    { box with updater := none }.Sound sha256 inflate platform
      (Function.update traces actor { traces actor with updating := false }) := by
  have works := sound.works actor
  have holding := works.inside mine
  exact sound.work holding (.of_eq rfl rfl rfl) (sound.stocked.mono rfl rfl (.of_eq rfl rfl rfl))
    (sound.timed.later rfl rfl rfl (Nat.le_refl _)) sound.apart (by simp) (sound.kept holding)
    ⟨works.asked, works.lock, by simp, works.far, works.noted, works.begun, works.unnoted,
      works.sums, works.asset, works.temp⟩

theorem Sound.put (sound : box.Sound sha256 inflate platform traces) (tool : Tool)
    (content : Option (List UInt8)) :
    (box.put tool content).Sound sha256 inflate platform traces := by
  refine ⟨sound.stocked.put tool content, ?_, ?_, ?_, ?_, fun task => ?_⟩
  · cases content <;> exact sound.timed.later rfl rfl rfl (Nat.le_refl _)
  · cases content <;> exact sound.apart
  · cases content <;> exact sound.updater
  · cases content <;> exact sound.latest
  · have works := sound.works task
    cases content <;>
      exact ⟨works.asked, works.lock, works.inside, works.far, works.noted, works.begun,
        works.unnoted, works.sums, works.asset, works.temp⟩

theorem Sound.begin (sound : box.Sound sha256 inflate platform traces)
    (mine : (traces actor).holding = true) (idle : (traces actor).updating = false) :
    (box.begin actor).Sound sha256 inflate platform
      (Function.update traces actor { traces actor with installing := true }) := by
  have works := sound.works actor
  exact sound.work mine (.of_eq rfl rfl rfl) (sound.stocked.mono rfl rfl (.of_eq rfl rfl rfl))
    (sound.timed.later rfl rfl rfl (Nat.le_refl _))
    (by simp [Toolbox.begin, sound.idle mine idle, sound.apart]) (sound.carry rfl rfl)
    (sound.kept mine)
    ⟨works.asked, works.lock, works.inside, works.far, works.noted,
      fun _ => ⟨mine, Function.update_self ..⟩, works.unnoted, works.sums, works.asset, works.temp⟩

theorem Sound.setTemp (sound : box.Sound sha256 inflate platform traces)
    (mine : (traces actor).holding = true) (tool : Tool) (content : List UInt8)
    {written : Option (Tool × List UInt8)}
    (known : written = none ∨ written = some (tool, content)) :
    (box.setTemp tool (some content)).Sound sha256 inflate platform
      (Function.update traces actor { traces actor with written := written }) := by
  have works := sound.works actor
  refine sound.work mine (.of_eq rfl rfl rfl) (sound.stocked.mono rfl rfl (.of_eq rfl rfl rfl))
    (sound.timed.later rfl rfl rfl (Nat.le_refl _)) sound.apart (sound.carry rfl rfl)
    (sound.kept mine)
    ⟨works.asked, works.lock, works.inside, works.far, works.noted, works.begun, works.unnoted,
      works.sums, works.asset, ?_⟩
  rintro other bytes same
  rcases known with rfl | rfl
  · cases same
  · obtain ⟨rfl, rfl⟩ := Prod.mk.inj (Option.some.inj same)
    exact ⟨mine, Function.update_self ..⟩

/-- What was published is moved into place. -/
theorem Sound.install (sound : box.Sound sha256 inflate platform traces) {tool : Tool}
    {content : List UInt8}
    (allowed : (traces actor).Allows sha256 inflate platform (.rename tool))
    (there : box.temp tool = some content) :
    (box.install tool content).Sound sha256 inflate platform
      (Function.update traces actor ((traces actor).next (.rename tool) true)) := by
  obtain ⟨⟨mine, idle, begun⟩, bytes, text, asset, written, sums, served, genuine⟩ := allowed
  have works := sound.works actor
  obtain rfl : content = bytes :=
    Option.some.inj (there.symm.trans (works.temp tool bytes written).2)
  refine sound.work mine (.of_eq rfl rfl rfl) ?_ ?_ sound.apart (sound.carry rfl rfl) ?_
    ⟨works.asked, works.lock, works.inside, by simp [Trace.next], by simp [Trace.next], works.begun,
      fun _ => mine, works.sums, works.asset, by simp [Trace.next]⟩
  · intro other present at_place
    by_cases same : other = tool
    · subst same
      obtain rfl : content = present := by simpa [Toolbox.install] using at_place
      exact .inr ⟨text, asset, works.sums _ sums, works.asset _ served, genuine⟩
    · have stood := sound.stocked other present (by simpa [Toolbox.install, same] using at_place)
      exact stood.imp_right fun published => published.mono (.of_eq rfl rfl rfl)
  · cases tool with
    | deno => exact sound.timed.later rfl rfl rfl (Nat.le_refl _)
    | ytdlp =>
        exact ⟨List.pairwise_cons.mpr ⟨sound.timed.known, sound.timed.spaced⟩, sound.timed.past,
          List.forall_mem_cons.mpr ⟨Nat.le_refl _, sound.timed.known⟩, sound.timed.locked⟩
  · cases tool with
    | deno =>
        intro tidy
        exact sound.kept mine (by simpa [Trace.next] using tidy)
    | ytdlp => simp [Trace.next]

theorem Sound.serve (sound : box.Sound sha256 inflate platform traces)
    (mine : (traces actor).holding = true) (texts : List (String × List Char))
    (assets : List (String × List UInt8)) {sums : Option (String × List Char)}
    {asset : Option (String × List UInt8)}
    (sums_known : ∀ served, sums = some served → served ∈ texts ++ box.texts)
    (asset_known : ∀ served, asset = some served → served ∈ assets ++ box.assets) :
    { box with texts := texts ++ box.texts, assets := assets ++ box.assets }.Sound
      sha256 inflate platform
        (Function.update traces actor { traces actor with sums := sums, asset := asset }) := by
  have works := sound.works actor
  have grows : box.Extends
      { box with texts := texts ++ box.texts, assets := assets ++ box.assets } :=
    ⟨rfl, List.subset_append_right .., List.subset_append_right ..⟩
  exact sound.work mine grows (sound.stocked.mono rfl rfl grows)
    (sound.timed.later rfl rfl rfl (Nat.le_refl _)) sound.apart (sound.carry rfl rfl)
    (sound.kept mine)
    ⟨works.asked, works.lock, works.inside, works.far, works.noted, works.begun, works.unnoted,
      sums_known, asset_known, works.temp⟩

theorem Sound.perform (sound : box.Sound sha256 inflate platform traces) {op : Op} {input : Input}
    {answer : op.Answer} (allowed : (traces actor).Allows sha256 inflate platform op)
    (performed : box.perform actor op input = some (answer, after)) :
    after.Sound sha256 inflate platform
      (Function.update traces actor ((traces actor).next op answer)) := by
  have mine := sound.works actor
  cases op with
  | call gap =>
      obtain ⟨-, rfl⟩ := Prod.mk.inj (Option.some.inj performed)
      simpa [Trace.next, show traces actor = {} from allowed] using sound.call allowed gap
  | isFile tool | updatesOff =>
      obtain ⟨rfl, rfl⟩ := Prod.mk.inj (Option.some.inj performed)
      simpa [Trace.next] using sound
  | setUpdatesOff off =>
      obtain ⟨rfl, rfl⟩ := Prod.mk.inj (Option.some.inj performed)
      change Sound sha256 inflate platform _ (Function.update traces actor (traces actor))
      rw [Function.update_eq_self]
      refine ⟨sound.stocked.mono rfl rfl (.of_eq rfl rfl rfl),
        sound.timed.later rfl rfl rfl (Nat.le_refl _), sound.apart, sound.updater, sound.latest,
        fun task => ?_⟩
      have works := sound.works task
      exact ⟨works.asked, works.lock, works.inside, works.far, works.noted, works.begun,
        works.unnoted, works.sums, works.asset, works.temp⟩
  | lockUpdates =>
      obtain ⟨free, -, rfl⟩ := of_guarded_answer performed
      exact sound.lock free allowed
  | unlockUpdates =>
      obtain ⟨-, rfl⟩ := Prod.mk.inj (Option.some.inj performed)
      exact sound.unlock allowed.1 allowed.2.1 allowed.2.2
  | recentlyChecked gap =>
      obtain ⟨rfl, rfl⟩ := Prod.mk.inj (Option.some.inj performed)
      obtain ⟨holding, wanted, tidy⟩ := allowed
      cases recent : box.recent gap box.checked with
      | true => exact sound.retrace holding rfl rfl mine
      | false =>
          have far := sound.timed.stale (sound.kept holding tidy) recent
          exact sound.retrace holding rfl rfl
            ⟨mine.asked, mine.lock, mine.inside, fun _ => ⟨holding, gap, wanted, far⟩, mine.noted,
              mine.begun, mine.unnoted, mine.sums, mine.asset, mine.temp⟩
  | recentlyUpdated gap =>
      obtain ⟨rfl, rfl⟩ := Prod.mk.inj (Option.some.inj performed)
      exact sound.retrace allowed rfl rfl mine
  | setChecked =>
      obtain ⟨-, rfl⟩ := Prod.mk.inj (Option.some.inj performed)
      exact sound.check allowed
  | setUpdated =>
      obtain ⟨-, rfl⟩ := Prod.mk.inj (Option.some.inj performed)
      exact sound.work allowed (.of_eq rfl rfl rfl)
        (sound.stocked.mono rfl rfl (.of_eq rfl rfl rfl))
        (sound.timed.later rfl rfl rfl (Nat.le_refl _)) sound.apart (sound.carry rfl rfl)
        (sound.kept allowed)
        ⟨mine.asked, mine.lock, mine.inside, mine.far, mine.noted, mine.begun, mine.unnoted,
          mine.sums, mine.asset, mine.temp⟩
  | startUpdater =>
      obtain ⟨-, rfl⟩ := Prod.mk.inj (Option.some.inj performed)
      exact sound.startUpdater allowed
  | endUpdater =>
      cases input with
      | ended run replaced =>
          cases replaced with
          | none =>
              obtain ⟨-, rfl⟩ := Prod.mk.inj (Option.some.inj performed)
              exact sound.endUpdater allowed
          | some content =>
              obtain ⟨-, rfl⟩ := Prod.mk.inj (Option.some.inj performed)
              exact (sound.put .ytdlp (some content)).endUpdater allowed
      | silent | fails | cutShort | text | bytes => simp [Toolbox.perform] at performed
  | createDir =>
      cases input with
      | silent | fails =>
          obtain ⟨-, rfl⟩ := Prod.mk.inj (Option.some.inj performed)
          exact sound.begin allowed.1 allowed.2
      | ended | cutShort | text | bytes => simp [Toolbox.perform] at performed
  | setPermissions tool =>
      cases input with
      | silent | fails =>
          obtain ⟨-, rfl⟩ := Prod.mk.inj (Option.some.inj performed)
          rw [sound.note_eq allowed]
          exact sound.retrace allowed.holding rfl rfl mine
      | ended | cutShort | text | bytes => simp [Toolbox.perform] at performed
  | getText url =>
      cases input with
      | fails =>
          obtain ⟨rfl, rfl⟩ := Prod.mk.inj (Option.some.inj performed)
          rw [sound.note_eq allowed]
          exact sound.retrace allowed.holding rfl rfl mine
      | text text =>
          obtain ⟨rfl, rfl⟩ := Prod.mk.inj (Option.some.inj performed)
          rw [sound.note_eq allowed]
          refine sound.serve allowed.holding [(url, text)] [] ?_ mine.asset
          rintro _ ⟨⟩
          exact List.mem_cons_self
      | silent | ended | cutShort | bytes => simp [Toolbox.perform] at performed
  | getBytes url =>
      cases input with
      | fails =>
          obtain ⟨rfl, rfl⟩ := Prod.mk.inj (Option.some.inj performed)
          rw [sound.note_eq allowed]
          exact sound.retrace allowed.holding rfl rfl mine
      | bytes bytes =>
          obtain ⟨rfl, rfl⟩ := Prod.mk.inj (Option.some.inj performed)
          rw [sound.note_eq allowed]
          refine sound.serve allowed.holding [] [(url, bytes)] mine.sums ?_
          rintro _ ⟨⟩
          exact List.mem_cons_self
      | silent | ended | cutShort | text => simp [Toolbox.perform] at performed
  | writeTemp tool content =>
      cases input with
      | silent =>
          obtain ⟨rfl, rfl⟩ := Prod.mk.inj (Option.some.inj performed)
          rw [sound.note_eq allowed]
          exact sound.setTemp allowed.holding tool content (.inr rfl)
      | cutShort count =>
          obtain ⟨rfl, rfl⟩ := Prod.mk.inj (Option.some.inj performed)
          rw [sound.note_eq allowed]
          exact sound.setTemp allowed.holding tool (content.take count) (.inl rfl)
      | fails =>
          obtain ⟨rfl, rfl⟩ := Prod.mk.inj (Option.some.inj performed)
          rw [sound.note_eq allowed]
          exact sound.retrace allowed.holding rfl rfl
            ⟨mine.asked, mine.lock, mine.inside, mine.far, mine.noted, mine.begun, mine.unnoted,
              mine.sums, mine.asset, by simp [Trace.next]⟩
      | ended | text | bytes => simp [Toolbox.perform] at performed
  | rename tool =>
      cases input with
      | fails =>
          obtain ⟨rfl, rfl⟩ := Prod.mk.inj (Option.some.inj performed)
          rw [sound.note_eq allowed.1]
          exact sound.retrace allowed.1.holding rfl rfl mine
      | silent =>
          obtain ⟨content, there, same⟩ := Option.map_eq_some_iff.mp performed
          obtain ⟨rfl, rfl⟩ := Prod.mk.inj same
          rw [sound.note_eq allowed.1]
          exact sound.install allowed there
      | ended | cutShort | text | bytes => simp [Toolbox.perform] at performed

end Toolbox

section Release

variable (sha256 : List UInt8 → List UInt8) (inflate : List UInt8 → Option (List UInt8))
  (platform : Platform)

theorem safe : (machine sha256 inflate platform).Safe (discipline sha256 inflate platform)
    (fun _ _ _ _ _ => True) fun box traces => box.Sound sha256 inflate platform traces where
  initial := by
    rintro _ ⟨file, temp, rfl⟩
    refine ⟨fun tool content present => .inl ?_, ⟨.nil, by simp [Toolbox.found],
      by simp [Toolbox.found], Nat.le_refl _⟩, rfl, by simp [Toolbox.found],
      fun _ => by simp [Toolbox.Latest, Toolbox.found], fun _ => Toolbox.works_of_idle⟩
    refine List.mem_filterMap.mpr ⟨tool, ?_, Option.map_eq_some_iff.mpr ⟨content, present, rfl⟩⟩
    cases tool <;> simp
  accept := by
    intro box traces actor request program after sound idle accepted
    obtain ⟨rfl, rfl⟩ := Prod.mk.inj (Option.some.inj accepted)
    exact ⟨sound, Trace.guides_run request⟩
  perform box traces actor op input answer after sound allowed _ performed :=
    sound.perform allowed performed
  outside := by
    intro box traces change after sound changed
    cases change with
    | tick nanoseconds =>
        obtain rfl := Option.some.inj changed
        refine ⟨sound.stocked.mono rfl rfl (.of_eq rfl rfl rfl),
          sound.timed.later rfl rfl rfl (Nat.le_add_right ..), sound.apart, sound.updater,
          sound.latest, fun task => ?_⟩
        have works := sound.works task
        refine ⟨works.asked, works.lock, works.inside, fun sure => ?_, works.noted, works.begun,
          works.unnoted, works.sums, works.asset, works.temp⟩
        obtain ⟨holding, gap, wanted, far⟩ := works.far sure
        exact ⟨holding, gap, wanted, fun check member =>
          Nat.le_add_right_of_le (far check member)⟩
    | put tool content =>
        obtain rfl := Option.some.inj changed
        exact sound.put tool content

/-- One process after another. -/
def restarting : Machine signature (Hosted Toolbox) Request Input (Disruption Outside) :=
  (machine sha256 inflate platform).restarting Toolbox.halt

/-- All interleavings of updates and installations, over any number of processes. -/
abbrev system := (restarting sha256 inflate platform).system (discipline sha256 inflate platform)

theorem halts (box : Toolbox) (traces : Nat → Trace)
    (sound : box.Sound sha256 inflate platform traces) :
    box.halt.Sound sha256 inflate platform fun _ => {} where
  stocked := sound.stocked.mono rfl rfl (.of_eq rfl rfl rfl)
  timed := ⟨.nil, by simp [Toolbox.halt], by simp [Toolbox.halt], sound.timed.locked⟩
  apart := sound.apart
  updater := by simp [Toolbox.halt]
  latest _ := by simp [Toolbox.Latest, Toolbox.halt]
  works _ := Toolbox.works_of_idle

variable {sha256 inflate platform}

theorem sound_of_reachable {pool : Pool signature (Hosted Toolbox) Trace}
    (reach : (system sha256 inflate platform).Reachable pool) :
    ∃ traces, pool.shared.shared.Sound sha256 inflate platform traces := by
  have restarts := (safe sha256 inflate platform).restarting (halts sha256 inflate platform)
  exact ⟨_, (restarts.guarded_of_reachable reach).holds.holds⟩

/-- Whatever is asked for, and wherever the server is stopped: a tool in place was put there by
others, or its release has served it, with the sum it had published. -/
theorem tools_are_genuine {pool : Pool signature (Hosted Toolbox) Trace}
    (reach : (system sha256 inflate platform).Reachable pool) {tool : Tool} {content : List UInt8}
    (present : pool.shared.shared.file tool = some content) :
    (tool, content) ∈ pool.shared.shared.foreign ∨
      pool.shared.shared.Published sha256 inflate platform tool content := by
  obtain ⟨traces, sound⟩ := sound_of_reachable reach
  exact sound.stocked tool content present

/-- Within a process, a run of yt-dlp's updater begins as long as its caller asked for after the
lock was taken for each run before it, and after each installation of yt-dlp; and the updater never
runs twice at once, nor while a tool is installed. -/
theorem updates_are_spaced {pool : Pool signature (Hosted Toolbox) Trace}
    (reach : (system sha256 inflate platform).Reachable pool) :
    pool.shared.shared.checks.Pairwise (fun later earlier =>
        earlier.since + later.gap ≤ later.time) ∧
      pool.shared.shared.collided = false := by
  obtain ⟨traces, sound⟩ := sound_of_reachable reach
  exact ⟨sound.timed.spaced, sound.apart⟩

end Release

/-! ### An installation which is cut short, and one which is not -/

/-- The release of a test: its one asset says `abc`. -/
def exampleAsset : List UInt8 := [97, 98, 99]

/-- The digest of that asset. -/
def exampleSha256 (bytes : List UInt8) : List UInt8 :=
  if bytes = exampleAsset then
    [186, 120, 22, 191, 143, 1, 207, 234, 65, 65, 64, 222, 93, 174, 34, 35, 176, 3, 97, 163, 150,
      23, 122, 156, 180, 16, 255, 97, 242, 0, 21, 173]
  else
    []

def examplePlatform : Platform := { arch := "x86_64", systemDeno := true }

def exampleSums : List Char :=
  "ba7816bf8f01cfea414140de5dae2223b00361a396177a9cb410ff61f20015ad  yt-dlp_linux\n".toList

abbrev Event := PoolEvent Request Input (Disruption Outside)

def advance (actor : Nat) (inputs : List Input) : List Event := inputs.map (.advance actor)

def served : List Input :=
  [.silent, .silent, .silent, .silent, .text exampleSums, .bytes exampleAsset]

/-- The server is stopped while the tool is written, and started again. -/
def interrupted : List Event :=
  [.start .ensureTools] ++ advance 0 (served ++ [.cutShort 2]) ++
    [.outside .stop, .outside .start, .start .ensureTools] ++
    advance 1 (served ++ List.replicate 6 .silent)

def empty : Pool signature (Hosted Toolbox) Trace :=
  Machine.boot (discipline exampleSha256 (fun _ => none) examplePlatform)
    (.first (.found (fun _ => none) fun _ => none))

theorem interrupted_is_genuine :
    let pool := (system exampleSha256 (fun _ => none) examplePlatform).final empty interrupted
      (by decide +kernel)
    pool.shared.shared.file .ytdlp = some exampleAsset ∧
      ((Tool.ytdlp, exampleAsset) ∈ pool.shared.shared.foreign ∨
        pool.shared.shared.Published exampleSha256 (fun _ => none) examplePlatform .ytdlp
          exampleAsset) := by
  intro pool
  have present : pool.shared.shared.file .ytdlp = some exampleAsset := by decide +kernel
  refine ⟨present, tools_are_genuine (System.reachable_final ?_ _ _) present⟩
  exact ⟨_, ⟨_, ⟨_, _, rfl⟩, rfl⟩, rfl⟩

/-- An update is asked for too early, and again after ten minutes. -/
def asked : List Event :=
  [.start (.update 0)] ++ advance 0 (List.replicate 7 .silent ++ [.ended .failed none, .silent]) ++
    [.start (.update updateGap)] ++ advance 1 (List.replicate 7 .silent) ++
    [.outside (.change (.tick updateGap)), .start (.update updateGap)] ++
    advance 2 (List.replicate 7 .silent)

def stocked : Pool signature (Hosted Toolbox) Trace :=
  Machine.boot (discipline exampleSha256 (fun _ => none) examplePlatform)
    (.first (.found (fun _ => some exampleAsset) fun _ => none))

theorem asked_is_spaced :
    let pool := (system exampleSha256 (fun _ => none) examplePlatform).final stocked asked
      (by decide +kernel)
    pool.shared.shared.checks = [⟨updateGap, updateGap, updateGap⟩, ⟨0, 0, 0⟩] ∧
      pool.shared.shared.checks.Pairwise (fun later earlier =>
        earlier.since + later.gap ≤ later.time) ∧
      pool.shared.shared.collided = false := by
  intro pool
  refine ⟨by decide +kernel, updates_are_spaced (System.reachable_final ?_ _ _)⟩
  exact ⟨_, ⟨_, ⟨_, _, rfl⟩, rfl⟩, rfl⟩

end Togewire.Audio.Tools
