import Mathlib.Logic.Function.Basic
import Togewire.Cache.Manager
import Togewire.Foundation.Program
import Togewire.Types

/-!
# Preparing tracks

`TrackPreparer` as programs over its maps, its download lock and the cache.  Fetching a track
contacts the outside world; what it reports is part of the input, and it ends by caching the file.
-/

namespace Togewire.Audio

open Interleaving Transition

/-- `NO_SOURCE_COOLDOWN`, in milliseconds. -/
def noSourceCooldown : Nat := 600000

/-- `RETRY_COOLDOWN`, in milliseconds. -/
def retryCooldown : Nat := 30000

/-- `PrepareError` -/
inductive PrepareError
  | busy
  | noSource
  | failed (message : String)
  deriving DecidableEq

/-- What a call of `prepare_track` returns. -/
abbrev Result := Except PrepareError String

/-- A finished cache file. -/
structure Fetched where
  filePath : String
  bitrate : String
  normalized : Bool

/-- What a search and download with yt-dlp comes to. -/
inductive Search
  | file (fetched : Fetched)
  | noMatch
  | error (message : String)

/-- How the last download of a track ended. -/
inductive Ending
  | stored
  /-- It failed, and may be repeated from the given instant on once that is noted. -/
  | failed (deadline : Option Nat)
  deriving DecidableEq

/-- The state of a `TrackPreparer`. -/
structure Preparer where
  cache : Cache.Manager
  /-- Seconds since the epoch, which the cache reads. -/
  now : Int
  /-- Milliseconds of the monotonic clock. -/
  instant : Nat
  /-- The leader's channel of every track in flight, named after the leader. -/
  inFlight : String → Option Nat
  /-- Leaders whose channel is closed. -/
  closed : Nat → Bool
  /-- Track id to the instant it may be attempted again. -/
  failed : AList fun _ : String => Nat
  downloadLock : Option Nat
  /-- History: how the last download of each track ended. -/
  last : String → Option Ending

/-- The operations of a prepare. -/
inductive Op
  | getPath (id : String)
  | recentlyFailed (id : String)
  | elect (id : String)
  | follow (leader : Nat)
  | acquireDownload
  | releaseDownload
  | startInner (id : String)
  | useLibrespot
  | librespot (track : Track)
  | ytdlp (track : Track)
  | put (id : String) (fetched : Fetched)
  | finishInner (id : String) (result : Result)
  | forgetFailure (id : String)
  | noteFailure (id : String) (cooldown : Nat)
  | dropGuard (id : String)

def Op.Answer : Op → Type
  | getPath _ => Option String
  | elect _ => Option Nat
  | recentlyFailed _ | useLibrespot => Bool
  | librespot _ => Option Fetched
  | ytdlp _ => Search
  | follow _ | acquireDownload | releaseDownload | startInner _ | put _ _ | finishInner _ _
  | forgetFailure _ | noteFailure _ _ | dropGuard _ => Unit

abbrev signature : Signature := ⟨Op, Op.Answer⟩

abbrev Task := Program signature

/-- What the outside world contributes to a step. -/
structure Input where
  useLibrespot : Bool := false
  librespot : Option Fetched := none
  ytdlp : Search := .noMatch
  /-- Whether a follower has waited for a minute. -/
  timedOut : Bool := false

namespace Preparer

/-- Drop the entries a predicate rejects. -/
def retain (failed : AList fun _ : String => Nat) (keep : Nat → Bool) :
    AList fun _ : String => Nat :=
  ⟨failed.entries.filter fun listed => keep listed.2,
    failed.nodupKeys.sublist List.filter_sublist⟩

/-- Whether a track is within its cooldown, forgetting lapsed ones when many are known. -/
def recentlyFailed (preparer : Preparer) (id : String) : Bool × Preparer :=
  let failed :=
    if 64 < preparer.failed.entries.length then
      retain preparer.failed fun deadline => preparer.instant < deadline
    else
      preparer.failed
  ((failed.lookup id).any fun deadline => preparer.instant < deadline,
    { preparer with failed := failed })

/-- `is_preparing` -/
def isPreparing (preparer : Preparer) (id : String) : Bool := (preparer.inFlight id).isSome

/-- Follow the leader for a track, or become it, under one lock. -/
def elect (preparer : Preparer) (actor : Nat) (id : String) : Option Nat × Preparer :=
  match preparer.inFlight id with
  | some leader => (some leader, preparer)
  | none =>
      (none, { preparer with inFlight := Function.update preparer.inFlight id (some actor) })

/-- Note how a download ended. -/
def finishInner (preparer : Preparer) (id : String) : Result → Preparer
  | .ok _ => preparer
  | .error _ =>
      { preparer with last := Function.update preparer.last id (some (.failed none)) }

/-- A failure is cooling down from now on. -/
def noteFailure (preparer : Preparer) (id : String) (cooldown : Nat) : Preparer :=
  let deadline := preparer.instant + cooldown
  { preparer with
    failed := preparer.failed.insert id deadline
    last := Function.update preparer.last id (some (.failed (some deadline))) }

/-- `InFlightGuard::drop`: the flight is over, and whoever waits for it is woken. -/
def dropGuard (preparer : Preparer) (actor : Nat) (id : String) : Preparer :=
  { preparer with
    inFlight := Function.update preparer.inFlight id none
    closed := Function.update preparer.closed actor true }

/-- A fetched file is in the cache. -/
def put (preparer : Preparer) (id : String) (fetched : Fetched) : Preparer :=
  { preparer with
    cache :=
      preparer.cache.put id fetched.filePath fetched.bitrate fetched.normalized preparer.now
    last := Function.update preparer.last id (some .stored) }

/-- The effect of one operation of a task. -/
def perform (preparer : Preparer) (actor : Nat) (op : Op) (input : Input) :
    Option (op.Answer × Preparer) :=
  match op with
  | .getPath id =>
      let (path, cache) := preparer.cache.getPath id preparer.now
      some (path, { preparer with cache := cache })
  | .recentlyFailed id => some (preparer.recentlyFailed id)
  | .elect id => some (preparer.elect actor id)
  | .follow leader =>
      if preparer.closed leader ∨ input.timedOut then some ((), preparer) else none
  | .acquireDownload =>
      if preparer.downloadLock = none then
        some ((), { preparer with downloadLock := some actor })
      else
        none
  | .releaseDownload => some ((), { preparer with downloadLock := none })
  | .startInner _ => some ((), preparer)
  | .useLibrespot => some (input.useLibrespot, preparer)
  | .librespot _ => some (input.librespot, preparer)
  | .ytdlp _ => some (input.ytdlp, preparer)
  | .put id fetched => some ((), preparer.put id fetched)
  | .finishInner id result => some ((), preparer.finishInner id result)
  | .forgetFailure id => some ((), { preparer with failed := preparer.failed.erase id })
  | .noteFailure id cooldown => some ((), preparer.noteFailure id cooldown)
  | .dropGuard id => some ((), preparer.dropGuard actor id)

end Preparer

/-! ## Tasks -/

def ask (op : Op) : Task op.Answer := Program.perform (S := signature) op

def getPath (id : String) : Task (Option String) := ask (.getPath id)
def recentlyFailed (id : String) : Task Bool := ask (.recentlyFailed id)
def elect (id : String) : Task (Option Nat) := ask (.elect id)
def follow (leader : Nat) : Task Unit := ask (.follow leader)
def acquireDownload : Task Unit := ask .acquireDownload
def releaseDownload : Task Unit := ask .releaseDownload
def startInner (id : String) : Task Unit := ask (.startInner id)
def useLibrespot : Task Bool := ask .useLibrespot
def librespot (track : Track) : Task (Option Fetched) := ask (.librespot track)
def ytdlp (track : Track) : Task Search := ask (.ytdlp track)
def put (id : String) (fetched : Fetched) : Task Unit := ask (.put id fetched)
def finishInner (id : String) (result : Result) : Task Unit := ask (.finishInner id result)
def forgetFailure (id : String) : Task Unit := ask (.forgetFailure id)
def noteFailure (id : String) (cooldown : Nat) : Task Unit := ask (.noteFailure id cooldown)
def dropGuard (id : String) : Task Unit := ask (.dropGuard id)

/-- The end of both fetchers: cache the finished file. -/
def storeFetched (track : Track) (fetched : Fetched) : Task Result := do
  put track.id fetched
  pure (.ok fetched.filePath)

/-- `fetch_via_ytdlp` -/
def fetchViaYtdlp (track : Track) : Task Result := do
  match ← ytdlp track with
  | .file fetched => storeFetched track fetched
  | .noMatch => pure (.error .noSource)
  | .error message => pure (.error (.failed message))

/-- The body of `prepare_inner`: librespot first, if it is in use. -/
def fetchTrack (track : Track) : Task Result := do
  if ← useLibrespot then
    match ← librespot track with
    | some fetched => storeFetched track fetched
    | none => fetchViaYtdlp track
  else
    fetchViaYtdlp track

/-- `prepare_inner`: librespot first, then yt-dlp. -/
def prepareInner (track : Track) : Task Result := do
  startInner track.id
  let result ← fetchTrack track
  finishInner track.id result
  pure result

/-- What a leader does under the download lock. -/
def downloadOnce (track : Track) : Task Result := do
  match ← getPath track.id with
  | some path => pure (.ok path)
  | none =>
      if ← recentlyFailed track.id then
        pure (.error .busy)
      else
        prepareInner track

/-- Record the outcome of a prepare. -/
def settle (id : String) : Result → Task Unit
  | .ok _ => forgetFailure id
  | .error .noSource => noteFailure id noSourceCooldown
  | .error (.failed _) => noteFailure id retryCooldown
  | .error .busy => pure ()

/-- `execute_prepare`, the guard being dropped at its end. -/
def executePrepare (track : Track) : Task Result := do
  acquireDownload
  let result ← downloadOnce track
  releaseDownload
  settle track.id result
  dropGuard track.id
  pure result

/-- A follower waits for the leader and takes what it left. -/
def followPrepare (track : Track) (leader : Nat) : Task Result := do
  follow leader
  match ← getPath track.id with
  | some path => pure (.ok path)
  | none => pure (.error .busy)

/-- `prepare_track` after its first look at the cache and the cooldowns. -/
def joinPrepare (track : Track) : Task Result := do
  match ← elect track.id with
  | none => executePrepare track
  | some leader => followPrepare track leader

/-- `prepare_track`: the first call for a track leads, and the others wait for it. -/
def prepareTrack (track : Track) : Task Result := do
  match ← getPath track.id with
  | some path => pure (.ok path)
  | none =>
      if ← recentlyFailed track.id then
        pure (.error .busy)
      else
        joinPrepare track

/-- What starts a task: a prepare, or a look of the monitor. -/
inductive Request
  | prepare (track : Track)
  | cached (id : String)
  | cooling (id : String)

def accept : Request → Task Unit
  | .prepare track => do
      let _ ← prepareTrack track
  | .cached id => do
      let _ ← getPath id
  | .cooling id => do
      let _ ← recentlyFailed id

/-- A change which no prepare makes. -/
inductive Change
  | setMaxMb (maxMb : Nat)
  | clear
  | file (path : String) (size : Option Nat)
  | access (writable : Bool)
  | clock (now : Int)
  /-- Milliseconds pass. -/
  | elapse (duration : Nat)

namespace Preparer

def outside (preparer : Preparer) : Change → Preparer
  | .setMaxMb maxMb => { preparer with cache := preparer.cache.setMaxMb maxMb }
  | .clear => { preparer with cache := preparer.cache.clear }
  | .file path size =>
      let disk := preparer.cache.disk
      let changed := { disk with files := Function.update disk.files path size }
      { preparer with cache := { preparer.cache with disk := changed } }
  | .access writable =>
      let disk := { preparer.cache.disk with writable := writable }
      { preparer with cache := { preparer.cache with disk := disk } }
  | .clock now => { preparer with now := now }
  | .elapse duration => { preparer with instant := preparer.instant + duration }

/-- A new preparer over a loaded cache. -/
def new (cache : Cache.Manager) (now : Int) (instant : Nat) : Preparer where
  cache := cache
  now := now
  instant := instant
  inFlight _ := none
  closed _ := false
  failed := ∅
  downloadLock := none
  last _ := none

end Preparer

/-- Concurrent prepares in any order. -/
def machine : Machine signature Preparer Request Input Change where
  initial preparer := ∃ cache now instant, preparer = .new cache now instant
  accept preparer _ request := some (accept request, preparer)
  perform := Preparer.perform
  outside preparer change := some (preparer.outside change)

/-! ## How far a call has come -/

/-- How far a call is with its prepare. -/
inductive Phase
  | away
  | leading (id : String)
  | locked (id : String)
  | uncached (id : String)
  /-- Neither cached nor cooling down. -/
  | due (id : String)
  | downloading (id : String)
  | stored (id : String)
  | done (id : String) (result : Result)
  | settling (id : String) (result : Result)
  | settled (id : String)

namespace Phase

/-- The track a call is the leader for, from its election until its guard is dropped. -/
def leads : Phase → Option String
  | away => none
  | leading id | locked id | uncached id | due id | downloading id | stored id | done id _
  | settling id _ | settled id => some id

/-- Whether a call has the download lock. -/
def holdsLock : Phase → Bool
  | locked _ | uncached _ | due _ | downloading _ | stored _ | done _ _ => true
  | away | leading _ | settling _ _ | settled _ => false

/-- Whether a call is in `prepare_inner`. -/
def downloads : Phase → Bool
  | downloading _ | stored _ => true
  | _ => false

/-- A download failed. -/
def fails : Result → Bool
  | .error .noSource | .error (.failed _) => true
  | .ok _ | .error .busy => false

def next (phase : Phase) : (op : Op) → op.Answer → Phase
  | .elect id, none => .leading id
  | .acquireDownload, _ =>
      match phase with
      | leading id => locked id
      | other => other
  | .getPath id, path =>
      match phase, path with
      | locked _, none => uncached id
      | locked _, some path => done id (.ok path)
      | other, _ => other
  | .recentlyFailed id, failed =>
      match phase, failed with
      | uncached _, false => due id
      | uncached _, true => done id (.error .busy)
      | other, _ => other
  | .startInner id, _ => downloading id
  | .put id _, _ => stored id
  | .finishInner id result, _ => done id result
  | .releaseDownload, _ =>
      match phase with
      | done id result => settling id result
      | other => other
  | .forgetFailure id, _ => settled id
  | .noteFailure id _, _ => settled id
  | .dropGuard _, _ => away
  | _, _ => phase

/-- Only the leader downloads, with the lock, once the cache and the cooldown were looked at. -/
def Allows (phase : Phase) : Op → Prop
  | .getPath id => phase = away ∨ phase = locked id
  | .recentlyFailed id => phase = away ∨ phase = uncached id
  | .elect _ | .follow _ => phase = away
  | .acquireDownload => ∃ id, phase = leading id
  | .startInner id => phase = due id
  | .put id _ => phase = downloading id
  | .finishInner id result =>
      (phase = downloading id ∧ fails result = true) ∨
        phase = stored id ∧ ∃ path, result = .ok path
  | .releaseDownload => ∃ id result, phase = done id result
  | .forgetFailure id => ∃ path, phase = settling id (.ok path)
  | .noteFailure id _ => ∃ result, phase = settling id result ∧ fails result = true
  | .dropGuard id => phase = settled id ∨ phase = settling id (.error .busy)
  | .useLibrespot | .librespot _ | .ytdlp _ => True

end Phase

/-- The discipline of `prepare_track`. -/
def discipline : Discipline signature Phase where
  start := .away
  next := Phase.next
  allows := Phase.Allows

namespace Phase

abbrev Guides {α : Type} (phase : Phase) (task : Task α) (finish : α → Phase → Prop) : Prop :=
  task.Obeys discipline phase finish

/-- What a fetch leaves: a cached file or a failure. -/
def Fetches (id : String) (result : Result) (phase : Phase) : Prop :=
  (phase = downloading id ∧ fails result = true) ∨ phase = stored id ∧ ∃ path, result = .ok path

theorem guides_storeFetched (track : Track) (fetched : Fetched) :
    Guides (downloading track.id) (storeFetched track fetched) (Fetches track.id) :=
  ⟨rfl, fun _ => Or.inr ⟨rfl, fetched.filePath, rfl⟩⟩

theorem guides_fetchViaYtdlp (track : Track) :
    Guides (downloading track.id) (fetchViaYtdlp track) (Fetches track.id) := by
  refine Program.Obeys.perform trivial fun found => ?_
  cases found with
  | file fetched => exact guides_storeFetched track fetched
  | noMatch => exact Or.inl ⟨rfl, rfl⟩
  | error message => exact Or.inl ⟨rfl, rfl⟩

theorem guides_fetchTrack (track : Track) :
    Guides (downloading track.id) (fetchTrack track) (Fetches track.id) := by
  refine Program.Obeys.perform trivial ?_
  rintro (_ | _)
  · exact guides_fetchViaYtdlp track
  · refine Program.Obeys.perform trivial fun found => ?_
    cases found with
    | none => exact guides_fetchViaYtdlp track
    | some fetched => exact guides_storeFetched track fetched

theorem guides_prepareInner (track : Track) :
    Guides (due track.id) (prepareInner track) fun result phase =>
      phase = done track.id result := by
  refine Program.Obeys.perform rfl fun _ => Program.Obeys.bind ?_
  refine (guides_fetchTrack track).mono fun result phase fetched => ?_
  exact ⟨fetched, fun _ => rfl⟩

theorem guides_downloadOnce (track : Track) :
    Guides (locked track.id) (downloadOnce track) fun result phase =>
      phase = done track.id result := by
  refine Program.Obeys.perform (Or.inr rfl) fun path => ?_
  cases path with
  | some path => rfl
  | none =>
      refine Program.Obeys.perform (Or.inr rfl) ?_
      rintro (_ | _)
      · exact guides_prepareInner track
      · rfl

theorem guides_settle (id : String) (result : Result) :
    Guides (settling id result) (settle id result) fun _ phase =>
      phase = settled id ∨ phase = settling id (.error .busy) := by
  match result with
  | .ok path => exact ⟨⟨path, rfl⟩, fun _ => Or.inl rfl⟩
  | .error .noSource => exact ⟨⟨_, rfl, rfl⟩, fun _ => Or.inl rfl⟩
  | .error (.failed _) => exact ⟨⟨_, rfl, rfl⟩, fun _ => Or.inl rfl⟩
  | .error .busy => exact Or.inr rfl

theorem guides_executePrepare (track : Track) :
    Guides (leading track.id) (executePrepare track) fun _ _ => True := by
  refine Program.Obeys.perform ⟨track.id, rfl⟩ fun _ => Program.Obeys.bind ?_
  refine (guides_downloadOnce track).mono ?_
  rintro result _ rfl
  refine Program.Obeys.perform ⟨track.id, result, rfl⟩ fun _ => Program.Obeys.bind ?_
  refine (guides_settle track.id result).mono fun _ phase settled => ?_
  exact ⟨settled, fun _ => trivial⟩

theorem guides_followPrepare (track : Track) (leader : Nat) :
    Guides away (followPrepare track leader) fun _ _ => True := by
  refine Program.Obeys.perform rfl fun _ => Program.Obeys.perform (Or.inl rfl) fun path => ?_
  cases path <;> trivial

theorem guides_prepareTrack (track : Track) :
    Guides away (prepareTrack track) fun _ _ => True := by
  refine Program.Obeys.perform (Or.inl rfl) fun path => ?_
  cases path with
  | some path => trivial
  | none =>
      refine Program.Obeys.perform (Or.inl rfl) ?_
      rintro (_ | _)
      · refine Program.Obeys.perform rfl fun leader => ?_
        cases leader with
        | none => exact guides_executePrepare track
        | some leader => exact guides_followPrepare track leader
      · trivial

theorem guides_accept (request : Request) :
    Guides away (accept request) fun _ _ => True := by
  cases request with
  | prepare track =>
      exact Program.Obeys.bind ((guides_prepareTrack track).mono fun _ _ _ => trivial)
  | cached | cooling => exact ⟨Or.inl rfl, fun _ => trivial⟩

end Phase

end Togewire.Audio
