import Togewire.Server.State

/-!
# The server's tasks

The monitor's poll, the prepare tasks and the two handlers which start or stop the stream, each a
program over the shared state.  Broadcasts to listeners and prewarming, which change neither the
stream nor what a task decides, are left out.
-/

namespace Togewire.Server

open Interleaving Register

/-! ## Operations -/

def ask (op : Op) : Task op.Answer := Program.perform (S := signature) op

def readMonitor : Task Monitor := ask .readMonitor
def endPoll (monitor : Monitor) : Task Unit := ask (.endPoll monitor)
def isAuthenticated : Task Bool := ask .isAuthenticated
def getCurrentTrack : Task (Option SpotifyState) := ask .getCurrentTrack
def elapsed : Task Int := ask .elapsed
def readCurrent : Task (Option SpotifyState) := ask .readCurrent
def writeCurrent (current : Option SpotifyState) : Task Unit :=
  ask (.writeCurrent current)
def getCachedPath (track : Track) : Task (Option String) := ask (.getCachedPath track)
def isPreparing (track : Track) : Task Bool := ask (.isPreparing track)
def recentlyFailed (track : Track) : Task Bool := ask (.recentlyFailed track)
def spawnPrepare (track : Track) : Task Unit := ask (.spawnPrepare track)
def prepareTrack (track : Track) : Task (Option String) := ask (.prepareTrack track)
def playerEnabled : Task Bool := ask .playerEnabled
def setPlayerEnabled (enabled : Bool) : Task Bool := ask (.setPlayerEnabled enabled)
def hasTrack : Task Bool := ask .hasTrack
def playTrack (filePath : String) (seekMs : Int) : Task Unit :=
  ask (.playTrack filePath seekMs)
def playLive : Task Nat := ask .playLive
def stop : Task Unit := ask .stop
def togedemonLive (look : Look) : Task Bool := ask (.togedemonLive look)
def takeSlot : Task Unit := ask .takeSlot
def pump (pipe : Nat) : Task Bool := ask (.pump pipe)
def releaseSlot : Task Bool := ask .releaseSlot
def dropTogedemon : Task Unit := ask .dropTogedemon

/-! ## Starting and stopping the stream -/

/-- `NEW_TRACK_INTRO_GRACE_MS`. -/
def newTrackIntroGraceMs : Int := 2500

/-- Where to start a track Spotify reports at a position. -/
def effectiveSeekMs (progress : Int) : Int :=
  if progress < newTrackIntroGraceMs then 0 else progress

/-- Play a cached file if one should be streaming now (playing, player on, no togedemon). -/
def maybePlay (path : String) (s : SpotifyState) : Task Bool := do
  if s.isPlaying then
    if ← togedemonLive .play then
      pure false
    else if ← playerEnabled then
      playTrack path (effectiveSeekMs s.progress)
      pure true
    else
      pure false
  else
    pure false

/-- `maybe_play` on a cached path, if there is one. -/
def maybePlayCached (path : Option String) (s : SpotifyState) : Task Bool :=
  match path with
  | none => pure false
  | some path => maybePlay path s

/-- `stop` unless a togedemon is live. -/
def stopUnlessLive : Task Unit := do
  if ← togedemonLive .stop then
    pure ()
  else
    stop

/-- Point the stream at a new current track: its cached file, or quiet until prepared. -/
def switchTrack (s : SpotifyState) (track : Track) : Task Unit := do
  let path ← getCachedPath track
  let played ← maybePlayCached path s
  if played then
    pure ()
  else
    stopUnlessLive

/-- Play the current track if it is cached. -/
def startStreamIfPlaying : Task Unit := do
  match ← readCurrent with
  | none => pure ()
  | some s =>
      match s.track with
      | none => pure ()
      | some track => do
          let path ← getCachedPath track
          let _ ← maybePlayCached path s

/-! ## Prepare tasks -/

/-- Start caching the current track unless it is cached, in flight or cooling down. -/
def prepareCurrent (track : Track) : Task Unit := do
  match ← getCachedPath track with
  | some _ => pure ()
  | none =>
      if ← isPreparing track then
        pure ()
      else if ← recentlyFailed track then
        pure ()
      else
        spawnPrepare track

/-- Whether the current track leaves the download to the next one. -/
def yieldsDownload (current : Track) : Task Bool := do
  match ← getCachedPath current with
  | some _ => pure true
  | none => recentlyFailed current

/-- Start caching the next track once the current one is cached or cannot be. -/
def prefetchNext (current : Track) (next : Option Track) : Task Unit :=
  match next with
  | none => pure ()
  | some next => do
      if ← yieldsDownload current then
        match ← getCachedPath next with
        | some _ => pure ()
        | none =>
            if ← isPreparing next then
              pure ()
            else if ← recentlyFailed next then
              pure ()
            else
              spawnPrepare next
      else
        pure ()

/-- The task of `spawn_prepare`: once the track is cached it plays if it is current by then. -/
def runPrepare (track : Track) : Task Unit := do
  match ← prepareTrack track with
  | none => pure ()
  | some path =>
      match ← readCurrent with
      | none => pure ()
      | some s =>
          if s.track.any fun other => other.id = track.id then
            if ← hasTrack then
              pure ()
            else do
              let _ ← maybePlay path s
          else
            pure ()

/-! ## The monitor -/

/-- `POLL_INTERVAL_STEADY`, in milliseconds. -/
def pollIntervalSteady : Nat := 750

/-- `POLL_INTERVAL_FAST`, in milliseconds. -/
def pollIntervalFast : Nat := 250

/-- `POLL_INTERVAL_IDLE`, in milliseconds. -/
def pollIntervalIdle : Nat := 1000

/-- `SEEK_DRIFT_MS`: progress further than this from the expected one counts as a seek. -/
def seekDriftMs : Int := 3000

/-- Milliseconds to wait after a number of consecutive errors: 5s doubling to 5min. -/
def errorBackoff (consecutiveErrors : Nat) : Nat :=
  min (1000 * (5 * 2 ^ (min consecutiveErrors 7 - 1))) 300000

/-- The interval to the next poll, with the updated `near_end_polls` and `fast_polls`. -/
def computePollInterval (isPlaying : Bool) (duration progress : Int)
    (nearEndPolls fastPolls : Nat) : Nat × Nat × Nat :=
  let remaining := wrap (duration - progress)
  let nearEnd := isPlaying ∧ 0 < duration ∧ (0 ≤ remaining ∧ remaining ≤ 2500) ∧ nearEndPolls < 8
  let nearEndPolls :=
    if nearEnd then
      nearEndPolls + 1
    else if ¬(-1000 ≤ remaining ∧ remaining ≤ 2500) then
      0
    else
      nearEndPolls
  if isPlaying = false then
    (pollIntervalIdle, 0, fastPolls)
  else if nearEnd then
    (pollIntervalFast, nearEndPolls, fastPolls)
  else if 0 < fastPolls then
    (pollIntervalFast, nearEndPolls, fastPolls - 1)
  else
    (pollIntervalSteady, nearEndPolls, fastPolls)

/-- The end of a poll that reported a track. -/
def concludePoll (m : Monitor) (s : SpotifyState) (track : Track) : Task Unit := do
  prefetchNext track s.nextTrack
  prepareCurrent track
  let (interval, nearEndPolls, fastPolls) :=
    computePollInterval s.isPlaying track.duration s.progress m.nearEndPolls m.fastPolls
  endPoll
    { m with
      lastTrackId := some track.id
      lastProgress := s.progress
      lastPlaying := s.isPlaying
      nearEndPolls := nearEndPolls
      fastPolls := fastPolls
      interval := interval }

/-- A poll that reports no track. -/
def pollNothing (m : Monitor) : Task Unit := do
  writeCurrent none
  if m.lastTrackId.isSome then
    stopUnlessLive
    endPoll { m with lastTrackId := none, lastPlaying := false, interval := pollIntervalIdle }
  else
    endPoll { m with interval := pollIntervalIdle }

/-- How far the track has moved on since the last poll, in milliseconds. -/
def expectedProgress (m : Monitor) : Task Int := if m.lastPlaying then elapsed else pure 0

/-- How far the reported progress is from the expected one. -/
def drift (m : Monitor) (s : SpotifyState) (expected : Int) : Int :=
  wrap (wrap (wrap (s.progress - m.lastProgress) - expected)).natAbs

/-- Resynchronise the stream after a seek. -/
def followSeek (cached : Option String) (s : SpotifyState) (sought : Bool) : Task Unit :=
  if sought then do
    let _ ← maybePlayCached cached s
  else
    pure ()

/-- Follow a pause or resume, or start a stream that is missing: whether anything changed. -/
def followPlaying (m : Monitor) (cached : Option String) (s : SpotifyState) (sought : Bool) :
    Task Bool :=
  if s.isPlaying ≠ m.lastPlaying then
    if s.isPlaying then do
      let _ ← maybePlayCached cached s
      pure true
    else do
      stopUnlessLive
      pure true
  else do
    if ← hasTrack then
      pure sought
    else if cached.isSome then
      maybePlayCached cached s
    else
      pure sought

/-- A poll that reports the same track as the last one: whether anything but progress changed. -/
def pollSameTrack (m : Monitor) (s : SpotifyState) (track : Track) : Task Bool := do
  let expected ← expectedProgress m
  let cached ← getCachedPath track
  let sought := decide (seekDriftMs < drift m s expected)
  followSeek cached s sought
  followPlaying m cached s sought

/-- A poll that reports a track. -/
def pollTrack (m : Monitor) (s : SpotifyState) (track : Track) : Task Unit := do
  writeCurrent (some s)
  if m.lastTrackId ≠ some track.id then
    switchTrack s track
    concludePoll { m with fastPolls := 2, nearEndPolls := 0 } s track
  else
    let changed ← pollSameTrack m s track
    concludePoll (if changed then { m with fastPolls := 2 } else m) s track

/-- What a successful poll reports. -/
def pollReport (m : Monitor) (s : SpotifyState) : Task Unit :=
  match s.track with
  | none => pollNothing m
  | some track => pollTrack m s track

/-- One iteration of `spotify_monitor_worker`. -/
def spotifyMonitorPoll : Task Unit := do
  let m ← readMonitor
  if ← isAuthenticated then
    match ← getCurrentTrack with
    | some s => pollReport { m with consecutiveErrors := 0 } s
    | none =>
        endPoll
          { m with
            consecutiveErrors := m.consecutiveErrors + 1
            interval := errorBackoff (m.consecutiveErrors + 1) }
  else
    pollReport m {}

/-! ## Handlers -/

/-- The first part of `handle_togedemon_push`, after its token check: unless the player is off, take
the slot and switch to live input. -/
def connectTogedemon : Task (Option Nat) := do
  if ← playerEnabled then
    takeSlot
    let pipe ← playLive
    pure (some pipe)
  else
    pure none

/-- Fall back to the cache: the current track if cached, else quiet until prepared. -/
def fallBack : Task Unit := do
  match ← readCurrent with
  | none => pure ()
  | some s =>
      match s.track with
      | none => pure ()
      | some track => switchTrack s track

/-- The last part of `handle_togedemon_push`: leave the slot, unless superseded, and fall back. -/
def disconnectTogedemon : Task Unit := do
  if ← releaseSlot then
    stop
    fallBack
  else
    pure ()

/-- `handle_togedemon_push`: the body is pumped into the pipe until either ends. -/
def handleTogedemonPush : Task Unit := do
  match ← connectTogedemon with
  | none => pure ()
  | some pipe => do
      let _ ← pump pipe
      disconnectTogedemon

/-- `handle_admin_player`, up to its notifications. -/
def handleAdminPlayer (enabled : Bool) : Task Unit := do
  if ← setPlayerEnabled enabled then
    if enabled then
      startStreamIfPlaying
    else
      dropTogedemon
      stop
  else
    pure ()

/-! ## All tasks together -/

/-- What starts a task. -/
inductive Request
  | poll
  | prepare (track : Track)
  | push
  | player (enabled : Bool)

/-- A change which no modelled task makes. -/
inductive Change
  | cache (cache : Cache.Manager)
  | preparer (preparing failed : String → Bool)
  | account (authenticated : Bool)
  | clock (now : Int)

namespace AppState

/-- Start a task.  The monitor is one loop, so its next poll waits for the last one. -/
def accept (state : AppState) (actor : Nat) : Request → Option (Task Unit × AppState)
  | .poll =>
      if state.polling = none then
        some (spotifyMonitorPoll, { state with polling := some actor })
      else
        none
  | .prepare track =>
      if track ∈ state.spawned then
        some (runPrepare track, { state with spawned := state.spawned.erase track })
      else
        none
  | .push => some (handleTogedemonPush, state)
  | .player enabled => some (handleAdminPlayer enabled, state)

theorem accept_eq {state after : AppState} {actor : Nat} {request : Request} {task : Task Unit}
    (accepted : state.accept actor request = some (task, after)) :
    after = { state with polling := after.polling, spawned := after.spawned } := by
  cases request with
  | poll | prepare =>
      obtain ⟨-, -, rfl⟩ := Transition.of_guarded_answer accepted
      rfl
  | push | player =>
      obtain ⟨-, rfl⟩ := Prod.mk.inj (Option.some.inj accepted)
      rfl

def outside (state : AppState) : Change → AppState
  | .cache cache => { state with cache := cache }
  | .preparer preparing failed => { state with preparing := preparing, failed := failed }
  | .account authenticated => { state with authenticated := authenticated }
  | .clock now => { state with now := now }

/-- `create_server` over a loaded cache and configuration. -/
def createServer (cache : Cache.Manager) (playerEnabled authenticated : Bool) (now : Int) :
    AppState where
  current := none
  streamManager := .new
  cache := cache
  preparing _ := false
  failed _ := false
  togedemonCancel := none
  cancelled _ := false
  playerEnabled := playerEnabled
  authenticated := authenticated
  now := now
  monitor := {}
  polling := none
  spawned := []
  served := []
  takeovers := 0
  slotSeen _ := 0

/-- The server starts with nothing playing. -/
def Fresh (state : AppState) : Prop :=
  ∃ cache playerEnabled authenticated now,
    state = createServer cache playerEnabled authenticated now

/-- A paired server with its player on and nothing cached. -/
def bare : AppState := createServer .bare true true 0

theorem bare_fresh : bare.Fresh := ⟨_, true, true, 0, rfl⟩

end AppState

/-- The server under arbitrary interleavings of its tasks. -/
def machine : Machine signature AppState Request Input Change where
  initial := AppState.Fresh
  accept := AppState.accept
  perform := AppState.perform
  outside state change := some (state.outside change)

/-- A cache with one track. -/
def oneEntry : Cache.Manager where
  maxBytes := Cache.maxBytes 64
  entries := AList.insert "a" ⟨0, "a.ogg", 3, "144k", false⟩ ∅
  order := ["a"]
  totalSizeBytes := 3
  disk :=
    { files := fun path => if path = "a.ogg" then some 3 else none
      metadata := none
      writable := true
      stale := false }
  clamped := false

/-- The bare server with no task started. -/
def bareServer {τ : Type} (discipline : Discipline signature τ) : Pool signature AppState τ :=
  Machine.boot discipline AppState.bare

theorem bareServer_initial {τ : Type} (discipline : Discipline signature τ) :
    (machine.system discipline).initial (bareServer discipline) :=
  ⟨_, AppState.bare_fresh, rfl⟩

end Togewire.Server
