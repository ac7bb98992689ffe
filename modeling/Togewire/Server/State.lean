import Togewire.Cache.Manager
import Togewire.Foundation.Program
import Togewire.Stream.Manager
import Togewire.Types

/-!
# The server's shared state

`AppState` and the operations its users perform on it, each under one lock acquisition.  The tasks
of the server are programs over these operations, so an interleaving can switch between any two of
them.  Answers which come from outside the program (Spotify, a download, a request body, the disk
under the configuration) are part of the input of a step.
-/

namespace Togewire.Server

open Interleaving

/-- Local variables of `spotify_monitor_worker`, as they stand between two polls. -/
structure Monitor where
  lastTrackId : Option String := none
  lastPlaying : Bool := false
  lastProgress : Int := 0
  consecutiveErrors : Nat := 0
  fastPolls : Nat := 0
  nearEndPolls : Nat := 0
  /-- Milliseconds until the next poll. -/
  interval : Nat := 0
  deriving DecidableEq

/-- The monitor's local variables agree with what it has reported. -/
def Synced (current : Option SpotifyState) (m : Monitor) : Prop :=
  match current with
  | none => m.lastTrackId = none
  | some s => ∃ track, s.track = some track ∧ m.lastTrackId = some track.id ∧
      m.lastPlaying = s.isPlaying

theorem Synced.congr {current : Option SpotifyState} {before after : Monitor}
    (synced : Synced current before) (same_id : after.lastTrackId = before.lastTrackId)
    (same_playing : after.lastPlaying = before.lastPlaying) : Synced current after := by
  cases current with
  | none => exact same_id.trans synced
  | some s =>
      obtain ⟨track, reports, last_id, last_playing⟩ := synced
      exact ⟨track, reports, same_id.trans last_id, same_playing.trans last_playing⟩

/-- The state shared by the monitor, the prepare tasks and the request handlers. -/
structure AppState where
  current : Option SpotifyState
  streamManager : Stream.Manager
  cache : Cache.Manager
  /-- Tracks for which a prepare is in flight. -/
  preparing : String → Bool
  /-- Tracks within their failure cooldown. -/
  failed : String → Bool
  /-- The connected togedemon's token, named after its handler. -/
  togedemonCancel : Option Nat
  cancelled : Nat → Bool
  playerEnabled : Bool
  authenticated : Bool
  now : Int
  monitor : Monitor
  /-- The poll which is running, as the monitor is one loop. -/
  polling : Option Nat
  /-- Prepare tasks which have been spawned and not begun. -/
  spawned : List Track
  /-- History: the paths `get_path` and `prepare_track` have returned, with the track ids. -/
  served : List (String × String)
  /-- History: how often a togedemon has taken the slot. -/
  takeovers : Nat
  /-- History: that count at each task's last access of the slot. -/
  slotSeen : Nat → Nat

/-- What a task that asks `togedemon_live` is about to do unless one is live. -/
inductive Look
  | play
  | stop
  deriving DecidableEq

/-- One atomic operation on the shared state. -/
inductive Op
  | readMonitor
  | endPoll (monitor : Monitor)
  | isAuthenticated
  | getCurrentTrack
  | elapsed
  | readCurrent
  | writeCurrent (current : Option SpotifyState)
  | getCachedPath (track : Track)
  | isPreparing (track : Track)
  | recentlyFailed (track : Track)
  | spawnPrepare (track : Track)
  | prepareTrack (track : Track)
  | playerEnabled
  | setPlayerEnabled (enabled : Bool)
  | hasTrack
  | playTrack (filePath : String) (seekMs : Int)
  | playLive
  | stop
  | togedemonLive (look : Look)
  | takeSlot
  | pump (pipe : Nat)
  | releaseSlot
  | dropTogedemon

/-- What each operation answers. -/
def Op.Answer : Op → Type
  | readMonitor => Monitor
  | getCurrentTrack | readCurrent => Option SpotifyState
  | elapsed => Int
  | getCachedPath _ | prepareTrack _ => Option String
  | playLive => Nat
  | isAuthenticated | isPreparing _ | recentlyFailed _ | playerEnabled | setPlayerEnabled _
  | hasTrack | togedemonLive _ | pump _ | releaseSlot => Bool
  | endPoll _ | writeCurrent _ | spawnPrepare _ | playTrack _ _ | stop | takeSlot
  | dropTogedemon => Unit

abbrev signature : Signature := ⟨Op, Op.Answer⟩

abbrev Task := Program signature

/-- What the outside world contributes to a step. -/
structure Input where
  /-- Spotify's answer to a poll, absent on an error. -/
  polled : Option SpotifyState := none
  /-- Milliseconds since the last poll. -/
  elapsed : Int := 0
  /-- What `prepare_track` returns, absent on an error. -/
  prepared : Option String := none
  /-- Whether the configuration file can be written. -/
  saved : Bool := true
  /-- Whether a request body has ended. -/
  bodyEnded : Bool := true

namespace AppState

/-- Note the path a track was served with. -/
def serve (state : AppState) (track : Track) (path : Option String) : AppState :=
  { state with served := (path.map fun filePath => (track.id, filePath)).toList ++ state.served }

/-- Note an access of the slot. -/
def see (state : AppState) (actor : Nat) : AppState :=
  { state with slotSeen := Function.update state.slotSeen actor state.takeovers }

/-- Cancel the token in the slot, if any. -/
def cancelSlot (state : AppState) : AppState :=
  match state.togedemonCancel with
  | none => state
  | some old => { state with cancelled := Function.update state.cancelled old true }

theorem cancelSlot_eq (state : AppState) :
    state.cancelSlot = { state with cancelled := state.cancelSlot.cancelled } := by
  rw [cancelSlot]
  split <;> rfl

/-- Replace the slot's token by one's own and cancel the old one, under one lock. -/
def takeSlot (state : AppState) (actor : Nat) : AppState :=
  { state.cancelSlot with
    togedemonCancel := some actor
    takeovers := state.takeovers + 1 }.see actor

/-- Empty the slot unless superseded, under one lock. -/
def releaseSlot (state : AppState) (actor : Nat) : Bool × AppState :=
  if state.cancelled actor then
    (false, state.see actor)
  else
    (true, { state with togedemonCancel := none }.see actor)

/-- Take the token out of the slot and cancel it. -/
def dropTogedemon (state : AppState) (actor : Nat) : AppState :=
  { state.cancelSlot with togedemonCancel := none }.see actor

/-- Look a track up in the cache. -/
def getCachedPath (state : AppState) (track : Track) : Option String × AppState :=
  let (path, cache) := state.cache.getPath track.id state.now
  (path, { state with cache := cache }.serve track path)

/-- The effect of one operation of a task.  Only the running poll has the monitor's local variables,
and a pump ends with its body, its token or its pipe. -/
def perform (state : AppState) (actor : Nat) (op : Op) (input : Input) :
    Option (op.Answer × AppState) :=
  match op with
  | .readMonitor => if state.polling = some actor then some (state.monitor, state) else none
  | .endPoll monitor => some ((), { state with monitor := monitor, polling := none })
  | .isAuthenticated => some (state.authenticated, state)
  | .getCurrentTrack => some (input.polled, state)
  | .elapsed => some (input.elapsed, state)
  | .readCurrent => some (state.current, state)
  | .writeCurrent current => some ((), { state with current := current })
  | .getCachedPath track => some (state.getCachedPath track)
  | .isPreparing track => some (state.preparing track.id, state)
  | .recentlyFailed track => some (state.failed track.id, state)
  | .spawnPrepare track => some ((), { state with spawned := state.spawned ++ [track] })
  | .prepareTrack track => some (input.prepared, state.serve track input.prepared)
  | .playerEnabled => some (state.playerEnabled, state)
  | .setPlayerEnabled enabled => some (input.saved, { state with playerEnabled := enabled })
  | .hasTrack => some (state.streamManager.hasTrack, state)
  | .playTrack filePath seekMs =>
      some ((), { state with streamManager := state.streamManager.playTrack filePath seekMs })
  | .playLive =>
      let streamManager := state.streamManager.playLive
      some (streamManager.generation, { state with streamManager := streamManager })
  | .stop => some ((), { state with streamManager := state.streamManager.stop })
  | .togedemonLive _ => some (state.togedemonCancel.isSome, state.see actor)
  | .takeSlot => some ((), state.takeSlot actor)
  | .pump pipe =>
      if input.bodyEnded ∨ state.cancelled actor ∨ (state.streamManager.pipes pipe).shutdown then
        some (input.bodyEnded, state)
      else
        none
  | .releaseSlot => some (state.releaseSlot actor)
  | .dropTogedemon => some ((), state.dropTogedemon actor)

end AppState

end Togewire.Server
