import Mathlib.Data.List.Perm.Basic
import Togewire.Foundation.Program
import Togewire.Types

/-!
# Track updates

The monitor writes what is playing and then tells every client; a connecting socket, and whoever
rebroadcasts, sends a copy of what it has read.  As long as no copy is queued after the report it
holds has been replaced and announced to that client, the last update of every client is about what
is playing.
-/

namespace Togewire.Server.Updates

open Interleaving Transition

/-- The track and the playing flag an update shows. -/
abbrev Shown := Option String × Bool

/-- A `track_update`, as far as it is made from a report. -/
structure Frame where
  track : Option Track
  progress : Int
  isPlaying : Bool

/-- What a page shows of a frame: which track, and whether it plays. -/
def Frame.shown (frame : Frame) : Shown := (frame.track.map Track.id, frame.isPlaying)

/-- `track_update_message` -/
def trackUpdateMessage (s : SpotifyState) : Frame where
  track := s.track
  progress := if s.track.isSome then s.progress else 0
  isPlaying := s.track.isSome && s.isPlaying

/-- What the current state amounts to. -/
def shownOf : Option SpotifyState → Shown
  | none => (none, false)
  | some s => (trackUpdateMessage s).shown

/-- What the monitor's last poll amounts to. -/
def polled (lastTrackId : Option String) (lastPlaying : Bool) : Shown :=
  (lastTrackId, lastTrackId.isSome && lastPlaying)

theorem shown_of_track {s : SpotifyState} {track : Track} (found : s.track = some track) :
    (trackUpdateMessage s).shown = polled (some track.id) s.isPlaying := by
  simp [trackUpdateMessage, Frame.shown, polled, found]

theorem shown_of_nothing {s : SpotifyState} (nothing : s.track = none) :
    (trackUpdateMessage s).shown = (none, false) := by
  simp [trackUpdateMessage, Frame.shown, nothing]

/-! ## Operations -/

/-- What sockets, the monitor and rebroadcasts share. -/
structure Feed where
  current : Option SpotifyState
  wsClients : List Nat
  /-- The tasks which go through the clients under the read lock. -/
  readers : List Nat
  nextId : Nat
  /-- What has been queued to each client, the last frame first. -/
  queue : Nat → List Frame
  /-- The poll under way. -/
  monitor : Option Nat
  lastTrackId : Option String
  lastPlaying : Bool
  /-- History: the clients which the monitor has not told yet that the report has changed. -/
  owed : Nat → Bool

/-- The operations of the monitor, sockets and broadcasts. -/
inductive Op
  | startPoll
  | writeCurrent (current : Option SpotifyState)
  | readMonitor
  | resync
  | endPoll (lastTrackId : Option String) (lastPlaying : Bool)
  | readCurrent
  | playsCached
  | lockClients
  | trySend (id : Nat) (frame : Frame)
  | unlockClients
  | nextId
  | insertClient (id : Nat)
  | serve (id : Nat)
  | removeClient (id : Nat)

def Op.Answer : Op → Type
  | readMonitor => Option String × Bool
  | readCurrent => Option SpotifyState
  | lockClients => List Nat
  | nextId => Nat
  | resync | playsCached => Bool
  | startPoll | writeCurrent _ | endPoll _ _ | trySend _ _ | unlockClients | insertClient _
  | serve _ | removeClient _ => Unit

abbrev signature : Signature := ⟨Op, Op.Answer⟩

abbrev Task := Program signature

/-- What the outside world contributes to a step. -/
structure Input where
  /-- Whether a seek, a started file or the interval calls for an update of the same track. -/
  resync : Bool := false
  /-- Whether a file starts to play. -/
  plays : Bool := false
  /-- In which order a map of clients is gone through. -/
  order : List Nat := []
  /-- Whether the peer of a socket has gone. -/
  closed : Bool := false

namespace Feed

/-- What is playing. -/
def showing (feed : Feed) : Shown := shownOf feed.current

/-- What the last poll has found. -/
def known (feed : Feed) : Shown := polled feed.lastTrackId feed.lastPlaying

/-- The monitor writes a report, and owes every client an update if that shows something else. -/
def writeCurrent (feed : Feed) (current : Option SpotifyState) : Feed :=
  { feed with
    current := current
    owed := if shownOf current = feed.showing then feed.owed else fun _ => true }

/-- Queue a frame. -/
def trySend (feed : Feed) (actor id : Nat) (frame : Frame) : Feed :=
  { feed with
    queue := Function.update feed.queue id (frame :: feed.queue id)
    owed := if feed.monitor = some actor then Function.update feed.owed id false else feed.owed }

/-- Let go of the clients. -/
def unlockClients (feed : Feed) (actor : Nat) : Feed :=
  { feed with
    readers := feed.readers.erase actor
    owed := if feed.monitor = some actor then fun _ => false else feed.owed }

/-- The effect of one operation.  Clients come and go while nobody goes through them. -/
def perform (feed : Feed) (actor : Nat) (op : Op) (input : Input) : Option (op.Answer × Feed) :=
  match op with
  | .startPoll =>
      if feed.monitor = none then some ((), { feed with monitor := some actor }) else none
  | .writeCurrent current => some ((), feed.writeCurrent current)
  | .readMonitor => some ((feed.lastTrackId, feed.lastPlaying), feed)
  | .resync => some (input.resync, feed)
  | .endPoll lastTrackId lastPlaying =>
      some ((), { feed with
        monitor := none
        lastTrackId := lastTrackId
        lastPlaying := lastPlaying })
  | .readCurrent => some (feed.current, feed)
  | .playsCached => some (input.plays, feed)
  | .lockClients =>
      if input.order.Perm feed.wsClients then
        some (input.order, { feed with readers := actor :: feed.readers })
      else
        none
  | .trySend id frame => some ((), feed.trySend actor id frame)
  | .unlockClients => some ((), feed.unlockClients actor)
  | .nextId => some (feed.nextId, { feed with nextId := feed.nextId + 1 })
  | .insertClient id =>
      if feed.readers = [] then
        some ((), { feed with
          wsClients := id :: feed.wsClients
          queue := Function.update feed.queue id [] })
      else
        none
  | .serve id => if input.closed ∨ id ∉ feed.wsClients then some ((), feed) else none
  | .removeClient id =>
      if feed.readers = [] then
        some ((), { feed with wsClients := feed.wsClients.erase id })
      else
        none

end Feed

/-! ## Tasks -/

def ask (op : Op) : Task op.Answer := Program.perform (S := signature) op

def startPoll : Task Unit := ask .startPoll
def writeCurrent (current : Option SpotifyState) : Task Unit := ask (.writeCurrent current)
def readMonitor : Task (Option String × Bool) := ask .readMonitor
def resync : Task Bool := ask .resync
def endPoll (lastTrackId : Option String) (lastPlaying : Bool) : Task Unit :=
  ask (.endPoll lastTrackId lastPlaying)
def readCurrent : Task (Option SpotifyState) := ask .readCurrent
def playsCached : Task Bool := ask .playsCached
def lockClients : Task (List Nat) := ask .lockClients
def trySend (id : Nat) (frame : Frame) : Task Unit := ask (.trySend id frame)
def unlockClients : Task Unit := ask .unlockClients
def nextId : Task Nat := ask .nextId
def insertClient (id : Nat) : Task Unit := ask (.insertClient id)
def serve (id : Nat) : Task Unit := ask (.serve id)
def removeClient (id : Nat) : Task Unit := ask (.removeClient id)

/-- A frame goes to these clients, one after the other. -/
def sendAll (frame : Frame) : List Nat → Task Unit
  | [] => pure ()
  | id :: rest => do
      trySend id frame
      sendAll frame rest

/-- Send one frame to every client. -/
def broadcastTrackUpdate (s : SpotifyState) : Task Unit := do
  let clients ← lockClients
  sendAll (trackUpdateMessage s) clients
  unlockClients

/-- Re-send the current state. -/
def rebroadcast : Task Unit := do
  match ← readCurrent with
  | none => pure ()
  | some s => broadcastTrackUpdate s

/-- The end of a togedemon: the stream falls back to the current track. -/
def fallBack : Task Unit := do
  match ← readCurrent with
  | none => pure ()
  | some s => if s.track.isSome then broadcastTrackUpdate s else pure ()

/-- `start_stream_if_playing`, as far as it tells the clients. -/
def startStreamIfPlaying : Task Unit := do
  match ← readCurrent with
  | none => pure ()
  | some s =>
      if s.track.isSome then
        if ← playsCached then
          broadcastTrackUpdate s
        else
          pure ()
      else
        pure ()

/-- The snapshot of a new client. -/
def greet (id : Nat) : Option SpotifyState → Task Unit
  | none => pure ()
  | some s => if s.track.isSome then trySend id (trackUpdateMessage s) else pure ()

/-- `handle_socket`: a client is registered, and then gets its snapshot. -/
def handleSocket : Task Unit := do
  let id ← nextId
  insertClient id
  greet id (← readCurrent)
  serve id
  removeClient id

/-- A report without a track, after the last poll. -/
def pollNothing (s : SpotifyState) (last : Option String × Bool) : Task Unit :=
  if last.1.isSome then do
    broadcastTrackUpdate s
    endPoll none false
  else
    endPoll none last.2

/-- A report of a track, after the last poll. -/
def pollTrack (s : SpotifyState) (track : Track) (last : Option String × Bool) : Task Unit :=
  if last.1 ≠ some track.id then do
    broadcastTrackUpdate s
    endPoll (some track.id) s.isPlaying
  else do
    let changed ← resync
    if s.isPlaying ≠ last.2 ∨ changed = true then
      broadcastTrackUpdate s
      endPoll (some track.id) s.isPlaying
    else
      endPoll (some track.id) s.isPlaying

/-- What one round of `spotify_monitor_worker` does with a report. -/
def spotifyMonitorPoll (s : SpotifyState) : Task Unit := do
  startPoll
  match s.track with
  | none =>
      writeCurrent none
      pollNothing s (← readMonitor)
  | some track =>
      writeCurrent (some s)
      pollTrack s track (← readMonitor)

inductive Request
  | poll (s : SpotifyState)
  | socket
  | rebroadcast
  | fallBack
  | startStream

def accept : Request → Task Unit
  | .poll s => spotifyMonitorPoll s
  | .socket => handleSocket
  | .rebroadcast => rebroadcast
  | .fallBack => fallBack
  | .startStream => startStreamIfPlaying

/-- Nothing plays at startup. -/
def Feed.start : Feed where
  current := none
  wsClients := []
  readers := []
  nextId := 0
  queue _ := []
  monitor := none
  lastTrackId := none
  lastPlaying := false
  owed _ := false

/-- All orders of polls, sockets and rebroadcasts.  From outside all clients can be dropped. -/
def machine : Machine signature Feed Request Input Unit where
  initial feed := feed = .start
  accept feed _ request := some (accept request, feed)
  perform := Feed.perform
  outside feed _ := if feed.readers = [] then some { feed with wsClients := [] } else none

/-! ## What each task has done -/

/-- How far a poll has come, with what it has written. -/
inductive Stage
  | idle
  | polling
  | wrote (shown : Shown)
  | knows (shown : Shown) (lastTrackId : Option String) (lastPlaying : Bool)
  | telling (shown : Shown) (remaining : List Nat)
  | told (shown : Shown)

structure Trace where
  stage : Stage := .idle
  /-- It has the read lock of the clients. -/
  reads : Bool := false
  /-- The client whose snapshot is still to come. -/
  greets : Option Nat := none

namespace Trace

def next (trace : Trace) : (op : Op) → op.Answer → Trace
  | .startPoll, _ => { trace with stage := .polling }
  | .writeCurrent current, _ => { trace with stage := .wrote (shownOf current) }
  | .readMonitor, last =>
      { trace with
        stage := match trace.stage with
          | .wrote shown => .knows shown last.1 last.2
          | stage => stage }
  | .endPoll _ _, _ => { trace with stage := .idle }
  | .lockClients, clients =>
      { trace with
        reads := true
        stage := match trace.stage with
          | .knows shown _ _ => .telling shown clients
          | stage => stage }
  | .trySend id _, _ =>
      { trace with
        greets := if trace.greets = some id then none else trace.greets
        stage := match trace.stage with
          | .telling shown remaining => .telling shown remaining.tail
          | stage => stage }
  | .unlockClients, _ =>
      { trace with
        reads := false
        stage := match trace.stage with
          | .telling shown _ => .told shown
          | stage => stage }
  | .insertClient id, _ => { trace with greets := some id }
  | .readCurrent, current =>
      { trace with
        greets := if (current.bind SpotifyState.track).isSome then trace.greets else none }
  | _, _ => trace

/-- A poll writes what it has read, tells all clients what they may not know, and ends. -/
def Allows (trace : Trace) : Op → Prop
  | .startPoll | .insertClient _ => trace = {}
  | .writeCurrent _ => trace = { stage := .polling }
  | .readMonitor => ∃ shown, trace = { stage := .wrote shown }
  | .endPoll lastTrackId lastPlaying =>
      trace = { stage := .told (polled lastTrackId lastPlaying) } ∨
        ∃ last playing, trace = { stage := .knows (polled lastTrackId lastPlaying) last playing } ∧
          polled last playing = polled lastTrackId lastPlaying
  | .lockClients =>
      trace = {} ∨ ∃ shown last playing, trace = { stage := .knows shown last playing }
  | .trySend id frame =>
      trace.stage = .idle ∨
        ∃ rest, trace = { stage := .telling frame.shown (id :: rest), reads := true }
  | .unlockClients =>
      trace = { reads := true } ∨ ∃ shown, trace = { stage := .telling shown [], reads := true }
  | .readCurrent => trace.stage = .idle
  | _ => True

end Trace

def discipline : Discipline signature Trace where
  start := {}
  next := Trace.next
  allows := Trace.Allows

namespace Trace

abbrev Guides {α : Type} (trace : Trace) (task : Task α) (finish : α → Trace → Prop) : Prop :=
  task.Obeys discipline trace finish

theorem guides_sendAll (frame : Frame) (clients : List Nat) :
    Guides { reads := true } (sendAll frame clients) fun _ after => after = { reads := true } := by
  induction clients with
  | nil => rfl
  | cons id rest ih => exact Program.Obeys.perform (Or.inl rfl) fun _ => ih

theorem guides_broadcast (s : SpotifyState) :
    Guides {} (broadcastTrackUpdate s) fun _ after => after = {} := by
  refine Program.Obeys.perform (Or.inl rfl) fun clients => Program.Obeys.bind ?_
  refine (guides_sendAll _ clients).mono ?_
  rintro _ _ rfl
  exact ⟨Or.inl rfl, fun _ => rfl⟩

/-- The monitor tells all clients what it has written. -/
theorem guides_sendAll_told {frame : Frame} {shown : Shown} (same : frame.shown = shown)
    (clients : List Nat) :
    Guides { stage := .telling shown clients, reads := true } (sendAll frame clients)
      fun _ after => after = { stage := .telling shown [], reads := true } := by
  induction clients with
  | nil => rfl
  | cons id rest ih =>
      refine Program.Obeys.perform (Or.inr ⟨rest, ?_⟩) fun _ => ih
      rw [same]

theorem guides_broadcast_told {s : SpotifyState} {shown : Shown}
    (same : (trackUpdateMessage s).shown = shown) (last : Option String) (playing : Bool) :
    Guides { stage := .knows shown last playing } (broadcastTrackUpdate s)
      fun _ after => after = { stage := .told shown } := by
  refine Program.Obeys.perform (Or.inr ⟨shown, last, playing, rfl⟩) fun clients =>
    Program.Obeys.bind ?_
  refine (guides_sendAll_told same clients).mono ?_
  rintro _ _ rfl
  exact ⟨Or.inr ⟨shown, rfl⟩, fun _ => rfl⟩

theorem guides_pollNothing {s : SpotifyState} (nothing : s.track = none)
    (last : Option String × Bool) :
    Guides { stage := .knows (none, false) last.1 last.2 } (pollNothing s last)
      fun _ _ => True := by
  unfold pollNothing
  split
  · apply Program.Obeys.bind
    refine (guides_broadcast_told (shown_of_nothing nothing) last.1 last.2).mono ?_
    rintro _ _ rfl
    exact ⟨Or.inl rfl, fun _ => trivial⟩
  · rename_i unknown
    refine ⟨Or.inr ⟨last.1, last.2, rfl, ?_⟩, fun _ => trivial⟩
    have none_eq : last.1 = none := by simpa using unknown
    simp [polled, none_eq]

theorem guides_pollTrack {s : SpotifyState} {track : Track} (found : s.track = some track)
    (last : Option String × Bool) :
    Guides { stage := .knows (polled (some track.id) s.isPlaying) last.1 last.2 }
      (pollTrack s track last) fun _ _ => True := by
  have told : Guides { stage := .knows (polled (some track.id) s.isPlaying) last.1 last.2 }
      (broadcastTrackUpdate s >>= fun _ => endPoll (some track.id) s.isPlaying)
        fun _ _ => True := by
    apply Program.Obeys.bind
    refine (guides_broadcast_told (shown_of_track found) last.1 last.2).mono ?_
    rintro _ _ rfl
    exact ⟨Or.inl rfl, fun _ => trivial⟩
  unfold pollTrack
  split
  · exact told
  · rename_i same
    refine Program.Obeys.perform trivial fun changed => ?_
    split
    · exact told
    · rename_i unchanged
      refine ⟨Or.inr ⟨last.1, last.2, rfl, ?_⟩, fun _ => trivial⟩
      have track_eq : last.1 = some track.id := by simpa using same
      have playing_eq : s.isPlaying = last.2 := by
        by_contra different
        exact unchanged (Or.inl different)
      rw [track_eq, playing_eq]

theorem guides_spotifyMonitorPoll (s : SpotifyState) :
    Guides {} (spotifyMonitorPoll s) fun _ _ => True := by
  refine Program.Obeys.perform rfl fun _ => ?_
  split
  · rename_i nothing
    refine Program.Obeys.perform rfl fun _ => Program.Obeys.perform ⟨_, rfl⟩ fun last => ?_
    exact guides_pollNothing nothing last
  · rename_i track found
    refine Program.Obeys.perform rfl fun _ => Program.Obeys.perform ⟨_, rfl⟩ fun last => ?_
    have polls := guides_pollTrack found last
    rw [← shown_of_track found] at polls
    exact polls

theorem guides_greet (id : Nat) (current : Option SpotifyState) :
    Guides { greets := if (current.bind SpotifyState.track).isSome then some id else none }
      (greet id current) fun _ after => after = {} := by
  cases current with
  | none => rfl
  | some s =>
      dsimp only [greet]
      cases found : s.track with
      | none =>
          rw [show (((some s).bind SpotifyState.track).isSome) = false by simp [found]]
          rfl
      | some track =>
          refine ⟨Or.inl rfl, fun _ => ?_⟩
          rw [show (((some s).bind SpotifyState.track).isSome) = true by simp [found]]
          exact congrArg (fun greets => Trace.mk .idle false greets) (if_pos rfl)

theorem guides_handleSocket : Guides {} handleSocket fun _ _ => True := by
  refine Program.Obeys.perform trivial fun id => ?_
  refine Program.Obeys.perform rfl fun _ => ?_
  refine Program.Obeys.perform rfl fun current => Program.Obeys.bind ?_
  refine (guides_greet id current).mono ?_
  rintro _ _ rfl
  exact Program.Obeys.perform trivial fun _ => ⟨trivial, fun _ => trivial⟩

theorem next_readCurrent (current : Option SpotifyState) :
    next {} .readCurrent current = {} := by
  simp [next]

theorem guides_readCurrent {rest : Option SpotifyState → Task Unit}
    (each : ∀ current, Guides {} (rest current) fun _ _ => True) :
    Guides {} (readCurrent >>= rest) fun _ _ => True := by
  refine Program.Obeys.perform rfl fun current => ?_
  rw [show discipline.next {} .readCurrent current = {} from next_readCurrent current]
  exact each current

theorem guides_accept (request : Request) : Guides {} (accept request) fun _ _ => True := by
  have sends : ∀ s, Guides {} (broadcastTrackUpdate s) fun _ _ => True :=
    fun s => (guides_broadcast s).mono fun _ _ _ => trivial
  cases request with
  | poll s => exact guides_spotifyMonitorPoll s
  | socket => exact guides_handleSocket
  | rebroadcast =>
      apply guides_readCurrent
      rintro (_ | s)
      · trivial
      · exact sends s
  | fallBack =>
      apply guides_readCurrent
      rintro (_ | s)
      · trivial
      · dsimp only
        split
        · exact sends s
        · trivial
  | startStream =>
      apply guides_readCurrent
      rintro (_ | s)
      · trivial
      · dsimp only
        split
        · refine Program.Obeys.perform trivial ?_
          rintro (_ | _)
          · trivial
          · exact sends s
        · trivial

end Trace

/-! ## Who knows what -/

namespace Feed

variable {feed after : Feed} {traces : Nat → Trace} {actor : Nat} {next : Trace} {id : Nat}

/-- The monitor owes nobody an update. -/
def Settled (feed : Feed) : Prop := ∀ id, feed.owed id = false

/-- What holds while a poll has come so far. -/
def Stands (feed : Feed) (trace : Trace) : Prop :=
  match trace.stage with
  | .idle => False
  | .polling => feed.known = feed.showing ∧ feed.Settled
  | .wrote shown => feed.showing = shown ∧ (feed.known = shown → feed.Settled)
  | .knows shown lastTrackId lastPlaying =>
      feed.showing = shown ∧ feed.known = polled lastTrackId lastPlaying ∧
        (feed.known = shown → feed.Settled)
  | .telling shown remaining =>
      feed.showing = shown ∧ trace.reads = true ∧
        ∀ id ∈ feed.wsClients, feed.owed id = true → id ∈ remaining
  | .told shown => feed.showing = shown ∧ feed.Settled

/-- The last frame of a client shows what is playing. -/
def Informed (feed : Feed) (id : Nat) : Prop :=
  ∀ frame, (feed.queue id).head? = some frame → frame.shown = feed.showing

/-- A client has been told something, if anything is playing. -/
def Greeted (feed : Feed) (id : Nat) : Prop := feed.queue id ≠ [] ∨ feed.showing = (none, false)

/-- The invariant of all interleavings. -/
structure Coherent (feed : Feed) (traces : Nat → Trace) : Prop where
  monitored : ∀ task, (traces task).stage ≠ .idle → feed.monitor = some task
  free : feed.monitor = none → feed.known = feed.showing ∧ feed.Settled
  stands : ∀ task, feed.monitor = some task → feed.Stands (traces task)
  reading : ∀ task, (traces task).reads = true → task ∈ feed.readers
  informed : ∀ id ∈ feed.wsClients, feed.owed id = true ∨ feed.Informed id
  greeted : ∀ id ∈ feed.wsClients, feed.owed id = true ∨ feed.Greeted id ∨
    ∃ task, (traces task).greets = some id

/-- A snapshot is still to come from another task than one which has none to send. -/
theorem other_greets (unread : (traces actor).greets = none)
    (greets : ∃ task, (traces task).greets = some id) :
    ∃ task, task ≠ actor ∧ (traces task).greets = some id := by
  obtain ⟨task, greets⟩ := greets
  refine ⟨task, ?_, greets⟩
  rintro rfl
  simp [unread] at greets

theorem greets_update (greets : ∃ task, task ≠ actor ∧ (traces task).greets = some id)
    (next : Trace) : ∃ task, (Function.update traces actor next task).greets = some id := by
  obtain ⟨task, different, greets⟩ := greets
  exact ⟨task, by rw [Function.update_of_ne different]; exact greets⟩

theorem greeted_update (unread : (traces actor).greets = none)
    (greeted : after.owed id = true ∨ after.Greeted id ∨ ∃ task, (traces task).greets = some id) :
    after.owed id = true ∨ after.Greeted id ∨
      ∃ task, (Function.update traces actor next task).greets = some id := by
  rcases greeted with owes | told | greets
  · exact Or.inl owes
  · exact Or.inr (Or.inl told)
  · exact Or.inr (Or.inr (greets_update (other_greets unread greets) next))

theorem Coherent.greeted_aside (coherent : feed.Coherent traces)
    (unread : (traces actor).greets = none) :
    ∀ id ∈ feed.wsClients, feed.owed id = true ∨ feed.Greeted id ∨ next.greets = some id ∨
      ∃ task, task ≠ actor ∧ (traces task).greets = some id := by
  intro id member
  rcases coherent.greeted id member with owes | told | greets
  · exact Or.inl owes
  · exact Or.inr (Or.inl told)
  · exact Or.inr (Or.inr (Or.inr (other_greets unread greets)))

/-- Whoever is at a poll after one task's step is the monitor. -/
theorem Coherent.monitored_update (coherent : feed.Coherent traces)
    (own : next.stage ≠ .idle → after.monitor = some actor)
    (others : ∀ task, task ≠ actor → feed.monitor = some task → after.monitor = some task) :
    ∀ task, (Function.update traces actor next task).stage ≠ .idle →
      after.monitor = some task := by
  refine (Function.forall_update_iff traces fun task trace =>
    trace.stage ≠ .idle → after.monitor = some task).mpr ⟨own, ?_⟩
  intro task different busy
  exact others task different (coherent.monitored task busy)

/-- Whoever goes through the clients after one task's step holds them. -/
theorem Coherent.reading_update (coherent : feed.Coherent traces)
    (reading : next.reads = true → actor ∈ after.readers)
    (readers : ∀ task, task ≠ actor → task ∈ feed.readers → task ∈ after.readers) :
    ∀ task, (Function.update traces actor next task).reads = true → task ∈ after.readers := by
  refine (Function.forall_update_iff traces fun task trace =>
    trace.reads = true → task ∈ after.readers).mpr ⟨reading, ?_⟩
  intro task different reads
  exact readers task different (coherent.reading task reads)

/-- A poll relies on what is playing and on what each client is owed. -/
theorem Stands.mono {trace : Trace} (stands : feed.Stands trace)
    (showing : after.showing = feed.showing) (known : after.known = feed.known)
    (owed : after.owed = feed.owed) (fewer : ∀ id ∈ after.wsClients, id ∈ feed.wsClients) :
    after.Stands trace := by
  unfold Stands Settled at stands ⊢
  rw [showing, known, owed]
  split at stands
  · exact stands
  · exact stands
  · exact stands
  · exact stands
  · obtain ⟨showing, reads, remaining⟩ := stands
    exact ⟨showing, reads, fun id member => remaining id (fewer id member)⟩
  · exact stands

/-- Whoever is not at a poll is not the monitor. -/
theorem Coherent.not_monitor (coherent : feed.Coherent traces)
    (idle : (traces actor).stage = .idle) : feed.monitor ≠ some actor := by
  intro monitor
  have stands := coherent.stands actor monitor
  rw [Stands, idle] at stands
  exact stands

theorem Coherent.aside (coherent : feed.Coherent traces) (idle : (traces actor).stage = .idle)
    (still : next.stage = .idle) (monitor : after.monitor = feed.monitor)
    (known : after.known = feed.known) (showing : after.showing = feed.showing)
    (owed : after.owed = feed.owed)
    (stands : ∀ task, task ≠ actor → feed.monitor = some task → feed.Stands (traces task) →
      after.Stands (traces task))
    (reading : next.reads = true → actor ∈ after.readers)
    (readers : ∀ task, task ≠ actor → task ∈ feed.readers → task ∈ after.readers)
    (informed : ∀ id ∈ after.wsClients, after.owed id = true ∨ after.Informed id)
    (greeted : ∀ id ∈ after.wsClients, after.owed id = true ∨ after.Greeted id ∨
      next.greets = some id ∨ ∃ task, task ≠ actor ∧ (traces task).greets = some id) :
    after.Coherent (Function.update traces actor next) := by
  have unmonitored := coherent.not_monitor idle
  refine ⟨?_, ?_, ?_, ?_, informed, ?_⟩
  · apply coherent.monitored_update
    · exact fun busy => absurd still busy
    · exact fun task _ monitored => monitor.trans monitored
  · intro none
    rw [monitor] at none
    obtain ⟨same, settled⟩ := coherent.free none
    refine ⟨by rw [known, showing, same], ?_⟩
    intro id
    rw [owed]
    exact settled id
  · refine (Function.forall_update_iff traces fun task trace =>
      after.monitor = some task → after.Stands trace).mpr ⟨?_, ?_⟩
    · intro own
      rw [monitor] at own
      exact absurd own unmonitored
    · intro task different own
      rw [monitor] at own
      exact stands task different own (coherent.stands task own)
  · exact coherent.reading_update reading readers
  · intro id member
    rcases greeted id member with owes | told | own | ⟨task, different, other⟩
    · exact Or.inl owes
    · exact Or.inr (Or.inl told)
    · exact Or.inr (Or.inr ⟨actor, by rw [Function.update_self]; exact own⟩)
    · exact Or.inr (Or.inr (greets_update ⟨task, different, other⟩ next))

theorem Coherent.proceed (coherent : feed.Coherent traces) (own : feed.monitor = some actor)
    (monitor : after.monitor = feed.monitor) (stands : after.Stands next)
    (reading : next.reads = true → actor ∈ after.readers)
    (readers : ∀ task, task ≠ actor → task ∈ feed.readers → task ∈ after.readers)
    (greets : (traces actor).greets = none)
    (informed : ∀ id ∈ after.wsClients, after.owed id = true ∨ after.Informed id)
    (greeted : ∀ id ∈ after.wsClients, after.owed id = true ∨ after.Greeted id ∨
      ∃ task, (traces task).greets = some id) :
    after.Coherent (Function.update traces actor next) := by
  refine ⟨?_, ?_, ?_, ?_, informed, ?_⟩
  · apply coherent.monitored_update
    · exact fun _ => monitor.trans own
    · exact fun task _ monitored => monitor.trans monitored
  · intro none
    simp [monitor, own] at none
  · refine (Function.forall_update_iff traces fun task trace =>
      after.monitor = some task → after.Stands trace).mpr ⟨fun _ => stands, ?_⟩
    intro task different other
    rw [monitor, own] at other
    exact absurd (Option.some.inj other).symm different
  · exact coherent.reading_update reading readers
  · exact fun id member => greeted_update greets (greeted id member)

/-- The monitor's trace tells how far its poll has come. -/
theorem Coherent.own (coherent : feed.Coherent traces) (busy : (traces actor).stage ≠ .idle) :
    feed.monitor = some actor ∧ feed.Stands (traces actor) :=
  ⟨coherent.monitored actor busy, coherent.stands actor (coherent.monitored actor busy)⟩

theorem Coherent.shrink (coherent : feed.Coherent traces) {clients : List Nat}
    (fewer : ∀ id ∈ clients, id ∈ feed.wsClients) :
    { feed with wsClients := clients }.Coherent traces where
  monitored := coherent.monitored
  free := coherent.free
  stands task own := (coherent.stands task own).mono rfl rfl rfl fewer
  reading := coherent.reading
  informed id member := coherent.informed id (fewer id member)
  greeted id member := coherent.greeted id (fewer id member)

theorem Coherent.startPoll (coherent : feed.Coherent traces) (free : feed.monitor = none)
    (idle : traces actor = {}) :
    { feed with monitor := some actor }.Coherent
      (Function.update traces actor { stage := .polling }) := by
  refine ⟨?_, nofun, ?_, ?_, coherent.informed, ?_⟩
  · apply coherent.monitored_update
    · exact fun _ => rfl
    · intro task _ own
      simp [free] at own
  · refine (Function.forall_update_iff traces fun task trace =>
      some actor = some task → Stands _ trace).mpr ⟨fun _ => coherent.free free, ?_⟩
    intro task different own
    exact absurd (Option.some.inj own).symm different
  · exact coherent.reading_update nofun fun _ _ reads => reads
  · exact fun id member => greeted_update (by rw [idle]) (coherent.greeted id member)

/-- After a report which shows what was shown before, nobody is owed anything. -/
theorem settled_writeCurrent (settled : feed.Settled) {current : Option SpotifyState}
    (same : shownOf current = feed.showing) : (feed.writeCurrent current).Settled := by
  intro id
  have kept : (feed.writeCurrent current).owed = feed.owed := if_pos same
  rw [kept]
  exact settled id

theorem Coherent.writeCurrent (coherent : feed.Coherent traces)
    (polling : traces actor = { stage := .polling }) (current : Option SpotifyState) :
    (feed.writeCurrent current).Coherent
      (Function.update traces actor { stage := .wrote (shownOf current) }) := by
  obtain ⟨own, stands⟩ := coherent.own (by rw [polling]; exact nofun)
  rw [polling] at stands
  obtain ⟨known, settled⟩ := stands
  have showing : (feed.writeCurrent current).showing = shownOf current := rfl
  have monitor : (feed.writeCurrent current).monitor = feed.monitor := rfl
  apply coherent.proceed own monitor
  · refine ⟨rfl, fun unchanged => settled_writeCurrent settled ?_⟩
    exact unchanged.symm.trans known
  · exact nofun
  · exact fun _ _ reads => reads
  · rw [polling]
  · intro id member
    by_cases same : shownOf current = feed.showing
    · rcases coherent.informed id member with owes | informed
      · simp [settled id] at owes
      · refine Or.inr fun frame last => ?_
        rw [showing, same]
        exact informed frame last
    · exact Or.inl (congrFun (if_neg same) id)
  · intro id member
    by_cases same : shownOf current = feed.showing
    · rcases coherent.greeted id member with owes | told | greets
      · simp [settled id] at owes
      · refine Or.inr (Or.inl ?_)
        rw [Greeted, showing, same]
        exact told
      · exact Or.inr (Or.inr greets)
    · exact Or.inl (congrFun (if_neg same) id)

theorem Coherent.readMonitor (coherent : feed.Coherent traces) {shown : Shown}
    (wrote : traces actor = { stage := .wrote shown }) :
    feed.Coherent (Function.update traces actor
      { stage := .knows shown feed.lastTrackId feed.lastPlaying }) := by
  obtain ⟨own, stands⟩ := coherent.own (by rw [wrote]; exact nofun)
  rw [wrote] at stands
  obtain ⟨showing, settled⟩ := stands
  apply coherent.proceed own rfl
  · exact ⟨showing, rfl, settled⟩
  · exact nofun
  · exact fun _ _ reads => reads
  · rw [wrote]
  · exact coherent.informed
  · exact coherent.greeted

/-- A poll ends with its report known and announced. -/
theorem Coherent.endPoll (coherent : feed.Coherent traces) (own : feed.monitor = some actor)
    (unread : (traces actor).greets = none) {lastTrackId : Option String} {lastPlaying : Bool}
    (showing : feed.showing = polled lastTrackId lastPlaying) (settled : feed.Settled) :
    { feed with
      monitor := none
      lastTrackId := lastTrackId
      lastPlaying := lastPlaying }.Coherent (Function.update traces actor {}) := by
  refine ⟨?_, fun _ => ⟨showing.symm, settled⟩, nofun, ?_, coherent.informed, ?_⟩
  · apply coherent.monitored_update
    · exact fun busy => absurd rfl busy
    · intro task different other
      exact absurd (Option.some.inj (other.symm.trans own)) different
  · exact coherent.reading_update nofun fun _ _ reads => reads
  · exact fun id member => greeted_update unread (coherent.greeted id member)

theorem Coherent.lockAside (coherent : feed.Coherent traces) (idle : traces actor = {}) :
    { feed with readers := actor :: feed.readers }.Coherent
      (Function.update traces actor { reads := true }) := by
  have still : (traces actor).stage = .idle := by rw [idle]
  refine coherent.aside still rfl rfl rfl rfl rfl (fun _ _ _ stands => stands) ?_ ?_ ?_ ?_
  · exact fun _ => List.mem_cons_self
  · exact fun _ _ reads => List.mem_cons_of_mem _ reads
  · exact coherent.informed
  · exact coherent.greeted_aside (by rw [idle])

/-- The monitor begins to go through the clients, and leaves nobody out. -/
theorem Coherent.lockTelling (coherent : feed.Coherent traces) {shown : Shown}
    {last : Option String} {playing : Bool}
    (knows : traces actor = { stage := .knows shown last playing }) {clients : List Nat}
    (all : clients.Perm feed.wsClients) :
    { feed with readers := actor :: feed.readers }.Coherent
      (Function.update traces actor { stage := .telling shown clients, reads := true }) := by
  obtain ⟨own, stands⟩ := coherent.own (by rw [knows]; exact nofun)
  rw [knows] at stands
  obtain ⟨showing, -, -⟩ := stands
  refine coherent.proceed own rfl ⟨showing, rfl, ?_⟩ ?_ ?_ (by rw [knows]) coherent.informed
    coherent.greeted
  · exact fun id member _ => all.mem_iff.mpr member
  · exact fun _ => List.mem_cons_self
  · exact fun _ _ reads => List.mem_cons_of_mem _ reads

theorem Coherent.unlockAside (coherent : feed.Coherent traces)
    (reads : traces actor = { reads := true }) :
    (feed.unlockClients actor).Coherent (Function.update traces actor {}) := by
  have still : (traces actor).stage = .idle := by rw [reads]
  have unmonitored := coherent.not_monitor still
  have owed : (feed.unlockClients actor).owed = feed.owed := if_neg unmonitored
  have monitor : (feed.unlockClients actor).monitor = feed.monitor := rfl
  refine coherent.aside still rfl monitor rfl rfl owed ?_ nofun ?_ ?_ ?_
  · exact fun task _ _ stands => stands.mono rfl rfl owed fun _ member => member
  · exact fun task different reads => (List.mem_erase_of_ne different).mpr reads
  · intro id member
    rw [owed]
    exact coherent.informed id member
  · rw [owed]
    exact coherent.greeted_aside (by rw [reads])

theorem Coherent.unlockTold (coherent : feed.Coherent traces) {shown : Shown}
    (telling : traces actor = { stage := .telling shown [], reads := true }) :
    (feed.unlockClients actor).Coherent
      (Function.update traces actor { stage := .told shown }) := by
  obtain ⟨own, stands⟩ := coherent.own (by rw [telling]; exact nofun)
  rw [telling] at stands
  obtain ⟨showing, -, remaining⟩ := stands
  have settled : (feed.unlockClients actor).Settled := congrFun (if_pos own)
  have unowed : ∀ id ∈ feed.wsClients, feed.owed id ≠ true :=
    fun id member owes => List.not_mem_nil (remaining id member owes)
  have monitor : (feed.unlockClients actor).monitor = feed.monitor := rfl
  refine coherent.proceed own monitor ⟨showing, settled⟩ nofun ?_ (by rw [telling]) ?_ ?_
  · exact fun task different reads => (List.mem_erase_of_ne different).mpr reads
  · intro id member
    exact Or.inr ((coherent.informed id member).resolve_left (unowed id member))
  · intro id member
    exact Or.inr ((coherent.greeted id member).resolve_left (unowed id member))

theorem trySend_of_ne {client : Nat} (different : client ≠ id) (frame : Frame) :
    ((feed.trySend actor id frame).Informed client ↔ feed.Informed client) ∧
      ((feed.trySend actor id frame).Greeted client ↔ feed.Greeted client) := by
  have queue : (feed.trySend actor id frame).queue client = feed.queue client :=
    Function.update_of_ne different _ _
  have showing : (feed.trySend actor id frame).showing = feed.showing := rfl
  simp only [Informed, Greeted, queue, showing, and_self]

theorem trySend_self (frame : Frame) :
    (frame.shown = feed.showing → (feed.trySend actor id frame).Informed id) ∧
      (feed.trySend actor id frame).Greeted id := by
  have queue : (feed.trySend actor id frame).queue id = frame :: feed.queue id :=
    Function.update_self _ _ _
  rw [Informed, Greeted, queue]
  refine ⟨fun shows last found => ?_, Or.inl (List.cons_ne_nil _ _)⟩
  obtain rfl := Option.some.inj found
  exact shows

/-- A frame shows what is playing, or the monitor is about to send a newer one. -/
theorem Coherent.sendAside (coherent : feed.Coherent traces) (idle : (traces actor).stage = .idle)
    {frame : Frame}
    (current : id ∈ feed.wsClients → frame.shown = feed.showing ∨ feed.owed id = true) :
    (feed.trySend actor id frame).Coherent (Function.update traces actor
      ((traces actor).next (.trySend id frame) ())) := by
  have unmonitored := coherent.not_monitor idle
  have owed : (feed.trySend actor id frame).owed = feed.owed := if_neg unmonitored
  have monitor : (feed.trySend actor id frame).monitor = feed.monitor := rfl
  have still : ((traces actor).next (.trySend id frame) ()).stage = .idle := by
    simp [Trace.next, idle]
  refine coherent.aside idle still monitor rfl rfl owed ?_ ?_ ?_ ?_ ?_
  · exact fun task _ _ stands => stands.mono rfl rfl owed fun _ member => member
  · exact fun reads => coherent.reading actor reads
  · exact fun _ _ reads => reads
  · intro client member
    rw [owed]
    by_cases same : client = id
    · subst same
      exact (current member).symm.imp_right (trySend_self frame).1
    · rw [(trySend_of_ne same frame).1]
      exact coherent.informed client member
  · intro client member
    rw [owed]
    by_cases same : client = id
    · subst same
      exact Or.inr (Or.inl (trySend_self frame).2)
    · rcases coherent.greeted client member with owes | told | ⟨task, greets⟩
      · exact Or.inl owes
      · exact Or.inr (Or.inl ((trySend_of_ne same frame).2.mpr told))
      · by_cases self : task = actor
        · subst self
          refine Or.inr (Or.inr (Or.inl ?_))
          simp [Trace.next, greets, same]
        · exact Or.inr (Or.inr (Or.inr ⟨task, self, greets⟩))

/-- The monitor tells one client. -/
theorem Coherent.sendTelling (coherent : feed.Coherent traces) {frame : Frame} {rest : List Nat}
    (telling : traces actor = { stage := .telling frame.shown (id :: rest), reads := true }) :
    (feed.trySend actor id frame).Coherent (Function.update traces actor
      { stage := .telling frame.shown rest, reads := true }) := by
  obtain ⟨own, stands⟩ := coherent.own (by rw [telling]; exact nofun)
  rw [telling] at stands
  obtain ⟨showing, -, remaining⟩ := stands
  have owed : (feed.trySend actor id frame).owed = Function.update feed.owed id false := if_pos own
  have monitor : (feed.trySend actor id frame).monitor = feed.monitor := rfl
  refine coherent.proceed own monitor ⟨showing, rfl, ?_⟩ ?_ ?_ (by rw [telling]) ?_ ?_
  · intro client member owes
    rw [owed] at owes
    by_cases same : client = id
    · simp [same] at owes
    · rw [Function.update_of_ne same] at owes
      exact (List.mem_cons.mp (remaining client member owes)).resolve_left same
  · exact fun _ => coherent.reading actor (by rw [telling])
  · exact fun _ _ reads => reads
  · intro client member
    rw [owed]
    by_cases same : client = id
    · subst same
      exact Or.inr ((trySend_self frame).1 showing.symm)
    · rw [Function.update_of_ne same, (trySend_of_ne same frame).1]
      exact coherent.informed client member
  · intro client member
    rw [owed]
    by_cases same : client = id
    · subst same
      exact Or.inr (Or.inl (trySend_self frame).2)
    · rw [Function.update_of_ne same, (trySend_of_ne same frame).2]
      exact coherent.greeted client member

/-- A socket registers.  Nobody goes through the clients at this moment. -/
theorem Coherent.insertClient (coherent : feed.Coherent traces) (unread : feed.readers = [])
    (idle : traces actor = {}) (id : Nat) :
    { feed with
      wsClients := id :: feed.wsClients
      queue := Function.update feed.queue id [] }.Coherent
        (Function.update traces actor { greets := some id }) := by
  have still : (traces actor).stage = .idle := by rw [idle]
  refine coherent.aside still rfl rfl rfl rfl rfl ?_ nofun (fun _ _ reads => reads) ?_ ?_
  · intro task _ _ stands
    unfold Stands at stands ⊢
    split at stands
    · exact stands
    · exact stands
    · exact stands
    · exact stands
    · obtain ⟨-, reads, -⟩ := stands
      have listed := coherent.reading task reads
      simp [unread] at listed
    · exact stands
  · intro client member
    by_cases same : client = id
    · subst same
      refine Or.inr fun frame found => ?_
      simp at found
    · have before := coherent.informed client ((List.mem_cons.mp member).resolve_left same)
      refine before.imp_right fun informed frame found => informed frame ?_
      change (Function.update feed.queue id [] client).head? = some frame at found
      rwa [Function.update_of_ne same] at found
  · intro client member
    by_cases same : client = id
    · exact Or.inr (Or.inr (Or.inl (congrArg some same.symm)))
    · rcases coherent.greeted client ((List.mem_cons.mp member).resolve_left same) with
        owes | told | greets
      · exact Or.inl owes
      · refine Or.inr (Or.inl ?_)
        change Function.update feed.queue id [] client ≠ [] ∨ feed.showing = (none, false)
        rw [Function.update_of_ne same]
        exact told
      · exact Or.inr (Or.inr (Or.inr (other_greets (by rw [idle]) greets)))

/-- A task reads what is playing.  A socket which reads that nothing is has nothing to send. -/
theorem Coherent.readCurrent (coherent : feed.Coherent traces)
    (idle : (traces actor).stage = .idle) :
    feed.Coherent (Function.update traces actor
      ((traces actor).next .readCurrent feed.current)) := by
  refine coherent.aside idle ?_ rfl rfl rfl rfl (fun _ _ _ stands => stands)
    (fun reads => coherent.reading actor reads) (fun _ _ reads => reads) coherent.informed ?_
  · simp [Trace.next, idle]
  · intro id member
    rcases coherent.greeted id member with owes | told | ⟨task, greets⟩
    · exact Or.inl owes
    · exact Or.inr (Or.inl told)
    · by_cases self : task = actor
      · subst self
        by_cases tracked : (feed.current.bind SpotifyState.track).isSome = true
        · refine Or.inr (Or.inr (Or.inl ?_))
          simp [Trace.next, tracked, greets]
        · refine Or.inr (Or.inl (Or.inr ?_))
          cases current : feed.current with
          | none => simp [showing, shownOf, current]
          | some s =>
              have nothing : s.track = none := by simpa [current] using tracked
              simp only [showing, shownOf, current]
              exact shown_of_nothing nothing
      · exact Or.inr (Or.inr (Or.inr ⟨task, self, greets⟩))

end Feed

/-- A frame queued to a client shows what is playing, or the monitor has yet to tell that client. -/
def UpToDate (feed : Feed) (_ : Nat → Trace) (_ : Nat) : Op → Input → Prop
  | .trySend id frame, _ =>
      id ∈ feed.wsClients → frame.shown = feed.showing ∨ feed.owed id = true
  | _, _ => True

instance decidableUpToDate (feed : Feed) (traces : Nat → Trace) (actor : Nat) :
    ∀ op input, Decidable (UpToDate feed traces actor op input)
  | .trySend _ _, _ => inferInstanceAs (Decidable (_ → _))
  | .startPoll, _ | .writeCurrent _, _ | .readMonitor, _ | .resync, _ | .endPoll _ _, _
  | .readCurrent, _ | .playsCached, _ | .lockClients, _ | .unlockClients, _ | .nextId, _
  | .insertClient _, _ | .serve _, _ | .removeClient _, _ => isTrue trivial

namespace Feed

variable {feed after : Feed} {traces : Nat → Trace} {actor : Nat} {input : Input}

theorem Coherent.perform (coherent : feed.Coherent traces) {op : Op} {answer : op.Answer}
    (allowed : (traces actor).Allows op) (permitted : UpToDate feed traces actor op input)
    (performed : feed.perform actor op input = some (answer, after)) :
    after.Coherent (Function.update traces actor ((traces actor).next op answer)) := by
  cases op with
  | startPoll =>
      obtain ⟨free, -, rfl⟩ := of_guarded_answer performed
      rw [show traces actor = {} from allowed]
      exact coherent.startPoll free allowed
  | writeCurrent current =>
      obtain ⟨-, rfl⟩ := Prod.mk.inj (Option.some.inj performed)
      rw [show traces actor = { stage := .polling } from allowed]
      exact coherent.writeCurrent allowed current
  | readMonitor =>
      obtain ⟨rfl, rfl⟩ := Prod.mk.inj (Option.some.inj performed)
      obtain ⟨shown, wrote⟩ := allowed
      rw [wrote]
      exact coherent.readMonitor wrote
  | endPoll lastTrackId lastPlaying =>
      obtain ⟨-, rfl⟩ := Prod.mk.inj (Option.some.inj performed)
      rcases allowed with told | ⟨last, playing, knows, same⟩
      · obtain ⟨own, stands⟩ := coherent.own (by rw [told]; exact nofun)
        rw [told] at stands ⊢
        exact coherent.endPoll own (by rw [told]) stands.1 stands.2
      · obtain ⟨own, stands⟩ := coherent.own (by rw [knows]; exact nofun)
        rw [knows] at stands ⊢
        obtain ⟨showing, known, settled⟩ := stands
        exact coherent.endPoll own (by rw [knows]) showing (settled (known.trans same))
  | readCurrent =>
      obtain ⟨rfl, rfl⟩ := Prod.mk.inj (Option.some.inj performed)
      exact coherent.readCurrent allowed
  | lockClients =>
      obtain ⟨all, rfl, rfl⟩ := of_guarded_answer performed
      rcases allowed with idle | ⟨shown, last, playing, knows⟩
      · rw [idle]
        exact coherent.lockAside idle
      · rw [knows]
        exact coherent.lockTelling knows all
  | trySend id frame =>
      obtain ⟨-, rfl⟩ := Prod.mk.inj (Option.some.inj performed)
      rcases allowed with idle | ⟨rest, telling⟩
      · exact coherent.sendAside idle permitted
      · rw [telling]
        exact coherent.sendTelling telling
  | unlockClients =>
      obtain ⟨-, rfl⟩ := Prod.mk.inj (Option.some.inj performed)
      rcases allowed with reads | ⟨shown, telling⟩
      · rw [reads]
        exact coherent.unlockAside reads
      · rw [telling]
        exact coherent.unlockTold telling
  | insertClient id =>
      obtain ⟨unread, -, rfl⟩ := of_guarded_answer performed
      rw [show traces actor = {} from allowed]
      exact coherent.insertClient unread allowed id
  | removeClient id =>
      obtain ⟨-, -, rfl⟩ := of_guarded_answer performed
      change Coherent _ (Function.update traces actor (traces actor))
      rw [Function.update_eq_self]
      exact coherent.shrink fun _ => List.mem_of_mem_erase
  | serve id =>
      obtain ⟨-, -, rfl⟩ := of_guarded_answer performed
      change Coherent _ (Function.update traces actor (traces actor))
      rwa [Function.update_eq_self]
  | resync | playsCached | nextId =>
      obtain ⟨-, rfl⟩ := Prod.mk.inj (Option.some.inj performed)
      change Coherent _ (Function.update traces actor (traces actor))
      rw [Function.update_eq_self]
      exact ⟨coherent.monitored, coherent.free, coherent.stands, coherent.reading,
        coherent.informed, coherent.greeted⟩

end Feed

theorem safe : machine.Safe discipline UpToDate Feed.Coherent where
  initial := by
    rintro _ rfl
    exact ⟨fun _ busy => absurd rfl busy, fun _ => ⟨rfl, fun _ => rfl⟩, nofun, nofun, nofun, nofun⟩
  accept feed traces actor request program after coherent _ accepted := by
    obtain ⟨rfl, rfl⟩ := Prod.mk.inj (Option.some.inj accepted)
    exact ⟨coherent, Trace.guides_accept request⟩
  perform feed traces actor op input answer after coherent allowed permitted performed :=
    coherent.perform allowed permitted performed
  outside feed traces _ after coherent changed := by
    obtain ⟨-, rfl⟩ := of_guarded changed
    exact coherent.shrink nofun

/-- All interleavings of polls, sockets and broadcasts. -/
abbrev system := machine.system discipline

/-- If no frame is queued which shows something else than what is playing, unless the monitor has
yet to tell its client, then between polls the last update of every client shows what is playing;
and once no snapshot is still to come, every client has one if anything plays. -/
theorem clients_up_to_date {pool : Pool signature Feed Trace}
    (reach : system.ReachableUnder (Machine.Permits UpToDate) pool)
    (quiet : pool.shared.monitor = none) :
    let feed := pool.shared
    ∀ id ∈ feed.wsClients,
      (∀ frame, (feed.queue id).head? = some frame → frame.shown = shownOf feed.current) ∧
        ((∀ task, (pool.trace task).greets ≠ some id) → feed.queue id = [] →
          shownOf feed.current = (none, false)) := by
  intro feed id member
  have coherent := (safe.guarded reach).holds
  have unowed : feed.owed id ≠ true := by
    rw [(coherent.free quiet).2 id]
    exact Bool.false_ne_true
  refine ⟨(coherent.informed id member).resolve_left unowed, ?_⟩
  intro greeted empty
  rcases (coherent.greeted id member).resolve_left unowed with (told | nothing) | ⟨task, greets⟩
  · exact absurd empty told
  · exact nothing
  · exact absurd greets (greeted task)

/-- The program has started. -/
def started : Pool signature Feed Trace := Machine.boot discipline .start

theorem started_initial : system.initial started := ⟨_, rfl, rfl⟩

/-- Some steps of one task. -/
def advance (actor count : Nat) (input : Input) : List (PoolEvent Request Input Unit) :=
  List.replicate count (.advance actor input)

def playing : SpotifyState where
  track := some { id := "a" }
  isPlaying := true

/-- A client connects while nothing plays, is told of a song and gets a copy of that again. -/
def song : List (PoolEvent Request Input Unit) :=
  .start .socket :: advance 0 3 {} ++ .start (.poll playing) :: advance 1 7 { order := [0] } ++
    .start .rebroadcast :: advance 2 4 { order := [0] }

theorem song_up_to_date :
    let feed := (system.final started song rfl).shared
    feed.wsClients = [0] ∧
      (feed.queue 0).map Frame.shown = [(some "a", true), (some "a", true)] ∧
        shownOf feed.current = (some "a", true) ∧
          ∀ id ∈ feed.wsClients, ∀ frame, (feed.queue id).head? = some frame →
            frame.shown = shownOf feed.current :=
  ⟨rfl, rfl, rfl, fun id member =>
    (clients_up_to_date (System.ReachableUnder.final started_initial (by decide) rfl) rfl
      id member).1⟩

/-- A task has come to its end, or serves a socket which has got its snapshot. -/
def Finished (pool : Pool signature Feed Trace) (task : Nat) : Prop :=
  pool.task task = .done () ∨ ∃ id next, pool.task task = .call (.serve id) next

/-- A client connects while a song plays, and gets its snapshot of that after the monitor has told
it that the song is over. -/
def overtaken : List (PoolEvent Request Input Unit) :=
  .start (.poll playing) :: advance 0 6 {} ++ .start .socket :: advance 1 3 {} ++
    .start (.poll {}) :: advance 2 7 { order := [0] } ++ advance 1 1 {}

/-- A client is left with a song which is over. -/
theorem snapshot_overtakes_update :
    ∃ pool, system.Reachable pool ∧ pool.shared.monitor = none ∧
      (∀ task < pool.size, Finished pool task) ∧ 0 ∈ pool.shared.wsClients ∧
        (pool.shared.queue 0).head?.map Frame.shown = some (some "a", true) ∧
          shownOf pool.shared.current = (none, false) := by
  refine ⟨system.final started overtaken rfl,
    System.reachable_final started_initial overtaken rfl, rfl, ?_, List.mem_singleton_self 0, rfl,
    rfl⟩
  intro task started
  match task, started with
  | 0, _ => exact Or.inl rfl
  | 1, _ => exact Or.inr ⟨0, _, rfl⟩
  | 2, _ => exact Or.inl rfl
  | _ + 3, beyond => exact absurd beyond (Nat.not_lt.mpr (Nat.le_add_left 3 _))

end Togewire.Server.Updates
