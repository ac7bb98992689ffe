import Mathlib.Data.List.AList
import Togewire.Foundation.Program
import Togewire.Foundation.Tally
import Togewire.Stream.Manager
import Togewire.Types

/-!
# Connection accounting

Every address has slots for streams and for sockets, and a count of its sockets which listen; the
stream manager counts all attached listeners.  Handlers raise these counters, and drops, failure
callbacks and socket loops lower them, each at a moment of its own.  Whatever the order, every
counter is the number of tasks between its raise and its own release.
-/

namespace Togewire.Server.Peers

open Interleaving Transition

/-- `MAX_CONNECTIONS_PER_IP`. -/
def maxConnectionsPerIp : Nat := 10

/-- `MAX_TOTAL_STREAM_LISTENERS`. -/
def maxTotalStreamListeners : Nat := 250

/-- `MAX_TOTAL_WS_CLIENTS`. -/
def maxTotalWsClients : Nat := 1000

/-! ## Counts by address -/

/-- What a connection takes a slot for. -/
inductive Slot
  | streams
  | sockets
  deriving DecidableEq

/-- Per-IP connection counts. -/
structure Peer where
  streams : Nat := 0
  sockets : Nat := 0
  listening : Nat := 0
  lastTrack : String := ""

/-- One more slot, if one is free. -/
def takeSlot (count : Nat) : Bool × Nat :=
  let free := decide (count < maxConnectionsPerIp)
  (free, count + free.toNat)

/-- `-= 1` on a `usize`, which wraps around. -/
def minusOne (count : Nat) : Nat := if count = 0 then 2 ^ 64 - 1 else count - 1

namespace Peer

/-- How many slots of a kind are taken. -/
def count (peer : Peer) : Slot → Nat
  | .streams => peer.streams
  | .sockets => peer.sockets

/-- So many slots of a kind are taken. -/
def setCount (peer : Peer) : Slot → Nat → Peer
  | .streams, count => { peer with streams := count }
  | .sockets, count => { peer with sockets := count }

/-- Nothing from the address is open. -/
def idle (peer : Peer) : Bool := peer.streams == 0 && peer.sockets == 0 && peer.listening == 0

/-- `take_slot` on one of the counts. -/
def takeSlot (slot : Slot) (peer : Peer) : Bool × Peer :=
  ((Peers.takeSlot (peer.count slot)).1,
    peer.setCount slot (Peers.takeSlot (peer.count slot)).2)

/-- The slot of a refused stream or a failed upgrade. -/
def refundSlot (slot : Slot) (peer : Peer) : Unit × Peer :=
  ((), peer.setCount slot (minusOne (peer.count slot)))

/-- The slot of a dropped stream or a socket which has ended: `saturating_sub`. -/
def releaseSlot (slot : Slot) (peer : Peer) : Unit × Peer :=
  ((), peer.setCount slot (peer.count slot - 1))

/-- What is streamed to the address now. -/
def noteTrack (trackId : String) (peer : Peer) : Unit × Peer :=
  ((), if peer.lastTrack ≠ trackId then { peer with lastTrack := trackId } else peer)

/-- `set_listening`. -/
def setListening (on : Bool) (peer : Peer) : Unit × Peer :=
  ((),
    if on then
      { peer with listening := peer.listening + 1 }
    else if 0 < peer.listening then
      { peer with listening := peer.listening - 1 }
    else
      peer)

@[simp] theorem count_setCount_self (peer : Peer) (slot : Slot) (count : Nat) :
    (peer.setCount slot count).count slot = count := by
  cases slot <;> rfl

theorem count_setCount_of_ne (peer : Peer) {slot other : Slot} (different : other ≠ slot)
    (count : Nat) : (peer.setCount slot count).count other = peer.count other := by
  cases slot <;> cases other <;> first | rfl | exact absurd rfl different

@[simp] theorem setCount_listening (peer : Peer) (slot : Slot) (count : Nat) :
    (peer.setCount slot count).listening = peer.listening := by
  cases slot <;> rfl

theorem noteTrack_counts (trackId : String) (peer : Peer) :
    (∀ slot, (peer.noteTrack trackId).2.count slot = peer.count slot) ∧
      (peer.noteTrack trackId).2.listening = peer.listening := by
  unfold noteTrack
  dsimp only
  split
  · refine ⟨fun slot => ?_, rfl⟩
    cases slot <;> rfl
  · exact ⟨fun _ => rfl, rfl⟩

theorem idle_iff {peer : Peer} :
    peer.idle = true ↔ (∀ slot, peer.count slot = 0) ∧ peer.listening = 0 := by
  constructor
  · intro idle
    simp only [Peer.idle, Bool.and_eq_true, beq_iff_eq] at idle
    obtain ⟨⟨streams, sockets⟩, listening⟩ := idle
    refine ⟨fun slot => ?_, listening⟩
    cases slot with
    | streams => exact streams
    | sockets => exact sockets
  · rintro ⟨counts, listening⟩
    have streams : peer.streams = 0 := counts .streams
    have sockets : peer.sockets = 0 := counts .sockets
    simp [Peer.idle, streams, sockets, listening]

end Peer

/-- The addresses with anything open. -/
abbrev PeerMap := AList fun _ : String => Peer

namespace PeerMap

/-- `entry(ip).or_default()`. -/
def entry (peers : PeerMap) (ip : String) : Peer := (peers.lookup ip).getD {}

/-- Keep an address while anything from it is open. -/
def settle (peers : PeerMap) (ip : String) (peer : Peer) : PeerMap :=
  if peer.idle then peers.erase ip else peers.insert ip peer

/-- `with_peer`. -/
def withPeer {ρ : Type} (peers : PeerMap) (ip : String) (f : Peer → ρ × Peer) : ρ × PeerMap :=
  ((f (peers.entry ip)).1, peers.settle ip (f (peers.entry ip)).2)

variable {peers : PeerMap} {ip other : String} {peer : Peer}

theorem entry_settle_of_ne (different : other ≠ ip) :
    (peers.settle ip peer).entry other = peers.entry other := by
  unfold settle entry
  split
  · rw [AList.lookup_erase_ne different]
  · rw [AList.lookup_insert_ne different]

/-- Dropping an idle address loses no count. -/
theorem entry_settle (peers : PeerMap) (ip : String) (peer : Peer) :
    (∀ slot, ((peers.settle ip peer).entry ip).count slot = peer.count slot) ∧
      ((peers.settle ip peer).entry ip).listening = peer.listening := by
  unfold settle entry
  split
  · rename_i idle
    obtain ⟨counts, listening⟩ := Peer.idle_iff.mp idle
    rw [AList.lookup_erase]
    refine ⟨fun slot => ?_, listening.symm⟩
    rw [counts slot]
    cases slot <;> rfl
  · rw [AList.lookup_insert]
    exact ⟨fun _ => rfl, rfl⟩

/-- Every address listed has something open. -/
def Tidy (peers : PeerMap) : Prop := ∀ ip peer, peers.lookup ip = some peer → peer.idle = false

theorem Tidy.settle (tidy : Tidy peers) (ip : String) (peer : Peer) :
    Tidy (peers.settle ip peer) := by
  intro other entry found
  by_cases same : other = ip
  · subst same
    unfold PeerMap.settle at found
    split at found
    · simp at found
    · rename_i busy
      obtain rfl : peer = entry := by simpa using found
      simpa using busy
  · unfold PeerMap.settle at found
    split at found
    · exact tidy other entry (by rwa [AList.lookup_erase_ne same] at found)
    · exact tidy other entry (by rwa [AList.lookup_insert_ne same] at found)

/-- An address is listed exactly while something from it is open. -/
theorem Tidy.mem_iff (tidy : Tidy peers) :
    ip ∈ peers ↔ 0 < (peers.entry ip).streams ∨ 0 < (peers.entry ip).sockets ∨
      0 < (peers.entry ip).listening := by
  cases found : peers.lookup ip with
  | none =>
      have absent : ip ∉ peers := AList.lookup_eq_none.mp found
      simp [entry, found, absent]
  | some peer =>
      have listed : ip ∈ peers := AList.lookup_isSome.mp (by simp [found])
      have busy := tidy ip peer found
      simp only [entry, found, Option.getD_some, listed, true_iff]
      simp only [Peer.idle, Bool.and_eq_false_iff, beq_eq_false_iff_ne] at busy
      omega

end PeerMap

/-! ## Operations -/

/-- What the handlers share. -/
structure Hub where
  playerEnabled : Bool
  current : Option SpotifyState
  peers : PeerMap
  stream : Stream.Manager
  wsClients : List Nat
  nextId : Nat

/-- A text frame as read, with `type` and `listening` where it is an object that has them. -/
structure Frame where
  type : Option String := none
  listening : Option Bool := none

/-- Only a frame of type `listening` says anything. -/
def parseListeningMessage (frame : Frame) : Option Bool :=
  if frame.type = some "listening" then some (frame.listening.getD false) else none

/-- What a client says after one more frame: that it listens or that it does not if the frame is
about that, or else what it said before. -/
def Frame.said (frame : Frame) (before : Bool) : Bool :=
  if frame.type = some "listening" then frame.listening == some true else before

theorem Frame.said_eq (frame : Frame) (before : Bool) :
    frame.said before = (parseListeningMessage frame).getD before := by
  unfold Frame.said parseListeningMessage
  split
  · cases frame.listening with
    | none => rfl
    | some on => cases on <;> rfl
  · rfl

/-- The operations of stream requests and sockets. -/
inductive Op
  | playerEnabled
  | takeSlot (slot : Slot) (ip : String)
  | refundSlot (slot : Slot) (ip : String)
  | releaseSlot (slot : Slot) (ip : String)
  | addClient
  | removeClient
  | readCurrent
  | noteTrack (ip trackId : String)
  | streamBody
  | clientCount
  | upgrade
  | nextId
  | insertSocket (id : Nat)
  | nextFrame
  | setListening (ip : String) (on : Bool)
  | abortWriter
  | removeSocket (id : Nat)

def Op.Answer : Op → Type
  | playerEnabled | takeSlot _ _ | addClient | upgrade => Bool
  | readCurrent => Option SpotifyState
  | nextFrame => Option Frame
  | clientCount | nextId => Nat
  | refundSlot _ _ | releaseSlot _ _ | removeClient | noteTrack _ _ | streamBody | insertSocket _
  | setListening _ _ | abortWriter | removeSocket _ => Unit

abbrev signature : Signature := ⟨Op, Op.Answer⟩

abbrev Task := Program signature

/-- What the outside world contributes to a step. -/
structure Input where
  /-- Which of the two upgrade callbacks is run. -/
  upgraded : Bool := true
  /-- The next frame of a socket, until it ends. -/
  frame : Option Frame := none

namespace Hub

def withPeer {ρ : Type} (hub : Hub) (ip : String) (f : Peer → ρ × Peer) : ρ × Hub :=
  ((hub.peers.withPeer ip f).1, { hub with peers := (hub.peers.withPeer ip f).2 })

/-- Attach a listener below the global cap. -/
def addClient (hub : Hub) : Bool × Hub :=
  match hub.stream.addClient maxTotalStreamListeners with
  | none => (false, hub)
  | some (_, stream) => (true, { hub with stream := stream })

/-- The effect of one operation.  A stream body lasts until it is dropped. -/
def perform (hub : Hub) (_ : Nat) (op : Op) (input : Input) : Option (op.Answer × Hub) :=
  match op with
  | .playerEnabled => some (hub.playerEnabled, hub)
  | .takeSlot slot ip => some (hub.withPeer ip (·.takeSlot slot))
  | .refundSlot slot ip => some (hub.withPeer ip (·.refundSlot slot))
  | .releaseSlot slot ip => some (hub.withPeer ip (·.releaseSlot slot))
  | .addClient => some hub.addClient
  | .removeClient => some ((), { hub with stream := hub.stream.removeClient })
  | .readCurrent => some (hub.current, hub)
  | .noteTrack ip trackId => some (hub.withPeer ip (·.noteTrack trackId))
  | .streamBody => some ((), hub)
  | .clientCount => some (hub.wsClients.length, hub)
  | .upgrade => some (input.upgraded, hub)
  | .nextId => some (hub.nextId, { hub with nextId := hub.nextId + 1 })
  | .insertSocket id => some ((), { hub with wsClients := id :: hub.wsClients })
  | .nextFrame => some (input.frame, hub)
  | .setListening ip on => some (hub.withPeer ip (·.setListening on))
  | .abortWriter => some ((), hub)
  | .removeSocket id => some ((), { hub with wsClients := hub.wsClients.erase id })

end Hub

/-! ## Tasks -/

def ask (op : Op) : Task op.Answer := Program.perform (S := signature) op

def playerEnabled : Task Bool := ask .playerEnabled
def takePeerSlot (slot : Slot) (ip : String) : Task Bool := ask (.takeSlot slot ip)
def refundSlot (slot : Slot) (ip : String) : Task Unit := ask (.refundSlot slot ip)
def releaseSlot (slot : Slot) (ip : String) : Task Unit := ask (.releaseSlot slot ip)
def addClient : Task Bool := ask .addClient
def removeClient : Task Unit := ask .removeClient
def readCurrent : Task (Option SpotifyState) := ask .readCurrent
def noteTrack (ip trackId : String) : Task Unit := ask (.noteTrack ip trackId)
def streamBody : Task Unit := ask .streamBody
def clientCount : Task Nat := ask .clientCount
def upgrade : Task Bool := ask .upgrade
def nextId : Task Nat := ask .nextId
def insertSocket (id : Nat) : Task Unit := ask (.insertSocket id)
def nextFrame : Task (Option Frame) := ask .nextFrame
def setListening (ip : String) (on : Bool) : Task Unit := ask (.setListening ip on)
def abortWriter : Task Unit := ask .abortWriter
def removeSocket (id : Nat) : Task Unit := ask (.removeSocket id)

/-- Note the track which is streamed to an address. -/
def noteCurrent (ip : String) : Option SpotifyState → Task Unit
  | some { track := some track, .. } => noteTrack ip track.id
  | _ => pure ()

/-- The drop of a `ListenerStream`. -/
def dropListener (ip : String) : Task Unit := do
  removeClient
  releaseSlot .streams ip

/-- `handle_stream` for an address, and its `ListenerStream` until that is dropped. -/
def handleStream (ip : String) : Task Unit := do
  if ← playerEnabled then
    if ← takePeerSlot .streams ip then
      if ← addClient then
        noteCurrent ip (← readCurrent)
        streamBody
        dropListener ip
      else
        refundSlot .streams ip
    else
      pure ()
  else
    pure ()

/-- The receiving loop of a socket, over a number of frames.  The flag keeps the per-IP tally
balanced. -/
def serveFrames (ip : String) : Nat → Bool → Task Bool
  | 0, listening => pure listening
  | frames + 1, listening => do
      match ← nextFrame with
      | none => pure listening
      | some frame =>
          match parseListeningMessage frame with
          | none => serveFrames ip frames listening
          | some on =>
              if on ≠ listening then
                setListening ip on
                serveFrames ip frames on
              else
                serveFrames ip frames listening

/-- The end of a socket. -/
def endSocket (ip : String) (id : Nat) (listening : Bool) : Task Unit := do
  abortWriter
  if listening then
    setListening ip false
  removeSocket id
  releaseSlot .sockets ip

/-- `handle_socket`, for a socket which ends within a number of frames. -/
def handleSocket (ip : String) (frames : Nat) : Task Unit := do
  let id ← nextId
  insertSocket id
  let listening ← serveFrames ip frames false
  endSocket ip id listening

/-- `handle_ws` for an address, and the callback run of its upgrade. -/
def handleWs (ip : String) (frames : Nat) : Task Unit := do
  if ← playerEnabled then
    let count ← clientCount
    if count < maxTotalWsClients then
      if ← takePeerSlot .sockets ip then
        if ← upgrade then
          handleSocket ip frames
        else
          refundSlot .sockets ip
      else
        pure ()
    else
      pure ()
  else
    pure ()

/-- A stream or a socket is asked for. -/
inductive Request
  | stream (ip : String)
  | socket (ip : String) (frames : Nat)

def accept : Request → Task Unit
  | .stream ip => handleStream ip
  | .socket ip frames => handleWs ip frames

/-- A change which no connection makes. -/
inductive Change
  | report (current : Option SpotifyState)
  | player (enabled : Bool)
  | clearClients
  | swapPipe (playingFile : Bool) (source : Stream.Source)

namespace Hub

def outside (hub : Hub) : Change → Hub
  | .report current => { hub with current := current }
  | .player enabled => { hub with playerEnabled := enabled }
  | .clearClients => { hub with wsClients := [] }
  | .swapPipe playingFile source =>
      { hub with stream := hub.stream.swapPipe playingFile source }

/-- Nothing is open at startup. -/
def start (playerEnabled : Bool) : Hub where
  playerEnabled := playerEnabled
  current := none
  peers := ∅
  stream := .new
  wsClients := []
  nextId := 0

end Hub

/-- All orders of streams, sockets and their ends. -/
def machine : Machine signature Hub Request Input Change where
  initial hub := ∃ playerEnabled, hub = .start playerEnabled
  accept hub _ request := some (accept request, hub)
  perform := Hub.perform
  outside hub change := some (hub.outside change)

/-! ## What each task holds -/

structure Trace where
  /-- The slot it has taken and not released. -/
  slot : Option (Slot × String) := none
  /-- Whether it is a listener of the stream manager. -/
  attached : Bool := false
  /-- What its socket has been noted to do. -/
  listening : Bool := false
  /-- What the last frame which said anything said, until the socket has ended. -/
  said : Bool := false

namespace Trace

def next (trace : Trace) : (op : Op) → op.Answer → Trace
  | .takeSlot slot ip, true => { trace with slot := some (slot, ip) }
  | .refundSlot _ _, _ | .releaseSlot _ _, _ => { trace with slot := none }
  | .addClient, true => { trace with attached := true }
  | .removeClient, _ => { trace with attached := false }
  | .setListening _ on, _ => { trace with listening := on }
  | .nextFrame, some frame => { trace with said := frame.said trace.said }
  | .abortWriter, _ => { trace with said := false }
  | _, _ => trace

/-- A socket whose frames are read. -/
def serving (ip : String) (listening : Bool) : Trace :=
  { slot := some (.sockets, ip), listening := listening, said := listening }

/-- What the socket said last has been noted. -/
def Settled (trace : Trace) : Prop := trace.said = trace.listening

/-- What a task may do with the slot it holds. -/
def Allows (trace : Trace) : Op → Prop
  | .takeSlot _ _ => trace = {}
  | .refundSlot slot ip | .releaseSlot slot ip => trace = { slot := some (slot, ip) }
  | .addClient => ∃ ip, trace = { slot := some (.streams, ip) }
  | .noteTrack ip _ => trace = { slot := some (.streams, ip), attached := true }
  | .removeClient | .streamBody => ∃ ip, trace = { slot := some (.streams, ip), attached := true }
  | .setListening ip on => trace = { slot := some (.sockets, ip), listening := !on, said := on }
  | _ => trace.Settled

/-- Only a socket which is about to note what it said may have said something else. -/
theorem Allows.settled {trace : Trace} {op : Op} (allowed : trace.Allows op)
    (other : ∀ ip on, op ≠ .setListening ip on) : trace.Settled := by
  cases op with
  | setListening ip on => exact absurd rfl (other ip on)
  | takeSlot slot ip =>
      obtain rfl : trace = {} := allowed
      rfl
  | refundSlot slot ip | releaseSlot slot ip =>
      obtain rfl : trace = { slot := some (slot, ip) } := allowed
      rfl
  | noteTrack ip trackId =>
      obtain rfl : trace = { slot := some (.streams, ip), attached := true } := allowed
      rfl
  | addClient | removeClient | streamBody =>
      obtain ⟨ip, rfl⟩ := allowed
      rfl
  | playerEnabled | readCurrent | clientCount | upgrade | nextId | insertSocket | nextFrame
  | abortWriter | removeSocket => exact allowed

end Trace

/-- The discipline of connections. -/
def discipline : Discipline signature Trace where
  start := {}
  next := Trace.next
  allows := Trace.Allows

namespace Trace

abbrev Guides {α : Type} (trace : Trace) (task : Task α) (finish : α → Trace → Prop) : Prop :=
  task.Obeys discipline trace finish

variable {trace : Trace}

theorem guides_noteCurrent {ip : String} (current : Option SpotifyState)
    (attached : trace = { slot := some (.streams, ip), attached := true }) :
    trace.Guides (noteCurrent ip current) fun _ after => after = trace := by
  unfold noteCurrent
  split
  · exact ⟨attached, fun _ => rfl⟩
  · rfl

theorem guides_handleStream (ip : String) :
    Guides {} (handleStream ip) fun _ after => after.Settled := by
  refine Program.Obeys.perform rfl ?_
  rintro (_ | _)
  · rfl
  · refine Program.Obeys.perform rfl ?_
    rintro (_ | _)
    · rfl
    · refine Program.Obeys.perform ⟨ip, rfl⟩ ?_
      rintro (_ | _)
      · exact ⟨rfl, fun _ => rfl⟩
      · refine Program.Obeys.perform rfl fun current => Program.Obeys.bind ?_
        refine (guides_noteCurrent current rfl).mono ?_
        rintro _ _ rfl
        refine Program.Obeys.perform ⟨ip, rfl⟩ fun _ => ?_
        refine Program.Obeys.perform ⟨ip, rfl⟩ fun _ => ?_
        exact ⟨rfl, fun _ => rfl⟩

/-- A frame which is read. -/
theorem serving_next (ip : String) (listening : Bool) (frame : Frame) :
    (serving ip listening).next .nextFrame (some frame) =
      { serving ip listening with said := (parseListeningMessage frame).getD listening } := by
  rw [← frame.said_eq]
  rfl

/-- The loop ends with the tally as its flag says, and the flag as the last frame said. -/
theorem guides_serveFrames (ip : String) (frames : Nat) (listening : Bool) :
    (serving ip listening).Guides (serveFrames ip frames listening) fun listening after =>
      after = serving ip listening := by
  induction frames generalizing listening with
  | zero => rfl
  | succ frames ih =>
      refine Program.Obeys.perform rfl fun received => ?_
      cases received with
      | none => rfl
      | some frame =>
          have said := serving_next ip listening frame
          dsimp only
          split
          · rename_i silent
            rw [silent, Option.getD_none] at said
            have same : discipline.next (serving ip listening) .nextFrame (some frame) =
                serving ip listening := said
            rw [same]
            exact ih listening
          · rename_i on spoken
            rw [spoken, Option.getD_some] at said
            have heard : discipline.next (serving ip listening) .nextFrame (some frame) =
                { serving ip listening with said := on } := said
            rw [heard]
            split
            · rename_i changed
              have turned : listening = !on := by
                cases on <;> cases listening <;> first | rfl | exact absurd rfl changed
              refine Program.Obeys.perform ?_ fun _ => ih on
              rw [turned]
              rfl
            · rename_i unchanged
              obtain rfl : on = listening := not_not.mp unchanged
              exact ih on

theorem guides_endSocket (ip : String) (id : Nat) (listening : Bool) :
    (serving ip listening).Guides (endSocket ip id listening) fun _ after => after.Settled := by
  have ends : Guides { slot := some (.sockets, ip) }
      (removeSocket id >>= fun _ => releaseSlot .sockets ip) fun _ after => after.Settled := by
    refine Program.Obeys.perform rfl fun _ => ?_
    exact ⟨rfl, fun _ => rfl⟩
  refine Program.Obeys.perform rfl fun _ => ?_
  cases listening with
  | false => exact ends
  | true => exact Program.Obeys.perform rfl fun _ => ends

theorem guides_handleWs (ip : String) (frames : Nat) :
    Guides {} (handleWs ip frames) fun _ after => after.Settled := by
  refine Program.Obeys.perform rfl ?_
  rintro (_ | _)
  · rfl
  · refine Program.Obeys.perform rfl fun count => ?_
    split
    · refine Program.Obeys.perform rfl ?_
      rintro (_ | _)
      · rfl
      · refine Program.Obeys.perform rfl ?_
        rintro (_ | _)
        · exact ⟨rfl, fun _ => rfl⟩
        · refine Program.Obeys.perform rfl fun id => ?_
          refine Program.Obeys.perform rfl fun _ => Program.Obeys.bind ?_
          refine (guides_serveFrames ip frames false).mono ?_
          rintro listening _ rfl
          exact guides_endSocket ip id listening
    · rfl

/-- A connection has noted what its socket said last, except right before it notes it. -/
theorem guides_accept (request : Request) :
    Guides {} (accept request) fun _ after => after.Settled := by
  cases request with
  | stream ip => exact guides_handleStream ip
  | socket ip frames => exact guides_handleWs ip frames

end Trace

/-! ## The books -/

namespace Trace

/-- It has a slot of an address. -/
def Holds (slot : Slot) (ip : String) (trace : Trace) : Prop := trace.slot = some (slot, ip)

/-- It is a socket of an address and listens. -/
def Listens (ip : String) (trace : Trace) : Prop :=
  trace.Holds .sockets ip ∧ trace.listening = true

def Attached (trace : Trace) : Prop := trace.attached = true

end Trace

namespace Hub

/-- The counts of an address. -/
def peer (hub : Hub) (ip : String) : Peer := hub.peers.entry ip

variable {hub after : Hub} {traces : Nat → Trace} {actor : Nat} {next : Trace} {ip : String}
  {peer : Peer}

/-- The invariant of all interleavings. -/
structure Balanced (hub : Hub) (traces : Nat → Trace) : Prop where
  slots : ∀ slot ip, Tally (Trace.Holds slot ip) traces ((hub.peer ip).count slot)
  listening : ∀ ip, Tally (Trace.Listens ip) traces (hub.peer ip).listening
  attached : Tally Trace.Attached traces hub.stream.listeners
  slots_le : ∀ slot ip, (hub.peer ip).count slot ≤ maxConnectionsPerIp
  listeners_le : hub.stream.listeners ≤ maxTotalStreamListeners
  tidy : hub.peers.Tidy
  streams : ∀ task, (traces task).Attached → ∃ ip, (traces task).Holds .streams ip

theorem Balanced.keep (balanced : hub.Balanced traces)
    (counts : ∀ slot ip, (after.peer ip).count slot = (hub.peer ip).count slot)
    (listening : ∀ ip, (after.peer ip).listening = (hub.peer ip).listening)
    (tidy : after.peers.Tidy) (listeners : after.stream.listeners = hub.stream.listeners) :
    after.Balanced traces where
  slots slot ip := counts slot ip ▸ balanced.slots slot ip
  listening ip := listening ip ▸ balanced.listening ip
  attached := listeners ▸ balanced.attached
  slots_le slot ip := counts slot ip ▸ balanced.slots_le slot ip
  listeners_le := listeners ▸ balanced.listeners_le
  tidy := tidy
  streams := balanced.streams

theorem Balanced.hear (balanced : hub.Balanced traces) (slot : next.slot = (traces actor).slot)
    (attached : next.attached = (traces actor).attached)
    (listening : next.listening = (traces actor).listening) :
    hub.Balanced (Function.update traces actor next) where
  slots held ip := (balanced.slots held ip).stay (by rw [Trace.Holds, slot]; rfl)
  listening ip := (balanced.listening ip).stay (by
    rw [Trace.Listens, Trace.Holds, slot, listening]; rfl)
  attached := balanced.attached.stay (by rw [Trace.Attached, attached]; rfl)
  slots_le := balanced.slots_le
  listeners_le := balanced.listeners_le
  tidy := balanced.tidy
  streams := (Function.forall_update_iff traces fun _ trace =>
    trace.Attached → ∃ ip, trace.Holds .streams ip).mpr ⟨by
      rw [Trace.Attached, attached]
      intro held
      obtain ⟨ip, holds⟩ := balanced.streams actor held
      exact ⟨ip, slot.trans holds⟩, fun task _ => balanced.streams task⟩

/-- An address is looked at, and its counts stay. -/
theorem Balanced.look (balanced : hub.Balanced traces)
    (counts : ∀ slot, peer.count slot = (hub.peer ip).count slot)
    (listening : peer.listening = (hub.peer ip).listening) :
    { hub with peers := hub.peers.settle ip peer }.Balanced traces := by
  obtain ⟨settled, listening_settled⟩ := PeerMap.entry_settle hub.peers ip peer
  refine balanced.keep ?_ ?_ (balanced.tidy.settle ip peer) rfl
  · intro slot other
    by_cases same : other = ip
    · subst same
      exact (settled slot).trans (counts slot)
    · simp [Hub.peer, PeerMap.entry_settle_of_ne same]
  · intro other
    by_cases same : other = ip
    · subst same
      exact listening_settled.trans listening
    · simp [Hub.peer, PeerMap.entry_settle_of_ne same]

/-- A step which changes the counts of one address as it changes what a task holds there. -/
theorem Balanced.settle (balanced : hub.Balanced traces)
    (slots : ∀ slot, Tally (Trace.Holds slot ip) (Function.update traces actor next)
      (peer.count slot))
    (listening : Tally (Trace.Listens ip) (Function.update traces actor next) peer.listening)
    (slots_le : ∀ slot, peer.count slot ≤ maxConnectionsPerIp)
    (elsewhere : ∀ slot other, other ≠ ip →
      ¬ (traces actor).Holds slot other ∧ ¬ next.Holds slot other)
    (attached : next.attached = (traces actor).attached)
    (streams : next.Attached → next.Holds .streams ip) :
    { hub with peers := hub.peers.settle ip peer }.Balanced
      (Function.update traces actor next) := by
  obtain ⟨counts, listening_eq⟩ := PeerMap.entry_settle hub.peers ip peer
  refine ⟨?_, ?_, ?_, ?_, balanced.listeners_le, balanced.tidy.settle ip peer, ?_⟩
  · intro slot other
    by_cases same : other = ip
    · subst same
      simpa [Hub.peer, counts] using slots slot
    · obtain ⟨before, after⟩ := elsewhere slot other same
      have kept := (balanced.slots slot other).stay (iff_of_false after before)
      simpa [Hub.peer, PeerMap.entry_settle_of_ne same] using kept
  · intro other
    by_cases same : other = ip
    · subst same
      simpa [Hub.peer, listening_eq] using listening
    · obtain ⟨before, after⟩ := elsewhere .sockets other same
      have kept := (balanced.listening other).stay
        (iff_of_false (fun listens => after listens.1) (fun listens => before listens.1))
      simpa [Hub.peer, PeerMap.entry_settle_of_ne same] using kept
  · apply balanced.attached.stay
    rw [Trace.Attached, attached]
    rfl
  · intro slot other
    by_cases same : other = ip
    · subst same
      simpa [Hub.peer, counts] using slots_le slot
    · simpa [Hub.peer, PeerMap.entry_settle_of_ne same] using balanced.slots_le slot other
  · refine (Function.forall_update_iff traces fun _ trace =>
      trace.Attached → ∃ ip, trace.Holds .streams ip).mpr ⟨?_, fun task _ => balanced.streams task⟩
    exact fun attached => ⟨ip, streams attached⟩

/-- Whoever holds one slot holds no other. -/
theorem not_holds_of_eq {trace : Trace} {slot other : Slot} {ip address : String}
    (held : trace.slot = some (slot, ip)) (different : (other, address) ≠ (slot, ip)) :
    ¬ trace.Holds other address := by
  intro holds
  exact different (Option.some.inj (holds.symm.trans held))

theorem not_holds_of_none {trace : Trace} (free : trace.slot = none) (slot : Slot) (ip : String) :
    ¬ trace.Holds slot ip := by
  intro holds
  exact Option.some_ne_none _ (holds.symm.trans free)

/-- A task without a slot takes one, if one is free. -/
theorem Balanced.takeSlot (balanced : hub.Balanced traces) (idle : traces actor = {}) (slot : Slot)
    (ip : String) :
    (hub.withPeer ip (·.takeSlot slot)).2.Balanced (Function.update traces actor
      ((traces actor).next (.takeSlot slot ip) (hub.withPeer ip (·.takeSlot slot)).1)) := by
  have unheld : ∀ slot ip, ¬ (traces actor).Holds slot ip := by
    rw [idle]
    exact not_holds_of_none rfl
  by_cases free : (hub.peer ip).count slot < maxConnectionsPerIp
  · have taken : hub.withPeer ip (·.takeSlot slot) =
        (true, { hub with
          peers := hub.peers.settle ip
            ((hub.peer ip).setCount slot ((hub.peer ip).count slot + 1)) }) := by
      simp only [withPeer, PeerMap.withPeer, Peer.takeSlot, Peers.takeSlot]
      simp only [Hub.peer] at free
      simp [free, Hub.peer]
    rw [taken, show (traces actor).next (.takeSlot slot ip) true = { slot := some (slot, ip) } by
      rw [idle]; rfl]
    apply balanced.settle
    · intro other
      by_cases same : other = slot
      · subst same
        rw [Peer.count_setCount_self]
        exact (balanced.slots other ip).enter (unheld other ip) rfl
      · rw [Peer.count_setCount_of_ne _ same]
        apply (balanced.slots other ip).stay
        exact iff_of_false (not_holds_of_eq rfl (by simp [same])) (unheld other ip)
    · rw [Peer.setCount_listening]
      apply (balanced.listening ip).stay
      exact iff_of_false (fun listens => Bool.false_ne_true listens.2)
        (fun listens => unheld .sockets ip listens.1)
    · intro other
      by_cases same : other = slot
      · subst same
        rw [Peer.count_setCount_self]
        exact free
      · rw [Peer.count_setCount_of_ne _ same]
        exact balanced.slots_le other ip
    · intro other address different
      exact ⟨unheld other address, not_holds_of_eq rfl (by simp [different])⟩
    · rw [idle]
    · intro attached
      exact absurd attached Bool.false_ne_true
  · have refused : hub.withPeer ip (·.takeSlot slot) =
        (false, { hub with
          peers := hub.peers.settle ip
            ((hub.peer ip).setCount slot ((hub.peer ip).count slot)) }) := by
      simp only [withPeer, PeerMap.withPeer, Peer.takeSlot, Peers.takeSlot]
      simp only [Hub.peer] at free
      simp [free, Hub.peer]
    rw [refused, show (traces actor).next (.takeSlot slot ip) false = traces actor from rfl,
      Function.update_eq_self]
    apply balanced.look
    · intro other
      by_cases same : other = slot
      · subst same
        exact Peer.count_setCount_self _ _ _
      · exact Peer.count_setCount_of_ne _ same _
    · exact Peer.setCount_listening _ _ _

/-- A task which holds nothing but a slot gives it back. -/
theorem Balanced.freeSlot (balanced : hub.Balanced traces) {slot : Slot}
    (held : traces actor = { slot := some (slot, ip) }) :
    { hub with
      peers := hub.peers.settle ip
        ((hub.peer ip).setCount slot ((hub.peer ip).count slot - 1)) }.Balanced
          (Function.update traces actor {}) := by
  have unheld : ∀ slot ip, ¬ Trace.Holds slot ip {} := not_holds_of_none rfl
  have own : (traces actor).slot = some (slot, ip) := by rw [held]
  apply balanced.settle
  · intro other
    by_cases same : other = slot
    · subst same
      rw [Peer.count_setCount_self]
      exact (balanced.slots other ip).leave own (unheld other ip)
    · rw [Peer.count_setCount_of_ne _ same]
      apply (balanced.slots other ip).stay
      exact iff_of_false (unheld other ip) (not_holds_of_eq own (by simp [same]))
  · rw [Peer.setCount_listening]
    apply (balanced.listening ip).stay
    apply iff_of_false (fun listens => unheld .sockets ip listens.1)
    rw [held]
    exact fun listens => Bool.false_ne_true listens.2
  · intro other
    have bound := balanced.slots_le other ip
    by_cases same : other = slot
    · subst same
      rw [Peer.count_setCount_self]
      omega
    · rw [Peer.count_setCount_of_ne _ same]
      exact bound
  · intro other address different
    exact ⟨not_holds_of_eq own (by simp [different]), unheld other address⟩
  · rw [held]
  · intro attached
    exact absurd attached Bool.false_ne_true

theorem Balanced.count_pos (balanced : hub.Balanced traces) {slot : Slot}
    (held : traces actor = { slot := some (slot, ip) }) : 0 < (hub.peer ip).count slot := by
  apply (balanced.slots slot ip).pos
  rw [held]
  rfl

theorem Balanced.refundSlot (balanced : hub.Balanced traces) {slot : Slot}
    (held : traces actor = { slot := some (slot, ip) }) :
    (hub.withPeer ip (·.refundSlot slot)).2.Balanced (Function.update traces actor {}) := by
  have counted := balanced.count_pos held
  have refunded : minusOne ((hub.peer ip).count slot) = (hub.peer ip).count slot - 1 :=
    if_neg (by omega)
  have freed := balanced.freeSlot held
  rw [← refunded] at freed
  exact freed

/-- A socket says that it listens now, or that it has stopped. -/
theorem Balanced.setListening (balanced : hub.Balanced traces) {on : Bool}
    (serving : traces actor = { slot := some (.sockets, ip), listening := !on, said := on }) :
    (hub.withPeer ip (·.setListening on)).2.Balanced (Function.update traces actor
      (Trace.serving ip on)) := by
  have own : (traces actor).slot = some (.sockets, ip) := by rw [serving]
  have holds : ∀ slot, Tally (Trace.Holds slot ip)
      (Function.update traces actor (Trace.serving ip on)) ((hub.peer ip).count slot) := by
    intro slot
    apply (balanced.slots slot ip).stay
    rw [serving]
    rfl
  have settled : ∀ listening, Tally (Trace.Listens ip)
      (Function.update traces actor (Trace.serving ip on)) listening →
      { hub with
        peers := hub.peers.settle ip { hub.peer ip with listening := listening } }.Balanced
          (Function.update traces actor (Trace.serving ip on)) := by
    intro listening tally
    apply balanced.settle
    · intro slot
      have same := holds slot
      cases slot <;> exact same
    · exact tally
    · intro slot
      have bound := balanced.slots_le slot ip
      cases slot <;> exact bound
    · intro slot other different
      exact ⟨not_holds_of_eq own (by simp [different]), not_holds_of_eq rfl (by simp [different])⟩
    · rw [serving]
      rfl
    · intro attached
      exact absurd attached Bool.false_ne_true
  cases on with
  | true =>
      apply settled
      apply (balanced.listening ip).enter
      · rw [serving]
        exact fun listens => Bool.false_ne_true listens.2
      · exact ⟨rfl, rfl⟩
  | false =>
      have listens : (traces actor).Listens ip := by
        rw [serving]
        exact ⟨rfl, rfl⟩
      have counted := (balanced.listening ip).pos listens
      have lowered := settled _ ((balanced.listening ip).leave listens
        (fun listens => Bool.false_ne_true listens.2))
      have outcome : (hub.withPeer ip (·.setListening false)).2 =
          { hub with
            peers := hub.peers.settle ip
              { hub.peer ip with listening := (hub.peer ip).listening - 1 } } := by
        have positive : 0 < (hub.peers.entry ip).listening := counted
        simp [withPeer, PeerMap.withPeer, Peer.setListening, positive, Hub.peer]
      rw [outcome]
      exact lowered

theorem Balanced.addClient (balanced : hub.Balanced traces)
    (waiting : traces actor = { slot := some (.streams, ip) }) :
    hub.addClient.2.Balanced
      (Function.update traces actor ((traces actor).next .addClient hub.addClient.1)) := by
  by_cases full : maxTotalStreamListeners ≤ hub.stream.listeners
  · have refused : hub.addClient = (false, hub) := by
      simp [Hub.addClient, Stream.Manager.addClient, full]
    rw [refused, show (traces actor).next .addClient false = traces actor from rfl,
      Function.update_eq_self]
    exact balanced
  · have attached : hub.addClient =
        (true, { hub with
          stream := { hub.stream with listeners := hub.stream.listeners + 1 } }) := by
      simp [Hub.addClient, Stream.Manager.addClient, full]
    rw [attached]
    refine ⟨?_, ?_, ?_, balanced.slots_le, ?_, balanced.tidy, ?_⟩
    · exact fun slot ip => (balanced.slots slot ip).stay Iff.rfl
    · exact fun ip => (balanced.listening ip).stay Iff.rfl
    · apply balanced.attached.enter
      · rw [waiting]
        exact Bool.false_ne_true
      · rfl
    · change hub.stream.listeners + 1 ≤ maxTotalStreamListeners
      omega
    · refine (Function.forall_update_iff traces fun _ trace =>
        trace.Attached → ∃ ip, trace.Holds .streams ip).mpr
          ⟨fun _ => ⟨ip, ?_⟩, fun task _ => balanced.streams task⟩
      rw [waiting]
      rfl

theorem Balanced.removeClient (balanced : hub.Balanced traces)
    (listener : traces actor = { slot := some (.streams, ip), attached := true }) :
    { hub with stream := hub.stream.removeClient }.Balanced
      (Function.update traces actor { slot := some (.streams, ip) }) := by
  have listeners : hub.stream.removeClient.listeners = hub.stream.listeners - 1 := rfl
  refine ⟨?_, ?_, ?_, balanced.slots_le, ?_, balanced.tidy, ?_⟩
  · intro slot ip
    apply (balanced.slots slot ip).stay
    rw [listener]
    rfl
  · intro ip
    apply (balanced.listening ip).stay
    rw [listener]
    rfl
  · apply balanced.attached.leave
    · rw [listener]
      rfl
    · exact Bool.false_ne_true
  · have bound := balanced.listeners_le
    change hub.stream.removeClient.listeners ≤ maxTotalStreamListeners
    omega
  · exact (Function.forall_update_iff traces fun _ trace =>
      trace.Attached → ∃ ip, trace.Holds .streams ip).mpr
        ⟨fun _ => ⟨ip, rfl⟩, fun task _ => balanced.streams task⟩

theorem Balanced.perform (balanced : hub.Balanced traces) {op : Op} {input : Input}
    {answer : op.Answer} (allowed : (traces actor).Allows op)
    (performed : hub.perform actor op input = some (answer, after)) :
    after.Balanced (Function.update traces actor ((traces actor).next op answer)) := by
  cases op with
  | takeSlot slot ip =>
      obtain ⟨rfl, rfl⟩ := Prod.mk.inj (Option.some.inj performed)
      exact balanced.takeSlot allowed slot ip
  | refundSlot slot ip =>
      obtain ⟨-, rfl⟩ := Prod.mk.inj (Option.some.inj performed)
      have freed := balanced.refundSlot allowed
      rwa [show (traces actor).next (.refundSlot slot ip) answer = {} by rw [allowed]; rfl]
  | releaseSlot slot ip =>
      obtain ⟨-, rfl⟩ := Prod.mk.inj (Option.some.inj performed)
      have freed := balanced.freeSlot allowed
      rwa [show (traces actor).next (.releaseSlot slot ip) answer = {} by rw [allowed]; rfl]
  | addClient =>
      obtain ⟨rfl, rfl⟩ := Prod.mk.inj (Option.some.inj performed)
      obtain ⟨ip, waiting⟩ := allowed
      exact balanced.addClient waiting
  | removeClient =>
      obtain ⟨-, rfl⟩ := Prod.mk.inj (Option.some.inj performed)
      obtain ⟨ip, listener⟩ := allowed
      have detached := balanced.removeClient listener
      rwa [show (traces actor).next .removeClient answer = { slot := some (.streams, ip) } by
        rw [listener]; rfl]
  | noteTrack ip trackId =>
      obtain ⟨-, rfl⟩ := Prod.mk.inj (Option.some.inj performed)
      rw [show (traces actor).next (.noteTrack ip trackId) answer = traces actor from rfl,
        Function.update_eq_self]
      obtain ⟨counts, listening⟩ := Peer.noteTrack_counts trackId (hub.peer ip)
      exact balanced.look counts listening
  | setListening ip on =>
      obtain ⟨-, rfl⟩ := Prod.mk.inj (Option.some.inj performed)
      have said := balanced.setListening allowed
      rwa [show (traces actor).next (.setListening ip on) answer = Trace.serving ip on by
        rw [allowed]; rfl]
  | nextFrame =>
      obtain ⟨rfl, rfl⟩ := Prod.mk.inj (Option.some.inj performed)
      cases received : input.frame with
      | none => exact balanced.hear rfl rfl rfl
      | some frame => exact balanced.hear rfl rfl rfl
  | abortWriter =>
      obtain ⟨-, rfl⟩ := Prod.mk.inj (Option.some.inj performed)
      exact balanced.hear rfl rfl rfl
  | playerEnabled | readCurrent | streamBody | clientCount | upgrade | nextId | insertSocket
  | removeSocket =>
      obtain ⟨-, rfl⟩ := Prod.mk.inj (Option.some.inj performed)
      change Balanced _ (Function.update traces actor (traces actor))
      rw [Function.update_eq_self]
      exact balanced.keep (fun _ _ => rfl) (fun _ => rfl) balanced.tidy rfl

theorem balanced_start (playerEnabled : Bool) : (start playerEnabled).Balanced fun _ => {} := by
  have none : ∀ ip, (start playerEnabled).peer ip = {} := fun _ => rfl
  refine ⟨?_, ?_, ?_, ?_, Nat.zero_le _, nofun, nofun⟩
  · intro slot ip
    rw [none]
    cases slot <;> exact Tally.empty fun _ => not_holds_of_none rfl _ ip
  · exact fun ip => Tally.empty fun _ listens => not_holds_of_none rfl .sockets ip listens.1
  · exact Tally.empty fun _ => Bool.false_ne_true
  · intro slot ip
    rw [none]
    cases slot <;> exact Nat.zero_le _

end Hub

theorem safe : machine.Safe discipline (fun _ _ _ _ _ => True) Hub.Balanced where
  initial := by
    rintro _ ⟨playerEnabled, rfl⟩
    exact Hub.balanced_start playerEnabled
  accept hub traces actor request program after balanced _ accepted := by
    obtain ⟨rfl, rfl⟩ := Prod.mk.inj (Option.some.inj accepted)
    exact ⟨balanced, (Trace.guides_accept request).mono fun _ _ _ => trivial⟩
  perform hub traces actor op input answer after balanced allowed _ performed :=
    balanced.perform allowed performed
  outside hub traces change after balanced changed := by
    obtain rfl := Option.some.inj changed
    cases change <;> exact balanced.keep (fun _ _ => rfl) (fun _ => rfl) balanced.tidy rfl

/-- All interleavings of streams and sockets. -/
abbrev system := machine.system discipline

/-- A socket has read a frame which changes what it said, or has ended, and is about to note it. -/
def Midway (pool : Pool signature Hub Trace) (task : Nat) : Prop :=
  ∃ ip on next, pool.task task = .call (.setListening ip on) next

/-- A socket of an address whose last frame that took effect said that it listens. -/
def Listens (pool : Pool signature Hub Trace) (ip : String) (task : Nat) : Prop :=
  (pool.trace task).Holds .sockets ip ∧ ((pool.trace task).said = true ↔ ¬ Midway pool task)

/-- The program has started, with the player on. -/
def opened : Pool signature Hub Trace := Machine.boot discipline (.start true)

theorem opened_initial : system.initial opened := ⟨_, ⟨true, rfl⟩, rfl⟩

/-- Some steps of one connection. -/
def advance (actor count : Nat) (input : Input) : List (PoolEvent Request Input Change) :=
  List.replicate count (.advance actor input)

/-- Of two streams from one address one is dropped, a socket from there listens, and the upgrade of
another has failed. -/
def visit : List (PoolEvent Request Input Change) :=
  [.start (.stream "203.0.113.7"), .start (.stream "203.0.113.7"),
    .start (.socket "203.0.113.7" 9), .start (.socket "203.0.113.7" 9)] ++
    advance 0 4 {} ++ advance 1 7 {} ++
      advance 2 8 { frame := some { type := some "listening", listening := some true } } ++
        advance 3 5 { upgraded := false }

end Togewire.Server.Peers
