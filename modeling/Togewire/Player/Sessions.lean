import Togewire.Foundation.Program
import Togewire.Player.Page
import Togewire.Stream.Lagging

/-!
# Pages and the stream

Any number of pages follow the server over WebSockets and fetch `/stream`, while the input of the
stream switches at will.  A frame may be assembled across a switch, wait in a queue, or come after
a later one; a request may be handled long after it was made, or more than once.  Generations only
grow, so a page whose last frame names the present generation fetched its stream since that
generation began.
-/

namespace Togewire.Player

open Interleaving Togewire.Stream Transition

/-- The server's end of one socket. -/
structure Connection where
  /-- Frames on their way to the page. -/
  incoming : List TrackUpdate := []
  /-- The `listening` flag of `handle_socket`. -/
  listening : Bool := false
  /-- The socket's task has not ended. -/
  alive : Bool := true

/-- The server and all pages. -/
structure World where
  station : Station
  togedemonLive : Bool
  playerEnabled : Bool
  current : Option SpotifyState
  wsClients : List Nat
  nextId : Nat
  connections : Nat → Connection
  pages : Nat → Page
  /-- The connection of each page's socket, once it was upgraded. -/
  link : Nat → Option Nat
  /-- The listeners attached for each request of a page. -/
  bodies : Nat → Nat → List Nat
  /-- History: the generation at which each request was made. -/
  issued : Nat → Nat → Nat

/-- The generation on the air. -/
def World.generation (world : World) : Nat := world.station.manager.generation

/-! ## The server -/

/-- The operations of the server's tasks. -/
inductive Op
  /-- A request of a page comes in, for the first time or again. -/
  | receive (page number : Nat)
  | playerEnabled
  | togedemonLive
  | hasTrack
  | generation
  | listenerCount
  | isPreparing (track : Track)
  | recentlyFailed (track : Track)
  | readCurrent
  | clients
  | insertClient (id : Nat)
  | trySend (id : Nat) (update : TrackUpdate)
  | takeSlot
  | refundSlot
  | addClient (page number : Nat)

def Op.Answer : Op → Type
  | playerEnabled | togedemonLive | hasTrack | isPreparing _ | recentlyFailed _ | takeSlot
  | addClient _ _ => Bool
  | generation | listenerCount => Nat
  | readCurrent => Option SpotifyState
  | clients => List Nat
  | receive _ _ | insertClient _ | trySend _ _ | refundSlot => Unit

abbrev signature : Signature := ⟨Op, Op.Answer⟩

abbrev Task := Program signature

/-- What a step leaves to the rest of the server. -/
structure Input where
  /-- The track is being prepared. -/
  preparing : Bool := false
  /-- The track failed a short while ago. -/
  failed : Bool := false
  /-- The address has a slot left. -/
  slot : Bool := true
  /-- The client's queue is full. -/
  full : Bool := false

namespace World

/-- Put a frame on a connection, unless its queue is full or its task has ended. -/
def trySend (world : World) (id : Nat) (update : TrackUpdate) (full : Bool) : World :=
  if full || !(world.connections id).alive then
    world
  else
    { world with
      connections := Function.update world.connections id
        { world.connections id with
          incoming := (world.connections id).incoming ++ [update] } }

/-- Attach a listener for a request. -/
def addClient (world : World) (page number : Nat) : Bool × World :=
  match world.station.manager.addClient Server.Peers.maxTotalStreamListeners with
  | none => (false, world)
  | some _ =>
      (true,
        { world with
          station := world.station.addClient Server.Peers.maxTotalStreamListeners
          bodies := Function.update world.bodies page
            (Function.update (world.bodies page) number
              (world.bodies page number ++ [world.station.attached.length])) })

def perform (world : World) (_ : Nat) (op : Op) (input : Input) : Option (op.Answer × World) :=
  match op with
  | .receive page number =>
      if number < (world.pages page).requests then some ((), world) else none
  | .playerEnabled => some (world.playerEnabled, world)
  | .togedemonLive => some (world.togedemonLive, world)
  | .hasTrack => some (world.station.manager.hasTrack, world)
  | .generation => some (world.generation, world)
  | .listenerCount => some (world.station.manager.listeners, world)
  | .isPreparing _ => some (input.preparing, world)
  | .recentlyFailed _ => some (input.failed, world)
  | .readCurrent => some (world.current, world)
  | .clients => some (world.wsClients, world)
  | .insertClient id => some ((), { world with wsClients := id :: world.wsClients })
  | .trySend id update => some ((), world.trySend id update input.full)
  | .takeSlot => some (input.slot, world)
  | .refundSlot => some ((), world)
  | .addClient page number => some (world.addClient page number)

end World

def ask (op : Op) : Task op.Answer := Program.perform (S := signature) op

def receive (page number : Nat) : Task Unit := ask (.receive page number)
def playerEnabled : Task Bool := ask .playerEnabled
def togedemonLive : Task Bool := ask .togedemonLive
def hasTrack : Task Bool := ask .hasTrack
def generation : Task Nat := ask .generation
def listenerCount : Task Nat := ask .listenerCount
def isPreparing (track : Track) : Task Bool := ask (.isPreparing track)
def recentlyFailed (track : Track) : Task Bool := ask (.recentlyFailed track)
def readCurrent : Task (Option SpotifyState) := ask .readCurrent
def clients : Task (List Nat) := ask .clients
def insertClient (id : Nat) : Task Unit := ask (.insertClient id)
def trySend (id : Nat) (update : TrackUpdate) : Task Unit := ask (.trySend id update)
def takeSlot : Task Bool := ask .takeSlot
def refundSlot : Task Unit := ask .refundSlot
def addClient (page number : Nat) : Task Bool := ask (.addClient page number)

/-- A togedemon is live, or a cached file plays. -/
def streamActive : Task Bool := do
  if ← togedemonLive then
    pure true
  else
    hasTrack

/-- `track_update_message`: each field is read at a moment of its own. -/
def trackUpdateMessage (s : SpotifyState) : Task TrackUpdate := do
  let active ← streamActive
  let streamGen ← generation
  let listeners ← listenerCount
  match s.track with
  | none => pure { streamActive := active, streamGen, listenerCount := listeners }
  | some track =>
      let preparing ← isPreparing track
      let noSource ← recentlyFailed track
      pure
        { track := some track
          progress := s.progress
          isPlaying := s.isPlaying
          streamActive := active
          streamGen
          listenerCount := listeners
          preparing, noSource }

/-- An update goes to these clients, one after the other. -/
def sendAll (update : TrackUpdate) : List Nat → Task Unit
  | [] => pure ()
  | id :: ids => do
      trySend id update
      sendAll update ids

/-- `broadcast_track_update` -/
def broadcastTrackUpdate (s : SpotifyState) : Task Unit := do
  let update ← trackUpdateMessage s
  let ids ← clients
  sendAll update ids

/-- `rebroadcast` -/
def rebroadcast : Task Unit := do
  match ← readCurrent with
  | none => pure ()
  | some s => broadcastTrackUpdate s

/-- The beginning of `handle_socket`: the new client gets a snapshot of its own. -/
def handleSocket (id : Nat) : Task Unit := do
  insertClient id
  match ← readCurrent with
  | none => pure ()
  | some s =>
      match s.track with
      | none => pure ()
      | some _ =>
          let update ← trackUpdateMessage s
          trySend id update

/-- `handle_stream`, up to its body. -/
def handleStream (page number : Nat) : Task Unit := do
  receive page number
  if ← playerEnabled then
    if ← takeSlot then
      if ← addClient page number then
        rebroadcast
      else
        refundSlot
    else
      pure ()
  else
    pure ()

/-! ## Runs -/

/-- What starts a task. -/
inductive Request
  /-- A poll or an admin change pushes a state. -/
  | broadcast (s : SpotifyState)
  | rebroadcast
  /-- The socket of a page is upgraded. -/
  | upgrade (page : Nat)
  /-- A connection for a request of a page. -/
  | fetch (page number : Nat)

/-- What happens between the tasks' steps. -/
inductive Change
  /-- The input of the stream, its producers, and listeners other than the pages'. -/
  | stream (event : StreamEvent)
  | togedemon (live : Bool)
  | player (enabled : Bool)
  | polled (current : Option SpotifyState)
  | removeClient (id : Nat)
  /-- A socket's task reads the next frame of its page. -/
  | heard (page : Nat)
  /-- A socket's task ends. -/
  | hangUp (id : Nat)
  /-- The page gets the next frame. -/
  | frame (page : Nat)
  | opened (page : Nat)
  | closed (page : Nat)
  | reconnect (page : Nat)
  | click (page : Nat)
  | pauseTimeout (page : Nat)

namespace World

/-- A page goes on, and what it requests is requested now. -/
def movePage (world : World) (page : Nat) (after : Page) : World :=
  { world with
    pages := Function.update world.pages page after
    issued := Function.update world.issued page fun number =>
      if (world.pages page).requests ≤ number then world.generation else world.issued page number }

/-- The next frame for a page with an open socket. -/
def nextFrame (world : World) (page : Nat) : Option (Nat × TrackUpdate × List TrackUpdate) :=
  match (world.pages page).ws, world.link page with
  | .opened, some id =>
      match (world.connections id).incoming with
      | [] => none
      | update :: rest => some (id, update, rest)
  | _, _ => none

/-- The next frame of a page for its connection. -/
def nextHeard (world : World) (page : Nat) :
    Option (Nat × Server.Peers.Frame × List Server.Peers.Frame) :=
  match world.link page with
  | none => none
  | some id =>
      if (world.connections id).alive then
        match (world.pages page).outgoing with
        | [] => none
        | frame :: rest => some (id, frame, rest)
      else
        none

/-- `listening` in `handle_socket` after a frame. -/
def hear (connection : Connection) (frame : Server.Peers.Frame) : Connection :=
  { connection with
    listening := (Server.Peers.parseListeningMessage frame).getD connection.listening }

def outside (world : World) : Change → Option World
  | .stream event => (world.station.step event).map fun station => { world with station }
  | .togedemon live => some { world with togedemonLive := live }
  | .player enabled => some { world with playerEnabled := enabled }
  | .polled current => some { world with current }
  | .removeClient id => some { world with wsClients := world.wsClients.erase id }
  | .heard page =>
      match world.nextHeard page with
      | none => none
      | some (id, frame, rest) =>
          some
            ({ world with
                connections := Function.update world.connections id
                  (hear (world.connections id) frame) }.movePage page
              { world.pages page with outgoing := rest })
  | .hangUp id =>
      some
        { world with
          connections := Function.update world.connections id
            { world.connections id with listening := false, alive := false } }
  | .frame page =>
      match world.nextFrame page with
      | none => none
      | some (id, update, rest) =>
          some
            ({ world with
                connections := Function.update world.connections id
                  { world.connections id with incoming := rest } }.movePage page
              ((world.pages page).onMessage update))
  | .opened page =>
      if (world.pages page).ws = .connecting ∧ (world.link page).isSome then
        some (world.movePage page (world.pages page).onOpen)
      else
        none
  | .closed page =>
      some { world.movePage page (world.pages page).onClose with
        link := Function.update world.link page none }
  | .reconnect page =>
      if (world.pages page).reconnectTimer then
        some (world.movePage page (world.pages page).connect)
      else
        none
  | .click page => some (world.movePage page (world.pages page).toggle)
  | .pauseTimeout page =>
      if (world.pages page).pauseTimeout then
        some (world.movePage page (world.pages page).pauseTimedOut)
      else
        none

/-- What a request starts, if it can be made. -/
def accept (world : World) (_ : Nat) : Request → Option (Task Unit × World)
  | .broadcast s => some (broadcastTrackUpdate s, world)
  | .rebroadcast => some (rebroadcast, world)
  | .upgrade page =>
      if (world.pages page).ws = .connecting ∧ world.link page = none then
        some (handleSocket world.nextId,
          { world with
            nextId := world.nextId + 1
            connections := Function.update world.connections world.nextId {}
            link := Function.update world.link page (some world.nextId) })
      else
        none
  | .fetch page number => some (handleStream page number, world)

end World

/-- The server at startup; pages load when they like. -/
def start (current : Option SpotifyState) (playerEnabled : Bool) : World where
  station := { manager := .new, attached := [] }
  togedemonLive := false
  playerEnabled := playerEnabled
  current := current
  wsClients := []
  nextId := 0
  connections _ := { alive := false }
  pages _ := {}
  link _ := none
  bodies _ _ := []
  issued _ _ := 0

/-- The server and its pages. -/
def machine : Machine signature World Request Input Change where
  initial world := ∃ current playerEnabled, world = start current playerEnabled
  accept := World.accept
  perform := World.perform
  outside := World.outside

/-! ## What a task knows -/

/-- What a task has read so far. -/
structure Known where
  /-- The generation it has read. -/
  generation : Option Nat := none
  /-- The request it serves. -/
  request : Option (Nat × Nat) := none

/-- A frame carries the generation its task has read, and a listener is attached for the request
which its task serves. -/
def discipline : Discipline signature Known where
  start := {}
  next known op answer :=
    match op, answer with
    | .generation, (generation : Nat) => { known with generation := some generation }
    | .receive page number, _ => { known with request := some (page, number) }
    | _, _ => known
  allows known op :=
    match op with
    | .trySend _ update => known.generation = some update.streamGen
    | .addClient page number => known.request = some (page, number)
    | _ => True

theorem obeys_trackUpdateMessage (s : SpotifyState) (known : Known) :
    (trackUpdateMessage s).Obeys discipline known fun update known =>
      known.generation = some update.streamGen := by
  apply Program.Obeys.bind
  have active : streamActive.Obeys discipline known fun _ _ => True := by
    apply Program.Obeys.perform trivial
    intro (live : Bool)
    cases live with
    | true => trivial
    | false => exact ⟨trivial, fun _ => trivial⟩
  apply active.mono
  intro streamActive known _
  apply Program.Obeys.perform trivial
  intro (streamGen : Nat)
  apply Program.Obeys.perform trivial
  intro listeners
  cases s.track with
  | none => rfl
  | some track => exact ⟨trivial, fun _ => ⟨trivial, fun _ => rfl⟩⟩

theorem obeys_sendAll {update : TrackUpdate} {known : Known}
    (read : known.generation = some update.streamGen) (ids : List Nat) :
    (sendAll update ids).Obeys discipline known fun _ _ => True := by
  induction ids with
  | nil => trivial
  | cons id ids ih => exact Program.Obeys.perform read fun _ => ih

theorem obeys_broadcastTrackUpdate (s : SpotifyState) (known : Known) :
    (broadcastTrackUpdate s).Obeys discipline known fun _ _ => True := by
  apply Program.Obeys.bind
  apply (obeys_trackUpdateMessage s known).mono
  intro update known read
  exact Program.Obeys.perform trivial fun ids => obeys_sendAll read ids

theorem obeys_rebroadcast (known : Known) :
    rebroadcast.Obeys discipline known fun _ _ => True := by
  apply Program.Obeys.perform trivial
  intro current
  cases current with
  | none => trivial
  | some s => exact obeys_broadcastTrackUpdate s known

theorem obeys_handleSocket (id : Nat) :
    (handleSocket id).Obeys discipline {} fun _ _ => True := by
  apply Program.Obeys.perform trivial
  intro _
  apply Program.Obeys.perform trivial
  intro current
  cases current with
  | none => trivial
  | some s =>
      cases shown : s.track with
      | none =>
          simp only [shown]
          trivial
      | some track =>
          simp only [shown]
          apply Program.Obeys.bind
          apply (obeys_trackUpdateMessage s {}).mono
          intro update known read
          exact ⟨read, fun _ => trivial⟩

theorem obeys_handleStream (page number : Nat) :
    (handleStream page number).Obeys discipline {} fun _ _ => True := by
  apply Program.Obeys.perform trivial
  intro _
  apply Program.Obeys.perform trivial
  intro (enabled : Bool)
  cases enabled with
  | false => trivial
  | true =>
      apply Program.Obeys.perform trivial
      intro (free : Bool)
      cases free with
      | false => trivial
      | true =>
          apply Program.Obeys.perform rfl
          intro (admitted : Bool)
          cases admitted with
          | false => exact ⟨trivial, fun _ => trivial⟩
          | true => exact obeys_rebroadcast _

theorem obeys_accept {world after : World} (actor : Nat) {request : Request} {program : Task Unit}
    (accepted : world.accept actor request = some (program, after)) :
    program.Obeys discipline discipline.start fun _ _ => True := by
  cases request with
  | broadcast s =>
      obtain ⟨rfl, -⟩ := Prod.mk.inj (Option.some.inj accepted)
      exact obeys_broadcastTrackUpdate s {}
  | rebroadcast =>
      obtain ⟨rfl, -⟩ := Prod.mk.inj (Option.some.inj accepted)
      exact obeys_rebroadcast {}
  | upgrade page =>
      obtain ⟨-, rfl, -⟩ := of_guarded_answer accepted
      exact obeys_handleSocket world.nextId
  | fetch page number =>
      obtain ⟨rfl, -⟩ := Prod.mk.inj (Option.some.inj accepted)
      exact obeys_handleStream page number

/-! ## Generations only grow -/

/-- No frame and no page names a generation which is still to come, and every listener of a request
is attached to a generation no older than the request. -/
structure Timely (world : World) (traces : Nat → Known) : Prop where
  tracked : world.station.Tracked
  read : ∀ task generation, (traces task).generation = some generation →
    generation ≤ world.generation
  received : ∀ task page number, (traces task).request = some (page, number) →
    number < (world.pages page).requests
  queued : ∀ id, ∀ update ∈ (world.connections id).incoming,
    update.streamGen ≤ world.generation
  shown : ∀ page update, (world.pages page).track = some update →
    update.streamGen ≤ world.generation
  consistent : ∀ page, (world.pages page).Consistent
  connected : ∀ page number, (world.pages page).src = some number →
    (world.pages page).connectedStreamGen ≤ world.issued page number
  made : ∀ page number, number < (world.pages page).requests →
    world.issued page number ≤ world.generation
  unmade : ∀ page number, (world.pages page).requests ≤ number → world.bodies page number = []
  bodies : ∀ page number, ∀ index ∈ world.bodies page number,
    ∃ listener, world.station.attached[index]? = some listener ∧
      world.issued page number ≤ listener.generation

namespace Timely

variable {world : World} {traces : Nat → Known}

theorem movePage (timely : Timely world traces)
    {page : Nat} {after : Page} (consistent : after.Consistent)
    (switches : (world.pages page).Switches after)
    (shown : ∀ update, after.track = some update → update.streamGen ≤ world.generation) :
    Timely (world.movePage page after) traces := by
  have grown : (world.pages page).requests ≤ after.requests := by
    cases switches with
    | keep src connected requests => exact requests.le
    | leave src requests => exact requests
    | request number src fresh connected requests => exact requests
  refine
    { tracked := timely.tracked
      read := timely.read
      queued := timely.queued
      received := ?_, shown := ?_, consistent := ?_, connected := ?_, made := ?_, unmade := ?_
      bodies := ?_ }
  · intro task other number serves
    have before := timely.received task other number serves
    by_cases same : other = page
    · subst same
      simp only [World.movePage, Function.update_self]
      omega
    · simpa only [World.movePage, Function.update_of_ne same] using before
  · intro other update
    by_cases same : other = page
    · subst same
      simp only [World.movePage, Function.update_self]
      exact shown update
    · simp only [World.movePage, Function.update_of_ne same]
      exact timely.shown other update
  · intro other
    by_cases same : other = page
    · subst same
      simpa [World.movePage] using consistent
    · simpa [World.movePage, same] using timely.consistent other
  · intro other number playing
    by_cases same : other = page
    · subst same
      simp only [World.movePage, Function.update_self] at playing ⊢
      cases switches with
      | keep src connected requests =>
          rw [src] at playing
          have made := (timely.consistent other).requested number playing
          rw [if_neg (by omega), connected]
          exact timely.connected other number playing
      | leave src requests => simp [src] at playing
      | request number' src fresh connected requests =>
          obtain rfl : number' = number := Option.some.inj (src.symm.trans playing)
          rw [if_pos fresh, connected]
          cases track : after.track with
          | none => simp [Page.serverGen, track]
          | some update => simpa [Page.serverGen, track] using shown update track
    · simp only [World.movePage, Function.update_of_ne same] at playing ⊢
      exact timely.connected other number playing
  · intro other number made
    by_cases same : other = page
    · subst same
      simp only [World.movePage, Function.update_self]
      split
      · exact Nat.le_refl _
      · exact timely.made other number (by omega)
    · simp only [World.movePage, Function.update_of_ne same] at made ⊢
      exact timely.made other number made
  · intro other number later
    by_cases same : other = page
    · subst same
      simp only [World.movePage, Function.update_self] at later ⊢
      exact timely.unmade other number (Nat.le_trans grown later)
    · simp only [World.movePage, Function.update_of_ne same] at later ⊢
      exact timely.unmade other number later
  · intro other number index member
    obtain ⟨listener, attached, since⟩ := timely.bodies other number index member
    refine ⟨listener, attached, ?_⟩
    by_cases same : other = page
    · subst same
      have made : number < (world.pages other).requests := by
        by_contra beyond
        have none_yet := timely.unmade other number (by omega)
        simp [World.movePage, none_yet] at member
      simp only [World.movePage, Function.update_self]
      rwa [if_neg (by omega)]
    · simpa only [World.movePage, Function.update_of_ne same] using since

/-- Only the queues of frames change, and what comes in is not from a later generation. -/
theorem requeue (timely : Timely world traces)
    (connections : Nat → Connection) (wsClients : List Nat) (nextId : Nat)
    (link : Nat → Option Nat)
    (queued : ∀ id, ∀ update ∈ (connections id).incoming, update.streamGen ≤ world.generation) :
    Timely { world with connections, wsClients, nextId, link } traces :=
  ⟨timely.tracked, timely.read, timely.received, queued, timely.shown, timely.consistent,
    timely.connected, timely.made, timely.unmade, timely.bodies⟩

theorem grow (timely : Timely world traces) {station : Station} (tracked : station.Tracked)
    (later : world.generation ≤ station.manager.generation)
    (stay : ∀ (index : Nat) (listener : Listener), world.station.attached[index]? = some listener →
      ∃ moved, station.attached[index]? = some moved ∧ moved.generation = listener.generation) :
    Timely { world with station } traces where
  tracked := tracked
  read task generation reads := (timely.read task generation reads).trans later
  received := timely.received
  queued id update member := (timely.queued id update member).trans later
  shown page update shows := (timely.shown page update shows).trans later
  consistent := timely.consistent
  connected := timely.connected
  made page number made := (timely.made page number made).trans later
  unmade := timely.unmade
  bodies := by
    intro page number index member
    obtain ⟨listener, attached, since⟩ := timely.bodies page number index member
    obtain ⟨moved, there, same⟩ := stay index listener attached
    exact ⟨moved, there, same ▸ since⟩

theorem trySend (timely : Timely world traces) (id : Nat) {update : TrackUpdate}
    (present : update.streamGen ≤ world.generation) (full : Bool) :
    Timely (world.trySend id update full) traces := by
  unfold World.trySend
  split
  · exact timely
  · apply timely.requeue
    intro other queued member
    by_cases same : other = id
    · subst same
      simp only [Function.update_self, List.mem_append, List.mem_singleton] at member
      rcases member with earlier | rfl
      · exact timely.queued other queued earlier
      · exact present
    · rw [Function.update_of_ne same] at member
      exact timely.queued other queued member

/-- A listener attached now is attached to the present generation, which is no older than any
request made. -/
theorem addClient (timely : Timely world traces) {page number : Nat}
    (made : number < (world.pages page).requests) :
    Timely (world.addClient page number).2 traces := by
  unfold World.addClient
  cases admitted : world.station.manager.addClient Server.Peers.maxTotalStreamListeners with
  | none => exact timely
  | some outcome =>
      obtain ⟨current, longer⟩ := Station.addClient_of_admitted admitted
      have stays := @Station.step_attached world.station _
        (.addClient Server.Peers.maxTotalStreamListeners) rfl
      have grown := timely.grow (timely.tracked.addClient _) stays.1 stays.2
      refine
        ⟨grown.tracked, grown.read, grown.received, grown.queued, grown.shown, grown.consistent,
          grown.connected, grown.made, ?_, ?_⟩
      · intro other number' later
        have none_yet := timely.unmade other number' later
        by_cases same : other = page
        · subst same
          have different : number' ≠ number := by
            rintro rfl
            exact absurd made (Nat.not_lt.mpr later)
          simpa [different] using none_yet
        · simpa [same] using none_yet
      · intro other number' index member
        by_cases attached : index ∈ world.bodies other number'
        · exact grown.bodies other number' index attached
        · have added : index = world.station.attached.length ∧ other = page ∧ number' = number := by
            by_cases same : other = page
            · subst same
              by_cases own : number' = number
              · subst own
                simp only [Function.update_self, List.mem_append, List.mem_singleton] at member
                exact ⟨member.resolve_left attached, rfl, rfl⟩
              · simp [own, attached] at member
            · simp [same, attached] at member
          obtain ⟨rfl, rfl, rfl⟩ := added
          have last : (world.station.addClient
              Server.Peers.maxTotalStreamListeners).attached[world.station.attached.length]? =
                some
                  { generation := world.station.manager.generation
                    lead := outcome.1.2
                    receiver := outcome.1.1 } := by
            rw [longer]
            exact List.getElem?_concat_length
          exact ⟨_, last, timely.made other number' made⟩

/-- A task goes on without learning more than it may. -/
theorem learn (timely : Timely world traces) {task : Nat} {known : Known}
    (read : ∀ generation, known.generation = some generation → generation ≤ world.generation)
    (received : ∀ page number, known.request = some (page, number) →
      number < (world.pages page).requests) :
    Timely world (Function.update traces task known) := by
  refine
    ⟨timely.tracked, ?_, ?_, timely.queued, timely.shown, timely.consistent, timely.connected,
      timely.made, timely.unmade, timely.bodies⟩
  · intro other generation reads
    by_cases same : other = task
    · subst same
      exact read generation (by simpa using reads)
    · exact timely.read other generation (by simpa [same] using reads)
  · intro other page number serves
    by_cases same : other = task
    · subst same
      exact received page number (by simpa using serves)
    · exact timely.received other page number (by simpa [same] using serves)

theorem idle (timely : Timely world traces) (task : Nat) :
    Timely world (Function.update traces task (traces task)) := by
  rwa [Function.update_eq_self]

theorem perform {after : World} {actor : Nat} {op : Op} {input : Input} {answer : op.Answer}
    (timely : Timely world traces) (allowed : discipline.allows (traces actor) op)
    (performed : world.perform actor op input = some (answer, after)) :
    Timely after
      (Function.update traces actor (discipline.next (traces actor) op answer)) := by
  have reads := timely.read actor
  have serves := timely.received actor
  cases op with
  | receive page number =>
      obtain ⟨made, -, rfl⟩ := of_guarded_answer performed
      refine timely.learn reads ?_
      rintro _ _ same
      obtain ⟨rfl, rfl⟩ := Prod.mk.inj (Option.some.inj same)
      exact made
  | generation =>
      obtain ⟨rfl, rfl⟩ := Prod.mk.inj (Option.some.inj performed)
      refine timely.learn ?_ serves
      rintro _ same
      exact (Option.some.inj same).ge
  | insertClient id =>
      obtain ⟨-, rfl⟩ := Prod.mk.inj (Option.some.inj performed)
      exact (timely.requeue world.connections _ world.nextId world.link timely.queued).idle actor
  | trySend id update =>
      obtain ⟨-, rfl⟩ := Prod.mk.inj (Option.some.inj performed)
      exact (timely.trySend id (reads _ allowed) input.full).idle actor
  | addClient page number =>
      obtain ⟨-, rfl⟩ := Prod.mk.inj (Option.some.inj performed)
      exact (timely.addClient (serves page number allowed)).idle actor
  | playerEnabled | togedemonLive | hasTrack | listenerCount | isPreparing | recentlyFailed
  | readCurrent | clients | takeSlot | refundSlot =>
      obtain ⟨-, rfl⟩ := Prod.mk.inj (Option.some.inj performed)
      exact timely.idle actor

theorem nextFrame_queued {page id : Nat} {update : TrackUpdate} {rest : List TrackUpdate}
    (next : world.nextFrame page = some (id, update, rest)) :
    (world.connections id).incoming = update :: rest := by
  unfold World.nextFrame at next
  split at next
  · split at next
    · simp at next
    · rename_i queued
      obtain ⟨rfl, same⟩ := Prod.mk.inj (Option.some.inj next)
      obtain ⟨rfl, rfl⟩ := Prod.mk.inj same
      exact queued
  · simp at next

theorem requeue_one (timely : Timely world traces) (id : Nat) (connection : Connection)
    (queued : ∀ update ∈ connection.incoming, update ∈ (world.connections id).incoming) :
    Timely { world with connections := Function.update world.connections id connection }
      traces := by
  apply timely.requeue
  intro other update member
  by_cases same : other = id
  · subst same
    exact timely.queued other update (queued update (by simpa using member))
  · exact timely.queued other update (by simpa [same] using member)

theorem outside {after : World} {change : Change} (timely : Timely world traces)
    (changed : world.outside change = some after) : Timely after traces := by
  have shown := timely.shown
  have consistent := timely.consistent
  cases change with
  | stream event =>
      simp only [World.outside, Option.map_eq_some_iff] at changed
      obtain ⟨station, step, rfl⟩ := changed
      have stays := Station.step_attached step
      exact timely.grow (timely.tracked.step step) stays.1 stays.2
  | togedemon | player | polled | removeClient =>
      obtain rfl := Option.some.inj changed
      exact ⟨timely.tracked, timely.read, timely.received, timely.queued, timely.shown,
        timely.consistent, timely.connected, timely.made, timely.unmade, timely.bodies⟩
  | heard page =>
      simp only [World.outside] at changed
      split at changed
      · simp at changed
      · rename_i id frame rest next
        obtain rfl := Option.some.inj changed
        have requeued := timely.requeue_one id (World.hear (world.connections id) frame)
          fun _ queued => queued
        have same : (world.pages page).SameAudio { world.pages page with outgoing := rest } :=
          ⟨rfl, rfl, rfl, rfl, rfl⟩
        exact requeued.movePage (same.consistent (consistent page)) same.switches (shown page)
  | hangUp id =>
      obtain rfl := Option.some.inj changed
      exact timely.requeue_one id _ fun _ queued => queued
  | frame page =>
      simp only [World.outside] at changed
      split at changed
      · simp at changed
      · rename_i id update rest next
        obtain rfl := Option.some.inj changed
        have waiting := nextFrame_queued next
        have present := timely.queued id update (waiting ▸ List.mem_cons_self)
        refine (timely.requeue_one id _ ?_).movePage
          (Page.consistent_onMessage (consistent page) update)
          (Page.switches_onMessage (world.pages page) update) ?_
        · intro other queued
          exact waiting ▸ List.mem_cons_of_mem update queued
        · intro other shows
          rw [Page.onMessage_track] at shows
          obtain rfl := Option.some.inj shows
          exact present
  | opened page =>
      obtain ⟨-, rfl⟩ := of_guarded changed
      have same := (world.pages page).sameAudio_onOpen
      refine timely.movePage (same.consistent (consistent page)) same.switches ?_
      rw [same.track]
      exact shown page
  | closed page =>
      obtain rfl := Option.some.inj changed
      have same := (world.pages page).sameAudio_onClose
      have moved := timely.movePage (same.consistent (consistent page)) same.switches (shown page)
      exact moved.requeue world.connections world.wsClients world.nextId _ moved.queued
  | reconnect page =>
      obtain ⟨-, rfl⟩ := of_guarded changed
      have same := (world.pages page).sameAudio_connect
      exact timely.movePage (same.consistent (consistent page)) same.switches (shown page)
  | click page =>
      obtain rfl := Option.some.inj changed
      refine timely.movePage (Page.consistent_toggle (consistent page))
        (Page.switches_toggle (world.pages page)) ?_
      rw [Page.toggle_track]
      exact shown page
  | pauseTimeout page =>
      obtain ⟨-, rfl⟩ := of_guarded changed
      refine timely.movePage (Page.consistent_pauseTimedOut (consistent page))
        (Page.switches_pauseTimedOut (world.pages page)) ?_
      rw [Page.pauseTimedOut_track]
      exact shown page

theorem accept {after : World} (timely : Timely world traces) (actor : Nat) {request : Request}
    {program : Task Unit}
    (accepted : world.accept actor request = some (program, after)) : Timely after traces := by
  cases request with
  | broadcast | rebroadcast | fetch =>
      obtain ⟨-, rfl⟩ := Prod.mk.inj (Option.some.inj accepted)
      exact timely
  | upgrade page =>
      obtain ⟨-, -, rfl⟩ := of_guarded_answer accepted
      apply timely.requeue
      intro other update member
      by_cases same : other = world.nextId
      · simp [same] at member
      · exact timely.queued other update (by simpa [same] using member)

end Timely

theorem consistent_new : Page.Consistent {} := by
  constructor <;> simp [Page.src]

theorem timely_start (current : Option SpotifyState) (playerEnabled : Bool) :
    Timely (start current playerEnabled) fun _ => {} where
  tracked := Station.tracked_of_reachable (.start rfl)
  read := by simp
  received := by simp
  queued := by simp [start]
  shown := by simp [start]
  consistent _ := consistent_new
  connected := by simp [start, Page.src]
  made := by simp [start]
  unmade _ _ _ := rfl
  bodies := by simp [start]

theorem safe_timely : machine.Safe discipline (fun _ _ _ _ _ => True) Timely where
  initial := by
    rintro _ ⟨current, playerEnabled, rfl⟩
    exact timely_start current playerEnabled
  accept _ _ actor _ _ _ timely _ accepted :=
    ⟨timely.accept actor accepted, obeys_accept actor accepted⟩
  perform _ _ _ _ _ _ _ timely allowed _ performed := timely.perform allowed performed
  outside _ _ _ _ timely changed := timely.outside changed

/-- Whatever the order of switches, frames and requests, a page that does not listen plays nothing;
and when the last state pushed to a listening page plays the present generation, then the stream
that it fetches is of that generation: all it has been handed are the present headers and pages, in
order and none of them twice. -/
theorem page_plays_the_present {pool : Pool signature World Known}
    (reach : (machine.system discipline).Reachable pool) (page : Nat) :
    ((pool.shared.pages page).listening = false → (pool.shared.pages page).src = none) ∧
      ∀ update, (pool.shared.pages page).listening = true →
        (pool.shared.pages page).track = some update → update.shouldPlay = true →
        update.streamGen = pool.shared.generation →
        ∃ number, (pool.shared.pages page).src = some number ∧
          ∀ index ∈ pool.shared.bodies page number,
            ∃ listener, pool.shared.station.attached[index]? = some listener ∧
              listener.generation = pool.shared.generation ∧
              (listener.lead ++ listener.receiver.received).Sublist
                ((pool.shared.station.manager.producers pool.shared.generation).headers.toList ++
                  (pool.shared.station.manager.producers pool.shared.generation).pages) := by
  have timely := (safe_timely.guarded_of_reachable reach).holds
  have consistent := timely.consistent page
  refine ⟨fun idle => (consistent.detached idle).1, ?_⟩
  intro update listens shows plays present
  have shouldPlay : (pool.shared.pages page).shouldPlay = true := by
    simpa [Page.shouldPlay, shows] using plays
  obtain ⟨streams, connected⟩ := consistent.current listens shouldPlay
  obtain ⟨number, playing⟩ := Option.isSome_iff_exists.mp streams
  refine ⟨number, playing, ?_⟩
  intro index member
  obtain ⟨listener, attached, since⟩ := timely.bodies page number index member
  have follows := timely.tracked.follows listener (List.mem_of_getElem? attached)
  have faithful := timely.tracked.coherent.faithful listener.generation
  have named : (pool.shared.pages page).serverGen = update.streamGen := by
    simp [Page.serverGen, shows]
  have fetched := timely.connected page number playing
  have upper : listener.generation ≤ pool.shared.generation := follows.attached
  have exact_generation : listener.generation = pool.shared.generation := by omega
  refine ⟨listener, attached, exact_generation, ?_⟩
  rw [← exact_generation, ← faithful.sent]
  exact follows.heard.sublist

/-! ## What the server knows of a page -/

/-- The server's end of an open socket has heard, or is about to hear, whether the page listens. -/
structure Agreed (world : World) : Prop where
  linked : ∀ page id, world.link page = some id → id < world.nextId
  single : ∀ page other id, world.link page = some id → world.link other = some id → page = other
  unsent : ∀ page, (world.pages page).ws ≠ .opened → (world.pages page).outgoing = []
  waiting : ∀ page, (world.pages page).reconnectTimer = true → (world.pages page).ws = .closed
  quiet : ∀ page id, (world.pages page).ws ≠ .opened → world.link page = some id →
    (world.connections id).listening = false
  upgraded : ∀ page, (world.pages page).ws = .opened → (world.link page).isSome
  agrees : ∀ page id, (world.pages page).ws = .opened → world.link page = some id →
    (world.connections id).alive = true →
      (world.pages page).told (world.connections id).listening = (world.pages page).listening

namespace Agreed

variable {world : World}

theorem movePage (agreed : Agreed world) {page : Nat} {after : Page}
    (unsent : after.ws ≠ .opened → after.outgoing = [])
    (waiting : after.reconnectTimer = true → after.ws = .closed)
    (quiet : after.ws ≠ .opened → ∀ id, world.link page = some id →
      (world.connections id).listening = false)
    (upgraded : after.ws = .opened → (world.link page).isSome)
    (agrees : after.ws = .opened → ∀ id, world.link page = some id →
      (world.connections id).alive = true →
        after.told (world.connections id).listening = after.listening) :
    Agreed (world.movePage page after) := by
  refine ⟨agreed.linked, agreed.single, ?_, ?_, ?_, ?_, ?_⟩
  · intro other unopened
    by_cases same : other = page
    · subst same
      simp only [World.movePage, Function.update_self] at unopened ⊢
      exact unsent unopened
    · simp only [World.movePage, Function.update_of_ne same] at unopened ⊢
      exact agreed.unsent other unopened
  · intro other timer
    by_cases same : other = page
    · subst same
      simp only [World.movePage, Function.update_self] at timer ⊢
      exact waiting timer
    · simp only [World.movePage, Function.update_of_ne same] at timer ⊢
      exact agreed.waiting other timer
  · intro other id unopened linked
    by_cases same : other = page
    · subst same
      simp only [World.movePage, Function.update_self] at unopened
      exact quiet unopened id linked
    · simp only [World.movePage, Function.update_of_ne same] at unopened
      exact agreed.quiet other id unopened linked
  · intro other opened
    by_cases same : other = page
    · subst same
      simp only [World.movePage, Function.update_self] at opened
      exact upgraded opened
    · simp only [World.movePage, Function.update_of_ne same] at opened
      exact agreed.upgraded other opened
  · intro other id opened linked alive
    by_cases same : other = page
    · subst same
      simp only [World.movePage, Function.update_self] at opened ⊢
      exact agrees opened id linked alive
    · simp only [World.movePage, Function.update_of_ne same] at opened ⊢
      exact agreed.agrees other id opened linked alive

/-- An event which leaves the socket alone. -/
theorem tells (agreed : Agreed world) {page : Nat} {after : Page}
    (tells : (world.pages page).Tells after) : Agreed (world.movePage page after) := by
  apply agreed.movePage
  · intro unopened
    rw [tells.ws] at unopened
    rw [tells.unopened unopened, agreed.unsent page unopened]
  · intro timer
    rw [tells.reconnectTimer] at timer
    rw [tells.ws]
    exact agreed.waiting page timer
  · intro unopened id linked
    rw [tells.ws] at unopened
    exact agreed.quiet page id unopened linked
  · intro opened
    rw [tells.ws] at opened
    exact agreed.upgraded page opened
  · intro opened id linked alive
    rw [tells.ws] at opened
    exact tells.told opened _ (agreed.agrees page id opened linked alive)

/-- Frames for the pages say nothing about who listens. -/
theorem requeue (agreed : Agreed world) (id : Nat) (incoming : List TrackUpdate) :
    Agreed
      { world with
        connections := Function.update world.connections id
          { world.connections id with incoming := incoming } } := by
  have same : ∀ other, (Function.update world.connections id
      { world.connections id with incoming := incoming } other).listening =
        (world.connections other).listening ∧
      (Function.update world.connections id
        { world.connections id with incoming := incoming } other).alive =
          (world.connections other).alive := by
    intro other
    by_cases own : other = id
    · subst own
      simp
    · simp [own]
  refine ⟨agreed.linked, agreed.single, agreed.unsent, agreed.waiting, ?_, agreed.upgraded, ?_⟩
  · intro page other unopened linked
    exact (same other).1.trans (agreed.quiet page other unopened linked)
  · intro page other opened linked alive
    have heard := agreed.agrees page other opened linked ((same other).2.symm.trans alive)
    exact (congrArg (fun heard => (world.pages page).told heard) (same other).1).trans heard

theorem hear (agreed : Agreed world) {page id : Nat} {frame : Server.Peers.Frame}
    {rest : List Server.Peers.Frame} (linked : world.link page = some id)
    (sent : (world.pages page).outgoing = frame :: rest) :
    Agreed
      ({ world with
          connections := Function.update world.connections id
            (World.hear (world.connections id) frame) }.movePage page
        { world.pages page with outgoing := rest }) := by
  have opened : (world.pages page).ws = .opened := by
    by_contra unopened
    simp [agreed.unsent page unopened] at sent
  refine ⟨agreed.linked, agreed.single, ?_, ?_, ?_, ?_, ?_⟩
  · intro other unopened
    by_cases same : other = page
    · subst same
      exact absurd opened (by simpa [World.movePage] using unopened)
    · simp only [World.movePage, Function.update_of_ne same] at unopened ⊢
      exact agreed.unsent other unopened
  · intro other timer
    by_cases same : other = page
    · subst same
      have closed := agreed.waiting other (by simpa [World.movePage] using timer)
      simp [opened] at closed
    · simp only [World.movePage, Function.update_of_ne same] at timer ⊢
      exact agreed.waiting other timer
  · intro other id' unopened linked'
    by_cases same : other = page
    · subst same
      exact absurd opened (by simpa [World.movePage] using unopened)
    · have different : id' ≠ id := by
        rintro rfl
        exact same (agreed.single other page id' linked' linked)
      simp only [World.movePage, Function.update_of_ne same, Function.update_of_ne different]
        at unopened ⊢
      exact agreed.quiet other id' unopened linked'
  · intro other opened'
    by_cases same : other = page
    · subst same
      exact agreed.upgraded other opened
    · simp only [World.movePage, Function.update_of_ne same] at opened' ⊢
      exact agreed.upgraded other opened'
  · intro other id' opened' linked' alive
    by_cases same : other = page
    · subst same
      obtain rfl : id = id' := Option.some.inj (linked.symm.trans linked')
      have alive_before : (world.connections id).alive = true := by
        simpa [World.movePage, World.hear] using alive
      have heard := agreed.agrees other id opened linked alive_before
      rw [Page.told, sent, List.foldl_cons] at heard
      simpa [World.movePage, World.hear, Page.told] using heard
    · have different : id' ≠ id := by
        rintro rfl
        exact same (agreed.single other page id' linked' linked)
      simp only [World.movePage, Function.update_of_ne same, Function.update_of_ne different]
        at opened' alive ⊢
      exact agreed.agrees other id' opened' linked' alive

theorem hangUp (agreed : Agreed world) (id : Nat) :
    Agreed
      { world with
        connections := Function.update world.connections id
          { world.connections id with listening := false, alive := false } } := by
  refine ⟨agreed.linked, agreed.single, agreed.unsent, agreed.waiting, ?_, agreed.upgraded, ?_⟩
  · intro page other unopened linked
    by_cases same : other = id
    · simp [same]
    · simpa [same] using agreed.quiet page other unopened linked
  · intro page other opened linked alive
    by_cases same : other = id
    · simp [same] at alive
    · simp only [Function.update_of_ne same] at alive ⊢
      exact agreed.agrees page other opened linked alive

theorem opened (agreed : Agreed world) {page : Nat}
    (connecting : (world.pages page).ws = .connecting)
    (linked : (world.link page).isSome) :
    Agreed (world.movePage page (world.pages page).onOpen) := by
  have open_now : (world.pages page).onOpen.ws = .opened := by
    unfold Page.onOpen
    dsimp only
    split <;> simp
  have same_timer :
      (world.pages page).onOpen.reconnectTimer = (world.pages page).reconnectTimer := by
    unfold Page.onOpen
    dsimp only
    split <;> simp
  apply agreed.movePage
  · exact fun unopened => absurd open_now unopened
  · intro timer
    have closed := agreed.waiting page (same_timer ▸ timer)
    simp [connecting] at closed
  · exact fun unopened => absurd open_now unopened
  · exact fun _ => linked
  · intro _ id links _
    rw [agreed.quiet page id (by simp [connecting]) links]
    exact Page.told_onOpen _

theorem closed (agreed : Agreed world) (page : Nat) :
    Agreed
      { world.movePage page (world.pages page).onClose with
        link := Function.update world.link page none } := by
  have keeps : ∀ other id, Function.update world.link page none other = some id →
      other ≠ page ∧ world.link other = some id := by
    intro other id linked
    by_cases same : other = page
    · simp [same] at linked
    · exact ⟨same, by simpa [same] using linked⟩
  refine ⟨?_, ?_, ?_, ?_, ?_, ?_, ?_⟩
  · exact fun other id linked => agreed.linked other id (keeps other id linked).2
  · exact fun other another id linked also =>
      agreed.single other another id (keeps other id linked).2 (keeps another id also).2
  · intro other unopened
    by_cases same : other = page
    · simp [same, World.movePage, Page.onClose]
    · simp only [World.movePage, Function.update_of_ne same] at unopened ⊢
      exact agreed.unsent other unopened
  · intro other timer
    by_cases same : other = page
    · simp [same, World.movePage, Page.onClose]
    · simp only [World.movePage, Function.update_of_ne same] at timer ⊢
      exact agreed.waiting other timer
  · intro other id unopened linked
    obtain ⟨different, before⟩ := keeps other id linked
    simp only [World.movePage, Function.update_of_ne different] at unopened ⊢
    exact agreed.quiet other id unopened before
  · intro other open_now
    by_cases same : other = page
    · simp [same, World.movePage, Page.onClose] at open_now
    · simp only [World.movePage, Function.update_of_ne same] at open_now ⊢
      exact agreed.upgraded other open_now
  · intro other id open_now linked alive
    obtain ⟨different, before⟩ := keeps other id linked
    simp only [World.movePage, Function.update_of_ne different] at open_now ⊢
    exact agreed.agrees other id open_now before alive

/-- A socket is upgraded: its task has heard nothing yet. -/
theorem upgrade (agreed : Agreed world) {page : Nat}
    (connecting : (world.pages page).ws ≠ .opened) :
    Agreed
      { world with
        nextId := world.nextId + 1
        connections := Function.update world.connections world.nextId {}
        link := Function.update world.link page (some world.nextId) } := by
  have links : ∀ other id, Function.update world.link page (some world.nextId) other = some id →
      other = page ∧ id = world.nextId ∨
        other ≠ page ∧ world.link other = some id ∧ id < world.nextId := by
    intro other id linked
    by_cases same : other = page
    · exact .inl ⟨same, by simpa [same] using linked.symm⟩
    · have before : world.link other = some id := by simpa [same] using linked
      exact .inr ⟨same, before, agreed.linked other id before⟩
  refine ⟨?_, ?_, agreed.unsent, agreed.waiting, ?_, ?_, ?_⟩
  · intro other id linked
    rcases links other id linked with ⟨-, rfl⟩ | ⟨-, -, older⟩
    · exact Nat.lt_succ_self _
    · exact Nat.lt_succ_of_lt older
  · intro other another id linked also
    rcases links other id linked with ⟨rfl, rfl⟩ | ⟨-, before, older⟩
    · rcases links another _ also with ⟨rfl, -⟩ | ⟨-, -, older⟩
      · rfl
      · exact absurd older (Nat.lt_irrefl _)
    · rcases links another id also with ⟨-, rfl⟩ | ⟨-, also_before, -⟩
      · exact absurd older (Nat.lt_irrefl _)
      · exact agreed.single other another id before also_before
  · intro other id unopened linked
    rcases links other id linked with ⟨-, rfl⟩ | ⟨-, before, older⟩
    · simp
    · simpa [older.ne] using agreed.quiet other id unopened before
  · intro other opened
    by_cases same : other = page
    · simp [same]
    · simpa [same] using agreed.upgraded other opened
  · intro other id opened linked alive
    rcases links other id linked with ⟨rfl, -⟩ | ⟨-, before, older⟩
    · exact absurd opened connecting
    · simp only [Function.update_of_ne older.ne] at alive ⊢
      exact agreed.agrees other id opened before alive

/-- The reconnect timer runs out: a new socket. -/
theorem reconnect (agreed : Agreed world) {page : Nat}
    (timer : (world.pages page).reconnectTimer = true) :
    Agreed (world.movePage page (world.pages page).connect) := by
  have closed : (world.pages page).ws ≠ .opened := by
    rw [agreed.waiting page timer]
    decide
  apply agreed.movePage
  · exact fun _ => agreed.unsent page closed
  · simp [Page.connect]
  · exact fun _ id linked => agreed.quiet page id closed linked
  · simp [Page.connect]
  · simp [Page.connect]

theorem trySend (agreed : Agreed world) (id : Nat) (update : TrackUpdate) (full : Bool) :
    Agreed (world.trySend id update full) := by
  unfold World.trySend
  split
  · exact agreed
  · exact agreed.requeue id _

theorem addClient (agreed : Agreed world) (page number : Nat) :
    Agreed (world.addClient page number).2 := by
  unfold World.addClient
  split
  · exact agreed
  · exact ⟨agreed.linked, agreed.single, agreed.unsent, agreed.waiting, agreed.quiet,
      agreed.upgraded, agreed.agrees⟩

theorem perform {after : World} {op : Op} (actor : Nat) {input : Input} {answer : op.Answer}
    (agreed : Agreed world) (performed : world.perform actor op input = some (answer, after)) :
    Agreed after := by
  cases op with
  | receive page number =>
      obtain ⟨-, -, rfl⟩ := of_guarded_answer performed
      exact agreed
  | trySend id update =>
      obtain ⟨-, rfl⟩ := Prod.mk.inj (Option.some.inj performed)
      exact agreed.trySend id update input.full
  | addClient page number =>
      obtain ⟨-, rfl⟩ := Prod.mk.inj (Option.some.inj performed)
      exact agreed.addClient page number
  | insertClient id =>
      obtain ⟨-, rfl⟩ := Prod.mk.inj (Option.some.inj performed)
      exact ⟨agreed.linked, agreed.single, agreed.unsent, agreed.waiting, agreed.quiet,
        agreed.upgraded, agreed.agrees⟩
  | generation | playerEnabled | togedemonLive | hasTrack | listenerCount | isPreparing
  | recentlyFailed | readCurrent | clients | takeSlot | refundSlot =>
      obtain ⟨-, rfl⟩ := Prod.mk.inj (Option.some.inj performed)
      exact agreed

theorem nextHeard_sent {page id : Nat} {frame : Server.Peers.Frame}
    {rest : List Server.Peers.Frame} (next : world.nextHeard page = some (id, frame, rest)) :
    world.link page = some id ∧ (world.pages page).outgoing = frame :: rest := by
  unfold World.nextHeard at next
  split at next
  · simp at next
  · rename_i found linked
    split at next
    · split at next
      · simp at next
      · rename_i sent
        obtain ⟨rfl, same⟩ := Prod.mk.inj (Option.some.inj next)
        obtain ⟨rfl, rfl⟩ := Prod.mk.inj same
        exact ⟨linked, sent⟩
    · simp at next

theorem outside {after : World} {change : Change} (agreed : Agreed world)
    (changed : world.outside change = some after) : Agreed after := by
  cases change with
  | stream event =>
      simp only [World.outside, Option.map_eq_some_iff] at changed
      obtain ⟨station, -, rfl⟩ := changed
      exact ⟨agreed.linked, agreed.single, agreed.unsent, agreed.waiting, agreed.quiet,
        agreed.upgraded, agreed.agrees⟩
  | togedemon | player | polled | removeClient =>
      obtain rfl := Option.some.inj changed
      exact ⟨agreed.linked, agreed.single, agreed.unsent, agreed.waiting, agreed.quiet,
        agreed.upgraded, agreed.agrees⟩
  | heard page =>
      simp only [World.outside] at changed
      split at changed
      · simp at changed
      · rename_i id frame rest next
        obtain rfl := Option.some.inj changed
        obtain ⟨linked, sent⟩ := nextHeard_sent next
        exact agreed.hear linked sent
  | hangUp id =>
      obtain rfl := Option.some.inj changed
      exact agreed.hangUp id
  | frame page =>
      simp only [World.outside] at changed
      split at changed
      · simp at changed
      · rename_i id update rest next
        obtain rfl := Option.some.inj changed
        exact (agreed.requeue id rest).tells (Page.tells_onMessage _ update)
  | opened page =>
      obtain ⟨⟨connecting, linked⟩, rfl⟩ := of_guarded changed
      exact agreed.opened connecting linked
  | closed page =>
      obtain rfl := Option.some.inj changed
      exact agreed.closed page
  | reconnect page =>
      obtain ⟨timer, rfl⟩ := of_guarded changed
      exact agreed.reconnect timer
  | click page =>
      obtain rfl := Option.some.inj changed
      exact agreed.tells (Page.tells_toggle _)
  | pauseTimeout page =>
      obtain ⟨-, rfl⟩ := of_guarded changed
      exact agreed.tells (Page.tells_pauseTimedOut _)

theorem accept {after : World} (agreed : Agreed world) (actor : Nat) {request : Request}
    {program : Task Unit} (accepted : world.accept actor request = some (program, after)) :
    Agreed after := by
  cases request with
  | broadcast | rebroadcast | fetch =>
      obtain ⟨-, rfl⟩ := Prod.mk.inj (Option.some.inj accepted)
      exact agreed
  | upgrade page =>
      obtain ⟨⟨connecting, -⟩, -, rfl⟩ := of_guarded_answer accepted
      exact agreed.upgrade (by simp [connecting])

end Agreed

theorem agreed_start (current : Option SpotifyState) (playerEnabled : Bool) :
    Agreed (start current playerEnabled) := by
  constructor <;> simp [start]

theorem safe_agreed :
    machine.Safe discipline (fun _ _ _ _ _ => True) fun world _ => Agreed world where
  initial := by
    rintro _ ⟨current, playerEnabled, rfl⟩
    exact agreed_start current playerEnabled
  accept _ _ actor _ _ _ agreed _ accepted :=
    ⟨agreed.accept actor accepted, obeys_accept actor accepted⟩
  perform _ _ actor _ _ _ _ agreed _ _ performed := agreed.perform actor performed
  outside _ _ _ _ agreed changed := agreed.outside changed

/-- The server knows who listens: while a page's socket is open and its task has not ended, the flag
which that task counts the page by is, once the frames under way have been read, whether the page
listens, across any number of reconnections. -/
theorem server_knows_who_listens {pool : Pool signature World Known}
    (reach : (machine.system discipline).Reachable pool) {page : Nat}
    (opened : (pool.shared.pages page).ws = .opened) :
    ∃ id, pool.shared.link page = some id ∧
      ((pool.shared.connections id).alive = true →
        (pool.shared.pages page).told (pool.shared.connections id).listening =
          (pool.shared.pages page).listening) := by
  have agreed := (safe_agreed.guarded_of_reachable reach).holds
  obtain ⟨id, linked⟩ := Option.isSome_iff_exists.mp (agreed.upgraded page opened)
  exact ⟨id, linked, agreed.agrees page id opened linked⟩

/-! ## One visit -/

/-- All interleavings of the server's tasks and the pages. -/
abbrev system : System (Pool signature World Known) (PoolEvent Request Input Change) :=
  machine.system discipline

/-- Nothing plays, and no page is open. -/
def quietServer : Pool signature World Known := Machine.boot discipline (start none true)

theorem quietServer_initial : system.initial quietServer := ⟨_, ⟨none, true, rfl⟩, rfl⟩

/-- A task goes on for some steps. -/
def advance (task steps : Nat) : List (PoolEvent Request Input Change) :=
  List.replicate steps (.advance task {})

/-- A track plays. -/
def song : SpotifyState := { track := some { id := "song" }, isPlaying := true }

/-- A page connects, a file begins to play and is announced, and the listener clicks. -/
def visit : List (PoolEvent Request Input Change) :=
  [.start (.upgrade 0)] ++ advance 0 2 ++
    [.outside (.opened 0), .outside (.stream (.playTrack "song.ogg" 0)),
      .start (.broadcast song)] ++ advance 1 8 ++
    [.outside (.frame 0), .outside (.click 0), .start (.fetch 0 0)] ++ advance 2 5 ++
    [.outside (.stream (.setHeaders 1 [79])), .outside (.stream (.recv 0))]

theorem visit_plays :
    let pool := system.final quietServer visit rfl
    ∃ number, (pool.shared.pages 0).src = some number ∧
      ∀ index ∈ pool.shared.bodies 0 number,
        ∃ listener, pool.shared.station.attached[index]? = some listener ∧
          listener.generation = pool.shared.generation ∧
          (listener.lead ++ listener.receiver.received).Sublist
            ((pool.shared.station.manager.producers pool.shared.generation).headers.toList ++
              (pool.shared.station.manager.producers pool.shared.generation).pages) :=
  (page_plays_the_present (System.reachable_final quietServer_initial visit rfl) 0).2
    { track := some { id := "song" }, isPlaying := true, streamActive := true, streamGen := 1 }
    rfl rfl rfl rfl

theorem visit_known :
    let pool := system.final quietServer visit rfl
    ∃ id, pool.shared.link 0 = some id ∧
      ((pool.shared.connections id).alive = true →
        (pool.shared.pages 0).told (pool.shared.connections id).listening =
          (pool.shared.pages 0).listening) :=
  server_knows_who_listens (System.reachable_final quietServer_initial visit rfl) rfl

end Togewire.Player
