import Mathlib.Data.List.Basic
import Togewire.Foundation.Program
import Togewire.Types

/-!
# WebSockets and the player switch

A WebSocket passes the player gate in its request handler and registers as a client in the upgraded
task, which the switch-off can overtake.  From the return of a switch-off until the player is on
again nobody is subscribed, provided that no socket registers whose gate check came before the
switch-off cleared the clients, and that no switch-off returns early with clients registered.
-/

namespace Togewire.Server.Sockets

open Interleaving Transition

/-- `MAX_CONNECTIONS_PER_IP`. -/
def maxConnectionsPerIp : Nat := 10

/-- `MAX_TOTAL_WS_CLIENTS`. -/
def maxTotalWsClients : Nat := 1000

/-- A `track_update` sent to a client. -/
structure Sent where
  client : Nat
  /-- History: whether it was sent after a switch-off had returned. -/
  silenced : Bool

/-- What the sockets and the player switch share. -/
structure Hub where
  playerEnabled : Bool
  current : Option SpotifyState
  wsClients : List Nat
  nextId : Nat
  /-- Sockets by address. -/
  peers : String → Nat
  sent : List Sent
  /-- History: how often the player has been switched on. -/
  enables : Nat
  /-- History: that count when a task switched the player off. -/
  offSince : Nat → Option Nat
  /-- History: how often a switch-off that still stood has cleared the clients or returned early. -/
  sweeps : Nat
  /-- History: that count when a task passed the gate. -/
  gateSeen : Nat → Nat
  /-- History: whether the player has stayed off since then. -/
  swept : Bool
  /-- History: whether a switch-off has returned and the player has stayed off. -/
  silenced : Bool

/-- The operations of sockets, broadcasts and the player switch. -/
inductive Op
  | playerEnabled
  | clientCount
  | takePeerSlot (ip : String)
  | releasePeerSlot (ip : String)
  | upgrade
  | nextId
  | insertClient (id : Nat)
  | readCurrent
  | trySend (id : Nat)
  | listen (id : Nat)
  | removeClient (id : Nat)
  | setPlayerEnabled (enabled : Bool)
  | startStreamIfPlaying
  | clearClients
  | broadcast
  | reply

def Op.Answer : Op → Type
  | playerEnabled | takePeerSlot _ | upgrade | setPlayerEnabled _ | startStreamIfPlaying => Bool
  | clientCount | nextId => Nat
  | readCurrent => Option SpotifyState
  | releasePeerSlot _ | insertClient _ | trySend _ | listen _ | removeClient _ | clearClients
  | broadcast | reply => Unit

abbrev signature : Signature := ⟨Op, Op.Answer⟩

abbrev Task := Program signature

/-- What the outside world contributes to a step. -/
structure Input where
  /-- Whether the handshake of an upgrade succeeds. -/
  upgraded : Bool := true
  /-- Whether the peer of a socket has gone. -/
  closed : Bool := false
  /-- Whether the configuration file can be written. -/
  saved : Bool := true
  /-- Whether a switch-on starts the stream. -/
  started : Bool := false

namespace Hub

/-- The player has not been switched on since the task switched it off. -/
def stands (hub : Hub) (actor : Nat) : Bool := hub.offSince actor = some hub.enables

/-- Note that a switch-off is through with the clients, if it still stands. -/
def sweep (hub : Hub) (actor : Nat) : Hub :=
  if hub.stands actor then { hub with sweeps := hub.sweeps + 1, swept := true } else hub

/-- Set `player_enabled` in memory. -/
def setPlayerEnabled (hub : Hub) (actor : Nat) (enabled : Bool) : Hub :=
  if enabled then
    { hub with
      playerEnabled := true
      enables := hub.enables + 1
      swept := false
      silenced := false }
  else
    { hub with
      playerEnabled := false
      offSince := Function.update hub.offSince actor (some hub.enables) }

/-- The return of a handler. -/
def reply (hub : Hub) (actor : Nat) : Hub :=
  if hub.stands actor then
    { (if hub.swept then hub else hub.sweep actor) with silenced := true }
  else
    hub

/-- Send a frame to every client, under one lock. -/
def broadcast (hub : Hub) : Hub :=
  { hub with sent := hub.wsClients.map (fun id => ⟨id, hub.silenced⟩) ++ hub.sent }

/-- A slot of an address, if one is free. -/
def takePeerSlot (hub : Hub) (ip : String) : Bool × Hub :=
  if hub.peers ip < maxConnectionsPerIp then
    (true, { hub with peers := Function.update hub.peers ip (hub.peers ip + 1) })
  else
    (false, hub)

/-- The effect of one operation of a task.  A socket is served until its peer or its sender goes. -/
def perform (hub : Hub) (actor : Nat) (op : Op) (input : Input) : Option (op.Answer × Hub) :=
  match op with
  | .playerEnabled =>
      some (hub.playerEnabled,
        { hub with gateSeen := Function.update hub.gateSeen actor hub.sweeps })
  | .clientCount => some (hub.wsClients.length, hub)
  | .takePeerSlot ip => some (hub.takePeerSlot ip)
  | .releasePeerSlot ip =>
      some ((), { hub with peers := Function.update hub.peers ip (hub.peers ip - 1) })
  | .upgrade => some (input.upgraded, hub)
  | .nextId => some (hub.nextId, { hub with nextId := hub.nextId + 1 })
  | .insertClient id => some ((), { hub with wsClients := id :: hub.wsClients })
  | .readCurrent => some (hub.current, hub)
  | .trySend id => some ((), { hub with sent := ⟨id, hub.silenced⟩ :: hub.sent })
  | .listen id => if input.closed ∨ id ∉ hub.wsClients then some ((), hub) else none
  | .removeClient id => some ((), { hub with wsClients := hub.wsClients.erase id })
  | .setPlayerEnabled enabled => some (input.saved, hub.setPlayerEnabled actor enabled)
  | .startStreamIfPlaying => some (input.started, hub)
  | .clearClients => some ((), { hub with wsClients := [] }.sweep actor)
  | .broadcast => some ((), hub.broadcast)
  | .reply => some ((), hub.reply actor)

end Hub

/-! ## Tasks -/

def ask (op : Op) : Task op.Answer := Program.perform (S := signature) op

def playerEnabled : Task Bool := ask .playerEnabled
def clientCount : Task Nat := ask .clientCount
def takePeerSlot (ip : String) : Task Bool := ask (.takePeerSlot ip)
def releasePeerSlot (ip : String) : Task Unit := ask (.releasePeerSlot ip)
def upgrade : Task Bool := ask .upgrade
def nextId : Task Nat := ask .nextId
def insertClient (id : Nat) : Task Unit := ask (.insertClient id)
def readCurrent : Task (Option SpotifyState) := ask .readCurrent
def trySend (id : Nat) : Task Unit := ask (.trySend id)
def listen (id : Nat) : Task Unit := ask (.listen id)
def removeClient (id : Nat) : Task Unit := ask (.removeClient id)
def setPlayerEnabled (enabled : Bool) : Task Bool := ask (.setPlayerEnabled enabled)
def startStreamIfPlaying : Task Bool := ask .startStreamIfPlaying
def clearClients : Task Unit := ask .clearClients
def broadcastTrackUpdate : Task Unit := ask .broadcast
def reply : Task Unit := ask .reply

/-- The first frame of a new client: what is playing. -/
def sendSnapshot (id : Nat) : Task Unit := do
  match ← readCurrent with
  | none => pure ()
  | some s => if s.track.isSome then trySend id else pure ()

/-- `handle_socket`: register, send the snapshot, and serve the socket until it ends. -/
def handleSocket (ip : String) : Task Unit := do
  let id ← nextId
  insertClient id
  sendSnapshot id
  listen id
  removeClient id
  releasePeerSlot ip

/-- The handshake that an accepted request waits for. -/
def upgradeSocket (ip : String) : Task Unit := do
  if ← upgrade then
    handleSocket ip
  else
    releasePeerSlot ip

/-- `handle_ws` and the upgraded socket. -/
def handleWs (ip : String) : Task Unit := do
  if ← playerEnabled then
    let count ← clientCount
    if count < maxTotalWsClients then
      if ← takePeerSlot ip then
        upgradeSocket ip
      else
        pure ()
    else
      pure ()
  else
    pure ()

/-- A switch-on starts the stream, if something plays. -/
def switchOn : Task Unit := do
  if ← startStreamIfPlaying then
    broadcastTrackUpdate
    reply
  else
    reply

/-- `handle_admin_player`, as far as it concerns sockets. -/
def handleAdminPlayer (enabled : Bool) : Task Unit := do
  if ← setPlayerEnabled enabled then
    if enabled then
      switchOn
    else
      clearClients
      reply
  else
    reply

inductive Request
  | socket (ip : String)
  | player (enabled : Bool)
  | trackUpdate

def accept : Request → Task Unit
  | .socket ip => handleWs ip
  | .player enabled => handleAdminPlayer enabled
  | .trackUpdate => broadcastTrackUpdate

/-- No client yet, and no switch. -/
def start (playerEnabled : Bool) : Hub where
  playerEnabled := playerEnabled
  current := none
  wsClients := []
  nextId := 0
  peers _ := 0
  sent := []
  enables := 0
  offSince _ := none
  sweeps := 0
  gateSeen _ := 0
  swept := false
  silenced := false

/-- All orders of sockets, switches, broadcasts and reports. -/
def machine : Machine signature Hub Request Input (Option SpotifyState) where
  initial hub := ∃ playerEnabled, hub = start playerEnabled
  accept hub _ request := some (accept request, hub)
  perform := Hub.perform
  outside hub current := some { hub with current := current }

/-! ## What each task has done -/

/-- How far a task has come with a switch of the player. -/
inductive Switch
  | idle
  | on
  | off
  | failed
  | cleared
  deriving DecidableEq

structure Trace where
  /-- Whether the task has passed the player gate. -/
  admitted : Bool := false
  switch : Switch := .idle

namespace Trace

def next (trace : Trace) : (op : Op) → op.Answer → Trace
  | .playerEnabled, true => { trace with admitted := true }
  | .setPlayerEnabled true, _ => { trace with switch := .on }
  | .setPlayerEnabled false, true => { trace with switch := .off }
  | .setPlayerEnabled false, false => { trace with switch := .failed }
  | .clearClients, _ => { trace with switch := .cleared }
  | _, _ => trace

/-- A socket registers behind the gate, and a switch-off clears the clients before it returns. -/
def Allows (trace : Trace) : Op → Prop
  | .playerEnabled => trace.admitted = false
  | .insertClient _ | .trySend _ => trace.admitted = true
  | .setPlayerEnabled _ => trace.switch = .idle
  | .clearClients => trace.switch = .off
  | .reply => trace.switch ≠ .off
  | _ => True

end Trace

def discipline : Discipline signature Trace where
  start := {}
  next := Trace.next
  allows := Trace.Allows

abbrev Guides {α : Type} (trace : Trace) (task : Task α) : Prop :=
  task.Obeys discipline trace fun _ _ => True

theorem guides_sendSnapshot {trace : Trace} (admitted : trace.admitted = true) (id : Nat) :
    (sendSnapshot id).Obeys discipline trace fun _ after => after = trace := by
  refine Program.Obeys.perform trivial fun current => ?_
  cases current with
  | none => rfl
  | some s =>
      by_cases tracked : s.track.isSome = true
      · simp only [tracked, if_true]
        exact ⟨admitted, fun _ => rfl⟩
      · simp only [tracked]
        rfl

theorem guides_handleSocket {trace : Trace} (admitted : trace.admitted = true) (ip : String) :
    Guides trace (handleSocket ip) := by
  refine Program.Obeys.perform trivial fun id => Program.Obeys.perform admitted fun _ => ?_
  refine Program.Obeys.bind ((guides_sendSnapshot admitted id).mono ?_)
  rintro _ after rfl
  exact ⟨trivial, fun _ => ⟨trivial, fun _ => ⟨trivial, fun _ => trivial⟩⟩⟩

theorem guides_handleWs (ip : String) : Guides discipline.start (handleWs ip) := by
  refine Program.Obeys.perform rfl ?_
  rintro (_ | _)
  · exact trivial
  · refine Program.Obeys.perform trivial fun (count : Nat) => ?_
    by_cases room : count < maxTotalWsClients
    · rw [if_pos room]
      refine Program.Obeys.perform trivial ?_
      rintro (_ | _)
      · exact trivial
      · refine Program.Obeys.perform trivial ?_
        rintro (_ | _)
        · exact ⟨trivial, fun _ => trivial⟩
        · exact guides_handleSocket rfl ip
    · rw [if_neg room]
      exact trivial

theorem guides_reply {trace : Trace} (cleared : trace.switch ≠ .off) : Guides trace reply :=
  ⟨cleared, fun _ => trivial⟩

theorem guides_handleAdminPlayer (enabled : Bool) :
    Guides discipline.start (handleAdminPlayer enabled) := by
  refine Program.Obeys.perform rfl ?_
  rintro (_ | _)
  · cases enabled <;> exact guides_reply nofun
  · cases enabled with
    | true =>
        refine Program.Obeys.perform trivial ?_
        rintro (_ | _)
        · exact guides_reply nofun
        · exact ⟨trivial, fun _ => guides_reply nofun⟩
    | false => exact ⟨rfl, fun _ => guides_reply nofun⟩

theorem guides_accept (request : Request) : Guides discipline.start (accept request) := by
  cases request with
  | socket ip => exact guides_handleWs ip
  | player enabled => exact guides_handleAdminPlayer enabled
  | trackUpdate => exact ⟨trivial, fun _ => trivial⟩

/-! ## Switched off, nobody listens -/

/-- An upgraded socket registers, or gets its snapshot, only if no switch-off that still stands has
cleared the clients, or returned, since the socket passed the gate.  A switch-off whose save fails
returns with no client registered. -/
def RegistersUpToDate (hub : Hub) (traces : Nat → Trace) (actor : Nat) (op : Op) (_ : Input) :
    Prop :=
  match op with
  | .insertClient _ => hub.swept = true → hub.gateSeen actor = hub.sweeps
  | .trySend _ => hub.silenced = true → hub.gateSeen actor = hub.sweeps
  | .reply => (traces actor).switch = .failed → hub.stands actor = true → hub.wsClients = []
  | _ => True

instance (hub : Hub) (traces : Nat → Trace) (actor : Nat) (op : Op) (input : Input) :
    Decidable (RegistersUpToDate hub traces actor op input) := by
  cases op with
  | insertClient | trySend => exact inferInstanceAs (Decidable (_ → _))
  | reply => exact inferInstanceAs (Decidable (_ → _ → _))
  | _ => exact isTrue trivial

/-- From the return of a switch-off until the player is on again, no client is registered and no
frame is sent. -/
def NobodyListens (hub : Hub) : Prop :=
  (hub.silenced = true → hub.wsClients = []) ∧ ∀ sent ∈ hub.sent, sent.silenced = false

/-- How a task's record fits the shared state. -/
structure Recorded (hub : Hub) (actor : Nat) (trace : Trace) : Prop where
  since : ∀ enables, hub.offSince actor = some enables → enables ≤ hub.enables
  off : hub.stands actor = true → hub.playerEnabled = false
  switched : hub.offSince actor ≠ none →
    trace.switch = .off ∨ trace.switch = .failed ∨ trace.switch = .cleared
  cleared : trace.switch = .cleared → hub.stands actor = true → hub.swept = true
  gate : hub.gateSeen actor ≤ hub.sweeps
  admitted : trace.admitted = true → hub.gateSeen actor = hub.sweeps → hub.swept = false

/-- The invariant of all interleavings. -/
structure Hushed (hub : Hub) (traces : Nat → Trace) : Prop where
  recorded : ∀ task, Recorded hub task (traces task)
  swept : hub.swept = true → hub.playerEnabled = false ∧ hub.wsClients = []
  silenced : hub.silenced = true → hub.swept = true
  sent : ∀ sent ∈ hub.sent, sent.silenced = false

variable {hub after : Hub} {actor : Nat} {op : Op} {answer : op.Answer} {input : Input}
  {trace next : Trace} {traces : Nat → Trace}

/-- Nothing which the records speak of has changed. -/
structure Idles (before after : Hub) : Prop where
  playerEnabled : after.playerEnabled = before.playerEnabled
  enables : after.enables = before.enables
  offSince : after.offSince = before.offSince
  sweeps : after.sweeps = before.sweeps
  gateSeen : after.gateSeen = before.gateSeen
  swept : after.swept = before.swept

theorem Idles.recorded (idles : Idles hub after) (recorded : Recorded hub actor trace)
    (switch : next.switch = trace.switch) (admitted : next.admitted = trace.admitted) :
    Recorded after actor next where
  since := by rw [idles.offSince, idles.enables]; exact recorded.since
  off := by
    rw [Hub.stands, idles.offSince, idles.enables, idles.playerEnabled]
    exact recorded.off
  switched := by rw [idles.offSince, switch]; exact recorded.switched
  cleared := by
    rw [Hub.stands, idles.offSince, idles.enables, idles.swept, switch]
    exact recorded.cleared
  gate := by rw [idles.gateSeen, idles.sweeps]; exact recorded.gate
  admitted := by
    rw [admitted, idles.gateSeen, idles.sweeps, idles.swept]
    exact recorded.admitted

theorem Hushed.idle (hushed : Hushed hub traces) (idles : Idles hub after)
    (switch : next.switch = (traces actor).switch)
    (admitted : next.admitted = (traces actor).admitted)
    (clients : hub.swept = true → hub.wsClients = [] → after.wsClients = [])
    (silenced : after.silenced = hub.silenced)
    (sent : ∀ sent ∈ after.sent, sent.silenced = false) :
    Hushed after (Function.update traces actor next) where
  recorded := (Function.forall_update_iff traces fun task trace => Recorded after task trace).mpr
    ⟨idles.recorded (hushed.recorded actor) switch admitted,
      fun task _ => idles.recorded (hushed.recorded task) rfl rfl⟩
  swept := by
    rw [idles.swept, idles.playerEnabled]
    intro swept
    obtain ⟨off, none⟩ := hushed.swept swept
    exact ⟨off, clients swept none⟩
  silenced := by
    rw [silenced, idles.swept]
    exact hushed.silenced
  sent := sent

theorem Idles.refl (hub : Hub) : Idles hub hub := ⟨rfl, rfl, rfl, rfl, rfl, rfl⟩

theorem hushed_switchOn (hushed : Hushed hub traces)
    (idle : (traces actor).switch = .idle) :
    Hushed (hub.setPlayerEnabled actor true) (Function.update traces actor next) := by
  have obsolete (task : Nat) : (hub.setPlayerEnabled actor true).stands task = false := by
    have since := (hushed.recorded task).since (hub.enables + 1)
    simp only [Hub.stands, Hub.setPlayerEnabled, if_true, decide_eq_false_iff_not]
    intro same
    have := since same
    omega
  have recorded (task : Nat) (trace : Trace) (switched : hub.offSince task ≠ none →
      trace.switch = .off ∨ trace.switch = .failed ∨ trace.switch = .cleared) :
      Recorded (hub.setPlayerEnabled actor true) task trace := by
    refine ⟨?_, ?_, switched, ?_, (hushed.recorded task).gate, fun _ _ => rfl⟩
    · intro enables since
      have := (hushed.recorded task).since enables since
      simp only [Hub.setPlayerEnabled, if_true]
      omega
    · simp [obsolete]
    · simp [obsolete]
  refine ⟨?_, nofun, nofun, hushed.sent⟩
  refine (Function.forall_update_iff traces fun task trace => Recorded _ task trace).mpr ⟨?_, ?_⟩
  · refine recorded actor next fun since => ?_
    have switched := (hushed.recorded actor).switched since
    simp [idle] at switched
  · exact fun task _ => recorded task _ (hushed.recorded task).switched

/-- A switch-off stands, with the player off, until the next switch-on. -/
theorem hushed_switchOff (hushed : Hushed hub traces)
    (switching : next.switch = .off ∨ next.switch = .failed)
    (admitted : next.admitted = (traces actor).admitted) :
    Hushed (hub.setPlayerEnabled actor false) (Function.update traces actor next) := by
  refine ⟨?_, fun swept => ⟨rfl, (hushed.swept swept).2⟩, hushed.silenced, hushed.sent⟩
  refine (Function.forall_update_iff traces fun task trace => Recorded _ task trace).mpr ⟨?_, ?_⟩
  · have recorded := hushed.recorded actor
    refine ⟨?_, fun _ => rfl, ?_, ?_, recorded.gate, ?_⟩
    · intro enables since
      simp only [Hub.setPlayerEnabled, Bool.false_eq_true, if_false, Function.update_self,
        Option.some.injEq] at since ⊢
      omega
    · exact fun _ => switching.imp id Or.inl
    · intro cleared
      rcases switching with off | failed
      · simp [off] at cleared
      · simp [failed] at cleared
    · rw [admitted]
      exact recorded.admitted
  · intro task different
    have recorded := hushed.recorded task
    have since : (hub.setPlayerEnabled actor false).offSince task = hub.offSince task :=
      Function.update_of_ne different _ _
    refine ⟨?_, fun _ => rfl, ?_, ?_, recorded.gate, recorded.admitted⟩
    · rw [since]
      exact recorded.since
    · rw [since]
      exact recorded.switched
    · rw [Hub.stands, since]
      exact recorded.cleared

/-- Whoever passes the gate finds that no switch-off stands. -/
theorem hushed_gate (hushed : Hushed hub traces) (fresh : (traces actor).admitted = false) :
    Hushed { hub with gateSeen := Function.update hub.gateSeen actor hub.sweeps }
      (Function.update traces actor ((traces actor).next .playerEnabled hub.playerEnabled)) := by
  have recorded := hushed.recorded actor
  refine ⟨?_, hushed.swept, hushed.silenced, hushed.sent⟩
  refine (Function.forall_update_iff traces fun task trace => Recorded _ task trace).mpr ⟨?_, ?_⟩
  · cases enabled : hub.playerEnabled with
    | false =>
        refine ⟨recorded.since, fun _ => rfl, recorded.switched, recorded.cleared, ?_, ?_⟩
        · simp
        · intro admitted
          simp [Trace.next, fresh] at admitted
    | true =>
        refine ⟨recorded.since, ?_, recorded.switched, recorded.cleared, ?_, fun _ _ => ?_⟩
        · intro stands
          exact absurd (recorded.off stands) (by simp [enabled])
        · simp
        · by_contra swept
          have off := (hushed.swept (by simpa using swept)).1
          simp [enabled] at off
  · intro task different
    have recorded := hushed.recorded task
    refine ⟨recorded.since, recorded.off, recorded.switched, recorded.cleared, ?_, ?_⟩
    · simp [different, recorded.gate]
    · simpa [different] using recorded.admitted

/-- With no client registered and the player off, a switch-off may be through with the clients. -/
theorem Hushed.sweep (hushed : Hushed hub traces) (none : hub.wsClients = []) :
    Hushed (hub.sweep actor) traces := by
  by_cases stands : hub.stands actor = true
  · have off := (hushed.recorded actor).off stands
    rw [Hub.sweep, if_pos stands]
    refine ⟨fun task => ?_, fun _ => ⟨off, none⟩, fun _ => rfl, hushed.sent⟩
    have recorded := hushed.recorded task
    refine ⟨recorded.since, recorded.off, recorded.switched, fun _ _ => rfl, ?_, ?_⟩
    · exact Nat.le_succ_of_le recorded.gate
    · intro _ seen
      have bound := recorded.gate
      have seen : hub.gateSeen task = hub.sweeps + 1 := seen
      omega
  · rw [Hub.sweep, if_neg stands]
    exact hushed

theorem swept_sweep (stands : hub.stands actor = true) : (hub.sweep actor).swept = true := by
  rw [Hub.sweep, if_pos stands]

theorem stands_sweep : (hub.sweep actor).stands actor = hub.stands actor := by
  rw [Hub.sweep]
  split <;> rfl

theorem hushed_clear (hushed : Hushed hub traces) (switch : next.switch = .cleared)
    (admitted : next.admitted = (traces actor).admitted) :
    Hushed ({ hub with wsClients := [] }.sweep actor) (Function.update traces actor next) := by
  have idles : Idles hub { hub with wsClients := [] } := ⟨rfl, rfl, rfl, rfl, rfl, rfl⟩
  have emptied : Hushed { hub with wsClients := [] } traces :=
    ⟨fun task => idles.recorded (hushed.recorded task) rfl rfl,
      fun swept => ⟨(hushed.swept swept).1, rfl⟩, hushed.silenced, hushed.sent⟩
  have after : Hushed ({ hub with wsClients := [] }.sweep actor) traces := emptied.sweep rfl
  refine ⟨?_, after.swept, after.silenced, after.sent⟩
  refine (Function.forall_update_iff traces fun task trace => Recorded _ task trace).mpr
    ⟨?_, fun task _ => after.recorded task⟩
  have recorded := after.recorded actor
  refine ⟨recorded.since, recorded.off, fun _ => Or.inr (Or.inr switch), ?_, recorded.gate, ?_⟩
  · intro _ stands
    rw [stands_sweep] at stands
    exact swept_sweep stands
  · rw [admitted]
    exact recorded.admitted

theorem Hushed.silence (hushed : Hushed hub traces) (swept : hub.swept = true) :
    Hushed { hub with silenced := true } traces := by
  have idles : Idles hub { hub with silenced := true } := ⟨rfl, rfl, rfl, rfl, rfl, rfl⟩
  exact ⟨fun task => idles.recorded (hushed.recorded task) rfl rfl, hushed.swept, fun _ => swept,
    hushed.sent⟩

/-- A switch-off returns after it has cleared the clients, or finds none. -/
theorem hushed_reply (hushed : Hushed hub traces) (through : (traces actor).switch ≠ .off)
    (permitted : (traces actor).switch = .failed → hub.stands actor = true → hub.wsClients = []) :
    Hushed (hub.reply actor) traces := by
  rw [Hub.reply]
  by_cases stands : hub.stands actor = true
  · rw [if_pos stands]
    by_cases swept : hub.swept = true
    · rw [if_pos swept]
      exact hushed.silence swept
    · rw [if_neg swept]
      have recorded := hushed.recorded actor
      have off : hub.offSince actor ≠ none := by
        rw [of_decide_eq_true stands]
        exact Option.some_ne_none _
      have failed : (traces actor).switch = .failed := by
        rcases recorded.switched off with off | failed | cleared
        · exact absurd off through
        · exact failed
        · exact absurd (recorded.cleared cleared stands) swept
      exact (hushed.sweep (permitted failed stands)).silence (swept_sweep stands)
  · rw [if_neg stands]
    exact hushed

/-- Frames go to whom the clients list, none of them after a switch-off has returned. -/
theorem hushed_broadcast (hushed : Hushed hub traces) :
    Hushed hub.broadcast (Function.update traces actor (traces actor)) := by
  refine hushed.idle ⟨rfl, rfl, rfl, rfl, rfl, rfl⟩ rfl rfl (fun _ none => none) rfl ?_
  intro sent member
  rcases List.mem_append.mp member with new | old
  · obtain ⟨id, registered, rfl⟩ := List.mem_map.mp new
    by_contra silenced
    have none := (hushed.swept (hushed.silenced (by simpa using silenced))).2
    simp [none] at registered
  · exact hushed.sent sent old

/-- Whoever registers on an up-to-date gate check finds that no switch-off stands. -/
theorem hushed_insertClient (hushed : Hushed hub traces) (admitted : (traces actor).admitted = true)
    (id : Nat) (current : hub.swept = true → hub.gateSeen actor = hub.sweeps) :
    Hushed { hub with wsClients := id :: hub.wsClients }
      (Function.update traces actor (traces actor)) := by
  refine hushed.idle ⟨rfl, rfl, rfl, rfl, rfl, rfl⟩ rfl rfl ?_ rfl hushed.sent
  intro swept _
  have free := (hushed.recorded actor).admitted admitted (current swept)
  simp [swept] at free

theorem hushed_trySend (hushed : Hushed hub traces) (admitted : (traces actor).admitted = true)
    (id : Nat) (current : hub.silenced = true → hub.gateSeen actor = hub.sweeps) :
    Hushed { hub with sent := ⟨id, hub.silenced⟩ :: hub.sent }
      (Function.update traces actor (traces actor)) := by
  refine hushed.idle ⟨rfl, rfl, rfl, rfl, rfl, rfl⟩ rfl rfl (fun _ none => none) rfl ?_
  intro sent member
  rcases List.mem_cons.mp member with rfl | old
  · by_contra silenced
    have silenced : hub.silenced = true := by simpa using silenced
    have free := (hushed.recorded actor).admitted admitted (current silenced)
    simp [hushed.silenced silenced] at free
  · exact hushed.sent sent old

theorem hushed_perform (hushed : Hushed hub traces) (allowed : (traces actor).Allows op)
    (permitted : RegistersUpToDate hub traces actor op input)
    (performed : hub.perform actor op input = some (answer, after)) :
    Hushed after (Function.update traces actor ((traces actor).next op answer)) := by
  cases op with
  | playerEnabled =>
      obtain ⟨rfl, rfl⟩ := Prod.mk.inj (Option.some.inj performed)
      exact hushed_gate hushed allowed
  | setPlayerEnabled enabled =>
      obtain ⟨rfl, rfl⟩ := Prod.mk.inj (Option.some.inj performed)
      cases enabled with
      | true => exact hushed_switchOn hushed allowed
      | false =>
          cases saved : input.saved with
          | true => exact hushed_switchOff hushed (Or.inl rfl) rfl
          | false => exact hushed_switchOff hushed (Or.inr rfl) rfl
  | clearClients =>
      obtain ⟨-, rfl⟩ := Prod.mk.inj (Option.some.inj performed)
      exact hushed_clear hushed rfl rfl
  | reply =>
      obtain ⟨-, rfl⟩ := Prod.mk.inj (Option.some.inj performed)
      rw [show (traces actor).next .reply answer = traces actor from rfl, Function.update_eq_self]
      exact hushed_reply hushed allowed permitted
  | broadcast =>
      obtain ⟨-, rfl⟩ := Prod.mk.inj (Option.some.inj performed)
      exact hushed_broadcast hushed
  | insertClient id =>
      obtain ⟨-, rfl⟩ := Prod.mk.inj (Option.some.inj performed)
      exact hushed_insertClient hushed allowed id permitted
  | trySend id =>
      obtain ⟨-, rfl⟩ := Prod.mk.inj (Option.some.inj performed)
      exact hushed_trySend hushed allowed id permitted
  | removeClient id =>
      obtain ⟨-, rfl⟩ := Prod.mk.inj (Option.some.inj performed)
      refine hushed.idle ⟨rfl, rfl, rfl, rfl, rfl, rfl⟩ rfl rfl ?_ rfl hushed.sent
      intro _ none
      simp [none]
  | listen id =>
      obtain ⟨-, -, rfl⟩ := of_guarded_answer performed
      exact hushed.idle (.refl hub) rfl rfl (fun _ none => none) rfl hushed.sent
  | takePeerSlot ip =>
      rw [Hub.perform, Hub.takePeerSlot] at performed
      split at performed
      all_goals
        obtain ⟨-, rfl⟩ := Prod.mk.inj (Option.some.inj performed)
        exact hushed.idle ⟨rfl, rfl, rfl, rfl, rfl, rfl⟩ rfl rfl (fun _ none => none) rfl
          hushed.sent
  | _ =>
      obtain ⟨-, rfl⟩ := Prod.mk.inj (Option.some.inj performed)
      exact hushed.idle ⟨rfl, rfl, rfl, rfl, rfl, rfl⟩ rfl rfl (fun _ none => none) rfl hushed.sent

theorem safe : machine.Safe discipline RegistersUpToDate Hushed where
  initial := by
    rintro _ ⟨playerEnabled, rfl⟩
    refine ⟨fun task => ?_, nofun, nofun, nofun⟩
    exact ⟨nofun, nofun, fun since => absurd rfl since, nofun, Nat.le_refl _, nofun⟩
  accept := by
    intro hub traces actor request program after hushed _ accepted
    obtain ⟨rfl, rfl⟩ := Prod.mk.inj (Option.some.inj accepted)
    exact ⟨hushed, guides_accept request⟩
  perform hub traces actor op input answer after hushed allowed permitted performed :=
    hushed_perform hushed allowed permitted performed
  outside := by
    intro hub traces current after hushed changed
    obtain rfl := Option.some.inj changed
    have idles : Idles hub { hub with current := current } := ⟨rfl, rfl, rfl, rfl, rfl, rfl⟩
    exact ⟨fun task => idles.recorded (hushed.recorded task) rfl rfl, hushed.swept,
      hushed.silenced, hushed.sent⟩

/-- All interleavings of sockets, broadcasts and the player switch. -/
abbrev system := machine.system discipline

/-- If no socket registers on an outdated gate check, and no switch-off returns early with clients
registered, nobody listens from its return until the player is on again. -/
theorem nobody_listens {pool : Pool signature Hub Trace}
    (reach : system.ReachableUnder (Machine.Permits RegistersUpToDate) pool) :
    NobodyListens pool.shared := by
  have hushed := (safe.guarded reach).holds
  exact ⟨fun silenced => (hushed.swept (hushed.silenced silenced)).2, hushed.sent⟩

/-- The hub with its player on. -/
def playerOn : Pool signature Hub Trace := Machine.boot discipline (start true)

theorem playerOn_initial : system.initial playerOn := ⟨_, ⟨true, rfl⟩, rfl⟩

/-- A number of operations of one task. -/
def advance (count actor : Nat) : List (PoolEvent Request Input (Option SpotifyState)) :=
  List.replicate count (.advance actor {})

/-- A socket registers and the player is switched off. -/
def registered : List (PoolEvent Request Input (Option SpotifyState)) :=
  [.start (.socket "peer")] ++ advance 7 0 ++ [.start (.player false)] ++ advance 3 1

theorem registered_nobody_listens :
    let pool := system.final playerOn registered rfl
    pool.shared.silenced = true ∧ NobodyListens pool.shared :=
  ⟨rfl, nobody_listens (System.ReachableUnder.final playerOn_initial (by decide) rfl)⟩

/-- The player is switched off while a socket is upgraded, which then registers. -/
def overtaken : List (PoolEvent Request Input (Option SpotifyState)) :=
  [.start (.socket "peer")] ++ advance 5 0 ++ [.start (.player false)] ++ advance 3 1 ++
    advance 1 0

/-- The socket is registered with the player off. -/
theorem overtaken_listens :
    ¬ ∀ pool, system.Reachable pool → NobodyListens pool.shared := by
  intro nobody
  have reach : system.Reachable (system.final playerOn overtaken rfl) :=
    System.reachable_final playerOn_initial overtaken rfl
  have none := (nobody _ reach).1 rfl
  exact absurd none (by decide)

end Togewire.Server.Sockets
