import Togewire.Server.ClientIp
import Togewire.Server.Peers

/-!
# The cap on sockets

A request for a socket is turned away when as many are registered as the cap allows.  The socket
it asks for is registered later, by the task its upgrade starts; requests between the two are not
counted.  The cap holds provided that every request let in finds room for those before it as well.
-/

namespace Togewire.Server.Peers.Admission

open Interleaving Transition

/-- What the handlers share. -/
structure Gate where
  hub : Hub
  /-- History: requests past the check of the cap, until they are registered or refused. -/
  admitted : List Nat

namespace Gate

/-- A request is admitted by the check of the cap, until it is registered or refused. -/
def record (gate : Gate) (actor : Nat) (hub : Hub) : (op : Op) → op.Answer → Gate
  | .clientCount, (count : Nat) =>
      { hub := hub
        admitted := if count < maxTotalWsClients then actor :: gate.admitted else gate.admitted }
  | .takeSlot _ _, (free : Bool) | .upgrade, (free : Bool) =>
      { hub := hub, admitted := if free then gate.admitted else gate.admitted.erase actor }
  | .insertSocket _, _ => { hub := hub, admitted := gate.admitted.erase actor }
  | _, _ => { gate with hub := hub }

/-- The effect of one operation, with the record of who is let in. -/
def perform (gate : Gate) (actor : Nat) (op : Op) (input : Input) : Option (op.Answer × Gate) :=
  (gate.hub.perform actor op input).map fun outcome =>
    (outcome.1, gate.record actor outcome.2 op outcome.1)

end Gate

/-- All orders of streams, sockets and their ends. -/
def machine : Machine signature Gate Request Input Change where
  initial gate := ∃ playerEnabled, gate = { hub := .start playerEnabled, admitted := [] }
  accept gate _ request := some (accept request, gate)
  perform := Gate.perform
  outside gate change := some { gate with hub := gate.hub.outside change }

/-! ## Who has been let in -/

/-- Whether a request is past the check of the cap, and neither registered nor refused. -/
abbrev Entering := Bool

namespace Entering

def next (entering : Entering) : (op : Op) → op.Answer → Entering
  | .clientCount, (count : Nat) => decide (count < maxTotalWsClients)
  | .takeSlot _ _, (free : Bool) | .upgrade, (free : Bool) => entering && free
  | .insertSocket _, _ => false
  | _, _ => entering

/-- Only a request which has been let in is registered. -/
def Allows (entering : Entering) : Op → Prop
  | .insertSocket _ => entering = true
  | _ => True

end Entering

def discipline : Discipline signature Entering where
  start := false
  next := Entering.next
  allows := Entering.Allows

/-- A task keeps to the discipline, whether it has been let in or not. -/
abbrev Keeps {α : Type} (task : Task α) : Prop :=
  ∀ entering, task.Obeys discipline entering fun _ _ => True

theorem Keeps.bind {α β : Type} {first : Task α} {rest : α → Task β} (keeps : Keeps first)
    (after : ∀ result, Keeps (rest result)) : Keeps (first >>= rest) := by
  intro entering
  apply Program.Obeys.bind
  apply (keeps entering).mono
  intro result entering _
  exact after result entering

theorem keeps_noteCurrent (ip : String) (current : Option SpotifyState) :
    Keeps (noteCurrent ip current) := by
  unfold noteCurrent
  split
  · exact fun _ => ⟨trivial, fun _ => trivial⟩
  · exact fun _ => trivial

theorem keeps_handleStream (ip : String) : Keeps (handleStream ip) := by
  intro entering
  apply Program.Obeys.perform trivial
  intro (enabled : Bool)
  cases enabled with
  | false => trivial
  | true =>
      apply Program.Obeys.perform trivial
      intro (free : Bool)
      cases free with
      | false => trivial
      | true =>
          apply Program.Obeys.perform trivial
          intro (attached : Bool)
          cases attached with
          | false => exact ⟨trivial, fun _ => trivial⟩
          | true =>
              apply Program.Obeys.perform trivial
              intro current
              apply (keeps_noteCurrent ip current).bind
              exact fun _ _ => ⟨trivial, fun _ => ⟨trivial, fun _ => ⟨trivial, fun _ => trivial⟩⟩⟩

theorem keeps_serveFrames (ip : String) (frames : Nat) (listening : Bool) :
    Keeps (serveFrames ip frames listening) := by
  induction frames generalizing listening with
  | zero => exact fun _ => trivial
  | succ frames ih =>
      intro entering
      apply Program.Obeys.perform trivial
      intro received
      cases received with
      | none => trivial
      | some frame =>
          dsimp only
          split
          · exact ih listening _
          · rename_i on _
            split
            · exact Program.Obeys.perform trivial fun _ => ih on _
            · exact ih listening _

theorem keeps_endSocket (ip : String) (id : Nat) (listening : Bool) :
    Keeps (endSocket ip id listening) := by
  intro entering
  cases listening with
  | false => exact ⟨trivial, fun _ => ⟨trivial, fun _ => ⟨trivial, fun _ => trivial⟩⟩⟩
  | true =>
      exact ⟨trivial, fun _ => ⟨trivial, fun _ => ⟨trivial, fun _ => ⟨trivial, fun _ => trivial⟩⟩⟩⟩

/-- What is left of a request which has been let in. -/
def enter (ip : String) (frames : Nat) : Task Unit := do
  if ← takePeerSlot .sockets ip then
    if ← upgrade then
      handleSocket ip frames
    else
      refundSlot .sockets ip
  else
    pure ()

theorem obeys_enter (ip : String) (frames : Nat) :
    (enter ip frames).Obeys discipline true fun _ _ => True := by
  apply Program.Obeys.perform trivial
  intro (free : Bool)
  cases free with
  | false => trivial
  | true =>
      apply Program.Obeys.perform trivial
      intro (upgraded : Bool)
      cases upgraded with
      | false => exact ⟨trivial, fun _ => trivial⟩
      | true =>
          apply Program.Obeys.perform trivial
          intro id
          apply Program.Obeys.perform rfl
          intro _
          exact (keeps_serveFrames ip frames false).bind (fun _ => keeps_endSocket ip id _) _

theorem obeys_handleWs (ip : String) (frames : Nat) :
    (handleWs ip frames).Obeys discipline false fun _ _ => True := by
  apply Program.Obeys.perform trivial
  intro (enabled : Bool)
  cases enabled with
  | false => trivial
  | true =>
      apply Program.Obeys.perform trivial
      intro (count : Nat)
      by_cases few : count < maxTotalWsClients
      · have entered := obeys_enter ip frames
        rw [← decide_eq_true few] at entered
        rw [if_pos few]
        exact entered
      · rw [if_neg few]
        trivial

theorem obeys_accept (request : Request) :
    (accept request).Obeys discipline false fun _ _ => True := by
  cases request with
  | stream ip => exact keeps_handleStream ip false
  | socket ip frames => exact obeys_handleWs ip frames

/-! ## Room for all -/

/-- A request is let in only while there is room for those which are still entering. -/
def Spare (gate : Gate) (_ : Nat → Entering) (_ : Nat) (op : Op) (_ : Input) : Prop :=
  match op with
  | .clientCount => gate.hub.wsClients.length < maxTotalWsClients →
      gate.hub.wsClients.length + gate.admitted.length < maxTotalWsClients
  | _ => True

instance (gate : Gate) (traces : Nat → Entering) (actor : Nat) (op : Op) (input : Input) :
    Decidable (Spare gate traces actor op input) := by
  cases op with
  | clientCount => exact inferInstanceAs (Decidable (_ → _))
  | _ => exact isTrue trivial

/-- The invariant of all interleavings. -/
structure Coherent (gate : Gate) (traces : Nat → Entering) : Prop where
  room : gate.hub.wsClients.length + gate.admitted.length ≤ maxTotalWsClients
  entering : ∀ task, traces task = true → task ∈ gate.admitted

section Steps

variable {gate after : Gate} {traces : Nat → Entering} {actor : Nat} {hub : Hub}

/-- Fewer sockets need no more room. -/
theorem Coherent.fewer (coherent : Coherent gate traces)
    (fewer : hub.wsClients.length ≤ gate.hub.wsClients.length) :
    Coherent { gate with hub := hub } traces where
  room := by
    have room := coherent.room
    show hub.wsClients.length + gate.admitted.length ≤ maxTotalWsClients
    omega
  entering := coherent.entering

/-- A request which is done entering leaves its room. -/
theorem Coherent.leave (coherent : Coherent gate traces)
    (room : hub.wsClients.length + (gate.admitted.erase actor).length ≤ maxTotalWsClients) :
    Coherent { hub := hub, admitted := gate.admitted.erase actor }
      (Function.update traces actor false) where
  room := room
  entering := by
    rw [Function.forall_update_iff traces fun task entering =>
      entering = true → task ∈ gate.admitted.erase actor]
    constructor
    · exact nofun
    · intro task different entering
      exact (List.mem_erase_of_ne different).mpr (coherent.entering task entering)

/-- A request is asked whether it may go on, and is refused otherwise. -/
theorem Coherent.refuse (coherent : Coherent gate traces) (free : Bool)
    (same : hub.wsClients = gate.hub.wsClients) :
    Coherent
      { hub := hub, admitted := if free then gate.admitted else gate.admitted.erase actor }
      (Function.update traces actor (traces actor && free)) := by
  cases free with
  | true =>
      rw [Bool.and_true, Function.update_eq_self]
      apply coherent.fewer
      rw [same]
  | false =>
      rw [Bool.and_false]
      apply coherent.leave
      have room := coherent.room
      have erased := List.length_erase_le (l := gate.admitted) (a := actor)
      rw [same]
      omega

theorem Coherent.letIn (coherent : Coherent gate traces)
    (room : gate.hub.wsClients.length + gate.admitted.length < maxTotalWsClients) :
    Coherent { gate with admitted := actor :: gate.admitted }
      (Function.update traces actor true) where
  room := by
    show gate.hub.wsClients.length + (gate.admitted.length + 1) ≤ maxTotalWsClients
    omega
  entering := by
    rw [Function.forall_update_iff traces fun task entering =>
      entering = true → task ∈ actor :: gate.admitted]
    constructor
    · exact fun _ => List.mem_cons_self
    · exact fun task _ entering => List.mem_cons_of_mem actor (coherent.entering task entering)

/-- Nobody is let in when the cap has been reached. -/
theorem Coherent.turnAway (coherent : Coherent gate traces) :
    Coherent gate (Function.update traces actor false) where
  room := coherent.room
  entering := by
    rw [Function.forall_update_iff traces fun task entering =>
      entering = true → task ∈ gate.admitted]
    constructor
    · exact nofun
    · exact fun task _ => coherent.entering task

theorem Coherent.clientCount (coherent : Coherent gate traces)
    (spare : gate.hub.wsClients.length < maxTotalWsClients →
      gate.hub.wsClients.length + gate.admitted.length < maxTotalWsClients) :
    Coherent
      { gate with
        admitted :=
          if gate.hub.wsClients.length < maxTotalWsClients then actor :: gate.admitted
          else gate.admitted }
      (Function.update traces actor
        (decide (gate.hub.wsClients.length < maxTotalWsClients))) := by
  by_cases few : gate.hub.wsClients.length < maxTotalWsClients
  · rw [if_pos few, decide_eq_true few]
    exact coherent.letIn (spare few)
  · rw [if_neg few, decide_eq_false few]
    exact coherent.turnAway

theorem length_addClient (hub : Hub) : hub.addClient.2.wsClients = hub.wsClients := by
  unfold Hub.addClient
  split <;> rfl

variable {op : Op} {answer : op.Answer} {input : Input}

/-- One operation, performed with room to spare, keeps the invariant. -/
theorem coherent_perform (coherent : Coherent gate traces)
    (allowed : (traces actor).Allows op) (spare : Spare gate traces actor op input)
    (performed : gate.perform actor op input = some (answer, after)) :
    Coherent after (Function.update traces actor ((traces actor).next op answer)) := by
  cases op with
  | clientCount =>
      obtain ⟨rfl, rfl⟩ := Prod.mk.inj (Option.some.inj performed)
      exact coherent.clientCount spare
  | takeSlot slot ip =>
      obtain ⟨rfl, rfl⟩ := Prod.mk.inj (Option.some.inj performed)
      exact coherent.refuse _ rfl
  | upgrade =>
      obtain ⟨rfl, rfl⟩ := Prod.mk.inj (Option.some.inj performed)
      exact coherent.refuse _ rfl
  | insertSocket id =>
      obtain ⟨rfl, rfl⟩ := Prod.mk.inj (Option.some.inj performed)
      apply coherent.leave
      have room := coherent.room
      have inside := coherent.entering actor allowed
      have erased := List.length_erase_of_mem inside
      have positive := List.length_pos_of_mem inside
      show gate.hub.wsClients.length + 1 + (gate.admitted.erase actor).length ≤ maxTotalWsClients
      omega
  | removeSocket id =>
      obtain ⟨rfl, rfl⟩ := Prod.mk.inj (Option.some.inj performed)
      change Coherent _ (Function.update traces actor (traces actor))
      rw [Function.update_eq_self]
      exact coherent.fewer List.length_erase_le
  | addClient =>
      obtain ⟨rfl, rfl⟩ := Prod.mk.inj (Option.some.inj performed)
      change Coherent _ (Function.update traces actor (traces actor))
      rw [Function.update_eq_self]
      apply coherent.fewer
      rw [length_addClient]
  | playerEnabled | refundSlot | releaseSlot | removeClient | readCurrent | noteTrack | streamBody
  | nextId | nextFrame | setListening | abortWriter =>
      obtain ⟨rfl, rfl⟩ := Prod.mk.inj (Option.some.inj performed)
      change Coherent _ (Function.update traces actor (traces actor))
      rw [Function.update_eq_self]
      exact coherent.fewer (Nat.le_refl _)

end Steps

theorem safe : machine.Safe discipline Spare Coherent where
  initial := by
    rintro _ ⟨playerEnabled, rfl⟩
    exact ⟨Nat.zero_le _, nofun⟩
  accept := by
    intro gate traces actor request program after coherent _ accepted
    obtain ⟨rfl, rfl⟩ := Prod.mk.inj (Option.some.inj accepted)
    exact ⟨coherent, obeys_accept request⟩
  perform gate traces actor op input answer after coherent allowed spare performed :=
    coherent_perform coherent allowed spare performed
  outside := by
    intro gate traces change after coherent changed
    obtain rfl := Option.some.inj changed
    apply coherent.fewer
    cases change with
    | clearClients => exact Nat.zero_le _
    | report | player | swapPipe => exact Nat.le_refl _

/-- All interleavings of streams and sockets. -/
abbrev system := machine.system discipline

/-- The cap holds if every request is let in with room for those still entering. -/
theorem clients_le {pool : Pool signature Gate Entering}
    (reach : system.ReachableUnder (Machine.Permits Spare) pool) :
    pool.shared.hub.wsClients.length ≤ maxTotalWsClients := by
  have room := (safe.guarded reach).holds.room
  omega

/-- The program has started, with the player on. -/
def opened : Pool signature Gate Entering :=
  Machine.boot discipline { hub := .start true, admitted := [] }

theorem opened_initial : system.initial opened := ⟨_, ⟨true, rfl⟩, rfl⟩

/-- Two requests are let in together, and one of their sockets ends. -/
def visit : List (PoolEvent Request Input Change) :=
  [.start (.socket "203.0.113.7" 0), .start (.socket "198.51.100.9" 0)] ++
    List.replicate 2 (.advance 0 {}) ++ List.replicate 6 (.advance 1 {}) ++
      List.replicate 7 (.advance 0 {})

theorem visit_clients_le :
    let pool := system.final opened visit rfl
    pool.shared.hub.wsClients = [0] ∧ pool.shared.hub.wsClients.length ≤ maxTotalWsClients :=
  ⟨rfl, clients_le (System.ReachableUnder.final opened_initial (by decide) rfl)⟩

/-! ## A race for the last place -/

/-- Clients which are counted one by one. -/
def client (number : Nat) : Ipv4Addr := ⟨203, 0, UInt8.ofNat (number / 256), UInt8.ofNat number⟩

/-- What such a client is counted by, when it asks without a proxy. -/
def address (number : Nat) : String := clientIp [] (.v4 (client number))

theorem address_ne {number other : Nat} (few : number < 2 ^ 16) (few' : other < 2 ^ 16)
    (different : number ≠ other) : address number ≠ address other := by
  intro same
  have direct (number : Nat) : address number = String.ofList (client number).text := by
    have unforwarded : (if isTrustedProxy (.v4 (client number)) then forwardedClientIp []
        else none) = none := by
      split <;> rfl
    rw [address, clientIp, unforwarded]
    rfl
  rw [direct, direct, String.ofList_inj, text_injective.eq_iff] at same
  have high := congrArg (fun addr => addr.c.toNat) same
  have low := congrArg (fun addr => addr.d.toNat) same
  simp only [client, UInt8.toNat_ofNat'] at high low
  omega

/-- So many sockets are registered, with the player on, and later addresses have none yet. -/
structure Crowd (gate : Gate) (count : Nat) : Prop where
  enabled : gate.hub.playerEnabled = true
  clients : gate.hub.wsClients.length = count
  unseen : ∀ number, count ≤ number → number < 2 ^ 16 →
    gate.hub.peers.entry (address number) = {}

section Race

variable {gate : Gate} {actor frames : Nat} {ip : String}

/-- A request is let in below the cap. -/
theorem solo_check (enabled : gate.hub.playerEnabled = true)
    (few : gate.hub.wsClients.length < maxTotalWsClients) :
    machine.solo discipline actor [{}, {}] (handleWs ip frames) gate false =
      some (enter ip frames, { gate with admitted := actor :: gate.admitted }, true) := by
  have counted : machine.solo discipline actor [{}, {}] (handleWs ip frames) gate false =
      some
        (if gate.hub.wsClients.length < maxTotalWsClients then enter ip frames else pure (),
          { gate with
            admitted :=
              if gate.hub.wsClients.length < maxTotalWsClients then actor :: gate.admitted
              else gate.admitted },
          decide (gate.hub.wsClients.length < maxTotalWsClients)) := by
    obtain ⟨hub, admitted⟩ := gate
    obtain ⟨playerEnabled, current, peers, stream, wsClients, nextId⟩ := hub
    obtain rfl : playerEnabled = true := enabled
    rfl
  rw [counted, if_pos few, if_pos few, decide_eq_true few]

/-- Once let in, it is registered. -/
theorem solo_enter (unseen : gate.hub.peers.entry ip = {}) :
    machine.solo discipline actor [{}, {}, {}, {}] (enter ip frames) gate true =
      some
        (serveFrames ip frames false >>= endSocket ip gate.hub.nextId,
          { hub :=
              { gate.hub with
                peers := gate.hub.peers.settle ip { sockets := 1 }
                wsClients := gate.hub.nextId :: gate.hub.wsClients
                nextId := gate.hub.nextId + 1 }
            admitted := gate.admitted.erase actor },
          false) := by
  have taken : gate.hub.withPeer ip (·.takeSlot .sockets) =
      (true, { gate.hub with peers := gate.hub.peers.settle ip { sockets := 1 } }) := by
    rw [Hub.withPeer, PeerMap.withPeer, unseen]
    rfl
  have first : machine.perform gate actor (.takeSlot .sockets ip) {} =
      some
        (true,
          { gate with
            hub := { gate.hub with peers := gate.hub.peers.settle ip { sockets := 1 } } }) := by
    have performed : machine.perform gate actor (.takeSlot .sockets ip) {} =
        (some (gate.hub.withPeer ip (·.takeSlot .sockets))).map fun outcome =>
          (outcome.1, gate.record actor outcome.2 (.takeSlot .sockets ip) outcome.1) := rfl
    rw [performed, taken]
    rfl
  show machine.solo discipline actor [{}, {}, {}, {}] (.call (.takeSlot .sockets ip) _) gate true =
    _
  rw [Machine.solo, first]
  rfl

/-- The next socket is registered. -/
theorem Crowd.grow {count : Nat} (crowd : Crowd gate count) (few : count < 2 ^ 16) :
    Crowd
      { hub :=
          { gate.hub with
            peers := gate.hub.peers.settle (address count) { sockets := 1 }
            wsClients := gate.hub.nextId :: gate.hub.wsClients
            nextId := gate.hub.nextId + 1 }
        admitted := gate.admitted.erase actor }
      (count + 1) where
  enabled := crowd.enabled
  clients := congrArg (· + 1) crowd.clients
  unseen number later small := by
    rw [← crowd.unseen number (by omega) small]
    exact PeerMap.entry_settle_of_ne (address_ne small few (by omega))

end Race

/-- A pool that has come to a crowd. -/
structure Scene (pool : Pool signature Gate Entering) (count : Nat) : Prop where
  reach : system.Reachable pool
  crowd : Crowd pool.shared count
  fresh : ∀ task, pool.size ≤ task → pool.trace task = false

/-- A request has been let in, and waits to be registered. -/
structure Waits (pool : Pool signature Gate Entering) (task : Nat) (ip : String) : Prop where
  started : task < pool.size
  program : pool.task task = enter ip 0
  trace : pool.trace task = true

section Scene

variable {pool : Pool signature Gate Entering} {count : Nat}

/-- One more request is let in, while others wait. -/
theorem Scene.letIn (scene : Scene pool count) (few : count < maxTotalWsClients) (ip : String) :
    ∃ after, Scene after count ∧ Waits after pool.size ip ∧
      ∀ task other, Waits pool task other → Waits after task other := by
  have crowd := scene.crowd
  have fresh : pool.trace pool.size = false := scene.fresh pool.size (Nat.le_refl _)
  have accepted : machine.accept pool.shared pool.size (.socket ip 0) =
      some (handleWs ip 0, pool.shared) := rfl
  have own : Function.update pool.task pool.size (handleWs ip 0) pool.size = handleWs ip 0 :=
    Function.update_self _ _ _
  have checked : machine.solo discipline pool.size [{}, {}] (handleWs ip 0) pool.shared false =
      some (enter ip 0, { pool.shared with admitted := pool.size :: pool.shared.admitted }, true) :=
    solo_check crowd.enabled (crowd.clients.trans_lt few)
  rw [← own, ← fresh] at checked
  have entered := Machine.reachable_solo (Machine.reachable_start scene.reach accepted) checked
  refine ⟨_, ⟨entered, ⟨crowd.enabled, crowd.clients, crowd.unseen⟩, ?_⟩, ⟨?_, ?_, ?_⟩, ?_⟩
  · intro task later
    have older : task ≠ pool.size := Nat.ne_of_gt later
    show Function.update pool.trace pool.size true task = false
    rw [Function.update_of_ne older]
    exact scene.fresh task (Nat.le_of_succ_le later)
  · exact Nat.lt_succ_self pool.size
  · exact Function.update_self _ _ _
  · exact Function.update_self _ _ _
  · intro task other waits
    have older : task ≠ pool.size := Nat.ne_of_lt waits.started
    constructor
    · exact Nat.lt_succ_of_lt waits.started
    · show Function.update (Function.update pool.task pool.size _) pool.size _ task = _
      rw [Function.update_of_ne older, Function.update_of_ne older, waits.program]
    · show Function.update pool.trace pool.size true task = true
      rw [Function.update_of_ne older, waits.trace]

/-- A request which waits is registered. -/
theorem Scene.register (scene : Scene pool count) (few : count < 2 ^ 16) {task : Nat}
    (waits : Waits pool task (address count)) :
    ∃ after, Scene after (count + 1) ∧
      ∀ other ip, other ≠ task → Waits pool other ip → Waits after other ip := by
  have crowd := scene.crowd
  have ran : machine.solo discipline task [{}, {}, {}, {}] (enter (address count) 0) pool.shared
      true = some (_, _, false) := solo_enter (crowd.unseen count (Nat.le_refl _) few)
  rw [← waits.program, ← waits.trace] at ran
  refine ⟨_, ⟨Machine.reachable_solo scene.reach ran, crowd.grow few, ?_⟩, ?_⟩
  · intro other later
    have started := waits.started
    have different : other ≠ task := Nat.ne_of_gt (Nat.lt_of_lt_of_le started later)
    show Function.update pool.trace task false other = false
    rw [Function.update_of_ne different]
    exact scene.fresh other later
  · intro other ip different waiting
    constructor
    · exact waiting.started
    · show Function.update pool.task task _ other = _
      rw [Function.update_of_ne different, waiting.program]
    · show Function.update pool.trace task false other = true
      rw [Function.update_of_ne different, waiting.trace]

/-- As many sockets can be registered as the cap allows. -/
theorem exists_scene (few : count ≤ maxTotalWsClients) : ∃ pool, Scene pool count := by
  induction count with
  | zero =>
      refine ⟨opened, ?_, ?_, ?_⟩
      · exact .start opened_initial
      · exact ⟨rfl, rfl, fun _ _ _ => rfl⟩
      · exact fun _ _ => rfl
  | succ count ih =>
      obtain ⟨pool, scene⟩ := ih (Nat.le_of_succ_le few)
      obtain ⟨entered, letIn, waits, -⟩ := scene.letIn few (address count)
      have small : count < 2 ^ 16 := Nat.lt_of_lt_of_le few (by decide)
      obtain ⟨after, registered, -⟩ := letIn.register small waits
      exact ⟨after, registered⟩

end Scene

/-- Two requests are let in when one place is left, and both are registered. -/
theorem race_exceeds_cap :
    ¬ ∀ pool, system.Reachable pool → pool.shared.hub.wsClients.length ≤ maxTotalWsClients := by
  intro capped
  obtain ⟨pool, scene⟩ := exists_scene (show 999 ≤ maxTotalWsClients by decide)
  obtain ⟨first, letIn, waits, -⟩ := scene.letIn (by decide) (address 999)
  obtain ⟨second, both, waits', kept⟩ := letIn.letIn (by decide) (address 1000)
  have earlier := kept _ _ waits
  obtain ⟨third, registered, others⟩ := both.register (by decide) earlier
  have different : first.size ≠ pool.size := Nat.ne_of_gt waits.started
  obtain ⟨last, overfull, -⟩ := registered.register (by decide) (others _ _ different waits')
  have bound := capped last overfull.reach
  rw [overfull.crowd.clients] at bound
  exact absurd bound (by decide)

end Togewire.Server.Peers.Admission
