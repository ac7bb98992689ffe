import Togewire.Foundation.Transition
import Togewire.Stream.Pipe

/-!
# The stream manager

The manager owns the current pipe and retires it for a fresh one at every switch of the input.
Pipes outlive their retirement, since producers and listeners hold clones, so the model keeps a
heap of pipes indexed by generation.  The main theorem is that a listener which never lags hears
the headers of its own generation and then a contiguous run of its pages, wherever its attachment
falls among the producer's calls and the switches.
-/

namespace Togewire.Stream

open Broadcast Transition

/-- The manager's locked state, the pipes of all generations and their producers. -/
structure Manager where
  pipes : Nat → Pipe
  producers : Nat → Producer
  listeners : Nat
  generation : Nat
  playingFile : Bool

namespace Manager

/-- The manager at startup: an empty live pipe without a producer. -/
def new : Manager where
  pipes _ := Pipe.new liveBacklog
  producers _ := .idle .silence
  listeners := 0
  generation := 0
  playingFile := false

/-- True while a cached file (not togedemon) is feeding the stream. -/
def hasTrack (manager : Manager) : Bool := manager.playingFile

/-- What feeds the current pipe. -/
def onAir (manager : Manager) : Source := (manager.producers manager.generation).source

/-- Admit a listener under the cap: the receiver and prefix of the current pipe. -/
def addClient (manager : Manager) (maxListeners : Nat) :
    Option ((Receiver Bytes × List Bytes) × Manager) :=
  if maxListeners ≤ manager.listeners then
    none
  else
    some ((manager.pipes manager.generation).subscribe,
      { manager with listeners := manager.listeners + 1 })

/-- Release one listener. -/
def removeClient (manager : Manager) : Manager :=
  { manager with listeners := manager.listeners - 1 }

/-- Retire the current pipe for a fresh one, read by a producer of the given source. -/
def swapPipe (manager : Manager) (playingFile : Bool) (source : Source) : Manager :=
  let generation := manager.generation + 1
  let retired := Function.update manager.pipes manager.generation
    (manager.pipes manager.generation).retire
  { manager with
    generation := generation
    pipes := Function.update retired generation
      (Pipe.new (if playingFile then fileBacklog else liveBacklog))
    producers := Function.update manager.producers generation (.idle source)
    playingFile := playingFile }

/-- Retire the pipe and feed nothing. -/
def stop (manager : Manager) : Manager := manager.swapPipe false .silence

/-- Switch to live togedemon input. -/
def playLive (manager : Manager) : Manager := manager.swapPipe false .live

/-- Play a cached Ogg file from `seekMs`. -/
def playTrack (manager : Manager) (filePath : String) (seekMs : Int) : Manager :=
  manager.swapPipe true (.file filePath seekMs)

/-- A producer sets the headers of its own pipe. -/
def setHeaders (manager : Manager) (generation : Nat) (headers : Bytes) : Manager :=
  { manager with
    pipes := Function.update manager.pipes generation
      ((manager.pipes generation).setHeaders headers)
    producers := Function.update manager.producers generation
      { manager.producers generation with headers := some headers } }

/-- A producer sends a page on its own pipe. -/
def send (manager : Manager) (generation : Nat) (page : Bytes) : Manager :=
  { manager with
    pipes := Function.update manager.pipes generation ((manager.pipes generation).send page)
    producers := Function.update manager.producers generation
      { manager.producers generation with
        pages := (manager.producers generation).pages ++ [page] } }

@[simp] theorem swapPipe_generation (manager : Manager) (playingFile : Bool) (source : Source) :
    (manager.swapPipe playingFile source).generation = manager.generation + 1 := rfl

@[simp] theorem swapPipe_onAir (manager : Manager) (playingFile : Bool) (source : Source) :
    (manager.swapPipe playingFile source).onAir = source := by
  simp [onAir, swapPipe, Producer.idle]

@[simp] theorem playTrack_hasTrack (manager : Manager) (filePath : String) (seekMs : Int) :
    (manager.playTrack filePath seekMs).hasTrack = true := rfl

@[simp] theorem playTrack_onAir (manager : Manager) (filePath : String) (seekMs : Int) :
    (manager.playTrack filePath seekMs).onAir = .file filePath seekMs := by
  simp [playTrack]

/-- Every pipe carries exactly what its producer has put on it. -/
def Faithful (manager : Manager) : Prop :=
  ∀ generation, (manager.producers generation).Feeds (manager.pipes generation)

theorem new_faithful : new.Faithful := fun _ => Producer.idle_feeds _ _

theorem Faithful.swapPipe {manager : Manager} (faithful : manager.Faithful) (playingFile : Bool)
    (source : Source) : (manager.swapPipe playingFile source).Faithful := by
  intro generation
  by_cases fresh : generation = manager.generation + 1
  · subst fresh
    simpa [Manager.swapPipe] using Producer.idle_feeds source _
  · by_cases current : generation = manager.generation
    · subst current
      simpa [Manager.swapPipe] using (faithful manager.generation).retire
    · simpa [Manager.swapPipe, fresh, current] using faithful generation

theorem Faithful.setHeaders {manager : Manager} (faithful : manager.Faithful) {generation : Nat}
    (unset : (manager.producers generation).headers = none) (headers : Bytes) :
    (manager.setHeaders generation headers).Faithful := by
  intro other
  by_cases same : other = generation
  · subst same
    simpa [Manager.setHeaders] using (faithful other).setHeaders unset headers
  · simpa [Manager.setHeaders, same] using faithful other

theorem Faithful.send {manager : Manager} (faithful : manager.Faithful) {generation : Nat}
    (set : (manager.producers generation).headers ≠ none) (page : Bytes) :
    (manager.send generation page).Faithful := by
  intro other
  by_cases same : other = generation
  · subst same
    simpa [Manager.send] using (faithful other).send set page
  · simpa [Manager.send, same] using faithful other

end Manager

/-! ## Listeners -/

/-- A `/stream` body: the prefix it was handed and its receiver on the pipe of one generation. -/
structure Listener where
  generation : Nat
  lead : List Bytes
  receiver : Receiver Bytes
  deriving DecidableEq

/-- The manager together with every listener attached so far. -/
structure Station where
  manager : Manager
  attached : List Listener

/-- One atomic step of the stream's users. -/
inductive StreamEvent
  | playTrack (filePath : String) (seekMs : Int)
  | playLive
  | stop
  | addClient (maxListeners : Nat)
  | removeClient
  /-- The producer of a generation calls `set_headers`, at most once and before any page. -/
  | setHeaders (generation : Nat) (headers : Bytes)
  /-- The producer of a generation calls `send`. -/
  | send (generation : Nat) (page : Bytes)
  /-- A listener's receiver yields its next message. -/
  | recv (index : Nat)

namespace Station

/-- Attach a listener to the current generation. -/
def addClient (station : Station) (maxListeners : Nat) : Station :=
  match station.manager.addClient maxListeners with
  | none => station
  | some ((receiver, lead), manager) =>
      { manager := manager
        attached := station.attached ++
          [{ generation := station.manager.generation, lead, receiver }] }

/-- Let one attached listener read its channel. -/
def recv (station : Station) (index : Nat) : Option Station :=
  match station.attached[index]? with
  | none => none
  | some listener =>
      let pipe := station.manager.pipes listener.generation
      some { station with
        attached := station.attached.set index
          { listener with receiver := listener.receiver.recv pipe.backlog pipe.sent } }

/-- The steps of producers, switches and listeners. -/
def step (station : Station) : StreamEvent → Option Station
  | .playTrack filePath seekMs =>
      some { station with manager := station.manager.playTrack filePath seekMs }
  | .playLive => some { station with manager := station.manager.playLive }
  | .stop => some { station with manager := station.manager.stop }
  | .addClient maxListeners => some (station.addClient maxListeners)
  | .removeClient => some { station with manager := station.manager.removeClient }
  | .setHeaders generation headers =>
      let producer := station.manager.producers generation
      if producer.source ≠ .silence ∧ producer.headers = none then
        some { station with manager := station.manager.setHeaders generation headers }
      else
        none
  | .send generation page =>
      if (station.manager.producers generation).headers ≠ none then
        some { station with manager := station.manager.send generation page }
      else
        none
  | .recv index => station.recv index

/-- All interleavings of the stream's users, from startup. -/
def system : System Station StreamEvent where
  initial station := station = { manager := .new, attached := [] }
  step := step

/-- A listener is in step with its channel and joined its generation without a gap. -/
structure Tuned (manager : Manager) (listener : Listener) : Prop where
  attached : listener.generation ≤ manager.generation
  inStep : listener.receiver.InStep (manager.pipes listener.generation).sent
  joined : Joined (manager.producers listener.generation).headers.toList
    (manager.producers listener.generation).pages (manager.pipes listener.generation).sent
    listener.lead listener.receiver.start

/-- The invariant of all interleavings. -/
structure Coherent (station : Station) : Prop where
  faithful : station.manager.Faithful
  tuned : ∀ listener ∈ station.attached, Tuned station.manager listener

theorem Tuned.swapPipe {manager : Manager} {listener : Listener} (tuned : Tuned manager listener)
    (playingFile : Bool) (source : Source) :
    Tuned (manager.swapPipe playingFile source) listener := by
  have attached := tuned.attached
  have older : listener.generation ≠ manager.generation + 1 := by omega
  have sent_eq : ((manager.swapPipe playingFile source).pipes listener.generation).sent =
      (manager.pipes listener.generation).sent := by
    by_cases current : listener.generation = manager.generation
    · simp [Manager.swapPipe, current, Pipe.retire]
    · simp [Manager.swapPipe, older, current]
  have producer_eq : (manager.swapPipe playingFile source).producers listener.generation =
      manager.producers listener.generation := by
    simp [Manager.swapPipe, older]
  refine ⟨by simp; omega, ?_, ?_⟩
  · simpa [sent_eq] using tuned.inStep
  · simpa [sent_eq, producer_eq] using tuned.joined

theorem Tuned.setHeaders {manager : Manager} {listener : Listener}
    (tuned : Tuned manager listener) (faithful : manager.Faithful) {generation : Nat}
    (unset : (manager.producers generation).headers = none) (headers : Bytes) :
    Tuned (manager.setHeaders generation headers) listener := by
  by_cases same : listener.generation = generation
  · subst same
    have feeds := faithful listener.generation
    have pages_nil := feeds.opening unset
    have sent_nil : (manager.pipes listener.generation).sent = [] := by
      simp [feeds.sent, unset, pages_nil]
    have inStep := tuned.inStep
    have joined := tuned.joined
    rw [sent_nil] at inStep
    simp only [sent_nil, unset, pages_nil, Option.toList_none] at joined
    refine ⟨tuned.attached, ?_, ?_⟩
    · simpa [Manager.setHeaders, Pipe.setHeaders, sent_nil] using inStep.send headers
    · simpa [Manager.setHeaders, Pipe.setHeaders, sent_nil, pages_nil] using
        joined.open headers inStep.start_le
  · refine ⟨tuned.attached, ?_, ?_⟩
    · simpa [Manager.setHeaders, same] using tuned.inStep
    · simpa [Manager.setHeaders, same] using tuned.joined

theorem Tuned.send {manager : Manager} {listener : Listener} (tuned : Tuned manager listener)
    (generation : Nat) (page : Bytes) : Tuned (manager.send generation page) listener := by
  by_cases same : listener.generation = generation
  · subst same
    refine ⟨tuned.attached, ?_, ?_⟩
    · simpa [Manager.send, Pipe.send] using tuned.inStep.send page
    · simpa [Manager.send, Pipe.send] using tuned.joined.send page tuned.inStep.start_le
  · refine ⟨tuned.attached, ?_, ?_⟩
    · simpa [Manager.send, same] using tuned.inStep
    · simpa [Manager.send, same] using tuned.joined

/-- A new listener is handed the headers and a tail of the pages sent so far. -/
theorem tuned_subscribe {manager : Manager} (faithful : manager.Faithful) (listeners : Nat) :
    Tuned { manager with listeners := listeners }
      { generation := manager.generation
        lead := (manager.pipes manager.generation).subscribe.2
        receiver := (manager.pipes manager.generation).subscribe.1 } where
  attached := Nat.le_refl _
  inStep := Receiver.inStep_subscribe _
  joined := by
    have feeds := faithful manager.generation
    simpa [Pipe.subscribe, feeds.headers, Receiver.subscribe] using
      joined_of_replay feeds.sent feeds.burst

theorem Coherent.addClient {station : Station} (coherent : station.Coherent)
    (maxListeners : Nat) : (station.addClient maxListeners).Coherent := by
  unfold Station.addClient Manager.addClient
  by_cases full : maxListeners ≤ station.manager.listeners
  · simpa [full] using coherent
  · simp only [full, if_false]
    refine ⟨coherent.faithful, ?_⟩
    intro listener member
    rcases List.mem_append.mp member with earlier | added
    · exact ⟨(coherent.tuned listener earlier).attached, (coherent.tuned listener earlier).inStep,
        (coherent.tuned listener earlier).joined⟩
    · obtain rfl := List.mem_singleton.mp added
      exact tuned_subscribe coherent.faithful _

theorem Coherent.recv {station after : Station} (coherent : station.Coherent) {index : Nat}
    (step : station.recv index = some after) : after.Coherent := by
  unfold Station.recv at step
  cases found : station.attached[index]? with
  | none => simp [found] at step
  | some listener =>
      simp only [found, Option.some.injEq] at step
      subst step
      have tuned := coherent.tuned listener (List.mem_of_getElem? found)
      refine ⟨coherent.faithful, ?_⟩
      intro other member
      rcases List.mem_or_eq_of_mem_set member with earlier | rfl
      · exact coherent.tuned other earlier
      · exact ⟨tuned.attached, tuned.inStep.recv _, by simpa using tuned.joined⟩

theorem Coherent.step {station after : Station} {event : StreamEvent}
    (coherent : station.Coherent) (step : station.step event = some after) : after.Coherent := by
  cases event with
  | playTrack filePath seekMs =>
      obtain rfl := Option.some.inj step
      exact ⟨coherent.faithful.swapPipe _ _,
        fun listener member => (coherent.tuned listener member).swapPipe _ _⟩
  | playLive =>
      obtain rfl := Option.some.inj step
      exact ⟨coherent.faithful.swapPipe _ _,
        fun listener member => (coherent.tuned listener member).swapPipe _ _⟩
  | stop =>
      obtain rfl := Option.some.inj step
      exact ⟨coherent.faithful.swapPipe _ _,
        fun listener member => (coherent.tuned listener member).swapPipe _ _⟩
  | addClient maxListeners =>
      obtain rfl := Option.some.inj step
      exact coherent.addClient maxListeners
  | removeClient =>
      obtain rfl := Option.some.inj step
      exact ⟨coherent.faithful, fun listener member =>
        let tuned := coherent.tuned listener member
        ⟨tuned.attached, tuned.inStep, tuned.joined⟩⟩
  | setHeaders generation headers =>
      simp only [Station.step, Option.ite_none_right_eq_some, Option.some.injEq] at step
      obtain ⟨⟨-, unset⟩, rfl⟩ := step
      exact ⟨coherent.faithful.setHeaders unset headers,
        fun listener member =>
          (coherent.tuned listener member).setHeaders coherent.faithful unset headers⟩
  | send generation page =>
      simp only [Station.step, Option.ite_none_right_eq_some, Option.some.injEq] at step
      obtain ⟨set, rfl⟩ := step
      exact ⟨coherent.faithful.send set page,
        fun listener member => (coherent.tuned listener member).send generation page⟩
  | recv index => exact coherent.recv step

theorem coherent_of_reachable {station : Station} (reach : system.Reachable station) :
    station.Coherent := by
  refine reach.invariant _ ?_ ?_
  · rintro _ rfl
    exact ⟨Manager.new_faithful, by simp⟩
  · intro before event after _ coherent _ step
    exact coherent.step step

/-- A listener that never lags hears the headers of its generation, once and first, then a
contiguous run of that generation's pages up to the last one sent.  The run holds at least the
pages sent since the listener attached. -/
theorem listener_hears_its_generation {station : Station} (reach : system.Reachable station)
    {listener : Listener} (member : listener ∈ station.attached)
    (prompt : listener.receiver.lagged = false) :
    ∃ run, run <:+ (station.manager.producers listener.generation).pages ∧
      (station.manager.producers listener.generation).pages.drop (listener.receiver.start -
          (station.manager.producers listener.generation).headers.toList.length) <:+ run ∧
      listener.lead ++ listener.receiver.received ++
          listener.receiver.pending (station.manager.pipes listener.generation).sent =
        (station.manager.producers listener.generation).headers.toList ++ run := by
  have tuned := (coherent_of_reachable reach).tuned listener member
  obtain ⟨run, tail, since, spelled⟩ := tuned.joined
  refine ⟨run, tail, since, ?_⟩
  rw [List.append_assoc, tuned.inStep.complete prompt, spelled]

/-- A cached file plays, a listener joins after its first page, and the input is stopped. -/
def lateJoin : Station :=
  system.final { manager := .new, attached := [] }
    [.playTrack "song.ogg" 0, .setHeaders 1 [79], .send 1 [1], .addClient 250, .send 1 [2], .stop,
      .recv 0] rfl

/-- The late listener has heard the headers and both pages of its retired generation. -/
theorem lateJoin_hears_its_generation :
    ∃ run, run <:+ (lateJoin.manager.producers 1).pages ∧
      (lateJoin.manager.producers 1).pages.drop
        (2 - (lateJoin.manager.producers 1).headers.toList.length) <:+ run ∧
      [[79], [1]] ++ [[2]] ++ [] = (lateJoin.manager.producers 1).headers.toList ++ run :=
  listener_hears_its_generation (System.reachable_final rfl _ _ : system.Reachable lateJoin)
    (by decide : Listener.mk 1 [[79], [1]] ⟨2, 3, [[2]], false⟩ ∈ lateJoin.attached) rfl

end Station

end Togewire.Stream
