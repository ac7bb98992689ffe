import Togewire.Server.Peers
import Togewire.Types

/-!
# The player page

A page holds one audio element and one WebSocket.  It opens `/stream` when a pushed state says that
audio is there, and opens it again when the pushed generation is not the one it connected to.  The
element is paused while nothing plays; the page leaves for good when the track is gone.  The DOM
texts and the volume are left out.
-/

namespace Togewire.Player

open Server

/-- The `data` of a `track_update` frame. -/
structure TrackUpdate where
  track : Option Track := none
  progress : Int := 0
  isPlaying : Bool := false
  streamActive : Bool := false
  streamGen : Nat := 0
  listenerCount : Nat := 0
  preparing : Bool := false
  noSource : Bool := false
  deriving DecidableEq

/-- `shouldPlay`: there is audio, and it is playing. -/
def TrackUpdate.shouldPlay (update : TrackUpdate) : Bool := update.streamActive && update.isPlaying

/-- The audio element. -/
structure Audio where
  /-- The `/stream` request it plays, by its number among the page's requests. -/
  src : Option Nat := none
  paused : Bool := true
  deriving DecidableEq

/-- `readyState`, as far as the page asks for it. -/
inductive ReadyState
  | connecting
  | opened
  | closed
  deriving DecidableEq

/-- The state of `player.js`. -/
structure Page where
  listening : Bool := false
  track : Option TrackUpdate := none
  audioEl : Option Audio := none
  connectedStreamGen : Nat := 0
  pauseTimeout : Bool := false
  reconnectTimer : Bool := false
  ws : ReadyState := .connecting
  /-- Frames sent on the open socket and not read by the server yet. -/
  outgoing : List Peers.Frame := []
  /-- `/stream` requests made so far; each has a URL of its own. -/
  requests : Nat := 0

/-- The `listening` frame. -/
def listeningFrame (on : Bool) : Peers.Frame := { type := some "listening", listening := some on }

@[simp] theorem parse_listeningFrame (on : Bool) :
    Peers.parseListeningMessage (listeningFrame on) = some on := rfl

namespace Page

/-- `track?.stream_gen || 0`. -/
def serverGen (page : Page) : Nat := page.track.elim 0 TrackUpdate.streamGen

/-- `track?.stream_active && track?.isPlaying`. -/
def shouldPlay (page : Page) : Bool := page.track.elim false TrackUpdate.shouldPlay

/-- `track?.isPlaying`. -/
def isPlaying (page : Page) : Bool := page.track.elim false TrackUpdate.isPlaying

/-- A frame has come, and it names a track. -/
def hasTrack (page : Page) : Bool := page.track.any fun update => update.track.isSome

/-- `connectStream` -/
def connectStream (page : Page) : Page :=
  match page.audioEl with
  | none => page
  | some _ =>
      { page with
        audioEl := some { src := some page.requests, paused := false }
        requests := page.requests + 1
        connectedStreamGen := page.serverGen }

/-- `disconnectStream` -/
def disconnectStream (page : Page) : Page :=
  match page.audioEl with
  | none => page
  | some _ => { page with audioEl := some {}, connectedStreamGen := 0 }

/-- `sendListening` -/
def sendListening (on : Bool) (page : Page) : Page :=
  if page.ws = .opened then
    { page with outgoing := page.outgoing ++ [listeningFrame on] }
  else
    page

/-- `stopListening` -/
def stopListening (page : Page) : Page :=
  disconnectStream
    { sendListening false { page with listening := false } with pauseTimeout := false }

/-- The part of `render` which is not display: without a track the page leaves. -/
def render (page : Page) : Page :=
  if !page.hasTrack && page.listening then page.stopListening else page

/-- `startListening` -/
def startListening (page : Page) : Page :=
  let ready := sendListening true { page with listening := true }
  let ready := { ready with audioEl := some (ready.audioEl.getD {}) }
  render (if ready.shouldPlay then ready.connectStream else ready)

/-- A click on the button. -/
def toggle (page : Page) : Page :=
  if page.listening then page.stopListening else page.startListening

/-- `syncAudio` -/
def syncAudio (page : Page) : Page :=
  match page.listening, page.audioEl with
  | true, some audio =>
      if page.shouldPlay then
        let playing := { page with pauseTimeout := false }
        if page.connectedStreamGen = 0 ∨ page.serverGen ≠ page.connectedStreamGen then
          playing.connectStream
        else
          playing
      else
        { page with audioEl := some { audio with paused := true }, pauseTimeout := true }
  | _, _ => page

/-- The page with a state just received. -/
def pushed (page : Page) (update : TrackUpdate) : Page := { page with track := some update }

/-- `onMessage`, for a `track_update`. -/
def onMessage (update : TrackUpdate) (page : Page) : Page := render (syncAudio (page.pushed update))

/-- The pause timer runs out after a minute. -/
def pauseTimedOut (page : Page) : Page :=
  let page := { page with pauseTimeout := false }
  if page.listening && !page.isPlaying then page.stopListening else page

/-- The socket's `onopen`. -/
def onOpen (page : Page) : Page :=
  let page := { page with ws := .opened, outgoing := [] }
  if page.listening then sendListening true page else page

/-- The socket's `onclose`. -/
def onClose (page : Page) : Page :=
  { page with ws := .closed, outgoing := [], reconnectTimer := true }

/-- The reconnect timer runs out: a new socket. -/
def connect (page : Page) : Page := { page with ws := .connecting, reconnectTimer := false }

end Page

/-! ## What every page keeps -/

namespace Page

/-- The request which the element plays. -/
def src (page : Page) : Option Nat := page.audioEl.elim none Audio.src

/-- What holds of a page between any two of its events. -/
structure Consistent (page : Page) : Prop where
  /-- A page that does not listen has no stream. -/
  detached : page.listening = false → page.src = none ∧ page.connectedStreamGen = 0
  /-- The element was created by the click. -/
  element : page.listening = true → page.audioEl.isSome
  /-- A page that connected to something has a stream. -/
  connected : page.connectedStreamGen ≠ 0 → page.src.isSome
  /-- While there is audio to play, the page has a stream and connected for the pushed
  generation. -/
  current : page.listening = true → page.shouldPlay = true →
    page.src.isSome ∧ page.connectedStreamGen = page.serverGen
  /-- The stream is one of the page's requests. -/
  requested : ∀ number, page.src = some number → number < page.requests

/-- What an event does to the stream: it keeps it, with the generation the page connected to, or
closes it, or opens a new request for the pushed generation. -/
inductive Switches (before after : Page) : Prop
  | keep (src : after.src = before.src)
      (connected : after.connectedStreamGen = before.connectedStreamGen)
      (requests : before.requests = after.requests)
  | leave (src : after.src = none) (requests : before.requests ≤ after.requests)
  | request (number : Nat) (src : after.src = some number) (fresh : before.requests ≤ number)
      (connected : after.connectedStreamGen = after.serverGen)
      (requests : before.requests ≤ after.requests)

/-- What the server makes of the frames sent to it. -/
def told (heard : Bool) (page : Page) : Bool :=
  page.outgoing.foldl (fun heard frame => (Peers.parseListeningMessage frame).getD heard) heard

variable {before page : Page}

@[simp] theorem sendListening_eq (on : Bool) (page : Page) :
    page.sendListening on =
      { page with
        outgoing := if page.ws = .opened then page.outgoing ++ [listeningFrame on]
          else page.outgoing } := by
  unfold sendListening
  split <;> rfl

/-! ### Leaving -/

theorem consistent_stopListening (consistent : page.Consistent) :
    page.stopListening.Consistent := by
  unfold stopListening disconnectStream
  cases found : page.audioEl with
  | none =>
      have unplayed : page.src = none := by simp [src, found]
      have unconnected : page.connectedStreamGen = 0 := by
        by_contra connected
        have playing := consistent.connected connected
        simp [unplayed] at playing
      constructor <;> simp [src, unconnected]
  | some audio => constructor <;> simp [src]

theorem switches_stopListening (page : Page) : page.Switches page.stopListening := by
  unfold stopListening disconnectStream
  cases found : page.audioEl with
  | none => exact .leave (by simp [src]) (by simp)
  | some audio => exact .leave (by simp [src]) (by simp)

theorem told_stopListening (heard : Bool) (opened : page.ws = .opened) :
    page.stopListening.told heard = page.stopListening.listening := by
  unfold stopListening disconnectStream
  cases found : page.audioEl with
  | none => simp [told, opened]
  | some audio => simp [told, opened]

@[simp] theorem stopListening_ws (page : Page) : page.stopListening.ws = page.ws := by
  unfold stopListening disconnectStream
  split <;> simp

@[simp] theorem stopListening_track (page : Page) : page.stopListening.track = page.track := by
  unfold stopListening disconnectStream
  split <;> simp

/-! ### Rendering -/

theorem consistent_render (consistent : page.Consistent) : page.render.Consistent := by
  unfold render
  split
  · exact consistent_stopListening consistent
  · exact consistent

theorem Switches.render (switches : before.Switches page) : before.Switches page.render := by
  unfold Page.render
  split
  · have later : page.requests ≤ page.stopListening.requests := by
      unfold stopListening disconnectStream
      split <;> simp
    have left : page.stopListening.src = none := by
      unfold stopListening disconnectStream
      split <;> simp_all [src]
    cases switches with
    | keep src connected requests => exact .leave left (by omega)
    | leave src requests => exact .leave left (by omega)
    | request number src fresh connected requests => exact .leave left (by omega)
  · exact switches

@[simp] theorem render_ws (page : Page) : page.render.ws = page.ws := by
  unfold render
  split <;> simp

@[simp] theorem render_track (page : Page) : page.render.track = page.track := by
  unfold render
  split <;> simp

theorem told_render {heard : Bool} (agrees : page.told heard = page.listening)
    (opened : page.ws = .opened) : page.render.told heard = page.render.listening := by
  unfold render
  split
  · exact told_stopListening heard opened
  · exact agrees

/-! ### Connecting -/

theorem connectStream_of_element {audio : Audio} (found : page.audioEl = some audio) :
    page.connectStream =
      { page with
        audioEl := some { src := some page.requests, paused := false }
        requests := page.requests + 1
        connectedStreamGen := page.serverGen } := by
  simp only [connectStream, found]

theorem consistent_connectStream {audio : Audio} (found : page.audioEl = some audio)
    (listens : page.listening = true) : page.connectStream.Consistent := by
  rw [connectStream_of_element found]
  constructor <;> simp [src, listens, serverGen]

/-- A page whose button was clicked, before it connects. -/
def readied (page : Page) : Page :=
  { page.sendListening true with listening := true, audioEl := some (page.audioEl.getD {}) }

theorem startListening_eq (page : Page) :
    page.startListening =
      render (if page.shouldPlay then page.readied.connectStream else page.readied) := by
  simp only [startListening, readied, sendListening_eq]
  rfl

@[simp] theorem readied_ws (page : Page) : page.readied.ws = page.ws := by simp [readied]

@[simp] theorem readied_track (page : Page) : page.readied.track = page.track := by simp [readied]

/-- Until it connects, the new element plays what the page played. -/
theorem readied_src (page : Page) : page.readied.src = page.src := by
  cases found : page.audioEl with
  | none => simp [readied, src, found]
  | some audio => simp [readied, src, found]

theorem consistent_startListening (consistent : page.Consistent)
    (idle : page.listening = false) : page.startListening.Consistent := by
  obtain ⟨unplayed, unconnected⟩ := consistent.detached idle
  rw [startListening_eq]
  apply consistent_render
  by_cases plays : page.shouldPlay = true
  · rw [if_pos plays]
    exact consistent_connectStream rfl rfl
  · rw [if_neg plays]
    have silent : page.readied.src = none := (readied_src page).trans unplayed
    have quiet : page.readied.shouldPlay = false := by
      simpa [shouldPlay] using plays
    have connected : page.readied.connectedStreamGen = 0 := by
      simpa [readied] using unconnected
    exact
      { detached := fun stopped => absurd stopped (by simp [readied])
        element := fun _ => by simp [readied]
        connected := fun other => absurd connected other
        current := fun _ plays => absurd plays (by simp [quiet])
        requested := fun number playing => by simp [silent] at playing }

theorem switches_startListening (page : Page) : page.Switches page.startListening := by
  rw [startListening_eq]
  apply Switches.render
  split
  · rw [connectStream_of_element (show page.readied.audioEl = some (page.audioEl.getD {}) from rfl)]
    exact .request page.requests (by simp [src, readied]) (Nat.le_refl _) rfl (by simp [readied])
  · exact .keep (readied_src page) (by simp [readied]) (by simp [readied])

theorem told_startListening (heard : Bool) (opened : page.ws = .opened) :
    page.startListening.told heard = page.startListening.listening := by
  rw [startListening_eq]
  split
  · rw [connectStream_of_element (show page.readied.audioEl = some (page.audioEl.getD {}) from rfl)]
    exact told_render (by simp [told, readied, opened]) (by simpa using opened)
  · exact told_render (by simp [told, readied, opened]) (by simpa using opened)

@[simp] theorem startListening_ws (page : Page) : page.startListening.ws = page.ws := by
  rw [startListening_eq, render_ws]
  split
  · rw [connectStream_of_element (show page.readied.audioEl = some (page.audioEl.getD {}) from rfl)]
    exact readied_ws page
  · exact readied_ws page

/-! ### Following the pushed state -/

section Pushed

variable (page : Page) (update : TrackUpdate)

@[simp] theorem pushed_listening : (page.pushed update).listening = page.listening := rfl

@[simp] theorem pushed_audioEl : (page.pushed update).audioEl = page.audioEl := rfl

@[simp] theorem pushed_requests : (page.pushed update).requests = page.requests := rfl

@[simp] theorem pushed_connectedStreamGen :
    (page.pushed update).connectedStreamGen = page.connectedStreamGen := rfl

@[simp] theorem pushed_serverGen : (page.pushed update).serverGen = update.streamGen := rfl

@[simp] theorem pushed_shouldPlay : (page.pushed update).shouldPlay = update.shouldPlay := rfl

end Pushed

theorem syncAudio_of_idle (idle : page.listening = false) : page.syncAudio = page := by
  unfold syncAudio
  rw [idle]

theorem syncAudio_of_listening {audio : Audio} (listens : page.listening = true)
    (found : page.audioEl = some audio) :
    page.syncAudio =
      if page.shouldPlay then
        if page.connectedStreamGen = 0 ∨ page.serverGen ≠ page.connectedStreamGen then
          connectStream { page with pauseTimeout := false }
        else
          { page with pauseTimeout := false }
      else
        { page with audioEl := some { audio with paused := true }, pauseTimeout := true } := by
  unfold syncAudio
  rw [listens, found]

/-- What `syncAudio` makes of a pushed state: the page connects, keeps its stream, or pauses it. -/
theorem syncAudio_cases (page : Page) :
    (page.listening = false ∨ page.audioEl = none) ∧ page.syncAudio = page ∨
      (∃ audio, page.listening = true ∧ page.audioEl = some audio ∧
        (page.shouldPlay = true ∧
            page.syncAudio = connectStream { page with pauseTimeout := false } ∨
          page.shouldPlay = true ∧ page.connectedStreamGen ≠ 0 ∧
            page.connectedStreamGen = page.serverGen ∧
            page.syncAudio = { page with pauseTimeout := false } ∨
          page.shouldPlay = false ∧
            page.syncAudio =
              { page with
                audioEl := some { audio with paused := true }
                pauseTimeout := true })) := by
  cases listens : page.listening with
  | false => exact .inl ⟨.inl rfl, syncAudio_of_idle listens⟩
  | true =>
      cases found : page.audioEl with
      | none => exact .inl ⟨.inr rfl, by simp only [syncAudio, listens, found]⟩
      | some audio =>
          refine .inr ⟨audio, rfl, rfl, ?_⟩
          rw [syncAudio_of_listening listens found]
          cases plays : page.shouldPlay with
          | false => exact .inr (.inr ⟨rfl, by simp [listens]⟩)
          | true =>
              by_cases stale :
                  page.connectedStreamGen = 0 ∨ page.serverGen ≠ page.connectedStreamGen
              · exact .inl ⟨rfl, by simp [stale, listens, found]⟩
              · obtain ⟨connected, same⟩ := not_or.mp stale
                exact .inr (.inl ⟨rfl, connected, (not_not.mp same).symm,
                  by simp [stale, listens, found]⟩)

theorem consistent_syncAudio (consistent : page.Consistent) (update : TrackUpdate) :
    (page.pushed update).syncAudio.Consistent := by
  rcases syncAudio_cases (page.pushed update) with
    ⟨unready, same⟩ | ⟨audio, listens, found, ⟨-, opens⟩ | ⟨plays, connected, current, keeps⟩ |
      ⟨quiet, pauses⟩⟩
  · rw [same]
    have idle : page.listening = false := by
      rcases unready with idle | missing
      · exact idle
      · by_contra listens
        have element := consistent.element (by simpa using listens)
        simp [show page.audioEl = none from missing] at element
    exact
      { detached := consistent.detached
        element := consistent.element
        connected := consistent.connected
        current := fun listens => absurd (show page.listening = true from listens) (by simp [idle])
        requested := consistent.requested }
  · rw [opens]
    exact consistent_connectStream found listens
  · rw [keeps]
    exact
      { detached := consistent.detached
        element := consistent.element
        connected := consistent.connected
        current := fun _ _ => ⟨consistent.connected connected, current⟩
        requested := consistent.requested }
  · rw [pauses]
    have played : page.src = audio.src := by
      simp [src, show page.audioEl = some audio from found]
    exact
      { detached := fun idle =>
          absurd (show page.listening = true from listens) (by simpa using idle)
        element := fun _ => rfl
        connected := fun connected => by
          have playing := consistent.connected connected
          rw [played] at playing
          simpa [src] using playing
        current := fun _ plays => absurd plays (by simpa [shouldPlay] using quiet)
        requested := fun number playing =>
          consistent.requested number (by rw [played]; simpa [src] using playing) }

theorem switches_syncAudio (page : Page) (update : TrackUpdate) :
    page.Switches (page.pushed update).syncAudio := by
  rcases syncAudio_cases (page.pushed update) with
    ⟨-, same⟩ | ⟨audio, -, found, ⟨-, opens⟩ | ⟨-, -, -, keeps⟩ | ⟨-, pauses⟩⟩
  · rw [same]
    exact .keep rfl rfl rfl
  · rw [opens.trans (connectStream_of_element found)]
    exact .request page.requests (by simp [src]) (Nat.le_refl _) rfl (Nat.le_succ _)
  · rw [keeps]
    exact .keep rfl rfl rfl
  · rw [pauses]
    exact .keep (by simp [src, show page.audioEl = some audio from found]) rfl rfl

theorem syncAudio_frame (page : Page) :
    page.syncAudio.ws = page.ws ∧ page.syncAudio.outgoing = page.outgoing ∧
      page.syncAudio.listening = page.listening ∧ page.syncAudio.track = page.track := by
  rcases syncAudio_cases page with
    ⟨-, same⟩ | ⟨audio, -, found, ⟨-, opens⟩ | ⟨-, -, -, keeps⟩ | ⟨-, pauses⟩⟩
  · simp [same]
  · rw [opens.trans (connectStream_of_element found)]
    simp
  · simp [keeps]
  · simp [pauses]

/-! ### Events -/

theorem consistent_onMessage (consistent : page.Consistent) (update : TrackUpdate) :
    (page.onMessage update).Consistent :=
  consistent_render (consistent_syncAudio consistent update)

theorem switches_onMessage (page : Page) (update : TrackUpdate) :
    page.Switches (page.onMessage update) :=
  (switches_syncAudio page update).render

theorem told_onMessage {heard : Bool} (agrees : page.told heard = page.listening)
    (opened : page.ws = .opened) (update : TrackUpdate) :
    (page.onMessage update).told heard = (page.onMessage update).listening := by
  obtain ⟨socket, sent, listens, -⟩ := syncAudio_frame (page.pushed update)
  refine told_render ?_ (socket.trans opened)
  exact (congrArg (List.foldl _ heard) sent).trans (agrees.trans listens.symm)

@[simp] theorem onMessage_ws (page : Page) (update : TrackUpdate) :
    (page.onMessage update).ws = page.ws := by
  rw [onMessage, render_ws]
  exact (syncAudio_frame (page.pushed update)).1

@[simp] theorem onMessage_track (page : Page) (update : TrackUpdate) :
    (page.onMessage update).track = some update := by
  rw [onMessage, render_track]
  exact (syncAudio_frame (page.pushed update)).2.2.2

theorem consistent_toggle (consistent : page.Consistent) : page.toggle.Consistent := by
  unfold toggle
  cases listens : page.listening with
  | true => exact consistent_stopListening consistent
  | false => exact consistent_startListening consistent listens

theorem switches_toggle (page : Page) : page.Switches page.toggle := by
  unfold toggle
  split
  · exact switches_stopListening page
  · exact switches_startListening page

theorem told_toggle (heard : Bool) (opened : page.ws = .opened) :
    page.toggle.told heard = page.toggle.listening := by
  unfold toggle
  split
  · exact told_stopListening heard opened
  · exact told_startListening heard opened

@[simp] theorem toggle_ws (page : Page) : page.toggle.ws = page.ws := by
  unfold toggle
  split <;> simp

theorem pauseTimedOut_eq (page : Page) :
    page.pauseTimedOut = { page with pauseTimeout := false } ∨
      page.pauseTimedOut = stopListening { page with pauseTimeout := false } := by
  unfold pauseTimedOut
  dsimp only
  split
  · exact .inr rfl
  · exact .inl rfl

theorem consistent_pauseTimedOut (consistent : page.Consistent) :
    page.pauseTimedOut.Consistent := by
  have cleared : Consistent { page with pauseTimeout := false } :=
    ⟨consistent.detached, consistent.element, consistent.connected, consistent.current,
      consistent.requested⟩
  rcases pauseTimedOut_eq page with same | stopped
  · rwa [same]
  · rw [stopped]
    exact consistent_stopListening cleared

theorem switches_pauseTimedOut (page : Page) : page.Switches page.pauseTimedOut := by
  rcases pauseTimedOut_eq page with same | stopped
  · rw [same]
    exact .keep rfl rfl rfl
  · rw [stopped]
    have switches := switches_stopListening { page with pauseTimeout := false }
    cases switches with
    | keep src connected requests => exact .keep src connected requests
    | leave src requests => exact .leave src requests
    | request number src fresh connected requests =>
        exact .request number src fresh connected requests

theorem told_pauseTimedOut {heard : Bool} (agrees : page.told heard = page.listening)
    (opened : page.ws = .opened) :
    page.pauseTimedOut.told heard = page.pauseTimedOut.listening := by
  rcases pauseTimedOut_eq page with same | stopped
  · rw [same]
    exact agrees
  · rw [stopped]
    exact told_stopListening heard opened

@[simp] theorem pauseTimedOut_ws (page : Page) : page.pauseTimedOut.ws = page.ws := by
  rcases pauseTimedOut_eq page with same | stopped
  · rw [same]
  · rw [stopped, stopListening_ws]

@[simp] theorem pauseTimedOut_track (page : Page) : page.pauseTimedOut.track = page.track := by
  rcases pauseTimedOut_eq page with same | stopped
  · rw [same]
  · rw [stopped, stopListening_track]

@[simp] theorem startListening_track (page : Page) : page.startListening.track = page.track := by
  rw [startListening_eq, render_track]
  split
  · rw [connectStream_of_element (show page.readied.audioEl = some (page.audioEl.getD {}) from rfl)]
    exact readied_track page
  · exact readied_track page

@[simp] theorem toggle_track (page : Page) : page.toggle.track = page.track := by
  unfold toggle
  split <;> simp

/-- An event of the socket alone. -/
structure SameAudio (before after : Page) : Prop where
  listening : after.listening = before.listening
  track : after.track = before.track
  audioEl : after.audioEl = before.audioEl
  connectedStreamGen : after.connectedStreamGen = before.connectedStreamGen
  requests : after.requests = before.requests

theorem SameAudio.consistent (same : before.SameAudio page) (consistent : before.Consistent) :
    page.Consistent := by
  have src_eq : page.src = before.src := by rw [src, same.audioEl, src]
  have plays_eq : page.shouldPlay = before.shouldPlay := by rw [shouldPlay, same.track, shouldPlay]
  have gen_eq : page.serverGen = before.serverGen := by rw [serverGen, same.track, serverGen]
  obtain ⟨detached, element, connected, current, requested⟩ := consistent
  constructor
  · rwa [same.listening, src_eq, same.connectedStreamGen]
  · rwa [same.listening, same.audioEl]
  · rwa [same.connectedStreamGen, src_eq]
  · rwa [same.listening, plays_eq, src_eq, same.connectedStreamGen, gen_eq]
  · rwa [src_eq, same.requests]

theorem SameAudio.switches (same : before.SameAudio page) : before.Switches page :=
  .keep (by rw [src, same.audioEl, src]) same.connectedStreamGen same.requests.symm

theorem sameAudio_onOpen (page : Page) : page.SameAudio page.onOpen := by
  unfold onOpen
  constructor <;> dsimp only <;> split <;> simp

theorem sameAudio_onClose (page : Page) : page.SameAudio page.onClose := ⟨rfl, rfl, rfl, rfl, rfl⟩

theorem sameAudio_connect (page : Page) : page.SameAudio page.connect := ⟨rfl, rfl, rfl, rfl, rfl⟩

theorem told_onOpen (page : Page) : page.onOpen.told false = page.onOpen.listening := by
  cases listens : page.listening with
  | true => simp [onOpen, told, listens]
  | false => simp [onOpen, told, listens]

/-- An event which leaves the socket alone: what the page turns to it tells the server, if the
socket is open. -/
structure Tells (before after : Page) : Prop where
  ws : after.ws = before.ws
  reconnectTimer : after.reconnectTimer = before.reconnectTimer
  told : before.ws = .opened → ∀ heard, before.told heard = before.listening →
    after.told heard = after.listening
  unopened : before.ws ≠ .opened → after.outgoing = before.outgoing

@[simp] theorem stopListening_reconnectTimer (page : Page) :
    page.stopListening.reconnectTimer = page.reconnectTimer := by
  unfold stopListening disconnectStream
  split <;> simp

@[simp] theorem connectStream_reconnectTimer (page : Page) :
    page.connectStream.reconnectTimer = page.reconnectTimer := by
  unfold connectStream
  split <;> rfl

@[simp] theorem render_reconnectTimer (page : Page) :
    page.render.reconnectTimer = page.reconnectTimer := by
  unfold render
  split <;> simp

theorem startListening_reconnectTimer (page : Page) :
    page.startListening.reconnectTimer = page.reconnectTimer := by
  rw [startListening_eq, render_reconnectTimer]
  split <;> simp [readied]

theorem syncAudio_reconnectTimer (page : Page) :
    page.syncAudio.reconnectTimer = page.reconnectTimer := by
  rcases syncAudio_cases page with
    ⟨-, same⟩ | ⟨audio, -, -, ⟨-, opens⟩ | ⟨-, -, -, keeps⟩ | ⟨-, pauses⟩⟩
  · rw [same]
  · rw [opens, connectStream_reconnectTimer]
  · rw [keeps]
  · rw [pauses]

theorem stopListening_outgoing (unopened : page.ws ≠ .opened) :
    page.stopListening.outgoing = page.outgoing := by
  unfold stopListening disconnectStream
  split <;> simp [unopened]

theorem render_outgoing (unopened : page.ws ≠ .opened) : page.render.outgoing = page.outgoing := by
  unfold render
  split
  · exact stopListening_outgoing unopened
  · rfl

theorem startListening_outgoing (unopened : page.ws ≠ .opened) :
    page.startListening.outgoing = page.outgoing := by
  have readied_outgoing : page.readied.outgoing = page.outgoing := by simp [readied, unopened]
  rw [startListening_eq, render_outgoing]
  · split
    · rw [connectStream_of_element
        (show page.readied.audioEl = some (page.audioEl.getD {}) from rfl)]
      exact readied_outgoing
    · exact readied_outgoing
  · split
    · rw [connectStream_of_element
        (show page.readied.audioEl = some (page.audioEl.getD {}) from rfl)]
      simpa using unopened
    · simpa using unopened

theorem tells_toggle (page : Page) : page.Tells page.toggle := by
  refine ⟨toggle_ws page, ?_, fun opened heard _ => told_toggle heard opened, fun unopened => ?_⟩
  · unfold toggle
    split
    · exact stopListening_reconnectTimer page
    · exact startListening_reconnectTimer page
  · unfold toggle
    split
    · exact stopListening_outgoing unopened
    · exact startListening_outgoing unopened

theorem tells_onMessage (page : Page) (update : TrackUpdate) :
    page.Tells (page.onMessage update) := by
  obtain ⟨socket, sent, -, -⟩ := syncAudio_frame (page.pushed update)
  refine ⟨onMessage_ws page update, ?_,
    fun opened heard agrees => told_onMessage agrees opened update, fun unopened => ?_⟩
  · rw [onMessage, render_reconnectTimer, syncAudio_reconnectTimer]
    rfl
  · rw [onMessage, render_outgoing]
    · exact sent
    · rw [socket]
      exact unopened

theorem tells_pauseTimedOut (page : Page) : page.Tells page.pauseTimedOut := by
  refine ⟨pauseTimedOut_ws page, ?_, fun opened heard agrees => told_pauseTimedOut agrees opened,
    fun unopened => ?_⟩
  · rcases pauseTimedOut_eq page with same | stopped
    · rw [same]
    · rw [stopped, stopListening_reconnectTimer]
  · rcases pauseTimedOut_eq page with same | stopped
    · rw [same]
    · rw [stopped]
      exact stopListening_outgoing unopened

/-! ### Pauses -/

/-- A pushed state for the generation the page is connected to pauses the element, or leaves it as
it is. -/
theorem onMessage_audioEl {audio : Audio} (listens : page.listening = true)
    (found : page.audioEl = some audio) (connected : page.connectedStreamGen ≠ 0)
    {update : TrackUpdate} (named : update.track.isSome)
    (same : update.streamGen = page.connectedStreamGen) :
    (page.onMessage update).audioEl =
        some { audio with paused := audio.paused || !update.shouldPlay } ∧
      (page.onMessage update).listening = true ∧
      (page.onMessage update).connectedStreamGen = page.connectedStreamGen := by
  have tracked : ∀ page : Page, page.track = some update → page.render = page := by
    intro page shown
    simp [render, hasTrack, shown, named]
  rw [onMessage, tracked _ (syncAudio_frame _).2.2.2]
  rw [syncAudio_of_listening (by simpa using listens) (by simpa using found),
    pushed_shouldPlay, pushed_connectedStreamGen, pushed_serverGen, same]
  cases plays : update.shouldPlay with
  | true =>
      rw [if_pos rfl, if_neg (by simp [connected])]
      exact ⟨by simpa [pushed] using found, listens, rfl⟩
  | false =>
      rw [if_neg (by simp)]
      exact ⟨by simp, listens, rfl⟩

/-- Pushed states, one after another. -/
def onMessages (page : Page) : List TrackUpdate → Page
  | [] => page
  | update :: updates => (page.onMessage update).onMessages updates

/-- Within one generation a pause is final: after any number of pushed states for the generation
that the page is connected to, the element is paused if it was before, or one of them did not
play, and it still has its stream. -/
theorem paused_for_generation {audio : Audio} (listens : page.listening = true)
    (found : page.audioEl = some audio) (connected : page.connectedStreamGen ≠ 0)
    (updates : List TrackUpdate) (named : ∀ update ∈ updates, update.track.isSome)
    (same : ∀ update ∈ updates, update.streamGen = page.connectedStreamGen) :
    (page.onMessages updates).audioEl =
      some { audio with
        paused := audio.paused || updates.any fun update => !update.shouldPlay } := by
  induction updates generalizing page audio with
  | nil => simpa [onMessages] using found
  | cons update updates ih =>
      obtain ⟨element, still, generation⟩ := onMessage_audioEl listens found connected
        (named update List.mem_cons_self) (same update List.mem_cons_self)
      rw [onMessages,
        ih still element (by rwa [generation])
          (fun other member => named other (List.mem_cons_of_mem _ member))
          (fun other member => by
            rw [generation]
            exact same other (List.mem_cons_of_mem _ member)),
        List.any_cons, Bool.or_assoc]

/-- A page that plays the third generation. -/
def joined : Page where
  listening := true
  audioEl := some { src := some 0, paused := false }
  connectedStreamGen := 3
  requests := 1

/-- Spotify is paused and resumed while the same input feeds the stream: the element stays
paused. -/
theorem joined_stays_paused :
    (joined.onMessages
      [{ track := some { id := "song" }, streamActive := true, streamGen := 3 },
        { track := some { id := "song" }, isPlaying := true, streamActive := true,
          streamGen := 3 }]).audioEl = some { src := some 0, paused := true } :=
  paused_for_generation (show joined.listening = true from rfl) rfl (by decide) _ (by decide)
    (by decide)

end Page

end Togewire.Player
