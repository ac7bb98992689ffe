import Togewire.Foundation.Broadcast
import Togewire.Foundation.Json
import Togewire.Foundation.Transition
import Togewire.Foundation.Words
import Togewire.Media.Names

/-!
# What togedemon knows of the playback

The server tells togedemon over an event stream whether something is playing, and togedemon keeps a
mirror of it.  The stream is a text which may be cut anywhere, and is asked for again.  Over all
connections, the mirror is what the last event says which has arrived as a whole; and once all of a
stream has arrived, it is what the server has said last.
-/

namespace Togewire.Daemon

open Broadcast Media Transition Words

/-! ## The text of the stream -/

/-- `TogedemonEvent` as it is serialized. -/
def encode (isPlaying : Bool) : List Char :=
  "\x7b\"is_playing\":".toList ++ (if isPlaying then "true" else "false").toList ++ "\x7d".toList

/-- A line which ends no event, and holds no data: another field, or a comment. -/
structure Aside (line : List Char) : Prop where
  some_char : line ≠ []
  other : ¬"data:".toList <+: line

/-- How the events of a stream are written, and the keep-alives (`none`): fields and comments in
lines of their own, the data among those of an event, and a blank line at the end. -/
structure Framing (frameLines : Option Bool → List (List Char)) : Prop where
  plain : ∀ event, ∀ line ∈ frameLines event, '\n' ∉ line ∧ '\r' ∉ line
  event : ∀ isPlaying, ∃ before after,
    frameLines (some isPlaying) =
      before ++ ("data: ".toList ++ encode isPlaying) :: (after ++ [[]]) ∧
    ∀ line ∈ before ++ after, Aside line
  keepAlive : ∃ comments, frameLines none = comments ++ [[]] ∧ ∀ line ∈ comments, Aside line

section Frames

variable (frameLines : Option Bool → List (List Char))

/-- The text of an event, or of a keep-alive. -/
def frame (event : Option Bool) : List Char := unlines '\n' (frameLines event)

/-- The text of a stream. -/
def wire (frames : List (Option Bool)) : List Char := frames.flatMap (frame frameLines)

/-- The events of a stream of which all has arrived, when so many characters have. -/
def arrived : List (Option Bool) → Nat → List (Option Bool)
  | [], _ => []
  | event :: frames, count =>
      if (frame frameLines event).length ≤ count then
        event :: arrived frames (count - (frame frameLines event).length)
      else
        []

end Frames

/-- What a stream says last. -/
def lastSaid (playing : Bool) (frames : List (Option Bool)) : Bool :=
  frames.foldl (fun last event => event.getD last) playing

@[simp] theorem lastSaid_append (playing : Bool) (frames more : List (Option Bool)) :
    lastSaid playing (frames ++ more) = lastSaid (lastSaid playing frames) more :=
  List.foldl_append

theorem lastSaid_eq (playing : Bool) (frames : List (Option Bool)) :
    lastSaid playing frames = (frames.filterMap id).getLast?.getD playing := by
  induction frames generalizing playing with
  | nil => rfl
  | cons event rest ih =>
      change lastSaid (event.getD playing) rest = _
      rw [ih]
      cases event with
      | none => rfl
      | some isPlaying =>
          change _ = (isPlaying :: rest.filterMap id).getLast?.getD playing
          rw [List.getLast?_cons]
          rfl

/-! ## The monitor -/

/-- What `server_monitor` keeps between lines. -/
structure Monitor where
  dataBuf : List Char := []
  playing : Bool := false
  deriving DecidableEq

section Parser

variable {ν : Type} (parse : List Char → Option (Json ν))

/-- `as_bool` -/
def asBool : Json ν → Option Bool
  | .bool value => some value
  | _ => none

/-- A line of the stream is looked at. -/
def Monitor.take (monitor : Monitor) (line : List Char) : Monitor :=
  if "data:".toList.isPrefixOf line then
    { monitor with dataBuf := Trimming.strip isWhitespace (line.drop 5) }
  else if line = [] ∧ monitor.dataBuf ≠ [] then
    match parse monitor.dataBuf with
    | some json => { playing := ((json.get "is_playing").bind asBool).getD false }
    | none => { monitor with dataBuf := [] }
  else
    monitor

/-- A line which has ended, without what it ends with. -/
def Monitor.takeLine (monitor : Monitor) (line : List Char) : Monitor :=
  monitor.take parse (if line.getLast? = some '\r' then line.dropLast else line)

/-- At the end of the stream, a line may lack its end. -/
def Monitor.finish (along : Along Char Monitor) : Monitor :=
  if along.line = [] then along.state else along.state.take parse along.line

/-- What is serialized is read as what it says. -/
def ReadsBack (parse : List Char → Option (Json ν)) : Prop :=
  ∀ isPlaying, parse (encode isPlaying) = some (.object [("is_playing", .bool isPlaying)])

abbrev reads (parse : List Char → Option (Json ν)) (playing : Bool) (text : List Char) :
    Along Char Monitor :=
  (⟨[], { playing := playing }⟩ : Along Char Monitor).reads '\n' (Monitor.takeLine parse) text

/-! ### Reading events -/

variable {parse} {frameLines : Option Bool → List (List Char)}

theorem takeLine_eq {line : List Char} (plain : '\r' ∉ line) (monitor : Monitor) :
    monitor.takeLine parse line = monitor.take parse line := by
  rw [Monitor.takeLine, if_neg fun last => plain (List.mem_of_getLast? last)]

/-- Only a blank line can change the mirror. -/
theorem take_playing {line : List Char} (some_char : line ≠ []) (monitor : Monitor) :
    (monitor.take parse line).playing = monitor.playing := by
  unfold Monitor.take
  split
  · rfl
  · rw [if_neg fun blank => some_char blank.1]

theorem take_aside {line : List Char} (aside : Aside line) (monitor : Monitor) :
    monitor.take parse line = monitor := by
  rw [Monitor.take, if_neg fun data => aside.other (List.isPrefixOf_iff_prefix.mp data),
    if_neg fun blank => aside.some_char blank.1]

theorem foldl_aside {lines : List (List Char)} (plain : ∀ line ∈ lines, '\r' ∉ line)
    (aside : ∀ line ∈ lines, Aside line) (monitor : Monitor) :
    lines.foldl (Monitor.takeLine parse) monitor = monitor := by
  induction lines with
  | nil => rfl
  | cons line lines ih =>
      obtain ⟨first_plain, plain⟩ := List.forall_mem_cons.mp plain
      obtain ⟨first_aside, aside⟩ := List.forall_mem_cons.mp aside
      rw [List.foldl_cons, takeLine_eq first_plain, take_aside first_aside, ih plain aside]

theorem foldl_playing {lines : List (List Char)}
    (some_char : ∀ line ∈ lines, line ≠ [] ∧ '\r' ∉ line) (monitor : Monitor) :
    (lines.foldl (Monitor.takeLine parse) monitor).playing = monitor.playing := by
  induction lines generalizing monitor with
  | nil => rfl
  | cons line lines ih =>
      obtain ⟨⟨first, plain⟩, others⟩ := List.forall_mem_cons.mp some_char
      rw [List.foldl_cons, ih others, takeLine_eq plain, take_playing first]

theorem takeLine_data (monitor : Monitor) (isPlaying : Bool) :
    monitor.takeLine parse ("data: ".toList ++ encode isPlaying) =
      { monitor with dataBuf := encode isPlaying } := by
  cases isPlaying <;> rfl

theorem takeLine_blank (readsBack : ReadsBack parse) (playing isPlaying : Bool) :
    Monitor.takeLine parse { dataBuf := encode isPlaying, playing := playing } [] =
      { playing := isPlaying } := by
  have some_data : encode isPlaying ≠ [] := by
    cases isPlaying <;> decide
  change Monitor.take parse _ [] = _
  rw [Monitor.take, if_neg (by decide), if_pos ⟨rfl, some_data⟩, readsBack]
  rfl

/-- An event which is read to its end. -/
theorem foldl_frameLines (framing : Framing frameLines) (readsBack : ReadsBack parse)
    (event : Option Bool) (playing : Bool) :
    (frameLines event).foldl (Monitor.takeLine parse) { playing := playing } =
      { playing := event.getD playing } := by
  have plain := framing.plain event
  cases event with
  | none =>
      obtain ⟨comments, lines, aside⟩ := framing.keepAlive
      rw [lines] at plain ⊢
      rw [List.foldl_append,
        foldl_aside (fun line member => (plain line (List.mem_append_left _ member)).2) aside]
      rfl
  | some isPlaying =>
      obtain ⟨before, after, lines, aside⟩ := framing.event isPlaying
      rw [lines] at plain ⊢
      rw [List.foldl_append, foldl_aside (fun line member => (plain line (by simp [member])).2)
          (fun line member => aside line (List.mem_append_left _ member)),
        List.foldl_cons, takeLine_data, List.foldl_append,
        foldl_aside (fun line member => (plain line (by simp [member])).2)
          (fun line member => aside line (List.mem_append_right _ member)),
        List.foldl_cons, takeLine_blank readsBack]
      rfl

/-- Only the last line of an event is blank. -/
theorem Framing.ended (framing : Framing frameLines) (event : Option Bool) :
    ∃ front, frameLines event = front ++ [[]] ∧ ∀ line ∈ front, line ≠ [] := by
  cases event with
  | none =>
      obtain ⟨comments, lines, aside⟩ := framing.keepAlive
      exact ⟨comments, lines, fun line member => (aside line member).some_char⟩
  | some isPlaying =>
      obtain ⟨before, after, lines, aside⟩ := framing.event isPlaying
      refine ⟨before ++ ("data: ".toList ++ encode isPlaying) :: after, by simp [lines], ?_⟩
      intro line member
      rcases List.mem_append.mp member with early | late
      · exact (aside line (List.mem_append_left _ early)).some_char
      · rcases List.mem_cons.mp late with rfl | late
        · cases isPlaying <;> decide
        · exact (aside line (List.mem_append_right _ late)).some_char

/-- An event which is not read to its end says nothing. -/
theorem playing_of_unfinished (framing : Framing frameLines) (event : Option Bool)
    (playing : Bool) {ended : Nat} (unfinished : ended < (frameLines event).length) :
    (((frameLines event).take ended).foldl (Monitor.takeLine parse)
      { playing := playing }).playing = playing := by
  obtain ⟨front, lines, some_char⟩ := framing.ended event
  have few : ended ≤ front.length := by
    rw [lines, List.length_append, List.length_singleton] at unfinished
    omega
  have plain := framing.plain event
  rw [lines] at plain ⊢
  rw [List.take_append_of_le_length few]
  refine foldl_playing (fun line member => ?_) _
  have inside := List.mem_of_mem_take member
  exact ⟨some_char line inside, (plain line (List.mem_append_left _ inside)).2⟩

/-- What is read of an event as a whole. -/
theorem reads_frame (framing : Framing frameLines) (readsBack : ReadsBack parse)
    (event : Option Bool) (playing : Bool) :
    reads parse playing (frame frameLines event) =
      ⟨[], { playing := event.getD playing }⟩ := by
  rw [frame, reads, Along.reads_unlines fun line member => (framing.plain event line member).1,
    foldl_frameLines framing readsBack]

/-- Whatever has arrived of a stream: what counts is what has arrived as a whole. -/
theorem reads_take_wire (framing : Framing frameLines) (readsBack : ReadsBack parse)
    (frames : List (Option Bool)) (playing : Bool) (count : Nat) :
    (reads parse playing ((wire frameLines frames).take count)).state.playing =
      lastSaid playing (arrived frameLines frames count) := by
  induction frames generalizing playing count with
  | nil => simp [wire, arrived, lastSaid, reads, Along.reads]
  | cons event frames ih =>
      have shape : wire frameLines (event :: frames) =
          frame frameLines event ++ wire frameLines frames := List.flatMap_cons
      rw [shape, arrived]
      split
      · rename_i whole
        obtain ⟨more, rfl⟩ := Nat.exists_eq_add_of_le whole
        have first := reads_frame framing readsBack event playing
        rw [reads] at first
        rw [List.take_length_add_append, reads, Along.reads_append, first, Nat.add_sub_cancel_left]
        exact ih (event.getD playing) more
      · rename_i cut
        obtain ⟨ended, line, reading, -, few⟩ := Along.reads_take_unlines (Monitor.takeLine parse)
          (fun line member => (framing.plain event line member).1)
          ({ playing := playing } : Monitor) count
        rw [List.take_append_of_le_length (by omega), reads, frame, reading]
        exact playing_of_unfinished framing event playing (few (by simpa [frame] using cut))

theorem arrived_all (frames : List (Option Bool)) :
    arrived frameLines frames (wire frameLines frames).length = frames := by
  induction frames with
  | nil => rfl
  | cons event frames ih =>
      have longer : (wire frameLines (event :: frames)).length =
          (frame frameLines event).length + (wire frameLines frames).length := by
        rw [← List.length_append]
        rfl
      rw [arrived, longer, if_pos (Nat.le_add_right ..), Nat.add_sub_cancel_left, ih]

/-! ## The server and togedemon -/

/-- A connection of the monitor. -/
structure Link where
  /-- What the server sees when it is asked. -/
  initial : Bool
  /-- The handler has subscribed by now. -/
  receiver : Option (Receiver Bool) := none
  /-- The body has begun. -/
  begun : Bool := false
  /-- The body so far. -/
  frames : List (Option Bool) := []
  /-- How much of its text the monitor has read. -/
  taken : Nat := 0
  deriving DecidableEq

/-- The server's feed, the connection of the monitor, and those it has lost. -/
structure World where
  /-- What has been sent to all subscribers. -/
  sent : List Bool := []
  /-- History: the connections which are no more, in order. -/
  lost : List Link := []
  link : Option Link := none
  monitor : Along Char Monitor := ⟨[], {}⟩

/-- `broadcast::channel(16)` -/
def capacity : Nat := 16

/-- The body yields its next frame, if there is one: what was seen first, and then what is
received. -/
def Link.yield (link : Link) (sent : List Bool) (receiver : Receiver Bool) : Link :=
  if link.begun then
    let moved := receiver.recv capacity sent
    { link with
      receiver := some moved
      frames := link.frames ++ (moved.received.drop receiver.received.length).map some }
  else
    { link with begun := true, frames := link.frames ++ [some link.initial] }

/-- What happens between the server and the monitor. -/
inductive Event
  /-- `broadcast_track_update`, or the player switch. -/
  | send (isPlaying : Bool)
  | connect (initial : Bool)
  | subscribe
  | yield
  | keepAlive
  /-- The monitor reads one more character. -/
  | read
  /-- The body ends, or reading from it fails. -/
  | lose (failed : Bool)

namespace World

/-- The mirror. -/
def playing (world : World) : Bool := world.monitor.state.playing

/-- All connections there have been. -/
def links (world : World) : List Link := world.lost ++ world.link.toList

/-- The connection goes on, if there is one. -/
def onLink (world : World) (change : Link → Option Link) : Option World :=
  (world.link.bind change).map fun link => { world with link := some link }

variable (parse) in
/-- A connection is over; what it has brought stays. -/
def close (world : World) (failed : Bool) (link : Link) : World :=
  { world with
    lost := world.lost ++ [link]
    link := none
    monitor :=
      ⟨[], if failed then world.monitor.state else Monitor.finish parse world.monitor⟩ }

variable (parse) (frameLines) in
/-- The effect of one event, if it can happen. -/
def step (world : World) : Event → Option World
  | .send isPlaying => some { world with sent := world.sent ++ [isPlaying] }
  | .connect initial =>
      if world.link.isNone then
        some
          { world with
            link := some { initial := initial }
            monitor := ⟨[], { playing := world.playing }⟩ }
      else
        none
  | .subscribe => world.onLink fun link =>
      if link.receiver.isNone then
        some { link with receiver := some (Receiver.subscribe world.sent) }
      else
        none
  | .yield => world.onLink fun link => link.receiver.map fun receiver =>
      link.yield world.sent receiver
  | .keepAlive => world.onLink fun link => link.receiver.map fun _ =>
      { link with frames := link.frames ++ [none] }
  | .read => world.link.bind fun link =>
      (wire frameLines link.frames)[link.taken]?.map fun char =>
        { world with
          link := some { link with taken := link.taken + 1 }
          monitor := world.monitor.read '\n' (Monitor.takeLine parse) char }
  | .lose failed => world.link.map (world.close parse failed)

end World

variable (parse) (frameLines) in
/-- Playback, connections and their ends in any order. -/
def system : System World Event where
  initial world := world = {}
  step := World.step parse frameLines

/-! ## The mirror follows the server -/

/-- What the connections have said as a whole. -/
def heard (frameLines : Option Bool → List (List Char)) (links : List Link) :
    List (Option Bool) :=
  links.flatMap fun link => arrived frameLines link.frames link.taken

/-- A connection says, in order, what the server saw first, and then some of what it has sent. -/
def Link.Told (link : Link) (sent : List Bool) : Prop :=
  link.frames = [] ∨ ∃ receiver, link.receiver = some receiver ∧
    (link.frames.filterMap id).Sublist (link.initial :: sent.drop receiver.start)

/-- What a connection has come to. -/
structure Link.Kept (parse : List Char → Option (Json ν))
    (frameLines : Option Bool → List (List Char)) (found : Bool) (link : Link) (sent : List Bool)
    (monitor : Along Char Monitor) : Prop where
  read : monitor = reads parse found ((wire frameLines link.frames).take link.taken)
  within : link.taken ≤ (wire frameLines link.frames).length
  silent : link.receiver = none → link.frames = [] ∧ link.begun = false
  heard : ∀ receiver, link.receiver = some receiver → Heard sent [] receiver
  recent : ∀ receiver, link.receiver = some receiver → Recent sent receiver
  /-- The body has what was seen first and what was received since. -/
  spoken : ∀ receiver, link.receiver = some receiver →
    link.frames.filterMap id = if link.begun then link.initial :: receiver.received else []
  unheard : ∀ receiver, link.receiver = some receiver → link.begun = false →
    receiver.received = []

namespace Link

variable {link : Link} {sent : List Bool} {monitor : Along Char Monitor} {found : Bool}

theorem Told.send (told : link.Told sent) (isPlaying : Bool) :
    link.Told (sent ++ [isPlaying]) := by
  refine told.imp_right ?_
  rintro ⟨receiver, subscribed, part⟩
  refine ⟨receiver, subscribed, part.trans (List.Sublist.cons_cons _ ?_)⟩
  exact (List.sublist_append_left _ _).drop receiver.start

namespace Kept

theorem send (kept : link.Kept parse frameLines found sent monitor) (isPlaying : Bool) :
    link.Kept parse frameLines found (sent ++ [isPlaying]) monitor :=
  ⟨kept.read, kept.within, kept.silent,
    fun receiver subscribed => (kept.heard receiver subscribed).append [isPlaying],
    fun receiver subscribed => Recent.send (kept.heard receiver subscribed).within isPlaying,
    kept.spoken, kept.unheard⟩

theorem connect (sent : List Bool) (initial found : Bool) :
    ({ initial := initial } : Link).Kept parse frameLines found sent
      ⟨[], { playing := found }⟩ :=
  ⟨rfl, Nat.le_refl _, fun _ => ⟨rfl, rfl⟩, by simp, by simp, by simp, by simp⟩

theorem subscribe (kept : link.Kept parse frameLines found sent monitor)
    (unsubscribed : link.receiver = none) :
    { link with receiver := some (Receiver.subscribe sent) }.Kept parse frameLines found sent
      monitor := by
  obtain ⟨silent, unbegun⟩ := kept.silent unsubscribed
  refine ⟨kept.read, kept.within, by simp, ?_, ?_, ?_, ?_⟩
  · rintro _ ⟨⟩
    exact Heard.subscribe (List.nil_sublist _)
  · rintro _ ⟨⟩
    exact Recent.subscribe sent
  · rintro _ ⟨⟩
    simp [silent, unbegun]
  · rintro _ ⟨⟩ -
    rfl

theorem write (kept : link.Kept parse frameLines found sent monitor)
    (more : List (Option Bool)) :
    reads parse found ((wire frameLines (link.frames ++ more)).take link.taken) = monitor ∧
      link.taken ≤ (wire frameLines (link.frames ++ more)).length := by
  have longer : wire frameLines (link.frames ++ more) =
      wire frameLines link.frames ++ wire frameLines more := List.flatMap_append
  rw [longer]
  refine ⟨?_, ?_⟩
  · rw [List.take_append_of_le_length kept.within, ← kept.read]
  · exact Nat.le_trans kept.within (by simp)

theorem keepAlive (kept : link.Kept parse frameLines found sent monitor)
    {receiver : Receiver Bool} (subscribed : link.receiver = some receiver) :
    { link with frames := link.frames ++ [none] }.Kept parse frameLines found sent monitor := by
  obtain ⟨read, within⟩ := kept.write [none]
  refine ⟨read.symm, within, ?_, kept.heard, kept.recent, ?_, kept.unheard⟩
  · simp [subscribed]
  · intro receiver subscribed
    rw [← kept.spoken receiver subscribed]
    simp

theorem yield (kept : link.Kept parse frameLines found sent monitor) {receiver : Receiver Bool}
    (subscribed : link.receiver = some receiver) :
    (link.yield sent receiver).Kept parse frameLines found sent monitor := by
  have heard := kept.heard receiver subscribed
  have spoken := kept.spoken receiver subscribed
  unfold Link.yield
  split
  · rename_i begun
    obtain ⟨more, longer⟩ := receiver.received_prefix_recv capacity sent
    obtain ⟨read, within⟩ := kept.write (more.map some)
    have new : (receiver.recv capacity sent).received.drop receiver.received.length = more := by
      rw [← longer, List.drop_left]
    dsimp only
    rw [new]
    refine ⟨read.symm, within, by simp, ?_, ?_, ?_, ?_⟩
    · rintro _ ⟨⟩
      exact heard.recv capacity
    · rintro _ ⟨⟩
      exact (kept.recent receiver subscribed).recv (by decide)
    · rintro _ ⟨⟩
      rw [if_pos begun, ← longer, List.filterMap_append, spoken, if_pos begun]
      simp
    · rintro _ ⟨⟩ unbegun
      exact absurd (begun.symm.trans unbegun) (by decide)
  · rename_i unbegun
    obtain ⟨read, within⟩ := kept.write [some link.initial]
    have nothing := kept.unheard receiver subscribed (by simpa using unbegun)
    refine ⟨read.symm, within, by simp [subscribed], kept.heard, kept.recent, ?_, by simp⟩
    intro other same
    obtain rfl := Option.some.inj (subscribed.symm.trans same)
    rw [if_neg unbegun] at spoken
    rw [List.filterMap_append, spoken, nothing]
    rfl

theorem readChar (kept : link.Kept parse frameLines found sent monitor) {char : Char}
    (next : (wire frameLines link.frames)[link.taken]? = some char) :
    { link with taken := link.taken + 1 }.Kept parse frameLines found sent
      (monitor.read '\n' (Monitor.takeLine parse) char) := by
  obtain ⟨bound, rfl⟩ := List.getElem?_eq_some_iff.mp next
  refine ⟨?_, bound, kept.silent, kept.heard, kept.recent, kept.spoken, kept.unheard⟩
  have further : (wire frameLines link.frames).take (link.taken + 1) =
      (wire frameLines link.frames).take link.taken ++
        [(wire frameLines link.frames)[link.taken]] := by
    rw [List.take_add_one, List.getElem?_eq_getElem bound, Option.toList_some]
  dsimp only
  rw [further, reads, Along.reads_append, kept.read]
  rfl

/-- What the connection has said as a whole is in the mirror. -/
theorem playing_eq (kept : link.Kept parse frameLines found sent monitor)
    (framing : Framing frameLines) (readsBack : ReadsBack parse) :
    monitor.state.playing = lastSaid found (arrived frameLines link.frames link.taken) := by
  rw [kept.read]
  exact reads_take_wire framing readsBack link.frames found link.taken

theorem told (kept : link.Kept parse frameLines found sent monitor) : link.Told sent := by
  cases subscribed : link.receiver with
  | none => exact .inl (kept.silent subscribed).1
  | some receiver =>
      refine .inr ⟨receiver, subscribed, ?_⟩
      rw [kept.spoken receiver subscribed]
      split
      · exact (kept.heard receiver subscribed).received_sublist.cons_cons _
      · exact List.nil_sublist _

/-- A body which was read to its end says last what was received last. -/
theorem lastSaid_frames (kept : link.Kept parse frameLines found sent monitor)
    {receiver : Receiver Bool} (subscribed : link.receiver = some receiver)
    (begun : link.begun = true) (caught_up : receiver.next = sent.length) :
    lastSaid found link.frames = (sent.drop receiver.start).getLast?.getD link.initial := by
  have last := (kept.recent receiver subscribed).getLast?_eq (kept.heard receiver subscribed)
    caught_up
  rw [lastSaid_eq, kept.spoken receiver subscribed, if_pos begun, List.getLast?_cons, last]
  rfl

end Kept

end Link

theorem finish_playing (along : Along Char Monitor) :
    (Monitor.finish parse along).playing = along.state.playing := by
  unfold Monitor.finish
  split
  · rfl
  · rename_i some_text
    exact take_playing some_text along.state

/-- The invariant of all runs. -/
structure World.Kept (parse : List Char → Option (Json ν))
    (frameLines : Option Bool → List (List Char)) (world : World) : Prop where
  lost : ∀ link ∈ world.lost, link.Told world.sent
  live : ∀ link, world.link = some link →
    link.Kept parse frameLines (lastSaid false (heard frameLines world.lost)) world.sent
      world.monitor
  idle : world.link = none → world.playing = lastSaid false (heard frameLines world.lost)

theorem World.Kept.playing_eq {world : World} (kept : world.Kept parse frameLines)
    (framing : Framing frameLines) (readsBack : ReadsBack parse) :
    world.playing = lastSaid false (heard frameLines world.links) := by
  cases linked : world.link with
  | none => simpa [World.links, linked] using kept.idle linked
  | some link =>
      rw [World.links, linked, Option.toList_some, heard, List.flatMap_append, lastSaid_append,
        List.flatMap_singleton]
      exact (kept.live link linked).playing_eq framing readsBack

theorem kept_of_reachable (framing : Framing frameLines) (readsBack : ReadsBack parse)
    {world : World} (reach : (system parse frameLines).Reachable world) :
    world.Kept parse frameLines := by
  refine reach.invariant (World.Kept parse frameLines) ?_ ?_
  · rintro _ rfl
    exact ⟨by simp, by simp, fun _ => rfl⟩
  · intro before event after _ kept _ step
    have onLink {change : Link → Option Link} {after : World}
        (changed : before.onLink change = some after)
        (keeps : ∀ link next, before.link = some link → change link = some next →
          next.Kept parse frameLines (lastSaid false (heard frameLines before.lost)) before.sent
            before.monitor) : after.Kept parse frameLines := by
      obtain ⟨next, bound, rfl⟩ := Option.map_eq_some_iff.mp changed
      obtain ⟨link, linked, moved⟩ := Option.bind_eq_some_iff.mp bound
      refine ⟨kept.lost, ?_, by simp⟩
      rintro _ ⟨⟩
      exact keeps link next linked moved
    cases event with
    | send isPlaying =>
        obtain rfl := Option.some.inj step
        exact ⟨fun link member => (kept.lost link member).send isPlaying,
          fun link linked => (kept.live link linked).send isPlaying, kept.idle⟩
    | connect initial =>
        obtain ⟨unlinked, rfl⟩ := of_guarded step
        refine ⟨kept.lost, ?_, by simp⟩
        rintro _ ⟨⟩
        rw [← kept.idle (Option.isNone_iff_eq_none.mp unlinked)]
        exact Link.Kept.connect _ initial _
    | subscribe =>
        refine onLink step fun link next linked moved => ?_
        obtain ⟨unsubscribed, rfl⟩ := of_guarded moved
        exact (kept.live link linked).subscribe (Option.isNone_iff_eq_none.mp unsubscribed)
    | yield =>
        refine onLink step fun link next linked moved => ?_
        obtain ⟨receiver, subscribed, rfl⟩ := Option.map_eq_some_iff.mp moved
        exact (kept.live link linked).yield subscribed
    | keepAlive =>
        refine onLink step fun link next linked moved => ?_
        obtain ⟨receiver, subscribed, rfl⟩ := Option.map_eq_some_iff.mp moved
        exact (kept.live link linked).keepAlive subscribed
    | read =>
        obtain ⟨link, linked, moved⟩ := Option.bind_eq_some_iff.mp step
        obtain ⟨char, next, rfl⟩ := Option.map_eq_some_iff.mp moved
        refine ⟨kept.lost, ?_, by simp⟩
        rintro _ ⟨⟩
        exact (kept.live link linked).readChar next
    | lose failed =>
        obtain ⟨link, linked, rfl⟩ := Option.map_eq_some_iff.mp step
        have said := kept.playing_eq framing readsBack
        rw [World.links, linked, Option.toList_some] at said
        refine ⟨?_, by simp [World.close], fun _ => ?_⟩
        · intro other member
          rcases List.mem_append.mp member with earlier | last
          · exact kept.lost other earlier
          · obtain rfl := List.mem_singleton.mp last
            exact (kept.live other linked).told
        · refine Eq.trans ?_ said
          cases failed with
          | true => rfl
          | false => exact finish_playing before.monitor

/-- Wherever a stream is cut, and however often it is asked for again: the mirror is what the last
event says which has arrived as a whole, over all connections; the events of a connection are, in
order, what the server saw when it was asked, and some of what it has sent since the subscription;
and a monitor which has read all there is mirrors what was sent last since then, or what the server
saw if nothing was. -/
theorem mirror_follows_server (framing : Framing frameLines) (readsBack : ReadsBack parse)
    {world : World} (reach : (system parse frameLines).Reachable world) :
    world.playing = lastSaid false (heard frameLines world.links) ∧
      (∀ link ∈ world.links, link.Told world.sent) ∧
      ∀ link receiver, world.link = some link → link.receiver = some receiver →
        link.begun = true → link.taken = (wire frameLines link.frames).length →
          receiver.next = world.sent.length →
            world.playing = (world.sent.drop receiver.start).getLast?.getD link.initial := by
  have kept := kept_of_reachable framing readsBack reach
  refine ⟨kept.playing_eq framing readsBack, ?_, ?_⟩
  · intro link member
    rcases List.mem_append.mp member with earlier | live
    · exact kept.lost link earlier
    · exact (kept.live link (by simpa using live)).told
  · intro link receiver linked subscribed begun all caught_up
    have live := kept.live link linked
    rw [World.playing, live.playing_eq framing readsBack, all, arrived_all]
    exact live.lastSaid_frames subscribed begun caught_up

end Parser

/-! ### A stream which is cut -/

def exampleParse (text : List Char) : Option (Json Nat) :=
  if text = encode true then
    some (.object [("is_playing", .bool true)])
  else if text = encode false then
    some (.object [("is_playing", .bool false)])
  else
    none

theorem example_readsBack : ReadsBack exampleParse := by
  intro isPlaying
  cases isPlaying <;> rfl

/-- Events with a name and data, and keep-alives which are comments. -/
def exampleLines : Option Bool → List (List Char)
  | some isPlaying => ["event: track_update".toList, "data: ".toList ++ encode isPlaying, []]
  | none => [":".toList, []]

theorem example_framing : Framing exampleLines where
  plain event := by
    rcases event with - | - | - <;> decide
  event isPlaying := by
    refine ⟨["event: track_update".toList], [], rfl, fun line member => ?_⟩
    obtain rfl : line = "event: track_update".toList := by simpa using member
    exact ⟨by decide, by decide⟩
  keepAlive := by
    refine ⟨[":".toList], rfl, fun line member => ?_⟩
    obtain rfl : line = ":".toList := by simpa using member
    exact ⟨by decide, by decide⟩

/-- Something plays as togedemon connects; the event which says that it has stopped is cut short,
and so the mirror does not know until it has connected again. -/
def cut : List Event :=
  [.connect true, .subscribe, .send false, .yield, .keepAlive, .yield] ++ List.replicate 97 .read ++
    [.lose false, .connect false, .subscribe, .yield] ++ List.replicate 20 .read

theorem cut_follows_server :
    let world := (system exampleParse exampleLines).final {} cut (by decide +kernel)
    world.playing = true ∧ world.links.map Link.taken = [97, 20] ∧
      world.playing = lastSaid false (heard exampleLines world.links) ∧
        (∀ link ∈ world.links, link.Told world.sent) ∧
          ∀ link receiver, world.link = some link → link.receiver = some receiver →
            link.begun = true → link.taken = (wire exampleLines link.frames).length →
              receiver.next = world.sent.length →
                world.playing = (world.sent.drop receiver.start).getLast?.getD link.initial := by
  intro world
  exact ⟨by decide +kernel, by decide +kernel,
    mirror_follows_server example_framing example_readsBack (System.reachable_final rfl _ _)⟩

end Togewire.Daemon
