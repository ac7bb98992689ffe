import Togewire.Server.Workers

/-!
# What each task has done

A task's trace records what it last saw of the slot and of `state.current`, the paths it was
served, and how far its poll has come.  The discipline says what the tasks' texts guarantee about
the order of their operations: the stream is stopped or given a file only after a look at the slot
that found it free, a file only for the playing track in hand and only by a path served for it, and
a poll ends only when it has acted on every change that could leave the wrong file on air.
-/

namespace Togewire.Server

open Interleaving

/-- What a task's last access of the slot found. -/
inductive SlotView
  | unseen
  | free
  | own
  | taken
  deriving DecidableEq

/-- How far a poll has come. -/
inductive PollPhase
  | away
  | begun (m : Monitor)
  /-- The report is in `state.current`; `settled` once it has been acted on where needed. -/
  | written (m : Monitor) (settled : Bool)
  deriving DecidableEq

/-- The stream, or a live togedemon, accounts for the written report. -/
def PollPhase.settle : PollPhase → PollPhase
  | written m _ => written m true
  | phase => phase

/-- What a task has done. -/
structure Trace where
  slot : SlotView := .unseen
  /-- Whether the task has taken the slot and not yet switched to live input. -/
  opening : Bool := false
  /-- The pipe `play_live` returned, while the request body is open. -/
  pipe : Option Nat := none
  /-- `state.current` as the task last read or wrote it. -/
  held : Option SpotifyState := none
  /-- The paths the task was served, with the track ids. -/
  found : List (String × String) := []
  poll : PollPhase := .away

namespace Trace

/-- A report which leaves a file that was rightly on air rightly on air. -/
def keepsShowing (m : Monitor) : Option SpotifyState → Bool
  | none => m.lastTrackId = none
  | some s => (s.track.map Track.id) = m.lastTrackId && (s.isPlaying || !m.lastPlaying)

/-- Note the path a track was served with. -/
def serve (trace : Trace) (track : Track) (path : Option String) : Trace :=
  { trace with found := (path.map fun filePath => (track.id, filePath)).toList ++ trace.found }

/-- The trace after one more operation and its answer. -/
def next (trace : Trace) : (op : Op) → op.Answer → Trace
  | .readMonitor, m => { trace with poll := .begun m }
  | .endPoll _, _ => { trace with poll := .away }
  | .readCurrent, current => { trace with held := current }
  | .writeCurrent current, _ =>
      { trace with
        held := current
        poll :=
          match trace.poll with
          | .begun m => .written m (keepsShowing m current)
          | phase => phase }
  | .getCachedPath track, path => trace.serve track path
  | .prepareTrack track, path => trace.serve track path
  | .playTrack _ _, _ => { trace with poll := trace.poll.settle }
  | .stop, _ => { trace with poll := trace.poll.settle }
  | .playLive, pipe => { trace with opening := false, pipe := some pipe }
  | .togedemonLive .play, true => { trace with slot := .taken }
  | .togedemonLive .stop, true => { trace with slot := .taken, poll := trace.poll.settle }
  | .togedemonLive _, false => { trace with slot := .free }
  | .takeSlot, _ => { trace with slot := .own, opening := true }
  | .pump _, true => { trace with pipe := none }
  | .pump _, false => trace
  | .releaseSlot, true => { trace with slot := .free }
  | .releaseSlot, false => { trace with slot := .taken }
  | .dropTogedemon, _ => { trace with slot := .free }
  | _, _ => trace

/-- A path served for the playing track in hand. -/
def Plays (trace : Trace) (path : String) : Prop :=
  ∃ s track, trace.held = some s ∧ s.track = some track ∧ s.isPlaying = true ∧
    (track.id, path) ∈ trace.found

/-- What the texts of the tasks let follow a trace. -/
def Allows (trace : Trace) : Op → Prop
  | .readMonitor => trace.poll = .away
  | .endPoll after =>
      (∃ m, trace.poll = .begun m ∧ after.lastTrackId = m.lastTrackId ∧
          after.lastPlaying = m.lastPlaying) ∨
        ∃ m, trace.poll = .written m true ∧ Synced trace.held after
  | .readCurrent => trace.poll = .away
  | .writeCurrent _ => ∃ m, trace.poll = .begun m
  | .playTrack path _ => trace.slot = .free ∧ trace.Plays path
  | .stop => trace.slot = .free
  | .playLive => trace.slot = .own ∧ trace.opening = true
  | .takeSlot => trace.pipe = none ∧ trace.opening = false
  | _ => True

/-- The discipline of the server's tasks. -/
def discipline : Discipline signature Trace where
  start := {}
  next := next
  allows := Allows

/-- A later trace of a task that deals with one report. -/
structure Advances (before after : Trace) : Prop where
  held : after.held = before.held
  pipe : after.pipe = before.pipe
  opening : after.opening = before.opening
  found : before.found ⊆ after.found
  poll : after.poll = before.poll ∨ after.poll = before.poll.settle

/-- The report in hand has been acted on. -/
def Settled (trace : Trace) : Prop := trace.poll.settle = trace.poll

theorem settle_settle (phase : PollPhase) : phase.settle.settle = phase.settle := by
  cases phase <;> rfl

theorem Advances.refl (trace : Trace) : trace.Advances trace :=
  ⟨rfl, rfl, rfl, List.Subset.refl _, Or.inl rfl⟩

theorem Advances.trans {first second third : Trace} (earlier : first.Advances second)
    (later : second.Advances third) : first.Advances third where
  held := later.held.trans earlier.held
  pipe := later.pipe.trans earlier.pipe
  opening := later.opening.trans earlier.opening
  found := List.Subset.trans earlier.found later.found
  poll := by
    rcases later.poll with same | settled
    · rw [same]
      exact earlier.poll
    · rw [settled]
      rcases earlier.poll with same | settled
      · rw [same]
        exact Or.inr rfl
      · rw [settled, settle_settle]
        exact Or.inr rfl

theorem Settled.advances {before after : Trace} (settled : before.Settled)
    (advances : before.Advances after) : after.Settled := by
  have settled_eq : before.poll.settle = before.poll := settled
  rcases advances.poll with same | moved
  · rw [Settled, same, settled_eq]
  · rw [Settled, moved, settle_settle]

theorem Advances.plays {before after : Trace} {path : String} (advances : before.Advances after)
    (plays : before.Plays path) : after.Plays path := by
  obtain ⟨s, track, held, reports, playing, member⟩ := plays
  exact ⟨s, track, advances.held.trans held, reports, playing, advances.found member⟩

/-- A task obeys the discipline from a trace on. -/
abbrev Guides {α : Type} (trace : Trace) (task : Task α) (finish : α → Trace → Prop) : Prop :=
  task.Obeys discipline trace finish

variable {trace : Trace}

theorem guides_pure {α : Type} {result : α} {finish : α → Trace → Prop}
    (holds : finish result trace) : trace.Guides (pure result) finish := holds

theorem guides_bind {α β : Type} {task : Task α} {next : α → Task β} {finish : β → Trace → Prop}
    (guides : trace.Guides task fun result after => after.Guides (next result) finish) :
    trace.Guides (task >>= next) finish := Program.Obeys.bind guides

theorem guides_ask {α : Type} {op : Op} {next : op.Answer → Task α} {finish : α → Trace → Prop}
    (allowed : trace.Allows op)
    (guides : ∀ answer, (trace.next op answer).Guides (next answer) finish) :
    trace.Guides (ask op >>= next) finish := Program.Obeys.perform allowed guides

/-! ## The tasks obey the discipline -/

theorem guides_maybePlay {path : String} {s : SpotifyState} {finish : Bool → Trace → Prop}
    (plays : s.isPlaying = true → trace.Plays path)
    (played : ∀ after, trace.Advances after → after.Settled → finish true after)
    (passed : ∀ after, trace.Advances after → finish false after) :
    trace.Guides (maybePlay path s) finish := by
  unfold maybePlay
  cases playing : s.isPlaying with
  | false => exact guides_pure (passed _ (.refl trace))
  | true =>
      refine guides_ask trivial ?_
      rintro (_ | _)
      · refine guides_ask trivial ?_
        rintro (_ | _)
        · exact guides_pure (passed _ ⟨rfl, rfl, rfl, List.Subset.refl _, Or.inl rfl⟩)
        · refine guides_ask ⟨rfl, plays playing⟩ fun _ => guides_pure (played _ ?_ ?_)
          · exact ⟨rfl, rfl, rfl, List.Subset.refl _, Or.inr rfl⟩
          · exact settle_settle _
      · exact guides_pure (passed _ ⟨rfl, rfl, rfl, List.Subset.refl _, Or.inl rfl⟩)

theorem guides_maybePlayCached {path : Option String} {s : SpotifyState}
    {finish : Bool → Trace → Prop}
    (plays : ∀ filePath, path = some filePath → s.isPlaying = true → trace.Plays filePath)
    (played : ∀ after, trace.Advances after → after.Settled → finish true after)
    (passed : ∀ after, trace.Advances after → finish false after) :
    trace.Guides (maybePlayCached path s) finish := by
  cases path with
  | none => exact guides_pure (passed _ (.refl trace))
  | some filePath => exact guides_maybePlay (plays filePath rfl) played passed

theorem guides_stopUnlessLive {finish : Unit → Trace → Prop}
    (stopped : ∀ after, trace.Advances after → after.Settled → finish () after) :
    trace.Guides stopUnlessLive finish := by
  refine guides_ask trivial ?_
  rintro (_ | _)
  · refine ⟨rfl, fun _ => stopped _ ?_ (settle_settle _)⟩
    exact ⟨rfl, rfl, rfl, List.Subset.refl _, Or.inr rfl⟩
  · refine guides_pure (stopped _ ?_ (settle_settle _))
    exact ⟨rfl, rfl, rfl, List.Subset.refl _, Or.inr rfl⟩

theorem advances_serve (trace : Trace) (track : Track) (path : Option String) :
    trace.Advances (trace.serve track path) :=
  ⟨rfl, rfl, rfl, List.subset_append_right _ _, Or.inl rfl⟩

theorem plays_serve {s : SpotifyState} {track : Track} {path : Option String} {filePath : String}
    (held : trace.held = some s) (reports : s.track = some track)
    (found : path = some filePath) (playing : s.isPlaying = true) :
    (trace.serve track path).Plays filePath :=
  ⟨s, track, held, reports, playing, by simp [serve, found]⟩

theorem guides_switchTrack {s : SpotifyState} {track : Track} {finish : Unit → Trace → Prop}
    (held : trace.held = some s) (reports : s.track = some track)
    (switched : ∀ after, trace.Advances after → after.Settled → finish () after) :
    trace.Guides (switchTrack s track) finish := by
  refine guides_ask trivial fun path => guides_bind ?_
  have served := advances_serve trace track path
  refine guides_maybePlayCached (fun _ => plays_serve held reports) ?_ ?_
  · intro after advances settled
    exact guides_pure (switched after (served.trans advances) settled)
  · intro after advances
    exact guides_stopUnlessLive fun final stopped settled =>
      switched final ((served.trans advances).trans stopped) settled

theorem guides_startStreamIfPlaying (away : trace.poll = .away) :
    trace.Guides startStreamIfPlaying fun _ _ => True := by
  refine guides_ask away fun current => ?_
  cases current with
  | none => exact guides_pure trivial
  | some s =>
      cases reports : s.track with
      | none => simp only [reports]; exact guides_pure trivial
      | some track =>
          simp only [reports]
          refine guides_ask trivial fun path => guides_bind ?_
          exact guides_maybePlayCached (fun _ => plays_serve rfl reports)
            (fun _ _ _ => trivial) fun _ _ => trivial

theorem guides_prepareCurrent {track : Track} {finish : Unit → Trace → Prop}
    (prepared : ∀ after, trace.Advances after → finish () after) :
    trace.Guides (prepareCurrent track) finish := by
  refine guides_ask trivial fun path => ?_
  have served := advances_serve trace track path
  cases path with
  | some _ => exact guides_pure (prepared _ served)
  | none =>
      refine guides_ask trivial ?_
      rintro (_ | _)
      · refine guides_ask trivial ?_
        rintro (_ | _)
        · exact ⟨trivial, fun _ => prepared _ served⟩
        · exact guides_pure (prepared _ served)
      · exact guides_pure (prepared _ served)

theorem guides_yieldsDownload {track : Track} {finish : Bool → Trace → Prop}
    (looked : ∀ yields after, trace.Advances after → finish yields after) :
    trace.Guides (yieldsDownload track) finish := by
  refine guides_ask trivial fun path => ?_
  have served := advances_serve trace track path
  cases path with
  | some _ => exact guides_pure (looked true _ served)
  | none => exact ⟨trivial, fun failed => looked failed _ served⟩

theorem guides_prefetchNext {current : Track} {next : Option Track} {finish : Unit → Trace → Prop}
    (prefetched : ∀ after, trace.Advances after → finish () after) :
    trace.Guides (prefetchNext current next) finish := by
  cases next with
  | none => exact guides_pure (prefetched _ (.refl trace))
  | some next =>
      refine guides_bind (guides_yieldsDownload fun yields after looked => ?_)
      cases yields with
      | false => exact guides_pure (prefetched _ looked)
      | true =>
          exact guides_prepareCurrent fun final prepared => prefetched _ (looked.trans prepared)

/-! ### Polls -/

/-- A report that has been acted on stays so until the poll ends. -/
theorem Advances.written {before after : Trace} {m : Monitor} {settled : Bool}
    (advances : before.Advances after) (written : before.poll = .written m settled)
    (acted : after.Settled) : after.poll = .written m true := by
  have acted_eq : after.poll.settle = after.poll := acted
  rcases advances.poll with same | moved
  · rw [← acted_eq, same, written]
    rfl
  · rw [moved, written]
    rfl

theorem guides_endPoll {s : Option SpotifyState} {m after : Monitor}
    (written : trace.poll = .written m true) (held : trace.held = s) (synced : Synced s after) :
    trace.Guides (endPoll after) fun _ _ => True :=
  ⟨Or.inr ⟨m, written, by rwa [held]⟩, fun _ => trivial⟩

theorem guides_concludePoll {m before : Monitor} {s : SpotifyState} {track : Track}
    (written : trace.poll = .written before true) (held : trace.held = some s)
    (reports : s.track = some track) :
    trace.Guides (concludePoll m s track) fun _ _ => True := by
  refine guides_bind (guides_prefetchNext fun middle prefetched => ?_)
  refine guides_bind (guides_prepareCurrent fun final prepared => ?_)
  have advances := prefetched.trans prepared
  have settled : trace.Settled := by rw [Settled, written]; rfl
  exact guides_endPoll (advances.written written (settled.advances advances))
    (advances.held.trans held) ⟨track, reports, rfl, rfl⟩

theorem guides_writeCurrent {m : Monitor} {current : Option SpotifyState} {next : Task Unit}
    (begun : trace.poll = .begun m)
    (guides : ∀ after : Trace, after.held = current →
      after.poll = .written m (keepsShowing m current) → after.Guides next fun _ _ => True) :
    trace.Guides (writeCurrent current >>= fun _ => next) fun _ _ => True :=
  guides_ask ⟨m, begun⟩ fun _ => guides _ rfl (by simp [Trace.next, begun])

theorem guides_pollNothing {m before : Monitor} (begun : trace.poll = .begun before)
    (same : m.lastTrackId = before.lastTrackId) :
    trace.Guides (pollNothing m) fun _ _ => True := by
  refine guides_writeCurrent begun fun wrote held written => ?_
  cases known : m.lastTrackId with
  | some id =>
      simp only [Option.isSome_some, if_true]
      refine guides_bind (guides_stopUnlessLive fun after advances settled => ?_)
      exact guides_endPoll (advances.written written settled) (advances.held.trans held) rfl
  | none =>
      simp only [Option.isSome_none, Bool.false_eq_true, if_false]
      rw [keepsShowing, ← same, known] at written
      exact guides_endPoll written held rfl

theorem guides_followSeek {cached : Option String} {s : SpotifyState} {sought : Bool}
    {finish : Unit → Trace → Prop}
    (plays : ∀ path, cached = some path → s.isPlaying = true → trace.Plays path)
    (followed : ∀ after, trace.Advances after → finish () after) :
    trace.Guides (followSeek cached s sought) finish := by
  cases sought with
  | false => exact guides_pure (followed _ (.refl trace))
  | true =>
      refine guides_bind (guides_maybePlayCached plays ?_ ?_)
      · exact fun after advances _ => guides_pure (followed after advances)
      · exact fun after advances => guides_pure (followed after advances)

/-- A pause is acted on, and nothing else that keeps the track needs to be. -/
theorem guides_followPlaying {m : Monitor} {cached : Option String} {s : SpotifyState}
    {sought : Bool} {finish : Bool → Trace → Prop}
    (plays : ∀ path, cached = some path → s.isPlaying = true → trace.Plays path)
    (settled : (s.isPlaying || !m.lastPlaying) = true → trace.Settled)
    (followed : ∀ changed after, trace.Advances after → after.Settled → finish changed after) :
    trace.Guides (followPlaying m cached s sought) finish := by
  by_cases changed : s.isPlaying ≠ m.lastPlaying
  · rw [followPlaying, if_pos changed]
    cases playing : s.isPlaying with
    | false =>
        exact guides_bind (guides_stopUnlessLive fun after advances acted =>
          guides_pure (followed true after advances acted))
    | true =>
        have acted : trace.Settled := settled (by simp [playing])
        refine guides_bind (guides_maybePlayCached plays ?_ ?_)
        · exact fun after advances final => guides_pure (followed true after advances final)
        · exact fun after advances =>
            guides_pure (followed true after advances (acted.advances advances))
  · rw [followPlaying, if_neg changed]
    have acted : trace.Settled := settled (by rw [not_ne_iff.mp changed]; simp)
    refine guides_ask trivial ?_
    rintro (_ | _)
    · cases found : cached with
      | none => exact guides_pure (followed _ _ (.refl trace) acted)
      | some path =>
          refine guides_maybePlayCached (fun other same => plays other (found.trans same)) ?_ ?_
          · exact fun after advances final => followed true after advances final
          · exact fun after advances => followed false after advances (acted.advances advances)
    · exact guides_pure (followed _ _ (.refl trace) acted)

theorem guides_pollSameTrack {m : Monitor} {s : SpotifyState} {track : Track}
    {finish : Bool → Trace → Prop} (held : trace.held = some s) (reports : s.track = some track)
    (settled : (s.isPlaying || !m.lastPlaying) = true → trace.Settled)
    (followed : ∀ changed after, trace.Advances after → after.Settled → finish changed after) :
    trace.Guides (pollSameTrack m s track) finish := by
  have expects : trace.Guides (expectedProgress m) fun _ after => trace = after := by
    rw [expectedProgress]
    split
    · exact ⟨trivial, fun _ => rfl⟩
    · exact guides_pure rfl
  refine guides_bind (expects.mono ?_)
  rintro expected _ rfl
  refine guides_ask trivial fun cached => ?_
  have served := advances_serve trace track cached
  have plays (path : String) (found : cached = some path) (playing : s.isPlaying = true) :
      (trace.serve track cached).Plays path := plays_serve held reports found playing
  generalize decide (seekDriftMs < drift m s expected) = judged
  refine guides_bind (guides_followSeek plays fun middle sought => ?_)
  refine guides_followPlaying (fun path found playing => sought.plays (plays path found playing))
    (fun keeps => ((settled keeps).advances served).advances sought) ?_
  exact fun changed after advances => followed changed after ((served.trans sought).trans advances)

theorem guides_pollTrack {m before : Monitor} {s : SpotifyState} {track : Track}
    (begun : trace.poll = .begun before) (same_id : m.lastTrackId = before.lastTrackId)
    (same_playing : m.lastPlaying = before.lastPlaying) (reports : s.track = some track) :
    trace.Guides (pollTrack m s track) fun _ _ => True := by
  refine guides_writeCurrent begun fun wrote held written => ?_
  by_cases changed : m.lastTrackId ≠ some track.id
  · rw [if_pos changed]
    refine guides_bind (guides_switchTrack held reports fun after advances settled => ?_)
    exact guides_concludePoll (advances.written written settled) (advances.held.trans held) reports
  · rw [if_neg changed]
    have settled (keeps : (s.isPlaying || !m.lastPlaying) = true) : wrote.Settled := by
      rw [Settled, written, keepsShowing, ← same_id, ← same_playing, not_ne_iff.mp changed,
        reports, keeps]
      simp [PollPhase.settle]
    refine guides_bind (guides_pollSameTrack held reports settled ?_)
    intro _ after advances acted
    exact guides_concludePoll (advances.written written acted) (advances.held.trans held) reports

theorem guides_pollReport {m before : Monitor} (s : SpotifyState)
    (begun : trace.poll = .begun before) (same_id : m.lastTrackId = before.lastTrackId)
    (same_playing : m.lastPlaying = before.lastPlaying) :
    trace.Guides (pollReport m s) fun _ _ => True := by
  rw [pollReport]
  cases reports : s.track with
  | none => exact guides_pollNothing begun same_id
  | some track => exact guides_pollTrack begun same_id same_playing reports

theorem guides_spotifyMonitorPoll : discipline.start.Guides spotifyMonitorPoll fun _ _ => True := by
  refine guides_ask rfl fun m => guides_ask trivial ?_
  rintro (_ | _)
  · exact guides_pollReport {} rfl rfl rfl
  · refine guides_ask trivial fun polled => ?_
    cases polled with
    | none => exact ⟨Or.inl ⟨m, rfl, rfl, rfl⟩, fun _ => trivial⟩
    | some s => exact guides_pollReport s rfl rfl rfl

/-! ### Prepares and handlers -/

theorem guides_runPrepare (track : Track) :
    discipline.start.Guides (runPrepare track) fun _ _ => True := by
  refine guides_ask trivial fun prepared => ?_
  cases prepared with
  | none => exact guides_pure trivial
  | some path =>
      refine guides_ask rfl fun current => ?_
      cases current with
      | none => exact guides_pure trivial
      | some s =>
          cases reports : s.track with
          | none => simp only [reports]; exact guides_pure trivial
          | some other =>
              simp only [reports, Option.any_some]
              by_cases same : other.id = track.id
              · rw [if_pos (decide_eq_true same)]
                refine guides_ask trivial ?_
                rintro (_ | _)
                · refine guides_bind (guides_maybePlay ?_ (fun _ _ _ => trivial) fun _ _ => trivial)
                  intro playing
                  exact ⟨s, other, rfl, reports, playing, by simp [next, serve, same]⟩
                · exact guides_pure trivial
              · rw [if_neg (by simpa using same)]
                exact guides_pure trivial

theorem guides_fallBack (away : trace.poll = .away) :
    trace.Guides fallBack fun _ _ => True := by
  refine guides_ask away fun current => ?_
  cases current with
  | none => exact guides_pure trivial
  | some s =>
      cases reports : s.track with
      | none => simp only [reports]; exact guides_pure trivial
      | some track =>
          simp only [reports]
          exact guides_switchTrack rfl reports fun _ _ _ => trivial

theorem guides_disconnectTogedemon (away : trace.poll = .away) :
    trace.Guides disconnectTogedemon fun _ _ => True := by
  refine guides_ask trivial ?_
  rintro (_ | _)
  · exact guides_pure trivial
  · exact guides_ask rfl fun _ => guides_fallBack (by simp [next, away, PollPhase.settle])

theorem guides_handleTogedemonPush :
    discipline.start.Guides handleTogedemonPush fun _ _ => True := by
  refine guides_bind (guides_ask trivial ?_)
  rintro (_ | _)
  · exact guides_pure (guides_pure trivial)
  · refine guides_ask ⟨rfl, rfl⟩ fun _ => guides_ask ⟨rfl, rfl⟩ fun pipe => guides_pure ?_
    refine guides_ask trivial ?_
    rintro (_ | _) <;> exact guides_disconnectTogedemon rfl

theorem guides_handleAdminPlayer (enabled : Bool) :
    discipline.start.Guides (handleAdminPlayer enabled) fun _ _ => True := by
  refine guides_ask trivial ?_
  rintro (_ | _)
  · exact guides_pure trivial
  · cases enabled with
    | true => exact guides_startStreamIfPlaying rfl
    | false => exact guides_ask trivial fun _ => ⟨rfl, fun _ => trivial⟩

/-- Whatever starts a task, its text obeys the discipline. -/
theorem guides_accept {state after : AppState} {actor : Nat} {request : Request} {task : Task Unit}
    (accepted : state.accept actor request = some (task, after)) :
    discipline.start.Guides task fun _ _ => True := by
  cases request with
  | poll =>
      obtain ⟨-, rfl, -⟩ := Transition.of_guarded_answer accepted
      exact guides_spotifyMonitorPoll
  | prepare track =>
      obtain ⟨-, rfl, -⟩ := Transition.of_guarded_answer accepted
      exact guides_runPrepare track
  | push =>
      obtain ⟨rfl, -⟩ := Prod.mk.inj (Option.some.inj accepted)
      exact guides_handleTogedemonPush
  | player enabled =>
      obtain ⟨rfl, -⟩ := Prod.mk.inj (Option.some.inj accepted)
      exact guides_handleAdminPlayer enabled

end Trace

end Togewire.Server
