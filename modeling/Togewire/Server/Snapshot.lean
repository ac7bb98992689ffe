import Togewire.Server.Trace

/-!
# Acting on a report that has been replaced

Prepares and fallbacks read `state.current` and play on what they read, with the monitor free to
write the next report in between.  What is on air then fits the current report, unless a poll is
still between writing that report and acting on it, provided that nobody plays on a replaced report
and that no poll leaves a file on air because a togedemon is live.
-/

namespace Togewire.Server

open Interleaving Transition

/-- What of a report decides what should be on air. -/
def SpotifyState.gist (s : SpotifyState) : Option String × Bool :=
  (s.track.map Track.id, s.isPlaying)

namespace Snapshot

/-- What is on air is a file of the reported track, and the report says playing. -/
def Shows (state : AppState) : Prop :=
  ∃ s track path seekMs, state.current = some s ∧ s.track = some track ∧ s.isPlaying = true ∧
    state.streamManager.onAir = .file path seekMs ∧ (track.id, path) ∈ state.served

/-- A poll that has replaced the report and has neither stopped nor started the stream yet. -/
def pending : PollPhase → Bool
  | .written _ settled => !settled
  | _ => false

/-- A poll is between its write of the report and its stop or play. -/
def following (state : AppState) (traces : Nat → Trace) : Bool :=
  state.polling.any fun poll => pending (traces poll).poll

/-- A task plays a file only while the report it holds is the current one, as far as the track and
the playing flag go, or while a poll is about to act on the current one.  A poll that has replaced
the report and finds a togedemon live finds no file on air. -/
def ActsOnCurrent (state : AppState) (traces : Nat → Trace) (actor : Nat) (op : Op)
    (_ : Input) : Prop :=
  match op with
  | .playTrack _ _ =>
      state.current.map SpotifyState.gist = (traces actor).held.map SpotifyState.gist ∨
        following state traces = true
  | .togedemonLive .stop =>
      pending (traces actor).poll = true → state.togedemonCancel.isSome = true →
        state.streamManager.hasTrack = false
  | _ => True

instance (state : AppState) (traces : Nat → Trace) (actor : Nat) (op : Op) (input : Input) :
    Decidable (ActsOnCurrent state traces actor op input) := by
  cases op with
  | playTrack => exact inferInstanceAs (Decidable (_ ∨ _))
  | togedemonLive look =>
      cases look with
      | play => exact isTrue trivial
      | stop => exact inferInstanceAs (Decidable (_ → _ → _))
  | _ => exact isTrue trivial

/-- Unless a poll is between its write of the report and its stop or play, a file on air belongs to
the reported track, and the report says playing. -/
def FileFollowsReport (pool : Pool signature AppState Trace) : Prop :=
  following pool.shared pool.trace = false →
    pool.shared.streamManager.hasTrack = true → Shows pool.shared

/-- What a task knows about the shared state. -/
structure Informed (state : AppState) (actor : Nat) (trace : Trace) : Prop where
  found : trace.found ⊆ state.served
  away : trace.poll ≠ .away → state.polling = some actor
  idle : state.polling = some actor → trace.poll = .away → Synced state.current state.monitor
  begun : ∀ m, trace.poll = .begun m → Synced state.current m
  written : ∀ m settled, trace.poll = .written m settled → trace.held = state.current

/-- The invariant of all interleavings. -/
structure Coherent (state : AppState) (traces : Nat → Trace) : Prop where
  informed : ∀ task, Informed state task (traces task)
  resting : state.polling = none → Synced state.current state.monitor
  shows : state.streamManager.hasTrack = true → Shows state ∨ following state traces = true

variable {state after : AppState} {actor : Nat} {op : Op} {answer : op.Answer}
  {input : Input} {trace next : Trace} {traces : Nat → Trace}

/-! ### Frames -/

/-- The report and the monitor's variables have not changed. -/
structure Retains (before after : AppState) : Prop where
  current : after.current = before.current
  monitor : after.monitor = before.monitor
  polling : after.polling = before.polling
  served : before.served ⊆ after.served

theorem Retains.shows (retains : Retains state after)
    (stream : after.streamManager = state.streamManager) (shows : Shows state) : Shows after := by
  obtain ⟨s, track, path, seekMs, current, reports, playing, on_air, member⟩ := shows
  refine ⟨s, track, path, seekMs, ?_, reports, playing, ?_, retains.served member⟩
  · rw [retains.current, current]
  · rw [stream, on_air]

theorem Retains.informed (retains : Retains state after) (informed : Informed state actor trace)
    (found : next.found ⊆ after.served) (poll : next.poll = trace.poll)
    (held : next.held = trace.held ∨ trace.poll = .away) : Informed after actor next where
  found := found
  away := by rw [poll, retains.polling]; exact informed.away
  idle := by rw [poll, retains.polling, retains.current, retains.monitor]; exact informed.idle
  begun := by rw [poll, retains.current]; exact informed.begun
  written m settled wrote := by
    rw [poll] at wrote
    rcases held with same | away
    · rw [same, retains.current, informed.written m settled wrote]
    · simp [away] at wrote

theorem Informed.settle (informed : Informed state actor trace) (found : next.found = trace.found)
    (poll : next.poll = trace.poll.settle) (held : next.held = trace.held) :
    Informed state actor next where
  found := by rw [found]; exact informed.found
  away moved := by
    rw [poll] at moved
    refine informed.away fun away => moved ?_
    rw [away]
    rfl
  idle polling away := by
    rw [poll] at away
    refine informed.idle polling ?_
    cases phase : trace.poll with
    | away => rfl
    | begun | written => simp [phase, PollPhase.settle] at away
  begun m begun := by
    rw [poll] at begun
    refine informed.begun m ?_
    cases phase : trace.poll with
    | begun => simpa [phase, PollPhase.settle] using begun
    | away | written => simp [phase, PollPhase.settle] at begun
  written m settled wrote := by
    rw [poll] at wrote
    rw [held]
    cases phase : trace.poll with
    | written before acted => exact informed.written before acted phase
    | away | begun => simp [phase, PollPhase.settle] at wrote

/-- One task learns something, and nothing that the others know changes. -/
theorem Coherent.update (coherent : Coherent state traces) (retains : Retains state after)
    (informed : Informed after actor next)
    (shows : after.streamManager.hasTrack = true →
      Shows after ∨ following after (Function.update traces actor next) = true) :
    Coherent after (Function.update traces actor next) where
  informed := by
    refine (Function.forall_update_iff traces fun task trace => Informed after task trace).mpr
      ⟨informed, fun task _ => ?_⟩
    have before := coherent.informed task
    exact retains.informed before (List.Subset.trans before.found retains.served) rfl (Or.inl rfl)
  resting := by
    rw [retains.polling, retains.current, retains.monitor]
    exact coherent.resting
  shows := shows

theorem following_congr (polling : after.polling = state.polling)
    (same : state.polling = some actor → pending next.poll = pending (traces actor).poll) :
    following after (Function.update traces actor next) = following state traces := by
  rw [following, following, polling]
  cases running : state.polling with
  | none => rfl
  | some poll =>
      simp only [Option.any_some]
      by_cases mine : poll = actor
      · subst mine
        rw [Function.update_self, same running]
      · rw [Function.update_of_ne mine]

theorem Coherent.retain (coherent : Coherent state traces) (retains : Retains state after)
    (stream : after.streamManager = state.streamManager) (found : next.found ⊆ after.served)
    (poll : next.poll = (traces actor).poll)
    (held : next.held = (traces actor).held ∨ (traces actor).poll = .away) :
    Coherent after (Function.update traces actor next) := by
  refine coherent.update retains
    (retains.informed (coherent.informed actor) found poll held) fun on_air => ?_
  rw [stream] at on_air
  rw [following_congr retains.polling fun _ => congrArg pending poll]
  exact (coherent.shows on_air).imp (retains.shows stream) id

/-- The operations which touch neither the report nor the stream nor the monitor's variables, and
find no path. -/
def quiet : Op → Bool
  | .isAuthenticated | .getCurrentTrack | .elapsed | .isPreparing _ | .recentlyFailed _
  | .spawnPrepare _ | .playerEnabled | .setPlayerEnabled _ | .hasTrack | .takeSlot | .pump _
  | .releaseSlot | .dropTogedemon | .togedemonLive .play => true
  | _ => false

theorem next_of_quiet (trace : Trace) (answer : op.Answer) (untouched : quiet op = true) :
    (trace.next op answer).found = trace.found ∧ (trace.next op answer).poll = trace.poll ∧
      (trace.next op answer).held = trace.held := by
  cases op with
  | togedemonLive look =>
      cases look with
      | play => cases answer <;> exact ⟨rfl, rfl, rfl⟩
      | stop => cases untouched
  | pump | releaseSlot => cases answer <;> exact ⟨rfl, rfl, rfl⟩
  | readMonitor | endPoll | readCurrent | writeCurrent | getCachedPath | prepareTrack | playTrack
  | playLive | stop => cases untouched
  | _ => exact ⟨rfl, rfl, rfl⟩

theorem retains_of_quiet (untouched : quiet op = true)
    (performed : state.perform actor op input = some (answer, after)) :
    Retains state after ∧ after.streamManager = state.streamManager := by
  have refl (state : AppState) : state.served ⊆ state.served := List.Subset.refl _
  cases op with
  | readMonitor | endPoll | readCurrent | writeCurrent | getCachedPath | prepareTrack | playTrack
  | playLive | stop => cases untouched
  | pump =>
      obtain ⟨-, -, rfl⟩ := of_guarded_answer performed
      exact ⟨⟨rfl, rfl, rfl, refl _⟩, rfl⟩
  | takeSlot =>
      rw [AppState.perform, AppState.takeSlot, AppState.cancelSlot_eq] at performed
      obtain ⟨-, rfl⟩ := Prod.mk.inj (Option.some.inj performed)
      exact ⟨⟨rfl, rfl, rfl, refl _⟩, rfl⟩
  | dropTogedemon =>
      rw [AppState.perform, AppState.dropTogedemon, AppState.cancelSlot_eq] at performed
      obtain ⟨-, rfl⟩ := Prod.mk.inj (Option.some.inj performed)
      exact ⟨⟨rfl, rfl, rfl, refl _⟩, rfl⟩
  | releaseSlot =>
      rw [AppState.perform, AppState.releaseSlot] at performed
      split at performed
      all_goals
        obtain ⟨-, rfl⟩ := Prod.mk.inj (Option.some.inj performed)
        exact ⟨⟨rfl, rfl, rfl, refl _⟩, rfl⟩
  | _ =>
      obtain ⟨-, rfl⟩ := Prod.mk.inj (Option.some.inj performed)
      exact ⟨⟨rfl, rfl, rfl, refl _⟩, rfl⟩

/-! ### Steps -/

theorem coherent_of_quiet (coherent : Coherent state traces) (untouched : quiet op = true)
    (performed : state.perform actor op input = some (answer, after)) :
    Coherent after (Function.update traces actor ((traces actor).next op answer)) := by
  obtain ⟨retains, stream⟩ := retains_of_quiet untouched performed
  obtain ⟨found, poll, held⟩ := next_of_quiet (traces actor) answer untouched
  refine coherent.retain retains stream ?_ poll (Or.inl held)
  rw [found]
  exact List.Subset.trans (coherent.informed actor).found retains.served

theorem found_serve {track : Track} {path : Option String} (found : trace.found ⊆ state.served) :
    (trace.serve track path).found ⊆ (state.serve track path).served :=
  List.append_subset.mpr ⟨List.subset_append_left _ _,
    List.Subset.trans found (List.subset_append_right _ _)⟩

/-- A running poll that is not about to act leaves on air what fits the report. -/
theorem Coherent.shown (coherent : Coherent state traces) (running : state.polling = some actor)
    (acted : pending (traces actor).poll = false)
    (on_air : state.streamManager.hasTrack = true) : Shows state := by
  refine (coherent.shows on_air).resolve_right ?_
  simp [following, running, acted]

/-- No other task than the poll has come anywhere in a poll. -/
theorem Coherent.others (coherent : Coherent state traces) (running : state.polling = some actor)
    {task : Nat} (different : task ≠ actor) : (traces task).poll = .away := by
  by_contra moved
  have also := (coherent.informed task).away moved
  rw [running] at also
  exact different (Option.some.inj also).symm

theorem coherent_readMonitor (coherent : Coherent state traces)
    (away : (traces actor).poll = .away) (running : state.polling = some actor) :
    Coherent state
      (Function.update traces actor ((traces actor).next .readMonitor state.monitor)) := by
  have informed := coherent.informed actor
  refine coherent.update ⟨rfl, rfl, rfl, List.Subset.refl _⟩ ?_ fun on_air => ?_
  · refine ⟨informed.found, fun _ => running, ?_, ?_, ?_⟩
    · intro _ resting
      cases resting
    · intro m begun
      cases begun
      exact informed.idle running away
    · intro m settled wrote
      cases wrote
  · exact Or.inl (coherent.shown running (by rw [away]; rfl) on_air)

/-- What is rightly on air fits a new report of the same track that is not a pause. -/
theorem Shows.kept {m : Monitor} {current : Option SpotifyState} (shows : Shows state)
    (synced : Synced state.current m) (keeps : Trace.keepsShowing m current = true) :
    Shows { state with current := current } := by
  obtain ⟨s, track, path, seekMs, reported, reports, playing, on_air, member⟩ := shows
  rw [reported] at synced
  obtain ⟨known, knows, last_id, last_playing⟩ := synced
  obtain rfl : track = known := Option.some.inj (reports.symm.trans knows)
  cases current with
  | none => simp [Trace.keepsShowing, last_id] at keeps
  | some now =>
      simp only [Trace.keepsShowing, last_id, last_playing, playing, Bool.not_true, Bool.or_false,
        Bool.and_eq_true, decide_eq_true_eq, Option.map_eq_some_iff] at keeps
      obtain ⟨⟨other, still, same⟩, still_playing⟩ := keeps
      exact ⟨now, other, path, seekMs, rfl, still, still_playing, on_air, by rwa [same]⟩

/-- The poll replaces the report: what was rightly on air stays so, or the poll will act. -/
theorem coherent_writeCurrent (coherent : Coherent state traces) {m : Monitor}
    (begun : (traces actor).poll = .begun m) (current : Option SpotifyState) :
    Coherent { state with current := current }
      (Function.update traces actor ((traces actor).next (.writeCurrent current) ())) := by
  have informed := coherent.informed actor
  have running : state.polling = some actor := informed.away (by simp [begun])
  have phase : ((traces actor).next (.writeCurrent current) ()).poll =
      .written m (Trace.keepsShowing m current) := by
    simp [Trace.next, begun]
  refine ⟨?_, ?_, fun on_air => ?_⟩
  · refine (Function.forall_update_iff traces fun task trace => Informed _ task trace).mpr ⟨?_, ?_⟩
    · refine ⟨informed.found, fun _ => running, ?_, ?_, fun _ _ _ => rfl⟩
      · intro _ away
        simp [phase] at away
      · intro _ begun
        simp [phase] at begun
    · intro task different
      have away := coherent.others running different
      have resting := coherent.informed task
      refine ⟨resting.found, resting.away, ?_, ?_, ?_⟩
      · intro also
        rw [running] at also
        exact absurd (Option.some.inj also).symm different
      · simp [away]
      · simp [away]
  · intro resting
    simp [running] at resting
  · have shows := coherent.shown running (by rw [begun]; rfl) on_air
    cases keeps : Trace.keepsShowing m current with
    | true => exact Or.inl (shows.kept (informed.begun m begun) keeps)
    | false => exact Or.inr (by simp [following, running, phase, pending, keeps])

/-- The poll ends: the monitor's variables agree with the report. -/
theorem coherent_endPoll (coherent : Coherent state traces) {monitor : Monitor}
    (allowed : (traces actor).Allows (.endPoll monitor)) :
    Coherent { state with monitor := monitor, polling := none }
      (Function.update traces actor ((traces actor).next (.endPoll monitor) ())) := by
  have informed := coherent.informed actor
  obtain ⟨running, acted, synced⟩ : state.polling = some actor ∧
      pending (traces actor).poll = false ∧ Synced state.current monitor := by
    rcases allowed with ⟨m, begun, same_id, same_playing⟩ | ⟨m, written, synced⟩
    · refine ⟨informed.away (by simp [begun]), by rw [begun]; rfl, ?_⟩
      exact (informed.begun m begun).congr same_id same_playing
    · refine ⟨informed.away (by simp [written]), by rw [written]; rfl, ?_⟩
      rwa [← informed.written m true written]
  refine ⟨?_, fun _ => synced, fun on_air => Or.inl (coherent.shown running acted on_air)⟩
  refine (Function.forall_update_iff traces fun task trace => Informed _ task trace).mpr ⟨?_, ?_⟩
  · refine ⟨informed.found, ?_, ?_, ?_, ?_⟩ <;> simp [Trace.next]
  · intro task different
    have away := coherent.others running different
    refine ⟨(coherent.informed task).found, ?_, ?_, ?_, ?_⟩ <;> simp [away]

/-- The stream is switched by a task that thereby acts on what it wrote, if anything. -/
theorem Coherent.switch (coherent : Coherent state traces) (streamManager : Stream.Manager)
    (found : next.found = (traces actor).found) (held : next.held = (traces actor).held)
    (poll : next.poll = (traces actor).poll ∨ next.poll = (traces actor).poll.settle)
    (shows : streamManager.hasTrack = true →
      Shows { state with streamManager := streamManager } ∨
        following state (Function.update traces actor next) = true) :
    Coherent { state with streamManager := streamManager } (Function.update traces actor next) := by
  have informed := coherent.informed actor
  have retains : Retains state { state with streamManager := streamManager } :=
    ⟨rfl, rfl, rfl, List.Subset.refl _⟩
  refine coherent.update retains ?_ shows
  rcases poll with same | settled
  · exact retains.informed informed (by rw [found]; exact informed.found) same (Or.inl held)
  · have acted := informed.settle found settled held
    exact retains.informed acted acted.found rfl (Or.inl rfl)

theorem shows_of_plays {path : String} {seekMs : Int} (informed : Informed state actor trace)
    (plays : trace.Plays path)
    (current : state.current.map SpotifyState.gist = trace.held.map SpotifyState.gist) :
    Shows { state with streamManager := state.streamManager.playTrack path seekMs } := by
  obtain ⟨s, track, held, reports, playing, member⟩ := plays
  rw [held, Option.map_some, Option.map_eq_some_iff] at current
  obtain ⟨now, reported, same⟩ := current
  obtain ⟨same_id, same_playing⟩ := Prod.mk.inj same
  rw [reports, Option.map_some, Option.map_eq_some_iff] at same_id
  obtain ⟨other, reports_now, same_id⟩ := same_id
  refine ⟨now, other, path, seekMs, reported, reports_now, same_playing.trans playing, by simp, ?_⟩
  rw [same_id]
  exact informed.found member

theorem coherent_playTrack (coherent : Coherent state traces) {path : String} {seekMs : Int}
    (plays : (traces actor).Plays path)
    (permitted : ActsOnCurrent state traces actor (.playTrack path seekMs) input) :
    Coherent { state with streamManager := state.streamManager.playTrack path seekMs }
      (Function.update traces actor ((traces actor).next (.playTrack path seekMs) ())) := by
  have informed := coherent.informed actor
  refine coherent.switch _ rfl rfl (Or.inr rfl) fun _ => ?_
  rcases permitted with current | awaited
  · exact Or.inl (shows_of_plays informed plays current)
  · obtain ⟨poll, running, acting⟩ := (Option.any_eq_true _ _).mp awaited
    by_cases mine : poll = actor
    · subst mine
      cases phase : (traces poll).poll with
      | away | begun => simp [phase, pending] at acting
      | written m settled =>
          refine Or.inl (shows_of_plays informed plays ?_)
          rw [informed.written m settled phase]
    · refine Or.inr ?_
      rw [following_congr rfl, awaited]
      intro also
      rw [running] at also
      exact absurd (Option.some.inj also) mine

/-- A poll that will not act after all found nothing on air. -/
theorem coherent_look (coherent : Coherent state traces) {live : Bool}
    (answered : live = state.togedemonCancel.isSome)
    (permitted : ActsOnCurrent state traces actor (.togedemonLive .stop) input) :
    Coherent (state.see actor)
      (Function.update traces actor ((traces actor).next (.togedemonLive .stop) live)) := by
  have informed := coherent.informed actor
  have retains : Retains state (state.see actor) := ⟨rfl, rfl, rfl, List.Subset.refl _⟩
  cases live with
  | false => exact coherent.retain retains rfl informed.found rfl (Or.inl rfl)
  | true =>
      have acted : Informed state actor ((traces actor).next (.togedemonLive .stop) true) :=
        informed.settle rfl rfl rfl
      refine coherent.update retains
        (retains.informed acted acted.found rfl (Or.inl rfl)) fun on_air => ?_
      by_cases acting : pending (traces actor).poll = true
      · have silent := permitted acting answered.symm
        rw [show (state.see actor).streamManager = state.streamManager from rfl, silent] at on_air
        cases on_air
      · refine (coherent.shows on_air).imp (retains.shows rfl) fun awaited => ?_
        refine (following_congr rfl fun _ => ?_).trans awaited
        cases phase : (traces actor).poll with
        | away | begun => simp [Trace.next, phase, PollPhase.settle]
        | written m settled =>
            simp [phase, pending] at acting
            simp [Trace.next, phase, PollPhase.settle, acting]

theorem coherent_perform (coherent : Coherent state traces) (allowed : (traces actor).Allows op)
    (permitted : ActsOnCurrent state traces actor op input)
    (performed : state.perform actor op input = some (answer, after)) :
    Coherent after (Function.update traces actor ((traces actor).next op answer)) := by
  have informed := coherent.informed actor
  cases op with
  | readMonitor =>
      obtain ⟨running, rfl, rfl⟩ := of_guarded_answer performed
      exact coherent_readMonitor coherent allowed running
  | endPoll monitor =>
      obtain ⟨-, rfl⟩ := Prod.mk.inj (Option.some.inj performed)
      exact coherent_endPoll coherent allowed
  | readCurrent =>
      obtain ⟨rfl, rfl⟩ := Prod.mk.inj (Option.some.inj performed)
      exact coherent.retain ⟨rfl, rfl, rfl, List.Subset.refl _⟩ rfl informed.found rfl
        (Or.inr allowed)
  | writeCurrent current =>
      obtain ⟨-, rfl⟩ := Prod.mk.inj (Option.some.inj performed)
      obtain ⟨m, begun⟩ := allowed
      exact coherent_writeCurrent coherent begun current
  | getCachedPath track =>
      obtain ⟨rfl, rfl⟩ := Prod.mk.inj (Option.some.inj performed)
      exact coherent.retain ⟨rfl, rfl, rfl, List.subset_append_right _ _⟩ rfl
        (found_serve informed.found) rfl (Or.inl rfl)
  | prepareTrack track =>
      obtain ⟨rfl, rfl⟩ := Prod.mk.inj (Option.some.inj performed)
      exact coherent.retain ⟨rfl, rfl, rfl, List.subset_append_right _ _⟩ rfl
        (found_serve informed.found) rfl (Or.inl rfl)
  | playTrack path seekMs =>
      obtain ⟨-, rfl⟩ := Prod.mk.inj (Option.some.inj performed)
      exact coherent_playTrack coherent allowed.2 permitted
  | playLive =>
      obtain ⟨-, rfl⟩ := Prod.mk.inj (Option.some.inj performed)
      exact coherent.switch _ rfl rfl (Or.inl rfl) fun on_air => by cases on_air
  | stop =>
      obtain ⟨-, rfl⟩ := Prod.mk.inj (Option.some.inj performed)
      exact coherent.switch _ rfl rfl (Or.inr rfl) fun on_air => by cases on_air
  | togedemonLive look =>
      cases look with
      | play => exact coherent_of_quiet coherent rfl performed
      | stop =>
          obtain ⟨answered, rfl⟩ := Prod.mk.inj (Option.some.inj performed)
          exact coherent_look coherent answered.symm permitted
  | _ => exact coherent_of_quiet coherent rfl performed

theorem Coherent.frame (coherent : Coherent state traces) (retains : Retains state after)
    (stream : after.streamManager = state.streamManager) : Coherent after traces := by
  have found := List.Subset.trans (coherent.informed 0).found retains.served
  have same : Coherent after (Function.update traces 0 (traces 0)) :=
    coherent.retain retains stream found rfl (Or.inl rfl)
  rwa [Function.update_eq_self] at same

theorem coherent_accept {request : Request} {task : Task Unit} (coherent : Coherent state traces)
    (accepted : state.accept actor request = some (task, after)) : Coherent after traces := by
  cases request with
  | poll =>
      obtain ⟨resting, -, rfl⟩ := of_guarded_answer accepted
      have away (task : Nat) : (traces task).poll = .away := by
        by_contra moved
        have polling := (coherent.informed task).away moved
        simp [resting] at polling
      refine ⟨fun task => ?_, by simp, fun on_air => Or.inl ?_⟩
      · refine ⟨(coherent.informed task).found, ?_, ?_, ?_, ?_⟩
        · simp [away]
        · exact fun _ _ => coherent.resting resting
        · simp [away]
        · simp [away]
      · exact (coherent.shows on_air).resolve_right (by simp [following, resting])
  | prepare track =>
      obtain ⟨-, -, rfl⟩ := of_guarded_answer accepted
      exact coherent.frame ⟨rfl, rfl, rfl, List.Subset.refl _⟩ rfl
  | push =>
      obtain ⟨-, rfl⟩ := Prod.mk.inj (Option.some.inj accepted)
      exact coherent
  | player enabled =>
      obtain ⟨-, rfl⟩ := Prod.mk.inj (Option.some.inj accepted)
      exact coherent

theorem safe : machine.Safe Trace.discipline ActsOnCurrent Coherent where
  initial := by
    rintro state ⟨cache, playerEnabled, authenticated, now, rfl⟩
    refine ⟨fun task => ?_, fun _ => rfl, fun on_air => by cases on_air⟩
    refine ⟨List.Subset.refl _, ?_, ?_, ?_, ?_⟩ <;> simp [Trace.discipline, AppState.createServer]
  accept state traces actor request program after coherent _ accepted :=
    ⟨coherent_accept coherent accepted, Trace.guides_accept accepted⟩
  perform state traces actor op input answer after coherent allowed permitted performed :=
    coherent_perform coherent allowed permitted performed
  outside := by
    intro state traces change after coherent changed
    obtain rfl := Option.some.inj changed
    cases change <;> exact coherent.frame ⟨rfl, rfl, rfl, List.Subset.refl _⟩ rfl

/-- All interleavings of polls, prepares, connections and the player switch. -/
abbrev system := machine.system Trace.discipline

/-- If nobody plays on a replaced report and no poll leaves a file on air to a live togedemon, the
file on air follows the report. -/
theorem file_follows_report {pool : Pool signature AppState Trace}
    (reach : system.ReachableUnder (Machine.Permits ActsOnCurrent) pool) :
    FileFollowsReport pool := by
  intro settled on_air
  have coherent := (safe.guarded reach).holds
  refine (coherent.shows on_air).resolve_right ?_
  rw [settled]
  exact Bool.false_ne_true

/-- A number of operations of one task. -/
def advance (count actor : Nat) (input : Input) : List (PoolEvent Request Input Change) :=
  List.replicate count (.advance actor input)

def playing : Input :=
  { polled := some { track := some { id := "a" }, isPlaying := true }, prepared := some "a.ogg" }

def paused : Input := { polled := some { track := some { id := "a" } } }

/-- A track is reported as playing, and its prepare comes to hold the report. -/
def prepared : List (PoolEvent Request Input Change) :=
  [.start .poll] ++ advance 12 0 playing ++ [.start (.prepare { id := "a" })] ++
    advance 2 1 playing ++ [.outside (.cache oneEntry)]

/-- Nothing happens before the prepare plays it. -/
theorem prepared_shows :
    let pool := system.final (bareServer Trace.discipline) (prepared ++ advance 4 1 playing) rfl
    pool.shared.streamManager.hasTrack = true ∧ FileFollowsReport pool :=
  ⟨rfl, file_follows_report (System.ReachableUnder.final (bareServer_initial _) (by decide) rfl)⟩

/-- If the track is paused before the prepare plays it, it plays on with every task at its end. -/
theorem paused_track_plays :
    ¬ ∀ pool, system.Reachable pool → (∀ task, pool.task task = .done ()) →
      FileFollowsReport pool := by
  intro follows
  have reach : system.Reachable
      (system.final (bareServer Trace.discipline)
        (prepared ++ [.start .poll] ++ advance 10 2 paused ++ advance 4 1 playing) rfl) :=
    System.reachable_final (bareServer_initial _) _ rfl
  obtain ⟨s, track, path, seekMs, current, -, playing, -⟩ := follows _ reach
    (fun task => match task with
      | 0 => rfl
      | 1 => rfl
      | 2 => rfl
      | _ + 3 => rfl) rfl rfl
  obtain rfl := Option.some.inj current
  cases playing

end Snapshot

end Togewire.Server
