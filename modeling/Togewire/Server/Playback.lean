import Togewire.Server.Workers

/-!
# Playback with one task at a time

Each task runs to its end before the next one starts.  What is on air then always fits the last
poll, and a poll that finds the current track cached leaves it on air.  Both rest on the monitor's
local variables agreeing with `state.current` between polls: a change of either the track or the
playing flag is seen by comparing with the last poll, and everything else leaves the stream as the
last poll's track requires.  The one exception is a player switch-off whose save fails: it takes
effect in memory and returns before it stops the stream.
-/

namespace Togewire.Server

open Interleaving Transition

namespace AppState

/-- A cached file is on air that was served for a track, with the player on and no togedemon. -/
structure Airs (state : AppState) (trackId : String) : Prop where
  free : state.togedemonCancel = none
  enabled : state.playerEnabled = true
  file : ∃ path seekMs, state.streamManager.onAir = .file path seekMs ∧
    (trackId, path) ∈ state.served

/-- What is on air fits a report of a track. -/
def Fits (state : AppState) (isPlaying : Bool) (trackId : String) : Prop :=
  state.streamManager.hasTrack = true → isPlaying = true ∧ state.Airs trackId

/-- A playing track which is cached is on air, unless something forbids it. -/
def Lively (state : AppState) (isPlaying : Bool) (trackId : String) : Prop :=
  isPlaying = true → state.playerEnabled = true → state.togedemonCancel = none →
    state.cache.holds trackId = true → state.streamManager.hasTrack = true

/-- Something stands in the way of putting a track on air. -/
def Barred (state : AppState) (isPlaying : Bool) (trackId : String) : Prop :=
  isPlaying = true → state.playerEnabled = true → state.togedemonCancel = none →
    state.cache.holds trackId = false

theorem Barred.lively {state : AppState} {isPlaying : Bool} {trackId : String}
    (barred : state.Barred isPlaying trackId) : state.Lively isPlaying trackId := by
  intro playing enabled free held
  rw [barred playing enabled free] at held
  exact absurd held Bool.false_ne_true

theorem barred_of_missing {state : AppState} {isPlaying : Bool} {trackId : String}
    (missing : state.cache.holds trackId ≠ true) : state.Barred isPlaying trackId :=
  fun _ _ _ => Bool.eq_false_iff.mpr missing

/-- Nothing that decides playback has changed but the stream, and no further track is cached. -/
structure Steers (before after : AppState) : Prop where
  current : after.current = before.current
  togedemonCancel : after.togedemonCancel = before.togedemonCancel
  playerEnabled : after.playerEnabled = before.playerEnabled
  monitor : after.monitor = before.monitor
  served : before.served ⊆ after.served
  cached : ∀ id, after.cache.holds id = true → before.cache.holds id = true

/-- Not even the stream has changed. -/
structure Keeps (before after : AppState) : Prop extends Steers before after where
  streamManager : after.streamManager = before.streamManager

theorem Steers.refl (state : AppState) : state.Steers state :=
  ⟨rfl, rfl, rfl, rfl, List.Subset.refl _, fun _ held => held⟩

theorem Steers.trans {first second third : AppState} (earlier : first.Steers second)
    (later : second.Steers third) : first.Steers third where
  current := later.current.trans earlier.current
  togedemonCancel := later.togedemonCancel.trans earlier.togedemonCancel
  playerEnabled := later.playerEnabled.trans earlier.playerEnabled
  monitor := later.monitor.trans earlier.monitor
  served := List.Subset.trans earlier.served later.served
  cached id held := earlier.cached id (later.cached id held)

theorem Steers.barred {before after : AppState} {isPlaying : Bool} {trackId : String}
    (steers : before.Steers after) (barred : before.Barred isPlaying trackId) :
    after.Barred isPlaying trackId := by
  intro playing enabled free
  rw [steers.playerEnabled] at enabled
  rw [steers.togedemonCancel] at free
  have uncached := barred playing enabled free
  exact Bool.eq_false_iff.mpr fun held =>
    Bool.false_ne_true (uncached.symm.trans (steers.cached trackId held))

theorem Keeps.refl (state : AppState) : state.Keeps state := ⟨.refl state, rfl⟩

theorem Keeps.trans {first second third : AppState} (earlier : first.Keeps second)
    (later : second.Keeps third) : first.Keeps third :=
  ⟨earlier.toSteers.trans later.toSteers, later.streamManager.trans earlier.streamManager⟩

theorem Keeps.airs {before after : AppState} {trackId : String} (keeps : before.Keeps after)
    (airs : before.Airs trackId) : after.Airs trackId := by
  obtain ⟨path, seekMs, on_air, member⟩ := airs.file
  refine ⟨keeps.togedemonCancel.trans airs.free, keeps.playerEnabled.trans airs.enabled, path,
    seekMs, ?_, keeps.served member⟩
  rw [keeps.streamManager]
  exact on_air

theorem Keeps.fits {before after : AppState} {isPlaying : Bool} {trackId : String}
    (keeps : before.Keeps after) (fits : before.Fits isPlaying trackId) :
    after.Fits isPlaying trackId := by
  intro on_air
  rw [keeps.streamManager] at on_air
  exact ⟨(fits on_air).1, keeps.airs (fits on_air).2⟩

theorem Keeps.lively {before after : AppState} {isPlaying : Bool} {trackId : String}
    (keeps : before.Keeps after) (lively : before.Lively isPlaying trackId) :
    after.Lively isPlaying trackId := by
  intro playing enabled free held
  rw [keeps.streamManager]
  rw [keeps.playerEnabled] at enabled
  rw [keeps.togedemonCancel] at free
  exact lively playing enabled free (keeps.cached trackId held)

theorem steers_switch (state : AppState) (streamManager : Stream.Manager) :
    state.Steers { state with streamManager := streamManager } :=
  ⟨rfl, rfl, rfl, rfl, List.Subset.refl _, fun _ held => held⟩

theorem keeps_see (state : AppState) (actor : Nat) : state.Keeps (state.see actor) :=
  ⟨⟨rfl, rfl, rfl, rfl, List.Subset.refl _, fun _ held => held⟩, rfl⟩

theorem keeps_spawn (state : AppState) (spawned : List Track) :
    state.Keeps { state with spawned := spawned } :=
  ⟨⟨rfl, rfl, rfl, rfl, List.Subset.refl _, fun _ held => held⟩, rfl⟩

theorem keeps_getCachedPath (state : AppState) (track : Track) :
    state.Keeps (state.getCachedPath track).2 where
  current := rfl
  streamManager := rfl
  togedemonCancel := rfl
  playerEnabled := rfl
  monitor := rfl
  served := List.subset_append_right _ _
  cached _ held := Cache.Manager.holds_of_getPath held

/-- A path the cache returns has been served for its track. -/
theorem served_of_getCachedPath {state : AppState} {track : Track} {path : String}
    (found : (state.getCachedPath track).1 = some path) :
    (track.id, path) ∈ (state.getCachedPath track).2.served := by
  have found_path : (state.cache.getPath track.id state.now).1 = some path := found
  simp [getCachedPath, serve, found_path]

/-- The task of one actor yields an outcome when it runs alone. -/
abbrev Runs {α : Type} (state : AppState) (actor : Nat) (input : Input) (task : Task α)
    (post : α → AppState → Prop) : Prop :=
  task.Yields (fun shared op => shared.perform actor op input) state post

variable {state : AppState} {actor : Nat} {input : Input}

theorem runs_pure {α : Type} {result : α} {post : α → AppState → Prop} (holds : post result state) :
    state.Runs actor input (pure result) post :=
  (Program.yields_pure _ _ _).mpr holds

theorem runs_bind {α β : Type} {task : Task α} {next : α → Task β} {post : β → AppState → Prop}
    (runs : state.Runs actor input task fun result after =>
      after.Runs actor input (next result) post) :
    state.Runs actor input (task >>= next) post :=
  (Program.yields_bind _ _ _ _).mpr runs

/-- One operation, and then the rest of the task. -/
theorem runs_ask {α : Type} {op : Op} {next : op.Answer → Task α} {post : α → AppState → Prop}
    {reply : op.Answer} {after : AppState}
    (answered : state.perform actor op input = some (reply, after))
    (runs : after.Runs actor input (next reply) post) :
    state.Runs actor input (ask op >>= next) post :=
  runs_bind (Program.yields_perform answered runs)

/-- A cache lookup changes nothing that decides playback, and a path it returns has been served. -/
theorem runs_getCachedPath {α : Type} {track : Track} {next : Option String → Task α}
    {post : α → AppState → Prop}
    (runs : ∀ path after, state.Keeps after → path.isSome = state.cache.holds track.id →
      (∀ filePath, path = some filePath → (track.id, filePath) ∈ after.served) →
        after.Runs actor input (next path) post) :
    state.Runs actor input (Server.getCachedPath track >>= next) post := by
  have answered : state.perform actor (.getCachedPath track) input =
      some (state.getCachedPath track) := rfl
  exact runs_ask answered (runs _ _ (keeps_getCachedPath state track)
    (Cache.Manager.getPath_isSome _ _ _) fun _ => served_of_getCachedPath)

/-! ### Starting and stopping the stream -/

/-- `maybe_play` plays exactly when a playing state meets an enabled player and a free slot. -/
theorem runs_maybePlay {path : String} {s : SpotifyState} {post : Bool → AppState → Prop}
    (plays : s.isPlaying = true → state.togedemonCancel = none → state.playerEnabled = true →
      ∀ after seekMs, state.Steers after →
        after.streamManager = state.streamManager.playTrack path seekMs → post true after)
    (passes : (s.isPlaying = true → state.togedemonCancel = none → state.playerEnabled = false) →
      ∀ after, state.Keeps after → post false after) :
    state.Runs actor input (maybePlay path s) post := by
  unfold maybePlay
  cases playing : s.isPlaying with
  | false => exact runs_pure (passes (by simp [playing]) _ (.refl _))
  | true =>
      refine runs_ask rfl ?_
      cases slot : state.togedemonCancel with
      | some holder => exact runs_pure (passes (by simp [slot]) _ (keeps_see _ _))
      | none =>
          refine runs_ask rfl ?_
          cases enabled : (state.see actor).playerEnabled with
          | false => exact runs_pure (passes (fun _ _ => enabled) _ (keeps_see _ _))
          | true =>
              refine runs_ask rfl (runs_pure ?_)
              have seen := (keeps_see state actor).toSteers
              exact plays playing slot enabled _ _ (seen.trans (steers_switch _ _)) rfl

/-- Trying to play what the cache returned for a track puts it on air or finds it barred. -/
theorem runs_maybePlayCached {path : Option String} {s : SpotifyState} {trackId : String}
    {post : Bool → AppState → Prop}
    (served : ∀ filePath, path = some filePath → (trackId, filePath) ∈ state.served)
    (found : state.cache.holds trackId = true → path.isSome)
    (plays : s.isPlaying = true → ∀ after, state.Steers after → after.Airs trackId →
      after.streamManager.hasTrack = true → post true after)
    (passes : ∀ after, state.Keeps after → after.Barred s.isPlaying trackId → post false after) :
    state.Runs actor input (maybePlayCached path s) post := by
  cases path with
  | none =>
      have missing : state.cache.holds trackId ≠ true := fun held => nomatch found held
      exact runs_pure (passes state (.refl state) (barred_of_missing missing))
  | some filePath =>
      refine runs_maybePlay ?_ ?_
      · intro playing free enabled after seekMs steers on_air
        refine plays playing after steers ⟨steers.togedemonCancel.trans free,
          steers.playerEnabled.trans enabled, filePath, seekMs, ?_, ?_⟩ ?_
        · rw [on_air, Stream.Manager.playTrack_onAir]
        · exact steers.served (served filePath rfl)
        · rw [on_air, Stream.Manager.playTrack_hasTrack]
      · intro off after keeps
        refine passes after keeps ?_
        intro playing enabled free
        rw [keeps.togedemonCancel] at free
        rw [keeps.playerEnabled, off playing free] at enabled
        exact absurd enabled Bool.false_ne_true

/-- While a live togedemon excludes a file, nothing is on air after `stop_unless_live`. -/
theorem runs_stopUnlessLive {post : Unit → AppState → Prop}
    (quiet : state.togedemonCancel ≠ none → state.streamManager.hasTrack = false)
    (stops : ∀ after, state.Steers after → after.streamManager.hasTrack = false → post () after) :
    state.Runs actor input stopUnlessLive post := by
  refine runs_ask rfl ?_
  cases slot : state.togedemonCancel with
  | some holder => exact runs_pure (stops _ (keeps_see _ _).toSteers (quiet (by simp [slot])))
  | none =>
      have seen := (keeps_see state actor).toSteers
      exact Program.yields_perform rfl (stops _ (seen.trans (steers_switch _ _)) rfl)

/-- What a task that decides about the stream leaves for a reported track. -/
structure Decided (before : AppState) (isPlaying : Bool) (trackId : String) (after : AppState) :
    Prop extends Steers before after where
  fits : after.Fits isPlaying trackId
  lively : after.Lively isPlaying trackId

theorem fits_of_silent {isPlaying : Bool} {trackId : String}
    (silent : state.streamManager.hasTrack = false) : state.Fits isPlaying trackId := by
  intro on_air
  rw [silent] at on_air
  exact absurd on_air Bool.false_ne_true

/-- Switching to a track leaves it on air, or silence. -/
theorem runs_switchTrack (s : SpotifyState) (track : Track) {post : Unit → AppState → Prop}
    (quiet : state.togedemonCancel ≠ none → state.streamManager.hasTrack = false)
    (switches : ∀ after, Decided state s.isPlaying track.id after → post () after) :
    state.Runs actor input (switchTrack s track) post := by
  refine runs_getCachedPath fun path looked kept found served => runs_bind ?_
  refine runs_maybePlayCached served ?_ ?_ ?_
  · intro held
    rw [found]
    exact kept.cached _ held
  · intro playing after steers airs on_air
    exact runs_pure (switches after ⟨kept.toSteers.trans steers, fun _ => ⟨playing, airs⟩,
      fun _ _ _ _ => on_air⟩)
  · intro after keeps barred
    have untouched := kept.trans keeps
    refine runs_stopUnlessLive ?_ ?_
    · intro occupied
      rw [untouched.streamManager]
      exact quiet (by rwa [untouched.togedemonCancel] at occupied)
    · intro final steers silent
      exact switches final ⟨untouched.toSteers.trans steers, fits_of_silent silent,
        (steers.barred barred).lively⟩

/-! ### Prepares leave the stream alone -/

theorem runs_prepareCurrent (track : Track) {post : Unit → AppState → Prop}
    (leaves : ∀ after, state.Keeps after → post () after) :
    state.Runs actor input (prepareCurrent track) post := by
  refine runs_getCachedPath fun path looked kept _ _ => ?_
  cases path with
  | some filePath => exact runs_pure (leaves looked kept)
  | none =>
      refine runs_ask rfl ?_
      split
      · exact runs_pure (leaves looked kept)
      · refine runs_ask rfl ?_
        split
        · exact runs_pure (leaves looked kept)
        · refine Program.yields_perform rfl (leaves _ ?_)
          exact kept.trans (keeps_spawn _ _)

theorem runs_prefetchNext (current : Track) (next : Option Track) {post : Unit → AppState → Prop}
    (leaves : ∀ after, state.Keeps after → post () after) :
    state.Runs actor input (prefetchNext current next) post := by
  cases next with
  | none => exact runs_pure (leaves state (.refl state))
  | some next =>
      have prefetch : ∀ looked, state.Keeps looked → looked.Runs actor input
          (prepareCurrent next) post := fun looked kept =>
        runs_prepareCurrent next fun after keeps => leaves after (kept.trans keeps)
      refine runs_bind (runs_getCachedPath fun cached looked kept _ _ => ?_)
      cases cached with
      | some filePath => exact runs_pure (prefetch looked kept)
      | none =>
          refine Program.yields_perform rfl ?_
          split
          · exact prefetch looked kept
          · exact runs_pure (leaves looked kept)

/-! ### The monitor -/

/-- The outcome of a poll that reported a track. -/
structure Reported (s : SpotifyState) (track : Track) (after : AppState) : Prop where
  current : after.current = some s
  fits : after.Fits s.isPlaying track.id
  lively : after.Lively s.isPlaying track.id
  lastTrackId : after.monitor.lastTrackId = some track.id
  lastPlaying : after.monitor.lastPlaying = s.isPlaying

/-- The end of a poll keeps what was decided and remembers the report. -/
theorem runs_concludePoll (m : Monitor) {s : SpotifyState} {track : Track}
    (current : state.current = some s) (fits : state.Fits s.isPlaying track.id)
    (lively : state.Lively s.isPlaying track.id) :
    state.Runs actor input (concludePoll m s track) fun _ => Reported s track := by
  refine runs_bind (runs_prefetchNext _ _ fun prefetched first => ?_)
  refine runs_bind (runs_prepareCurrent _ fun prepared second => ?_)
  have keeps := first.trans second
  refine Program.yields_perform rfl ⟨keeps.current.trans current, ?_, keeps.lively lively, rfl, rfl⟩
  intro on_air
  obtain ⟨playing, airs⟩ := keeps.fits fits on_air
  exact ⟨playing, airs.free, airs.enabled, airs.file⟩

/-- After a seek the stream either plays the track or is as it was. -/
theorem runs_followSeek {cached : Option String} {s : SpotifyState} {trackId : String}
    (sought : Bool)
    (served : ∀ filePath, cached = some filePath → (trackId, filePath) ∈ state.served)
    (found : state.cache.holds trackId = true → cached.isSome) {post : Unit → AppState → Prop}
    (plays : s.isPlaying = true → ∀ after, state.Steers after → after.Airs trackId → post () after)
    (passes : ∀ after, state.Keeps after → post () after) :
    state.Runs actor input (followSeek cached s sought) post := by
  cases sought with
  | false => exact runs_pure (passes state (.refl state))
  | true =>
      refine runs_bind (runs_maybePlayCached served found ?_ ?_)
      · intro playing after steers airs _
        exact runs_pure (plays playing after steers airs)
      · intro after keeps _
        exact runs_pure (passes after keeps)

/-- What is on air from a poll before still fits, unless the track has been paused since. -/
theorem Keeps.followed {before after : AppState} {isPlaying lastPlaying : Bool} {trackId : String}
    (keeps : before.Keeps after)
    (fits : before.streamManager.hasTrack = true →
      (isPlaying = true ∨ lastPlaying = true) ∧ before.Airs trackId)
    (unpaused : isPlaying = true ∨ isPlaying = lastPlaying) : after.Fits isPlaying trackId := by
  intro on_air
  rw [keeps.streamManager] at on_air
  obtain ⟨either, airs⟩ := fits on_air
  refine ⟨?_, keeps.airs airs⟩
  rcases unpaused with playing | unchanged
  · exact playing
  · rcases either with playing | last
    · exact playing
    · exact unchanged.trans last

/-- Trying to play what the cache returned leaves the track on air, or what fitted it before. -/
theorem runs_decideCached {cached : Option String} {s : SpotifyState} {trackId : String}
    (served : ∀ filePath, cached = some filePath → (trackId, filePath) ∈ state.served)
    (found : state.cache.holds trackId = true → cached.isSome)
    (kept : ∀ after, state.Keeps after → after.Fits s.isPlaying trackId) :
    state.Runs actor input (maybePlayCached cached s) fun _ =>
      Decided state s.isPlaying trackId := by
  refine runs_maybePlayCached served found ?_ ?_
  · intro playing after steers airs plays
    exact ⟨steers, fun _ => ⟨playing, airs⟩, fun _ _ _ _ => plays⟩
  · intro after keeps barred
    exact ⟨keeps.toSteers, kept after keeps, barred.lively⟩

/-- Following the playing flag leaves the track on air, or silence. -/
theorem runs_followPlaying (m : Monitor) {cached : Option String} {s : SpotifyState}
    {trackId : String} (sought : Bool)
    (served : ∀ filePath, cached = some filePath → (trackId, filePath) ∈ state.served)
    (found : state.cache.holds trackId = true → cached.isSome)
    (fits : state.streamManager.hasTrack = true →
      (s.isPlaying = true ∨ m.lastPlaying = true) ∧ state.Airs trackId) :
    state.Runs actor input (followPlaying m cached s sought) fun _ =>
      Decided state s.isPlaying trackId := by
  unfold followPlaying
  by_cases unchanged : s.isPlaying = m.lastPlaying
  · have kept (after : AppState) (keeps : state.Keeps after) : after.Fits s.isPlaying trackId :=
      keeps.followed fits (Or.inr unchanged)
    rw [if_neg (by simp [unchanged])]
    refine runs_ask rfl ?_
    cases on_air : state.streamManager.hasTrack with
    | true => exact runs_pure ⟨.refl state, kept state (.refl state), fun _ _ _ _ => on_air⟩
    | false =>
        cases cached with
        | none =>
            have missing : state.cache.holds trackId ≠ true := fun held => nomatch found held
            exact runs_pure ⟨.refl state, fits_of_silent on_air,
              (barred_of_missing missing).lively⟩
        | some filePath => exact runs_decideCached served found kept
  · rw [if_pos unchanged]
    by_cases playing : s.isPlaying = true
    · rw [if_pos playing]
      have kept (after : AppState) (keeps : state.Keeps after) : after.Fits s.isPlaying trackId :=
        keeps.followed fits (Or.inl playing)
      refine runs_bind ((runs_decideCached served found kept).mono ?_)
      exact fun _ after decided => runs_pure decided
    · rw [if_neg playing]
      refine runs_bind (runs_stopUnlessLive ?_ ?_)
      · intro occupied
        by_contra on_air
        exact occupied (fits (by simpa using on_air)).2.free
      · intro after steers silent
        refine runs_pure ⟨steers, fits_of_silent silent, ?_⟩
        exact Barred.lively fun resumed => absurd resumed playing

theorem Decided.after {before middle after : AppState} {isPlaying : Bool} {trackId : String}
    (decided : Decided middle isPlaying trackId after) (steers : before.Steers middle) :
    Decided before isPlaying trackId after :=
  ⟨steers.trans decided.toSteers, decided.fits, decided.lively⟩

/-- A poll of the same track handles seeks, pauses, resumes and a missing stream. -/
theorem runs_pollSameTrack (m : Monitor) (s : SpotifyState) (track : Track)
    (fits : state.Fits m.lastPlaying track.id) :
    state.Runs actor input (pollSameTrack m s track) fun _ =>
      Decided state s.isPlaying track.id := by
  have expects : state.Runs actor input (expectedProgress m) fun _ after => after = state := by
    unfold expectedProgress
    split
    · exact Program.yields_perform rfl rfl
    · exact runs_pure rfl
  refine runs_bind (expects.mono ?_)
  rintro expected _ rfl
  refine runs_getCachedPath fun cached looked kept found served => ?_
  have available : ∀ after, looked.Steers after →
      after.cache.holds track.id = true → cached.isSome := by
    intro after steers held
    rw [found]
    exact kept.cached _ (steers.cached _ held)
  refine runs_bind (runs_followSeek _ served (available looked (.refl looked)) ?_ ?_)
  · intro playing sought steers airs
    refine (runs_followPlaying m _ ?_ (available sought steers) ?_).mono ?_
    · exact fun filePath eq => steers.served (served filePath eq)
    · exact fun _ => ⟨Or.inl playing, airs⟩
    · exact fun _ after decided => decided.after (kept.toSteers.trans steers)
  · intro sought keeps
    refine (runs_followPlaying m _ ?_ (available sought keeps.toSteers) ?_).mono ?_
    · exact fun filePath eq => keeps.served (served filePath eq)
    · intro on_air
      obtain ⟨playing, airs⟩ := (kept.trans keeps).fits fits on_air
      exact ⟨Or.inr playing, airs⟩
    · exact fun _ after decided => decided.after (kept.trans keeps).toSteers

/-- A report of a track starts from a stream that fits the last poll. -/
theorem runs_pollTrack (m : Monitor) (s : SpotifyState) (track : Track)
    (quiet : state.togedemonCancel ≠ none → state.streamManager.hasTrack = false)
    (fits : m.lastTrackId = some track.id → state.Fits m.lastPlaying track.id) :
    state.Runs actor input (pollTrack m s track) fun _ => Reported s track := by
  refine runs_ask rfl ?_
  by_cases same : m.lastTrackId = some track.id
  · rw [if_neg (by simp [same])]
    refine runs_bind ((runs_pollSameTrack m s track ?_).mono ?_)
    · intro on_air
      obtain ⟨playing, airs⟩ := fits same on_air
      exact ⟨playing, airs.free, airs.enabled, airs.file⟩
    · intro changed after decided
      exact runs_concludePoll _ decided.current decided.fits decided.lively
  · rw [if_pos same]
    refine runs_bind (runs_switchTrack s track quiet fun after decided => ?_)
    exact runs_concludePoll _ decided.current decided.fits decided.lively

/-! ### Between tasks -/

/-- A cached file on air was served for the current track, which is playing with the player on and
no togedemon live. -/
def Rightful (state : AppState) : Prop :=
  state.streamManager.hasTrack = true →
    state.togedemonCancel = none ∧ state.playerEnabled = true ∧
      ∃ s track path seekMs, state.current = some s ∧ s.track = some track ∧ s.isPlaying = true ∧
        state.streamManager.onAir = .file path seekMs ∧ (track.id, path) ∈ state.served

/-- The invariant between tasks. -/
structure Steady (state : AppState) : Prop where
  rightful : state.Rightful
  synced : Synced state.current state.monitor

theorem Steady.quiet (steady : state.Steady) (occupied : state.togedemonCancel ≠ none) :
    state.streamManager.hasTrack = false := by
  by_contra on_air
  exact occupied (steady.rightful (by simpa using on_air)).1

theorem Steady.fits (steady : state.Steady) {s : SpotifyState} {track : Track}
    (current : state.current = some s) (reported : s.track = some track) :
    state.Fits s.isPlaying track.id := by
  intro on_air
  obtain ⟨free, enabled, other, otherTrack, path, seekMs, current', reported', playing, file,
    member⟩ := steady.rightful on_air
  obtain rfl : s = other := Option.some.inj (current.symm.trans current')
  obtain rfl : track = otherTrack := Option.some.inj (reported.symm.trans reported')
  exact ⟨playing, free, enabled, path, seekMs, file, member⟩

theorem rightful_of_fits {s : SpotifyState} {track : Track} (current : state.current = some s)
    (reported : s.track = some track) (fits : state.Fits s.isPlaying track.id) :
    state.Rightful := by
  intro on_air
  obtain ⟨playing, free, enabled, path, seekMs, file, member⟩ := fits on_air
  exact ⟨free, enabled, s, track, path, seekMs, current, reported, playing, file, member⟩

theorem rightful_of_silent (silent : state.streamManager.hasTrack = false) : state.Rightful := by
  intro on_air
  rw [silent] at on_air
  exact absurd on_air Bool.false_ne_true

theorem Steady.decided {after : AppState} (synced : Synced state.current state.monitor)
    {s : SpotifyState} {track : Track} (current : state.current = some s)
    (reported : s.track = some track) (decided : Decided state s.isPlaying track.id after) :
    after.Steady where
  rightful := rightful_of_fits (decided.current.trans current) reported decided.fits
  synced := by
    rw [decided.current, decided.monitor]
    exact synced

theorem Steady.keeps {after : AppState} (steady : state.Steady) (keeps : state.Keeps after) :
    after.Steady where
  rightful := by
    intro on_air
    rw [keeps.streamManager] at on_air
    obtain ⟨free, enabled, s, track, path, seekMs, current, reported, playing, file, member⟩ :=
      steady.rightful on_air
    refine ⟨keeps.togedemonCancel.trans free, keeps.playerEnabled.trans enabled, s, track, path,
      seekMs, keeps.current.trans current, reported, playing, ?_, keeps.served member⟩
    rw [keeps.streamManager]
    exact file
  synced := by
    rw [keeps.current, keeps.monitor]
    exact steady.synced

/-- A poll that reports nothing leaves silence. -/
theorem runs_pollNothing (m : Monitor) (steady : state.Steady)
    (remembered : m.lastTrackId = state.monitor.lastTrackId) :
    state.Runs actor input (pollNothing m) fun _ => Steady := by
  refine runs_ask rfl ?_
  cases last : m.lastTrackId with
  | some trackId =>
      refine runs_bind (runs_stopUnlessLive steady.quiet fun after steers silent => ?_)
      refine Program.yields_perform rfl ⟨rightful_of_silent silent, ?_⟩
      have current : after.current = none := steers.current
      simp [Synced, current]
  | none =>
      refine Program.yields_perform rfl ⟨rightful_of_silent ?_, rfl⟩
      by_contra on_air
      obtain ⟨-, -, s, track, -, -, current, -⟩ := steady.rightful (by simpa using on_air)
      have synced := steady.synced
      rw [current] at synced
      obtain ⟨reported, -, lastTrackId, -⟩ := synced
      rw [← remembered, last] at lastTrackId
      simp at lastTrackId

theorem Reported.steady {s : SpotifyState} {track : Track} (reports : s.track = some track)
    (reported : Reported s track state) : state.Steady where
  rightful := rightful_of_fits reported.current reports reported.fits
  synced := by
    rw [reported.current]
    exact ⟨track, reports, reported.lastTrackId, reported.lastPlaying⟩

/-- A report leaves the state steady, and a playing track that can be on air on air. -/
theorem runs_pollReport (m : Monitor) (s : SpotifyState) (steady : state.Steady)
    (lastTrackId : m.lastTrackId = state.monitor.lastTrackId)
    (lastPlaying : m.lastPlaying = state.monitor.lastPlaying) :
    state.Runs actor input (pollReport m s) fun _ after => after.Steady ∧
      ∀ track, s.track = some track → after.Lively s.isPlaying track.id := by
  unfold pollReport
  cases reports : s.track with
  | none =>
      refine (runs_pollNothing m steady lastTrackId).mono fun _ after steady => ⟨steady, ?_⟩
      simp
  | some track =>
      refine (runs_pollTrack m s track steady.quiet ?_).mono fun _ after reported =>
        ⟨reported.steady reports, ?_⟩
      · intro same
        have synced := steady.synced
        cases current : state.current with
        | none =>
            rw [current] at synced
            rw [lastTrackId, synced] at same
            simp at same
        | some last =>
            rw [current] at synced
            obtain ⟨lastTrack, last_reports, last_id, last_playing⟩ := synced
            rw [lastTrackId, last_id] at same
            rw [lastPlaying, last_playing, ← Option.some.inj same]
            exact steady.fits current last_reports
      · intro other other_reports
        obtain rfl := Option.some.inj other_reports
        exact reported.lively

/-- A poll leaves the state steady, whatever Spotify answers. -/
theorem runs_spotifyMonitorPoll (steady : state.Steady) (polling : state.polling = some actor) :
    state.Runs actor input spotifyMonitorPoll fun _ after => after.Steady ∧
      ∀ s track, state.authenticated = true → input.polled = some s → s.track = some track →
        after.Lively s.isPlaying track.id := by
  have recalled : state.perform actor .readMonitor input = some (state.monitor, state) :=
    if_pos polling
  refine runs_ask recalled (runs_ask rfl ?_)
  cases authenticated : state.authenticated with
  | false =>
      refine (runs_pollReport state.monitor {} steady rfl rfl).mono fun _ after outcome =>
        ⟨outcome.1, ?_⟩
      simp
  | true =>
      refine runs_ask rfl ?_
      cases polled : input.polled with
      | none =>
          refine Program.yields_perform rfl ⟨⟨?_, ?_⟩, by simp⟩
          · exact steady.rightful
          · exact steady.synced
      | some s =>
          have reported : state.Runs actor input
              (pollReport { state.monitor with consecutiveErrors := 0 } s) fun _ after =>
                after.Steady ∧
                  ∀ track, s.track = some track → after.Lively s.isPlaying track.id :=
            runs_pollReport _ s steady rfl rfl
          refine reported.mono fun _ after outcome => ⟨outcome.1, ?_⟩
          intro other track _ same
          obtain rfl := Option.some.inj same
          exact outcome.2 track

/-! ### The other tasks -/

theorem runs_startStreamIfPlaying (steady : state.Steady) :
    state.Runs actor input startStreamIfPlaying fun _ => Steady := by
  refine runs_ask rfl ?_
  cases current : state.current with
  | none => exact runs_pure steady
  | some s =>
      cases reports : s.track with
      | none =>
          simp only [reports]
          exact runs_pure steady
      | some track =>
          simp only [reports]
          refine runs_getCachedPath fun path looked kept found served => ?_
          refine runs_bind (runs_maybePlayCached served ?_ ?_ ?_)
          · intro held
            rw [found]
            exact kept.cached _ held
          · intro playing after steers airs on_air
            refine runs_pure (Steady.decided steady.synced current reports
              ⟨kept.toSteers.trans steers, fun _ => ⟨playing, airs⟩, fun _ _ _ _ => on_air⟩)
          · intro after keeps _
            exact runs_pure (steady.keeps (kept.trans keeps))

theorem runs_runPrepare (track : Track) (steady : state.Steady) :
    state.Runs actor input (runPrepare track) fun _ => Steady := by
  have prepared : state.Keeps (state.serve track input.prepared) :=
    ⟨⟨rfl, rfl, rfl, rfl, List.subset_append_right _ _, fun _ held => held⟩, rfl⟩
  refine runs_ask rfl ?_
  cases result : input.prepared with
  | none => exact runs_pure (steady.keeps (result ▸ prepared))
  | some path =>
      rw [result] at prepared
      refine runs_ask rfl ?_
      cases current : (state.serve track (some path)).current with
      | none => exact runs_pure (steady.keeps prepared)
      | some s =>
          dsimp only
          split
          · rename_i same
            refine runs_ask rfl ?_
            split
            · exact runs_pure (steady.keeps prepared)
            · refine runs_bind (runs_maybePlay ?_ ?_)
              · intro playing free enabled after seekMs steers on_air
                cases reports : s.track with
                | none => simp [reports] at same
                | some other =>
                    have same_id : other.id = track.id := by simpa [reports] using same
                    have served : (other.id, path) ∈ (state.serve track (some path)).served := by
                      simp [serve, same_id]
                    refine runs_pure ⟨fun _ => ⟨steers.togedemonCancel.trans free,
                      steers.playerEnabled.trans enabled, s, other, path, seekMs,
                      steers.current.trans current, reports, playing, ?_, steers.served served⟩, ?_⟩
                    · rw [on_air, Stream.Manager.playTrack_onAir]
                    · rw [steers.current, steers.monitor]
                      exact steady.synced
              · intro _ after keeps
                exact runs_pure (steady.keeps (prepared.trans keeps))
          · exact runs_pure (steady.keeps prepared)

/-- A connecting togedemon silences the cache. -/
theorem runs_connectTogedemon (steady : state.Steady) :
    state.Runs actor input connectTogedemon fun _ => Steady := by
  refine runs_ask rfl ?_
  cases state.playerEnabled with
  | false => exact runs_pure steady
  | true =>
      refine runs_ask rfl (runs_ask rfl (runs_pure ⟨rightful_of_silent rfl, ?_⟩))
      change Synced (state.takeSlot actor).current (state.takeSlot actor).monitor
      rw [takeSlot, cancelSlot_eq]
      exact steady.synced

/-- Falling back from silence puts the current track on air if it is cached and playing. -/
theorem runs_fallBack (synced : Synced state.current state.monitor)
    (silent : state.streamManager.hasTrack = false) :
    state.Runs actor input fallBack fun _ => Steady := by
  refine runs_ask rfl ?_
  cases current : state.current with
  | none => exact runs_pure ⟨rightful_of_silent silent, synced⟩
  | some s =>
      cases reports : s.track with
      | none =>
          simp only [reports]
          exact runs_pure ⟨rightful_of_silent silent, synced⟩
      | some track =>
          simp only [reports]
          exact runs_switchTrack s track (fun _ => silent) fun after decided =>
            Steady.decided synced current reports decided

/-- A disconnecting togedemon falls back to the current track. -/
theorem runs_disconnectTogedemon (steady : state.Steady) :
    state.Runs actor input disconnectTogedemon fun _ => Steady := by
  cases cancelled : state.cancelled actor with
  | true =>
      have released : state.perform actor .releaseSlot input = some (false, state.see actor) :=
        congrArg some (if_pos cancelled)
      exact runs_ask released (runs_pure (steady.keeps (keeps_see state actor)))
  | false =>
      have released : state.perform actor .releaseSlot input =
          some (true, { state with togedemonCancel := none }.see actor) :=
        congrArg some (if_neg (by simp [cancelled]))
      exact runs_ask released (runs_ask rfl (runs_fallBack steady.synced rfl))

/-- Switching the player keeps the state steady unless a failed save leaves a track on air. -/
theorem runs_handleAdminPlayer (enabled : Bool) (steady : state.Steady)
    (stops : enabled = false → input.saved = false → state.streamManager.hasTrack = false) :
    state.Runs actor input (handleAdminPlayer enabled) fun _ => Steady := by
  have kept : enabled = true ∨ state.streamManager.hasTrack = false →
      { state with playerEnabled := enabled }.Steady := by
    intro either
    refine ⟨fun on_air => ?_, steady.synced⟩
    obtain ⟨free, -, rest⟩ := steady.rightful on_air
    rcases either with on | silent
    · exact ⟨free, on, rest⟩
    · exact absurd (silent.symm.trans on_air) Bool.false_ne_true
  refine runs_ask rfl ?_
  cases saved : input.saved with
  | false =>
      refine runs_pure (kept ?_)
      cases enabled with
      | true => exact Or.inl rfl
      | false => exact Or.inr (stops rfl saved)
  | true =>
      cases enabled with
      | true => exact runs_startStreamIfPlaying (kept (Or.inl rfl))
      | false =>
          refine runs_ask rfl (Program.yields_perform rfl ⟨rightful_of_silent rfl, ?_⟩)
          change Synced ({ state with playerEnabled := false }.dropTogedemon actor).current
            ({ state with playerEnabled := false }.dropTogedemon actor).monitor
          rw [dropTogedemon, cancelSlot_eq]
          exact steady.synced

end AppState

/-! ## Runs with one task at a time -/

/-- The state between two tasks, with the togedemons whose bodies are being pumped. -/
structure Playback where
  state : AppState
  size : Nat
  /-- The handlers that pump, each with its pipe. -/
  pumping : List (Nat × Nat)

/-- One task, run to its end, or a change from outside. -/
inductive PlaybackEvent
  | run (request : Request) (input : Input)
  | connect
  | disconnect (handler pipe : Nat) (input : Input)
  | outside (change : Change)

namespace Playback

/-- Run a task to its end. -/
def finish {α : Type} (state : AppState) (actor : Nat) (input : Input) (task : Task α) :
    Option (α × AppState) :=
  task.exec (fun shared op => shared.perform actor op input) state

/-- The rest of `handle_togedemon_push` once its pump ends. -/
def pumpOut (pipe : Nat) : Task Unit := do
  let _ ← pump pipe
  disconnectTogedemon

/-- `handle_togedemon_push` rests while it pumps, so it runs as two events. -/
def step (playback : Playback) : PlaybackEvent → Option Playback
  | .run .push _ => none
  | .run request input =>
      match playback.state.accept playback.size request with
      | none => none
      | some (task, state) =>
          (finish state playback.size input task).map fun outcome =>
            { playback with state := outcome.2, size := playback.size + 1 }
  | .connect =>
      (finish playback.state playback.size {} connectTogedemon).map fun outcome =>
        { state := outcome.2
          size := playback.size + 1
          pumping := playback.pumping ++
            (outcome.1.map fun pipe => (playback.size, pipe)).toList }
  | .disconnect handler pipe input =>
      if (handler, pipe) ∈ playback.pumping then
        (finish playback.state handler input (pumpOut pipe)).map fun outcome =>
          { playback with
            state := outcome.2
            pumping := playback.pumping.erase (handler, pipe) }
      else
        none
  | .outside change => some { playback with state := playback.state.outside change }

/-- All runs of the server's tasks, each to its end before the next. -/
def system : System Playback PlaybackEvent where
  initial playback := playback.state.Fresh
  step := step

/-- No player switch-off whose save fails is made while a cached file is on air. -/
def StopsBeforeFailing (playback : Playback) : PlaybackEvent → Prop
  | .run (.player false) input =>
      input.saved = false → playback.state.streamManager.hasTrack = false
  | _ => True

instance decidableStopsBeforeFailing (playback : Playback) :
    ∀ event, Decidable (playback.StopsBeforeFailing event)
  | .run (.player false) _ => inferInstanceAs (Decidable (_ → _))
  | .run (.player true) _ | .run .poll _ | .run (.prepare _) _ | .run .push _ | .connect
  | .disconnect _ _ _ | .outside _ => inferInstanceAs (Decidable True)

/-- A task that runs to a postcondition finishes in a state that meets it. -/
theorem finish_meets {α : Type} {state after : AppState} {actor : Nat} {input : Input}
    {task : Task α} {result : α} {post : α → AppState → Prop}
    (runs : state.Runs actor input task post)
    (finished : finish state actor input task = some (result, after)) : post result after := by
  obtain ⟨_, _, ran, holds⟩ := runs
  obtain ⟨rfl, rfl⟩ := Prod.mk.inj (Option.some.inj (ran.symm.trans finished))
  exact holds

/-- A poll that is started from a steady state. -/
theorem runs_accept_poll {state after : AppState} {actor : Nat} {input : Input} {task : Task Unit}
    (steady : state.Steady) (accepted : state.accept actor .poll = some (task, after)) :
    after.Runs actor input task fun _ final => final.Steady ∧
      ∀ s track, state.authenticated = true → input.polled = some s → s.track = some track →
        final.Lively s.isPlaying track.id := by
  obtain ⟨-, rfl, rfl⟩ := of_guarded_answer accepted
  have polling : { state with polling := some actor }.Steady := ⟨steady.rightful, steady.synced⟩
  exact AppState.runs_spotifyMonitorPoll polling rfl

theorem steady_accept {state after : AppState} {actor : Nat} {request : Request} {input : Input}
    {task : Task Unit} (steady : state.Steady) (resting : request ≠ .push)
    (stops : request = .player false → input.saved = false →
      state.streamManager.hasTrack = false)
    (accepted : state.accept actor request = some (task, after)) :
    after.Runs actor input task fun _ => AppState.Steady := by
  cases request with
  | poll => exact (runs_accept_poll steady accepted).mono fun _ _ outcome => outcome.1
  | prepare track =>
      obtain ⟨-, rfl, rfl⟩ := of_guarded_answer accepted
      exact AppState.runs_runPrepare track (steady.keeps (AppState.keeps_spawn _ _))
  | push => exact absurd rfl resting
  | player enabled =>
      obtain ⟨rfl, rfl⟩ := Prod.mk.inj (Option.some.inj accepted)
      refine AppState.runs_handleAdminPlayer enabled steady ?_
      rintro rfl
      exact stops rfl

theorem steady_pumpOut {state after : AppState} {handler pipe : Nat} {input : Input}
    (steady : state.Steady)
    (finished : finish state handler input (pumpOut pipe) = some ((), after)) : after.Steady := by
  obtain ⟨reply, between, pumped, ran⟩ := Program.exec_perform_bind finished
  simp only [AppState.perform] at pumped
  split at pumped
  · obtain ⟨-, rfl⟩ := Prod.mk.inj (Option.some.inj pumped)
    exact finish_meets (AppState.runs_disconnectTogedemon steady) ran
  · simp at pumped

theorem Steady.step {playback after : Playback} {event : PlaybackEvent}
    (steady : playback.state.Steady) (stops : playback.StopsBeforeFailing event)
    (step : playback.step event = some after) : after.state.Steady := by
  cases event with
  | run request input =>
      by_cases resting : request = .push
      · subst resting
        simp [Playback.step] at step
      · simp only [Playback.step] at step
        cases accepted : playback.state.accept playback.size request with
        | none => simp [accepted] at step
        | some started =>
            simp only [accepted, Option.map_eq_some_iff] at step
            obtain ⟨⟨result, state⟩, finished, rfl⟩ := step
            refine finish_meets (steady_accept steady resting ?_ accepted) finished
            rintro rfl
            exact stops
  | connect =>
      simp only [Playback.step, Option.map_eq_some_iff] at step
      obtain ⟨⟨pipe, state⟩, finished, rfl⟩ := step
      exact finish_meets (AppState.runs_connectTogedemon steady) finished
  | disconnect handler pipe input =>
      simp only [Playback.step, Option.ite_none_right_eq_some, Option.map_eq_some_iff] at step
      obtain ⟨-, ⟨result, state⟩, finished, rfl⟩ := step
      exact steady_pumpOut steady finished
  | outside change =>
      obtain rfl := Option.some.inj step
      cases change <;> exact ⟨steady.rightful, steady.synced⟩

theorem steady_of_reachable {playback : Playback}
    (reach : system.ReachableUnder StopsBeforeFailing playback) : playback.state.Steady := by
  refine reach.invariant (fun playback => playback.state.Steady) ?_ ?_
  · rintro playback ⟨cache, playerEnabled, authenticated, now, created⟩
    rw [created]
    exact ⟨AppState.rightful_of_silent rfl, rfl⟩
  · intro before event after _ steady stops step
    exact Steady.step steady stops step

/-- A successful poll has put a playing, cached track on air, unless the player is off or a
togedemon live. -/
def PollsLively (playback : Playback) : Prop :=
  ∀ input after s track, playback.step (.run .poll input) = some after →
    playback.state.authenticated = true → input.polled = some s → s.track = some track →
      s.isPlaying = true → after.state.playerEnabled = true →
        after.state.togedemonCancel = none → after.state.cache.holds track.id = true →
          after.state.streamManager.hasTrack = true

theorem Steady.pollsLively {playback : Playback} (steady : playback.state.Steady) :
    playback.PollsLively := by
  intro input after s track step
  cases accepted : playback.state.accept playback.size .poll with
  | none => simp [Playback.step, accepted] at step
  | some started =>
      simp only [Playback.step, accepted, Option.map_eq_some_iff] at step
      obtain ⟨⟨result, final⟩, finished, rfl⟩ := step
      exact (finish_meets (runs_accept_poll steady accepted) finished).2 s track

/-- While no switch-off fails to save with a file on air, what is on air fits the last poll, and
every poll that finds the current track cached leaves it on air. -/
theorem on_air_follows_polls {playback : Playback}
    (reach : system.ReachableUnder StopsBeforeFailing playback) :
    playback.state.Rightful ∧ playback.PollsLively :=
  have steady := steady_of_reachable reach
  ⟨steady.rightful, Steady.pollsLively steady⟩

/-- A server with one track cached, paired and with its player on. -/
def oneTrack : Playback where
  state := AppState.createServer oneEntry true true 100
  size := 0
  pumping := []

/-- The track is reported as playing. -/
def reportsPlaying : Input := { polled := some { track := some { id := "a" }, isPlaying := true } }

/-- The track plays, a togedemon comes and goes, and the track is paused. -/
def interlude : List PlaybackEvent :=
  [.run .poll reportsPlaying, .connect, .disconnect 1 2 {}, .run (.player false) {},
    .run (.player true) {}]

theorem oneTrack_initial : system.initial oneTrack := ⟨oneEntry, true, true, 100, rfl⟩

/-- After the interlude the track is on air, rightfully. -/
theorem interlude_follows_polls :
    let playback := system.final oneTrack interlude rfl
    playback.state.streamManager.hasTrack = true ∧ playback.state.Rightful ∧
      playback.PollsLively :=
  ⟨rfl, on_air_follows_polls (System.ReachableUnder.final oneTrack_initial (by decide) rfl)⟩

/-- A switch-off whose save fails leaves the track on air with the player off. -/
theorem failed_switch_off_plays_on :
    ¬ ∀ playback, system.Reachable playback → playback.state.Rightful := by
  intro rightful
  have reach : system.Reachable (system.final oneTrack
      [.run .poll reportsPlaying, .run (.player false) { saved := false }] rfl) :=
    System.reachable_final oneTrack_initial _ rfl
  have enabled := (rightful _ reach rfl).2.1
  exact absurd enabled (by decide)

end Playback

end Togewire.Server
