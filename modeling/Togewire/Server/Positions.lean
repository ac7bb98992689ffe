import Togewire.Server.Workers
import Togewire.Spotify.CurrentTrack
import Togewire.Stream.Ogg

/-!
# Playback positions

Positions and durations come from Spotify as they are.  The sums and differences taken of them stay
in range as long as a running track's duration leaves room for the grace past its end, a position
fits into a file's granule clock, and two polls are not further apart than the range.
-/

namespace Togewire.Server

open Register
open Spotify (Poll Measured)
open Spotify.Poll (endGraceMs)
open Spotify.Parsing (i64Max Clock ConnectStateSnapshot)

/-! ## The arithmetic of a poll -/

/-- The seek into a file stays in range of a granule position. -/
def SeekFits (progress : Int) : Prop :=
  (effectiveSeekMs progress).toNat * Stream.opusRate ≤ Stream.u64Max

/-- What is computed of one poll stays in range: the time since the timestamp, the end of the track
with its grace, what remains of it, and the seek into its file. -/
structure PollFits (poll : Poll) : Prop where
  elapsed : ∀ ps, poll.payload.find "player_state" = some ps → Spotify.Parsing.isPlaying ps = true →
    0 < Spotify.Parsing.timestampMs ps → Fits (poll.now.ms - Spotify.Parsing.timestampMs ps)
  grace : ∀ snapshot uri, poll.snapshot = some snapshot → snapshot.currentTrackUri = some uri →
    snapshot.isPlaying = true → 0 < (poll.currentTrack snapshot uri).duration →
      Fits ((poll.currentTrack snapshot uri).duration + endGraceMs)
  remaining : ∀ s track, poll.getCurrentTrack = some s → s.track = some track →
    Fits (track.duration - s.progress)
  seek : ∀ s, poll.getCurrentTrack = some s → s.isPlaying = true → SeekFits s.progress

/-- The milliseconds a track has moved on between two polls. -/
def movedOn (s : SpotifyState) (elapsed : Nat) : Int := if s.isPlaying then wrap elapsed else 0

/-- The drift between two polls of one track stays in range. -/
def DriftFits (first second : Poll) (elapsed : Nat) : Prop :=
  ∀ s s' track track', first.getCurrentTrack = some s → second.getCurrentTrack = some s' →
    s.track = some track → s'.track = some track' → track.id = track'.id →
      Fits (s'.progress - s.progress) ∧
        Fits (s'.progress - s.progress - movedOn s elapsed) ∧
          Fits (s'.progress - s.progress - movedOn s elapsed).natAbs

/-- All arithmetic on the positions of two consecutive polls stays in range. -/
structure InRange (first second : Poll) (elapsed : Nat) : Prop where
  before : PollFits first
  after : PollFits second
  drift : DriftFits first second elapsed

/-! ## What the answers say -/

/-- The current track as it is answered. -/
structure Reading where
  id : String
  playing : Bool
  /-- The position now, in whatever range. -/
  position : Int
  duration : Int

namespace Reading

/-- The track is over. -/
def past (reading : Reading) : Bool :=
  reading.playing && 0 < reading.duration && reading.duration + endGraceMs ≤ reading.position

/-- It plays, and is not past its end. -/
def running (reading : Reading) : Bool := reading.playing && !reading.past

/-- The position as it is reported: past the end it is the duration. -/
def progress (reading : Reading) : Int :=
  if reading.past then reading.duration else min reading.position i64Max

/-- The last position in a file whose granule is in range. -/
def lastSeekMs : Int := 384307168202282

/-- The duration of a playing track leaves room for the grace, and a running track's position can
be sought. -/
structure Sane (reading : Reading) : Prop where
  duration : reading.playing = true → reading.duration ≤ i64Max - endGraceMs
  position : reading.running = true → reading.position ≤ lastSeekMs

/-- The time a running track is expected to have moved on. -/
def moved (reading : Reading) (elapsed : Nat) : Int := if reading.running then wrap elapsed else 0

/-- The progress is within `i64::MAX` of the expected one. -/
structure Near (reading next : Reading) (elapsed : Nat) : Prop where
  behind : reading.progress + reading.moved elapsed ≤ next.progress + i64Max
  ahead : next.progress ≤ reading.progress + reading.moved elapsed + i64Max

end Reading

/-- The position now, from the position at some time. -/
def positionNow (ps : Spotify.Parsing.Value) (now : Clock) : Int :=
  if Spotify.Parsing.isPlaying ps && 0 < Spotify.Parsing.timestampMs ps then
    Spotify.Parsing.baseProgress ps + max (now.ms - Spotify.Parsing.timestampMs ps) 0
  else
    Spotify.Parsing.baseProgress ps

/-- What a poll's answers say of the current track, if there is one. -/
def readingOf (poll : Poll) : Option Reading :=
  (poll.payload.find "player_state").bind fun ps =>
    ((Spotify.Parsing.currentNode ps).bind Spotify.Parsing.extractTrackUri).map fun uri =>
      let track := poll.currentTrack (Spotify.Parsing.snapshotOf ps poll.now) uri
      { id := track.id
        playing := Spotify.Parsing.isPlaying ps
        position := positionNow ps poll.now
        duration := track.duration }

/-- The answers to two polls are sane, and near each other if they are about one track. -/
structure Bounded (first second : Poll) (elapsed : Nat) : Prop where
  before : ∀ reading, readingOf first = some reading → reading.Sane
  after : ∀ reading, readingOf second = some reading → reading.Sane
  near : ∀ reading next, readingOf first = some reading → readingOf second = some next →
    reading.id = next.id → reading.Near next elapsed

/-! ## One poll -/

theorem progressMs_eq (ps : Spotify.Parsing.Value) (now : Clock) :
    Spotify.Parsing.progressMs ps now = min (positionNow ps now) i64Max := by
  obtain ⟨lower, upper⟩ := Spotify.Parsing.baseProgress_bounds ps
  have within := Spotify.Parsing.fits_timestampMs ps
  unfold Spotify.Parsing.progressMs Spotify.Parsing.extrapolate positionNow
  split
  · rename_i advancing
    have positive := of_decide_eq_true ((Bool.and_eq_true _ _).mp advancing).2
    rw [Spotify.Parsing.wrap_elapsed positive within, Spotify.Parsing.saturatingAdd]
    unfold i64Max at *
    omega
  · omega

theorem seekFits_iff {progress : Int} (measured : Measured progress) :
    SeekFits progress ↔ progress ≤ Reading.lastSeekMs := by
  unfold SeekFits effectiveSeekMs newTrackIntroGraceMs Stream.opusRate Stream.u64Max
    Reading.lastSeekMs
  obtain ⟨lower, upper⟩ := measured
  split <;> omega

/-- The values a reading stands for. -/
structure Reads (poll : Poll) (reading : Reading) (snapshot : ConnectStateSnapshot)
    (uri : String) : Prop where
  parsed : poll.snapshot = some snapshot
  current : snapshot.currentTrackUri = some uri
  reported : poll.getCurrentTrack = some (poll.stateOf snapshot uri)
  id : (poll.currentTrack snapshot uri).id = reading.id
  duration : (poll.currentTrack snapshot uri).duration = reading.duration
  playing : snapshot.isPlaying = reading.playing
  progress : snapshot.progressMs = min reading.position i64Max

theorem reads_of_readingOf {poll : Poll} {reading : Reading}
    (found : readingOf poll = some reading) : ∃ snapshot uri, Reads poll reading snapshot uri := by
  obtain ⟨ps, state, described⟩ := Option.bind_eq_some_iff.mp found
  obtain ⟨uri, extracted, rfl⟩ := Option.map_eq_some_iff.mp described
  have parsed : poll.snapshot = some (Spotify.Parsing.snapshotOf ps poll.now) := by
    rw [Poll.snapshot, Spotify.Parsing.parseConnectStateSnapshot, state]
    rfl
  have current : (Spotify.Parsing.snapshotOf ps poll.now).currentTrackUri = some uri := extracted
  refine ⟨_, uri, parsed, current, ?_, rfl, rfl, rfl, progressMs_eq ps poll.now⟩
  rw [Poll.getCurrentTrack, parsed, Option.map_some, current]

theorem getCurrentTrack_of_none {poll : Poll} (missing : readingOf poll = none)
    {s : SpotifyState} (reported : poll.getCurrentTrack = some s) : s = {} := by
  obtain ⟨snapshot, parsed, rfl⟩ := Option.map_eq_some_iff.mp reported
  obtain ⟨ps, state, rfl⟩ := Option.map_eq_some_iff.mp parsed
  rw [readingOf, state, Option.bind_some, Option.map_eq_none_iff] at missing
  have current : (Spotify.Parsing.snapshotOf ps poll.now).currentTrackUri = none := missing
  rw [current]

theorem currentTrackUri_of_none {poll : Poll} (missing : readingOf poll = none)
    {snapshot : ConnectStateSnapshot} (parsed : poll.snapshot = some snapshot) :
    snapshot.currentTrackUri = none := by
  obtain ⟨ps, state, rfl⟩ := Option.map_eq_some_iff.mp parsed
  rwa [readingOf, state, Option.bind_some, Option.map_eq_none_iff] at missing

theorem elapsed_fits {poll : Poll} (ps : Spotify.Parsing.Value)
    (positive : 0 < Spotify.Parsing.timestampMs ps) :
    Fits (poll.now.ms - Spotify.Parsing.timestampMs ps) := by
  have within := Spotify.Parsing.fits_timestampMs ps
  have bounded := poll.now.bounded
  unfold Fits i64Max at *
  omega

namespace Reads

variable {poll : Poll} {reading : Reading} {snapshot : ConnectStateSnapshot} {uri : String}

theorem measured_duration (reads : Reads poll reading snapshot uri) :
    Measured reading.duration :=
  reads.duration ▸ Poll.measured_currentTrack reads.parsed uri

theorem measured_position (reads : Reads poll reading snapshot uri) :
    Measured (min reading.position i64Max) := by
  obtain ⟨ps, -, rfl⟩ := Option.map_eq_some_iff.mp reads.parsed
  exact reads.progress ▸ Spotify.measured_progressMs ps poll.now

theorem measured_progress (reads : Reads poll reading snapshot uri) :
    Measured reading.progress := by
  unfold Reading.progress
  split
  · exact reads.measured_duration
  · exact reads.measured_position

theorem grace_iff (reads : Reads poll reading snapshot uri) :
    (snapshot.isPlaying = true → 0 < (poll.currentTrack snapshot uri).duration →
      Fits ((poll.currentTrack snapshot uri).duration + endGraceMs)) ↔
    (reading.playing = true → reading.duration ≤ i64Max - endGraceMs) := by
  obtain ⟨lower, upper⟩ := reads.measured_duration
  rw [reads.playing, reads.duration]
  apply imp_congr_right
  intro _
  unfold Fits i64Max endGraceMs at *
  omega

variable (reads : Reads poll reading snapshot uri)
  (room : reading.playing = true → reading.duration ≤ i64Max - endGraceMs)
include reads room

theorem pastEnd_eq : Poll.pastEnd snapshot (poll.currentTrack snapshot uri) = reading.past := by
  obtain ⟨lower, upper⟩ := reads.measured_duration
  unfold Poll.pastEnd Reading.past
  rw [reads.playing, reads.duration, reads.progress]
  cases playing : reading.playing with
  | false => rfl
  | true =>
      have bound := room playing
      have fits : Fits (reading.duration + endGraceMs) := by
        unfold Fits endGraceMs i64Max at *
        omega
      rw [wrap_of_fits fits, Bool.true_and]
      congr 1
      apply decide_eq_decide.mpr
      unfold endGraceMs i64Max at *
      omega

theorem progress_eq : (poll.stateOf snapshot uri).progress = reading.progress := by
  simp only [Poll.stateOf, reads.pastEnd_eq room, reads.duration, reads.progress, Reading.progress]

theorem isPlaying_eq : (poll.stateOf snapshot uri).isPlaying = reading.running := by
  simp only [Poll.stateOf, reads.pastEnd_eq room, reads.playing, Reading.running]
  cases reading.past <;> simp

theorem seek_iff : ((poll.stateOf snapshot uri).isPlaying = true →
      SeekFits (poll.stateOf snapshot uri).progress) ↔
    (reading.running = true → reading.position ≤ Reading.lastSeekMs) := by
  rw [reads.isPlaying_eq room, reads.progress_eq room]
  apply imp_congr_right
  intro running
  have going : reading.past = false := by
    have parts := (Bool.and_eq_true _ _).mp running
    simpa using parts.2
  have shown : reading.progress = min reading.position i64Max := by
    rw [Reading.progress, going]
    rfl
  rw [shown, seekFits_iff reads.measured_position]
  unfold Reading.lastSeekMs i64Max
  omega

end Reads

theorem pollFits_of_none {poll : Poll} (missing : readingOf poll = none) : PollFits poll where
  elapsed := fun ps _ _ positive => elapsed_fits ps positive
  grace := by
    intro snapshot uri parsed current
    rw [currentTrackUri_of_none missing parsed] at current
    cases current
  remaining := by
    intro s track reported tracked
    rw [getCurrentTrack_of_none missing reported] at tracked
    cases tracked
  seek := by
    intro s reported playing
    rw [getCurrentTrack_of_none missing reported] at playing
    cases playing

/-- The arithmetic of one poll stays in range just when its answers are sane. -/
theorem pollFits_iff (poll : Poll) :
    PollFits poll ↔ ∀ reading, readingOf poll = some reading → reading.Sane := by
  cases found : readingOf poll with
  | none => exact iff_of_true (pollFits_of_none found) nofun
  | some reading =>
      obtain ⟨snapshot, uri, reads⟩ := reads_of_readingOf found
      constructor
      · intro fits other same
        obtain rfl := Option.some.inj same
        have room := reads.grace_iff.mp (fits.grace snapshot uri reads.parsed reads.current)
        exact ⟨room, (reads.seek_iff room).mp (fits.seek _ reads.reported)⟩
      · intro sane
        obtain ⟨room, position⟩ := sane reading rfl
        refine ⟨fun ps _ _ positive => elapsed_fits ps positive, ?_, ?_, ?_⟩
        · intro other address parsed current
          obtain rfl := Option.some.inj (reads.parsed.symm.trans parsed)
          obtain rfl := Option.some.inj (reads.current.symm.trans current)
          exact reads.grace_iff.mpr room
        · intro s track reported tracked
          obtain rfl := Option.some.inj (reads.reported.symm.trans reported)
          obtain rfl := Option.some.inj tracked
          obtain ⟨above, below⟩ := reads.measured_progress
          obtain ⟨lower, upper⟩ := reads.measured_duration
          rw [reads.progress_eq room, reads.duration]
          unfold i64Max at *
          unfold Fits
          omega
        · intro s reported
          obtain rfl := Option.some.inj (reads.reported.symm.trans reported)
          exact (reads.seek_iff room).mpr position

/-! ## Two polls -/

/-- Measured positions whose difference to the expected one is in range. -/
theorem difference_iff {progress next : Int} (measured : Measured progress)
    (measured' : Measured next) (moved : Int) :
    (Fits (next - progress) ∧ Fits (next - progress - moved) ∧
      Fits (next - progress - moved).natAbs) ↔
    (progress + moved ≤ next + i64Max ∧ next ≤ progress + moved + i64Max) := by
  obtain ⟨lower, upper⟩ := measured
  obtain ⟨lower', upper'⟩ := measured'
  unfold Fits
  unfold i64Max at *
  omega

section Drift

variable {first second : Poll} {reading next : Reading} {snapshot after : ConnectStateSnapshot}
  {uri other : String}

theorem near_iff (reads : Reads first reading snapshot uri) (reads' : Reads second next after other)
    (sane : reading.Sane) (sane' : next.Sane) (elapsed : Nat) :
    (Fits ((second.stateOf after other).progress - (first.stateOf snapshot uri).progress) ∧
      Fits ((second.stateOf after other).progress - (first.stateOf snapshot uri).progress -
        movedOn (first.stateOf snapshot uri) elapsed) ∧
      Fits ((second.stateOf after other).progress - (first.stateOf snapshot uri).progress -
        movedOn (first.stateOf snapshot uri) elapsed).natAbs) ↔
    reading.Near next elapsed := by
  have moved : movedOn (first.stateOf snapshot uri) elapsed = reading.moved elapsed := by
    rw [movedOn, Reading.moved, reads.isPlaying_eq sane.duration]
  rw [moved, reads.progress_eq sane.duration, reads'.progress_eq sane'.duration,
    difference_iff reads.measured_progress reads'.measured_progress]
  exact ⟨fun bounds => ⟨bounds.1, bounds.2⟩, fun near => ⟨near.behind, near.ahead⟩⟩

/-- The drift of two sane polls stays in range just when they are near each other. -/
theorem driftFits_iff (reads : Reads first reading snapshot uri)
    (reads' : Reads second next after other) (sane : reading.Sane) (sane' : next.Sane)
    (elapsed : Nat) :
    DriftFits first second elapsed ↔ (reading.id = next.id → reading.Near next elapsed) := by
  rw [← near_iff reads reads' sane sane' elapsed, ← reads.id, ← reads'.id]
  constructor
  · intro fits
    exact fits _ _ _ _ reads.reported reads'.reported rfl rfl
  · intro fits s s' track track' reported reported' tracked tracked'
    obtain rfl := Option.some.inj (reads.reported.symm.trans reported)
    obtain rfl := Option.some.inj (reads'.reported.symm.trans reported')
    obtain rfl := Option.some.inj tracked
    obtain rfl := Option.some.inj tracked'
    exact fits

end Drift

/-- All arithmetic on the positions of two consecutive polls stays in range just when a playing
track's duration leaves room for the grace, a running track's position fits into the granule clock,
and the progress of a track polled twice is within `i64::MAX` of the expected one. -/
theorem inRange_iff (first second : Poll) (elapsed : Nat) :
    InRange first second elapsed ↔ Bounded first second elapsed := by
  constructor
  · intro fits
    have sane := (pollFits_iff first).mp fits.before
    have sane' := (pollFits_iff second).mp fits.after
    refine ⟨sane, sane', fun reading next found found' => ?_⟩
    obtain ⟨snapshot, uri, reads⟩ := reads_of_readingOf found
    obtain ⟨after, other, reads'⟩ := reads_of_readingOf found'
    exact (driftFits_iff reads reads' (sane _ found) (sane' _ found') elapsed).mp fits.drift
  · intro bounded
    refine ⟨(pollFits_iff first).mpr bounded.before, (pollFits_iff second).mpr bounded.after, ?_⟩
    cases found : readingOf first with
    | none =>
        intro s s' track track' reported reported' tracked
        rw [getCurrentTrack_of_none found reported] at tracked
        cases tracked
    | some reading =>
        cases found' : readingOf second with
        | none =>
            intro s s' track track' reported reported' tracked tracked'
            rw [getCurrentTrack_of_none found' reported'] at tracked'
            cases tracked'
        | some next =>
            obtain ⟨snapshot, uri, reads⟩ := reads_of_readingOf found
            obtain ⟨after, other, reads'⟩ := reads_of_readingOf found'
            exact (driftFits_iff reads reads' (bounded.before _ found) (bounded.after _ found')
              elapsed).mpr (bounded.near reading next found found')

/-! ## A duration without room for the grace -/

/-- A track which plays, with a duration of `i64::MAX`. -/
def endless : Poll where
  payload := .object [("player_state", .object
    [("track", .string "aaaaaaaaaaaaaaaa"), ("is_playing", .bool true),
      ("duration", .number (.posInt 9223372036854775807))])]
  metadata := fun _ => none
  now := ⟨0, by decide⟩

theorem endless_leaves_range : ¬ ∀ first second elapsed, InRange first second elapsed := by
  intro fits
  have grace := (fits endless endless 0).before.grace _ "spotify:track:aaaaaaaaaaaaaaaa" rfl
    (by decide) (by decide) (by decide)
  exact absurd grace (by decide)

end Togewire.Server
