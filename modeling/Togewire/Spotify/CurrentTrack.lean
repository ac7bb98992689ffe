import Togewire.Spotify.ConnectState

/-!
# The current track

A poll puts the snapshot and the metadata together.  A playback past the end of its track is over.
Durations and positions are never negative.
-/

namespace Togewire

/-- Fill whatever a track lacks from a weaker source. -/
def Track.fillFrom (track other : Track) : Track :=
  { track with
    name := if (track.name = "" ∨ track.name = track.id) ∧ other.name ≠ "" then other.name
      else track.name
    artist := if (track.artist = "" ∨ track.artist = "Unknown Artist") ∧ other.artist ≠ "" ∧
      other.artist ≠ "Unknown Artist" then other.artist else track.artist
    album := if track.album = "" then other.album else track.album
    albumArtist := track.albumArtist.or other.albumArtist
    explicit := track.explicit || other.explicit
    coverUrl := track.coverUrl.or other.coverUrl
    releaseDate := track.releaseDate.or other.releaseDate
    trackNumber := track.trackNumber.or other.trackNumber
    discNumber := track.discNumber.or other.discNumber }

namespace Spotify

open Parsing Register

/-- The metadata, filled from the fallback, or else the fallback. -/
def knownTrack (metadata fallback : Option Track) : Track :=
  match metadata, fallback with
  | some metadata, some fallback => metadata.fillFrom fallback
  | some metadata, none => metadata
  | none, some fallback => fallback
  | none, none => { id := "" }

/-- `build_track_from_uri` -/
def buildTrackFromUri (uri : String) (metadata fallback : Option Track)
    (durationHint : Option Int) : Track :=
  let track := knownTrack metadata fallback
  let id := if track.id = "" then trackIdFromUri uri else track.id
  { track with
    id := id
    name := if trim track.name = "" then id else track.name
    artist := if trim track.artist = "" then "Unknown Artist" else track.artist
    duration := if track.duration ≤ 0 then (durationHint.map fun ms => max ms 0).getD track.duration
      else track.duration }

/-- The answers a poll gets: the connect state, the metadata of each URI, if any, and the time. -/
structure Poll where
  payload : Parsing.Value
  metadata : String → Option Parsing.Value
  now : Clock

namespace Poll

def snapshot (poll : Poll) : Option ConnectStateSnapshot :=
  parseConnectStateSnapshot poll.payload poll.now

/-- The metadata of a URI, whether it has been cached or not. -/
def fetchTrackMetadata (poll : Poll) (uri : String) : Option Track :=
  if uri = "" then none
  else (poll.metadata uri).bind fun payload => parseMetadataTrack payload (trackIdFromUri uri)

def currentTrack (poll : Poll) (snapshot : ConnectStateSnapshot) (uri : String) : Track :=
  buildTrackFromUri uri (poll.fetchTrackMetadata uri) snapshot.currentTrackFallback
    snapshot.durationMs

/-- Skip advertisements and self-duplicates. -/
def nextTrack (poll : Poll) (snapshot : ConnectStateSnapshot) (track : Track) : Option Track :=
  (snapshot.nextTrackUri.filter fun uri =>
    trackIdFromUri uri ≠ "" ∧ trackIdFromUri uri ≠ track.id).map fun uri =>
      buildTrackFromUri uri (poll.fetchTrackMetadata uri) snapshot.nextTrackFallback none

/-- The grace past the end of a track, in milliseconds. -/
def endGraceMs : Int := 2000

/-- Playback has finished, or the device dropped. -/
def pastEnd (snapshot : ConnectStateSnapshot) (track : Track) : Bool :=
  snapshot.isPlaying && 0 < track.duration &&
    wrap (track.duration + endGraceMs) ≤ snapshot.progressMs

def stateOf (poll : Poll) (snapshot : ConnectStateSnapshot) (uri : String) : SpotifyState :=
  let track := poll.currentTrack snapshot uri
  { track := some track
    nextTrack := poll.nextTrack snapshot track
    progress := if pastEnd snapshot track then track.duration else snapshot.progressMs
    isPlaying := if pastEnd snapshot track then false else snapshot.isPlaying }

/-- `get_current_track`, which fails without a player state. -/
def getCurrentTrack (poll : Poll) : Option SpotifyState :=
  poll.snapshot.map fun snapshot =>
    match snapshot.currentTrackUri with
    | none => {}
    | some uri => poll.stateOf snapshot uri

end Poll

/-! ## Ranges -/

/-- A position or a duration: not negative, and in range. -/
def Measured (value : Int) : Prop := 0 ≤ value ∧ value ≤ i64Max

instance (value : Int) : Decidable (Measured value) := inferInstanceAs (Decidable (_ ∧ _))

theorem measured_max {value : Int} (fits : Fits value) : Measured (max value 0) := by
  unfold Fits at fits
  unfold Measured i64Max
  omega

theorem measured_nodeDuration (value : Parsing.Value) : Measured (nodeDuration value) := by
  have fits := fits_nodeDuration value
  have positive : 0 ≤ nodeDuration value := Int.le_max_right _ _
  unfold Fits at fits
  unfold Measured i64Max
  omega

theorem measured_metadata {payload : Parsing.Value} {id : String} {track : Track}
    (parsed : parseMetadataTrack payload id = some track) : Measured track.duration := by
  obtain ⟨name, -, rfl⟩ := Option.map_eq_some_iff.mp parsed
  change Measured ((positive (payload.get "duration")).getD 0)
  cases read : positive (payload.get "duration") with
  | none => decide
  | some duration =>
      obtain ⟨found, above⟩ := Option.filter_eq_some_iff.mp read
      obtain ⟨value, -, reads⟩ := Option.bind_eq_some_iff.mp found
      have fits := fits_valueAsI64 reads
      have above := of_decide_eq_true above
      unfold Fits at fits
      unfold Measured i64Max
      rw [Option.getD_some]
      omega

theorem measured_fallback {node : Option Parsing.Value} {track : Track}
    (parsed : node.bind parseConnectTrackNode = some track) : Measured track.duration := by
  obtain ⟨value, -, read⟩ := Option.bind_eq_some_iff.mp parsed
  obtain ⟨map, -, found⟩ := Option.bind_eq_some_iff.mp read
  obtain ⟨uri, -, rfl⟩ := Option.map_eq_some_iff.mp found
  exact measured_nodeDuration (.object map)

theorem measured_progressMs (ps : Parsing.Value) (now : Clock) : Measured (progressMs ps now) := by
  obtain ⟨lower, upper⟩ := baseProgress_bounds ps
  unfold progressMs extrapolate saturatingAdd Measured
  unfold i64Max at *
  split <;> omega

theorem measured_knownTrack {metadata fallback : Option Track}
    (strong : ∀ track, metadata = some track → Measured track.duration)
    (weak : ∀ track, fallback = some track → Measured track.duration) :
    Measured (knownTrack metadata fallback).duration := by
  cases metadata with
  | some track =>
      cases fallback with
      | some other => exact strong track rfl
      | none => exact strong track rfl
  | none =>
      cases fallback with
      | some other => exact weak other rfl
      | none => decide

namespace Poll

variable {poll : Poll} {snapshot : ConnectStateSnapshot} {uri : String}

theorem measured_currentTrack (parsed : poll.snapshot = some snapshot) (uri : String) :
    Measured (poll.currentTrack snapshot uri).duration := by
  obtain ⟨ps, -, rfl⟩ := Option.map_eq_some_iff.mp parsed
  have known : Measured (knownTrack (poll.fetchTrackMetadata uri)
      (snapshotOf ps poll.now).currentTrackFallback).duration := by
    apply measured_knownTrack
    · intro track fetched
      obtain ⟨-, found⟩ := Option.ite_none_left_eq_some.mp fetched
      obtain ⟨payload, -, read⟩ := Option.bind_eq_some_iff.mp found
      exact measured_metadata read
    · intro track read
      exact measured_fallback read
  have hinted : ∀ ms, (snapshotOf ps poll.now).durationMs = some ms → Fits ms := by
    intro ms read
    obtain ⟨raw, found, rfl⟩ := Option.map_eq_some_iff.mp read
    have fits := fits_findI64 found
    unfold Fits at *
    omega
  simp only [currentTrack, buildTrackFromUri]
  split
  · cases hint : (snapshotOf ps poll.now).durationMs with
    | none => exact known
    | some ms => exact measured_max (hinted ms hint)
  · exact known

end Poll

end Spotify

end Togewire
