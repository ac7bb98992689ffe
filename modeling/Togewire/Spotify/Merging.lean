import Togewire.Spotify.CurrentTrack
import Togewire.Spotify.TrackIds

/-!
# Merging two sources of a track

A track is put together from its metadata and from the connect state.  What counts as missing
differs from field to field; a field is merged when the track has it as the first source that has
it at all does.
-/

namespace Togewire.Spotify

open Media Parsing Trimming

/-! ## What a source has -/

namespace Has

/-- A name which is neither blank nor the id in its place. -/
def name (id : String) (track : Track) : Option String :=
  if trim track.name = "" ∨ track.name = id then none else some track.name

/-- An artist who is neither blank nor the placeholder. -/
def artist (track : Track) : Option String :=
  if trim track.artist = "" ∨ track.artist = "Unknown Artist" then none else some track.artist

/-- The album, if it is known. -/
def album (track : Track) : Option String := if track.album = "" then none else some track.album

/-- The duration, if it is known. -/
def duration (track : Track) : Option Int :=
  if 0 < track.duration then some track.duration else none

theorem name_eq_some {id : String} {track : Track} {value : String} :
    name id track = some value ↔
      (trim track.name ≠ "" ∧ track.name ≠ id) ∧ track.name = value := by
  rw [name, Option.ite_none_left_eq_some, not_or, Option.some_inj]

theorem name_eq_none {id : String} {track : Track} :
    name id track = none ↔ ¬(trim track.name ≠ "" ∧ track.name ≠ id) := by
  rw [name, ite_eq_left_iff, not_or]
  simp

theorem artist_eq_some {track : Track} {value : String} :
    artist track = some value ↔
      (trim track.artist ≠ "" ∧ track.artist ≠ "Unknown Artist") ∧ track.artist = value := by
  rw [artist, Option.ite_none_left_eq_some, not_or, Option.some_inj]

theorem artist_eq_none {track : Track} :
    artist track = none ↔ ¬(trim track.artist ≠ "" ∧ track.artist ≠ "Unknown Artist") := by
  rw [artist, ite_eq_left_iff, not_or]
  simp

theorem album_eq_some {track : Track} {value : String} :
    album track = some value ↔ track.album ≠ "" ∧ track.album = value := by
  rw [album, Option.ite_none_left_eq_some, Option.some_inj]

theorem duration_eq_some {track : Track} {value : Int} :
    duration track = some value ↔ 0 < track.duration ∧ track.duration = value := by
  rw [duration, Option.ite_none_right_eq_some, Option.some_inj]

theorem duration_eq_none {track : Track} : duration track = none ↔ track.duration ≤ 0 := by
  rw [duration, ite_eq_right_iff]
  constructor
  · intro never
    by_contra positive
    exact absurd (never (by omega)) (by simp)
  · intro missing positive
    omega

end Has

/-- What the first source which has a field has there. -/
def firstOf {α : Type} (field : Track → Option α) (metadata fallback : Option Track) : Option α :=
  (metadata.bind field).or (fallback.bind field)

theorem firstOf_some {α : Type} {field : Track → Option α} {metadata fallback : Track} {value : α} :
    firstOf field (some metadata) (some fallback) = some value ↔
      field metadata = some value ∨ field metadata = none ∧ field fallback = some value :=
  Option.or_eq_some_iff

/-- The track has a field as the first source which has it. -/
def Keeps {α : Type} (field : Track → Option α) (metadata fallback : Option Track)
    (track : Track) : Prop :=
  ∀ value, firstOf field metadata fallback = some value → field track = some value

/-- Nothing of the two sources is lost. -/
structure Merges (uri : String) (metadata fallback : Option Track) (track : Track) : Prop where
  id : track.id = trackIdFromUri uri
  named : trim track.name ≠ "" ∧ trim track.artist ≠ ""
  name : Keeps (Has.name (trackIdFromUri uri)) metadata fallback track
  artist : Keeps Has.artist metadata fallback track
  album : Keeps Has.album metadata fallback track
  albumArtist : Keeps Track.albumArtist metadata fallback track
  duration : Keeps Has.duration metadata fallback track
  coverUrl : Keeps Track.coverUrl metadata fallback track
  releaseDate : Keeps Track.releaseDate metadata fallback track
  trackNumber : Keeps Track.trackNumber metadata fallback track
  discNumber : Keeps Track.discNumber metadata fallback track
  explicit : track.explicit = (metadata.any Track.explicit || fallback.any Track.explicit)

/-- The gaps of the metadata are ones the fallback fills, or leaves too: no blank name or artist
which is not empty, and no missing duration unless the hint is the fallback's. -/
structure Fills (uri : String) (metadata fallback : Track) (durationHint : Option Int) : Prop where
  name : trim metadata.name = "" → metadata.name ≠ "" →
    Has.name (trackIdFromUri uri) fallback = none
  artist : trim metadata.artist = "" → metadata.artist ≠ "" → Has.artist fallback = none
  duration : Has.duration metadata = none →
    Has.duration fallback = none ∨ durationHint = some fallback.duration

theorem trim_empty : trim "" = "" := rfl

/-! ## One source -/

theorem trim_trackIdFromUri {uri : String} (names : trackIdFromUri uri ≠ "") :
    trim (trackIdFromUri uri) ≠ "" := by
  rw [trackIdFromUri_eq] at names ⊢
  cases found : idPiece uri with
  | none => simp [found] at names
  | some piece =>
      have isId := isProbable_iff.mp (idPiece_cases found).1
      intro blank
      have text : String.ofList (strip isWhitespace piece) = String.ofList [] := by
        rw [← String.toList_ofList (l := piece)]
        exact blank
      exact isId.nonempty (String.ofList_injective text)

section Build

variable {uri : String} {metadata fallback : Option Track} {durationHint : Option Int}

theorem build_id (same : ∀ track, metadata = some track → track.id = trackIdFromUri uri)
    (weak : ∀ track, fallback = some track → track.id = trackIdFromUri uri) :
    (buildTrackFromUri uri metadata fallback durationHint).id = trackIdFromUri uri := by
  have known : (knownTrack metadata fallback).id = "" ∨
      (knownTrack metadata fallback).id = trackIdFromUri uri := by
    cases metadata with
    | some track =>
        cases fallback with
        | some other => exact Or.inr (same track rfl)
        | none => exact Or.inr (same track rfl)
    | none =>
        cases fallback with
        | some other => exact Or.inr (weak other rfl)
        | none => exact Or.inl rfl
  simp only [buildTrackFromUri]
  split
  · rfl
  · rename_i present
    exact known.resolve_left present

theorem build_name :
    (buildTrackFromUri uri metadata fallback durationHint).name =
      if trim (knownTrack metadata fallback).name = "" then
        (buildTrackFromUri uri metadata fallback durationHint).id
      else (knownTrack metadata fallback).name := by
  simp only [buildTrackFromUri]

theorem build_artist :
    (buildTrackFromUri uri metadata fallback durationHint).artist =
      if trim (knownTrack metadata fallback).artist = "" then "Unknown Artist"
      else (knownTrack metadata fallback).artist := by
  simp only [buildTrackFromUri]

theorem build_duration :
    (buildTrackFromUri uri metadata fallback durationHint).duration =
      if (knownTrack metadata fallback).duration ≤ 0 then
        (durationHint.map fun ms => max ms 0).getD (knownTrack metadata fallback).duration
      else (knownTrack metadata fallback).duration := by
  simp only [buildTrackFromUri]

theorem has_name_build {value : String}
    (known : Has.name (trackIdFromUri uri) (knownTrack metadata fallback) = some value) :
    Has.name (trackIdFromUri uri) (buildTrackFromUri uri metadata fallback durationHint) =
      some value := by
  obtain ⟨present, named⟩ := Has.name_eq_some.mp known
  have kept : (buildTrackFromUri uri metadata fallback durationHint).name =
      (knownTrack metadata fallback).name := by
    rw [build_name, if_neg present.1]
  apply Has.name_eq_some.mpr
  rw [kept]
  exact ⟨present, named⟩

theorem has_artist_build {value : String}
    (known : Has.artist (knownTrack metadata fallback) = some value) :
    Has.artist (buildTrackFromUri uri metadata fallback durationHint) = some value := by
  obtain ⟨present, named⟩ := Has.artist_eq_some.mp known
  have kept : (buildTrackFromUri uri metadata fallback durationHint).artist =
      (knownTrack metadata fallback).artist := by
    rw [build_artist, if_neg present.1]
  apply Has.artist_eq_some.mpr
  rw [kept]
  exact ⟨present, named⟩

theorem has_duration_build {value : Int}
    (known : Has.duration (knownTrack metadata fallback) = some value) :
    Has.duration (buildTrackFromUri uri metadata fallback durationHint) = some value := by
  obtain ⟨positive, length⟩ := Has.duration_eq_some.mp known
  have kept : (buildTrackFromUri uri metadata fallback durationHint).duration =
      (knownTrack metadata fallback).duration := by
    rw [build_duration, if_neg (by omega)]
  apply Has.duration_eq_some.mpr
  rw [kept]
  exact ⟨positive, length⟩

/-- The track of a URI always has a name and an artist to show. -/
theorem build_named (names : trackIdFromUri uri ≠ "")
    (id : (buildTrackFromUri uri metadata fallback durationHint).id = trackIdFromUri uri) :
    trim (buildTrackFromUri uri metadata fallback durationHint).name ≠ "" ∧
      trim (buildTrackFromUri uri metadata fallback durationHint).artist ≠ "" := by
  constructor
  · rw [build_name, id]
    split
    · exact trim_trackIdFromUri names
    · assumption
  · rw [build_artist]
    split
    · decide
    · assumption

end Build

/-! ## Two sources -/

section Fill

variable {uri : String} {metadata fallback : Track} {durationHint : Option Int}

theorem fillFrom_name : (metadata.fillFrom fallback).name =
    if (metadata.name = "" ∨ metadata.name = metadata.id) ∧ fallback.name ≠ "" then fallback.name
    else metadata.name := rfl

theorem fillFrom_artist : (metadata.fillFrom fallback).artist =
    if (metadata.artist = "" ∨ metadata.artist = "Unknown Artist") ∧ fallback.artist ≠ "" ∧
        fallback.artist ≠ "Unknown Artist" then
      fallback.artist
    else metadata.artist := rfl

theorem fillFrom_album : (metadata.fillFrom fallback).album =
    if metadata.album = "" then fallback.album else metadata.album := rfl

/-- Of two texts the first is kept if it tells anything, and else the second, unless the first is a
blank that is not empty. -/
theorem fill_text {dummy own other filled value : String}
    (kept : ¬(own = "" ∨ own = dummy) → filled = own)
    (taken : own = "" ∨ own = dummy → other ≠ "" → other ≠ dummy → filled = other)
    (fills : trim own = "" → own ≠ "" → ¬(trim other ≠ "" ∧ other ≠ dummy))
    (first : (trim own ≠ "" ∧ own ≠ dummy) ∧ own = value ∨
      ¬(trim own ≠ "" ∧ own ≠ dummy) ∧ (trim other ≠ "" ∧ other ≠ dummy) ∧ other = value) :
    (trim filled ≠ "" ∧ filled ≠ dummy) ∧ filled = value := by
  have nonempty {text : String} (present : trim text ≠ "") : text ≠ "" := by
    rintro rfl
    exact present trim_empty
  rcases first with ⟨present, named⟩ | ⟨missing, present, named⟩
  · have same : filled = own := by
      apply kept
      rintro (empty | placeholder)
      · exact nonempty present.1 empty
      · exact present.2 placeholder
    rw [same]
    exact ⟨present, named⟩
  · have lacks : own = "" ∨ own = dummy := by
      by_contra neither
      obtain ⟨some, different⟩ := not_or.mp neither
      by_cases blank : trim own = ""
      · exact fills blank some present
      · exact missing ⟨blank, different⟩
    rw [taken lacks (nonempty present.1) present.2]
    exact ⟨present, named⟩

theorem fill_name (own : metadata.id = trackIdFromUri uri)
    (fills : trim metadata.name = "" → metadata.name ≠ "" →
      Has.name (trackIdFromUri uri) fallback = none) :
    Keeps (Has.name (trackIdFromUri uri)) (some metadata) (some fallback)
      (metadata.fillFrom fallback) := by
  intro value first
  rw [firstOf_some, Has.name_eq_some, Has.name_eq_none, Has.name_eq_some] at first
  apply Has.name_eq_some.mpr
  apply fill_text _ _ _ first
  · intro neither
    rw [fillFrom_name, own, if_neg (fun gap => neither gap.1)]
  · intro lacks nonempty _
    rw [fillFrom_name, own, if_pos ⟨lacks, nonempty⟩]
  · exact fun blank filled => Has.name_eq_none.mp (fills blank filled)

theorem fill_artist
    (fills : trim metadata.artist = "" → metadata.artist ≠ "" → Has.artist fallback = none) :
    Keeps Has.artist (some metadata) (some fallback) (metadata.fillFrom fallback) := by
  intro value first
  rw [firstOf_some, Has.artist_eq_some, Has.artist_eq_none, Has.artist_eq_some] at first
  apply Has.artist_eq_some.mpr
  apply fill_text _ _ _ first
  · intro neither
    rw [fillFrom_artist, if_neg (fun gap => neither gap.1)]
  · intro lacks nonempty different
    rw [fillFrom_artist, if_pos ⟨lacks, nonempty, different⟩]
  · exact fun blank filled => Has.artist_eq_none.mp (fills blank filled)

theorem fill_album :
    Keeps Has.album (some metadata) (some fallback) (metadata.fillFrom fallback) := by
  intro value first
  rcases firstOf_some.mp first with has | ⟨missing, other⟩
  · obtain ⟨present, named⟩ := Has.album_eq_some.mp has
    have kept : (metadata.fillFrom fallback).album = metadata.album := by
      rw [fillFrom_album, if_neg present]
    rw [Has.album, kept, if_neg present, named]
  · have empty : metadata.album = "" := by
      by_contra present
      rw [Has.album_eq_some.mpr ⟨present, rfl⟩] at missing
      cases missing
    have taken : (metadata.fillFrom fallback).album = fallback.album := by
      rw [fillFrom_album, if_pos empty]
    rw [Has.album, taken]
    exact other

end Fill

section Keep

variable {α : Type} {field : Track → Option α} {metadata fallback : Option Track}

/-- With one source, there is nothing to fill. -/
theorem keeps_known
    (fills : ∀ track other, metadata = some track → fallback = some other →
      Keeps field (some track) (some other) (track.fillFrom other)) :
    Keeps field metadata fallback (knownTrack metadata fallback) := by
  intro value first
  cases metadata with
  | some track =>
      cases fallback with
      | some other => exact fills track other rfl rfl value first
      | none => simpa [firstOf, knownTrack] using first
  | none =>
      cases fallback with
      | some other => simpa [firstOf, knownTrack] using first
      | none => simp [firstOf] at first

theorem keeps_option (field : Track → Option α)
    (filled : ∀ track other : Track,
      field (track.fillFrom other) = (field track).or (field other)) :
    Keeps field metadata fallback (knownTrack metadata fallback) := by
  apply keeps_known
  intro track other _ _ value first
  rw [filled]
  exact first

theorem Keeps.step {known track : Track} (keeps : Keeps field metadata fallback known)
    (step : ∀ value, field known = some value → field track = some value) :
    Keeps field metadata fallback track :=
  fun value first => step value (keeps value first)

end Keep

section Both

variable {uri : String} {metadata fallback : Option Track} {durationHint : Option Int}

theorem explicit_build : (buildTrackFromUri uri metadata fallback durationHint).explicit =
    (metadata.any Track.explicit || fallback.any Track.explicit) := by
  have known : (buildTrackFromUri uri metadata fallback durationHint).explicit =
      (knownTrack metadata fallback).explicit := rfl
  rw [known]
  cases metadata with
  | none => cases fallback <;> simp [knownTrack]
  | some track =>
      cases fallback with
      | none => simp [knownTrack]
      | some other => rfl

/-- The hint fills in for the duration which the fallback is not asked for. -/
theorem keeps_duration
    (fills : ∀ track other, metadata = some track → fallback = some other →
      Has.duration track = none →
      Has.duration other = none ∨ durationHint = some other.duration) :
    Keeps Has.duration metadata fallback
      (buildTrackFromUri uri metadata fallback durationHint) := by
  intro value first
  by_cases known : Has.duration (knownTrack metadata fallback) = some value
  · exact has_duration_build known
  · cases metadata with
    | none =>
        cases fallback with
        | none => simp [firstOf] at first
        | some other => exact absurd first known
    | some track =>
        cases fallback with
        | none =>
            have own : Has.duration track = some value := by simpa [firstOf] using first
            exact absurd own known
        | some other =>
            rcases firstOf_some.mp first with own | ⟨missing, weak⟩
            · exact absurd own known
            · have lacks : (knownTrack (some track) (some other)).duration ≤ 0 :=
                Has.duration_eq_none.mp missing
              rcases fills track other rfl rfl missing with none | hinted
              · rw [none] at weak
                cases weak
              · obtain ⟨positive, rfl⟩ := Has.duration_eq_some.mp weak
                have length :
                    (buildTrackFromUri uri (some track) (some other) durationHint).duration =
                      other.duration := by
                  rw [build_duration, if_pos lacks, hinted]
                  show max other.duration 0 = other.duration
                  omega
                rw [Has.duration, length, if_pos positive]

end Both

/-! ## What a gap loses -/

section Lost

variable {uri : String} {metadata fallback : Track} {durationHint : Option Int}

/-- A name of spaces stands in the way of the one of the fallback. -/
theorem lost_name (own : metadata.id = trackIdFromUri uri) (names : trackIdFromUri uri ≠ "")
    (blank : trim metadata.name = "") (nonempty : metadata.name ≠ "")
    (id : (buildTrackFromUri uri (some metadata) (some fallback) durationHint).id =
      trackIdFromUri uri) :
    Has.name (trackIdFromUri uri)
      (buildTrackFromUri uri (some metadata) (some fallback) durationHint) = none := by
  have kept : (knownTrack (some metadata) (some fallback)).name = metadata.name := by
    rw [knownTrack, fillFrom_name]
    apply if_neg
    rintro ⟨empty | named, -⟩
    · exact nonempty empty
    · apply trim_trackIdFromUri names
      rw [← own, ← named, blank]
  have shown : (buildTrackFromUri uri (some metadata) (some fallback) durationHint).name =
      trackIdFromUri uri := by
    rw [build_name, kept, if_pos blank, id]
  rw [Has.name, if_pos (Or.inr shown)]

theorem lost_artist (blank : trim metadata.artist = "") (nonempty : metadata.artist ≠ "") :
    Has.artist (buildTrackFromUri uri (some metadata) (some fallback) durationHint) = none := by
  have kept : (knownTrack (some metadata) (some fallback)).artist = metadata.artist := by
    rw [knownTrack, fillFrom_artist]
    apply if_neg
    rintro ⟨empty | unknown, -⟩
    · exact nonempty empty
    · rw [unknown] at blank
      exact absurd blank (by decide)
  have shown : (buildTrackFromUri uri (some metadata) (some fallback) durationHint).artist =
      "Unknown Artist" := by
    rw [build_artist, kept, if_pos blank]
  rw [Has.artist, if_pos (Or.inr shown)]

/-- A duration the metadata lacks can only come from the hint. -/
theorem hinted_of_duration {value : Int} (missing : Has.duration metadata = none)
    (has : Has.duration (buildTrackFromUri uri (some metadata) (some fallback) durationHint) =
      some value) : durationHint = some value := by
  have lacks : (knownTrack (some metadata) (some fallback)).duration ≤ 0 :=
    Has.duration_eq_none.mp missing
  obtain ⟨positive, rfl⟩ := Has.duration_eq_some.mp has
  rw [build_duration, if_pos lacks] at positive ⊢
  cases durationHint with
  | none => exact absurd positive (not_lt.mpr lacks)
  | some ms =>
      have filled : 0 < max ms 0 := positive
      show some ms = some (max ms 0)
      rw [max_eq_left (by omega)]

end Lost

/-- The merge loses nothing just where the fallback has nothing for the gaps it is not asked to
fill. -/
theorem merges_iff {uri : String} {metadata fallback : Option Track} {durationHint : Option Int}
    (names : trackIdFromUri uri ≠ "")
    (own : ∀ track, metadata = some track → track.id = trackIdFromUri uri)
    (weak : ∀ track, fallback = some track → track.id = trackIdFromUri uri) :
    Merges uri metadata fallback (buildTrackFromUri uri metadata fallback durationHint) ↔
      ∀ track other, metadata = some track → fallback = some other →
        Fills uri track other durationHint := by
  have id : (buildTrackFromUri uri metadata fallback durationHint).id = trackIdFromUri uri :=
    build_id own weak
  constructor
  · intro merges track other rfl rfl
    constructor
    · intro blank nonempty
      by_contra has
      obtain ⟨value, has⟩ := Option.ne_none_iff_exists'.mp has
      have gap : Has.name (trackIdFromUri uri) track = none := if_pos (Or.inl blank)
      have kept := merges.name value (by simp [firstOf, gap, has])
      rw [lost_name (own track rfl) names blank nonempty id] at kept
      cases kept
    · intro blank nonempty
      by_contra has
      obtain ⟨value, has⟩ := Option.ne_none_iff_exists'.mp has
      have gap : Has.artist track = none := if_pos (Or.inl blank)
      have kept := merges.artist value (by simp [firstOf, gap, has])
      rw [lost_artist blank nonempty] at kept
      cases kept
    · intro missing
      cases has : Has.duration other with
      | none => exact Or.inl rfl
      | some value =>
          right
          have kept := merges.duration value (by simp [firstOf, missing, has])
          rw [hinted_of_duration missing kept, (Has.duration_eq_some.mp has).2]
  · intro fills
    constructor
    · exact id
    · exact build_named names id
    · apply Keeps.step (keeps_known _) fun _ => has_name_build
      intro track other hmeta hfallback
      exact fill_name (own track hmeta) (fills track other hmeta hfallback).name
    · apply Keeps.step (keeps_known _) fun _ => has_artist_build
      intro track other hmeta hfallback
      exact fill_artist (fills track other hmeta hfallback).artist
    · apply Keeps.step (keeps_known _) fun _ has => has
      intro track other _ _
      exact fill_album
    · exact keeps_option Track.albumArtist fun _ _ => rfl
    · apply keeps_duration
      intro track other hmeta hfallback
      exact (fills track other hmeta hfallback).duration
    · exact keeps_option Track.coverUrl fun _ _ => rfl
    · exact keeps_option Track.releaseDate fun _ _ => rfl
    · exact keeps_option Track.trackNumber fun _ _ => rfl
    · exact keeps_option Track.discNumber fun _ _ => rfl
    · exact explicit_build

theorem hinted_merges :
    trackIdFromUri "spotify:track:0123456789abcdef" ≠ "" ∧
      Merges "spotify:track:0123456789abcdef"
        (some { id := "0123456789abcdef", name := "Song" })
        (some { id := "0123456789abcdef", artist := "Band", duration := 200000 })
        (buildTrackFromUri "spotify:track:0123456789abcdef"
          (some { id := "0123456789abcdef", name := "Song" })
          (some { id := "0123456789abcdef", artist := "Band", duration := 200000 })
          (some 200000)) := by
  have named : trackIdFromUri "spotify:track:0123456789abcdef" = "0123456789abcdef" := by
    decide +kernel
  have names : trackIdFromUri "spotify:track:0123456789abcdef" ≠ "" := by
    rw [named]
    decide
  refine ⟨names, (merges_iff names ?_ ?_).mpr ?_⟩
  · intro track same
    rw [named, ← Option.some.inj same]
  · intro track same
    rw [named, ← Option.some.inj same]
  · intro track other same weak
    obtain rfl := Option.some.inj same
    obtain rfl := Option.some.inj weak
    constructor
    · intro blank
      exact absurd blank (by decide)
    · intro _ nonempty
      exact absurd rfl nonempty
    · intro _
      exact Or.inr rfl

/-- The duration of the next track, which no hint gives, is not taken from the connect state. -/
theorem next_duration_lost :
    ¬ ∀ (uri : String) (metadata fallback : Option Track) (durationHint : Option Int),
      trackIdFromUri uri ≠ "" →
      (∀ track, metadata = some track → track.id = trackIdFromUri uri) →
      (∀ track, fallback = some track → track.id = trackIdFromUri uri) →
      Merges uri metadata fallback (buildTrackFromUri uri metadata fallback durationHint) := by
  intro merges
  have named : trackIdFromUri "spotify:track:0123456789abcdef" = "0123456789abcdef" := by
    decide +kernel
  have merged := merges "spotify:track:0123456789abcdef"
    (some { id := "0123456789abcdef", name := "Song", artist := "Band" })
    (some { id := "0123456789abcdef", name := "Song", artist := "Band", duration := 200000 })
    none (by rw [named]; decide)
    (by intro track same; rw [named, ← Option.some.inj same])
    (by intro track same; rw [named, ← Option.some.inj same])
  exact absurd (merged.duration 200000 (by decide)) (by decide)

end Togewire.Spotify
