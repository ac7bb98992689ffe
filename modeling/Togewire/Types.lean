/-!
# Tracks and playback states
-/

namespace Togewire

/-- A Spotify track. -/
structure Track where
  id : String
  name : String := ""
  artist : String := ""
  album : String := ""
  albumArtist : Option String := none
  duration : Int := 0
  explicit : Bool := false
  coverUrl : Option String := none
  releaseDate : Option String := none
  trackNumber : Option Int := none
  discNumber : Option Int := none
  deriving DecidableEq

/-- What one poll of Spotify reports. -/
structure SpotifyState where
  track : Option Track := none
  /-- First entry of the upcoming queue. -/
  nextTrack : Option Track := none
  progress : Int := 0
  isPlaying : Bool := false
  deriving DecidableEq

end Togewire
