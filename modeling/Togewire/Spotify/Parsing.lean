import Togewire.Foundation.Json
import Togewire.Foundation.Register
import Togewire.Media.Names
import Togewire.Spotify.RateLimit

/-!
# Reading Spotify's JSON

Connect-state is undocumented and drifts between camelCase and snake_case, so every lookup tries
each known spelling.  What stands for a track is looked for in its `uri` first, then under a few
keys, and at last everywhere below.
-/

namespace Togewire.Spotify.Parsing

open Media Register

/-- A `serde_json::Number`.  Nothing here reads a float. -/
inductive Number
  | posInt (value : UInt64)
  | negInt (value : Int64)
  | float
  deriving DecidableEq

/-- `serde_json::Value` -/
abbrev Value := Json Number

/-- `serde_json::Map` -/
abbrev Map := List (String × Value)

/-! ## Scalars -/

def trim (text : String) : String := String.ofList (Trimming.strip isWhitespace text.toList)

/-- `as_i64` -/
def Number.asI64 : Number → Option Int
  | posInt value => if value.toNat < 2 ^ 63 then some value.toNat else none
  | negInt value => some value.toInt
  | float => none

/-- `as_u64` -/
def Number.asU64 : Number → Option Nat
  | posInt value => some value.toNat
  | negInt _ | float => none

def asStr : Value → Option String
  | .string text => some text
  | _ => none

def asArray : Value → Option (List Value)
  | .array items => some items
  | _ => none

def asObject : Value → Option Map
  | .object fields => some fields
  | _ => none

def asU64 : Value → Option Nat
  | .number number => number.asU64
  | _ => none

def asI64 : Value → Option Int
  | .number number => number.asI64
  | _ => none

/-- `parse` for a signed integer of some width: digits after an optional sign. -/
def parseInt (bits : Nat) (text : String) : Option Int :=
  let (sign, digits) : Int × List Char :=
    match text.toList with
    | '-' :: digits => (-1, digits)
    | '+' :: digits => (1, digits)
    | digits => (1, digits)
  if digits = [] then
    none
  else
    ((RateLimit.parseDigits 0 digits).map fun value => sign * value).filter fun value =>
      -2 ^ (bits - 1) ≤ value ∧ value < 2 ^ (bits - 1)

/-- `value_as_i64`: a number, or a text which reads as one. -/
def valueAsI64 : Value → Option Int
  | .number number => number.asI64.or (number.asU64.map fun value => wrap value)
  | .string text => parseInt 64 (trim text)
  | _ => none

def asciiLowercase (text : String) : String := String.ofList (text.toList.map Char.toLower)

def asciiUppercase (text : String) : String := String.ofList (text.toList.map Char.toUpper)

/-- `value_as_bool`: a boolean, a number, or a text which reads as one. -/
def valueAsBool : Value → Option Bool
  | .bool value => some value
  | .string text =>
      match asciiLowercase (trim text) with
      | "true" | "1" => some true
      | "false" | "0" => some false
      | _ => none
  | .number number => number.asI64.map fun value => value ≠ 0
  | _ => none

/-- Trimmed, non-empty string value. -/
def nonemptyStr (value : Option Value) : Option String :=
  ((value.bind asStr).map trim).filter fun text => text ≠ ""

/-- First of `keys` present (searched recursively) that reads as an integer. -/
def findI64 (value : Value) (keys : List String) : Option Int :=
  keys.findSome? fun key => (value.find key).bind valueAsI64

/-- `n as i32` -/
def wrap32 (value : Int) : Int := value.bmod (2 ^ 32)

/-! ## Track URIs -/

def stripStart : List Char → List Char → Option (List Char)
  | [], text => some text
  | _ :: _, [] => none
  | c :: pattern, d :: text => if c = d then stripStart pattern text else none

/-- What follows the first match of a pattern. -/
def afterFirst (pattern : List Char) : List Char → Option (List Char)
  | [] => stripStart pattern []
  | c :: text =>
      match stripStart pattern (c :: text) with
      | some rest => some rest
      | none => afterFirst pattern text

/-- `is_probable_spotify_id` -/
def isProbableSpotifyId (raw : List Char) : Bool :=
  let trimmed := Trimming.strip isWhitespace raw
  16 ≤ (trimmed.map Char.utf8Size).sum && trimmed.all Char.isAlphanum

/-- `normalize_track_uri` -/
def normalizeTrackUri (raw : String) : Option String :=
  let trimmed := Trimming.strip isWhitespace raw.toList
  let named := ((stripStart "spotify:track:".toList trimmed).or
    (stripStart "track:".toList trimmed)).filter isProbableSpotifyId
  let linked := ((afterFirst "/track/".toList trimmed).map fun rest =>
    rest.takeWhile fun c => c ∉ ['?', '/', '&', '#']).filter isProbableSpotifyId
  let bare := if isProbableSpotifyId trimmed then some trimmed else none
  ((named.or linked).or bare).map fun id => String.ofList ("spotify:track:".toList ++ id)

/-- `track_id_from_uri` -/
def trackIdFromUri (uri : String) : String :=
  (((normalizeTrackUri uri).bind fun normal =>
    stripStart "spotify:track:".toList normal.toList).map String.ofList).getD ""

/-- `extract_track_uri` -/
def extractTrackUri : Value → Option String :=
  Json.fold fun value items fields =>
    match value with
    | .string raw => normalizeTrackUri raw
    | .object map =>
        ((((map.lookup "uri").bind asStr).bind normalizeTrackUri).or
          (["track", "current_track", "context_track", "item", "metadata"].findSome? fun key =>
            (fields.lookup key).join)).or
          (fields.findSome? Prod.snd)
    | .array _ => items.findSome? id
    | _ => none

/-! ## Track nodes -/

/-- `ALBUM_KEYS` -/
def albumKeys : List String := ["albumOfTrack", "album_of_track", "album"]

/-- `TRACK_NUMBER_KEYS` -/
def trackNumberKeys : List String :=
  ["trackNumber", "track_number", "number", "track_player_state"]

/-- `DISC_NUMBER_KEYS` -/
def discNumberKeys : List String := ["discNumber", "disc_number"]

/-- Connect-state metadata values are all strings. -/
def metadataStr (map : Map) (keys : List String) : Option String :=
  ((map.lookup "metadata").bind asObject).bind fun fields =>
    keys.findSome? fun key => nonemptyStr (fields.lookup key)

/-- The names of all artists. -/
def joinNames (names : List String) : Option String :=
  if names = [] then none else some (", ".intercalate names)

/-- The artists from one index on.  No more of them are listed than there are fields. -/
def artistsFrom (fields : Map) : Nat → Nat → List String
  | 0, _ => []
  | rounds + 1, index =>
      match nonemptyStr (fields.lookup s!"artist_name:{index}") with
      | some name => name :: artistsFrom fields rounds (index + 1)
      | none => []

/-- Connect-state lists artists as `artist_name`, `artist_name:1`, `artist_name:2`... -/
def connectArtists (map : Map) : Option String :=
  ((map.lookup "metadata").bind asObject).bind fun fields =>
    match nonemptyStr (fields.lookup "artist_name") with
    | some name => joinNames (name :: artistsFrom fields fields.length 1)
    | none => none

/-- `extract_first_artist_name` -/
def extractFirstArtistName : Value → Option String :=
  Json.fold fun value items fields =>
    match value with
    | .string _ => nonemptyStr (some value)
    | .array _ => items.findSome? id
    -- `profile.name` is the display name
    | .object map =>
        ((nonemptyStr ((map.lookup "profile").bind (Json.get "name"))).or
          (nonemptyStr (map.lookup "name"))).or (fields.lookup "items").join
    | _ => none

/-- `album_name_from_value` -/
def albumNameFromValue : Value → Option String :=
  Json.fold fun value _ fields =>
    match value with
    | .string _ => nonemptyStr (some value)
    | .object map => (nonemptyStr (map.lookup "name")).or (fields.lookup "album").join
    | _ => none

/-- `extract_album_name` -/
def extractAlbumName (map : Map) : Option String :=
  albumKeys.findSome? fun key => (map.lookup key).bind albumNameFromValue

/-- `normalize_cover_url` -/
def normalizeCoverUrl (raw : String) : Option String :=
  let trimmed := Trimming.strip isWhitespace raw.toList
  let linked := ["http://", "https://"].any fun scheme =>
    (stripStart scheme.toList trimmed).isSome
  if linked then
    some (String.ofList trimmed)
  else
    match stripStart "spotify:image:".toList trimmed with
    | some id =>
        if id ≠ [] && id.all isAsciiHexdigit then
          some (String.ofList ("https://i.scdn.co/image/".toList ++ id))
        else
          none
    | none => none
where
  isAsciiHexdigit (c : Char) : Bool :=
    c.isDigit || ('a' ≤ c && c ≤ 'f') || ('A' ≤ c && c ≤ 'F')

/-- The entry of the greatest key, the last one of several. -/
def maxByKey {α : Type} (key : α → Nat) (entries : List α) : Option α :=
  entries.foldl
    (fun best entry =>
      match best with
      | none => some entry
      | some other => if key other ≤ key entry then some entry else some other)
    none

/-- Widest source wins; ties go to the later entry. -/
def widestSource (sources : List Value) : Option String :=
  (maxByKey Prod.fst (sources.filterMap fun source =>
    ((source.get "url").bind asStr).map fun url =>
      (((source.get "width").bind asU64).getD 0, url))).map Prod.snd

/-- `cover_url_from_map` of an object, nothing of other values. -/
def coverUrlFromValue : Value → Option String :=
  Json.fold fun value _ fields =>
    match value with
    | .object map =>
        (((["coverArt", "cover_art", "cover", "visualIdentity"].findSome? fun key =>
          (fields.lookup key).join).or
          (((map.lookup "sources").bind asArray).bind widestSource)).or
          (((map.lookup "images").bind asArray).bind fun images =>
            images.findSome? fun image => (image.get "url").bind asStr)).or
          (["image_xlarge_url", "image_large_url", "image_url", "url"].findSome? fun key =>
            ((map.lookup key).bind asStr).bind normalizeCoverUrl)
    | _ => none

/-- `extract_cover_url` -/
def extractCoverUrl (map : Map) : Option String :=
  (albumKeys.findSome? fun key => (map.lookup key).bind coverUrlFromValue).or
    (coverUrlFromValue (.object map))

/-- The date a single field gives. -/
def releaseDateOf : Value → Option String
  | .string text => if trim text ≠ "" then some (trim text) else none
  | .object fields =>
      (((fields.lookup "isoString").bind asStr).map trim).or
        (((fields.lookup "year").bind asI64).map toString)
  | _ => none

/-- `extract_release_date` of an object, nothing of other values. -/
def releaseDateFromValue : Value → Option String :=
  Json.fold fun value _ fields =>
    match value with
    | .object map =>
        (albumKeys.findSome? fun key => (fields.lookup key).join).or
          (["releaseDate", "release_date", "date"].findSome? fun key =>
            (map.lookup key).bind releaseDateOf)
    | _ => none

/-- `int_field`: the first of these keys with a number. -/
def intField (map : Map) (keys : List String) : Option Int :=
  (keys.findSome? fun key => (map.lookup key).bind valueAsI64).map wrap32

/-- `content_rating_label` -/
def contentRatingLabel (label : String) : Option Bool :=
  match asciiUppercase (trim label) with
  | "EXPLICIT" | "TRUE" | "1" => some true
  | "NONE" | "CLEAN" | "NOT_EXPLICIT" | "FALSE" | "0" => some false
  | _ => none

/-- `content_rating_explicit` -/
def contentRatingExplicit : Value → Option Bool
  | .object fields =>
      (["label", "value"].findSome? fun key =>
        ((fields.lookup key).bind asStr).bind contentRatingLabel).or
        ((fields.lookup "explicit").bind valueAsBool)
  | .string label => contentRatingLabel label
  | _ => none

/-- `extract_explicit` is what this makes of an object. -/
def explicitFromValue : Value → Option Bool :=
  Json.fold fun value items fields =>
    match value with
    | .object map =>
        ((["isExplicit", "is_explicit", "explicit"].findSome? fun key =>
          (map.lookup key).bind valueAsBool).or
          (["contentRating", "content_rating"].findSome? fun key =>
            (map.lookup key).bind contentRatingExplicit)).or
          (["metadata", "track", "item", "attributes"].findSome? fun key =>
            (fields.lookup key).join)
    | .array _ => items.findSome? id
    | .string label => contentRatingLabel label
    | _ => none

/-- The duration a node gives. -/
def nodeDuration (value : Value) : Int :=
  max ((findI64 value ["duration", "duration_ms"]).getD 0) 0

/-- The track of an object that has a URI. -/
def connectTrack (map : Map) (uri : String) : Track :=
  let id := trackIdFromUri uri
  { id := id
    name :=
      ((metadataStr map ["title", "name"]).or (nonemptyStr (map.lookup "name"))).getD id
    artist :=
      (((connectArtists map).or (metadataStr map ["artists"])).or
        ((map.lookup "artist").bind extractFirstArtistName)).getD ""
    album :=
      ((metadataStr map ["album_title", "album_name"]).or (extractAlbumName map)).getD ""
    albumArtist := none
    duration := nodeDuration (.object map)
    explicit := (explicitFromValue (.object map)).getD false
    coverUrl :=
      ((metadataStr map
        ["image_xlarge_url", "image_large_url", "image_url", "image_small_url"]).bind
        normalizeCoverUrl).or (extractCoverUrl map)
    releaseDate :=
      (metadataStr map ["release_date"]).or (releaseDateFromValue (.object map))
    trackNumber :=
      ((metadataStr map ["track_player_state", "track_number"]).bind (parseInt 32)).or
        (intField map trackNumberKeys)
    discNumber :=
      ((metadataStr map ["disc_number"]).bind (parseInt 32)).or (intField map discNumberKeys) }

/-- `parse_connect_track_node` -/
def parseConnectTrackNode (value : Value) : Option Track :=
  (asObject value).bind fun map => (extractTrackUri value).map (connectTrack map)

/-! ## Track metadata -/

def positive (value : Option Value) : Option Int := (value.bind valueAsI64).filter fun n => 0 < n

/-- Decimal digits, padded with zeros to some width. -/
def padded (width : Nat) (value : Int) : String :=
  let digits := (toString value).toList
  String.ofList (List.replicate (width - digits.length) '0' ++ digits)

/-- `metadata_artists` -/
def metadataArtists (value : Value) : Option String :=
  ((value.get "artist").bind asArray).bind fun artists =>
    joinNames (artists.filterMap fun artist => nonemptyStr (artist.get "name"))

def metadataReleaseDate (date : Option Value) : Option String :=
  let datePart (key : String) := positive (date.bind (Json.get key))
  (datePart "year").map fun year =>
    match datePart "month", datePart "day" with
    | some month, some day => s!"{padded 4 year}-{padded 2 month}-{padded 2 day}"
    | some month, none => s!"{padded 4 year}-{padded 2 month}"
    | _, _ => padded 4 year

/-- The widest image of an album. -/
def metadataCoverUrl (album : Value) : Option String :=
  ((((album.get "cover_group").bind (Json.get "image")).bind asArray).bind
    (maxByKey fun image => ((image.get "width").bind asU64).getD 0)).bind fun image =>
      ((image.get "file_id").bind asStr).map fun id => s!"https://i.scdn.co/image/{id}"

/-- A spclient `metadata/4/track` reply, the same record librespot reads. -/
def parseMetadataTrack (payload : Value) (id : String) : Option Track :=
  let album := payload.get "album"
  (nonemptyStr (payload.get "name")).map fun name =>
    { id := id
      name := name
      artist := (metadataArtists payload).getD ""
      album := (album.bind fun album => nonemptyStr (album.get "name")).getD ""
      albumArtist := album.bind metadataArtists
      duration := (positive (payload.get "duration")).getD 0
      explicit := ((payload.get "explicit").bind valueAsBool).getD false
      coverUrl := album.bind metadataCoverUrl
      releaseDate := metadataReleaseDate (album.bind (Json.get "date"))
      trackNumber := (positive (payload.get "number")).map wrap32
      discNumber := (positive (payload.get "disc_number")).map wrap32 }

/-! ## Integers in range -/

theorem Number.fits_asI64 {number : Number} {value : Int} (read : number.asI64 = some value) :
    Fits value := by
  cases number with
  | posInt raw =>
      obtain ⟨small, same⟩ := Option.ite_none_right_eq_some.mp read
      obtain rfl := Option.some.inj same
      unfold Fits
      omega
  | negInt raw =>
      obtain rfl := Option.some.inj read
      exact ⟨raw.le_toInt, raw.toInt_lt⟩
  | float => cases read

theorem fits_parseInt {text : String} {value : Int} (read : parseInt 64 text = some value) :
    Fits value := by
  simp only [parseInt] at read
  obtain ⟨-, filtered⟩ := Option.ite_none_left_eq_some.mp read
  obtain ⟨-, bounds⟩ := Option.filter_eq_some_iff.mp filtered
  exact of_decide_eq_true bounds

theorem fits_valueAsI64 {value : Value} {read : Int} (reads : valueAsI64 value = some read) :
    Fits read := by
  cases value with
  | number number =>
      obtain signed | ⟨-, unsigned⟩ := Option.or_eq_some_iff.mp reads
      · exact number.fits_asI64 signed
      · obtain ⟨raw, -, rfl⟩ := Option.map_eq_some_iff.mp unsigned
        exact fits_wrap raw
  | string text =>
      rw [valueAsI64] at reads
      exact fits_parseInt reads
  | null | bool | array | object => cases reads

theorem fits_findI64 {value : Value} {keys : List String} {read : Int}
    (reads : findI64 value keys = some read) : Fits read := by
  obtain ⟨key, -, found⟩ := List.exists_of_findSome?_eq_some reads
  obtain ⟨field, -, reads⟩ := Option.bind_eq_some_iff.mp found
  exact fits_valueAsI64 reads

theorem fits_nodeDuration (value : Value) : Fits (nodeDuration value) := by
  have within : Fits ((findI64 value ["duration", "duration_ms"]).getD 0) := by
    cases read : findI64 value ["duration", "duration_ms"] with
    | none => decide
    | some duration => exact fits_findI64 read
  unfold Fits nodeDuration at *
  omega

end Togewire.Spotify.Parsing
