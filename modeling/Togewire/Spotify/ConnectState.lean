import Togewire.Spotify.Parsing

/-!
# The connect-state snapshot

A node is no track just when none of its texts, at whatever depth, reads as one.  The fields of the
current track do not depend on the queue just when every search for them is settled before it comes
to the queue.
-/

namespace Togewire.Spotify.Parsing

open Json Register

/-- `ConnectStateSnapshot` -/
structure ConnectStateSnapshot where
  currentTrackUri : Option String
  currentTrackFallback : Option Track
  nextTrackUri : Option String
  nextTrackFallback : Option Track
  progressMs : Int
  durationMs : Option Int
  isPlaying : Bool

/-- `i64::MAX` -/
def i64Max : Int := 9223372036854775807

/-- The system time in milliseconds since the epoch. -/
structure Clock where
  ms : Nat
  bounded : ms ≤ i64Max

/-- `saturating_add` -/
def saturatingAdd (value other : Int) : Int := max (-i64Max - 1) (min (value + other) i64Max)

/-- The position now, from a position at some time. -/
def extrapolate (playing : Bool) (base timestamp : Int) (now : Clock) : Int :=
  if playing && 0 < timestamp then
    saturatingAdd base (max (wrap (now.ms - timestamp)) 0)
  else
    base

/-! ## Reading the player state -/

section Reads

variable (ps : Value)

/-- The node of the current track. -/
def currentNode : Option Value := (ps.find "track").or (ps.find "current_track")

/-- The node of the next track, the first one in the queue. -/
def nextNode : Option Value := ((ps.find "next_tracks").bind asArray).bind List.head?

/-- Whether it plays, as far as it is said. -/
def isPlaying : Bool :=
  ((((ps.find "is_paused").bind valueAsBool).map fun paused => !paused).or
    ((ps.find "is_playing").bind valueAsBool)).getD false

/-- The position at the timestamp. -/
def baseProgress : Int :=
  max ((findI64 ps ["position_as_of_timestamp", "position", "playback_position"]).getD 0) 0

/-- The time the position was taken at. -/
def timestampMs : Int := (findI64 ps ["timestamp"]).getD 0

/-- The position now. -/
def progressMs (now : Clock) : Int :=
  extrapolate (isPlaying ps) (baseProgress ps) (timestampMs ps) now

/-- The duration of what plays. -/
def durationMs : Option Int := (findI64 ps ["duration", "duration_ms"]).map fun ms => max ms 0

/-- The snapshot of a `player_state`. -/
def snapshotOf (now : Clock) : ConnectStateSnapshot where
  currentTrackUri := (currentNode ps).bind extractTrackUri
  currentTrackFallback := (currentNode ps).bind parseConnectTrackNode
  nextTrackUri := (nextNode ps).bind extractTrackUri
  nextTrackFallback := (nextNode ps).bind parseConnectTrackNode
  progressMs := progressMs ps now
  durationMs := durationMs ps
  isPlaying := isPlaying ps

end Reads

/-- `parse_connect_state_snapshot` -/
def parseConnectStateSnapshot (payload : Value) (now : Clock) : Option ConnectStateSnapshot :=
  (payload.find "player_state").map fun ps => snapshotOf ps now

/-! ## What is not a track -/

theorem extractTrackUri_array (items : List Value) :
    extractTrackUri (.array items) = items.findSome? extractTrackUri := by
  rw [extractTrackUri, fold_array, ← extractTrackUri]
  exact List.findSome?_map

theorem extractTrackUri_object (map : Map) :
    extractTrackUri (.object map) =
      ((((map.lookup "uri").bind asStr).bind normalizeTrackUri).or
        (["track", "current_track", "context_track", "item", "metadata"].findSome? fun key =>
          (map.lookup key).bind extractTrackUri)).or
        (map.findSome? fun field => extractTrackUri field.2) := by
  rw [extractTrackUri, fold_object, ← extractTrackUri]
  simp only [join_lookup_map, List.findSome?_map]
  rfl

/-- An object is no track just when no field is one. -/
theorem extractTrackUri_object_eq_none_iff (map : Map) :
    extractTrackUri (.object map) = none ↔ ∀ field ∈ map, extractTrackUri field.2 = none := by
  rw [extractTrackUri_object, Option.or_eq_none_iff, Option.or_eq_none_iff]
  constructor
  · rintro ⟨-, below⟩
    exact List.findSome?_eq_none_iff.mp below
  · intro below
    have at_key (key : String) : (map.lookup key).bind extractTrackUri = none := by
      cases found : map.lookup key with
      | none => rfl
      | some value =>
          obtain ⟨before, after, rfl, -⟩ := List.lookup_eq_some_iff.mp found
          exact below (key, value) (List.mem_append_right _ List.mem_cons_self)
    refine ⟨⟨?_, List.findSome?_eq_none_iff.mpr fun key _ => at_key key⟩,
      List.findSome?_eq_none_iff.mpr below⟩
    cases found : map.lookup "uri" with
    | none => rfl
    | some value =>
        cases value with
        | string raw =>
            have rejected := at_key "uri"
            rw [found] at rejected
            exact rejected
        | _ => rfl

/-- The search goes through every text of a value. -/
theorem extractTrackUri_eq_none_iff (value : Value) :
    extractTrackUri value = none ↔ ∀ text ∈ value.texts, normalizeTrackUri text = none := by
  induction value using Json.induction with
  | null | bool | number => exact ⟨fun _ => nofun, fun _ => rfl⟩
  | string raw =>
      constructor
      · intro rejected text member
        obtain rfl := List.mem_singleton.mp member
        exact rejected
      · intro rejected
        exact rejected raw List.mem_cons_self
  | array items ih =>
      rw [extractTrackUri_array, List.findSome?_eq_none_iff, texts_array, List.forall_mem_flatMap]
      exact forall₂_congr ih
  | object map ih =>
      rw [extractTrackUri_object_eq_none_iff, texts_object, List.forall_mem_flatMap]
      exact forall₂_congr ih

/-- No text of a node reads as a track. -/
def Trackless (node : Value) : Prop := ∀ text ∈ node.texts, normalizeTrackUri text = none

/-- No URI is extracted from a node, whether it stands for the current or for the next track, just
when none of its texts reads as a track. -/
theorem no_uri_iff_trackless (node : Value) :
    (extractTrackUri node = none ↔ Trackless node) ∧
      ∀ payload now snapshot, parseConnectStateSnapshot payload now = some snapshot →
        ((payload.find "player_state").bind currentNode = some node →
          (snapshot.currentTrackUri = none ↔ Trackless node)) ∧
        ((payload.find "player_state").bind nextNode = some node →
          (snapshot.nextTrackUri = none ↔ Trackless node)) := by
  have extracted := extractTrackUri_eq_none_iff node
  refine ⟨extracted, fun payload now snapshot parsed => ?_⟩
  obtain ⟨ps, found, rfl⟩ := Option.map_eq_some_iff.mp parsed
  rw [found, Option.bind_some, Option.bind_some]
  constructor
  · intro current
    rw [snapshotOf, current]
    exact extracted
  · intro next
    rw [snapshotOf, next]
    exact extracted

/-- An advertisement with a `uid` of sixteen characters. -/
def advertisement : Map :=
  [("uid", .string "0123456789abcdef"), ("uri", .string "spotify:ad:1")]

/-- Its `uid` is taken for a track. -/
theorem advertisement_is_a_track : ¬ ∀ payload now snapshot map raw,
    parseConnectStateSnapshot payload now = some snapshot →
      (payload.find "player_state").bind currentNode = some (.object map) →
        map.lookup "uri" = some (.string raw) → normalizeTrackUri raw = none →
          extractTrackUri (.object map) = none := by
  intro untracked
  have none := untracked (.object [("player_state", .object [("track", .object advertisement)])])
    ⟨0, by decide⟩ _ advertisement "spotify:ad:1" rfl rfl rfl (by decide)
  exact absurd none (by decide)

/-! ## What is read around the queue -/

/-- The fields of a player state that hold the queue. -/
def queued (key : String) : Bool := key == "next_tracks" || key == "prev_tracks"

/-- The payload with another queue. -/
def requeue (queue : String → Value) (payload : Value) : Value :=
  payload.edit "player_state" (overwrite queued queue)

/-- What a snapshot says of the current track. -/
structure CurrentTrack where
  uri : Option String
  fallback : Option Track
  durationMs : Option Int
  progressMs : Int
  isPlaying : Bool

def ConnectStateSnapshot.current (snapshot : ConnectStateSnapshot) : CurrentTrack where
  uri := snapshot.currentTrackUri
  fallback := snapshot.currentTrackFallback
  durationMs := snapshot.durationMs
  progressMs := snapshot.progressMs
  isPlaying := snapshot.isPlaying

def nodeReadings : List (Reading Number Value) := [("track", some), ("current_track", some)]

def playingReadings : List (Reading Number Bool) :=
  [("is_paused", fun value => (valueAsBool value).map fun paused => !paused),
    ("is_playing", valueAsBool)]

def intReadings (keys : List String) : List (Reading Number Int) :=
  keys.map fun key => (key, valueAsI64)

abbrev progressReadings : List (Reading Number Int) :=
  intReadings ["position_as_of_timestamp", "position", "playback_position"]

abbrev timestampReadings : List (Reading Number Int) := intReadings ["timestamp"]

abbrev durationReadings : List (Reading Number Int) := intReadings ["duration", "duration_ms"]

theorem currentNode_eq (ps : Value) : currentNode ps = ps.firstOf nodeReadings := by
  simp [currentNode, nodeReadings]

theorem isPlaying_eq (ps : Value) : isPlaying ps = (ps.firstOf playingReadings).getD false := by
  simp [isPlaying, playingReadings, Option.map_bind]

theorem findI64_eq (ps : Value) (keys : List String) :
    findI64 ps keys = ps.firstOf (intReadings keys) := by
  rw [firstOf, intReadings, List.findSome?_map]
  rfl

/-- The searches for what is said of the current track are settled before the queue, but for those
that make no difference. -/
structure Sealed (ps : Value) (now : Clock) : Prop where
  node : decided queued ps nodeReadings = true
  playing : decided queued ps playingReadings = true
  duration : decided queued ps durationReadings = true
  progress : decided queued ps progressReadings = true
  timestamp : decided queued ps timestampReadings = true ∨ isPlaying ps = false ∨
    baseProgress ps = i64Max ∨ now.ms ≤ 1

section Variants

variable {ps : Value} {now : Clock} {queue : String → Value} {α : Type}
  {readings : List (Reading Number α)}

theorem firstOf_requeue (decides : decided queued ps readings = true)
    (visible : ∀ reading ∈ readings, queued reading.1 = false) :
    (overwrite queued queue ps).firstOf readings = ps.firstOf readings :=
  firstOf_overwrite_of_decided visible decides

theorem baseProgress_bounds (ps : Value) : 0 ≤ baseProgress ps ∧ baseProgress ps ≤ i64Max := by
  refine ⟨Int.le_max_right _ _, ?_⟩
  rw [baseProgress]
  cases read : findI64 ps ["position_as_of_timestamp", "position", "playback_position"] with
  | none => decide
  | some position =>
      have within := fits_findI64 read
      unfold Fits at within
      rw [Option.getD_some, i64Max]
      omega

theorem fits_timestampMs (ps : Value) : Fits (timestampMs ps) := by
  rw [timestampMs]
  cases read : findI64 ps ["timestamp"] with
  | none => decide
  | some timestamp => exact fits_findI64 read

end Variants

section Extrapolation

variable {playing : Bool} {base timestamp : Int} {now : Clock}

theorem wrap_elapsed (positive : 0 < timestamp) (within : Fits timestamp) :
    wrap (now.ms - timestamp) = now.ms - timestamp := by
  apply wrap_of_fits
  have bounded := now.bounded
  unfold Fits i64Max at *
  omega

theorem extrapolate_of_silent (bounds : 0 ≤ base ∧ base ≤ i64Max) (within : Fits timestamp)
    (silent : playing = false ∨ base = i64Max ∨ now.ms ≤ 1) :
    extrapolate playing base timestamp now = base := by
  rw [extrapolate]
  split
  · rename_i advancing
    obtain ⟨rfl, positive⟩ := (Bool.and_eq_true _ _).mp advancing
    have positive := of_decide_eq_true positive
    rw [wrap_elapsed positive within, saturatingAdd]
    unfold i64Max at *
    obtain silent | silent | silent := silent
    · cases silent
    · omega
    · omega
  · rfl

theorem extrapolate_zero_ne_one (within : Fits timestamp) :
    extrapolate playing 0 timestamp now ≠ extrapolate playing 1 timestamp now := by
  have bounded := now.bounded
  rw [extrapolate, extrapolate]
  split
  · rename_i advancing
    have positive := of_decide_eq_true ((Bool.and_eq_true _ _).mp advancing).2
    rw [wrap_elapsed positive within, saturatingAdd, saturatingAdd]
    unfold i64Max at *
    omega
  · decide

theorem extrapolate_timestamp_ne (bounds : 0 ≤ base ∧ base < i64Max) (later : 1 < now.ms) :
    extrapolate true base 0 now ≠ extrapolate true base 1 now := by
  have bounded := now.bounded
  have elapsed : wrap (now.ms - 1) = now.ms - 1 := wrap_elapsed (by decide) (by decide)
  simp only [extrapolate, Bool.true_and, Int.lt_irrefl, decide_false, Bool.false_eq_true, if_false,
    Int.zero_lt_one, decide_true, if_true, elapsed, saturatingAdd]
  unfold i64Max at *
  omega

end Extrapolation

section Queue

variable {ps : Value} {now : Clock} {queue : String → Value}

theorem timestampMs_eq (ps : Value) :
    timestampMs ps = (ps.firstOf timestampReadings).getD 0 := by
  rw [timestampMs, findI64_eq]

theorem baseProgress_eq (ps : Value) :
    baseProgress ps = max ((ps.firstOf progressReadings).getD 0) 0 := by
  rw [baseProgress, findI64_eq]

theorem durationMs_eq (ps : Value) :
    durationMs ps = (ps.firstOf durationReadings).map fun ms => max ms 0 := by
  rw [durationMs, findI64_eq]

/-- A sealed player state says the same of the current track whatever its queue. -/
theorem current_requeue_of_sealed (seals : Sealed ps now) :
    (snapshotOf (overwrite queued queue ps) now).current = (snapshotOf ps now).current := by
  have node : currentNode (overwrite queued queue ps) = currentNode ps := by
    rw [currentNode_eq, currentNode_eq, firstOf_requeue seals.node (by decide)]
  have playing : isPlaying (overwrite queued queue ps) = isPlaying ps := by
    rw [isPlaying_eq, isPlaying_eq, firstOf_requeue seals.playing (by decide)]
  have duration : durationMs (overwrite queued queue ps) = durationMs ps := by
    rw [durationMs_eq, durationMs_eq, firstOf_requeue seals.duration (by decide)]
  have base : baseProgress (overwrite queued queue ps) = baseProgress ps := by
    rw [baseProgress_eq, baseProgress_eq, firstOf_requeue seals.progress (by decide)]
  have progress : progressMs (overwrite queued queue ps) now = progressMs ps now := by
    rw [progressMs, progressMs, playing, base]
    obtain decides | silent := seals.timestamp
    · rw [timestampMs_eq, timestampMs_eq, firstOf_requeue decides (by decide)]
    · rw [extrapolate_of_silent (baseProgress_bounds ps) (fits_timestampMs _) silent,
        extrapolate_of_silent (baseProgress_bounds ps) (fits_timestampMs _) silent]
  simp only [snapshotOf, ConnectStateSnapshot.current, node, playing, duration, progress]

/-- The player state with a number planted in its queue. -/
def numbered (ps : Value) (key : String) (number : UInt64) : Value :=
  overwrite queued (planted key (.number (.posInt number))) ps

/-- A number in the queue makes no difference to what is read under other keys. -/
theorem firstOf_numbered {α : Type} {readings : List (Reading Number α)} {key : String}
    (visible : ∀ reading ∈ readings, queued reading.1 = false)
    (different : ∀ reading ∈ readings, reading.1 ≠ key) (number other : UInt64) :
    (numbered ps key number).firstOf readings = (numbered ps key other).firstOf readings :=
  firstOf_planted_congr visible different (fun _ => rfl) fun _ => rfl

/-- Whatever its queue, a player state says the same of the current track. -/
def Independent (ps : Value) (now : Clock) : Prop :=
  ∀ queue, (snapshotOf (overwrite queued queue ps) now).current = (snapshotOf ps now).current

variable (same : Independent ps now)
include same

theorem Independent.pair (queue other : String → Value) :
    (snapshotOf (overwrite queued queue ps) now).current =
      (snapshotOf (overwrite queued other ps) now).current :=
  (same queue).trans (same other).symm

theorem Independent.node : decided queued ps nodeReadings = true := by
  by_contra undecided
  obtain ⟨reading, member, reaches⟩ :=
    exists_planted (by decide) (Bool.eq_false_iff.mpr undecided)
  have read (leaf : Value) : reading.2 leaf = some leaf := by
    simp only [nodeReadings, List.mem_cons, List.not_mem_nil, or_false] at member
    obtain rfl | rfl := member <;> rfl
  have uris := congrArg CurrentTrack.uri (same.pair
    (planted reading.1 (.string "aaaaaaaaaaaaaaaa"))
    (planted reading.1 (.string "bbbbbbbbbbbbbbbb")))
  simp only [ConnectStateSnapshot.current, snapshotOf, currentNode_eq, reaches _ _ (read _)] at uris
  exact absurd uris (by decide)

theorem Independent.playing : decided queued ps playingReadings = true := by
  by_contra undecided
  obtain ⟨reading, member, reaches⟩ :=
    exists_planted (by decide) (Bool.eq_false_iff.mpr undecided)
  obtain ⟨first, second, read, readOther, different⟩ : ∃ first second : Bool,
      reading.2 (.bool true) = some first ∧ reading.2 (.bool false) = some second ∧
        first ≠ second := by
    simp only [playingReadings, List.mem_cons, List.not_mem_nil, or_false] at member
    obtain rfl | rfl := member
    · exact ⟨false, true, rfl, rfl, by decide⟩
    · exact ⟨true, false, rfl, rfl, by decide⟩
  have states := congrArg CurrentTrack.isPlaying
    (same.pair (planted reading.1 (.bool true)) (planted reading.1 (.bool false)))
  simp only [ConnectStateSnapshot.current, snapshotOf, isPlaying_eq, reaches _ _ read,
    reaches _ _ readOther, Option.getD_some] at states
  exact different states

theorem Independent.pair_numbered (key : String) :
    (snapshotOf (numbered ps key 0) now).current = (snapshotOf (numbered ps key 1) now).current :=
  same.pair _ _

theorem Independent.duration : decided queued ps durationReadings = true := by
  by_contra undecided
  obtain ⟨reading, member, reaches⟩ :=
    exists_planted (by decide) (Bool.eq_false_iff.mpr undecided)
  obtain ⟨key, -, rfl⟩ := List.mem_map.mp member
  have first : (numbered ps key 0).firstOf durationReadings = some 0 := reaches _ _ rfl
  have second : (numbered ps key 1).firstOf durationReadings = some 1 := reaches _ _ rfl
  have durations := congrArg CurrentTrack.durationMs (same.pair_numbered key)
  simp only [ConnectStateSnapshot.current, snapshotOf, durationMs_eq, first, second] at durations
  exact absurd durations (by decide)

theorem Independent.progress : decided queued ps progressReadings = true := by
  by_contra undecided
  obtain ⟨reading, member, reaches⟩ :=
    exists_planted (by decide) (Bool.eq_false_iff.mpr undecided)
  obtain ⟨key, named, rfl⟩ := List.mem_map.mp member
  have apart : ∀ key ∈ ["position_as_of_timestamp", "position", "playback_position"],
      (∀ reading ∈ playingReadings, reading.1 ≠ key) ∧
        ∀ reading ∈ timestampReadings, reading.1 ≠ key := by decide
  have playing : (numbered ps key 0).firstOf playingReadings =
      (numbered ps key 1).firstOf playingReadings :=
    firstOf_numbered (by decide) (apart key named).1 0 1
  have timestamp : (numbered ps key 0).firstOf timestampReadings =
      (numbered ps key 1).firstOf timestampReadings :=
    firstOf_numbered (by decide) (apart key named).2 0 1
  have first : (numbered ps key 0).firstOf progressReadings = some 0 := reaches _ _ rfl
  have second : (numbered ps key 1).firstOf progressReadings = some 1 := reaches _ _ rfl
  have positions := congrArg CurrentTrack.progressMs (same.pair_numbered key)
  simp only [ConnectStateSnapshot.current, snapshotOf, progressMs, isPlaying_eq, baseProgress_eq,
    first, second, playing] at positions
  rw [timestampMs_eq, timestamp, ← timestampMs_eq] at positions
  exact extrapolate_zero_ne_one (fits_timestampMs _) positions

theorem Independent.timestamp : decided queued ps timestampReadings = true ∨
    isPlaying ps = false ∨ baseProgress ps = i64Max ∨ now.ms ≤ 1 := by
  by_contra! audible
  obtain ⟨undecided, playing, below, later⟩ := audible
  obtain ⟨reading, member, reaches⟩ :=
    exists_planted (by decide) (Bool.eq_false_iff.mpr undecided)
  obtain ⟨key, -, rfl⟩ := List.mem_map.mp member
  have kept (number : UInt64) : isPlaying (numbered ps key number) = true ∧
      baseProgress (numbered ps key number) = baseProgress ps := by
    constructor
    · rw [isPlaying_eq, numbered, firstOf_requeue same.playing (by decide), ← isPlaying_eq]
      simpa using playing
    · rw [baseProgress_eq, numbered, firstOf_requeue same.progress (by decide),
        ← baseProgress_eq]
  have first : timestampMs (numbered ps key 0) = 0 := by
    rw [timestampMs_eq, numbered, reaches _ 0 rfl]
    rfl
  have second : timestampMs (numbered ps key 1) = 1 := by
    rw [timestampMs_eq, numbered, reaches _ 1 rfl]
    rfl
  have positions := congrArg CurrentTrack.progressMs (same.pair_numbered key)
  simp only [ConnectStateSnapshot.current, snapshotOf, progressMs, kept, first, second] at positions
  have bounds := baseProgress_bounds ps
  exact extrapolate_timestamp_ne ⟨bounds.1, by omega⟩ later positions

theorem Independent.sealed : Sealed ps now where
  node := same.node
  playing := same.playing
  duration := same.duration
  progress := same.progress
  timestamp := same.timestamp

end Queue

/-- What is said of the current track does not depend on the queue just when the player state is
sealed. -/
theorem queue_stays_out_iff (payload : Value) (now : Clock) :
    (∀ queue, (parseConnectStateSnapshot (requeue queue payload) now).map
        ConnectStateSnapshot.current =
      (parseConnectStateSnapshot payload now).map ConnectStateSnapshot.current) ↔
      ∀ ps, payload.find "player_state" = some ps → Sealed ps now := by
  simp only [parseConnectStateSnapshot, requeue, find_edit]
  cases payload.find "player_state" with
  | none => exact ⟨fun _ => nofun, fun _ _ => rfl⟩
  | some ps =>
      constructor
      · intro same _ found
        obtain rfl := Option.some.inj found
        exact Independent.sealed fun queue => Option.some.inj (same queue)
      · intro seals queue
        exact congrArg some (current_requeue_of_sealed (seals ps rfl))

/-- A player state without a duration of its own. -/
def unmeasured (next : Value) : Value :=
  .object [("player_state",
    .object [("next_tracks", .array [next]), ("track", .string "aaaaaaaaaaaaaaaa")])]

/-- The duration of the next track is taken for that of the current one. -/
theorem next_duration_leaks : ¬ ∀ payload now queue,
    (parseConnectStateSnapshot (requeue queue payload) now).map ConnectStateSnapshot.current =
      (parseConnectStateSnapshot payload now).map ConnectStateSnapshot.current := by
  intro same
  have leak := same (unmeasured .null) ⟨0, by decide⟩
    fun _ => .array [.object [("duration", .number (.posInt 5))]]
  exact absurd (congrArg (fun current => current.bind CurrentTrack.durationMs) leak) (by decide)

end Togewire.Spotify.Parsing
