import Togewire.Cache.Manager
import Togewire.Foundation.Program
import Togewire.Media.Names

/-!
# Cached files and their streaming copies

Fetchers place finished files in the cache directory and record them in the cache.  Playback streams
copies of these files from memory, built on demand and found again by their names alone.  The
versions and makers of files, and what has been streamed, are history which no operation reads.
-/

namespace Togewire.Media

open Cache Interleaving

/-- What an audio file is: the content placed at a path for the given time, or made from another. -/
inductive Audio
  | file (path : String) (version : Nat)
  | normalized (source : Audio)
  | transcoded (source : Audio)
  deriving DecidableEq

/-- A file in the directory of streaming copies. -/
structure Copy where
  audio : Audio
  modified : Nat

/-- One opening of a streaming copy by `play_track`. -/
structure Streamed where
  filePath : String
  variant : TempArtifact
  audio : Audio
  /-- The version of the cached file at that time, the last one if it was gone. -/
  version : Nat

/-- The cache, the streaming copies and the settings which choose among their variants. -/
structure Store where
  manager : Manager
  now : Int
  /-- The task which holds the download lock. -/
  downloadLock : Option Nat
  /-- Whether `normalization` is `Stream`. -/
  normalizeStream : Bool
  lowDataStreaming : Bool
  audioBitrate : String
  copies : AList fun _ : String => Copy
  /-- Unfinished copies, each under the name it is for, by the task which builds it. -/
  temps : AList fun _ : Nat => String × Audio
  prewarming : List String
  /-- History: how often a file has been placed at each path. -/
  version : String → Nat
  /-- History: the track whose fetch last wrote each file. -/
  maker : String → Option String
  /-- History: the paths to which finished files have been moved. -/
  placed : List String
  /-- History: what `play_track` has streamed from memory. -/
  streamed : List Streamed

/-- One atomic operation of a fetcher or of playback. -/
inductive Op
  | getPath (trackId : String)
  | acquireDownload
  | releaseDownload
  | trackPath (track : Track)
  | writeRaw (trackId path : String)
  | writeCacheOpus (trackId path : String)
  | removeFile (path : String)
  | rename (trackId source target : String)
  | put (trackId filePath bitrate : String) (normalized : Bool)
  | planTempArtifact (filePath : String)
  | isFile (name : String)
  | startPrewarming (filePath : String)
  | stopPrewarming (filePath : String)
  | isPrewarming (filePath : String)
  | normalize (filePath target : String)
  | transcodeFile (filePath target : String)
  | transcodeCopy (copy target : String)
  | renameTemp
  | removeCopy (name : String)
  | pruneNormCache
  | openCopy (name filePath : String) (variant : TempArtifact)

/-- What each operation answers. -/
def Op.Answer : Op → Type
  | getPath _ => Option String
  | trackPath _ => String
  | writeCacheOpus _ _ => Option (String × Bool)
  | planTempArtifact _ => Option TempArtifact
  | writeRaw _ _ | rename _ _ _ | isFile _ | startPrewarming _ | isPrewarming _ | normalize _ _
  | transcodeFile _ _ | transcodeCopy _ _ | renameTemp => Bool
  | acquireDownload | releaseDownload | removeFile _ | put _ _ _ _ | stopPrewarming _
  | removeCopy _ | pruneNormCache | openCopy _ _ _ => Unit

abbrev signature : Signature := ⟨Op, Op.Answer⟩

abbrev Task := Program signature

/-- What the outside world contributes to a step. -/
structure Input where
  /-- Rounds after which the loop of `track_path` ends. -/
  rounds : Nat := 1
  /-- The bytes a tool leaves in its output file, if it writes one. -/
  written : Option Nat := none
  /-- Whether a tool or a system call succeeds. -/
  succeeds : Bool := true
  /-- Bitrate of a finished encode. -/
  bitrate : String := "160k"
  /-- Whether a finished encode carries gain tags. -/
  normalized : Bool := false
  /-- Modification time of a finished copy. -/
  modified : Nat := 0

/-- `str::parse::<u32>`, on the characters of a string. -/
def parseU32 (text : List Char) : Option Nat :=
  let digits := if text.head? = some '+' then text.tail else text
  if digits.isEmpty || !digits.all Char.isDigit then
    none
  else
    let value := digits.foldl (fun sum digit => 10 * sum + (digit.toNat - '0'.toNat)) 0
    if value < 2 ^ 32 then some value else none

/-- Above High (144k): what low-data streaming swaps for a 112k copy. -/
def above144k (bitrate : String) : Bool :=
  (parseU32 (bitrate.toList.reverse.dropWhile fun c => c == 'k').reverse).any fun kbps => 144 < kbps

/-- `MAX_TEMP_COPIES`. -/
def maxTempCopies : Nat := 3

/-- Whether a file in the directory of copies is skipped by pruning. -/
def isTemporary (name : String) : Bool :=
  name.toList.tails.any fun rest => ".tmp.".toList.isPrefixOf rest

/-- Whether one copy is newer than another. -/
def newer (first second : Σ _ : String, Copy) : Bool :=
  second.2.modified < first.2.modified ||
    (second.2.modified == first.2.modified && decide (second.1 < first.1))

namespace Store

/-- The version of the file at a path, if there is one. -/
def current (store : Store) (path : String) : Option Nat :=
  if store.manager.disk.pathExists path then some (store.version path) else none

/-- Change one file of the cache directory. -/
def setFile (store : Store) (path : String) (size : Option Nat) : Store :=
  let disk := store.manager.disk
  let changed := { disk with files := Function.update disk.files path size }
  { store with manager := { store.manager with disk := changed } }

/-- A fetch writes a file. -/
def write (store : Store) (trackId path : String) (size : Nat) : Store :=
  { store.setFile path (some size) with
    version := Function.update store.version path (store.version path + 1)
    maker := Function.update store.maker path (some trackId) }

/-- What a tool leaves at its output path. -/
def leave (store : Store) (trackId path : String) (written : Option Nat) : Store :=
  match written with
  | none => store
  | some size => store.write trackId path size

/-- A fetch moves a finished file into place. -/
def place (store : Store) (trackId source target : String) (size : Nat) : Store :=
  { (store.setFile source none).write trackId target size with placed := target :: store.placed }

/-- Whether the bitrate of a cached file is above 144k, and whether it carries gain tags. -/
def streamFlags (store : Store) (filePath : String) : Bool × Bool :=
  match store.manager.entries.entries.find? fun cached => cached.2.filePath == filePath with
  | some cached => (above144k cached.2.bitrate, cached.2.normalized)
  | none => (above144k store.audioBitrate, false)

/-- Which in-memory streaming copy a cached track needs, if any. -/
def planTempArtifact (store : Store) (filePath : String) : Option TempArtifact :=
  let (above, normalized) := store.streamFlags filePath
  let normalize := store.normalizeStream && !normalized
  if store.lowDataStreaming && above then
    some (.lowData normalize)
  else if normalize then
    some .normalized
  else
    none

/-- Start a copy under a temporary name. -/
def build (store : Store) (actor : Nat) (target : String) (audio : Audio) : Store :=
  { store with temps := store.temps.insert actor (target, audio) }

/-- Keep the copies a predicate accepts. -/
def keepCopies (store : Store) (keep : (Σ _ : String, Copy) → Bool) : Store :=
  { store with
    copies := ⟨store.copies.entries.filter keep,
      store.copies.nodupKeys.sublist List.filter_sublist⟩ }

/-- Keep only the newest few copies. -/
def pruneNormCache (store : Store) : Store :=
  let files := store.copies.entries.filter fun listed => !isTemporary listed.1
  store.keepCopies fun listed =>
    isTemporary listed.1 || (files.filter fun other => newer other listed).length < maxTempCopies

/-- Stream a copy if it is there. -/
def openCopy (store : Store) (name filePath : String) (variant : TempArtifact) : Store :=
  match store.copies.lookup name with
  | none => store
  | some copy =>
      { store with
        streamed := ⟨filePath, variant, copy.audio, store.version filePath⟩ :: store.streamed }

/-- The effect of one operation of a task.  Playback is asked for cached files only. -/
def perform (store : Store) (actor : Nat) (op : Op) (input : Input) : Option (op.Answer × Store) :=
  match op with
  | .getPath trackId =>
      let (path, manager) := store.manager.getPath trackId store.now
      some (path, { store with manager := manager })
  | .acquireDownload =>
      if store.downloadLock = none then
        some ((), { store with downloadLock := some actor })
      else
        none
  | .releaseDownload => some ((), { store with downloadLock := none })
  | .trackPath track =>
      (trackPath store.manager.disk track "ogg" input.rounds).map fun path => (path, store)
  | .writeRaw trackId path => some (input.succeeds, store.leave trackId path input.written)
  | .writeCacheOpus trackId path =>
      some (if input.succeeds then some (input.bitrate, input.normalized) else none,
        store.leave trackId path input.written)
  | .removeFile path => some ((), store.setFile path none)
  | .rename trackId source target =>
      match store.manager.disk.files source with
      | none => some (false, store)
      | some size =>
          if input.succeeds then
            some (true, store.place trackId source target size)
          else
            some (false, store)
  | .put trackId filePath bitrate normalized =>
      let manager := store.manager.put trackId filePath bitrate normalized store.now
      some ((), { store with manager := manager })
  | .planTempArtifact filePath =>
      if filePath ∈ store.placed then some (store.planTempArtifact filePath, store) else none
  | .isFile name => some ((store.copies.lookup name).isSome, store)
  | .startPrewarming filePath =>
      if filePath ∈ store.prewarming then
        some (false, store)
      else
        some (true, { store with prewarming := filePath :: store.prewarming })
  | .stopPrewarming filePath =>
      some ((), { store with prewarming := store.prewarming.filter fun path => path ≠ filePath })
  | .isPrewarming filePath => some (decide (filePath ∈ store.prewarming), store)
  | .normalize filePath target =>
      match store.current filePath with
      | none => some (false, store)
      | some version =>
          if input.succeeds then
            some (true, store.build actor target (.normalized (.file filePath version)))
          else
            some (false, store)
  | .transcodeFile filePath target =>
      match store.current filePath with
      | none => some (false, store)
      | some version =>
          if input.succeeds then
            some (true, store.build actor target (.transcoded (.file filePath version)))
          else
            some (false, store)
  | .transcodeCopy copy target =>
      match store.copies.lookup copy with
      | none => some (false, store)
      | some source =>
          if input.succeeds then
            some (true, store.build actor target (.transcoded source.audio))
          else
            some (false, store)
  | .renameTemp =>
      match store.temps.lookup actor with
      | none => some (false, store)
      | some (target, audio) =>
          let taken := { store with temps := store.temps.erase actor }
          if input.succeeds then
            some (true, { taken with
              copies := store.copies.insert target ⟨audio, input.modified⟩ })
          else
            some (false, taken)
  | .removeCopy name => some ((), { store with copies := store.copies.erase name })
  | .pruneNormCache => some ((), store.pruneNormCache)
  | .openCopy name filePath variant => some ((), store.openCopy name filePath variant)

/-! ### What an operation may do -/

variable {store after : Store} {actor : Nat} {input : Input} {filePath target : String}

theorem version_of_current {version : Nat} (found : store.current filePath = some version) :
    version = store.version filePath :=
  (Option.some.inj (Option.ite_none_right_eq_some.mp found).2).symm

theorem rename_cases {trackId source : String} {renamed : Bool}
    (performed : store.perform actor (.rename trackId source target) input =
      some (renamed, after)) :
    (renamed = false ∧ after = store) ∨
      ∃ size, renamed = true ∧ after = store.place trackId source target size := by
  simp only [perform] at performed
  split at performed
  · obtain ⟨rfl, rfl⟩ := Prod.mk.inj (Option.some.inj performed)
    exact Or.inl ⟨rfl, rfl⟩
  · rename_i size _
    split at performed <;> obtain ⟨rfl, rfl⟩ := Prod.mk.inj (Option.some.inj performed)
    · exact Or.inr ⟨size, rfl, rfl⟩
    · exact Or.inl ⟨rfl, rfl⟩

theorem normalize_cases {built : Bool}
    (performed : store.perform actor (.normalize filePath target) input = some (built, after)) :
    after = store ∨
      after = store.build actor target (.normalized (.file filePath (store.version filePath))) := by
  simp only [perform] at performed
  split at performed
  · exact Or.inl (Prod.mk.inj (Option.some.inj performed)).2.symm
  · rename_i version found
    obtain rfl := version_of_current found
    split at performed <;> obtain ⟨-, rfl⟩ := Prod.mk.inj (Option.some.inj performed)
    · exact Or.inr rfl
    · exact Or.inl rfl

theorem transcodeFile_cases {built : Bool}
    (performed : store.perform actor (.transcodeFile filePath target) input =
      some (built, after)) :
    after = store ∨
      after = store.build actor target (.transcoded (.file filePath (store.version filePath))) := by
  simp only [perform] at performed
  split at performed
  · exact Or.inl (Prod.mk.inj (Option.some.inj performed)).2.symm
  · rename_i version found
    obtain rfl := version_of_current found
    split at performed <;> obtain ⟨-, rfl⟩ := Prod.mk.inj (Option.some.inj performed)
    · exact Or.inr rfl
    · exact Or.inl rfl

theorem transcodeCopy_cases {copy : String} {built : Bool}
    (performed : store.perform actor (.transcodeCopy copy target) input = some (built, after)) :
    after = store ∨ ∃ source, store.copies.lookup copy = some source ∧
      after = store.build actor target (.transcoded source.audio) := by
  simp only [perform] at performed
  split at performed
  · exact Or.inl (Prod.mk.inj (Option.some.inj performed)).2.symm
  · rename_i source found
    split at performed <;> obtain ⟨-, rfl⟩ := Prod.mk.inj (Option.some.inj performed)
    · exact Or.inr ⟨source, found, rfl⟩
    · exact Or.inl rfl

theorem renameTemp_cases {moved : Bool}
    (performed : store.perform actor .renameTemp input = some (moved, after)) :
    after = store ∨ after = { store with temps := store.temps.erase actor } ∨
      ∃ target audio, store.temps.lookup actor = some (target, audio) ∧
        after = { store with
          temps := store.temps.erase actor
          copies := store.copies.insert target ⟨audio, input.modified⟩ } := by
  simp only [perform] at performed
  split at performed
  · exact Or.inl (Prod.mk.inj (Option.some.inj performed)).2.symm
  · rename_i target audio built
    split at performed <;> obtain ⟨-, rfl⟩ := Prod.mk.inj (Option.some.inj performed)
    · exact Or.inr (Or.inr ⟨target, audio, built, rfl⟩)
    · exact Or.inr (Or.inl rfl)

theorem startPrewarming_cases {started : Bool}
    (performed : store.perform actor (.startPrewarming filePath) input = some (started, after)) :
    ∃ prewarming, after = { store with prewarming := prewarming } := by
  simp only [perform] at performed
  split at performed <;> obtain ⟨-, rfl⟩ := Prod.mk.inj (Option.some.inj performed)
  · exact ⟨store.prewarming, rfl⟩
  · exact ⟨_, rfl⟩

end Store

/-- Operations of players, which leave the cache and its files alone. -/
def Op.Plays : Op → Prop
  | planTempArtifact _ | isFile _ | startPrewarming _ | stopPrewarming _ | isPrewarming _
  | normalize _ _ | transcodeFile _ _ | transcodeCopy _ _ | renameTemp | removeCopy _
  | pruneNormCache | openCopy _ _ _ => True
  | getPath _ | acquireDownload | releaseDownload | trackPath _ | writeRaw _ _
  | writeCacheOpus _ _ | removeFile _ | rename _ _ _ | put _ _ _ _ => False

/-- A player changes the copies, the list of prewarmed files and the history of playback only. -/
theorem Store.eq_of_plays {store after : Store} {actor : Nat} {op : Op} {input : Input}
    {answer : op.Answer} (plays : op.Plays)
    (performed : store.perform actor op input = some (answer, after)) :
    after = { store with
      copies := after.copies
      temps := after.temps
      prewarming := after.prewarming
      streamed := after.streamed } := by
  cases op with
  | planTempArtifact filePath =>
      obtain ⟨-, -, rfl⟩ := Transition.of_guarded_answer performed
      rfl
  | isFile | isPrewarming | stopPrewarming | removeCopy | pruneNormCache =>
      obtain ⟨-, rfl⟩ := Prod.mk.inj (Option.some.inj performed)
      rfl
  | startPrewarming filePath =>
      obtain ⟨prewarming, rfl⟩ := startPrewarming_cases performed
      rfl
  | normalize filePath target =>
      rcases normalize_cases performed with rfl | rfl <;> rfl
  | transcodeFile filePath target =>
      rcases transcodeFile_cases performed with rfl | rfl <;> rfl
  | transcodeCopy copy target =>
      rcases transcodeCopy_cases performed with rfl | ⟨source, -, rfl⟩ <;> rfl
  | renameTemp =>
      rcases renameTemp_cases performed with rfl | rfl | ⟨target, audio, -, rfl⟩ <;> rfl
  | openCopy name filePath variant =>
      obtain ⟨-, rfl⟩ := Prod.mk.inj (Option.some.inj performed)
      unfold openCopy
      split <;> rfl
  | getPath | acquireDownload | releaseDownload | trackPath | writeRaw | writeCacheOpus
  | removeFile | rename | put => exact plays.elim

end Togewire.Media
