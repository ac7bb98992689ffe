import Togewire.Media.Store

/-!
# Fetchers and players

A prepare fetches one track at a time under the download lock.  Prewarming and playback build or
reuse a streaming copy of a cached file at any time.  The discipline says what is left of a task
once its control flow is forgotten.
-/

namespace Togewire.Media

open Interleaving

/-! ## Operations -/

def ask (op : Op) : Task op.Answer := Program.perform (S := signature) op

def getPath (trackId : String) : Task (Option String) := ask (.getPath trackId)
def acquireDownload : Task Unit := ask .acquireDownload
def releaseDownload : Task Unit := ask .releaseDownload
def chooseTrackPath (track : Track) : Task String := ask (.trackPath track)
def writeRaw (trackId path : String) : Task Bool := ask (.writeRaw trackId path)
def writeCacheOpus (trackId path : String) : Task (Option (String × Bool)) :=
  ask (.writeCacheOpus trackId path)
def removeFile (path : String) : Task Unit := ask (.removeFile path)
def rename (trackId source target : String) : Task Bool := ask (.rename trackId source target)
def put (trackId filePath bitrate : String) (normalized : Bool) : Task Unit :=
  ask (.put trackId filePath bitrate normalized)
def planTempArtifact (filePath : String) : Task (Option TempArtifact) :=
  ask (.planTempArtifact filePath)
def isFile (name : String) : Task Bool := ask (.isFile name)
def startPrewarming (filePath : String) : Task Bool := ask (.startPrewarming filePath)
def stopPrewarming (filePath : String) : Task Unit := ask (.stopPrewarming filePath)
def isPrewarming (filePath : String) : Task Bool := ask (.isPrewarming filePath)
def normalize (filePath target : String) : Task Bool := ask (.normalize filePath target)
def transcodeFile (filePath target : String) : Task Bool := ask (.transcodeFile filePath target)
def transcodeCopy (copy target : String) : Task Bool := ask (.transcodeCopy copy target)
def renameTemp : Task Bool := ask .renameTemp
def removeCopy (name : String) : Task Unit := ask (.removeCopy name)
def pruneNormCache : Task Unit := ask .pruneNormCache
def openCopy (name filePath : String) (variant : TempArtifact) : Task Unit :=
  ask (.openCopy name filePath variant)

/-! ## Fetching -/

/-- What librespot has acquired. -/
inductive EncodedKind
  | flac
  | oggVorbis
  | other

/-- The extension of a decrypted file. -/
def EncodedKind.rawExtension : EncodedKind → String
  | flac => "raw.flac"
  | oggVorbis => "raw.ogg"
  | other => "raw.bin"

/-- The end of both fetchers: move the finished encode into place and record it. -/
def storeEncoded (track : Track) (dest : String) :
    Option (String × Bool) → Task (Option String)
  | none => pure none
  | some (bitrate, normalized) => do
      if ← rename track.id (withExtension dest "tmp.ogg") dest then
        put track.id dest bitrate normalized
        pure (some dest)
      else
        pure none

/-- `YtdlpFetcher::download_to_cache` after a successful download. -/
def downloadToCache (track : Track) : Task (Option String) := do
  let dest ← chooseTrackPath track
  let encoded ← writeCacheOpus track.id (withExtension dest "tmp.ogg")
  storeEncoded track dest encoded

/-- Encode a decrypted file, if it could be written. -/
def encodeRaw (track : Track) (dest : String) (written : Bool) : Task (Option (String × Bool)) :=
  if written then
    writeCacheOpus track.id (withExtension dest "tmp.ogg")
  else
    pure none

/-- `LibrespotFetcher::fetch_track_inner` after a stream has been acquired. -/
def fetchTrackInner (track : Track) (kind : EncodedKind) : Task (Option String) := do
  let dest ← chooseTrackPath track
  let rawTmp := withExtension dest kind.rawExtension
  let written ← writeRaw track.id rawTmp
  let encoded ← encodeRaw track dest written
  removeFile rawTmp
  storeEncoded track dest encoded

/-- Fetch with librespot, if it has acquired a stream, and else with yt-dlp. -/
def prepareInner (track : Track) : Option EncodedKind → Task (Option String)
  | none => downloadToCache track
  | some kind => do
      match ← fetchTrackInner track kind with
      | some path => pure (some path)
      | none => downloadToCache track

/-- What `execute_prepare` does under the download lock. -/
def downloadOnce (track : Track) (kind : Option EncodedKind) : Task (Option String) := do
  match ← getPath track.id with
  | some path => pure (some path)
  | none => prepareInner track kind

/-- `execute_prepare`; librespot has a file of this kind, or none. -/
def executePrepare (track : Track) (kind : Option EncodedKind) : Task Unit := do
  acquireDownload
  let _ ← downloadOnce track kind
  releaseDownload

/-! ## Streaming copies -/

/-- The end of a build: move the copy into place and drop old ones. -/
def finishCopy (target : String) : Task (Option String) := do
  if ← renameTemp then
    pruneNormCache
    pure (some target)
  else
    pure none

/-- `ensure_stream_temp` for the normalized copy. -/
def ensureNormalized (filePath : String) : Task (Option String) := do
  let target := TempArtifact.normalized.path filePath
  if ← isFile target then
    pure (some target)
  else if ← normalize filePath target then
    finishCopy target
  else
    pure none

/-- The copy a transcode starts from, if it is not the file. -/
def normalizedCopy (filePath : String) (normalized : Bool) : Task (Option String) :=
  if normalized then ensureNormalized filePath else pure none

/-- Transcode the normalized copy and drop it, or transcode the file. -/
def transcode (filePath target : String) : Option String → Task Bool
  | none => transcodeFile filePath target
  | some copy => do
      let ran ← transcodeCopy copy target
      removeCopy copy
      pure ran

/-- Build (or reuse) a streaming copy. -/
def ensureStreamTemp (filePath : String) : TempArtifact → Task (Option String)
  | .normalized => ensureNormalized filePath
  | .lowData normalized => do
      let target := (TempArtifact.lowData normalized).path filePath
      if ← isFile target then
        pure (some target)
      else
        let copy ← normalizedCopy filePath normalized
        if ← transcode filePath target copy then
          finishCopy target
        else
          pure none

/-- Poll for a concurrent prewarm of the same file. -/
def awaitPrewarm (filePath : String) : Nat → Task Unit
  | 0 => pure ()
  | polls + 1 => do
      if ← isPrewarming filePath then
        awaitPrewarm filePath polls
      else
        pure ()

/-- `prepare_stream_temp`: the copy to stream, or the file itself. -/
def prepareStreamTemp (filePath : String) (variant : TempArtifact) : Task (Option String) := do
  awaitPrewarm filePath 60
  ensureStreamTemp filePath variant

/-- Stream the copy that has been prepared, if any. -/
def streamCopy (filePath : String) (variant : TempArtifact) : Option String → Task Unit
  | none => pure ()
  | some copy => openCopy copy filePath variant

/-- `play_track`, as far as it streams from memory. -/
def playTrack (filePath : String) : Task Unit := do
  match ← planTempArtifact filePath with
  | none => pure ()
  | some variant => do
      let copy ← prepareStreamTemp filePath variant
      streamCopy filePath variant copy

/-- Build the in-memory streaming copy of a cached track in the background. -/
def prewarm (filePath : String) : Task Unit := do
  match ← planTempArtifact filePath with
  | none => pure ()
  | some variant => do
      if ← isFile (variant.path filePath) then
        pure ()
      else if ← startPrewarming filePath then
        let _ ← ensureStreamTemp filePath variant
        stopPrewarming filePath
      else
        pure ()

/-! ## Runs -/

inductive Request
  | prepare (track : Track) (kind : Option EncodedKind)
  | playTrack (filePath : String)
  | prewarm (filePath : String)

def accept : Request → Task Unit
  | .prepare track kind => executePrepare track kind
  | .playTrack filePath => playTrack filePath
  | .prewarm filePath => prewarm filePath

/-- A change which no task makes. -/
inductive Change
  | getPath (trackId : String)
  | setMaxMb (maxMb : Nat)
  | clear
  /-- A file of the cache directory vanishes. -/
  | vanish (path : String)
  /-- A streaming copy vanishes. -/
  | loseCopy (name : String)
  | clock (now : Int)
  | settings (normalizeStream lowDataStreaming : Bool) (audioBitrate : String)

namespace Store

/-- The effect of a change which no task makes. -/
def outside (store : Store) : Change → Store
  | .getPath trackId =>
      { store with manager := (store.manager.getPath trackId store.now).2 }
  | .setMaxMb maxMb => { store with manager := store.manager.setMaxMb maxMb }
  | .clear => { store with manager := store.manager.clear }
  | .vanish path => store.setFile path none
  | .loseCopy name => { store with copies := store.copies.erase name }
  | .clock now => { store with now := now }
  | .settings normalizeStream lowDataStreaming audioBitrate =>
      { store with
        normalizeStream := normalizeStream
        lowDataStreaming := lowDataStreaming
        audioBitrate := audioBitrate }

/-- Every recorded file was fetched for the track that records it. -/
def Owned (store : Store) : Prop :=
  ∀ trackId entry, store.manager.entries.lookup trackId = some entry →
    store.maker entry.filePath = some trackId

/-- The program has started on a cache whose tracks have files of their own, without any copies. -/
structure Fresh (store : Store) : Prop where
  owned : store.Owned
  idle : store.downloadLock = none
  copies : store.copies = ∅
  temps : store.temps = ∅
  streamed : store.streamed = []

end Store

/-- Prepares, prewarms and players in any order. -/
def machine : Machine signature Store Request Input Change where
  initial := Store.Fresh
  accept store _ request := some (accept request, store)
  perform := Store.perform
  outside store change := some (store.outside change)

/-! ## How far a task has come -/

/-- What a task has done. -/
structure Trace where
  /-- It has the download lock. -/
  locked : Bool := false
  /-- The track it fetches, and the path chosen for it. -/
  reserved : Option (String × String) := none
  /-- Whether the finished file is in place. -/
  placed : Bool := false
  /-- The cached file it plays or prewarms. -/
  filePath : Option String := none

namespace Trace

def next (trace : Trace) : (op : Op) → op.Answer → Trace
  | .acquireDownload, _ => { trace with locked := true }
  | .releaseDownload, _ => { trace with locked := false, reserved := none, placed := false }
  | .trackPath track, path => { trace with reserved := some (track.id, path), placed := false }
  | .rename _ _ _, true => { trace with placed := true }
  | .planTempArtifact filePath, _ => { trace with filePath := some filePath }
  | _, _ => trace

/-- Files are fetched under the download lock to the name chosen, and copies built of the file in
hand. -/
def Allows (trace : Trace) : Op → Prop
  | .acquireDownload => trace.reserved = none
  | .releaseDownload | .trackPath _ => trace.locked
  | .writeRaw trackId _ | .writeCacheOpus trackId _ =>
      trace.locked ∧ ∃ dest, trace.reserved = some (trackId, dest)
  | .rename trackId _ target => trace.locked ∧ trace.reserved = some (trackId, target)
  | .put trackId filePath _ _ =>
      trace.locked ∧ trace.reserved = some (trackId, filePath) ∧ trace.placed
  | .normalize filePath target =>
      trace.filePath = some filePath ∧ target = TempArtifact.normalized.path filePath
  | .transcodeFile filePath target =>
      trace.filePath = some filePath ∧
        ∃ normalized, target = (TempArtifact.lowData normalized).path filePath
  | .transcodeCopy copy target =>
      ∃ filePath, trace.filePath = some filePath ∧
        copy = TempArtifact.normalized.path filePath ∧
          target = (TempArtifact.lowData true).path filePath
  | .openCopy name filePath variant =>
      trace.filePath = some filePath ∧ name = variant.path filePath
  | _ => True

end Trace

/-- The discipline of fetchers and players. -/
def discipline : Discipline signature Trace where
  start := {}
  next := Trace.next
  allows := Trace.Allows

namespace Trace

abbrev Guides {α : Type} (trace : Trace) (task : Task α) (finish : α → Trace → Prop) : Prop :=
  task.Obeys discipline trace finish

/-- A task in the midst of a fetch. -/
def Locked (trace : Trace) : Prop := trace.locked = true

variable {trace : Trace}

theorem guides_storeEncoded (locked : trace.Locked) {track : Track} {dest : String}
    (reserved : trace.reserved = some (track.id, dest)) (encoded : Option (String × Bool)) :
    trace.Guides (storeEncoded track dest encoded) fun _ after => after.Locked := by
  cases encoded with
  | none => exact locked
  | some outcome =>
      refine Program.Obeys.perform ⟨locked, reserved⟩ ?_
      rintro (_ | _)
      · exact locked
      · exact Program.Obeys.perform ⟨locked, reserved, rfl⟩ fun _ => locked

theorem guides_downloadToCache (locked : trace.Locked) (track : Track) :
    trace.Guides (downloadToCache track) fun _ after => after.Locked := by
  refine Program.Obeys.perform locked fun dest => ?_
  refine Program.Obeys.perform ⟨locked, dest, rfl⟩ fun encoded => ?_
  apply guides_storeEncoded
  · exact locked
  · rfl

theorem guides_fetchTrackInner (locked : trace.Locked) (track : Track) (kind : EncodedKind) :
    trace.Guides (fetchTrackInner track kind) fun _ after => after.Locked := by
  refine Program.Obeys.perform locked fun dest => ?_
  refine Program.Obeys.perform ⟨locked, dest, rfl⟩ fun written => ?_
  have ends : ∀ encoded, trace.Locked →
      Guides { trace with reserved := some (track.id, dest), placed := false }
        (removeFile (withExtension dest kind.rawExtension) >>= fun _ =>
          storeEncoded track dest encoded) fun _ after => after.Locked := by
    intro encoded locked
    refine Program.Obeys.perform trivial fun _ => ?_
    apply guides_storeEncoded
    · exact locked
    · rfl
  cases written with
  | false => exact ends none locked
  | true => exact Program.Obeys.perform ⟨locked, dest, rfl⟩ fun encoded => ends encoded locked

theorem guides_prepareInner (locked : trace.Locked) (track : Track) (kind : Option EncodedKind) :
    trace.Guides (prepareInner track kind) fun _ after => after.Locked := by
  cases kind with
  | none => exact guides_downloadToCache locked track
  | some kind =>
      apply Program.Obeys.bind
      refine (guides_fetchTrackInner locked track kind).mono fun found after locked => ?_
      cases found with
      | none => exact guides_downloadToCache locked track
      | some path => exact locked

theorem guides_downloadOnce (locked : trace.Locked) (track : Track) (kind : Option EncodedKind) :
    trace.Guides (downloadOnce track kind) fun _ after => after.Locked := by
  refine Program.Obeys.perform trivial fun found => ?_
  cases found with
  | none => exact guides_prepareInner locked track kind
  | some path => exact locked

theorem guides_executePrepare (track : Track) (kind : Option EncodedKind) :
    Guides {} (executePrepare track kind) fun _ _ => True := by
  have locked : Locked { locked := true } := rfl
  refine Program.Obeys.perform rfl fun _ => Program.Obeys.bind ?_
  refine (guides_downloadOnce locked track kind).mono fun _ after locked => ?_
  exact ⟨locked, fun _ => trivial⟩

/-- A player which may have got the copy of a file. -/
def Got (trace : Trace) (filePath : String) (variant : TempArtifact) (copy : Option String)
    (after : Trace) : Prop :=
  after = trace ∧ ∀ name, copy = some name → name = variant.path filePath

theorem got_none {filePath : String} {variant : TempArtifact} :
    trace.Got filePath variant none trace :=
  ⟨rfl, nofun⟩

theorem got_path {filePath : String} {variant : TempArtifact} :
    trace.Got filePath variant (some (variant.path filePath)) trace :=
  ⟨rfl, fun _ same => (Option.some.inj same).symm⟩

theorem guides_finishCopy (filePath : String) (variant : TempArtifact) :
    trace.Guides (finishCopy (variant.path filePath)) (trace.Got filePath variant) := by
  refine Program.Obeys.perform trivial ?_
  rintro (_ | _)
  · exact got_none
  · exact Program.Obeys.perform trivial fun _ => got_path

theorem guides_ensureNormalized {filePath : String} (playing : trace.filePath = some filePath) :
    trace.Guides (ensureNormalized filePath) (trace.Got filePath .normalized) := by
  refine Program.Obeys.perform trivial ?_
  rintro (_ | _)
  · refine Program.Obeys.perform ⟨playing, rfl⟩ ?_
    rintro (_ | _)
    · exact got_none
    · exact guides_finishCopy filePath .normalized
  · exact got_path

theorem guides_transcode {filePath : String} (playing : trace.filePath = some filePath)
    (normalized : Bool) {copy : Option String}
    (copied : ∀ name, copy = some name →
      normalized = true ∧ name = TempArtifact.normalized.path filePath) :
    trace.Guides (transcode filePath ((TempArtifact.lowData normalized).path filePath) copy)
      fun _ after => after = trace := by
  cases copy with
  | none => exact ⟨⟨playing, normalized, rfl⟩, fun _ => rfl⟩
  | some name =>
      obtain ⟨rfl, rfl⟩ := copied name rfl
      refine Program.Obeys.perform ⟨filePath, playing, rfl, rfl⟩ fun ran => ?_
      exact Program.Obeys.perform trivial fun _ => rfl

theorem guides_normalizedCopy {filePath : String} (playing : trace.filePath = some filePath)
    (normalized : Bool) :
    trace.Guides (normalizedCopy filePath normalized) fun copy after =>
      after = trace ∧ ∀ name, copy = some name →
        normalized = true ∧ name = TempArtifact.normalized.path filePath := by
  cases normalized with
  | false => exact ⟨rfl, nofun⟩
  | true =>
      refine (guides_ensureNormalized playing).mono ?_
      rintro copy after ⟨same, named⟩
      exact ⟨same, fun name found => ⟨rfl, named name found⟩⟩

theorem guides_ensureStreamTemp {filePath : String} (playing : trace.filePath = some filePath)
    (variant : TempArtifact) :
    trace.Guides (ensureStreamTemp filePath variant) (trace.Got filePath variant) := by
  cases variant with
  | normalized => exact guides_ensureNormalized playing
  | lowData normalized =>
      refine Program.Obeys.perform trivial ?_
      rintro (_ | _)
      · apply Program.Obeys.bind
        refine (guides_normalizedCopy playing normalized).mono ?_
        rintro copy _ ⟨rfl, copied⟩
        apply Program.Obeys.bind
        refine (guides_transcode playing normalized copied).mono ?_
        rintro ran _ rfl
        cases ran with
        | false => exact got_none
        | true => exact guides_finishCopy filePath _
      · exact got_path

theorem guides_awaitPrewarm (filePath : String) (polls : Nat) :
    trace.Guides (awaitPrewarm filePath polls) fun _ after => after = trace := by
  induction polls with
  | zero => rfl
  | succ polls ih =>
      refine Program.Obeys.perform trivial ?_
      rintro (_ | _)
      · rfl
      · exact ih

theorem guides_playTrack (filePath : String) :
    Guides {} (playTrack filePath) fun _ _ => True := by
  refine Program.Obeys.perform trivial fun plan => ?_
  cases plan with
  | none => trivial
  | some variant =>
      apply Program.Obeys.bind
      apply Program.Obeys.bind
      refine (guides_awaitPrewarm filePath 60).mono ?_
      rintro _ _ rfl
      refine (guides_ensureStreamTemp rfl variant).mono ?_
      rintro copy _ ⟨rfl, named⟩
      cases copy with
      | none => trivial
      | some name => exact ⟨⟨rfl, named name rfl⟩, fun _ => trivial⟩

theorem guides_prewarm (filePath : String) : Guides {} (prewarm filePath) fun _ _ => True := by
  refine Program.Obeys.perform trivial fun plan => ?_
  cases plan with
  | none => trivial
  | some variant =>
      refine Program.Obeys.perform trivial ?_
      rintro (_ | _)
      · refine Program.Obeys.perform trivial ?_
        rintro (_ | _)
        · trivial
        · apply Program.Obeys.bind
          refine (guides_ensureStreamTemp rfl variant).mono ?_
          rintro copy _ ⟨rfl, -⟩
          exact ⟨trivial, fun _ => trivial⟩
      · trivial

theorem guides_accept (request : Request) : Guides {} (accept request) fun _ _ => True := by
  cases request with
  | prepare track kind => exact guides_executePrepare track kind
  | playTrack filePath => exact guides_playTrack filePath
  | prewarm filePath => exact guides_prewarm filePath

end Trace

end Togewire.Media
