import Mathlib.Data.List.AList

/-!
# The cache directory

The part of the file system the track cache works on: the size of every file, the parsed metadata
file, and whether the directory can be written.  A removal or a write on a directory that
cannot be written is ignored, as the source ignores their errors.
-/

namespace Togewire.Cache

/-- `CACHE_DIR`. -/
def cacheDir : String := "data/track_cache"

/-- One cached track, as the metadata file records it. -/
structure Entry where
  lastAccessedAt : Int
  filePath : String
  fileSize : Int
  bitrate : String
  normalized : Bool
  deriving DecidableEq

/-- The cache's map from track ids to entries. -/
abbrev Entries := AList fun _ : String => Entry

/-- The files below the working directory, with the metadata file kept apart. -/
structure Disk where
  /-- Size of each file. -/
  files : String → Option Nat
  /-- The metadata file, when it exists and parses. -/
  metadata : Option Entries
  /-- Whether writes and removals succeed. -/
  writable : Bool
  /-- History: whether the last write of the metadata file failed. -/
  stale : Bool

namespace Disk

/-- `Path::exists`. -/
def pathExists (disk : Disk) (path : String) : Bool := (disk.files path).isSome

/-- Change one file, if the directory can be written. -/
def setFile (disk : Disk) (path : String) (size : Option Nat) : Disk :=
  if disk.writable then
    { disk with files := Function.update disk.files path size }
  else
    disk

/-- `fs::remove_file`. -/
def removeFile (disk : Disk) (path : String) : Disk := disk.setFile path none

/-- Keep the files that pass a test, if the directory can be written. -/
def keepFiles (disk : Disk) (keep : String → Bool) : Disk :=
  if disk.writable then
    { disk with files := fun path => if keep path then disk.files path else none }
  else
    disk

/-- Write the metadata file and rename it into place, leaving the old one if that fails. -/
def saveMetadata (disk : Disk) (entries : Entries) : Disk :=
  if disk.writable then
    { disk with metadata := some entries, stale := false }
  else
    { disk with stale := true }

/-- The path relative to the cache directory, when it is inside. -/
def insideCache (path : String) : Option (List Char) :=
  let root := cacheDir.toList ++ ['/']
  if root.isPrefixOf path.toList then some (path.toList.drop root.length) else none

/-- Whether `sweep_work_dirs` removes a file: anything in a `.ytwork` directory, and unfinished
encodes directly in the cache directory. -/
def isWorkFile (path : String) : Bool :=
  match insideCache path with
  | none => false
  | some rest =>
      let name := rest.takeWhile (· ≠ '/')
      if ".ytwork".toList.isSuffixOf name && ".ytwork".length < name.length then
        name.length < rest.length
      else
        name == rest &&
          [".tmp", ".tmp.ogg", ".raw.flac", ".raw.ogg", ".raw.bin"].any fun ending =>
            ending.toList.isSuffixOf name

/-- Remove what a crash left unfinished. -/
def sweepWorkDirs (disk : Disk) : Disk := disk.keepFiles fun path => !isWorkFile path

/-- Empty the cache directory except for its metadata file. -/
def clearCache (disk : Disk) : Disk := disk.keepFiles fun path => (insideCache path).isNone

/-- The entry the metadata file records for a track. -/
def listed (disk : Disk) (trackId : String) : Option Entry :=
  disk.metadata.bind fun entries => entries.lookup trackId

@[simp] theorem setFile_metadata (disk : Disk) (path : String) (size : Option Nat) :
    (disk.setFile path size).metadata = disk.metadata := by
  unfold setFile
  split <;> rfl

@[simp] theorem removeFile_metadata (disk : Disk) (path : String) :
    (disk.removeFile path).metadata = disk.metadata := setFile_metadata disk path none

@[simp] theorem keepFiles_metadata (disk : Disk) (keep : String → Bool) :
    (disk.keepFiles keep).metadata = disk.metadata := by
  unfold keepFiles
  split <;> rfl

@[simp] theorem keepFiles_stale (disk : Disk) (keep : String → Bool) :
    (disk.keepFiles keep).stale = disk.stale := by
  unfold keepFiles
  split <;> rfl

@[simp] theorem saveMetadata_files (disk : Disk) (entries : Entries) :
    (disk.saveMetadata entries).files = disk.files := by
  unfold saveMetadata
  split <;> rfl

theorem pathExists_of_removeFile (disk : Disk) {path other : String}
    (present : (disk.removeFile path).pathExists other) : disk.pathExists other := by
  unfold removeFile setFile at present
  split at present
  · by_cases same : other = path
    · simp [pathExists, same] at present
    · simpa [pathExists, same] using present
  · exact present

theorem saveMetadata_metadata {disk : Disk} {entries : Entries}
    (written : (disk.saveMetadata entries).stale = false) :
    (disk.saveMetadata entries).metadata = some entries := by
  unfold saveMetadata at written ⊢
  split at written
  · simp_all
  · simp at written

end Disk

end Togewire.Cache
