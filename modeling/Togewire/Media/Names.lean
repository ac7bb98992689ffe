import Togewire.Cache.Disk
import Togewire.Foundation.Trim
import Togewire.Types

/-!
# File names

Cached files are named after artist and title, and their streaming copies after the cached file.
Nothing in a name tells tracks of equal artist and title apart, and a copy's name tells its variant
by what stands in front.
-/

namespace Togewire.Media

open Cache

/-! ## Cached files -/

/-- `char::is_control`. -/
def isControl (c : Char) : Bool := c.val < 0x20 || (0x7f ≤ c.val && c.val < 0xa0)

/-- `char::is_whitespace`. -/
def isWhitespace (c : Char) : Bool :=
  (9 ≤ c.val && c.val ≤ 13) || (0x2000 ≤ c.val && c.val ≤ 0x200a) ||
    [0x20, 0x85, 0xa0, 0x1680, 0x2028, 0x2029, 0x202f, 0x205f, 0x3000].contains c.val

/-- One round of the cleaning loop, over the text so far in reverse. -/
def clean (cleaned : List Char) (c : Char) : List Char :=
  let ch := if isControl c || isWhitespace c || c == '/' || c == '\\' then ' ' else c
  if ch == ' ' then
    if cleaned.head? != some ' ' && !cleaned.isEmpty then ' ' :: cleaned else cleaned
  else
    ch :: cleaned

/-- The longest start of a text which has at most the given number of bytes. -/
def takeBytes : Nat → List Char → List Char
  | _, [] => []
  | room, c :: text => if room < c.utf8Size then [] else c :: takeBytes (room - c.utf8Size) text

/-- "<artist> - <title>", browsable and sanitized for filesystem safety. -/
def fileStem (track : Track) : List Char :=
  let text := track.artist.toList ++ " - ".toList ++ track.name.toList
  let cleaned := Trimming.strip (fun c => c == '.' || c == ' ') (text.foldl clean []).reverse
  let stem := Trimming.strip isWhitespace (takeBytes 180 cleaned)
  if stem.isEmpty then "track".toList else stem

/-- The names `track_path` tries, one after another. -/
def candidate (track : Track) (ext : String) : Nat → String
  | 0 => String.ofList (cacheDir.toList ++ '/' :: fileStem track ++ '.' :: ext.toList)
  | idx + 1 =>
      String.ofList (cacheDir.toList ++ '/' :: fileStem track ++
        (" (" ++ toString (idx + 1) ++ ").").toList ++ ext.toList)

/-- The loop of `track_path` from one of the names on, over a number of rounds. -/
def trackPathFrom (disk : Disk) (track : Track) (ext : String) : Nat → Nat → Option String
  | 0, _ => none
  | rounds + 1, idx =>
      if disk.pathExists (candidate track ext idx) then
        trackPathFrom disk track ext rounds (idx + 1)
      else
        some (candidate track ext idx)

/-- The first of a track's names which is free on disk, if the loop ends within the given number of
rounds. -/
def trackPath (disk : Disk) (track : Track) (ext : String) (rounds : Nat) : Option String :=
  trackPathFrom disk track ext rounds 0

/-- `Path::with_extension`, on a path with an extension. -/
def withExtension (path ext : String) : String :=
  String.ofList (((path.toList.reverse.dropWhile fun c => c != '.').drop 1).reverse ++
    '.' :: ext.toList)

/-! ## Streaming copies -/

/-- `Path::file_name`, on a path which ends in a name. -/
def fileName (path : String) : List Char :=
  (path.toList.reverse.takeWhile fun c => c != '/').reverse

/-- The in-memory streaming copy variants. -/
inductive TempArtifact
  | normalized
  | lowData (normalized : Bool)
  deriving DecidableEq

namespace TempArtifact

/-- What stands in front of the file name. -/
def mark : TempArtifact → List Char
  | normalized => []
  | lowData false => "ld_".toList
  | lowData true => "ldn_".toList

/-- The name of a copy in its directory. -/
def path (variant : TempArtifact) (filePath : String) : String :=
  String.ofList (variant.mark ++ fileName filePath)

theorem eq_of_path {filePath : String} {variant other : TempArtifact}
    (same : variant.path filePath = other.path filePath) : variant = other := by
  have texts : variant.mark ++ fileName filePath = other.mark ++ fileName filePath :=
    String.ofList_injective same
  have marks : variant.mark = other.mark := List.append_cancel_right texts
  match variant, other with
  | normalized, normalized => rfl
  | lowData false, lowData false => rfl
  | lowData true, lowData true => rfl
  | normalized, lowData false => simp [mark] at marks
  | normalized, lowData true => simp [mark] at marks
  | lowData false, normalized => simp [mark] at marks
  | lowData true, normalized => simp [mark] at marks
  | lowData false, lowData true => simp [mark] at marks
  | lowData true, lowData false => simp [mark] at marks

end TempArtifact

/-- The names of a file's copies. -/
def copyNames (filePath : String) : List String :=
  [TempArtifact.normalized.path filePath, (TempArtifact.lowData false).path filePath,
    (TempArtifact.lowData true).path filePath]

theorem path_mem_copyNames (variant : TempArtifact) (filePath : String) :
    variant.path filePath ∈ copyNames filePath := by
  match variant with
  | .normalized => simp [copyNames]
  | .lowData false => simp [copyNames]
  | .lowData true => simp [copyNames]

end Togewire.Media
