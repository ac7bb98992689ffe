import Togewire.Media.Stems
import Togewire.Media.Tasks

/-!
# Work files

The files a fetch works with are named after the finished one by their endings, and the sweep at
startup goes by the same endings.  Titles are arbitrary, so a finished file can look like a work
file: exactly if its stem has no number and ends as a work file's name does before `.ogg`.
-/

namespace Togewire.Media

open Cache

/-! ## Names -/

/-- What a fetcher writes next to the finished file. -/
inductive WorkFile
  | encode
  | raw (kind : EncodedKind)
  | picture (hex : String)

/-- The path of a work file, for the path of the finished one. -/
def WorkFile.path (dest : String) : WorkFile → String
  | encode => withExtension dest "tmp.ogg"
  | raw kind => withExtension dest kind.rawExtension
  | picture hex => withExtension (withExtension dest "tmp.ogg") ("meta." ++ hex ++ ".tmp")

theorem withExtension_cachePath (stem : List Char) {old : List Char} (last : '.' ∉ old)
    (ext : String) :
    withExtension (cachePath (stem ++ '.' :: old)) ext =
      cachePath (stem ++ '.' :: ext.toList) := by
  have others : ∀ c ∈ old.reverse, (c != '.') = true := by
    intro c member
    rw [bne_iff_ne]
    rintro rfl
    exact last (List.mem_reverse.mp member)
  simp only [withExtension, cachePath, String.toList_ofList, List.reverse_append,
    List.reverse_cons, List.append_assoc]
  rw [List.dropWhile_append_of_pos others]
  simp

theorem encode_path (stem : List Char) :
    WorkFile.path (cachePath (stem ++ ".ogg".toList)) .encode =
      cachePath (stem ++ ".tmp".toList ++ ".ogg".toList) := by
  rw [List.append_assoc]
  exact withExtension_cachePath stem (by decide) "tmp.ogg"

theorem raw_path (stem : List Char) (kind : EncodedKind) :
    WorkFile.path (cachePath (stem ++ ".ogg".toList)) (.raw kind) =
      cachePath (stem ++ '.' :: kind.rawExtension.toList) :=
  withExtension_cachePath stem (by decide) _

theorem picture_path (stem : List Char) (hex : String) :
    WorkFile.path (cachePath (stem ++ ".ogg".toList)) (.picture hex) =
      cachePath (stem ++ ".tmp".toList ++ '.' :: ("meta." ++ hex ++ ".tmp").toList) := by
  have encoded := encode_path stem
  simp only [WorkFile.path] at encoded ⊢
  rw [encoded]
  exact withExtension_cachePath (stem ++ ".tmp".toList) (by decide) _

/-- A finished file is a work file of another only where its name goes on like one's. -/
theorem finished_eq_work_iff (name stem : List Char) (file : WorkFile) :
    cachePath (name ++ ".ogg".toList) = file.path (cachePath (stem ++ ".ogg".toList)) ↔
      match file with
      | .encode => name = stem ++ ".tmp".toList
      | .raw .oggVorbis => name = stem ++ ".raw".toList
      | _ => False := by
  cases file with
  | encode => rw [encode_path, cachePath_injective.eq_iff, List.append_left_inj]
  | raw kind =>
      rw [raw_path, cachePath_injective.eq_iff]
      cases kind with
      | oggVorbis =>
          rw [show '.' :: EncodedKind.oggVorbis.rawExtension.toList =
            ".raw".toList ++ ".ogg".toList by decide, ← List.append_assoc, List.append_left_inj]
      | flac =>
          refine iff_of_false (fun same => ?_) id
          have lasts := congrArg List.getLast? same
          simp [EncodedKind.rawExtension] at lasts
      | other =>
          refine iff_of_false (fun same => ?_) id
          have lasts := congrArg List.getLast? same
          simp [EncodedKind.rawExtension] at lasts
  | picture hex =>
      rw [picture_path, cachePath_injective.eq_iff]
      refine iff_of_false (fun same => ?_) id
      have ending : name ++ ".ogg".toList =
          stem ++ ".tmp.meta.".toList ++ hex.toList ++ ".tmp".toList := by
        simpa using same
      have lengths : ".ogg".toList.length = ".tmp".toList.length := by decide
      have lasts := List.append_inj_right' ending lengths
      exact absurd lasts (by decide)

/-! ## The sweep -/

theorem insideCache_cachePath (name : List Char) :
    Disk.insideCache (cachePath name) = some name := by
  have text : (cachePath name).toList = cacheDir.toList ++ ['/'] ++ name := by simp [cachePath]
  have inside : (cacheDir.toList ++ ['/']).isPrefixOf (cachePath name).toList := by
    rw [List.isPrefixOf_iff_prefix, text]
    exact List.prefix_append _ _
  rw [Disk.insideCache, if_pos inside, text, List.drop_left]

theorem suffix_finished_iff (name front ending : List Char) (length : ending.length = 4) :
    front ++ ending <:+ name ++ ".ogg".toList ↔ front <:+ name ∧ ending = ".ogg".toList :=
  List.suffix_append_inj_of_length_eq length

theorem not_suffix_finished (name front ending : List Char)
    (length : ending.length = 4) (other : ending ≠ ".ogg".toList) :
    ¬ front ++ ending <:+ name ++ ".ogg".toList := by
  intro found
  exact other ((suffix_finished_iff name front ending length).mp found).2

/-- The sweep takes a finished name for a work file's if what stands before `.ogg` ends like one. -/
theorem isWorkFile_finished_iff {name : List Char} (flat : '/' ∉ name) :
    Disk.isWorkFile (cachePath (name ++ ".ogg".toList)) = true ↔
      ".tmp".toList <:+ name ∨ ".raw".toList <:+ name := by
  have whole : (name ++ ".ogg".toList).takeWhile (fun c => decide (c ≠ '/')) =
      name ++ ".ogg".toList := by
    rw [List.takeWhile_eq_self_iff]
    intro c member
    rw [decide_eq_true_eq]
    rintro rfl
    simp [flat] at member
  have scratch : ¬ ".ytwork".toList <:+ name ++ ".ogg".toList :=
    not_suffix_finished name ".yt".toList "work".toList rfl (by decide)
  have saved : ¬ ".tmp".toList <:+ name ++ ".ogg".toList :=
    not_suffix_finished name [] ".tmp".toList rfl (by decide)
  have encoded : ".tmp.ogg".toList <:+ name ++ ".ogg".toList ↔ ".tmp".toList <:+ name :=
    (suffix_finished_iff name ".tmp".toList ".ogg".toList rfl).trans
      (and_iff_left rfl)
  have lossless : ¬ ".raw.flac".toList <:+ name ++ ".ogg".toList :=
    not_suffix_finished name ".raw.".toList "flac".toList rfl (by decide)
  have decrypted : ".raw.ogg".toList <:+ name ++ ".ogg".toList ↔ ".raw".toList <:+ name :=
    (suffix_finished_iff name ".raw".toList ".ogg".toList rfl).trans
      (and_iff_left rfl)
  have unknown : ¬ ".raw.bin".toList <:+ name ++ ".ogg".toList :=
    not_suffix_finished name ".raw".toList ".bin".toList rfl (by decide)
  have endings : ([".tmp", ".tmp.ogg", ".raw.flac", ".raw.ogg", ".raw.bin"].any fun ending =>
      ending.toList.isSuffixOf (name ++ ".ogg".toList)) = true ↔
        ".tmp".toList <:+ name ∨ ".raw".toList <:+ name := by
    simp only [List.any_cons, List.any_nil, Bool.or_eq_true, List.isSuffixOf_iff_suffix, saved,
      encoded, lossless, decrypted, unknown, Bool.false_eq_true, false_or, or_false]
  have directory : (".ytwork".toList.isSuffixOf (name ++ ".ogg".toList) &&
      decide (".ytwork".length < (name ++ ".ogg".toList).length)) = false := by
    rw [Bool.and_eq_false_iff]
    left
    rwa [← Bool.not_eq_true, List.isSuffixOf_iff_suffix]
  rw [Disk.isWorkFile, insideCache_cachePath]
  simp only [whole, directory, Bool.false_eq_true, if_false, beq_self_eq_true, Bool.true_and]
  exact endings

theorem files_sweepWorkDirs (disk : Disk) (path : String) :
    disk.sweepWorkDirs.files path =
      if disk.writable && Disk.isWorkFile path then none else disk.files path := by
  unfold Disk.sweepWorkDirs Disk.keepFiles
  cases disk.writable with
  | false => rfl
  | true => cases work : Disk.isWorkFile path <;> simp [work]

/-! ## When they meet -/

/-- The stem goes on as a work file's name does before its last extension. -/
def EndsAsWork (stem : List Char) : Prop := ".tmp".toList <:+ stem ∨ ".raw".toList <:+ stem

instance (stem : List Char) : Decidable (EndsAsWork stem) :=
  inferInstanceAs (Decidable (_ ∨ _))

/-- A number ends a name in a bracket. -/
theorem endsAsWork_numbered_iff (track : Track) (index : Nat) :
    EndsAsWork (numbered track index) ↔ index = 0 ∧ EndsAsWork (fileStem track) := by
  cases index with
  | zero => exact (and_iff_right rfl).symm
  | succ index =>
      refine iff_of_false ?_ (fun both => Nat.succ_ne_zero index both.1)
      have bracket : (numbered track (index + 1)).getLast? = some ')' := by
        rw [numbered, String.toList_append, ← List.append_assoc]
        exact List.getLast?_concat
      rintro (⟨front, split⟩ | ⟨front, split⟩)
      · rw [← split] at bracket
        simp at bracket
      · rw [← split] at bracket
        simp at bracket

/-- A track's finished file is none of the files and directories another track is fetched with, and
the sweep at startup leaves it. -/
structure Apart (track : Track) (index : Nat) (other : Track) (number : Nat) : Prop where
  work : ∀ file : WorkFile,
    candidate track "ogg" index ≠ file.path (candidate other "ogg" number)
  scratch : ∀ tries, candidate track "ogg" index ≠ candidate other "ytwork" tries
  swept : ∀ disk : Disk, disk.sweepWorkDirs.files (candidate track "ogg" index) =
    disk.files (candidate track "ogg" index)

theorem finished_eq (track : Track) (index : Nat) :
    candidate track "ogg" index = cachePath (numbered track index ++ ".ogg".toList) :=
  candidate_eq track "ogg" index

/-- A finished file stands apart from work files exactly if its name does not end like theirs. -/
theorem apart_iff (track other : Track) (index number : Nat) :
    Apart track index other number ↔ (index = 0 → ¬ EndsAsWork (fileStem track)) := by
  have looks : Disk.isWorkFile (candidate track "ogg" index) = true ↔
      index = 0 ∧ EndsAsWork (fileStem track) := by
    rw [finished_eq, isWorkFile_finished_iff (slash_notMem_numbered track index)]
    exact endsAsWork_numbered_iff track index
  constructor
  · intro apart first ends
    have work := looks.mpr ⟨first, ends⟩
    have swept := apart.swept
      { files := fun _ => some 0, metadata := none, writable := true, stale := false }
    rw [files_sweepWorkDirs, work] at swept
    cases swept
  · intro differs
    have other_ending : ¬ EndsAsWork (numbered track index) := by
      rw [endsAsWork_numbered_iff]
      rintro ⟨first, ends⟩
      exact differs first ends
    refine ⟨?_, ?_, ?_⟩
    · intro file
      rw [finished_eq, finished_eq, ne_eq, finished_eq_work_iff]
      cases file with
      | encode => exact fun same => other_ending (Or.inl ⟨_, same.symm⟩)
      | raw kind =>
          cases kind with
          | oggVorbis => exact fun same => other_ending (Or.inr ⟨_, same.symm⟩)
          | flac => exact id
          | other => exact id
      | picture hex => exact id
    · intro tries
      rw [finished_eq, candidate_eq, cachePath_injective.ne_iff]
      intro same
      have lasts := congrArg List.getLast? same
      simp at lasts
    · intro disk
      have kept : Disk.isWorkFile (candidate track "ogg" index) = false := by
        rw [← Bool.not_eq_true, looks]
        rintro ⟨first, ends⟩
        exact differs first ends
      rw [files_sweepWorkDirs, kept, Bool.and_false]
      rfl

/-- The finished file of one title is the unfinished encode of another. -/
theorem titled_tmp_meets :
    ¬ ∀ track other : Track, ∀ index number : Nat, Apart track index other number := by
  intro apart
  let titled : Track := { id := "a", name := "Song.tmp", artist := "Band" }
  let plain : Track := { id := "b", name := "Song", artist := "Band" }
  have same : candidate titled "ogg" 0 = WorkFile.encode.path (candidate plain "ogg" 0) := by
    decide +kernel
  exact (apart titled plain 0 0).work .encode same

end Togewire.Media
