import Mathlib.Data.List.Chain
import Mathlib.Data.Set.Finite.Basic
import Togewire.Foundation.Digits
import Togewire.Foundation.Trim
import Togewire.Media.Names

/-!
# What a file name can be

A stem is cleaned, stripped of dots and spaces, cut and stripped again.  Cleaning leaves neither a
separator nor a run of spaces, and no later stage brings one back: each takes a piece of what it
gets, and the first character is never taken away again.
-/

namespace Togewire.Media

open Cache Trimming

/-! ## Cleaning -/

/-- Neither a separator nor a control character, and no whitespace but the space. -/
structure Plain (c : Char) : Prop where
  slash : c ≠ '/'
  backslash : c ≠ '\\'
  control : isControl c = false
  space : isWhitespace c → c = ' '

instance (c : Char) : Decidable (Plain c) :=
  decidable_of_iff
    (c ≠ '/' ∧ c ≠ '\\' ∧ isControl c = false ∧ (isWhitespace c → c = ' '))
    ⟨fun ⟨slash, backslash, control, space⟩ => ⟨slash, backslash, control, space⟩,
      fun plain => ⟨plain.slash, plain.backslash, plain.control, plain.space⟩⟩

/-- Plain characters without two spaces side by side. -/
structure Readable (text : List Char) : Prop where
  plain : ∀ c ∈ text, Plain c
  single : text.IsChain fun c d => c = ' ' → d ≠ ' '

theorem Readable.piece {text piece : List Char} (readable : Readable text)
    (inside : piece <:+: text) : Readable piece where
  plain c member := readable.plain c (inside.subset member)
  single := List.IsChain.infix readable.single inside

theorem Readable.reverse {text : List Char} (readable : Readable text) : Readable text.reverse where
  plain := by simpa using readable.plain
  single := by
    rw [List.isChain_reverse]
    apply readable.single.imp
    intro c d apart second first
    exact apart first second

theorem plain_of_kept {c : Char}
    (kept : ¬ (isControl c || isWhitespace c || c == '/' || c == '\\') = true) : Plain c := by
  simp only [Bool.or_eq_true, beq_iff_eq, not_or, Bool.not_eq_true] at kept
  obtain ⟨⟨⟨control, whitespace⟩, slash⟩, backslash⟩ := kept
  exact ⟨slash, backslash, control, by simp [whitespace]⟩

/-- One round pushes a plain character, or a space after another character, or nothing. -/
theorem clean_cases (cleaned : List Char) (c : Char) :
    (∃ d, Plain d ∧ d ≠ ' ' ∧ clean cleaned c = d :: cleaned) ∨
      (cleaned.head? ≠ some ' ' ∧ clean cleaned c = ' ' :: cleaned) ∨
        clean cleaned c = cleaned := by
  unfold clean
  by_cases replaced : (isControl c || isWhitespace c || c == '/' || c == '\\') = true
  · rw [if_pos replaced]
    by_cases after : (cleaned.head? != some ' ' && !cleaned.isEmpty) = true
    · have apart : cleaned.head? ≠ some ' ' := by
        simp only [Bool.and_eq_true, bne_iff_ne] at after
        exact after.1
      exact Or.inr (Or.inl ⟨apart, by simp only [after]; rfl⟩)
    · exact Or.inr (Or.inr (by simp only [after]; rfl))
  · rw [if_neg replaced]
    have plain := plain_of_kept replaced
    have other : c ≠ ' ' := by
      rintro rfl
      exact replaced (by decide)
    exact Or.inl ⟨c, plain, other, by simp [other]⟩

theorem readable_clean {cleaned : List Char} (readable : Readable cleaned) (c : Char) :
    Readable (clean cleaned c) := by
  rcases clean_cases cleaned c with ⟨d, plain, other, pushed⟩ | ⟨apart, pushed⟩ | same
  · rw [pushed]
    refine ⟨List.forall_mem_cons.mpr ⟨plain, readable.plain⟩, ?_⟩
    exact readable.single.cons (fun _ _ space => absurd space other)
  · rw [pushed]
    refine ⟨List.forall_mem_cons.mpr ⟨by decide, readable.plain⟩, ?_⟩
    apply readable.single.cons
    rintro d first - rfl
    exact apart first
  · rw [same]
    exact readable

theorem readable_foldl {cleaned : List Char} (readable : Readable cleaned) (text : List Char) :
    Readable (text.foldl clean cleaned) := by
  induction text generalizing cleaned with
  | nil => exact readable
  | cons c text ih => exact ih (readable_clean readable c)

/-- No round takes a character away again. -/
theorem mem_foldl_clean {cleaned : List Char} {d : Char} (member : d ∈ cleaned)
    (text : List Char) : d ∈ text.foldl clean cleaned := by
  induction text generalizing cleaned with
  | nil => exact member
  | cons c text ih =>
      have kept : d ∈ clean cleaned c := by
        rcases clean_cases cleaned c with ⟨_, -, -, pushed⟩ | ⟨-, pushed⟩ | same
        · exact pushed ▸ List.mem_cons_of_mem _ member
        · exact pushed ▸ List.mem_cons_of_mem _ member
        · exact same.symm ▸ member
      exact ih kept

/-! ## Cutting -/

theorem utf8ByteSize_ofList_cons (c : Char) (text : List Char) :
    (String.ofList (c :: text)).utf8ByteSize =
      c.utf8Size + (String.ofList text).utf8ByteSize := by
  rw [show c :: text = [c] ++ text from rfl, String.ofList_append, String.utf8ByteSize_append,
    ← String.singleton_eq_ofList, String.utf8ByteSize_singleton]

theorem takeBytes_start (room : Nat) (text : List Char) : takeBytes room text <+: text := by
  induction text generalizing room with
  | nil => exact List.prefix_rfl
  | cons c text ih =>
      unfold takeBytes
      split
      · exact List.nil_prefix
      · exact List.cons_prefix_cons.mpr ⟨rfl, ih _⟩

theorem utf8ByteSize_takeBytes (room : Nat) (text : List Char) :
    (String.ofList (takeBytes room text)).utf8ByteSize ≤ room := by
  induction text generalizing room with
  | nil => exact Nat.zero_le room
  | cons c text ih =>
      unfold takeBytes
      split
      · exact Nat.zero_le room
      · have rest := ih (room - c.utf8Size)
        rw [utf8ByteSize_ofList_cons]
        omega

theorem head?_takeBytes (text : List Char) : (takeBytes 180 text).head? = text.head? := by
  cases text with
  | nil => rfl
  | cons c text =>
      have small := c.utf8Size_le_four
      unfold takeBytes
      rw [if_neg (by omega)]
      rfl

theorem utf8ByteSize_piece {piece text : List Char} (inside : piece <:+: text) :
    (String.ofList piece).utf8ByteSize ≤ (String.ofList text).utf8ByteSize := by
  obtain ⟨front, back, rfl⟩ := inside
  simp only [String.ofList_append, String.utf8ByteSize_append]
  omega

/-! ## Stems -/

/-- What `file_stem` has left of a track's text before it cuts. -/
def cleanedText (track : Track) : List Char :=
  ((track.artist.toList ++ " - ".toList ++ track.name.toList).foldl clean []).reverse

/-- A text which stands for a track in the names of its files. -/
structure IsStem (stem : List Char) : Prop extends Readable stem where
  nonempty : stem ≠ []
  short : (String.ofList stem).utf8ByteSize ≤ 180
  head : ∀ c ∈ stem.head?, c ≠ '.' ∧ c ≠ ' '
  last : ∀ c ∈ stem.getLast?, c ≠ ' '

theorem readable_cleanedText (track : Track) : Readable (cleanedText track) :=
  (readable_foldl ⟨by simp, List.isChain_nil⟩ _).reverse

theorem dash_mem_cleanedText (track : Track) : '-' ∈ cleanedText track := by
  have between : ∀ cleaned : List Char, '-' ∈ " - ".toList.foldl clean cleaned := by
    intro cleaned
    have pushed : '-' ∈ clean (clean cleaned ' ') '-' := List.mem_cons_self
    exact mem_foldl_clean pushed [' ']
  rw [cleanedText, List.mem_reverse, List.foldl_append, List.foldl_append]
  exact mem_foldl_clean (between _) _

/-- What is left of a cleaned text between its dots and spaces, up to the limit. -/
def cutText (track : Track) : List Char :=
  takeBytes 180 (strip (fun c => c == '.' || c == ' ') (cleanedText track))

theorem cutText_inside (track : Track) : cutText track <:+: cleanedText track :=
  (takeBytes_start _ _).isInfix.trans (strip_inside _ _)

/-- A cut text begins with neither a dot nor a space, and is not empty. -/
theorem head?_cutText (track : Track) :
    ∃ c, (cutText track).head? = some c ∧ c ≠ '.' ∧ c ≠ ' ' := by
  have stripped := stripped_strip (fun c => c == '.' || c == ' ') (cleanedText track)
  have nonempty : strip (fun c => c == '.' || c == ' ') (cleanedText track) ≠ [] := by
    intro empty
    have dropped := strip_eq_nil_iff.mp empty '-' (dash_mem_cleanedText track)
    exact absurd dropped (by decide)
  obtain ⟨c, rest, split⟩ := List.exists_cons_of_ne_nil nonempty
  have first : (strip (fun c => c == '.' || c == ' ') (cleanedText track)).head? = some c := by
    rw [split]
    rfl
  have kept := stripped.head c first
  simp only [Bool.or_eq_false_iff, beq_eq_false_iff_ne] at kept
  exact ⟨c, (head?_takeBytes _).trans first, kept⟩

theorem fileStem_eq (track : Track) :
    fileStem track = if (strip isWhitespace (cutText track)).isEmpty then "track".toList
      else strip isWhitespace (cutText track) := rfl

/-- The last trimming takes nothing off the front. -/
theorem fileStem_start (track : Track) :
    fileStem track = strip isWhitespace (cutText track) ∧
      (fileStem track).head? = (cutText track).head? := by
  obtain ⟨c, first, -, other⟩ := head?_cutText track
  have member : c ∈ cutText track := List.mem_of_mem_head? first
  have plain := ((readable_cleanedText track).piece (cutText_inside track)).plain c member
  have visible : isWhitespace c = false := by
    by_contra whitespace
    exact other (plain.space (by simpa using whitespace))
  have started : (strip isWhitespace (cutText track)).head? = (cutText track).head? :=
    head?_strip fun d same => by
      obtain rfl : c = d := Option.some.inj (first.symm.trans same)
      exact visible
  have nonempty : (strip isWhitespace (cutText track)).isEmpty = false := by
    cases split : strip isWhitespace (cutText track) with
    | nil => simp [split, first] at started
    | cons d rest => rfl
  have whole : fileStem track = strip isWhitespace (cutText track) := by
    rw [fileStem_eq, nonempty]
    rfl
  exact ⟨whole, by rw [whole, started]⟩

/-- A stem is a piece of the cleaned text. -/
theorem fileStem_inside (track : Track) : fileStem track <:+: cleanedText track := by
  rw [(fileStem_start track).1]
  exact (strip_inside _ _).trans (cutText_inside track)

theorem isStem_fileStem (track : Track) : IsStem (fileStem track) where
  toReadable := (readable_cleanedText track).piece (fileStem_inside track)
  nonempty := by
    obtain ⟨c, first, -⟩ := head?_cutText track
    have started := (fileStem_start track).2
    intro empty
    rw [empty, first] at started
    cases started
  short := by
    have fits := utf8ByteSize_piece (strip_inside isWhitespace (cutText track))
    rw [(fileStem_start track).1]
    exact fits.trans (utf8ByteSize_takeBytes 180 _)
  head := by
    obtain ⟨c, first, visible⟩ := head?_cutText track
    intro d same
    rw [(fileStem_start track).2, first] at same
    obtain rfl := Option.some.inj same
    exact visible
  last := by
    rintro d final rfl
    rw [(fileStem_start track).1] at final
    have kept := (stripped_strip isWhitespace (cutText track)).last ' ' final
    exact absurd kept (by decide)

/-! ## Paths -/

/-- A track's stem, numbered from the second try of `track_path` on. -/
def numbered (track : Track) : Nat → List Char
  | 0 => fileStem track
  | idx + 1 => fileStem track ++ (" (" ++ toString (idx + 1) ++ ")").toList

/-- The file of a name in the cache directory. -/
def cachePath (name : List Char) : String := String.ofList (cacheDir.toList ++ '/' :: name)

theorem candidate_eq (track : Track) (ext : String) (index : Nat) :
    candidate track ext index = cachePath (numbered track index ++ '.' :: ext.toList) := by
  cases index with
  | zero => simp [candidate, cachePath, numbered]
  | succ idx => simp [candidate, cachePath, numbered]

theorem cachePath_injective : Function.Injective cachePath := by
  intro name other same
  have texts := List.append_cancel_left (String.ofList_injective same)
  exact (List.cons.inj texts).2

theorem numbered_injective (track : Track) : Function.Injective (numbered track) := by
  intro index number same
  cases index with
  | zero =>
      cases number with
      | zero => rfl
      | succ number => simp [numbered] at same
  | succ index =>
      cases number with
      | zero => simp [numbered] at same
      | succ number =>
          have marks := String.toList_inj.mp (List.append_cancel_left same)
          have digits : Nat.toDigits 10 (index + 1) = Nat.toDigits 10 (number + 1) := by
            simpa [← String.toList_inj] using marks
          exact Digits.toDigits_injective (by decide) (by decide) digits

theorem candidate_injective (track : Track) (ext : String) :
    Function.Injective (candidate track ext) := by
  intro index number same
  rw [candidate_eq, candidate_eq] at same
  exact numbered_injective track (List.append_cancel_right (cachePath_injective same))

theorem trackPathFrom_eq_some {disk : Disk} {track : Track} {ext path : String} {rounds idx : Nat}
    (chosen : trackPathFrom disk track ext rounds idx = some path) :
    ∃ index, path = candidate track ext index ∧ disk.pathExists path = false := by
  induction rounds generalizing idx with
  | zero => cases chosen
  | succ rounds ih =>
      unfold trackPathFrom at chosen
      split at chosen
      · exact ih chosen
      · rename_i free
        obtain rfl := Option.some.inj chosen
        exact ⟨idx, rfl, by simpa using free⟩

/-- The loop goes on past names which are taken. -/
theorem pathExists_of_trackPathFrom_eq_none {disk : Disk} {track : Track} {ext : String}
    {rounds idx : Nat} (searching : trackPathFrom disk track ext rounds idx = none) {tries : Nat}
    (tried : tries < rounds) : disk.pathExists (candidate track ext (idx + tries)) := by
  induction rounds generalizing idx tries with
  | zero => omega
  | succ rounds ih =>
      unfold trackPathFrom at searching
      split at searching
      · rename_i taken
        cases tries with
        | zero => exact taken
        | succ tries =>
            have fewer : tries < rounds := by omega
            have later := ih searching fewer
            rwa [Nat.add_right_comm] at later
      · cases searching

/-- With finitely many files the loop ends. -/
theorem trackPath_isSome {disk : Disk} (finite : {path | disk.pathExists path}.Finite)
    (track : Track) (ext : String) : ∃ rounds, (trackPath disk track ext rounds).isSome := by
  by_contra endless
  have taken : ∀ index, candidate track ext index ∈ {path | disk.pathExists path} := by
    intro index
    have searching : trackPathFrom disk track ext (index + 1) 0 = none := by
      by_contra found
      exact endless ⟨index + 1, Option.isSome_iff_ne_none.mpr found⟩
    have exists_at := pathExists_of_trackPathFrom_eq_none searching (Nat.lt_succ_self index)
    rwa [Nat.zero_add] at exists_at
  exact Set.infinite_of_injective_forall_mem (candidate_injective track ext) taken finite

theorem slash_notMem_numbered (track : Track) (index : Nat) : '/' ∉ numbered track index := by
  have stem : '/' ∉ fileStem track := by
    intro member
    exact ((isStem_fileStem track).plain '/' member).slash rfl
  cases index with
  | zero => exact stem
  | succ index =>
      have digits : '/' ∉ Nat.toDigits 10 (index + 1) := by
        intro member
        obtain ⟨digit, small, same⟩ := Digits.mem_toDigits (by decide) member
        have others : ∀ digit < 10, '/' ≠ digit.digitChar := by decide
        exact others digit small same
      simpa [numbered, stem] using digits

/-- Every name of a track begins with the first character of its stem. -/
theorem head?_numbered (track : Track) (index : Nat) :
    (numbered track index).head? = (fileStem track).head? := by
  obtain ⟨c, stem, split⟩ := List.exists_cons_of_ne_nil (isStem_fileStem track).nonempty
  cases index with
  | zero => rfl
  | succ index => simp [numbered, split]

/-- A file in the cache directory itself, visible and not there yet.  While it is there, no track is
given its path. -/
structure NewChild (disk : Disk) (path : String) : Prop where
  child : ∃ name, path = cachePath name ∧ name ≠ [] ∧ '/' ∉ name ∧ name.head? ≠ some '.'
  fresh : disk.pathExists path = false
  apart : ∀ (later : Disk) (other : Track) (ext : String) (rounds : Nat), later.pathExists path →
    trackPath later other ext rounds ≠ some path

theorem newChild_of_trackPath {disk : Disk} {track : Track} {ext path : String} {rounds : Nat}
    (flat : '/' ∉ ext.toList) (chosen : trackPath disk track ext rounds = some path) :
    NewChild disk path := by
  obtain ⟨index, rfl, free⟩ := trackPathFrom_eq_some chosen
  refine ⟨⟨_, candidate_eq track ext index, by simp, ?_, ?_⟩, free, ?_⟩
  · simpa [slash_notMem_numbered] using flat
  · obtain ⟨c, rest, split⟩ := List.exists_cons_of_ne_nil (isStem_fileStem track).nonempty
    have first : (fileStem track).head? = some c := by
      rw [split]
      rfl
    rw [List.head?_append, head?_numbered, first]
    intro dot
    exact ((isStem_fileStem track).head c first).1 (Option.some.inj dot)
  · intro later other extension tries there again
    obtain ⟨_, -, free⟩ := trackPathFrom_eq_some again
    rw [there] at free
    cases free

/-- A stem is a piece of the cleaned text fit to name a file, and `track_path` ends with a new file
of such a name. -/
theorem stems_name_new_children (track : Track) {ext : String} (flat : '/' ∉ ext.toList) :
    IsStem (fileStem track) ∧ fileStem track <:+: cleanedText track ∧
      (∀ (disk : Disk) (rounds : Nat) (path : String),
        trackPath disk track ext rounds = some path → NewChild disk path) ∧
      ∀ disk : Disk, {path | disk.pathExists path}.Finite →
        ∃ rounds, (trackPath disk track ext rounds).isSome := by
  refine ⟨isStem_fileStem track, fileStem_inside track, ?_, ?_⟩
  · intro disk rounds path chosen
    exact newChild_of_trackPath flat chosen
  · intro disk finite
    exact trackPath_isSome finite track ext

theorem dotted_names_new_children :
    let track : Track := { id := "a", name := "c/d .", artist := ".../x\ny" }
    IsStem (fileStem track) ∧ fileStem track <:+: cleanedText track ∧
      (∀ (disk : Disk) (rounds : Nat) (path : String),
        trackPath disk track "ogg" rounds = some path → NewChild disk path) ∧
      ∀ disk : Disk, {path | disk.pathExists path}.Finite →
        ∃ rounds, (trackPath disk track "ogg" rounds).isSome :=
  stems_name_new_children _ (by decide)

end Togewire.Media
