import Togewire.Foundation.Hexadecimal
import Togewire.Foundation.Words
import Togewire.Media.Names

/-!
# Checksum files

A release comes with a file of SHA-256 sums.  The sum for an asset is that of the first line which
names it, wherever the line says the asset lies, or names none; other lines are passed over.
-/

namespace Togewire.Audio.Sums

open Media (isWhitespace)
open Words

/-! ## Reading a sum -/

/-- `is_ascii_hexdigit` -/
def isHexDigit (char : Char) : Bool := "0123456789abcdefABCDEF".toList.contains char

/-- A word of 64 digits. -/
def isHash (word : List Char) : Bool := word.length == 64 && word.all isHexDigit

/-- The name in a sums file is this file's, or ends in it after a slash. -/
def names (filename name : List Char) : Bool :=
  name == filename || ('/' :: filename).isSuffixOf name

/-- `trim_start_matches('*')` -/
def trimMarks (name : List Char) : List Char := name.dropWhile fun char => char == '*'

/-- The sum in one line.  A carriage return at its end is a blank like any other. -/
def sumOf (filename line : List Char) : Option (List Char) :=
  match words isWhitespace line with
  | [] => none
  | hash :: rest =>
      let named := rest.head?.map trimMarks
      if isHash hash && named.all (names filename) then some (hash.map Char.toLower) else none

/-- `parse_sha256sums` -/
def parseSha256sums (text filename : List Char) : Option (List Char) :=
  (lines '\n' text).findSome? (sumOf filename)

/-! ## What a sums file says -/

/-- What comes behind a sum leaves open what it is of, or names this file: with the marks of a
binary file, and wherever it lies. -/
def NamesFile (filename behind : List Char) : Prop :=
  (∀ char ∈ behind, isWhitespace char = true) ∨
    ∃ gap marks path after,
      behind = gap ++ (List.replicate marks '*' ++ path ++ after) ∧
        gap ≠ [] ∧ (∀ char ∈ gap, isWhitespace char = true) ∧
        (∀ char ∈ path, isWhitespace char = false) ∧ path.head? ≠ some '*' ∧
        (∀ char ∈ after.head?, isWhitespace char = true) ∧ (path = [] → marks ≠ 0) ∧
        (path = filename ∨ '/' :: filename <:+ path)

/-- The line gives this sum for the file. -/
def Says (filename line hash : List Char) : Prop :=
  ∃ lead behind, line = lead ++ (hash ++ behind) ∧ (∀ char ∈ lead, isWhitespace char = true) ∧
    hash.length = 64 ∧ (∀ char ∈ hash, isHexDigit char = true) ∧
    (∀ char ∈ behind.head?, isWhitespace char = true) ∧ NamesFile filename behind

/-- The first line which gives a sum for the file gives this one. -/
def Lists (filename text hash : List Char) : Prop :=
  ∃ before line after, lines '\n' text = before ++ line :: after ∧ Says filename line hash ∧
    ∀ earlier ∈ before, ∀ other, ¬Says filename earlier other

theorem isWhitespace_of_isHexDigit {char : Char} (digit : isHexDigit char = true) :
    isWhitespace char = false := by
  have all : ("0123456789abcdefABCDEF".toList.all fun char => !isWhitespace char) = true := by
    decide
  simpa using List.all_eq_true.mp all char (List.contains_iff_mem.mp digit)

theorem isHash_iff {word : List Char} :
    isHash word = true ↔ word.length = 64 ∧ ∀ char ∈ word, isHexDigit char = true := by
  simp [isHash]

theorem solid_hash {hash : List Char} (digits : isHash hash = true) :
    Solid isWhitespace hash := by
  obtain ⟨length, digits⟩ := isHash_iff.mp digits
  refine ⟨?_, fun char member => isWhitespace_of_isHexDigit (digits char member)⟩
  rintro rfl
  simp at length

theorem trimMarks_marked (marks : Nat) {path : List Char} (unmarked : path.head? ≠ some '*') :
    trimMarks (List.replicate marks '*' ++ path) = path := by
  rw [trimMarks, List.dropWhile_append_of_pos (by simp)]
  cases path with
  | nil => rfl
  | cons char rest =>
      have other : char ≠ '*' := by simpa using unmarked
      simp [other]

/-- A name is its marks and the path behind them. -/
theorem marked_trimMarks (name : List Char) :
    ∃ marks, name = List.replicate marks '*' ++ trimMarks name ∧
      (trimMarks name).head? ≠ some '*' := by
  refine ⟨(name.takeWhile fun char => char == '*').length, ?_, fun marked => ?_⟩
  · have stars : name.takeWhile (fun char => char == '*') =
        List.replicate (name.takeWhile fun char => char == '*').length '*' :=
      List.eq_replicate_of_mem fun char member => by
        simpa using List.all_eq_true.mp List.all_takeWhile char member
    rw [← stars]
    exact List.takeWhile_append_dropWhile.symm
  · have stops := List.head?_dropWhile_not (fun char => char == '*') name
    rw [show (name.dropWhile fun char => char == '*').head? = some '*' from marked] at stops
    simp at stops

theorem all_names_iff {filename behind : List Char}
    (ended : ∀ char ∈ behind.head?, isWhitespace char = true) :
    (((words isWhitespace behind).head?.map trimMarks).all (names filename)) = true ↔
      NamesFile filename behind := by
  have spelled {path : List Char} :
      names filename path = true ↔ path = filename ∨ '/' :: filename <:+ path := by
    simp [names, List.isSuffixOf_iff_suffix]
  rcases words_cases isWhitespace behind with
    ⟨blanks, read⟩ | ⟨gap, word, after, rfl, blanks, solid, stops, read⟩
  · simp only [read, List.head?_nil, Option.map_none, Option.all_none, true_iff]
    exact .inl blanks
  · rw [read]
    simp only [List.head?_cons, Option.map_some, Option.all_some, spelled]
    obtain ⟨first, shown⟩ := List.exists_mem_of_ne_nil word solid.some_char
    constructor
    · intro named
      obtain ⟨marks, whole, unmarked⟩ := marked_trimMarks word
      have some_gap : gap ≠ [] := by
        rintro rfl
        cases word with
        | nil => exact absurd rfl solid.some_char
        | cons char rest =>
            exact absurd (ended char rfl) (by simp [solid.solid char List.mem_cons_self])
      refine .inr ⟨gap, marks, trimMarks word, after, by rw [← whole], some_gap, blanks, ?_,
        unmarked, stops, ?_, named⟩
      · intro char member
        exact solid.solid char (by rw [whole]; exact List.mem_append_right _ member)
      · intro bare none
        rw [bare, none] at whole
        exact solid.some_char (by simpa using whole)
    · rintro (all_blank |
        ⟨other, marks, path, rest, same, -, others, clear, unmarked, ends, bare, named⟩)
      · have blank := all_blank first (by simp [shown])
        rw [solid.solid first shown] at blank
        cases blank
      · have marked : Solid isWhitespace (List.replicate marks '*' ++ path) := by
          refine ⟨?_, fun char member => ?_⟩
          · intro none
            obtain ⟨no_marks, no_path⟩ := List.append_eq_nil_iff.mp none
            exact bare no_path (by simpa using no_marks)
          · rcases List.mem_append.mp member with mark | inside
            · obtain rfl := List.eq_of_mem_replicate mark
              decide
            · exact clear char inside
        have again := read
        rw [same, words_gap others, words_next marked ends] at again
        obtain rfl := (List.cons.inj again).1
        rwa [trimMarks_marked marks unmarked]

/-- The sum found in a line is the one it gives, in small letters. -/
theorem sumOf_eq_some_iff {filename line digest : List Char} :
    sumOf filename line = some digest ↔
      ∃ hash, Says filename line hash ∧ hash.map Char.toLower = digest := by
  rcases words_cases isWhitespace line with
    ⟨blanks, read⟩ | ⟨lead, word, behind, rfl, blanks, solid, ended, read⟩
  · simp only [sumOf, read, reduceCtorEq, false_iff]
    rintro ⟨hash, ⟨lead, behind, rfl, -, length, digits, -, -⟩, -⟩
    have solid := solid_hash (isHash_iff.mpr ⟨length, digits⟩)
    obtain ⟨first, shown⟩ := List.exists_mem_of_ne_nil hash solid.some_char
    have blank := blanks first (by simp [shown])
    rw [solid.solid first shown] at blank
    cases blank
  · rw [sumOf, read]
    simp only [Bool.and_eq_true, all_names_iff ended, Option.ite_none_right_eq_some,
      Option.some.injEq]
    constructor
    · rintro ⟨⟨digits, named⟩, rfl⟩
      obtain ⟨length, digits⟩ := isHash_iff.mp digits
      exact ⟨word, ⟨lead, behind, rfl, blanks, length, digits, ended, named⟩, rfl⟩
    · rintro ⟨hash, ⟨other, rest, same, others, length, digits, ends, named⟩, rfl⟩
      have whole := isHash_iff.mpr ⟨length, digits⟩
      have again := read
      rw [same, words_gap others, words_next (solid_hash whole) ends] at again
      obtain ⟨rfl, same_words⟩ := List.cons.inj again
      refine ⟨⟨whole, (all_names_iff ended).mp ?_⟩, rfl⟩
      rw [← same_words]
      exact (all_names_iff ends).mpr named

/-- The sum found for a file is that of the first line which gives one. -/
theorem parseSha256sums_eq_some_iff {text filename digest : List Char} :
    parseSha256sums text filename = some digest ↔
      ∃ hash, Lists filename text hash ∧ hash.map Char.toLower = digest := by
  have silent {line : List Char} :
      sumOf filename line = none ↔ ∀ other, ¬Says filename line other := by
    rw [Option.eq_none_iff_forall_not_mem]
    simp [Option.mem_def, sumOf_eq_some_iff]
  rw [parseSha256sums, List.findSome?_eq_some_iff]
  constructor
  · rintro ⟨before, line, after, cut, found, passed⟩
    obtain ⟨hash, given, lower⟩ := sumOf_eq_some_iff.mp found
    exact ⟨hash, ⟨before, line, after, cut, given, fun earlier member =>
      silent.mp (passed earlier member)⟩, lower⟩
  · rintro ⟨hash, ⟨before, line, after, cut, given, passed⟩, lower⟩
    exact ⟨before, line, after, cut, sumOf_eq_some_iff.mpr ⟨hash, given, lower⟩,
      fun earlier member => silent.mpr (passed earlier member)⟩

/-! ## Sums as they are written -/

/-- A file and where it lies. -/
structure Entry where
  hash : List Char
  /-- The blanks after the sum. -/
  gap : List Char
  /-- The marks of a binary file. -/
  marks : Nat
  folders : List (List Char)
  filename : List Char
  isHash : isHash hash = true
  some_gap : gap ≠ []
  blanks : ∀ char ∈ gap, isWhitespace char = true ∧ char ≠ '\n'
  inside : ∀ part ∈ folders ++ [filename], ∀ char ∈ part, isWhitespace char = false ∧ char ≠ '/'
  named : filename ≠ []
  unmarked : (unlines '/' folders ++ filename).head? ≠ some '*'

namespace Entry

/-- The path as it is written, folders first. -/
def path (entry : Entry) : List Char := unlines '/' entry.folders ++ entry.filename

/-- The line as `sha256sum` writes it. -/
def line (entry : Entry) : List Char :=
  entry.hash ++ entry.gap ++ (List.replicate entry.marks '*' ++ entry.path)

end Entry

/-- A line which is no sum: its first word is none. -/
structure Remark where
  text : List Char
  whole : '\n' ∉ text
  no_sum : ∀ word ∈ (words isWhitespace text).head?, isHash word = false

/-- A line of a sums file. -/
inductive Line
  | entry (entry : Entry)
  /-- A sum without a name, for whatever asset it comes with. -/
  | lone (hash : List Char) (isHash : isHash hash = true)
  | remark (remark : Remark)

/-- The line as it is written. -/
def Line.text : Line → List Char
  | .entry listed => listed.line
  | .lone hash _ => hash
  | .remark other => other.text

/-- The sum a line gives for a file. -/
def Line.sum (filename : List Char) : Line → Option (List Char)
  | .entry listed =>
      if listed.filename = filename then some (listed.hash.map Char.toLower) else none
  | .lone hash _ => some (hash.map Char.toLower)
  | .remark _ => none

/-- The text of a sums file. -/
def render (file : List Line) : List Char := unlines '\n' (file.map Line.text)

namespace Entry

variable (entry : Entry) {filename : List Char}

theorem splitOn_path : entry.path.splitOn '/' = entry.folders ++ [entry.filename] := by
  have whole : ∀ part ∈ entry.folders ++ [entry.filename], '/' ∉ part :=
    fun part member slash => (entry.inside part member '/' slash).2 rfl
  exact splitOn_unlines_append (fun part member => whole part (by simp [member]))
    (whole entry.filename (by simp))

theorem names_path (flat : '/' ∉ filename) :
    names filename entry.path = decide (entry.filename = filename) := by
  refine Bool.eq_iff_iff.mpr ?_
  simp only [names, Bool.or_eq_true, beq_iff_eq, List.isSuffixOf_iff_suffix, decide_eq_true_eq]
  constructor
  · rintro (whole | ⟨front, ends⟩)
    · have parts := entry.splitOn_path
      rw [whole, List.splitOn_eq_singleton flat] at parts
      have last := congrArg List.getLast? parts
      simpa using last.symm
    · have parts := entry.splitOn_path
      rw [← ends, List.splitOn_append_cons_self, List.splitOn_eq_singleton flat] at parts
      have last := congrArg List.getLast? parts
      simpa using last.symm
  · rintro rfl
    rcases List.eq_nil_or_concat entry.folders with here | ⟨outer, folder, folders⟩
    · exact .inl (by simp [path, here, unlines])
    · exact .inr ⟨unlines '/' outer ++ folder, by simp [path, folders, unlines]⟩

theorem solid_path : Solid isWhitespace entry.path := by
  refine ⟨by simp [path, entry.named], fun char member => ?_⟩
  rcases List.mem_append.mp member with folders | name
  · rcases mem_unlines folders with rfl | ⟨part, listed, inside⟩
    · decide
    · exact (entry.inside part (by simp [listed]) char inside).1
  · exact (entry.inside entry.filename (by simp) char name).1

theorem solid_name : Solid isWhitespace (List.replicate entry.marks '*' ++ entry.path) := by
  refine ⟨by simp [entry.solid_path.some_char], fun char member => ?_⟩
  rcases List.mem_append.mp member with mark | inside
  · obtain rfl := List.eq_of_mem_replicate mark
    decide
  · exact entry.solid_path.solid char inside

theorem trimMarks_path : trimMarks (List.replicate entry.marks '*' ++ entry.path) = entry.path :=
  trimMarks_marked entry.marks entry.unmarked

theorem sumOf_line (flat : '/' ∉ filename) :
    sumOf filename entry.line = (Line.entry entry).sum filename := by
  have split := words_append (solid_hash entry.isHash) entry.some_gap
    (fun char member => (entry.blanks char member).1)
    (List.replicate entry.marks '*' ++ entry.path)
  rw [words_of_solid entry.solid_name] at split
  rw [sumOf, line, split]
  simp [entry.isHash, entry.trimMarks_path, entry.names_path flat, Line.sum]

end Entry

theorem sumOf_lone {hash : List Char} (digits : isHash hash = true) (filename : List Char) :
    sumOf filename hash = some (hash.map Char.toLower) := by
  rw [sumOf, words_of_solid (solid_hash digits)]
  simp [digits]

theorem sumOf_remark (remark : Remark) (filename : List Char) :
    sumOf filename remark.text = none := by
  have no_sum := remark.no_sum
  unfold sumOf
  cases found : words isWhitespace remark.text with
  | nil => rfl
  | cons word rest =>
      have other := no_sum word (by simp [found])
      simp [other]

theorem newline_notMem (line : Line) : '\n' ∉ line.text := by
  cases line with
  | remark other => exact other.whole
  | lone hash digits =>
      exact fun newline => absurd ((solid_hash digits).solid _ newline) (by decide)
  | entry listed =>
      intro newline
      rcases List.mem_append.mp newline with front | name
      · rcases List.mem_append.mp front with hash | gap
        · exact absurd ((solid_hash listed.isHash).solid _ hash) (by decide)
        · exact (listed.blanks _ gap).2 rfl
      · exact absurd (listed.solid_name.solid _ name) (by decide)

/-- The sum for a file is that of the first line which names it, or names none. -/
theorem sum_of_render (file : List Line) {filename : List Char} (flat : '/' ∉ filename) :
    parseSha256sums (render file) filename = file.findSome? (Line.sum filename) := by
  have whole : ∀ text ∈ file.map Line.text, '\n' ∉ text := by
    simpa using fun line _ => newline_notMem line
  rw [parseSha256sums, render, lines_unlines whole, List.findSome?_map]
  congr 1
  funext line
  cases line with
  | entry listed => exact listed.sumOf_line flat
  | lone hash digits => exact sumOf_lone digits filename
  | remark other => exact sumOf_remark other filename

/-- A release with two files, the second one marked as binary and in a folder. -/
def exampleHash (digit : Char) : List Char := List.replicate 64 digit

def exampleEntry (digit : Char) (folders : List (List Char)) (filename : List Char)
    (isHash : isHash (exampleHash digit) = true)
    (inside : ((folders ++ [filename]).all fun part =>
      part.all fun char => !isWhitespace char && char != '/') = true)
    (named : filename ≠ []) (unmarked : (unlines '/' folders ++ filename).head? ≠ some '*') :
    Entry where
  hash := exampleHash digit
  gap := [' ', ' ']
  marks := folders.length
  folders := folders
  filename := filename
  isHash := isHash
  some_gap := by simp
  blanks := by
    rintro char member
    obtain rfl : char = ' ' := by simpa using member
    decide
  inside := by
    intro part member char listed
    simpa using List.all_eq_true.mp (List.all_eq_true.mp inside part member) char listed
  named := named
  unmarked := unmarked

def exampleFile : List Line :=
  [.remark ⟨"# sums".toList, by decide, by decide⟩,
    .entry (exampleEntry 'a' [] "deno.zip".toList (by decide) (by decide) (by decide) (by decide)),
    .entry (exampleEntry 'B' ["dist".toList] "yt-dlp_linux".toList (by decide) (by decide)
      (by decide) (by decide))]

theorem sum_of_exampleFile :
    parseSha256sums (render exampleFile) "yt-dlp_linux".toList = some (exampleHash 'b') := by
  rw [sum_of_render exampleFile (by decide)]
  decide

end Togewire.Audio.Sums
