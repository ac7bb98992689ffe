import Mathlib.Data.List.Basic

/-!
# Lines and words

A text is taken apart into lines, and a line into words at its blanks.  Lines which are ended one by
one are read back, and so are words with any blanks between them.
-/

namespace Words

variable {α : Type*}

/-! ### Words -/

section Words

variable (blank : α → Bool)

/-- The pieces between blanks, without the empty ones. -/
def words (text : List α) : List (List α) := (text.splitOnP blank).filter fun word => !word.isEmpty

/-- A word is what holds something, and no blank. -/
structure Solid (word : List α) : Prop where
  some_char : word ≠ []
  solid : ∀ char ∈ word, blank char = false

variable {blank} {word rest : List α}

theorem words_of_solid (solid : Solid blank word) : words blank word = [word] := by
  rw [words, List.splitOnP_eq_singleton solid.solid]
  simp [solid.some_char]

theorem words_cons_blank {char : α} (gap : blank char = true) (rest : List α) :
    words blank (char :: rest) = words blank rest := by
  have split := List.splitOnP_append_cons (p := blank) [] rest gap
  rw [List.nil_append, List.splitOnP_nil] at split
  rw [words, split]
  rfl

theorem words_gap {gap : List α} (blanks : ∀ char ∈ gap, blank char = true) (rest : List α) :
    words blank (gap ++ rest) = words blank rest := by
  induction gap with
  | nil => rfl
  | cons char gap ih =>
      rw [List.cons_append, words_cons_blank (blanks char List.mem_cons_self)]
      exact ih fun other member => blanks other (List.mem_cons_of_mem char member)

theorem words_append (solid : Solid blank word) {gap : List α} (some_gap : gap ≠ [])
    (blanks : ∀ char ∈ gap, blank char = true) (rest : List α) :
    words blank (word ++ gap ++ rest) = word :: words blank rest := by
  cases gap with
  | nil => exact absurd rfl some_gap
  | cons char gap =>
      have first := blanks char List.mem_cons_self
      have others := words_gap fun other member => blanks other (List.mem_cons_of_mem char member)
      rw [← others rest, List.append_assoc, List.cons_append, words,
        List.splitOnP_append_cons_of_forall_mem solid.solid char first]
      simp [words, solid.some_char]

theorem words_of_blank {gap : List α} (blanks : ∀ char ∈ gap, blank char = true) :
    words blank gap = [] := by
  rw [← List.append_nil gap, words_gap blanks, words, List.splitOnP_nil]
  rfl

/-- A word ends where the text does, or at a blank. -/
theorem words_next (solid : Solid blank word) (ended : ∀ char ∈ rest.head?, blank char = true) :
    words blank (word ++ rest) = word :: words blank rest := by
  cases rest with
  | nil => rw [List.append_nil, words_of_solid solid, words_of_blank (by simp)]
  | cons char rest =>
      have gap := ended char rfl
      have parts := words_append solid (List.cons_ne_nil char []) (by simpa using gap) rest
      rw [words_cons_blank gap, ← parts]
      simp

/-- A text is blank, or has its first word behind blanks. -/
theorem words_cases (blank : α → Bool) (text : List α) :
    (∀ char ∈ text, blank char = true) ∧ words blank text = [] ∨
      ∃ lead word after, text = lead ++ (word ++ after) ∧ (∀ char ∈ lead, blank char = true) ∧
        Solid blank word ∧ (∀ char ∈ after.head?, blank char = true) ∧
          words blank text = word :: words blank after := by
  have blanks : ∀ char ∈ text.takeWhile blank, blank char = true :=
    List.all_eq_true.mp List.all_takeWhile
  have shown : text.takeWhile blank ++ text.dropWhile blank = text :=
    List.takeWhile_append_dropWhile
  cases found : text.dropWhile blank with
  | nil =>
      rw [found, List.append_nil] at shown
      rw [shown] at blanks
      exact .inl ⟨blanks, words_of_blank blanks⟩
  | cons char rest =>
      have first : blank char = false := by
        simpa [found] using List.head?_dropWhile_not blank text
      have parts :=
        List.takeWhile_append_dropWhile (p := fun char => !blank char) (l := char :: rest)
      have solid : Solid blank ((char :: rest).takeWhile fun char => !blank char) := by
        refine ⟨by simp [first], fun other member => ?_⟩
        simpa using List.all_eq_true.mp List.all_takeWhile other member
      have ended : ∀ other ∈ ((char :: rest).dropWhile fun char => !blank char).head?,
          blank other = true := by
        intro other member
        have stops := List.head?_dropWhile_not (fun char => !blank char) (char :: rest)
        rw [Option.mem_def.mp member] at stops
        simpa using stops
      refine .inr ⟨text.takeWhile blank, _, _, ?_, blanks, solid, ended, ?_⟩
      · rw [parts, ← found, shown]
      · rw [← words_next solid ended, parts, ← found, ← words_gap blanks (text.dropWhile blank),
          shown]

end Words

/-! ### Lines -/

section Lines

variable [DecidableEq α] (newline : α)

/-- Lines which are ended one by one. -/
def unlines (lines : List (List α)) : List α := lines.flatMap fun line => line ++ [newline]

/-- Drop what comes after the last end of a line, if it is empty. -/
def dropLastEmpty (pieces : List (List α)) : List (List α) :=
  if pieces.getLast? = some [] then pieces.dropLast else pieces

/-- The lines of a text; the last one may lack its end. -/
def lines (text : List α) : List (List α) := dropLastEmpty (text.splitOn newline)

variable {newline}

theorem splitOn_unlines_append {lines : List (List α)} (whole : ∀ line ∈ lines, newline ∉ line)
    {last : List α} (open_end : newline ∉ last) :
    (unlines newline lines ++ last).splitOn newline = lines ++ [last] := by
  induction lines with
  | nil => exact List.splitOn_eq_singleton open_end
  | cons line lines ih =>
      have split := List.splitOn_append_cons_self_of_not_mem (whole line List.mem_cons_self)
        (unlines newline lines ++ last)
      have rest := ih fun other member => whole other (List.mem_cons_of_mem line member)
      rw [rest] at split
      rw [unlines, List.flatMap_cons, List.append_assoc, List.append_assoc, List.singleton_append]
      exact split

theorem lines_unlines {lines : List (List α)} (whole : ∀ line ∈ lines, newline ∉ line) :
    Words.lines newline (unlines newline lines) = lines := by
  have split := splitOn_unlines_append whole (List.not_mem_nil (a := newline))
  rw [List.append_nil] at split
  rw [Words.lines, split, dropLastEmpty]
  simp

omit [DecidableEq α] in
theorem mem_unlines {lines : List (List α)} {char : α} (member : char ∈ unlines newline lines) :
    char = newline ∨ ∃ line ∈ lines, char ∈ line := by
  obtain ⟨line, listed, inside⟩ := List.mem_flatMap.mp member
  rcases List.mem_append.mp inside with text | ending
  · exact .inr ⟨line, listed, text⟩
  · exact .inl (List.mem_singleton.mp ending)

end Lines

/-! ### Reading along -/

/-- What has been read of a line so far, and what the lines before it have led to. -/
structure Along (α σ : Type*) where
  line : List α
  state : σ
  deriving DecidableEq

namespace Along

variable {σ : Type*} [DecidableEq α] (newline : α) (take : σ → List α → σ)

/-- One more character has been read. -/
def read (along : Along α σ) (char : α) : Along α σ :=
  if char = newline then
    ⟨[], take along.state along.line⟩
  else
    ⟨along.line ++ [char], along.state⟩

/-- Read a text after another. -/
def reads (along : Along α σ) (text : List α) : Along α σ := text.foldl (read newline take) along

variable {newline take} {along : Along α σ}

theorem reads_append (text rest : List α) :
    along.reads newline take (text ++ rest) =
      (along.reads newline take text).reads newline take rest :=
  List.foldl_append

theorem reads_of_notMem {text : List α} (open_end : newline ∉ text) :
    along.reads newline take text = ⟨along.line ++ text, along.state⟩ := by
  induction text generalizing along with
  | nil => simp [reads]
  | cons char rest ih =>
      have other : newline ≠ char := fun same => open_end (same ▸ List.mem_cons_self)
      have open_end : newline ∉ rest := fun member => open_end (List.mem_cons_of_mem char member)
      have step : along.read newline take char = ⟨along.line ++ [char], along.state⟩ :=
        if_neg (Ne.symm other)
      change ((along.read newline take char).reads newline take rest) = _
      rw [ih open_end, step, List.append_assoc]
      rfl

theorem reads_line {line : List α} (open_end : newline ∉ line) (state : σ) :
    (⟨[], state⟩ : Along α σ).reads newline take (line ++ [newline]) = ⟨[], take state line⟩ := by
  rw [reads_append, reads_of_notMem open_end]
  simp [reads, read]

variable (take) in
/-- Part of some lines: those which are read to their end count. -/
theorem reads_take_unlines {lines : List (List α)} (whole : ∀ line ∈ lines, newline ∉ line)
    (state : σ) (count : Nat) :
    ∃ ended line, (⟨[], state⟩ : Along α σ).reads newline take
        ((unlines newline lines).take count) = ⟨line, (lines.take ended).foldl take state⟩ ∧
      ((unlines newline lines).length ≤ count → line = [] ∧ lines.length ≤ ended) ∧
        (count < (unlines newline lines).length → ended < lines.length) := by
  induction lines generalizing state count with
  | nil => exact ⟨0, [], by simp [unlines, reads], by simp [unlines], by simp [unlines]⟩
  | cons first rest ih =>
      obtain ⟨open_end, others⟩ := List.forall_mem_cons.mp whole
      have shape : unlines newline (first :: rest) =
          (first ++ [newline]) ++ unlines newline rest := List.flatMap_cons
      have longer : (unlines newline (first :: rest)).length =
          (first ++ [newline]).length + (unlines newline rest).length := by
        rw [shape, List.length_append]
      by_cases inside : count < (first ++ [newline]).length
      · have short : count ≤ first.length := by
          simpa using Nat.le_of_lt_succ (by simpa using inside)
        refine ⟨0, first.take count, ?_, ?_, fun _ => by simp⟩
        · rw [shape, List.append_assoc, List.take_append_of_le_length short,
            reads_of_notMem fun member => open_end (List.mem_of_mem_take member)]
          simp
        · omega
      · obtain ⟨more, rfl⟩ := Nat.exists_eq_add_of_le (Nat.le_of_not_lt inside)
        obtain ⟨ended, line, reading, complete, few⟩ := ih others (take state first) more
        refine ⟨ended + 1, line, ?_, ?_, ?_⟩
        · rw [shape, List.take_length_add_append, reads_append, reads_line open_end, reading]
          simp
        · intro all
          obtain ⟨empty, ended⟩ := complete (by omega)
          exact ⟨empty, by simpa using ended⟩
        · intro less
          simpa using few (by omega)

theorem reads_unlines {lines : List (List α)} (whole : ∀ line ∈ lines, newline ∉ line)
    (state : σ) :
    (⟨[], state⟩ : Along α σ).reads newline take (unlines newline lines) =
      ⟨[], lines.foldl take state⟩ := by
  obtain ⟨ended, line, reading, complete, -⟩ :=
    reads_take_unlines take whole state (unlines newline lines).length
  obtain ⟨rfl, all⟩ := complete (Nat.le_refl _)
  rwa [List.take_length, List.take_of_length_le all] at reading

end Along

end Words
