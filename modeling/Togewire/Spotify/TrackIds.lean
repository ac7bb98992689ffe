import Togewire.Foundation.Trim
import Togewire.Spotify.Parsing

/-!
# Track ids

An id is asked for under four spellings.  What stands for it is a piece of the text, which is
judged by what is left of it without the spaces around, but taken with them.  The ids are canonical
just where no such spaces are, and where a link has one id to name.
-/

namespace Togewire.Spotify.Parsing

open Media Trimming

/-! ## Searching -/

theorem stripStart_eq_some_iff {pattern text rest : List Char} :
    stripStart pattern text = some rest ↔ text = pattern ++ rest := by
  induction pattern generalizing text with
  | nil => simp [stripStart]
  | cons c pattern ih =>
      cases text with
      | nil => simp [stripStart]
      | cons d text =>
          by_cases same : c = d
          · simp [stripStart, same, ih]
          · simp [stripStart, same, Ne.symm same]

theorem stripStart_append (pattern rest : List Char) :
    stripStart pattern (pattern ++ rest) = some rest :=
  stripStart_eq_some_iff.mpr rfl

theorem afterFirst_eq_some {pattern text rest : List Char}
    (found : afterFirst pattern text = some rest) : ∃ front, text = front ++ pattern ++ rest := by
  induction text with
  | nil => exact ⟨[], stripStart_eq_some_iff.mp found⟩
  | cons c text ih =>
      unfold afterFirst at found
      split at found
      · rename_i first
        obtain rfl := Option.some.inj found
        exact ⟨[], stripStart_eq_some_iff.mp first⟩
      · obtain ⟨front, split⟩ := ih found
        exact ⟨c :: front, by rw [split]; rfl⟩

/-! ## Pieces -/

/-- At least sixteen ASCII letters and digits, and nothing else. -/
structure IsId (id : List Char) : Prop where
  long : 16 ≤ id.length
  alphanumeric : ∀ c ∈ id, c.isAlphanum

/-- What an input is without the whitespace around. -/
def trimmed (raw : String) : List Char := strip isWhitespace raw.toList

/-- What follows the name of a URI. -/
def namedPiece (text : List Char) : Option (List Char) :=
  (stripStart "spotify:track:".toList text).or (stripStart "track:".toList text)

/-- What follows the first `/track/`, up to a separator. -/
def linkedPiece (text : List Char) : Option (List Char) :=
  (afterFirst "/track/".toList text).map fun rest =>
    rest.takeWhile fun c => c ∉ ['?', '/', '&', '#']

/-- The piece which stands for the id of an input. -/
def idPiece (raw : String) : Option (List Char) :=
  (((namedPiece (trimmed raw)).filter isProbableSpotifyId).or
    ((linkedPiece (trimmed raw)).filter isProbableSpotifyId)).or
      (if isProbableSpotifyId (trimmed raw) then some (trimmed raw) else none)

theorem trackIdFromUri_eq (raw : String) :
    trackIdFromUri raw = String.ofList ((idPiece raw).getD []) := by
  have normal : normalizeTrackUri raw =
      (idPiece raw).map fun id => String.ofList ("spotify:track:".toList ++ id) := rfl
  unfold trackIdFromUri
  rw [normal]
  cases idPiece raw with
  | none => rfl
  | some id =>
      simp only [Option.map_some, Option.bind_some, String.toList_ofList, stripStart_append,
        Option.getD_some]

/-! ## Letters and digits -/

theorem isAlphanum_bounds {c : Char} (alphanumeric : c.isAlphanum) :
    48 ≤ c.val.toNat ∧ c.val.toNat < 123 := by
  have codes : '0'.val.toNat = 48 ∧ '9'.val.toNat = 57 ∧ 'A'.val.toNat = 65 ∧
      'Z'.val.toNat = 90 ∧ 'a'.val.toNat = 97 ∧ 'z'.val.toNat = 122 := by decide
  have ranges : (decide ('A'.val ≤ c.val ∧ c.val ≤ 'Z'.val) ||
      (decide ('a'.val ≤ c.val) && decide (c.val ≤ 'z'.val)) ||
      (decide ('0'.val ≤ c.val) && decide (c.val ≤ '9'.val))) = true := alphanumeric
  simp only [Bool.or_eq_true, Bool.and_eq_true, decide_eq_true_eq,
    UInt32.le_iff_toNat_le] at ranges
  omega

theorem isWhitespace_eq_false {c : Char} (alphanumeric : c.isAlphanum) :
    isWhitespace c = false := by
  obtain ⟨lower, upper⟩ := isAlphanum_bounds alphanumeric
  have code : c.toNat = c.val.toNat := rfl
  simp only [isWhitespace, UInt32.le_iff_toNat_le, UInt32.reduceToNat, Char.toNat_val,
    List.contains_eq_mem, List.mem_cons, ← UInt32.toNat_inj, List.not_mem_nil, or_false,
    Bool.decide_or, Bool.or_eq_false_iff, Bool.and_eq_false_imp, decide_eq_true_eq,
    decide_eq_false_iff_not, not_le]
  omega

theorem utf8Size_eq_one {c : Char} (alphanumeric : c.isAlphanum) : c.utf8Size = 1 := by
  obtain ⟨lower, upper⟩ := isAlphanum_bounds alphanumeric
  rw [Char.utf8Size_eq_one_iff, UInt32.le_iff_toNat_le]
  change c.val.toNat ≤ 127
  omega

theorem IsId.stripped {id : List Char} (isId : IsId id) : Stripped isWhitespace id where
  head c first := isWhitespace_eq_false (isId.alphanumeric c (List.mem_of_mem_head? first))
  last c final := isWhitespace_eq_false (isId.alphanumeric c (List.mem_of_mem_getLast? final))

theorem IsId.nonempty {id : List Char} (isId : IsId id) : id ≠ [] := by
  rintro rfl
  exact absurd isId.long (by decide)

theorem isProbable_iff {piece : List Char} :
    isProbableSpotifyId piece = true ↔ IsId (strip isWhitespace piece) := by
  have sizes : ∀ id : List Char, (∀ c ∈ id, c.isAlphanum) →
      (id.map Char.utf8Size).sum = id.length := by
    intro id alphanumeric
    have ones : id.map Char.utf8Size = List.replicate id.length 1 :=
      List.map_eq_replicate_iff.mpr fun c member => utf8Size_eq_one (alphanumeric c member)
    simp [ones]
  have whole : isProbableSpotifyId piece =
      (decide (16 ≤ ((strip isWhitespace piece).map Char.utf8Size).sum) &&
        (strip isWhitespace piece).all Char.isAlphanum) := rfl
  rw [whole, Bool.and_eq_true, decide_eq_true_eq, List.all_eq_true]
  constructor
  · rintro ⟨long, alphanumeric⟩
    rw [sizes _ alphanumeric] at long
    exact ⟨long, alphanumeric⟩
  · intro isId
    refine ⟨?_, isId.alphanumeric⟩
    rw [sizes _ isId.alphanumeric]
    exact isId.long

/-- A probable id has nothing else but whitespace. -/
theorem mem_of_isProbable {piece : List Char} (probable : isProbableSpotifyId piece = true)
    {c : Char} (member : c ∈ piece) : c.isAlphanum ∨ isWhitespace c := by
  obtain ⟨front, back, split, leading, trailing⟩ := strip_split isWhitespace piece
  rw [split] at member
  rcases List.mem_append.mp member with inside | after
  · rcases List.mem_append.mp inside with before | among
    · exact Or.inr (leading c before)
    · exact Or.inl ((isProbable_iff.mp probable).alphanumeric c among)
  · exact Or.inr (trailing c after)

theorem not_probable_of_slash {piece : List Char} (slash : '/' ∈ piece) :
    isProbableSpotifyId piece = false := by
  rw [← Bool.not_eq_true]
  intro probable
  exact absurd (mem_of_isProbable probable slash) (by decide)

/-- A URI is named without a separator. -/
theorem namedPiece_eq_some {text piece : List Char} (named : namedPiece text = some piece) :
    ∃ name : List Char, '/' ∉ name ∧ text = name ++ piece := by
  rcases Option.or_eq_some_iff.mp named with full | ⟨-, short⟩
  · exact ⟨_, by decide, stripStart_eq_some_iff.mp full⟩
  · exact ⟨_, by decide, stripStart_eq_some_iff.mp short⟩

/-- A text with a separator has no named id, and is none. -/
theorem named_or_bare_eq_none {text : List Char} (slash : '/' ∈ text) :
    (namedPiece text).filter isProbableSpotifyId = none ∧ isProbableSpotifyId text = false := by
  refine ⟨?_, not_probable_of_slash slash⟩
  rw [Option.filter_eq_none_iff]
  intro piece named
  obtain ⟨name, flat, rfl⟩ := namedPiece_eq_some named
  rw [not_probable_of_slash ((List.mem_append.mp slash).resolve_left flat)]
  exact Bool.false_ne_true

theorem slash_mem_link (front rest : List Char) : '/' ∈ front ++ "/track/".toList ++ rest := by
  simp

theorem idPiece_of_link {raw : String} {front rest : List Char}
    (link : trimmed raw = front ++ "/track/".toList ++ rest) :
    idPiece raw = (linkedPiece (trimmed raw)).filter isProbableSpotifyId := by
  have slash : '/' ∈ trimmed raw := link ▸ slash_mem_link front rest
  obtain ⟨named, bare⟩ := named_or_bare_eq_none slash
  simp [idPiece, named, bare]

theorem linkedPiece_eq_some {text piece : List Char} (linked : linkedPiece text = some piece) :
    ∃ front rest, text = front ++ "/track/".toList ++ rest := by
  obtain ⟨rest, found, -⟩ := Option.map_eq_some_iff.mp linked
  obtain ⟨front, split⟩ := afterFirst_eq_some found
  exact ⟨front, rest, split⟩

/-! ## Spellings -/

/-- Nothing, or something after one of the separators. -/
def Separated (tail : List Char) : Prop := ∀ c ∈ tail.head?, c ∈ ['?', '/', '&', '#']

/-- The texts which spell an id. -/
inductive Spells (id : List Char) : List Char → Prop
  | bare : Spells id id
  | track : Spells id ("track:".toList ++ id)
  | spotify : Spells id ("spotify:track:".toList ++ id)
  | link (front : List Char) {tail : List Char} (separated : Separated tail) :
      Spells id (front ++ "/track/".toList ++ id ++ tail)
  | spaced {before text after : List Char} (leading : ∀ c ∈ before, isWhitespace c)
      (trailing : ∀ c ∈ after, isWhitespace c) (spells : Spells id text) :
      Spells id (before ++ text ++ after)

theorem Separated.start {tail front : List Char} (separated : Separated tail)
    (start : front <+: tail) : Separated front := by
  obtain ⟨rest, rfl⟩ := start
  intro c first
  apply separated c
  rw [List.head?_append, show front.head? = some c from first]
  rfl

theorem stripped_append_id {first : Char} {name id : List Char} (isId : IsId id)
    (visible : isWhitespace first = false) : Stripped isWhitespace (first :: name ++ id) where
  head := by
    intro c found
    obtain rfl := Option.some.inj found
    exact visible
  last := by
    rw [List.getLast?_append_of_ne_nil _ isId.nonempty]
    exact isId.stripped.last

/-- What is left of a spelling without the whitespace around is one. -/
theorem Spells.strip_cases {id text : List Char} (isId : IsId id) (spells : Spells id text) :
    strip isWhitespace text = id ∨ strip isWhitespace text = "track:".toList ++ id ∨
      strip isWhitespace text = "spotify:track:".toList ++ id ∨
        ∃ front tail, Separated tail ∧
          strip isWhitespace text = front ++ "/track/".toList ++ id ++ tail := by
  induction spells with
  | bare => exact Or.inl isId.stripped.strip_eq
  | track =>
      have stripped : Stripped isWhitespace ("track:".toList ++ id) :=
        stripped_append_id isId (by decide)
      exact Or.inr (Or.inl stripped.strip_eq)
  | spotify =>
      have stripped : Stripped isWhitespace ("spotify:track:".toList ++ id) :=
        stripped_append_id isId (by decide)
      exact Or.inr (Or.inr (Or.inl stripped.strip_eq))
  | @link front tail separated =>
      have stripped : Stripped isWhitespace ("/track/".toList ++ id) :=
        stripped_append_id isId (by decide)
      have nonempty : "/track/".toList ++ id ≠ [] := by simp
      have start : (tail.reverse.dropWhile isWhitespace).reverse <+: tail := by
        rw [← List.reverse_suffix, List.reverse_reverse]
        exact List.dropWhile_suffix _
      refine Or.inr (Or.inr (Or.inr
        ⟨front.dropWhile isWhitespace, _, separated.start start, ?_⟩))
      rw [List.append_assoc front, stripped.strip_between nonempty, ← List.append_assoc]
  | spaced leading trailing _ ih =>
      rw [strip_append leading trailing]
      exact ih

theorem idPiece_of_named {raw : String} {id : List Char} (isId : IsId id)
    (named : namedPiece (trimmed raw) = some id) : idPiece raw = some id := by
  have probable : isProbableSpotifyId id = true := by
    rw [isProbable_iff, isId.stripped.strip_eq]
    exact isId
  simp [idPiece, named, Option.filter, probable]

theorem idPiece_of_bare {raw : String} {id : List Char} (isId : IsId id)
    (bare : trimmed raw = id) : idPiece raw = some id := by
  have probable : isProbableSpotifyId id = true := by
    rw [isProbable_iff, isId.stripped.strip_eq]
    exact isId
  have named : namedPiece id = none := by
    cases found : namedPiece id with
    | none => rfl
    | some piece =>
        have colon : ':' ∈ id := by
          rcases Option.or_eq_some_iff.mp found with full | ⟨-, short⟩
          · rw [stripStart_eq_some_iff.mp full]
            exact List.mem_append_left _ (by decide)
          · rw [stripStart_eq_some_iff.mp short]
            exact List.mem_append_left _ (by decide)
        exact absurd (isId.alphanumeric ':' colon) (by decide)
  have linked : linkedPiece id = none := by
    cases found : linkedPiece id with
    | none => rfl
    | some piece =>
        obtain ⟨front, rest, split⟩ := linkedPiece_eq_some found
        have slash : '/' ∈ id := split ▸ slash_mem_link front rest
        exact absurd (isId.alphanumeric '/' slash) (by decide)
  simp [idPiece, bare, named, linked, probable]

theorem idPiece_of_track {raw : String} {id : List Char} (isId : IsId id)
    (track : trimmed raw = "track:".toList ++ id) : idPiece raw = some id := by
  apply idPiece_of_named isId
  rw [track]
  have long : stripStart "spotify:track:".toList ("track:".toList ++ id) = none := rfl
  rw [namedPiece, long, stripStart_append]
  rfl

theorem idPiece_of_spotify {raw : String} {id : List Char} (isId : IsId id)
    (spotify : trimmed raw = "spotify:track:".toList ++ id) : idPiece raw = some id := by
  apply idPiece_of_named isId
  rw [spotify, namedPiece, stripStart_append]
  rfl

/-! ## Canonical ids -/

/-- What an input names is an id or nothing, the id of every spelling the input is, and named again
by its own URI. -/
structure Canonical (raw : String) : Prop where
  shape : trackIdFromUri raw = "" ∨ IsId (trackIdFromUri raw).toList
  spelled : ∀ id : String, IsId id.toList → Spells id.toList raw.toList → trackIdFromUri raw = id
  again : trackIdFromUri raw ≠ "" →
    trackIdFromUri ("spotify:track:" ++ trackIdFromUri raw) = trackIdFromUri raw

/-- No whitespace stands beside what is taken for an id, and a link's id comes after the first
`/track/`. -/
structure Plain (raw : String) : Prop where
  bare : ∀ piece, namedPiece (trimmed raw) = some piece ∨ linkedPiece (trimmed raw) = some piece →
    isProbableSpotifyId piece → Stripped isWhitespace piece
  first : ∀ id front tail, IsId id → Separated tail →
    trimmed raw = front ++ "/track/".toList ++ id ++ tail → linkedPiece (trimmed raw) = some id

theorem stripped_iff_isId {piece : List Char} (probable : isProbableSpotifyId piece = true) :
    Stripped isWhitespace piece ↔ IsId piece := by
  constructor
  · intro stripped
    have isId := isProbable_iff.mp probable
    rwa [stripped.strip_eq] at isId
  · exact IsId.stripped

/-- The piece an input names is one of those looked at. -/
theorem idPiece_cases {raw : String} {piece : List Char} (found : idPiece raw = some piece) :
    isProbableSpotifyId piece = true ∧ (namedPiece (trimmed raw) = some piece ∨
      linkedPiece (trimmed raw) = some piece ∨ trimmed raw = piece) := by
  rcases Option.or_eq_some_iff.mp found with looked | ⟨-, bare⟩
  · rcases Option.or_eq_some_iff.mp looked with named | ⟨-, linked⟩
    · obtain ⟨named, probable⟩ := Option.filter_eq_some_iff.mp named
      exact ⟨probable, Or.inl named⟩
    · obtain ⟨linked, probable⟩ := Option.filter_eq_some_iff.mp linked
      exact ⟨probable, Or.inr (Or.inl linked)⟩
  · obtain ⟨probable, same⟩ := Option.ite_none_right_eq_some.mp bare
    obtain rfl := Option.some.inj same
    exact ⟨probable, Or.inr (Or.inr rfl)⟩

theorem isId_of_idPiece {raw : String} (plain : Plain raw) {piece : List Char}
    (found : idPiece raw = some piece) : IsId piece := by
  obtain ⟨probable, named | linked | bare⟩ := idPiece_cases found
  · exact (stripped_iff_isId probable).mp (plain.bare piece (Or.inl named) probable)
  · exact (stripped_iff_isId probable).mp (plain.bare piece (Or.inr linked) probable)
  · rw [← stripped_iff_isId probable, ← bare]
    exact stripped_strip _ _

/-- A spelling of an id names it, if a link's id comes first. -/
theorem idPiece_of_spells {raw : String} (plain : Plain raw) {id : List Char} (isId : IsId id)
    (spells : Spells id raw.toList) : idPiece raw = some id := by
  rcases spells.strip_cases isId with bare | track | spotify | ⟨front, tail, separated, link⟩
  · exact idPiece_of_bare isId bare
  · exact idPiece_of_track isId track
  · exact idPiece_of_spotify isId spotify
  · have linked := plain.first id front tail isId separated link
    have probable : isProbableSpotifyId id = true := by
      rw [isProbable_iff, isId.stripped.strip_eq]
      exact isId
    rw [List.append_assoc] at link
    rw [idPiece_of_link link, linked, Option.filter_some, if_pos probable]

theorem trackIdFromUri_again {id : List Char} (isId : IsId id) :
    trackIdFromUri ("spotify:track:" ++ String.ofList id) = String.ofList id := by
  have spotify : trimmed ("spotify:track:" ++ String.ofList id) =
      "spotify:track:".toList ++ id := by
    have stripped : Stripped isWhitespace ("spotify:track:".toList ++ id) :=
      stripped_append_id isId (by decide)
    have text : ("spotify:track:" ++ String.ofList id).toList = "spotify:track:".toList ++ id := by
      simp
    rw [trimmed, text, stripped.strip_eq]
  rw [trackIdFromUri_eq, idPiece_of_spotify isId spotify]
  rfl

/-- A probable piece an input names is the id it gives. -/
theorem idPiece_of_piece {raw : String} {piece : List Char}
    (found : namedPiece (trimmed raw) = some piece ∨ linkedPiece (trimmed raw) = some piece)
    (probable : isProbableSpotifyId piece = true) : idPiece raw = some piece := by
  rcases found with named | linked
  · simp [idPiece, named, Option.filter, probable]
  · obtain ⟨front, rest, split⟩ := linkedPiece_eq_some linked
    rw [idPiece_of_link split, linked, Option.filter_some, if_pos probable]

/-- Ids are canonical just where no whitespace is taken for part of one, and a link has one id to
name. -/
theorem canonical_iff (raw : String) : Canonical raw ↔ Plain raw := by
  constructor
  · intro canonical
    refine ⟨?_, ?_⟩
    · intro piece found probable
      have named : trackIdFromUri raw = String.ofList piece := by
        rw [trackIdFromUri_eq, idPiece_of_piece found probable]
        rfl
      have nonempty : piece ≠ [] := by
        rintro rfl
        exact absurd probable (by decide)
      rcases canonical.shape with empty | isId
      · rw [named] at empty
        exact absurd (String.ofList_injective (empty.trans rfl : _ = String.ofList [])) nonempty
      · rw [named, String.toList_ofList] at isId
        exact isId.stripped
    · intro id front tail isId separated link
      obtain ⟨before, after, split, leading, trailing⟩ :=
        strip_split isWhitespace raw.toList
      have spells : Spells id raw.toList := by
        rw [split, show strip isWhitespace raw.toList = _ from link]
        exact (Spells.link front separated).spaced leading trailing
      have named := canonical.spelled (String.ofList id) (by simpa using isId)
        (by simpa using spells)
      rw [List.append_assoc] at link
      rw [trackIdFromUri_eq, idPiece_of_link link] at named
      have same := String.ofList_injective named
      cases linked : (linkedPiece (trimmed raw)).filter isProbableSpotifyId with
      | none =>
          rw [linked] at same
          exact absurd same.symm isId.nonempty
      | some piece =>
          rw [linked] at same
          obtain rfl : piece = id := same
          exact (Option.filter_eq_some_iff.mp linked).1
  · intro plain
    cases found : idPiece raw with
    | none =>
        have empty : trackIdFromUri raw = "" := by
          rw [trackIdFromUri_eq, found]
          rfl
        refine ⟨Or.inl empty, ?_, fun named => absurd empty named⟩
        intro id isId spells
        rw [idPiece_of_spells plain isId spells] at found
        cases found
    | some piece =>
        have isId := isId_of_idPiece plain found
        have named : trackIdFromUri raw = String.ofList piece := by
          rw [trackIdFromUri_eq, found]
          rfl
        refine ⟨Or.inr (by simpa [named] using isId), ?_, ?_⟩
        · intro id spelled spells
          rw [idPiece_of_spells plain spelled spells] at found
          rw [named, ← Option.some.inj found, String.ofList_toList]
        · intro _
          rw [named]
          exact trackIdFromUri_again isId

/-- A space after the name of the URI becomes part of the id. -/
theorem spaced_not_canonical : ¬ ∀ raw, Canonical raw := by
  intro canonical
  have spaced : trackIdFromUri "spotify:track: 0123456789abcdef" = " 0123456789abcdef" := by
    decide +kernel
  rcases (canonical "spotify:track: 0123456789abcdef").shape with empty | isId
  · exact absurd (spaced.symm.trans empty) (by decide)
  · rw [spaced] at isId
    exact absurd (isId.alphanumeric ' ' (by decide)) (by decide)

end Togewire.Spotify.Parsing
