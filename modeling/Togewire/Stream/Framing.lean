import Togewire.Stream.Ogg

/-!
# Framing

Pages are read off an input one after another until it ends or is no page.  Nothing of it is lost or
made up: what the pages hold is the input up to there, and the pages of any stream are read back.
-/

namespace Togewire.Stream

/-! ## One page -/

/-- The segment table of a page. -/
def lacing (page : Bytes) : Bytes := (page.drop oggPageHeaderLen).take (segments page)

/-- A header, 255 segments and 255 bytes for each of them. -/
def maxPageLen : Nat := 65307

/-- A page is a header, a lacing value for each segment and the body these add up to, and its
granule position stands in the header, the least significant byte first. -/
structure Framed (page : OggPage) : Prop where
  capture : page.data.take 4 = oggS
  lacing : (lacing page.data).length = segments page.data
  length : page.data.length =
    oggPageHeaderLen + segments page.data + ((Stream.lacing page.data).map UInt8.toNat).sum
  short : page.data.length ≤ maxPageLen
  granule : page.granule = fromLeBytes ((page.data.drop 6).take 8)

theorem segments_le (page : Bytes) : segments page ≤ 255 := by
  have bound := (page.getD 26 0).toNat_lt
  unfold segments
  omega

theorem sum_toNat_le (bytes : Bytes) : (bytes.map UInt8.toNat).sum ≤ bytes.length * 255 := by
  induction bytes with
  | nil => exact Nat.zero_le _
  | cons byte bytes ih =>
      have bound := byte.toNat_lt
      rw [List.map_cons, List.sum_cons, List.length_cons]
      omega

theorem bodyLen_le (page : Bytes) : bodyLen page ≤ 65025 := by
  have sum : bodyLen page ≤ (lacing page).length * 255 := sum_toNat_le (lacing page)
  have count : (lacing page).length ≤ segments page := List.length_take_le _ _
  have segments := segments_le page
  omega

theorem WellFormed.framed {page : Bytes} (whole : WellFormed page) : Framed (pageOf page) where
  capture := whole.capture
  lacing := by
    have length := whole.length
    show (Stream.lacing page).length = segments page
    rw [Stream.lacing, List.length_take, List.length_drop]
    omega
  length := whole.length
  short := by
    have length := whole.length
    have segments := segments_le page
    have body := bodyLen_le page
    unfold oggPageHeaderLen at length
    show page.length ≤ 65307
    omega
  granule := rfl

/-! ## One read -/

/-- The segment table or the body of a page is cut short. -/
def CutShort (rest : Bytes) : Prop :=
  rest.length < oggPageHeaderLen + segments rest ∨
    rest.length < oggPageHeaderLen + segments rest + bodyLen rest

theorem wellFormed_take {input : Bytes} (capture : input.take 4 = oggS) {length : Nat}
    (spans : length = oggPageHeaderLen + segments input + bodyLen input)
    (enough : length ≤ input.length) : WellFormed (input.take length) := by
  have size : (input.take length).length = length := List.length_take_of_le enough
  have joined : input.take length ++ input.drop length = input := List.take_append_drop length input
  have segments_eq : segments (input.take length) = segments input := by
    rw [← segments_append (by omega) (input.drop length), joined]
  have body_eq : bodyLen (input.take length) = bodyLen input := by
    rw [← bodyLen_append (by omega) (input.drop length), joined]
  constructor
  · unfold oggPageHeaderLen at spans
    rw [List.take_take, Nat.min_eq_left (by omega)]
    exact capture
  · omega
  · rw [size, segments_eq, body_eq, spans]

/-- A read ends the input, fails, or takes a whole page off it. -/
theorem readOggPage_cases (input : Bytes) :
    input.length < oggPageHeaderLen ∧ readOggPage input = .ok none ∨
      (oggPageHeaderLen ≤ input.length ∧ (input.take 4 ≠ oggS ∨ CutShort input)) ∧
        (∃ error, readOggPage input = .error error) ∨
      ∃ page rest, input = page ++ rest ∧ WellFormed page ∧
        readOggPage input = .ok (some (pageOf page, rest)) := by
  by_cases short : input.length < oggPageHeaderLen
  · left
    exact ⟨short, if_pos short⟩
  right
  by_cases capture : input.take 4 = oggS
  · by_cases table : input.length < oggPageHeaderLen + segments input
    · left
      refine ⟨⟨Nat.le_of_not_lt short, Or.inr (Or.inl table)⟩, "early eof", ?_⟩
      rw [readOggPage, if_neg short, if_neg (not_not_intro capture), if_pos table]
    · by_cases body : input.length < oggPageHeaderLen + segments input + bodyLen input
      · left
        refine ⟨⟨Nat.le_of_not_lt short, Or.inr (Or.inr body)⟩, "early eof", ?_⟩
        rw [readOggPage, if_neg short, if_neg (not_not_intro capture), if_neg table]
        exact if_pos body
      · right
        have whole := wellFormed_take capture rfl (Nat.le_of_not_lt body)
        have joined := List.take_append_drop
          (oggPageHeaderLen + segments input + bodyLen input) input
        refine ⟨_, _, joined.symm, whole, ?_⟩
        have read := readOggPage_append whole
          (input.drop (oggPageHeaderLen + segments input + bodyLen input))
        rwa [joined] at read
  · left
    refine ⟨⟨Nat.le_of_not_lt short, Or.inl capture⟩, "missing OggS", ?_⟩
    rw [readOggPage, if_neg short, if_pos capture]

theorem wellFormed_of_readOggPage {input rest : Bytes} {page : OggPage}
    (read : readOggPage input = .ok (some (page, rest))) :
    WellFormed page.data ∧ page = pageOf page.data := by
  rcases readOggPage_cases input with ⟨-, ends⟩ | ⟨-, error, fails⟩ |
    ⟨bytes, later, -, whole, takes⟩
  · rw [ends] at read
    cases read
  · rw [fails] at read
    cases read
  · rw [takes] at read
    obtain ⟨rfl, rfl⟩ := Prod.mk.inj (Option.some.inj (Except.ok.inj read))
    exact ⟨whole, rfl⟩

/-- Reading ends where there is no room for a header, and fails where there is and no page is. -/
structure Stops (rest : Bytes) (ending : Except String Unit) : Prop where
  ended : ending = .ok () ↔ rest.length < oggPageHeaderLen
  failed : (∃ error, ending = .error error) ↔
    oggPageHeaderLen ≤ rest.length ∧ (rest.take 4 ≠ oggS ∨ CutShort rest)

theorem stops_ok {rest : Bytes} (short : rest.length < oggPageHeaderLen) :
    Stops rest (.ok ()) where
  ended := iff_of_true rfl short
  failed := by
    constructor
    · rintro ⟨error, failed⟩
      cases failed
    · intro room
      exact absurd short (Nat.not_lt.mpr room.1)

theorem stops_error {rest : Bytes} (error : String)
    (broken : oggPageHeaderLen ≤ rest.length ∧ (rest.take 4 ≠ oggS ∨ CutShort rest)) :
    Stops rest (.error error) where
  ended := iff_of_false nofun (Nat.not_lt.mpr broken.1)
  failed := iff_of_true ⟨error, rfl⟩ broken

/-! ## Reading to the end -/

/-- Every page read is one, and with what is left they make up the input. -/
theorem pagesFrom_lossless {rounds : Nat} {input : Bytes} (enough : input.length < rounds) :
    ∃ rest, input = ((pagesFrom rounds input).1.map OggPage.data).flatten ++ rest ∧
      Stops rest (pagesFrom rounds input).2 ∧ ∀ page ∈ (pagesFrom rounds input).1, Framed page := by
  induction rounds generalizing input with
  | zero => omega
  | succ rounds ih =>
      rw [pagesFrom]
      rcases readOggPage_cases input with ⟨short, read⟩ | ⟨broken, error, read⟩ |
        ⟨page, later, rfl, whole, read⟩
      · rw [read]
        exact ⟨input, rfl, stops_ok short, List.forall_mem_nil _⟩
      · rw [read]
        exact ⟨input, rfl, stops_error error broken, List.forall_mem_nil _⟩
      · have shorter := length_lt_of_readOggPage read
        obtain ⟨rest, joined, stops, framed⟩ := ih (show later.length < rounds by omega)
        rw [read]
        refine ⟨rest, ?_, stops, List.forall_mem_cons.mpr ⟨whole.framed, framed⟩⟩
        calc
          page ++ later
            = page ++ (((pagesFrom rounds later).1.map OggPage.data).flatten ++ rest) := by
              rw [← joined]
          _ = ((pageOf page :: (pagesFrom rounds later).1).map OggPage.data).flatten ++ rest :=
              (List.append_assoc ..).symm

/-- Framing is lossless: reading takes a front of the input apart into pages and stops where none is
left, and pages which are put one after another are read as they are. -/
theorem readPages_lossless :
    (∀ input, ∃ rest, input = ((readPages input).1.map OggPage.data).flatten ++ rest ∧
      Stops rest (readPages input).2 ∧ ∀ page ∈ (readPages input).1, Framed page) ∧
      ∀ pages : List Bytes, (∀ page ∈ pages, WellFormed page) →
        readPages pages.flatten = (pages.map pageOf, .ok ()) := by
  constructor
  · intro input
    exact pagesFrom_lossless (Nat.lt_succ_self input.length)
  · intro pages whole
    exact readPages_flatten whole

theorem testRecording_read :
    readPages testRecording.bytes =
      ((testRecording.head :: testRecording.further ++ testRecording.audio).map pageOf, .ok ()) :=
  readPages_lossless.2 _ testRecording.whole

end Togewire.Stream
