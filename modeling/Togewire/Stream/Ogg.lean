import Mathlib.Algebra.GroupWithZero.Nat
import Mathlib.Data.List.TakeWhile
import Togewire.Stream.Pipe

/-!
# Ogg pages

`pump_ogg` reads the header pages of a stream, skips to the seek point and sends the pages from
there on.  It sends nothing before it has read a page at the seek point, and then the first header
page, an empty tags page and every page from the seek point to the end.
-/

namespace Togewire.Stream

/-! ## Pages -/

/-- `OGG_PAGE_HEADER_LEN` -/
def oggPageHeaderLen : Nat := 27

/-- `OPUS_RATE` -/
def opusRate : Nat := 48000

/-- `u64::MAX` -/
def u64Max : Nat := 18446744073709551615

/-- `OggS` -/
def oggS : Bytes := [79, 103, 103, 83]

/-- `OggPage` -/
structure OggPage where
  data : Bytes
  granule : Nat
  deriving DecidableEq

/-- Header pages carry granule 0 (or -1 while a packet continues). -/
def OggPage.isHeader (page : OggPage) : Bool := page.granule = 0 || page.granule = u64Max

/-- `from_le_bytes` -/
def fromLeBytes (bytes : Bytes) : Nat :=
  bytes.foldr (fun byte value => byte.toNat + 256 * value) 0

/-- A page of some bytes. -/
def pageOf (data : Bytes) : OggPage := ⟨data, fromLeBytes ((data.drop 6).take 8)⟩

/-- How many segments a page has. -/
def segments (page : Bytes) : Nat := (page.getD 26 0).toNat

/-- How many bytes follow the segment table. -/
def bodyLen (page : Bytes) : Nat :=
  (((page.drop oggPageHeaderLen).take (segments page)).map UInt8.toNat).sum

/-- The next page and what follows it, unless the input ends before. -/
def readOggPage (input : Bytes) : Except String (Option (OggPage × Bytes)) :=
  if input.length < oggPageHeaderLen then
    .ok none
  else if input.take 4 ≠ oggS then
    .error "missing OggS"
  else if input.length < oggPageHeaderLen + segments input then
    .error "early eof"
  else
    let length := oggPageHeaderLen + segments input + bodyLen input
    if input.length < length then
      .error "early eof"
    else
      .ok (some (pageOf (input.take length), input.drop length))

/-- The bytes of a whole page. -/
structure WellFormed (page : Bytes) : Prop where
  capture : page.take 4 = oggS
  header : oggPageHeaderLen ≤ page.length
  length : page.length = oggPageHeaderLen + segments page + bodyLen page

instance (page : Bytes) : Decidable (WellFormed page) :=
  decidable_of_iff (page.take 4 = oggS ∧ oggPageHeaderLen ≤ page.length ∧
    page.length = oggPageHeaderLen + segments page + bodyLen page)
    ⟨fun ⟨capture, header, length⟩ => ⟨capture, header, length⟩,
      fun ⟨capture, header, length⟩ => ⟨capture, header, length⟩⟩

/-- The header of a page says how many segments it has, whatever follows. -/
theorem segments_append {page : Bytes} (header : oggPageHeaderLen ≤ page.length) (rest : Bytes) :
    segments (page ++ rest) = segments page := by
  unfold oggPageHeaderLen at header
  unfold segments
  rw [List.getD_eq_getElem?_getD, List.getD_eq_getElem?_getD, List.getElem?_append_left (by omega)]

/-- The segment table of a page says how long its body is, whatever follows. -/
theorem bodyLen_append {page : Bytes} (table : oggPageHeaderLen + segments page ≤ page.length)
    (rest : Bytes) : bodyLen (page ++ rest) = bodyLen page := by
  have header : oggPageHeaderLen ≤ page.length := by omega
  unfold bodyLen
  rw [segments_append header, List.drop_append_of_le_length header, List.take_append_of_le_length]
  rw [List.length_drop]
  omega

theorem readOggPage_append {page : Bytes} (whole : WellFormed page) (rest : Bytes) :
    readOggPage (page ++ rest) = .ok (some (pageOf page, rest)) := by
  obtain ⟨capture, header, length⟩ := whole
  have segments_eq := segments_append header rest
  have body_eq : bodyLen (page ++ rest) = bodyLen page := bodyLen_append (by omega) rest
  unfold oggPageHeaderLen at header length
  have capture_eq : (page ++ rest).take 4 = oggS := by
    rw [List.take_append_of_le_length (by omega), capture]
  have long : page.length ≤ (page ++ rest).length := by simp
  unfold readOggPage
  simp only [segments_eq, body_eq, capture_eq, ne_eq, not_true_eq_false, if_false]
  unfold oggPageHeaderLen
  rw [if_neg (by omega), if_neg (by omega), if_neg (by omega), ← length, List.take_left,
    List.drop_left]

/-- What has been read is the start of the input. -/
theorem append_of_readOggPage {input rest : Bytes} {page : OggPage}
    (read : readOggPage input = .ok (some (page, rest))) :
    input = page.data ++ rest ∧ oggPageHeaderLen ≤ page.data.length := by
  unfold readOggPage at read
  split at read
  · cases read
  · split at read
    · cases read
    · split at read
      · cases read
      · simp only at read
        split at read
        · cases read
        · obtain ⟨rfl, rfl⟩ := Prod.mk.inj (Option.some.inj (Except.ok.inj read))
          refine ⟨(List.take_append_drop _ _).symm, ?_⟩
          rw [pageOf, List.length_take]
          omega

/-! ## The empty tags page -/

/-- One byte of Ogg's CRC-32, bit by bit. -/
def crcShift : Nat → UInt32 → UInt32
  | 0, crc => crc
  | bits + 1, crc =>
      crcShift bits ((crc <<< 1) ^^^ (if crc &&& 0x80000000 ≠ 0 then 0x04c11db7 else 0))

/-- Ogg's CRC-32: polynomial 0x04c11db7, unreflected, zero init, no final xor. -/
def oggCrc (data : Bytes) : UInt32 :=
  data.foldl (fun (crc : UInt32) (b : UInt8) => crcShift 8 (crc ^^^ (b.toUInt32 <<< 24))) 0

/-- `123456789` -/
example : oggCrc [49, 50, 51, 52, 53, 54, 55, 56, 57] = 0x89a1897f := by decide +kernel

/-- `to_le_bytes` -/
def toLeBytes (value : UInt32) : Bytes :=
  [value.toUInt8, (value >>> 8).toUInt8, (value >>> 16).toUInt8, (value >>> 24).toUInt8]

/-- `OpusTags`, a vendor string of eight bytes, `togewire`, and no comments. -/
def tagsPacket : Bytes :=
  [79, 112, 117, 115, 84, 97, 103, 115, 8, 0, 0, 0, 116, 111, 103, 101, 119, 105, 114, 101, 0, 0, 0,
    0]

/-- A comment-free OpusTags page, standing in for the file's own. -/
def emptyTagsPage (serial seq : Bytes) : Bytes :=
  let page := oggS ++ [0, 0] ++ List.replicate 8 0 ++ serial ++ seq ++ [0, 0, 0, 0, 1, 24] ++
    tagsPacket
  page.take 22 ++ toLeBytes (oggCrc page) ++ page.drop 26

theorem emptyTagsPage_wellFormed {serial seq : Bytes} (serial_length : serial.length = 4)
    (seq_length : seq.length = 4) : WellFormed (emptyTagsPage serial seq) := by
  obtain ⟨a, b, c, d, rfl⟩ := List.length_eq_four.mp serial_length
  obtain ⟨e, f, g, h, rfl⟩ := List.length_eq_four.mp seq_length
  unfold emptyTagsPage
  extract_lets page
  -- the checksum is no part of what the lengths depend on
  generalize oggCrc page = crc
  constructor
  · rfl
  · simp [page, oggS, toLeBytes, tagsPacket, oggPageHeaderLen]
  · simp [page, oggS, toLeBytes, tagsPacket, oggPageHeaderLen, segments, bodyLen]

/-! ## Reading to the end -/

/-- The pages of an input, and how it ends. -/
def pagesFrom : Nat → Bytes → List OggPage × Except String Unit
  | 0, _ => ([], .ok ())
  | rounds + 1, input =>
      match readOggPage input with
      | .error error => ([], .error error)
      | .ok none => ([], .ok ())
      | .ok (some (page, rest)) =>
          let (pages, ending) := pagesFrom rounds rest
          (page :: pages, ending)

/-- No input has more pages than bytes. -/
def readPages (input : Bytes) : List OggPage × Except String Unit :=
  pagesFrom (input.length + 1) input

theorem length_lt_of_readOggPage {input rest : Bytes} {page : OggPage}
    (read : readOggPage input = .ok (some (page, rest))) : rest.length < input.length := by
  obtain ⟨same, long⟩ := append_of_readOggPage read
  rw [same, List.length_append]
  unfold oggPageHeaderLen at long
  omega

/-- Further rounds make no difference. -/
theorem pagesFrom_congr {rounds others : Nat} {input : Bytes} (enough : input.length < rounds)
    (enoughOthers : input.length < others) : pagesFrom rounds input = pagesFrom others input := by
  induction rounds generalizing others input with
  | zero => omega
  | succ rounds ih =>
      obtain ⟨others, rfl⟩ : ∃ fewer, others = fewer + 1 := ⟨others - 1, by omega⟩
      rw [pagesFrom, pagesFrom]
      cases read : readOggPage input with
      | error => rfl
      | ok found =>
          cases found with
          | none => rfl
          | some found =>
              obtain ⟨page, rest⟩ := found
              have shorter := length_lt_of_readOggPage read
              simp only
              rw [ih (by omega) (by omega : rest.length < others)]

theorem readPages_of_read {input rest : Bytes} {page : OggPage}
    (read : readOggPage input = .ok (some (page, rest))) :
    readPages input = (page :: (readPages rest).1, (readPages rest).2) := by
  rw [readPages, pagesFrom, read]
  simp only
  rw [readPages, pagesFrom_congr (length_lt_of_readOggPage read) (Nat.lt_succ_self rest.length)]

theorem readPages_flatten {pages : List Bytes} (whole : ∀ page ∈ pages, WellFormed page) :
    readPages pages.flatten = (pages.map pageOf, .ok ()) := by
  induction pages with
  | nil => rfl
  | cons page pages ih =>
      obtain ⟨first, rest⟩ := List.forall_mem_cons.mp whole
      rw [List.flatten_cons, readPages_of_read (readOggPage_append first _), ih rest]
      rfl

/-! ## Pumping -/

/-- `seek_ms.max(0) as u64 * OPUS_RATE / 1000` -/
def seekBase (seekMs : Int) : Nat := seekMs.toNat * opusRate % (u64Max + 1) / 1000

/-- A call on the pipe. -/
inductive Call
  | setHeaders (headers : Bytes)
  | send (page : Bytes)

/-- Where `pump_ogg` stands. -/
inductive Pump
  /-- It reads header pages: the first one, and the sequence number of the last further one. -/
  | headers (head : Option Bytes) (tagsSeq : Bytes)
  /-- It reads pages before the seek point. -/
  | seeking (headers : Bytes)
  /-- It waits until a page is due. -/
  | due (page : OggPage)
  /-- It reads pages from the seek point on. -/
  | playing
  | ended (result : Except String Unit)

namespace Pump

def start : Pump := headers none [1, 0, 0, 0]

/-- The test of the seek loop, and the headers once it ends. -/
def seek (base : Nat) (opening : Bytes) (page : OggPage) : Pump × List Call :=
  if page.granule < base then (seeking opening, []) else (due page, [.setHeaders opening])

/-- A page has been read. -/
def readPage (base : Nat) (page : OggPage) : Pump → Pump × List Call
  | headers head tagsSeq =>
      if page.isHeader then
        match head with
        | none => (headers (some page.data) tagsSeq, [])
        | some head => (headers (some head) ((page.data.drop 18).take 4), [])
      else
        match head with
        | none => (ended (.error "no Ogg header pages"), [])
        | some head => seek base (head ++ emptyTagsPage ((head.drop 14).take 4) tagsSeq) page
  | seeking opening => seek base opening page
  | playing => (due page, [])
  | pump => (pump, [])

/-- The input has come to its end. -/
def readEnd : Pump → Pump
  | headers _ _ => ended (.error "EOF in Ogg headers")
  | seeking _ | playing => ended (.ok ())
  | pump => pump

/-- A read has come back. -/
def read (base : Nat) (pump : Pump) : Except String (Option OggPage) → Pump × List Call
  | .error error => (ended (.error error), [])
  | .ok none => (pump.readEnd, [])
  | .ok (some page) => pump.readPage base page

/-- It looks whether the pipe has been retired. -/
def watches : Pump → Bool
  | due _ | playing => true
  | _ => false

end Pump

/-- The effect of one call. -/
def Pipe.call (pipe : Pipe) : Call → Pipe
  | .setHeaders headers => pipe.setHeaders headers
  | .send page => pipe.send page

/-- The effect of some calls, one after the other. -/
def Pipe.calls (pipe : Pipe) (calls : List Call) : Pipe := calls.foldl Pipe.call pipe

@[simp] theorem Pipe.calls_nil (pipe : Pipe) : pipe.calls [] = pipe := rfl

/-- The steps of an unpaced `pump_ogg`. -/
def pumpFrom (base : Nat) : Nat → Pump → Bytes → Pipe → Pump × Pipe
  | 0, pump, _, pipe => (pump, pipe)
  | rounds + 1, pump, input, pipe =>
      if pump.watches && pipe.shutdown then
        (.ended (.ok ()), pipe)
      else
        match pump with
        | .ended result => (.ended result, pipe)
        | .due page => pumpFrom base rounds .playing input (pipe.send page.data)
        | pump =>
            match readOggPage input with
            | .error error => (.ended (.error error), pipe)
            | .ok none => (pump.readEnd, pipe)
            | .ok (some (page, rest)) =>
                let (next, calls) := pump.readPage base page
                pumpFrom base rounds next rest (pipe.calls calls)

/-- `pump_ogg` without pace.  Every page takes two steps at most. -/
def pumpOgg (input : Bytes) (seekMs : Int) (pipe : Pipe) : Pump × Pipe :=
  pumpFrom (seekBase seekMs) (2 * input.length + 2) .start input pipe

section Steps

variable {base rounds : Nat} {pump : Pump} {page opening seq rest : Bytes} {pipe : Pipe}
  {pages : List Bytes}

/-- It waits for a read. -/
def Pump.reads : Pump → Bool
  | headers _ _ | seeking _ | playing => true
  | due _ | ended _ => false

theorem pumpFrom_page (active : pipe.shutdown = false) (reads : pump.reads = true)
    (whole : WellFormed page) :
    pumpFrom base (rounds + 1) pump (page ++ rest) pipe =
      pumpFrom base rounds (pump.readPage base (pageOf page)).1 rest
        (pipe.calls (pump.readPage base (pageOf page)).2) := by
  cases pump with
  | due | ended => cases reads
  | headers | seeking | playing => simp [pumpFrom, active, readOggPage_append whole]

theorem pumpFrom_nil (active : pipe.shutdown = false) (reads : pump.reads = true) :
    pumpFrom base (rounds + 1) pump [] pipe = (pump.readEnd, pipe) := by
  have ends : readOggPage [] = .ok none := rfl
  cases pump with
  | due | ended => cases reads
  | headers | seeking | playing => simp [pumpFrom, active, ends]

theorem pumpFrom_due (active : pipe.shutdown = false) (page : OggPage) (input : Bytes) :
    pumpFrom base (rounds + 1) (.due page) input pipe =
      pumpFrom base rounds .playing input (pipe.send page.data) := by
  rw [pumpFrom, active, Bool.and_false]
  rfl

/-- The sequence number of the last of the further header pages, else 1. -/
def tagsSeq (further : List Bytes) (seq : Bytes) : Bytes :=
  (further.getLast?.map fun page => (page.drop 18).take 4).getD seq

theorem pumpFrom_further (active : pipe.shutdown = false) {head : Bytes}
    (whole : ∀ page ∈ pages, WellFormed page)
    (headers : ∀ page ∈ pages, (pageOf page).isHeader = true) :
    pumpFrom base (pages.length + rounds) (.headers (some head) seq) (pages.flatten ++ rest) pipe =
      pumpFrom base rounds (.headers (some head) (tagsSeq pages seq)) rest pipe := by
  induction pages generalizing seq with
  | nil => simp [tagsSeq]
  | cons page pages ih =>
      obtain ⟨first, whole⟩ := List.forall_mem_cons.mp whole
      obtain ⟨isHeader, headers⟩ := List.forall_mem_cons.mp headers
      have moved : pages.length + 1 + rounds = pages.length + rounds + 1 := by omega
      rw [List.length_cons, moved, List.flatten_cons, List.append_assoc,
        pumpFrom_page active rfl first, Pump.readPage, isHeader]
      have later : tagsSeq pages ((page.drop 18).take 4) = tagsSeq (page :: pages) seq := by
        rw [tagsSeq, tagsSeq, List.getLast?_cons]
        cases pages.getLast? <;> rfl
      rw [← later]
      exact ih whole headers

theorem pumpFrom_early (active : pipe.shutdown = false) (whole : ∀ page ∈ pages, WellFormed page)
    (early : ∀ page ∈ pages, (pageOf page).granule < base) :
    pumpFrom base (pages.length + rounds) (.seeking opening) (pages.flatten ++ rest) pipe =
      pumpFrom base rounds (.seeking opening) rest pipe := by
  induction pages with
  | nil => simp
  | cons page pages ih =>
      obtain ⟨first, whole⟩ := List.forall_mem_cons.mp whole
      obtain ⟨before, early⟩ := List.forall_mem_cons.mp early
      have moved : pages.length + 1 + rounds = pages.length + rounds + 1 := by omega
      rw [List.length_cons, moved, List.flatten_cons, List.append_assoc,
        pumpFrom_page active rfl first, Pump.readPage, Pump.seek, if_pos before]
      exact ih whole early

theorem pumpFrom_playing (active : pipe.shutdown = false)
    (whole : ∀ page ∈ pages, WellFormed page) :
    pumpFrom base (2 * pages.length + rounds + 1) .playing pages.flatten pipe =
      (.ended (.ok ()), pages.foldl Pipe.send pipe) := by
  induction pages generalizing pipe with
  | nil => exact pumpFrom_nil active rfl
  | cons page pages ih =>
      obtain ⟨first, whole⟩ := List.forall_mem_cons.mp whole
      have moved : 2 * (pages.length + 1) + rounds + 1 = 2 * pages.length + rounds + 1 + 1 + 1 := by
        omega
      rw [List.length_cons, moved, List.flatten_cons, pumpFrom_page active rfl first]
      refine (pumpFrom_due active (pageOf page) _).trans ?_
      exact ih active whole

/-- From the seek point on: the headers, then every page. -/
theorem pumpFrom_reached (active : pipe.shutdown = false) (first : WellFormed page)
    (whole : ∀ page ∈ pages, WellFormed page) (reached : base ≤ (pageOf page).granule) :
    pumpFrom base (2 * pages.length + rounds + 3) (.seeking opening) (page ++ pages.flatten) pipe =
      (.ended (.ok ()), (page :: pages).foldl Pipe.send (pipe.setHeaders opening)) := by
  have opened : (pipe.setHeaders opening).shutdown = false := active
  rw [pumpFrom_page active rfl first, Pump.readPage, Pump.seek, if_neg (Nat.not_lt.mpr reached)]
  refine (pumpFrom_due opened (pageOf page) _).trans ?_
  exact pumpFrom_playing opened whole

/-- The first audio page ends the headers loop, and is tested like any other. -/
theorem pumpFrom_audio (active : pipe.shutdown = false) {head : Bytes} (first : WellFormed page)
    (audio : (pageOf page).isHeader = false) :
    pumpFrom base (rounds + 1) (.headers (some head) seq) (page ++ rest) pipe =
      pumpFrom base (rounds + 1)
        (.seeking (head ++ emptyTagsPage ((head.drop 14).take 4) seq)) (page ++ rest) pipe := by
  rw [pumpFrom_page active rfl first, pumpFrom_page active rfl first, Pump.readPage, audio]
  rfl

end Steps

theorem sent_foldl_send (pages : List Bytes) (pipe : Pipe) :
    (pages.foldl Pipe.send pipe).sent = pipe.sent ++ pages := by
  induction pages generalizing pipe with
  | nil => simp
  | cons page pages ih => simp [ih, Pipe.send]

theorem length_le_flatten {pages : List Bytes} (whole : ∀ page ∈ pages, WellFormed page) :
    pages.length ≤ pages.flatten.length := by
  induction pages with
  | nil => exact Nat.le_refl _
  | cons page pages ih =>
      obtain ⟨first, whole⟩ := List.forall_mem_cons.mp whole
      have header := first.header
      have shorter := ih whole
      unfold oggPageHeaderLen at header
      rw [List.flatten_cons, List.length_append, List.length_cons]
      omega

/-! ## A whole stream -/

/-- Header pages, and then audio pages. -/
structure Recording where
  head : Bytes
  further : List Bytes
  audio : List Bytes
  whole : ∀ page ∈ head :: further ++ audio, WellFormed page
  headers : ∀ page ∈ head :: further, (pageOf page).isHeader = true
  opens : ∀ page, audio.head? = some page → (pageOf page).isHeader = false

namespace Recording

variable (recording : Recording) (seekMs : Int)

def bytes : Bytes := (recording.head :: recording.further ++ recording.audio).flatten

/-- The tags page which replaces the further header pages. -/
def tagsPage : Bytes :=
  emptyTagsPage ((recording.head.drop 14).take 4) (tagsSeq recording.further [1, 0, 0, 0])

/-- The pages from the first one on which is not before the seek point. -/
def fromSeek : List Bytes :=
  recording.audio.dropWhile fun page => (pageOf page).granule < seekMs.toNat * 48

variable {recording seekMs}

theorem seekBase_eq (small : seekMs * opusRate ≤ u64Max) : seekBase seekMs = seekMs.toNat * 48 := by
  unfold seekBase
  unfold opusRate u64Max at *
  omega

/-- The headers loop hands the first audio page on to the seek loop. -/
theorem pumpFrom_start {pipe : Pipe} {base rounds : Nat} (active : pipe.shutdown = false)
    (some : recording.audio ≠ []) :
    pumpFrom base (recording.further.length + (rounds + 1) + 1) .start recording.bytes pipe =
      pumpFrom base (rounds + 1) (.seeking (recording.head ++ recording.tagsPage))
        recording.audio.flatten pipe := by
  obtain ⟨first, audio, cons⟩ := List.exists_cons_of_ne_nil some
  obtain ⟨wholeHead, wholeFurther, wholeAudio⟩ : WellFormed recording.head ∧
      (∀ page ∈ recording.further, WellFormed page) ∧
        ∀ page ∈ recording.audio, WellFormed page := by
    simpa [or_imp, forall_and] using recording.whole
  obtain ⟨headerHead, headers⟩ := List.forall_mem_cons.mp recording.headers
  have opens := recording.opens first (by rw [cons]; rfl)
  rw [bytes, List.cons_append, List.flatten_cons, List.flatten_append,
    pumpFrom_page active rfl wholeHead, Pump.start, Pump.readPage, headerHead]
  refine (pumpFrom_further active wholeFurther headers).trans ?_
  rw [cons] at wholeAudio ⊢
  rw [List.flatten_cons]
  exact pumpFrom_audio active (wholeAudio first List.mem_cons_self) opens

/-- The pages before the seek point, the first one from there on, and the rest. -/
theorem exists_fromSeek (found : recording.fromSeek seekMs ≠ []) :
    ∃ before page rest, recording.audio = before ++ page :: rest ∧
      recording.fromSeek seekMs = page :: rest ∧
        (∀ early ∈ before, (pageOf early).granule < seekMs.toNat * 48) ∧
          seekMs.toNat * 48 ≤ (pageOf page).granule := by
  obtain ⟨page, rest, cons⟩ := List.exists_cons_of_ne_nil found
  refine ⟨recording.audio.takeWhile fun page => (pageOf page).granule < seekMs.toNat * 48, page,
    rest, ?_, cons, fun early member => by simpa using List.mem_takeWhile_imp member, ?_⟩
  · rw [← cons, fromSeek, List.takeWhile_append_dropWhile]
  · have stops := List.head?_dropWhile_not
      (fun page => decide ((pageOf page).granule < seekMs.toNat * 48)) recording.audio
    rw [show recording.audio.dropWhile _ = page :: rest from cons] at stops
    simpa using stops

/-- Each page has bytes enough for the steps it takes. -/
theorem enough_steps {before rest : List Bytes} {page : Bytes}
    (audio : recording.audio = before ++ page :: rest) :
    ∃ extra, 2 * recording.bytes.length + 2 =
      recording.further.length + (before.length + (2 * rest.length + extra + 2) + 1) + 1 := by
  have longer := length_le_flatten recording.whole
  have count : (recording.head :: recording.further ++ recording.audio).length =
      1 + recording.further.length + before.length + 1 + rest.length := by
    rw [audio]
    simp
    omega
  rw [count, ← bytes] at longer
  exact ⟨2 * recording.bytes.length + 2 -
    (recording.further.length + (before.length + (2 * rest.length + 2) + 1) + 1), by omega⟩

/-- With enough steps the pages from the seek point on are sent after the headers. -/
theorem pumpOgg_recording {pipe : Pipe} (active : pipe.shutdown = false)
    (small : seekMs * opusRate ≤ u64Max) (found : recording.fromSeek seekMs ≠ []) :
    pumpOgg recording.bytes seekMs pipe =
      (.ended (.ok ()),
        (recording.fromSeek seekMs).foldl Pipe.send
          (pipe.setHeaders (recording.head ++ recording.tagsPage))) := by
  obtain ⟨before, page, rest, audio, cons, early, reached⟩ := exists_fromSeek found
  obtain ⟨extra, enough⟩ := recording.enough_steps audio
  have whole : ∀ page ∈ recording.audio, WellFormed page := fun page member =>
    recording.whole page (List.mem_append_right _ member)
  rw [audio] at whole
  obtain ⟨wholeBefore, whole⟩ := List.forall_mem_append.mp whole
  obtain ⟨first, whole⟩ := List.forall_mem_cons.mp whole
  have nonempty : recording.audio ≠ [] := by simp [audio]
  rw [pumpOgg, seekBase_eq small, enough, pumpFrom_start active nonempty, audio,
    List.flatten_append, Nat.add_assoc, pumpFrom_early active wholeBefore early, List.flatten_cons,
    cons]
  exact pumpFrom_reached active first whole reached

end Recording

/-- Nothing is sent in the seek loop while no page at the seek point is read. -/
theorem silent_seeking {base rounds : Nat} {opening input : Bytes} {pipe : Pipe}
    (early : ∀ page ∈ (readPages input).1, page.granule < base) :
    (pumpFrom base rounds (.seeking opening) input pipe).2 = pipe := by
  induction rounds generalizing input with
  | zero => rfl
  | succ rounds ih =>
      cases read : readOggPage input with
      | error => simp [pumpFrom, Pump.watches, read]
      | ok found =>
          cases found with
          | none => simp [pumpFrom, Pump.watches, read]
          | some found =>
              obtain ⟨page, rest⟩ := found
              rw [readPages_of_read read] at early
              obtain ⟨before, early⟩ := List.forall_mem_cons.mp early
              simpa [pumpFrom, Pump.watches, read, Pump.readPage, Pump.seek, before] using ih early

/-- Nothing is sent in the headers loop, and in the seek loop after it, while no page at the seek
point is read. -/
theorem silent_headers {base rounds : Nat} {head : Option Bytes} {seq input : Bytes} {pipe : Pipe}
    (early : ∀ page ∈ (readPages input).1.dropWhile OggPage.isHeader, page.granule < base) :
    (pumpFrom base rounds (.headers head seq) input pipe).2 = pipe := by
  induction rounds generalizing head seq input with
  | zero => rfl
  | succ rounds ih =>
      cases read : readOggPage input with
      | error => simp [pumpFrom, Pump.watches, read]
      | ok found =>
          cases found with
          | none => simp [pumpFrom, Pump.watches, read]
          | some found =>
              obtain ⟨page, rest⟩ := found
              rw [readPages_of_read read] at early
              cases isHeader : page.isHeader with
              | true =>
                  rw [List.dropWhile_cons_of_pos isHeader] at early
                  cases head <;>
                    simpa [pumpFrom, Pump.watches, read, Pump.readPage, isHeader] using ih early
              | false =>
                  rw [List.dropWhile_cons_of_neg (by simp [isHeader])] at early
                  obtain ⟨before, early⟩ := List.forall_mem_cons.mp early
                  cases head with
                  | none =>
                      cases rounds <;> simp [pumpFrom, Pump.watches, read, Pump.readPage, isHeader]
                  | some head =>
                      simpa [pumpFrom, Pump.watches, read, Pump.readPage, isHeader, Pump.seek,
                        before] using silent_seeking early

theorem Recording.tagsPage_wellFormed (recording : Recording) : WellFormed recording.tagsPage := by
  have field {page : Bytes} (whole : WellFormed page) {skipped : Nat} (inside : skipped ≤ 18) :
      ((page.drop skipped).take 4).length = 4 := by
    have header := whole.header
    unfold oggPageHeaderLen at header
    rw [List.length_take, List.length_drop]
    omega
  refine emptyTagsPage_wellFormed
    (field (recording.whole _ List.mem_cons_self) (by decide)) ?_
  rw [tagsSeq]
  cases last : recording.further.getLast? with
  | none => rfl
  | some page =>
      have member : page ∈ recording.head :: recording.further ++ recording.audio :=
        List.mem_append_left _ (List.mem_cons_of_mem _ (List.mem_of_getLast? last))
      exact field (recording.whole page member) (by decide)

/-- The pump sets the headers to the first header page and an empty tags page, sends every page from
the seek point to the end, and this is read back as it is.  Of an input which ends before a page at
the seek point nothing is sent. -/
theorem pump_sends_from_the_seek_point :
    (∀ (recording : Recording) (seekMs : Int) (pipe : Pipe), pipe.shutdown = false →
      seekMs * opusRate ≤ u64Max → recording.fromSeek seekMs ≠ [] →
        let headers := recording.head ++ recording.tagsPage
        pumpOgg recording.bytes seekMs pipe =
            (.ended (.ok ()),
              (recording.fromSeek seekMs).foldl Pipe.send (pipe.setHeaders headers)) ∧
          (pumpOgg recording.bytes seekMs pipe).2.sent =
              pipe.sent ++ headers :: recording.fromSeek seekMs ∧
            readPages (headers :: recording.fromSeek seekMs).flatten =
              ((recording.head :: recording.tagsPage :: recording.fromSeek seekMs).map pageOf,
                .ok ())) ∧
      ∀ (input : Bytes) (seekMs : Int) (pipe : Pipe),
        (∀ page ∈ (readPages input).1.dropWhile OggPage.isHeader,
          page.granule < seekBase seekMs) →
          (pumpOgg input seekMs pipe).2 = pipe := by
  constructor
  · intro recording seekMs pipe active small found headers
    have pumped := Recording.pumpOgg_recording active small found
    refine ⟨pumped, ?_, ?_⟩
    · rw [pumped, sent_foldl_send]
      simp [Pipe.setHeaders, headers]
    · have whole : ∀ page ∈ recording.head :: recording.tagsPage :: recording.fromSeek seekMs,
          WellFormed page := by
        refine List.forall_mem_cons.mpr ⟨recording.whole _ List.mem_cons_self,
          List.forall_mem_cons.mpr ⟨recording.tagsPage_wellFormed, fun page member => ?_⟩⟩
        have audio : page ∈ recording.audio := List.dropWhile_subset _ member
        exact recording.whole page (List.mem_append_right _ audio)
      rw [← readPages_flatten whole]
      simp [headers]
  · exact fun input seekMs pipe early => silent_headers early

/-- A page of one segment. -/
def testPage (granule : Bytes) (payload : UInt8) : Bytes :=
  oggS ++ [0, 0] ++ granule ++ List.replicate 12 0 ++ [1, 1, payload]

/-- Two header pages, one second and two seconds of audio. -/
def testRecording : Recording where
  head := testPage (List.replicate 8 0) 1
  further := [testPage (List.replicate 8 0) 2]
  audio := [testPage [128, 187, 0, 0, 0, 0, 0, 0] 3, testPage [0, 119, 1, 0, 0, 0, 0, 0] 4]
  whole := by decide
  headers := by decide
  opens := by decide

theorem testRecording_pumped :
    (pumpOgg testRecording.bytes 1500 (Pipe.new fileBacklog)).2.sent =
        [testRecording.head ++ testRecording.tagsPage, testPage [0, 119, 1, 0, 0, 0, 0, 0] 4] ∧
      (pumpOgg testRecording.bytes 3000 (Pipe.new fileBacklog)).2 = Pipe.new fileBacklog := by
  obtain ⟨sends, silent⟩ := pump_sends_from_the_seek_point
  obtain ⟨-, sent, -⟩ := sends testRecording 1500 (Pipe.new fileBacklog) rfl (by decide) (by decide)
  exact ⟨sent, silent _ _ _ (by decide)⟩

end Togewire.Stream
