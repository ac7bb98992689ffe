import Togewire.Foundation.Window
import Togewire.Stream.Framing

/-!
# Bursts

A new listener is handed the last pages sent, as many as fit.  The trimming loop goes by a running
byte count and looks at no page but the oldest; as no page is longer than the limit, the last one
always stays.
-/

namespace Togewire.Stream

open Window

/-- The trimming loop keeps a window of pages, weighed by their lengths. -/
theorem trimBurst_eq_trim (burst : List Bytes) (burstLen : Nat) :
    trimBurst burst burstLen = trim List.length maxBurstBuffer burst burstLen := by
  induction burst generalizing burstLen with
  | nil => rfl
  | cons old burst ih => rw [trimBurst, trim, ih]

/-! ## Checked sends -/

/-- `usize::MAX` -/
def usizeMax : Nat := 2 ^ 64 - 1

/-- `send` where a byte count out of its range is caught. -/
def Pipe.sendChecked (pipe : Pipe) (page : Bytes) : Option Pipe := do
  let burstLen := pipe.stored.burstLen + page.length
  if usizeMax < burstLen then
    none
  else
    let trimmed ← trimChecked List.length maxBurstBuffer (pipe.stored.burst ++ [page]) burstLen
    some
      { pipe with
        stored := { pipe.stored with burst := trimmed.1, burstLen := trimmed.2 }
        sent := pipe.sent ++ [page] }

def Pipe.callChecked (pipe : Pipe) : Call → Option Pipe
  | .setHeaders headers => some (pipe.setHeaders headers)
  | .send page => pipe.sendChecked page

def Pipe.callsChecked : Pipe → List Call → Option Pipe
  | pipe, [] => some pipe
  | pipe, call :: calls => (pipe.callChecked call).bind fun pipe => pipe.callsChecked calls

/-! ## One send -/

/-- The pages sent by some calls, oldest first. -/
def pagesSent (calls : List Call) : List Bytes :=
  calls.filterMap fun
    | .setHeaders _ => none
    | .send page => some page

/-- A page that `read_ogg_page` can produce. -/
def Readable (page : Bytes) : Prop :=
  ∃ input rest found, readOggPage input = .ok (some (found, rest)) ∧ found.data = page

theorem readable_iff {page : Bytes} : Readable page ↔ WellFormed page := by
  constructor
  · rintro ⟨input, rest, found, read, rfl⟩
    exact (wellFormed_of_readOggPage read).1
  · intro whole
    exact ⟨page ++ [], [], pageOf page, readOggPage_append whole [], rfl⟩

theorem Readable.length_le {page : Bytes} (readable : Readable page) :
    page.length ≤ maxPageLen := by
  have whole := readable_iff.mp readable
  exact whole.framed.short

/-- The burst is the window of the pages sent, and counted. -/
structure Pipe.Holds (pipe : Pipe) (pages : List Bytes) : Prop where
  counted : pipe.stored.burstLen = total List.length pipe.stored.burst
  longest : Longest List.length maxBurstBuffer pages pipe.stored.burst

section Send

variable {pipe : Pipe} {pages : List Bytes} {page : Bytes}

theorem holds_new (backlog : Nat) : (Pipe.new backlog).Holds [] where
  counted := rfl
  longest := longest_nil List.length maxBurstBuffer

theorem Pipe.Holds.counted_concat (holds : pipe.Holds pages) (page : Bytes) :
    pipe.stored.burstLen + page.length = total List.length (pipe.stored.burst ++ [page]) := by
  rw [holds.counted, total_append, total_cons, total_nil]
  rfl

/-- The burst with the new page is trimmed by its own weight. -/
theorem Pipe.Holds.trimBurst_concat (holds : pipe.Holds pages) (page : Bytes) :
    trimBurst (pipe.stored.burst ++ [page]) (pipe.stored.burstLen + page.length) =
      trim List.length maxBurstBuffer (pipe.stored.burst ++ [page])
        (total List.length (pipe.stored.burst ++ [page])) := by
  rw [trimBurst_eq_trim, holds.counted_concat]

theorem Pipe.Holds.send (holds : pipe.Holds pages) (page : Bytes) :
    (pipe.send page).Holds (pages ++ [page]) where
  counted := by
    rw [Pipe.send, holds.trimBurst_concat]
    exact snd_trim_total _
  longest := by
    rw [Pipe.send, holds.trimBurst_concat]
    exact holds.longest.concat (longest_trim_total _)

/-- The byte count stays in range. -/
theorem Pipe.Holds.sendChecked_eq (holds : pipe.Holds pages) (short : page.length ≤ maxPageLen) :
    pipe.sendChecked page = some (pipe.send page) := by
  have within := holds.longest.within
  have room : ¬ usizeMax < pipe.stored.burstLen + page.length := by
    rw [holds.counted]
    unfold maxBurstBuffer at within
    unfold maxPageLen at short
    unfold usizeMax
    omega
  rw [Pipe.sendChecked, if_neg room, Pipe.send, holds.trimBurst_concat, holds.counted_concat,
    trimChecked_total]
  rfl

end Send

/-! ## A whole run -/

theorem Pipe.Holds.calls {pipe : Pipe} {pages : List Bytes} {calls : List Call}
    (holds : pipe.Holds pages) (short : ∀ page ∈ pagesSent calls, page.length ≤ maxPageLen) :
    (pipe.calls calls).Holds (pages ++ pagesSent calls) ∧
      pipe.callsChecked calls = some (pipe.calls calls) := by
  induction calls generalizing pipe pages with
  | nil =>
      rw [pagesSent, List.filterMap_nil, List.append_nil]
      exact ⟨holds, rfl⟩
  | cons call calls ih =>
      cases call with
      | setHeaders headers => exact ih ⟨holds.counted, holds.longest⟩ short
      | send page =>
          obtain ⟨first, rest⟩ := List.forall_mem_cons.mp short
          obtain ⟨later, checked⟩ := ih (holds.send page) rest
          rw [List.append_assoc] at later
          refine ⟨later, ?_⟩
          rw [Pipe.callsChecked, Pipe.callChecked, holds.sendChecked_eq first]
          exact checked

/-- After every send the burst is the longest tail of the pages sent which fits, and is counted
exactly; the page just sent is in it, and the byte count has never left its range. -/
theorem burst_longest (backlog : Nat) {calls : List Call}
    (readable : ∀ page ∈ pagesSent calls, Readable page) :
    let pipe := (Pipe.new backlog).calls calls
    pipe.stored.burstLen = (pipe.stored.burst.map List.length).sum ∧
      Longest List.length maxBurstBuffer (pagesSent calls) pipe.stored.burst ∧
      pipe.stored.burst.getLast? = (pagesSent calls).getLast? ∧
      (Pipe.new backlog).callsChecked calls = some pipe ∧
      ∀ page ∈ pagesSent calls, page.length ≤ 65307 := by
  have short : ∀ page ∈ pagesSent calls, page.length ≤ maxPageLen :=
    fun page member => (readable page member).length_le
  obtain ⟨holds, checked⟩ := (holds_new backlog).calls short
  rw [List.nil_append] at holds
  refine ⟨holds.counted, holds.longest, ?_, checked, short⟩
  have longest := holds.longest
  rcases List.eq_nil_or_concat' (pagesSent calls) with empty | ⟨before, last, split⟩
  · rw [empty] at longest ⊢
    rw [List.suffix_nil.mp longest.tail]
  · rw [split] at longest short ⊢
    have light : last.length ≤ maxBurstBuffer :=
      (short last (by simp)).trans (by decide)
    obtain ⟨front, ends⟩ := longest.ends light
    rw [← ends, List.getLast?_concat, List.getLast?_concat]

theorem testRecording_burst_longest :
    let calls := testRecording.audio.map Call.send
    let pipe := (Pipe.new fileBacklog).calls calls
    pipe.stored.burstLen = (pipe.stored.burst.map List.length).sum ∧
      Longest List.length maxBurstBuffer (pagesSent calls) pipe.stored.burst ∧
      pipe.stored.burst.getLast? = (pagesSent calls).getLast? ∧
      (Pipe.new fileBacklog).callsChecked calls = some pipe ∧
      ∀ page ∈ pagesSent calls, page.length ≤ 65307 := by
  apply burst_longest fileBacklog
  intro page member
  have sent : pagesSent (testRecording.audio.map Call.send) = testRecording.audio := rfl
  rw [sent] at member
  exact readable_iff.mpr (testRecording.whole page (List.mem_append_right _ member))

end Togewire.Stream
