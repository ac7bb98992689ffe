import Mathlib.Data.List.Basic

/-!
# When togedemon stops sending

What ffmpeg has encoded is the body of one long request.  The body ends with what ffmpeg writes, or
once there have been many small chunks in a row and no other one for some seconds: then nothing is
playing, and the server should go back to its cache.
-/

namespace Togewire.Daemon

/-- `SILENCE_TIMEOUT_SECS` -/
def silenceTimeoutSecs : Nat := 5

/-- `SILENCE_CHUNKS_LIMIT` -/
def silenceChunksLimit : Nat := 128

/-- `SILENT_CHUNK_BYTES` -/
def silentChunkBytes : Nat := 100

/-- What a read of ffmpeg's output gives, and when, in nanoseconds; nothing at its end. -/
structure Chunk where
  time : Nat
  bytes : List UInt8

/-- `SilenceCutoff`, without the reader which it wraps. -/
structure SilenceCutoff where
  silentChunks : Nat := 0
  lastAudio : Nat
  silenced : Bool := false
  deriving DecidableEq

/-- A request as it is sent. -/
structure Sent where
  /-- Its body, piece by piece. -/
  pieces : List (List UInt8)
  /-- Reading from ffmpeg has failed, and so has the request. -/
  failed : Bool

namespace SilenceCutoff

/-- The bytes which a read passes on, none of which end the body.  A read of ffmpeg which fails
(`none`) fails it. -/
def read (cutoff : SilenceCutoff) : Option Chunk → Option (List UInt8) × SilenceCutoff
  | none => (none, cutoff)
  | some chunk =>
      if silentChunkBytes ≤ chunk.bytes.length then
        (some chunk.bytes, { cutoff with silentChunks := 0, lastAudio := chunk.time })
      else if 0 < chunk.bytes.length then
        let counted := { cutoff with silentChunks := cutoff.silentChunks + 1 }
        if silenceChunksLimit < counted.silentChunks ∧
            silenceTimeoutSecs ≤ (chunk.time - counted.lastAudio) / 1000000000 then
          (some [], { counted with silenced := true })
        else
          (some chunk.bytes, counted)
      else
        (some chunk.bytes, cutoff)

/-- The request, whose body is read until nothing is passed on. -/
def body : SilenceCutoff → List (Option Chunk) → Sent × SilenceCutoff
  | cutoff, [] => (⟨[], false⟩, cutoff)
  | cutoff, input :: inputs =>
      match cutoff.read input with
      | (none, after) => (⟨[], true⟩, after)
      | (some [], after) => (⟨[], false⟩, after)
      | (some (byte :: bytes), after) =>
          let (rest, last) := after.body inputs
          (⟨(byte :: bytes) :: rest.pieces, rest.failed⟩, last)

end SilenceCutoff

/-! ## Silence -/

/-- With VBR, a chunk of silence is small. -/
def Chunk.small (chunk : Chunk) : Bool := chunk.bytes.length < 100

/-- The time of the last chunk which is not small; without one, the start. -/
def lastLoud (start : Nat) (before : List Chunk) : Nat :=
  ((before.reverse.find? fun chunk => !chunk.small).map Chunk.time).getD start

/-- How many small chunks come last. -/
def quiet (before : List Chunk) : Nat := (before.reverse.takeWhile Chunk.small).length

/-- After these chunks, a small one is too much. -/
structure TooQuiet (start : Nat) (before : List Chunk) (chunk : Chunk) : Prop where
  small : chunk.bytes.length < 100
  some_bytes : chunk.bytes ≠ []
  many : 128 ≤ quiet before
  long : 5 ≤ (chunk.time - lastLoud start before) / 1000000000

variable {start : Nat} {before : List Chunk} {chunk : Chunk}

@[simp] theorem lastLoud_append_small (small : chunk.small = true) :
    lastLoud start (before ++ [chunk]) = lastLoud start before := by
  simp [lastLoud, small]

@[simp] theorem lastLoud_append_loud (loud : chunk.small = false) :
    lastLoud start (before ++ [chunk]) = chunk.time := by
  simp [lastLoud, loud]

@[simp] theorem quiet_append_small (small : chunk.small = true) :
    quiet (before ++ [chunk]) = quiet before + 1 := by
  simp [quiet, small]

@[simp] theorem quiet_append_loud (loud : chunk.small = false) :
    quiet (before ++ [chunk]) = 0 := by
  simp [quiet, loud]

/-- The state after chunks which were passed on. -/
def SilenceCutoff.after (start : Nat) (before : List Chunk) : SilenceCutoff where
  silentChunks := quiet before
  lastAudio := lastLoud start before

theorem read_passed (some_bytes : chunk.bytes ≠ []) (heard : ¬TooQuiet start before chunk) :
    (SilenceCutoff.after start before).read (some chunk) =
      (some chunk.bytes, SilenceCutoff.after start (before ++ [chunk])) := by
  unfold SilenceCutoff.read
  dsimp only
  split
  · rename_i loud
    have loud : chunk.small = false := by simpa [Chunk.small, silentChunkBytes] using loud
    simp [SilenceCutoff.after, loud]
  · rename_i low
    have small : chunk.small = true := by simpa [Chunk.small, silentChunkBytes] using low
    rw [if_pos (List.length_pos_iff.mpr some_bytes), if_neg]
    · simp [SilenceCutoff.after, small]
    · rintro ⟨many, long⟩
      exact heard ⟨Nat.lt_of_not_le low, some_bytes, Nat.le_of_lt_succ many, long⟩

theorem read_cut (silence : TooQuiet start before chunk) :
    ∃ last, (SilenceCutoff.after start before).read (some chunk) = (some [], last) ∧
      last.silenced = true := by
  refine ⟨⟨quiet before + 1, lastLoud start before, true⟩, ?_, rfl⟩
  unfold SilenceCutoff.read
  dsimp only
  have low : ¬silentChunkBytes ≤ chunk.bytes.length := Nat.not_le.mpr silence.small
  rw [if_neg low, if_pos (List.length_pos_iff.mpr silence.some_bytes)]
  exact if_pos ⟨Nat.lt_succ_of_le silence.many, silence.long⟩

/-- How a request ends after these reads of ffmpeg: where they do, where one fails, where ffmpeg
has written all, or where it has become too quiet. -/
structure Ends (start : Nat) (inputs : List (Option Chunk)) (outcome : Sent × SilenceCutoff)
    (before passed : List Chunk) (rest : List (Option Chunk)) : Prop where
  spelled : inputs = passed.map some ++ rest
  sent : outcome.1.pieces = passed.map Chunk.bytes
  whole : ∀ chunk ∈ passed, chunk.bytes ≠ []
  /-- At no chunk before was it too quiet. -/
  heard : ∀ early chunk late, passed = early ++ chunk :: late →
    ¬TooQuiet start (before ++ early) chunk
  failed : outcome.1.failed = true ↔ ∃ more, rest = none :: more
  silenced : outcome.2.silenced = true ↔ ∃ chunk more, rest = some chunk :: more ∧
    TooQuiet start (before ++ passed) chunk
  last : ∀ chunk more, rest = some chunk :: more →
    chunk.bytes = [] ∨ TooQuiet start (before ++ passed) chunk

theorem body_ends (start : Nat) (before : List Chunk) (inputs : List (Option Chunk)) :
    ∃ passed rest, Ends start inputs ((SilenceCutoff.after start before).body inputs) before
      passed rest := by
  induction inputs generalizing before with
  | nil =>
      exact ⟨[], [], rfl, rfl, by simp, by simp, by simp [SilenceCutoff.body],
        by simp [SilenceCutoff.body, SilenceCutoff.after], by simp⟩
  | cons input inputs ih =>
      cases input with
      | none =>
          exact ⟨[], none :: inputs, rfl, rfl, by simp, by simp,
            by simp [SilenceCutoff.body, SilenceCutoff.read],
            by simp [SilenceCutoff.body, SilenceCutoff.read, SilenceCutoff.after], by simp⟩
      | some chunk =>
          by_cases nothing : chunk.bytes = []
          · have ended : (SilenceCutoff.after start before).read (some chunk) =
                (some [], SilenceCutoff.after start before) := by
              simp [SilenceCutoff.read, silentChunkBytes, nothing]
            rw [SilenceCutoff.body, ended]
            refine ⟨[], some chunk :: inputs, rfl, rfl, by simp, by simp, by simp, ?_, ?_⟩
            · simp only [SilenceCutoff.after, Bool.false_eq_true, false_iff]
              rintro ⟨other, more, same, silence⟩
              obtain ⟨⟨⟩, -⟩ := List.cons.inj same
              exact silence.some_bytes nothing
            · rintro other more same
              obtain ⟨⟨⟩, -⟩ := List.cons.inj same
              exact .inl nothing
          · by_cases silence : TooQuiet start before chunk
            · obtain ⟨last, cut, silenced⟩ := read_cut silence
              rw [SilenceCutoff.body, cut]
              refine ⟨[], some chunk :: inputs, rfl, rfl, by simp, by simp, by simp, ?_, ?_⟩
              · simpa [silenced] using silence
              · rintro other more same
                obtain ⟨⟨⟩, -⟩ := List.cons.inj same
                exact .inr (by simpa using silence)
            · obtain ⟨passed, rest, ends⟩ := ih (before ++ [chunk])
              have step : (SilenceCutoff.after start before).body (some chunk :: inputs) =
                  (⟨chunk.bytes ::
                      ((SilenceCutoff.after start (before ++ [chunk])).body inputs).1.pieces,
                    ((SilenceCutoff.after start (before ++ [chunk])).body inputs).1.failed⟩,
                    ((SilenceCutoff.after start (before ++ [chunk])).body inputs).2) := by
                obtain ⟨byte, bytes, spelled⟩ := List.exists_cons_of_ne_nil nothing
                rw [SilenceCutoff.body, read_passed nothing silence, spelled]
              rw [step]
              refine ⟨chunk :: passed, rest, by rw [ends.spelled]; rfl, by rw [ends.sent]; rfl,
                List.forall_mem_cons.mpr ⟨nothing, ends.whole⟩, ?_, ends.failed, ?_, ?_⟩
              · intro early other late split
                cases early with
                | nil =>
                    obtain ⟨rfl, -⟩ := List.cons.inj split
                    simpa using silence
                | cons first early =>
                    obtain ⟨rfl, tail⟩ := List.cons.inj split
                    simpa using ends.heard early other late tail
              · simpa using ends.silenced
              · simpa using ends.last

/-- The body is what ffmpeg writes, byte for byte, as long as it goes on writing and it is not too
quiet; and togedemon takes the end for silence exactly when it was. -/
theorem body_ends_in_silence (start : Nat) (inputs : List (Option Chunk)) :
    ∃ passed rest, Ends start inputs
      (SilenceCutoff.body { lastAudio := start } inputs) [] passed rest :=
  body_ends start [] inputs

end Togewire.Daemon
