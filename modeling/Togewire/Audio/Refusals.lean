import Mathlib.Data.Finset.SDiff
import Mathlib.Data.List.AList
import Mathlib.Logic.Function.Basic
import Togewire.Foundation.Transition

/-!
# Formats the account is refused

A fetch goes through the files of the track and of its alternatives.  Once it has acquired one, the
formats whose keys it was refused on the way are skipped for the rest of the session.  They are the
plan's refusals, not a track's, unless the fetch was also granted a key for the same format.
-/

namespace Togewire.Audio.Refusals

open Transition

/-! ## Candidates -/

/-- The formats of Spotify's files which are played. -/
inductive AudioFileFormat
  | flacFlac24Bit | flacFlac
  | oggVorbis320 | oggVorbis160 | oggVorbis96
  | aac320 | mp3320 | mp3256 | mp3160 | aac160 | mp4128 | mp396 | aac48 | aac24
  /-- The formats without a known container. -/
  | unranked (code : Nat)
deriving DecidableEq

/-- `EncodedKind` -/
inductive EncodedKind
  | flac | oggVorbis | other
deriving DecidableEq

/-- `LibrespotError` -/
inductive LibrespotError
  | auth (message : String)
  | other (message : String)

/-- A file which may be tried: whose it is, and in which format. -/
structure Candidate where
  spotifyId : String
  fileId : String
  format : AudioFileFormat
  kind : EncodedKind

/-- The files of a track, by format. -/
abbrev Files := AList fun _ : AudioFileFormat => String

/-- What an alternative is named by. -/
inductive SpotifyUri
  | track (id : String)
  | other

/-- An alternative, and its files unless its metadata cannot be had. -/
structure Alternative where
  uri : SpotifyUri
  files : Option Files

/-- The files of a track, and those of its alternatives. -/
structure Metadata where
  files : Files
  alternatives : List Alternative

/-- `PRIORITIES` -/
def priorities : List (AudioFileFormat × EncodedKind) :=
  [(.flacFlac24Bit, .flac), (.flacFlac, .flac), (.oggVorbis320, .oggVorbis),
    (.oggVorbis160, .oggVorbis), (.oggVorbis96, .oggVorbis), (.aac320, .other), (.mp3320, .other),
    (.mp3256, .other), (.mp3160, .other), (.aac160, .other), (.mp4128, .other), (.mp396, .other),
    (.aac48, .other), (.aac24, .other)]

/-- Best format first; formats without a known container last. -/
def candidateFiles (spotifyId : String) (files : Files) : List Candidate :=
  let ranked := priorities.filterMap fun (format, kind) =>
    (files.lookup format).map fun fileId => ⟨spotifyId, fileId, format, kind⟩
  let unranked := (files.entries.filter fun row => !priorities.any fun known => known.1 = row.1).map
    fun row => ⟨spotifyId, row.2, row.1, .other⟩
  ranked ++ unranked

/-- The files of an alternative, if it is a track. -/
def Alternative.candidates (alternative : Alternative) : List Candidate :=
  match alternative.uri, alternative.files with
  | .track id, some files => candidateFiles id files
  | _, _ => []

/-- The files of the track and then of its alternatives. -/
def resolvePlayable (uri : Except String SpotifyUri) (metadata : Except LibrespotError Metadata) :
    Except LibrespotError (List Candidate) := do
  let uri ← uri.mapError fun error => .other ("bad track uri: " ++ error)
  let metadata ← metadata
  match uri with
  | .other => throw (.other "not a track uri")
  | .track primaryId =>
      let out := candidateFiles primaryId metadata.files ++
        metadata.alternatives.flatMap Alternative.candidates
      if out.isEmpty then throw (.other "no playable audio files on track or alternatives")
      else pure out

/-! ## The loop over the candidates -/

/-- The kinds of an error which are not `Unavailable` are treated alike. -/
inductive ErrorKind
  | unavailable | other
deriving DecidableEq

/-- What the request for a key and the opening of the file come to, if they are made. -/
structure Answer where
  key : Except (ErrorKind × String) Unit
  opened : Except String Unit

/-- A candidate which was tried, and what became of it. -/
structure Trial where
  candidate : Candidate
  answer : Answer

namespace Trial

def format (trial : Trial) : AudioFileFormat := trial.candidate.format

/-- The key has been granted. -/
def granted (trial : Trial) : Bool := trial.answer.key.isOk

/-- A refusal, not a timeout or a dropped connection. -/
def refused (trial : Trial) : Bool :=
  match trial.answer.key with
  | .error (.unavailable, _) => true
  | _ => false

def acquired (trial : Trial) : Bool := trial.granted && trial.answer.opened.isOk

end Trial

/-- What the loop over the candidates keeps. -/
structure Search where
  lastErr : String := "all candidate audio streams rejected"
  acquired : Option Candidate := none
  refusedHere : List AudioFileFormat := []

/-- The loop of `fetch_track_inner`. -/
def search (skipped : Finset AudioFileFormat) : List Trial → Search → Search
  | [], found => found
  | ⟨candidate, answer⟩ :: trials, found =>
      if candidate.format ∈ skipped then
        search skipped trials found
      else
        match answer.key with
        | .error (.unavailable, error) =>
            search skipped trials { found with
              refusedHere := found.refusedHere ++ [candidate.format], lastErr := error }
        | .error (.other, error) => search skipped trials { found with lastErr := error }
        | .ok () =>
            match answer.opened with
            | .ok () => { found with acquired := some candidate }
            | .error error =>
                search skipped trials { found with lastErr := "audio open: " ++ error }

/-- The candidates which are tried: those not skipped, up to the first which is acquired. -/
def tried (skipped : Finset AudioFileFormat) : List Trial → List Trial
  | [] => []
  | trial :: trials =>
      if trial.format ∈ skipped then tried skipped trials
      else if trial.acquired then [trial]
      else trial :: tried skipped trials

theorem acquired_search (skipped : Finset AudioFileFormat) (trials : List Trial) (found : Search)
    (begun : found.acquired = none) :
    (search skipped trials found).acquired =
      ((tried skipped trials).find? Trial.acquired).map Trial.candidate := by
  induction trials generalizing found with
  | nil => exact begun
  | cons trial trials ih =>
      obtain ⟨candidate, key, opened⟩ := trial
      by_cases passed : candidate.format ∈ skipped
      · simpa [search, tried, Trial.format, passed] using ih found begun
      · match key, opened with
        | .error (.unavailable, _), _ | .error (.other, _), _ | .ok (), .error _ =>
            simp [search, tried, Trial.format, passed, Trial.acquired, Trial.granted, Except.isOk,
              Except.toBool, ih, begun]
        | .ok (), .ok () =>
            simp [search, tried, Trial.format, passed, Trial.acquired, Trial.granted, Except.isOk,
              Except.toBool]

theorem refusedHere_search (skipped : Finset AudioFileFormat) (trials : List Trial)
    (found : Search) :
    (search skipped trials found).refusedHere =
      found.refusedHere ++ ((tried skipped trials).filter Trial.refused).map Trial.format := by
  induction trials generalizing found with
  | nil => exact (List.append_nil _).symm
  | cons trial trials ih =>
      obtain ⟨candidate, key, opened⟩ := trial
      by_cases passed : candidate.format ∈ skipped
      · simpa [search, tried, Trial.format, passed] using ih found
      · match key, opened with
        | .error (.unavailable, _), _ | .error (.other, _), _ | .ok (), .error _ | .ok (), .ok () =>
            simp [search, tried, Trial.format, passed, Trial.acquired, Trial.granted,
              Trial.refused, Except.isOk, Except.toBool, List.filter_cons, ih]

/-! ## Fetches -/

/-- A fetch which has resolved its candidates, and what it skips. -/
structure Fetching where
  candidates : List Candidate
  skipped : Finset AudioFileFormat

/-- What a fetch has tried, and the formats it has added to the refused ones. -/
structure Record where
  tried : List Trial
  added : Finset AudioFileFormat

/-- Another format has been granted, and this one has not. -/
def Record.Evidence (record : Record) (format : AudioFileFormat) : Prop :=
  (∃ trial ∈ record.tried, trial.granted ∧ trial.format ≠ format) ∧
    ∀ trial ∈ record.tried, trial.format = format → trial.granted = false

instance (record : Record) (format : AudioFileFormat) : Decidable (record.Evidence format) :=
  inferInstanceAs (Decidable (_ ∧ _))

/-- Every format has been added on evidence. -/
def Record.OnEvidence (record : Record) : Prop := ∀ format ∈ record.added, record.Evidence format

instance (record : Record) : Decidable record.OnEvidence :=
  inferInstanceAs (Decidable (∀ format ∈ record.added, record.Evidence format))

namespace Fetching

/-- The candidates with what the requests for them come to. -/
def trials (fetching : Fetching) (answers : Nat → Answer) : List Trial :=
  fetching.candidates.zipIdx.map fun (candidate, index) => ⟨candidate, answers index⟩

/-- The trials of a fetch, as far as it goes. -/
def tried (fetching : Fetching) (answers : Nat → Answer) : List Trial :=
  Refusals.tried fetching.skipped (fetching.trials answers)

/-- The formats refused after the fetch, which adds to them once a file is acquired. -/
def commit (fetching : Fetching) (answers : Nat → Answer) (refused : Finset AudioFileFormat) :
    Finset AudioFileFormat :=
  let found := search fetching.skipped (fetching.trials answers) {}
  match found.acquired with
  | none => refused
  | some _ => refused ∪ found.refusedHere.toFinset

def record (fetching : Fetching) (answers : Nat → Answer) (refused : Finset AudioFileFormat) :
    Record where
  tried := fetching.tried answers
  added := fetching.commit answers refused \ refused

/-- If a file is acquired, no format not refused before has been both refused and granted. -/
def Consistent (fetching : Fetching) (answers : Nat → Answer) (refused : Finset AudioFileFormat) :
    Prop :=
  (∃ trial ∈ fetching.tried answers, trial.acquired) →
    ∀ trial ∈ fetching.tried answers, trial.refused → trial.format ∉ refused →
      ∀ other ∈ fetching.tried answers, other.format = trial.format → other.granted = false

instance (fetching : Fetching) (answers : Nat → Answer) (refused : Finset AudioFileFormat) :
    Decidable (fetching.Consistent answers refused) :=
  inferInstanceAs (Decidable (_ → _))

variable {fetching : Fetching} {answers : Nat → Answer} {refused : Finset AudioFileFormat}
  {format : AudioFileFormat}

theorem mem_added_iff : format ∈ (fetching.record answers refused).added ↔
    (∃ trial ∈ fetching.tried answers, trial.acquired) ∧ format ∉ refused ∧
      ∃ trial ∈ fetching.tried answers, trial.refused ∧ trial.format = format := by
  have acquired := acquired_search fetching.skipped (fetching.trials answers) {} rfl
  have refusals := refusedHere_search fetching.skipped (fetching.trials answers) {}
  rw [List.nil_append] at refusals
  change format ∈ fetching.commit answers refused \ refused ↔ _
  rw [Finset.mem_sdiff]
  unfold commit tried
  dsimp only
  rw [acquired]
  cases first : (Refusals.tried fetching.skipped (fetching.trials answers)).find?
      Trial.acquired with
  | none =>
      have nothing := List.find?_eq_none.mp first
      simp only [Option.map_none, and_not_self, false_iff]
      rintro ⟨⟨trial, member, got⟩, -⟩
      exact nothing trial member got
  | some trial =>
      have found : ∃ trial ∈ Refusals.tried fetching.skipped (fetching.trials answers),
          trial.acquired :=
        ⟨trial, List.mem_of_find?_eq_some first, List.find?_some first⟩
      simp only [Option.map_some, found, true_and, refusals, Finset.mem_union, List.mem_toFinset,
        List.mem_map, List.mem_filter, and_assoc]
      constructor
      · rintro ⟨recorded | refusal, fresh⟩
        · exact absurd recorded fresh
        · exact ⟨fresh, refusal⟩
      · rintro ⟨fresh, refusal⟩
        exact ⟨.inr refusal, fresh⟩

theorem granted_of_acquired {trial : Trial} (got : trial.acquired = true) :
    trial.granted = true :=
  (Bool.and_eq_true_iff.mp got).1

/-- Formats are added on evidence exactly if none of them has been granted as well. -/
theorem onEvidence_iff :
    (fetching.record answers refused).OnEvidence ↔ fetching.Consistent answers refused := by
  constructor
  · intro evidence acquired trial member refusal fresh other tried_too same
    have added : trial.format ∈ (fetching.record answers refused).added :=
      mem_added_iff.mpr ⟨acquired, fresh, trial, member, refusal, rfl⟩
    exact (evidence trial.format added).2 other tried_too same
  · intro consistent format added
    obtain ⟨acquired, fresh, trial, member, refusal, rfl⟩ := mem_added_iff.mp added
    have never_granted := consistent acquired trial member refusal fresh
    refine ⟨?_, never_granted⟩
    obtain ⟨best, tried_too, got⟩ := acquired
    have granted := granted_of_acquired got
    refine ⟨best, tried_too, granted, fun same => ?_⟩
    rw [never_granted best tried_too same] at granted
    cases granted

end Fetching

/-! ## Sessions -/

/-- What was refused in this session, and the fetches under way. -/
structure Fetcher where
  refused : Finset AudioFileFormat
  /-- The fetches which go through their candidates. -/
  fetching : Nat → Option Fetching
  /-- History: the fetches which have done so in this session. -/
  records : List Record

/-- What happens to the fetcher. -/
inductive Event
  /-- `ensure_session` has connected a new session. -/
  | connect
  /-- A fetch has a session and resolves its track. -/
  | resolve (task : Nat) (uri : Except String SpotifyUri)
      (metadata : Except LibrespotError Metadata)
  /-- A fetch goes through its candidates. -/
  | acquire (task : Nat) (answers : Nat → Answer)

namespace Fetcher

def resolve (fetcher : Fetcher) (task : Nat) : Except LibrespotError (List Candidate) → Fetcher
  | .error _ => fetcher
  | .ok candidates =>
      { fetcher with
        fetching := Function.update fetcher.fetching task (some ⟨candidates, fetcher.refused⟩) }

def acquire (fetcher : Fetcher) (task : Nat) (fetching : Fetching) (answers : Nat → Answer) :
    Fetcher where
  refused := fetching.commit answers fetcher.refused
  fetching := Function.update fetcher.fetching task none
  records := fetching.record answers fetcher.refused :: fetcher.records

/-- The effect of one event, if it can happen. -/
def step (fetcher : Fetcher) : Event → Option Fetcher
  | .connect => some { fetcher with refused := ∅, records := [] }
  | .resolve task uri metadata =>
      if fetcher.fetching task = none then
        some (fetcher.resolve task (resolvePlayable uri metadata))
      else
        none
  | .acquire task answers => (fetcher.fetching task).map fun fetching =>
      fetcher.acquire task fetching answers

/-- Sessions and fetches in any order. -/
def system : System Fetcher Event where
  initial fetcher := fetcher = ⟨∅, fun _ => none, []⟩
  step := step

/-- The fetch does not come to both a refusal and a grant of a format which it adds. -/
def Consistent (fetcher : Fetcher) : Event → Prop
  | .acquire task answers => ∀ fetching ∈ fetcher.fetching task,
      fetching.Consistent answers fetcher.refused
  | .connect | .resolve _ _ _ => True

instance (fetcher : Fetcher) : ∀ event, Decidable (fetcher.Consistent event)
  | .acquire _ _ => inferInstanceAs (Decidable (∀ fetching ∈ _, _))
  | .connect | .resolve _ _ _ => isTrue trivial

/-- Every refused format has been added on evidence, by a fetch of this session. -/
def Evident (fetcher : Fetcher) : Prop :=
  ∀ format ∈ fetcher.refused, ∃ record ∈ fetcher.records,
    format ∈ record.added ∧ record.Evidence format

variable {fetcher : Fetcher}

theorem Evident.acquire (evident : fetcher.Evident) (task : Nat) {fetching : Fetching}
    {answers : Nat → Answer} (consistent : fetching.Consistent answers fetcher.refused) :
    (fetcher.acquire task fetching answers).Evident := by
  intro format refused
  by_cases known : format ∈ fetcher.refused
  · obtain ⟨record, listed, evidence⟩ := evident format known
    exact ⟨record, List.mem_cons_of_mem _ listed, evidence⟩
  · have added : format ∈ (fetching.record answers fetcher.refused).added :=
      Finset.mem_sdiff.mpr ⟨refused, known⟩
    exact ⟨_, List.mem_cons_self, added, Fetching.onEvidence_iff.mpr consistent format added⟩

theorem evident_of_reachable (reach : system.ReachableUnder Consistent fetcher) :
    fetcher.Evident := by
  apply reach.invariant Evident
  · rintro fetcher rfl format refused
    exact absurd refused (Finset.notMem_empty format)
  · intro before event after _ evident consistent performed
    cases event with
    | connect =>
        obtain rfl := Option.some.inj performed
        exact fun format refused => absurd refused (Finset.notMem_empty format)
    | resolve task uri metadata =>
        obtain ⟨-, rfl⟩ := of_guarded performed
        unfold Fetcher.resolve
        split
        · exact evident
        · exact evident
    | acquire task answers =>
        obtain ⟨fetching, found, rfl⟩ := Option.map_eq_some_iff.mp performed
        exact evident.acquire task (consistent fetching found)

/-- A fetch adds its formats on evidence exactly if none of them has been granted as well.  As long
as that is so, every format skipped has been refused on evidence in this session. -/
theorem refused_on_evidence (fetching : Fetching) (answers : Nat → Answer)
    (refused : Finset AudioFileFormat) (fetcher : Fetcher) :
    ((fetching.record answers refused).OnEvidence ↔ fetching.Consistent answers refused) ∧
      (system.ReachableUnder Consistent fetcher → fetcher.Evident) :=
  ⟨Fetching.onEvidence_iff, evident_of_reachable⟩

private def start : Fetcher := ⟨∅, fun _ => none, []⟩

private def unavailable : Answer := ⟨.error (.unavailable, "Audio key error"), .ok ()⟩

private def granted : Answer := ⟨.ok (), .ok ()⟩

/-- A track with a FLAC file, and an Ogg file in 320 kbps. -/
private def lossless : Metadata where
  files := (AList.singleton AudioFileFormat.flacFlac "f").insert .oggVorbis320 "o"
  alternatives := []

/-- A track locked in the region, whose alternative has the same format. -/
private def regionLocked : Metadata where
  files := AList.singleton AudioFileFormat.oggVorbis320 "a"
  alternatives := [⟨.track "alternative", some (AList.singleton AudioFileFormat.oggVorbis320 "b")⟩]

private def fetch (metadata : Metadata) : List Event :=
  [.connect, .resolve 0 (.ok (.track "primary")) (.ok metadata),
    .acquire 0 fun index => if index = 0 then unavailable else granted]

theorem lossless_is_refused_on_evidence : (system.final start (fetch lossless) rfl).Evident :=
  (refused_on_evidence ⟨[], ∅⟩ (fun _ => granted) ∅ _).2
    (System.ReachableUnder.final rfl (by decide) rfl)

theorem granted_format_is_refused :
    .oggVorbis320 ∈ (system.final start (fetch regionLocked) rfl).refused ∧
      ∃ record ∈ (system.final start (fetch regionLocked) rfl).records, ¬ record.OnEvidence ∧
        ∃ trial ∈ record.tried, trial.granted ∧ trial.format = .oggVorbis320 := by
  decide

end Fetcher

end Togewire.Audio.Refusals
