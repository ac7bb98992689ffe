import Togewire.Audio.Prepare

/-!
# No download is repeated needlessly

Only the leader for a track downloads it, records the outcome and ends the track's flight, and
nobody else caches it.  So what a leader finds out under the download lock, that its track is
neither cached nor cooling down, still holds when its download starts, although the cache and the
cooldowns have locks of their own.
-/

namespace Togewire.Audio

open Interleaving Transition

namespace Preparer

/-- The cache has no entry for a track. -/
def Absent (preparer : Preparer) (id : String) : Prop := preparer.cache.entries.lookup id = none

/-- A track's cooldown has not lapsed. -/
def Cooling (preparer : Preparer) (id : String) : Prop :=
  ∃ deadline, preparer.failed.lookup id = some deadline ∧ preparer.instant < deadline

/-- The failure of a track's last download, if it failed, has been noted. -/
def Recorded (preparer : Preparer) (id : String) : Prop :=
  preparer.last id ≠ some (.failed none)

/-- Whatever became of a track's last download, it may be repeated. -/
def Lapsed (preparer : Preparer) (id : String) : Prop :=
  match preparer.last id with
  | none => True
  | some .stored => preparer.Absent id
  | some (.failed deadline) => ∃ lapsed, deadline = some lapsed ∧ lapsed ≤ preparer.instant

/-- A download may start: the track is not cached, not cooling down, and since its last download
its entry has been lost or its cooldown has lapsed. -/
structure Due (preparer : Preparer) (id : String) : Prop where
  uncached : preparer.cache.holds id = false
  cooled : ¬ preparer.Cooling id
  lapsed : preparer.Lapsed id

/-- A track whose last download failed is absent, and its cooldown is known while it lasts. -/
structure Sound (preparer : Preparer) (id : String) : Prop where
  absent : ∀ deadline, preparer.last id = some (.failed deadline) → preparer.Absent id
  cooling : ∀ deadline, preparer.last id = some (.failed (some deadline)) →
    preparer.instant < deadline → preparer.failed.lookup id = some deadline

/-- A result agrees with the history of its track. -/
def Records (preparer : Preparer) (id : String) : Result → Prop
  | .ok _ => ∀ deadline, preparer.last id ≠ some (.failed deadline)
  | .error .busy => preparer.Recorded id
  | .error .noSource | .error (.failed _) => preparer.last id = some (.failed none)

/-- What a leader knows of its track. -/
def Fits (preparer : Preparer) : Phase → Prop
  | .away => True
  | .leading id | .locked id | .settled id => preparer.Recorded id
  | .uncached id | .downloading id => preparer.Recorded id ∧ preparer.Absent id
  | .due id => preparer.Recorded id ∧ preparer.Absent id ∧ ¬ preparer.Cooling id
  | .stored id => preparer.last id = some .stored
  | .done id result | .settling id result => preparer.Records id result

/-- Nothing that a leader knows of a track has changed. -/
structure Leaves (before after : Preparer) (id : String) : Prop where
  last : after.last id = before.last id
  absent : before.Absent id → after.Absent id
  kept : ∀ deadline, after.instant < deadline → before.failed.lookup id = some deadline →
    after.failed.lookup id = some deadline
  cooling : after.Cooling id → before.Cooling id
  instant : before.instant ≤ after.instant

variable {preparer after : Preparer} {id : String}

theorem Leaves.sound (leaves : preparer.Leaves after id) (sound : preparer.Sound id) :
    after.Sound id where
  absent deadline failed := by
    rw [leaves.last] at failed
    exact leaves.absent (sound.absent deadline failed)
  cooling deadline failed pending := by
    rw [leaves.last] at failed
    exact leaves.kept deadline pending
      (sound.cooling deadline failed (Nat.lt_of_le_of_lt leaves.instant pending))

theorem Leaves.recorded (leaves : preparer.Leaves after id) (recorded : preparer.Recorded id) :
    after.Recorded id := by
  rw [Recorded, leaves.last]
  exact recorded

theorem Leaves.records {result : Result} (leaves : preparer.Leaves after id)
    (records : preparer.Records id result) : after.Records id result := by
  match result with
  | .ok _ => rw [Records, leaves.last]; exact records
  | .error .busy => exact leaves.recorded records
  | .error .noSource | .error (.failed _) => rw [Records, leaves.last]; exact records

theorem Fits.leaves {phase : Phase} (fits : preparer.Fits phase)
    (leaves : ∀ id, phase.leads = some id → preparer.Leaves after id) : after.Fits phase := by
  cases phase with
  | away => trivial
  | leading id | locked id | settled id => exact (leaves id rfl).recorded fits
  | uncached id | downloading id =>
      exact ⟨(leaves id rfl).recorded fits.1, (leaves id rfl).absent fits.2⟩
  | due id =>
      obtain ⟨recorded, absent, cooled⟩ := fits
      have kept := leaves id rfl
      exact ⟨kept.recorded recorded, kept.absent absent,
        fun cooling => cooled (kept.cooling cooling)⟩
  | stored id => exact (leaves id rfl).last.trans fits
  | done id result | settling id result => exact (leaves id rfl).records fits

/-- The invariant of all interleavings. -/
structure Exclusive (preparer : Preparer) (phases : Nat → Phase) : Prop where
  leads : ∀ task id, (phases task).leads = some id ↔ preparer.inFlight id = some task
  lock : ∀ task, (phases task).holdsLock = true ↔ preparer.downloadLock = some task
  fits : ∀ task, preparer.Fits (phases task)
  sound : ∀ id, preparer.Sound id
  resting : ∀ id, preparer.inFlight id = none → preparer.Recorded id

variable {phases : Nat → Phase} {actor : Nat} {op : Op} {answer : op.Answer} {input : Input}
  {next : Phase}

/-- A step of a call that keeps its lead: it may change what concerns its own track. -/
theorem Exclusive.update (exclusive : preparer.Exclusive phases)
    (inFlight : after.inFlight = preparer.inFlight) (leads : next.leads = (phases actor).leads)
    (lock : ∀ task, (Function.update phases actor next task).holdsLock = true ↔
      after.downloadLock = some task)
    (others : ∀ id, (phases actor).leads ≠ some id → preparer.Leaves after id)
    (own : after.Fits next) (sound : ∀ id, (phases actor).leads = some id → after.Sound id) :
    after.Exclusive (Function.update phases actor next) where
  leads := by
    rw [inFlight]
    refine (Function.forall_update_iff phases fun task phase => ∀ id, phase.leads = some id ↔
      preparer.inFlight id = some task).mpr ⟨?_, fun task _ => exclusive.leads task⟩
    rw [leads]
    exact exclusive.leads actor
  lock := lock
  fits := by
    refine (Function.forall_update_iff phases fun _ phase => after.Fits phase).mpr ⟨own, ?_⟩
    intro task different
    refine (exclusive.fits task).leaves fun id led => others id fun mine => ?_
    have same := (exclusive.leads task id).mp led
    rw [(exclusive.leads actor id).mp mine] at same
    exact different (Option.some.inj same).symm
  sound id := by
    by_cases mine : (phases actor).leads = some id
    · exact sound id mine
    · exact (others id mine).sound (exclusive.sound id)
  resting id free := by
    rw [inFlight] at free
    refine (others id fun mine => ?_).recorded (exclusive.resting id free)
    rw [(exclusive.leads actor id).mp mine] at free
    cases free

/-- The download lock stays with whoever has it. -/
theorem Exclusive.keepsLock (exclusive : preparer.Exclusive phases)
    (downloadLock : after.downloadLock = preparer.downloadLock)
    (holds : next.holdsLock = (phases actor).holdsLock) (task : Nat) :
    (Function.update phases actor next task).holdsLock = true ↔
      after.downloadLock = some task := by
  rw [downloadLock, ← exclusive.lock task]
  by_cases mine : task = actor
  · subst mine
    rw [Function.update_self, holds]
  · rw [Function.update_of_ne mine]

theorem Exclusive.keep (exclusive : preparer.Exclusive phases)
    (inFlight : after.inFlight = preparer.inFlight)
    (downloadLock : after.downloadLock = preparer.downloadLock)
    (leads : next.leads = (phases actor).leads)
    (holds : next.holdsLock = (phases actor).holdsLock)
    (leaves : ∀ id, preparer.Leaves after id) (own : after.Fits next) :
    after.Exclusive (Function.update phases actor next) :=
  exclusive.update inFlight leads (exclusive.keepsLock downloadLock holds) (fun id _ => leaves id)
    own fun id _ => (leaves id).sound (exclusive.sound id)

theorem leaves_of_eq (last : after.last id = preparer.last id)
    (absent : preparer.Absent id → after.Absent id)
    (failed : after.failed.lookup id = preparer.failed.lookup id)
    (instant : after.instant = preparer.instant) : preparer.Leaves after id where
  last := last
  absent := absent
  kept _ _ known := failed.trans known
  cooling := by
    rintro ⟨deadline, known, pending⟩
    exact ⟨deadline, failed.symm.trans known, instant ▸ pending⟩
  instant := instant.ge

theorem Leaves.refl (preparer : Preparer) (id : String) : preparer.Leaves preparer id :=
  leaves_of_eq rfl (fun absent => absent) rfl rfl

theorem leaves_getPath (preparer : Preparer) (id other : String) :
    preparer.Leaves
      { preparer with cache := (preparer.cache.getPath id preparer.now).2 } other :=
  leaves_of_eq rfl (Cache.Manager.absent_getPath preparer.now) rfl rfl

theorem mem_retain {failed : AList fun _ : String => Nat} {keep : Nat → Bool} {id : String}
    {deadline : Nat} :
    (retain failed keep).lookup id = some deadline ↔
      failed.lookup id = some deadline ∧ keep deadline = true := by
  rw [← Option.mem_def, ← Option.mem_def, AList.mem_lookup_iff, AList.mem_lookup_iff, retain]
  exact List.mem_filter

theorem leaves_recentlyFailed (preparer : Preparer) (id other : String) :
    preparer.Leaves (preparer.recentlyFailed id).2 other := by
  rw [recentlyFailed]
  split
  · refine ⟨rfl, fun absent => absent, ?_, ?_, Nat.le_refl _⟩
    · exact fun deadline pending known => mem_retain.mpr ⟨known, by simpa using pending⟩
    · rintro ⟨deadline, known, pending⟩
      exact ⟨deadline, (mem_retain.mp known).1, pending⟩
  · exact .refl preparer other

theorem cooled_of_recentlyFailed (cooled : (preparer.recentlyFailed id).1 = false) :
    ¬ (preparer.recentlyFailed id).2.Cooling id := by
  rintro ⟨deadline, known, pending⟩
  have failed : (preparer.recentlyFailed id).1 = true :=
    (Option.any_eq_true _ _).mpr ⟨deadline, known, decide_eq_true pending⟩
  rw [cooled] at failed
  cases failed

theorem missed_of_failed {deadline : Option Nat} (sound : preparer.Sound id)
    (failed : preparer.last id = some (.failed deadline)) :
    (preparer.cache.getPath id preparer.now).1 = none := by
  have absent : preparer.cache.entries.lookup id = none := sound.absent deadline failed
  simp [Cache.Manager.getPath, absent]

/-! ### Steps -/

theorem exclusive_getPath (exclusive : preparer.Exclusive phases)
    (allowed : phases actor = .away ∨ phases actor = .locked id) :
    { preparer with cache := (preparer.cache.getPath id preparer.now).2 }.Exclusive
      (Function.update phases actor
        ((phases actor).next (.getPath id) (preparer.cache.getPath id preparer.now).1)) := by
  have leaves := leaves_getPath preparer id
  rcases allowed with away | locked
  · rw [away]
    exact exclusive.keep rfl rfl (by rw [away]; rfl) (by rw [away]; rfl) leaves trivial
  · have fits := exclusive.fits actor
    rw [locked] at fits ⊢
    cases found : (preparer.cache.getPath id preparer.now).1 with
    | none =>
        refine exclusive.keep rfl rfl (by rw [locked]; rfl) (by rw [locked]; rfl) leaves ?_
        exact ⟨fits, Cache.Manager.absent_of_getPath found⟩
    | some path =>
        refine exclusive.keep rfl rfl (by rw [locked]; rfl) (by rw [locked]; rfl) leaves ?_
        intro deadline failed
        rw [missed_of_failed (exclusive.sound id) failed] at found
        cases found

theorem exclusive_recentlyFailed (exclusive : preparer.Exclusive phases)
    (allowed : phases actor = .away ∨ phases actor = .uncached id) :
    (preparer.recentlyFailed id).2.Exclusive (Function.update phases actor
      ((phases actor).next (.recentlyFailed id) (preparer.recentlyFailed id).1)) := by
  have leaves := leaves_recentlyFailed preparer id
  rcases allowed with away | uncached
  · rw [away]
    exact exclusive.keep rfl rfl (by rw [away]; rfl) (by rw [away]; rfl) leaves trivial
  · have fits := exclusive.fits actor
    rw [uncached] at fits ⊢
    cases failed : (preparer.recentlyFailed id).1 with
    | false =>
        refine exclusive.keep rfl rfl (by rw [uncached]; rfl) (by rw [uncached]; rfl) leaves ?_
        exact ⟨(leaves id).recorded fits.1, (leaves id).absent fits.2,
          cooled_of_recentlyFailed failed⟩
    | true =>
        exact exclusive.keep rfl rfl (by rw [uncached]; rfl) (by rw [uncached]; rfl) leaves fits.1

theorem exclusive_elect (exclusive : preparer.Exclusive phases) (away : phases actor = .away)
    (free : preparer.inFlight id = none) :
    { preparer with inFlight := Function.update preparer.inFlight id (some actor) }.Exclusive
      (Function.update phases actor (.leading id)) where
  leads := by
    refine (Function.forall_update_iff phases fun task phase => ∀ id, phase.leads = some id ↔
      Function.update preparer.inFlight _ _ id = some task).mpr ⟨fun other => ?_, ?_⟩
    · by_cases same : other = id
      · simp [same, Phase.leads]
      · rw [Function.update_of_ne same, ← exclusive.leads actor other, away]
        simp [Phase.leads, Ne.symm same]
    · intro task different other
      rw [exclusive.leads task other]
      by_cases same : other = id
      · simp [same, free, Ne.symm different]
      · rw [Function.update_of_ne same]
  lock := exclusive.keepsLock rfl (by rw [away]; rfl)
  fits := (Function.forall_update_iff phases fun _ phase => Fits _ phase).mpr
    ⟨exclusive.resting id free, fun task _ => exclusive.fits task⟩
  sound other := ⟨(exclusive.sound other).absent, (exclusive.sound other).cooling⟩
  resting other resting := by
    by_cases same : other = id
    · simp [same] at resting
    · exact exclusive.resting other (by simpa [same] using resting)

theorem exclusive_dropGuard (exclusive : preparer.Exclusive phases)
    (led : (phases actor).leads = some id) (lock : (phases actor).holdsLock = false)
    (recorded : preparer.Recorded id) :
    (preparer.dropGuard actor id).Exclusive (Function.update phases actor .away) where
  leads := by
    have mine := (exclusive.leads actor id).mp led
    refine (Function.forall_update_iff phases fun task phase => ∀ id, phase.leads = some id ↔
      Function.update preparer.inFlight _ _ id = some task).mpr ⟨fun other => ?_, ?_⟩
    · by_cases same : other = id
      · simp [same, Phase.leads]
      · rw [Function.update_of_ne same, ← exclusive.leads actor other, led]
        simp [Phase.leads, Ne.symm same]
    · intro task different other
      rw [exclusive.leads task other]
      by_cases same : other = id
      · simp [same, mine, Ne.symm different]
      · rw [Function.update_of_ne same]
  lock := exclusive.keepsLock rfl (by rw [lock]; rfl)
  fits := (Function.forall_update_iff phases fun _ phase => Fits _ phase).mpr
    ⟨trivial, fun task _ => exclusive.fits task⟩
  sound other := ⟨(exclusive.sound other).absent, (exclusive.sound other).cooling⟩
  resting other resting := by
    by_cases same : other = id
    · rw [same]
      exact recorded
    · exact exclusive.resting other (by simpa [same, dropGuard] using resting)

theorem exclusive_acquire (exclusive : preparer.Exclusive phases)
    (leading : phases actor = .leading id) (free : preparer.downloadLock = none) :
    { preparer with downloadLock := some actor }.Exclusive
      (Function.update phases actor (.locked id)) := by
  have fits := exclusive.fits actor
  rw [leading] at fits
  refine exclusive.update rfl (by rw [leading]; rfl) ?_ (fun other _ => ?_) fits fun other _ => ?_
  · refine (Function.forall_update_iff phases fun task phase => phase.holdsLock = true ↔
      some actor = some task).mpr ⟨by simp [Phase.holdsLock], fun task different => ?_⟩
    rw [exclusive.lock task, free]
    simp [Ne.symm different]
  · exact leaves_of_eq rfl (fun absent => absent) rfl rfl
  · exact ⟨(exclusive.sound other).absent, (exclusive.sound other).cooling⟩

theorem exclusive_release (exclusive : preparer.Exclusive phases) {result : Result}
    (done : phases actor = .done id result) :
    { preparer with downloadLock := none }.Exclusive
      (Function.update phases actor (.settling id result)) := by
  have fits := exclusive.fits actor
  have locked := (exclusive.lock actor).mp (by rw [done]; rfl)
  rw [done] at fits
  refine exclusive.update rfl (by rw [done]; rfl) ?_ (fun other _ => ?_) ?_ fun other _ => ?_
  · refine (Function.forall_update_iff phases fun task phase => phase.holdsLock = true ↔
      none = some task).mpr ⟨by simp [Phase.holdsLock], fun task different => ?_⟩
    rw [exclusive.lock task, locked]
    simp [Ne.symm different]
  · exact leaves_of_eq rfl (fun absent => absent) rfl rfl
  · exact (leaves_of_eq rfl (fun absent => absent) rfl rfl).records fits
  · exact ⟨(exclusive.sound other).absent, (exclusive.sound other).cooling⟩

/-- The fetched file is cached: the last download has stored it. -/
theorem exclusive_put (exclusive : preparer.Exclusive phases) (fetched : Fetched)
    (downloading : phases actor = .downloading id) :
    (preparer.put id fetched).Exclusive (Function.update phases actor (.stored id)) := by
  have last : (preparer.put id fetched).last id = some .stored := Function.update_self _ _ _
  refine exclusive.update rfl (by rw [downloading]; rfl)
    (exclusive.keepsLock rfl (by rw [downloading]; rfl)) ?_ last ?_
  · intro other elsewhere
    have different : other ≠ id := by
      rintro rfl
      exact elsewhere (by rw [downloading]; rfl)
    exact leaves_of_eq (Function.update_of_ne different _ _)
      (Cache.Manager.absent_put _ _ _ _ different) rfl rfl
  · intro other led
    rw [downloading] at led
    obtain rfl := Option.some.inj led
    refine ⟨fun _ failed => ?_, fun _ failed => ?_⟩
    · rw [last] at failed
      cases failed
    · rw [last] at failed
      cases failed

theorem exclusive_finishInner (exclusive : preparer.Exclusive phases) {result : Result}
    (allowed : (phases actor = .downloading id ∧ Phase.fails result = true) ∨
      phases actor = .stored id ∧ ∃ path, result = .ok path) :
    (preparer.finishInner id result).Exclusive
      (Function.update phases actor (.done id result)) := by
  have fits := exclusive.fits actor
  rcases allowed with ⟨downloading, fails⟩ | ⟨stored, path, rfl⟩
  · rw [downloading] at fits
    have finished : preparer.finishInner id result =
        { preparer with last := Function.update preparer.last id (some (.failed none)) } := by
      cases result with
      | ok path => cases fails
      | error reason => rfl
    rw [finished]
    refine exclusive.update rfl (by rw [downloading]; rfl)
      (exclusive.keepsLock rfl (by rw [downloading]; rfl)) ?_ ?_ ?_
    · intro other elsewhere
      have different : other ≠ id := by
        rintro rfl
        exact elsewhere (by rw [downloading]; rfl)
      exact leaves_of_eq (Function.update_of_ne different _ _) (fun absent => absent) rfl rfl
    · match result with
      | .error .noSource | .error (.failed _) => exact Function.update_self _ _ _
    · intro other led
      rw [downloading] at led
      obtain rfl := Option.some.inj led
      exact ⟨fun _ _ => fits.2, fun _ failed => by simp at failed⟩
  · rw [stored] at fits
    refine exclusive.keep rfl rfl (by rw [stored]; rfl) (by rw [stored]; rfl) (.refl preparer) ?_
    have kept : preparer.last id = some .stored := fits
    intro deadline
    rw [finishInner, kept]
    nofun

theorem exclusive_forgetFailure (exclusive : preparer.Exclusive phases) {path : String}
    (settling : phases actor = .settling id (.ok path)) :
    { preparer with failed := preparer.failed.erase id }.Exclusive
      (Function.update phases actor (.settled id)) := by
  have fits : ∀ deadline, preparer.last id ≠ some (.failed deadline) := by
    have fits := exclusive.fits actor
    rwa [settling] at fits
  refine exclusive.update rfl (by rw [settling]; rfl)
    (exclusive.keepsLock rfl (by rw [settling]; rfl)) ?_ (fits none) ?_
  · intro other elsewhere
    have different : other ≠ id := by
      rintro rfl
      exact elsewhere (by rw [settling]; rfl)
    exact leaves_of_eq rfl (fun absent => absent) (AList.lookup_erase_ne different) rfl
  · intro other led
    rw [settling] at led
    obtain rfl := Option.some.inj led
    exact ⟨fun deadline failed => absurd failed (fits deadline),
      fun deadline failed => absurd failed (fits (some deadline))⟩

theorem exclusive_noteFailure (exclusive : preparer.Exclusive phases) (cooldown : Nat)
    {result : Result} (settling : phases actor = .settling id result)
    (fails : Phase.fails result = true) :
    (preparer.noteFailure id cooldown).Exclusive (Function.update phases actor (.settled id)) := by
  have failed : preparer.last id = some (.failed none) := by
    have fits := exclusive.fits actor
    rw [settling] at fits
    match result with
    | .error .noSource | .error (.failed _) => exact fits
  have last : (preparer.noteFailure id cooldown).last id =
      some (.failed (some (preparer.instant + cooldown))) := Function.update_self _ _ _
  refine exclusive.update rfl (by rw [settling]; rfl)
    (exclusive.keepsLock rfl (by rw [settling]; rfl)) ?_ ?_ ?_
  · intro other elsewhere
    have different : other ≠ id := by
      rintro rfl
      exact elsewhere (by rw [settling]; rfl)
    exact leaves_of_eq (Function.update_of_ne different _ _) (fun absent => absent)
      (AList.lookup_insert_ne different) rfl
  · exact fun unnoted => by rw [last] at unnoted; cases unnoted
  · intro other led
    rw [settling] at led
    obtain rfl := Option.some.inj led
    refine ⟨fun _ _ => (exclusive.sound id).absent none failed, fun deadline noted _ => ?_⟩
    rw [last] at noted
    cases noted
    exact AList.lookup_insert _

theorem exclusive_perform (exclusive : preparer.Exclusive phases)
    (allowed : (phases actor).Allows op)
    (performed : preparer.perform actor op input = some (answer, after)) :
    after.Exclusive (Function.update phases actor ((phases actor).next op answer)) := by
  have fits := exclusive.fits actor
  cases op with
  | getPath id =>
      obtain ⟨rfl, rfl⟩ := Prod.mk.inj (Option.some.inj performed)
      exact exclusive_getPath exclusive allowed
  | recentlyFailed id =>
      obtain ⟨rfl, rfl⟩ := Prod.mk.inj (Option.some.inj performed)
      exact exclusive_recentlyFailed exclusive allowed
  | elect id =>
      have away : phases actor = .away := allowed
      rw [perform, elect] at performed
      cases flying : preparer.inFlight id with
      | none =>
          rw [flying] at performed
          obtain ⟨rfl, rfl⟩ := Prod.mk.inj (Option.some.inj performed)
          exact exclusive_elect exclusive away flying
      | some leader =>
          rw [flying] at performed
          obtain ⟨rfl, rfl⟩ := Prod.mk.inj (Option.some.inj performed)
          exact exclusive.keep rfl rfl rfl rfl (.refl preparer) fits
  | follow leader =>
      obtain ⟨-, -, rfl⟩ := of_guarded_answer performed
      exact exclusive.keep rfl rfl rfl rfl (.refl preparer) fits
  | acquireDownload =>
      obtain ⟨free, -, rfl⟩ := of_guarded_answer performed
      obtain ⟨id, leading⟩ := allowed
      rw [leading]
      exact exclusive_acquire exclusive leading free
  | releaseDownload =>
      obtain ⟨-, rfl⟩ := Prod.mk.inj (Option.some.inj performed)
      obtain ⟨id, result, done⟩ := allowed
      rw [done]
      exact exclusive_release exclusive done
  | startInner id =>
      obtain ⟨-, rfl⟩ := Prod.mk.inj (Option.some.inj performed)
      have due : phases actor = .due id := allowed
      rw [due] at fits
      exact exclusive.keep rfl rfl (by rw [due]; rfl) (by rw [due]; rfl) (.refl preparer)
        ⟨fits.1, fits.2.1⟩
  | put id fetched =>
      obtain ⟨-, rfl⟩ := Prod.mk.inj (Option.some.inj performed)
      exact exclusive_put exclusive fetched allowed
  | finishInner id result =>
      obtain ⟨-, rfl⟩ := Prod.mk.inj (Option.some.inj performed)
      exact exclusive_finishInner exclusive allowed
  | forgetFailure id =>
      obtain ⟨-, rfl⟩ := Prod.mk.inj (Option.some.inj performed)
      obtain ⟨path, settling⟩ := allowed
      exact exclusive_forgetFailure exclusive settling
  | noteFailure id cooldown =>
      obtain ⟨-, rfl⟩ := Prod.mk.inj (Option.some.inj performed)
      obtain ⟨result, settling, fails⟩ := allowed
      exact exclusive_noteFailure exclusive cooldown settling fails
  | dropGuard id =>
      obtain ⟨-, rfl⟩ := Prod.mk.inj (Option.some.inj performed)
      rcases allowed with settled | settling
      · rw [settled] at fits
        exact exclusive_dropGuard exclusive (by rw [settled]; rfl) (by rw [settled]; rfl) fits
      · rw [settling] at fits
        exact exclusive_dropGuard exclusive (by rw [settling]; rfl) (by rw [settling]; rfl) fits
  | useLibrespot | librespot | ytdlp =>
      obtain ⟨-, rfl⟩ := Prod.mk.inj (Option.some.inj performed)
      exact exclusive.keep rfl rfl rfl rfl (.refl preparer) fits

theorem leaves_outside (preparer : Preparer) (change : Change) (id : String) :
    preparer.Leaves (preparer.outside change) id := by
  cases change with
  | setMaxMb maxMb => exact leaves_of_eq rfl (Cache.Manager.absent_setMaxMb maxMb) rfl rfl
  | clear => exact leaves_of_eq rfl (fun _ => AList.lookup_empty _) rfl rfl
  | file | access | clock => exact leaves_of_eq rfl (fun absent => absent) rfl rfl
  | elapse duration =>
      refine ⟨rfl, fun absent => absent, fun _ _ known => known, ?_, Nat.le_add_right _ _⟩
      rintro ⟨deadline, known, pending⟩
      exact ⟨deadline, known, Nat.lt_of_le_of_lt (Nat.le_add_right _ _) pending⟩

theorem exclusive_outside (exclusive : preparer.Exclusive phases) (change : Change) :
    (preparer.outside change).Exclusive phases := by
  have leaves := leaves_outside preparer change
  have inFlight : (preparer.outside change).inFlight = preparer.inFlight := by
    cases change <;> rfl
  have lock : (preparer.outside change).downloadLock = preparer.downloadLock := by
    cases change <;> rfl
  have own := (exclusive.fits 0).leaves fun id _ => leaves id
  have kept := exclusive.keep inFlight lock rfl rfl leaves own
  rwa [Function.update_eq_self] at kept

theorem exclusive_new (cache : Cache.Manager) (now : Int) (instant : Nat) :
    (new cache now instant).Exclusive fun _ => .away where
  leads _ _ := by simp [Phase.leads, new]
  lock _ := by simp [Phase.holdsLock, new]
  fits _ := trivial
  sound _ := ⟨nofun, nofun⟩
  resting _ _ := nofun

/-- What a leader has found out makes its download due. -/
theorem Exclusive.due (exclusive : preparer.Exclusive phases)
    (due : phases actor = .due id) : preparer.Due id := by
  have fits := exclusive.fits actor
  rw [due] at fits
  obtain ⟨recorded, absent, cooled⟩ := fits
  refine ⟨Cache.Manager.holds_of_absent absent, cooled, ?_⟩
  cases last : preparer.last id with
  | none => rw [Lapsed, last]; trivial
  | some ending =>
      cases ending with
      | stored => rw [Lapsed, last]; exact absent
      | failed noted =>
          cases noted with
          | none => exact absurd last recorded
          | some deadline =>
              rw [Lapsed, last]
              refine ⟨deadline, rfl, Nat.le_of_not_lt fun pending => cooled ?_⟩
              exact ⟨deadline, (exclusive.sound id).cooling deadline last pending, pending⟩

end Preparer

theorem safe : machine.Safe discipline (fun _ _ _ _ _ => True) Preparer.Exclusive where
  initial := by
    rintro _ ⟨cache, now, instant, rfl⟩
    exact Preparer.exclusive_new cache now instant
  accept := by
    intro preparer phases actor request program after exclusive _ accepted
    obtain ⟨rfl, rfl⟩ := Prod.mk.inj (Option.some.inj accepted)
    exact ⟨exclusive, Phase.guides_accept request⟩
  perform preparer phases actor op input answer after exclusive allowed _ performed :=
    Preparer.exclusive_perform exclusive allowed performed
  outside := by
    intro preparer phases change after exclusive changed
    obtain rfl := Option.some.inj changed
    exact Preparer.exclusive_outside exclusive change

/-- All interleavings of prepares. -/
abbrev system := machine.system discipline

/-- At most one download runs, none starts for a track that is cached or cooling down or that was
downloaded before without its entry lost or its cooldown lapsed, and a track is in flight exactly
while some call leads it. -/
theorem downloads_exclusive_and_due {pool : Pool signature Preparer Phase}
    (reach : system.Reachable pool) :
    (∀ first second, (pool.trace first).downloads = true → (pool.trace second).downloads = true →
      first = second) ∧
    (∀ task id next, pool.task task = .call (.startInner id) next → pool.shared.Due id) ∧
    ∀ id, pool.shared.isPreparing id = true ↔ ∃ task, (pool.trace task).leads = some id := by
  have guarded := safe.guarded_of_reachable reach
  have exclusive := guarded.holds
  refine ⟨?_, ?_, ?_⟩
  · intro first second downloads also
    have locks {phase : Phase} (downloads : phase.downloads = true) : phase.holdsLock = true := by
      cases phase <;> first | rfl | cases downloads
    have mine := (exclusive.lock first).mp (locks downloads)
    rw [(exclusive.lock second).mp (locks also)] at mine
    exact (Option.some.inj mine).symm
  · intro task id next starting
    have obeys := guarded.obeys task
    rw [starting] at obeys
    exact exclusive.due obeys.1
  · intro id
    rw [Preparer.isPreparing, Option.isSome_iff_exists]
    exact exists_congr fun task => (exclusive.leads task id).symm

/-- A preparer before its first call. -/
def idle : Pool signature Preparer Phase := Machine.boot discipline (.new .bare 0 0)

theorem idle_initial : system.initial idle := ⟨_, ⟨_, _, _, rfl⟩, rfl⟩

/-- A number of operations of one call. -/
def advance (count actor : Nat) : List (PoolEvent Request Input Change) :=
  List.replicate count (.advance actor {})

/-- A download fails, its cooldown lapses, and another call is about to repeat it. -/
def repeated : List (PoolEvent Request Input Change) :=
  [.start (.prepare { id := "a" })] ++ advance 13 0 ++ [.outside (.elapse noSourceCooldown)] ++
    [.start (.prepare { id := "a" })] ++ advance 6 1

theorem repeated_due :
    let pool := system.final idle repeated rfl
    pool.shared.last "a" = some (.failed (some noSourceCooldown)) ∧ pool.shared.Due "a" :=
  ⟨rfl, (downloads_exclusive_and_due (System.reachable_final idle_initial repeated rfl)).2.1 1 "a" _
    rfl⟩

end Togewire.Audio
