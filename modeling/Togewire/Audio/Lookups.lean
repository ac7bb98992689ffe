import Togewire.Audio.Tools

/-!
# How often a lookup tries

A download or a search runs yt-dlp again when it has to sign in, when a new version came in, and,
for a download, once after a 403.  Other lookups sign in too, for an hour at a time.  So a lookup
runs yt-dlp a few times only, unless it goes on for an hour or its cookies go away meanwhile.
-/

namespace Togewire.Audio.Lookups

open Interleaving Tools Transition

/-! ## Operations -/

/-- How a run of yt-dlp has ended. -/
inductive Outcome
  | timedOut
  /-- There is a file, or there are rows or no error. -/
  | found
  | error (stderr : List Char)

/-- The operations of a lookup. -/
inductive Op
  | cookiesFile
  /-- YouTube has asked to sign in less than an hour ago. -/
  | askedRecently
  | createDir
  | downloadAudio
  | search
  | setAsked
  | update
  /-- Note that a download is tried again after a 403. -/
  | retry

def Op.Answer : Op → Type
  | cookiesFile | askedRecently | createDir | update => Bool
  | downloadAudio | search => Outcome
  | setAsked | retry => Unit

abbrev signature : Signature := ⟨Op, Op.Answer⟩

abbrev Task := Program signature

def ask (op : Op) : Task op.Answer := Program.perform (S := signature) op

def cookiesFile : Task Bool := ask .cookiesFile
def askedRecently : Task Bool := ask .askedRecently
def createDir : Task Bool := ask .createDir
def downloadAudio : Task Outcome := ask .downloadAudio
def search : Task Outcome := ask .search
def setAsked : Task Unit := ask .setAsked
def update : Task Bool := ask .update
def retry : Task Unit := ask .retry

/-! ## Tasks -/

/-- `logged_in` -/
def loggedIn : Task Bool := do
  if ← cookiesFile then askedRecently else pure false

/-- `OUTDATED` -/
def outdated : List Char := "Confirm you are on the latest version".toList

/-- YouTube wants a sign-in, and there are cookies which were not used. -/
def mustSignIn (loggedInNow : Bool) (stderr : List Char) : Task Bool :=
  if loggedInNow then
    pure false
  else do
    let file ← cookiesFile
    pure (file && (contains stderr "Sign in to confirm you".toList ||
      contains stderr "confirm your age".toList))

/-- A new version may help, and one came in. -/
def isUpdated (updated : Bool) (stderr : List Char) : Task Bool :=
  if !updated && contains stderr outdated then update else pure false

/-- What is done after an error: what the flags are in the next round, if there is one. -/
def afterError (loggedInNow downloads retried updated : Bool) (stderr : List Char) :
    Task (Option (Bool × Bool)) := do
  if ← mustSignIn loggedInNow stderr then do
    setAsked
    pure (some (retried, updated))
  else if ← isUpdated updated stderr then
    pure (some (retried, true))
  else if downloads && !retried && contains stderr "403".toList then do
    retry
    pure (some (true, updated))
  else
    pure none

/-- The loop of `download_to_cache`, over a number of rounds. -/
def downloadLoop : Nat → Bool → Bool → Task Unit
  | 0, _, _ => pure ()
  | rounds + 1, retried, updated => do
      let loggedInNow ← loggedIn
      if ← createDir then
        match ← downloadAudio with
        | .timedOut | .found => pure ()
        | .error stderr =>
            match ← afterError loggedInNow true retried updated stderr with
            | none => pure ()
            | some (retried, updated) => downloadLoop rounds retried updated
      else
        pure ()

/-- The loop of `flat_dump`, over a number of rounds. -/
def searchLoop : Nat → Bool → Task Unit
  | 0, _ => pure ()
  | rounds + 1, updated => do
      let loggedInNow ← loggedIn
      match ← search with
      | .timedOut | .found => pure ()
      | .error stderr =>
          match ← afterError loggedInNow false false updated stderr with
          | none => pure ()
          | some (_, updated) => searchLoop rounds updated

/-- A lookup is a download or a search. -/
inductive Request
  | download (rounds : Nat)
  | search (rounds : Nat)

def Request.run : Request → Task Unit
  | .download rounds => downloadLoop rounds false false
  | .search rounds => searchLoop rounds false

/-! ## The machine -/

/-- `LOGGED_IN_FOR`, in nanoseconds. -/
def loggedInFor : Nat := 3600000000000

/-- What lookups share: the cookies, when a sign-in was last asked for, and the clock. -/
structure World where
  now : Nat := 0
  /-- There is a cookies file. -/
  file : Bool
  asked : Option Nat := none
  /-- History: when there was last no cookies file. -/
  missing : Option Nat
  /-- History: when each lookup has begun. -/
  begun : Nat → Nat := fun _ => 0
  /-- History: when each lookup was asked to sign in. -/
  signIns : Nat → List Nat := fun _ => []

/-- Cookies come and go, and time goes on. -/
inductive Change
  | tick (nanoseconds : Nat)
  | putCookies
  | removeCookies

namespace World

/-- The effect of one operation, with what yt-dlp says and whether there was an update. -/
def perform (world : World) (actor : Nat) : (op : Op) → Outcome × Bool → Option (op.Answer × World)
  | .cookiesFile, _ => some (world.file, world)
  | .askedRecently, _ =>
      some (world.asked.any fun time => world.now - time < loggedInFor, world)
  | .createDir, (_, answer) => some (answer, world)
  | .downloadAudio, (outcome, _) => some (outcome, world)
  | .search, (outcome, _) => some (outcome, world)
  | .setAsked, _ =>
      some
        ((),
          { world with
            asked := some world.now
            signIns := Function.update world.signIns actor (world.now :: world.signIns actor) })
  | .update, (_, answer) => some (answer, world)
  | .retry, _ => some ((), world)

def outside (world : World) : Change → World
  | .tick nanoseconds =>
      { world with
        now := world.now + nanoseconds
        missing := if world.file then world.missing else some (world.now + nanoseconds) }
  | .putCookies => { world with file := true }
  | .removeCookies => { world with file := false, missing := some world.now }

end World

/-- Lookups in any order. -/
def machine : Machine signature World Request (Outcome × Bool) Change where
  initial world := ∃ file, world =
    { file := file, missing := if file then none else some 0 }
  accept world actor request :=
    some (request.run, { world with begun := Function.update world.begun actor world.now })
  perform := World.perform
  outside world change := some (world.outside change)

/-! ## What a lookup has done -/

/-- What a lookup has done so far. -/
structure Trace where
  runs : Nat := 0
  signIns : Nat := 0
  updates : Nat := 0
  retries : Nat := 0
  searches : Bool := false
  /-- It was not logged in when it last looked. -/
  out : Bool := false

namespace Trace

def next (trace : Trace) : (op : Op) → op.Answer → Trace
  | .cookiesFile, false => { trace with out := true }
  | .askedRecently, asked => { trace with out := !asked }
  | .downloadAudio, _ => { trace with runs := trace.runs + 1 }
  | .search, _ => { trace with runs := trace.runs + 1, searches := true }
  | .setAsked, _ => { trace with signIns := trace.signIns + 1, out := false }
  | .update, true => { trace with updates := trace.updates + 1 }
  | .retry, _ => { trace with retries := trace.retries + 1 }
  | _, _ => trace

/-- Each run but the first is owed to something. -/
def Allows (trace : Trace) : Op → Prop
  | .downloadAudio => trace.runs ≤ trace.signIns + trace.updates + trace.retries
  | .search =>
      trace.runs ≤ trace.signIns + trace.updates + trace.retries ∧ trace.retries = 0
  | .setAsked => trace.out = true
  | .update => trace.updates = 0
  | .retry => trace.retries = 0 ∧ trace.searches = false
  | .cookiesFile | .askedRecently | .createDir => True

end Trace

def discipline : Discipline signature Trace where
  start := {}
  next := Trace.next
  allows := Trace.Allows

namespace Trace

variable {trace : Trace} {downloads retried updated : Bool}

/-- So many runs are owed to what the flags and the sign-ins say, and so many more. -/
structure Fits (trace : Trace) (downloads retried updated : Bool) (more : Nat) : Prop where
  runs : trace.runs = trace.signIns + trace.updates + trace.retries + more
  updates : trace.updates = updated.toNat
  retries : trace.retries = retried.toNat
  searches : downloads = true → trace.searches = false

/-- A lookup keeps to the discipline from a trace on. -/
abbrev Guides {α : Type} (trace : Trace) (task : Task α) (finish : α → Trace → Prop) : Prop :=
  task.Obeys discipline trace finish

theorem guides_loggedIn (fits : trace.Fits downloads retried updated 0) :
    trace.Guides loggedIn fun loggedInNow after =>
      after.Fits downloads retried updated 0 ∧ (loggedInNow = false → after.out = true) := by
  refine Program.Obeys.perform trivial fun (file : Bool) => ?_
  cases file with
  | false => exact ⟨⟨fits.runs, fits.updates, fits.retries, fits.searches⟩, fun _ => rfl⟩
  | true =>
      refine ⟨trivial, fun (asked : Bool) => ?_⟩
      refine ⟨⟨fits.runs, fits.updates, fits.retries, fits.searches⟩, ?_⟩
      rintro rfl
      rfl

theorem guides_mustSignIn (loggedInNow : Bool) (stderr : List Char)
    (fits : trace.Fits downloads retried updated 1) (out : loggedInNow = false → trace.out = true) :
    trace.Guides (mustSignIn loggedInNow stderr) fun must after =>
      after.Fits downloads retried updated 1 ∧ (must = true → after.out = true) := by
  cases loggedInNow with
  | true => exact ⟨fits, by simp⟩
  | false =>
      refine Program.Obeys.perform trivial fun (file : Bool) => ?_
      cases file with
      | false => exact ⟨⟨fits.runs, fits.updates, fits.retries, fits.searches⟩, fun _ => rfl⟩
      | true => exact ⟨fits, fun _ => out rfl⟩

theorem guides_isUpdated (stderr : List Char) (fits : trace.Fits downloads retried updated 1) :
    trace.Guides (isUpdated updated stderr) fun came after =>
      if came then after.Fits downloads retried true 0
      else after.Fits downloads retried updated 1 := by
  unfold isUpdated
  split
  · rename_i asked
    have fresh : updated = false := by
      cases updated <;> simp_all
    subst fresh
    refine ⟨fits.updates, fun (came : Bool) => ?_⟩
    cases came with
    | false => exact fits
    | true =>
        refine ⟨?_, ?_, fits.retries, fits.searches⟩
        · have runs := fits.runs
          change trace.runs = trace.signIns + (trace.updates + 1) + trace.retries + 0
          omega
        · exact congrArg (· + 1) fits.updates
  · exact fits

theorem guides_afterError (loggedInNow : Bool) (stderr : List Char)
    (fits : trace.Fits downloads retried updated 1) (out : loggedInNow = false → trace.out = true) :
    trace.Guides (afterError loggedInNow downloads retried updated stderr) fun flags after =>
      ∀ again newer, flags = some (again, newer) →
        after.Fits downloads again newer 0 ∧ (downloads = false → again = retried) := by
  apply Program.Obeys.bind
  refine (guides_mustSignIn loggedInNow stderr fits out).mono ?_
  rintro must trace ⟨fits, out⟩
  cases must with
  | true =>
      refine ⟨out rfl, fun _ => ?_⟩
      rintro _ _ ⟨⟩
      refine ⟨⟨?_, fits.updates, fits.retries, fits.searches⟩, fun _ => rfl⟩
      have runs := fits.runs
      change trace.runs = trace.signIns + 1 + trace.updates + trace.retries + 0
      omega
  | false =>
      apply Program.Obeys.bind
      refine (guides_isUpdated stderr fits).mono ?_
      intro came trace fits
      cases came with
      | true =>
          rintro _ _ ⟨⟩
          exact ⟨fits, fun _ => rfl⟩
      | false =>
          rw [if_neg (by decide)] at fits
          rw [if_neg (by decide)]
          split
          · rename_i forbidden
            simp only [Bool.and_eq_true, Bool.not_eq_true'] at forbidden
            obtain ⟨⟨rfl, rfl⟩, -⟩ := forbidden
            refine ⟨⟨fits.retries, fits.searches rfl⟩, fun _ => ?_⟩
            rintro _ _ ⟨⟩
            refine ⟨⟨?_, fits.updates, congrArg (· + 1) fits.retries, fits.searches⟩, by simp⟩
            have runs := fits.runs
            change trace.runs = trace.signIns + trace.updates + (trace.retries + 1) + 0
            omega
          · rintro _ _ ⟨⟩

theorem Fits.allowed (fits : trace.Fits downloads retried updated 0) :
    trace.runs ≤ trace.signIns + trace.updates + trace.retries := Nat.le_of_eq fits.runs

theorem Fits.run (fits : trace.Fits true retried updated 0) :
    { trace with runs := trace.runs + 1 }.Fits true retried updated 1 where
  runs := congrArg (· + 1) fits.runs
  updates := fits.updates
  retries := fits.retries
  searches := fits.searches

theorem Fits.search (fits : trace.Fits false retried updated 0) :
    { trace with runs := trace.runs + 1, searches := true }.Fits false retried updated 1 where
  runs := congrArg (· + 1) fits.runs
  updates := fits.updates
  retries := fits.retries
  searches := by simp

theorem guides_downloadLoop (rounds : Nat) (fits : trace.Fits true retried updated 0) :
    trace.Guides (downloadLoop rounds retried updated) fun _ _ => True := by
  induction rounds generalizing trace retried updated with
  | zero => trivial
  | succ rounds ih =>
      apply Program.Obeys.bind
      refine (guides_loggedIn fits).mono ?_
      rintro loggedInNow trace ⟨fits, out⟩
      refine Program.Obeys.perform trivial fun (created : Bool) => ?_
      cases created with
      | false => trivial
      | true =>
          refine Program.Obeys.perform fits.allowed fun (outcome : Outcome) => ?_
          cases outcome with
          | timedOut | found => trivial
          | error stderr =>
              apply Program.Obeys.bind
              refine (guides_afterError loggedInNow stderr fits.run out).mono ?_
              intro flags trace next
              cases flags with
              | none => trivial
              | some flags => exact ih (next flags.1 flags.2 rfl).1

theorem guides_searchLoop (rounds : Nat) (fits : trace.Fits false false updated 0) :
    trace.Guides (searchLoop rounds updated) fun _ _ => True := by
  induction rounds generalizing trace updated with
  | zero => trivial
  | succ rounds ih =>
      apply Program.Obeys.bind
      refine (guides_loggedIn fits).mono ?_
      rintro loggedInNow trace ⟨fits, out⟩
      refine Program.Obeys.perform ⟨fits.allowed, fits.retries⟩ fun (outcome : Outcome) => ?_
      cases outcome with
      | timedOut | found => trivial
      | error stderr =>
          apply Program.Obeys.bind
          refine (guides_afterError loggedInNow stderr fits.search out).mono ?_
          intro flags trace next
          cases flags with
          | none => trivial
          | some flags =>
              obtain ⟨fits, same⟩ := next flags.1 flags.2 rfl
              rw [same rfl] at fits
              exact ih fits

theorem guides_run (request : Request) : Guides {} request.run fun _ _ => True := by
  cases request with
  | download rounds => exact guides_downloadLoop rounds ⟨rfl, rfl, rfl, fun _ => rfl⟩
  | search rounds => exact guides_searchLoop rounds ⟨rfl, rfl, rfl, by simp⟩

end Trace

/-! ## Few runs -/

namespace World

/-- Since a time, an hour has passed, or there were no cookies for a while. -/
def Stretched (world : World) (since : Nat) : Prop :=
  since + loggedInFor ≤ world.now ∨ ∃ time, world.missing = some time ∧ since ≤ time

/-- What a lookup has done, and when. -/
structure Timely (world : World) (task : Nat) (trace : Trace) : Prop where
  runs : trace.runs ≤ trace.signIns + trace.updates + trace.retries + 1
  updates : trace.updates ≤ 1
  retries : trace.retries ≤ if trace.searches then 0 else 1
  begun : world.begun task ≤ world.now
  signIns : trace.signIns = (world.signIns task).length
  /-- YouTube was last asked no earlier. -/
  asked : ∀ time ∈ world.signIns task, world.begun task ≤ time ∧
    ∃ last, world.asked = some last ∧ time ≤ last
  /-- Whoever is not logged in after a sign-in has waited, or has lost the cookies. -/
  out : trace.out = true → ∀ time ∈ world.signIns task, world.Stretched time
  again : 2 ≤ trace.signIns → world.Stretched (world.begun task)

/-- The invariant of all interleavings. -/
structure Sound (world : World) (traces : Nat → Trace) : Prop where
  gone : world.file = false → world.missing = some world.now
  past : ∀ time, world.asked = some time → time ≤ world.now
  lost : ∀ time, world.missing = some time → time ≤ world.now
  timely : ∀ task, world.Timely task (traces task)

variable {world after : World} {traces : Nat → Trace} {actor task : Nat} {trace : Trace}

theorem Stretched.earlier {since before : Nat} (stretched : world.Stretched since)
    (earlier : before ≤ since) : world.Stretched before := by
  rcases stretched with waited | ⟨time, missing, later⟩
  · exact .inl (Nat.le_trans (Nat.add_le_add_right earlier _) waited)
  · exact .inr ⟨time, missing, Nat.le_trans earlier later⟩

/-- Time goes on. -/
structure Later (world after : World) : Prop where
  now : world.now ≤ after.now
  missing : ∀ time, world.missing = some time → ∃ later, after.missing = some later ∧ time ≤ later
  asked : ∀ time, world.asked = some time → ∃ later, after.asked = some later ∧ time ≤ later

theorem Stretched.later {since : Nat} (stretched : world.Stretched since)
    (later : world.Later after) : after.Stretched since := by
  rcases stretched with waited | ⟨time, missing, before⟩
  · exact .inl (Nat.le_trans waited later.now)
  · obtain ⟨last, missing, behind⟩ := later.missing time missing
    exact .inr ⟨last, missing, Nat.le_trans before behind⟩

theorem Timely.later (timely : world.Timely task trace) (later : world.Later after)
    (begun : after.begun task = world.begun task)
    (signIns : after.signIns task = world.signIns task) : after.Timely task trace where
  runs := timely.runs
  updates := timely.updates
  retries := timely.retries
  begun := by
    rw [begun]
    exact Nat.le_trans timely.begun later.now
  signIns := by
    rw [signIns]
    exact timely.signIns
  asked := by
    rw [signIns, begun]
    intro time member
    obtain ⟨since, last, asked, behind⟩ := timely.asked time member
    obtain ⟨newest, asked, further⟩ := later.asked last asked
    exact ⟨since, newest, asked, Nat.le_trans behind further⟩
  out := by
    rw [signIns]
    exact fun out time member => (timely.out out time member).later later
  again := by
    rw [begun]
    exact fun twice => (timely.again twice).later later

/-- A lookup which changes nothing but what it has done. -/
theorem Sound.retrace (sound : world.Sound traces) (timely : world.Timely actor trace) :
    world.Sound (Function.update traces actor trace) :=
  ⟨sound.gone, sound.past, sound.lost,
    (Function.forall_update_iff traces fun task trace => world.Timely task trace).mpr
      ⟨timely, fun task _ => sound.timely task⟩⟩

theorem Timely.goOut (timely : world.Timely task trace)
    (stretched : ∀ time ∈ world.signIns task, world.Stretched time) :
    world.Timely task { trace with out := true } :=
  ⟨timely.runs, timely.updates, timely.retries, timely.begun, timely.signIns, timely.asked,
    fun _ => stretched, timely.again⟩

theorem Sound.setAsked (sound : world.Sound traces) (out : (traces actor).out = true) :
    { world with
      asked := some world.now
      signIns := Function.update world.signIns actor (world.now :: world.signIns actor) }.Sound
        (Function.update traces actor
          { traces actor with signIns := (traces actor).signIns + 1, out := false }) := by
  have mine := sound.timely actor
  have later : world.Later { world with
      asked := some world.now
      signIns := Function.update world.signIns actor (world.now :: world.signIns actor) } :=
    ⟨Nat.le_refl _, fun time missing => ⟨time, missing, Nat.le_refl _⟩,
      fun time asked => ⟨world.now, rfl, sound.past time asked⟩⟩
  refine ⟨sound.gone, ?_, sound.lost, ?_⟩
  · rintro _ ⟨⟩
    exact Nat.le_refl _
  · refine (Function.forall_update_iff traces fun task trace => Timely _ task trace).mpr ⟨?_, ?_⟩
    · have runs := mine.runs
      refine ⟨by simp only; omega, mine.updates, mine.retries, mine.begun, ?_, ?_, by simp, ?_⟩
      · simp [mine.signIns]
      · simp only [Function.update_self, List.mem_cons]
        rintro time (rfl | member)
        · exact ⟨mine.begun, world.now, rfl, Nat.le_refl _⟩
        · obtain ⟨since, last, asked, behind⟩ := mine.asked time member
          exact ⟨since, world.now, rfl, Nat.le_trans behind (sound.past last asked)⟩
      · intro twice
        have once : 0 < (world.signIns actor).length := by
          rw [← mine.signIns]
          simp only at twice
          omega
        obtain ⟨time, member⟩ := List.exists_mem_of_length_pos once
        exact ((mine.out out time member).earlier (mine.asked time member).1).later later
    · intro task different
      exact (sound.timely task).later later rfl (by simp [different])

theorem Sound.perform (sound : world.Sound traces) {op : Op} {input : Outcome × Bool}
    {answer : op.Answer} (allowed : (traces actor).Allows op)
    (performed : world.perform actor op input = some (answer, after)) :
    after.Sound (Function.update traces actor ((traces actor).next op answer)) := by
  have mine := sound.timely actor
  cases op with
  | cookiesFile =>
      obtain ⟨rfl, rfl⟩ := Prod.mk.inj (Option.some.inj performed)
      cases file : world.file with
      | true => exact sound.retrace mine
      | false =>
          refine sound.retrace (mine.goOut fun time member => .inr ⟨world.now, sound.gone file, ?_⟩)
          obtain ⟨-, last, asked, behind⟩ := mine.asked time member
          exact Nat.le_trans behind (sound.past last asked)
  | askedRecently =>
      obtain ⟨rfl, rfl⟩ := Prod.mk.inj (Option.some.inj performed)
      refine sound.retrace ⟨mine.runs, mine.updates, mine.retries, mine.begun, mine.signIns,
        mine.asked, fun out time member => .inl ?_, mine.again⟩
      obtain ⟨-, last, asked, behind⟩ := mine.asked time member
      have waited : loggedInFor ≤ world.now - last := by
        simpa [Trace.next, asked] using out
      have past := sound.past last asked
      omega
  | createDir =>
      obtain ⟨-, rfl⟩ := Prod.mk.inj (Option.some.inj performed)
      exact sound.retrace mine
  | downloadAudio =>
      obtain ⟨-, rfl⟩ := Prod.mk.inj (Option.some.inj performed)
      exact sound.retrace ⟨Nat.succ_le_succ allowed, mine.updates, mine.retries, mine.begun,
        mine.signIns, mine.asked, mine.out, mine.again⟩
  | search =>
      obtain ⟨-, rfl⟩ := Prod.mk.inj (Option.some.inj performed)
      exact sound.retrace ⟨Nat.succ_le_succ allowed.1, mine.updates, Nat.le_of_eq allowed.2,
        mine.begun, mine.signIns, mine.asked, mine.out, mine.again⟩
  | setAsked =>
      obtain ⟨-, rfl⟩ := Prod.mk.inj (Option.some.inj performed)
      exact sound.setAsked allowed
  | update =>
      obtain ⟨rfl, rfl⟩ := Prod.mk.inj (Option.some.inj performed)
      cases input.2 with
      | false => exact sound.retrace mine
      | true =>
          have runs := mine.runs
          refine sound.retrace ⟨?_, ?_, mine.retries, mine.begun, mine.signIns, mine.asked,
            mine.out, mine.again⟩
          · change (traces actor).runs ≤ _ + ((traces actor).updates + 1) + _ + 1
            simp only [Trace.next]
            omega
          · exact Nat.succ_le_succ (Nat.le_of_eq allowed)
  | retry =>
      obtain ⟨-, rfl⟩ := Prod.mk.inj (Option.some.inj performed)
      have runs := mine.runs
      refine sound.retrace ⟨?_, mine.updates, ?_, mine.begun, mine.signIns, mine.asked,
        mine.out, mine.again⟩
      · simp only [Trace.next]
        omega
      · simp [Trace.next, allowed.1, allowed.2]

theorem Sound.later (sound : world.Sound traces) (later : world.Later after)
    (gone : after.file = false → after.missing = some after.now)
    (asked : after.asked = world.asked)
    (lost : ∀ time, after.missing = some time → time ≤ after.now)
    (begun : after.begun = world.begun) (signIns : after.signIns = world.signIns) :
    after.Sound traces where
  gone := gone
  past time recent := Nat.le_trans (sound.past time (asked ▸ recent)) later.now
  lost := lost
  timely task := (sound.timely task).later later (congrFun begun task) (congrFun signIns task)

theorem Sound.outside (sound : world.Sound traces) (change : Change) :
    (world.outside change).Sound traces := by
  cases change with
  | tick nanoseconds =>
      have now : world.now ≤ world.now + nanoseconds := Nat.le_add_right ..
      cases file : world.file with
      | true =>
          have missing : (world.outside (.tick nanoseconds)).missing = world.missing := by
            simp [World.outside, file]
          refine sound.later ⟨now, fun time lost => ⟨time, missing.trans lost, Nat.le_refl _⟩,
            fun time asked => ⟨time, asked, Nat.le_refl _⟩⟩ ?_ rfl ?_ rfl rfl
          · exact fun gone => absurd (file.symm.trans gone) (by decide)
          · exact fun time lost => Nat.le_trans (sound.lost time (missing ▸ lost)) now
      | false =>
          have missing : (world.outside (.tick nanoseconds)).missing =
              some (world.now + nanoseconds) := by
            simp [World.outside, file]
          refine sound.later ⟨now, fun time lost => ⟨_, missing, ?_⟩,
            fun time asked => ⟨time, asked, Nat.le_refl _⟩⟩ (fun _ => missing) rfl ?_ rfl rfl
          · exact Nat.le_trans (sound.lost time lost) now
          · intro time lost
            exact Nat.le_of_eq (Option.some.inj (lost.symm.trans missing))
  | putCookies =>
      exact sound.later ⟨Nat.le_refl _, fun time lost => ⟨time, lost, Nat.le_refl _⟩,
        fun time asked => ⟨time, asked, Nat.le_refl _⟩⟩ (by simp [World.outside]) rfl sound.lost
        rfl rfl
  | removeCookies =>
      refine sound.later ⟨Nat.le_refl _, fun time lost => ⟨world.now, rfl, sound.lost time lost⟩,
        fun time asked => ⟨time, asked, Nat.le_refl _⟩⟩ (fun _ => rfl) rfl ?_ rfl rfl
      rintro _ ⟨⟩
      exact Nat.le_refl _

theorem Sound.begin (sound : world.Sound traces) (fresh : traces actor = {}) :
    { world with begun := Function.update world.begun actor world.now }.Sound traces := by
  have later : world.Later { world with begun := Function.update world.begun actor world.now } :=
    ⟨Nat.le_refl _, fun time lost => ⟨time, lost, Nat.le_refl _⟩,
      fun time asked => ⟨time, asked, Nat.le_refl _⟩⟩
  refine ⟨sound.gone, sound.past, sound.lost, fun task => ?_⟩
  by_cases same : task = actor
  · subst same
    have none : world.signIns task = [] := by
      have count := (sound.timely task).signIns
      rw [fresh] at count
      exact List.length_eq_zero_iff.mp count.symm
    rw [fresh]
    exact ⟨Nat.zero_le _, Nat.zero_le _, Nat.zero_le _, by simp, by simp [none], by simp [none],
      by simp, by simp⟩
  · exact (sound.timely task).later later (by simp [same]) rfl

theorem safe : machine.Safe discipline (fun _ _ _ _ _ => True) Sound where
  initial := by
    rintro _ ⟨file, rfl⟩
    refine ⟨by simp, by simp, ?_, fun task => ?_⟩
    · cases file <;> simp
    · exact ⟨Nat.zero_le _, Nat.zero_le _, Nat.zero_le _, Nat.zero_le _, rfl, by simp, by simp,
        fun twice => absurd twice (by decide)⟩
  accept _ _ _ request _ _ sound fresh accepted := by
    obtain ⟨rfl, rfl⟩ := Prod.mk.inj (Option.some.inj accepted)
    exact ⟨sound.begin fresh, Trace.guides_run request⟩
  perform _ _ _ _ _ _ _ sound allowed _ performed := sound.perform allowed performed
  outside _ _ change _ sound changed := by
    obtain rfl := Option.some.inj changed
    exact sound.outside change

end World

/-- All interleavings of lookups. -/
abbrev system := machine.system discipline

/-- Whatever the other lookups do, and whatever yt-dlp says: a download runs it four times at most
and a search three times, unless an hour has passed since it began, or there were no cookies for a
while. -/
theorem lookups_are_few {pool : Pool signature World Trace} (reach : system.Reachable pool)
    (task : Nat) :
    (pool.trace task).runs ≤ (if (pool.trace task).searches then 3 else 4) ∨
      pool.shared.Stretched (pool.shared.begun task) := by
  have timely := (World.safe.guarded_of_reachable reach).holds.timely task
  by_cases twice : 2 ≤ (pool.trace task).signIns
  · exact .inr (timely.again twice)
  · refine .inl ?_
    have runs := timely.runs
    have updates := timely.updates
    have retries := timely.retries
    cases searches : (pool.trace task).searches with
    | true =>
        rw [searches, if_pos rfl] at retries
        rw [if_pos rfl]
        omega
    | false =>
        rw [searches, if_neg (by decide)] at retries
        rw [if_neg (by decide)]
        omega

/-! ### A download which runs yt-dlp four times -/

abbrev Event := PoolEvent Request (Outcome × Bool) Change

/-- So many operations, in a round in which yt-dlp says so. -/
def round (operations : Nat) (stderr : String) : List Event :=
  List.replicate operations (.advance 0 (.error stderr.toList, true))

def stubborn : List Event :=
  [.outside .putCookies, .start (.download 5)] ++ round 6 "Sign in to confirm you" ++
    round 5 "Confirm you are on the latest version" ++ round 5 "403" ++ round 4 "403"

def empty : Pool signature World Trace :=
  Machine.boot discipline { file := false, missing := some 0 }

theorem stubborn_is_few :
    let pool := system.final empty stubborn (by decide +kernel)
    (pool.trace 0).runs = 4 ∧
      ((pool.trace 0).runs ≤ (if (pool.trace 0).searches then 3 else 4) ∨
        pool.shared.Stretched (pool.shared.begun 0)) := by
  intro pool
  refine ⟨by decide +kernel, lookups_are_few (System.reachable_final ?_ _ _) 0⟩
  exact ⟨_, ⟨false, rfl⟩, rfl⟩

end Togewire.Audio.Lookups
