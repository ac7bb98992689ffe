import Togewire.Foundation.Journal
import Togewire.Foundation.Program

/-!
# The configuration and its file

An update changes the configuration in memory and then saves a clone, holding the writer lock
throughout; the configuration's own lock is released before the file is written, and other code
changes the configuration without the writer lock.  Still the file holds the snapshot of the last
update that was saved, and each snapshot on disk has the effect of everything done before it.
-/

namespace Togewire.Settings

open Interleaving Journal Transition

/-- `Normalization` -/
inductive Normalization
  | off
  | stream
  | cache
  deriving DecidableEq

/-- The size of the cover embedded in cached tracks. -/
inductive CoverArt
  | listed
  | original
  deriving DecidableEq

/-- `SpotifyAuth` -/
structure SpotifyAuth where
  accessToken : String
  refreshToken : Option String
  expiresAtUnix : Int
  deriving DecidableEq

/-- `Config` -/
structure Config where
  logLevel : String := "info"
  adminPasswordHash : String := ""
  togedemonToken : String := ""
  cacheMaxMb : Nat := 2048
  audioBitrate : String := "144k"
  normalization : Normalization := .off
  lowDataStreaming : Bool := false
  playerEnabled : Bool := false
  togematchApi : String := ""
  coverArt : CoverArt := .listed
  spotifyAuth : Option SpotifyAuth := none
  deriving DecidableEq

namespace Config

/-- `is_authenticated` -/
def isAuthenticated (config : Config) : Bool := config.spotifyAuth.isSome

/-- `has_admin_password` -/
def hasAdminPassword (config : Config) : Bool := config.adminPasswordHash != ""

/-- The closure of `save_spotify_auth`. -/
def setSpotifyAuth (accessToken : String) (refreshToken : Option String) (expiresAtUnix : Int)
    (config : Config) : Config :=
  { config with
    spotifyAuth := some
      { accessToken := accessToken
        refreshToken := refreshToken.or (config.spotifyAuth.bind SpotifyAuth.refreshToken)
        expiresAtUnix := expiresAtUnix } }

/-- `invalidate_spotify_access_token`. -/
def invalidateSpotifyAccessToken (config : Config) : Config :=
  { config with
    spotifyAuth := config.spotifyAuth.map fun auth => { auth with expiresAtUnix := 0 } }

end Config

/-! ## Operations -/

/-- What is asked of the configuration. -/
inductive Request
  | update (f : Config → Config)
  | saveSpotifyAuth (accessToken : String) (refreshToken : Option String) (expiresInSecs : Nat)
  | invalidateSpotifyAccessToken

/-- The configuration in memory and on disk. -/
structure Store where
  config : Config
  file : Option Config
  /-- The task which holds the writer lock. -/
  writer : Option Nat
  now : Int
  /-- History: the configuration and the file at startup. -/
  loaded : Config × Option Config
  /-- History: what has been done to the configuration since. -/
  edits : List (Config → Config)
  /-- History: how much had been done when each task took its last snapshot. -/
  taken : Nat → Nat
  /-- History: the snapshots which have reached the file, the last one first. -/
  landed : List (Snapshot Config)

/-- The operations of a change. -/
inductive Op
  | call (request : Request)
  | reply (saved : Bool)
  | nowUnix
  | acquireWriter
  | releaseWriter
  | apply (f : Config → Config)
  | writeTemp (snapshot : Config)
  | rename (snapshot : Config)
  | modify (f : Config → Config)

def Op.Answer : Op → Type
  | nowUnix => Int
  | apply _ => Config
  | writeTemp _ | rename _ => Bool
  | call _ | reply _ | acquireWriter | releaseWriter | modify _ => Unit

abbrev signature : Signature := ⟨Op, Op.Answer⟩

abbrev Task := Program signature

/-- Whether the steps of a save succeed. -/
structure Input where
  written : Bool := true
  renamed : Bool := true

namespace Store

/-- Change the configuration in memory. -/
def edit (store : Store) (f : Config → Config) : Store :=
  { store with config := f store.config, edits := store.edits ++ [f] }

/-- The effect of one operation.  Calls and replies are what a caller sees, and have none. -/
def perform (store : Store) (actor : Nat) (op : Op) (input : Input) : Option (op.Answer × Store) :=
  match op with
  | .call _ | .reply _ => some ((), store)
  | .nowUnix => some (store.now, store)
  | .acquireWriter =>
      if store.writer = none then some ((), { store with writer := some actor }) else none
  | .releaseWriter => some ((), { store with writer := none })
  | .apply f =>
      let edited := store.edit f
      some (edited.config,
        { edited with taken := Function.update store.taken actor edited.edits.length })
  | .writeTemp _ => some (input.written, store)
  | .rename snapshot =>
      if input.renamed then
        some (true,
          { store with
            file := some snapshot
            landed := ⟨store.taken actor, snapshot⟩ :: store.landed })
      else
        some (false, store)
  | .modify f => some ((), store.edit f)

end Store

/-! ## Tasks -/

def ask (op : Op) : Task op.Answer := Program.perform (S := signature) op

def call (request : Request) : Task Unit := ask (.call request)
def reply (saved : Bool) : Task Unit := ask (.reply saved)
def nowUnix : Task Int := ask .nowUnix
def acquireWriter : Task Unit := ask .acquireWriter
def releaseWriter : Task Unit := ask .releaseWriter
def apply (f : Config → Config) : Task Config := ask (.apply f)
def writeTemp (snapshot : Config) : Task Bool := ask (.writeTemp snapshot)
def rename (snapshot : Config) : Task Bool := ask (.rename snapshot)
def modify (f : Config → Config) : Task Unit := ask (.modify f)

/-- Write a temporary file and move it into place. -/
def save (snapshot : Config) : Task Bool := do
  if ← writeTemp snapshot then
    rename snapshot
  else
    pure false

/-- Apply a closure, then persist. -/
def update (f : Config → Config) : Task Bool := do
  acquireWriter
  let snapshot ← apply f
  let saved ← save snapshot
  releaseWriter
  pure saved

/-- `save_spotify_auth`: a token lasts a minute at least. -/
def saveSpotifyAuth (accessToken : String) (refreshToken : Option String) (expiresInSecs : Nat) :
    Task Bool := do
  let now ← nowUnix
  update (Config.setSpotifyAuth accessToken refreshToken (now + max expiresInSecs 60))

/-- A call of one of these functions, and what it returns. -/
def accept (request : Request) : Task Unit := do
  call request
  match request with
  | .update f => reply (← update f)
  | .saveSpotifyAuth accessToken refreshToken expiresInSecs =>
      reply (← saveSpotifyAuth accessToken refreshToken expiresInSecs)
  | .invalidateSpotifyAccessToken => modify Config.invalidateSpotifyAccessToken

/-- The configuration as `init` leaves it. -/
def start (config : Config) (file : Option Config) (now : Int) : Store where
  config := config
  file := file
  writer := none
  now := now
  loaded := (config, file)
  edits := []
  taken _ := 0
  landed := []

/-- All orders of updates and direct changes, on any clock. -/
def machine : Machine signature Store Request Input Int where
  initial store := ∃ config file now, store = start config file now
  accept store _ request := some (accept request, store)
  perform := Store.perform
  outside store now := some { store with now := now }

/-! ## What each task has done -/

/-- What a request whose call read the time does to the configuration. -/
def Request.Does (now : Option Int) (f : Config → Config) : Request → Prop
  | .update g => f = g
  | .saveSpotifyAuth accessToken refreshToken expiresInSecs =>
      ∃ time, now = some time ∧ ∀ config, f config =
        { config with
          spotifyAuth := some
            { accessToken := accessToken
              -- A refresh token which is not rotated is kept.
              refreshToken :=
                match refreshToken, config.spotifyAuth with
                | some rotated, _ => some rotated
                | none, some auth => auth.refreshToken
                | none, none => none
              expiresAtUnix := time + max expiresInSecs 60 } }
  | .invalidateSpotifyAccessToken =>
      ∀ config, f config =
        match config.spotifyAuth with
        | none => config
        | some auth => { config with spotifyAuth := some { auth with expiresAtUnix := 0 } }

theorem Request.Does.mono {now later : Option Int} {f : Config → Config} {request : Request}
    (does : request.Does now f) (kept : ∀ time, now = some time → later = some time) :
    request.Does later f := by
  cases request with
  | update g => exact does
  | saveSpotifyAuth accessToken refreshToken expiresInSecs =>
      obtain ⟨time, read, effect⟩ := does
      exact ⟨time, kept time read, effect⟩
  | invalidateSpotifyAccessToken => exact does

theorem does_setSpotifyAuth (accessToken : String) (refreshToken : Option String)
    (expiresInSecs : Nat) (now : Int) :
    (Request.saveSpotifyAuth accessToken refreshToken expiresInSecs).Does (some now)
      (Config.setSpotifyAuth accessToken refreshToken (now + max expiresInSecs 60)) := by
  refine ⟨now, rfl, fun config => ?_⟩
  cases refreshToken with
  | some rotated => rfl
  | none =>
      cases auth : config.spotifyAuth <;> simp [Config.setSpotifyAuth, auth]

theorem does_invalidateSpotifyAccessToken (now : Option Int) :
    Request.invalidateSpotifyAccessToken.Does now Config.invalidateSpotifyAccessToken := by
  rintro ⟨⟩
  rename_i auth
  cases auth <;> rfl

/-- What a task was called for, and how far it is. -/
structure Trace where
  request : Option Request := none
  /-- The time it has read. -/
  now : Option Int := none
  /-- It has the writer lock. -/
  writing : Bool := false
  /-- The closure it has applied. -/
  edit : Option (Config → Config) := none
  /-- The snapshot it is about to save. -/
  snapshot : Option Config := none
  /-- It has moved its snapshot into place. -/
  saved : Bool := false
  /-- What its caller was told. -/
  told : Option Bool := none

namespace Trace

def next (trace : Trace) : (op : Op) → op.Answer → Trace
  | .call request, _ => { trace with request := some request }
  | .reply saved, _ => { trace with told := some saved }
  | .nowUnix, (now : Int) => { trace with now := some now }
  | .acquireWriter, _ => { trace with writing := true }
  | .releaseWriter, _ => { trace with writing := false, snapshot := none }
  | .apply f, snapshot => { trace with edit := some f, snapshot := some snapshot }
  | .rename _, true => { trace with snapshot := none, saved := true }
  | _, _ => trace

/-- It has been asked for something and has not begun. -/
structure Asked (trace : Trace) : Prop where
  writing : trace.writing = false
  edit : trace.edit = none
  snapshot : trace.snapshot = none
  saved : trace.saved = false
  told : trace.told = none

/-- It has the lock and is about to apply what it was asked for. -/
structure Applies (trace : Trace) (f : Config → Config) : Prop where
  writing : trace.writing = true
  edit : trace.edit = none
  snapshot : trace.snapshot = none
  saved : trace.saved = false
  told : trace.told = none
  does : ∃ request, trace.request = some request ∧ request.Does trace.now f

/-- It is about to save its snapshot. -/
structure Saves (trace : Trace) (snapshot : Config) : Prop where
  writing : trace.writing = true
  edit : trace.edit.isSome = true
  pending : trace.snapshot = some snapshot
  saved : trace.saved = false
  told : trace.told = none

/-- It is done, and knows whether its snapshot was saved. -/
structure Done (trace : Trace) (saved : Bool) : Prop where
  edit : trace.edit.isSome = true
  saved : trace.saved = saved

/-- What was asked for is applied, its snapshot is saved, and the outcome is returned. -/
def Allows (trace : Trace) : Op → Prop
  | .call _ => trace = {}
  | .nowUnix => trace.Asked ∧ trace.now = none
  | .acquireWriter => trace.Asked
  | .apply f => trace.Applies f
  | .writeTemp snapshot | .rename snapshot => trace.Saves snapshot
  | .releaseWriter => trace.writing = true
  | .reply saved => trace.Done saved
  | .modify f => ∃ request, trace.request = some request ∧ request.Does trace.now f

end Trace

def discipline : Discipline signature Trace where
  start := {}
  next := Trace.next
  allows := Trace.Allows

namespace Trace

abbrev Guides {α : Type} (trace : Trace) (task : Task α) (finish : α → Trace → Prop) : Prop :=
  task.Obeys discipline trace finish

variable {trace : Trace}

theorem guides_save {snapshot : Config} (saves : trace.Saves snapshot) :
    trace.Guides (save snapshot) fun saved after => after.writing = true ∧ after.Done saved := by
  have failed : trace.writing = true ∧ trace.Done false :=
    ⟨saves.writing, ⟨saves.edit, saves.saved⟩⟩
  refine Program.Obeys.perform saves ?_
  rintro (_ | _)
  · exact failed
  · refine ⟨saves, ?_⟩
    rintro (_ | _)
    · exact failed
    · exact ⟨saves.writing, ⟨saves.edit, rfl⟩⟩

/-- An update applies the closure that was asked for, and returns whether it was saved. -/
theorem guides_update {f : Config → Config} (asked : trace.Asked)
    (does : ∃ request, trace.request = some request ∧ request.Does trace.now f) :
    trace.Guides (update f) fun saved after => after.Done saved := by
  refine Program.Obeys.perform asked fun _ => ?_
  have applies : Applies { trace with writing := true } f :=
    ⟨rfl, asked.edit, asked.snapshot, asked.saved, asked.told, does⟩
  refine Program.Obeys.perform applies fun snapshot => Program.Obeys.bind ?_
  have saves : Saves { trace with writing := true, edit := some f, snapshot := some snapshot }
      snapshot := ⟨rfl, rfl, rfl, asked.saved, asked.told⟩
  refine (guides_save saves).mono ?_
  rintro saved after ⟨writing, done⟩
  exact Program.Obeys.perform writing fun _ => ⟨done.edit, done.saved⟩

theorem guides_accept (request : Request) : Guides {} (accept request) fun _ _ => True := by
  refine Program.Obeys.perform rfl fun _ => ?_
  cases request with
  | update f =>
      apply Program.Obeys.bind
      refine (guides_update ⟨rfl, rfl, rfl, rfl, rfl⟩ ⟨.update f, rfl, rfl⟩).mono ?_
      exact fun saved after done => ⟨done, fun _ => trivial⟩
  | saveSpotifyAuth accessToken refreshToken expiresInSecs =>
      apply Program.Obeys.bind
      refine Program.Obeys.perform ⟨⟨rfl, rfl, rfl, rfl, rfl⟩, rfl⟩ fun now => ?_
      refine (guides_update ⟨rfl, rfl, rfl, rfl, rfl⟩ ⟨_, rfl, does_setSpotifyAuth ..⟩).mono ?_
      exact fun saved after done => ⟨done, fun _ => trivial⟩
  | invalidateSpotifyAccessToken =>
      exact ⟨⟨_, rfl, does_invalidateSpotifyAccessToken none⟩, fun _ => trivial⟩

end Trace

/-! ## Nothing is lost -/

namespace Store

variable {store after : Store} {traces : Nat → Trace} {actor : Nat} {next : Trace}

/-- The file is what was last written to it. -/
def Holds (store : Store) : Prop :=
  store.file = ((store.landed.head?).map Snapshot.value).or store.loaded.2

/-- The snapshot a task has taken is in place. -/
def Landed (store : Store) (task : Nat) : Prop :=
  ∃ snapshot ∈ store.landed, snapshot.edits = store.taken task

/-- What a task with a snapshot relies on. -/
structure Writes (store : Store) (actor : Nat) (trace : Trace) : Prop where
  lock : trace.writing = true → store.writer = some actor
  writing : ∀ snapshot, trace.snapshot = some snapshot → trace.writing = true
  complete : ∀ snapshot, trace.snapshot = some snapshot →
    Snapshot.Complete store.loaded.1 store.edits ⟨store.taken actor, snapshot⟩
  newer : ∀ snapshot, trace.snapshot = some snapshot →
    ∀ earlier ∈ store.landed, earlier.edits < store.taken actor

/-- What a task which has applied a closure may tell its caller. -/
structure Answers (store : Store) (task : Nat) (trace : Trace) : Prop where
  /-- The closure is among what has been done, last before the snapshot was taken. -/
  applied : ∀ f, trace.edit = some f →
    0 < store.taken task ∧ store.edits[store.taken task - 1]? = some f
  does : ∀ f, trace.edit = some f →
    ∃ request, trace.request = some request ∧ request.Does trace.now f
  landed : trace.edit.isSome = true → (trace.saved = true ↔ store.Landed task)
  told : ∀ saved, trace.told = some saved → trace.Done saved

/-- The invariant of all interleavings. -/
structure Faithful (store : Store) (traces : Nat → Trace) : Prop where
  config : store.config = replay store.loaded.1 store.edits
  landed : Journal.Landed store.loaded.1 store.edits store.landed
  holds : store.Holds
  writes : ∀ task, store.Writes task (traces task)
  answers : ∀ task, store.Answers task (traces task)
  taken_le : ∀ task, store.taken task ≤ store.edits.length
  /-- No two tasks have taken one snapshot. -/
  distinct : ∀ task other, (traces task).edit.isSome = true → (traces other).edit.isSome = true →
    store.taken task = store.taken other → task = other

theorem writes_of_unsaved {trace : Trace} (unsaved : trace.snapshot = none)
    (lock : trace.writing = true → store.writer = some actor) : store.Writes actor trace where
  lock := lock
  writing snapshot saved := by simp [unsaved] at saved
  complete snapshot saved := by simp [unsaved] at saved
  newer snapshot saved := by simp [unsaved] at saved

theorem writes_of_idle {trace : Trace} (idle : trace.writing = false)
    (unsaved : trace.snapshot = none) : store.Writes actor trace := by
  apply writes_of_unsaved unsaved
  intro writing
  simp [idle] at writing

/-- A task which has applied nothing has nothing to tell. -/
theorem answers_of_unapplied {trace : Trace} {task : Nat} (unapplied : trace.edit = none)
    (untold : trace.told = none) : store.Answers task trace where
  applied f same := by simp [unapplied] at same
  does f same := by simp [unapplied] at same
  landed applied := by simp [unapplied] at applied
  told saved same := by simp [untold] at same

theorem Writes.idle {trace : Trace} (writes : store.Writes actor trace)
    (locked : store.writer ≠ some actor) : trace.writing = false ∧ trace.snapshot = none := by
  have idle : trace.writing = false := by
    by_contra writing
    exact locked (writes.lock (by simpa using writing))
  refine ⟨idle, ?_⟩
  by_contra saved
  obtain ⟨snapshot, saved⟩ := Option.ne_none_iff_exists'.mp saved
  exact absurd (writes.writing snapshot saved) (by simp [idle])

/-- Only the lock's holder has anything to save. -/
theorem Faithful.others (faithful : store.Faithful traces) (locked : store.writer = some actor)
    {task : Nat} (different : task ≠ actor) : after.Writes task (traces task) := by
  obtain ⟨idle, unsaved⟩ := (faithful.writes task).idle (by
    rw [locked]
    exact fun same => different (Option.some.inj same).symm)
  exact writes_of_idle idle unsaved

theorem Writes.edit {trace : Trace} (writes : store.Writes actor trace) (f : Config → Config) :
    (store.edit f).Writes actor trace where
  lock := writes.lock
  writing := writes.writing
  complete snapshot saved := (writes.complete snapshot saved).edit f
  newer := writes.newer

/-- What else is done comes after a snapshot that was taken. -/
theorem Answers.edit {trace : Trace} {task : Nat} (answers : store.Answers task trace)
    (taken_le : store.taken task ≤ store.edits.length) (f : Config → Config) :
    (store.edit f).Answers task trace where
  applied g same := by
    obtain ⟨positive, found⟩ := answers.applied g same
    refine ⟨positive, ?_⟩
    have before : store.taken task - 1 < store.edits.length := by omega
    show (store.edits ++ [f])[store.taken task - 1]? = some g
    rw [List.getElem?_append_left before, found]
  does := answers.does
  landed := answers.landed
  told := answers.told

theorem Faithful.edit (faithful : store.Faithful traces) (f : Config → Config) :
    (store.edit f).Faithful traces where
  config := by simp [Store.edit, faithful.config]
  landed := faithful.landed.edit f
  holds := faithful.holds
  writes task := (faithful.writes task).edit f
  answers task := (faithful.answers task).edit (faithful.taken_le task) f
  taken_le task := Nat.le_trans (faithful.taken_le task) (by simp [Store.edit])
  distinct := faithful.distinct

theorem Faithful.move (faithful : store.Faithful traces) (writes : store.Writes actor next)
    (answers : store.Answers actor next)
    (applied : next.edit.isSome = true → (traces actor).edit.isSome = true) :
    store.Faithful (Function.update traces actor next) where
  config := faithful.config
  landed := faithful.landed
  holds := faithful.holds
  writes := (Function.forall_update_iff traces fun task trace => store.Writes task trace).mpr
    ⟨writes, fun task _ => faithful.writes task⟩
  answers := (Function.forall_update_iff traces fun task trace => store.Answers task trace).mpr
    ⟨answers, fun task _ => faithful.answers task⟩
  taken_le := faithful.taken_le
  distinct task other := by
    have before : ∀ task, (Function.update traces actor next task).edit.isSome = true →
        (traces task).edit.isSome = true :=
      (Function.forall_update_iff traces fun task trace =>
        trace.edit.isSome = true → (traces task).edit.isSome = true).mpr
          ⟨applied, fun _ _ same => same⟩
    exact fun first second => faithful.distinct task other (before task first) (before other second)

/-- The lock's holder changes the configuration and takes a snapshot. -/
theorem Faithful.apply (faithful : store.Faithful traces) {f : Config → Config}
    (applies : (traces actor).Applies f) :
    { store.edit f with
      taken := Function.update store.taken actor (store.edit f).edits.length }.Faithful
        (Function.update traces actor
          { traces actor with edit := some f, snapshot := some (f store.config) }) := by
  have locked : store.writer = some actor := (faithful.writes actor).lock applies.writing
  have edited := faithful.edit f
  have longer : (store.edit f).edits.length = store.edits.length + 1 := by simp [Store.edit]
  have older : ∀ task, store.taken task < (store.edit f).edits.length := by
    intro task
    have bound := faithful.taken_le task
    omega
  refine ⟨edited.config, edited.landed, edited.holds, ?_, ?_, ?_, ?_⟩
  · refine (Function.forall_update_iff traces fun task trace => Writes _ task trace).mpr ⟨?_, ?_⟩
    · refine ⟨fun _ => locked, fun _ _ => applies.writing, ?_, ?_⟩
      · intro snapshot saved
        obtain rfl := Option.some.inj saved
        have now := Snapshot.complete_now store.loaded.1 (store.edit f).edits
        rw [show replay store.loaded.1 (store.edit f).edits = f store.config from
          edited.config.symm] at now
        change Snapshot.Complete store.loaded.1 (store.edit f).edits
          ⟨Function.update store.taken actor (store.edit f).edits.length actor, f store.config⟩
        rwa [Function.update_self]
      · intro snapshot _ earlier member
        have bound := (faithful.landed.complete earlier member).edits_le
        simp only [Function.update_self, longer]
        omega
    · intro task different
      exact faithful.others locked different
  · refine (Function.forall_update_iff traces fun task trace => Answers _ task trace).mpr ⟨?_, ?_⟩
    · refine ⟨?_, ?_, ?_, ?_⟩
      · rintro g same
        obtain rfl := Option.some.inj same
        simp only [Function.update_self, longer]
        exact ⟨Nat.succ_pos _, by simp [Store.edit]⟩
      · rintro g same
        obtain rfl := Option.some.inj same
        exact applies.does
      · intro _
        refine iff_of_false (by simp [applies.saved]) ?_
        rintro ⟨earlier, member, same⟩
        have bound := (faithful.landed.complete earlier member).edits_le
        simp only [Function.update_self, longer] at same
        omega
      · intro saved same
        simp [applies.told] at same
    · intro task different
      have answers := edited.answers task
      have kept : Function.update store.taken actor (store.edit f).edits.length task =
          store.taken task := Function.update_of_ne different _ _
      refine ⟨?_, answers.does, ?_, answers.told⟩
      · intro g same
        simp only [kept]
        exact answers.applied g same
      · intro applied
        simp only [Landed, kept]
        exact answers.landed applied
  · refine (Function.forall_update_iff store.taken fun _ taken =>
      taken ≤ (store.edit f).edits.length).mpr ⟨Nat.le_refl _, ?_⟩
    exact fun task _ => Nat.le_of_lt (older task)
  · intro task other applied applied' same
    by_cases first : task = actor <;> by_cases second : other = actor
    · rw [first, second]
    · subst first
      simp only [Function.update_self, Function.update_of_ne second] at same
      exact absurd same (Nat.ne_of_gt (older other))
    · subst second
      simp only [Function.update_self, Function.update_of_ne first] at same
      exact absurd same (Nat.ne_of_lt (older task))
    · simp only [Function.update_of_ne first, Function.update_of_ne second] at same applied applied'
      exact faithful.distinct task other applied applied' same

/-- The lock's holder moves its snapshot into place. -/
theorem Faithful.land (faithful : store.Faithful traces) {snapshot : Config}
    (saves : (traces actor).Saves snapshot) :
    { store with
      file := some snapshot
      landed := ⟨store.taken actor, snapshot⟩ :: store.landed }.Faithful
        (Function.update traces actor { traces actor with snapshot := none, saved := true }) := by
  have own := faithful.writes actor
  have locked : store.writer = some actor := own.lock saves.writing
  have answers := faithful.answers actor
  refine ⟨faithful.config, ?_, rfl, ?_, ?_, faithful.taken_le, ?_⟩
  · exact faithful.landed.land (own.complete snapshot saves.pending)
      (own.newer snapshot saves.pending)
  · refine (Function.forall_update_iff traces fun task trace => Writes _ task trace).mpr ⟨?_, ?_⟩
    · exact writes_of_unsaved rfl fun _ => locked
    · intro task different
      exact faithful.others locked different
  · refine (Function.forall_update_iff traces fun task trace => Answers _ task trace).mpr ⟨?_, ?_⟩
    · refine ⟨answers.applied, answers.does, ?_, ?_⟩
      · exact fun _ => iff_of_true rfl ⟨_, List.mem_cons_self, rfl⟩
      · intro saved same
        simp [saves.told] at same
    · intro task different
      have others := faithful.answers task
      refine ⟨others.applied, others.does, ?_, others.told⟩
      intro applied
      rw [others.landed applied, Landed, Landed]
      constructor
      · rintro ⟨earlier, member, same⟩
        exact ⟨earlier, List.mem_cons_of_mem _ member, same⟩
      · rintro ⟨earlier, member, same⟩
        rcases List.mem_cons.mp member with rfl | member
        · exact absurd (faithful.distinct task actor applied saves.edit same.symm) different
        · exact ⟨earlier, member, same⟩
  · intro task other applied applied'
    have before : ∀ task, (Function.update traces actor
        { traces actor with snapshot := none, saved := true } task).edit = (traces task).edit :=
      (Function.forall_update_iff traces fun task trace => trace.edit = (traces task).edit).mpr
        ⟨rfl, fun _ _ => rfl⟩
    rw [before] at applied applied'
    exact faithful.distinct task other applied applied'

theorem Faithful.acquire (faithful : store.Faithful traces) (free : store.writer = none)
    (asked : (traces actor).Asked) :
    { store with writer := some actor }.Faithful
      (Function.update traces actor { traces actor with writing := true }) := by
  have taken : { store with writer := some actor }.Faithful traces := by
    refine ⟨faithful.config, faithful.landed, faithful.holds, ?_, ?_, faithful.taken_le,
      faithful.distinct⟩
    · intro task
      obtain ⟨quiet, unsaved⟩ := (faithful.writes task).idle (by simp [free])
      exact writes_of_idle quiet unsaved
    · intro task
      have answers := faithful.answers task
      exact ⟨answers.applied, answers.does, answers.landed, answers.told⟩
  apply taken.move
  · exact writes_of_unsaved asked.snapshot fun _ => rfl
  · exact answers_of_unapplied asked.edit asked.told
  · exact id

theorem Faithful.release (faithful : store.Faithful traces)
    (writing : (traces actor).writing = true) :
    { store with writer := none }.Faithful
      (Function.update traces actor { traces actor with writing := false, snapshot := none }) := by
  have locked := (faithful.writes actor).lock writing
  have left : store.Faithful
      (Function.update traces actor { traces actor with writing := false, snapshot := none }) :=
    faithful.move (writes_of_idle rfl rfl)
      (by
        have answers := faithful.answers actor
        refine ⟨answers.applied, answers.does, answers.landed, fun saved told => ?_⟩
        exact ⟨(answers.told saved told).edit, (answers.told saved told).saved⟩) id
  refine ⟨left.config, left.landed, left.holds, ?_, ?_, left.taken_le, left.distinct⟩
  · refine (Function.forall_update_iff traces fun task trace => Writes _ task trace).mpr ⟨?_, ?_⟩
    · exact writes_of_idle rfl rfl
    · intro task different
      exact faithful.others locked different
  · intro task
    have answers := left.answers task
    exact ⟨answers.applied, answers.does, answers.landed, answers.told⟩

theorem Writes.note {trace : Trace} (writes : store.Writes actor trace)
    (writing : next.writing = trace.writing) (snapshot : next.snapshot = trace.snapshot) :
    store.Writes actor next where
  lock held := writes.lock (writing ▸ held)
  writing saved same := writing ▸ writes.writing saved (snapshot ▸ same)
  complete saved same := writes.complete saved (snapshot ▸ same)
  newer saved same := writes.newer saved (snapshot ▸ same)

theorem Faithful.perform (faithful : store.Faithful traces) {op : Op} {input : Input}
    {answer : op.Answer} (allowed : (traces actor).Allows op)
    (performed : store.perform actor op input = some (answer, after)) :
    after.Faithful (Function.update traces actor ((traces actor).next op answer)) := by
  have writes := faithful.writes actor
  have answers := faithful.answers actor
  cases op with
  | call request =>
      obtain ⟨-, rfl⟩ := Prod.mk.inj (Option.some.inj performed)
      have fresh : traces actor = {} := allowed
      apply faithful.move
      · exact writes.note rfl rfl
      · apply answers_of_unapplied
        · rw [fresh]
          rfl
        · rw [fresh]
          rfl
      · exact id
  | reply saved =>
      obtain ⟨-, rfl⟩ := Prod.mk.inj (Option.some.inj performed)
      apply faithful.move
      · exact writes.note rfl rfl
      · refine ⟨answers.applied, answers.does, answers.landed, fun other same => ?_⟩
        obtain rfl := Option.some.inj same
        exact ⟨allowed.edit, allowed.saved⟩
      · exact id
  | nowUnix =>
      obtain ⟨-, rfl⟩ := Prod.mk.inj (Option.some.inj performed)
      have idle : (traces actor).Asked := allowed.1
      apply faithful.move
      · exact writes.note rfl rfl
      · exact answers_of_unapplied idle.edit idle.told
      · exact id
  | acquireWriter =>
      obtain ⟨free, -, rfl⟩ := of_guarded_answer performed
      exact faithful.acquire free allowed
  | releaseWriter =>
      obtain ⟨-, rfl⟩ := Prod.mk.inj (Option.some.inj performed)
      exact faithful.release allowed
  | apply f =>
      obtain ⟨rfl, rfl⟩ := Prod.mk.inj (Option.some.inj performed)
      exact faithful.apply allowed
  | rename snapshot =>
      simp only [Store.perform] at performed
      split at performed <;> obtain ⟨rfl, rfl⟩ := Prod.mk.inj (Option.some.inj performed)
      · exact faithful.land allowed
      · rwa [show (traces actor).next (.rename snapshot) false = traces actor from rfl,
          Function.update_eq_self]
  | modify f =>
      obtain ⟨-, rfl⟩ := Prod.mk.inj (Option.some.inj performed)
      rw [show (traces actor).next (.modify f) answer = traces actor from rfl,
        Function.update_eq_self]
      exact faithful.edit f
  | writeTemp =>
      obtain ⟨-, rfl⟩ := Prod.mk.inj (Option.some.inj performed)
      change Faithful _ (Function.update traces actor (traces actor))
      rwa [Function.update_eq_self]

/-- Whatever has been done to the configuration was asked for. -/
def Owed (store : Store) (traces : Nat → Trace) : Prop :=
  ∀ edit ∈ store.edits, ∃ task request, (traces task).request = some request ∧
    request.Does (traces task).now edit

/-- A task goes on; it does not forget what it was asked for, nor the time. -/
theorem Owed.advance (owed : store.Owed traces) (same : after.edits = store.edits)
    (request : ∀ asked, (traces actor).request = some asked → next.request = some asked)
    (now : ∀ time, (traces actor).now = some time → next.now = some time) :
    after.Owed (Function.update traces actor next) := by
  intro edit member
  obtain ⟨task, asked, requested, does⟩ := owed edit (same ▸ member)
  refine ⟨task, asked, ?_⟩
  by_cases own : task = actor
  · subst own
    rw [Function.update_self]
    exact ⟨request asked requested, does.mono now⟩
  · rw [Function.update_of_ne own]
    exact ⟨requested, does⟩

theorem Owed.edit (owed : store.Owed traces) {f : Config → Config} {task : Nat}
    (asked : ∃ request, (traces task).request = some request ∧ request.Does (traces task).now f) :
    (store.edit f).Owed traces := by
  intro edit member
  rcases List.mem_append.mp member with earlier | last
  · exact owed edit earlier
  · obtain rfl := List.mem_singleton.mp last
    exact ⟨task, asked⟩

theorem Owed.perform (owed : store.Owed traces) {op : Op} {input : Input} {answer : op.Answer}
    (allowed : (traces actor).Allows op)
    (performed : store.perform actor op input = some (answer, after)) :
    after.Owed (Function.update traces actor ((traces actor).next op answer)) := by
  cases op with
  | call request =>
      obtain ⟨-, rfl⟩ := Prod.mk.inj (Option.some.inj performed)
      have fresh : traces actor = {} := allowed
      refine owed.advance rfl ?_ fun _ read => read
      intro asked requested
      rw [fresh] at requested
      cases requested
  | nowUnix =>
      obtain ⟨-, rfl⟩ := Prod.mk.inj (Option.some.inj performed)
      refine owed.advance rfl (fun _ requested => requested) ?_
      intro time read
      rw [allowed.2] at read
      cases read
  | apply f =>
      obtain ⟨rfl, rfl⟩ := Prod.mk.inj (Option.some.inj performed)
      refine (owed.edit (Trace.Applies.does allowed)).advance rfl ?_ ?_ <;> exact fun _ same => same
  | modify f =>
      obtain ⟨-, rfl⟩ := Prod.mk.inj (Option.some.inj performed)
      refine (owed.edit allowed).advance rfl ?_ ?_ <;> exact fun _ same => same
  | acquireWriter =>
      obtain ⟨-, -, rfl⟩ := of_guarded_answer performed
      refine owed.advance rfl ?_ ?_ <;> exact fun _ same => same
  | rename snapshot =>
      simp only [Store.perform] at performed
      split at performed <;> obtain ⟨rfl, rfl⟩ := Prod.mk.inj (Option.some.inj performed) <;>
        refine owed.advance rfl ?_ ?_ <;> exact fun _ same => same
  | reply | releaseWriter | writeTemp =>
      obtain ⟨-, rfl⟩ := Prod.mk.inj (Option.some.inj performed)
      refine owed.advance rfl ?_ ?_ <;> exact fun _ same => same

end Store

theorem safe : machine.Safe discipline (fun _ _ _ _ _ => True) Store.Faithful where
  initial := by
    rintro _ ⟨config, file, now, rfl⟩
    exact ⟨rfl, .nil _ _, rfl, fun _ => Store.writes_of_idle rfl rfl,
      fun _ => Store.answers_of_unapplied rfl rfl, fun _ => Nat.le_refl _, nofun⟩
  accept store traces actor request program after faithful _ accepted := by
    obtain ⟨rfl, rfl⟩ := Prod.mk.inj (Option.some.inj accepted)
    exact ⟨faithful, Trace.guides_accept request⟩
  perform store traces actor op input answer after faithful allowed _ performed :=
    faithful.perform allowed performed
  outside store traces now after faithful changed := by
    obtain rfl := Option.some.inj changed
    refine ⟨faithful.config, faithful.landed, faithful.holds, ?_, ?_, faithful.taken_le,
      faithful.distinct⟩
    · intro task
      have writes := faithful.writes task
      exact ⟨writes.lock, writes.writing, writes.complete, writes.newer⟩
    · intro task
      have answers := faithful.answers task
      exact ⟨answers.applied, answers.does, answers.landed, answers.told⟩

theorem safe_owed : machine.Safe discipline (fun _ _ _ _ _ => True) Store.Owed where
  initial := by
    rintro _ ⟨config, file, now, rfl⟩
    exact nofun
  accept store traces actor request program after owed _ accepted := by
    obtain ⟨rfl, rfl⟩ := Prod.mk.inj (Option.some.inj accepted)
    exact ⟨owed, Trace.guides_accept request⟩
  perform store traces actor op input answer after owed allowed _ performed :=
    owed.perform allowed performed
  outside store traces now after owed changed := by
    obtain rfl := Option.some.inj changed
    exact owed

/-- All interleavings of changes. -/
abbrev system := machine.system discipline

/-- What holds of the configuration and its file, and of all who have called so far. -/
structure Kept (pool : Pool signature Store Trace) : Prop where
  /-- The file holds the last snapshot written, or what it held at startup. -/
  file : pool.shared.file =
    ((pool.shared.landed.head?).map Snapshot.value).or pool.shared.loaded.2
  /-- Snapshots land in the order of their updates. -/
  ordered : pool.shared.landed.Pairwise fun later earlier => earlier.edits < later.edits
  /-- Each has the effect of all that was done to the configuration before it was taken. -/
  complete : ∀ snapshot ∈ pool.shared.landed, snapshot.edits ≤ pool.shared.edits.length ∧
    snapshot.value =
      replay pool.shared.loaded.1 (pool.shared.edits.take snapshot.edits)
  /-- Nothing is done to the configuration but what was asked for. -/
  asked : ∀ edit ∈ pool.shared.edits, ∃ task request, (pool.trace task).request = some request ∧
    request.Does (pool.trace task).now edit
  /-- A caller who was told whether its update was saved asked for something, and what was done to
  the configuration right before its snapshot was taken is that. -/
  done : ∀ task saved, (pool.trace task).told = some saved →
    ∃ request edit, (pool.trace task).request = some request ∧
      0 < pool.shared.taken task ∧
        pool.shared.edits[pool.shared.taken task - 1]? = some edit ∧
          request.Does (pool.trace task).now edit
  /-- It was told so exactly if that snapshot has landed. -/
  saved : ∀ task saved, (pool.trace task).told = some saved →
    (saved = true ↔ ∃ snapshot ∈ pool.shared.landed, snapshot.edits = pool.shared.taken task)

/-- No committed setting is lost on disk, in any interleaving. -/
theorem file_loses_nothing {pool : Pool signature Store Trace} (reach : system.Reachable pool) :
    Kept pool := by
  have faithful := (safe.guarded_of_reachable reach).holds
  have owed := (safe_owed.guarded_of_reachable reach).holds
  refine ⟨faithful.holds, faithful.landed.ordered, ?_, owed, ?_, ?_⟩
  · intro snapshot member
    have complete := faithful.landed.complete snapshot member
    exact ⟨complete.edits_le, complete.value_eq⟩
  · intro task saved told
    have answers := faithful.answers task
    obtain ⟨edit, applied⟩ := Option.isSome_iff_exists.mp (answers.told saved told).edit
    obtain ⟨request, asked, does⟩ := answers.does edit applied
    obtain ⟨positive, found⟩ := answers.applied edit applied
    exact ⟨request, edit, asked, positive, found, does⟩
  · intro task saved told
    have answers := faithful.answers task
    have done := answers.told saved told
    rw [← done.saved]
    exact answers.landed done.edit

/-- The configuration of a first start. -/
def fresh : Config := { togedemonToken := "token" }

/-- That configuration, saved. -/
def installed : Pool signature Store Trace := Machine.boot discipline (start fresh (some fresh) 0)

theorem installed_initial : system.initial installed := ⟨_, ⟨_, _, _, rfl⟩, rfl⟩

/-- Some steps of one task. -/
def advance (actor count : Nat) (input : Input) : List (PoolEvent Request Input Int) :=
  List.replicate count (.advance actor input)

/-- A pairing is saved, a switch of the player is not, and the token is invalidated while a further
update waits for the lock. -/
def busy : List (PoolEvent Request Input Int) :=
  [.start (.saveSpotifyAuth "access" (some "refresh") 3600),
    .start (.update fun config => { config with playerEnabled := true }),
    .start (.update fun config => { config with cacheMaxMb := 64 }),
    .start .invalidateSpotifyAccessToken] ++
      advance 0 8 {} ++ advance 1 6 { written := false } ++ advance 3 2 {} ++ advance 2 7 {}

theorem busy_loses_nothing :
    let pool := system.final installed busy rfl
    pool.shared.landed.map Snapshot.edits = [4, 1] ∧
      (pool.trace 0).told = some true ∧ (pool.trace 1).told = some false ∧ Kept pool :=
  ⟨rfl, rfl, rfl, file_loses_nothing (System.reachable_final installed_initial busy rfl)⟩

end Togewire.Settings
