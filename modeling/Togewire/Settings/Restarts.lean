import Togewire.Admin.Changes
import Togewire.Foundation.Hexadecimal
import Togewire.Foundation.Restart

/-!
# The configuration over restarts

The server may stop at any step, in the middle of a save too, and be started again.  A save writes
a file of its own, piece by piece, and moves it into place once it is whole; the next process reads
what was moved last.  So nothing that was saved is lost, the token of a togedemon stays the same
once it was saved, and a file which cannot be read is left alone.
-/

namespace Togewire.Settings.Restarts

open Admin.Changes (CacheForm)
open Interleaving Journal Transition

/-! ## Changes -/

/-- What the running server changes. -/
inductive Change
  | adminPasswordHash (hash : String)
  | cache (form : CacheForm)
  | playerEnabled (enabled : Bool)
  | clearSession
  | spotifyAuth (accessToken : String) (refreshToken : Option String) (expiresAtUnix : Int)
  | invalidateSpotifyAccessToken

/-- The closure of a change. -/
def Change.apply : Change → Config → Config
  | .adminPasswordHash hash, config => { config with adminPasswordHash := hash }
  | .cache form, config => form.apply config
  | .playerEnabled enabled, config => { config with playerEnabled := enabled }
  | .clearSession, config => { config with spotifyAuth := none }
  | .spotifyAuth accessToken refreshToken expiresAtUnix, config =>
      config.setSpotifyAuth accessToken refreshToken expiresAtUnix
  | .invalidateSpotifyAccessToken, config => config.invalidateSpotifyAccessToken

/-- No change is about the togedemon. -/
@[simp] theorem Change.apply_togedemonToken (change : Change) (config : Config) :
    (change.apply config).togedemonToken = config.togedemonToken := by
  cases change <;> rfl

/-- A token is filled in. -/
def fillToken (token : String) (config : Config) : Config := { config with togedemonToken := token }

/-! ## Operations -/

/-- What reading the file comes to. -/
inductive Reading
  | absent
  | unreadable
  | contents (bytes : List UInt8)

/-- The operations on the configuration and its file. -/
inductive Op
  /-- The beginning of `init`. -/
  | boot
  | readFile
  | exit
  | randomHex (bytes : Nat)
  /-- `init` changes its own copy. -/
  | draft (config : Config) (f : Config → Config)
  | setConfig (config : Config)
  | acquireWriter
  | releaseWriter
  /-- Change the configuration and clone it. -/
  | apply (f : Config → Config)
  | modify (f : Config → Config)
  | createDir
  | openTemp
  /-- Write some of these bytes. -/
  | writeSome (bytes : List UInt8)
  | syncAll
  | rename (snapshot : Config)
  | removeTemp

def Op.Answer : Op → Type
  | readFile => Reading
  | randomHex _ => String
  | draft _ _ | apply _ => Config
  | createDir | openTemp | syncAll | rename _ => Bool
  | writeSome _ => Option Nat
  | boot | exit | setConfig _ | acquireWriter | releaseWriter | modify _ | removeTemp => Unit

abbrev signature : Signature := ⟨Op, Op.Answer⟩

abbrev Task := Program signature

def ask (op : Op) : Task op.Answer := Program.perform (S := signature) op

def boot : Task Unit := ask .boot
def readFile : Task Reading := ask .readFile
def exit : Task Unit := ask .exit
def randomHex (bytes : Nat) : Task String := ask (.randomHex bytes)
def draft (config : Config) (f : Config → Config) : Task Config := ask (.draft config f)
def setConfig (config : Config) : Task Unit := ask (.setConfig config)
def acquireWriter : Task Unit := ask .acquireWriter
def releaseWriter : Task Unit := ask .releaseWriter
def apply (f : Config → Config) : Task Config := ask (.apply f)
def modify (f : Config → Config) : Task Unit := ask (.modify f)
def createDir : Task Bool := ask .createDir
def openTemp : Task Bool := ask .openTemp
def writeSome (bytes : List UInt8) : Task (Option Nat) := ask (.writeSome bytes)
def syncAll : Task Bool := ask .syncAll
def rename (snapshot : Config) : Task Bool := ask (.rename snapshot)
def removeTemp : Task Unit := ask .removeTemp

/-! ## Tasks -/

section Format

variable (encode : Config → List UInt8) (decode : List UInt8 → Option Config)

/-- `write_all`, after a write which has taken some of these bytes. -/
def writeAll : List UInt8 → Nat → Task Bool
  | [], _ => pure true
  | _ :: rest, taken + 1 => writeAll rest taken
  | byte :: rest, 0 => do
      match ← writeSome (byte :: rest) with
      | none | some 0 => pure false
      | some (taken + 1) => writeAll rest taken

/-- The closure of `save`. -/
def replaceFile (snapshot : Config) : Task Bool := do
  if ← openTemp then
    if ← writeAll (encode snapshot) 0 then
      if ← syncAll then
        rename snapshot
      else
        pure false
    else
      pure false
  else
    pure false

/-- `save`: a temporary file is written, and moved into place. -/
def save (snapshot : Config) : Task Bool := do
  if ← createDir then
    if ← replaceFile encode snapshot then
      pure true
    else do
      removeTemp
      pure false
  else
    pure false

/-- `config::update` -/
def update (f : Config → Config) : Task Bool := do
  acquireWriter
  let snapshot ← apply f
  let saved ← save encode snapshot
  releaseWriter
  pure saved

/-- What `init` makes of the file. -/
def load : Task (Option Config) := do
  match ← readFile with
  | .absent => pure (some {})
  | .unreadable => pure none
  | .contents bytes => pure (decode bytes)

/-- A configuration without a token gets one, and is saved if it can be. -/
def withToken (config : Config) : Task Config :=
  if config.togedemonToken = "" then do
    let token ← randomHex 24
    let filled ← draft config (fillToken token)
    let _ ← save encode filled
    pure filled
  else
    pure config

/-- `init` -/
def init : Task Unit := do
  boot
  match ← load decode with
  | none => exit
  | some config => do
      let config ← withToken encode config
      setConfig config

/-- What a change does; all but one of them are saved. -/
def Change.run : Change → Task Unit
  | .invalidateSpotifyAccessToken => modify (apply .invalidateSpotifyAccessToken)
  | change => do
      let _ ← update encode change.apply
      pure ()

end Format

/-! ## Runs -/

/-- The server, and the disk which outlives it. -/
structure Host where
  /-- `configs/config.json`. -/
  file : Option (List UInt8)
  /-- The temporary file of each save; its name is random. -/
  temp : Nat → Option (List UInt8)
  /-- The process has begun with `init`. -/
  booted : Bool
  /-- `CONFIG`, once `init` has set it. -/
  config : Option Config
  /-- The task which holds the writer lock. -/
  writer : Option Nat
  /-- History: the file as it was last put there by hand. -/
  base : Option (List UInt8)
  /-- History: what has been done to the configuration since, but for what was forgotten. -/
  edits : List (Config → Config)
  /-- History: how much had been done when each task took its last snapshot. -/
  taken : Nat → Nat
  /-- History: the snapshots moved into place since, the last one first. -/
  landed : List (Snapshot Config)

/-- What the outside world contributes to a step. -/
structure Input where
  readable : Bool := true
  random : List UInt8 := []
  done : Bool := true
  written : Option Nat := none

namespace Host

/-- What a process leaves behind. -/
def stop (host : Host) : Host :=
  { host with
    booted := false
    config := none
    writer := none
    edits := host.edits.take (durable host.landed) }

/-- What is read of the file. -/
def read (host : Host) (readable : Bool) : Reading :=
  if readable then
    match host.file with
    | none => .absent
    | some bytes => .contents bytes
  else
    .unreadable

/-- A task has done something to the configuration, and has a snapshot of that. -/
def edit (host : Host) (task : Nat) (f : Config → Config) : Host :=
  { host with
    edits := host.edits ++ [f]
    taken := Function.update host.taken task (host.edits.length + 1) }

/-- The temporary file of a task is written or removed. -/
def setTemp (host : Host) (task : Nat) (content : Option (List UInt8)) : Host :=
  { host with temp := Function.update host.temp task content }

/-- A temporary file becomes the file. -/
def land (host : Host) (task : Nat) (snapshot : Config) (content : List UInt8) : Host :=
  { host.setTemp task none with
    file := some content
    landed := ⟨host.taken task, snapshot⟩ :: host.landed }

def perform (host : Host) (actor : Nat) (op : Op) (input : Input) : Option (op.Answer × Host) :=
  match op with
  | .boot => if host.booted = false then some ((), { host with booted := true }) else none
  | .readFile => some (host.read input.readable, host)
  | .exit => some ((), host)
  | .randomHex bytes =>
      if input.random.length = bytes then
        some (String.ofList (Hexadecimal.encode input.random), host)
      else
        none
  | .draft config f => some (f config, host.edit actor f)
  | .setConfig config => some ((), { host with config := some config })
  | .acquireWriter =>
      if host.writer = none then some ((), { host with writer := some actor }) else none
  | .releaseWriter => some ((), { host with writer := none })
  | .apply f =>
      host.config.map fun config => (f config, { host.edit actor f with config := some (f config) })
  | .modify f =>
      host.config.map fun config => ((), { host.edit actor f with config := some (f config) })
  | .createDir | .syncAll => some (input.done, host)
  | .openTemp =>
      if input.done = true ∧ host.temp actor = none then
        some (true, host.setTemp actor (some []))
      else
        some (false, host)
  | .writeSome bytes =>
      match input.written with
      | none => some (none, host)
      | some count =>
          some (some (min count bytes.length),
            host.setTemp actor ((host.temp actor).map (· ++ bytes.take (min count bytes.length))))
  | .rename snapshot =>
      if input.done then
        (host.temp actor).map fun content => (true, host.land actor snapshot content)
      else
        some (false, host)
  | .removeTemp => some ((), if input.done then host.setTemp actor none else host)

end Host

inductive Request
  | init
  | change (change : Change)

/-- What no task does. -/
inductive Event
  /-- Somebody puts another file in place while no process uses it. -/
  | replace (contents : Option (List UInt8))

section Format

variable (encode : Config → List UInt8) (decode : List UInt8 → Option Config)

/-- A change is only made once `init` has set the configuration. -/
def Host.accept (host : Host) : Request → Option (Task Unit × Host)
  | .init => some (init encode decode, host)
  | .change change => if host.config = none then none else some (change.run encode, host)

def Host.outside (host : Host) : Event → Option Host
  | .replace contents =>
      if host.booted then
        none
      else
        some { host with file := contents, base := contents, edits := [], landed := [] }

/-- Before the first start. -/
def install (file : Option (List UInt8)) : Host where
  file := file
  temp _ := none
  booted := false
  config := none
  writer := none
  base := file
  edits := []
  taken _ := 0
  landed := []

/-- One process. -/
def machine : Machine signature Host Request Input Event where
  initial host := ∃ file, host = install file
  accept host _ request := host.accept encode decode request
  perform := Host.perform
  outside := Host.outside

/-! ## What each task has done -/

structure Trace where
  /-- It runs `init`. -/
  booting : Bool := false
  /-- The configuration `init` has so far. -/
  config : Option Config := none
  /-- The random token it has drawn or filled in. -/
  token : Option String := none
  /-- It has the writer lock. -/
  writing : Bool := false
  /-- The snapshot it is about to save. -/
  snapshot : Option Config := none
  /-- What is in its temporary file. -/
  written : Option (List UInt8) := none

/-- The configuration in what was read. -/
def Reading.config : Reading → Option Config
  | .absent => some {}
  | .unreadable => none
  | .contents bytes => decode bytes

namespace Trace

def next (trace : Trace) : (op : Op) → op.Answer → Trace
  | .boot, _ => { booting := true }
  | .readFile, (reading : Reading) => { trace with config := reading.config decode }
  | .randomHex _, (token : String) => { trace with token := some token }
  | .draft _ _, (filled : Config) =>
      { trace with
        config := some filled
        token := some filled.togedemonToken
        snapshot := some filled }
  | .acquireWriter, _ => { trace with writing := true }
  | .apply _, (snapshot : Config) => { trace with snapshot := some snapshot }
  | .openTemp, true => { trace with written := some [] }
  | .writeSome bytes, some (count : Nat) =>
      { trace with written := trace.written.map (· ++ bytes.take count) }
  | .rename _, true => { trace with snapshot := none, written := none }
  | .removeTemp, _ => { trace with written := none }
  | .setConfig _, _ | .releaseWriter, _ => {}
  | _, _ => trace

/-- A closure which is not about the togedemon. -/
def KeepsToken (f : Config → Config) : Prop :=
  ∀ config, (f config).togedemonToken = config.togedemonToken

/-- What is moved into place was written as a whole, and no change is about the token. -/
def Allows (trace : Trace) : Op → Prop
  | .boot | .acquireWriter => trace = {}
  | .readFile => trace = { booting := true }
  | .exit => trace.booting = true
  | .draft config f =>
      ∃ token, trace = { booting := true, config := some config, token := some token } ∧
        config.togedemonToken = "" ∧ f = fillToken token
  | .setConfig config =>
      trace.booting = true ∧ trace.config = some config ∧
        (config.togedemonToken = "" → trace.token = some config.togedemonToken)
  | .releaseWriter => trace.writing = true
  | .apply f => trace = { writing := true } ∧ KeepsToken f
  | .modify f => trace = {} ∧ KeepsToken f
  | .rename snapshot =>
      trace.snapshot = some snapshot ∧ trace.written = some (encode snapshot)
  | .randomHex bytes => 0 < bytes
  | .createDir | .openTemp | .writeSome _ | .syncAll | .removeTemp => True

end Trace

def discipline : Discipline signature Trace where
  start := {}
  next := Trace.next decode
  allows := Trace.Allows encode

namespace Trace

variable {encode decode} {trace : Trace}

abbrev Guides {α : Type} (encode : Config → List UInt8) (decode : List UInt8 → Option Config)
    (trace : Trace) (task : Task α) (finish : α → Trace → Prop) : Prop :=
  task.Obeys (discipline encode decode) trace finish

/-- Whatever portions are written, at the end all is written. -/
theorem guides_writeAll (rest : List UInt8) (taken : Nat) {done : List UInt8}
    (written : trace.written = some done) :
    Guides encode decode trace (writeAll rest taken) fun whole after =>
      ∃ more, after = { trace with written := some more } ∧
        (whole = true → more = done ++ rest.drop taken) := by
  induction rest generalizing trace taken done with
  | nil => exact ⟨done, by rw [← written], by simp⟩
  | cons byte rest ih =>
      cases taken with
      | succ taken => exact ih taken written
      | zero =>
          apply Program.Obeys.perform trivial
          intro (count : Option Nat)
          match count with
          | none => exact ⟨done, by rw [← written]; rfl, by simp⟩
          | some 0 => exact ⟨done, by simp [discipline, next, written], by simp⟩
          | some (taken + 1) =>
              have step : (next decode trace (.writeSome (byte :: rest)) (some (taken + 1))).written
                  = some (done ++ (byte :: rest.take taken)) := by
                simp [next, written]
              refine (ih taken step).mono ?_
              rintro whole after ⟨more, rfl, complete⟩
              refine ⟨more, rfl, fun whole => ?_⟩
              rw [complete whole]
              simp

/-- A save changes nothing but what it has to save and what it has written. -/
structure Resumes (trace after : Trace) : Prop where
  booting : after.booting = trace.booting
  config : after.config = trace.config
  token : after.token = trace.token
  writing : after.writing = trace.writing

theorem guides_replaceFile {snapshot : Config} (saving : trace.snapshot = some snapshot) :
    Guides encode decode trace (replaceFile encode snapshot) fun _ after =>
      trace.Resumes after := by
  apply Program.Obeys.perform trivial
  intro (opened : Bool)
  cases opened with
  | false => exact ⟨rfl, rfl, rfl, rfl⟩
  | true =>
      apply Program.Obeys.bind
      have empty : (next decode trace .openTemp true).written = some [] := rfl
      refine (guides_writeAll (encode snapshot) 0 empty).mono ?_
      rintro whole after ⟨more, rfl, complete⟩
      cases whole with
      | false => exact ⟨rfl, rfl, rfl, rfl⟩
      | true =>
          apply Program.Obeys.perform trivial
          intro (synced : Bool)
          cases synced with
          | false => exact ⟨rfl, rfl, rfl, rfl⟩
          | true =>
              refine ⟨⟨saving, congrArg some ?_⟩, fun (moved : Bool) => ?_⟩
              · simpa using complete rfl
              · cases moved <;> exact ⟨rfl, rfl, rfl, rfl⟩

theorem guides_save {snapshot : Config} (saving : trace.snapshot = some snapshot) :
    Guides encode decode trace (save encode snapshot) fun _ after => trace.Resumes after := by
  apply Program.Obeys.perform trivial
  intro (created : Bool)
  cases created with
  | false => exact ⟨rfl, rfl, rfl, rfl⟩
  | true =>
      apply Program.Obeys.bind
      refine (guides_replaceFile saving).mono ?_
      intro saved after resumes
      cases saved with
      | true => exact resumes
      | false => exact ⟨trivial, fun _ => ⟨resumes.booting, resumes.config, resumes.token,
          resumes.writing⟩⟩

theorem guides_update {f : Config → Config} (keeps : KeepsToken f) :
    Guides encode decode {} (update encode f) fun _ _ => True := by
  apply Program.Obeys.perform rfl
  intro _
  refine Program.Obeys.perform ⟨rfl, keeps⟩ fun (snapshot : Config) => ?_
  apply Program.Obeys.bind
  refine (guides_save rfl).mono ?_
  intro saved after resumes
  exact ⟨resumes.writing, fun _ => trivial⟩

theorem guides_run (change : Change) :
    Guides encode decode {} (change.run encode) fun _ _ => True := by
  cases change with
  | invalidateSpotifyAccessToken =>
      exact ⟨⟨rfl, Change.apply_togedemonToken _⟩, fun _ => trivial⟩
  | _ => exact Program.Obeys.bind (guides_update (Change.apply_togedemonToken _))

theorem guides_withToken (config : Config) :
    Guides encode decode { booting := true, config := some config }
      (withToken encode config) fun filled after =>
        after.booting = true ∧ after.config = some filled ∧
          (filled.togedemonToken = "" → after.token = some filled.togedemonToken) := by
  unfold withToken
  split
  · rename_i missing
    refine Program.Obeys.perform (by decide : 0 < 24) fun (token : String) => ?_
    refine Program.Obeys.perform ⟨token, rfl, missing, rfl⟩ fun (filled : Config) => ?_
    apply Program.Obeys.bind
    refine (guides_save rfl).mono ?_
    intro saved after resumes
    exact ⟨resumes.booting, resumes.config, fun _ => resumes.token⟩
  · rename_i present
    exact ⟨rfl, rfl, fun missing => absurd missing present⟩

theorem guides_init : Guides encode decode {} (init encode decode) fun _ _ => True := by
  apply Program.Obeys.perform rfl
  intro _
  apply Program.Obeys.bind
  apply Program.Obeys.perform rfl
  intro (reading : Reading)
  have go_on : ∀ loaded, Guides encode decode { booting := true, config := loaded }
        (match loaded with
          | none => exit
          | some config => do
              let config ← withToken encode config
              setConfig config : Task Unit) fun _ _ => True := by
    intro loaded
    cases loaded with
    | none => exact ⟨rfl, fun _ => trivial⟩
    | some config =>
        apply Program.Obeys.bind
        refine (guides_withToken config).mono ?_
        rintro filled after ⟨booting, loaded, token⟩
        exact ⟨⟨booting, loaded, token⟩, fun _ => trivial⟩
  cases reading with
  | absent => exact go_on (some {})
  | unreadable => exact go_on none
  | contents bytes => exact go_on (decode bytes)

end Trace

/-! ## Nothing saved is lost -/

namespace Host

/-- The configuration that was put in place by hand; without a file, the default. -/
def baseConfig (host : Host) (decode : List UInt8 → Option Config) : Config :=
  match host.base with
  | none => {}
  | some bytes => (decode bytes).getD {}

/-- The file that was put in place by hand can be read. -/
def Readable (host : Host) (decode : List UInt8 → Option Config) : Prop :=
  ∀ bytes, host.base = some bytes → (decode bytes).isSome = true

/-- The configuration after all that was done to it. -/
def current (host : Host) (decode : List UInt8 → Option Config) : Config :=
  replay (host.baseConfig decode) host.edits

/-- What is on disk and what is in memory tell one story. -/
structure Kept (host : Host) (encode : Config → List UInt8)
    (decode : List UInt8 → Option Config) : Prop where
  /-- The file is the last snapshot, as a whole. -/
  whole : host.file = ((host.landed.head?).map fun last => encode last.value).or host.base
  /-- Every snapshot has the effect of all that was done before it, and so has the memory. -/
  landed : Landed (host.baseConfig decode) host.edits host.landed
  memory : ∀ config, host.config = some config → config = host.current decode
  /-- The togedemon's token is there, and stays what it was. -/
  present : ∀ config, host.config = some config → config.togedemonToken ≠ ""
  token : ∀ snapshot ∈ host.landed,
    snapshot.value.togedemonToken = (host.current decode).togedemonToken ∧
      snapshot.value.togedemonToken ≠ ""
  origin : (host.baseConfig decode).togedemonToken ≠ "" →
    (host.current decode).togedemonToken = (host.baseConfig decode).togedemonToken
  /-- A file which cannot be read is left alone. -/
  readable : host.landed ≠ [] ∨ host.config ≠ none → host.Readable decode

/-- What a task relies on. -/
structure Works (host : Host) (decode : List UInt8 → Option Config) (task : Nat) (trace : Trace) :
    Prop where
  booting : trace.booting = true → host.booted = true ∧ host.config = none
  unread : trace.booting = true → trace.config = none →
    host.edits.length ≤ durable host.landed
  config : ∀ config, trace.config = some config →
    trace.booting = true ∧ config = host.current decode ∧ host.Readable decode
  token : ∀ token, trace.token = some token → token ≠ ""
  lock : trace.writing = true → host.writer = some task
  saving : ∀ snapshot, trace.snapshot = some snapshot →
    trace.config ≠ none ∨ trace.writing = true ∧ host.config ≠ none
  complete : ∀ snapshot, trace.snapshot = some snapshot →
    Snapshot.Complete (host.baseConfig decode) host.edits ⟨host.taken task, snapshot⟩
  newer : ∀ snapshot, trace.snapshot = some snapshot →
    ∀ earlier ∈ host.landed, earlier.edits < host.taken task
  named : ∀ snapshot, trace.snapshot = some snapshot →
    snapshot.togedemonToken = (host.current decode).togedemonToken ∧
      snapshot.togedemonToken ≠ ""
  temp : ∀ content, trace.written = some content → host.temp task = some content

/-- The invariant of all interleavings of one process. -/
structure Durable (host : Host) (encode : Config → List UInt8)
    (decode : List UInt8 → Option Config) (traces : Nat → Trace) : Prop where
  kept : host.Kept encode decode
  settled : host.booted = false → host.config = none ∧ host.edits.length ≤ durable host.landed
  only : ∀ task other, (traces task).booting = true → (traces other).booting = true → task = other
  works : ∀ task, host.Works decode task (traces task)

variable {host after : Host} {traces : Nat → Trace} {actor task : Nat} {trace next : Trace}
  {encode decode}

/-- A task which has done nothing relies on nothing. -/
theorem works_of_idle : host.Works decode task {} :=
  ⟨by simp, by simp, by simp, by simp, by simp, by simp, by simp, by simp, by simp, by simp⟩

/-- The disk and the memory are as they were. -/
theorem Kept.congr (kept : host.Kept encode decode) (file : after.file = host.file)
    (config : after.config = host.config) (base : after.base = host.base)
    (edits : after.edits = host.edits) (landed : after.landed = host.landed) :
    after.Kept encode decode := by
  cases host
  cases after
  cases file
  cases config
  cases base
  cases edits
  cases landed
  exact ⟨kept.whole, kept.landed, kept.memory, kept.present, kept.token, kept.origin,
    kept.readable⟩

/-- A task with nothing in hand relies on little. -/
theorem Works.quiet (works : host.Works decode task trace) (started : trace.booting = false)
    (unsaved : trace.snapshot = none) (lock : trace.writing = true → after.writer = some task)
    (temp : after.temp task = host.temp task) : after.Works decode task trace := by
  have unread : trace.config = none := by
    by_contra read
    obtain ⟨config, read⟩ := Option.ne_none_iff_exists'.mp read
    simp [(works.config config read).1] at started
  refine ⟨by simp [started], by simp [started], by simp [unread], works.token, lock,
    by simp [unsaved], by simp [unsaved], by simp [unsaved], by simp [unsaved], ?_⟩
  rw [temp]
  exact works.temp

theorem edit_current (host : Host) (actor : Nat) (f : Config → Config) :
    (host.edit actor f).current decode = f (host.current decode) := by
  change replay (host.baseConfig decode) (host.edits ++ [f]) = _
  rw [replay_append, replay_singleton, current]

/-- One task has gone on. -/
theorem Durable.advance (durable : host.Durable encode decode traces)
    (kept : after.Kept encode decode)
    (settled : after.booted = false →
      after.config = none ∧ after.edits.length ≤ Journal.durable after.landed)
    (booting : next.booting = true → (traces actor).booting = true)
    (works : after.Works decode actor next)
    (others : ∀ task, task ≠ actor → after.Works decode task (traces task)) :
    after.Durable encode decode (Function.update traces actor next) := by
  have was : ∀ task, (Function.update traces actor next task).booting = true →
      (traces task).booting = true := by
    intro task
    by_cases same : task = actor
    · rw [same, Function.update_self]
      exact booting
    · rw [Function.update_of_ne same]
      exact id
  refine ⟨kept, settled, ?_, ?_⟩
  · exact fun task other mine theirs => durable.only task other (was task mine) (was other theirs)
  · exact (Function.forall_update_iff traces fun task trace =>
      after.Works decode task trace).mpr ⟨works, others⟩

/-- A task which changes nothing but what it knows. -/
theorem Durable.retrace (durable : host.Durable encode decode traces)
    (booting : next.booting = true → (traces actor).booting = true)
    (works : host.Works decode actor next) :
    host.Durable encode decode (Function.update traces actor next) :=
  durable.advance durable.kept durable.settled booting works fun task _ => durable.works task

/-- A task which changes nothing but its temporary file. -/
theorem Durable.setTemp (durable : host.Durable encode decode traces)
    {content : Option (List UInt8)} (booting : next.booting = true → (traces actor).booting = true)
    (works : (host.setTemp actor content).Works decode actor next) :
    (host.setTemp actor content).Durable encode decode (Function.update traces actor next) := by
  refine durable.advance (durable.kept.congr rfl rfl rfl rfl rfl) durable.settled booting works ?_
  intro task different
  have theirs := durable.works task
  refine ⟨theirs.booting, theirs.unread, theirs.config, theirs.token, theirs.lock, theirs.saving,
    theirs.complete, theirs.newer, theirs.named, ?_⟩
  change ∀ content, _ → Function.update host.temp actor _ task = some content
  rw [Function.update_of_ne different]
  exact theirs.temp

/-- Only one task at a time has something to save. -/
theorem Durable.quiet (durable : host.Durable encode decode traces)
    (busy : (traces actor).config ≠ none ∨ (traces actor).writing = true ∧ host.config ≠ none)
    {other : Nat} (different : other ≠ actor) :
    (traces other).booting = false ∧ (traces other).snapshot = none := by
  have mine := durable.works actor
  have theirs := durable.works other
  have started : (traces other).booting = false := by
    refine Bool.eq_false_iff.mpr fun booting => ?_
    rcases busy with read | ⟨-, set⟩
    · obtain ⟨config, read⟩ := Option.ne_none_iff_exists'.mp read
      exact different (durable.only other actor booting (mine.config config read).1)
    · exact set (theirs.booting booting).2
  refine ⟨started, ?_⟩
  by_contra saved
  obtain ⟨snapshot, saved⟩ := Option.ne_none_iff_exists'.mp saved
  rcases theirs.saving snapshot saved with read | ⟨writing, set⟩
  · obtain ⟨config, read⟩ := Option.ne_none_iff_exists'.mp read
    simp [(theirs.config config read).1] at started
  · rcases busy with read | ⟨locked, -⟩
    · obtain ⟨config, read⟩ := Option.ne_none_iff_exists'.mp read
      exact set (mine.booting (mine.config config read).1).2
    · have lock := theirs.lock writing
      rw [mine.lock locked] at lock
      exact different (Option.some.inj lock).symm

/-- The memory is gone, and so are the edits which were not saved. -/
theorem Kept.stop (kept : host.Kept encode decode) : host.stop.Kept encode decode := by
  have truncated := kept.landed.truncate
  have last : ∀ snapshot, host.landed.head? = some snapshot →
      snapshot.value = host.stop.current decode := fun snapshot head => kept.landed.head_value head
  have same : host.landed ≠ [] →
      (host.stop.current decode).togedemonToken = (host.current decode).togedemonToken := by
    intro some_landed
    obtain ⟨snapshot, rest, landed⟩ := List.exists_cons_of_ne_nil some_landed
    rw [← last snapshot (by rw [landed]; rfl)]
    exact (kept.token snapshot (by rw [landed]; exact List.mem_cons_self)).1
  refine ⟨kept.whole, truncated, by simp [Host.stop], by simp [Host.stop], ?_, ?_, ?_⟩
  · intro snapshot member
    obtain ⟨token, present⟩ := kept.token snapshot member
    exact ⟨token.trans (same (List.ne_nil_of_mem member)).symm, present⟩
  · intro origin
    by_cases landed : host.landed = []
    · have unsaved : host.stop.edits = [] := by
        simp [Host.stop, landed, durable]
      rw [current, unsaved]
      rfl
    · exact (same landed).trans (kept.origin origin)
  · rintro (landed | config)
    · exact kept.readable (.inl landed)
    · simp [Host.stop] at config

/-- What a process leaves behind, when nobody works on it. -/
theorem Durable.stop (durable : host.Durable encode decode traces) :
    host.stop.Durable encode decode fun _ => {} := by
  exact ⟨durable.kept.stop, fun _ => ⟨rfl, List.length_take_le _ _⟩, by simp,
    fun _ => works_of_idle⟩

/-- `init` begins. -/
theorem Durable.boot (durable : host.Durable encode decode traces) (fresh : host.booted = false) :
    { host with booted := true }.Durable encode decode
      (Function.update traces actor { booting := true }) := by
  obtain ⟨absent, settled⟩ := durable.settled fresh
  have nobody : ∀ task, (traces task).booting = false := by
    refine fun task => Bool.eq_false_iff.mpr fun booting => ?_
    exact absurd (fresh.symm.trans ((durable.works task).booting booting).1) (by decide)
  refine ⟨durable.kept.congr rfl rfl rfl rfl rfl, by simp, ?_, ?_⟩
  · have mine : ∀ task, (Function.update traces actor { booting := true } task).booting = true →
        task = actor := by
      intro task booting
      by_contra different
      rw [Function.update_of_ne different, nobody task] at booting
      cases booting
    exact fun task other mine_boots theirs => (mine task mine_boots).trans (mine other theirs).symm
  · refine (Function.forall_update_iff traces fun task trace =>
      Works _ decode task trace).mpr ⟨?_, ?_⟩
    · exact ⟨fun _ => ⟨rfl, absent⟩, fun _ _ => settled, by simp, by simp, by simp, by simp,
        by simp, by simp, by simp, by simp⟩
    · intro task _
      have theirs := durable.works task
      exact ⟨by simp [nobody task], theirs.unread, theirs.config, theirs.token, theirs.lock,
        theirs.saving, theirs.complete, theirs.newer, theirs.named, theirs.temp⟩

/-- Another task goes on after an edit. -/
theorem Works.edit (works : host.Works decode task trace) (started : trace.booting = false)
    {f : Config → Config}
    (token : (f (host.current decode)).togedemonToken = (host.current decode).togedemonToken)
    (different : task ≠ actor) {config : Config} :
    { host.edit actor f with config := some config }.Works decode task trace := by
  refine ⟨by simp [started], by simp [started], ?_, works.token, works.lock, ?_, ?_, ?_,
    ?_, works.temp⟩
  · intro config read
    simp [(works.config config read).1] at started
  · intro snapshot saved
    exact (works.saving snapshot saved).imp_right fun locked => ⟨locked.1, by simp⟩
  · intro snapshot saved
    have complete := (works.complete snapshot saved).edit f
    change Snapshot.Complete _ _ ⟨Function.update host.taken actor _ task, snapshot⟩
    rwa [Function.update_of_ne different]
  · intro snapshot saved earlier member
    change earlier.edits < Function.update host.taken actor _ task
    rw [Function.update_of_ne different]
    exact works.newer snapshot saved earlier member
  · intro snapshot saved
    change _ = ((host.edit actor f).current decode).togedemonToken ∧ _
    rw [edit_current, token]
    exact works.named snapshot saved

/-- The configuration is changed in memory. -/
theorem Kept.edit (kept : host.Kept encode decode) {f : Config → Config}
    (keeps : Trace.KeepsToken f) {config : Config} (set : host.config = some config) :
    { host.edit actor f with config := some (f config) }.Kept encode decode := by
  obtain rfl := kept.memory config set
  have now : { host.edit actor f with config := some (f (host.current decode)) }.current decode =
      f (host.current decode) := edit_current host actor f
  refine ⟨kept.whole, kept.landed.edit f, ?_, ?_, ?_, ?_, ?_⟩
  · intro config same
    rw [now]
    exact (Option.some.inj same).symm
  · intro config same
    obtain rfl := Option.some.inj same
    rw [keeps]
    exact kept.present _ set
  · rw [now, keeps]
    exact kept.token
  · rw [now, keeps]
    exact kept.origin
  · exact fun _ => kept.readable (.inr (by simp [set]))

/-- A task changes the configuration in memory, and may take a snapshot. -/
theorem Durable.edit (durable : host.Durable encode decode traces) {f : Config → Config}
    (keeps : Trace.KeepsToken f) {config : Config} (set : host.config = some config)
    (booting : next.booting = true → (traces actor).booting = true)
    (works : { host.edit actor f with config := some (f config) }.Works decode actor next) :
    { host.edit actor f with config := some (f config) }.Durable encode decode
      (Function.update traces actor next) := by
  refine durable.advance (durable.kept.edit keeps set) ?_ booting works ?_
  · intro unbooted
    exact absurd ((durable.settled unbooted).1.symm.trans set) (by simp)
  · intro task different
    have theirs := durable.works task
    have started : (traces task).booting = false := by
      refine Bool.eq_false_iff.mpr fun booting => ?_
      simp [(theirs.booting booting).2] at set
    exact theirs.edit started (keeps _) different

/-- A snapshot taken right after an edit has everything. -/
theorem complete_edit (host : Host) (actor : Nat) (f : Config → Config) {snapshot : Config}
    (now : snapshot = f (host.current decode)) :
    Snapshot.Complete (host.baseConfig decode) (host.edits ++ [f])
      ⟨Function.update host.taken actor (host.edits.length + 1) actor, snapshot⟩ := by
  have complete := Snapshot.complete_now (host.baseConfig decode) (host.edits ++ [f])
  rw [List.length_append, List.length_singleton, replay_append, replay_singleton] at complete
  rw [Function.update_self, now]
  exact complete

/-- It is newer than all which are in place. -/
theorem Kept.newer (kept : host.Kept encode decode) (actor : Nat) :
    ∀ earlier ∈ host.landed,
      earlier.edits < Function.update host.taken actor (host.edits.length + 1) actor := by
  intro earlier member
  rw [Function.update_self]
  exact Nat.lt_succ_of_le (kept.landed.complete earlier member).edits_le

/-- `config::update` applies its closure. -/
theorem Durable.apply (durable : host.Durable encode decode traces)
    (writing : traces actor = { writing := true }) {f : Config → Config}
    (keeps : Trace.KeepsToken f) {config : Config} (set : host.config = some config) :
    { host.edit actor f with config := some (f config) }.Durable encode decode
      (Function.update traces actor { writing := true, snapshot := some (f config) }) := by
  have mine := durable.works actor
  rw [writing] at mine
  have now := durable.kept.memory config set
  apply durable.edit keeps set (by simp)
  refine ⟨by simp, by simp, by simp, by simp, mine.lock, by simp, ?_, ?_, ?_, by simp⟩
  · intro snapshot saved
    obtain rfl := Option.some.inj saved
    exact complete_edit host actor f (congrArg f now)
  · intro snapshot _
    exact durable.kept.newer actor
  · intro snapshot saved
    obtain rfl := Option.some.inj saved
    refine ⟨?_, ?_⟩
    · change _ = ((host.edit actor f).current decode).togedemonToken
      rw [edit_current, now]
    · rw [keeps]
      exact durable.kept.present config set

/-- `init` fills in a token. -/
theorem Durable.draft (durable : host.Durable encode decode traces)
    {config : Config} {token : String}
    (drawn : traces actor = { booting := true, config := some config, token := some token })
    (missing : config.togedemonToken = "") :
    (host.edit actor (fillToken token)).Durable encode decode (Function.update traces actor
      { booting := true
        config := some (fillToken token config)
        token := some (fillToken token config).togedemonToken
        snapshot := some (fillToken token config) }) := by
  have mine := durable.works actor
  rw [drawn] at mine
  obtain ⟨booted, absent⟩ := mine.booting rfl
  obtain ⟨-, rfl, readable⟩ := mine.config config rfl
  have present : token ≠ "" := mine.token token rfl
  have nothing : host.landed = [] := by
    refine List.eq_nil_iff_forall_not_mem.mpr fun snapshot member => ?_
    obtain ⟨same, named⟩ := durable.kept.token snapshot member
    exact named (same.trans missing)
  have unnamed : (host.baseConfig decode).togedemonToken = "" := by
    by_contra named
    exact named ((durable.kept.origin named).symm.trans missing)
  have now : (host.edit actor (fillToken token)).current decode =
      fillToken token (host.current decode) := edit_current host actor _
  have kept : (host.edit actor (fillToken token)).Kept encode decode := by
    refine ⟨durable.kept.whole, durable.kept.landed.edit _, ?_, ?_, ?_, ?_, fun _ => readable⟩
    · intro config set
      exact absurd (absent.symm.trans set) (by simp)
    · intro config set
      exact absurd (absent.symm.trans set) (by simp)
    · intro snapshot member
      exact absurd (nothing ▸ member : snapshot ∈ []) (by simp)
    · exact fun named => absurd unnamed named
  refine durable.advance kept ?_ (by simp [drawn]) ?_ ?_
  · exact fun unbooted => absurd (booted.symm.trans unbooted) (by decide)
  · refine ⟨fun _ => ⟨booted, absent⟩, by simp, ?_, ?_, by simp, by simp, ?_, ?_, ?_, by simp⟩
    · intro config loaded
      obtain rfl := Option.some.inj loaded
      exact ⟨rfl, now.symm, readable⟩
    · intro other drawn
      obtain rfl := Option.some.inj drawn
      exact present
    · intro snapshot saved
      obtain rfl := Option.some.inj saved
      exact complete_edit host actor _ rfl
    · intro snapshot _
      exact durable.kept.newer actor
    · intro snapshot saved
      obtain rfl := Option.some.inj saved
      exact ⟨congrArg _ now.symm, present⟩
  · intro task different
    obtain ⟨started, unsaved⟩ := durable.quiet (.inl (by simp [drawn])) different
    have theirs := durable.works task
    exact theirs.quiet started unsaved theirs.lock rfl

/-- A snapshot is moved into place. -/
theorem Durable.land (durable : host.Durable encode decode traces) {snapshot : Config}
    {content : List UInt8} (saved : (traces actor).snapshot = some snapshot)
    (written : content = encode snapshot) :
    (host.land actor snapshot content).Durable encode decode (Function.update traces actor
      { traces actor with snapshot := none, written := none }) := by
  have mine := durable.works actor
  have complete := mine.complete snapshot saved
  have named := mine.named snapshot saved
  have busy := mine.saving snapshot saved
  have readable : host.Readable decode := by
    rcases busy with loaded | ⟨-, set⟩
    · obtain ⟨config, loaded⟩ := Option.ne_none_iff_exists'.mp loaded
      exact (mine.config config loaded).2.2
    · exact durable.kept.readable (.inr set)
  have kept : (host.land actor snapshot content).Kept encode decode := by
    refine ⟨by simp [Host.land, written], ?_, durable.kept.memory, durable.kept.present, ?_,
      durable.kept.origin, fun _ => readable⟩
    · exact durable.kept.landed.land complete (mine.newer snapshot saved)
    · intro other member
      rcases List.mem_cons.mp member with rfl | before
      · exact named
      · exact durable.kept.token other before
  have booted : host.booted = true := by
    by_contra unbooted
    obtain ⟨absent, -⟩ := durable.settled (by simpa using unbooted)
    rcases busy with loaded | ⟨-, set⟩
    · obtain ⟨config, loaded⟩ := Option.ne_none_iff_exists'.mp loaded
      exact unbooted (mine.booting (mine.config config loaded).1).1
    · exact set absent
  refine durable.advance kept ?_ id ?_ ?_
  · exact fun unbooted => absurd (booted.symm.trans unbooted) (by decide)
  · refine ⟨mine.booting, ?_, mine.config, mine.token, mine.lock, by simp, by simp, by simp,
      by simp, by simp⟩
    intro booting unread
    rcases busy with loaded | ⟨-, set⟩
    · exact absurd unread loaded
    · exact absurd (mine.booting booting).2 set
  · intro task different
    obtain ⟨started, unsaved⟩ := durable.quiet busy different
    have theirs := durable.works task
    exact theirs.quiet started unsaved theirs.lock (Function.update_of_ne different _ _)

/-- `init` is done. -/
theorem Durable.setConfig (durable : host.Durable encode decode traces) {config : Config}
    (allowed : (traces actor).Allows encode (.setConfig config)) :
    { host with config := some config }.Durable encode decode
      (Function.update traces actor {}) := by
  obtain ⟨booting, loaded, named⟩ := allowed
  have mine := durable.works actor
  obtain ⟨booted, absent⟩ := mine.booting booting
  obtain ⟨-, rfl, readable⟩ := mine.config config loaded
  have present : (host.current decode).togedemonToken ≠ "" :=
    fun missing => mine.token _ (named missing) missing
  have kept : { host with config := some (host.current decode) }.Kept encode decode := by
    refine ⟨durable.kept.whole, durable.kept.landed, ?_, ?_, durable.kept.token,
      durable.kept.origin, fun _ => readable⟩
    · rintro config same
      exact (Option.some.inj same).symm
    · rintro config same
      obtain rfl := Option.some.inj same
      exact present
  refine durable.advance kept ?_ (by simp) works_of_idle ?_
  · exact fun unbooted => absurd (booted.symm.trans unbooted) (by decide)
  · intro task different
    obtain ⟨started, unsaved⟩ := durable.quiet (.inl (by simp [loaded])) different
    have theirs := durable.works task
    exact theirs.quiet started unsaved theirs.lock rfl

/-- The writer lock changes hands. -/
theorem Durable.relock (durable : host.Durable encode decode traces) {writer : Option Nat}
    (works : { host with writer := writer }.Works decode actor next)
    (booting : next.booting = true → (traces actor).booting = true)
    (others : ∀ task, task ≠ actor → (traces task).writing = false) :
    { host with writer := writer }.Durable encode decode (Function.update traces actor next) := by
  refine durable.advance (durable.kept.congr rfl rfl rfl rfl rfl) durable.settled booting works ?_
  intro task different
  have theirs := durable.works task
  exact ⟨theirs.booting, theirs.unread, theirs.config, theirs.token,
    by simp [others task different], theirs.saving, theirs.complete, theirs.newer, theirs.named,
    theirs.temp⟩

/-- What a task has written is in its temporary file. -/
theorem Works.rewrite (works : host.Works decode task trace) {content written : Option (List UInt8)}
    (holds : ∀ bytes, written = some bytes → content = some bytes) :
    (host.setTemp task content).Works decode task { trace with written := written } := by
  refine ⟨works.booting, works.unread, works.config, works.token, works.lock, works.saving,
    works.complete, works.newer, works.named, ?_⟩
  intro bytes shown
  change Function.update host.temp task content task = some bytes
  rw [Function.update_self]
  exact holds bytes shown

/-- What is read is what was there when the last process ended. -/
theorem Durable.read (durable : host.Durable encode decode traces)
    (settled : host.edits.length ≤ Journal.durable host.landed)
    (readsBack : ∀ last, host.landed.head? = some last →
      decode (encode last.value) = some last.value)
    {readable : Bool} {config : Config}
    (loaded : (host.read readable).config decode = some config) :
    config = host.current decode ∧ host.Readable decode := by
  cases readable with
  | false => simp [Host.read, Reading.config] at loaded
  | true =>
      have whole := durable.kept.whole
      cases head : host.landed.head? with
      | some last =>
          rw [head, Option.map_some, Option.some_or] at whole
          have value := durable.kept.landed.head_value head
          rw [List.take_of_length_le settled] at value
          simp only [Host.read, whole, if_true, Reading.config, readsBack last head,
            Option.some.injEq] at loaded
          refine ⟨loaded.symm.trans value, durable.kept.readable (.inl ?_)⟩
          rintro empty
          simp [empty] at head
      | none =>
          have nothing : host.landed = [] := List.head?_eq_none_iff.mp head
          have untouched : host.edits = [] := by
            rw [nothing] at settled
            exact List.eq_nil_of_length_eq_zero (Nat.le_zero.mp settled)
          rw [head, Option.map_none, Option.none_or] at whole
          have now : host.current decode = host.baseConfig decode := by
            rw [current, untouched]
            rfl
          rw [now, baseConfig]
          cases base : host.base with
          | none =>
              rw [base] at whole
              simp only [Host.read, whole, if_true, Reading.config, Option.some.injEq] at loaded
              exact ⟨loaded.symm, fun bytes known => by simp [base] at known⟩
          | some bytes =>
              rw [base] at whole
              simp only [Host.read, whole, if_true, Reading.config] at loaded
              refine ⟨by simp [loaded], fun other known => ?_⟩
              obtain rfl := Option.some.inj (base.symm.trans known)
              rw [loaded]
              rfl

theorem randomHex_ne_empty {random : List UInt8} (some_bytes : 0 < random.length) :
    String.ofList (Hexadecimal.encode random) ≠ "" := by
  intro empty
  have digits := congrArg String.toList empty
  rw [String.toList_ofList] at digits
  have length := congrArg List.length digits
  simp only [Hexadecimal.length_encode, String.toList_empty, List.length_nil] at length
  omega

end Host

/-- What was saved is read back as it was. -/
def ReadsBack (host : Host) (_ : Nat → Trace) (_ : Nat) (op : Op) (_ : Input) : Prop :=
  match op with
  | .readFile => ∀ last, host.landed.head? = some last →
      decode (encode last.value) = some last.value
  | _ => True

instance (host : Host) (traces : Nat → Trace) (actor : Nat) (op : Op) (input : Input) :
    Decidable (ReadsBack encode decode host traces actor op input) := by
  cases op with
  | readFile =>
      change Decidable (∀ last, host.landed.head? = some last →
        decode (encode last.value) = some last.value)
      cases host.landed.head? with
      | none => exact isTrue (by simp)
      | some last =>
          exact decidable_of_iff (decode (encode last.value) = some last.value) (by simp)
  | _ => exact isTrue trivial

namespace Host

variable {encode decode} {host after : Host} {traces : Nat → Trace} {actor : Nat}

/-- Every operation of a process keeps the invariant. -/
theorem Durable.perform (durable : host.Durable encode decode traces) {op : Op} {input : Input}
    {answer : op.Answer} (allowed : (traces actor).Allows encode op)
    (readsBack : ReadsBack encode decode host traces actor op input)
    (performed : host.perform actor op input = some (answer, after)) :
    after.Durable encode decode
      (Function.update traces actor ((traces actor).next decode op answer)) := by
  have mine := durable.works actor
  cases op with
  | boot =>
      obtain ⟨fresh, -, rfl⟩ := of_guarded_answer performed
      exact durable.boot fresh
  | readFile =>
      obtain ⟨rfl, rfl⟩ := Prod.mk.inj (Option.some.inj performed)
      have fresh : traces actor = { booting := true } := allowed
      have booting := mine.booting (by rw [fresh])
      have settled := mine.unread (by rw [fresh]) (by rw [fresh])
      refine durable.retrace id ?_
      change host.Works decode actor
        { traces actor with config := (host.read input.readable).config decode }
      rw [fresh]
      refine ⟨fun _ => booting, fun _ _ => settled, ?_, by simp, by simp, by simp, by simp,
        by simp, by simp, by simp⟩
      intro config loaded
      exact ⟨rfl, durable.read settled readsBack loaded⟩
  | exit | createDir | syncAll =>
      obtain ⟨-, rfl⟩ := Prod.mk.inj (Option.some.inj performed)
      exact durable.retrace id mine
  | randomHex bytes =>
      obtain ⟨drawn, rfl, rfl⟩ := of_guarded_answer performed
      refine durable.retrace id ⟨mine.booting, mine.unread, mine.config, ?_, mine.lock,
        mine.saving, mine.complete, mine.newer, mine.named, mine.temp⟩
      intro token same
      obtain rfl := Option.some.inj same
      exact randomHex_ne_empty (drawn.trans_gt allowed)
  | draft config f =>
      obtain ⟨rfl, rfl⟩ := Prod.mk.inj (Option.some.inj performed)
      obtain ⟨token, drawn, missing, rfl⟩ := allowed
      have drafted := durable.draft drawn missing
      change Durable _ encode decode (Function.update traces actor
        { traces actor with
          config := some (fillToken token config)
          token := some (fillToken token config).togedemonToken
          snapshot := some (fillToken token config) })
      rwa [drawn]
  | setConfig config =>
      obtain ⟨-, rfl⟩ := Prod.mk.inj (Option.some.inj performed)
      exact durable.setConfig allowed
  | acquireWriter =>
      obtain ⟨free, -, rfl⟩ := of_guarded_answer performed
      have idle : traces actor = {} := allowed
      refine durable.relock ?_ id ?_
      · change Works _ decode actor { traces actor with writing := true }
        rw [idle]
        exact ⟨by simp, by simp, by simp, by simp, fun _ => rfl, by simp, by simp, by simp, by simp,
          by simp⟩
      · intro task _
        refine Bool.eq_false_iff.mpr fun writing => ?_
        simp [(durable.works task).lock writing] at free
  | releaseWriter =>
      obtain ⟨-, rfl⟩ := Prod.mk.inj (Option.some.inj performed)
      have locked := mine.lock allowed
      refine durable.relock works_of_idle (by simp [Trace.next]) fun task different => ?_
      refine Bool.eq_false_iff.mpr fun writing => ?_
      have lock := (durable.works task).lock writing
      rw [locked] at lock
      exact different (Option.some.inj lock).symm
  | apply f =>
      obtain ⟨config, set, same⟩ := Option.map_eq_some_iff.mp performed
      obtain ⟨rfl, rfl⟩ := Prod.mk.inj same
      obtain ⟨writing, keeps⟩ := allowed
      have applied := durable.apply writing keeps set
      change Durable _ encode decode
        (Function.update traces actor { traces actor with snapshot := some (f config) })
      rwa [writing]
  | modify f =>
      obtain ⟨config, set, same⟩ := Option.map_eq_some_iff.mp performed
      obtain ⟨-, rfl⟩ := Prod.mk.inj same
      obtain ⟨idle, keeps⟩ := allowed
      refine durable.edit keeps set id ?_
      change Works _ decode actor (traces actor)
      rw [idle]
      exact works_of_idle
  | openTemp =>
      simp only [Host.perform] at performed
      split at performed
      · obtain ⟨rfl, rfl⟩ := Prod.mk.inj (Option.some.inj performed)
        exact durable.setTemp id (mine.rewrite fun _ written => written)
      · obtain ⟨rfl, rfl⟩ := Prod.mk.inj (Option.some.inj performed)
        exact durable.retrace id mine
  | writeSome bytes =>
      simp only [Host.perform] at performed
      cases count : input.written with
      | none =>
          rw [count] at performed
          obtain ⟨rfl, rfl⟩ := Prod.mk.inj (Option.some.inj performed)
          exact durable.retrace id mine
      | some count =>
          rw [count] at performed
          obtain ⟨rfl, rfl⟩ := Prod.mk.inj (Option.some.inj performed)
          refine durable.setTemp id (mine.rewrite fun content written => ?_)
          obtain ⟨before, held, rfl⟩ := Option.map_eq_some_iff.mp written
          rw [mine.temp before held, Option.map_some]
  | rename snapshot =>
      simp only [Host.perform] at performed
      split at performed
      · obtain ⟨content, held, same⟩ := Option.map_eq_some_iff.mp performed
        obtain ⟨rfl, rfl⟩ := Prod.mk.inj same
        obtain ⟨saved, written⟩ := allowed
        have whole := Option.some.inj (held.symm.trans (mine.temp _ written))
        exact durable.land saved whole
      · obtain ⟨rfl, rfl⟩ := Prod.mk.inj (Option.some.inj performed)
        exact durable.retrace id mine
  | removeTemp =>
      obtain ⟨-, rfl⟩ := Prod.mk.inj (Option.some.inj performed)
      split
      · exact durable.setTemp id (mine.rewrite (by simp))
      · exact durable.retrace id ⟨mine.booting, mine.unread, mine.config, mine.token, mine.lock,
          mine.saving, mine.complete, mine.newer, mine.named, by simp [Trace.next]⟩

/-- A file is put in place before `init` begins. -/
theorem Durable.replace (durable : host.Durable encode decode traces)
    (fresh : host.booted = false) (contents : Option (List UInt8)) :
    { host with file := contents, base := contents, edits := [], landed := [] }.Durable encode
      decode traces := by
  obtain ⟨absent, -⟩ := durable.settled fresh
  have started : ∀ task, (traces task).booting = false := by
    refine fun task => Bool.eq_false_iff.mpr fun booting => ?_
    exact absurd (fresh.symm.trans ((durable.works task).booting booting).1) (by decide)
  have unsaved : ∀ task, (traces task).snapshot = none := by
    intro task
    by_contra saved
    obtain ⟨snapshot, saved⟩ := Option.ne_none_iff_exists'.mp saved
    have works := durable.works task
    rcases works.saving snapshot saved with read | ⟨-, set⟩
    · obtain ⟨config, read⟩ := Option.ne_none_iff_exists'.mp read
      exact absurd ((started task).symm.trans (works.config config read).1) (by decide)
    · exact set absent
  refine ⟨⟨rfl, .nil _ _, ?_, ?_, by simp, fun _ => rfl, ?_⟩,
    fun _ => ⟨absent, Nat.zero_le _⟩, durable.only, ?_⟩
  · intro config set
    simp [absent] at set
  · intro config set
    simp [absent] at set
  · rintro (landed | set)
    · simp at landed
    · simp [absent] at set
  · intro task
    have works := durable.works task
    exact works.quiet (started task) (unsaved task) works.lock rfl

end Host

theorem safe : (machine encode decode).Safe (discipline encode decode) (ReadsBack encode decode)
    fun host traces => host.Durable encode decode traces where
  initial := by
    rintro _ ⟨file, rfl⟩
    exact ⟨⟨rfl, .nil _ _, by simp [install], by simp [install], by simp [install],
      fun _ => rfl, by simp [install]⟩, fun _ => ⟨rfl, Nat.le_refl _⟩, by simp [discipline],
      fun _ => Host.works_of_idle⟩
  accept := by
    intro host traces actor request program after durable idle accepted
    cases request with
    | init =>
        obtain ⟨rfl, rfl⟩ := Prod.mk.inj (Option.some.inj accepted)
        exact ⟨durable, Trace.guides_init⟩
    | change change =>
        simp only [machine, Host.accept] at accepted
        split at accepted
        · cases accepted
        · obtain ⟨rfl, rfl⟩ := Prod.mk.inj (Option.some.inj accepted)
          exact ⟨durable, Trace.guides_run change⟩
  perform host traces actor op input answer after durable allowed readsBack performed :=
    durable.perform allowed readsBack performed
  outside := by
    intro host traces event after durable changed
    cases event with
    | replace contents =>
        simp only [machine, Host.outside] at changed
        split at changed
        · cases changed
        · rename_i fresh
          obtain rfl := Option.some.inj changed
          exact durable.replace (by simpa using fresh) contents

/-- One process after another. -/
def restarting : Machine signature (Hosted Host) Request Input (Disruption Event) :=
  (machine encode decode).restarting Host.stop

/-- All interleavings of changes, over any number of processes. -/
abbrev system := (restarting encode decode).system (discipline encode decode)

/-- What was saved is read back as it was, in whichever process. -/
abbrev ReadsBackAgain :=
  Machine.Permitted (discipline encode decode) (ReadsBack encode decode)

/-- Whenever the server is stopped and started again: the file is a whole snapshot, or what was put
there by hand; every snapshot which was moved into place is part of what is in memory now; the token
stays the same; and nothing starts from, or overwrites, a file which cannot be read. -/
theorem restarts_keep_what_was_saved {pool : Pool signature (Hosted Host) Trace}
    (reach : (system encode decode).ReachableUnder
      (Machine.Permits (ReadsBackAgain encode decode)) pool) :
    pool.shared.shared.Kept encode decode := by
  have halts : ∀ host traces, Host.Durable host encode decode traces →
      host.stop.Durable encode decode fun _ => (discipline encode decode).start :=
    fun _ _ durable => durable.stop
  exact ((safe encode decode).restarting halts |>.guarded reach).holds.holds.kept

end Format

/-! ### A save which is cut short -/

/-- A field of the file. -/
def field (name : String) (value : List Char) : List Char :=
  "  \"".toList ++ name.toList ++ "\": ".toList ++ value ++ ",\n".toList

def quoted (text : String) : List Char := '"' :: text.toList ++ ['"']

def flag (value : Bool) : List Char := (if value then "true" else "false").toList

/-- The file of a configuration with default settings. -/
def exampleEncode (config : Config) : List UInt8 :=
  ("\x7b\n".toList ++ field "log_level" (quoted config.logLevel) ++
    field "admin_password_hash" (quoted config.adminPasswordHash) ++
    field "togedemon_token" (quoted config.togedemonToken) ++
    field "cache_max_mb" "2048".toList ++ field "audio_bitrate" (quoted config.audioBitrate) ++
    field "normalization" (quoted "off") ++
    field "low_data_streaming" (flag config.lowDataStreaming) ++
    field "player_enabled" (flag config.playerEnabled) ++
    field "togematch_api" (quoted config.togematchApi) ++
    "  \"cover_art\": \"640\"\n\x7d".toList).map fun char => UInt8.ofNat char.toNat

def exampleRandom : List UInt8 := List.replicate 24 171

/-- What a first start saves. -/
def installed : Config :=
  fillToken (String.ofList (Hexadecimal.encode exampleRandom)) {}

def exampleDecode (bytes : List UInt8) : Option Config :=
  if bytes = exampleEncode installed then some installed else none

def advance (count actor : Nat) (input : Input) :
    List (PoolEvent Request Input (Disruption Event)) :=
  List.replicate count (.advance actor input)

/-- The first start saves a token, a later save is cut short, and the server starts again. -/
def cutShort : List (PoolEvent Request Input (Disruption Event)) :=
  [.start .init] ++ advance 8 0 { random := exampleRandom, written := some 200 } ++
    advance 3 0 {} ++
    [.start (.change (.playerEnabled true))] ++ advance 5 1 { written := some 100 } ++
    [.outside .stop, .outside .start, .start .init] ++ advance 3 2 {}

theorem cutShort_keeps_what_was_saved :
    let pool := (system exampleEncode exampleDecode).final
      (Machine.boot (discipline exampleEncode exampleDecode) (.first (install none))) cutShort
      (by decide +kernel)
    pool.shared.shared.config = some installed ∧
      pool.shared.shared.Kept exampleEncode exampleDecode := by
  intro pool
  refine ⟨by decide +kernel, restarts_keep_what_was_saved exampleEncode exampleDecode
    (System.ReachableUnder.final ?_ ?_ _)⟩
  · exact ⟨_, ⟨_, ⟨none, rfl⟩, rfl⟩, rfl⟩
  · decide +kernel

end Togewire.Settings.Restarts
