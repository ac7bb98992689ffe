import Mathlib.Logic.Function.Basic
import Togewire.Foundation.Program

/-!
# The shared cooldown

A 429 answer sets a cell which every request looks at before it is sent.  As long as no running
cooldown is cleared or shortened, and none is set between a request's look at the cell and its
departure, no request is sent before the end of a cooldown.
-/

namespace Togewire.Spotify.RateLimit

open Interleaving Transition

/-- `MIN_RATE_LIMIT_COOLDOWN_SECS` -/
def minRateLimitCooldownSecs : Nat := 10

/-! ## Answers -/

/-- An answer of Spotify. -/
structure Response where
  status : Nat
  /-- The status as it is displayed. -/
  statusText : String := ""
  /-- The bytes of the header. -/
  retryAfter : Option (List UInt8) := none
  json : Except String String := .ok ""

/-- The text of a header, if it is visible ASCII. -/
def toStr (value : List UInt8) : Option (List Char) :=
  if value.all fun byte => (32 ≤ byte && byte < 127) || byte == 9 then
    some (value.map fun byte => Char.ofNat byte.toNat)
  else
    none

/-- The digits of a number, read from the left. -/
def parseDigits : Nat → List Char → Option Nat
  | value, [] => some value
  | value, digit :: rest =>
      if digit.isDigit then parseDigits (10 * value + (digit.toNat - '0'.toNat)) rest else none

/-- `u64::MAX` -/
def u64Max : Nat := 18446744073709551615

/-- `parse::<u64>`: digits after an optional plus sign. -/
def parseU64 (text : List Char) : Option Nat :=
  let digits :=
    match text with
    | '+' :: rest => rest
    | text => text
  if digits = [] then none else (parseDigits 0 digits).filter fun value => value ≤ u64Max

/-- The seconds to wait after a 429. -/
def Response.cooldownSecs (response : Response) : Nat :=
  let asked := (response.retryAfter.bind toStr).bind parseU64
  max minRateLimitCooldownSecs (min (asked.getD minRateLimitCooldownSecs) 120)

theorem Response.cooldownSecs_bounds (response : Response) :
    10 ≤ response.cooldownSecs ∧ response.cooldownSecs ≤ 120 :=
  ⟨Nat.le_max_left _ _, Nat.max_le.mpr ⟨by decide, Nat.min_le_right _ _⟩⟩

/-- `Retry-After: 60` -/
example : ({ status := 429, retryAfter := some [54, 48] } : Response).cooldownSecs = 60 := by decide

/-! ## Operations -/

/-- What a 429 answer has set. -/
structure Cooldown where
  answered : Nat
  secs : Nat
  deriving DecidableEq

/-- When a cooldown is over. -/
def Cooldown.ends (cooldown : Cooldown) : Nat := cooldown.answered + 1000 * cooldown.secs

/-- A request on its way, with the cooldowns set before. -/
structure Sent where
  sentAt : Nat
  cooldowns : List Cooldown

/-- The cell which calls share, the clock, and the history of requests and cooldowns. -/
structure Client where
  /-- Milliseconds of the monotonic clock. -/
  now : Nat
  rateLimitUntil : Option Nat
  /-- History: the cooldowns set. -/
  cooldowns : List Cooldown
  /-- History: the cooldowns set since each call has looked at the cell. -/
  unseen : Nat → List Cooldown
  /-- History: the requests sent. -/
  sent : List Sent

/-- The operations of a call. -/
inductive Op
  | accessToken
  | readRateLimit
  | instantNow
  | sleep (remaining : Nat)
  | wake (deadline : Nat)
  | send (token : String)
  | receive
  | clearCachedToken
  | invalidateAccessToken
  | setRateLimit (cooldown : Cooldown)
  | clearRateLimit

def Op.Answer : Op → Type
  | accessToken => Except String String
  | readRateLimit => Option Nat
  | instantNow | sleep _ => Nat
  | receive => Except String Response
  | wake _ | send _ | clearCachedToken | invalidateAccessToken | setRateLimit _
  | clearRateLimit => Unit

abbrev signature : Signature := ⟨Op, Op.Answer⟩

abbrev Task := Program signature

/-- What the outside world contributes to a step. -/
structure Input where
  token : Except String String := .ok ""
  response : Except String Response := .error ""

namespace Client

/-- The cell's end of the cooldown. -/
def holdsUntil (client : Client) : Nat := client.rateLimitUntil.getD 0

/-- A call looks at the cell: it has seen every cooldown so far. -/
def readRateLimit (client : Client) (actor : Nat) : Client :=
  { client with unseen := Function.update client.unseen actor [] }

/-- A request is sent. -/
def send (client : Client) : Client :=
  { client with sent := ⟨client.now, client.cooldowns⟩ :: client.sent }

/-- A cooldown is set. -/
def setRateLimit (client : Client) (cooldown : Cooldown) : Client :=
  { client with
    rateLimitUntil := some cooldown.ends
    cooldowns := cooldown :: client.cooldowns
    unseen := fun call => cooldown :: client.unseen call }

/-- The effect of one operation.  A sleeper wakes at its deadline or later. -/
def perform (client : Client) (actor : Nat) (op : Op) (input : Input) :
    Option (op.Answer × Client) :=
  match op with
  | .accessToken => some (input.token, client)
  | .readRateLimit => some (client.rateLimitUntil, client.readRateLimit actor)
  | .instantNow => some (client.now, client)
  | .sleep remaining => some (client.now + remaining, client)
  | .wake deadline => if deadline ≤ client.now then some ((), client) else none
  | .send _ => some ((), client.send)
  | .receive => some (input.response, client)
  | .clearCachedToken | .invalidateAccessToken => some ((), client)
  | .setRateLimit cooldown => some ((), client.setRateLimit cooldown)
  | .clearRateLimit => some ((), { client with rateLimitUntil := none })

end Client

/-! ## Calls -/

def ask (op : Op) : Task op.Answer := Program.perform (S := signature) op

def accessToken : Task (Except String String) := ask .accessToken
def readRateLimit : Task (Option Nat) := ask .readRateLimit
def instantNow : Task Nat := ask .instantNow
def sleep (remaining : Nat) : Task Nat := ask (.sleep remaining)
def wake (deadline : Nat) : Task Unit := ask (.wake deadline)
def send (token : String) : Task Unit := ask (.send token)
def receive : Task (Except String Response) := ask .receive
def clearCachedToken : Task Unit := ask .clearCachedToken
def invalidateAccessToken : Task Unit := ask .invalidateAccessToken
def setRateLimit (cooldown : Cooldown) : Task Unit := ask (.setRateLimit cooldown)
def clearRateLimit : Task Unit := ask .clearRateLimit

/-- `wait_for_rate_limit_window` -/
def waitForRateLimitWindow : Task Unit := do
  match ← readRateLimit with
  | none => pure ()
  | some ends =>
      let now ← instantNow
      if now ≤ ends then
        let deadline ← sleep (ends - now)
        wake deadline
      else
        pure ()

/-- The end of a call whose request was answered with 429. -/
def rateLimited (what : String) (response : Response) : Task (Except String String) := do
  let secs := response.cooldownSecs
  let now ← instantNow
  setRateLimit ⟨now, secs⟩
  pure (.error s!"Spotify {what} rate limited; retry-after={secs}s")

/-- The end of a call whose request was answered otherwise. -/
def finish (what : String) (response : Response) : Task (Except String String) :=
  if 200 ≤ response.status ∧ response.status < 300 then do
    clearRateLimit
    pure response.json
  else
    pure (.error s!"Spotify {what} request failed with status {response.statusText}")

/-- The attempts still to be made. -/
def tryAuthedJson (what : String) : List Nat → String → Task (Except String String)
  | [], _ => pure (.error s!"Spotify {what} request failed after retries")
  | attempt :: rest, token => do
      waitForRateLimitWindow
      send token
      match ← receive with
      | .error error => pure (.error error)
      | .ok response =>
          if response.status = 401 ∧ attempt = 0 then
            clearCachedToken
            invalidateAccessToken
            match ← accessToken with
            | .error error => pure (.error error)
            | .ok token => tryAuthedJson what rest token
          else if response.status = 429 then
            rateLimited what response
          else
            finish what response

/-- `send_authed_json` -/
def sendAuthedJson (what : String) : Task (Except String String) := do
  match ← accessToken with
  | .error error => pure (.error error)
  | .ok token => tryAuthedJson what (List.range 2) token

/-- A call, made for what is asked. -/
structure Request where
  what : String

def accept (request : Request) : Task Unit := do
  let _ ← sendAuthedJson request.what

def start (now : Nat) : Client where
  now := now
  rateLimitUntil := none
  cooldowns := []
  unseen _ := []
  sent := []

/-- All orders of calls and answers.  From outside time passes. -/
def machine : Machine signature Client Request Input Nat where
  initial client := ∃ now, client = start now
  accept client _ request := some (accept request, client)
  perform := Client.perform
  outside client elapsed := some { client with now := client.now + elapsed }

/-! ## What each call has seen -/

/-- How far a call has come with its wait, or with a 429 answer. -/
inductive Stage
  | idle
  | looked (found : Option Nat)
  | measured (ends now : Nat)
  | sleeping (deadline : Nat)
  | ready
  | dated (now : Nat)

namespace Stage

def next (stage : Stage) : (op : Op) → op.Answer → Stage
  | .readRateLimit, found => .looked found
  | .instantNow, now =>
      match stage with
      | .looked (some ends) => .measured ends now
      | _ => .dated now
  | .sleep _, deadline => .sleeping deadline
  | .wake _, _ => .ready
  | .send _, _ => .idle
  | .setRateLimit _, _ => .idle
  | _, _ => stage

/-- The wait is over. -/
def Passed : Stage → Prop
  | looked none | ready => True
  | measured ends now => ends < now
  | _ => False

/-- Requests are sent by whoever has passed the wait, and a cooldown lasts from 10 to 120 seconds.
-/
def Allows (stage : Stage) : Op → Prop
  | .sleep remaining => ∃ ends now, stage = .measured ends now ∧ ends ≤ now + remaining
  | .wake deadline => stage = .sleeping deadline
  | .send _ => stage.Passed
  | .setRateLimit cooldown =>
      stage = .dated cooldown.answered ∧ 10 ≤ cooldown.secs ∧ cooldown.secs ≤ 120
  | _ => True

end Stage

def discipline : Discipline signature Stage where
  start := .idle
  next := Stage.next
  allows := Stage.Allows

namespace Stage

abbrev Guides {α : Type} (stage : Stage) (task : Task α) (finish : α → Stage → Prop) : Prop :=
  task.Obeys discipline stage finish

theorem guides_wait (stage : Stage) :
    Guides stage waitForRateLimitWindow fun _ after => after.Passed := by
  refine Program.Obeys.perform trivial fun found => ?_
  cases found with
  | none => trivial
  | some ends =>
      refine Program.Obeys.perform trivial fun now => ?_
      split
      · rename_i running
        refine Program.Obeys.perform ⟨ends, now, rfl, ?_⟩ fun deadline => ?_
        · omega
        · exact ⟨rfl, fun _ => trivial⟩
      · rename_i ended
        exact Nat.lt_of_not_le ended

theorem guides_rateLimited (what : String) (response : Response) :
    Guides .idle (rateLimited what response) fun _ _ => True :=
  Program.Obeys.perform trivial fun _ =>
    Program.Obeys.perform ⟨rfl, response.cooldownSecs_bounds⟩ fun _ => trivial

theorem guides_finish (what : String) (response : Response) (stage : Stage) :
    Guides stage (finish what response) fun _ _ => True := by
  unfold finish
  split
  · exact Program.Obeys.perform trivial fun _ => trivial
  · trivial

/-- Every attempt waits before it sends. -/
theorem guides_tryAuthedJson (what : String) (attempts : List Nat) :
    ∀ stage token, Guides stage (tryAuthedJson what attempts token) fun _ _ => True := by
  induction attempts with
  | nil => exact fun _ _ => trivial
  | cons attempt rest ih =>
      intro stage token
      refine Program.Obeys.bind ((guides_wait stage).mono fun _ after passed => ?_)
      refine Program.Obeys.perform passed fun _ => Program.Obeys.perform trivial fun answer => ?_
      cases answer with
      | error error => trivial
      | ok response =>
          dsimp only
          split
          · refine Program.Obeys.perform trivial fun _ => Program.Obeys.perform trivial fun _ => ?_
            refine Program.Obeys.perform trivial fun renewed => ?_
            cases renewed with
            | error error => trivial
            | ok token => exact ih _ token
          · split
            · exact guides_rateLimited what response
            · exact guides_finish what response _

theorem guides_accept (request : Request) :
    Guides .idle (accept request) fun _ _ => True := by
  apply Program.Obeys.bind
  refine Program.Obeys.perform trivial fun token => ?_
  cases token with
  | error error => trivial
  | ok token =>
      exact (guides_tryAuthedJson request.what _ _ token).mono fun _ _ _ => trivial

end Stage

/-! ## What the cell promises -/

namespace Client

variable {client after : Client} {stages : Nat → Stage} {actor : Nat} {input : Input}

/-- Every cooldown which a call may have seen is over by then. -/
def Bounds (client : Client) (call : Nat) (horizon : Nat) : Prop :=
  ∀ cooldown ∈ client.cooldowns,
    cooldown ∈ client.unseen call ∨ cooldown.ends ≤ max client.now horizon

/-- What holds while a call has come so far. -/
def Stands (client : Client) (call : Nat) : Stage → Prop
  | .idle | .dated _ => True
  | .looked found => client.Bounds call (found.getD 0)
  | .measured ends now => now ≤ client.now ∧ client.Bounds call ends
  | .sleeping deadline => client.Bounds call deadline
  | .ready => client.Bounds call 0

/-- The invariant of all interleavings. -/
structure Honoured (client : Client) (stages : Nat → Stage) : Prop where
  covered : ∀ cooldown ∈ client.cooldowns, cooldown.ends ≤ max client.now client.holdsUntil
  stands : ∀ call, client.Stands call (stages call)
  clamped : ∀ cooldown ∈ client.cooldowns, 10 ≤ cooldown.secs ∧ cooldown.secs ≤ 120
  sent : ∀ request ∈ client.sent, ∀ cooldown ∈ request.cooldowns,
    cooldown.ends ≤ request.sentAt

/-- What a call relies on lasts as time passes and as other cooldowns are set. -/
theorem Stands.mono {call : Nat} {stage : Stage} (stands : client.Stands call stage)
    (later : client.now ≤ after.now)
    (bounds : ∀ horizon, client.Bounds call horizon → after.Bounds call horizon) :
    after.Stands call stage := by
  cases stage with
  | idle | dated now => trivial
  | looked found => exact bounds _ stands
  | measured ends now => exact ⟨Nat.le_trans stands.1 later, bounds _ stands.2⟩
  | sleeping deadline => exact bounds _ stands
  | ready => exact bounds _ stands

theorem Bounds.mono {call : Nat} {horizon further : Nat}
    (bounds : client.Bounds call horizon) (le : horizon ≤ max client.now further) :
    client.Bounds call further := by
  intro cooldown set
  refine (bounds cooldown set).imp_right fun ended => ?_
  omega

theorem Honoured.proceed (honoured : client.Honoured stages) {stage : Stage}
    (stands : client.Stands actor stage) :
    client.Honoured (Function.update stages actor stage) where
  covered := honoured.covered
  stands := (Function.forall_update_iff stages fun call stage => client.Stands call stage).mpr
    ⟨stands, fun call _ => honoured.stands call⟩
  clamped := honoured.clamped
  sent := honoured.sent

theorem Honoured.elapse (honoured : client.Honoured stages) (elapsed : Nat) :
    { client with now := client.now + elapsed }.Honoured stages where
  covered cooldown set := by
    have covered := honoured.covered cooldown set
    change cooldown.ends ≤ max (client.now + elapsed) client.holdsUntil
    omega
  stands call := by
    refine (honoured.stands call).mono (Nat.le_add_right _ _) fun horizon bounds cooldown set => ?_
    refine (bounds cooldown set).imp_right fun ended => ?_
    change cooldown.ends ≤ max (client.now + elapsed) horizon
    omega
  clamped := honoured.clamped
  sent := honoured.sent

theorem Honoured.readRateLimit (honoured : client.Honoured stages) :
    (client.readRateLimit actor).Honoured
      (Function.update stages actor (.looked client.rateLimitUntil)) where
  covered := honoured.covered
  stands := by
    refine (Function.forall_update_iff stages fun call stage =>
      (client.readRateLimit actor).Stands call stage).mpr ⟨?_, ?_⟩
    · exact fun cooldown set => Or.inr (honoured.covered cooldown set)
    · intro call different
      refine (honoured.stands call).mono (Nat.le_refl _) fun horizon bounds => ?_
      have unseen : (client.readRateLimit actor).unseen call = client.unseen call :=
        Function.update_of_ne different _ _
      rw [Bounds, unseen]
      exact bounds
  clamped := honoured.clamped
  sent := honoured.sent

/-- A 429 answer which shortens no running cooldown. -/
theorem Honoured.setRateLimit (honoured : client.Honoured stages) {cooldown : Cooldown}
    (clamped : 10 ≤ cooldown.secs ∧ cooldown.secs ≤ 120)
    (lengthens : client.holdsUntil ≤ max client.now cooldown.ends) :
    (client.setRateLimit cooldown).Honoured (Function.update stages actor .idle) where
  covered := by
    refine List.forall_mem_cons.mpr ⟨Nat.le_max_right _ _, fun older set => ?_⟩
    have covered := honoured.covered older set
    change older.ends ≤ max client.now cooldown.ends
    omega
  stands := by
    refine (Function.forall_update_iff stages fun call stage =>
      (client.setRateLimit cooldown).Stands call stage).mpr ⟨trivial, fun call _ => ?_⟩
    refine (honoured.stands call).mono (Nat.le_refl _) fun horizon bounds => ?_
    refine List.forall_mem_cons.mpr ⟨Or.inl List.mem_cons_self, fun older set => ?_⟩
    exact (bounds older set).imp_left (List.mem_cons_of_mem _)
  clamped := List.forall_mem_cons.mpr ⟨clamped, honoured.clamped⟩
  sent := honoured.sent

/-- A success while no cooldown runs. -/
theorem Honoured.clearRateLimit (honoured : client.Honoured stages)
    (ended : client.holdsUntil ≤ client.now) :
    { client with rateLimitUntil := none }.Honoured stages where
  covered cooldown set := by
    have covered := honoured.covered cooldown set
    change cooldown.ends ≤ max client.now 0
    omega
  stands := honoured.stands
  clamped := honoured.clamped
  sent := honoured.sent

/-- Whoever has passed the wait has waited for every cooldown it could see. -/
theorem Honoured.passed (honoured : client.Honoured stages) (passed : (stages actor).Passed) :
    client.Bounds actor 0 := by
  have stands := honoured.stands actor
  cases stage : stages actor with
  | looked found =>
      rw [stage] at stands passed
      cases found with
      | none => exact stands
      | some ends => exact passed.elim
  | measured ends now =>
      rw [stage] at stands passed
      have past : ends < now := passed
      obtain ⟨read, bounds⟩ := stands
      exact bounds.mono (by omega)
  | ready =>
      rw [stage] at stands
      exact stands
  | idle | sleeping deadline | dated now =>
      rw [stage] at passed
      exact passed.elim

theorem Honoured.send (honoured : client.Honoured stages) (passed : (stages actor).Passed)
    (seen : ∀ cooldown ∈ client.unseen actor, cooldown.ends ≤ client.now) :
    client.send.Honoured (Function.update stages actor .idle) where
  covered := honoured.covered
  stands := (Function.forall_update_iff stages fun call stage => client.send.Stands call stage).mpr
    ⟨trivial, fun call _ => (honoured.stands call).mono (Nat.le_refl _) fun _ bounds => bounds⟩
  clamped := honoured.clamped
  sent := by
    refine List.forall_mem_cons.mpr ⟨fun cooldown set => ?_, honoured.sent⟩
    rcases honoured.passed passed cooldown set with unseen | ended
    · exact seen cooldown unseen
    · change cooldown.ends ≤ client.now
      omega

end Client

/-- No running cooldown is cleared or shortened, and none has been set since the call which sends
has looked at the cell. -/
def Respected (client : Client) (_ : Nat → Stage) (actor : Nat) : Op → Input → Prop
  | .clearRateLimit, _ => client.holdsUntil ≤ client.now
  | .setRateLimit cooldown, _ => client.holdsUntil ≤ max client.now cooldown.ends
  | .send _, _ => ∀ cooldown ∈ client.unseen actor, cooldown.ends ≤ client.now
  | _, _ => True

instance decidableRespected (client : Client) (stages : Nat → Stage) (actor : Nat) :
    ∀ op input, Decidable (Respected client stages actor op input)
  | .clearRateLimit, _ => inferInstanceAs (Decidable (_ ≤ _))
  | .setRateLimit _, _ => inferInstanceAs (Decidable (_ ≤ _))
  | .send _, _ => inferInstanceAs (Decidable (∀ cooldown ∈ client.unseen actor, _))
  | .accessToken, _ | .readRateLimit, _ | .instantNow, _ | .sleep _, _ | .wake _, _
  | .receive, _ | .clearCachedToken, _ | .invalidateAccessToken, _ => isTrue trivial

namespace Client

variable {client after : Client} {stages : Nat → Stage} {actor : Nat} {input : Input}

theorem Honoured.perform (honoured : client.Honoured stages) {op : Op} {answer : op.Answer}
    (allowed : (stages actor).Allows op) (permitted : Respected client stages actor op input)
    (performed : client.perform actor op input = some (answer, after)) :
    after.Honoured (Function.update stages actor ((stages actor).next op answer)) := by
  have stands := honoured.stands actor
  cases op with
  | readRateLimit =>
      obtain ⟨rfl, rfl⟩ := Prod.mk.inj (Option.some.inj performed)
      exact honoured.readRateLimit
  | instantNow =>
      obtain ⟨rfl, rfl⟩ := Prod.mk.inj (Option.some.inj performed)
      apply honoured.proceed
      cases stage : stages actor with
      | looked found =>
          rw [stage] at stands
          cases found with
          | none => trivial
          | some ends => exact ⟨Nat.le_refl _, stands⟩
      | idle | measured ends now | sleeping deadline | ready | dated now => trivial
  | sleep remaining =>
      obtain ⟨rfl, rfl⟩ := Prod.mk.inj (Option.some.inj performed)
      obtain ⟨ends, now, stage, enough⟩ := allowed
      rw [stage] at stands
      obtain ⟨read, bounds⟩ := stands
      -- The timer starts after the instant was read.
      have late : ends ≤ client.now + remaining := by omega
      apply honoured.proceed
      exact bounds.mono (Nat.le_trans late (Nat.le_max_right _ _))
  | wake deadline =>
      obtain ⟨reached, -, rfl⟩ := of_guarded_answer performed
      rw [show stages actor = .sleeping deadline from allowed] at stands
      have bounds : client.Bounds actor deadline := stands
      apply honoured.proceed
      exact bounds.mono (Nat.le_trans reached (Nat.le_max_left _ _))
  | send token =>
      obtain ⟨-, rfl⟩ := Prod.mk.inj (Option.some.inj performed)
      exact honoured.send allowed permitted
  | setRateLimit cooldown =>
      obtain ⟨-, rfl⟩ := Prod.mk.inj (Option.some.inj performed)
      exact honoured.setRateLimit allowed.2 permitted
  | clearRateLimit =>
      obtain ⟨-, rfl⟩ := Prod.mk.inj (Option.some.inj performed)
      change Honoured _ (Function.update stages actor (stages actor))
      rw [Function.update_eq_self]
      exact honoured.clearRateLimit permitted
  | accessToken | receive | clearCachedToken | invalidateAccessToken =>
      obtain ⟨-, rfl⟩ := Prod.mk.inj (Option.some.inj performed)
      change Honoured _ (Function.update stages actor (stages actor))
      rwa [Function.update_eq_self]

end Client

theorem safe : machine.Safe discipline Respected Client.Honoured where
  initial := by
    rintro _ ⟨now, rfl⟩
    exact ⟨nofun, fun _ => trivial, nofun, nofun⟩
  accept client stages actor request program after honoured _ accepted := by
    obtain ⟨rfl, rfl⟩ := Prod.mk.inj (Option.some.inj accepted)
    exact ⟨honoured, Stage.guides_accept request⟩
  perform client stages actor op input answer after honoured allowed permitted performed :=
    honoured.perform allowed permitted performed
  outside client stages elapsed after honoured changed := by
    obtain rfl := Option.some.inj changed
    exact honoured.elapse elapsed

/-- All interleavings of calls. -/
abbrev system := machine.system discipline

/-- If no running cooldown is cleared, shortened or set behind a call's back, no request is sent
before the end of a cooldown set before, and every cooldown lasts from 10 to 120 seconds. -/
theorem requests_wait {pool : Pool signature Client Stage}
    (reach : system.ReachableUnder (Machine.Permits Respected) pool) :
    (∀ cooldown ∈ pool.shared.cooldowns, 10 ≤ cooldown.secs ∧ cooldown.secs ≤ 120) ∧
      ∀ request ∈ pool.shared.sent, ∀ cooldown ∈ request.cooldowns,
        cooldown.ends ≤ request.sentAt :=
  have honoured := (safe.guarded reach).holds
  ⟨honoured.clamped, honoured.sent⟩

def booted : Pool signature Client Stage := Machine.boot discipline (start 0)

theorem booted_initial : system.initial booted := ⟨_, ⟨0, rfl⟩, rfl⟩

/-- Some steps of one call. -/
def advance (actor count : Nat) (input : Input) : List (PoolEvent Request Input Nat) :=
  List.replicate count (.advance actor input)

/-- A call has sent its first request. -/
def calling (actor : Nat) : List (PoolEvent Request Input Nat) :=
  .start ⟨"connect-state"⟩ :: advance actor 3 {}

/-- Its answer is a success. -/
def succeeding (actor : Nat) : List (PoolEvent Request Input Nat) :=
  advance actor 2 { response := .ok { status := 200 } }

/-- Its answer is a 429, with a header of one minute if `long`. -/
def limiting (actor : Nat) (long : Bool) : List (PoolEvent Request Input Nat) :=
  advance actor 3
    { response := .ok { status := 429, retryAfter := if long then some [54, 48] else none } }

/-- A call waits for a cooldown of one minute. -/
def waited : List (PoolEvent Request Input Nat) :=
  calling 0 ++ limiting 0 true ++ .start ⟨"track metadata"⟩ :: advance 1 4 {} ++
    .outside 60000 :: advance 1 2 {} ++ succeeding 1

theorem waited_sends_later :
    let client := (system.final booted waited rfl).shared
    client.sent.map Sent.sentAt = [60000, 0] ∧ client.cooldowns = [⟨0, 60⟩] ∧
      ∀ request ∈ client.sent, ∀ cooldown ∈ request.cooldowns, cooldown.ends ≤ request.sentAt :=
  ⟨rfl, rfl, (requests_wait (System.ReachableUnder.final booted_initial (by decide) rfl)).2⟩

/-- The success of a request sent earlier clears the cooldown. -/
def cleared : List (PoolEvent Request Input Nat) :=
  calling 0 ++ calling 1 ++ limiting 0 true ++ succeeding 1 ++ calling 2

/-- A second 429 shortens the cooldown. -/
def shortened : List (PoolEvent Request Input Nat) :=
  calling 0 ++ calling 1 ++ limiting 0 true ++ limiting 1 false ++ .outside 10000 ::
    .start ⟨"connect-state"⟩ :: advance 2 6 {}

/-- A call sleeps until the end of one cooldown while a longer one is set. -/
def overslept : List (PoolEvent Request Input Nat) :=
  calling 0 ++ calling 1 ++ limiting 0 false ++ .start ⟨"connect-state"⟩ :: advance 2 4 {} ++
    limiting 1 true ++ .outside 10000 :: advance 2 2 {}

/-- A request was sent before the end of a cooldown set before. -/
def Client.Disregards (client : Client) : Prop :=
  ∃ request ∈ client.sent, ∃ cooldown ∈ request.cooldowns, request.sentAt < cooldown.ends

instance decidableDisregards (client : Client) : Decidable client.Disregards :=
  inferInstanceAs (Decidable (∃ request ∈ client.sent, ∃ cooldown ∈ request.cooldowns, _ < _))

theorem cooldown_disregarded :
    system.initial booted ∧ ∀ schedule ∈ [cleared, shortened, overslept],
      ∃ pool, system.run booted schedule = some pool ∧ pool.shared.Disregards := by
  refine ⟨booted_initial, ?_⟩
  simp only [List.forall_mem_cons]
  refine ⟨⟨_, rfl, ?_⟩, ⟨_, rfl, ?_⟩, ⟨_, rfl, ?_⟩, nofun⟩
  · decide
  · decide
  · decide

end Togewire.Spotify.RateLimit
