import Togewire.Spotify.Parsing
import Togewire.Spotify.Session

/-!
# The librespot session

librespot-core exits the process if the account is no longer Premium, so the plan is checked before
a session is connected.  The check gets a token of its own.  It vouches for the account of the
session's token as long as it finds no token of another account.
-/

namespace Togewire.Audio.Librespot

open Interleaving Transition
open Spotify (Token SpotifyAuth)

/-- `plan_is_premium`: the type, if there is one, has to say so as well. -/
def planIsPremium (state : Spotify.Parsing.Value) : Bool :=
  let field (key : String) := (state.get key).bind Spotify.Parsing.asStr
  (field "product").any (fun product => Spotify.Parsing.asciiLowercase product = "premium") &&
    (field "type").all fun kind => kind = "premium"

/-! ## Operations -/

/-- What comes of a request. -/
inductive Response
  | unreachable
  | status (code : Nat)
  /-- A success, with its body if that is JSON. -/
  | success (body : Option Spotify.Parsing.Value)

/-- History: a connection, and what the task's plan check just before has found for which token. -/
structure Connection where
  token : Token
  check : Option (Token × Bool)

/-- What the fetchers and the pairing share, and the history of checks and connections. -/
structure Fetcher where
  client : Spotify.Client
  /-- The task which has locked the slot. -/
  lock : Option Nat
  /-- The token the session was connected with, and whether the session is invalid. -/
  session : Option (Token × Bool)
  premium : Option Bool
  useLibrespot : Bool
  /-- History: what each task's last plan check has found. -/
  checks : Nat → Option (Token × Bool)
  /-- History: the connections made. -/
  connections : List Connection

inductive Op
  | spotify (op : Spotify.Op)
  | acquireSession
  | releaseSession
  | currentSession
  /-- History: `ensure_session` has got its token. -/
  | noteToken (token : Token)
  | resolveSpclientHost
  | waitForRateLimitWindow
  | send (token : Token)
  | setPremium (premium : Option Bool)
  | setUseLibrespot (useLibrespot : Bool)
  | connect (token : Token)
  | storeSession (token : Token)

def Op.Answer : Op → Type
  | spotify op => op.Answer
  | currentSession => Option Token
  | send _ => Response
  | connect _ => Bool
  | acquireSession | releaseSession | noteToken _ | resolveSpclientHost | waitForRateLimitWindow
  | setPremium _ | setUseLibrespot _ | storeSession _ => Unit

abbrev signature : Signature := ⟨Op, Op.Answer⟩

abbrev Task := Program signature

/-- What the outside world contributes to a step. -/
structure Input where
  spotify : Spotify.Input := {}
  response : Response := .unreachable
  connected : Bool := true

/-- What the answer to the plan request says. -/
def Response.premium : Response → Option Bool
  | .success (some state) => some (planIsPremium state)
  | _ => none

namespace Fetcher

/-- The session in the slot, unless it is invalid. -/
def currentSession (fetcher : Fetcher) : Option Token :=
  (fetcher.session.filter fun session => !session.2).map Prod.fst

/-- Spotify is asked for the account of a token. -/
def send (fetcher : Fetcher) (actor : Nat) (token : Token) (response : Response) : Fetcher :=
  match response.premium with
  | none => fetcher
  | some premium =>
      { fetcher with checks := Function.update fetcher.checks actor (some (token, premium)) }

/-- A session is connected with a token, as it was checked. -/
def connect (fetcher : Fetcher) (actor : Nat) (token : Token) : Fetcher :=
  { fetcher with connections := ⟨token, fetcher.checks actor⟩ :: fetcher.connections }

/-- The effect of one operation. -/
def perform (fetcher : Fetcher) (actor : Nat) (op : Op) (input : Input) :
    Option (op.Answer × Fetcher) :=
  match op with
  | .spotify op =>
      (fetcher.client.perform actor op input.spotify).map fun (answer, client) =>
        (answer, { fetcher with client })
  | .acquireSession =>
      if fetcher.lock = none then some ((), { fetcher with lock := some actor }) else none
  | .releaseSession => some ((), { fetcher with lock := none })
  | .currentSession => some (fetcher.currentSession, fetcher)
  | .noteToken _ | .resolveSpclientHost | .waitForRateLimitWindow => some ((), fetcher)
  | .send token => some (input.response, fetcher.send actor token input.response)
  | .setPremium premium => some ((), { fetcher with premium })
  | .setUseLibrespot useLibrespot => some ((), { fetcher with useLibrespot })
  | .connect token => some (input.connected, fetcher.connect actor token)
  | .storeSession token => some ((), { fetcher with session := some (token, false) })

end Fetcher

/-! ## Tasks -/

def ask (op : Op) : Task op.Answer := Program.perform (S := signature) op

def acquireSession : Task Unit := ask .acquireSession
def releaseSession : Task Unit := ask .releaseSession
def currentSession : Task (Option Token) := ask .currentSession
def noteToken (token : Token) : Task Unit := ask (.noteToken token)
def resolveSpclientHost : Task Unit := ask .resolveSpclientHost
def waitForRateLimitWindow : Task Unit := ask .waitForRateLimitWindow
def send (token : Token) : Task Response := ask (.send token)
def setPremium (premium : Option Bool) : Task Unit := ask (.setPremium premium)
def setUseLibrespot (useLibrespot : Bool) : Task Unit := ask (.setUseLibrespot useLibrespot)
def connect (token : Token) : Task Bool := ask (.connect token)
def storeSession (token : Token) : Task Unit := ask (.storeSession token)

/-- A task of the Spotify client. -/
def spotify {α : Type} (task : Spotify.Task α) : Task α :=
  task.lift Op.spotify fun _ answer => answer

/-- The attempts of `send_authed_json` still to be made. -/
def tryAuthedJson : List Nat → Token → Task (Option Bool)
  | [], _ => pure none
  | attempt :: rest, token => do
      waitForRateLimitWindow
      match ← send token with
      | .unreachable => pure none
      | .success none => pure none
      | .success (some state) => pure (some (planIsPremium state))
      | .status code =>
          if code = 401 ∧ attempt = 0 then
            spotify (Spotify.clearCachedToken false)
            spotify Spotify.invalidateAccessToken
            match ← spotify Spotify.accessToken with
            | none => pure none
            | some token => tryAuthedJson rest token
          else
            pure none

/-- `account_is_premium`, absent on an error. -/
def accountIsPremium : Task (Option Bool) := do
  resolveSpclientHost
  match ← spotify Spotify.accessToken with
  | none => pure none
  | some token => tryAuthedJson (List.range 2) token

/-- Connect a session after the plan check. -/
def connectSession (token : Token) : Task (Option Token) := do
  if ← connect token then
    storeSession token
    pure (some token)
  else
    pure none

/-- Check the plan and connect a session with the token. -/
def checkAndConnect (token : Token) : Task (Option Token) := do
  noteToken token
  match ← accountIsPremium with
  | none => pure none
  | some false => do
      setPremium (some false)
      setUseLibrespot false
      pure none
  | some true => connectSession token

/-- What `ensure_session` does with the slot locked. -/
def lockedSession : Task (Option Token) := do
  match ← currentSession with
  | some session => pure (some session)
  | none =>
      match ← spotify Spotify.accessToken with
      | none => pure none
      | some token => checkAndConnect token

/-- `ensure_session`, absent on an error. -/
def ensureSession : Task (Option Token) := do
  acquireSession
  let session ← lockedSession
  releaseSession
  pure session

/-- A session is asked for, or a task of the Spotify client is started. -/
inductive Request
  | ensureSession
  | spotify (request : Spotify.Request)

def accept : Request → Task Unit
  | .ensureSession => do
      let _ ← ensureSession
  | .spotify request => spotify (Spotify.accept request)

/-- The clocks move, and a connection is lost. -/
inductive Change
  | clock (change : Spotify.Change)
  /-- The session's connection is lost. -/
  | invalidate

def Fetcher.outside (fetcher : Fetcher) : Change → Fetcher
  | .clock change => { fetcher with client := fetcher.client.outside change }
  | .invalidate => { fetcher with session := fetcher.session.map fun (token, _) => (token, true) }

/-- No session is connected yet. -/
def start (client : Spotify.Client) (premium : Option Bool) (useLibrespot : Bool) : Fetcher where
  client := client
  lock := none
  session := none
  premium := premium
  useLibrespot := useLibrespot
  checks _ := none
  connections := []

/-- Sessions, callers, pairings and disconnects in any order. -/
def machine : Machine signature Fetcher Request Input Change where
  initial fetcher := ∃ client premium useLibrespot,
    Spotify.Fresh client ∧ fetcher = start client premium useLibrespot
  accept fetcher _ request := some (accept request, fetcher)
  perform := Fetcher.perform
  outside fetcher change := some (fetcher.outside change)

/-! ## What the plan check has taken -/

/-- The tokens taken from the cache or from the configuration so far. -/
def Taken (taken : List Token) : (op : Spotify.Op) → op.Answer → List Token
  | .cachedToken, some token => token :: taken
  | .readAuth, some auth => auth.accessToken :: (auth.refreshToken.toList ++ taken)
  | _, _ => taken

/-- A Spotify task may take any token; which it has taken is recorded. -/
def taking : Discipline Spotify.signature (List Token) where
  start := []
  next := Taken
  allows _ _ := True

/-- A token, if there is one, is for the account of one that was taken. -/
def Sourced (taken : List Token) (result : Option Token) : Prop :=
  ∀ token, result = some token → ∃ source ∈ taken, source.account = token.account

theorem sourced_none (taken : List Token) : Sourced taken none := nofun

theorem sourced_of_mem {taken : List Token} {source token : Token} (member : source ∈ taken)
    (same : source.account = token.account) : Sourced taken (some token) := by
  intro _ given
  obtain rfl := Option.some.inj given
  exact ⟨source, member, same⟩

/-- A task that ends with a token for the account of one it has taken. -/
abbrev Takes (task : Spotify.Task (Option Token)) (taken : List Token) : Prop :=
  task.Obeys taking taken fun result taken => Sourced taken result

variable {taken : List Token}

theorem takes_handOut {source token : Token} (member : source ∈ taken)
    (same : source.account = token.account) (seconds : Nat) :
    Takes (Spotify.handOut token seconds) taken :=
  ⟨trivial, fun _ => sourced_of_mem member same⟩

theorem takes_refreshOauthToken (refresh : Token) :
    (Spotify.refreshOauthToken refresh).Obeys taking taken fun granted after =>
      after = taken ∧ ∀ token seconds, granted = some (token, seconds) →
        token.account = refresh.account := by
  refine Program.Obeys.perform trivial fun refreshed => ?_
  match refreshed with
  | .granted grant =>
      refine ⟨trivial, fun _ => ⟨rfl, fun token seconds granted => ?_⟩⟩
      obtain ⟨rfl, -⟩ := Prod.mk.inj (Option.some.inj granted)
      rfl
  | .rejected true => exact ⟨trivial, fun _ => ⟨trivial, fun _ => ⟨rfl, nofun⟩⟩⟩
  | .rejected false | .unreachable => exact ⟨rfl, nofun⟩

theorem takes_refreshAuth {auth : SpotifyAuth}
    (held : ∀ refresh, auth.refreshToken = some refresh → refresh ∈ taken) :
    Takes (Spotify.refreshAuth auth) taken := by
  rw [Spotify.refreshAuth]
  cases stored : auth.refreshToken with
  | none => exact sourced_none taken
  | some refresh =>
      refine Program.Obeys.bind ((takes_refreshOauthToken refresh).mono ?_)
      rintro granted _ ⟨rfl, same⟩
      cases granted with
      | none => exact sourced_none _
      | some granted => exact takes_handOut (held refresh stored) (same _ _ rfl).symm granted.2

theorem takes_tokenOf (auth : SpotifyAuth) :
    Takes (Spotify.tokenOf auth) (auth.accessToken :: (auth.refreshToken.toList ++ taken)) := by
  refine Program.Obeys.perform trivial fun (now : Int) => ?_
  by_cases good : now < auth.expiresAtUnix - 60
  · rw [if_pos good]
    exact takes_handOut List.mem_cons_self rfl _
  · rw [if_neg good]
    refine takes_refreshAuth fun refresh stored => ?_
    rw [stored]
    exact List.mem_cons_of_mem _ List.mem_cons_self

theorem takes_lockedToken : Takes Spotify.lockedToken taken := by
  refine Program.Obeys.perform trivial fun cached => ?_
  cases cached with
  | some token => exact sourced_of_mem List.mem_cons_self rfl
  | none =>
      refine Program.Obeys.perform trivial fun auth => ?_
      cases auth with
      | none => exact sourced_none taken
      | some auth => exact takes_tokenOf auth

/-- The token of `access_token` is for the account of one it has taken. -/
theorem takes_accessToken : Takes Spotify.accessToken taken := by
  refine Program.Obeys.perform trivial fun cached => ?_
  cases cached with
  | some token => exact sourced_of_mem List.mem_cons_self rfl
  | none =>
      refine Program.Obeys.perform trivial fun _ => Program.Obeys.bind ?_
      exact takes_lockedToken.mono fun token after sourced => ⟨trivial, fun _ => sourced⟩

/-! ## What each task has done -/

/-- Whether a task checks the plan for a token, with what it has taken for this, or has found
something. -/
inductive Stage
  | away
  | checking (token : Token) (taken : List Token)
  | checked (token sent : Token) (premium : Bool)

namespace Stage

def next (stage : Stage) : (op : Op) → op.Answer → Stage
  | .noteToken token, _ => .checking token []
  | .spotify op, answer =>
      match stage with
      | .checking token taken => .checking token (Taken taken op answer)
      | stage => stage
  | .send sent, response =>
      match stage, Response.premium response with
      | .checking token _, some premium => .checked token sent premium
      | stage, _ => stage
  | _, _ => stage

/-- A plan check asks with a token it has taken, and a session follows a check which was passed. -/
def Allows (stage : Stage) : Op → Prop
  | .send sent => ∃ token taken, stage = .checking token taken ∧ Sourced taken (some sent)
  | .connect token => ∃ sent, stage = .checked token sent true
  | _ => True

end Stage

def discipline : Discipline signature Stage where
  start := .away
  next := Stage.next
  allows := Stage.Allows

/-- A Spotify task of anything but a plan check leaves no trace. -/
theorem away_spotify {α : Type} {task : Spotify.Task α} (guides : Spotify.Guides task) :
    (spotify task).Obeys discipline .away fun _ stage => stage = .away := by
  rw [spotify]
  refine (Program.Obeys.lift (fun _ stage => stage = Stage.away) ?_ ?_ guides rfl).mono ?_
  · exact fun _ _ _ _ _ => trivial
  · rintro _ _ op answer rfl _
    rfl
  · rintro _ _ ⟨_, _, away⟩
    exact away

/-- In a plan check the trace follows what is taken. -/
theorem checking_spotify {α : Type} {token : Token} {task : Spotify.Task α}
    {finish : α → List Token → Prop} (takes : task.Obeys taking taken finish) :
    (spotify task).Obeys discipline (.checking token taken) fun result stage =>
      ∃ taken, finish result taken ∧ stage = .checking token taken := by
  rw [spotify]
  refine Program.Obeys.lift (fun taken stage => stage = Stage.checking token taken) ?_ ?_ takes rfl
  · exact fun _ _ _ _ _ => trivial
  · rintro _ _ op answer rfl _
    rfl

/-- A plan check for a token that ends with a verdict, if any, on a token it has sent. -/
def Finds (token : Token) (result : Option Bool) (stage : Stage) : Prop :=
  ∀ premium, result = some premium → ∃ sent, stage = .checked token sent premium

theorem finds_none (token : Token) (stage : Stage) : Finds token none stage := nofun

theorem guides_tryAuthedJson {token sent : Token} (attempts : List Nat)
    (sourced : Sourced taken (some sent)) :
    (tryAuthedJson attempts sent).Obeys discipline (.checking token taken) (Finds token) := by
  induction attempts generalizing taken sent with
  | nil => exact finds_none _ _
  | cons attempt rest ih =>
      refine Program.Obeys.perform trivial fun _ => ?_
      refine Program.Obeys.perform ⟨token, taken, rfl, sourced⟩ fun response => ?_
      match response with
      | .unreachable | .success none => exact finds_none _ _
      | .success (some state) =>
          intro premium found
          obtain rfl := Option.some.inj found
          exact ⟨sent, rfl⟩
      | .status code =>
          change (ite _ _ _ : Task (Option Bool)).Obeys _ _ _
          split
          · refine Program.Obeys.perform trivial fun _ => Program.Obeys.perform trivial fun _ => ?_
            refine Program.Obeys.bind ((checking_spotify takes_accessToken).mono ?_)
            rintro next _ ⟨taken, sourced, rfl⟩
            cases next with
            | none => exact finds_none _ _
            | some next => exact ih sourced
          · exact finds_none _ _

theorem guides_accountIsPremium (token : Token) :
    accountIsPremium.Obeys discipline (.checking token taken) (Finds token) := by
  refine Program.Obeys.perform trivial fun _ => ?_
  refine Program.Obeys.bind ((checking_spotify takes_accessToken).mono ?_)
  rintro sent _ ⟨taken, sourced, rfl⟩
  cases sent with
  | none => exact finds_none _ _
  | some sent => exact guides_tryAuthedJson _ sourced

theorem guides_checkAndConnect (token : Token) (stage : Stage) :
    (checkAndConnect token).Obeys discipline stage fun _ _ => True := by
  refine Program.Obeys.perform trivial fun _ => ?_
  refine Program.Obeys.bind ((guides_accountIsPremium token).mono fun verdict stage finds => ?_)
  match verdict with
  | none => trivial
  | some false => exact ⟨trivial, fun _ => ⟨trivial, fun _ => trivial⟩⟩
  | some true =>
      refine Program.Obeys.perform (finds true rfl) ?_
      rintro (_ | _)
      · trivial
      · exact ⟨trivial, fun _ => trivial⟩

theorem guides_ensureSession : ensureSession.Obeys discipline .away fun _ _ => True := by
  refine Program.Obeys.perform trivial fun _ => Program.Obeys.bind ?_
  refine Program.Obeys.perform trivial fun session => ?_
  cases session with
  | some session => exact ⟨trivial, fun _ => trivial⟩
  | none =>
      refine Program.Obeys.bind ((away_spotify Spotify.guides_accessToken).mono ?_)
      rintro token _ rfl
      cases token with
      | none => exact ⟨trivial, fun _ => trivial⟩
      | some token =>
          exact (guides_checkAndConnect token _).mono fun _ _ _ => ⟨trivial, fun _ => trivial⟩

theorem guides_accept (request : Request) :
    (accept request).Obeys discipline .away fun _ _ => True := by
  cases request with
  | ensureSession => exact Program.Obeys.bind (guides_ensureSession.mono fun _ _ _ => trivial)
  | spotify request =>
      exact (away_spotify (Spotify.guides_accept request)).mono fun _ _ _ => trivial

/-! ## The check vouches for the session's account -/

/-- The plan check just before the connection has found Premium for a token of its account. -/
def Connection.Vouched (connection : Connection) : Prop :=
  ∃ sent, connection.check = some (sent, true) ∧ sent.account = connection.token.account

namespace Fetcher

/-- What the cache and the configuration hold is for an account, as far as the operation takes
it. -/
def holdsOnly (fetcher : Fetcher) (account : Nat) : Spotify.Op → Bool
  | .cachedToken => fetcher.client.cachedToken.all fun cached => cached.account = account
  | .readAuth =>
      fetcher.client.spotifyAuth.all fun auth =>
        auth.accessToken.account = account &&
          auth.refreshToken.all fun refresh => refresh.account = account
  | _ => true

/-- Where a plan check takes a token from the cache or from the configuration, there is none of
another account than that of the token it is made for. -/
def ChecksOwn (fetcher : Fetcher) (stages : Nat → Stage) (actor : Nat) (op : Op) (_ : Input) :
    Prop :=
  match stages actor, op with
  | .checking token _, .spotify op => fetcher.holdsOnly token.account op = true
  | _, _ => True

instance (fetcher : Fetcher) (stages : Nat → Stage) (actor : Nat) (op : Op) (input : Input) :
    Decidable (fetcher.ChecksOwn stages actor op input) := by
  unfold ChecksOwn
  split
  · infer_instance
  · exact isTrue trivial

/-- What a task knows of its check. -/
def Knows (fetcher : Fetcher) (actor : Nat) : Stage → Prop
  | .away => True
  | .checking token taken => ∀ source ∈ taken, source.account = token.account
  | .checked token sent premium =>
      sent.account = token.account ∧ fetcher.checks actor = some (sent, premium)

/-- The invariant of all interleavings. -/
structure Careful (fetcher : Fetcher) (stages : Nat → Stage) : Prop where
  knows : ∀ task, fetcher.Knows task (stages task)
  vouched : ∀ connection ∈ fetcher.connections, connection.Vouched

variable {fetcher after : Fetcher} {stages : Nat → Stage} {actor : Nat} {op : Op}
  {answer : op.Answer} {input : Input} {next : Stage}

theorem Knows.same {stage : Stage} {task : Nat} (knows : fetcher.Knows task stage)
    (checks : after.checks task = fetcher.checks task) : after.Knows task stage := by
  cases stage with
  | away => trivial
  | checking token taken => exact knows
  | checked token sent premium => exact ⟨knows.1, checks.trans knows.2⟩

theorem Careful.update (careful : fetcher.Careful stages)
    (checks : ∀ task, task ≠ actor → after.checks task = fetcher.checks task)
    (own : after.Knows actor next)
    (vouched : ∀ connection ∈ after.connections, connection.Vouched) :
    after.Careful (Function.update stages actor next) where
  knows := (Function.forall_update_iff stages fun task stage => after.Knows task stage).mpr
    ⟨own, fun task different => (careful.knows task).same (checks task different)⟩
  vouched := vouched

theorem Careful.keep (careful : fetcher.Careful stages) (checks : after.checks = fetcher.checks)
    (connections : after.connections = fetcher.connections) :
    after.Careful (Function.update stages actor (stages actor)) := by
  refine careful.update (fun _ _ => by rw [checks]) ?_ (by rw [connections]; exact careful.vouched)
  exact (careful.knows actor).same (by rw [checks])

/-- What a plan check takes from an account's own tokens is for that account. -/
theorem taken_own {account : Nat} {op : Spotify.Op} {answer : op.Answer} {input : Spotify.Input}
    {client : Spotify.Client} {taken : List Token} (holds : fetcher.holdsOnly account op = true)
    (performed : fetcher.client.perform actor op input = some (answer, client))
    (own : ∀ source ∈ taken, source.account = account) :
    ∀ source ∈ Taken taken op answer, source.account = account := by
  cases op with
  | cachedToken =>
      obtain ⟨rfl, -⟩ := Prod.mk.inj (Option.some.inj performed)
      simp only [holdsOnly] at holds
      cases cached : fetcher.client.cachedToken with
      | none => exact own
      | some token =>
          rw [cached] at holds
          exact List.forall_mem_cons.mpr ⟨of_decide_eq_true holds, own⟩
  | readAuth =>
      obtain ⟨rfl, -⟩ := Prod.mk.inj (Option.some.inj performed)
      simp only [holdsOnly] at holds
      cases stored : fetcher.client.spotifyAuth with
      | none => exact own
      | some auth =>
          simp only [stored, Option.all_some, Bool.and_eq_true, decide_eq_true_eq] at holds
          refine List.forall_mem_cons.mpr ⟨holds.1, List.forall_mem_append.mpr ⟨?_, own⟩⟩
          intro refresh held
          have kept : auth.refreshToken = some refresh := by simpa using held
          simpa [kept] using holds.2
  | _ => exact own

theorem careful_spotify (careful : fetcher.Careful stages) {op : Spotify.Op} {answer : op.Answer}
    (permitted : fetcher.ChecksOwn stages actor (.spotify op) input) {client : Spotify.Client}
    (performed : fetcher.client.perform actor op input.spotify = some (answer, client)) :
    Careful { fetcher with client }
      (Function.update stages actor ((stages actor).next (.spotify op) answer)) := by
  refine careful.update (fun _ _ => rfl) ?_ careful.vouched
  have knows := careful.knows actor
  unfold ChecksOwn at permitted
  cases stage : stages actor with
  | away => trivial
  | checking token taken =>
      rw [stage] at knows permitted
      exact taken_own permitted performed knows
  | checked token sent premium =>
      rw [stage] at knows
      exact knows

theorem careful_send (careful : fetcher.Careful stages) {sent : Token}
    (allowed : (stages actor).Allows (.send sent)) (response : Response) :
    (fetcher.send actor sent response).Careful
      (Function.update stages actor ((stages actor).next (.send sent) response)) := by
  obtain ⟨token, taken, stage, sourced⟩ := allowed
  have own := careful.knows actor
  rw [stage] at own
  obtain ⟨source, member, same⟩ := sourced sent rfl
  rw [stage, send]
  simp only [Stage.next]
  cases response.premium with
  | none => exact careful.update (fun _ _ => rfl) own careful.vouched
  | some premium =>
      refine careful.update (fun task different => Function.update_of_ne different _ _) ?_
        careful.vouched
      exact ⟨same.symm.trans (own source member), Function.update_self ..⟩

theorem careful_connect (careful : fetcher.Careful stages) {token : Token}
    (allowed : (stages actor).Allows (.connect token)) :
    (fetcher.connect actor token).Careful (Function.update stages actor (stages actor)) := by
  obtain ⟨sent, stage⟩ := allowed
  have own := careful.knows actor
  rw [stage] at own
  refine careful.update (fun _ _ => rfl) ((careful.knows actor).same rfl) ?_
  exact List.forall_mem_cons.mpr ⟨⟨sent, own.2, own.1⟩, careful.vouched⟩

theorem careful_perform (careful : fetcher.Careful stages) (allowed : (stages actor).Allows op)
    (permitted : fetcher.ChecksOwn stages actor op input)
    (performed : fetcher.perform actor op input = some (answer, after)) :
    after.Careful (Function.update stages actor ((stages actor).next op answer)) := by
  cases op with
  | spotify op =>
      obtain ⟨⟨reply, client⟩, stepped, same⟩ := Option.map_eq_some_iff.mp performed
      obtain ⟨rfl, rfl⟩ := Prod.mk.inj same
      exact careful_spotify careful permitted stepped
  | acquireSession =>
      obtain ⟨-, -, rfl⟩ := of_guarded_answer performed
      exact careful.keep rfl rfl
  | noteToken token =>
      obtain ⟨-, rfl⟩ := Prod.mk.inj (Option.some.inj performed)
      exact careful.update (fun _ _ => rfl) nofun careful.vouched
  | send sent =>
      obtain ⟨rfl, rfl⟩ := Prod.mk.inj (Option.some.inj performed)
      exact careful_send careful allowed input.response
  | connect token =>
      obtain ⟨-, rfl⟩ := Prod.mk.inj (Option.some.inj performed)
      exact careful_connect careful allowed
  | _ =>
      obtain ⟨-, rfl⟩ := Prod.mk.inj (Option.some.inj performed)
      exact careful.keep rfl rfl

end Fetcher

theorem safe : machine.Safe discipline Fetcher.ChecksOwn Fetcher.Careful where
  initial := by
    rintro _ ⟨client, premium, useLibrespot, -, rfl⟩
    exact ⟨fun _ => trivial, nofun⟩
  accept := by
    intro fetcher stages actor request program after careful _ accepted
    obtain ⟨rfl, rfl⟩ := Prod.mk.inj (Option.some.inj accepted)
    exact ⟨careful, guides_accept request⟩
  perform fetcher stages actor op input answer after careful allowed permitted performed :=
    Fetcher.careful_perform careful allowed permitted performed
  outside := by
    intro fetcher stages change after careful changed
    obtain rfl := Option.some.inj changed
    cases change with
    | clock | invalidate => exact ⟨fun task => (careful.knows task).same rfl, careful.vouched⟩

/-- All interleavings of fetchers, callers and pairings. -/
abbrev system := machine.system discipline

/-- If every plan check finds tokens of its own account only, no session is connected but with an
account which the check has just found to be Premium. -/
theorem connected_with_premium {pool : Pool signature Fetcher Stage}
    (reach : system.ReachableUnder (Machine.Permits Fetcher.ChecksOwn) pool) :
    ∀ connection ∈ pool.shared.connections, connection.Vouched :=
  (safe.guarded reach).holds.vouched

/-- A client paired with an account whose access token is good. -/
def paired : Fetcher :=
  start
    (Spotify.start
      (some
        { accessToken := ⟨"access", 1⟩, refreshToken := some ⟨"refresh", 1⟩
          expiresAtUnix := 9999 })
      100 0)
    (some true) true

def idle : Pool signature Fetcher Stage := Machine.boot discipline paired

theorem idle_initial : system.initial idle := by
  refine ⟨paired, ⟨_, _, _, ⟨_, _, _, rfl, ?_⟩, rfl⟩, rfl⟩
  intro auth stored
  obtain rfl := Option.some.inj stored
  refine ⟨rfl, fun token kept => ?_⟩
  obtain rfl := Option.some.inj kept
  rfl

/-- A number of operations of one task.  A pairing is granted for another account, and both accounts
are Premium. -/
def advance (count actor : Nat) : List (PoolEvent Request Input Change) :=
  let grant : Spotify.Grant :=
    { accessToken := "other", refreshToken := some "next", expiresIn := 3600, account := 2 }
  List.replicate count (.advance actor
    { spotify := { polled := some grant }
      response := .success (some (.object [("product", .string "premium")])) })

/-- A session is connected. -/
def connected : List (PoolEvent Request Input Change) := [.start .ensureSession] ++ advance 17 0

theorem connected_is_vouched :
    let pool := system.final idle connected rfl
    pool.shared.connections = [⟨⟨"access", 1⟩, some (⟨"access", 1⟩, true)⟩] ∧
      ∀ connection ∈ pool.shared.connections, connection.Vouched :=
  ⟨rfl, connected_with_premium (System.ReachableUnder.final idle_initial (by decide) rfl)⟩

/-- Another account is paired before the plan check. -/
def overtaken : List (PoolEvent Request Input Change) :=
  [.start .ensureSession] ++ advance 10 0 ++ [.start (.spotify .pairPoll)] ++ advance 3 1 ++
    advance 11 0

/-- The check vouches for the other account. -/
theorem overtaken_is_unvouched : ¬ ∀ pool, system.Reachable pool →
    ∀ connection ∈ pool.shared.connections, connection.Vouched := by
  intro vouched
  have reach : system.Reachable (system.final idle overtaken rfl) :=
    System.reachable_final idle_initial overtaken rfl
  obtain ⟨sent, check, same⟩ := vouched _ reach ⟨⟨"access", 1⟩, some (⟨"other", 2⟩, true)⟩
    List.mem_cons_self
  obtain ⟨rfl, -⟩ := Prod.mk.inj (Option.some.inj check)
  exact absurd same (by decide)

end Togewire.Audio.Librespot
