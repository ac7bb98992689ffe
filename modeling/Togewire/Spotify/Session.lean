import Mathlib.Data.List.Basic
import Togewire.Foundation.Program

/-!
# The Spotify session

The tokens of the paired account live in the configuration and in a cache.  A caller of
`access_token` may be suspended between reading the configuration and writing what it got, while the
admin disconnects or pairs another account.  No credentials of a dropped account are kept or stored
again, provided that every such write finds the account still paired.
-/

namespace Togewire.Spotify

open Interleaving Transition

/-- A token, and the account it is for. -/
structure Token where
  text : String
  /-- History: the account it is for. -/
  account : Nat
  deriving DecidableEq

/-- `SpotifyAuth` -/
structure SpotifyAuth where
  accessToken : Token
  refreshToken : Option Token
  expiresAtUnix : Int

/-- All tokens are for one account. -/
def SpotifyAuth.Belongs (auth : SpotifyAuth) (account : Nat) : Prop :=
  auth.accessToken.account = account ∧
    ∀ token, auth.refreshToken = some token → token.account = account

/-- Why `save_spotify_auth` is called. -/
inductive Purpose
  | refresh
  | pairing
  deriving DecidableEq

/-- The configured tokens and the client's own state. -/
structure Client where
  spotifyAuth : Option SpotifyAuth
  /-- The cached access token and the millisecond at which it expires. -/
  tokenCache : Option (Token × Nat)
  tokenRefresh : Option Nat
  /-- Seconds since the epoch. -/
  unix : Int
  /-- Milliseconds of the monotonic clock. -/
  instant : Nat
  /-- History: the account paired last, unless a `clear_session` has completed since. -/
  account : Option Nat
  /-- History: tasks which are between the two steps of `clear_session`. -/
  clearing : List Nat
  /-- History: whether a token of another account than the paired one was ever cached. -/
  strayed : Bool

/-- The operations of calls, pairings and disconnects. -/
inductive Op
  | cachedToken
  | clearCachedToken (session : Bool)
  | clearAuth
  | acquireRefresh
  | releaseRefresh
  | readAuth
  | nowUnix
  | requestRefresh (token : Token)
  | saveSpotifyAuth (purpose : Purpose) (access : Token) (refresh : Option Token) (seconds : Nat)
  | fillCache (token : Token) (seconds : Nat)
  | invalidateAccessToken
  | sendRequest (token : Token)
  | pollDeviceToken

/-- What Spotify's token endpoint grants. -/
structure Grant where
  accessToken : String
  refreshToken : Option String
  expiresIn : Nat
  /-- History: the account which approved a pairing. -/
  account : Nat := 0

/-- What comes of a refresh. -/
inductive Refreshed
  | granted (grant : Grant)
  | rejected (invalidGrant : Bool)
  | unreachable

def Op.Answer : Op → Type
  | cachedToken => Option Token
  | readAuth => Option SpotifyAuth
  | nowUnix => Int
  | requestRefresh _ => Refreshed
  | saveSpotifyAuth _ _ _ _ | sendRequest _ => Bool
  | pollDeviceToken => Option Grant
  | clearCachedToken _ | clearAuth | acquireRefresh | releaseRefresh | fillCache _ _
  | invalidateAccessToken => Unit

abbrev signature : Signature := ⟨Op, Op.Answer⟩

abbrev Task := Program signature

/-- What the outside world contributes to a step. -/
structure Input where
  refreshed : Refreshed := .unreachable
  /-- Whether the configuration file can be written. -/
  saved : Bool := true
  /-- Whether Spotify answers a request with 401. -/
  unauthorized : Bool := false
  polled : Option Grant := none

namespace Client

/-- The cached token, unless it expires within a minute. -/
def cachedToken (client : Client) : Option Token :=
  match client.tokenCache with
  | none => none
  | some (token, expires) => if client.instant + 60000 < expires then some token else none

/-- `save_spotify_auth`: a missing refresh token is inherited. -/
def saveSpotifyAuth (client : Client) (purpose : Purpose) (access : Token)
    (refresh : Option Token) (seconds : Nat) : Client :=
  { client with
    spotifyAuth :=
      some
        { accessToken := access
          refreshToken := refresh.or (client.spotifyAuth.bind SpotifyAuth.refreshToken)
          expiresAtUnix := client.unix + max seconds 60 }
    account :=
      match purpose with
      | .refresh => client.account
      | .pairing => some access.account }

/-- A token is cached for so long. -/
def fillCache (client : Client) (token : Token) (seconds : Nat) : Client :=
  { client with
    tokenCache := some (token, client.instant + 1000 * seconds)
    strayed := client.strayed || client.account != some token.account }

/-- The effect of one operation of a task. -/
def perform (client : Client) (actor : Nat) (op : Op) (input : Input) :
    Option (op.Answer × Client) :=
  match op with
  | .cachedToken => some (client.cachedToken, client)
  | .clearCachedToken session =>
      some ((),
        { client with
          tokenCache := none
          clearing := if session then actor :: client.clearing else client.clearing })
  | .clearAuth =>
      some ((),
        { client with
          spotifyAuth := none
          account := none
          clearing := client.clearing.filter fun task => task ≠ actor })
  | .acquireRefresh =>
      if client.tokenRefresh = none then
        some ((), { client with tokenRefresh := some actor })
      else
        none
  | .releaseRefresh => some ((), { client with tokenRefresh := none })
  | .readAuth => some (client.spotifyAuth, client)
  | .nowUnix => some (client.unix, client)
  | .requestRefresh _ => some (input.refreshed, client)
  | .saveSpotifyAuth purpose access refresh seconds =>
      some (input.saved, client.saveSpotifyAuth purpose access refresh seconds)
  | .fillCache token seconds => some ((), client.fillCache token seconds)
  | .invalidateAccessToken =>
      some ((),
        { client with
          spotifyAuth := client.spotifyAuth.map fun auth => { auth with expiresAtUnix := 0 } })
  | .sendRequest _ => some (input.unauthorized, client)
  | .pollDeviceToken => some (input.polled, client)

end Client

/-! ## Tasks -/

def ask (op : Op) : Task op.Answer := Program.perform (S := signature) op

def cachedToken : Task (Option Token) := ask .cachedToken
def clearCachedToken (session : Bool) : Task Unit := ask (.clearCachedToken session)
def clearAuth : Task Unit := ask .clearAuth
def acquireRefresh : Task Unit := ask .acquireRefresh
def releaseRefresh : Task Unit := ask .releaseRefresh
def readAuth : Task (Option SpotifyAuth) := ask .readAuth
def nowUnix : Task Int := ask .nowUnix
def requestRefresh (token : Token) : Task Refreshed := ask (.requestRefresh token)
def saveSpotifyAuth (purpose : Purpose) (access : Token) (refresh : Option Token)
    (seconds : Nat) : Task Bool :=
  ask (.saveSpotifyAuth purpose access refresh seconds)
def fillCache (token : Token) (seconds : Nat) : Task Unit := ask (.fillCache token seconds)
def invalidateAccessToken : Task Unit := ask .invalidateAccessToken
def sendRequest (token : Token) : Task Bool := ask (.sendRequest token)
def pollDeviceToken : Task (Option Grant) := ask .pollDeviceToken

/-- `clear_session` -/
def clearSession : Task Unit := do
  clearCachedToken true
  clearAuth

/-- Store what a refresh granted. -/
def saveGrant (refresh : Token) (grant : Grant) : Task (Option (Token × Nat)) := do
  let access : Token := ⟨grant.accessToken, refresh.account⟩
  let rotated := grant.refreshToken.map fun text => ⟨text, refresh.account⟩
  let _ ← saveSpotifyAuth .refresh access (some (rotated.getD refresh)) grant.expiresIn
  pure (some (access, grant.expiresIn))

/-- `refresh_oauth_token` -/
def refreshOauthToken (refresh : Token) : Task (Option (Token × Nat)) := do
  match ← requestRefresh refresh with
  | .granted grant => saveGrant refresh grant
  | .rejected true => do
      clearSession
      pure none
  | .rejected false => pure none
  | .unreachable => pure none

/-- Cache a token and hand it out. -/
def handOut (token : Token) (seconds : Nat) : Task (Option Token) := do
  fillCache token seconds
  pure (some token)

/-- Refresh the configured tokens. -/
def refreshAuth (auth : SpotifyAuth) : Task (Option Token) :=
  match auth.refreshToken with
  | none => pure none
  | some refresh => do
      match ← refreshOauthToken refresh with
      | none => pure none
      | some (token, seconds) => handOut token seconds

/-- The configured access token while it is good for another minute, else a refreshed one. -/
def tokenOf (auth : SpotifyAuth) : Task (Option Token) := do
  let now ← nowUnix
  if now < auth.expiresAtUnix - 60 then
    handOut auth.accessToken (auth.expiresAtUnix - now).toNat
  else
    refreshAuth auth

/-- What `access_token` does under the refresh lock. -/
def lockedToken : Task (Option Token) := do
  match ← cachedToken with
  | some token => pure (some token)
  | none =>
      match ← readAuth with
      | none => pure none
      | some auth => tokenOf auth

/-- `access_token`, absent on an error. -/
def accessToken : Task (Option Token) := do
  match ← cachedToken with
  | some token => pure (some token)
  | none => do
      acquireRefresh
      let token ← lockedToken
      releaseRefresh
      pure token

/-- The requests of `send_authed_json`, up to the second attempt. -/
def sendAuthedJson : Task Unit := do
  match ← accessToken with
  | none => pure ()
  | some token =>
      if ← sendRequest token then
        clearCachedToken false
        invalidateAccessToken
        let _ ← accessToken
      else
        pure ()

/-- `complete_pairing`, which ends with a request for the account's plan. -/
def completePairing (grant : Grant) : Task Unit := do
  let refresh := grant.refreshToken.map fun text => ⟨text, grant.account⟩
  if ← saveSpotifyAuth .pairing ⟨grant.accessToken, grant.account⟩ refresh grant.expiresIn then
    clearCachedToken false
    sendAuthedJson
  else
    pure ()

def handleAdminPairPoll : Task Unit := do
  match ← pollDeviceToken with
  | none => pure ()
  | some grant => completePairing grant

inductive Request
  | accessToken
  | sendAuthedJson
  | pairPoll
  | disconnect

def accept : Request → Task Unit
  | .accessToken => do
      let _ ← accessToken
  | .sendAuthedJson => sendAuthedJson
  | .pairPoll => handleAdminPairPoll
  | .disconnect => clearSession

/-- The clocks move. -/
structure Change where
  unix : Int
  elapsed : Nat

def Client.outside (client : Client) (change : Change) : Client :=
  { client with unix := change.unix, instant := client.instant + change.elapsed }

/-- A client over the configured tokens. -/
def start (spotifyAuth : Option SpotifyAuth) (unix : Int) (instant : Nat) : Client where
  spotifyAuth := spotifyAuth
  tokenCache := none
  tokenRefresh := none
  unix := unix
  instant := instant
  account := spotifyAuth.map fun auth => auth.accessToken.account
  clearing := []
  strayed := false

/-- The configured tokens, if any, are for one account. -/
def Fresh (client : Client) : Prop :=
  ∃ spotifyAuth unix instant, client = start spotifyAuth unix instant ∧
    ∀ auth, spotifyAuth = some auth → auth.Belongs auth.accessToken.account

/-- Callers, pairings and disconnects in any order. -/
def machine : Machine signature Client Request Input Change where
  initial := Fresh
  accept client _ request := some (accept request, client)
  perform := Client.perform
  outside client change := some (client.outside change)

/-! ## What each task has done -/

/-- Whether a task is between the two steps of `clear_session`. -/
abbrev Clearing := Bool

namespace Clearing

def next (clearing : Clearing) : (op : Op) → op.Answer → Clearing
  | .clearCachedToken true, _ => true
  | .clearAuth, _ => false
  | _, _ => clearing

/-- Credentials are dropped with the session, and what is stored is for one account. -/
def Allows (clearing : Clearing) : Op → Prop
  | .clearCachedToken _ => clearing = false
  | .clearAuth => clearing = true
  | .saveSpotifyAuth .refresh access refresh _ =>
      ∃ token, refresh = some token ∧ token.account = access.account
  | .saveSpotifyAuth .pairing access refresh _ =>
      ∀ token, refresh = some token → token.account = access.account
  | _ => True

end Clearing

def discipline : Discipline signature Clearing where
  start := false
  next := Clearing.next
  allows := Clearing.Allows

abbrev Guides {α : Type} (task : Task α) : Prop :=
  task.Obeys discipline false fun _ clearing => clearing = false

theorem Guides.bind {α β : Type} {task : Task α} {next : α → Task β} (first : Guides task)
    (rest : ∀ result, Guides (next result)) : Guides (task >>= next) := by
  refine Program.Obeys.bind (first.mono ?_)
  rintro result _ rfl
  exact rest result

theorem guides_clearSession : Guides clearSession :=
  ⟨rfl, fun _ => ⟨rfl, fun _ => rfl⟩⟩

theorem guides_saveGrant (refresh : Token) (grant : Grant) : Guides (saveGrant refresh grant) := by
  refine Program.Obeys.perform ⟨_, rfl, ?_⟩ fun _ => rfl
  cases grant.refreshToken <;> rfl

theorem guides_refreshOauthToken (refresh : Token) : Guides (refreshOauthToken refresh) := by
  refine Program.Obeys.perform trivial fun refreshed => ?_
  match refreshed with
  | .granted grant => exact guides_saveGrant refresh grant
  | .rejected true => exact guides_clearSession.bind fun _ => rfl
  | .rejected false | .unreachable => rfl

theorem guides_refreshAuth (auth : SpotifyAuth) : Guides (refreshAuth auth) := by
  rw [refreshAuth]
  cases auth.refreshToken with
  | none => rfl
  | some refresh =>
      refine (guides_refreshOauthToken refresh).bind fun granted => ?_
      cases granted with
      | none => rfl
      | some granted => exact ⟨trivial, fun _ => rfl⟩

theorem guides_tokenOf (auth : SpotifyAuth) : Guides (tokenOf auth) := by
  refine Program.Obeys.perform trivial fun (now : Int) => ?_
  by_cases good : now < auth.expiresAtUnix - 60
  · rw [if_pos good]
    exact ⟨trivial, fun _ => rfl⟩
  · rw [if_neg good]
    exact guides_refreshAuth auth

theorem guides_lockedToken : Guides lockedToken := by
  refine Program.Obeys.perform trivial fun cached => ?_
  cases cached with
  | some token => rfl
  | none =>
      refine Program.Obeys.perform trivial fun auth => ?_
      cases auth with
      | none => rfl
      | some auth => exact guides_tokenOf auth

theorem guides_accessToken : Guides accessToken := by
  refine Program.Obeys.perform trivial fun cached => ?_
  cases cached with
  | some token => rfl
  | none =>
      refine Program.Obeys.perform trivial fun _ => guides_lockedToken.bind fun token => ?_
      exact ⟨trivial, fun _ => rfl⟩

theorem guides_sendAuthedJson : Guides sendAuthedJson := by
  refine guides_accessToken.bind fun token => ?_
  cases token with
  | none => rfl
  | some token =>
      refine Program.Obeys.perform trivial ?_
      rintro (_ | _)
      · rfl
      · refine Program.Obeys.perform rfl fun _ => Program.Obeys.perform trivial fun _ => ?_
        exact guides_accessToken.bind fun _ => rfl

theorem guides_completePairing (grant : Grant) : Guides (completePairing grant) := by
  refine Program.Obeys.perform ?_ ?_
  · intro token refresh
    obtain ⟨text, -, rfl⟩ := Option.map_eq_some_iff.mp refresh
    rfl
  · rintro (_ | _)
    · rfl
    · exact Program.Obeys.perform rfl fun _ => guides_sendAuthedJson

theorem guides_accept (request : Request) : Guides (accept request) := by
  cases request with
  | accessToken => exact guides_accessToken.bind fun _ => rfl
  | sendAuthedJson => exact guides_sendAuthedJson
  | pairPoll =>
      refine Program.Obeys.perform trivial fun polled => ?_
      cases polled with
      | none => rfl
      | some grant => exact guides_completePairing grant
  | disconnect => exact guides_clearSession

/-! ## Dropped credentials stay dropped -/

namespace Client

/-- The configuration holds credentials of an account. -/
def pairedWith (client : Client) (account : Nat) : Bool :=
  client.spotifyAuth.any fun auth => auth.accessToken.account = account

/-- After a `clear_session` no tokens are kept, the configured ones are those of the account paired
last, and no others have been cached. -/
structure Loyal (client : Client) : Prop where
  dropped : client.account = none → client.spotifyAuth = none ∧ client.tokenCache = none
  stored : ∀ auth, client.spotifyAuth = some auth →
    ∃ account, client.account = some account ∧ auth.Belongs account
  cached : client.strayed = false

/-- Refreshed tokens are saved, and tokens cached, only while the configuration holds credentials of
their account, and tokens are not cached while a `clear_session` is between its steps.  A pairing
that brings no refresh token finds none of another account. -/
def StoresPaired (client : Client) (_ : Nat → Clearing) (_ : Nat) (op : Op) (_ : Input) : Prop :=
  match op with
  | .saveSpotifyAuth .refresh access _ _ => client.pairedWith access.account = true
  | .saveSpotifyAuth .pairing access none _ =>
      (client.spotifyAuth.bind SpotifyAuth.refreshToken).all
        (fun token => token.account = access.account) = true
  | .fillCache token _ => client.pairedWith token.account = true ∧ client.clearing = []
  | _ => True

instance (client : Client) (traces : Nat → Clearing) (actor : Nat) (op : Op) (input : Input) :
    Decidable (client.StoresPaired traces actor op input) := by
  match op with
  | .saveSpotifyAuth .refresh _ _ _ | .saveSpotifyAuth .pairing _ none _ =>
      exact inferInstanceAs (Decidable (_ = true))
  | .fillCache _ _ => exact inferInstanceAs (Decidable (_ ∧ _))
  | .saveSpotifyAuth .pairing _ (some _) _ | .cachedToken | .clearCachedToken _ | .clearAuth
  | .acquireRefresh | .releaseRefresh | .readAuth | .nowUnix | .requestRefresh _
  | .invalidateAccessToken | .sendRequest _ | .pollDeviceToken => exact isTrue trivial

/-- The invariant of all interleavings. -/
structure Coherent (client : Client) (traces : Nat → Clearing) : Prop where
  loyal : client.Loyal
  clearing : ∀ task, traces task = true → task ∈ client.clearing
  emptied : client.clearing ≠ [] → client.tokenCache = none

variable {client after : Client} {traces : Nat → Clearing} {actor : Nat} {op : Op}
  {answer : op.Answer} {input : Input} {next : Clearing}

theorem Coherent.keep (coherent : client.Coherent traces) (loyal : after.Loyal)
    (clearing : after.clearing = client.clearing) (trace : next = traces actor)
    (cache : client.clearing ≠ [] → client.tokenCache = none → after.tokenCache = none) :
    after.Coherent (Function.update traces actor next) where
  loyal := loyal
  clearing := by
    rw [clearing, trace, Function.update_eq_self]
    exact coherent.clearing
  emptied := by
    rw [clearing]
    exact fun some => cache some (coherent.emptied some)

theorem Loyal.paired (loyal : client.Loyal) {account : Nat}
    (paired : client.pairedWith account = true) : client.account = some account := by
  obtain ⟨auth, stored, same⟩ := (Option.any_eq_true _ _).mp paired
  obtain ⟨holder, holds, belongs⟩ := loyal.stored auth stored
  rw [holds, ← belongs.1, of_decide_eq_true same]

theorem loyal_fillCache (loyal : client.Loyal) {token : Token} {seconds : Nat}
    (paired : client.pairedWith token.account = true) : (client.fillCache token seconds).Loyal := by
  have account := loyal.paired paired
  refine ⟨fun dropped => ?_, loyal.stored, ?_⟩
  · rw [show client.account = none from dropped] at account
    cases account
  · simp [fillCache, loyal.cached, account]

theorem loyal_saveRefresh (loyal : client.Loyal) {access token : Token} {seconds : Nat}
    (paired : client.pairedWith access.account = true) (same : token.account = access.account) :
    (client.saveSpotifyAuth .refresh access (some token) seconds).Loyal := by
  have account := loyal.paired paired
  refine ⟨fun dropped => ?_, fun auth stored => ⟨access.account, account, ?_⟩, loyal.cached⟩
  · rw [show client.account = none from dropped] at account
    cases account
  · obtain rfl := Option.some.inj stored
    refine ⟨rfl, fun other kept => ?_⟩
    obtain rfl : token = other := Option.some.inj kept
    exact same

theorem loyal_savePairing (loyal : client.Loyal) {access : Token} {refresh : Option Token}
    {seconds : Nat} (granted : ∀ token, refresh = some token → token.account = access.account)
    (inherited : refresh = none → ∀ token, client.spotifyAuth.bind SpotifyAuth.refreshToken =
      some token → token.account = access.account) :
    (client.saveSpotifyAuth .pairing access refresh seconds).Loyal := by
  refine ⟨nofun, fun auth stored => ⟨access.account, rfl, ?_⟩, loyal.cached⟩
  obtain rfl := Option.some.inj stored
  refine ⟨rfl, fun token kept => ?_⟩
  cases refresh with
  | none => exact inherited rfl token kept
  | some fresh => exact granted token kept

theorem coherent_clearCachedToken (coherent : client.Coherent traces) (session : Bool)
    (outside : traces actor = false) :
    Coherent
      { client with
        tokenCache := none
        clearing := if session then actor :: client.clearing else client.clearing }
      (Function.update traces actor ((traces actor).next (.clearCachedToken session) ())) where
  loyal := ⟨fun dropped => ⟨(coherent.loyal.dropped dropped).1, rfl⟩, coherent.loyal.stored,
    coherent.loyal.cached⟩
  clearing := by
    refine (Function.forall_update_iff traces fun task clearing =>
      clearing = true → task ∈ _).mpr ?_
    cases session with
    | false =>
        exact ⟨fun clearing => absurd (outside.symm.trans clearing) (by decide),
          fun task _ => coherent.clearing task⟩
    | true =>
        exact ⟨fun _ => List.mem_cons_self,
          fun task _ clearing => List.mem_cons_of_mem _ (coherent.clearing task clearing)⟩
  emptied _ := rfl

theorem coherent_clearAuth (coherent : client.Coherent traces) (clearing : traces actor = true) :
    Coherent
      { client with
        spotifyAuth := none
        account := none
        clearing := client.clearing.filter fun task => task ≠ actor }
      (Function.update traces actor false) := by
  have emptied : client.tokenCache = none :=
    coherent.emptied (List.ne_nil_of_mem (coherent.clearing actor clearing))
  refine ⟨⟨fun _ => ⟨rfl, emptied⟩, nofun, coherent.loyal.cached⟩, ?_, fun _ => emptied⟩
  refine (Function.forall_update_iff traces fun task clearing => clearing = true → task ∈ _).mpr
    ⟨nofun, fun task different clearing => ?_⟩
  exact List.mem_filter.mpr ⟨coherent.clearing task clearing, decide_eq_true different⟩

theorem loyal_invalidate (loyal : client.Loyal) :
    Loyal
      { client with
        spotifyAuth := client.spotifyAuth.map fun auth => { auth with expiresAtUnix := 0 } } where
  dropped unpaired := by
    obtain ⟨none, cache⟩ := loyal.dropped unpaired
    exact ⟨by simp [none], cache⟩
  stored auth kept := by
    obtain ⟨before, stored, rfl⟩ := Option.map_eq_some_iff.mp kept
    exact loyal.stored before stored
  cached := loyal.cached

theorem coherent_perform (coherent : client.Coherent traces)
    (allowed : (traces actor).Allows op) (permitted : client.StoresPaired traces actor op input)
    (performed : client.perform actor op input = some (answer, after)) :
    after.Coherent (Function.update traces actor ((traces actor).next op answer)) := by
  have loyal := coherent.loyal
  cases op with
  | clearCachedToken session =>
      obtain ⟨-, rfl⟩ := Prod.mk.inj (Option.some.inj performed)
      exact coherent_clearCachedToken coherent session allowed
  | clearAuth =>
      obtain ⟨-, rfl⟩ := Prod.mk.inj (Option.some.inj performed)
      exact coherent_clearAuth coherent allowed
  | acquireRefresh =>
      obtain ⟨-, -, rfl⟩ := of_guarded_answer performed
      exact coherent.keep ⟨loyal.dropped, loyal.stored, loyal.cached⟩ rfl rfl fun _ none => none
  | saveSpotifyAuth purpose access refresh seconds =>
      obtain ⟨-, rfl⟩ := Prod.mk.inj (Option.some.inj performed)
      refine coherent.keep ?_ rfl (by cases purpose <;> rfl) fun _ none => none
      cases purpose with
      | refresh =>
          obtain ⟨token, rfl, same⟩ := allowed
          exact loyal_saveRefresh loyal permitted same
      | pairing =>
          refine loyal_savePairing loyal allowed ?_
          rintro rfl token inherited
          have all : (client.spotifyAuth.bind SpotifyAuth.refreshToken).all
              (fun token => token.account = access.account) = true := permitted
          rw [inherited] at all
          exact of_decide_eq_true all
  | fillCache token seconds =>
      obtain ⟨-, rfl⟩ := Prod.mk.inj (Option.some.inj performed)
      obtain ⟨paired, quiet⟩ := permitted
      exact coherent.keep (loyal_fillCache loyal paired) rfl rfl fun some _ => absurd quiet some
  | invalidateAccessToken =>
      obtain ⟨-, rfl⟩ := Prod.mk.inj (Option.some.inj performed)
      exact coherent.keep (loyal_invalidate loyal) rfl rfl fun _ none => none
  | _ =>
      obtain ⟨-, rfl⟩ := Prod.mk.inj (Option.some.inj performed)
      exact coherent.keep ⟨loyal.dropped, loyal.stored, loyal.cached⟩ rfl rfl fun _ none => none

end Client

theorem safe : machine.Safe discipline Client.StoresPaired Client.Coherent where
  initial := by
    rintro _ ⟨spotifyAuth, unix, instant, rfl, belongs⟩
    refine ⟨⟨fun unpaired => ?_, fun auth stored => ?_, rfl⟩, nofun, fun clearing => rfl⟩
    · exact ⟨Option.map_eq_none_iff.mp unpaired, rfl⟩
    · refine ⟨auth.accessToken.account, ?_, belongs auth stored⟩
      rw [start, show spotifyAuth = some auth from stored]
      rfl
  accept := by
    intro client traces actor request program after coherent _ accepted
    obtain ⟨rfl, rfl⟩ := Prod.mk.inj (Option.some.inj accepted)
    exact ⟨coherent, (guides_accept request).mono fun _ _ _ => trivial⟩
  perform client traces actor op input answer after coherent allowed permitted performed :=
    Client.coherent_perform coherent allowed permitted performed
  outside := by
    intro client traces change after coherent changed
    obtain rfl := Option.some.inj changed
    have loyal := coherent.loyal
    exact ⟨⟨loyal.dropped, loyal.stored, loyal.cached⟩, coherent.clearing, coherent.emptied⟩

/-- All interleavings of calls, pairings and disconnects. -/
abbrev system := machine.system discipline

/-- If tokens are only stored while their account is paired, dropped credentials stay dropped. -/
theorem dropped_stay_dropped {pool : Pool signature Client Clearing}
    (reach : system.ReachableUnder (Machine.Permits Client.StoresPaired) pool) :
    pool.shared.Loyal :=
  (safe.guarded reach).holds.loyal

/-- A paired client whose access token has expired. -/
def expired : Client :=
  start
    (some { accessToken := ⟨"access", 1⟩, refreshToken := some ⟨"refresh", 1⟩, expiresAtUnix := 0 })
    100 0

def idle : Pool signature Client Clearing := Machine.boot discipline expired

theorem idle_initial : system.initial idle := by
  refine ⟨expired, ⟨_, _, _, rfl, ?_⟩, rfl⟩
  intro auth stored
  obtain rfl := Option.some.inj stored
  refine ⟨rfl, fun token kept => ?_⟩
  obtain rfl := Option.some.inj kept
  rfl

/-- A number of operations of one task, with refreshes granted. -/
def advance (count actor : Nat) : List (PoolEvent Request Input Change) :=
  List.replicate count (.advance actor
    { refreshed := .granted { accessToken := "next", refreshToken := none, expiresIn := 3600 } })

/-- A caller refreshes the token, and the admin disconnects. -/
def refreshed : List (PoolEvent Request Input Change) :=
  [.start .accessToken] ++ advance 9 0 ++ [.start .disconnect] ++ advance 2 1

theorem refreshed_stay_dropped :
    let pool := system.final idle refreshed rfl
    pool.shared.account = none ∧ pool.shared.Loyal :=
  ⟨rfl, dropped_stay_dropped (System.ReachableUnder.final idle_initial (by decide) rfl)⟩

/-- The admin disconnects while the caller's refresh is under way. -/
def overtaken : List (PoolEvent Request Input Change) :=
  [.start .accessToken] ++ advance 6 0 ++ [.start .disconnect] ++ advance 2 1 ++ advance 1 0

/-- The account is paired again without a pairing. -/
theorem overtaken_pairs_again : ¬ ∀ pool, system.Reachable pool → pool.shared.Loyal := by
  intro loyal
  have reach : system.Reachable (system.final idle overtaken rfl) :=
    System.reachable_final idle_initial overtaken rfl
  have dropped := (loyal _ reach).dropped rfl
  cases dropped.1

end Togewire.Spotify
