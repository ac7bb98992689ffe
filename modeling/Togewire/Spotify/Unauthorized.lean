import Togewire.Spotify.Session

/-!
# Rejected access tokens

Any number of calls hold one access token when Spotify begins to reject it.  A call which is
answered 401 empties the cache, expires the configured token and asks for another, in steps which
do not say what token was rejected; the refresh lock is around the last of them only.  The refreshed
token stays, provided that every rejection has been dealt with before it is stored.
-/

namespace Togewire.Spotify.Unauthorized

open Interleaving Transition

/-- What the calls share. -/
structure Renewal where
  client : Client
  /-- The token all calls hold. -/
  held : Token
  /-- History: whether each refresh request was granted, the last one first. -/
  requests : List Bool
  /-- History: calls between a 401 and the end of what they invalidate. -/
  handling : List Nat
  /-- History: what a refresh has stored. -/
  stored : Option SpotifyAuth
  /-- History: what has been cached of it. -/
  cached : Option (Token × Nat)

/-- Whether a refresh was granted. -/
def isGranted : Refreshed → Bool
  | .granted _ => true
  | .rejected _ | .unreachable => false

namespace Renewal

/-- Who deals with a rejection, what refreshes came to, and what was stored last. -/
def record (s : Renewal) (actor : Nat) (client : Client) : (op : Op) → op.Answer → Renewal
  | .sendRequest _, (unauthorized : Bool) =>
      { s with
        client := client
        handling := if unauthorized then actor :: s.handling else s.handling }
  | .invalidateAccessToken, _ =>
      { s with client := client, handling := s.handling.filter fun call => call ≠ actor }
  | .requestRefresh _, refreshed =>
      { s with client := client, requests := isGranted refreshed :: s.requests }
  | .saveSpotifyAuth _ _ _ _, _ => { s with client := client, stored := client.spotifyAuth }
  | .fillCache _ _, _ => { s with client := client, cached := client.tokenCache }
  | _, _ => { s with client := client }

/-- The effect of one operation, with the record of refreshes. -/
def perform (s : Renewal) (actor : Nat) (op : Op) (input : Input) :
    Option (op.Answer × Renewal) :=
  (s.client.perform actor op input).map fun outcome =>
    (outcome.1, s.record actor outcome.2 op outcome.1)

end Renewal

/-- `send_authed_json` with a token in hand, up to the second attempt, which changes no token. -/
def sendHolding (token : Token) : Task Unit := do
  if ← sendRequest token then
    clearCachedToken false
    invalidateAccessToken
    let _ ← accessToken
  else
    pure ()

/-- A call is that as soon as it has asked for its token. -/
theorem sendAuthedJson_eq :
    sendAuthedJson =
      accessToken >>= fun
        | none => pure ()
        | some token => sendHolding token := rfl

/-- A paired account whose token all calls hold, whether it is still cached or not. -/
def start (held refresh : Token) (expiresAtUnix : Int) (cache : Option Nat) (unix : Int)
    (instant : Nat) : Renewal where
  client :=
    { Spotify.start
        (some { accessToken := held, refreshToken := some refresh, expiresAtUnix := expiresAtUnix })
        unix instant with
      tokenCache := cache.map fun expires => (held, expires) }
  held := held
  requests := []
  handling := []
  stored := none
  cached := none

def Held (s : Renewal) : Prop :=
  ∃ held refresh expiresAtUnix cache unix instant, 0 ≤ unix ∧
    s = start held refresh expiresAtUnix cache unix instant

/-- The clocks move; `now_unix` counts the seconds since the epoch. -/
def outside (s : Renewal) (change : Change) : Option Renewal :=
  if 0 ≤ change.unix then some { s with client := s.client.outside change } else none

/-- The calls which hold the token, in any order. -/
def machine : Machine signature Renewal Unit Input Change where
  initial := Held
  accept s _ _ := some (sendHolding s.held, s)
  perform := Renewal.perform
  outside := outside

/-! ## What each call has done -/

/-- How far a call has come. -/
inductive Stage
  | holding
  | answered
  | rejected
  | cleared
  | asking
  | waiting
  | locked
  | missed
  | read (auth : SpotifyAuth)
  | dated (auth : SpotifyAuth) (now : Int)
  | granted
  | saved
  | dropping
  | dropped
  | settled
  | through

namespace Stage

def next (stage : Stage) : (op : Op) → op.Answer → Stage
  | .sendRequest _, (unauthorized : Bool) => if unauthorized then rejected else answered
  | .clearCachedToken session, _ => if session then dropped else cleared
  | .invalidateAccessToken, _ => asking
  | .cachedToken, (token : Option Token) =>
      match stage, token with
      | asking, some _ => through
      | asking, none => waiting
      | _, some _ => settled
      | _, none => missed
  | .acquireRefresh, _ => locked
  | .readAuth, (auth : Option SpotifyAuth) =>
      match auth with
      | some auth => read auth
      | none => settled
  | .nowUnix, (now : Int) =>
      match stage with
      | read auth => dated auth now
      | other => other
  | .requestRefresh _, refreshed =>
      match refreshed with
      | .granted _ => granted
      | .rejected true => dropping
      | .rejected false | .unreachable => settled
  | .saveSpotifyAuth _ _ _ _, _ => saved
  | .fillCache _ _, _ | .clearAuth, _ => settled
  | .releaseRefresh, _ => through
  | .pollDeviceToken, _ => stage

/-- What comes next at each stage. -/
def Allows (stage : Stage) : Op → Prop
  | .sendRequest _ => stage = holding
  | .clearCachedToken session => stage = if session then dropping else rejected
  | .invalidateAccessToken => stage = cleared
  | .cachedToken => stage = asking ∨ stage = locked
  | .acquireRefresh => stage = waiting
  | .readAuth => stage = missed
  | .nowUnix => ∃ auth, stage = read auth
  | .requestRefresh _ => ∃ auth now, stage = dated auth now
  | .saveSpotifyAuth _ _ _ _ => stage = granted
  | .fillCache _ _ =>
      stage = saved ∨ ∃ auth now, stage = dated auth now ∧ now < auth.expiresAtUnix - 60
  | .clearAuth => stage = dropped
  | .releaseRefresh =>
      stage = settled ∨ ∃ auth now, stage = dated auth now ∧ auth.refreshToken = none
  | .pollDeviceToken => False

/-- The call holds the refresh lock. -/
def InLock : Stage → Prop
  | locked | missed | read _ | dated _ _ | granted | saved | dropping | dropped | settled => True
  | holding | answered | rejected | cleared | asking | waiting | through => False

end Stage

def discipline : Discipline signature Stage where
  start := .holding
  next := Stage.next
  allows := Stage.Allows

/-! ## The programs -/

/-- What a call has in hand when it is ready to release the lock. -/
def Ends {α : Type} (task : Task α) (stage : Stage) : Prop :=
  task.Obeys discipline stage fun _ stage =>
    stage = .settled ∨ ∃ auth now, stage = .dated auth now ∧ auth.refreshToken = none

theorem ends_refreshAuth (auth : SpotifyAuth) (now : Int) :
    Ends (refreshAuth auth) (.dated auth now) := by
  rw [refreshAuth]
  cases refreshable : auth.refreshToken with
  | none => exact Or.inr ⟨auth, now, rfl, refreshable⟩
  | some refresh =>
      have allowed : discipline.allows (.dated auth now) (.requestRefresh refresh) :=
        ⟨auth, now, rfl⟩
      apply Program.Obeys.bind
      apply Program.Obeys.perform allowed
      intro refreshed
      cases refreshed with
      | granted grant =>
          apply Program.Obeys.perform rfl
          intro _
          exact ⟨Or.inl rfl, fun _ => Or.inl rfl⟩
      | rejected refused =>
          cases refused with
          | true => exact ⟨rfl, fun _ => ⟨rfl, fun _ => Or.inl rfl⟩⟩
          | false => exact Or.inl rfl
      | unreachable => exact Or.inl rfl

theorem ends_tokenOf (auth : SpotifyAuth) : Ends (tokenOf auth) (.read auth) := by
  have allowed : discipline.allows (.read auth) .nowUnix := ⟨auth, rfl⟩
  apply Program.Obeys.perform allowed
  intro (now : Int)
  by_cases good : now < auth.expiresAtUnix - 60
  · rw [if_pos good]
    exact ⟨Or.inr ⟨auth, now, rfl, good⟩, fun _ => Or.inl rfl⟩
  · rw [if_neg good]
    exact ends_refreshAuth auth now

theorem ends_lockedToken : Ends lockedToken .locked := by
  apply Program.Obeys.perform (Or.inr rfl)
  intro cached
  cases cached with
  | some token => exact Or.inl rfl
  | none =>
      apply Program.Obeys.perform rfl
      intro auth
      cases auth with
      | none => exact Or.inl rfl
      | some auth => exact ends_tokenOf auth

theorem obeys_accessToken :
    accessToken.Obeys discipline .asking fun _ _ => True := by
  apply Program.Obeys.perform (Or.inl rfl)
  intro cached
  cases cached with
  | some token => trivial
  | none =>
      apply Program.Obeys.perform rfl
      intro _
      apply Program.Obeys.bind
      apply ends_lockedToken.mono
      intro token stage ready
      exact ⟨ready, fun _ => trivial⟩

theorem obeys_sendHolding (token : Token) :
    (sendHolding token).Obeys discipline .holding fun _ _ => True := by
  apply Program.Obeys.perform rfl
  intro (unauthorized : Bool)
  cases unauthorized with
  | false => trivial
  | true =>
      apply Program.Obeys.perform rfl
      intro _
      apply Program.Obeys.perform rfl
      intro _
      apply Program.Obeys.bind
      apply obeys_accessToken.mono
      intro _ _ _
      trivial

/-! ## What the calls rely on -/

namespace Renewal

/-- No refresh has been granted so far. -/
structure Unserved (s : Renewal) : Prop where
  stored : s.stored = none
  cached : s.cached = none
  requests : ∀ granted ∈ s.requests, granted = false

/-- What the refresh lock protects, when nobody is at it: a refreshed token is both stored and
cached. -/
def Settled (s : Renewal) : Prop :=
  s.Unserved ∨ s.stored ≠ none ∧ s.cached ≠ none

/-- The rejected token is not cached any more. -/
def Emptied (s : Renewal) : Prop := s.cached = none → s.client.tokenCache = none

/-- The rejected token has been marked as expired. -/
def Expired (s : Renewal) : Prop :=
  s.stored = none → ∀ auth, s.client.spotifyAuth = some auth → auth.expiresAtUnix = 0

/-- What holds whatever the calls are at. -/
structure Sound (s : Renewal) : Prop where
  quiet : s.handling ≠ [] → s.stored = none
  stored : ∀ auth, s.stored = some auth → s.client.spotifyAuth = some auth
  cached : ∀ entry, s.cached = some entry → s.client.tokenCache = some entry
  unstored : s.stored = none → s.cached = none
  refreshable : s.stored = none → ∀ auth, s.client.spotifyAuth = some auth →
    auth.refreshToken ≠ none
  paired : s.client.spotifyAuth = none → s.requests ≠ []
  granted : s.stored ≠ none → s.requests ≠ []
  once : ∀ granted ∈ s.requests.tail, granted = false
  unix : 0 ≤ s.client.unix

end Renewal

/-- What a call at a stage may count on. -/
def Stage.Fits (s : Renewal) (call : Nat) : Stage → Prop
  | holding | answered => True
  | rejected => call ∈ s.handling
  | cleared => call ∈ s.handling ∧ s.Emptied
  | asking | waiting => s.Expired ∧ s.Emptied
  | locked => s.Expired ∧ s.Emptied ∧ s.Settled
  | missed => s.Expired ∧ s.Unserved
  | read auth => s.Unserved ∧ auth.expiresAtUnix = 0 ∧ auth.refreshToken ≠ none
  | dated auth now => s.Unserved ∧ auth.expiresAtUnix = 0 ∧ auth.refreshToken ≠ none ∧ 0 ≤ now
  | granted => s.stored = none ∧ s.cached = none ∧ s.requests ≠ []
  | saved => s.stored ≠ none ∧ s.cached = none
  | dropping | dropped => s.Unserved ∧ s.requests ≠ []
  | settled => s.Settled ∧ s.requests ≠ []
  | through => s.requests ≠ []

/-- The invariant of all interleavings. -/
structure Coherent (s : Renewal) (traces : Nat → Stage) : Prop where
  sound : s.Sound
  calls : ∀ call, (traces call).Fits s call
  exclusive : ∀ call, (traces call).InLock → s.client.tokenRefresh = some call
  free : s.client.tokenRefresh = none → s.Settled

/-- What a step of one call leaves to the others: outside of the lock nothing is lost, and what the
lock protects only its holder changes. -/
structure Steady (s after : Renewal) (actor : Nat) : Prop where
  handling : ∀ call, call ≠ actor → call ∈ s.handling → call ∈ after.handling
  emptied : s.Emptied → after.Emptied
  expired : s.Expired → after.Expired
  requests : s.requests ≠ [] → after.requests ≠ []
  lock : s.client.tokenRefresh = some actor ∨
    after.stored = s.stored ∧ after.cached = s.cached ∧ after.requests = s.requests

section Steps

variable {s after : Renewal} {traces : Nat → Stage} {actor call : Nat} {stage next : Stage}

theorem Renewal.Unserved.keep (unserved : s.Unserved) (stored : after.stored = s.stored)
    (cached : after.cached = s.cached) (requests : after.requests = s.requests) :
    after.Unserved where
  stored := stored.trans unserved.stored
  cached := cached.trans unserved.cached
  requests := by
    rw [requests]
    exact unserved.requests

theorem Renewal.Settled.keep (settled : s.Settled) (stored : after.stored = s.stored)
    (cached : after.cached = s.cached) (requests : after.requests = s.requests) :
    after.Settled := by
  rcases settled with unserved | ⟨kept, filled⟩
  · exact Or.inl (unserved.keep stored cached requests)
  · right
    rw [stored, cached]
    exact ⟨kept, filled⟩

theorem steady_of_same_tokens {client : Client} (cache : client.tokenCache = s.client.tokenCache)
    (auth : client.spotifyAuth = s.client.spotifyAuth) :
    Steady s { s with client := client } actor where
  handling _ _ member := member
  emptied emptied uncached := cache.trans (emptied uncached)
  expired expired unstored known configured := expired unstored known (auth.symm.trans configured)
  requests := id
  lock := Or.inr ⟨rfl, rfl, rfl⟩

theorem Stage.Fits.other (fits : stage.Fits s call) (steady : Steady s after actor)
    (different : call ≠ actor) (exclusive : stage.InLock → s.client.tokenRefresh = some call) :
    stage.Fits after call := by
  have protects (inside : stage.InLock) :
      after.stored = s.stored ∧ after.cached = s.cached ∧ after.requests = s.requests := by
    rcases steady.lock with holds | kept
    · rw [exclusive inside] at holds
      exact absurd (Option.some.inj holds) different
    · exact kept
  cases stage with
  | holding | answered => trivial
  | rejected => exact steady.handling call different fits
  | cleared => exact ⟨steady.handling call different fits.1, steady.emptied fits.2⟩
  | asking | waiting => exact ⟨steady.expired fits.1, steady.emptied fits.2⟩
  | locked =>
      obtain ⟨stored, cached, requests⟩ := protects trivial
      exact ⟨steady.expired fits.1, steady.emptied fits.2.1, fits.2.2.keep stored cached requests⟩
  | missed =>
      obtain ⟨stored, cached, requests⟩ := protects trivial
      exact ⟨steady.expired fits.1, fits.2.keep stored cached requests⟩
  | read auth =>
      obtain ⟨stored, cached, requests⟩ := protects trivial
      exact ⟨fits.1.keep stored cached requests, fits.2⟩
  | dated auth now =>
      obtain ⟨stored, cached, requests⟩ := protects trivial
      exact ⟨fits.1.keep stored cached requests, fits.2⟩
  | granted =>
      obtain ⟨stored, cached, requests⟩ := protects trivial
      exact ⟨stored.trans fits.1, cached.trans fits.2.1, steady.requests fits.2.2⟩
  | saved =>
      obtain ⟨stored, cached, -⟩ := protects trivial
      exact ⟨stored ▸ fits.1, cached.trans fits.2⟩
  | dropping | dropped =>
      obtain ⟨stored, cached, requests⟩ := protects trivial
      exact ⟨fits.1.keep stored cached requests, steady.requests fits.2⟩
  | settled =>
      obtain ⟨stored, cached, requests⟩ := protects trivial
      exact ⟨fits.1.keep stored cached requests, steady.requests fits.2⟩
  | through => exact steady.requests fits

theorem Coherent.fits_update (coherent : Coherent s traces) (steady : Steady s after actor)
    (own : next.Fits after actor) :
    ∀ call, (Function.update traces actor next call).Fits after call := by
  rw [Function.forall_update_iff traces fun call stage => stage.Fits after call]
  constructor
  · exact own
  · intro call different
    exact (coherent.calls call).other steady different (coherent.exclusive call)

theorem Coherent.stay (coherent : Coherent s traces) (steady : Steady s after actor)
    (sound : after.Sound) (own : next.Fits after actor)
    (same : after.client.tokenRefresh = s.client.tokenRefresh)
    (inside : next.InLock → (traces actor).InLock) :
    Coherent after (Function.update traces actor next) where
  sound := sound
  calls := coherent.fits_update steady own
  exclusive := by
    rw [same, Function.forall_update_iff traces fun call stage =>
      stage.InLock → s.client.tokenRefresh = some call]
    constructor
    · exact fun locked => coherent.exclusive actor (inside locked)
    · exact fun call _ => coherent.exclusive call
  free unlocked := by
    rw [same] at unlocked
    rcases steady.lock with holds | ⟨stored, cached, requests⟩
    · rw [unlocked] at holds
      cases holds
    · exact (coherent.free unlocked).keep stored cached requests

/-- A step which changes nothing of the shared state but the stage of its call. -/
theorem Coherent.look (coherent : Coherent s traces) (own : next.Fits s actor)
    (inside : next.InLock → (traces actor).InLock) :
    Coherent s (Function.update traces actor next) :=
  coherent.stay (steady_of_same_tokens rfl rfl) coherent.sound own rfl inside

end Steps

/-! ## Single operations -/

/-- A refreshed token is not found expired. -/
def Lives (s : Renewal) (_ : Nat → Stage) (_ : Nat) (op : Op) (_ : Input) : Prop :=
  match op with
  | .cachedToken =>
      s.cached ≠ none → s.client.tokenCache ≠ none → s.client.cachedToken ≠ none
  | _ => True

/-- Besides, no 401 comes after the refreshed token has been stored, and it is stored only when
every 401 before it has been dealt with. -/
def Timely (s : Renewal) (traces : Nat → Stage) (actor : Nat) (op : Op) (input : Input) : Prop :=
  match op with
  | .sendRequest _ => input.unauthorized = true → s.stored = none
  | .saveSpotifyAuth _ _ _ _ => s.handling = []
  | other => Lives s traces actor other input

instance (s : Renewal) (traces : Nat → Stage) (actor : Nat) (op : Op) (input : Input) :
    Decidable (Lives s traces actor op input) := by
  cases op with
  | cachedToken => exact inferInstanceAs (Decidable (_ → _ → _))
  | _ => exact isTrue trivial

instance (s : Renewal) (traces : Nat → Stage) (actor : Nat) (op : Op) (input : Input) :
    Decidable (Timely s traces actor op input) := by
  match op with
  | .sendRequest token => exact inferInstanceAs (Decidable (_ → _))
  | .saveSpotifyAuth purpose access refresh seconds => exact inferInstanceAs (Decidable (_ = _))
  | .cachedToken => exact inferInstanceAs (Decidable (Lives s traces actor .cachedToken input))
  | .clearCachedToken _ | .clearAuth | .acquireRefresh | .releaseRefresh | .readAuth | .nowUnix
  | .requestRefresh _ | .fillCache _ _ | .invalidateAccessToken | .pollDeviceToken =>
      exact isTrue trivial

section Operations

variable {s : Renewal} {traces : Nat → Stage} {actor : Nat}

/-- What a call counts on at the stage it is known to be at. -/
theorem Coherent.at_stage (coherent : Coherent s traces) {stage : Stage}
    (known : traces actor = stage) : stage.Fits s actor := by
  have fits := coherent.calls actor
  rwa [known] at fits

theorem Coherent.holds_lock (coherent : Coherent s traces) {stage : Stage}
    (known : traces actor = stage) (inside : stage.InLock) :
    s.client.tokenRefresh = some actor := by
  apply coherent.exclusive
  rwa [known]

theorem coherent_rejected (coherent : Coherent s traces) (unstored : s.stored = none) :
    Coherent { s with handling := actor :: s.handling }
      (Function.update traces actor .rejected) := by
  have sound := coherent.sound
  apply coherent.stay
  · constructor
    · intro call _ member
      exact List.mem_cons_of_mem actor member
    · exact id
    · exact id
    · exact id
    · exact Or.inr ⟨rfl, rfl, rfl⟩
  · exact { sound with quiet := fun _ => unstored }
  · exact List.mem_cons_self
  · rfl
  · exact False.elim

/-- The cache is emptied of the rejected token only. -/
theorem coherent_cleared (coherent : Coherent s traces) {clearing : List Nat}
    (stage : traces actor = .rejected) :
    Coherent { s with client := { s.client with tokenCache := none, clearing := clearing } }
      (Function.update traces actor .cleared) := by
  have sound := coherent.sound
  have handled : actor ∈ s.handling := coherent.at_stage stage
  have uncached := sound.unstored (sound.quiet (List.ne_nil_of_mem handled))
  apply coherent.stay
  · exact ⟨fun _ _ member => member, fun _ _ => rfl, id, id, Or.inr ⟨rfl, rfl, rfl⟩⟩
  · refine { sound with cached := fun entry filled => ?_ }
    rw [show s.cached = some entry from filled] at uncached
    cases uncached
  · exact ⟨handled, fun _ => rfl⟩
  · rfl
  · exact False.elim

/-- The configured token which is marked as expired is the rejected one. -/
theorem coherent_invalidated (coherent : Coherent s traces) (stage : traces actor = .cleared) :
    Coherent
      { s with
        client :=
          { s.client with
            spotifyAuth := s.client.spotifyAuth.map fun auth => { auth with expiresAtUnix := 0 } }
        handling := s.handling.filter fun call => call ≠ actor }
      (Function.update traces actor .asking) := by
  have sound := coherent.sound
  obtain ⟨handled, emptied⟩ := coherent.at_stage stage
  have unstored := sound.quiet (List.ne_nil_of_mem handled)
  have expired : ∀ auth, (s.client.spotifyAuth.map fun auth => { auth with expiresAtUnix := 0 }) =
      some auth → auth.expiresAtUnix = 0 := by
    intro auth marked
    obtain ⟨before, -, rfl⟩ := Option.map_eq_some_iff.mp marked
    rfl
  apply coherent.stay
  · constructor
    · intro call different member
      exact List.mem_filter.mpr ⟨member, decide_eq_true different⟩
    · exact id
    · exact fun _ _ => expired
    · exact id
    · exact Or.inr ⟨rfl, rfl, rfl⟩
  · constructor
    · exact fun _ => unstored
    · intro auth stored
      rw [show s.stored = some auth from stored] at unstored
      cases unstored
    · exact sound.cached
    · exact sound.unstored
    · intro _ auth marked
      obtain ⟨before, known, rfl⟩ := Option.map_eq_some_iff.mp marked
      exact sound.refreshable unstored before known
    · intro unpaired
      exact sound.paired (Option.map_eq_none_iff.mp unpaired)
    · exact sound.granted
    · exact sound.once
    · exact sound.unix
  · exact ⟨fun _ => expired, emptied⟩
  · rfl
  · exact False.elim

/-- A token that is still cached, though the rejected one is not any more, is a refreshed one. -/
theorem requests_of_cached (coherent : Coherent s traces) (emptied : s.Emptied) {token : Token}
    (cached : s.client.cachedToken = some token) : s.requests ≠ [] := by
  have sound := coherent.sound
  apply sound.granted
  intro unstored
  rw [Client.cachedToken, emptied (sound.unstored unstored)] at cached
  cases cached

theorem coherent_cachedToken (coherent : Coherent s traces)
    (stage : traces actor = .asking ∨ traces actor = .locked)
    (lives : s.cached ≠ none → s.client.tokenCache ≠ none → s.client.cachedToken ≠ none) :
    Coherent s
      (Function.update traces actor ((traces actor).next .cachedToken s.client.cachedToken)) := by
  rcases stage with asking | locked
  · obtain ⟨expired, emptied⟩ := coherent.at_stage asking
    rw [asking]
    cases cached : s.client.cachedToken with
    | some token => exact coherent.look (requests_of_cached coherent emptied cached) False.elim
    | none =>
        apply coherent.look
        · exact ⟨expired, emptied⟩
        · exact False.elim
  · obtain ⟨expired, emptied, settled⟩ := coherent.at_stage locked
    rw [locked]
    cases cached : s.client.cachedToken with
    | some token =>
        apply coherent.look
        · exact ⟨settled, requests_of_cached coherent emptied cached⟩
        · exact fun _ => locked ▸ trivial
    | none =>
        apply coherent.look
        · rcases settled with unserved | ⟨-, filled⟩
          · exact ⟨expired, unserved⟩
          · obtain ⟨entry, known⟩ := Option.ne_none_iff_exists'.mp filled
            have present : s.client.tokenCache ≠ none := by
              rw [coherent.sound.cached entry known]
              exact Option.some_ne_none entry
            exact absurd cached (lives filled present)
        · exact fun _ => locked ▸ trivial

theorem coherent_acquireRefresh (coherent : Coherent s traces) (stage : traces actor = .waiting)
    (unlocked : s.client.tokenRefresh = none) :
    Coherent { s with client := { s.client with tokenRefresh := some actor } }
      (Function.update traces actor .locked) where
  sound := { coherent.sound with }
  calls := by
    obtain ⟨expired, emptied⟩ := coherent.at_stage stage
    apply coherent.fits_update
    · exact steady_of_same_tokens rfl rfl
    · exact ⟨expired, emptied, (coherent.free unlocked).keep rfl rfl rfl⟩
  exclusive call locked := by
    by_cases self : call = actor
    · rw [self]
    · rw [Function.update_of_ne self] at locked
      rw [coherent.exclusive call locked] at unlocked
      cases unlocked
  free := nofun

theorem coherent_releaseRefresh (coherent : Coherent s traces)
    (settled : s.Settled) (requests : s.requests ≠ []) (inside : (traces actor).InLock) :
    Coherent { s with client := { s.client with tokenRefresh := none } }
      (Function.update traces actor .through) where
  sound := { coherent.sound with }
  calls := by
    apply coherent.fits_update
    · exact steady_of_same_tokens rfl rfl
    · exact requests
  exclusive call locked := by
    by_cases self : call = actor
    · subst self
      rw [Function.update_self] at locked
      cases locked
    · rw [Function.update_of_ne self] at locked
      have holder := coherent.exclusive call locked
      rw [coherent.exclusive actor inside] at holder
      exact absurd (Option.some.inj holder).symm self
  free _ := settled.keep rfl rfl rfl

/-- The configured token is read as the expired one. -/
theorem coherent_readAuth (coherent : Coherent s traces) (stage : traces actor = .missed) :
    Coherent s
      (Function.update traces actor ((traces actor).next .readAuth s.client.spotifyAuth)) := by
  obtain ⟨expired, unserved⟩ := coherent.at_stage stage
  cases known : s.client.spotifyAuth with
  | none =>
      apply coherent.look
      · exact ⟨Or.inl unserved, coherent.sound.paired known⟩
      · exact fun _ => stage ▸ trivial
  | some auth =>
      apply coherent.look
      · exact ⟨unserved, expired unserved.stored auth known,
          coherent.sound.refreshable unserved.stored auth known⟩
      · exact fun _ => stage ▸ trivial

theorem coherent_nowUnix (coherent : Coherent s traces) {auth : SpotifyAuth}
    (stage : traces actor = .read auth) :
    Coherent s (Function.update traces actor (.dated auth s.client.unix)) := by
  obtain ⟨unserved, expires, refreshable⟩ := coherent.at_stage stage
  apply coherent.look
  · exact ⟨unserved, expires, refreshable, coherent.sound.unix⟩
  · exact fun _ => stage ▸ trivial

/-- No refresh is requested once one has been granted. -/
theorem coherent_requestRefresh (coherent : Coherent s traces) {auth : SpotifyAuth} {now : Int}
    (stage : traces actor = .dated auth now) (token : Token) (refreshed : Refreshed) :
    Coherent { s with requests := isGranted refreshed :: s.requests }
      (Function.update traces actor
        ((traces actor).next (.requestRefresh token) refreshed)) := by
  have sound := coherent.sound
  obtain ⟨unserved, -⟩ := coherent.at_stage stage
  have holds := coherent.holds_lock stage trivial
  have refused (denied : isGranted refreshed = false) :
      Renewal.Unserved { s with requests := isGranted refreshed :: s.requests } := by
    refine ⟨unserved.stored, unserved.cached, ?_⟩
    exact List.forall_mem_cons.mpr ⟨denied, unserved.requests⟩
  apply coherent.stay
  · exact ⟨fun _ _ member => member, id, id, fun _ => List.cons_ne_nil _ _, Or.inl holds⟩
  · exact
      { sound with
        paired := fun _ => List.cons_ne_nil _ _
        granted := fun _ => List.cons_ne_nil _ _
        once := unserved.requests }
  · match refreshed with
    | .granted grant => exact ⟨unserved.stored, unserved.cached, List.cons_ne_nil _ _⟩
    | .rejected true => exact ⟨refused rfl, List.cons_ne_nil _ _⟩
    | .rejected false => exact ⟨Or.inl (refused rfl), List.cons_ne_nil _ _⟩
    | .unreachable => exact ⟨Or.inl (refused rfl), List.cons_ne_nil _ _⟩
  · rfl
  · exact fun _ => stage ▸ trivial

theorem coherent_saveSpotifyAuth (coherent : Coherent s traces) (stage : traces actor = .granted)
    (quiet : s.handling = []) (purpose : Purpose) (access : Token) (refresh : Option Token)
    (seconds : Nat) :
    Coherent
      { s with
        client := s.client.saveSpotifyAuth purpose access refresh seconds
        stored := (s.client.saveSpotifyAuth purpose access refresh seconds).spotifyAuth }
      (Function.update traces actor .saved) := by
  have sound := coherent.sound
  obtain ⟨-, uncached, requests⟩ := coherent.at_stage stage
  have holds := coherent.holds_lock stage trivial
  apply coherent.stay
  · exact ⟨fun _ _ member => member, id, fun _ => nofun, id, Or.inl holds⟩
  · constructor
    · exact fun busy => absurd quiet busy
    · exact fun _ => id
    · exact sound.cached
    · exact nofun
    · exact nofun
    · exact nofun
    · exact fun _ => requests
    · exact sound.once
    · exact sound.unix
  · exact ⟨nofun, uncached⟩
  · rfl
  · exact fun _ => stage ▸ trivial

theorem coherent_fillCache (coherent : Coherent s traces) (stage : traces actor = .saved)
    (token : Token) (seconds : Nat) :
    Coherent
      { s with
        client := s.client.fillCache token seconds
        cached := (s.client.fillCache token seconds).tokenCache }
      (Function.update traces actor .settled) := by
  have sound := coherent.sound
  obtain ⟨stored, -⟩ := coherent.at_stage stage
  have holds := coherent.holds_lock stage trivial
  apply coherent.stay
  · exact ⟨fun _ _ member => member, fun _ => nofun, id, id, Or.inl holds⟩
  · exact
      { sound with
        cached := fun _ => id
        unstored := fun unstored => absurd unstored stored }
  · exact ⟨Or.inr ⟨stored, nofun⟩, sound.granted stored⟩
  · rfl
  · exact fun _ => stage ▸ trivial

/-- A refused account has no refreshed token to lose. -/
theorem coherent_dropCache (coherent : Coherent s traces) {clearing : List Nat}
    (stage : traces actor = .dropping) :
    Coherent { s with client := { s.client with tokenCache := none, clearing := clearing } }
      (Function.update traces actor .dropped) := by
  have sound := coherent.sound
  obtain ⟨unserved, requests⟩ := coherent.at_stage stage
  apply coherent.stay
  · exact ⟨fun _ _ member => member, fun _ _ => rfl, id, id, Or.inr ⟨rfl, rfl, rfl⟩⟩
  · refine { sound with cached := fun entry filled => ?_ }
    rw [unserved.cached] at filled
    cases filled
  · exact ⟨unserved.keep rfl rfl rfl, requests⟩
  · rfl
  · exact fun _ => stage ▸ trivial

theorem coherent_dropAuth (coherent : Coherent s traces) {account : Option Nat}
    {clearing : List Nat} (stage : traces actor = .dropped) :
    Coherent
      { s with
        client := { s.client with spotifyAuth := none, account := account, clearing := clearing } }
      (Function.update traces actor .settled) := by
  have sound := coherent.sound
  obtain ⟨unserved, requests⟩ := coherent.at_stage stage
  apply coherent.stay
  · exact ⟨fun _ _ member => member, id, fun _ _ => nofun, id, Or.inr ⟨rfl, rfl, rfl⟩⟩
  · refine { sound with stored := fun auth kept => ?_, refreshable := fun _ => nofun,
                        paired := fun _ => requests }
    rw [unserved.stored] at kept
    cases kept
  · exact ⟨Or.inl (unserved.keep rfl rfl rfl), requests⟩
  · rfl
  · exact fun _ => stage ▸ trivial

variable {after : Renewal} {op : Op} {answer : op.Answer} {input : Input}

theorem coherent_perform (coherent : Coherent s traces) (allowed : (traces actor).Allows op)
    (timely : Timely s traces actor op input)
    (performed : s.perform actor op input = some (answer, after)) :
    Coherent after (Function.update traces actor ((traces actor).next op answer)) := by
  cases op with
  | sendRequest token =>
      obtain ⟨rfl, rfl⟩ := Prod.mk.inj (Option.some.inj performed)
      cases refused : input.unauthorized with
      | false => exact coherent.look trivial False.elim
      | true => exact coherent_rejected coherent (timely refused)
  | clearCachedToken session =>
      obtain ⟨-, rfl⟩ := Prod.mk.inj (Option.some.inj performed)
      cases session with
      | false => exact coherent_cleared coherent allowed
      | true => exact coherent_dropCache coherent allowed
  | invalidateAccessToken =>
      obtain ⟨-, rfl⟩ := Prod.mk.inj (Option.some.inj performed)
      exact coherent_invalidated coherent allowed
  | cachedToken =>
      obtain ⟨rfl, rfl⟩ := Prod.mk.inj (Option.some.inj performed)
      exact coherent_cachedToken coherent allowed timely
  | acquireRefresh =>
      obtain ⟨⟨reply, client⟩, taken, same⟩ := Option.map_eq_some_iff.mp performed
      obtain ⟨unlocked, rfl, rfl⟩ := of_guarded_answer taken
      obtain ⟨-, rfl⟩ := Prod.mk.inj same
      exact coherent_acquireRefresh coherent allowed unlocked
  | releaseRefresh =>
      obtain ⟨-, rfl⟩ := Prod.mk.inj (Option.some.inj performed)
      rcases allowed with settled | ⟨auth, now, dated, unrefreshable⟩
      · obtain ⟨kept, requests⟩ := coherent.at_stage settled
        exact coherent_releaseRefresh coherent kept requests (settled ▸ trivial)
      · obtain ⟨-, -, refreshable, -⟩ := coherent.at_stage dated
        exact absurd unrefreshable refreshable
  | readAuth =>
      obtain ⟨rfl, rfl⟩ := Prod.mk.inj (Option.some.inj performed)
      exact coherent_readAuth coherent allowed
  | nowUnix =>
      obtain ⟨rfl, rfl⟩ := Prod.mk.inj (Option.some.inj performed)
      obtain ⟨auth, read⟩ := allowed
      rw [read]
      exact coherent_nowUnix coherent read
  | requestRefresh token =>
      obtain ⟨rfl, rfl⟩ := Prod.mk.inj (Option.some.inj performed)
      obtain ⟨auth, now, dated⟩ := allowed
      exact coherent_requestRefresh coherent dated token input.refreshed
  | saveSpotifyAuth purpose access refresh seconds =>
      obtain ⟨-, rfl⟩ := Prod.mk.inj (Option.some.inj performed)
      exact coherent_saveSpotifyAuth coherent allowed timely purpose access refresh seconds
  | fillCache token seconds =>
      obtain ⟨-, rfl⟩ := Prod.mk.inj (Option.some.inj performed)
      rcases allowed with saved | ⟨auth, now, dated, good⟩
      · exact coherent_fillCache coherent saved token seconds
      · obtain ⟨-, expires, -, later⟩ := coherent.at_stage dated
        omega
  | clearAuth =>
      obtain ⟨-, rfl⟩ := Prod.mk.inj (Option.some.inj performed)
      exact coherent_dropAuth coherent allowed
  | pollDeviceToken => exact allowed.elim

end Operations

theorem sound_start {held refresh : Token} {expiresAtUnix : Int} {cache : Option Nat} {unix : Int}
    {instant : Nat} (later : 0 ≤ unix) :
    (start held refresh expiresAtUnix cache unix instant).Sound where
  quiet := fun busy => absurd rfl busy
  stored := nofun
  cached := nofun
  unstored := fun _ => rfl
  refreshable := by
    intro _ auth known
    obtain rfl := Option.some.inj known
    exact nofun
  paired := nofun
  granted := fun stored => absurd rfl stored
  once := nofun
  unix := later

theorem safe : machine.Safe discipline Timely Coherent where
  initial := by
    rintro _ ⟨held, refresh, expiresAtUnix, cache, unix, instant, later, rfl⟩
    constructor
    · exact sound_start later
    · exact fun _ => trivial
    · exact fun _ => False.elim
    · exact fun _ => Or.inl ⟨rfl, rfl, nofun⟩
  accept := by
    intro s traces actor request program after coherent _ accepted
    obtain ⟨rfl, rfl⟩ := Prod.mk.inj (Option.some.inj accepted)
    exact ⟨coherent, obeys_sendHolding s.held⟩
  perform s traces actor op input answer after coherent allowed timely performed :=
    coherent_perform coherent allowed timely performed
  outside := by
    intro s traces change after coherent changed
    obtain ⟨later, rfl⟩ := of_guarded changed
    have steady (call : Nat) : Steady s { s with client := s.client.outside change } (call + 1) :=
      steady_of_same_tokens rfl rfl
    constructor
    · exact { coherent.sound with unix := later }
    · intro call
      exact (coherent.calls call).other (steady call) (Nat.succ_ne_self call).symm
        (coherent.exclusive call)
    · exact coherent.exclusive
    · exact fun unlocked => (coherent.free unlocked).keep rfl rfl rfl

/-- All interleavings of calls with one token. -/
abbrev system := machine.system discipline

/-! ## One refresh for all -/

/-- One refresh is all it takes: no request follows one which was granted, every call which has been
through its 401 has found one, and what was stored and cached of it is still there. -/
structure Renewed (pool : Pool signature Renewal Stage) : Prop where
  once : ∀ granted ∈ pool.shared.requests.tail, granted = false
  through : ∀ call, pool.trace call = .through → pool.shared.requests ≠ []
  stored : ∀ auth, pool.shared.stored = some auth → pool.shared.client.spotifyAuth = some auth
  cached : ∀ entry, pool.shared.cached = some entry → pool.shared.client.tokenCache = some entry

/-- A refreshed token stays if every 401 to the old one is dealt with before it is stored. -/
theorem timely_renewed {pool : Pool signature Renewal Stage}
    (reach : system.ReachableUnder (Machine.Permits Timely) pool) : Renewed pool := by
  have coherent := (safe.guarded reach).holds
  constructor
  · exact coherent.sound.once
  · intro call through
    exact coherent.at_stage through
  · exact coherent.sound.stored
  · exact coherent.sound.cached

/-- An account whose cached token Spotify begins to reject. -/
def rejecting : Pool signature Renewal Stage :=
  Machine.boot discipline (start ⟨"access", 1⟩ ⟨"refresh", 1⟩ 5000 (some 4900000) 100 0)

theorem rejecting_initial : system.initial rejecting :=
  ⟨_, ⟨⟨"access", 1⟩, ⟨"refresh", 1⟩, 5000, some 4900000, 100, 0, by decide, rfl⟩, rfl⟩

/-- A number of operations of one call, with 401 answered to the old token and refreshes granted. -/
def advance (count actor : Nat) : List (PoolEvent Unit Input Change) :=
  List.replicate count (.advance actor
    { unauthorized := true
      refreshed := .granted { accessToken := "next", refreshToken := none, expiresIn := 3600 } })

/-- Two calls are rejected before either asks for another token. -/
def together : List (PoolEvent Unit Input Change) :=
  [.start (), .start ()] ++ advance 3 0 ++ advance 3 1 ++ advance 9 0 ++ advance 1 1

theorem together_renewed :
    let pool := system.final rejecting together rfl
    pool.shared.requests = [true] ∧ pool.trace 1 = .through ∧ Renewed pool :=
  ⟨rfl, rfl, timely_renewed (System.ReachableUnder.final rejecting_initial (by decide) rfl)⟩

/-- One of them is answered only when the other has had the token refreshed. -/
def late : List (PoolEvent Unit Input Change) :=
  [.start (), .start ()] ++ advance 12 0 ++ advance 9 1

/-- The refreshed token is discarded, and refreshed again. -/
theorem late_refreshes_again :
    ¬ ∀ pool, system.ReachableUnder (Machine.Permits Lives) pool → Renewed pool := by
  intro renewed
  have reach : system.ReachableUnder (Machine.Permits Lives) (system.final rejecting late rfl) :=
    System.ReachableUnder.final rejecting_initial (by decide) rfl
  have first := (renewed _ reach).once true List.mem_cons_self
  cases first

end Togewire.Spotify.Unauthorized
