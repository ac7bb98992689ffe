import Togewire.Admin.Sessions
import Togewire.Admin.Setup

/-!
# Who reaches the admin handlers

Any number of requests to the admin routes and the login form run at the same time.  A handler runs
only for a request which carries the session of a password that was configured while the request was
under way, and if it is a POST, comes from a page of this host; a session is only handed out for
such a password or the setup token; and a password is only set by a request with the token.
-/

namespace Togewire.Admin.Access

open Interleaving Server Transition

/-! ## Routes -/

/-- The methods of the admin routes. -/
inductive Method
  | get
  | head
  | post
  | other (name : String)
  deriving DecidableEq

/-- What stands behind `require_admin`. -/
inductive Handler
  | dashboard
  | pairStart
  | pairPoll
  | disconnect
  | player
  | cache
  | cacheClear
  deriving DecidableEq

/-- The routes of `admin` in `build_router`. -/
def handlerAt (path : String) : Option Handler :=
  if path = "/admin" then some .dashboard
  else if path = "/admin/pair/start" then some .pairStart
  else if path = "/admin/pair/poll" then some .pairPoll
  else if path = "/admin/disconnect" then some .disconnect
  else if path = "/admin/player" then some .player
  else if path = "/admin/cache" then some .cache
  else if path = "/admin/cache/clear" then some .cacheClear
  else none

/-- Only the dashboard is fetched; what changes something is posted. -/
def Handler.accepts (handler : Handler) (method : Method) : Bool :=
  match handler with
  | .dashboard => method = .get || method = .head
  | .pairStart | .pairPoll | .disconnect | .player | .cache | .cacheClear => method = .post

/-- A request as the router sees it, and its form if it is a login. -/
structure Request where
  method : Method
  path : String
  headers : Headers := {}
  /-- What a login form sends. -/
  form : LoginForm := { ip := "" }

/-- The login form of a request, with what its headers say. -/
def Request.login (request : Request) : LoginForm :=
  { request.form with sameOrigin := sameOriginPost request.headers }

/-- What a request is answered. -/
inductive Answer
  | crossSite
  /-- The redirect to the login page. -/
  | toLogin
  | methodNotAllowed
  | loginPage
  | login (response : Response)
  /-- Not an admin route. -/
  | elsewhere

/-! ## Requests -/

/-- The operations of a request: those of the login form's handler, and what the routes look at. -/
inductive Op
  | receive (request : Request)
  /-- A step of the login form's handler. -/
  | login (op : Admin.Op)
  | readHash
  /-- The handler behind `require_admin` runs. -/
  | run (request : Request) (handler : Handler)
  | answer (answer : Answer)

def Op.Answer : Op → Type
  | login op => op.Answer
  | readHash => String
  | receive _ | run _ _ | answer _ => Unit

abbrev signature : Signature := ⟨Op, Op.Answer⟩

abbrev Task := Program signature

def ask (op : Op) : Task op.Answer := Program.perform (S := signature) op

def receive (request : Request) : Task Unit := ask (.receive request)
def readHash : Task String := ask .readHash
def run (request : Request) (handler : Handler) : Task Unit := ask (.run request handler)
def answer (given : Answer) : Task Unit := ask (.answer given)

section Digest

variable (sha256 : List UInt8 → List UInt8)

/-- `require_admin` -/
def requireAdmin (request : Request) (next : Task Unit) : Task Unit :=
  if request.method = .post ∧ sameOriginPost request.headers = false then
    answer .crossSite
  else do
    let adminHash ← readHash
    if isAdmin sha256 adminHash request.headers then
      next
    else
      answer .toLogin

/-- A request whose path is one of the admin routes. -/
def toHandler (request : Request) (handler : Handler) : Task Unit :=
  requireAdmin sha256 request
    (if handler.accepts request.method then
      run request handler
    else
      answer .methodNotAllowed)

/-- `POST /admin/login` -/
def postLogin (request : Request) : Task Unit := do
  let response ← (handleAdminLoginPost request.login).lift Op.login fun _ given => given
  answer (.login response)

/-- The router, as far as the admin goes. -/
def route (request : Request) : Task Unit :=
  match handlerAt request.path with
  | some handler => toHandler sha256 request handler
  | none =>
      if request.path = "/admin/login" then
        match request.method with
        | .post => postLogin request
        | .get | .head => answer .loginPage
        | .other _ => answer .methodNotAllowed
      else
        answer .elsewhere

/-- A request from its arrival to its answer. -/
def serve (request : Request) : Task Unit := do
  receive request
  route sha256 request

end Digest

/-! ## Runs -/

/-- A request which has come in. -/
structure Arrival where
  request : Request
  /-- How many passwords had been set. -/
  passwords : Nat

/-- A handler runs. -/
structure Run where
  task : Nat
  request : Request
  handler : Handler
  /-- How many passwords have been set. -/
  passwords : Nat

/-- What a request is answered without a handler. -/
structure Reply where
  task : Nat
  answer : Answer
  /-- How many passwords have been set. -/
  passwords : Nat

/-- The server, and the history of what it was asked and what it answered. -/
structure Site where
  setup : Setup
  /-- The admin hash at startup. -/
  initialHash : String
  /-- The setup token at startup. -/
  initialToken : String
  /-- History: the requests which have come in. -/
  arrivals : Nat → Option Arrival
  /-- History: the hashes which were stored, in order, and by whom. -/
  stored : List (Nat × String)
  runs : List Run
  replies : List Reply

/-- What a step of the login form stores. -/
def storedBy : Admin.Op → Option String
  | .storeHash hash => some hash
  | _ => none

namespace Site

/-- The admin hashes there have been, in order. -/
def hashes (site : Site) : List String := site.initialHash :: site.stored.map Prod.snd

def perform (site : Site) (actor : Nat) (op : Op) (input : Input) : Option (op.Answer × Site) :=
  match op with
  | .receive request =>
      some
        ((),
          { site with
            arrivals := Function.update site.arrivals actor (some ⟨request, site.stored.length⟩) })
  | .login op =>
      (site.setup.perform actor op input).map fun outcome =>
        (outcome.1,
          { site with
            setup := outcome.2
            stored := site.stored ++ ((storedBy op).map (Prod.mk actor)).toList })
  | .readHash => some (site.setup.adminPasswordHash, site)
  | .run request handler =>
      some ((), { site with runs := ⟨actor, request, handler, site.stored.length⟩ :: site.runs })
  | .answer given =>
      some ((), { site with replies := ⟨actor, given, site.stored.length⟩ :: site.replies })

end Site

/-- The server at startup. -/
def startSite (adminPasswordHash setupToken : String) : Site where
  setup := start adminPasswordHash setupToken
  initialHash := adminPasswordHash
  initialToken := setupToken
  arrivals _ := none
  stored := []
  runs := []
  replies := []

/-- Requests to the admin routes and the login form in any order. -/
def machine (sha256 : List UInt8 → List UInt8) : Machine signature Site Request Input Empty where
  initial site := ∃ adminPasswordHash setupToken, site = startSite adminPasswordHash setupToken
  accept site _ request := some (serve sha256 request, site)
  perform := Site.perform
  outside _ change := nomatch change

/-! ## What each request has shown -/

/-- What a login has shown so far. -/
structure Stage where
  /-- The admin hash it has read last. -/
  adminHash : Option String := none
  /-- Its setup token was valid. -/
  token : Bool := false
  /-- Its password was verified. -/
  password : Bool := false
  /-- The hash its second password was verified against. -/
  confirmed : Option String := none

/-- The hash of a sign-in is not the one which was verified, but one read afterwards. -/
def Stage.next (stage : Stage) : (op : Admin.Op) → op.Answer → Stage
  | .readHash, (adminHash : String) => { stage with adminHash := some adminHash }
  | .isSetupTokenValid _, (valid : Bool) => { stage with token := valid }
  | .bcryptVerify .login _ _, (verified : Bool) => { stage with password := verified }
  | .bcryptVerify .confirm hash _, true => { stage with confirmed := some hash }
  | _, _ => stage

/-- What a form may do at a stage. -/
def Stage.Allows (form : LoginForm) (stage : Stage) : Admin.Op → Prop
  | .registerLoginAttempt _ => form.sameOrigin = true
  | .isSetupTokenValid token => form.sameOrigin = true ∧ token = form.setupToken
  | .bcryptVerify .login adminHash password =>
      stage.adminHash = some adminHash ∧ adminHash ≠ "" ∧ password = form.password
  | .bcryptVerify .confirm _ confirm => stage.token = true ∧ confirm = form.confirm
  | .storeHash hash => stage.token = true ∧ stage.confirmed = some hash
  | .hashPassword _ | .setPendingHash _ | .takePendingHash | .clearSetupToken =>
      stage.token = true
  | .clearFailedAttempts _ | .readHash => True

/-- What a form may do at a stage, and what it shows by that. -/
def formDiscipline (form : LoginForm) : Discipline Admin.signature Stage where
  start := {}
  next := Stage.next
  allows := Stage.Allows form

/-- A login that signs in has shown the token or the password, and gets the hash read last. -/
def Shown (response : Response) (stage : Stage) : Prop :=
  match response with
  | .signedIn adminHash =>
      stage.adminHash = some adminHash ∧ (stage.token = true ∨ stage.password = true)
  | .crossSite | .loginPage _ _ _ => True

section Login

variable {form : LoginForm} {stage : Stage}

theorem shows_signIn (ip : String) (shown : stage.token = true ∨ stage.password = true) :
    (signIn ip).Obeys (formDiscipline form) stage Shown := by
  apply Program.Obeys.perform trivial
  intro _
  apply Program.Obeys.perform trivial
  intro adminHash
  exact ⟨rfl, shown⟩

theorem shows_storePassword {hash : String} (token : stage.token = true)
    (confirmed : stage.confirmed = some hash) :
    (storePassword form hash).Obeys (formDiscipline form) stage Shown := by
  refine Program.Obeys.perform ⟨token, confirmed⟩ fun (saved : Bool) => ?_
  cases saved with
  | false => trivial
  | true =>
      apply Program.Obeys.perform token
      intro _
      exact shows_signIn form.ip (.inl token)

theorem shows_confirmPassword (token : stage.token = true) :
    (confirmPassword form).Obeys (formDiscipline form) stage Shown := by
  apply Program.Obeys.perform token
  intro (hash : String)
  by_cases absent : hash = ""
  · rw [if_pos absent]
    trivial
  · rw [if_neg absent]
    apply Program.Obeys.bind
    by_cases long : 72 < form.confirm.utf8ByteSize
    · rw [verifyPassword, if_pos long]
      trivial
    · rw [verifyPassword, if_neg long]
      refine ⟨⟨token, rfl⟩, fun (verified : Bool) => ?_⟩
      cases verified with
      | false => trivial
      | true => exact shows_storePassword token rfl

theorem shows_setPassword (token : stage.token = true) :
    (setPassword form).Obeys (formDiscipline form) stage Shown := by
  unfold setPassword
  split
  · trivial
  · split
    · trivial
    · apply Program.Obeys.perform token
      intro hashed
      cases hashed with
      | none => trivial
      | some hash => exact ⟨token, fun _ => trivial⟩

theorem shows_setUp (same : form.sameOrigin = true) :
    (setUp form).Obeys (formDiscipline form) stage Shown := by
  refine Program.Obeys.perform ⟨same, rfl⟩ fun (valid : Bool) => ?_
  cases valid with
  | false => trivial
  | true =>
      apply Program.Obeys.perform trivial
      intro _
      rw [continueSetup]
      split
      · trivial
      · split
        · exact shows_setPassword rfl
        · exact shows_confirmPassword rfl

theorem shows_logIn {adminHash : String} (read : stage.adminHash = some adminHash)
    (set : adminHash ≠ "") :
    (logIn form adminHash).Obeys (formDiscipline form) stage Shown := by
  apply Program.Obeys.bind
  by_cases long : 72 < form.password.utf8ByteSize
  · rw [verifyPassword, if_pos long]
    trivial
  · rw [verifyPassword, if_neg long]
    refine ⟨⟨read, set, rfl⟩, fun (verified : Bool) => ?_⟩
    cases verified with
    | false => trivial
    | true => exact shows_signIn form.ip (.inr rfl)

/-- The login form's handler signs in whoever has shown the token or the password. -/
theorem shows_handleAdminLoginPost :
    (handleAdminLoginPost form).Obeys (formDiscipline form) {}
      fun response stage => Shown response stage ∧
        ∀ adminHash, response = .signedIn adminHash → form.sameOrigin = true := by
  by_cases same : form.sameOrigin = true
  · rw [handleAdminLoginPost, if_pos same]
    have admitted : (do
        if ← registerLoginAttempt form.ip then
          admitLogin form
        else
          refuseLogin : Admin.Task Response).Obeys (formDiscipline form) {} Shown := by
      apply Program.Obeys.perform same
      intro (under : Bool)
      cases under with
      | false => exact ⟨trivial, fun _ => trivial⟩
      | true =>
          apply Program.Obeys.perform trivial
          intro (adminHash : String)
          by_cases unset : adminHash = ""
          · rw [if_pos unset]
            exact shows_setUp same
          · rw [if_neg unset]
            exact shows_logIn rfl unset
    exact admitted.mono fun _ _ shown => ⟨shown, fun _ _ => same⟩
  · rw [handleAdminLoginPost, if_neg same]
    exact ⟨trivial, fun _ => by simp⟩

end Login

/-- What a request has done so far. -/
structure Visit where
  request : Option Request := none
  /-- How far its login has come. -/
  stage : Stage := {}
  /-- The admin hash that `require_admin` has read. -/
  checked : Option String := none

/-- `require_admin` lets a request through to a handler. -/
structure Admits (sha256 : List UInt8 → List UInt8) (request : Request) (handler : Handler)
    (adminHash : String) : Prop where
  path : handlerAt request.path = some handler
  method : handler.accepts request.method = true
  origin : request.method = .post → FromHost request.headers
  set : adminHash ≠ ""
  session : HasSession (Hexadecimal.encode (sha256 adminHash.toUTF8.toList)) request.headers

/-- The answers a request may get after what it has shown. -/
def Visit.MayGet (visit : Visit) (request : Request) : Answer → Prop
  | .login (.signedIn adminHash) =>
      FromHost request.headers ∧ Shown (.signedIn adminHash) visit.stage
  | _ => True

/-- A handler runs behind the check of a session, and the login form's handler keeps to its own
discipline. -/
def discipline (sha256 : List UInt8 → List UInt8) : Discipline signature Visit where
  start := {}
  next visit op answer :=
    match op, answer with
    | .receive request, _ => { visit with request := some request }
    | .login op, answer => { visit with stage := visit.stage.next op answer }
    | .readHash, (adminHash : String) => { visit with checked := some adminHash }
    | _, _ => visit
  allows visit op :=
    match op with
    | .receive _ => visit = {}
    | .login op => ∃ request, visit.request = some request ∧ visit.stage.Allows request.login op
    | .readHash => ∃ request, visit.request = some request
    | .run request handler =>
        visit.request = some request ∧ ∃ adminHash, visit.checked = some adminHash ∧
          Admits sha256 request handler adminHash
    | .answer given => ∃ request, visit.request = some request ∧ visit.MayGet request given

section Digest

variable (sha256 : List UInt8 → List UInt8)

theorem obeys_postLogin (request : Request) :
    (postLogin request).Obeys (discipline sha256) { request := some request }
      fun _ _ => True := by
  apply Program.Obeys.bind
  apply (Program.Obeys.lift (fun stage (visit : Visit) =>
    visit.request = some request ∧ visit.stage = stage) ?_ ?_
      (@shows_handleAdminLoginPost request.login) ⟨rfl, rfl⟩).mono
  · rintro response visit ⟨stage, ⟨shown, same⟩, received, rfl⟩
    refine ⟨⟨request, received, ?_⟩, fun _ => trivial⟩
    cases response with
    | signedIn adminHash => exact ⟨sameOriginPost_iff.mp (same adminHash rfl), shown⟩
    | crossSite | loginPage => trivial
  · rintro stage visit op ⟨received, rfl⟩ allowed
    exact ⟨request, received, allowed⟩
  · rintro stage visit op given ⟨received, rfl⟩ _
    exact ⟨received, rfl⟩

theorem obeys_toHandler {request : Request} {handler : Handler}
    (path : handlerAt request.path = some handler) :
    (toHandler sha256 request handler).Obeys (discipline sha256) { request := some request }
      fun _ _ => True := by
  have answers (visit : Visit) (received : visit.request = some request) {given : Answer}
      (may : visit.MayGet request given) :
      (answer given).Obeys (discipline sha256) visit fun _ _ => True :=
    ⟨⟨request, received, may⟩, fun _ => trivial⟩
  unfold toHandler requireAdmin
  split
  · exact answers _ rfl trivial
  · rename_i here
    have origin : request.method = .post → FromHost request.headers := by
      intro posted
      exact sameOriginPost_iff.mp (by simpa [posted] using here)
    refine Program.Obeys.perform ⟨request, rfl⟩ fun (adminHash : String) => ?_
    split
    · rename_i session
      obtain ⟨set, session⟩ := (isAdmin_iff sha256).mp session
      split
      · rename_i method
        exact ⟨⟨rfl, adminHash, rfl, path, method, origin, set, session⟩, fun _ => trivial⟩
      · exact answers _ rfl trivial
    · exact answers _ rfl trivial

theorem obeys_serve (request : Request) :
    (serve sha256 request).Obeys (discipline sha256) (discipline sha256).start
      fun _ _ => True := by
  apply Program.Obeys.perform rfl
  intro _
  unfold route
  cases path : handlerAt request.path with
  | some handler => exact obeys_toHandler sha256 path
  | none =>
      dsimp only
      split
      · cases request.method with
        | post => exact obeys_postLogin sha256 request
        | get | head | other => exact ⟨⟨request, rfl, trivial⟩, fun _ => trivial⟩
      · exact ⟨⟨request, rfl, trivial⟩, fun _ => trivial⟩

end Digest

/-! ## Who is let in -/

/-- The world answers the checks of passwords as bcrypt does. -/
def Verifies (verify : String → String → Bool) (_ : Site) (_ : Nat → Visit) (_ : Nat) (op : Op)
    (input : Input) : Prop :=
  match op with
  | .login (.bcryptVerify _ hash password) => input.verified = verify hash password
  | _ => True

instance (verify : String → String → Bool) (site : Site) (visits : Nat → Visit) (actor : Nat)
    (op : Op) (input : Input) : Decidable (Verifies verify site visits actor op input) :=
  match op with
  | .login (.bcryptVerify _ _ _) => instDecidableEqBool _ _
  | .login (.registerLoginAttempt _) | .login (.clearFailedAttempts _) | .login .readHash
  | .login (.isSetupTokenValid _) | .login (.hashPassword _) | .login (.setPendingHash _)
  | .login .takePendingHash | .login (.storeHash _) | .login .clearSetupToken | .receive _
  | .readHash | .run _ _ | .answer _ => isTrue trivial

namespace Site

/-- The hash was configured at a moment after the request of the task had come in, before as many
passwords were set. -/
def Stood (site : Site) (task : Nat) (request : Request) (passwords : Nat) (adminHash : String) :
    Prop :=
  ∃ since, site.arrivals task = some ⟨request, since⟩ ∧
    ∃ moment, since ≤ moment ∧ moment ≤ passwords ∧ site.hashes[moment]? = some adminHash

/-- A request from a page of this host holds the setup token which was printed at startup. -/
def Invited (site : Site) (request : Request) : Prop :=
  FromHost request.headers ∧ site.initialToken ≠ "" ∧ request.form.setupToken = site.initialToken

/-- A request holds a password which was configured while it was under way. -/
def Knows (site : Site) (verify : String → String → Bool) (task : Nat) (request : Request)
    (passwords : Nat) : Prop :=
  ∃ adminHash, adminHash ≠ "" ∧ site.Stood task request passwords adminHash ∧
    verify adminHash request.form.password = true

/-- Handlers run for the session of a password, sessions are given for a password or the token, and
passwords are set with the token, once they are confirmed. -/
structure Kept (site : Site) (sha256 : List UInt8 → List UInt8)
    (verify : String → String → Bool) : Prop where
  runs : ∀ run ∈ site.runs, ∃ adminHash,
    site.Stood run.task run.request run.passwords adminHash ∧
      Admits sha256 run.request run.handler adminHash
  sessions : ∀ reply ∈ site.replies, ∀ adminHash, reply.answer = .login (.signedIn adminHash) →
    ∃ request, site.Stood reply.task request reply.passwords adminHash ∧
      FromHost request.headers ∧
        (site.Invited request ∨ site.Knows verify reply.task request reply.passwords)
  passwords : ∀ password ∈ site.stored, ∃ request since,
    site.arrivals password.1 = some ⟨request, since⟩ ∧ site.Invited request ∧
      verify password.2 request.form.confirm = true

/-- What a request in progress has shown is true. -/
structure Vouched (site : Site) (verify : String → String → Bool) (task : Nat) (visit : Visit) :
    Prop where
  received : ∀ request, visit.request = some request →
    ∃ since, site.arrivals task = some ⟨request, since⟩ ∧ since ≤ site.stored.length
  checked : ∀ adminHash, visit.checked = some adminHash → ∃ request,
    visit.request = some request ∧ site.Stood task request site.stored.length adminHash
  read : ∀ adminHash, visit.stage.adminHash = some adminHash → ∃ request,
    visit.request = some request ∧ site.Stood task request site.stored.length adminHash
  token : visit.stage.token = true → ∃ request, visit.request = some request ∧
    site.Invited request
  password : visit.stage.password = true → ∃ request, visit.request = some request ∧
    site.Knows verify task request site.stored.length
  confirmed : ∀ hash, visit.stage.confirmed = some hash → ∃ request,
    visit.request = some request ∧ verify hash request.form.confirm = true

/-- The invariant of all interleavings. -/
structure Closed (site : Site) (sha256 : List UInt8 → List UInt8)
    (verify : String → String → Bool) (visits : Nat → Visit) : Prop where
  kept : site.Kept sha256 verify
  current : site.hashes[site.stored.length]? = some site.setup.adminPasswordHash
  token : site.setup.setupToken = "" ∨ site.setup.setupToken = site.initialToken
  fresh : ∀ task, (visits task).request = none → site.arrivals task = none
  vouched : ∀ task, site.Vouched verify task (visits task)

/-- Nothing that has happened is forgotten. -/
structure Extends (after site : Site) : Prop where
  hash : after.initialHash = site.initialHash
  token : after.initialToken = site.initialToken
  stored : site.stored <+: after.stored
  arrivals : ∀ task arrival, site.arrivals task = some arrival → after.arrivals task = some arrival

section Extends

variable {site after : Site} (forward : after.Extends site)

include forward

theorem Stood.extend {task passwords later : Nat} {request : Request} {adminHash : String}
    (stood : site.Stood task request passwords adminHash) (further : passwords ≤ later) :
    after.Stood task request later adminHash := by
  obtain ⟨since, arrived, moment, begun, before, shown⟩ := stood
  obtain ⟨more, same⟩ := forward.stored
  have grown : after.hashes = site.hashes ++ more.map Prod.snd := by
    rw [hashes, hashes, ← same, List.map_append, forward.hash, List.cons_append]
  obtain ⟨inside, -⟩ := List.getElem?_eq_some_iff.mp shown
  refine ⟨since, forward.arrivals task _ arrived, moment, begun, before.trans further, ?_⟩
  rw [grown, List.getElem?_append_left inside, shown]

theorem Invited.extend {request : Request} (invited : site.Invited request) :
    after.Invited request := by
  unfold Invited
  rw [forward.token]
  exact invited

variable {verify : String → String → Bool}

theorem Knows.extend {task passwords later : Nat} {request : Request}
    (knows : site.Knows verify task request passwords) (further : passwords ≤ later) :
    after.Knows verify task request later := by
  obtain ⟨adminHash, set, stood, verified⟩ := knows
  exact ⟨adminHash, set, stood.extend forward further, verified⟩

theorem Vouched.extend {task : Nat} {visit : Visit} (vouched : site.Vouched verify task visit) :
    after.Vouched verify task visit := by
  have further : site.stored.length ≤ after.stored.length := forward.stored.length_le
  constructor
  case received =>
    intro request sent
    obtain ⟨since, arrived, before⟩ := vouched.received request sent
    exact ⟨since, forward.arrivals task _ arrived, before.trans further⟩
  case checked =>
    intro adminHash read
    obtain ⟨request, sent, stood⟩ := vouched.checked adminHash read
    exact ⟨request, sent, stood.extend forward further⟩
  case read =>
    intro adminHash read
    obtain ⟨request, sent, stood⟩ := vouched.read adminHash read
    exact ⟨request, sent, stood.extend forward further⟩
  case token =>
    intro shown
    obtain ⟨request, sent, invited⟩ := vouched.token shown
    exact ⟨request, sent, invited.extend forward⟩
  case password =>
    intro shown
    obtain ⟨request, sent, knows⟩ := vouched.password shown
    exact ⟨request, sent, knows.extend forward further⟩
  case confirmed => exact vouched.confirmed

theorem Kept.extend {sha256 : List UInt8 → List UInt8} (kept : site.Kept sha256 verify)
    (runs : after.runs = site.runs) (replies : after.replies = site.replies)
    (stored : ∀ password ∈ after.stored, password ∈ site.stored ∨ ∃ request since,
      site.arrivals password.1 = some ⟨request, since⟩ ∧ site.Invited request ∧
        verify password.2 request.form.confirm = true) : after.Kept sha256 verify where
  runs run ran := by
    obtain ⟨adminHash, stood, admits⟩ := kept.runs run (runs ▸ ran)
    exact ⟨adminHash, stood.extend forward (Nat.le_refl _), admits⟩
  sessions reply given adminHash signed := by
    obtain ⟨request, stood, same, shown⟩ := kept.sessions reply (replies ▸ given) adminHash signed
    exact ⟨request, stood.extend forward (Nat.le_refl _), same,
      shown.imp (·.extend forward) (·.extend forward (Nat.le_refl _))⟩
  passwords password set := by
    obtain ⟨request, since, arrived, invited, verified⟩ :=
      (stored password set).elim (kept.passwords password) id
    exact ⟨request, since, forward.arrivals _ _ arrived, invited.extend forward, verified⟩

theorem Closed.advance {sha256 : List UInt8 → List UInt8} {visits : Nat → Visit}
    (closed : site.Closed sha256 verify visits) {actor : Nat} {next : Visit}
    (kept : after.Kept sha256 verify)
    (current : after.hashes[after.stored.length]? = some after.setup.adminPasswordHash)
    (token : after.setup.setupToken = "" ∨ after.setup.setupToken = after.initialToken)
    (others : ∀ task, task ≠ actor → after.arrivals task = site.arrivals task)
    (received : next.request ≠ none) (vouched : after.Vouched verify actor next) :
    after.Closed sha256 verify (Function.update visits actor next) := by
  refine ⟨kept, current, token, ?_, ?_⟩
  · refine (Function.forall_update_iff visits fun task visit =>
      visit.request = none → after.arrivals task = none).mpr
        ⟨fun absent => absurd absent received, fun task different absent => ?_⟩
    exact (others task different).trans (closed.fresh task absent)
  · exact (Function.forall_update_iff visits fun task visit => after.Vouched verify task visit).mpr
      ⟨vouched, fun other _ => (closed.vouched other).extend forward⟩

end Extends

theorem Extends.refl (site : Site) : site.Extends site :=
  ⟨rfl, rfl, List.prefix_refl _, fun _ _ arrived => arrived⟩

section Steps

variable {site : Site} {sha256 : List UInt8 → List UInt8} {verify : String → String → Bool}
  {visits : Nat → Visit} {actor : Nat}

/-- The hash which is configured now stands for every request under way. -/
theorem Closed.stood (closed : site.Closed sha256 verify visits) {request : Request}
    (sent : (visits actor).request = some request) :
    site.Stood actor request site.stored.length site.setup.adminPasswordHash := by
  obtain ⟨since, arrived, before⟩ := (closed.vouched actor).received request sent
  exact ⟨since, arrived, site.stored.length, before, Nat.le_refl _, closed.current⟩

/-- Only one step of a login sets a password, and none renews the token. -/
theorem setup_perform {setup after : Setup} {op : Admin.Op} {input : Input} {answer : op.Answer}
    (performed : setup.perform actor op input = some (answer, after)) :
    (after.setupToken = "" ∨ after.setupToken = setup.setupToken) ∧
      after.adminPasswordHash = (storedBy op).getD setup.adminPasswordHash := by
  cases op with
  | bcryptVerify check hash password =>
      obtain ⟨rfl, rfl⟩ := Prod.mk.inj (Option.some.inj performed)
      unfold Setup.checked
      split <;> exact ⟨.inr rfl, rfl⟩
  | clearSetupToken =>
      obtain ⟨rfl, rfl⟩ := Prod.mk.inj (Option.some.inj performed)
      exact ⟨.inl rfl, rfl⟩
  | _ =>
      obtain ⟨rfl, rfl⟩ := Prod.mk.inj (Option.some.inj performed)
      exact ⟨.inr rfl, rfl⟩

theorem vouched_login (closed : site.Closed sha256 verify visits) {op : Admin.Op} {input : Input}
    {answer : op.Answer} {setup : Setup}
    (allowed : (discipline sha256).allows (visits actor) (.login op))
    (verifies : Verifies verify site visits actor (.login op) input)
    (performed : site.setup.perform actor op input = some (answer, setup)) :
    site.Vouched verify actor
      { visits actor with stage := (visits actor).stage.next op answer } := by
  obtain ⟨request, sent, allowed⟩ := allowed
  have vouched := closed.vouched actor
  cases op with
  | readHash =>
      obtain ⟨rfl, -⟩ := Prod.mk.inj (Option.some.inj performed)
      refine ⟨vouched.received, vouched.checked, ?_, vouched.token, vouched.password,
        vouched.confirmed⟩
      intro adminHash read
      obtain rfl := Option.some.inj read
      exact ⟨request, sent, closed.stood sent⟩
  | isSetupTokenValid token =>
      obtain ⟨rfl, -⟩ := Prod.mk.inj (Option.some.inj performed)
      refine ⟨vouched.received, vouched.checked, vouched.read, ?_, vouched.password,
        vouched.confirmed⟩
      intro valid
      obtain ⟨same, rfl⟩ := allowed
      obtain ⟨alive, equal⟩ : site.setup.setupToken ≠ "" ∧
          site.setup.setupToken = request.login.setupToken := by
        simpa [Stage.next] using valid
      have initial := closed.token.resolve_left alive
      exact ⟨request, sent, sameOriginPost_iff.mp same, initial ▸ alive, equal.symm.trans initial⟩
  | bcryptVerify check hash password =>
      obtain ⟨rfl, -⟩ := Prod.mk.inj (Option.some.inj performed)
      cases check with
      | login =>
          refine ⟨vouched.received, vouched.checked, vouched.read, vouched.token, ?_,
            vouched.confirmed⟩
          intro verified
          obtain ⟨read, set, rfl⟩ := allowed
          obtain ⟨other, held, stood⟩ := vouched.read hash read
          obtain rfl := Option.some.inj (sent.symm.trans held)
          exact ⟨request, sent, hash, set, stood, verifies.symm.trans verified⟩
      | confirm =>
          cases passed : input.verified with
          | false => exact vouched
          | true =>
              refine ⟨vouched.received, vouched.checked, vouched.read, vouched.token,
                vouched.password, ?_⟩
              intro other confirmed
              obtain rfl := Option.some.inj confirmed
              obtain ⟨-, rfl⟩ := allowed
              exact ⟨request, sent, verifies.symm.trans passed⟩
  | _ => exact vouched

theorem closed_login (closed : site.Closed sha256 verify visits) {op : Admin.Op} {input : Input}
    {answer : op.Answer} {setup : Setup}
    (allowed : (discipline sha256).allows (visits actor) (.login op))
    (verifies : Verifies verify site visits actor (.login op) input)
    (performed : site.setup.perform actor op input = some (answer, setup)) :
    { site with
      setup := setup
      stored := site.stored ++ ((storedBy op).map (Prod.mk actor)).toList }.Closed sha256 verify
        (Function.update visits actor
          { visits actor with stage := (visits actor).stage.next op answer }) := by
  have vouched := vouched_login closed allowed verifies performed
  obtain ⟨token, current⟩ := setup_perform performed
  obtain ⟨request, sent, allowed⟩ := allowed
  have settled : setup.setupToken = "" ∨ setup.setupToken = site.initialToken := by
    rcases token with cleared | same
    · exact .inl cleared
    · exact same ▸ closed.token
  have forward : { site with
      setup := setup
      stored := site.stored ++ ((storedBy op).map (Prod.mk actor)).toList }.Extends site :=
    ⟨rfl, rfl, List.prefix_append .., fun _ _ arrived => arrived⟩
  refine closed.advance forward (closed.kept.extend forward rfl rfl ?_) ?_ settled
    (fun _ _ => rfl) (by simp [sent]) (vouched.extend forward)
  · intro password member
    refine (List.mem_append.mp member).imp_right fun new => ?_
    obtain ⟨hash, shown, rfl⟩ : ∃ hash, storedBy op = some hash ∧ (actor, hash) = password := by
      simpa using new
    cases op <;> try cases shown
    obtain ⟨token, confirmed⟩ := allowed
    obtain ⟨other, held, invited⟩ := (closed.vouched actor).token token
    obtain rfl := Option.some.inj (sent.symm.trans held)
    obtain ⟨other, held, verified⟩ := (closed.vouched actor).confirmed hash confirmed
    obtain rfl := Option.some.inj (sent.symm.trans held)
    obtain ⟨since, arrived, -⟩ := (closed.vouched actor).received request sent
    exact ⟨request, since, arrived, invited, verified⟩
  · cases set : storedBy op with
    | none => simpa [hashes, set, current] using closed.current
    | some hash => simp [hashes, set, current]

theorem closed_perform (closed : site.Closed sha256 verify visits) {op : Op} {input : Input}
    {given : op.Answer} {after : Site}
    (allowed : (discipline sha256).allows (visits actor) op)
    (verifies : Verifies verify site visits actor op input)
    (performed : site.perform actor op input = some (given, after)) :
    after.Closed sha256 verify
      (Function.update visits actor ((discipline sha256).next (visits actor) op given)) := by
  have vouched := closed.vouched actor
  cases op with
  | receive request =>
      obtain ⟨rfl, rfl⟩ := Prod.mk.inj (Option.some.inj performed)
      have blank : visits actor = {} := allowed
      have absent := closed.fresh actor (by rw [blank])
      have forward : { site with
          arrivals := Function.update site.arrivals actor
            (some ⟨request, site.stored.length⟩) }.Extends site := by
        refine ⟨rfl, rfl, List.prefix_refl _, fun task arrival arrived => ?_⟩
        have different : task ≠ actor := by
          rintro rfl
          simp [absent] at arrived
        exact (Function.update_of_ne different _ _).trans arrived
      refine closed.advance forward (closed.kept.extend forward rfl rfl fun _ => .inl)
        closed.current closed.token (fun task different => Function.update_of_ne different _ _)
        (Option.some_ne_none request) ?_
      rw [discipline, blank]
      refine ⟨?_, by simp, by simp, by simp, by simp, by simp⟩
      rintro other received
      obtain rfl := Option.some.inj received
      exact ⟨site.stored.length, Function.update_self .., Nat.le_refl _⟩
  | login op =>
      obtain ⟨⟨answer, setup⟩, done, same⟩ := Option.map_eq_some_iff.mp performed
      obtain ⟨rfl, rfl⟩ := Prod.mk.inj same
      exact closed_login closed allowed verifies done
  | readHash =>
      obtain ⟨rfl, rfl⟩ := Prod.mk.inj (Option.some.inj performed)
      obtain ⟨request, sent⟩ := allowed
      apply closed.advance (.refl site) closed.kept closed.current closed.token (fun _ _ => rfl)
      · exact fun absent => Option.some_ne_none request (sent.symm.trans absent)
      · refine ⟨vouched.received, ?_, vouched.read, vouched.token, vouched.password,
          vouched.confirmed⟩
        intro adminHash read
        obtain rfl := Option.some.inj read
        exact ⟨request, sent, closed.stood sent⟩
  | run request handler =>
      obtain ⟨rfl, rfl⟩ := Prod.mk.inj (Option.some.inj performed)
      obtain ⟨sent, adminHash, checked, admits⟩ := allowed
      have forward : { site with
          runs := ⟨actor, request, handler, site.stored.length⟩ :: site.runs }.Extends site :=
        ⟨rfl, rfl, List.prefix_refl _, fun _ _ arrived => arrived⟩
      refine closed.advance forward ⟨?_, closed.kept.sessions, closed.kept.passwords⟩
        closed.current closed.token (fun _ _ => rfl) (by simp [discipline, sent])
        (vouched.extend forward)
      refine List.forall_mem_cons.mpr ⟨?_, closed.kept.runs⟩
      obtain ⟨other, held, stood⟩ := vouched.checked adminHash checked
      obtain rfl := Option.some.inj (sent.symm.trans held)
      exact ⟨adminHash, stood, admits⟩
  | answer given =>
      obtain ⟨rfl, rfl⟩ := Prod.mk.inj (Option.some.inj performed)
      obtain ⟨request, sent, may⟩ := allowed
      have forward : { site with
          replies := ⟨actor, given, site.stored.length⟩ :: site.replies }.Extends site :=
        ⟨rfl, rfl, List.prefix_refl _, fun _ _ arrived => arrived⟩
      refine closed.advance forward ⟨closed.kept.runs, ?_, closed.kept.passwords⟩
        closed.current closed.token (fun _ _ => rfl) (by simp [discipline, sent])
        (vouched.extend forward)
      refine List.forall_mem_cons.mpr ⟨?_, closed.kept.sessions⟩
      rintro adminHash rfl
      obtain ⟨origin, read, shown⟩ := may
      obtain ⟨other, held, stood⟩ := vouched.read adminHash read
      obtain rfl := Option.some.inj (sent.symm.trans held)
      refine ⟨request, stood, origin, ?_⟩
      rcases shown with token | password
      · obtain ⟨other, held, invited⟩ := vouched.token token
        obtain rfl := Option.some.inj (sent.symm.trans held)
        exact .inl invited
      · obtain ⟨other, held, knows⟩ := vouched.password password
        obtain rfl := Option.some.inj (sent.symm.trans held)
        exact .inr knows

end Steps

end Site

theorem safe (sha256 : List UInt8 → List UInt8) (verify : String → String → Bool) :
    (machine sha256).Safe (discipline sha256) (Verifies verify) fun site visits =>
      site.Closed sha256 verify visits where
  initial := by
    rintro _ ⟨adminPasswordHash, setupToken, rfl⟩
    refine ⟨⟨by simp [startSite], by simp [startSite], by simp [startSite]⟩, rfl, .inr rfl,
      fun _ _ => rfl, fun _ => ?_⟩
    constructor <;> simp [discipline]
  accept := by
    intro site visits actor request program after closed _ accepted
    obtain ⟨rfl, rfl⟩ := Prod.mk.inj (Option.some.inj accepted)
    exact ⟨closed, obeys_serve sha256 request⟩
  perform site visits actor op input given after closed allowed verifies performed :=
    Site.closed_perform closed allowed verifies performed
  outside _ _ change := nomatch change

/-- All interleavings of requests. -/
abbrev system (sha256 : List UInt8 → List UInt8) := (machine sha256).system (discipline sha256)

/-- In every interleaving, a handler runs only for a request with the session of a password which
was configured while it was under way, and from this host if it is a POST; a session is only given,
and only for such a password, to a request with the setup token or such a password; and a password
is only set by a request with the token, whose confirmation its hash verifies. -/
theorem only_the_admin (sha256 : List UInt8 → List UInt8) (verify : String → String → Bool)
    {pool : Pool signature Site Visit}
    (reach : (system sha256).ReachableUnder (Machine.Permits (Verifies verify)) pool) :
    pool.shared.Kept sha256 verify :=
  ((safe sha256 verify).guarded reach).holds.kept

/-- A request without the token, the password and the session of a server at its start. -/
structure Stranger (site : Site) (sha256 : List UInt8 → List UInt8)
    (verify : String → String → Bool) (request : Request) : Prop where
  token : request.form.setupToken ≠ site.initialToken
  session : ¬HasSession (Hexadecimal.encode (sha256 site.initialHash.toUTF8.toList))
    request.headers
  password : verify site.initialHash request.form.password = false

/-- Requests of strangers come to nothing, however many there are. -/
theorem strangers_stay_out {sha256 : List UInt8 → List UInt8} {verify : String → String → Bool}
    {pool : Pool signature Site Visit}
    (reach : (system sha256).ReachableUnder (Machine.Permits (Verifies verify)) pool)
    (strangers : ∀ task arrival, pool.shared.arrivals task = some arrival →
      Stranger pool.shared sha256 verify arrival.request) :
    pool.shared.runs = [] ∧ pool.shared.setup.adminPasswordHash = pool.shared.initialHash ∧
      ∀ reply ∈ pool.shared.replies, ∀ adminHash, reply.answer ≠ .login (.signedIn adminHash) := by
  have closed := ((safe sha256 verify).guarded reach).holds
  have stored : pool.shared.stored = [] := by
    refine List.eq_nil_iff_forall_not_mem.mpr fun password set => ?_
    obtain ⟨request, since, arrived, ⟨-, -, token⟩, -⟩ := closed.kept.passwords password set
    exact (strangers _ _ arrived).token token
  have only {task passwords : Nat} {request : Request} {adminHash : String}
      (stood : pool.shared.Stood task request passwords adminHash) :
      adminHash = pool.shared.initialHash ∧ Stranger pool.shared sha256 verify request := by
    obtain ⟨since, arrived, moment, -, -, shown⟩ := stood
    have member := List.mem_of_getElem? shown
    exact ⟨by simpa [Site.hashes, stored] using member, strangers task _ arrived⟩
  refine ⟨?_, ?_, ?_⟩
  · refine List.eq_nil_iff_forall_not_mem.mpr fun run ran => ?_
    obtain ⟨adminHash, stood, admits⟩ := closed.kept.runs run ran
    obtain ⟨rfl, stranger⟩ := only stood
    exact stranger.session admits.session
  · simpa [Site.hashes, stored, eq_comm] using closed.current
  · intro reply given adminHash signed
    obtain ⟨request, stood, -, shown⟩ := closed.kept.sessions reply given adminHash signed
    have stranger := (only stood).2
    rcases shown with ⟨-, -, token⟩ | ⟨known, -, stood, verified⟩
    · exact stranger.token token
    · rw [(only stood).1, stranger.password] at verified
      cases verified

/-! ### A visit -/

/-- A form sent from the login page. -/
def loginRequest (password confirm setupToken : String) : Request where
  method := .post
  path := "/admin/login"
  headers :=
    { host := some (plainHeader "toge.example".toList)
      origin := some (plainHeader "https://toge.example".toList) }
  form := { ip := "peer", password := password, confirm := confirm, setupToken := setupToken }

/-- The player switch, with the cookie of the session. -/
def playerRequest : Request where
  method := .post
  path := "/admin/player"
  headers :=
    { host := some (plainHeader "toge.example".toList)
      origin := some (plainHeader "https://toge.example".toList)
      cookies := [exampleCookies] }

/-- A number of operations of one request. -/
def advance (count actor : Nat) (input : Input) : List (PoolEvent Request Input Empty) :=
  List.replicate count (.advance actor input)

/-- A password is set and typed again, another one does not sign in, and the session is admitted. -/
def visit : List (PoolEvent Request Input Empty) :=
  [.start (loginRequest "toge wire" "" "TOGE2345")] ++
    advance 8 0 { hashed := some exampleHash } ++
    [.start (loginRequest "" "toge wire" "TOGE2345")] ++ advance 12 1 { verified := true } ++
    [.start (loginRequest "guess" "" "")] ++ advance 5 2 {} ++
    [.start playerRequest] ++ advance 3 3 {}

def exampleVerify (adminHash password : String) : Bool :=
  adminHash == exampleHash && password == "toge wire"

theorem visit_only_the_admin :
    let digest := fun _ => exampleDigest
    let pool := (system digest).final (Machine.boot (discipline digest) (startSite "" "TOGE2345"))
      visit (by decide +kernel)
    pool.shared.stored = [(1, exampleHash)] ∧ pool.shared.runs.length = 1 ∧
      pool.shared.Kept digest exampleVerify := by
  intro digest pool
  refine ⟨by decide +kernel, by decide +kernel,
    only_the_admin digest exampleVerify (System.ReachableUnder.final ?_ ?_ (by decide +kernel))⟩
  · exact ⟨_, ⟨"", "TOGE2345", rfl⟩, rfl⟩
  · decide +kernel

end Togewire.Admin.Access
