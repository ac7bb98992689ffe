import Togewire.Foundation.Exchange
import Togewire.Foundation.Program
import Togewire.Spotify.Parsing

/-!
# Pairing

A click on the dashboard asks the server for a device code, and then polls the server until Spotify
grants tokens for the code.  The server polls Spotify each time, and saves what it is granted.
Responses may be lost, several pages may pair at once, and the server handles calls side by side.
Still a page says that it is paired only after the tokens for its own code have been saved.
-/

namespace Togewire.Spotify.Pairing

open Interleaving Parsing Transition

/-! ## Spotify's answers -/

/-- `TokenResponse` -/
structure TokenResponse where
  accessToken : String
  refreshToken : Option String
  expiresIn : Nat
  deriving DecidableEq

/-- `DeviceAuthResponse` -/
structure DeviceAuthResponse where
  deviceCode : String
  userCode : String
  verificationUri : Option String
  verificationUriComplete : Option String
  interval : Option Nat
  deriving DecidableEq

/-- What comes of a request to Spotify.  A status is given as it is displayed. -/
inductive Response (α : Type)
  | unreachable (error : String)
  | unreadable (error : String)
  | success (body : α)
  /-- The body, and the JSON in it. -/
  | failure (status body : String) (json : Value)

/-- Last characters of a trimmed text. -/
def tailChars (text : String) (count : Nat) : String :=
  let chars := (trim text).toList
  String.ofList (chars.drop (chars.length - count))

/-- `request_device_code`, given the response. -/
def requestDeviceCode : Response DeviceAuthResponse → Except String DeviceAuthResponse
  | .unreachable error => .error ("failed to reach Spotify device auth endpoint: " ++ error)
  | .unreadable error => .error ("invalid device auth JSON from Spotify: " ++ error)
  | .success body => .ok body
  | .failure status body _ =>
      .error ("Spotify rejected device authorization (" ++ status ++ "): " ++ tailChars body 200)

/-- A text field, if it is one. -/
def textField (json : Value) (key : String) : Option String := (json.get key).bind asStr

/-- One poll: tokens, or the status while the user has not approved yet. -/
def pollDeviceToken : Response TokenResponse → Except String (Except String TokenResponse)
  | .unreachable error => .error ("token poll failed: " ++ error)
  | .unreadable error => .error ("invalid token JSON from Spotify: " ++ error)
  | .success token => .ok (.ok token)
  | .failure status body json =>
      match textField json "error" with
      | some "authorization_pending" => .ok (.error "pending")
      | some "slow_down" => .ok (.error "slow_down")
      | some "access_denied" => .error "Spotify authorization was declined on the pair page"
      | some "expired_token" => .error "Spotify pairing code expired"
      | some other =>
          .error ("Spotify returned error '" ++ other ++ "': " ++
            (textField json "error_description").getD "")
      | none => .error ("token exchange failed (" ++ status ++ "): " ++ tailChars body 200)

/-! ## Operations -/

/-- What the server answers a poll. -/
inductive Status
  /-- Not approved yet, or not that fast. -/
  | pending (status : String)
  | paired
  | error (message : String)
  deriving DecidableEq

/-- What the server answers at the start. -/
abbrev Started := Except String DeviceAuthResponse

/-- The operations of pages and of the server's handlers. -/
inductive Op
  -- the page
  | fetchStart
  | startResponse (number : Nat)
  | setTimeout (milliseconds : Nat)
  | timeout
  | fetchPoll (deviceCode : String)
  | pollResponse (number : Nat)
  | alert (text : String)
  | showPaired
  -- the server
  | takeStart (number : Nat)
  | requestDeviceCode
  | respondStart (number : Nat) (answer : Started)
  | takePoll (number : Nat)
  | pollDeviceToken (deviceCode : String)
  | saveSpotifyAuth (token : TokenResponse)
  | clearCachedToken
  | accountIsPremium
  | setPremium (premium : Option Bool)
  | setUseLibrespot (on : Bool)
  | respondPoll (number : Nat) (status : Status)

def Op.Answer : Op → Type
  | fetchStart | fetchPoll _ => Nat
  | startResponse _ => Except String Started
  | pollResponse _ => Except String Status
  | takePoll _ => String
  | requestDeviceCode => Except String DeviceAuthResponse
  | pollDeviceToken _ => Except String (Except String TokenResponse)
  | saveSpotifyAuth _ => Option String
  | accountIsPremium => Option Bool
  | setTimeout _ | timeout | alert _ | showPaired | takeStart _ | respondStart _ _
  | clearCachedToken | setPremium _ | setUseLibrespot _ | respondPoll _ _ => Unit

abbrev signature : Signature := ⟨Op, Op.Answer⟩

abbrev Task := Program signature

def ask (op : Op) : Task op.Answer := Program.perform (S := signature) op

def fetchStart : Task Nat := ask .fetchStart
def startResponse (number : Nat) : Task (Except String Started) := ask (.startResponse number)
def setTimeout (milliseconds : Nat) : Task Unit := ask (.setTimeout milliseconds)
def timeout : Task Unit := ask .timeout
def fetchPoll (deviceCode : String) : Task Nat := ask (.fetchPoll deviceCode)
def pollResponse (number : Nat) : Task (Except String Status) := ask (.pollResponse number)
def alert (text : String) : Task Unit := ask (.alert text)
def showPaired : Task Unit := ask .showPaired
def takeStart (number : Nat) : Task Unit := ask (.takeStart number)
def askDeviceCode : Task (Except String DeviceAuthResponse) := ask .requestDeviceCode
def respondStart (number : Nat) (answer : Started) : Task Unit := ask (.respondStart number answer)
def takePoll (number : Nat) : Task String := ask (.takePoll number)
def askToken (deviceCode : String) : Task (Except String (Except String TokenResponse)) :=
  ask (.pollDeviceToken deviceCode)
def saveSpotifyAuth (token : TokenResponse) : Task (Option String) := ask (.saveSpotifyAuth token)
def clearCachedToken : Task Unit := ask .clearCachedToken
def accountIsPremium : Task (Option Bool) := ask .accountIsPremium
def setPremium (premium : Option Bool) : Task Unit := ask (.setPremium premium)
def setUseLibrespot (on : Bool) : Task Unit := ask (.setUseLibrespot on)
def respondPoll (number : Nat) (status : Status) : Task Unit := ask (.respondPoll number status)

/-! ## The page -/

/-- The text, unless it is empty. -/
def orElse (text otherwise : String) : String := if text = "" then otherwise else text

/-- Milliseconds between polls, at first. -/
def firstInterval (auth : DeviceAuthResponse) : Nat :=
  let seconds := auth.interval.getD 0
  max (if seconds = 0 then 5 else seconds) 3 * 1000

/-- Milliseconds between polls, after another answer. -/
def slowed (intervalMs : Nat) (status : String) : Nat :=
  if status = "slow_down" then intervalMs + 5000 else intervalMs

/-- `poll`, over a number of rounds, each of which waits before it. -/
def poll : Nat → String → Nat → Task Unit
  | 0, _, _ => pure ()
  | rounds + 1, deviceCode, intervalMs => do
      setTimeout intervalMs
      timeout
      let number ← fetchPoll deviceCode
      match ← pollResponse number with
      | .ok .paired => showPaired
      | .ok (.error message) => alert ("Pairing error: " ++ orElse message "Unknown error")
      | .ok (.pending status) => poll rounds deviceCode (slowed intervalMs status)
      | .error _ => poll rounds deviceCode intervalMs

/-- The handler of the pair button. -/
def click (rounds : Nat) : Task Unit := do
  let number ← fetchStart
  match ← startResponse number with
  | .ok (.ok auth) => poll rounds auth.deviceCode (firstInterval auth)
  | .ok (.error error) =>
      alert ("Could not start pairing: " ++ orElse error "Failed to start pairing")
  | .error message => alert ("Could not start pairing: " ++ message)

/-! ## The server -/

/-- `sync_librespot_for_subscription` -/
def syncLibrespotForSubscription : Task Bool := do
  let plan ← accountIsPremium
  setPremium plan
  setUseLibrespot (plan == some true)
  pure (plan == some true)

/-- `complete_pairing` -/
def completePairing (token : TokenResponse) : Task (Except String Bool) := do
  match ← saveSpotifyAuth token with
  | some error => pure (.error ("failed to save auth tokens: " ++ error))
  | none => do
      clearCachedToken
      let premium ← syncLibrespotForSubscription
      pure (.ok premium)

/-- `handle_admin_pair_start` -/
def handleAdminPairStart (number : Nat) : Task Unit := do
  takeStart number
  let auth ← askDeviceCode
  respondStart number auth

/-- What a page is told once tokens have been granted. -/
def Status.ofPaired : Except String Bool → Status
  | .ok _ => .paired
  | .error message => .error message

/-- `handle_admin_pair_poll` -/
def handleAdminPairPoll (number : Nat) : Task Unit := do
  let deviceCode ← takePoll number
  match ← askToken deviceCode with
  | .ok (.ok token) => do
      let paired ← completePairing token
      respondPoll number (.ofPaired paired)
  | .ok (.error pending) => respondPoll number (.pending pending)
  | .error message => respondPoll number (.error message)

/-- What starts a task: a click on the button, or a request to the server. -/
inductive Request
  | click (rounds : Nat)
  | pairStart (number : Nat)
  | pairPoll (number : Nat)
  /-- The server is started while an account is paired. -/
  | sync

def Request.run : Request → Task Unit
  | .click rounds => Pairing.click rounds
  | .pairStart number => handleAdminPairStart number
  | .pairPoll number => handleAdminPairPoll number
  | .sync => do
      let _ ← syncLibrespotForSubscription

/-! ## The machine -/

/-- A timer of a page. -/
structure Timer where
  due : Nat
  milliseconds : Nat

/-- A poll which a page has sent. -/
structure Poll where
  time : Nat
  /-- What the page waited before it. -/
  interval : Nat
  /-- What the page had been told. -/
  auth : Option DeviceAuthResponse
  told : List Status

/-- What pages, handlers and Spotify share, and the history of codes, grants and saves. -/
structure World where
  now : Nat := 0
  starts : Exchange Unit Started := {}
  polls : Exchange String Status := {}
  timers : Nat → Option Timer := fun _ => none
  forceNoLibrespot : Bool
  premium : Option Bool := none
  /-- `USE_LIBRESPOT`. -/
  useLibrespot : Bool
  /-- History: the device codes which Spotify has given out. -/
  issued : List String := []
  /-- History: the tokens it has granted, and for which code. -/
  granted : List (String × TokenResponse) := []
  /-- History: the tokens which have been saved. -/
  saved : List TokenResponse := []
  /-- History: Spotify has said that an account is Premium. -/
  confirmed : Bool := false
  /-- History: what librespot was switched to, and whether Spotify had said so by then. -/
  switches : List (Bool × Bool) := []
  /-- History: what each page has been told, and which polls it has sent. -/
  auth : Nat → Option DeviceAuthResponse := fun _ => none
  told : Nat → List Status := fun _ => []
  sent : Nat → List Poll := fun _ => []

structure Input where
  /-- A page's request fails. -/
  lost : Option String := none
  device : Response DeviceAuthResponse := .unreachable ""
  token : Response TokenResponse := .unreachable ""
  /-- Why the configuration cannot be written. -/
  unsaved : Option String := none
  plan : Option Bool := none

/-- Time goes on, and other code switches librespot off. -/
inductive Change
  | tick (milliseconds : Nat)
  /-- Other code finds the account not to be Premium, or drops it. -/
  | librespotOff (premium : Option Bool)

/-- `setTimeout` takes a signed number of 32 bits. -/
def delay (milliseconds : Nat) : Nat :=
  let bits := milliseconds % 2 ^ 32
  if bits < 2 ^ 31 then bits else 0

namespace World

/-- The answer to a page, unless it is lost. -/
def receive {α : Type} (world : World) (answer : Option α) (input : Input)
    (after : α → World) : Option (Except String α × World) :=
  match input.lost with
  | some error => some (.error error, world)
  | none => answer.map fun answer => (.ok answer, after answer)

/-- A poll is on its way; what its page was told to wait is noted with it. -/
def sendPoll (world : World) (actor : Nat) (deviceCode : String) : World :=
  let interval := (world.timers actor).elim 0 Timer.milliseconds
  { world with
    polls := world.polls.send deviceCode
    timers := Function.update world.timers actor none
    sent := Function.update world.sent actor
      (⟨world.now, interval, world.auth actor, world.told actor⟩ :: world.sent actor) }

def perform (world : World) (actor : Nat) : (op : Op) → Input → Option (op.Answer × World)
  | .fetchStart, _ => some (world.starts.size, { world with starts := world.starts.send () })
  | .startResponse number, input =>
      world.receive (world.starts.answer number) input fun answer =>
        { world with auth := Function.update world.auth actor answer.toOption }
  | .setTimeout milliseconds, _ =>
      some
        ((),
          { world with
            timers := Function.update world.timers actor
              (some ⟨world.now + delay milliseconds, milliseconds⟩) })
  | .timeout, _ =>
      if (world.timers actor).any fun timer => timer.due ≤ world.now then
        some ((), world)
      else
        none
  | .fetchPoll deviceCode, _ => some (world.polls.size, world.sendPoll actor deviceCode)
  | .pollResponse number, input =>
      world.receive (world.polls.answer number) input fun status =>
        { world with told := Function.update world.told actor (status :: world.told actor) }
  | .takeStart number, _ =>
      (world.starts.take number).map fun taken => ((), { world with starts := taken.2 })
  | .requestDeviceCode, input =>
      let auth := requestDeviceCode input.device
      let codes := auth.toOption.toList.map DeviceAuthResponse.deviceCode
      some (auth, { world with issued := codes ++ world.issued })
  | .respondStart number answer, _ =>
      some ((), { world with starts := world.starts.reply number answer })
  | .takePoll number, _ =>
      (world.polls.take number).map fun taken => (taken.1, { world with polls := taken.2 })
  | .pollDeviceToken deviceCode, input =>
      let token := pollDeviceToken input.token
      let granted := token.toOption.bind Except.toOption
      some
        (token,
          { world with granted := granted.toList.map (deviceCode, ·) ++ world.granted })
  | .saveSpotifyAuth token, input =>
      match input.unsaved with
      | some error => some (some error, world)
      | none => some (none, { world with saved := token :: world.saved })
  | .accountIsPremium, input =>
      some (input.plan, { world with confirmed := world.confirmed || input.plan == some true })
  | .setPremium premium, _ => some ((), { world with premium })
  | .setUseLibrespot on, _ =>
      let enabled := on && !world.forceNoLibrespot
      some
        ((),
          { world with
            useLibrespot := enabled
            switches := (enabled, world.confirmed) :: world.switches })
  | .respondPoll number status, _ =>
      some ((), { world with polls := world.polls.reply number status })
  | .alert _, _ | .showPaired, _ | .clearCachedToken, _ => some ((), world)

/-- The program has started: librespot is on until the plan is looked at, unless it is to be left
out. -/
def start (forceNoLibrespot : Bool) : World where
  forceNoLibrespot := forceNoLibrespot
  useLibrespot := !forceNoLibrespot

def outside (world : World) : Change → World
  | .tick milliseconds => { world with now := world.now + milliseconds }
  | .librespotOff premium => { world with premium, useLibrespot := false }

end World

/-- Pages, handlers and lost responses in any order. -/
def machine : Machine signature World Request Input Change where
  initial world := ∃ forceNoLibrespot, world = .start forceNoLibrespot
  accept world _ request := some (request.run, world)
  perform := World.perform
  outside world change := some (world.outside change)

/-! ## What a task has done -/

/-- What a page has done. -/
structure Page where
  /-- What it polls for, and how long it waits. -/
  code : Option String := none
  interval : Nat := 0
  /-- The calls it waits for. -/
  startCall : Option Nat := none
  pollCall : Option Nat := none
  fired : Bool := false
  /-- It has been told that it is paired. -/
  told : Bool := false
  /-- It says that it is paired. -/
  paired : Bool := false

/-- What the server has done for a call. -/
structure Call where
  taken : Option Nat := none
  asked : Option (Nat × String) := none
  issued : Option DeviceAuthResponse := none
  token : Option TokenResponse := none
  saved : Bool := false
  plan : Option Bool := none

structure Trace where
  page : Page := {}
  call : Call := {}

/-- What a page makes of a status. -/
def Page.hear (page : Page) : Status → Page
  | .pending status =>
      { page with pollCall := none, interval := slowed page.interval status }
  | .paired => { page with pollCall := none, told := true }
  | .error _ => { page with pollCall := none }

namespace Trace

def next (trace : Trace) : (op : Op) → op.Answer → Trace
  | .fetchStart, number => { trace with page.startCall := some number }
  | .startResponse _, .ok (.ok auth) =>
      { trace with
        page :=
          { trace.page with
            startCall := none
            code := some auth.deviceCode
            interval := firstInterval auth } }
  | .startResponse _, _ => { trace with page.startCall := none }
  | .timeout, _ => { trace with page.fired := true }
  | .setTimeout _, _ => { trace with page.fired := false }
  | .fetchPoll _, number =>
      { trace with page := { trace.page with pollCall := some number, fired := false } }
  | .pollResponse _, .ok status => { trace with page := trace.page.hear status }
  | .pollResponse _, .error _ => { trace with page.pollCall := none }
  | .showPaired, _ => { trace with page.paired := true }
  | .takeStart number, _ => { trace with call.taken := some number }
  | .takePoll number, deviceCode => { trace with call.asked := some (number, deviceCode) }
  | .requestDeviceCode, .ok auth => { trace with call.issued := some auth }
  | .pollDeviceToken _, .ok (.ok token) => { trace with call.token := some token }
  | .saveSpotifyAuth _, none => { trace with call.saved := true }
  | .accountIsPremium, plan => { trace with call.plan := plan }
  | _, _ => trace

/-- Tokens are saved as granted, and a page is told what its request came to. -/
def Allows (trace : Trace) : Op → Prop
  | .fetchStart => trace.page.code = none
  | .startResponse number => trace.page.startCall = some number ∧ trace.page.code = none
  | .setTimeout milliseconds =>
      milliseconds = trace.page.interval ∧ trace.page.pollCall = none ∧ trace.page.code ≠ none
  | .fetchPoll deviceCode => trace.page.fired = true ∧ trace.page.code = some deviceCode
  | .pollResponse number => trace.page.pollCall = some number
  | .showPaired => trace.page.told = true
  | .takeStart _ => trace.call.taken = none
  | .takePoll _ => trace.call.asked = none
  | .pollDeviceToken deviceCode =>
      trace.call.token = none ∧ ∃ number, trace.call.asked = some (number, deviceCode)
  | .saveSpotifyAuth token => trace.call.token = some token
  | .setUseLibrespot on => on = true → trace.call.plan = some true
  | .respondStart number answer =>
      trace.call.taken = some number ∧ ∀ auth, answer = .ok auth → trace.call.issued = some auth
  | .respondPoll number status =>
      (∃ deviceCode, trace.call.asked = some (number, deviceCode)) ∧
        (status = .paired → trace.call.saved = true)
  | .timeout | .alert _ | .requestDeviceCode | .clearCachedToken | .accountIsPremium
  | .setPremium _ => True

end Trace

def discipline : Discipline signature Trace where
  start := {}
  next := Trace.next
  allows := Trace.Allows

namespace Trace

variable {trace : Trace}

abbrev Guides {α : Type} (trace : Trace) (task : Task α) (finish : α → Trace → Prop) : Prop :=
  task.Obeys discipline trace finish

/-- Ready for another round. -/
structure Ready (trace : Trace) (deviceCode : String) (interval : Nat) : Prop where
  idle : trace.page.pollCall = none
  code : trace.page.code = some deviceCode
  interval : trace.page.interval = interval

theorem guides_poll (rounds : Nat) {deviceCode : String} {interval : Nat}
    (ready : trace.Ready deviceCode interval) :
    trace.Guides (poll rounds deviceCode interval) fun _ _ => True := by
  induction rounds generalizing trace interval with
  | zero => trivial
  | succ rounds ih =>
      have coded : trace.page.code ≠ none := by simp [ready.code]
      refine Program.Obeys.perform ⟨ready.interval.symm, ready.idle, coded⟩ fun _ => ?_
      refine Program.Obeys.perform trivial fun _ => ?_
      refine Program.Obeys.perform ⟨rfl, ready.code⟩ fun (number : Nat) => ?_
      refine Program.Obeys.perform rfl fun (reply : Except String Status) => ?_
      cases reply with
      | error _ => exact ih ⟨rfl, ready.code, ready.interval⟩
      | ok status =>
          cases status with
          | pending status =>
              exact ih ⟨rfl, ready.code, congrArg (slowed · status) ready.interval⟩
          | paired => exact ⟨rfl, fun _ => trivial⟩
          | error message => exact ⟨trivial, fun _ => trivial⟩

theorem guides_click (rounds : Nat) : Guides {} (click rounds) fun _ _ => True := by
  refine Program.Obeys.perform rfl fun (number : Nat) => ?_
  refine Program.Obeys.perform ⟨rfl, rfl⟩ fun (reply : Except String Started) => ?_
  cases reply with
  | error message => exact ⟨trivial, fun _ => trivial⟩
  | ok started =>
      cases started with
      | error error => exact ⟨trivial, fun _ => trivial⟩
      | ok auth => exact guides_poll rounds ⟨rfl, rfl, rfl⟩

theorem guides_syncLibrespotForSubscription :
    trace.Guides syncLibrespotForSubscription fun _ after =>
      after = { trace with call.plan := after.call.plan } := by
  refine Program.Obeys.perform trivial fun (plan : Option Bool) => ?_
  refine Program.Obeys.perform trivial fun _ => ?_
  refine Program.Obeys.perform (fun on => eq_of_beq on) fun _ => ?_
  rfl

theorem guides_completePairing {token : TokenResponse} (granted : trace.call.token = some token) :
    trace.Guides (completePairing token) fun paired after =>
      after.call.asked = trace.call.asked ∧
        (∀ premium, paired = .ok premium → after.call.saved = true) := by
  refine Program.Obeys.perform granted fun (unsaved : Option String) => ?_
  cases unsaved with
  | some error => exact ⟨rfl, by simp⟩
  | none =>
      refine Program.Obeys.perform trivial fun _ => ?_
      apply Program.Obeys.bind
      refine guides_syncLibrespotForSubscription.mono ?_
      intro premium after same
      refine ⟨?_, fun _ _ => ?_⟩ <;> rw [same] <;> rfl

theorem guides_handleAdminPairStart (number : Nat) :
    Guides {} (handleAdminPairStart number) fun _ _ => True := by
  refine Program.Obeys.perform rfl fun _ => ?_
  refine Program.Obeys.perform trivial fun (auth : Started) => ?_
  cases auth with
  | error error => exact ⟨⟨rfl, by simp⟩, fun _ => trivial⟩
  | ok auth =>
      refine ⟨⟨rfl, ?_⟩, fun _ => trivial⟩
      rintro _ ⟨⟩
      rfl

theorem guides_handleAdminPairPoll (number : Nat) :
    Guides {} (handleAdminPairPoll number) fun _ _ => True := by
  refine Program.Obeys.perform rfl fun (deviceCode : String) => ?_
  refine Program.Obeys.perform ⟨rfl, number, rfl⟩
    fun (reply : Except String (Except String TokenResponse)) => ?_
  rcases reply with error | pending | token
  · exact ⟨⟨⟨deviceCode, rfl⟩, by simp⟩, fun _ => trivial⟩
  · exact ⟨⟨⟨deviceCode, rfl⟩, by simp⟩, fun _ => trivial⟩
  · apply Program.Obeys.bind
    refine (guides_completePairing rfl).mono ?_
    rintro paired after ⟨asked, saved⟩
    refine ⟨⟨⟨deviceCode, asked⟩, fun told => ?_⟩, fun _ => trivial⟩
    cases paired with
    | ok premium => exact saved premium rfl
    | error message => cases told

theorem guides_run (request : Request) : Guides {} request.run fun _ _ => True := by
  cases request with
  | click rounds => exact guides_click rounds
  | pairStart number => exact guides_handleAdminPairStart number
  | pairPoll number => exact guides_handleAdminPairPoll number
  | sync =>
      apply Program.Obeys.bind
      exact guides_syncLibrespotForSubscription.mono fun _ _ _ => trivial

end Trace

/-! ## Who is paired -/

namespace World

/-- Tokens were granted for a code, and saved. -/
def Grants (world : World) (deviceCode : String) : Prop :=
  ∃ token, (deviceCode, token) ∈ world.granted ∧ token ∈ world.saved

/-- What a page has been told is so. -/
structure Follows (world : World) (page : Page) : Prop where
  code : ∀ deviceCode, page.code = some deviceCode → deviceCode ∈ world.issued
  polled : ∀ number, page.pollCall = some number →
    ∃ deviceCode, page.code = some deviceCode ∧ world.polls.request number = some deviceCode
  told : page.told = true → ∃ deviceCode, page.code = some deviceCode ∧ world.Grants deviceCode
  paired : page.paired = true → page.told = true

/-- What the server was given for a call is so. -/
structure Serves (world : World) (call : Call) : Prop where
  taken : ∀ number, call.taken = some number → world.starts.request number = some ()
  issued : ∀ auth, call.issued = some auth → auth.deviceCode ∈ world.issued
  asked : ∀ number deviceCode, call.asked = some (number, deviceCode) →
    world.polls.request number = some deviceCode
  token : ∀ token, call.token = some token →
    ∃ number deviceCode, call.asked = some (number, deviceCode) ∧
      (deviceCode, token) ∈ world.granted
  saved : call.saved = true → ∃ token, call.token = some token ∧ token ∈ world.saved
  plan : call.plan = some true → world.confirmed = true

/-- What a task knows is true. -/
structure Knows (world : World) (trace : Trace) : Prop where
  page : world.Follows trace.page
  call : world.Serves trace.call

/-- The invariant of all interleavings. -/
structure Sound (world : World) (traces : Nat → Trace) : Prop where
  starts : world.starts.Honest fun _ answer =>
    ∀ auth, answer = .ok auth → auth.deviceCode ∈ world.issued
  polls : world.polls.Honest fun deviceCode status => status = .paired → world.Grants deviceCode
  tokens : ∀ token ∈ world.saved, ∃ deviceCode, (deviceCode, token) ∈ world.granted
  forced : world.forceNoLibrespot = true → world.useLibrespot = false
  premium : ∀ switch ∈ world.switches, switch.1 = true → switch.2 = true
  knows : ∀ task, world.Knows (traces task)

/-- What was, stays. -/
structure Later (world after : World) : Prop where
  issued : world.issued ⊆ after.issued
  granted : world.granted ⊆ after.granted
  saved : world.saved ⊆ after.saved
  confirmed : world.confirmed = true → after.confirmed = true
  starts : ∀ number, world.starts.request number = some () →
    after.starts.request number = some ()
  polls : ∀ number deviceCode, world.polls.request number = some deviceCode →
    after.polls.request number = some deviceCode

variable {world after : World} {traces : Nat → Trace} {trace : Trace} {actor : Nat}

theorem Later.refl (world : World) : world.Later world :=
  ⟨List.Subset.refl _, List.Subset.refl _, List.Subset.refl _, id, fun _ sent => sent,
    fun _ _ sent => sent⟩

theorem Grants.later {deviceCode : String} (grants : world.Grants deviceCode)
    (later : world.Later after) : after.Grants deviceCode := by
  obtain ⟨token, granted, saved⟩ := grants
  exact ⟨token, later.granted granted, later.saved saved⟩

theorem Follows.later {page : Page} (follows : world.Follows page) (later : world.Later after) :
    after.Follows page where
  code deviceCode polls := later.issued (follows.code deviceCode polls)
  polled number waits := by
    obtain ⟨deviceCode, polls, sent⟩ := follows.polled number waits
    exact ⟨deviceCode, polls, later.polls number deviceCode sent⟩
  told heard := by
    obtain ⟨deviceCode, polls, grants⟩ := follows.told heard
    exact ⟨deviceCode, polls, grants.later later⟩
  paired := follows.paired

theorem Serves.later {call : Call} (serves : world.Serves call) (later : world.Later after) :
    after.Serves call where
  taken number took := later.starts number (serves.taken number took)
  issued auth given := later.issued (serves.issued auth given)
  asked number deviceCode took :=
    later.polls number deviceCode (serves.asked number deviceCode took)
  token token given := by
    obtain ⟨number, deviceCode, took, granted⟩ := serves.token token given
    exact ⟨number, deviceCode, took, later.granted granted⟩
  saved stored := by
    obtain ⟨token, given, saved⟩ := serves.saved stored
    exact ⟨token, given, later.saved saved⟩
  plan said := later.confirmed (serves.plan said)

theorem Knows.later (knows : world.Knows trace) (later : world.Later after) : after.Knows trace :=
  ⟨knows.page.later later, knows.call.later later⟩

theorem knows_start (world : World) : world.Knows {} := by
  constructor <;> constructor <;> simp

theorem Sound.startsLater (sound : world.Sound traces) (later : world.Later after) :
    world.starts.Honest fun _ answer =>
      ∀ auth, answer = .ok auth → auth.deviceCode ∈ after.issued :=
  sound.starts.mono fun _ _ vouched auth given => later.issued (vouched auth given)

theorem Sound.pollsLater (sound : world.Sound traces) (later : world.Later after) :
    world.polls.Honest fun deviceCode status => status = .paired → after.Grants deviceCode :=
  sound.polls.mono fun _ _ vouched told => (vouched told).later later

theorem Sound.knowsLater (sound : world.Sound traces) (later : world.Later after)
    (knows : after.Knows trace) (task : Nat) :
    after.Knows (Function.update traces actor trace task) :=
  (Function.forall_update_iff traces fun _ trace => after.Knows trace).mpr
    ⟨knows, fun task _ => (sound.knows task).later later⟩ task

theorem Sound.retrace (sound : world.Sound traces) (knows : world.Knows trace) :
    world.Sound (Function.update traces actor trace) :=
  ⟨sound.starts, sound.polls, sound.tokens, sound.forced, sound.premium,
    sound.knowsLater (.refl world) knows⟩

/-- Nobody relies on timers, or on what is known of the plan. -/
theorem Sound.aside (sound : world.Sound traces) (timers : Nat → Option Timer)
    (premium : Option Bool) (knows : world.Knows trace) :
    { world with timers, premium }.Sound (Function.update traces actor trace) := by
  have later : world.Later { world with timers, premium } := { Later.refl world with }
  exact ⟨sound.startsLater later, sound.pollsLater later, sound.tokens, sound.forced,
    sound.premium, sound.knowsLater later (knows.later later)⟩

/-- What a page receives was lost, or was answered. -/
theorem receive_cases {α : Type} {answer : Option α} {input : Input} {heard : α → World}
    {reply : Except String α} (received : world.receive answer input heard = some (reply, after)) :
    (∃ error, reply = .error error ∧ after = world) ∨
      ∃ given, answer = some given ∧ reply = .ok given ∧ after = heard given := by
  unfold receive at received
  split at received
  · obtain ⟨rfl, rfl⟩ := Prod.mk.inj (Option.some.inj received)
    exact .inl ⟨_, rfl, rfl⟩
  · obtain ⟨given, answered, same⟩ := Option.map_eq_some_iff.mp received
    obtain ⟨rfl, rfl⟩ := Prod.mk.inj same
    exact .inr ⟨given, answered, rfl, rfl⟩

/-! ### The page -/

theorem Sound.fetchStart (sound : world.Sound traces) :
    { world with starts := world.starts.send () }.Sound
      (Function.update traces actor ((traces actor).next .fetchStart world.starts.size)) := by
  have later : world.Later { world with starts := world.starts.send () } :=
    { Later.refl world with
      starts := fun _ sent => sound.starts.request_send () sent }
  obtain ⟨page, call⟩ := (sound.knows actor).later later
  exact ⟨(sound.startsLater later).send (), sound.pollsLater later, sound.tokens, sound.forced,
    sound.premium, sound.knowsLater later ⟨⟨page.code, page.polled, page.told, page.paired⟩, call⟩⟩

/-- A page which has been given a code. -/
theorem Sound.startResponse (sound : world.Sound traces) {number : Nat}
    {reply : Except String Started} {input : Input} (fresh : (traces actor).page.code = none)
    (performed : world.perform actor (.startResponse number) input = some (reply, after)) :
    after.Sound (Function.update traces actor
      ((traces actor).next (.startResponse number) reply)) := by
  obtain ⟨page, call⟩ := sound.knows actor
  rcases receive_cases performed with ⟨error, rfl, rfl⟩ | ⟨started, answered, rfl, rfl⟩
  · exact sound.retrace ⟨⟨page.code, page.polled, page.told, page.paired⟩, call⟩
  · have later : world.Later
        { world with auth := Function.update world.auth actor started.toOption } :=
      { Later.refl world with }
    refine ⟨sound.startsLater later, sound.pollsLater later, sound.tokens, sound.forced,
      sound.premium, sound.knowsLater later ⟨?_, ?_⟩⟩
    · have page := page.later later
      cases started with
      | error error => exact ⟨page.code, page.polled, page.told, page.paired⟩
      | ok auth =>
          obtain ⟨-, -, vouched⟩ := sound.starts.answered number _ answered
          refine ⟨?_, fun number waits => ?_, fun told => ?_, page.paired⟩
          · rintro _ ⟨⟩
            exact vouched auth rfl
          · obtain ⟨deviceCode, polls, -⟩ := page.polled number waits
            exact absurd (fresh.symm.trans polls) (by simp)
          · obtain ⟨deviceCode, polls, -⟩ := page.told told
            exact absurd (fresh.symm.trans polls) (by simp)
    · cases started <;> exact call.later later

theorem Sound.fetchPoll (sound : world.Sound traces) {deviceCode : String}
    (polls : (traces actor).page.code = some deviceCode) :
    (world.sendPoll actor deviceCode).Sound (Function.update traces actor
      ((traces actor).next (.fetchPoll deviceCode) world.polls.size)) := by
  have later : world.Later (world.sendPoll actor deviceCode) :=
    ⟨List.Subset.refl _, List.Subset.refl _, List.Subset.refl _, id, fun _ sent => sent,
      fun _ _ sent => sound.polls.request_send deviceCode sent⟩
  obtain ⟨page, call⟩ := (sound.knows actor).later later
  refine ⟨sound.startsLater later, (sound.pollsLater later).send deviceCode,
    sound.tokens, sound.forced, sound.premium,
    sound.knowsLater later ⟨⟨page.code, ?_, page.told, page.paired⟩, call⟩⟩
  rintro _ ⟨⟩
  exact ⟨deviceCode, polls, Exchange.request_send_self world.polls deviceCode⟩

theorem Sound.pollResponse (sound : world.Sound traces) {number : Nat}
    {reply : Except String Status} {input : Input}
    (waits : (traces actor).page.pollCall = some number)
    (performed : world.perform actor (.pollResponse number) input = some (reply, after)) :
    after.Sound (Function.update traces actor
      ((traces actor).next (.pollResponse number) reply)) := by
  obtain ⟨page, call⟩ := sound.knows actor
  rcases receive_cases performed with ⟨error, rfl, rfl⟩ | ⟨status, answered, rfl, rfl⟩
  · exact sound.retrace ⟨⟨page.code, by simp [Trace.next], page.told, page.paired⟩, call⟩
  · have later : world.Later
        { world with told := Function.update world.told actor (status :: world.told actor) } :=
      { Later.refl world with }
    refine ⟨sound.startsLater later, sound.pollsLater later, sound.tokens, sound.forced,
      sound.premium, sound.knowsLater later ⟨?_, call.later later⟩⟩
    obtain ⟨deviceCode, sent, vouched⟩ := sound.polls.answered number _ answered
    obtain ⟨polled, polls, request⟩ := page.polled number waits
    obtain rfl := Option.some.inj (request.symm.trans sent)
    have page := page.later later
    cases status with
    | pending status =>
        exact ⟨page.code, by simp [Trace.next, Page.hear], page.told, page.paired⟩
    | error message =>
        exact ⟨page.code, by simp [Trace.next, Page.hear], page.told, page.paired⟩
    | paired =>
        exact ⟨page.code, by simp [Trace.next, Page.hear],
          fun _ => ⟨polled, polls, (vouched rfl).later later⟩, fun _ => rfl⟩

/-! ### The server -/

theorem Sound.takeStart (sound : world.Sound traces) {number : Nat}
    {starts : Exchange Unit Started} (took : world.starts.take number = some ((), starts)) :
    { world with starts }.Sound
      (Function.update traces actor ((traces actor).next (.takeStart number) ())) := by
  obtain ⟨sent, same⟩ := Exchange.take_cases took
  have later : world.Later { world with starts } :=
    { Later.refl world with
      starts := by
        rw [same]
        exact fun _ sent => sent }
  obtain ⟨page, call⟩ := (sound.knows actor).later later
  refine ⟨(sound.startsLater later).take took, sound.pollsLater later, sound.tokens, sound.forced,
    sound.premium, sound.knowsLater later
      ⟨page, ⟨?_, call.issued, call.asked, call.token, call.saved, call.plan⟩⟩⟩
  rintro _ ⟨⟩
  exact later.starts number sent

theorem Sound.takePoll (sound : world.Sound traces) {number : Nat} {deviceCode : String}
    {polls : Exchange String Status} (fresh : (traces actor).call.asked = none)
    (took : world.polls.take number = some (deviceCode, polls)) :
    { world with polls }.Sound
      (Function.update traces actor ((traces actor).next (.takePoll number) deviceCode)) := by
  obtain ⟨sent, same⟩ := Exchange.take_cases took
  have later : world.Later { world with polls } :=
    { Later.refl world with
      polls := by
        rw [same]
        exact fun _ _ sent => sent }
  obtain ⟨page, call⟩ := (sound.knows actor).later later
  refine ⟨sound.startsLater later, (sound.pollsLater later).take took, sound.tokens, sound.forced,
    sound.premium, sound.knowsLater later
      ⟨page, ⟨call.taken, call.issued, ?_, ?_, call.saved, call.plan⟩⟩⟩
  · rintro _ _ ⟨⟩
    exact later.polls number deviceCode sent
  · intro token given
    obtain ⟨_, _, took, -⟩ := call.token token given
    exact absurd (fresh.symm.trans took) (by simp)

theorem Sound.respondStart (sound : world.Sound traces) {number : Nat} {answer : Started}
    (taken : (traces actor).call.taken = some number)
    (issued : ∀ auth, answer = .ok auth → (traces actor).call.issued = some auth) :
    { world with starts := world.starts.reply number answer }.Sound
      (Function.update traces actor (traces actor)) := by
  have call := (sound.knows actor).call
  have later : world.Later { world with starts := world.starts.reply number answer } :=
    { Later.refl world with starts := fun _ sent => sent }
  exact ⟨(sound.startsLater later).reply (call.taken number taken)
      fun auth same => call.issued auth (issued auth same),
    sound.pollsLater later, sound.tokens, sound.forced, sound.premium,
    sound.knowsLater later ((sound.knows actor).later later)⟩

/-- The server says that a code is paired after it has saved the tokens for it. -/
theorem Sound.respondPoll (sound : world.Sound traces) {number : Nat} {deviceCode : String}
    {status : Status} (asked : (traces actor).call.asked = some (number, deviceCode))
    (saved : status = .paired → (traces actor).call.saved = true) :
    { world with polls := world.polls.reply number status }.Sound
      (Function.update traces actor (traces actor)) := by
  have call := (sound.knows actor).call
  have later : world.Later { world with polls := world.polls.reply number status } :=
    { Later.refl world with polls := fun _ _ sent => sent }
  refine ⟨sound.startsLater later,
    (sound.pollsLater later).reply (call.asked number deviceCode asked) fun told => ?_,
    sound.tokens, sound.forced, sound.premium,
    sound.knowsLater later ((sound.knows actor).later later)⟩
  obtain ⟨token, given, stored⟩ := call.saved (saved told)
  obtain ⟨_, _, took, granted⟩ := call.token token given
  obtain ⟨-, rfl⟩ := Prod.mk.inj (Option.some.inj (asked.symm.trans took))
  exact ⟨token, granted, stored⟩

theorem Sound.requestDeviceCode (sound : world.Sound traces) (auth : Started) :
    { world with
      issued := auth.toOption.toList.map DeviceAuthResponse.deviceCode ++ world.issued }.Sound
      (Function.update traces actor ((traces actor).next .requestDeviceCode auth)) := by
  have later : world.Later { world with
      issued := auth.toOption.toList.map DeviceAuthResponse.deviceCode ++ world.issued } :=
    { Later.refl world with issued := List.subset_append_right _ _ }
  have knows := (sound.knows actor).later later
  refine ⟨sound.startsLater later, sound.pollsLater later, sound.tokens, sound.forced,
    sound.premium, sound.knowsLater later ?_⟩
  cases auth with
  | error error => exact knows
  | ok auth =>
      obtain ⟨page, call⟩ := knows
      refine ⟨page, ⟨call.taken, ?_, call.asked, call.token, call.saved, call.plan⟩⟩
      rintro _ ⟨⟩
      exact List.mem_cons_self

theorem Sound.pollDeviceToken (sound : world.Sound traces) {number : Nat} {deviceCode : String}
    (asked : (traces actor).call.asked = some (number, deviceCode))
    (fresh : (traces actor).call.token = none)
    (token : Except String (Except String TokenResponse)) :
    { world with
      granted := (token.toOption.bind Except.toOption).toList.map (deviceCode, ·) ++
        world.granted }.Sound
      (Function.update traces actor ((traces actor).next (.pollDeviceToken deviceCode) token)) := by
  have later : world.Later { world with
      granted := (token.toOption.bind Except.toOption).toList.map (deviceCode, ·) ++
        world.granted } :=
    { Later.refl world with granted := List.subset_append_right _ _ }
  have knows := (sound.knows actor).later later
  refine ⟨sound.startsLater later, sound.pollsLater later, fun token saved => ?_, sound.forced,
    sound.premium, sound.knowsLater later ?_⟩
  · obtain ⟨deviceCode, granted⟩ := sound.tokens token saved
    exact ⟨deviceCode, later.granted granted⟩
  · rcases token with error | pending | token
    · exact knows
    · exact knows
    · obtain ⟨page, call⟩ := knows
      refine ⟨page, ⟨call.taken, call.issued, call.asked, ?_, fun stored => ?_, call.plan⟩⟩
      · rintro _ ⟨⟩
        exact ⟨number, deviceCode, asked, List.mem_cons_self⟩
      · obtain ⟨_, given, -⟩ := call.saved stored
        exact absurd (fresh.symm.trans given) (by simp)

theorem Sound.saveSpotifyAuth (sound : world.Sound traces) {token : TokenResponse}
    (given : (traces actor).call.token = some token) :
    { world with saved := token :: world.saved }.Sound
      (Function.update traces actor ((traces actor).next (.saveSpotifyAuth token) none)) := by
  have later : world.Later { world with saved := token :: world.saved } :=
    { Later.refl world with saved := List.subset_cons_self _ _ }
  obtain ⟨page, call⟩ := (sound.knows actor).later later
  refine ⟨sound.startsLater later, sound.pollsLater later, fun other saved => ?_, sound.forced,
    sound.premium, sound.knowsLater later ⟨page, ⟨call.taken, call.issued, call.asked, call.token,
      fun _ => ⟨token, given, List.mem_cons_self⟩, call.plan⟩⟩⟩
  rcases List.mem_cons.mp saved with rfl | before
  · obtain ⟨_, deviceCode, -, granted⟩ := call.token other given
    exact ⟨deviceCode, granted⟩
  · exact sound.tokens other before

theorem Sound.accountIsPremium (sound : world.Sound traces) (plan : Option Bool) :
    { world with confirmed := world.confirmed || plan == some true }.Sound
      (Function.update traces actor ((traces actor).next .accountIsPremium plan)) := by
  have later : world.Later { world with confirmed := world.confirmed || plan == some true } :=
    { Later.refl world with confirmed := fun before => by simp [before] }
  obtain ⟨page, call⟩ := (sound.knows actor).later later
  refine ⟨sound.startsLater later, sound.pollsLater later, sound.tokens, sound.forced,
    sound.premium, sound.knowsLater later
      ⟨page, ⟨call.taken, call.issued, call.asked, call.token, call.saved, ?_⟩⟩⟩
  rintro (rfl : plan = some true)
  simp

/-- Librespot is switched on by whoever was told that the account is Premium. -/
theorem Sound.setUseLibrespot (sound : world.Sound traces) {on : Bool}
    (allowed : on = true → (traces actor).call.plan = some true) :
    { world with
      useLibrespot := on && !world.forceNoLibrespot
      switches := (on && !world.forceNoLibrespot, world.confirmed) :: world.switches }.Sound
      (Function.update traces actor (traces actor)) := by
  have later : world.Later { world with
      useLibrespot := on && !world.forceNoLibrespot
      switches := (on && !world.forceNoLibrespot, world.confirmed) :: world.switches } :=
    { Later.refl world with }
  refine ⟨sound.startsLater later, sound.pollsLater later, sound.tokens, ?_, ?_,
    sound.knowsLater later ((sound.knows actor).later later)⟩
  · intro forced
    simp only at forced
    simp [forced]
  · refine List.forall_mem_cons.mpr ⟨fun enabled => ?_, sound.premium⟩
    simp only [Bool.and_eq_true] at enabled
    exact (sound.knows actor).call.plan (allowed enabled.1)

theorem Sound.perform (sound : world.Sound traces) {op : Op} {input : Input} {answer : op.Answer}
    (allowed : (traces actor).Allows op)
    (performed : world.perform actor op input = some (answer, after)) :
    after.Sound (Function.update traces actor ((traces actor).next op answer)) := by
  obtain ⟨page, call⟩ := sound.knows actor
  cases op with
  | fetchStart =>
      obtain ⟨rfl, rfl⟩ := Prod.mk.inj (Option.some.inj performed)
      exact sound.fetchStart
  | startResponse number => exact sound.startResponse allowed.2 performed
  | setTimeout milliseconds =>
      obtain ⟨-, rfl⟩ := Prod.mk.inj (Option.some.inj performed)
      exact sound.aside _ world.premium ⟨⟨page.code, page.polled, page.told, page.paired⟩, call⟩
  | timeout =>
      simp only [World.perform] at performed
      split at performed
      · obtain ⟨-, rfl⟩ := Prod.mk.inj (Option.some.inj performed)
        exact sound.retrace ⟨⟨page.code, page.polled, page.told, page.paired⟩, call⟩
      · cases performed
  | fetchPoll deviceCode =>
      obtain ⟨rfl, rfl⟩ := Prod.mk.inj (Option.some.inj performed)
      exact sound.fetchPoll allowed.2
  | pollResponse number => exact sound.pollResponse allowed performed
  | showPaired =>
      obtain ⟨-, rfl⟩ := Prod.mk.inj (Option.some.inj performed)
      exact sound.retrace ⟨⟨page.code, page.polled, page.told, fun _ => allowed⟩, call⟩
  | takeStart number =>
      obtain ⟨taken, took, same⟩ := Option.map_eq_some_iff.mp performed
      obtain ⟨-, rfl⟩ := Prod.mk.inj same
      exact sound.takeStart took
  | takePoll number =>
      obtain ⟨taken, took, same⟩ := Option.map_eq_some_iff.mp performed
      obtain ⟨rfl, rfl⟩ := Prod.mk.inj same
      exact sound.takePoll allowed took
  | requestDeviceCode =>
      obtain ⟨rfl, rfl⟩ := Prod.mk.inj (Option.some.inj performed)
      exact sound.requestDeviceCode _
  | respondStart number answer =>
      obtain ⟨-, rfl⟩ := Prod.mk.inj (Option.some.inj performed)
      exact sound.respondStart allowed.1 allowed.2
  | pollDeviceToken deviceCode =>
      obtain ⟨rfl, rfl⟩ := Prod.mk.inj (Option.some.inj performed)
      obtain ⟨fresh, number, asked⟩ := allowed
      exact sound.pollDeviceToken asked fresh _
  | saveSpotifyAuth token =>
      simp only [World.perform] at performed
      split at performed <;> obtain ⟨rfl, rfl⟩ := Prod.mk.inj (Option.some.inj performed)
      · exact sound.retrace ⟨page, call⟩
      · exact sound.saveSpotifyAuth allowed
  | clearCachedToken | alert =>
      obtain ⟨-, rfl⟩ := Prod.mk.inj (Option.some.inj performed)
      exact sound.retrace ⟨page, call⟩
  | accountIsPremium =>
      obtain ⟨rfl, rfl⟩ := Prod.mk.inj (Option.some.inj performed)
      exact sound.accountIsPremium _
  | setPremium premium =>
      obtain ⟨-, rfl⟩ := Prod.mk.inj (Option.some.inj performed)
      exact sound.aside world.timers premium ⟨page, call⟩
  | setUseLibrespot on =>
      obtain ⟨-, rfl⟩ := Prod.mk.inj (Option.some.inj performed)
      exact sound.setUseLibrespot allowed
  | respondPoll number status =>
      obtain ⟨-, rfl⟩ := Prod.mk.inj (Option.some.inj performed)
      obtain ⟨⟨deviceCode, asked⟩, saved⟩ := allowed
      exact sound.respondPoll asked saved

theorem Sound.outside (sound : world.Sound traces) (change : Change) :
    (world.outside change).Sound traces := by
  have later : world.Later (world.outside change) := by
    cases change <;> exact { Later.refl world with }
  have knows := fun task => (sound.knows task).later later
  cases change with
  | tick milliseconds =>
      exact ⟨sound.startsLater later, sound.pollsLater later, sound.tokens, sound.forced,
        sound.premium, knows⟩
  | librespotOff premium =>
      exact ⟨sound.startsLater later, sound.pollsLater later, sound.tokens, fun _ => rfl,
        sound.premium, knows⟩

theorem safe : machine.Safe discipline (fun _ _ _ _ _ => True) Sound where
  initial := by
    rintro _ ⟨forceNoLibrespot, rfl⟩
    exact ⟨Exchange.honest_new, Exchange.honest_new, nofun, by simp [World.start], nofun,
      fun _ => knows_start _⟩
  accept _ _ _ request _ _ sound _ accepted := by
    obtain ⟨rfl, rfl⟩ := Prod.mk.inj (Option.some.inj accepted)
    exact ⟨sound, Trace.guides_run request⟩
  perform _ _ _ _ _ _ _ sound allowed _ performed := sound.perform allowed performed
  outside _ _ change _ sound changed := by
    obtain rfl := Option.some.inj changed
    exact sound.outside change

end World

/-- All interleavings of pages and handlers. -/
abbrev system := machine.system discipline

/-- Whatever is lost, and whoever else is pairing: a page which says that it is paired has polled
for a code which Spotify gave out, and tokens were granted for that code and saved; nothing is saved
but what was granted; and librespot is only switched on after an account was said to be Premium, and
never on if it is to be left out. -/
theorem paired_pages_are_paired {pool : Pool signature World Trace}
    (reach : system.Reachable pool) :
    (∀ task, (pool.trace task).page.paired = true →
      ∃ deviceCode, (pool.trace task).page.code = some deviceCode ∧
        deviceCode ∈ pool.shared.issued ∧ pool.shared.Grants deviceCode) ∧
      (∀ token ∈ pool.shared.saved, ∃ deviceCode, (deviceCode, token) ∈ pool.shared.granted) ∧
        (∀ switch ∈ pool.shared.switches, switch.1 = true → switch.2 = true) ∧
          (pool.shared.forceNoLibrespot = true → pool.shared.useLibrespot = false) := by
  have sound := (World.safe.guarded_of_reachable reach).holds
  refine ⟨fun task paired => ?_, sound.tokens, sound.premium, sound.forced⟩
  have page := (sound.knows task).page
  obtain ⟨deviceCode, polls, grants⟩ := page.told (page.paired paired)
  exact ⟨deviceCode, polls, page.code deviceCode polls, grants⟩

/-! ### A page which is told to slow down -/

abbrev Event := PoolEvent Request Input Change

def exampleAuth : DeviceAuthResponse where
  deviceCode := "code"
  userCode := "ABCD"
  verificationUri := none
  verificationUriComplete := none
  interval := some 5

def exampleToken : TokenResponse where
  accessToken := "token"
  refreshToken := none
  expiresIn := 3600

/-- Spotify finds that it is polled too often. -/
def tooFast : Response TokenResponse :=
  .failure "400 Bad Request" "" (.object [("error", .string "slow_down")])

/-- A task goes on for some steps. -/
def advance (task steps : Nat) (input : Input) : List Event :=
  List.replicate steps (.advance task input)

def visit : List Event :=
  [.start (.click 3)] ++ advance 0 1 {} ++
    [.start (.pairStart 0)] ++ advance 1 3 { device := .success exampleAuth } ++
    advance 0 2 {} ++ [.outside (.tick 5000)] ++ advance 0 2 {} ++
    [.start (.pairPoll 0)] ++ advance 2 3 { token := tooFast } ++
    advance 0 2 {} ++ [.outside (.tick 10000)] ++ advance 0 2 {} ++
    [.start (.pairPoll 1)] ++ advance 3 8 { token := .success exampleToken, plan := some true } ++
    advance 0 2 {}

def dashboard : Pool signature World Trace :=
  Machine.boot discipline (.start false)

theorem dashboard_initial : system.initial dashboard := ⟨_, ⟨false, rfl⟩, rfl⟩

theorem visit_runs : (system.run dashboard visit).isSome := by decide +kernel

theorem visit_pairs :
    let pool := system.final dashboard visit visit_runs
    (pool.trace 0).page.paired = true ∧
      (∃ deviceCode, (pool.trace 0).page.code = some deviceCode ∧ deviceCode ∈ pool.shared.issued ∧
        pool.shared.Grants deviceCode) ∧
      pool.shared.switches.length = 1 ∧
        ∀ switch ∈ pool.shared.switches, switch.1 = true → switch.2 = true := by
  intro pool
  have paired : (pool.trace 0).page.paired = true := by decide +kernel
  obtain ⟨pages, -, switches, -⟩ :=
    paired_pages_are_paired (System.reachable_final dashboard_initial visit visit_runs)
  exact ⟨paired, pages 0 paired, by decide +kernel, switches⟩

end Togewire.Spotify.Pairing
