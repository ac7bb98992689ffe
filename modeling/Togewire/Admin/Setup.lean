import Mathlib.Data.List.Basic
import Togewire.Foundation.Program

/-!
# First-time setup

A setup request reads the admin hash before it waits for bcrypt and writes it afterwards, and the
pending hash between the password step and the confirm step is one for all clients.  The hash is set
at most once, and never replaced by a setup request, provided that whenever a confirm step passes
its check no password is set and no other confirm step is about to set one.
-/

namespace Togewire.Admin

open Interleaving Transition

/-- `MIN_ADMIN_PASSWORD_LEN`. -/
def minAdminPasswordLen : Nat := 8

/-- What `POST /admin/login` sends, and what its headers say. -/
structure LoginForm where
  ip : String
  sameOrigin : Bool := true
  password : String := ""
  confirm : String := ""
  setupToken : String := ""

/-- What `POST /admin/login` is answered. -/
inductive Response
  | crossSite
  /-- The login page at a step, with the token and the error it shows. -/
  | loginPage (step setupToken error : String)
  /-- A session for the admin hash, and the way to the dashboard. -/
  | signedIn (adminHash : String)

/-- What a password is checked against. -/
inductive Check
  | login
  | confirm
  deriving DecidableEq

/-- What logins share, and the history of their checks. -/
structure Setup where
  adminPasswordHash : String
  setupToken : String
  pendingHash : String
  /-- History: requests whose confirm step has passed its check and not stored the hash yet. -/
  confirmed : List Nat
  /-- History: the hashes that setup requests have stored. -/
  stores : List String
  /-- History: whether one of them replaced a password. -/
  replaced : Bool

/-- The operations of a login. -/
inductive Op
  | registerLoginAttempt (ip : String)
  | clearFailedAttempts (ip : String)
  | readHash
  | isSetupTokenValid (token : String)
  | hashPassword (password : String)
  | setPendingHash (hash : String)
  | takePendingHash
  | bcryptVerify (check : Check) (hash password : String)
  | storeHash (hash : String)
  | clearSetupToken

def Op.Answer : Op → Type
  | registerLoginAttempt _ | isSetupTokenValid _ | bcryptVerify _ _ _ | storeHash _ => Bool
  | readHash | takePendingHash => String
  | hashPassword _ => Option String
  | clearFailedAttempts _ | setPendingHash _ | clearSetupToken => Unit

abbrev signature : Signature := ⟨Op, Op.Answer⟩

abbrev Task := Program signature

/-- What the outside world contributes to a step. -/
structure Input where
  /-- Whether the address is under its attempt limit. -/
  underLimit : Bool := true
  hashed : Option String := none
  verified : Bool := false
  /-- Whether the configuration file can be written. -/
  saved : Bool := true

namespace Setup

/-- A setup request stores its hash. -/
def storeHash (setup : Setup) (actor : Nat) (hash : String) : Setup :=
  { setup with
    adminPasswordHash := hash
    confirmed := setup.confirmed.filter fun task => task ≠ actor
    stores := hash :: setup.stores
    replaced := setup.replaced || setup.adminPasswordHash != "" }

/-- The check of a confirm step has ended. -/
def checked (setup : Setup) (actor : Nat) (check : Check) (passed : Bool) : Setup :=
  if check = .confirm ∧ passed = true then
    { setup with confirmed := actor :: setup.confirmed }
  else
    setup

/-- The effect of one operation of a request.  The attempt counts are left to the input. -/
def perform (setup : Setup) (actor : Nat) (op : Op) (input : Input) :
    Option (op.Answer × Setup) :=
  match op with
  | .registerLoginAttempt _ => some (input.underLimit, setup)
  | .clearFailedAttempts _ => some ((), setup)
  | .readHash => some (setup.adminPasswordHash, setup)
  | .isSetupTokenValid token => some (setup.setupToken != "" && setup.setupToken = token, setup)
  | .hashPassword _ => some (input.hashed, setup)
  | .setPendingHash hash => some ((), { setup with pendingHash := hash })
  | .takePendingHash => some (setup.pendingHash, { setup with pendingHash := "" })
  | .bcryptVerify check _ _ => some (input.verified, setup.checked actor check input.verified)
  | .storeHash hash => some (input.saved, setup.storeHash actor hash)
  | .clearSetupToken => some ((), { setup with setupToken := "", pendingHash := "" })

end Setup

/-! ## Requests -/

def ask (op : Op) : Task op.Answer := Program.perform (S := signature) op

def registerLoginAttempt (ip : String) : Task Bool := ask (.registerLoginAttempt ip)
def clearFailedAttempts (ip : String) : Task Unit := ask (.clearFailedAttempts ip)
def readHash : Task String := ask .readHash
def isSetupTokenValid (token : String) : Task Bool := ask (.isSetupTokenValid token)
def hashPassword (password : String) : Task (Option String) := ask (.hashPassword password)
def setPendingHash (hash : String) : Task Unit := ask (.setPendingHash hash)
def takePendingHash : Task String := ask .takePendingHash
def bcryptVerify (check : Check) (hash password : String) : Task Bool :=
  ask (.bcryptVerify check hash password)
def storeHash (hash : String) : Task Bool := ask (.storeHash hash)
def clearSetupToken : Task Unit := ask .clearSetupToken

/-- `verify_password`: bcrypt would ignore what comes after 72 bytes. -/
def verifyPassword (check : Check) (hash password : String) : Task Bool :=
  if 72 < password.utf8ByteSize then pure false else bcryptVerify check hash password

/-- `first_login_step` -/
def firstLoginStep : Task String := do
  let hash ← readHash
  pure (if hash = "" then "token" else "login")

/-- The end of a successful login. -/
def signIn (ip : String) : Task Response := do
  clearFailedAttempts ip
  let hash ← readHash
  pure (.signedIn hash)

/-- Store the confirmed hash and retire the setup token. -/
def storePassword (form : LoginForm) (hash : String) : Task Response := do
  if ← storeHash hash then
    clearSetupToken
    signIn form.ip
  else
    pure (.loginPage "password" form.setupToken "Failed to save password")

/-- The confirm step. -/
def confirmPassword (form : LoginForm) : Task Response := do
  let hash ← takePendingHash
  if hash = "" then
    pure (.loginPage "password" form.setupToken "Passwords do not match")
  else if ← verifyPassword .confirm hash form.confirm then
    storePassword form hash
  else
    pure (.loginPage "password" form.setupToken "Passwords do not match")

/-- The password step. -/
def setPassword (form : LoginForm) : Task Response :=
  if form.password.length < minAdminPasswordLen then
    pure (.loginPage "password" form.setupToken "Password must be at least 8 characters")
  else if 72 < form.password.utf8ByteSize then
    pure (.loginPage "password" form.setupToken "Password must be at most 72 bytes")
  else do
    match ← hashPassword form.password with
    | none => pure (.loginPage "password" form.setupToken "Failed to set password")
    | some hash => do
        setPendingHash hash
        pure (.loginPage "confirm" form.setupToken "")

/-- What a valid setup token lets a request do. -/
def continueSetup (form : LoginForm) : Task Response :=
  if form.password = "" ∧ form.confirm = "" then
    pure (.loginPage "password" form.setupToken "")
  else if form.confirm = "" then
    setPassword form
  else
    confirmPassword form

/-- The branch of a setup token: the password step, then the confirm step. -/
def setUp (form : LoginForm) : Task Response := do
  if ← isSetupTokenValid form.setupToken then
    clearFailedAttempts form.ip
    continueSetup form
  else
    pure (.loginPage "token" "" "Invalid setup token. Check terminal output")

/-- The branch of a configured password. -/
def logIn (form : LoginForm) (adminHash : String) : Task Response := do
  if ← verifyPassword .login adminHash form.password then
    signIn form.ip
  else
    pure (.loginPage "login" "" "Invalid password")

/-- The login page with its error. -/
def refuseLogin : Task Response := do
  let step ← firstLoginStep
  pure (.loginPage step "" "Too many attempts. Try again later")

/-- Set up or log in, as the hash read first says. -/
def admitLogin (form : LoginForm) : Task Response := do
  let adminHash ← readHash
  if adminHash = "" then
    setUp form
  else
    logIn form adminHash

/-- `handle_admin_login_post` -/
def handleAdminLoginPost (form : LoginForm) : Task Response :=
  if form.sameOrigin then do
    if ← registerLoginAttempt form.ip then
      admitLogin form
    else
      refuseLogin
  else
    pure .crossSite

def accept (form : LoginForm) : Task Unit := do
  let _ ← handleAdminLoginPost form

/-- Before the first request. -/
def start (adminPasswordHash setupToken : String) : Setup where
  adminPasswordHash := adminPasswordHash
  setupToken := setupToken
  pendingHash := ""
  confirmed := []
  stores := []
  replaced := false

/-- Login and setup requests in any order. -/
def machine : Machine signature Setup LoginForm Input Empty where
  initial setup := ∃ adminPasswordHash setupToken, setup = start adminPasswordHash setupToken
  accept setup _ form := some (accept form, setup)
  perform := Setup.perform
  outside _ change := nomatch change

/-! ## What each request has done -/

/-- How far a request has come with a confirm step. -/
inductive Phase
  | away
  | confirmed (hash : String)

namespace Phase

def next (phase : Phase) : (op : Op) → op.Answer → Phase
  | .bcryptVerify .confirm hash _, true => .confirmed hash
  | .storeHash _, _ => .away
  | _, _ => phase

/-- A confirm step checks one hash, and stores the one it has checked. -/
def Allows (phase : Phase) : Op → Prop
  | .bcryptVerify .confirm hash _ => phase = away ∧ hash ≠ ""
  | .storeHash hash => phase = confirmed hash ∧ hash ≠ ""
  | _ => True

end Phase

def discipline : Discipline signature Phase where
  start := .away
  next := Phase.next
  allows := Phase.Allows

/-- A task of logins keeps to the discipline from a phase on. -/
abbrev Guides {α : Type} (phase : Phase) (task : Task α) : Prop :=
  task.Obeys discipline phase fun _ _ => True

theorem guides_signIn (phase : Phase) (ip : String) : Guides phase (signIn ip) :=
  ⟨trivial, fun _ => ⟨trivial, fun _ => trivial⟩⟩

theorem guides_storePassword (form : LoginForm) {hash : String} (present : hash ≠ "") :
    Guides (.confirmed hash) (storePassword form hash) := by
  refine Program.Obeys.perform ⟨rfl, present⟩ ?_
  rintro (_ | _)
  · trivial
  · exact Program.Obeys.perform trivial fun _ => guides_signIn _ form.ip

theorem guides_verifyPassword {phase : Phase} {check : Check} {hash password : String}
    {finish : Bool → Phase → Prop} (allowed : phase.Allows (.bcryptVerify check hash password))
    (passed : finish true (phase.next (.bcryptVerify check hash password) true))
    (failed : finish false phase) :
    (verifyPassword check hash password).Obeys discipline phase finish := by
  by_cases long : 72 < password.utf8ByteSize
  · rw [verifyPassword, if_pos long]
    exact failed
  · rw [verifyPassword, if_neg long]
    refine ⟨allowed, ?_⟩
    rintro (_ | _)
    · cases check <;> exact failed
    · exact passed

theorem guides_confirmPassword (form : LoginForm) : Guides .away (confirmPassword form) := by
  refine Program.Obeys.perform trivial fun (hash : String) => ?_
  by_cases absent : hash = ""
  · rw [if_pos absent]
    trivial
  · rw [if_neg absent]
    exact Program.Obeys.bind (guides_verifyPassword ⟨rfl, absent⟩
      (guides_storePassword form absent) trivial)

theorem guides_setPassword (form : LoginForm) : Guides .away (setPassword form) := by
  rw [setPassword]
  split
  · trivial
  · split
    · trivial
    · refine Program.Obeys.perform trivial fun hashed => ?_
      cases hashed with
      | none => trivial
      | some hash => exact ⟨trivial, fun _ => trivial⟩

theorem guides_setUp (form : LoginForm) : Guides .away (setUp form) := by
  refine Program.Obeys.perform trivial ?_
  rintro (_ | _)
  · trivial
  · refine Program.Obeys.perform trivial fun _ => ?_
    rw [continueSetup]
    split
    · trivial
    · split
      · exact guides_setPassword form
      · exact guides_confirmPassword form

theorem guides_logIn (form : LoginForm) (adminHash : String) :
    Guides .away (logIn form adminHash) :=
  Program.Obeys.bind (guides_verifyPassword trivial (guides_signIn .away form.ip) trivial)

theorem guides_admitLogin (form : LoginForm) : Guides .away (admitLogin form) := by
  refine Program.Obeys.perform trivial fun (adminHash : String) => ?_
  by_cases unset : adminHash = ""
  · rw [if_pos unset]
    exact guides_setUp form
  · rw [if_neg unset]
    exact guides_logIn form adminHash

theorem guides_handleAdminLoginPost (form : LoginForm) :
    Guides .away (handleAdminLoginPost form) := by
  rw [handleAdminLoginPost]
  split
  · refine Program.Obeys.perform trivial ?_
    rintro (_ | _)
    · exact ⟨trivial, fun _ => trivial⟩
    · exact guides_admitLogin form
  · trivial

theorem guides_accept (form : LoginForm) : Guides .away (accept form) :=
  Program.Obeys.bind ((guides_handleAdminLoginPost form).mono fun _ _ _ => trivial)

/-! ## Set up once -/

namespace Setup

/-- Setup requests have stored at most one hash, and it replaced none. -/
structure SetUpOnce (setup : Setup) : Prop where
  once : setup.stores.length ≤ 1
  first : setup.replaced = false

/-- When a confirm step passes its check, no password is set, and no other confirm step has passed
its check and not stored its hash yet. -/
def PassesAlone (setup : Setup) (_ : Nat → Phase) (_ : Nat) (op : Op) (input : Input) : Prop :=
  match op with
  | .bcryptVerify .confirm _ _ =>
      input.verified = true → setup.adminPasswordHash = "" ∧ setup.confirmed = []
  | _ => True

instance (setup : Setup) (phases : Nat → Phase) (actor : Nat) (op : Op) (input : Input) :
    Decidable (setup.PassesAlone phases actor op input) := by
  cases op with
  | bcryptVerify check =>
      cases check with
      | login => exact isTrue trivial
      | confirm => exact inferInstanceAs (Decidable (_ → _))
  | _ => exact isTrue trivial

/-- The invariant of all interleavings. -/
structure Coherent (setup : Setup) (phases : Nat → Phase) : Prop where
  once : setup.SetUpOnce
  stored : setup.stores ≠ [] → setup.adminPasswordHash ≠ ""
  confirmed : ∀ task hash, phases task = .confirmed hash → task ∈ setup.confirmed
  alone : ∀ task other, task ∈ setup.confirmed → other ∈ setup.confirmed → task = other
  unset : ∀ task, task ∈ setup.confirmed → setup.adminPasswordHash = ""

variable {setup after : Setup} {phases : Nat → Phase} {actor : Nat} {op : Op} {answer : op.Answer}
  {input : Input} {next : Phase}

theorem Coherent.keep (coherent : setup.Coherent phases) (phase : next = phases actor)
    (hash : after.adminPasswordHash = setup.adminPasswordHash)
    (confirmed : after.confirmed = setup.confirmed) (stores : after.stores = setup.stores)
    (replaced : after.replaced = setup.replaced) :
    after.Coherent (Function.update phases actor next) where
  once := ⟨by rw [stores]; exact coherent.once.once, by rw [replaced]; exact coherent.once.first⟩
  stored := by rw [stores, hash]; exact coherent.stored
  confirmed := by
    rw [phase, Function.update_eq_self, confirmed]
    exact coherent.confirmed
  alone := by rw [confirmed]; exact coherent.alone
  unset := by rw [confirmed, hash]; exact coherent.unset

theorem coherent_confirm (coherent : setup.Coherent phases) (hash : String)
    (unset : setup.adminPasswordHash = "") (alone : setup.confirmed = []) :
    { setup with confirmed := actor :: setup.confirmed }.Coherent
      (Function.update phases actor (.confirmed hash)) where
  once := ⟨coherent.once.once, coherent.once.first⟩
  stored := coherent.stored
  confirmed := by
    refine (Function.forall_update_iff phases fun task phase => ∀ hash, phase = .confirmed hash →
      task ∈ actor :: setup.confirmed).mpr ⟨fun _ _ => List.mem_cons_self, ?_⟩
    exact fun task _ hash passed => List.mem_cons_of_mem _ (coherent.confirmed task hash passed)
  alone task other := by
    simp only [alone, List.mem_singleton]
    rintro rfl rfl
    rfl
  unset _ _ := unset

/-- The one confirm step that has passed its check stores the first hash. -/
theorem coherent_storeHash (coherent : setup.Coherent phases) {hash : String}
    (passed : phases actor = .confirmed hash) (present : hash ≠ "") :
    (setup.storeHash actor hash).Coherent (Function.update phases actor .away) := by
  have mine := coherent.confirmed actor hash passed
  have unset := coherent.unset actor mine
  have none : setup.stores = [] := by
    by_contra some
    exact coherent.stored some unset
  have rest : (setup.storeHash actor hash).confirmed = [] := by
    refine List.filter_eq_nil_iff.mpr fun task member => ?_
    simp [coherent.alone task actor member mine]
  refine ⟨⟨?_, ?_⟩, fun _ => present, ?_, ?_, ?_⟩
  · simp [storeHash, none]
  · simp [storeHash, coherent.once.first, unset]
  · refine (Function.forall_update_iff phases fun task phase => ∀ hash, phase = .confirmed hash →
      task ∈ setup.confirmed.filter fun task => task ≠ actor).mpr ⟨nofun, ?_⟩
    intro task different hash passed
    exact absurd (coherent.alone task actor (coherent.confirmed task hash passed) mine) different
  · rw [rest]
    exact fun _ _ => nofun
  · rw [rest]
    exact fun _ => nofun

theorem coherent_perform (coherent : setup.Coherent phases) (allowed : (phases actor).Allows op)
    (permitted : setup.PassesAlone phases actor op input)
    (performed : setup.perform actor op input = some (answer, after)) :
    after.Coherent (Function.update phases actor ((phases actor).next op answer)) := by
  cases op with
  | bcryptVerify check hash password =>
      obtain ⟨rfl, rfl⟩ := Prod.mk.inj (Option.some.inj performed)
      cases check with
      | login => exact coherent.keep rfl rfl rfl rfl rfl
      | confirm =>
          cases verified : input.verified with
          | false => exact coherent.keep rfl rfl rfl rfl rfl
          | true =>
              obtain ⟨unset, alone⟩ := permitted verified
              exact coherent_confirm coherent hash unset alone
  | storeHash hash =>
      obtain ⟨-, rfl⟩ := Prod.mk.inj (Option.some.inj performed)
      exact coherent_storeHash coherent allowed.1 allowed.2
  | _ =>
      obtain ⟨-, rfl⟩ := Prod.mk.inj (Option.some.inj performed)
      exact coherent.keep rfl rfl rfl rfl rfl

end Setup

theorem safe : machine.Safe discipline Setup.PassesAlone Setup.Coherent where
  initial := by
    rintro _ ⟨adminPasswordHash, setupToken, rfl⟩
    exact ⟨⟨Nat.zero_le _, rfl⟩, fun some => absurd rfl some, nofun, nofun, nofun⟩
  accept := by
    intro setup phases actor form program after coherent _ accepted
    obtain ⟨rfl, rfl⟩ := Prod.mk.inj (Option.some.inj accepted)
    exact ⟨coherent, guides_accept form⟩
  perform setup phases actor op input answer after coherent allowed permitted performed :=
    Setup.coherent_perform coherent allowed permitted performed
  outside _ _ change := nomatch change

/-- All interleavings of logins. -/
abbrev system := machine.system discipline

/-- If every confirm step that passes its check finds no password and no rival, setup happens at
most once. -/
theorem sets_up_once {pool : Pool signature Setup Phase}
    (reach : system.ReachableUnder (Machine.Permits Setup.PassesAlone) pool) :
    pool.shared.SetUpOnce :=
  (safe.guarded reach).holds.once

/-- A server waiting for its first password. -/
def unclaimed : Pool signature Setup Phase := Machine.boot discipline (start "" "TOKEN")

theorem unclaimed_initial : system.initial unclaimed := ⟨_, ⟨"", "TOKEN", rfl⟩, rfl⟩

def passwordStep (password : String) : LoginForm :=
  { ip := "peer", password := password, setupToken := "TOKEN" }

def confirmStep (password : String) : LoginForm :=
  { ip := "peer", confirm := password, setupToken := "TOKEN" }

/-- A number of operations of one request, with bcrypt's answers. -/
def advance (count actor : Nat) (hash : String) : List (PoolEvent LoginForm Input Empty) :=
  List.replicate count (.advance actor { hashed := some hash, verified := true })

/-- One client sets the password, and tries again with the token. -/
def claimed : List (PoolEvent LoginForm Input Empty) :=
  [.start (passwordStep "password")] ++ advance 6 0 "hash" ++
    [.start (confirmStep "password")] ++ advance 10 1 "hash" ++
    [.start (passwordStep "password")] ++ advance 4 2 "hash"

theorem claimed_once :
    let pool := system.final unclaimed claimed rfl
    pool.shared.stores = ["hash"] ∧ pool.shared.SetUpOnce :=
  ⟨rfl, sets_up_once (System.ReachableUnder.final unclaimed_initial (by decide) rfl)⟩

/-- Two clients confirm different passwords at the same time. -/
def contested : List (PoolEvent LoginForm Input Empty) :=
  [.start (passwordStep "password")] ++ advance 6 0 "hash" ++
    [.start (confirmStep "password")] ++ advance 5 1 "hash" ++
    [.start (passwordStep "different")] ++ advance 6 2 "other" ++
    [.start (confirmStep "different")] ++ advance 5 3 "other" ++ advance 2 1 "hash" ++
    advance 2 3 "other"

/-- The second one replaces the password of the first. -/
theorem contested_sets_up_twice :
    ¬ ∀ pool, system.Reachable pool → pool.shared.SetUpOnce := by
  intro once
  have reach : system.Reachable (system.final unclaimed contested rfl) :=
    System.reachable_final unclaimed_initial contested rfl
  have first := (once _ reach).first
  exact absurd first (by decide)

end Togewire.Admin
