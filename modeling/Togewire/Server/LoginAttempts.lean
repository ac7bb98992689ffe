import Mathlib.Data.Finset.Card
import Mathlib.Data.List.AList
import Mathlib.Data.List.MinMax
import Mathlib.Logic.Function.Basic
import Togewire.Foundation.Transition

/-!
# Login attempts

The limiter counts the login attempts of each address in a window of half an hour.  Its map is
bounded, so windows are dropped to make room; it stays exact for an address as long as the windows
still running fit into the map.
-/

namespace Togewire.Server

open Transition

/-- Instants and durations are in nanoseconds. -/
def rateLimitWindow : Nat := 30 * 60 * 1_000_000_000

/-- `MAX_LOGIN_ATTEMPTS` -/
def maxLoginAttempts : Nat := 5

/-- `MAX_ENTRIES` -/
def maxEntries : Nat := 1000

/-- The attempts of a window, and its start. -/
structure Window where
  attempts : Nat
  start : Nat
deriving DecidableEq

/-- An address and its window. -/
abbrev AttemptRow := Sigma fun _ : String => Window

/-- The windows recorded, by client address. -/
abbrev Attempts := AList fun _ : String => Window

/-- The order in which the map is walked. -/
structure Iteration where
  list : List AttemptRow → List AttemptRow
  perm : ∀ rows, (list rows).Perm rows

/-- The window began less than `RATE_LIMIT_WINDOW` ago. -/
def Window.running (now : Nat) (window : Window) : Bool := now - window.start < rateLimitWindow

/-- Half an hour. -/
def halfAnHour : Nat := 1_800_000_000_000

namespace Attempts

/-- How many addresses are recorded. -/
def size (attempts : Attempts) : Nat := attempts.keys.length

/-- `retain`. -/
def retain (keep : Window → Bool) (attempts : Attempts) : Attempts where
  entries := attempts.entries.filter fun row => keep row.2
  nodupKeys := attempts.nodupKeys.sublist List.filter_sublist

/-- The first of the windows which began earliest. -/
def oldest (order : Iteration) (attempts : Attempts) : Option AttemptRow :=
  (order.list attempts.entries).argmin fun row => row.2.start

/-- The loop of `make_room`, every turn of which removes an entry. -/
def evict (order : Iteration) : Nat → Attempts → Attempts
  | 0, attempts => attempts
  | fuel + 1, attempts =>
      if maxEntries ≤ attempts.size then
        match attempts.oldest order with
        | none => attempts
        | some row => evict order fuel (attempts.erase row.1)
      else
        attempts

/-- Drop expired entries, then the oldest, until one insert fits. -/
def makeRoom (order : Iteration) (now : Nat) (attempts : Attempts) : Attempts :=
  let kept := attempts.retain (Window.running now)
  kept.evict order kept.size

/-- Count an attempt in the window recorded, or in a new one. -/
def count (now : Nat) (recorded : Option Window) : Window :=
  let entry := recorded.getD ⟨0, now⟩
  let entry := if rateLimitWindow < now - entry.start then ⟨0, now⟩ else entry
  { entry with attempts := entry.attempts + 1 }

/-- The map with room for the caller. -/
def ready (order : Iteration) (now : Nat) (ip : String) (attempts : Attempts) : Attempts :=
  if ip ∉ attempts ∧ maxEntries ≤ attempts.size then attempts.makeRoom order now else attempts

/-- `register_login_attempt`, which is false once the address is over the limit. -/
def registerLoginAttempt (order : Iteration) (now : Nat) (ip : String) (attempts : Attempts) :
    Bool × Attempts :=
  let attempts := attempts.ready order now ip
  let entry := count now (attempts.lookup ip)
  (decide (entry.attempts ≤ maxLoginAttempts), attempts.insert ip entry)

/-- `clear_failed_attempts`. -/
def clearFailedAttempts (ip : String) (attempts : Attempts) : Attempts := attempts.erase ip

variable {attempts : Attempts} {order : Iteration} {ip other : String} {now : Nat}
  {window : Window}

/-! ## Size of the map -/

theorem size_erase (listed : ip ∈ attempts) : size (attempts.erase ip) = attempts.size - 1 := by
  unfold size
  rw [AList.keys_erase]
  exact List.length_erase_of_mem (AList.mem_keys.mp listed)

theorem size_erase_le (attempts : Attempts) (ip : String) :
    size (attempts.erase ip) ≤ attempts.size := by
  unfold size
  rw [AList.keys_erase]
  exact List.length_erase_le

theorem size_insert_of_mem (listed : ip ∈ attempts) (window : Window) :
    size (attempts.insert ip window) = attempts.size := by
  have member : ip ∈ attempts.keys := AList.mem_keys.mp listed
  have positive : 0 < attempts.keys.length := List.length_pos_of_mem member
  unfold size
  rw [AList.keys_insert, List.length_cons, List.length_erase_of_mem member]
  omega

theorem size_insert_le (attempts : Attempts) (ip : String) (window : Window) :
    size (attempts.insert ip window) ≤ attempts.size + 1 := by
  unfold size
  rw [AList.keys_insert, List.length_cons]
  exact Nat.succ_le_succ List.length_erase_le

theorem mem_of_oldest {row : AttemptRow} (found : attempts.oldest order = some row) :
    row.1 ∈ attempts := by
  have listed : row ∈ order.list attempts.entries := List.argmin_mem found
  have recorded : row ∈ attempts.entries := (order.perm _).mem_iff.mp listed
  exact AList.mem_keys.mpr (List.mem_map_of_mem recorded)

theorem size_eq_zero_of_oldest (found : attempts.oldest order = none) : attempts.size = 0 := by
  have listed : order.list attempts.entries = [] := List.argmin_eq_none.mp found
  have permuted : List.Perm [] attempts.entries := listed ▸ order.perm attempts.entries
  simp [size, AList.keys, permuted.nil_eq.symm]

theorem size_evict (order : Iteration) (fuel : Nat) (attempts : Attempts)
    (enough : attempts.size < maxEntries + fuel) :
    (attempts.evict order fuel).size < maxEntries := by
  induction fuel generalizing attempts with
  | zero => exact enough
  | succ fuel ih =>
      rw [evict]
      split
      · rename_i full
        split
        · rename_i found
          have none_left := size_eq_zero_of_oldest found
          rw [none_left] at full
          exact absurd full (by decide)
        · rename_i row found
          have smaller := size_erase (mem_of_oldest found)
          have positive : 0 < maxEntries := by decide
          apply ih
          omega
      · rename_i room
        exact Nat.lt_of_not_le room

theorem size_makeRoom (order : Iteration) (now : Nat) (attempts : Attempts) :
    (attempts.makeRoom order now).size < maxEntries := by
  apply size_evict
  have positive : 0 < maxEntries := by decide
  omega

theorem size_register (bounded : attempts.size ≤ maxEntries) (order : Iteration) (now : Nat)
    (ip : String) : (attempts.registerLoginAttempt order now ip).2.size ≤ maxEntries := by
  have inserted := size_insert_le (attempts.ready order now ip) ip
    (count now ((attempts.ready order now ip).lookup ip))
  unfold registerLoginAttempt
  by_cases listed : ip ∈ attempts
  · have same : attempts.ready order now ip = attempts := if_neg fun full => full.1 listed
    rw [same]
    exact (size_insert_of_mem listed _).trans_le bounded
  · by_cases full : maxEntries ≤ attempts.size
    · have cleared : attempts.ready order now ip = attempts.makeRoom order now :=
        if_pos ⟨listed, full⟩
      have room := size_makeRoom order now attempts
      rw [cleared] at inserted ⊢
      exact inserted.trans room
    · have same : attempts.ready order now ip = attempts := if_neg fun full' => full full'.2
      rw [same] at inserted ⊢
      exact inserted.trans (Nat.lt_of_not_le full)

/-! ## Windows which outlive other keys' calls -/

/-- The addresses with a window recorded which began less than half an hour ago. -/
def runningKeys (now : Nat) (attempts : Attempts) : Finset String :=
  attempts.keys.toFinset.filter fun ip =>
    ∃ window ∈ attempts.lookup ip, now < window.start + halfAnHour

theorem mem_runningKeys : ip ∈ attempts.runningKeys now ↔
    ∃ window, attempts.lookup ip = some window ∧ now < window.start + halfAnHour := by
  rw [runningKeys, Finset.mem_filter, and_iff_right_of_imp]
  · rfl
  · rintro ⟨window, recorded, -⟩
    exact List.mem_toFinset.mpr (AList.mem_keys.mp (AList.lookup_isSome.mp (by
      rw [Option.mem_def.mp recorded]
      rfl)))

theorem running_iff : window.running now = true ↔ now < window.start + halfAnHour := by
  rw [Window.running, decide_eq_true_iff, rateLimitWindow, halfAnHour]
  omega

theorem lookup_retain_iff {keep : Window → Bool} :
    (attempts.retain keep).lookup ip = some window ↔
      attempts.lookup ip = some window ∧ keep window = true := by
  have recorded (attempts : Attempts) : attempts.lookup ip = some window ↔
      ⟨ip, window⟩ ∈ attempts.entries := AList.mem_lookup_iff
  rw [recorded, recorded]
  exact List.mem_filter

/-- Those are the windows which `make_room` does not take for expired. -/
theorem keys_retain_running (attempts : Attempts) (now : Nat) :
    (attempts.retain (Window.running now)).keys.toFinset = attempts.runningKeys now := by
  ext ip
  rw [List.mem_toFinset, ← AList.mem_keys, ← AList.lookup_isSome, Option.isSome_iff_exists,
    mem_runningKeys]
  exact exists_congr fun window => lookup_retain_iff.trans (and_congr_right' running_iff)

theorem evict_of_room (room : attempts.size < maxEntries) (fuel : Nat) :
    attempts.evict order fuel = attempts := by
  cases fuel with
  | zero => rfl
  | succ fuel => exact if_neg (Nat.not_le_of_lt room)

theorem lookup_of_evict (fuel : Nat) (attempts : Attempts)
    (kept : (attempts.evict order fuel).lookup ip = some window) :
    attempts.lookup ip = some window := by
  induction fuel generalizing attempts with
  | zero => exact kept
  | succ fuel ih =>
      rw [evict] at kept
      split at kept
      · split at kept
        · exact kept
        · rename_i row _
          have found := ih _ kept
          by_cases dropped : ip = row.1
          · rw [dropped, AList.lookup_erase] at found
            cases found
          · rwa [AList.lookup_erase_ne dropped] at found
      · exact kept

theorem lookup_of_ready (kept : (attempts.ready order now ip).lookup other = some window) :
    attempts.lookup other = some window := by
  unfold ready at kept
  split at kept
  · exact (lookup_retain_iff.mp (lookup_of_evict _ _ kept)).1
  · exact kept

/-- No window of the caller is dropped to make room for it. -/
theorem lookup_ready_self (attempts : Attempts) (order : Iteration) (now : Nat) (ip : String) :
    (attempts.ready order now ip).lookup ip = attempts.lookup ip := by
  by_cases full : ip ∉ attempts ∧ maxEntries ≤ attempts.size
  · have nothing := AList.lookup_eq_none.mpr full.1
    rw [nothing, Option.eq_none_iff_forall_ne_some]
    intro window kept
    rw [lookup_of_ready kept] at nothing
    cases nothing
  · rw [ready, if_neg full]

theorem count_of_le {entry : Window} (within : now - entry.start ≤ rateLimitWindow) :
    count now (some entry) = ⟨entry.attempts + 1, entry.start⟩ := by
  simp [count, Nat.not_lt.mpr within]

/-- A window begins where none is recorded that is not over. -/
theorem count_of_over {recorded : Option Window}
    (over_all : ∀ entry, recorded = some entry → rateLimitWindow < now - entry.start) :
    count now recorded = ⟨1, now⟩ := by
  cases recorded with
  | none => simp [count]
  | some entry => simp [count, over_all entry rfl]

theorem lookup_register (attempts : Attempts) (order : Iteration) (now : Nat) (ip : String) :
    (attempts.registerLoginAttempt order now ip).2.lookup ip =
      some (count now (attempts.lookup ip)) := by
  rw [registerLoginAttempt, AList.lookup_insert, lookup_ready_self]

theorem register_eq (attempts : Attempts) (order : Iteration) (now : Nat) (ip : String) :
    (attempts.registerLoginAttempt order now ip).1 =
      decide ((count now (attempts.lookup ip)).attempts ≤ maxLoginAttempts) := by
  rw [registerLoginAttempt, lookup_ready_self]

/-- Nothing still running is dropped for a caller the bound has room for. -/
theorem lookup_ready (uncrowded : (insert ip (attempts.runningKeys now)).card ≤ maxEntries)
    (found : attempts.lookup other = some window) (running : now < window.start + halfAnHour) :
    (attempts.ready order now ip).lookup other = some window := by
  unfold ready
  split
  · rename_i full
    have absent : ip ∉ attempts.runningKeys now := by
      intro present
      obtain ⟨own, recorded, -⟩ := mem_runningKeys.mp present
      exact full.1 (AList.lookup_isSome.mp (by simp [recorded]))
    rw [Finset.card_insert_of_notMem absent, ← keys_retain_running] at uncrowded
    have distinct : (attempts.retain (Window.running now)).keys.toFinset.card =
        (attempts.retain (Window.running now)).size :=
      List.toFinset_card_of_nodup (AList.keys_nodup _)
    have room : (attempts.retain (Window.running now)).size < maxEntries := by omega
    rw [makeRoom, evict_of_room room]
    exact lookup_retain_iff.mpr ⟨found, running_iff.mpr running⟩
  · exact found

end Attempts

/-! ## Runs -/

/-- What is called: an attempt, or a clear after a success. -/
inductive Action
  | register (order : Iteration)
  | clear

/-- A call on the limiter by a client address. -/
structure Call where
  now : Nat
  ip : String
  action : Action

/-- What a call comes to: an attempt which passes or does not, or a clear. -/
inductive Outcome
  | attempt (now : Nat) (passed : Bool)
  | clear
deriving DecidableEq

namespace Attempts

/-- The map after a call. -/
def after (attempts : Attempts) : Call → Attempts
  | ⟨now, ip, .register order⟩ => (attempts.registerLoginAttempt order now ip).2
  | ⟨_, ip, .clear⟩ => attempts.clearFailedAttempts ip

/-- What a call comes to. -/
def outcome (attempts : Attempts) : Call → Outcome
  | ⟨now, ip, .register order⟩ => .attempt now (attempts.registerLoginAttempt order now ip).1
  | ⟨_, _, .clear⟩ => .clear

/-- What the calls of one address come to, among those of all others. -/
def outcomes (ip : String) : Attempts → List Call → List Outcome
  | _, [] => []
  | attempts, call :: calls =>
      if call.ip = ip then attempts.outcome call :: outcomes ip (attempts.after call) calls
      else outcomes ip (attempts.after call) calls

end Attempts

/-- The limiter, and when it was last called. -/
structure Limiter where
  attempts : Attempts
  now : Nat

namespace Limiter

/-- Calls come at non-decreasing times. -/
def step (limiter : Limiter) (call : Call) : Option Limiter :=
  if limiter.now ≤ call.now then some ⟨limiter.attempts.after call, call.now⟩ else none

/-- Any calls, in any order. -/
def system : System Limiter Call where
  initial limiter := limiter.attempts = ∅
  step := step

/-- At most a thousand addresses have a window recorded which began less than half an hour ago, the
caller included. -/
def Uncrowded (limiter : Limiter) (call : Call) : Prop :=
  (insert call.ip (limiter.attempts.runningKeys call.now)).card ≤ 1000

instance (limiter : Limiter) (call : Call) : Decidable (limiter.Uncrowded call) :=
  inferInstanceAs (Decidable (_ ≤ _))

variable {limiter later after : Limiter} {call : Call} {ip : String} {now : Nat}
  {window : Window}

theorem size_le (reach : system.Reachable limiter) : limiter.attempts.size ≤ 1000 := by
  apply reach.invariant fun limiter => limiter.attempts.size ≤ 1000
  · intro limiter initial
    have nothing : limiter.attempts = ∅ := initial
    rw [nothing]
    exact Nat.zero_le _
  · intro before call after _ bounded _ performed
    obtain ⟨-, rfl⟩ := of_guarded performed
    obtain ⟨now, caller, action⟩ := call
    cases action with
    | register order => exact Attempts.size_register bounded order now caller
    | clear => exact (Attempts.size_erase_le _ caller).trans bounded

/-! ## The limiter of one address alone -/

/-- A limiter without a bound: it has a window for its one address, or none yet, and knows of no
other.  Whether a window of exactly half an hour is over is left open. -/
inductive Alone : Option Window → List Outcome → Prop
  | done (window : Option Window) : Alone window []
  | clear (window : Option Window) {rest : List Outcome} :
      Alone none rest → Alone window (.clear :: rest)
  | opens {window : Option Window} {now : Nat} {rest : List Outcome} :
      (∀ before, window = some before → before.start + halfAnHour ≤ now) →
      Alone (some ⟨1, now⟩) rest → Alone window (.attempt now true :: rest)
  | counts {window : Window} {now : Nat} {rest : List Outcome} :
      now ≤ window.start + halfAnHour →
      Alone (some ⟨window.attempts + 1, window.start⟩) rest →
      Alone (some window) (.attempt now (decide (window.attempts < 5)) :: rest)

/-- Attempts of one window, after so many others in it: five in all pass. -/
def attemptsFrom (made : Nat) (times : List Nat) : List Outcome :=
  times.mapIdx fun index now => .attempt now (decide (made + index < 5))

theorem attemptsFrom_cons (made now : Nat) (times : List Nat) :
    attemptsFrom made (now :: times) =
      .attempt now (decide (made < 5)) :: attemptsFrom (made + 1) times := by
  simp [attemptsFrom, Nat.add_assoc, Nat.add_comm 1]

/-- What is left of a window that began at a time ends there: with nothing more, with a clear, or
with an attempt half an hour later at least. -/
def Ends (start : Nat) (rest : List Outcome) : Prop :=
  ∀ now passed, rest.head? = some (.attempt now passed) → start + halfAnHour ≤ now

/-- Windows one after another, with clears in between: each begins with an attempt, its first five
attempts pass and no other, and it does not end within half an hour but with a clear. -/
inductive Windows : List Outcome → Prop
  | nil : Windows []
  | clear {rest : List Outcome} : Windows rest → Windows (.clear :: rest)
  | window {start : Nat} {times : List Nat} {rest : List Outcome} :
      (∀ now ∈ times, now ≤ start + halfAnHour) → Ends start rest → Windows rest →
      Windows (attemptsFrom 0 (start :: times) ++ rest)

/-- What is left of a window, and what comes after it. -/
def Remains (window : Window) (outcomes : List Outcome) : Prop :=
  ∃ times rest, outcomes = attemptsFrom window.attempts times ++ rest ∧
    (∀ now ∈ times, now ≤ window.start + halfAnHour) ∧ Ends window.start rest ∧ Windows rest

theorem Windows.opens {rest : List Outcome} (remains : Remains ⟨1, now⟩ rest) :
    Windows (.attempt now true :: rest) := by
  obtain ⟨times, later, rfl, within, ends, windows⟩ := remains
  have begun := Windows.window within ends windows
  rwa [attemptsFrom_cons, List.cons_append] at begun

/-- Alone, an address passes five attempts in each window. -/
theorem Alone.windows {state : Option Window} {outcomes : List Outcome}
    (alone : Alone state outcomes) :
    match state with
    | none => Windows outcomes
    | some window => Remains window outcomes := by
  induction alone with
  | done state =>
      cases state with
      | none => exact .nil
      | some window => exact ⟨[], [], rfl, nofun, nofun, .nil⟩
  | clear state _ ih =>
      cases state with
      | none => exact .clear ih
      | some window => exact ⟨[], _, rfl, nofun, nofun, .clear ih⟩
  | @opens state now rest past _ ih =>
      cases state with
      | none => exact .opens ih
      | some window =>
          refine ⟨[], _, rfl, nofun, ?_, .opens ih⟩
          intro later passed head
          obtain ⟨rfl, -⟩ := Outcome.attempt.inj (Option.some.inj head)
          exact past window rfl
  | @counts window now rest within _ ih =>
      obtain ⟨times, later, rfl, others, ends, windows⟩ := ih
      refine ⟨now :: times, later, ?_, List.forall_mem_cons.mpr ⟨within, others⟩, ends, windows⟩
      rw [attemptsFrom_cons, List.cons_append]

/-! ## The bounded limiter agrees with it -/

/-- The window of an address is recorded, but may have been dropped once it is over. -/
def Recorded (ip : String) (limiter : Limiter) : Option Window → Prop
  | none => limiter.attempts.lookup ip = none
  | some window =>
      limiter.attempts.lookup ip = some window ∨
        limiter.attempts.lookup ip = none ∧ window.start + halfAnHour ≤ limiter.now

theorem Recorded.other {state : Option Window} (recorded : Recorded ip limiter state)
    (uncrowded : limiter.Uncrowded call) (different : call.ip ≠ ip)
    (performed : limiter.step call = some after) : Recorded ip after state := by
  obtain ⟨ordered, rfl⟩ := of_guarded performed
  obtain ⟨now, caller, action⟩ := call
  have other : ip ≠ caller := different.symm
  change limiter.now ≤ now at ordered
  cases action with
  | clear =>
      have same : (limiter.attempts.clearFailedAttempts caller).lookup ip =
          limiter.attempts.lookup ip := AList.lookup_erase_ne other
      cases state with
      | none => exact same.trans recorded
      | some window =>
          exact recorded.imp same.trans fun dropped =>
            ⟨same.trans dropped.1, dropped.2.trans ordered⟩
  | register order =>
      have same : (limiter.attempts.registerLoginAttempt order now caller).2.lookup ip =
          (limiter.attempts.ready order now caller).lookup ip := AList.lookup_insert_ne other
      have absent (nothing : limiter.attempts.lookup ip = none) :
          (limiter.attempts.ready order now caller).lookup ip = none := by
        rw [Option.eq_none_iff_forall_ne_some]
        intro window kept
        rw [Attempts.lookup_of_ready kept] at nothing
        cases nothing
      cases state with
      | none => exact same.trans (absent recorded)
      | some window =>
          rcases recorded with recorded | ⟨nothing, past⟩
          · by_cases running : now < window.start + halfAnHour
            · exact Or.inl (same.trans (Attempts.lookup_ready uncrowded recorded running))
            · cases kept : (limiter.attempts.ready order now caller).lookup ip with
              | none => exact Or.inr ⟨same.trans kept, Nat.le_of_not_lt running⟩
              | some found =>
                  have found_eq := (Attempts.lookup_of_ready kept).symm.trans recorded
                  exact Or.inl (same.trans (kept.trans found_eq))
          · exact Or.inr ⟨same.trans (absent nothing), past.trans ordered⟩

/-- An attempt of the address itself is one which it could make alone. -/
theorem Recorded.attempt {state : Option Window} (recorded : Recorded ip limiter state)
    (ordered : limiter.now ≤ now) (order : Iteration) {rest : List Outcome}
    (follows : ∀ next, Recorded ip
      ⟨(limiter.attempts.registerLoginAttempt order now ip).2, now⟩ next → Alone next rest) :
    Alone state
      (.attempt now (limiter.attempts.registerLoginAttempt order now ip).1 :: rest) := by
  have recorded_next : Recorded ip
      ⟨(limiter.attempts.registerLoginAttempt order now ip).2, now⟩
        (some (Attempts.count now (limiter.attempts.lookup ip))) :=
    Or.inl (Attempts.lookup_register limiter.attempts order now ip)
  have counted := follows _ recorded_next
  rw [Attempts.register_eq]
  have opens
      (past : ∀ entry, limiter.attempts.lookup ip = some entry →
        rateLimitWindow < now - entry.start)
      (over_alone : ∀ before, state = some before → before.start + halfAnHour ≤ now) :
      Alone state (.attempt now
        (decide ((Attempts.count now (limiter.attempts.lookup ip)).attempts ≤ maxLoginAttempts)) ::
          rest) := by
    rw [Attempts.count_of_over past] at counted ⊢
    exact .opens over_alone counted
  cases state with
  | none =>
      have nothing : limiter.attempts.lookup ip = none := recorded
      apply opens
      · simp [nothing]
      · nofun
  | some window =>
      rcases recorded with found | ⟨nothing, past⟩
      · by_cases within : now - window.start ≤ rateLimitWindow
        · rw [found, Attempts.count_of_le within] at counted ⊢
          refine .counts ?_ counted
          simp only [rateLimitWindow] at within
          simp only [halfAnHour]
          omega
        · apply opens
          · rintro entry same
            obtain rfl := Option.some.inj (found.symm.trans same)
            omega
          · intro before same
            obtain rfl := Option.some.inj same
            simp only [rateLimitWindow] at within
            simp only [halfAnHour]
            omega
      · apply opens
        · simp [nothing]
        · intro before same
          obtain rfl := Option.some.inj same
          exact past.trans ordered

/-- Whatever the others do, what the calls of an address come to is what they could alone. -/
theorem Recorded.run {calls : List Call} {state : Option Window}
    (recorded : Recorded ip limiter state) (uncrowded : system.Admits Uncrowded limiter calls)
    (execution : system.run limiter calls = some later) :
    Alone state (limiter.attempts.outcomes ip calls) := by
  induction calls generalizing limiter state with
  | nil => exact .done state
  | cons call calls ih =>
      obtain ⟨admitted, others⟩ := uncrowded
      obtain ⟨next, performed, remaining⟩ := System.run_cons_eq_some.mp execution
      have follows (state : Option Window) (recorded : Recorded ip next state) :
          Alone state (next.attempts.outcomes ip calls) :=
        ih recorded (others next performed) remaining
      rw [Attempts.outcomes]
      split
      · rename_i own
        obtain ⟨ordered, rfl⟩ := of_guarded performed
        obtain ⟨now, caller, action⟩ := call
        obtain rfl : caller = ip := own
        cases action with
        | register order => exact recorded.attempt ordered order follows
        | clear => exact .clear state (follows none (AList.lookup_erase _ _))
      · rename_i different
        have same := follows state (recorded.other admitted different performed)
        obtain ⟨-, rfl⟩ := of_guarded performed
        exact same

/-- The map stays within its bound.  And however the calls of the addresses are mixed, clears
included, what those of each come to is what they would with a limiter for it alone: in each of its
windows five attempts pass, the first ones, provided that the windows which are still running have
fitted into the map at each call. -/
theorem five_attempts_pass :
    (∀ {limiter : Limiter}, system.Reachable limiter → limiter.attempts.size ≤ 1000) ∧
      ∀ {first later : Limiter} {calls : List Call}, system.initial first →
        system.Admits Uncrowded first calls → system.run first calls = some later →
        ∀ ip, Alone none (first.attempts.outcomes ip calls) ∧
          Windows (first.attempts.outcomes ip calls) := by
  refine ⟨size_le, ?_⟩
  intro first later calls initial uncrowded execution ip
  have nothing : first.attempts = ∅ := initial
  have recorded : Recorded ip first none := by
    rw [Recorded, nothing]
    rfl
  have alone := recorded.run uncrowded execution
  exact ⟨alone, alone.windows⟩

private def inOrder : Iteration := ⟨id, fun _ => List.Perm.refl _⟩

private def idle : Limiter := ⟨∅, 0⟩

/-- Attempts of one address, with another's in between, and a clear after the sixth. -/
private def mixed : List Call :=
  [⟨0, "192.0.2.7", .register inOrder⟩, ⟨1, "192.0.2.7", .register inOrder⟩,
    ⟨2, "198.51.100.9", .register inOrder⟩, ⟨3, "192.0.2.7", .register inOrder⟩,
    ⟨4, "192.0.2.7", .register inOrder⟩, ⟨5, "192.0.2.7", .register inOrder⟩,
    ⟨6, "198.51.100.9", .clear⟩, ⟨7, "192.0.2.7", .register inOrder⟩,
    ⟨8, "192.0.2.7", .clear⟩, ⟨9, "192.0.2.7", .register inOrder⟩]

theorem mixed_pass :
    Attempts.outcomes "192.0.2.7" ∅ mixed =
        [.attempt 0 true, .attempt 1 true, .attempt 3 true, .attempt 4 true, .attempt 5 true,
          .attempt 7 false, .clear, .attempt 9 true] ∧
      Windows (Attempts.outcomes "192.0.2.7" ∅ mixed) :=
  ⟨by decide,
    (five_attempts_pass.2 (show system.initial idle from rfl) (by decide)
      (Option.some_get rfl).symm _).2⟩

end Limiter

end Togewire.Server
