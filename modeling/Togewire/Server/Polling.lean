import Togewire.Foundation.Potential
import Togewire.Server.Workers

/-!
# How often Spotify is polled

Towards the end of a track the monitor polls fast, so as not to miss the next one.  What a track
may cost is its allowance near the end and the fast polls left over from before.
-/

namespace Togewire.Server

open Register Potential

/-! ## Checked counters -/

/-- A sum in a 32-bit counter. -/
def checkedAdd (count more : Nat) : Option Nat :=
  if count + more < 2 ^ 32 then some (count + more) else none

/-- A difference of unsigned numbers, if there is one. -/
def checkedSub (count less : Nat) : Option Nat :=
  if less ≤ count then some (count - less) else none

/-- The interval to the next poll where an overflow of any of its sums and differences is caught. -/
def computePollIntervalChecked (isPlaying : Bool) (duration progress : Int)
    (nearEndPolls fastPolls : Nat) : Option (Nat × Nat × Nat) := do
  let remaining ← if Fits (duration - progress) then some (duration - progress) else none
  let nearEnd := isPlaying ∧ 0 < duration ∧ (0 ≤ remaining ∧ remaining ≤ 2500) ∧ nearEndPolls < 8
  let nearEndPolls ←
    if nearEnd then
      checkedAdd nearEndPolls 1
    else if ¬(-1000 ≤ remaining ∧ remaining ≤ 2500) then
      some 0
    else
      some nearEndPolls
  if isPlaying = false then
    some (pollIntervalIdle, 0, fastPolls)
  else if nearEnd then
    some (pollIntervalFast, nearEndPolls, fastPolls)
  else if 0 < fastPolls then do
    let fastPolls ← checkedSub fastPolls 1
    some (pollIntervalFast, nearEndPolls, fastPolls)
  else
    some (pollIntervalSteady, nearEndPolls, fastPolls)

/-! ## One call -/

/-- What remains of a track. -/
def remaining (duration progress : Int) : Int := wrap (duration - progress)

/-- The polls near the end that are left at a position. -/
def allowance (duration progress : Int) (nearEndPolls : Nat) : Nat :=
  if 2500 < remaining duration progress then 8
  else if 0 ≤ remaining duration progress then 8 - nearEndPolls
  else 0

/-- A call while the track is playing, with `near_end_polls` and `fast_polls`. -/
def playingCall (duration : Int) (polls : Nat × Nat) (progress : Int) : Nat × Nat × Nat :=
  computePollInterval true duration progress polls.1 polls.2

/-- One call for a playing track, whose numbers have to stay in their ranges. -/
def playingCallChecked (duration : Int) (polls : Nat × Nat) (progress : Int) :
    Option (Nat × Nat × Nat) :=
  computePollIntervalChecked true duration progress polls.1 polls.2

/-- The position is between the beginning of the band near the end and the end of the hold band. -/
def Held (duration progress : Int) : Prop :=
  -1000 ≤ remaining duration progress ∧ remaining duration progress ≤ 2500

/-- The fast polls a track may still cost. -/
def reserve (duration progress : Int) (polls : Nat × Nat) : Nat :=
  polls.2 + allowance duration progress polls.1

theorem steady_ne_fast : ¬(pollIntervalSteady == pollIntervalFast) = true := by decide

section Call

variable {duration progress later : Int} {polls : Nat × Nat}

/-- A call polls near the end, spends a fast poll, or waits. -/
theorem playingCall_cases (duration progress : Int) (polls : Nat × Nat) :
    (0 ≤ remaining duration progress ∧ remaining duration progress ≤ 2500 ∧ polls.1 < 8 ∧
      playingCall duration polls progress = (pollIntervalFast, polls.1 + 1, polls.2)) ∨
    ∃ nearEndPolls,
      (nearEndPolls = polls.1 ∨ nearEndPolls = 0 ∧ ¬ Held duration progress) ∧
      (0 < polls.2 ∧ playingCall duration polls progress =
          (pollIntervalFast, nearEndPolls, polls.2 - 1) ∨
        polls.2 = 0 ∧ playingCall duration polls progress =
          (pollIntervalSteady, nearEndPolls, polls.2)) := by
  simp only [playingCall, computePollInterval, Held, remaining]
  grind

theorem playingCall_capped (capped : polls.1 ≤ 8) :
    (playingCall duration polls progress).2.1 ≤ 8 := by
  rcases playingCall_cases duration progress polls with
    ⟨-, -, below, call⟩ | ⟨nearEndPolls, moved, ⟨-, call⟩ | ⟨-, call⟩⟩
  · rw [call]
    exact below
  · rw [call]
    show nearEndPolls ≤ 8
    omega
  · rw [call]
    show nearEndPolls ≤ 8
    omega

/-- What is left does not grow as the track moves on. -/
theorem reserve_le (capped : polls.1 ≤ 8)
    (moves : remaining duration later ≤ remaining duration progress) :
    reserve duration later polls ≤ reserve duration progress polls := by
  unfold reserve allowance
  split_ifs <;> omega

theorem playingCall_pays (capped : polls.1 ≤ 8) :
    (if (playingCall duration polls progress).1 == pollIntervalFast then 1 else 0) +
        reserve duration progress (playingCall duration polls progress).2 ≤
      reserve duration progress polls := by
  rcases playingCall_cases duration progress polls with
    ⟨lower, upper, below, call⟩ | ⟨nearEndPolls, moved, ⟨left, call⟩ | ⟨-, call⟩⟩
  · have spent : allowance duration progress (polls.1 + 1) + 1 =
        allowance duration progress polls.1 := by
      rw [allowance, allowance, if_neg (by omega), if_pos lower, if_neg (by omega), if_pos lower]
      omega
    rw [call, if_pos (beq_self_eq_true pollIntervalFast)]
    show 1 + (polls.2 + allowance duration progress (polls.1 + 1)) ≤
      polls.2 + allowance duration progress polls.1
    omega
  all_goals
    have kept : allowance duration progress nearEndPolls = allowance duration progress polls.1 := by
      rcases moved with rfl | ⟨rfl, outside⟩
      · rfl
      · unfold allowance
        unfold Held at outside
        split_ifs <;> omega
  · rw [call, if_pos (beq_self_eq_true pollIntervalFast)]
    show 1 + (polls.2 - 1 + allowance duration progress nearEndPolls) ≤
      polls.2 + allowance duration progress polls.1
    omega
  · rw [call, if_neg steady_ne_fast]
    show 0 + (polls.2 + allowance duration progress nearEndPolls) ≤
      polls.2 + allowance duration progress polls.1
    omega

/-- No call of a capped counter leaves the range of its numbers. -/
theorem playingCallChecked_eq (range : Fits (duration - progress)) (capped : polls.1 ≤ 8) :
    playingCallChecked duration polls progress = some (playingCall duration polls progress) := by
  simp only [playingCallChecked, computePollIntervalChecked, playingCall, computePollInterval,
    wrap_of_fits range, if_pos range, checkedAdd, checkedSub]
  grind

end Call

/-! ## A whole track -/

/-- However long a track is polled for, at most eight fast polls come on top of those left over, and
no counter leaves its range. -/
theorem fast_polls_bounded {duration : Int} {fastPolls : Nat} {positions : List Int}
    (lasts : 0 ≤ duration) (fits : Fits duration)
    (played : ∀ progress ∈ positions, 0 ≤ progress ∧ Fits progress)
    (onward : positions.Pairwise (· ≤ ·)) :
    (calls (playingCall duration) (0, fastPolls) positions).countP
        (fun call => call.1 == pollIntervalFast) ≤ 8 + fastPolls ∧
      (∀ call ∈ calls (playingCall duration) (0, fastPolls) positions, call.2.1 ≤ 8) ∧
      attempts (playingCallChecked duration) (0, fastPolls) positions =
        some (calls (playingCall duration) (0, fastPolls) positions) := by
  have range : ∀ progress ∈ positions, Fits (duration - progress) := by
    intro progress member
    obtain ⟨positive, -, upper⟩ := played progress member
    obtain ⟨-, short⟩ := fits
    constructor <;> omega
  have keeps : ∀ (polls : Nat × Nat) progress, polls.1 ≤ 8 →
      (playingCall duration polls progress).2.1 ≤ 8 := fun polls progress => playingCall_capped
  refine ⟨?_, holds_of_mem_calls keeps (Nat.zero_le 8), attempts_eq keeps ?_ (Nat.zero_le 8)⟩
  · have start : remaining duration 0 = duration := by
      rw [remaining, Int.sub_zero, wrap_of_fits fits]
    have chain : (0 :: positions).Pairwise
        fun progress later => remaining duration later ≤ remaining duration progress := by
      apply List.pairwise_cons.mpr
      constructor
      · intro progress member
        have positive := (played progress member).1
        rw [start, remaining, wrap_of_fits (range progress member)]
        omega
      · apply onward.imp_of_mem
        intro progress later here there moves
        rw [remaining, remaining, wrap_of_fits (range progress here),
          wrap_of_fits (range later there)]
        omega
    have paid : (calls (playingCall duration) (0, fastPolls) positions).countP
        (fun call => call.1 == pollIntervalFast) ≤ reserve duration 0 (0, fastPolls) := by
      apply countP_calls_le (· == pollIntervalFast) keeps _ _ (Nat.zero_le 8) chain
      · intro polls progress capped
        exact playingCall_pays capped
      · intro polls progress later capped moves
        exact reserve_le capped moves
    have most : allowance duration 0 0 ≤ 8 := by
      unfold allowance
      split_ifs <;> omega
    calc
      (calls (playingCall duration) (0, fastPolls) positions).countP
          (fun call => call.1 == pollIntervalFast)
        ≤ fastPolls + allowance duration 0 0 := paid
      _ ≤ 8 + fastPolls := by omega
  · intro polls capped progress member
    exact playingCallChecked_eq (range progress member) capped

/-- A position stuck at the end of a track. -/
theorem stuck_polls_bounded :
    (calls (playingCall 3000) (0, 2) (List.replicate 20 3000)).countP
        (fun call => call.1 == pollIntervalFast) ≤ 8 + 2 ∧
      (∀ call ∈ calls (playingCall 3000) (0, 2) (List.replicate 20 3000), call.2.1 ≤ 8) ∧
      attempts (playingCallChecked 3000) (0, 2) (List.replicate 20 3000) =
        some (calls (playingCall 3000) (0, 2) (List.replicate 20 3000)) := by
  apply fast_polls_bounded
  · decide
  · decide
  · intro progress member
    rw [List.eq_of_mem_replicate member]
    decide
  · exact List.pairwise_replicate_of_refl

end Togewire.Server
