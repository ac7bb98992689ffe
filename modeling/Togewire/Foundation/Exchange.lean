import Mathlib.Logic.Function.Basic

/-!
# Numbered calls

Parties which call one another number their calls.  A call is taken once, and answered by whoever
has taken it.  Its caller may rely on whatever every answer vouches for when it is given, provided
that it stays true.
-/

/-- The calls which have been made. -/
structure Exchange (ρ α : Type) where
  size : Nat := 0
  request : Nat → Option ρ := fun _ => none
  taken : Nat → Bool := fun _ => false
  answer : Nat → Option α := fun _ => none

namespace Exchange

variable {ρ α : Type}

/-- A request is sent, and waits to be taken. -/
def send (exchange : Exchange ρ α) (request : ρ) : Exchange ρ α :=
  { exchange with
    size := exchange.size + 1
    request := Function.update exchange.request exchange.size (some request) }

/-- A request is taken, once only. -/
def take (exchange : Exchange ρ α) (number : Nat) : Option (ρ × Exchange ρ α) :=
  if exchange.taken number then
    none
  else
    (exchange.request number).map fun request =>
      (request, { exchange with taken := Function.update exchange.taken number true })

/-- A request is answered. -/
def reply (exchange : Exchange ρ α) (number : Nat) (answer : α) : Exchange ρ α :=
  { exchange with answer := Function.update exchange.answer number (some answer) }

/-- Only calls which were made are answered, and every answer vouches for something. -/
structure Honest (vouches : ρ → α → Prop) (exchange : Exchange ρ α) : Prop where
  unsent : ∀ number, exchange.size ≤ number → exchange.request number = none
  answered : ∀ number answer, exchange.answer number = some answer →
    ∃ request, exchange.request number = some request ∧ vouches request answer

variable {exchange after : Exchange ρ α} {vouches weaker : ρ → α → Prop} {request : ρ} {answer : α}
  {number : Nat}

theorem honest_new : Honest vouches ({} : Exchange ρ α) := ⟨fun _ _ => rfl, by simp⟩

theorem Honest.mono (honest : exchange.Honest vouches)
    (implied : ∀ request answer, vouches request answer → weaker request answer) :
    exchange.Honest weaker where
  unsent := honest.unsent
  answered number answer given := by
    obtain ⟨request, sent, vouched⟩ := honest.answered number answer given
    exact ⟨request, sent, implied request answer vouched⟩

theorem Honest.request_send (honest : exchange.Honest vouches) (another : ρ)
    (sent : exchange.request number = some request) :
    (exchange.send another).request number = some request := by
  have old : number ≠ exchange.size := by
    rintro rfl
    exact absurd (sent.symm.trans (honest.unsent _ (Nat.le_refl _))) (by simp)
  simpa [send, old] using sent

theorem request_send_self (exchange : Exchange ρ α) (request : ρ) :
    (exchange.send request).request exchange.size = some request := by
  simp [send]

theorem Honest.send (honest : exchange.Honest vouches) (request : ρ) :
    (exchange.send request).Honest vouches where
  unsent number later := by
    have different : number ≠ exchange.size := by
      have beyond : exchange.size + 1 ≤ number := later
      omega
    simpa [Exchange.send, different] using honest.unsent number (Nat.le_of_succ_le later)
  answered number answer given := by
    obtain ⟨asked, sent, vouched⟩ := honest.answered number answer given
    exact ⟨asked, honest.request_send request sent, vouched⟩

theorem take_cases (took : exchange.take number = some (request, after)) :
    exchange.request number = some request ∧
      after = { exchange with taken := Function.update exchange.taken number true } := by
  unfold take at took
  split at took
  · cases took
  · obtain ⟨asked, sent, same⟩ := Option.map_eq_some_iff.mp took
    obtain ⟨rfl, rfl⟩ := Prod.mk.inj same
    exact ⟨sent, rfl⟩

theorem Honest.take (honest : exchange.Honest vouches)
    (took : exchange.take number = some (request, after)) : after.Honest vouches := by
  obtain ⟨-, rfl⟩ := take_cases took
  exact ⟨honest.unsent, honest.answered⟩

theorem Honest.reply (honest : exchange.Honest vouches)
    (sent : exchange.request number = some request) (vouched : vouches request answer) :
    (exchange.reply number answer).Honest vouches where
  unsent := honest.unsent
  answered other given same := by
    by_cases this : other = number
    · subst this
      obtain rfl : answer = given := by simpa [Exchange.reply] using same
      exact ⟨request, sent, vouched⟩
    · exact honest.answered other given (by simpa [Exchange.reply, this] using same)

end Exchange
