import Mathlib.Data.List.Basic
import Mathlib.Data.List.Count

/-!
# Calls paid for by a potential

A function with counters of its own is called over and over.  Where each charged call takes at
least one off a potential which the order of the inputs never raises, a run of any length has no
more charged calls than the potential it starts with.
-/

namespace Potential

variable {σ ι ω : Type*} {step : σ → ι → ω × σ} {check : σ → ι → Option (ω × σ)}
  {holds : σ → Prop} {ordered : ι → ι → Prop} {potential : ι → σ → Nat}
  {state : σ} {input : ι} {inputs : List ι}

/-- The outcome and the counters of each call. -/
def calls (step : σ → ι → ω × σ) : σ → List ι → List (ω × σ)
  | _, [] => []
  | state, input :: inputs => step state input :: calls step (step state input).2 inputs

/-- The calls of a function which may fail. -/
def attempts (check : σ → ι → Option (ω × σ)) : σ → List ι → Option (List (ω × σ))
  | _, [] => some []
  | state, input :: inputs =>
      (check state input).bind fun call => (attempts check call.2 inputs).map (call :: ·)

/-- What every call keeps holds after each. -/
theorem holds_of_mem_calls (keeps : ∀ state input, holds state → holds (step state input).2)
    (start : holds state) : ∀ call ∈ calls step state inputs, holds call.2 := by
  induction inputs generalizing state with
  | nil => simp [calls]
  | cons input inputs ih =>
      rw [calls, List.forall_mem_cons]
      constructor
      · exact keeps state input start
      · exact ih (keeps state input start)

/-- A check which no call fails changes nothing. -/
theorem attempts_eq (keeps : ∀ state input, holds state → holds (step state input).2)
    (passes : ∀ state, holds state → ∀ input ∈ inputs,
      check state input = some (step state input)) (start : holds state) :
    attempts check state inputs = some (calls step state inputs) := by
  induction inputs generalizing state with
  | nil => rfl
  | cons input inputs ih =>
      have first := passes state start input List.mem_cons_self
      have rest := ih (fun state held other member =>
        passes state held other (List.mem_cons_of_mem input member)) (keeps state input start)
      rw [attempts, first, Option.bind_some, rest, Option.map_some, calls]

/-- No more calls are charged than the potential pays for. -/
theorem countP_calls_le (charged : ω → Bool)
    (keeps : ∀ state input, holds state → holds (step state input).2)
    (pays : ∀ state input, holds state →
      (if charged (step state input).1 then 1 else 0) + potential input (step state input).2 ≤
        potential input state)
    (falls : ∀ state input next, holds state → ordered input next →
      potential next state ≤ potential input state)
    (start : holds state) (chain : (input :: inputs).Pairwise ordered) :
    (calls step state inputs).countP (fun call => charged call.1) ≤ potential input state := by
  induction inputs generalizing state input with
  | nil => simp [calls]
  | cons next inputs ih =>
      obtain ⟨earlier, later⟩ := List.pairwise_cons.mp chain
      have down := falls state input next start (earlier next List.mem_cons_self)
      have paid := pays state next start
      have rest := ih (keeps state next start) later
      rw [calls, List.countP_cons]
      omega

end Potential
