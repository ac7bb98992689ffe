import Mathlib.Tactic.TypeStar

/-!
# Readers

A reader takes a value off the front of a list of tokens, or fails and takes nothing.  A reader
stays within a class of tokens if it takes no other ones, and a list which is read whole has then
no other ones.
-/

namespace Reading

variable {τ α β : Type}

/-- What reads the front of a list, or fails. -/
abbrev Reader (τ : Type) := StateT (List τ) Option

/-- Take a token, if it is the one expected. -/
def given [DecidableEq τ] (expected : τ) : Reader τ Unit
  | [] => none
  | token :: rest => if token = expected then some ((), rest) else none

/-- The value of a list which is read whole. -/
def whole (reader : Reader τ α) (tokens : List τ) : Option α :=
  match reader tokens with
  | some (value, []) => some value
  | _ => none

/-- The tokens a reader takes are in a class. -/
structure Within (good : τ → Prop) (reader : Reader τ α) : Prop where
  taken {tokens : List τ} {value : α} {rest : List τ} : reader tokens = some (value, rest) →
    ∃ taken, tokens = taken ++ rest ∧ ∀ token ∈ taken, good token

variable {good : τ → Prop} {reader another : Reader τ α} {next : α → Reader τ β}

theorem bind_of_eq_some {tokens rest : List τ} {value : α}
    (read : reader tokens = some (value, rest)) : (reader >>= next) tokens = next value rest := by
  show (reader tokens).bind _ = _
  rw [read]
  rfl

theorem Within.pure (value : α) : Within good (Pure.pure value : Reader τ α) := by
  constructor
  intro tokens result rest read
  obtain ⟨rfl, rfl⟩ := Prod.mk.inj (Option.some.inj read)
  exact ⟨[], rfl, nofun⟩

theorem Within.failure : Within good (failure : Reader τ α) := ⟨nofun⟩

theorem Within.given [DecidableEq τ] {expected : τ} (accepted : good expected) :
    Within good (given expected) := by
  constructor
  intro tokens value rest read
  cases tokens with
  | nil => cases read
  | cons token tokens =>
      obtain ⟨rfl, same⟩ := Option.ite_none_right_eq_some.mp read
      obtain ⟨-, rfl⟩ := Prod.mk.inj (Option.some.inj same)
      exact ⟨[token], rfl, by simpa using accepted⟩

theorem Within.bind (first : Within good reader) (second : ∀ value, Within good (next value)) :
    Within good (reader >>= next) := by
  constructor
  intro tokens result rest read
  obtain ⟨⟨value, middle⟩, begun, continued⟩ := Option.bind_eq_some_iff.mp read
  obtain ⟨front, rfl, front_good⟩ := first.taken begun
  obtain ⟨back, rfl, back_good⟩ := (second value).taken continued
  exact ⟨front ++ back, (List.append_assoc _ _ _).symm,
    List.forall_mem_append.mpr ⟨front_good, back_good⟩⟩

theorem Within.orElse (first : Within good reader) (second : Within good another) :
    Within good (reader <|> another) := by
  constructor
  intro tokens value rest read
  change (reader tokens <|> another tokens) = _ at read
  cases attempt : reader tokens with
  | none => exact second.taken (by simpa [attempt] using read)
  | some taken => exact first.taken (attempt.trans (by simpa [attempt] using read))

theorem Within.ite {condition : Prop} [Decidable condition] (first : Within good reader)
    (second : Within good another) : Within good (if condition then reader else another) := by
  split
  · exact first
  · exact second

/-- A list which is read whole has only tokens of the class. -/
theorem Within.forall_mem_of_whole (within : Within good reader) {tokens : List τ} {value : α}
    (read : whole reader tokens = some value) : ∀ token ∈ tokens, good token := by
  unfold whole at read
  split at read
  · rename_i taken
    obtain ⟨front, rfl, front_good⟩ := within.taken taken
    simpa using front_good
  · cases read

end Reading
