import Mathlib.Algebra.Order.Ring.Int

/-!
# Two's-complement registers

Release builds wrap signed 64-bit arithmetic, so sums and differences are taken over the integers
and brought back into range.
-/

namespace Register

/-- The value a signed 64-bit register keeps of an integer. -/
def wrap (value : Int) : Int := value.bmod (2 ^ 64)

/-- An integer is within the range of a signed 64-bit register. -/
def Fits (value : Int) : Prop := -2 ^ 63 ≤ value ∧ value < 2 ^ 63

instance (value : Int) : Decidable (Fits value) := inferInstanceAs (Decidable (_ ∧ _))

theorem wrap_of_fits {value : Int} (fits : Fits value) : wrap value = value := by
  obtain ⟨lower, upper⟩ := fits
  apply Int.bmod_eq_of_le <;> omega

theorem fits_wrap (value : Int) : Fits (wrap value) := by
  have lower := Int.le_bmod (x := value) (m := 2 ^ 64) (by decide)
  have upper := Int.bmod_lt (x := value) (m := 2 ^ 64) (by decide)
  unfold Fits wrap
  omega

/-- Wrapping early makes no difference to a sum. -/
theorem wrap_wrap_add (value other : Int) : wrap (wrap value + other) = wrap (value + other) :=
  Int.bmod_add_bmod

end Register
