import Mathlib.Logic.Function.Basic

/-!
# Digits of a number

A number is determined by its digits in a base of at most sixteen.
-/

namespace Digits

variable {base number : Nat} {char : Char}

theorem digitChar_inj {first second : Nat} (lower : first < 16) (upper : second < 16)
    (same : first.digitChar = second.digitChar) : first = second := by
  have digits : ∀ first second : Fin 16, first.val.digitChar = second.val.digitChar →
      first = second := by decide
  exact congrArg Fin.val (digits ⟨first, lower⟩ ⟨second, upper⟩ same)

theorem singleton_ne_append {first last : Char} : [first] ≠ Nat.toDigits base number ++ [last] := by
  intro same
  have longer := congrArg List.length same
  have positive : 0 < (Nat.toDigits base number).length := Nat.length_toDigits_pos
  simp only [List.length_singleton, List.length_append] at longer
  omega

theorem toDigits_injective (above : 1 < base) (small : base ≤ 16) :
    Function.Injective (Nat.toDigits base) := by
  intro first
  induction first using Nat.strongRecOn with
  | ind first ih =>
      intro second same
      rw [Nat.toDigits_eq_if (n := first) above, Nat.toDigits_eq_if (n := second) above] at same
      split at same <;> split at same
      · exact digitChar_inj (by omega) (by omega) (List.singleton_inj.mp same)
      · exact absurd same singleton_ne_append
      · exact absurd same.symm singleton_ne_append
      · obtain ⟨quotients, remainders⟩ := List.append_inj' same rfl
        have positive : 0 < base := by omega
        have smaller : first / base < first := Nat.div_lt_self (by omega) above
        have quotient := ih (first / base) smaller quotients
        have lower := Nat.lt_of_lt_of_le (Nat.mod_lt first positive) small
        have upper := Nat.lt_of_lt_of_le (Nat.mod_lt second positive) small
        have remainder := digitChar_inj lower upper (List.singleton_inj.mp remainders)
        rw [← Nat.div_add_mod first base, quotient, remainder, Nat.div_add_mod]

theorem mem_toDigits (above : 1 < base) (member : char ∈ Nat.toDigits base number) :
    ∃ digit < base, char = digit.digitChar := by
  induction number using Nat.strongRecOn with
  | ind number ih =>
      rw [Nat.toDigits_eq_if above] at member
      split at member
      · exact ⟨number, ‹_›, List.mem_singleton.mp member⟩
      · rcases List.mem_append.mp member with earlier | last
        · exact ih (number / base) (Nat.div_lt_self (by omega) above) earlier
        · exact ⟨number % base, Nat.mod_lt _ (by omega), List.mem_singleton.mp last⟩

end Digits
