import Togewire.Foundation.Digits

/-!
# Hexadecimal text

Every octet becomes two digits, and the text holds nothing but the sixteen digits.
-/

namespace Hexadecimal

/-- The two digits of an octet. -/
def pair (octet : UInt8) : List Char :=
  [Nat.digitChar (octet.toNat / 16), Nat.digitChar (octet.toNat % 16)]

/-- Two digits for each octet. -/
def encode (octets : List UInt8) : List Char := octets.flatMap pair

/-- One of the digits of base sixteen. -/
def IsDigit (char : Char) : Prop := ∃ digit < 16, char = Nat.digitChar digit

@[simp] theorem length_encode (octets : List UInt8) :
    (encode octets).length = 2 * octets.length := by
  induction octets with
  | nil => rfl
  | cons octet octets ih =>
      simp only [encode, List.flatMap_cons, List.length_append] at ih ⊢
      simp only [ih, pair, List.length_cons, List.length_nil]
      omega

theorem isDigit_of_mem_encode {octets : List UInt8} {char : Char}
    (member : char ∈ encode octets) : IsDigit char := by
  obtain ⟨octet, -, shown⟩ := List.mem_flatMap.mp member
  have small : octet.toNat < 256 := octet.toNat_lt
  rcases List.mem_cons.mp shown with upper | lower
  · exact ⟨octet.toNat / 16, by omega, upper⟩
  · exact ⟨octet.toNat % 16, by omega, List.mem_singleton.mp lower⟩

end Hexadecimal
