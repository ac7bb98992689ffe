import Mathlib

/-!
# Cyclic redundancy checks

Bits are the coefficients of a polynomial over the field of two elements.  A register which is
shifted, with the taps of a generator fed back whenever a bit leaves it, holds the remainder of what
has been fed into it: the message times the power of the register's width, modulo the generator.
-/

namespace Cyclic

open Polynomial

variable {width blockWidth : Nat}

/-! ## Bits as polynomials -/

/-- A bit as a coefficient. -/
def digit (bit : Bool) : ZMod 2 := if bit then 1 else 0

@[simp] theorem digit_false : digit false = 0 := rfl

@[simp] theorem digit_true : digit true = 1 := rfl

theorem digit_xor (left right : Bool) : digit (left ^^ right) = digit left + digit right := by
  cases left <;> cases right <;> decide

theorem digit_injective : Function.Injective digit := by decide

/-- The polynomial of a register, whose least significant bit is the constant coefficient. -/
noncomputable def register (bits : BitVec width) : (ZMod 2)[X] :=
  ∑ i ∈ Finset.range width, monomial i (digit (bits.getLsbD i))

/-- The polynomial of a message, whose first bit is the leading coefficient. -/
noncomputable def message (bits : List Bool) : (ZMod 2)[X] :=
  bits.foldl (fun sum bit => sum * X + C (digit bit)) 0

/-- The bits of a block, the most significant first. -/
def msbFirst (bits : BitVec width) : List Bool := (List.range width).map bits.getMsbD

theorem coeff_register (bits : BitVec width) (i : Nat) :
    (register bits).coeff i = digit (bits.getLsbD i) := by
  simp only [register, finsetSum_coeff, coeff_monomial, Finset.sum_ite_eq', Finset.mem_range]
  split
  · rfl
  · rename_i outside
    rw [BitVec.getLsbD_of_ge bits i (Nat.le_of_not_lt outside), digit_false]

theorem degree_register_lt (bits : BitVec width) : (register bits).degree < width := by
  rw [degree_lt_iff_coeff_zero]
  intro i outside
  rw [coeff_register, BitVec.getLsbD_of_ge bits i outside, digit_false]

theorem register_injective : Function.Injective (register : BitVec width → (ZMod 2)[X]) := by
  intro left right same
  apply BitVec.eq_of_getLsbD_eq
  intro i _
  apply digit_injective
  rw [← coeff_register, ← coeff_register, same]

theorem register_zero : register (BitVec.ofNat width 0) = 0 := by
  ext i
  rw [coeff_register, BitVec.getLsbD_zero, digit_false, coeff_zero]

theorem register_xor (left right : BitVec width) :
    register (left ^^^ right) = register left + register right := by
  ext i
  rw [coeff_register, BitVec.getLsbD_xor, digit_xor, coeff_add, coeff_register, coeff_register]

/-- A shift by one place loses the leading coefficient. -/
theorem register_shiftLeft_one (bits : BitVec width) :
    register (bits <<< 1) + C (digit bits.msb) * X ^ width = X * register bits := by
  ext i
  rw [coeff_add, coeff_register, coeff_C_mul, coeff_X_pow, BitVec.getLsbD_shiftLeft,
    BitVec.msb_eq_getLsbD_last]
  cases i with
  | zero =>
      rw [coeff_X_mul_zero]
      cases width with
      | zero => simp
      | succ width => simp
  | succ i =>
      rw [coeff_X_mul, coeff_register]
      by_cases inside : i + 1 < width
      · simp [inside, Nat.ne_of_lt inside]
      · by_cases last : i + 1 = width
        · subst last
          simp
        · rw [BitVec.getLsbD_of_ge bits i (by omega)]
          simp [inside, last]

/-! ## Messages -/

theorem message_concat (bits : List Bool) (bit : Bool) :
    message (bits ++ [bit]) = message bits * X + C (digit bit) := by
  rw [message, List.foldl_append]
  rfl

theorem message_append (front back : List Bool) :
    message (front ++ back) = message front * X ^ back.length + message back := by
  induction back using List.reverseRecOn with
  | nil => simp [message]
  | append_singleton back bit ih =>
      rw [← List.append_assoc, message_concat, ih, message_concat, List.length_append,
        List.length_singleton]
      ring

theorem coeff_message (bits : List Bool) (i : Nat) :
    (message bits).coeff i = digit (bits.reverse.getD i false) := by
  induction bits using List.reverseRecOn generalizing i with
  | nil => simp [message]
  | append_singleton bits bit ih =>
      rw [message_concat, coeff_add, List.reverse_concat']
      cases i with
      | zero => simp
      | succ i => simp [ih]

theorem message_msbFirst (bits : BitVec width) : message (msbFirst bits) = register bits := by
  ext i
  rw [coeff_message, coeff_register, List.getD_eq_getElem?_getD]
  by_cases inside : i < width
  · rw [List.getElem?_reverse (by simpa [msbFirst] using inside)]
    have place : width - 1 - (width - 1 - i) = i := by omega
    have within : width - 1 - i < width := by omega
    simp [msbFirst, BitVec.getMsbD_eq_getLsbD, place, within]
  · rw [List.getElem?_eq_none (by simpa [msbFirst] using inside),
      BitVec.getLsbD_of_ge bits i (Nat.le_of_not_lt inside)]
    rfl

/-! ## The register -/

/-- The generator: the power of the width, and the taps. -/
noncomputable def generator (taps : BitVec width) : (ZMod 2)[X] := X ^ width + register taps

/-- Shift by one place, and feed the taps back if a bit leaves. -/
def feedback (taps bits : BitVec width) : BitVec width :=
  (bits <<< 1) ^^^ (if bits.msb then taps else BitVec.ofNat width 0)

/-- Put a block on the leading bits, and shift as often as it has bits. -/
def absorb (taps : BitVec width) (bits : BitVec width) (block : BitVec blockWidth) : BitVec width :=
  (feedback taps)^[blockWidth] (bits ^^^ (block.setWidth width <<< (width - blockWidth)))

variable {taps bits : BitVec width} {block : BitVec blockWidth} {sum : (ZMod 2)[X]}

theorem monic_generator (taps : BitVec width) : (generator taps).Monic :=
  monic_X_pow_add (degree_register_lt taps)

theorem degree_generator (taps : BitVec width) : (generator taps).degree = width := by
  have lower : (register taps).degree < (X ^ width : (ZMod 2)[X]).degree := by
    rw [degree_X_pow]
    exact degree_register_lt taps
  rw [generator, degree_add_eq_left_of_degree_lt lower, degree_X_pow]

/-- A shift takes a multiple of the generator off. -/
theorem register_feedback :
    X * register bits - register (feedback taps bits) = C (digit bits.msb) * generator taps := by
  rw [← register_shiftLeft_one, feedback, register_xor, generator]
  cases bits.msb with
  | false =>
      rw [if_neg Bool.false_ne_true, register_zero, digit_false]
      simp
  | true =>
      rw [if_pos rfl, digit_true, C_1, CharTwo.sub_eq_add]
      have twice : register (bits <<< 1) + register (bits <<< 1) = 0 := CharTwo.add_self_eq_zero _
      linear_combination twice

theorem dvd_feedback (holds : generator taps ∣ sum - register bits) :
    generator taps ∣ X * sum - register (feedback taps bits) := by
  have split : X * sum - register (feedback taps bits) =
      X * (sum - register bits) + C (digit bits.msb) * generator taps := by
    rw [← register_feedback]
    ring
  rw [split]
  exact dvd_add (holds.mul_left X) (dvd_mul_left _ _)

theorem dvd_iterate (holds : generator taps ∣ sum - register bits) (count : Nat) :
    generator taps ∣ X ^ count * sum - register ((feedback taps)^[count] bits) := by
  induction count with
  | zero => simpa using holds
  | succ count ih =>
      rw [Function.iterate_succ_apply', pow_succ', mul_assoc]
      exact dvd_feedback ih

theorem register_block (fits : blockWidth ≤ width) :
    register (block.setWidth width <<< (width - blockWidth)) =
      X ^ (width - blockWidth) * register block := by
  ext i
  rw [coeff_register, BitVec.getLsbD_shiftLeft, BitVec.getLsbD_setWidth, coeff_X_pow_mul',
    coeff_register]
  by_cases low : i < width - blockWidth
  · rw [if_neg (Nat.not_le.mpr low)]
    simp [low]
  · rw [if_pos (Nat.le_of_not_lt low)]
    by_cases inside : i < width
    · have within : i - (width - blockWidth) < width := by omega
      simp [low, inside, within]
    · rw [BitVec.getLsbD_of_ge block (i - (width - blockWidth)) (by omega)]
      simp [inside]

/-- What has been fed in is followed by the block. -/
theorem dvd_absorb (fits : blockWidth ≤ width)
    (holds : generator taps ∣ sum * X ^ width - register bits) :
    generator taps ∣
      (sum * X ^ blockWidth + register block) * X ^ width - register (absorb taps bits block) := by
  have put : generator taps ∣ sum * X ^ width + X ^ (width - blockWidth) * register block -
      register (bits ^^^ (block.setWidth width <<< (width - blockWidth))) := by
    rw [register_xor, register_block fits]
    simpa using holds
  have shifted := dvd_iterate put blockWidth
  have power : (X : (ZMod 2)[X]) ^ width = X ^ blockWidth * X ^ (width - blockWidth) := by
    rw [← pow_add, Nat.add_sub_cancel' fits]
  have moved : (sum * X ^ blockWidth + register block) * X ^ width =
      X ^ blockWidth * (sum * X ^ width + X ^ (width - blockWidth) * register block) := by
    rw [power]
    ring
  rw [moved]
  exact shifted

theorem dvd_foldl_absorb (fits : blockWidth ≤ width) (taps : BitVec width)
    (blocks : List (BitVec blockWidth)) :
    generator taps ∣ message (blocks.flatMap msbFirst) * X ^ width -
      register (blocks.foldl (absorb taps) (BitVec.ofNat width 0)) := by
  induction blocks using List.reverseRecOn with
  | nil => simp [message, register_zero]
  | append_singleton blocks block ih =>
      rw [List.flatMap_append, message_append, List.foldl_append]
      have bits : (msbFirst block).length = blockWidth := by simp [msbFirst]
      simpa [message_msbFirst, bits] using dvd_absorb fits ih

/-- The register holds the remainder of the message. -/
theorem register_foldl_absorb (fits : blockWidth ≤ width) (taps : BitVec width)
    (blocks : List (BitVec blockWidth)) :
    register (blocks.foldl (absorb taps) (BitVec.ofNat width 0)) =
      message (blocks.flatMap msbFirst) * X ^ width %ₘ generator taps := by
  have remainder : register (blocks.foldl (absorb taps) (BitVec.ofNat width 0)) %ₘ generator taps =
      register (blocks.foldl (absorb taps) (BitVec.ofNat width 0)) := by
    rw [modByMonic_eq_self_iff (monic_generator taps), degree_generator]
    exact degree_register_lt _
  rw [← remainder]
  exact (modByMonic_eq_of_dvd_sub (monic_generator taps) (dvd_foldl_absorb fits taps blocks)).symm

end Cyclic
