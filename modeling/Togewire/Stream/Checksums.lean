import Togewire.Foundation.Cyclic
import Togewire.Stream.Ogg

/-!
# Checksums

Ogg's CRC-32 is the remainder of a division of polynomials, which the code carries out bit by bit.
The page which stands in for the tags has its own checksum, taken while the field was still zero.
-/

namespace Togewire.Stream

open Cyclic Polynomial

/-! ## The division -/

/-- `0x04c1_1db7` -/
def crcTaps : BitVec 32 := 0x04c11db7#32

/-- The polynomial of some bytes, each the most significant bit first. -/
noncomputable def dataPolynomial (data : Bytes) : (ZMod 2)[X] :=
  message (data.flatMap fun byte => msbFirst byte.toBitVec)

/-- The remainder which is the checksum of some bytes. -/
noncomputable def remainder (data : Bytes) : (ZMod 2)[X] :=
  dataPolynomial data * X ^ 32 %ₘ (X ^ 32 + register crcTaps)

theorem leadingBit_iff (crc : UInt32) : crc &&& 0x80000000 ≠ 0 ↔ crc.toBitVec.msb = true := by
  have lead : (0x80000000 : UInt32).toBitVec = BitVec.twoPow 32 31 := by decide
  rw [ne_eq, ← UInt32.toBitVec_inj, UInt32.toBitVec_and, lead, BitVec.and_twoPow,
    BitVec.msb_eq_getLsbD_last]
  cases crc.toBitVec.getLsbD (32 - 1) with
  | false => simp
  | true => simp

/-- One round of the inner loop. -/
theorem toBitVec_shift (crc : UInt32) :
    ((crc <<< 1) ^^^ (if crc &&& 0x80000000 ≠ 0 then 0x04c11db7 else 0)).toBitVec =
      feedback crcTaps crc.toBitVec := by
  have shifted : (crc <<< 1).toBitVec = crc.toBitVec <<< 1 := by simp
  rw [UInt32.toBitVec_xor, shifted, feedback]
  by_cases leads : crc.toBitVec.msb = true
  · rw [if_pos ((leadingBit_iff crc).mpr leads), if_pos leads]
    rfl
  · rw [if_neg (mt (leadingBit_iff crc).mp leads), if_neg leads]
    rfl

theorem toBitVec_crcShift (rounds : Nat) (crc : UInt32) :
    (crcShift rounds crc).toBitVec = (feedback crcTaps)^[rounds] crc.toBitVec := by
  induction rounds generalizing crc with
  | zero => rfl
  | succ rounds ih => rw [crcShift, ih, toBitVec_shift, Function.iterate_succ_apply]

/-- One round of the outer loop. -/
theorem toBitVec_absorb (crc : UInt32) (byte : UInt8) :
    (crcShift 8 (crc ^^^ (byte.toUInt32 <<< 24))).toBitVec =
      absorb crcTaps crc.toBitVec byte.toBitVec := by
  have block : (byte.toUInt32 <<< 24).toBitVec = byte.toBitVec.setWidth 32 <<< (32 - 8) := by simp
  rw [toBitVec_crcShift, UInt32.toBitVec_xor, block, absorb]

theorem toBitVec_oggCrc (data : Bytes) :
    (oggCrc data).toBitVec = (data.map UInt8.toBitVec).foldl (absorb crcTaps) 0#32 := by
  induction data using List.reverseRecOn with
  | nil => rfl
  | append_singleton data byte ih =>
      rw [oggCrc, List.foldl_append, List.map_append, List.foldl_append, ← ih]
      exact toBitVec_absorb (oggCrc data) byte

/-- The checksum is the remainder. -/
theorem register_oggCrc (data : Bytes) : register (oggCrc data).toBitVec = remainder data := by
  have divided := register_foldl_absorb (by decide) crcTaps (data.map UInt8.toBitVec)
  rw [toBitVec_oggCrc, divided, List.flatMap_map, remainder, dataPolynomial, generator]

/-- Only the checksum is the remainder. -/
theorem register_eq_remainder_iff (checksum : UInt32) (data : Bytes) :
    register checksum.toBitVec = remainder data ↔ checksum = oggCrc data := by
  rw [← register_oggCrc, register_injective.eq_iff, UInt32.toBitVec_inj]

/-! ## The tags page -/

/-- The checksum field of a page. -/
def checksumField (page : Bytes) : Bytes := (page.drop 22).take 4

/-- A page with its checksum field zeroed. -/
def zeroed (page : Bytes) : Bytes := page.take 22 ++ [0, 0, 0, 0] ++ page.drop 26

theorem fromLeBytes_toLeBytes (value : UInt32) : fromLeBytes (toLeBytes value) = value.toNat := by
  have bound := value.toNat_lt
  simp only [toLeBytes, fromLeBytes, List.foldr_cons, List.foldr_nil, UInt32.toNat_toUInt8,
    UInt32.toNat_shiftRight, UInt32.reduceToNat, Nat.reduceMod, Nat.shiftRight_eq_div_pow]
  omega

theorem toLeBytes_injective : Function.Injective toLeBytes := by
  intro left right same
  apply UInt32.toNat.inj
  rw [← fromLeBytes_toLeBytes, ← fromLeBytes_toLeBytes, same]

/-- The field was zero when the checksum was taken. -/
theorem checksumField_emptyTagsPage {serial seq : Bytes} (serial_length : serial.length = 4)
    (seq_length : seq.length = 4) :
    checksumField (emptyTagsPage serial seq) =
      toLeBytes (oggCrc (zeroed (emptyTagsPage serial seq))) := by
  obtain ⟨a, b, c, d, rfl⟩ := List.length_eq_four.mp serial_length
  obtain ⟨e, f, g, h, rfl⟩ := List.length_eq_four.mp seq_length
  unfold emptyTagsPage
  extract_lets page
  have unsummed (crc : UInt32) :
      zeroed (page.take 22 ++ toLeBytes crc ++ page.drop 26) = page := by
    simp [zeroed, page, oggS, toLeBytes, tagsPacket]
  rw [unsummed]
  generalize oggCrc page = crc
  simp [checksumField, page, oggS, toLeBytes, tagsPacket]

/-- Ogg's CRC is the remainder of the bytes shifted by its width, and the tags page has the one of
itself with the field zeroed, and no other. -/
theorem oggCrc_remainder :
    (∀ data, register (oggCrc data).toBitVec =
      dataPolynomial data * X ^ 32 %ₘ (X ^ 32 + register crcTaps)) ∧
      ∀ serial seq : Bytes, serial.length = 4 → seq.length = 4 → ∀ checksum : UInt32,
        checksumField (emptyTagsPage serial seq) = toLeBytes checksum ↔
          register checksum.toBitVec = remainder (zeroed (emptyTagsPage serial seq)) := by
  constructor
  · exact register_oggCrc
  · intro serial seq serial_length seq_length checksum
    rw [checksumField_emptyTagsPage serial_length seq_length, toLeBytes_injective.eq_iff,
      register_eq_remainder_iff, eq_comm]

/-- The checksum of one tags page. -/
theorem first_tagsPage_remainder :
    register (0xb3ba9980 : UInt32).toBitVec =
      remainder (zeroed (emptyTagsPage [1, 0, 0, 0] [1, 0, 0, 0])) :=
  (oggCrc_remainder.2 [1, 0, 0, 0] [1, 0, 0, 0] rfl rfl 0xb3ba9980).mp (by decide +kernel)

end Togewire.Stream
