import Mathlib.Algebra.Order.Ring.Nat
import Mathlib.Data.List.Basic
import Mathlib.Data.List.Induction
import Mathlib.Tactic.Ring
import Togewire.Foundation.Reader

/-!
# Numbers in octets

Binary formats hold numbers in a fixed number of octets, the most significant first.  A scan reads
octets at positions of its own choice and may read past the end, or go on without one; what it
reads within the data is what stands there.
-/

namespace Octets

/-- The value of octets, the most significant first. -/
def number (octets : List UInt8) : Nat :=
  octets.foldl (fun value octet => value * 256 + octet.toNat) 0

/-- A number in a fixed number of octets. -/
def bigEndian : Nat → Nat → List UInt8
  | 0, _ => []
  | width + 1, value => bigEndian width (value / 256) ++ [UInt8.ofNat value]

variable {value width : Nat} {front data rest : List UInt8} {start : Nat}

@[simp] theorem length_bigEndian (width value : Nat) : (bigEndian width value).length = width := by
  induction width generalizing value with
  | zero => rfl
  | succ width ih => simp [bigEndian, ih]

theorem number_concat (octets : List UInt8) (last : UInt8) :
    number (octets ++ [last]) = number octets * 256 + last.toNat := by
  simp [number]

theorem number_bigEndian (fits : value < 256 ^ width) : number (bigEndian width value) = value := by
  induction width generalizing value with
  | zero =>
      have none : value = 0 := by
        rw [Nat.pow_zero] at fits
        omega
      rw [none]
      rfl
  | succ width ih =>
      have quotient : value / 256 < 256 ^ width := by
        apply Nat.div_lt_of_lt_mul
        rwa [Nat.mul_comm, ← Nat.pow_succ]
      rw [bigEndian, number_concat, ih quotient, UInt8.toNat_ofNat']
      omega

/-! ## Scans -/

/-- What stops a scan. -/
inductive Fault
  | outOfBounds
  | outOfFuel
  deriving DecidableEq

/-- A scan of some data finds something, or fails. -/
abbrev Scan := Except Fault

@[simp] theorem ok_bind {α β : Type} (value : α) (next : α → Scan β) :
    (Except.ok value >>= next : Scan β) = next value := rfl

/-- A scan goes on only from what it has read. -/
theorem of_bind_eq_ok {α β : Type} {first : Scan α} {next : α → Scan β} {result : β}
    (read : first >>= next = .ok result) :
    ∃ middle, first = .ok middle ∧ next middle = .ok result := by
  cases first with
  | error fault => cases read
  | ok middle => exact ⟨middle, rfl, read⟩

/-- The octet at a position. -/
def octetAt (data : List UInt8) (start : Nat) : Scan UInt8 :=
  match data[start]? with
  | some octet => .ok octet
  | none => .error .outOfBounds

/-- Octets from a position on. -/
def octetsAt (data : List UInt8) (start : Nat) : Nat → Scan (List UInt8)
  | 0 => pure []
  | count + 1 => do
      let octet ← octetAt data start
      let octets ← octetsAt data (start + 1) count
      pure (octet :: octets)

/-- A big-endian number of some octets. -/
def numberAt (data : List UInt8) (start width : Nat) : Scan Nat := do
  let octets ← octetsAt data start width
  pure (number octets)

theorem octetAt_of_lt (within : start < data.length) :
    octetAt data start = .ok (data.get ⟨start, within⟩) := by
  rw [octetAt, List.getElem?_eq_getElem within]
  rfl

/-- What is within the data is read as it stands there. -/
theorem octetsAt_of_le {count : Nat} (within : start + count ≤ data.length) :
    octetsAt data start count = .ok ((data.drop start).take count) := by
  induction count generalizing start with
  | zero => rfl
  | succ count ih =>
      have inside : start < data.length := by omega
      rw [octetsAt, octetAt_of_lt inside, ih (by omega), List.drop_eq_getElem_cons inside,
        List.take_succ_cons]
      rfl

theorem numberAt_of_le (within : start + width ≤ data.length) :
    numberAt data start width = .ok (number ((data.drop start).take width)) := by
  rw [numberAt, octetsAt_of_le within]
  rfl

@[simp] theorem octetAt_length (octet : UInt8) :
    octetAt (front ++ octet :: rest) front.length = .ok octet := by
  simp [octetAt]

theorem numberAt_length (fits : value < 256 ^ width) :
    numberAt (front ++ (bigEndian width value ++ rest)) front.length width = .ok value := by
  rw [numberAt_of_le (by simp), List.drop_left, List.take_left' (length_bigEndian width value),
    number_bigEndian fits]

theorem number_lt (octets : List UInt8) : number octets < 256 ^ octets.length := by
  induction octets using List.reverseRecOn with
  | nil => decide
  | append_singleton octets last ih =>
      have bound := last.toNat_lt
      rw [number_concat, List.length_append, List.length_singleton, Nat.pow_succ]
      omega

theorem length_of_octetsAt {count : Nat} {octets : List UInt8}
    (read : octetsAt data start count = .ok octets) : octets.length = count := by
  induction count generalizing start octets with
  | zero =>
      obtain rfl := Except.ok.inj read
      rfl
  | succ count ih =>
      obtain ⟨octet, -, read⟩ := of_bind_eq_ok read
      obtain ⟨others, later, read⟩ := of_bind_eq_ok read
      obtain rfl := Except.ok.inj read
      exact congrArg (· + 1) (ih later)

theorem numberAt_lt (read : numberAt data start width = .ok value) : value < 256 ^ width := by
  obtain ⟨octets, taken, read⟩ := of_bind_eq_ok read
  obtain rfl := Except.ok.inj read
  rw [← length_of_octetsAt taken]
  exact number_lt octets

/-! ## Readers -/

/-- Take octets off the front. -/
def octets (count : Nat) : Reading.Reader UInt8 (List UInt8) := fun data =>
  if count ≤ data.length then some (data.take count, data.drop count) else none

/-- Take a number off the front. -/
def numeral (width : Nat) : Reading.Reader UInt8 Nat := do
  let taken ← octets width
  pure (number taken)

theorem octets_append (taken rest : List UInt8) :
    octets taken.length (taken ++ rest) = some (taken, rest) := by
  rw [octets, if_pos (by simp), List.take_left, List.drop_left]

theorem numeral_bigEndian (fits : value < 256 ^ width) :
    numeral width (bigEndian width value ++ rest) = some (value, rest) := by
  have taken := octets_append (bigEndian width value) rest
  rw [length_bigEndian] at taken
  rw [numeral, Reading.bind_of_eq_some taken, number_bigEndian fits]
  rfl

end Octets
