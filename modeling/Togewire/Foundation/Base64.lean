import Mathlib.Data.List.Basic

/-!
# Base64

Three octets become four characters of a 64-letter alphabet, the first letter for the most
significant bits; what is left over at the end is padded with `=`.  The decoder takes padded text
only, with no bits set that no octet has.
-/

namespace Base64

/-- The letter for six bits. -/
def letter (sextet : Nat) : Char :=
  if sextet < 26 then Char.ofNat (65 + sextet)
  else if sextet < 52 then Char.ofNat (97 + (sextet - 26))
  else if sextet < 62 then Char.ofNat (48 + (sextet - 52))
  else if sextet = 62 then '+'
  else '/'

/-- The six bits of a letter. -/
def sextet (letter : Char) : Option Nat :=
  if 65 ≤ letter.toNat ∧ letter.toNat ≤ 90 then some (letter.toNat - 65)
  else if 97 ≤ letter.toNat ∧ letter.toNat ≤ 122 then some (letter.toNat - 97 + 26)
  else if 48 ≤ letter.toNat ∧ letter.toNat ≤ 57 then some (letter.toNat - 48 + 52)
  else if letter = '+' then some 62
  else if letter = '/' then some 63
  else none

/-- Octets are taken three at a time. -/
def encode : List UInt8 → List Char
  | [] => []
  | [a] => [letter (a.toNat / 4), letter (a.toNat % 4 * 16), '=', '=']
  | [a, b] =>
      [letter (a.toNat / 4), letter (a.toNat % 4 * 16 + b.toNat / 16),
        letter (b.toNat % 16 * 4), '=']
  | a :: b :: c :: rest =>
      letter (a.toNat / 4) :: letter (a.toNat % 4 * 16 + b.toNat / 16) ::
        letter (b.toNat % 16 * 4 + c.toNat / 64) :: letter (c.toNat % 64) :: encode rest

/-- Two letters hold one octet. -/
def single (first second : Char) : Option (List UInt8) := do
  let a ← sextet first
  let b ← sextet second
  if b % 16 = 0 then some [UInt8.ofNat (a * 4 + b / 16)] else none

/-- Three letters hold two octets. -/
def double (first second third : Char) : Option (List UInt8) := do
  let a ← sextet first
  let b ← sextet second
  let c ← sextet third
  if c % 4 = 0 then
    some [UInt8.ofNat (a * 4 + b / 16), UInt8.ofNat (b % 16 * 16 + c / 4)]
  else
    none

/-- Four letters hold three octets. -/
def triple (first second third fourth : Char) : Option (List UInt8) := do
  let a ← sextet first
  let b ← sextet second
  let c ← sextet third
  let d ← sextet fourth
  some
    [UInt8.ofNat (a * 4 + b / 16), UInt8.ofNat (b % 16 * 16 + c / 4), UInt8.ofNat (c % 4 * 64 + d)]

/-- Letters are taken four at a time, and the padding ends the text. -/
def decode : List Char → Option (List UInt8)
  | [] => some []
  | first :: second :: third :: fourth :: rest =>
      if rest = [] ∧ fourth = '=' then
        if third = '=' then single first second else double first second third
      else do
        let front ← triple first second third fourth
        let back ← decode rest
        some (front ++ back)
  | _ => none

/-! ## The round trip -/

theorem sextet_letter {bits : Nat} (small : bits < 64) : sextet (letter bits) = some bits := by
  have all : ∀ bits : Fin 64, sextet (letter bits) = some bits.val := by decide
  exact all ⟨bits, small⟩

theorem letter_ne_pad (bits : Nat) (small : bits < 64) : letter bits ≠ '=' := by
  intro pad
  have read := sextet_letter small
  have unread : sextet '=' = none := by decide
  rw [pad, unread] at read
  cases read

section Octets

variable (a b c : UInt8)

theorem single_letters :
    single (letter (a.toNat / 4)) (letter (a.toNat % 4 * 16)) = some [a] := by
  have bound := a.toNat_lt
  have value : a.toNat / 4 * 4 + a.toNat % 4 * 16 / 16 = a.toNat := by omega
  rw [single, sextet_letter (by omega), sextet_letter (by omega)]
  simp only [Option.bind_eq_bind, Option.bind_some]
  rw [if_pos (by omega), value, UInt8.ofNat_toNat]

theorem double_letters :
    double (letter (a.toNat / 4)) (letter (a.toNat % 4 * 16 + b.toNat / 16))
      (letter (b.toNat % 16 * 4)) = some [a, b] := by
  have bound := a.toNat_lt
  have bound' := b.toNat_lt
  have value : a.toNat / 4 * 4 + (a.toNat % 4 * 16 + b.toNat / 16) / 16 = a.toNat := by omega
  have value' : (a.toNat % 4 * 16 + b.toNat / 16) % 16 * 16 + b.toNat % 16 * 4 / 4 = b.toNat := by
    omega
  rw [double, sextet_letter (by omega), sextet_letter (by omega), sextet_letter (by omega)]
  simp only [Option.bind_eq_bind, Option.bind_some]
  rw [if_pos (by omega), value, value', UInt8.ofNat_toNat, UInt8.ofNat_toNat]

theorem triple_letters :
    triple (letter (a.toNat / 4)) (letter (a.toNat % 4 * 16 + b.toNat / 16))
      (letter (b.toNat % 16 * 4 + c.toNat / 64)) (letter (c.toNat % 64)) = some [a, b, c] := by
  have bound := a.toNat_lt
  have bound' := b.toNat_lt
  have bound'' := c.toNat_lt
  have value : a.toNat / 4 * 4 + (a.toNat % 4 * 16 + b.toNat / 16) / 16 = a.toNat := by omega
  have value' : (a.toNat % 4 * 16 + b.toNat / 16) % 16 * 16 +
      (b.toNat % 16 * 4 + c.toNat / 64) / 4 = b.toNat := by omega
  have value'' : (b.toNat % 16 * 4 + c.toNat / 64) % 4 * 64 + c.toNat % 64 = c.toNat := by omega
  rw [triple, sextet_letter (by omega), sextet_letter (by omega), sextet_letter (by omega),
    sextet_letter (by omega)]
  simp only [Option.bind_eq_bind, Option.bind_some]
  rw [value, value', value'', UInt8.ofNat_toNat, UInt8.ofNat_toNat, UInt8.ofNat_toNat]

end Octets

theorem decode_encode (octets : List UInt8) : decode (encode octets) = some octets := by
  induction octets using encode.induct with
  | case1 => rfl
  | case2 a =>
      rw [encode, decode, if_pos ⟨rfl, rfl⟩, if_pos rfl, single_letters]
  | case3 a b =>
      have third : letter (b.toNat % 16 * 4) ≠ '=' := letter_ne_pad _ (by omega)
      rw [encode, decode, if_pos ⟨rfl, rfl⟩, if_neg third, double_letters]
  | case4 a b c rest ih =>
      have fourth : letter (c.toNat % 64) ≠ '=' := letter_ne_pad _ (by omega)
      rw [encode, decode, if_neg (fun last => fourth last.2), triple_letters, ih]
      rfl

/-- Letters, and then at most two paddings. -/
theorem encode_split (octets : List UInt8) :
    ∃ letters pad, encode octets = letters ++ List.replicate pad '=' ∧
      (∀ char ∈ letters, ∃ bits < 64, char = letter bits) ∧ (octets ≠ [] → letters ≠ []) := by
  induction octets using encode.induct with
  | case1 => exact ⟨[], 0, rfl, nofun, fun some => absurd rfl some⟩
  | case2 a =>
      have bound := a.toNat_lt
      refine ⟨[letter (a.toNat / 4), letter (a.toNat % 4 * 16)], 2, rfl, ?_, fun _ => nofun⟩
      simp only [List.forall_mem_cons, List.not_mem_nil, false_implies, implies_true, and_true]
      exact ⟨⟨_, by omega, rfl⟩, ⟨_, by omega, rfl⟩⟩
  | case3 a b =>
      have bound := a.toNat_lt
      have bound' := b.toNat_lt
      refine ⟨[letter (a.toNat / 4), letter (a.toNat % 4 * 16 + b.toNat / 16),
        letter (b.toNat % 16 * 4)], 1, rfl, ?_, fun _ => nofun⟩
      simp only [List.forall_mem_cons, List.not_mem_nil, false_implies, implies_true, and_true]
      exact ⟨⟨_, by omega, rfl⟩, ⟨_, by omega, rfl⟩, ⟨_, by omega, rfl⟩⟩
  | case4 a b c rest ih =>
      have bound := a.toNat_lt
      have bound' := b.toNat_lt
      have bound'' := c.toNat_lt
      obtain ⟨letters, pad, split, within, -⟩ := ih
      refine ⟨letter (a.toNat / 4) :: letter (a.toNat % 4 * 16 + b.toNat / 16) ::
        letter (b.toNat % 16 * 4 + c.toNat / 64) :: letter (c.toNat % 64) :: letters, pad, ?_, ?_,
        fun _ => nofun⟩
      · rw [encode, split]
        rfl
      · simp only [List.forall_mem_cons]
        exact ⟨⟨_, by omega, rfl⟩, ⟨_, by omega, rfl⟩, ⟨_, by omega, rfl⟩, ⟨_, by omega, rfl⟩,
          within⟩

end Base64
