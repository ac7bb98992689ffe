import Mathlib.Data.Fintype.Pi
import Togewire.Foundation.Reader

/-!
# IP addresses

Addresses are read from text as the standard library reads them, and no text it accepts has a
comma.
-/

namespace Togewire.Server

open Reading

/-- `Ipv4Addr`, by its octets. -/
structure Ipv4Addr where
  a : UInt8
  b : UInt8
  c : UInt8
  d : UInt8
deriving DecidableEq

/-- `Ipv6Addr`, by its segments. -/
structure Ipv6Addr where
  segments : Fin 8 → UInt16
deriving DecidableEq

/-- `IpAddr` -/
inductive IpAddr
  | v4 (addr : Ipv4Addr)
  | v6 (addr : Ipv6Addr)
deriving DecidableEq

/-! ## Classes of addresses -/

namespace Ipv4Addr

def isLoopback (addr : Ipv4Addr) : Bool := addr.a == 127

def isPrivate (addr : Ipv4Addr) : Bool :=
  addr.a == 10 || (addr.a == 172 && 16 ≤ addr.b && addr.b ≤ 31) || (addr.a == 192 && addr.b == 168)

/-- The two segments the address takes up in an IPv6 address. -/
def segments (addr : Ipv4Addr) : List UInt16 :=
  [addr.a.toUInt16 <<< 8 ||| addr.b.toUInt16, addr.c.toUInt16 <<< 8 ||| addr.d.toUInt16]

/-- The address in two segments. -/
def ofSegments (high low : UInt16) : Ipv4Addr :=
  ⟨(high >>> 8).toUInt8, high.toUInt8, (low >>> 8).toUInt8, low.toUInt8⟩

end Ipv4Addr

namespace Ipv6Addr

/-- An address from eight groups. -/
def ofGroups (groups : List UInt16) : Ipv6Addr := ⟨fun index => groups.getD index 0⟩

/-- `::1` -/
def loopback : Ipv6Addr := ofGroups [0, 0, 0, 0, 0, 0, 0, 1]

def isLoopback (addr : Ipv6Addr) : Bool := decide (addr = loopback)

/-- `is_unique_local` -/
def isUniqueLocal (addr : Ipv6Addr) : Bool := addr.segments 0 &&& 0xfe00 == 0xfc00

/-- The segments of the /64 an address is in. -/
def network (addr : Ipv6Addr) : List UInt16 :=
  [addr.segments 0, addr.segments 1, addr.segments 2, addr.segments 3]

/-- `::ffff:a.b.c.d` -/
def toIpv4Mapped (addr : Ipv6Addr) : Option Ipv4Addr :=
  if (∀ index : Fin 8, index < 5 → addr.segments index = 0) ∧ addr.segments 5 = 0xffff then
    some (.ofSegments (addr.segments 6) (addr.segments 7))
  else
    none

end Ipv6Addr

/-- `to_canonical`: an address which is mapped into IPv6 is taken out again. -/
def IpAddr.toCanonical : IpAddr → IpAddr
  | .v4 addr => .v4 addr
  | .v6 addr =>
      match addr.toIpv4Mapped with
      | some mapped => .v4 mapped
      | none => .v6 addr

/-! ## Reading -/

/-- `char::to_digit` -/
def toDigit (radix : Nat) (char : Char) : Option Nat :=
  let digit :=
    if char.isDigit then some (char.toNat - '0'.toNat)
    else if 'a' ≤ char ∧ char ≤ 'f' then some (char.toNat - 'a'.toNat + 10)
    else if 'A' ≤ char ∧ char ≤ 'F' then some (char.toNat - 'A'.toNat + 10)
    else none
  digit.filter fun digit => digit < radix

/-- The loop of `read_number`, with the value and the number of the digits read. -/
def readDigits (radix maxDigits : Nat) : Nat → Nat → Reader Char (Nat × Nat)
  | result, count, [] => some ((result, count), [])
  | result, count, char :: rest =>
      match toDigit radix char with
      | none => some ((result, count), char :: rest)
      | some digit =>
          if maxDigits < count + 1 then none
          else readDigits radix maxDigits (result * radix + digit) (count + 1) rest

/-- Read a number below `limit`. -/
def readNumber (radix maxDigits : Nat) (allowZeroPrefix : Bool) (limit : Nat) : Reader Char Nat :=
  fun text => (do
    let (result, count) ← readDigits radix maxDigits 0 0
    if count = 0 then failure
    else if allowZeroPrefix = false ∧ text.head? = some '0' ∧ 1 < count then failure
    else if result < limit then pure result
    else failure : Reader Char Nat) text

/-- All groups but the first stand after a separator. -/
def readSeparator {α : Type} (separator : Char) (index : Nat) (inner : Reader Char α) :
    Reader Char α :=
  if 0 < index then do given separator; inner else inner

/-- One of the four numbers of an IPv4 address. -/
def readOctet (index : Nat) : Reader Char UInt8 := do
  let octet ← readSeparator '.' index (readNumber 10 3 false 256)
  pure (UInt8.ofNat octet)

/-- `read_ipv4_addr` -/
def readIpv4Addr : Reader Char Ipv4Addr := do
  let a ← readOctet 0
  let b ← readOctet 1
  let c ← readOctet 2
  let d ← readOctet 3
  pure ⟨a, b, c, d⟩

/-- A group, or an embedded IPv4 address if there is room for one. -/
def readGroup (index remaining : Nat) : Reader Char (List UInt16 × Bool) :=
  let ipv4 : Reader Char (List UInt16 × Bool) :=
    if 1 < remaining then do
      let addr ← readSeparator ':' index readIpv4Addr
      pure (addr.segments, true)
    else failure
  ipv4 <|> do
    let group ← readSeparator ':' index (readNumber 16 4 true 65536)
    pure ([UInt16.ofNat group], false)

/-- Read groups into the remaining slots, up to an embedded IPv4 address. -/
def readGroups : Nat → List UInt16 → Reader Char (List UInt16 × Bool)
  | 0, groups => pure (groups, false)
  | remaining + 1, groups => fun text =>
      match readGroup groups.length (remaining + 1) text with
      | none => some ((groups, false), text)
      | some ((read, true), rest) => some ((groups ++ read, true), rest)
      | some ((read, false), rest) => readGroups remaining (groups ++ read) rest

/-- `read_ipv6_addr` -/
def readIpv6Addr : Reader Char Ipv6Addr := do
  let (head, ipv4) ← readGroups 8 []
  if head.length = 8 then pure (.ofGroups head)
  else if ipv4 then failure
  else do
    given ':'
    given ':'
    let (tail, _) ← readGroups (8 - (head.length + 1)) []
    pure (.ofGroups (head ++ List.replicate (8 - head.length - tail.length) 0 ++ tail))

/-- `read_ip_addr` -/
def readIpAddr : Reader Char IpAddr := (.v4 <$> readIpv4Addr) <|> (.v6 <$> readIpv6Addr)

/-- `text.parse::<IpAddr>()` -/
def IpAddr.parse (text : List Char) : Option IpAddr := whole readIpAddr text

example : IpAddr.parse "2001:db8::10.0.0.1".toList =
    some (.v6 (.ofGroups [0x2001, 0xdb8, 0, 0, 0, 0, 0xa00, 1])) := by decide +kernel

example : IpAddr.parse "10.8.0.02".toList = none := by decide +kernel

/-! ## Texts which are accepted -/

/-- A reader which takes no comma. -/
abbrev Commaless {α : Type} (reader : Reader Char α) : Prop := Within (· ≠ ',') reader

theorem commaless_readDigits (radix maxDigits result count : Nat) :
    Commaless (readDigits radix maxDigits result count) := by
  constructor
  intro text value rest read
  induction text generalizing result count with
  | nil =>
      obtain ⟨-, rfl⟩ := Prod.mk.inj (Option.some.inj read)
      exact ⟨[], rfl, nofun⟩
  | cons char text ih =>
      rw [readDigits] at read
      split at read
      · obtain ⟨-, rfl⟩ := Prod.mk.inj (Option.some.inj read)
        exact ⟨[], rfl, nofun⟩
      · rename_i digit accepted
        obtain ⟨-, remaining⟩ := Option.ite_none_left_eq_some.mp read
        obtain ⟨taken, rfl, others⟩ := ih _ _ remaining
        have digit_char : char ≠ ',' := by
          rintro rfl
          cases accepted
        exact ⟨char :: taken, rfl, List.forall_mem_cons.mpr ⟨digit_char, others⟩⟩

theorem commaless_readNumber (radix maxDigits : Nat) (allowZeroPrefix : Bool) (limit : Nat) :
    Commaless (readNumber radix maxDigits allowZeroPrefix limit) := by
  constructor
  intro text value rest read
  refine (Within.bind (commaless_readDigits radix maxDigits 0 0) fun _ => ?_).taken read
  exact .ite .failure (.ite .failure (.ite (.pure _) .failure))

theorem commaless_readSeparator {α : Type} {separator : Char} (index : Nat) {inner : Reader Char α}
    (visible : separator ≠ ',') (within : Commaless inner) :
    Commaless (readSeparator separator index inner) :=
  .ite (.bind (.given visible) fun _ => within) within

theorem commaless_readIpv4Addr : Commaless readIpv4Addr := by
  have octet (index : Nat) : Commaless (readOctet index) :=
    .bind (commaless_readSeparator index (by decide) (commaless_readNumber _ _ _ _))
      fun _ => .pure _
  exact .bind (octet 0) fun _ => .bind (octet 1) fun _ => .bind (octet 2) fun _ =>
    .bind (octet 3) fun _ => .pure _

theorem commaless_readGroup (index remaining : Nat) : Commaless (readGroup index remaining) := by
  apply Within.orElse
  · apply Within.ite _ .failure
    exact .bind (commaless_readSeparator index (by decide) commaless_readIpv4Addr) fun _ => .pure _
  · exact .bind (commaless_readSeparator index (by decide) (commaless_readNumber _ _ _ _))
      fun _ => .pure _

theorem commaless_readGroups (remaining : Nat) (groups : List UInt16) :
    Commaless (readGroups remaining groups) := by
  constructor
  intro text value rest read
  induction remaining generalizing groups text with
  | zero => exact (Within.pure _).taken read
  | succ remaining ih =>
      rw [readGroups] at read
      dsimp only at read
      split at read
      · obtain ⟨-, rfl⟩ := Prod.mk.inj (Option.some.inj read)
        exact ⟨[], rfl, nofun⟩
      · rename_i taken
        obtain ⟨-, rfl⟩ := Prod.mk.inj (Option.some.inj read)
        exact (commaless_readGroup _ _).taken taken
      · rename_i taken
        obtain ⟨front, rfl, front_good⟩ := (commaless_readGroup _ _).taken taken
        obtain ⟨back, rfl, back_good⟩ := ih _ read
        exact ⟨front ++ back, (List.append_assoc _ _ _).symm,
          List.forall_mem_append.mpr ⟨front_good, back_good⟩⟩

theorem commaless_readIpv6Addr : Commaless readIpv6Addr := by
  refine .bind (commaless_readGroups 8 []) fun head => ?_
  apply Within.ite (.pure _)
  apply Within.ite .failure
  exact .bind (.given (by decide)) fun _ => .bind (.given (by decide)) fun _ =>
    .bind (commaless_readGroups _ []) fun _ => .pure _

theorem commaless_readIpAddr : Commaless readIpAddr :=
  .orElse (.bind commaless_readIpv4Addr fun _ => .pure _)
    (.bind commaless_readIpv6Addr fun _ => .pure _)

theorem IpAddr.comma_notMem_of_parse {text : List Char} {ip : IpAddr}
    (parsed : IpAddr.parse text = some ip) : ',' ∉ text :=
  fun member => commaless_readIpAddr.forall_mem_of_whole parsed ',' member rfl

end Togewire.Server
