import Mathlib.Data.List.TakeWhile
import Togewire.Foundation.Digits
import Togewire.Foundation.Trim
import Togewire.Server.IpAddr
import Togewire.Spotify.RateLimit

/-!
# The address a client is counted by

Behind a trusted proxy the client is the first hop of X-Forwarded-For, from the right, which is not
a trusted proxy itself.  A client's own hops stand further left, and are not reached.  But a line
is read as a whole or not at all, and bytes the client has sent may share a line with the hops a
proxy has appended.
-/

namespace Togewire.Server

open Spotify.RateLimit (toStr)

/-! ## Reading the headers -/

/-- The bytes a header may have. -/
def admittedByte (byte : UInt8) : Bool := (32 ≤ byte && byte != 127) || byte == 9

/-- The value of a header line. -/
structure HeaderValue where
  bytes : List UInt8
  valid : ∀ byte ∈ bytes, admittedByte byte = true

def trim (text : List Char) : List Char := Trimming.strip Char.isWhitespace text

/-- `map_while` -/
def mapWhile {α β : Type} (f : α → Option β) : List α → List β
  | [] => []
  | item :: items =>
      match f item with
      | none => []
      | some value => value :: mapWhile f items

/-- `is_trusted_proxy` -/
def isTrustedProxy (ip : IpAddr) : Bool :=
  match ip.toCanonical with
  | .v4 addr => addr.isLoopback || addr.isPrivate
  | .v6 addr => addr.isLoopback || addr.isUniqueLocal

/-- The hops of a line from the right. -/
def HeaderValue.hops (value : HeaderValue) : List (List Char) :=
  (((toStr value.bytes).getD []).splitOn ',').reverse

/-- A hop as an address. -/
def parseHop (hop : List Char) : Option IpAddr := IpAddr.parse (trim hop)

/-- The walk past trusted hops, with the last one met. -/
def walk : Option IpAddr → List IpAddr → Option IpAddr
  | client, [] => client
  | _, ip :: hops => if isTrustedProxy ip then walk (some ip) hops else some ip

/-- The hops of all lines from the right. -/
def hopTexts (lines : List HeaderValue) : List (List Char) :=
  lines.reverse.flatMap HeaderValue.hops

/-- The client in X-Forwarded-For. -/
def forwardedClientIp (lines : List HeaderValue) : Option IpAddr :=
  walk none (mapWhile parseHop (hopTexts lines))

/-- `{:x}` -/
def hex (segment : UInt16) : List Char := Nat.toDigits 16 segment.toNat

/-- An octet as it is written in an address. -/
def decimal (octet : UInt8) : List Char := Nat.toDigits 10 octet.toNat

/-- `Ipv4Addr` as it is displayed. -/
def Ipv4Addr.text (addr : Ipv4Addr) : List Char :=
  ['.'].intercalate [decimal addr.a, decimal addr.b, decimal addr.c, decimal addr.d]

/-- The /64 of an address. -/
def Ipv6Addr.prefixText (addr : Ipv6Addr) : List Char :=
  [':'].intercalate (addr.network.map hex) ++ "::/64".toList

/-- IPv6 counts per /64. -/
def limitKey (ip : IpAddr) : String :=
  match ip.toCanonical with
  | .v6 addr => String.ofList addr.prefixText
  | .v4 addr => String.ofList addr.text

/-- The key rate limits and connection caps count by, from the lines of X-Forwarded-For. -/
def clientIp (lines : List HeaderValue) (peer : IpAddr) : String :=
  limitKey ((if isTrustedProxy peer then forwardedClientIp lines else none).getD peer)

/-! ## Keys -/

theorem separator_notMem_toDigits {base number : Nat} (above : 1 < base) {separator : Char}
    (other : separator = '.' ∨ separator = ':') : separator ∉ Nat.toDigits base number := by
  intro member
  obtain ⟨digit, -, same⟩ := Digits.mem_toDigits above member
  rcases other with rfl | rfl
  · exact Nat.digitChar_ne '.' (by decide) same.symm
  · exact Nat.digitChar_ne ':' (by decide) same.symm

theorem hex_injective : Function.Injective hex := fun _ _ same =>
  UInt16.toNat_inj.mp (Digits.toDigits_injective (by decide) (by decide) same)

theorem decimal_injective : Function.Injective decimal := fun _ _ same =>
  UInt8.toNat_inj.mp (Digits.toDigits_injective (by decide) (by decide) same)

theorem text_injective : Function.Injective Ipv4Addr.text := by
  intro first second same
  have split (addr : Ipv4Addr) : addr.text.splitOn '.' =
      [decimal addr.a, decimal addr.b, decimal addr.c, decimal addr.d] :=
    List.splitOn_intercalate '.'
      (by simp [decimal, separator_notMem_toDigits]) (List.cons_ne_nil _ _)
  have octets := congrArg (List.splitOn '.') same
  rw [split, split] at octets
  simp only [List.cons.injEq, decimal_injective.eq_iff, and_true] at octets
  obtain ⟨a, b, c, d⟩ := octets
  cases first
  cases second
  simp_all

theorem prefixText_inj {first second : Ipv6Addr} :
    first.prefixText = second.prefixText ↔ first.network = second.network := by
  have split (addr : Ipv6Addr) :
      ([':'].intercalate (addr.network.map hex)).splitOn ':' = addr.network.map hex :=
    List.splitOn_intercalate ':' (by simp [hex, separator_notMem_toDigits]) (List.cons_ne_nil _ _)
  constructor
  · intro same
    have segments := congrArg (List.splitOn ':') (List.append_cancel_right same)
    rw [split, split] at segments
    exact List.map_injective_iff.mpr hex_injective segments
  · intro same
    rw [Ipv6Addr.prefixText, Ipv6Addr.prefixText, same]

/-- Only an IPv6 key has a colon. -/
theorem text_ne_prefixText (first : Ipv4Addr) (second : Ipv6Addr) :
    first.text ≠ second.prefixText := by
  intro same
  have colon : ':' ∈ second.prefixText := by simp [Ipv6Addr.prefixText]
  rw [← same] at colon
  simp [Ipv4Addr.text, List.intercalate, decimal, separator_notMem_toDigits] at colon

/-- The two are counted by one key although only the first is a trusted proxy. -/
def InLoopbackPrefix (proxy client : IpAddr) : Prop :=
  proxy.toCanonical = .v6 .loopback ∧
    ∃ addr, client.toCanonical = .v6 addr ∧ Ipv6Addr.loopback.network = addr.network

/-- A key tells a client from the trusted proxies, but for those in the prefix of `::1`. -/
theorem limitKey_eq_iff {proxy client : IpAddr} (trusted : isTrustedProxy proxy = true)
    (untrusted : isTrustedProxy client = false) :
    limitKey proxy = limitKey client ↔ InLoopbackPrefix proxy client := by
  unfold isTrustedProxy at trusted untrusted
  unfold limitKey InLoopbackPrefix
  generalize proxy.toCanonical = first at trusted ⊢
  generalize client.toCanonical = second at untrusted ⊢
  cases first with
  | v4 first =>
      cases second with
      | v4 second =>
          simp only [String.ofList_inj, text_injective.eq_iff, reduceCtorEq, false_and, iff_false]
          rintro rfl
          rw [trusted] at untrusted
          cases untrusted
      | v6 second => simp [String.ofList_inj, text_ne_prefixText]
  | v6 first =>
      cases second with
      | v4 second => simp [String.ofList_inj, (text_ne_prefixText _ _).symm]
      | v6 second =>
          simp only [String.ofList_inj, prefixText_inj, IpAddr.v6.injEq, exists_eq_left']
          constructor
          · intro same
            have looped : first.isLoopback = true := by
              by_contra other
              have unique : first.isUniqueLocal = true := by simpa [other] using trusted
              have shared : second.isUniqueLocal = true := by
                rwa [Ipv6Addr.isUniqueLocal, (List.cons.inj same).1] at unique
              simp [shared] at untrusted
            obtain rfl : first = .loopback := of_decide_eq_true looped
            exact ⟨rfl, same⟩
          · rintro ⟨rfl, same⟩
            exact same

/-! ## Lines of hops -/

/-- A hop as a proxy writes it, possibly padded. -/
structure Hop where
  bytes : List UInt8
  ip : IpAddr
  parsed : (toStr bytes).bind parseHop = some ip

/-- The hops appended to a line. -/
structure HopLine where
  first : Hop
  others : List Hop

/-- The hops of a line from the left. -/
def HopLine.hops (line : HopLine) : List Hop := line.first :: line.others

/-- The hops separated by commas. -/
def joined : Hop → List Hop → List UInt8
  | hop, [] => hop.bytes
  | hop, next :: hops => hop.bytes ++ 44 :: joined next hops

/-- The bytes of a text which can be read. -/
def visible (byte : UInt8) : Bool := (32 ≤ byte && byte < 127) || byte == 9

/-- A readable byte as a character. -/
def byteChar (byte : UInt8) : Char := Char.ofNat byte.toNat

theorem toStr_of_visible {bytes : List UInt8} (shown : ∀ byte ∈ bytes, visible byte = true) :
    toStr bytes = some (bytes.map byteChar) :=
  if_pos (List.all_eq_true.mpr shown)

theorem visible_of_toStr {bytes : List UInt8} {text : List Char}
    (decoded : toStr bytes = some text) :
    (∀ byte ∈ bytes, visible byte = true) ∧ text = bytes.map byteChar := by
  obtain ⟨shown, same⟩ := Option.ite_none_right_eq_some.mp decoded
  exact ⟨List.all_eq_true.mp shown, (Option.some.inj same).symm⟩

theorem toStr_of_not_visible {bytes : List UInt8}
    (hidden : ¬ ∀ byte ∈ bytes, visible byte = true) : toStr bytes = none :=
  if_neg fun shown => hidden (List.all_eq_true.mp shown)

theorem admitted_of_visible {byte : UInt8} (shown : visible byte = true) :
    admittedByte byte = true := by
  simp only [visible, admittedByte, Bool.or_eq_true, Bool.and_eq_true, decide_eq_true_eq,
    bne_iff_ne, beq_iff_eq] at shown ⊢
  rcases shown with ⟨lower, upper⟩ | tab
  · refine .inl ⟨lower, ?_⟩
    rintro rfl
    exact absurd upper (by decide)
  · exact .inr tab

/-- An admitted byte can be read if it is ASCII. -/
theorem visible_iff_lt {byte : UInt8} (valid : admittedByte byte = true) :
    visible byte = true ↔ byte < 128 := by
  simp only [visible, admittedByte, Bool.or_eq_true, Bool.and_eq_true, decide_eq_true_eq,
    bne_iff_ne, beq_iff_eq, UInt8.lt_iff_toNat_lt, UInt8.le_iff_toNat_le, ← UInt8.toNat_inj, ne_eq,
    UInt8.reduceToNat] at valid ⊢
  omega

namespace Hop

def text (hop : Hop) : List Char := hop.bytes.map byteChar

theorem visible_bytes (hop : Hop) : ∀ byte ∈ hop.bytes, visible byte = true := by
  obtain ⟨text, decoded, -⟩ := Option.bind_eq_some_iff.mp hop.parsed
  exact (visible_of_toStr decoded).1

theorem parseHop_text (hop : Hop) : parseHop hop.text = some hop.ip := by
  obtain ⟨text, decoded, parsed⟩ := Option.bind_eq_some_iff.mp hop.parsed
  rw [(visible_of_toStr decoded).2] at parsed
  exact parsed

end Hop

theorem mem_trim {text : List Char} {char : Char} (member : char ∈ text)
    (shown : char.isWhitespace = false) : char ∈ trim text := by
  have kept {part : List Char} (inside : char ∈ part) :
      char ∈ part.dropWhile Char.isWhitespace := by
    rw [← List.takeWhile_append_dropWhile (p := Char.isWhitespace) (l := part)] at inside
    rcases List.mem_append.mp inside with blank | rest
    · have white := List.mem_takeWhile_imp blank
      rw [shown] at white
      cases white
    · exact rest
  exact List.mem_reverse.mpr (kept (List.mem_reverse.mpr (kept member)))

theorem Hop.comma_notMem (hop : Hop) : ',' ∉ hop.text := fun member =>
  IpAddr.comma_notMem_of_parse hop.parseHop_text (mem_trim member (by decide))

theorem visible_joined (hop : Hop) (others : List Hop) :
    ∀ byte ∈ joined hop others, visible byte = true := by
  induction others generalizing hop with
  | nil => exact hop.visible_bytes
  | cons next others ih =>
      exact List.forall_mem_append.mpr ⟨hop.visible_bytes,
        List.forall_mem_cons.mpr ⟨by decide, ih next⟩⟩

/-- The hops which have been appended are what a line splits into. -/
theorem splitOn_joined (hop : Hop) (others : List Hop) :
    ((joined hop others).map byteChar).splitOn ',' = (hop :: others).map Hop.text := by
  induction others generalizing hop with
  | nil => exact List.splitOn_eq_singleton hop.comma_notMem
  | cons next others ih =>
      have separated : (joined hop (next :: others)).map byteChar =
          hop.text ++ ',' :: (joined next others).map byteChar := by
        simp [joined, Hop.text, byteChar]
      rw [separated, List.splitOn_eq_splitOnP, List.splitOnP_append_cons _ _ (by simp),
        ← List.splitOn_eq_splitOnP, ← List.splitOn_eq_splitOnP,
        List.splitOn_eq_singleton hop.comma_notMem, ih]
      rfl

namespace HopLine

def bytes (line : HopLine) : List UInt8 := joined line.first line.others

theorem visible_bytes (line : HopLine) : ∀ byte ∈ line.bytes, visible byte = true :=
  visible_joined line.first line.others

/-- The line of proxies alone. -/
def value (line : HopLine) : HeaderValue where
  bytes := line.bytes
  valid := fun byte member => admitted_of_visible (line.visible_bytes byte member)

/-- The line of proxies after what the client has sent in it. -/
def after (line : HopLine) (content : HeaderValue) : HeaderValue where
  bytes := content.bytes ++ 44 :: line.bytes
  valid := List.forall_mem_append.mpr ⟨content.valid,
    List.forall_mem_cons.mpr ⟨by decide, line.value.valid⟩⟩

theorem hops_value (line : HopLine) : line.value.hops = line.hops.reverse.map Hop.text := by
  unfold HeaderValue.hops
  rw [value, toStr_of_visible line.visible_bytes, Option.getD_some, bytes, splitOn_joined,
    List.map_reverse]
  rfl

/-- What can be read of the client's own bytes stands left of the hops. -/
theorem hops_after_of_visible (line : HopLine) {content : HeaderValue}
    (legible : ∀ byte ∈ content.bytes, visible byte = true) :
    (line.after content).hops = line.hops.reverse.map Hop.text ++ content.hops := by
  have shown : ∀ byte ∈ (line.after content).bytes, visible byte = true :=
    List.forall_mem_append.mpr ⟨legible, List.forall_mem_cons.mpr ⟨by decide, line.visible_bytes⟩⟩
  have separated : (line.after content).bytes.map byteChar =
      content.bytes.map byteChar ++ ',' :: line.bytes.map byteChar := by
    simp [after, byteChar]
  unfold HeaderValue.hops
  rw [toStr_of_visible shown, toStr_of_visible legible, Option.getD_some, Option.getD_some,
    separated, List.splitOn_eq_splitOnP, List.splitOnP_append_cons _ _ (by simp),
    ← List.splitOn_eq_splitOnP, ← List.splitOn_eq_splitOnP, bytes, splitOn_joined,
    List.reverse_append, List.map_reverse]
  rfl

/-- A line which cannot be read has no hop. -/
theorem hops_after_of_not_visible (line : HopLine) {content : HeaderValue}
    (illegible : ¬ ∀ byte ∈ content.bytes, visible byte = true) :
    (line.after content).hops = [[]] := by
  have hidden : ¬ ∀ byte ∈ (line.after content).bytes, visible byte = true :=
    fun shown => illegible (List.forall_mem_append.mp shown).1
  unfold HeaderValue.hops
  rw [toStr_of_not_visible hidden]
  rfl

end HopLine

/-! ## The walk -/

theorem hopTexts_append (lines more : List HeaderValue) :
    hopTexts (lines ++ more) = hopTexts more ++ hopTexts lines := by
  simp [hopTexts]

theorem mapWhile_texts (hops : List Hop) (more : List (List Char)) :
    mapWhile parseHop (hops.map Hop.text ++ more) = hops.map Hop.ip ++ mapWhile parseHop more := by
  induction hops with
  | nil => rfl
  | cons hop hops ih => simp [mapWhile, hop.parseHop_text, ih]

/-- The walk ends at the first hop which is not a trusted proxy. -/
theorem walk_of_find? {hops : List IpAddr} {ip : IpAddr}
    (found : hops.find? (!isTrustedProxy ·) = some ip) (more : List IpAddr)
    (client : Option IpAddr) : walk client (hops ++ more) = some ip := by
  induction hops generalizing client with
  | nil => cases found
  | cons hop hops ih =>
      rw [List.cons_append, walk]
      cases trusted : isTrustedProxy hop with
      | true => exact ih (by simpa [trusted] using found) (some hop)
      | false =>
          obtain rfl : hop = ip := by simpa [trusted] using found
          rfl

/-- The walk past trusted hops comes to the last one. -/
theorem walk_of_trusted {hops : List IpAddr} (trusted : ∀ hop ∈ hops, isTrustedProxy hop = true)
    (client : Option IpAddr) : walk client hops = hops.getLast?.or client := by
  induction hops generalizing client with
  | nil => rfl
  | cons hop hops ih =>
      obtain ⟨first, others⟩ := List.forall_mem_cons.mp trusted
      rw [walk, if_pos first, ih others, List.getLast?_cons]
      cases hops.getLast? <;> rfl

/-! ## Hops the client cannot choose -/

/-- What the proxies have appended: to a line which may have come from the client, and in lines
of their own. -/
structure Appended where
  first : HopLine
  later : List HopLine

/-- What the client has sent: lines of its own, and what stands in the line of the first hops. -/
structure Claimed where
  lines : List HeaderValue := []
  shared : Option HeaderValue := none

namespace Appended

/-- The hops of the lines of their own. -/
def laterHops (appended : Appended) : List Hop := appended.later.flatMap HopLine.hops

def hops (appended : Appended) : List Hop := appended.first.hops ++ appended.laterHops

def line (appended : Appended) (claimed : Claimed) : HeaderValue :=
  match claimed.shared with
  | none => appended.first.value
  | some content => appended.first.after content

/-- The lines of X-Forwarded-For. -/
def headers (appended : Appended) (claimed : Claimed) : List HeaderValue :=
  claimed.lines ++ appended.line claimed :: appended.later.map HopLine.value

/-- The right-most hop which is not a trusted proxy. -/
def nearest (appended : Appended) : Option IpAddr :=
  (appended.hops.reverse.map Hop.ip).find? (!isTrustedProxy ·)

/-- The left-most hop of the lines of their own, or else the peer. -/
def fallback (appended : Appended) (peer : IpAddr) : IpAddr :=
  (appended.laterHops.head?.map Hop.ip).getD peer

end Appended

/-- What the client has sent before the hops can be read. -/
def Claimed.Legible (claimed : Claimed) : Prop :=
  ∀ content, claimed.shared = some content → ∀ byte ∈ content.bytes, byte < 128

namespace Appended

variable {appended : Appended} {claimed : Claimed} {peer client : IpAddr}

theorem hopTexts_later (later : List HopLine) :
    hopTexts (later.map HopLine.value) = (later.flatMap HopLine.hops).reverse.map Hop.text := by
  induction later with
  | nil => rfl
  | cons line later ih =>
      have first : hopTexts [line.value] = line.hops.reverse.map Hop.text := by
        simpa [hopTexts] using line.hops_value
      rw [List.map_cons, ← List.singleton_append, hopTexts_append, ih, first, List.flatMap_cons,
        List.reverse_append, List.map_append]

/-- From the right, the proxies' own lines come first and the client's come last. -/
theorem hopTexts_headers (appended : Appended) (claimed : Claimed) :
    hopTexts (appended.headers claimed) = appended.laterHops.reverse.map Hop.text ++
      ((appended.line claimed).hops ++ hopTexts claimed.lines) := by
  have own : hopTexts [appended.line claimed] = (appended.line claimed).hops := by simp [hopTexts]
  rw [headers, hopTexts_append, ← List.singleton_append, hopTexts_append, hopTexts_later, own,
    List.append_assoc]
  rfl

/-- The hops of a line the client's bytes leave legible are read. -/
theorem hops_of_legible (legible : claimed.Legible) :
    ∃ more, mapWhile parseHop (hopTexts (appended.headers claimed)) =
      appended.hops.reverse.map Hop.ip ++ more := by
  have read : ∃ rest, (appended.line claimed).hops =
      appended.first.hops.reverse.map Hop.text ++ rest := by
    unfold line
    cases shared : claimed.shared with
    | none => exact ⟨[], by rw [List.append_nil, ← HopLine.hops_value]⟩
    | some content =>
        have shown : ∀ byte ∈ content.bytes, visible byte = true := fun byte member =>
          (visible_iff_lt (content.valid byte member)).mpr (legible content shared byte member)
        exact ⟨content.hops, appended.first.hops_after_of_visible shown⟩
  obtain ⟨rest, read⟩ := read
  refine ⟨mapWhile parseHop (rest ++ hopTexts claimed.lines), ?_⟩
  rw [hopTexts_headers, read, List.append_assoc, mapWhile_texts, mapWhile_texts,
    ← List.append_assoc, ← List.map_append, ← List.reverse_append]
  rfl

/-- No hop of a line the client's bytes leave illegible is read, nor one left of it. -/
theorem hops_of_not_legible (illegible : ¬ claimed.Legible) :
    mapWhile parseHop (hopTexts (appended.headers claimed)) =
      appended.laterHops.reverse.map Hop.ip := by
  simp only [Claimed.Legible, not_forall] at illegible
  obtain ⟨content, shared, byte, member, outside⟩ := illegible
  have hidden : ¬ ∀ byte ∈ content.bytes, visible byte = true := fun shown =>
    outside ((visible_iff_lt (content.valid byte member)).mp (shown byte member))
  have unread : (appended.line claimed).hops = [[]] := by
    simp [line, shared, appended.first.hops_after_of_not_visible hidden]
  rw [hopTexts_headers, unread, mapWhile_texts]
  exact List.append_nil _

theorem untrusted_of_nearest (found : appended.nearest = some client) :
    isTrustedProxy client = false := by
  simpa using List.find?_some found

/-- With the client's bytes out of the way the walk ends at the right-most client. -/
theorem clientIp_of_legible (trusted : isTrustedProxy peer = true)
    (found : appended.nearest = some client) (legible : claimed.Legible) :
    clientIp (appended.headers claimed) peer = limitKey client := by
  obtain ⟨more, read⟩ := appended.hops_of_legible legible
  rw [clientIp, if_pos trusted, forwardedClientIp, read, walk_of_find? found]
  rfl

/-- A hop of a later line is reached before the client's bytes. -/
theorem clientIp_of_later (trusted : isTrustedProxy peer = true)
    (found : appended.nearest = some client) (illegible : ¬ claimed.Legible)
    (later : ∃ hop ∈ appended.laterHops, isTrustedProxy hop.ip = false) :
    clientIp (appended.headers claimed) peer = limitKey client := by
  have reached : (appended.laterHops.reverse.map Hop.ip).find? (!isTrustedProxy ·) =
      some client := by
    obtain ⟨hop, listed, untrusted⟩ := later
    have exists_one : ((appended.laterHops.reverse.map Hop.ip).find?
        (!isTrustedProxy ·)).isSome := by
      rw [List.find?_isSome]
      exact ⟨hop.ip, List.mem_map_of_mem (List.mem_reverse.mpr listed), by simp [untrusted]⟩
    obtain ⟨other, first⟩ := Option.isSome_iff_exists.mp exists_one
    rw [nearest, hops, List.reverse_append, List.map_append, List.find?_append, first,
      Option.some_or] at found
    rw [first, found]
  have walked := walk_of_find? reached [] none
  rw [List.append_nil] at walked
  rw [clientIp, if_pos trusted, forwardedClientIp, hops_of_not_legible illegible, walked]
  rfl

/-- Past trusted hops alone the walk comes to the fallback. -/
theorem clientIp_of_fallback (trusted : isTrustedProxy peer = true) (illegible : ¬ claimed.Legible)
    (later : ∀ hop ∈ appended.laterHops, isTrustedProxy hop.ip = true) :
    clientIp (appended.headers claimed) peer = limitKey (appended.fallback peer) := by
  have passed : ∀ ip ∈ appended.laterHops.reverse.map Hop.ip, isTrustedProxy ip = true := by
    intro ip member
    obtain ⟨hop, listed, rfl⟩ := List.mem_map.mp member
    exact later hop (List.mem_reverse.mp listed)
  rw [clientIp, if_pos trusted, forwardedClientIp, hops_of_not_legible illegible,
    walk_of_trusted passed, List.getLast?_map, List.getLast?_reverse, Option.or_none]
  rfl

theorem trusted_fallback (trusted : isTrustedProxy peer = true)
    (later : ∀ hop ∈ appended.laterHops, isTrustedProxy hop.ip = true) :
    isTrustedProxy (appended.fallback peer) = true := by
  unfold fallback
  cases first : appended.laterHops.head? with
  | none => exact trusted
  | some hop => exact later hop (List.mem_of_head? first)

/-- Headers from a peer which is not trusted are ignored.  From a trusted one, a client is counted
by the right-most hop which is not a trusted proxy, whatever it has sent itself, exactly if what
stands in the line of the first hops can be read, or such a hop stands in a later line, or the walk
falls back on `::1` and the hop shares its prefix. -/
theorem client_keeps_its_key_iff (peer : IpAddr) (headers : List HeaderValue) (appended : Appended)
    (claimed : Claimed) :
    (isTrustedProxy peer = false → clientIp headers peer = limitKey peer) ∧
      ∀ {client : IpAddr}, isTrustedProxy peer = true → appended.nearest = some client →
        clientIp (appended.headers {}) peer = limitKey client ∧
          (clientIp (appended.headers claimed) peer = limitKey client ↔
            claimed.Legible ∨ (∃ hop ∈ appended.laterHops, isTrustedProxy hop.ip = false) ∨
              InLoopbackPrefix (appended.fallback peer) client) := by
  constructor
  · intro untrusted
    simp [clientIp, untrusted]
  · intro client trusted found
    have nothing : ({} : Claimed).Legible := nofun
    refine ⟨clientIp_of_legible trusted found nothing, ?_⟩
    by_cases legible : claimed.Legible
    · exact iff_of_true (clientIp_of_legible trusted found legible) (.inl legible)
    · by_cases later : ∃ hop ∈ appended.laterHops, isTrustedProxy hop.ip = false
      · exact iff_of_true (clientIp_of_later trusted found legible later) (.inr (.inl later))
      · have passed : ∀ hop ∈ appended.laterHops, isTrustedProxy hop.ip = true := by
          simpa using later
        rw [clientIp_of_fallback trusted legible passed,
          limitKey_eq_iff (trusted_fallback trusted passed) (untrusted_of_nearest found)]
        simp [legible, later]

end Appended

/-! ## A reverse proxy on the same host -/

private def localProxy : IpAddr := .v4 ⟨127, 0, 0, 1⟩

/-- `203.0.113.10`, after a blank. -/
private def publicHop : Hop where
  bytes := [32, 50, 48, 51, 46, 48, 46, 49, 49, 51, 46, 49, 48]
  ip := .v4 ⟨203, 0, 113, 10⟩
  parsed := by decide +kernel

private def proxied : Appended := ⟨⟨publicHop, []⟩, []⟩

/-- `9.9.9.9` -/
private def forged : Claimed where
  shared := some ⟨[57, 46, 57, 46, 57, 46, 57], List.all_eq_true.mp (by decide)⟩

/-- A byte which is not ASCII. -/
private def garbled : Claimed where
  shared := some ⟨[200], List.all_eq_true.mp (by decide)⟩

theorem forged_hop_is_ignored :
    clientIp (proxied.headers {}) localProxy = limitKey publicHop.ip ∧
      (clientIp (proxied.headers forged) localProxy = limitKey publicHop.ip ↔
        forged.Legible ∨ (∃ hop ∈ proxied.laterHops, isTrustedProxy hop.ip = false) ∨
          InLoopbackPrefix (proxied.fallback localProxy) publicHop.ip) :=
  (Appended.client_keeps_its_key_iff localProxy [] proxied forged).2 (by decide) (by decide)

theorem garbled_client_takes_the_proxy_key :
    isTrustedProxy localProxy = true ∧ proxied.nearest = some publicHop.ip ∧
      clientIp (proxied.headers garbled) localProxy = limitKey localProxy ∧
      limitKey localProxy ≠ limitKey publicHop.ip := by
  decide +kernel

end Togewire.Server
