import Togewire.Foundation.Hexadecimal
import Togewire.Server.ClientIp

/-!
# Admin sessions

A session is a cookie which carries the digest of the admin hash.  What the server sets, a browser
sends back among the cookies of other pages, and is admitted.  A POST must come from a page of the
host it is sent to.
-/

namespace Togewire.Admin

open Server
open Spotify.RateLimit (toStr)

/-! ## Reading the headers -/

/-- The headers by which a request is admitted; of a repeated one only the first counts, but for
the cookies. -/
structure Headers where
  host : Option HeaderValue := none
  origin : Option HeaderValue := none
  referer : Option HeaderValue := none
  cookies : List HeaderValue := []

/-- `strip_prefix`. -/
def stripPrefix (front text : List Char) : Option (List Char) :=
  if front.isPrefixOf text then some (text.drop front.length) else none

/-- `SESSION_COOKIE`. -/
def sessionCookieName : List Char := "togewire_session".toList

/-- The token of a cookie of ours. -/
def ownToken (cookie : List Char) : Option (List Char) :=
  (stripPrefix sessionCookieName (trim cookie)).bind (stripPrefix ['='])

/-- The pairs of all lines which can be read. -/
def cookiePairs (headers : Headers) : List (List Char) :=
  (headers.cookies.filterMap fun line => toStr line.bytes).flatMap fun line => line.splitOn ';'

/-- `session_cookie` of a request: the first cookie of ours. -/
def sessionCookie (headers : Headers) : Option (List Char) :=
  (cookiePairs headers).findSome? ownToken

/-- `https://` or `http://`. -/
def stripScheme (url : List Char) : Option (List Char) :=
  (stripPrefix "https://".toList url).or (stripPrefix "http://".toList url)

/-- What ends the host of a URL. -/
def endsHost (char : Char) : Bool := char == '/' || char == '?' || char == '#'

/-- `host_from_absolute_url`. -/
def hostFromAbsoluteUrl (url : List Char) : Option (List Char) :=
  (stripScheme url).bind fun rest =>
    let host := rest.takeWhile fun char => !endsHost char
    if host = [] then none else some host

/-- `eq_ignore_ascii_case`. -/
def eqIgnoreAsciiCase (first second : List Char) : Bool :=
  first.map Char.toLower == second.map Char.toLower

/-- `same_origin_post`: Origin, else Referer, names this host. -/
def sameOriginPost (headers : Headers) : Bool :=
  match headers.host.bind fun value => toStr value.bytes with
  | none => false
  | some host =>
      ((headers.origin.bind fun value => toStr value.bytes).or
          (headers.referer.bind fun value => toStr value.bytes)).bind hostFromAbsoluteUrl
        |>.any (eqIgnoreAsciiCase · host)

/-! ## Tokens -/

/-- `COOKIE_MAX_AGE_SECS`. -/
def cookieMaxAgeSecs : Nat := 400 * 86400

section Digest

variable (sha256 : List UInt8 → List UInt8)

/-- `session_token`. -/
def sessionToken (adminHash : String) : List Char :=
  Hexadecimal.encode (sha256 adminHash.toUTF8.toList)

/-- `is_valid_session`. -/
def isValidSession (adminHash : String) (token : List Char) : Bool :=
  adminHash != "" && sessionToken sha256 adminHash == token

/-- `is_admin`, given the configured hash. -/
def isAdmin (adminHash : String) (headers : Headers) : Bool :=
  (sessionCookie headers).any (isValidSession sha256 adminHash)

end Digest

/-! ## What a session is -/

/-- Without the blanks around it, a pair is our cookie with this token. -/
def IsSession (token pair : List Char) : Prop :=
  Trimming.strip Char.isWhitespace pair = "togewire_session=".toList ++ token

/-- The first session among the cookies has this token. -/
def HasSession (token : List Char) (headers : Headers) : Prop :=
  ∃ before pair after, cookiePairs headers = before ++ pair :: after ∧ IsSession token pair ∧
    ∀ earlier ∈ before, ∀ other, ¬IsSession other earlier

theorem stripPrefix_append (front rest : List Char) :
    stripPrefix front (front ++ rest) = some rest := by
  rw [stripPrefix, if_pos (List.isPrefixOf_iff_prefix.mpr (List.prefix_append front rest)),
    List.drop_left]

theorem stripPrefix_eq_some_iff {front text rest : List Char} :
    stripPrefix front text = some rest ↔ text = front ++ rest := by
  constructor
  · intro stripped
    rw [stripPrefix, Option.ite_none_right_eq_some] at stripped
    obtain ⟨begins, dropped⟩ := stripped
    obtain ⟨tail, rfl⟩ := List.isPrefixOf_iff_prefix.mp begins
    rw [← Option.some.inj dropped, List.drop_left]
  · rintro rfl
    exact stripPrefix_append front rest

theorem isSession_iff {pair token : List Char} :
    IsSession token pair ↔ trim pair = sessionCookieName ++ '=' :: token := by
  have named : "togewire_session=".toList = sessionCookieName ++ ['='] := by decide
  rw [IsSession, named, List.append_assoc]
  rfl

theorem ownToken_eq_some_iff {pair token : List Char} :
    ownToken pair = some token ↔ IsSession token pair := by
  rw [isSession_iff]
  simp only [ownToken, Option.bind_eq_some_iff, stripPrefix_eq_some_iff]
  constructor
  · rintro ⟨rest, whole, rfl⟩
    exact whole
  · intro session
    exact ⟨'=' :: token, session, rfl⟩

theorem ownToken_eq_none_iff {pair : List Char} :
    ownToken pair = none ↔ ∀ token, ¬IsSession token pair := by
  rw [Option.eq_none_iff_forall_not_mem]
  exact forall_congr' fun token => not_congr ownToken_eq_some_iff

theorem sessionCookie_eq_some_iff {headers : Headers} {token : List Char} :
    sessionCookie headers = some token ↔ HasSession token headers := by
  rw [sessionCookie, List.findSome?_eq_some_iff]
  simp only [ownToken_eq_some_iff, ownToken_eq_none_iff]
  rfl

/-- Whoever has the session of the configured password is the admin, and nobody else. -/
theorem isAdmin_iff (sha256 : List UInt8 → List UInt8) {adminHash : String} {headers : Headers} :
    isAdmin sha256 adminHash headers = true ↔
      adminHash ≠ "" ∧
        HasSession (Hexadecimal.encode (sha256 adminHash.toUTF8.toList)) headers := by
  rw [← sessionCookie_eq_some_iff, isAdmin]
  cases sessionCookie headers with
  | none => simp
  | some token =>
      simp only [Option.any_some, isValidSession, sessionToken, Bool.and_eq_true, bne_iff_ne,
        beq_iff_eq, Option.some.injEq]
      exact and_congr_right fun _ => eq_comm

/-- `auth::session_cookie`: the cookie that a login sets. -/
def setCookie (secure : Bool) (token : List Char) : List Char :=
  sessionCookieName ++ '=' :: token ++
    s!"; Path=/; Max-Age={cookieMaxAgeSecs}; HttpOnly".toList ++
      (if secure then "; Secure".toList else []) ++ "; SameSite=Lax".toList

/-! ## What a browser does with them -/

/-- A browser keeps the pair before the first semicolon. -/
def keptPair (cookie : List Char) : List Char := cookie.takeWhile fun char => char != ';'

/-- A browser joins the pairs it sends. -/
def cookieLine (pairs : List (List Char)) : List Char := "; ".toList.intercalate pairs

theorem plain_of_isDigit {char : Char} (digit : Hexadecimal.IsDigit char) :
    char.isWhitespace = false ∧ char ≠ ';' := by
  obtain ⟨value, small, rfl⟩ := digit
  have all : ∀ value : Fin 16, (Nat.digitChar value).isWhitespace = false ∧
      Nat.digitChar value ≠ ';' := by decide
  exact all ⟨value, small⟩

theorem trim_eq_self {text : List Char} (solid : ∀ char ∈ text, char.isWhitespace = false) :
    trim text = text := by
  have stripped : Trimming.Stripped Char.isWhitespace text :=
    ⟨fun char first => solid char (List.mem_of_mem_head? first),
      fun char last => solid char (List.mem_of_mem_getLast? last)⟩
  exact stripped.strip_eq

theorem ownToken_space (pair : List Char) : ownToken (' ' :: pair) = ownToken pair := by
  have dropped : trim (' ' :: pair) = trim pair := rfl
  rw [ownToken, dropped, ownToken]

section Cookies

variable {token : List Char} (plain : ∀ char ∈ token, char.isWhitespace = false ∧ char ≠ ';')

include plain

theorem keptPair_setCookie (secure : Bool) :
    keptPair (setCookie secure token) = sessionCookieName ++ '=' :: token := by
  have rest : ∃ rest, setCookie secure token = (sessionCookieName ++ '=' :: token) ++ ';' :: rest :=
    ⟨_, by simp only [setCookie, List.append_assoc]; rfl⟩
  obtain ⟨rest, split⟩ := rest
  have whole : ∀ char ∈ sessionCookieName ++ '=' :: token, (char != ';') = true := by
    intro char member
    rcases List.mem_append.mp member with name | other
    · have named : (sessionCookieName.all fun char => char != ';') = true := by decide
      exact List.all_eq_true.mp named char name
    · rcases List.mem_cons.mp other with rfl | inside
      · decide
      · simpa using (plain char inside).2
  rw [keptPair, split, List.takeWhile_append_of_pos whole]
  simp

theorem ownToken_pair : ownToken (sessionCookieName ++ '=' :: token) = some token := by
  have solid : ∀ char ∈ sessionCookieName ++ '=' :: token, char.isWhitespace = false := by
    intro char member
    rcases List.mem_append.mp member with name | other
    · have named : (sessionCookieName.all fun char => !char.isWhitespace) = true := by decide
      simpa using List.all_eq_true.mp named char name
    · rcases List.mem_cons.mp other with rfl | inside
      · decide
      · exact (plain char inside).1
  rw [ownToken, trim_eq_self solid, stripPrefix_append]
  exact stripPrefix_append ['='] token

end Cookies

theorem splitOn_spaced {pairs : List (List Char)} (some_pair : pairs ≠ [])
    (whole : ∀ pair ∈ pairs, ';' ∉ pair) :
    (' ' :: cookieLine pairs).splitOn ';' = pairs.map (' ' :: ·) := by
  induction pairs with
  | nil => exact absurd rfl some_pair
  | cons pair pairs ih =>
      have lone : ';' ∉ ' ' :: pair := by
        simpa using whole pair List.mem_cons_self
      cases pairs with
      | nil => simpa [cookieLine] using List.splitOn_eq_singleton lone
      | cons next pairs =>
          have separated : ' ' :: cookieLine (pair :: next :: pairs) =
              (' ' :: pair) ++ ';' :: (' ' :: cookieLine (next :: pairs)) := by
            simp [cookieLine, List.intercalate]
          rw [separated, List.splitOn_eq_splitOnP, List.splitOnP_append_cons _ _ (by simp),
            ← List.splitOn_eq_splitOnP, ← List.splitOn_eq_splitOnP,
            List.splitOn_eq_singleton lone,
            ih (by simp) fun other member => whole other (List.mem_cons_of_mem _ member)]
          rfl

/-- What the server reads from a line of pairs. -/
theorem findSome?_cookieLine {pairs : List (List Char)} (whole : ∀ pair ∈ pairs, ';' ∉ pair) :
    ((cookieLine pairs).splitOn ';').findSome? ownToken = pairs.findSome? ownToken := by
  cases pairs with
  | nil => rfl
  | cons pair pairs =>
      have lone : ';' ∉ pair := whole pair List.mem_cons_self
      cases pairs with
      | nil =>
          rw [show cookieLine [pair] = pair by simp [cookieLine],
            List.splitOn_eq_singleton lone]
      | cons next pairs =>
          have separated : cookieLine (pair :: next :: pairs) =
              pair ++ ';' :: (' ' :: cookieLine (next :: pairs)) := by
            simp [cookieLine, List.intercalate]
          rw [separated, List.splitOn_eq_splitOnP, List.splitOnP_append_cons _ _ (by simp),
            ← List.splitOn_eq_splitOnP, ← List.splitOn_eq_splitOnP,
            List.splitOn_eq_singleton lone,
            splitOn_spaced (by simp) fun other member =>
              whole other (List.mem_cons_of_mem _ member)]
          have read : (ownToken ∘ fun pair => ' ' :: pair) = ownToken := funext ownToken_space
          rw [List.singleton_append, List.findSome?_cons, List.findSome?_map, read,
            ← List.findSome?_cons]

theorem findSome?_foreign {pairs : List (List Char)}
    (foreign : ∀ pair ∈ pairs, ∀ token, ¬IsSession token pair) :
    pairs.findSome? ownToken = none :=
  List.findSome?_eq_none_iff.mpr fun pair member =>
    ownToken_eq_none_iff.mpr (foreign pair member)

/-- The lines of cookies which a browser sends: one that can be read has the session of this server
among other pairs, and no session stands before it where it can be read. -/
structure Sent (token : List Char) (secure : Bool) (headers : Headers) : Prop where
  lines : ∃ before line after earlier rest, headers.cookies = before ++ line :: after ∧
    (∀ other ∈ before, ∀ text, toStr other.bytes = some text →
      ∀ pair ∈ text.splitOn ';', ∀ token, ¬IsSession token pair) ∧
    toStr line.bytes =
      some (cookieLine (earlier ++ keptPair (setCookie secure token) :: rest)) ∧
    (∀ pair ∈ earlier ++ rest, ';' ∉ pair) ∧ ∀ pair ∈ earlier, ∀ token, ¬IsSession token pair

/-- What the server set is what it reads, whatever other cookies are sent along. -/
theorem sessionCookie_of_sent {token : List Char} {secure : Bool} {headers : Headers}
    (plain : ∀ char ∈ token, char.isWhitespace = false ∧ char ≠ ';')
    (sent : Sent token secure headers) : sessionCookie headers = some token := by
  obtain ⟨before, line, after, earlier, rest, lines, passed, shown, whole, foreign⟩ := sent.lines
  rw [keptPair_setCookie plain secure] at shown
  have separate : ∀ pair ∈ earlier ++ (sessionCookieName ++ '=' :: token) :: rest, ';' ∉ pair := by
    intro pair member
    rcases List.mem_append.mp member with other | own
    · exact whole pair (List.mem_append_left _ other)
    · rcases List.mem_cons.mp own with rfl | behind
      · intro semicolon
        rcases List.mem_append.mp semicolon with name | value
        · exact absurd name (by decide)
        · rcases List.mem_cons.mp value with equal | inside
          · exact absurd equal (by decide)
          · exact (plain ';' inside).2 rfl
      · exact whole pair (List.mem_append_right _ behind)
  have found : ((cookieLine (earlier ++ (sessionCookieName ++ '=' :: token) :: rest)).splitOn
      ';').findSome? ownToken = some token := by
    rw [findSome?_cookieLine separate, List.findSome?_append, findSome?_foreign foreign,
      Option.none_or, List.findSome?_cons, ownToken_pair plain]
  have nothing : ((before.filterMap fun line => toStr line.bytes).flatMap
      fun line => line.splitOn ';').findSome? ownToken = none := by
    refine findSome?_foreign fun pair member => ?_
    obtain ⟨text, read, inside⟩ := List.mem_flatMap.mp member
    obtain ⟨other, member, read⟩ := List.mem_filterMap.mp read
    exact passed other member text read pair inside
  rw [sessionCookie, cookiePairs, lines, List.filterMap_append, List.filterMap_cons, shown,
    List.flatMap_append, List.flatMap_cons, List.findSome?_append, nothing, Option.none_or,
    List.findSome?_append, found]
  rfl

/-- A browser that has logged in stays logged in while the hash is the same: the cookie which the
server sets is admitted again, whatever other cookies are sent along, unless a readable one of the
same name comes first. -/
theorem set_cookie_is_admitted (sha256 : List UInt8 → List UInt8) {adminHash : String}
    (set : adminHash ≠ "") {secure : Bool} {headers : Headers}
    (sent : Sent (sessionToken sha256 adminHash) secure headers) :
    isAdmin sha256 adminHash headers = true := by
  refine (isAdmin_iff sha256).mpr
    ⟨set, sessionCookie_eq_some_iff.mp (sessionCookie_of_sent ?_ sent)⟩
  intro char member
  exact plain_of_isDigit (Hexadecimal.isDigit_of_mem_encode member)

/-- A bcrypt hash of `toge wire`. -/
def exampleHash : String := "$2b$12$abcdefghijklmnopqrstuuHHplseJOq7ouyqvHAwc/oMbg9yTT7tW"

/-- The digest of that hash. -/
def exampleDigest : List UInt8 :=
  [168, 19, 213, 71, 184, 90, 37, 226, 100, 154, 169, 69, 12, 238, 80, 132, 15, 130, 204, 10, 227,
    196, 43, 227, 111, 209, 189, 13, 212, 216, 192, 13]

def plainHeader (text : List Char) : HeaderValue where
  bytes := (text.map fun char => UInt8.ofNat char.toNat).filter admittedByte
  valid _ admitted := (List.mem_filter.mp admitted).2

/-- The cookie of another page. -/
def themePair : List Char := "theme=dark".toList

/-- The session among the cookies of another page. -/
def exampleCookies : HeaderValue :=
  plainHeader (cookieLine
    [themePair, keptPair (setCookie true (sessionToken (fun _ => exampleDigest) exampleHash))])

/-- A line of its own, which cannot be read. -/
def foreignCookies : HeaderValue where
  bytes := [195, 169]
  valid byte member := by
    rcases List.mem_pair.mp member with rfl | rfl <;> rfl

theorem example_cookie_is_admitted :
    isAdmin (fun _ => exampleDigest) exampleHash
      { cookies := [foreignCookies, plainHeader themePair, exampleCookies] } = true := by
  have themed : ∀ token, ¬IsSession token themePair :=
    ownToken_eq_none_iff.mp (by decide)
  have sent : Sent (sessionToken (fun _ => exampleDigest) exampleHash) true
      { cookies := [foreignCookies, plainHeader themePair, exampleCookies] } := by
    refine ⟨[foreignCookies, plainHeader themePair], exampleCookies, [], [themePair], [], rfl, ?_,
      by decide, ?_, ?_⟩
    · intro other member text read
      rcases List.mem_pair.mp member with rfl | rfl
      · exact absurd (read.symm.trans (by decide)) (Option.some_ne_none text)
      · obtain rfl := Option.some.inj (read.symm.trans (by decide : _ = some themePair))
        simpa [show themePair.splitOn ';' = [themePair] by decide] using themed
    · simpa using (by decide : ';' ∉ themePair)
    · simpa using themed
  exact set_cookie_is_admitted (fun _ => exampleDigest) (by decide) sent

/-! ## Origins -/

/-- The header is there, and reads so. -/
def Reads (header : Option HeaderValue) (text : List Char) : Prop :=
  (header.bind fun value => toStr value.bytes) = some text

/-- The address is one of this host. -/
def AtHost (own address : List Char) : Prop :=
  ∃ scheme host tail, address = scheme ++ host ++ tail ∧
    (scheme = "https://".toList ∨ scheme = "http://".toList) ∧ host ≠ [] ∧
    (∀ char ∈ host, char ≠ '/' ∧ char ≠ '?' ∧ char ≠ '#') ∧
    (∀ char ∈ tail.head?, char = '/' ∨ char = '?' ∨ char = '#') ∧
    host.map Char.toLower = own.map Char.toLower

/-- The request comes from a page of the host which it is sent to, as Origin says, or Referer if
Origin cannot be read. -/
def FromHost (headers : Headers) : Prop :=
  ∃ own address, Reads headers.host own ∧ AtHost own address ∧
    (Reads headers.origin address ∨
      (∀ other, ¬Reads headers.origin other) ∧ Reads headers.referer address)

theorem stripScheme_eq_some_iff {url rest : List Char} :
    stripScheme url = some rest ↔
      ∃ scheme, (scheme = "https://".toList ∨ scheme = "http://".toList) ∧
        url = scheme ++ rest := by
  rw [stripScheme, Option.or_eq_some_iff]
  simp only [stripPrefix_eq_some_iff]
  constructor
  · rintro (secure | ⟨-, plain⟩)
    · exact ⟨_, .inl rfl, secure⟩
    · exact ⟨_, .inr rfl, plain⟩
  · rintro ⟨scheme, rfl | rfl, rfl⟩
    · exact .inl rfl
    · exact .inr ⟨rfl, rfl⟩

/-- The host of a URL is what stands between its scheme and the first end of a host. -/
theorem hostFromAbsoluteUrl_eq_some_iff {url host : List Char} :
    hostFromAbsoluteUrl url = some host ↔
      ∃ scheme tail, url = scheme ++ host ++ tail ∧
        (scheme = "https://".toList ∨ scheme = "http://".toList) ∧ host ≠ [] ∧
        (∀ char ∈ host, endsHost char = false) ∧ ∀ char ∈ tail.head?, endsHost char = true := by
  rw [hostFromAbsoluteUrl, Option.bind_eq_some_iff]
  simp only [stripScheme_eq_some_iff, Option.ite_none_left_eq_some, Option.some.injEq]
  constructor
  · rintro ⟨rest, ⟨scheme, web, rfl⟩, named, rfl⟩
    refine ⟨scheme, rest.dropWhile fun char => !endsHost char, ?_, web, named, ?_, ?_⟩
    · rw [List.append_assoc, List.takeWhile_append_dropWhile]
    · intro char member
      simpa using List.all_eq_true.mp List.all_takeWhile char member
    · intro char first
      simpa using Trimming.head?_dropWhile_eq_false char first
  · rintro ⟨scheme, tail, rfl, web, named, inside, outside⟩
    have taken : (host ++ tail).takeWhile (fun char => !endsHost char) = host := by
      rw [List.takeWhile_append_of_pos (by simpa using inside)]
      cases tail with
      | nil => simp
      | cons first tail => simp [outside first rfl]
    exact ⟨host ++ tail, ⟨scheme, web, List.append_assoc ..⟩, taken.symm ▸ named, taken⟩

theorem atHost_iff {own address : List Char} :
    AtHost own address ↔
      ∃ host, hostFromAbsoluteUrl address = some host ∧ eqIgnoreAsciiCase host own = true := by
  have ends (char : Char) :
      endsHost char = true ↔ char = '/' ∨ char = '?' ∨ char = '#' := by
    simp [endsHost, or_assoc]
  have inside (char : Char) :
      endsHost char = false ↔ char ≠ '/' ∧ char ≠ '?' ∧ char ≠ '#' := by
    simp [endsHost, and_assoc]
  simp only [hostFromAbsoluteUrl_eq_some_iff, ends, inside, eqIgnoreAsciiCase, beq_iff_eq]
  constructor
  · rintro ⟨scheme, host, tail, split, web, named, clear, stops, same⟩
    exact ⟨host, ⟨scheme, tail, split, web, named, clear, stops⟩, same⟩
  · rintro ⟨host, ⟨scheme, tail, split, web, named, clear, stops⟩, same⟩
    exact ⟨scheme, host, tail, split, web, named, clear, stops, same⟩

/-- A POST passes as one of this host if it comes from a page of this host, and only then. -/
theorem sameOriginPost_iff {headers : Headers} :
    sameOriginPost headers = true ↔ FromHost headers := by
  have passed {found : Option (List Char)} {own : List Char} :
      (found.bind hostFromAbsoluteUrl).any (eqIgnoreAsciiCase · own) = true ↔
        ∃ address, found = some address ∧ AtHost own address := by
    cases found with
    | none => simp
    | some address => simp [atHost_iff, Option.any_eq_true]
  unfold sameOriginPost FromHost Reads
  cases headers.host.bind fun value => toStr value.bytes with
  | none => simp
  | some own =>
      dsimp only
      rw [passed]
      cases headers.origin.bind fun value => toStr value.bytes with
      | none => simp [and_comm]
      | some address => simp

end Togewire.Admin
