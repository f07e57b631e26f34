import AclReconcile.Address.Query
import AclReconcile.Text.Quote
import AclReconcile.Address.Ip
import AclReconcile.Text.Case
import AclReconcile.Text.Integer

/-!
# URLs

A URL is read as an optional scheme, then, after "//", an authority of optional user
information and a host with an optional port, then a path, a query after "?" and a fragment
after "#". A URL with a scheme whose rest does not start with "/" keeps that rest as it is.

Each part has its own set of bytes that must be written as escapes ("%" and two hexadecimal
digits). Reading fails on a control byte anywhere, on a colon that starts the text, on a
port that is not all digits, on a "%" without two hexadecimal digits after it, on a host name
byte that a host may not hold (or an escape of an ASCII byte other than "%"), on user
information with characters it may not hold, and on a bracketed host that is not an IPv6
address. Each failure has the wording that reports of a URL use.

Writing a URL back escapes each part again, keeping the text of a path or fragment as it was
written when that text is a valid escaping of the same value.

Host names are then judged as an IPv4 address of four decimal numbers, an IPv6 address of
hexadecimal groups, or a domain name.
-/

namespace AclReconcile.Address

/-- Text in double quotes, escaped like `Text.quote`, read from bytes; a byte that starts no
character is shown in hexadecimal. -/
def quoteBytes (bs : List UInt8) : String :=
  "\"" ++ go bs ++ "\""
where
  /-- The escaped characters of the bytes. -/
  go (bs : List UInt8) : String :=
    match h : Text.decodeFirst bs with
    | none => ""
    | some (c, rest) =>
      have : rest.length < bs.length := Text.decodeFirst_shorter h
      let shown :=
        if c == Text.replacement && bs.take 3 != [0xEF, 0xBF, 0xBD] then
          "\\x" ++ Text.hexPadded 2 (bs.headD 0).toNat
        else Text.escapeChar '"' c
      shown ++ go rest
  termination_by bs.length

/-- The parts of a URL, each with its own rules for which bytes are written as escapes. -/
inductive Component where
  | host
  | zone
  | path
  | userInfo
  | queryComponent
  | fragment
  deriving DecidableEq

/-- Whether a byte is an ASCII letter or digit. -/
def isAlnumByte (b : UInt8) : Bool :=
  (65 ≤ b && b ≤ 90) || (97 ≤ b && b ≤ 122) || (48 ≤ b && b ≤ 57)

/-- Whether a byte is one of the ASCII characters of a text. -/
def byteIn (chars : String) (b : UInt8) : Bool := b < 128 && chars.contains (Char.ofNat b.toNat)

/-- Whether a byte must be written as an escape in a part. Letters and digits never are, nor
"-", "_", "." and "~"; a host also holds the sub-delimiters, ":", brackets, angle brackets and
the double quote. Of the reserved characters a path escapes only "?", user information "@",
"/", "?" and ":", a query component all of them and a fragment none. A fragment holds "!",
"(", ")" and "*" as well; every other byte is escaped. -/
def shouldEscape (mode : Component) (b : UInt8) : Bool :=
  if isAlnumByte b then false
  else if (mode == .host || mode == .zone) && byteIn "!$&'()*+,;=:[]<>\"" b then false
  else if byteIn "-_.~" b then false
  else if byteIn "$&+,/:;=?@" b then
    match mode with
    | .path => b == 63
    | .userInfo => byteIn "@/?:" b
    | .queryComponent => true
    | .fragment => false
    | _ => true
  else !(mode == .fragment && byteIn "!()*" b)

/-- The value of a byte as a hexadecimal digit. -/
def hexByte (b : UInt8) : Option Nat := hexValue (Char.ofNat b.toNat)

/-- The report of a malformed escape: the "%" and at most two bytes after it. -/
def escapeFailure (bs : List UInt8) : String := "invalid URL escape " ++ quoteBytes (bs.take 3)

/-- The bytes of "%25", the escape of "%". -/
def percentEscape : List UInt8 := [37, 50, 53]

/-- Checks the escapes and bytes of a part. In a host an escape may only stand for a byte
beyond ASCII or for "%", and a zone escape only for a byte a host may hold or a space. -/
def checkEscapes (mode : Component) : List UInt8 → Except String Unit
  | [] => .ok ()
  | b :: rest =>
    if b == 37 then
      match rest with
      | x :: y :: more =>
        match hexByte x, hexByte y with
        | some hi, some lo =>
          let esc := [b, x, y]
          if mode == .host && hi < 8 && esc != percentEscape then .error (escapeFailure esc)
          else if mode == .zone && esc != percentEscape && hi * 16 + lo != 32 &&
              shouldEscape .host (hi * 16 + lo).toUInt8 then
            .error (escapeFailure esc)
          else checkEscapes mode more
        | _, _ => .error (escapeFailure [b, x, y])
      | _ => .error (escapeFailure (b :: rest))
    else if (mode == .host || mode == .zone) && b < 128 && shouldEscape mode b then
      .error ("invalid character " ++ quoteBytes [b] ++ " in host name")
    else checkEscapes mode rest

/-- The bytes that escaped bytes stand for; "+" is a space when `plusSpace`. -/
def decodeEscapes (plusSpace : Bool) : List UInt8 → List UInt8
  | [] => []
  | b :: rest =>
    if b == 37 then
      match rest with
      | x :: y :: more =>
        match hexByte x, hexByte y with
        | some hi, some lo => (hi * 16 + lo).toUInt8 :: decodeEscapes plusSpace more
        | _, _ => b :: decodeEscapes plusSpace (x :: y :: more)
      | other => b :: decodeEscapes plusSpace other
    else if plusSpace && b == 43 then 32 :: decodeEscapes plusSpace rest
    else b :: decodeEscapes plusSpace rest

/-- Checks a part and decodes its escapes. -/
def decodePart (mode : Component) (s : String) : Except String String := do
  let bs := s.toUTF8.toList
  checkEscapes mode bs
  pure (Text.decodeLossy (decodeEscapes (mode == .queryComponent) bs))

/-- An upper-case hexadecimal digit. -/
def upperHexDigit (n : Nat) : Char := if n < 10 then Char.ofNat (48 + n) else Char.ofNat (55 + n)

/-- A part with every byte it may not hold written as an escape, a space in a query component
as "+". -/
def escapePart (mode : Component) (s : String) : String :=
  String.join (s.toUTF8.toList.map fun b =>
    if shouldEscape mode b then
      if b == 32 && mode == .queryComponent then "+"
      else String.ofList ['%', upperHexDigit (b.toNat / 16), upperHexDigit (b.toNat % 16)]
    else String.singleton (Char.ofNat b.toNat))

/-- Whether a text is a valid escaping in a part: every byte is a sub-delimiter, ":", "@", a
bracket, "%", or a byte the part may hold. -/
def validEncoded (mode : Component) (s : String) : Bool :=
  s.toUTF8.toList.all fun b => byteIn "!$&'()*+,;=:@[]%" b || !shouldEscape mode b

/-- The text before the first occurrence of a character and, when it occurs, the text after. -/
def cutFirst (s : String) (c : Char) : String × Option String :=
  match s.splitOn (String.singleton c) with
  | first :: second :: rest => (first, some ((String.singleton c).intercalate (second :: rest)))
  | _ => (s, none)

/-- The text before the last occurrence of a character and, when it occurs, the text after. -/
def cutLast (s : String) (c : Char) : String × Option String :=
  match (s.splitOn (String.singleton c)).reverse with
  | last :: before :: rest =>
    ((String.singleton c).intercalate (before :: rest).reverse, some last)
  | _ => (s, none)

/-- User information: a name and, when given, a password. -/
structure Userinfo where
  name : String
  password : Option String := none
  deriving Inhabited, BEq

/-- The parts of a URL. -/
structure Url where
  scheme : String := ""
  /-- The text after the scheme when it does not start with "/". -/
  rootless : String := ""
  user : Option Userinfo := none
  /-- The host with its port, decoded. -/
  host : String := ""
  /-- The path follows the scheme directly, without an authority. -/
  omitHost : Bool := false
  path : String := ""
  /-- The path as written, when escaping the decoded path does not give it back. -/
  rawPath : String := ""
  /-- The URL ends in a "?" with nothing after it. -/
  forceQuery : Bool := false
  rawQuery : String := ""
  fragment : String := ""
  /-- The fragment as written, when escaping the decoded fragment does not give it back. -/
  rawFragment : String := ""
  deriving Inhabited

/-- A URL that cannot be read: the text read and the reason. -/
structure UrlError where
  text : String
  reason : String
  deriving Inhabited

/-- The report of a URL that cannot be read. -/
def UrlError.message (e : UrlError) : String :=
  "parse " ++ Text.quote e.text ++ ": " ++ e.reason

/-- Whether a port, with its colon, is empty or all digits. -/
def validPort (p : String) : Bool :=
  p.isEmpty || (p.startsWith ":" && (p.drop 1).all Char.isDigit)

/-- Whether a text is an IPv4 address: four decimal numbers up to 255, without leading
zeros. -/
def isIPv4 (s : String) : Bool :=
  let parts := s.splitOn "."
  parts.length == 4 && parts.all fun p =>
    !p.isEmpty && p.length ≤ 3 && p.all Char.isDigit && (p.length == 1 || !p.startsWith "0") &&
      (Text.digitsValue? p.toList).getD 256 ≤ 255

/-- Whether a text is an IPv6 address: eight groups of one to four hexadecimal digits, the last
two of which may be an IPv4 address, with at most one "::" standing for one or more groups of
zeros. -/
def isIPv6 (s : String) : Bool :=
  let group (g : String) : Bool := !g.isEmpty && g.length ≤ 4 && g.all fun c => (hexValue c).isSome
  let groupsOf (t : String) (last : Bool) : Option Nat :=
    if t.isEmpty then some 0
    else
      let gs := t.splitOn ":"
      match gs.getLast? with
      | some final =>
        if last && isIPv4 final then
          if gs.dropLast.all group then some (gs.length + 1) else none
        else if gs.all group then some gs.length else none
      | none => none
  match s.splitOn "::" with
  | [whole] => groupsOf whole true == some 8
  | [a, b] =>
    match groupsOf a false, groupsOf b true with
    | some x, some y => x + y < 8
    | _, _ => false
  | _ => false

/-- Whether a text is an IP address. -/
def isIP (s : String) : Bool := isIPv4 s || isIPv6 s

/-- Checks and decodes a host with its port. A `[` may only open the host, and then holds an
IPv6 address, which may carry a zone after "%25"; an IPv4 address is refused there. -/
def parseHost (host : String) : Except String String := do
  let opening := (host.toList.zipIdx.filter (·.1 == '[')).getLast?.map (·.2)
  match opening with
  | some (_ + 1) => throw "invalid IP-literal"
  | some 0 =>
    let (inside, after) := cutLast host ']'
    let some colonPort := after | throw "missing ']' in host"
    if !validPort colonPort then throw ("invalid port " ++ Text.quote colonPort ++ " after host")
    let decodedPort ← decodePart .host colonPort
    let hostname := (inside.drop 1).toString
    let name ← match hostname.splitOn "%25" with
      | first :: second :: rest =>
        let before ← decodePart .host first
        let zone ← decodePart .zone ("%25" ++ "%25".intercalate (second :: rest))
        pure (before ++ zone)
      | _ => decodePart .host hostname
    match parseAddr name with
    | .error e => throw ("invalid host: " ++ e.message)
    | .ok .v4 => throw "invalid IP-literal"
    | .ok .v6 => pure ("[" ++ name ++ "]" ++ decodedPort)
  | none =>
    if let (_, some port) := cutLast host ':' then
      if !validPort (":" ++ port) then
        throw ("invalid port " ++ Text.quote (":" ++ port) ++ " after host")
    decodePart .host host

/-- Whether user information holds only letters, digits and the characters it may hold. -/
def validUserinfo (s : String) : Bool :=
  s.all fun c => c.isAlphanum || "-._:~!$&'()*+,;=%@".toList.contains c

/-- Reads an authority: user information before the last "@", then the host. -/
def parseAuthority (authority : String) : Except String (Option Userinfo × String) := do
  let (info, hostText) := match cutLast authority '@' with
    | (before, some after) => (some before, after)
    | (whole, none) => (none, whole)
  let host ← parseHost hostText
  match info with
  | none => pure (none, host)
  | some info =>
    if !validUserinfo info then throw "net/url: invalid userinfo"
    match cutFirst info ':' with
    | (name, none) => pure (some { name := ← decodePart .userInfo name }, host)
    | (name, some password) =>
      pure (some { name := ← decodePart .userInfo name,
                   password := some (← decodePart .userInfo password) }, host)

/-- The scheme of a URL and the rest of it: letters, then letters, digits, "+", "-" or ".",
up to a colon. Without such a start the scheme is empty; a colon first is an error. -/
def splitScheme (s : String) : Except String (String × String) :=
  let rec go : List Char → List Char → Except String (String × String)
    | [], _ => .ok ("", s)
    | c :: rest, acc =>
      if c.isAlpha then go rest (c :: acc)
      else if c.isDigit || c == '+' || c == '-' || c == '.' then
        if acc.isEmpty then .ok ("", s) else go rest (c :: acc)
      else if c == ':' then
        if acc.isEmpty then .error "missing protocol scheme"
        else .ok (String.ofList acc.reverse, String.ofList rest)
      else .ok ("", s)
  go s.toList []

/-- Sets the path from its written form. -/
def Url.withPath (u : Url) (written : String) : Except String Url := do
  let path ← decodePart .path written
  pure { u with path, rawPath := if escapePart .path path == written then "" else written }

/-- Sets the fragment from its written form. -/
def Url.withFragment (u : Url) (written : String) : Except String Url := do
  let fragment ← decodePart .fragment written
  pure { u with fragment,
                rawFragment := if escapePart .fragment fragment == written then "" else written }

/-- Reads a URL without its fragment; the error is the reason alone. -/
def parseReference (raw : String) : Except String Url := do
  if raw.toUTF8.toList.any fun b => b < 32 || b == 127 then
    throw "net/url: invalid control character in URL"
  if raw == "*" then return { path := "*" }
  let (scheme, rest) ← splitScheme raw
  let scheme := Text.lower scheme
  let (rest, forceQuery, rawQuery) :=
    if rest.endsWith "?" && (rest.splitOn "?").length == 2 then
      (String.ofList rest.toList.dropLast, true, "")
    else match cutFirst rest '?' with
      | (before, after) => (before, false, after.getD "")
  let base : Url := { scheme, forceQuery, rawQuery }
  if !rest.startsWith "/" then
    if !scheme.isEmpty then return { base with rootless := rest }
    if (cutFirst rest '/').1.contains ':' then
      throw "first path segment in URL cannot contain colon"
  if (!scheme.isEmpty || !rest.startsWith "///") && rest.startsWith "//" then
    let (authority, path) := match cutFirst (rest.drop 2).toString '/' with
      | (a, some p) => (a, "/" ++ p)
      | (a, none) => (a, "")
    let (user, host) ← parseAuthority authority
    Url.withPath { base with user, host } path
  else
    Url.withPath { base with omitHost := !scheme.isEmpty && rest.startsWith "/" } rest

/-- Reads a URL. A failure in the part before "#" names that part; a failure in the fragment
names the whole text. -/
def Url.parse (raw : String) : Except UrlError Url :=
  let (before, fragment) := cutFirst raw '#'
  match parseReference before with
  | .error reason => .error ⟨before, reason⟩
  | .ok u =>
    match fragment with
    | none | some "" => .ok u
    | some f => (u.withFragment f).mapError (UrlError.mk raw)

/-- The host without its port and without brackets. -/
def Url.hostname (u : Url) : String :=
  let host := match cutLast u.host ':' with
    | (before, some port) => if validPort (":" ++ port) then before else u.host
    | (_, none) => u.host
  if host.startsWith "[" && host.endsWith "]" then String.ofList (host.toList.drop 1).dropLast
  else host

/-- The port of the host, "" when there is none. -/
def Url.port (u : Url) : String :=
  match cutLast u.host ':' with
  | (_, some port) => if validPort (":" ++ port) then port else ""
  | (_, none) => ""

/-- The written form of user information. -/
def Userinfo.text (u : Userinfo) : String :=
  escapePart .userInfo u.name ++ (u.password.map fun p => ":" ++ escapePart .userInfo p).getD ""

/-- The path as it is written back. -/
def Url.escapedPath (u : Url) : String :=
  if !u.rawPath.isEmpty && validEncoded .path u.rawPath then u.rawPath
  else if u.path == "*" then "*"
  else escapePart .path u.path

/-- The fragment as it is written back. -/
def Url.escapedFragment (u : Url) : String :=
  if !u.rawFragment.isEmpty && validEncoded .fragment u.rawFragment then u.rawFragment
  else escapePart .fragment u.fragment

/-- The written form of a URL. -/
def Url.text (u : Url) : String :=
  let head := if u.scheme.isEmpty then "" else u.scheme ++ ":"
  let query := if u.forceQuery || !u.rawQuery.isEmpty then "?" ++ u.rawQuery else ""
  let fragment := if u.fragment.isEmpty then "" else "#" ++ u.escapedFragment
  if !u.rootless.isEmpty then head ++ u.rootless ++ query ++ fragment
  else
    let authority :=
      if (u.scheme.isEmpty && u.host.isEmpty && u.user.isNone) ||
          (u.omitHost && u.host.isEmpty && u.user.isNone) then ""
      else
        (if !u.host.isEmpty || !u.path.isEmpty || u.user.isSome then "//" else "") ++
          (u.user.map fun i => i.text ++ "@").getD "" ++ escapePart .host u.host
    let path := u.escapedPath
    let lead := head ++ authority ++
      (if !path.isEmpty && !path.startsWith "/" && !u.host.isEmpty then "/" else "")
    let dot := if lead.isEmpty && (cutFirst path '/').1.contains ':' then "./" else ""
    lead ++ dot ++ path ++ query ++ fragment

/-- Splits a network address into host and port at its last colon; a bracketed host must close
right before that colon. The error is the report, naming the address. -/
def splitHostPort (address : String) : Except String (String × String) :=
  let fail (why : String) : Except String (String × String) :=
    .error ("address " ++ address ++ ": " ++ why)
  match cutLast address ':' with
  | (_, none) => fail "missing port in address"
  | (before, some port) =>
    if address.startsWith "[" then
      match cutFirst address ']' with
      | (_, none) => fail "missing ']' in address"
      | (inside, some after) =>
        if after.isEmpty then fail "missing port in address"
        else if after != ":" ++ port then
          if after.startsWith ":" then fail "too many colons in address"
          else fail "missing port in address"
        else
          if (address.drop 1).toString.contains '[' then fail "unexpected '[' in address"
          else if after.contains ']' then fail "unexpected ']' in address"
          else .ok ((inside.drop 1).toString, port)
    else if before.contains ':' then fail "too many colons in address"
    else if address.contains '[' then fail "unexpected '[' in address"
    else if address.contains ']' then fail "unexpected ']' in address"
    else .ok (before, port)

/-- Whether a host name passes as a domain name: after trimming blanks it is not empty, at most
255 bytes, does not start or end with "-" or "_", does not start with ".", and holds no
punctuation that no name holds. -/
def isDomain (host : String) : Bool :=
  let host := Text.trim host
  let cs := host.toList
  let bad := "`~!@#$%^&*()+={}[]|\\\"';:><?/".toList
  !cs.isEmpty && host.utf8ByteSize ≤ 255 &&
    !(cs.head? == some '-' || cs.getLast? == some '-') &&
    !(cs.head? == some '_' || cs.getLast? == some '_') &&
    cs.head? != some '.' && !(cs.any bad.contains)

end AclReconcile.Address
