import AclReconcile.Text.Quote

/-!
# IP addresses

An IP address in text is IPv4 (four decimal fields up to 255, without leading zeros) or IPv6
(up to eight colon-separated groups of one to four hexadecimal digits, one `::` standing for at
least one group of zeros, the last two groups possibly written as an IPv4 address, and a zone
after `%`). The first `.`, `:` or `%` of the text decides which form is read.

A text that is not an address is refused with the first problem found, naming the text and,
for most problems, the unread part of it where the problem stands.
-/

namespace AclReconcile.Address

/-- The two families of IP address. -/
inductive Family where
  | v4
  | v6
  deriving DecidableEq

/-- Why a text is not an IP address: the text, the problem, and the unread part of the text
where the problem stands (empty when the problem has no place). -/
structure AddrError where
  input : String
  reason : String
  rest : List Char := []

/-- The report of a text that is not an IP address. -/
def AddrError.message (e : AddrError) : String :=
  "ParseAddr(" ++ Text.quote e.input ++ "): " ++ e.reason ++
    (if e.rest.isEmpty then "" else " (at " ++ Text.quote (String.ofList e.rest) ++ ")")

/-- Reads the fields of an IPv4 address; `value` is the field read so far (with `digits` digits),
`done` the number of fields before it and `prev` the character before. -/
def ipv4Fields (input : String) : List Char → Nat → Nat → Nat → Option Char → Except AddrError Unit
  | [], _, done, _, _ =>
    if done < 3 then .error { input, reason := "IPv4 address too short" } else .ok ()
  | c :: cs, value, done, digits, prev =>
    if c.isDigit then
      if digits == 1 && value == 0 then
        .error { input, reason := "IPv4 field has octet with leading zero" }
      else
        let value := value * 10 + (c.toNat - 48)
        if value > 255 then .error { input, reason := "IPv4 field has value >255" }
        else ipv4Fields input cs value done (digits + 1) (some c)
    else if c == '.' then
      if prev.isNone || cs.isEmpty || prev == some '.' then
        .error { input, reason := "IPv4 field must have at least one digit", rest := c :: cs }
      else if done == 3 then .error { input, reason := "IPv4 address too long" }
      else ipv4Fields input cs 0 (done + 1) 0 (some c)
    else .error { input, reason := "unexpected character", rest := c :: cs }

/-- Whether a character is a hexadecimal digit. -/
def isHexDigit (c : Char) : Bool :=
  c.isDigit || ('a' ≤ c && c ≤ 'f') || ('A' ≤ c && c ≤ 'F')

/-- Reads the groups of an IPv6 address from the text `s` left, with `filled` bytes of the
address read and the position of the `::` if one was read: the bytes filled, the `::` and the
text left. `fuel` bounds the number of groups. -/
def ipv6Groups (input : String) :
    Nat → Nat → Option Nat → List Char → Except AddrError (Nat × Option Nat × List Char)
  | 0, filled, ellipsis, s => .ok (filled, ellipsis, s)
  | fuel + 1, filled, ellipsis, s =>
    if filled ≥ 16 then .ok (filled, ellipsis, s)
    else
      let digits := (s.takeWhile isHexDigit).length
      let fail (reason : String) (rest : List Char) : Except AddrError (Nat × Option Nat × List Char) :=
        .error { input, reason, rest }
      if digits > 4 then fail "each group must have 4 or less digits" s
      else if digits == 0 then fail "each colon-separated field must have at least one digit" s
      else
        let after := s.drop digits
        if after.head? == some '.' then
          if ellipsis.isNone && filled != 12 then
            fail "embedded IPv4 address must replace the final 2 fields of the address" s
          else if filled + 4 > 16 then
            fail "too many hex fields to fit an embedded IPv4 at the end of the address" s
          else match ipv4Fields input s 0 0 0 none with
            | .error e => .error e
            | .ok () => .ok (filled + 4, ellipsis, [])
        else
          let filled := filled + 2
          match after with
          | [] => .ok (filled, ellipsis, [])
          | c :: more =>
            if c != ':' then fail "unexpected character, want colon" after
            else if more.isEmpty then fail "colon must be followed by more characters" after
            else if more.head? == some ':' then
              if ellipsis.isSome then fail "multiple :: in address" more
              else if more.length == 1 then .ok (filled, some filled, [])
              else ipv6Groups input fuel filled (some filled) (more.drop 1)
            else ipv6Groups input fuel filled ellipsis more

/-- Reads an IPv6 address, with its zone. -/
def parseIPv6 (input : String) : Except AddrError Unit := do
  let cs := input.toList
  let s := cs.takeWhile (· != '%')
  if cs.length == s.length + 1 then
    throw { input, reason := "zone must be a non-empty string" }
  let (ellipsis, s) := match s with
    | ':' :: ':' :: more => (some 0, more)
    | _ => (none, s)
  if ellipsis.isSome && s.isEmpty then return
  let (filled, ellipsis, s) ← ipv6Groups input 9 0 ellipsis s
  if !s.isEmpty then throw { input, reason := "trailing garbage after address", rest := s }
  if filled < 16 then
    if ellipsis.isNone then throw { input, reason := "address string too short" }
  else if ellipsis.isSome then
    throw { input, reason := "the :: must expand to at least one field of zeros" }

/-- Reads an IP address, giving its family: the first `.`, `:` or `%` decides how it is read. -/
def parseAddr (input : String) : Except AddrError Family :=
  match input.toList.find? fun c => c == '.' || c == ':' || c == '%' with
  | some '.' => (ipv4Fields input input.toList 0 0 0 none).map fun _ => .v4
  | some ':' => (parseIPv6 input).map fun _ => .v6
  | some _ => .error { input, reason := "missing IPv6 address" }
  | none => .error { input, reason := "unable to parse IP" }

end AclReconcile.Address
