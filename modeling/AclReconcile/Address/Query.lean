import AclReconcile.Text.Utf8

/-!
# Query strings

The part of an address after "?" holds settings as name=value pairs joined by "&". Names and
values are percent-encoded, with "+" standing for a space. A pair holding ";" is refused, and so
is a "%" not followed by two hexadecimal digits; empty pairs are skipped, and a pair without "="
has an empty value. A lenient reading keeps the well-formed pairs of a malformed query. A
setting's value is the first one given for its name.
-/

namespace AclReconcile.Address

/-- The value of a hexadecimal digit. -/
def hexValue (c : Char) : Option Nat :=
  if '0' ≤ c && c ≤ '9' then some (c.toNat - '0'.toNat)
  else if 'a' ≤ c && c ≤ 'f' then some (c.toNat - 'a'.toNat + 10)
  else if 'A' ≤ c && c ≤ 'F' then some (c.toNat - 'A'.toNat + 10)
  else none

/-- Decodes the bytes of percent-encoded text, "+" read as a space; `none` for a "%" without
two hexadecimal digits after it. -/
def unescapeBytes : List Char → Option (List UInt8)
  | [] => some []
  | '%' :: a :: b :: rest => do
    let hi ← hexValue a
    let lo ← hexValue b
    let tail ← unescapeBytes rest
    pure ((hi * 16 + lo).toUInt8 :: tail)
  | '%' :: _ => none
  | '+' :: rest => (unescapeBytes rest).map (' '.toNat.toUInt8 :: ·)
  | c :: rest => (unescapeBytes rest).map ((String.singleton c).toUTF8.toList ++ ·)

/-- Decodes percent-encoded text. -/
def unescape (s : String) : Option String :=
  (unescapeBytes s.toList).map Text.decodeLossy

/-- One name=value pair of a query string, `none` when it is malformed. -/
def queryPair (part : String) : Option (String × String) :=
  if part.contains ';' then none
  else
    let (k, v) := match part.splitOn "=" with
      | k :: rest => (k, "=".intercalate rest)
      | [] => ("", "")
    match unescape k, unescape v with
    | some k, some v => some (k, v)
    | _, _ => none

/-- The non-empty parts of a query string, each read as a pair. -/
def queryParts (raw : String) : List (Option (String × String)) :=
  ((raw.splitOn "&").filter (!·.isEmpty)).map queryPair

/-- The pairs of a query string, or `none` when it is malformed. -/
def parseQuery (raw : String) : Option (List (String × String)) :=
  let parts := queryParts raw
  if parts.all Option.isSome then some (parts.filterMap id) else none

/-- The pairs of a query string that are well formed, the others left out. -/
def queryValues (raw : String) : List (String × String) := (queryParts raw).filterMap id

/-- The first value given for a name, or "". -/
def setting (pairs : List (String × String)) (name : String) : String :=
  ((pairs.find? (·.1 == name)).map (·.2)).getD ""

end AclReconcile.Address
