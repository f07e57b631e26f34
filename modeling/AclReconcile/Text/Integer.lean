/-!
# Decimal integers

Numbers in text are read as an optional sign followed by decimal digits and nothing else, and
must fit in a signed 64-bit word; everything else is refused. They are written back in the
shortest decimal form with a leading minus for negatives.
-/

namespace AclReconcile.Text

/-- The least value of a signed 64-bit word. -/
def minInt64 : Int := -9223372036854775808

/-- The greatest value of a signed 64-bit word. -/
def maxInt64 : Int := 9223372036854775807

/-- The value of a non-empty run of decimal digits. -/
def digitsValue? (cs : List Char) : Option Nat :=
  if cs.isEmpty || !cs.all (fun c => '0' ≤ c && c ≤ '9') then none
  else some (cs.foldl (fun n c => n * 10 + (c.toNat - 48)) 0)

/-- An optional sign and decimal digits, any size. -/
def parseDecimal? (s : String) : Option Int :=
  match s.toList with
  | '-' :: ds => (digitsValue? ds).map fun n => -(n : Int)
  | '+' :: ds => (digitsValue? ds).map fun n => (n : Int)
  | ds => (digitsValue? ds).map fun n => (n : Int)

/-- An optional sign and decimal digits within the signed 64-bit range. -/
def parseInt64? (s : String) : Option Int :=
  match parseDecimal? s with
  | some n => if minInt64 ≤ n && n ≤ maxInt64 then some n else none
  | none => none

end AclReconcile.Text
