import AclReconcile.Text.Utf8
import AclReconcile.Text.Quote
import AclReconcile.Text.Integer
import AclReconcile.Sql.Real
import AclReconcile.Binary64.Shortest

/-!
# Values of an SQL database

A stored value is null, an integer, a real number (binary64), text, or a run of bytes. A
column's declared type gives it an affinity, which converts what is stored in it: a text column
stores numbers as their text, an integer or numeric column stores text that reads as a number as
that number (an integer when it is one), and a real column stores numbers as reals. Values
compare by class first (null below numbers, numbers below text, text below bytes), then numbers
by their exact values and text and bytes by their bytes.

Reading a value into a program's variable follows the rules of the database library: text and
numbers read as text (a real in its shortest decimal form), null does not; a truth value reads
from the integers 0 and 1 and from the usual words for true and false; an integer reads from
integers and from text that is an integer, a real through its shortest decimal form.
-/

namespace AclReconcile.Sql

open AclReconcile (Binary64)

/-- A value stored in a database. -/
inductive Value where
  | null
  | integer (n : Int)
  | real (r : Binary64)
  | text (s : String)
  | blob (bytes : List UInt8)
  deriving DecidableEq, Repr, Inhabited

/-- How a column converts the values stored in it. -/
inductive Affinity where
  | text | numeric | integer | real | blob
  deriving DecidableEq, Repr, Inhabited

/-- Upper-case ASCII letters lowered; names in a database compare this way. -/
def asciiLower (s : String) : String :=
  String.ofList (s.toList.map fun c => if 'A' ≤ c && c ≤ 'Z' then Char.ofNat (c.toNat + 32) else c)

/-- Whether two names are the same name. -/
def sameName (a b : String) : Bool := asciiLower a == asciiLower b

/-- Whether `part` occurs in `s`. -/
def mentions (s part : String) : Bool := (s.splitOn part).length > 1

/-- The affinity of a declared column type. -/
def Affinity.ofType (declared : String) : Affinity :=
  let t := asciiLower declared
  if mentions t "int" then .integer
  else if mentions t "char" || mentions t "clob" || mentions t "text" then .text
  else if mentions t "blob" || t.isEmpty then .blob
  else if mentions t "real" || mentions t "floa" || mentions t "doub" then .real
  else .numeric

/-- The characters of a value's text or bytes, as the engine reads numbers from them. -/
def Value.numberChars : Value → List Char
  | .text s => s.toList
  | .blob bs => (Text.decodeLossy bs).toList
  | _ => []

/-- A value as a real number: null is zero, text and bytes are the number they start with
(zero when none). -/
def Value.realValue : Value → Binary64
  | .integer n => Binary64.ofInt n
  | .real r => r
  | .null => Binary64.zero
  | v => (readReal v.numberChars).value

/-- A value as a 64-bit integer: reals truncated and clamped, text and bytes by the integer they
start with (clamped), null as zero. -/
def Value.intValue : Value → Int
  | .integer n => n
  | .real r => realToInt r
  | .null => 0
  | v => (readInt64 v.numberChars).1

/-- A real number made an integer when it is whole and strictly between the smallest and the
largest 64-bit integers. -/
def integerIfWhole (r : Binary64) : Value :=
  let i := realToInt r
  if r.compareInt i == some .eq && minInt < i && i < maxInt then .integer i else .real r

/-- Text made a number when it reads as one as a whole (blanks around allowed): an integer when
it is written as one that fits 64 bits or when the number is a small whole one, a real
otherwise, made an integer when whole if `tryInteger`; other text stays as it is. -/
def numericText (tryInteger : Bool) (s : String) : Value :=
  let cs := s.toList
  let read := readReal cs
  if read.form ≤ 0 then .text s
  else
    let i := realToInt read.value
    if read.form == 1 && realSameAsInt read.value i then .integer i
    else if read.form == 1 && (readInt64 cs).2 == 0 then .integer (readInt64 cs).1
    else if tryInteger then integerIfWhole read.value
    else .real read.value

/-- The text of a number as the engine writes it. -/
def Value.numberText? : Value → Option String
  | .integer n => some (toString n)
  | .real r => some (realText r)
  | _ => none

/-- A value as a column of some affinity stores it. -/
def Affinity.apply : Affinity → Value → Value
  | .text, .integer n => .text (toString n)
  | .text, .real r => .text (realText r)
  | .integer, .text s | .numeric, .text s => numericText true s
  | .integer, .real r | .numeric, .real r => integerIfWhole r
  | .real, .integer n => .real (Binary64.ofInt n)
  | .real, .text s => match numericText true s with
    | .integer n => .real (Binary64.ofInt n)
    | v => v
  | _, v => v

/-- The rank of a value's class in comparisons. -/
def Value.classRank : Value → Nat
  | .null => 0
  | .integer _ | .real _ => 1
  | .text _ => 2
  | .blob _ => 3

/-- Compares two byte lists. -/
def compareBytes : List UInt8 → List UInt8 → Ordering
  | [], [] => .eq
  | [], _ => .lt
  | _, [] => .gt
  | a :: as, b :: bs => if a < b then .lt else if b < a then .gt else compareBytes as bs

/-- Compares two values that are not null; `none` when one of them is null. Numbers compare by
their exact values. -/
def Value.compare? (a b : Value) : Option Ordering :=
  match a, b with
  | .null, _ | _, .null => none
  | .text x, .text y => some (if x < y then .lt else if y < x then .gt else .eq)
  | .blob x, .blob y => some (compareBytes x y)
  | .integer x, .integer y => some (compare x y)
  | .real x, .integer y => x.compareInt y
  | .integer x, .real y => (y.compareInt x).map Ordering.swap
  | .real x, .real y => x.compare? y
  | x, y => some (compare x.classRank y.classRank)

/-- The words read as true or false. -/
def readFlag? (s : String) : Option Bool :=
  match s with
  | "1" | "t" | "T" | "true" | "TRUE" | "True" => some true
  | "0" | "f" | "F" | "false" | "FALSE" | "False" => some false
  | _ => none

/-- A value read as text. -/
def Value.asText : Value → Except String String
  | .null => .error "converting NULL to string is unsupported"
  | .integer n => .ok (toString n)
  | .real r => .ok r.formatShortest
  | .text s => .ok s
  | .blob bs => .ok (Text.decodeLossy bs)

/-- A value read as a truth value. -/
def Value.asFlag : Value → Except String Bool
  | .integer 0 => .ok false
  | .integer 1 => .ok true
  | .integer n => .error ("sql/driver: couldn't convert " ++ toString n ++ " into type bool")
  | .text s => match readFlag? s with
    | some b => .ok b
    | none => .error ("sql/driver: couldn't convert " ++ Text.quote s ++ " into type bool")
  | .blob bs =>
    let s := Text.decodeLossy bs
    match readFlag? s with
    | some b => .ok b
    | none => .error ("sql/driver: couldn't convert " ++ Text.quote s ++ " into type bool")
  | .real r => .error ("sql/driver: couldn't convert " ++ r.formatShortest ++ " (float64) into type bool")
  | .null => .error "sql/driver: couldn't convert <nil> (<nil>) into type bool"

/-- Text read as a 64-bit integer, or why it is not one. -/
def readInt64Text (s : String) : Except String Int :=
  match Text.parseDecimal? s with
  | some n => if Text.minInt64 ≤ n && n ≤ Text.maxInt64 then .ok n else .error "value out of range"
  | none => .error "invalid syntax"

/-- A value read as a 64-bit integer: through its text for text, bytes and reals. -/
def Value.asInt : Value → Except String Int
  | .integer n => .ok n
  | .null => .error "converting NULL to int64 is unsupported"
  | .text s => (readInt64Text s).mapError fun e =>
      "converting driver.Value type string (" ++ Text.quote s ++ ") to a int64: " ++ e
  | .blob bs =>
    let s := Text.decodeLossy bs
    (readInt64Text s).mapError fun e =>
      "converting driver.Value type []uint8 (" ++ Text.quote s ++ ") to a int64: " ++ e
  | .real r =>
    let s := r.formatShortest
    (readInt64Text s).mapError fun e =>
      "converting driver.Value type float64 (" ++ Text.quote s ++ ") to a int64: " ++ e

end AclReconcile.Sql
