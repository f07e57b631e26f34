import AclReconcile.Text.Integer
import AclReconcile.Text.Quote
import AclReconcile.Text.Case

/-!
# Reading numbers and truth values

Settings and options arrive as text. A whole number is read digit by digit in a base; reading
stops at the first character that is not a digit of the base, which is a syntax error, or at
the first digit that takes the value past the largest one the width allows, which is a range
error, whichever comes first. With base 0 the base comes from a prefix ("0b", "0o", "0x", or a
lone leading "0" for octal) and underscores may separate digits. A signed number is an optional
sign followed by an unsigned one; the range check then uses half the unsigned range.

A failed reading names the function that read, the text, and the problem.
-/

namespace AclReconcile.Text

/-- What is wrong with a number's text. -/
inductive NumberProblem where
  | malformed
  | outOfRange
  deriving DecidableEq, Inhabited

/-- A number's text that cannot be read. -/
structure NumberError where
  func : String
  text : String
  problem : NumberProblem
  deriving Inhabited

/-- The report of a number that cannot be read. -/
def NumberError.message (e : NumberError) : String :=
  "strconv." ++ e.func ++ ": parsing " ++ quote e.text ++ ": " ++
    (match e.problem with
     | .malformed => "invalid syntax"
     | .outOfRange => "value out of range")

/-- The value of a character as a digit of a base up to 36. -/
def digitIn (base : Nat) (c : Char) : Option Nat :=
  let l := lowerChar c
  let d := if '0' ≤ c && c ≤ '9' then some (c.toNat - 48)
    else if 'a' ≤ l && l ≤ 'z' && c.toNat < 128 then some (l.toNat - 87)
    else none
  d.filter (· < base)

/-- Reads digits of a base onto `n`, skipping underscores when `separated`, and stops at the
first problem. -/
def readDigits (base limit : Nat) (separated : Bool) : List Char → Nat → Except NumberProblem Nat
  | [], n => .ok n
  | c :: rest, n =>
    if separated && c == '_' then readDigits base limit separated rest n
    else match digitIn base c with
      | none => .error .malformed
      | some d =>
        if n * base + d > limit then .error .outOfRange
        else readDigits base limit separated rest (n * base + d)

/-- The base a prefix names and the digits after it. -/
def basePrefix : List Char → Nat × List Char
  | '0' :: x :: r :: rest =>
    match lowerChar x with
    | 'b' => (2, r :: rest)
    | 'o' => (8, r :: rest)
    | 'x' => (16, r :: rest)
    | _ => (8, x :: r :: rest)
  | '0' :: rest => (8, rest)
  | cs => (10, cs)

/-- Whether underscores sit only between digits (a base prefix counts as a digit). The state is
what came last: 0 for the start, 1 for a digit, 2 for an underscore, 3 for anything else. -/
def separatorsFit (hex : Bool) : List Char → Nat → Bool
  | [], last => last != 2
  | c :: rest, last =>
    let digit := ('0' ≤ c && c ≤ '9') ||
      (hex && c.toNat < 128 && 'a' ≤ lowerChar c && lowerChar c ≤ 'f')
    if digit then separatorsFit hex rest 1
    else if c == '_' then last == 1 && separatorsFit hex rest 2
    else last != 2 && separatorsFit hex rest 3

/-- Whether the underscores of an unsigned number's text are placed well. -/
def underscoresFit (cs : List Char) : Bool :=
  match cs with
  | '0' :: x :: rest =>
    let l := lowerChar x
    if l == 'b' || l == 'o' || l == 'x' then separatorsFit (l == 'x') rest 1
    else separatorsFit false cs 0
  | _ => separatorsFit false cs 0

/-- Reads an unsigned number of `bits` bits in a base (0 for a prefixed base). -/
def readUnsigned (base bits : Nat) (s : String) : Except NumberProblem Nat :=
  let cs := s.toList
  if cs.isEmpty then .error .malformed
  else
    let (b, digits) := if base == 0 then basePrefix cs else (base, cs)
    match readDigits b (Nat.pow 2 bits - 1) (base == 0) digits 0 with
    | .error p => .error p
    | .ok n =>
      if base == 0 && cs.contains '_' && !underscoresFit cs then .error .malformed else .ok n

/-- An unsigned number of `bits` bits in a base (0 for a prefixed base). -/
def parseUnsigned (base bits : Nat) (s : String) : Except NumberError Nat :=
  (readUnsigned base bits s).mapError (NumberError.mk "ParseUint" s)

/-- A signed number of `bits` bits in a base (0 for a prefixed base). -/
def parseSigned (base bits : Nat) (s : String) : Except NumberError Int :=
  let fail (p : NumberProblem) : Except NumberError Int := .error ⟨"ParseInt", s, p⟩
  let (negative, body) := match s.toList with
    | '+' :: rest => (false, String.ofList rest)
    | '-' :: rest => (true, String.ofList rest)
    | _ => (false, s)
  if s.isEmpty then fail .malformed
  else
    let half := Nat.pow 2 (bits - 1)
    match readUnsigned base bits body with
    | .error .malformed => fail .malformed
    | .error .outOfRange => fail .outOfRange
    | .ok n =>
      if !negative && n ≥ half then fail .outOfRange
      else if negative && n > half then fail .outOfRange
      else .ok (if negative then -(n : Int) else n)

/-- A truth value: 1, t, T, TRUE, true or True, and 0, f, F, FALSE, false or False. -/
def parseBool (s : String) : Except NumberError Bool :=
  if ["1", "t", "T", "TRUE", "true", "True"].contains s then .ok true
  else if ["0", "f", "F", "FALSE", "false", "False"].contains s then .ok false
  else .error ⟨"ParseBool", s, .malformed⟩

example : (parseUnsigned 10 16 "99999999").toOption = none := by decide
example : (parseSigned 0 64 "0x1_0").toOption = some 16 := by decide
example : (parseSigned 0 64 "1__0").toOption = none := by decide

end AclReconcile.Text
