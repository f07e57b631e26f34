/-!
# Binary64 floating-point numbers

A binary64 number (the double precision of IEEE 754) is a finite number, an infinity or not a
number (NaN). Every finite binary64 number is a whole multiple of 2^-1074, the smallest positive
one, so a finite number is kept as its sign and its magnitude counted in that unit. The
magnitudes that occur have at most 53 significant bits and are at most (2^53 - 1) · 2^2045 units,
the largest finite number; zero has both signs.

Every operation computes its exact result and rounds it once: to the nearest magnitude with at
most 53 significant bits, a tie going to the one with an even last bit, and to an infinity when
that magnitude is above the largest finite one. This is IEEE 754's default rounding, so sums,
differences, products, quotients and square roots are those of the hardware. A zero result of
a sum of opposite numbers is positive.

The bit layout (sign, 11 exponent bits, 52 fraction bits) is read and written by `ofBits` and
`toBits`.
-/

namespace AclReconcile

/-- A binary64 floating-point number. -/
inductive Binary64 where
  /-- A finite number: its sign and its magnitude in units of 2^-1074, with at most 53
  significant bits and at most `Binary64.maxUnits`. -/
  | finite (negative : Bool) (units : Nat)
  /-- An infinity. -/
  | infinite (negative : Bool)
  /-- Not a number. -/
  | nan
  deriving DecidableEq, Repr, Inhabited

namespace Binary64

/-- The number of units in one: 2^1074. -/
def unitsPerOne : Nat := Nat.pow 2 1074

/-- The largest finite magnitude, in units. -/
def maxUnits : Nat := (Nat.pow 2 53 - 1) * Nat.pow 2 2045

/-- The number of bits of a natural number; 0 has none. -/
def bitLength (n : Nat) : Nat := if n == 0 then 0 else Nat.log2 n + 1

/-- `n / d` rounded to the nearest whole number, a tie going to the even one. -/
def divRound (n d : Nat) : Nat :=
  let q := n / d
  let r := n % d
  if 2 * r > d then q + 1 else if 2 * r < d then q else if q % 2 == 0 then q else q + 1

/-- The magnitude nearest `num / den` units that has at most 53 significant bits, a tie going to
the even one; none when it is above the largest finite magnitude. -/
def roundUnits (num den : Nat) : Option Nat :=
  let len := bitLength (num / den)
  if len ≤ 53 then some (divRound num den)
  else
    let shift := len - 53
    let u := divRound num (den * Nat.pow 2 shift) * Nat.pow 2 shift
    if u > maxUnits then none else some u

/-- The number `num / den` units with the given sign, rounded. -/
def ofUnitFraction (negative : Bool) (num den : Nat) : Binary64 :=
  match roundUnits num den with
  | some u => .finite negative u
  | none => .infinite negative

/-- The number `m · 2^e` with the given sign, rounded. -/
def ofDyadic (negative : Bool) (m : Nat) (e : Int) : Binary64 :=
  let s := e + 1074
  if s ≥ 0 then ofUnitFraction negative (m * Nat.pow 2 s.toNat) 1
  else ofUnitFraction negative m (Nat.pow 2 (-s).toNat)

/-- The number nearest a whole number. -/
def ofInt (n : Int) : Binary64 := ofDyadic (decide (n < 0)) n.natAbs 0

/-- The number nearest a natural number. -/
def ofNat (n : Nat) : Binary64 := ofDyadic false n 0

/-- The number nearest `digits · 10^exponent`, with the given sign: the number a decimal text
stands for. Beyond 10^330 every such value is above the largest finite number, and below
10^-330 it rounds to zero. -/
def ofDecimal (negative : Bool) (digits : Nat) (exponent : Int) : Binary64 :=
  if digits == 0 then .finite negative 0
  else if exponent ≥ 330 then .infinite negative
  else if exponent + (toString digits).length < -330 then .finite negative 0
  else if exponent ≥ 0 then ofUnitFraction negative (digits * Nat.pow 10 exponent.toNat * unitsPerOne) 1
  else ofUnitFraction negative (digits * unitsPerOne) (Nat.pow 10 (-exponent).toNat)

/-- Positive zero. -/
def zero : Binary64 := .finite false 0

/-- One. -/
def one : Binary64 := .finite false unitsPerOne

/-- The sign bit: set for negative numbers and negative zero. -/
def isNegative : Binary64 → Bool
  | .finite s _ => s
  | .infinite s => s
  | .nan => false

/-- Whether a number is a zero of either sign. -/
def isZero : Binary64 → Bool
  | .finite _ u => u == 0
  | _ => false

/-- Whether a number is not a number. -/
def isNaN : Binary64 → Bool
  | .nan => true
  | _ => false

/-- Whether a number is finite. -/
def isFinite : Binary64 → Bool
  | .finite _ _ => true
  | _ => false

/-- The number with the other sign. -/
def neg : Binary64 → Binary64
  | .finite s u => .finite (!s) u
  | .infinite s => .infinite (!s)
  | .nan => .nan

/-- The number without its sign. -/
def abs : Binary64 → Binary64
  | .finite _ u => .finite false u
  | .infinite _ => .infinite false
  | .nan => .nan

/-- The rounded sum. An infinity absorbs finite numbers; opposite infinities give NaN. -/
def add : Binary64 → Binary64 → Binary64
  | .nan, _ => .nan
  | _, .nan => .nan
  | .infinite s, .infinite t => if s == t then .infinite s else .nan
  | .infinite s, .finite _ _ => .infinite s
  | .finite _ _, .infinite t => .infinite t
  | .finite s u, .finite t v =>
    if s == t then ofUnitFraction s (u + v) 1
    else if u > v then ofUnitFraction s (u - v) 1
    else if v > u then ofUnitFraction t (v - u) 1
    else zero

/-- The rounded difference. -/
def sub (a b : Binary64) : Binary64 := add a (neg b)

/-- The rounded product. An infinity times a zero is NaN. -/
def mul : Binary64 → Binary64 → Binary64
  | .nan, _ => .nan
  | _, .nan => .nan
  | .infinite s, .infinite t => .infinite (s != t)
  | .infinite s, .finite t v => if v == 0 then .nan else .infinite (s != t)
  | .finite s u, .infinite t => if u == 0 then .nan else .infinite (s != t)
  | .finite s u, .finite t v => ofUnitFraction (s != t) (u * v) unitsPerOne

/-- The rounded quotient. A non-zero number over zero is an infinity; zero over zero and an
infinity over an infinity are NaN. -/
def div : Binary64 → Binary64 → Binary64
  | .nan, _ => .nan
  | _, .nan => .nan
  | .infinite _, .infinite _ => .nan
  | .infinite s, .finite t _ => .infinite (s != t)
  | .finite s _, .infinite t => .finite (s != t) 0
  | .finite s u, .finite t v =>
    if v == 0 then (if u == 0 then .nan else .infinite (s != t))
    else ofUnitFraction (s != t) (u * unitsPerOne) v

/-- Newton's steps toward the square root of `n` from above, starting at `x`; `fuel` above the
number of bits of `n` is enough. -/
def sqrtSteps (n : Nat) : Nat → Nat → Nat
  | 0, x => x
  | fuel + 1, x =>
    let y := (x + n / x) / 2
    if y ≥ x then x else sqrtSteps n fuel y

/-- The whole part of the square root of a natural number. -/
def natSqrt (n : Nat) : Nat :=
  if n < 2 then n else sqrtSteps n (bitLength n + 2) (Nat.pow 2 ((bitLength n + 1) / 2))

/-- The rounded square root. The root of a negative number is NaN; a zero keeps its sign. -/
def sqrt : Binary64 → Binary64
  | .nan => .nan
  | .infinite s => if s then .nan else .infinite false
  | .finite s u =>
    if u == 0 then .finite s 0
    else if s then .nan
    else
      let n := u * unitsPerOne
      let r := natSqrt n
      -- an inexact root lies strictly between `r` and `r + 1` units, where no rounding
      -- boundary of a number this large falls, so `r + 1/2` rounds the same way
      if r * r == n then ofUnitFraction false r 1 else ofUnitFraction false (2 * r + 1) 2

/-- A finite number as a signed count of units. -/
def signedUnits (negative : Bool) (u : Nat) : Int := if negative then -(u : Int) else u

/-- The order of two numbers, none when one is NaN; the two zeros are equal. -/
def compare? : Binary64 → Binary64 → Option Ordering
  | .nan, _ => none
  | _, .nan => none
  | .infinite s, .infinite t => some (if s == t then .eq else if s then .lt else .gt)
  | .infinite s, .finite _ _ => some (if s then .lt else .gt)
  | .finite _ _, .infinite t => some (if t then .gt else .lt)
  | .finite s u, .finite t v => some (compare (signedUnits s u) (signedUnits t v))

/-- Whether `a < b`; false when either is NaN. -/
def lt (a b : Binary64) : Bool := compare? a b == some .lt

/-- Whether `a ≤ b`; false when either is NaN. -/
def le (a b : Binary64) : Bool := compare? a b == some .lt || compare? a b == some .eq

/-- Whether the numbers are equal as numbers; NaN equals nothing, and the zeros are equal. -/
def same (a b : Binary64) : Bool := compare? a b == some .eq

/-- The order of a number and a whole number, compared exactly; none for NaN. -/
def compareInt (x : Binary64) (n : Int) : Option Ordering :=
  match x with
  | .nan => none
  | .infinite s => some (if s then .lt else .gt)
  | .finite s u => some (compare (signedUnits s u) (n * unitsPerOne))

/-- The whole part of a finite number, toward zero. -/
def truncate : Binary64 → Option Int
  | .finite s u => some (signedUnits s (u / unitsPerOne))
  | _ => none

/-- The greatest whole number at most a finite number. -/
def floorInt : Binary64 → Option Int
  | .finite s u =>
    let w := u / unitsPerOne
    some (if s && u % unitsPerOne != 0 then -((w + 1 : Nat) : Int) else signedUnits s w)
  | _ => none

/-- A finite number rounded to a whole number: `up` says, from the sign and whether a fraction
is cut off, whether to take the next whole number away from zero. The sign is kept, so a
negative number that rounds to zero gives negative zero; infinities and NaN stay. -/
def roundWhole (up : Bool → Bool → Bool) : Binary64 → Binary64
  | .finite s u =>
    let w := u / unitsPerOne
    let cut := u % unitsPerOne != 0
    .finite s ((if up s cut then w + 1 else w) * unitsPerOne)
  | x => x

/-- The whole part, toward zero. -/
def trunc : Binary64 → Binary64 := roundWhole fun _ _ => false

/-- The greatest whole number not above the number. -/
def floor : Binary64 → Binary64 := roundWhole fun s cut => s && cut

/-- The least whole number not below the number. -/
def ceil : Binary64 → Binary64 := roundWhole fun s cut => !s && cut

/-- The remainder of dividing `a` by `b` with the quotient truncated, which is exact: it has the
sign of `a`. An infinite `a` or a zero `b` gives NaN, an infinite `b` gives `a`. -/
def rem : Binary64 → Binary64 → Binary64
  | .nan, _ | _, .nan => .nan
  | .infinite _, _ => .nan
  | .finite s u, .infinite _ => .finite s u
  | .finite s u, .finite _ v => if v == 0 then .nan else .finite s (u % v)

/-- Whether a number is finite and whole. -/
def isWhole : Binary64 → Bool
  | .finite _ u => u % unitsPerOne == 0
  | _ => false

/-- The 64-bit pattern of a number: the sign bit, 11 exponent bits and 52 fraction bits. NaN
is the quiet NaN without payload. -/
def toBits : Binary64 → Nat
  | .nan => 0x7FF8000000000000
  | .infinite s => (if s then Nat.pow 2 63 else 0) + 0x7FF0000000000000
  | .finite s u =>
    let sign := if s then Nat.pow 2 63 else 0
    if u < Nat.pow 2 52 then sign + u
    else
      let shift := bitLength u - 53
      sign + (shift + 1) * Nat.pow 2 52 + (u / Nat.pow 2 shift - Nat.pow 2 52)

/-- The number of a 64-bit pattern. -/
def ofBits (b : Nat) : Binary64 :=
  let negative := b / Nat.pow 2 63 % 2 == 1
  let field := b / Nat.pow 2 52 % 2048
  let fraction := b % Nat.pow 2 52
  if field == 2047 then (if fraction == 0 then .infinite negative else .nan)
  else if field == 0 then .finite negative fraction
  else .finite negative ((Nat.pow 2 52 + fraction) * Nat.pow 2 (field - 1))

end Binary64

end AclReconcile
