import AclReconcile.Binary64.Basic

/-!
# Real numbers in the database engine

The engine keeps real numbers as binary64 numbers and converts them to and from text its own
way, so the digits it reads and writes are exactly those below.

Reading (`readReal`) takes an optional sign, digits with an optional point and an optional
exponent, with blanks around. The digits are gathered into a 64-bit significand (digits past
about nineteen only move the point) and the exponent is applied by multiplying a pair of
numbers, a sum kept as a high part and a low part, by powers of ten given as such pairs
(`scaleStep`, two binary64 products with their rounding errors recovered by splitting each
factor into halves of 26 bits). The reader also tells whether the whole text was a number and
of which form.

Writing (`decodeDigits`) scales a number into the range of 64-bit integers by the same steps,
reads the integer's digits and rounds them to the digits asked for. `formatReal` lays those
digits out as a fixed, exponent or general format with the flags of the engine's `printf`, and
`realText` is the text a real number becomes: fifteen significant digits, always with a point
(`1.0`, `0.5`, `1.0e+23`, `Inf`).
-/

namespace AclReconcile.Sql

open AclReconcile (Binary64)

/-- The blanks the engine skips around numbers. -/
def isSpaceChar (c : Char) : Bool :=
  c == ' ' || c == '\t' || c == '\n' || c == '\x0b' || c == '\x0c' || c == '\r'

/-- Whether a character is an ASCII decimal digit. -/
def isDigitChar (c : Char) : Bool := '0' ≤ c && c ≤ '9'

/-- The high half of a number: its 64-bit pattern with the low 26 bits cleared. -/
def highHalf (x : Binary64) : Binary64 :=
  Binary64.ofBits (x.toBits / Nat.pow 2 26 * Nat.pow 2 26)

/-- Multiplies the pair `x` (a high and a low part) by the pair `y`, `yy`, keeping the
product as a pair: the halves of the high parts give an exact product of them, and the cross
terms go to the low part. -/
def scaleStep (x : Binary64 × Binary64) (y yy : Binary64) : Binary64 × Binary64 :=
  let (x0, x1) := x
  let hx := highHalf x0
  let tx := x0.sub hx
  let hy := highHalf y
  let ty := y.sub hy
  let p := hx.mul hy
  let q := (hx.mul ty).add (tx.mul hy)
  let c := p.add q
  let cc := ((p.sub c).add q).add (tx.mul ty)
  let cc := ((x0.mul yy).add (x1.mul y)).add cc
  let high := c.add cc
  (high, (c.sub high).add cc)

/-- A power of ten as a pair: the binary64 number nearest it and the error of that number. -/
structure PowerPair where
  high : Binary64
  low : Binary64

/-- 10^100 and its error. -/
def tenTo100 : PowerPair :=
  ⟨Binary64.ofDecimal false 1 100, Binary64.ofDecimal true 15902891109759918046 64⟩

/-- 10^10, exact. -/
def tenTo10 : PowerPair := ⟨Binary64.ofDecimal false 1 10, Binary64.zero⟩

/-- 10, exact. -/
def tenTo1 : PowerPair := ⟨Binary64.ofDecimal false 1 1, Binary64.zero⟩

/-- 10^-100 and its error. -/
def tenToMinus100 : PowerPair :=
  ⟨Binary64.ofDecimal false 1 (-100), Binary64.ofDecimal true 199918998026028836196 (-137)⟩

/-- 10^-10 and its error. -/
def tenToMinus10 : PowerPair :=
  ⟨Binary64.ofDecimal false 1 (-10), Binary64.ofDecimal true 36432197315497741579 (-46)⟩

/-- 10^-1 and its error. -/
def tenToMinus1 : PowerPair :=
  ⟨Binary64.ofDecimal false 1 (-1), Binary64.ofDecimal true 55511151231257827021 (-37)⟩

/-- Multiplies a pair by a power of ten `n` times. -/
def scaleTimes (p : PowerPair) : Nat → Binary64 × Binary64 → Binary64 × Binary64
  | 0, x => x
  | n + 1, x => scaleTimes p n (scaleStep x p.high p.low)

/-- Multiplies a pair by `10^e`: hundreds, tens and ones of the exponent in turn. -/
def scaleByTen (x : Binary64 × Binary64) (e : Int) : Binary64 × Binary64 :=
  if e > 0 then
    let n := e.toNat
    let x := scaleTimes tenTo100 (n / 100) x
    let x := scaleTimes tenTo10 (n % 100 / 10) x
    scaleTimes tenTo1 (n % 10) x
  else
    let n := (-e).toNat
    let x := scaleTimes tenToMinus100 (n / 100) x
    let x := scaleTimes tenToMinus10 (n % 100 / 10) x
    scaleTimes tenToMinus1 (n % 10) x

/-- A binary64 number below 2^64 converted to an unsigned 64-bit integer as the engine's code
does: truncated toward zero below 2^63, and from 2^63 on by truncating the number less 2^63
and setting the top bit, where a number that is still too large truncates to 2^63. -/
def toUnsigned64 (x : Binary64) : Nat :=
  let top := Binary64.ofNat (Nat.pow 2 63)
  if x.lt top then ((x.truncate).getD 0).toNat
  else
    let y := x.sub top
    let z := if y.lt top then ((y.truncate).getD 0).toNat else Nat.pow 2 63
    z ||| Nat.pow 2 63

/-- The most significant digits a number's significand gathers: reading stops adding digits
once it reaches this. -/
def significandLimit : Nat := (Nat.pow 2 64 - 1 - 9) / 10

/-- What reading a number from text gives: the number, and the form of the text. -/
structure ReadReal where
  value : Binary64
  /-- 1 for digits only, 2 with a point or an exponent, 3 with both, when the whole text is
  the number; -1 when a number with a point or an exponent is followed by other text; 0 when
  the text is not a number. -/
  form : Int

/-- Reads the exponent digits after `e` and its sign; values beyond 10000 stay 10000. -/
def exponentDigits (e : Nat) : List Char → Nat × Bool × List Char
  | c :: cs =>
    if isDigitChar c then
      let (e, _, rest) := exponentDigits (if e < 10000 then e * 10 + (c.toNat - 48) else 10000) cs
      (e, true, rest)
    else (e, false, c :: cs)
  | [] => (e, false, [])

/-- Reads integer digits into the significand `s`: once it reaches `significandLimit` the
remaining digits only count toward the exponent shift. Gives the significand, the number of
digits added, the shift and the rest. -/
def wholeDigits (s : Nat) (n : Nat) : List Char → Nat × Nat × Nat × List Char
  | c :: cs =>
    if isDigitChar c then
      let s := s * 10 + (c.toNat - 48)
      if s ≥ significandLimit then
        let skipped := cs.takeWhile isDigitChar
        (s, n + 1, skipped.length, cs.drop skipped.length)
      else wholeDigits s (n + 1) cs
    else (s, n, 0, c :: cs)
  | [] => (s, n, 0, [])

/-- Reads the digits after a point into the significand while it is below `significandLimit`;
gives the significand, the number of digits added and the rest. -/
def fractionDigits (s : Nat) (n : Nat) : List Char → Nat × Nat × List Char
  | c :: cs =>
    if isDigitChar c then
      if s < significandLimit then fractionDigits (s * 10 + (c.toNat - 48)) (n + 1) cs
      else fractionDigits s n cs
    else (s, n, c :: cs)
  | [] => (s, n, [])

/-- Raises the significand toward 2^64 while the exponent is positive, and drops its trailing
zeros while the exponent is negative. -/
def normalizeSignificand : Nat → Nat → Int → Nat × Int
  | 0, s, e => (s, e)
  | fuel + 1, s, e =>
    if e > 0 && s < (Nat.pow 2 64 - 1 - 0x7ff) / 10 then normalizeSignificand fuel (s * 10) (e - 1)
    else if e < 0 && s % 10 == 0 then normalizeSignificand fuel (s / 10) (e + 1)
    else (s, e)

/-- The number of a significand `s` times `10^e`, computed as the engine does: the significand
as a pair (its nearest binary64 number and the remainder), scaled by the powers of ten. -/
def significandValue (negative : Bool) (s : Nat) (e : Int) : Binary64 :=
  if s == 0 then .finite negative 0
  else
    let (s, e) := normalizeSignificand (40 + e.natAbs) s e
    let high := Binary64.ofNat s
    let s2 := toUnsigned64 high
    let low := if s ≥ s2 then Binary64.ofNat (s - s2) else (Binary64.ofNat (s2 - s)).neg
    let (r0, r1) := scaleByTen (high, low) e
    let r := r0.add r1
    let r := if r.isNaN then .infinite false else r
    if negative then r.neg else r

/-- Reads a number from text as the engine does. -/
def readReal (text : List Char) : ReadReal :=
  let cs := text.dropWhile isSpaceChar
  if cs.isEmpty then ⟨Binary64.zero, 0⟩
  else
    let (negative, cs) := match cs with
      | '-' :: r => (true, r)
      | '+' :: r => (false, r)
      | r => (false, r)
    let (s, nDigit, shift, cs) := wholeDigits 0 0 cs
    -- the point and its digits
    let (s, nDigit, d, eType, cs) : Nat × Nat × Int × Int × List Char :=
      match cs with
      | '.' :: r =>
        let (s', n', r') := fractionDigits s 0 r
        (s', nDigit + n', (shift : Int) - n', 2, r')
      | r => (s, nDigit, shift, 1, r)
    -- the exponent
    let (e, eValid, eType, cs) : Int × Bool × Int × List Char :=
      match cs with
      | c :: r =>
        if c == 'e' || c == 'E' then
          match r with
          | [] => (0, false, eType + 1, [])
          | _ =>
            let (neg, r) := match r with
              | '-' :: t => (true, t)
              | '+' :: t => (false, t)
              | t => (false, t)
            let (n, valid, r) := exponentDigits 0 r
            (if neg then -(n : Int) else n, valid, eType + 1, r)
        else (0, true, eType, c :: r)
      | [] => (0, true, eType, [])
    let cs := cs.dropWhile isSpaceChar
    let value := significandValue negative s (e + d)
    let form : Int :=
      if cs.isEmpty && nDigit > 0 && eValid then eType
      else if eType ≥ 2 && (eType == 3 || eValid) && nDigit > 0 then -1
      else 0
    ⟨value, form⟩

/-- The smallest and largest 64-bit integers. -/
def minInt : Int := -9223372036854775808

/-- The largest 64-bit integer. -/
def maxInt : Int := 9223372036854775807

/-- What reading a 64-bit integer from text gives: the integer (clamped), and 0 when the text
is exactly an integer that fits, 1 when other text follows it, 2 when it is too large, 3 when it
is 2^63 without a sign, and -1 when there are no digits. -/
def readInt64 (text : List Char) : Int × Int :=
  let cs := text.dropWhile isSpaceChar
  let (negative, cs) := match cs with
    | '-' :: r => (true, r)
    | '+' :: r => (false, r)
    | r => (false, r)
  let afterZeros := cs.dropWhile (· == '0')
  let digits := afterZeros.takeWhile isDigitChar
  let rest := afterZeros.drop digits.length
  let u : Nat := digits.foldl (fun n c => n * 10 + (c.toNat - 48)) 0
  let value : Int :=
    if u > maxInt.toNat then (if negative then minInt else maxInt)
    else if negative then -(u : Int) else u
  let rc : Int :=
    if digits.isEmpty && afterZeros.length == cs.length then -1
    else if !(rest.all isSpaceChar) then 1
    else 0
  let i := digits.length
  if i < 19 then (value, rc)
  else
    let c : Ordering := if i > 19 then .gt else compare u (Nat.pow 2 63)
    if c == .lt then (value, rc)
    else
      let clamped := if negative then minInt else maxInt
      if c == .gt then (clamped, 2) else if negative then (clamped, rc) else (clamped, 3)

/-- A real number as a 64-bit integer: truncated toward zero, and clamped beyond
±9223372036854774784. -/
def realToInt (r : Binary64) : Int :=
  if r.compareInt (-9223372036854774784) == some .lt then minInt
  else if r.compareInt 9223372036854774784 == some .gt then maxInt
  else (r.truncate).getD minInt

/-- Whether a real number stands for an integer the engine takes as the same: zero, or the
same binary64 number as the integer when the integer is below 2^51 in size. -/
def realSameAsInt (r : Binary64) (i : Int) : Bool :=
  r.isZero || (r == Binary64.ofInt i && -2251799813685248 ≤ i && i < 2251799813685248)

/-- The decimal digits of a number as written by the engine. -/
structure Digits where
  /-- `'-'` for a negative number, `'+'` otherwise. -/
  sign : Char
  /-- 0 for a number, 1 for an infinity, 2 for NaN. -/
  special : Nat
  /-- The significant digits, without trailing zeros. -/
  digits : List Char
  /-- The position of the decimal point: the number is `0.digits × 10^point`. -/
  point : Int

/-- Scales a pair up or down by powers of ten until its high part lies between about 9.2e17
and 9.2e18, counting the decimal exponent. -/
def scaleIntoRange (x : Binary64 × Binary64) : Binary64 × Binary64 × Int :=
  let big (d : Nat) (e : Int) : Binary64 := Binary64.ofDecimal false d e
  let loop (stop : Binary64 × Binary64 → Bool) (p : PowerPair) (step : Int) :
      Nat → (Binary64 × Binary64) × Int → (Binary64 × Binary64) × Int :=
    fun fuel start => Nat.rec (motive := fun _ => (Binary64 × Binary64) × Int → (Binary64 × Binary64) × Int)
      (fun s => s)
      (fun _ rec s => if stop s.1 then s else rec (scaleStep s.1 p.high p.low, s.2 + step))
      fuel start
  if (big 9223372036854774784 0).lt x.1 then
    let s := loop (fun y => !(big 9223372036854774784 100).lt y.1) tenToMinus100 100 10 (x, 0)
    let s := loop (fun y => !(big 9223372036854774784 10).lt y.1) tenToMinus10 10 40 s
    let s := loop (fun y => !(big 9223372036854774784 0).lt y.1) tenToMinus1 1 40 s
    (s.1.1, s.1.2, s.2)
  else
    let s := loop (fun y => !y.1.lt (big 9223372036854774784 (-101))) tenTo100 (-100) 10 (x, 0)
    let s := loop (fun y => !y.1.lt (big 9223372036854774784 (-11))) tenTo10 (-10) 40 s
    let s := loop (fun y => !y.1.lt (big 922337203685477478 0)) tenTo1 (-1) 40 s
    (s.1.1, s.1.2, s.2)

/-- Adds one to a list of decimal digits read from the right, with the carry out. -/
def incrementDigits : List Nat → List Nat × Bool
  | [] => ([], true)
  | d :: ds =>
    let (ds, carry) := incrementDigits ds
    if carry then (if d == 9 then (0 :: ds, true) else ((d + 1) :: ds, false)) else (d :: ds, false)

/-- The digits of a number, rounded to `round` significant digits when that is positive, or to
`-round` places after the point when it is not; never more than `most` digits. -/
def decodeDigits (r : Binary64) (round : Int) (most : Nat) : Digits :=
  match r with
  | .nan => ⟨'+', 2, [], 0⟩
  | .infinite s => ⟨if s then '-' else '+', 1, [], 0⟩
  | .finite negative u =>
    if u == 0 then ⟨'+', 0, ['0'], 1⟩
    else
      let sign := if negative then '-' else '+'
      let (high, low, exp) := scaleIntoRange (.finite false u, Binary64.zero)
      let v : Nat :=
        if low.lt Binary64.zero then toUnsigned64 high - toUnsigned64 low.neg
        else toUnsigned64 high + toUnsigned64 low
      let ds := (toString v).toList.map fun c => c.toNat - 48
      let point : Int := ds.length + exp
      -- a rounding position at the first digit that rounds up gains a leading zero digit
      let (ds, point, round) :=
        if round ≤ 0 then
          let round := point - round
          if round == 0 && ds.headD 0 ≥ 5 then (0 :: ds, point + 1, (1 : Int)) else (ds, point, round)
        else (ds, point, round)
      let (ds, point) :=
        if round > 0 && (round < ds.length || ds.length > most) then
          let keep := min round.toNat most
          let kept := ds.take keep
          if ds.getD keep 0 ≥ 5 then
            match incrementDigits kept with
            | (up, true) => (1 :: up, point + 1)
            | (up, false) => (up, point)
          else (kept, point)
        else (ds, point)
      let ds := (ds.reverse.dropWhile (· == 0)).reverse
      ⟨sign, 0, ds.map fun d => Char.ofNat (48 + d), point⟩

/-- The kinds of real format of `printf`: fixed (`f`), exponent (`e`, `E`) and general (`g`,
`G`), the last two with the letter of their exponent. -/
inductive RealStyle where
  | fixed
  | exponent (letter : Char)
  | general (letter : Char)

/-- The flags of a `printf` directive that shape a real number. -/
structure RealFlags where
  /-- `+` or a blank to put before a positive number. -/
  signMark : Option Char := none
  /-- `#`: always a point, and trailing zeros kept in the general format. -/
  alternate : Bool := false
  /-- `!`: up to 26 significant digits, and a point followed by at least one digit. -/
  bang : Bool := false
  /-- `0`: pad with zeros after the sign up to the width. -/
  zeroPad : Bool := false
  /-- `-`: pad on the right, which turns zero padding off. -/
  leftJustify : Bool := false
  /-- `,`: group the digits before the point by three. -/
  thousands : Bool := false

/-- Writes the digits before the point: `count` places (from the highest), padded with zeros
past the digits, with a comma before each group of three when asked. Gives the text and the
digits not used. -/
def integerPlaces (thousands : Bool) : Nat → List Char → List Char × List Char
  | 0, ds => ([], ds)
  | n + 1, ds =>
    let (d, ds) := match ds with
      | d :: rest => (d, rest)
      | [] => ('0', [])
    let comma := thousands && n % 3 == 0 && n > 0
    let (more, ds) := integerPlaces thousands n ds
    (d :: (if comma then ',' :: more else more), ds)

/-- A real number in a `printf` format, before padding to the width (other than the zero
padding, which the format does itself). `precision` is the number of digits after the point
(fixed and exponent formats) or of significant digits (general format), 6 when not given. -/
def formatReal (style : RealStyle) (flags : RealFlags) (width : Nat) (precision : Option Nat)
    (r : Binary64) : String :=
  let precision := precision.getD 6
  let (precision, round) : Nat × Int := match style with
    | .fixed => (precision, -(precision : Int))
    | .general _ => let p := max precision 1; (p, p)
    | .exponent _ => (precision, precision + 1)
  let s := decodeDigits r round (if flags.bang then 26 else 16)
  let infinite := s.special == 1
  if s.special == 2 then (if flags.zeroPad then "null" else "NaN")
  else if infinite && !flags.zeroPad then
    if s.sign == '-' then "-Inf"
    else match flags.signMark with
      | some p => String.singleton p ++ "Inf"
      | none => "Inf"
  else
    let s := if infinite then { s with digits := ['9'], point := 1000 } else s
    let mark := if s.sign == '-' then some '-' else flags.signMark
    let exp := s.point - 1
    let precision : Nat := match style with
      | .general _ => precision - 1
      | _ => precision
    -- the general format is the exponent format for very small or large numbers, and the
    -- fixed format otherwise; it drops trailing zeros unless `#` is given
    let (exponentForm, precision, dropZeros, letter) : Bool × Nat × Bool × Char :=
      match style with
      | .general l =>
        if exp < -4 || exp > (precision : Int) then (true, precision, !flags.alternate, l)
        else (false, ((precision : Int) - exp).toNat, !flags.alternate, l)
      | .exponent l => (true, precision, flags.bang, l)
      | .fixed => (false, precision, flags.bang, 'e')
    let e2 : Int := if exponentForm then 0 else s.point - 1
    let withPoint := precision > 0 || flags.alternate || flags.bang
    let (whole, ds) :=
      if e2 < 0 then (['0'], s.digits)
      else integerPlaces flags.thousands (e2.toNat + 1) s.digits
    let leading := if e2 < 0 then min ((-(e2 + 1)).toNat) precision else 0
    let zeros := List.replicate leading '0'
    let places := precision - leading
    let frac := (ds ++ List.replicate places '0').take places
    let body := whole ++ (if withPoint then '.' :: zeros ++ frac else [])
    let body :=
      if dropZeros && withPoint then
        let trimmed := (body.reverse.dropWhile (· == '0')).reverse
        match trimmed.getLast? with
        | some '.' => if flags.bang then trimmed ++ ['0'] else trimmed.dropLast
        | _ => trimmed
      else body
    let suffix :=
      if exponentForm then
        let e := s.point - 1
        let n := e.natAbs
        letter :: (if e < 0 then '-' else '+') ::
          ((if n ≥ 100 then [Char.ofNat (48 + n / 100)] else []) ++
            [Char.ofNat (48 + n % 100 / 10), Char.ofNat (48 + n % 10)])
      else []
    let sign := match mark with
      | some p => [p]
      | none => []
    let text := body ++ suffix
    let length := sign.length + text.length
    let text :=
      if flags.zeroPad && !flags.leftJustify && length < width then
        List.replicate (width - length) '0' ++ text
      else text
    String.ofList (sign ++ text)

/-- The text of a real number as the engine writes it: fifteen significant digits, with a
point and at least one digit after it. -/
def realText (r : Binary64) : String :=
  formatReal (.general 'e') { bang := true } 0 (some 15) r

end AclReconcile.Sql
