import AclReconcile.Text.Integer
import AclReconcile.Text.Quote

/-!
# Spans of time

A span of time is a signed count of nanoseconds in a 64-bit word. Its text gives hours, minutes
and seconds (`1h2m3.5s`), leaving out leading units that are zero; a span under one second is
written in the largest of milliseconds, microseconds (`µs`) or nanoseconds that keeps the whole
part non-zero, and a fraction is written without trailing zeros. The empty span is `0s`.
-/

namespace AclReconcile

/-- A signed span of time in nanoseconds. -/
structure Duration where
  nanos : Int
  deriving BEq, Inhabited

namespace Duration

/-- One second. -/
def second : Duration := ⟨1000000000⟩

/-- `x` wrapped into the signed 64-bit range. -/
def wrap64 (x : Int) : Int :=
  Int.emod (x + 9223372036854775808) 18446744073709551616 - 9223372036854775808

/-- The span `n` times as long, wrapped like a 64-bit word. -/
def scale (d : Duration) (n : Int) : Duration := ⟨wrap64 (d.nanos * n)⟩

/-- The fraction `v mod 10^prec` after a point, trailing zeros left out, and the point too when
the fraction is zero; with the whole part `v / 10^prec`. -/
def fraction (v prec : Nat) : String × Nat :=
  let digits := (List.range prec).map fun i => v / Nat.pow 10 i % 10
  let kept := digits.dropWhile (· == 0)
  let text := String.ofList (kept.reverse.map fun k => Char.ofNat (48 + k))
  ((if kept.isEmpty then "" else "." ++ text), v / Nat.pow 10 prec)

/-- The text of a span that is not negative. -/
def magnitudeText (u : Nat) : String :=
  if u == 0 then "0s"
  else if u < 1000000000 then
    let (prec, unit) :=
      if u < 1000 then (0, "ns") else if u < 1000000 then (3, "µs") else (6, "ms")
    let (frac, whole) := fraction u prec
    toString whole ++ frac ++ unit
  else
    let (frac, secs) := fraction u 9
    let mins := secs / 60
    let hours := mins / 60
    let secText := toString (secs % 60) ++ frac ++ "s"
    if mins == 0 then secText
    else if hours == 0 then toString (mins % 60) ++ "m" ++ secText
    else toString hours ++ "h" ++ toString (mins % 60) ++ "m" ++ secText

/-- The text of a span. -/
def render (d : Duration) : String :=
  if d.nanos < 0 then "-" ++ magnitudeText d.nanos.natAbs else magnitudeText d.nanos.natAbs

example : render ⟨0⟩ = "0s" := by decide
example : render ⟨1500⟩ = "1.5µs" := by decide
example : render ⟨3600000000000⟩ = "1h0m0s" := by decide
example : render ⟨-90000000000⟩ = "-1m30s" := by decide

/-- A character of a span's text as reports show it: ASCII other than control characters as
itself (a quote and a backslash escaped), anything else as the hexadecimal bytes of its
encoding. -/
def quoteChar (c : Char) : String :=
  if c.toNat < 0x20 || c.toNat ≥ 0x80 then
    String.join ((String.singleton c).toUTF8.toList.map fun b =>
      "\\x" ++ Text.hexPadded 2 b.toNat)
  else if c == '"' || c == '\\' then String.ofList ['\\', c]
  else String.singleton c

/-- A span's text in quotes, as reports show it. -/
def quoteText (s : String) : String := "\"" ++ String.join (s.toList.map quoteChar) ++ "\""

/-- Nanoseconds in a unit. -/
def unitNanos : String → Option Nat
  | "ns" => some 1
  | "us" => some 1000
  | "µs" => some 1000
  | "μs" => some 1000
  | "ms" => some 1000000
  | "s" => some 1000000000
  | "m" => some 60000000000
  | "h" => some 3600000000000
  | _ => none

/-- The largest magnitude a span's text may reach before its sign is applied. -/
def bound : Nat := Nat.pow 2 63

/-- Reads leading decimal digits onto `x`; `none` once the value passes `bound`. -/
def leadingWhole : List Char → Nat → Option (Nat × List Char)
  | [], x => some (x, [])
  | c :: rest, x =>
    if '0' ≤ c && c ≤ '9' then
      if x > bound / 10 || x * 10 + (c.toNat - 48) > bound then none
      else leadingWhole rest (x * 10 + (c.toNat - 48))
    else some (x, c :: rest)

/-- Reads the digits after a point onto `x` with its scale; digits that would pass the bound
are skipped. -/
def leadingFraction : List Char → Nat → Float → Bool → Nat × Float × List Char
  | [], x, scale, _ => (x, scale, [])
  | c :: rest, x, scale, skipping =>
    if '0' ≤ c && c ≤ '9' then
      if skipping || x > (bound - 1) / 10 || x * 10 + (c.toNat - 48) > bound then
        leadingFraction rest x scale true
      else leadingFraction rest (x * 10 + (c.toNat - 48)) (scale * 10) false
    else (x, scale, c :: rest)

/-- Whether a character may start or continue a number in a span's text. -/
def numeric (c : Char) : Bool := c == '.' || ('0' ≤ c && c ≤ '9')

/-- Reads the terms of a span's text (a number followed by a unit each) onto the total `d`; the
error is the report. Every term takes at least one character, so `fuel` above the length of the
text is enough. -/
def readTerms (whole : String) : Nat → List Char → Nat → Except String Nat
  | _, [], d => .ok d
  | 0, _ :: _, _ => .error ("time: invalid duration " ++ quoteText whole)
  | fuel + 1, c :: rest, d => do
    let invalid : Except String Nat := .error ("time: invalid duration " ++ quoteText whole)
    if !numeric c then return ← invalid
    let some (v, afterWhole) := leadingWhole (c :: rest) 0 | invalid
    let pre := afterWhole.length != (c :: rest).length
    let (f, scale, afterFraction, post) := match afterWhole with
      | '.' :: more =>
        let (f, scale, left) := leadingFraction more 0 1 false
        (f, scale, left, left.length != more.length)
      | other => (0, 1, other, false)
    if !pre && !post then return ← invalid
    let unitChars := afterFraction.takeWhile fun x => !numeric x
    let next := afterFraction.dropWhile fun x => !numeric x
    if unitChars.isEmpty then
      return ← .error ("time: missing unit in duration " ++ quoteText whole)
    let unitText := String.ofList unitChars
    let some unit := unitNanos unitText
      | .error ("time: unknown unit " ++ quoteText unitText ++ " in duration " ++ quoteText whole)
    if v > bound / unit then return ← invalid
    let part := (f.toUInt64.toFloat * (unit.toUInt64.toFloat / scale)).toUInt64.toNat
    let v := v * unit + (if f > 0 then part else 0)
    if v > bound || d + v > bound then return ← invalid
    readTerms whole fuel next (d + v)

/-- Reads a span from its text: an optional sign, then one or more terms of a decimal number
(with an optional fraction) and a unit among ns, us, µs, ms, s, m and h; "0" alone is the empty
span. The error is the report. -/
def parse (s : String) : Except String Duration :=
  let (negative, body) := match s.toList with
    | '-' :: rest => (true, rest)
    | '+' :: rest => (false, rest)
    | cs => (false, cs)
  if body == ['0'] then .ok ⟨0⟩
  else if body.isEmpty then .error ("time: invalid duration " ++ quoteText s)
  else match readTerms s (body.length + 1) body 0 with
    | .error e => .error e
    | .ok d =>
      if negative then .ok ⟨-(d : Int)⟩
      else if d > bound - 1 then .error ("time: invalid duration " ++ quoteText s)
      else .ok ⟨d⟩

end Duration

end AclReconcile
