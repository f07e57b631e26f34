import AclReconcile.Binary64.Basic

/-!
# The shortest decimal form of a number

Every finite binary64 number is the one nearest to each decimal in an interval around it, the
numbers that round to it. Its shortest decimal form is a decimal with as few significant digits
as any in that interval; of those with that many digits, the one nearest the number (a tie going
to the even last digit). The interval reaches halfway to the neighbouring numbers and holds its
ends exactly when the number's last significand bit is even, since a tie rounds to even.

`formatShortest` writes that decimal the way a general-purpose format does: in exponent form
`d.ddde±XX` when the exponent is below -4 or at least 6, and as a plain decimal otherwise.
-/

namespace AclReconcile

namespace Binary64

/-- The interval of decimals that read back as the number of `u` units, in half units: its
ends, and whether it holds them. -/
def roundingInterval (u : Nat) : Nat × Nat × Bool :=
  if u < Nat.pow 2 53 then (2 * u - 1, 2 * u + 1, u % 2 == 0)
  else
    let shift := bitLength u - 53
    let m := u / Nat.pow 2 shift
    let below := if m == Nat.pow 2 52 then Nat.pow 2 shift / 2 else Nat.pow 2 shift
    (2 * u - below, 2 * u + Nat.pow 2 shift, m % 2 == 0)

/-- The whole numbers `c` with `c · 10^k` (in half units `c · 10^k · 2^1075`) within the
interval from `low` to `high`, as the least and the greatest. -/
def scaledBounds (low high : Nat) (inclusive : Bool) (k : Int) : Nat × Nat :=
  let (lowNum, highNum, den) :=
    if k ≥ 0 then (low, high, Nat.pow 10 k.toNat * Nat.pow 2 1075)
    else (low * Nat.pow 10 (-k).toNat, high * Nat.pow 10 (-k).toNat, Nat.pow 2 1075)
  let least := if inclusive then (lowNum + den - 1) / den else lowNum / den + 1
  let most := if inclusive then highNum / den else (highNum + den - 1) / den - 1
  (least, most)

/-- Searches the scales `10^k` downward from `k` for the first with a whole number in the
interval; `fuel` bounds the number of scales. -/
def shortestScale (low high : Nat) (inclusive : Bool) : Nat → Int → Int × Nat × Nat
  | 0, k => (k, scaledBounds low high inclusive k)
  | fuel + 1, k =>
    let (least, most) := scaledBounds low high inclusive k
    if least ≤ most then (k, least, most) else shortestScale low high inclusive fuel (k - 1)

/-- The shortest decimal form of `u` units (not zero): digits `c` and an exponent `k` with
`c · 10^k` the decimal; `c` has no trailing zero. -/
def shortestDecimal (u : Nat) : Nat × Int :=
  let (low, high, inclusive) := roundingInterval u
  -- a power of ten at least as large as the number: 2^1075 half units are one
  let start : Int := ((bitLength u : Int) - 1074) * 30103 / 100000 + 2
  let (k, least, most) := shortestScale low high inclusive 40 start
  let nearest :=
    if k ≥ 0 then divRound (2 * u) (Nat.pow 10 k.toNat * Nat.pow 2 1075)
    else divRound (2 * u * Nat.pow 10 (-k).toNat) (Nat.pow 2 1075)
  (min (max nearest least) most, k)

/-- The decimal digits of a natural number. -/
def digitsOf (n : Nat) : List Char := (toString n).toList

/-- A number written with the shortest decimal that reads back as it: in exponent form
(`1e+20`, `9.223372036854776e+18`, `5e-324`) when the exponent is below -4 or at least 6, and as
a plain decimal (`0.001`, `123456`) otherwise. Infinities are `+Inf` and `-Inf`. -/
def formatShortest : Binary64 → String
  | .nan => "NaN"
  | .infinite s => if s then "-Inf" else "+Inf"
  | .finite s u =>
    let sign := if s then "-" else ""
    if u == 0 then sign ++ "0"
    else
      let (c, k) := shortestDecimal u
      let ds := digitsOf c
      let exponent : Int := ds.length + k - 1
      if exponent < -4 || exponent ≥ 6 then
        let mantissa := match ds with
          | d :: rest@(_ :: _) => String.ofList (d :: '.' :: rest)
          | _ => String.ofList ds
        let e := exponent.natAbs
        sign ++ mantissa ++ "e" ++ (if exponent < 0 then "-" else "+") ++
          (if e < 10 then "0" else "") ++ toString e
      else if k ≥ 0 then sign ++ String.ofList ds ++ String.ofList (List.replicate k.toNat '0')
      else
        let point := ds.length - (-k).toNat
        if ds.length > (-k).toNat then
          sign ++ String.ofList (ds.take point) ++ "." ++ String.ofList (ds.drop point)
        else
          sign ++ "0." ++ String.ofList (List.replicate ((-k).toNat - ds.length) '0') ++
            String.ofList ds

end Binary64

end AclReconcile
