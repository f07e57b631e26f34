import AclReconcile.Sql.Printf

/-!
# Functions of SQL expressions

The built-in functions an expression can call, by name without regard to ASCII case: which
numbers of arguments each accepts, which are aggregates, and what the scalar ones compute from
the values of their arguments.

A name that no function has is reported as `no such function: name`, a call with a number of
arguments the function does not take as `wrong number of arguments to function name()`, and an
aggregate where no rows are being grouped as `misuse of aggregate function name()`, each with
the name as it was written.

Functions that read the clock or draw random numbers are known, so that statements calling
them run, but give null or zero: their values are never the same twice.
-/

namespace AclReconcile.Sql

open AclReconcile (Binary64)

/-- The numbers of arguments a function accepts, `none` when no function has the name. -/
def functionArity (name : String) : Option (Nat → Bool) :=
  let exactly (ns : List Nat) : Option (Nat → Bool) := some fun n => ns.contains n
  let atLeast (k : Nat) : Option (Nat → Bool) := some fun n => n ≥ k
  match asciiLower name with
  | "abs" | "length" | "octet_length" | "lower" | "upper" | "typeof" | "hex" | "quote"
  | "unicode" | "sign" | "zeroblob" | "randomblob" | "likely" | "unlikely" | "subtype"
  | "sum" | "total" | "avg"
  | "acos" | "acosh" | "asin" | "asinh" | "atan" | "atanh" | "ceil" | "ceiling" | "cos"
  | "cosh" | "degrees" | "exp" | "floor" | "ln" | "log10" | "log2" | "radians" | "sin"
  | "sinh" | "sqrt" | "tan" | "tanh" | "trunc" => exactly [1]
  | "log" => exactly [1, 2]
  | "atan2" | "mod" | "pow" | "power" => exactly [2]
  | "pi" => exactly [0]
  | "ltrim" | "rtrim" | "trim" | "round" | "unhex" | "group_concat" => exactly [1, 2]
  | "substr" | "substring" => exactly [2, 3]
  | "instr" | "ifnull" | "nullif" | "glob" | "likelihood" | "string_agg" | "timediff" =>
    exactly [2]
  | "like" => exactly [2, 3]
  | "replace" => exactly [3]
  | "count" => exactly [0, 1]
  | "min" | "max" | "concat" => atLeast 1
  | "coalesce" | "concat_ws" | "iif" => atLeast 2
  | "char" | "printf" | "format" | "date" | "time" | "datetime" | "julianday" | "unixepoch" =>
    atLeast 0
  | "strftime" => atLeast 1
  | "random" | "changes" | "total_changes" | "last_insert_rowid" | "sqlite_version"
  | "sqlite_source_id" | "current_date" | "current_time" | "current_timestamp" => exactly [0]
  | _ => none

/-- Whether a call of a function with a number of arguments is an aggregate, computed over the
rows being grouped rather than one row. -/
def isAggregate (name : String) (argc : Nat) : Bool :=
  match asciiLower name with
  | "count" | "sum" | "total" | "avg" | "group_concat" | "string_agg" => true
  | "min" | "max" => argc == 1
  | _ => false

/-- Whether a function computes its value from only some of its arguments, evaluated in order
as they are needed: `coalesce`, `ifnull` and `iif`. -/
def isLazyFunction (name : String) : Bool :=
  match asciiLower name with
  | "coalesce" | "ifnull" | "iif" => true
  | _ => false

/-- Text with ASCII letters lowered or raised. -/
def mapAscii (upper : Bool) (s : String) : String :=
  String.ofList (s.toList.map fun c =>
    if upper && 'a' ≤ c && c ≤ 'z' then Char.ofNat (c.toNat - 32)
    else if !upper && 'A' ≤ c && c ≤ 'Z' then Char.ofNat (c.toNat + 32)
    else c)

/-- The bytes of a value: those of a byte run, or of its text. -/
def Value.bytes (v : Value) : List UInt8 :=
  match v with
  | .blob bs => bs
  | _ => (v.text?.getD "").toUTF8.toList

/-- Bytes in upper-case hexadecimal. -/
def hexText (bs : List UInt8) : String :=
  let digit (n : Nat) : Char := if n < 10 then Char.ofNat (48 + n) else Char.ofNat (55 + n)
  String.ofList (bs.flatMap fun b => [digit (b.toNat / 16), digit (b.toNat % 16)])

/-- A real number written as an SQL literal: fifteen significant digits when they read back as
the same number, twenty after the point in exponent form otherwise. An infinity is written as
`9.0e+999`, which reads back as it. -/
def quoteReal (r : Binary64) : String :=
  let short := formatReal (.general 'e') { bang := true, zeroPad := true } 0 (some 15) r
  if (readReal short.toList).value.same r then short
  else formatReal (.exponent 'e') { bang := true, zeroPad := true } 0 (some 20) r

/-- A value written as an SQL literal. -/
def quoteValue : Value → String
  | .null => "NULL"
  | .integer n => toString n
  | .real r => quoteReal r
  | .text s => "'" ++ String.intercalate "''" (s.splitOn "'") ++ "'"
  | .blob bs => "X'" ++ hexText bs ++ "'"

/-- The name of a value's class. -/
def typeName : Value → String
  | .null => "null"
  | .integer _ => "integer"
  | .real _ => "real"
  | .text _ => "text"
  | .blob _ => "blob"

/-- Characters cut from the ends of a list while they are in a set. -/
def trimChars (set : List Char) (left right : Bool) (cs : List Char) : List Char :=
  let cs := if left then cs.dropWhile set.contains else cs
  if right then (cs.reverse.dropWhile set.contains).reverse else cs

/-- The positions a substring takes, as the engine computes them from a start and an optional
length (negative start counts from the end, negative length takes the characters before the
start): the number to skip and the number to take. -/
def substrRange (len : Int) (start : Int) (count : Option Int) : Nat × Nat :=
  let (p2, negative) := match count with
    | some c => if c < 0 then (-c, true) else (c, false)
    | none => (Text.maxInt64, false)
  let (p1, p2) :=
    if start < 0 then
      let p1 := start + len
      if p1 < 0 then (0, max 0 (p2 + p1)) else (p1, p2)
    else if start > 0 then (start - 1, p2)
    else if p2 > 0 then (0, p2 - 1)
    else (0, p2)
  let (p1, p2) :=
    if negative then
      let q := p1 - p2
      if q < 0 then (0, p2 + q) else (q, p2)
    else (p1, p2)
  (p1.toNat, p2.toNat)

/-- `substr` of a value. -/
def substrValue (v : Value) (start : Int) (count : Option Int) : Value :=
  match v with
  | .blob bs =>
    let (skip, take) := substrRange bs.length start count
    .blob ((bs.drop skip).take take)
  | _ => match v.text? with
    | some s =>
      let cs := s.toList
      let (skip, take) := substrRange cs.length start count
      .text (String.ofList ((cs.drop skip).take take))
    | none => .null

/-- The position (from 1) of the first occurrence of a list in another, 0 when there is
none. -/
def firstOccurrence {α : Type} [BEq α] (hay needle : List α) : Nat :=
  match (List.range (hay.length + 1)).find? fun i => (hay.drop i).take needle.length == needle with
  | some i => if i + needle.length ≤ hay.length then i + 1 else 0
  | none => 0

/-- A real number rounded to a number of places after the point, as `round` does: numbers
beyond 2^52 in size are whole already, no places rounds half away from zero through a 64-bit
integer, and other places go through the fixed format's digits read back. -/
def roundReal (r : Binary64) (places : Nat) : Binary64 :=
  let limit := Binary64.ofNat 4503599627370496
  if r.lt limit.neg || limit.lt r then r
  else if places == 0 then
    let half := Binary64.ofDecimal (r.lt Binary64.zero) 5 (-1)
    Binary64.ofInt (((r.add half).truncate).getD 0)
  else (readReal (formatReal .fixed { bang := true } 0 (some places) r).toList).value

/-- A value as the math functions read it: a number, or text that reads as one as a whole;
none for anything else. -/
def Value.mathNumber? : Value → Option Value
  | .integer n => some (.integer n)
  | .real r => some (.real r)
  | .text s => match numericText false s with
    | .text _ => none
    | v => some v
  | _ => none

/-- π as a binary64 number. -/
def piReal : Binary64 := Binary64.ofDecimal false 3141592653589793 (-15)

/-- A math function of one real argument: null for an argument that is not a number and for a
result that is not a number. -/
def mathOne (f : Binary64 → Binary64) (v : Value) : Value :=
  match v.mathNumber? with
  | some x => realResult (f x.realValue)
  | none => .null

/-- A math function of two real arguments. -/
def mathTwo (f : Binary64 → Binary64 → Binary64) (v w : Value) : Value :=
  match v.mathNumber?, w.mathNumber? with
  | some x, some y => realResult (f x.realValue y.realValue)
  | _, _ => .null

/-- A rounding function (`ceil`, `floor`, `trunc`): integers stay as they are, reals are
rounded, anything else is null. -/
def mathWhole (f : Binary64 → Binary64) (v : Value) : Value :=
  match v.mathNumber? with
  | some (.integer n) => .integer n
  | some x => realResult (f x.realValue)
  | none => .null

/-- Replaces every occurrence of a non-empty list in another. -/
def replaceAll {α : Type} [BEq α] (needle new : List α) : Nat → List α → List α
  | 0, s => s
  | _, [] => []
  | fuel + 1, c :: s =>
    if !needle.isEmpty && (c :: s).take needle.length == needle then
      new ++ replaceAll needle new fuel ((c :: s).drop needle.length)
    else c :: replaceAll needle new fuel s

/-- Bytes from text of hexadecimal digit pairs; `none` when the text is not such. -/
def unhexBytes : List Char → Option (List UInt8)
  | [] => some []
  | a :: b :: rest =>
    let digit (c : Char) : Option Nat :=
      if '0' ≤ c && c ≤ '9' then some (c.toNat - 48)
      else if 'a' ≤ c && c ≤ 'f' then some (c.toNat - 87)
      else if 'A' ≤ c && c ≤ 'F' then some (c.toNat - 55)
      else none
    match digit a, digit b, unhexBytes rest with
    | some x, some y, some r => some ((x * 16 + y).toUInt8 :: r)
    | _, _, _ => none
  | [_] => none

/-- The larger (or smaller) of two values in the order of values. -/
def extremum (larger : Bool) (a b : Value) : Value :=
  match a.compare? b with
  | some .lt => if larger then b else a
  | some .gt => if larger then a else b
  | _ => a

/-- The value of a scalar function of the values of its arguments; the engine's errors for
`abs` of the smallest integer and for an `ESCAPE` that is not one character. -/
def applyFunction (name : String) (args : List Value) : Eval Value :=
  let arg (i : Nat) : Value := args.getD i .null
  let textOf (i : Nat) (f : String → Value) : Value :=
    match (arg i).text? with
    | some s => f s
    | none => .null
  match asciiLower name, args.length with
  | "lower", _ => pure (textOf 0 fun s => .text (mapAscii false s))
  | "upper", _ => pure (textOf 0 fun s => .text (mapAscii true s))
  | "length", _ => pure (match arg 0 with
    | .null => .null
    | .blob bs => .integer bs.length
    | v => .integer (v.text?.getD "").length)
  | "octet_length", _ => pure (match arg 0 with
    | .null => .null
    | v => .integer v.bytes.length)
  | "typeof", _ => pure (.text (typeName (arg 0)))
  | "abs", _ => match arg 0 with
    | .null => pure .null
    | .integer n =>
      if n == Text.minInt64 then throw (.error (.logic "integer overflow"))
      else pure (.integer n.natAbs)
    | v =>
      let r := v.realValue
      pure (.real (if r.lt Binary64.zero then r.neg else r))
  | "ifnull", _ | "coalesce", _ => pure ((args.find? (· != .null)).getD .null)
  | "iif", _ => pure (if (arg 0).truth? == some true then arg 1 else arg 2)
  | "nullif", _ =>
    let same : Bool := match arg 0, arg 1 with
      | .null, .null => true
      | a, b => a.compare? b == some .eq
    pure (if same then .null else arg 0)
  | "trim", n | "ltrim", n | "rtrim", n =>
    let set := if n ≥ 2 then (arg 1).text?.map String.toList else some [' ']
    let left := asciiLower name != "rtrim"
    let right := asciiLower name != "ltrim"
    pure (match (arg 0).text?, set with
      | some s, some cs => .text (String.ofList (trimChars cs left right s.toList))
      | _, _ => .null)
  | "substr", n | "substring", n =>
    if arg 1 == .null || (n ≥ 3 && arg 2 == .null) then pure .null
    else pure (substrValue (arg 0) (arg 1).intValue (if n ≥ 3 then some (arg 2).intValue else none))
  | "replace", _ =>
    match (arg 0).text?, (arg 1).text?, (arg 2).text? with
    | some s, some old, some new =>
      if old.isEmpty then pure (arg 0)
      else pure (.text (String.ofList (replaceAll old.toList new.toList (s.length + 1) s.toList)))
    | _, _, _ => pure .null
  | "instr", _ =>
    match arg 0, arg 1 with
    | .null, _ | _, .null => pure .null
    | .blob a, .blob b => pure (.integer (firstOccurrence a b))
    | a, b => pure (.integer (firstOccurrence (a.text?.getD "").toList (b.text?.getD "").toList))
  | "hex", _ => pure (.text (hexText (arg 0).bytes))
  | "unhex", _ => pure (match (arg 0).text? with
    | some s => match unhexBytes s.toList with
      | some bs => .blob bs
      | none => .null
    | none => .null)
  | "quote", _ => pure (.text (quoteValue (arg 0)))
  | "round", n =>
    if (n ≥ 2 && arg 1 == .null) || arg 0 == .null then pure .null
    else
      let places := if n ≥ 2 then min 30 (max 0 (arg 1).intValue) else 0
      pure (.real (roundReal (arg 0).realValue places.toNat))
  | "sign", _ =>
    pure (match (arg 0).mathNumber? with
      | some x =>
        let r := x.realValue
        .integer (if r.lt Binary64.zero then -1 else if Binary64.zero.lt r then 1 else 0)
      | none => .null)
  | "sqrt", _ => pure (mathOne Binary64.sqrt (arg 0))
  | "ceil", _ | "ceiling", _ => pure (mathWhole Binary64.ceil (arg 0))
  | "floor", _ => pure (mathWhole Binary64.floor (arg 0))
  | "trunc", _ => pure (mathWhole Binary64.trunc (arg 0))
  | "mod", _ => pure (mathTwo Binary64.rem (arg 0) (arg 1))
  | "pi", _ => pure (.real piReal)
  | "degrees", _ =>
    pure (mathOne (fun x => x.mul ((Binary64.ofNat 180).div piReal)) (arg 0))
  | "radians", _ =>
    pure (mathOne (fun x => x.mul (piReal.div (Binary64.ofNat 180))) (arg 0))
  | "unicode", _ => pure (match (arg 0).text? with
    | some s => match s.toList with
      | c :: _ => .integer c.toNat
      | [] => .null
    | none => .null)
  | "char", _ => pure (.text (String.ofList (args.map fun v =>
      let x := v.intValue
      Char.ofNat (if x < 0 || x > 0x10ffff then 0xfffd else x.toNat))))
  | "min", _ | "max", _ =>
    if args.any (· == .null) then pure .null
    else pure (args.tail.foldl (extremum (asciiLower name == "max")) (arg 0))
  | "concat", _ => pure (.text (String.join (args.map fun v => v.text?.getD "")))
  | "concat_ws", _ => match (arg 0).text? with
    | some sep => pure (.text (sep.intercalate (args.tail.filterMap Value.text?)))
    | none => pure .null
  | "zeroblob", _ => pure (.blob (List.replicate (arg 0).intValue.toNat 0))
  | "randomblob", _ => pure (.blob (List.replicate (max 1 (arg 0).intValue).toNat 0))
  | "likely", _ | "unlikely", _ | "likelihood", _ | "subtype", _ => pure (arg 0)
  | "printf", _ | "format", _ => pure (match (arg 0).text? with
    | some f => .text (printf f args.tail)
    | none => .null)
  | "like", n =>
    let escape : Eval (Option Char) :=
      if n ≥ 3 then
        match (arg 2).text? with
        | some e => match e.toList with
          | [c] => pure (some c)
          | _ => throw (.error (.logic "ESCAPE expression must be a single character"))
        | none => pure none
      else pure none
    do
      let esc ← escape
      if n ≥ 3 && arg 2 == .null then return .null
      match (arg 0).text?, (arg 1).text? with
      | some p, some s => pure (ofBool (likeMatch esc p.toList s.toList))
      | _, _ => pure .null
  | "glob", _ => pure (match (arg 0).text?, (arg 1).text? with
    | some p, some s => ofBool (globMatch p.toList s.toList)
    | _, _ => .null)
  | "random", _ | "changes", _ | "total_changes", _ | "last_insert_rowid", _ => pure (.integer 0)
  | "sqlite_version", _ => pure (.text "3.50.4")
  | _, _ => pure .null

end AclReconcile.Sql
