import AclReconcile.Sql.Expr

/-!
# Operators on values

The operators of expressions work on values the way the database engine does:

* null propagates through arithmetic, concatenation and comparisons;
* arithmetic reads text and bytes as a number: an integer when they are an integer (or start
  with one and are not a number as a whole), a real otherwise; two integers stay integers while
  the result fits 64 bits and divide by truncation, and otherwise both sides are made real and
  the binary64 operation is used; a division by zero or a result that is not a number gives
  null;
* the bit operators read their operands as 64-bit integers, text by its integer prefix;
* a value is true when it is a number other than zero, text counting as the real it starts
  with;
* a comparison first converts both operands by one affinity: the affinity of the column when
  one operand is a column, numeric when both are columns and one of them is numeric;
* `LIKE` ignores the case of ASCII letters and `GLOB` does not.
-/

namespace AclReconcile.Sql

open AclReconcile (Binary64)

/-! ## Numbers in values -/

/-- Whether a character is a decimal digit. -/
def isDecimalDigit (c : Char) : Bool := '0' ≤ c && c ≤ '9'

/-- The number arithmetic reads from text: an integer when the text is one that fits 64 bits,
or when it is not a number as a whole but starts with an integer; a real otherwise. -/
def numericTextValue (cs : List Char) : Value :=
  let read := readReal cs
  let (i, code) := readInt64 cs
  if read.form ≤ 0 then
    if read.form == 0 && code ≤ 1 then .integer i else .real read.value
  else if read.form == 1 && code == 0 then .integer i
  else .real read.value

/-- A value as a number for arithmetic; null stays null. -/
def Value.numeric : Value → Value
  | .text s => numericTextValue s.toList
  | .blob bs => numericTextValue (Text.decodeLossy bs).toList
  | v => v

/-- Whether a value is true: null is neither true nor false, an integer is true when it is not
zero, and anything else when its real value is not zero. -/
def Value.truth? : Value → Option Bool
  | .null => none
  | .integer n => some (n != 0)
  | v => some !v.realValue.isZero

/-- A truth value as an integer. -/
def ofBool (b : Bool) : Value := .integer (if b then 1 else 0)

/-- A truth value that may be null, as a value. -/
def ofTruth : Option Bool → Value
  | some b => ofBool b
  | none => .null

/-- The text of a value, for operators that work on text; null has none. -/
def Value.text? : Value → Option String
  | .null => none
  | .integer n => some (toString n)
  | .real r => some (realText r)
  | .text s => some s
  | .blob bs => some (Text.decodeLossy bs)

/-! ## Arithmetic -/

/-- A binary64 result as a value: null when it is not a number. -/
def realResult (r : Binary64) : Value := if r.isNaN then .null else .real r

/-- The arithmetic of two values made real: `a op b`. -/
def realArith (op : BinaryOp) (a b : Value) : Value :=
  let x := a.realValue
  let y := b.realValue
  match op with
  | .add => realResult (x.add y)
  | .sub => realResult (x.sub y)
  | .mul => realResult (x.mul y)
  | .div => if y.isZero then .null else realResult (x.div y)
  | .rem =>
    let j := b.intValue
    let i := a.intValue
    if j == 0 then .null
    else realResult (Binary64.ofInt (Int.tmod i (if j == -1 then 1 else j)))
  | _ => .null

/-- Whether a whole number fits 64 bits. -/
def fitsInt64 (n : Int) : Bool := minInt ≤ n && n ≤ maxInt

/-- The arithmetic operators (`+`, `-`, `*`, `/`, `%`) on two values. -/
def arith (op : BinaryOp) (a b : Value) : Value :=
  match a, b with
  | .null, _ | _, .null => .null
  | _, _ =>
    match a.numeric, b.numeric with
    | .integer x, .integer y =>
      let exact (n : Int) : Value := if fitsInt64 n then .integer n else realArith op a b
      match op with
      | .add => exact (x + y)
      | .sub => exact (x - y)
      | .mul => exact (x * y)
      | .div =>
        if y == 0 then .null
        else if y == -1 && x == minInt then realArith op a b
        else .integer (Int.tdiv x y)
      | .rem => if y == 0 then .null else .integer (Int.tmod x (if y == -1 then 1 else y))
      | _ => .null
    | _, _ => realArith op a b

/-- An unsigned 64-bit pattern as a signed integer. -/
def signed64 (n : Nat) : Int :=
  if n ≥ Nat.pow 2 63 then (n : Int) - Int.pow 2 64 else n

/-- A signed integer as an unsigned 64-bit pattern. -/
def unsigned64 (n : Int) : Nat := (n % Int.pow 2 64).toNat

/-- Shifts a 64-bit integer left by `k` places (right when `k` is negative), the way the
engine shifts: by 64 places or more the result is zero, or minus one for a negative number
shifted right. -/
def shiftLeft64 (x k : Int) : Int :=
  if k ≥ 64 then 0
  else if k ≥ 0 then signed64 ((unsigned64 x <<< k.toNat) % Nat.pow 2 64)
  else if -k ≥ 64 then (if x < 0 then -1 else 0)
  else x >>> (-k).toNat

/-- The bit operators (`&`, `|`, `<<`, `>>`) on two values. -/
def bitwise (op : BinaryOp) (a b : Value) : Value :=
  match a, b with
  | .null, _ | _, .null => .null
  | _, _ =>
    let x := a.intValue
    let y := b.intValue
    match op with
    | .bitAnd => .integer (signed64 (unsigned64 x &&& unsigned64 y))
    | .bitOr => .integer (signed64 (unsigned64 x ||| unsigned64 y))
    | .shiftLeft => .integer (shiftLeft64 x y)
    | .shiftRight => .integer (shiftLeft64 x (-y))
    | _ => .null

/-- Text concatenation; null when either side is null. -/
def concatValues (a b : Value) : Value :=
  match a.text?, b.text? with
  | some x, some y => .text (x ++ y)
  | _, _ => .null

/-- The operators on one operand other than `NOT`: minus, plus (which leaves its operand as
it is) and bitwise complement. -/
def unaryValue (op : UnaryOp) (v : Value) : Value :=
  match op with
  | .plus => v
  | .negate => arith .sub (.integer 0) v
  | .bitNot => match v with
    | .null => .null
    | _ => .integer (-v.intValue - 1)
  | .not => match v.truth? with
    | some b => ofBool (!b)
    | none => .null

/-! ## Comparisons -/

/-- Whether an affinity is numeric. -/
def Affinity.isNumeric : Affinity → Bool
  | .numeric | .integer | .real => true
  | _ => false

/-- The affinity a comparison applies to both operands, from the affinities of the two
operands (`none` for an operand that is not a column): numeric when both are columns and one of
them is numeric, none when both are other columns, the column's affinity when only one is a
column. -/
def comparisonAffinity (a b : Option Affinity) : Option Affinity :=
  match a, b with
  | some x, some y => if x.isNumeric || y.isNumeric then some .numeric else none
  | some x, none => some x
  | none, some y => some y
  | none, none => none

/-- A value converted for a comparison under an affinity: numbers made text under a text
affinity, text that reads as a number made a number under a numeric one. -/
def forComparison (aff : Option Affinity) (v : Value) : Value :=
  match aff with
  | some .text => Affinity.text.apply v
  | some .numeric | some .integer | some .real => Affinity.numeric.apply v
  | _ => v

/-- Compares two values under an affinity; `none` when one of them is null. -/
def compareUnder (aff : Option Affinity) (a b : Value) : Option Ordering :=
  (forComparison aff a).compare? (forComparison aff b)

/-- The result of a comparison operator under an affinity. `IS` and `IS NOT` treat null as a
value equal to itself; the others give null when either side is null. -/
def comparisonResult (op : BinaryOp) (aff : Option Affinity) (a b : Value) : Value :=
  match op with
  | .is => match a, b with
    | .null, .null => ofBool true
    | .null, _ | _, .null => ofBool false
    | _, _ => ofBool (compareUnder aff a b == some .eq)
  | .isNot => match a, b with
    | .null, .null => ofBool false
    | .null, _ | _, .null => ofBool true
    | _, _ => ofBool (compareUnder aff a b != some .eq)
  | _ =>
    match compareUnder aff a b with
    | none => .null
    | some o =>
      ofBool (match op with
        | .eq => o == .eq
        | .ne => o != .eq
        | .lt => o == .lt
        | .le => o != .gt
        | .gt => o == .gt
        | .ge => o != .lt
        | _ => false)

/-- Whether a value is one of a list under an affinity, as `IN` decides: false for an empty
list, null when the value is null or when no item is equal and one is null. -/
def memberOf (aff : Option Affinity) (v : Value) (items : List Value) : Option Bool :=
  if items.isEmpty then some false
  else if v == .null then none
  else if items.any fun x => compareUnder aff v x == some .eq then some true
  else if items.any (· == .null) then none
  else some false

/-! ## Patterns -/

/-- An ASCII letter in lower case; other characters as they are. -/
def foldAscii (c : Char) : Char :=
  if 'A' ≤ c && c ≤ 'Z' then Char.ofNat (c.toNat + 32) else c

/-- Whether text matches a `LIKE` pattern: `%` stands for any run of characters, the escape
character makes the character after it plain, `_` stands for one character, and ASCII letters
match in either case. -/
def likeMatch (escape : Option Char) : List Char → List Char → Bool
  | [], s => s.isEmpty
  | c :: p, s =>
    if c == '%' then
      (List.range (s.length + 1)).any fun k => likeMatch escape p (s.drop k)
    else if escape == some c then
      match p, s with
      | d :: p', x :: s' => foldAscii d == foldAscii x && likeMatch escape p' s'
      | _, _ => false
    else
      match s with
      | x :: s' => (c == '_' || foldAscii c == foldAscii x) && likeMatch escape p s'
      | [] => false

/-- Whether a character is in the set of a `GLOB` bracket, given its characters after a
leading `]`: single characters and ranges `a-z`; a `-` first or last stands for itself. -/
def inGlobSet : List Char → Char → Bool
  | a :: '-' :: b :: more, x => (a ≤ x && x ≤ b) || inGlobSet more x
  | a :: more, x => a == x || inGlobSet more x
  | [], _ => false

/-- The length of a `GLOB` bracket after its `[`, up to and including the closing `]`; `none`
when it does not close. A `^` first negates the set, and a `]` right after the `[` (or the `^`)
stands for itself. -/
def globSetLength (p : List Char) : Option Nat :=
  let lead := match p with
    | '^' :: ']' :: _ => 2
    | '^' :: _ => 1
    | ']' :: _ => 1
    | _ => 0
  let body := (p.drop lead).takeWhile (· != ']')
  if (p.drop (lead + body.length)).isEmpty then none else some (lead + body.length + 1)

/-- Whether a character is accepted by a `GLOB` bracket, given what follows the `[`. -/
def globSetAccepts (p : List Char) (x : Char) : Bool :=
  let (negated, p) := match p with
    | '^' :: r => (true, r)
    | r => (false, r)
  let (first, p) := match p with
    | ']' :: r => (x == ']', r)
    | r => (false, r)
  (first || inGlobSet (p.takeWhile (· != ']')) x) != negated

/-- Whether text matches a `GLOB` pattern: `*` stands for any run of characters, `?` for one,
`[...]` for one of a set, and every other character for itself. -/
def globMatch (p s : List Char) : Bool :=
  match p with
  | [] => s.isEmpty
  | c :: p =>
    if c == '*' then
      (List.range (s.length + 1)).any fun k => globMatch p (s.drop k)
    else if c == '[' then
      match globSetLength p, s with
      | some n, x :: s' => globSetAccepts p x && globMatch (p.drop n) s'
      | _, _ => false
    else
      match s with
      | x :: s' => (c == '?' || c == x) && globMatch p s'
      | [] => false
termination_by p.length
decreasing_by
  all_goals simp only [List.length_cons, List.length_drop]
  all_goals omega

/-! ## Conversions -/

/-- Text or bytes made a number as a whole: an integer when written as one (or when not a
number but starting with an integer) or when a small whole number, a real otherwise. -/
def numberOfText (cs : List Char) : Value :=
  let read := readReal cs
  let (i, code) := readInt64 cs
  if (read.form == 0 || read.form == 1) && code ≤ 1 then .integer i
  else
    let j := realToInt read.value
    if realSameAsInt read.value j then .integer j else .real read.value

/-- A value converted by `CAST` to a type, whose affinity decides: text, bytes, a number
(numbers stay as they are, text becomes the number it reads as), an integer, or a real. Null
stays null. -/
def castValue (type : String) (v : Value) : Value :=
  match v with
  | .null => .null
  | _ =>
    match Affinity.ofType type with
    | .text => match v.text? with
      | some s => .text s
      | none => .null
    | .blob => match v with
      | .blob bs => .blob bs
      | _ => .blob ((v.text?.getD "").toUTF8.toList)
    | .numeric => match v with
      | .text s => numberOfText s.toList
      | .blob bs => numberOfText (Text.decodeLossy bs).toList
      | other => other
    | .integer => .integer v.intValue
    | .real => .real v.realValue

end AclReconcile.Sql
