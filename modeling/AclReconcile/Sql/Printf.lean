import AclReconcile.Sql.Operators

/-!
# The engine's `printf`

`printf(format, args...)` (also called `format`) writes its format with each directive replaced by
the next argument, converted. A directive is `%`, flags (`-` left-justify, `+` or a blank before
positive numbers, `#` alternate form, `!` characters instead of bytes and more digits for reals,
`0` zero padding, `,` digit grouping), a width, a precision after `.`, either of them `*` to take
it from the arguments, an ignored `l` or `ll`, and a conversion letter:

* `d`, `i` signed and `u` unsigned decimal, `x`, `X` hexadecimal, `o` octal, `p` upper-case
  hexadecimal, `r` an ordinal (`1st`, `2nd`);
* `f`, `e`, `E`, `g`, `G` a real number;
* `s`, `z` text, `c` the first character of the text repeated to the precision;
* `q` text with each `'` doubled, `Q` the same in quotes (`NULL` for null), `w` with each `"`
  doubled;
* `%` itself, and `n`, which writes nothing.

Widths and precisions count bytes of UTF-8 unless `!` is given. An argument past the last one
reads as null, which is zero or empty text. An unknown conversion ends the output there, and a
`%` at the very end is written as it is.
-/

namespace AclReconcile.Sql

open AclReconcile (Binary64)

/-- The flags, width and precision of a directive. -/
structure Directive where
  leftJustify : Bool := false
  signMark : Option Char := none
  alternate : Bool := false
  bang : Bool := false
  zeroPad : Bool := false
  thousands : Bool := false
  width : Nat := 0
  precision : Option Nat := none

/-- The number of bytes of a character's UTF-8 encoding. -/
def utf8Length (c : Char) : Nat := (String.singleton c).utf8ByteSize

/-- The number of bytes of characters' UTF-8 encoding. -/
def byteLength (cs : List Char) : Nat := cs.foldl (fun n c => n + utf8Length c) 0

/-- A 64-bit integer argument as the C `int` it is stored in: its low 32 bits, signed. -/
def toInt32 (n : Int) : Int :=
  let u := (n % (Nat.pow 2 32 : Int)).toNat
  if u ≥ Nat.pow 2 31 then (u : Int) - (Nat.pow 2 32 : Int) else u

/-- The value of a run of width or precision digits: the digits read into 32 bits, then the
sign bit cleared. -/
def directiveNumber (ds : List Char) : Nat :=
  ds.foldl (fun n c => (n * 10 + (c.toNat - 48)) % Nat.pow 2 32) 0 % Nat.pow 2 31

/-- The arguments left to a `printf`. -/
abbrev PrintfArgs := List Value

/-- Takes the next argument, null when none is left. -/
def nextArg : PrintfArgs → Value × PrintfArgs
  | v :: rest => (v, rest)
  | [] => (.null, [])

/-- Reads the flags, width and precision of a directive from the characters after its `%`;
gives the directive, the characters from its conversion letter on, and the arguments left after
those `*` took. -/
def readDirective : Nat → Directive → List Char → PrintfArgs → Directive × List Char × PrintfArgs
  | 0, d, cs, args => (d, cs, args)
  | _, d, [], args => (d, [], args)
  | fuel + 1, d, c :: rest, args =>
    match c with
    | '-' => readDirective fuel { d with leftJustify := true } rest args
    | '+' => readDirective fuel { d with signMark := some '+' } rest args
    | ' ' => readDirective fuel { d with signMark := some ' ' } rest args
    | '#' => readDirective fuel { d with alternate := true } rest args
    | '!' => readDirective fuel { d with bang := true } rest args
    | '0' => readDirective fuel { d with zeroPad := true } rest args
    | ',' => readDirective fuel { d with thousands := true } rest args
    | 'l' => match rest with
      | 'l' :: r => (d, r, args)
      | r => (d, r, args)
    | '*' =>
      let (v, args) := nextArg args
      let w := toInt32 v.intValue
      let d := if w < 0 then
          { d with leftJustify := true, width := if w ≥ -2147483647 then (-w).toNat else 0 }
        else { d with width := w.toNat }
      match rest with
      | '.' :: _ | 'l' :: _ => readDirective fuel d rest args
      | _ => (d, rest, args)
    | '.' =>
      let (d, r, args) : Directive × List Char × PrintfArgs := match rest with
        | '*' :: r =>
          let (v, args) := nextArg args
          let p := toInt32 v.intValue
          let precision := if p < 0 then (if p ≥ -2147483647 then some (-p).toNat else none)
            else some p.toNat
          ({ d with precision }, r, args)
        | r =>
          let ds := r.takeWhile isDecimalDigit
          ({ d with precision := some (directiveNumber ds) }, r.drop ds.length, args)
      match r with
      | 'l' :: _ => readDirective fuel d r args
      | _ => (d, r, args)
    | _ =>
      if '1' ≤ c && c ≤ '9' then
        let ds := c :: rest.takeWhile isDecimalDigit
        let r := rest.drop (ds.length - 1)
        let d := { d with width := directiveNumber ds }
        match r with
        | '.' :: _ | 'l' :: _ => readDirective fuel d r args
        | _ => (d, r, args)
      else (d, c :: rest, args)

/-- Digits in groups of three, each group after a comma. -/
def commaTriples : Nat → List Char → List Char
  | 0, _ => []
  | _, [] => []
  | fuel + 1, ds => ',' :: ds.take 3 ++ commaTriples fuel (ds.drop 3)

/-- Inserts a comma before each group of three digits from the right. -/
def groupThousands (ds : List Char) : List Char :=
  let lead := (ds.length + 2) % 3 + 1
  ds.take lead ++ commaTriples ds.length (ds.drop lead)

/-- The digits of a natural number in a base, with the digit characters given. -/
def digitsIn (base : Nat) (digit : Nat → Char) (n : Nat) : List Char :=
  (Nat.toDigits base n).map fun c => digit (c.toNat - (if c ≤ '9' then 48 else 87))

/-- The conversions of integers: their base, whether signed, the letters of digits past nine,
and the mark the alternate form puts before them. -/
structure IntegerStyle where
  base : Nat
  signed : Bool
  upper : Bool := false
  mark : List Char := []
  ordinal : Bool := false
  grouping : Bool := false

/-- An integer argument written by a directive, before padding to the width. -/
def formatInteger (style : IntegerStyle) (d : Directive) (v : Int) : List Char :=
  let (magnitude, sign) : Nat × Option Char :=
    if style.signed then
      if v < 0 then (v.natAbs, some '-') else (v.toNat, d.signMark)
    else ((v % (Nat.pow 2 64 : Int)).toNat, none)
  let alternate := d.alternate && magnitude != 0
  let signWidth := if sign.isSome then 1 else 0
  let precision : Int := match d.precision with
    | some p => p
    | none => -1
  let precision : Int :=
    if d.zeroPad && precision < (d.width : Int) - signWidth then (d.width : Int) - signWidth
    else precision
  let digit (k : Nat) : Char :=
    if k < 10 then Char.ofNat (48 + k) else Char.ofNat ((if style.upper then 55 else 87) + k)
  let suffix : List Char :=
    if style.ordinal then
      let x := magnitude % 10
      let x := if x ≥ 4 || magnitude / 10 % 10 == 1 then 0 else x
      match x with
      | 1 => ['s', 't']
      | 2 => ['n', 'd']
      | 3 => ['r', 'd']
      | _ => ['t', 'h']
    else []
  let body := digitsIn style.base digit magnitude ++ suffix
  let body := List.replicate ((precision - body.length).toNat) '0' ++ body
  let body := if style.grouping && d.thousands then groupThousands body else body
  let body := match sign with
    | some s => s :: body
    | none => body
  if alternate then style.mark ++ body else body

/-- The first `n` bytes of text; a character cut by the limit leaves its first bytes, shown
each as the replacement character. Gives the text and its length in bytes. -/
def takeBytes : Nat → List Char → List Char × Nat
  | _, [] => ([], 0)
  | n, c :: cs =>
    let k := utf8Length c
    if k ≤ n then
      let (rest, m) := takeBytes (n - k) cs
      (c :: rest, k + m)
    else (List.replicate n '�', n)

/-- The characters of text up to its first NUL, as the engine reads a text argument. -/
def argumentChars (s : String) : List Char := s.toList.takeWhile (· != '\x00')

/-- Text padded with blanks to a width counted in bytes, on the left unless left-justified. -/
def padField (leftJustify : Bool) (width : Nat) (body : List Char) (length : Nat) : List Char :=
  if width > length then
    let pad := List.replicate (width - length) ' '
    if leftJustify then body ++ pad else pad ++ body
  else body

/-- The number of bytes past the first of each character: what a width counted in characters
adds to one counted in bytes. -/
def continuationBytes (cs : List Char) : Nat := byteLength cs - cs.length

/-- Text written by `%s` or by the quoting directives, padded: `!` makes the width count
characters. -/
def textField (d : Directive) (body : List Char) (length : Nat) : List Char :=
  let width := if d.bang && d.width > 0 then d.width + continuationBytes body else d.width
  padField d.leftJustify width body length

/-- `%q`, `%Q` and `%w`: the text (up to the precision, in bytes or with `!` in characters) with
each quote character doubled, in quotes for `%Q`; null is `NULL` for `%Q` and `(NULL)` for the
others. -/
def quoteField (d : Directive) (quoteChar : Char) (enclose : Bool) (v : Value) : List Char :=
  let (isNull, text) := match v.text? with
    | some s => (false, argumentChars s)
    | none => (true, (if enclose then "NULL" else "(NULL)").toList)
  let kept : List Char := match d.precision with
    | none => text
    | some p => if d.bang then text.take p else (takeBytes p text).1
  let doubled := kept.flatMap fun c => if c == quoteChar then [c, c] else [c]
  let body := if enclose && !isNull then quoteChar :: doubled ++ [quoteChar] else doubled
  textField d body (byteLength body)

/-- `%c`: the first character of the text, written as many times as the precision says. The
width counts characters; with a precision the copies before the last one are written first,
after the blanks of a right-justified field. -/
def charField (d : Directive) (v : Value) : List Char :=
  let c := match v.text? with
    | some s => (s.toList.head?).getD '\x00'
    | none => '\x00'
  let k := utf8Length c
  let (before, width) : List Char × Int := match d.precision with
    | some p =>
      if p > 1 then
        let w : Int := (d.width : Int) - (p - 1)
        let copies := List.replicate (p - 1) c
        if w > 1 && !d.leftJustify then (List.replicate (w - 1).toNat ' ' ++ copies, 0)
        else (copies, w)
      else ([], d.width)
    | none => ([], d.width)
  let width := if width > 0 then width + (k - 1) else width
  before ++ padField d.leftJustify width.toNat [c] k

/-- The real styles of the conversion letters. -/
def realStyle? : Char → Option RealStyle
  | 'f' => some .fixed
  | 'e' => some (.exponent 'e')
  | 'E' => some (.exponent 'E')
  | 'g' => some (.general 'e')
  | 'G' => some (.general 'E')
  | _ => none

/-- The integer styles of the conversion letters. -/
def integerStyle? : Char → Option IntegerStyle
  | 'd' | 'i' => some { base := 10, signed := true, grouping := true }
  | 'u' => some { base := 10, signed := false, grouping := true }
  | 'x' => some { base := 16, signed := false, mark := ['0', 'x'] }
  | 'X' => some { base := 16, signed := false, upper := true, mark := ['0', 'X'] }
  | 'o' => some { base := 8, signed := false, mark := ['0'] }
  | 'p' => some { base := 16, signed := false, upper := true, mark := ['0', 'x'] }
  | 'r' => some { base := 10, signed := true, ordinal := true }
  | _ => none

/-- What one directive writes, with the arguments it leaves; none for a conversion that ends
the output. -/
def convert (d : Directive) (letter : Char) (args : PrintfArgs) : Option (List Char × PrintfArgs) :=
  match integerStyle? letter with
  | some style =>
    let (v, args) := nextArg args
    let body := formatInteger style d v.intValue
    some (padField d.leftJustify d.width body body.length, args)
  | none =>
    match realStyle? letter with
    | some style =>
      let (v, args) := nextArg args
      let flags : RealFlags :=
        { signMark := d.signMark
          alternate := d.alternate
          bang := d.bang
          zeroPad := d.zeroPad
          leftJustify := d.leftJustify
          thousands := d.thousands }
      let body := (formatReal style flags d.width d.precision v.realValue).toList
      some (padField d.leftJustify d.width body body.length, args)
    | none =>
      match letter with
      | 's' | 'z' =>
        let (v, args) := nextArg args
        let text := match v.text? with
          | some s => argumentChars s
          | none => []
        let (body, length) := match d.precision with
          | none => (text, byteLength text)
          | some p =>
            if d.bang then let kept := text.take p; (kept, byteLength kept)
            else takeBytes p text
        some (textField d body length, args)
      | 'q' => let (v, args) := nextArg args; some (quoteField d '\'' false v, args)
      | 'Q' => let (v, args) := nextArg args; some (quoteField d '\'' true v, args)
      | 'w' => let (v, args) := nextArg args; some (quoteField d '"' false v, args)
      | 'c' => let (v, args) := nextArg args; some (charField d v, args)
      | '%' => some (padField d.leftJustify d.width ['%'] 1, args)
      | 'n' => some ([], args)
      | _ => none

/-- Writes a format with its arguments; `fuel` bounds the number of directives. -/
def printfLoop : Nat → List Char → PrintfArgs → List Char
  | 0, _, _ => []
  | _, [], _ => []
  | fuel + 1, c :: cs, args =>
    if c != '%' then
      let plain := cs.takeWhile (· != '%')
      c :: plain ++ printfLoop fuel (cs.drop plain.length) args
    else match cs with
      | [] => ['%']
      | _ =>
        let (d, rest, args) := readDirective (cs.length + 1) {} cs args
        match rest with
        | [] => []
        | letter :: rest =>
          match convert d letter args with
          | some (text, args) => text ++ printfLoop fuel rest args
          | none => []

/-- The text `printf` writes for a format and its arguments; the format ends at a NUL. -/
def printf (format : String) (args : List Value) : String :=
  let cs := argumentChars format
  String.ofList (printfLoop (cs.length + 1) cs args)

end AclReconcile.Sql
