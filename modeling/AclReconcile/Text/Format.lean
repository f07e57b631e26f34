import AclReconcile.Text.Quote

/-!
# Formatted messages

Log messages are written from a format text and a list of values. Text outside directives is
copied. A directive starts with `%` and reads, in order:

* flags: `#` (an alternate form), `0` (pad with zeros), `+` (always a sign, or ASCII-only
  quoting), `-` (pad on the right, which turns zero padding off) and a blank (a blank for the
  sign of a positive number);
* an optional value index `[n]`, which makes the directive (and the ones after it) take the
  `n`-th value;
* an optional width, written in digits or as `*` for a whole number taken from the values, where
  a negative number pads on the right;
* an optional precision, `.` followed by digits, by `*` or by nothing (which means zero);
* the verb, one character.

Whole numbers are written by `d`/`v` (decimal), `b`, `o`, `O`, `x`, `X` (other bases), `c`
(the character of that code point), `q` (the character quoted) and `U` (the code point as
`U+XXXX`). Texts are written by `s`/`v` (as they are; `#v` quoted), `q` (quoted), `x` and `X`
(the hexadecimal digits of their bytes). Truth values are written by `t`/`v`. `T` writes the
name of the value's type. A width counts characters; a precision is the least number of digits
of a whole number and the most characters of a text.

Whatever goes wrong is written into the text: a verb that does not suit its value as
`%!verb(type=value)`, a directive without a value as `%!verb(MISSING)`, a bad index as
`%!verb(BADINDEX)`, a width or precision `*` without a fitting number as `%!(BADWIDTH)` or
`%!(BADPREC)`, a directive cut off by the end of the format as `%!(NOVERB)`, and values left
over as `%!(EXTRA type=value, ...)` (not when an index was used). `%%` writes a percent sign and
takes no value.
-/

namespace AclReconcile.Text

/-- A value handed to a format. -/
inductive Arg where
  | int (n : Int)
  | text (s : String)
  | flag (b : Bool)

/-- The name of a value's type, as `T` and the messages about bad directives write it. -/
def Arg.typeName : Arg → String
  | .int _ => "int64"
  | .text _ => "string"
  | .flag _ => "bool"

/-- How one directive writes its value: its flags, its width and its precision. `sharpV` is the
`#` flag of a `v` directive, which asks for a value's literal form; such a directive has its `#`
and `+` flags moved away. -/
structure Spec where
  minus : Bool := false
  plus : Bool := false
  sharp : Bool := false
  space : Bool := false
  zero : Bool := false
  sharpV : Bool := false
  width : Option Nat := none
  precision : Option Nat := none

namespace Spec

/-- `n` characters of padding: zeros when the zero flag holds and the padding is on the left,
blanks otherwise. -/
def padding (f : Spec) (n : Nat) : String :=
  String.ofList (List.replicate n (if f.zero && !f.minus then '0' else ' '))

/-- `s` padded to the width, counting characters: on the left, or on the right for `-`. -/
def pad (f : Spec) (s : String) : String :=
  match f.width with
  | none => s
  | some w =>
    let fill := f.padding (w - s.length)
    if f.minus then s ++ fill else fill ++ s

/-- `f` without zero padding, for the forms whose zeros are digits of their own. -/
def unzeroed (f : Spec) : Spec := { f with zero := false }

/-- A text cut to at most `precision` characters. -/
def truncate (f : Spec) (s : String) : String :=
  match f.precision with
  | some p => String.ofList (s.toList.take p)
  | none => s

/-- A whole number in base `base` (2, 8, 10 or 16), upper-case digits when asked, with `0o` in
front for `octalMark`. The digits are padded with zeros to the precision, or to the width (less
the sign) for the zero flag without a precision; `#` adds the base's prefix (`0b`, a leading
`0`, `0x` or `0X`). A zero precision writes a zero as nothing but padding. -/
def integer (f : Spec) (n : Int) (base : Nat) (upper octalMark : Bool) : String :=
  let negative := decide (n < 0)
  let u := n.natAbs
  if f.precision == some 0 && u == 0 then f.unzeroed.padding (f.width.getD 0)
  else
    let signed := negative || f.plus || f.space
    let least := match f.precision, f.width with
      | some p, _ => p
      | none, some w => if f.zero && !f.minus then (if signed then w - 1 else w) else 0
      | none, none => 0
    let ds := (Nat.toDigits base u).map fun c => if upper then c.toUpper else c
    let ds := List.replicate (least - ds.length) '0' ++ ds
    let ds :=
      if !f.sharp then ds
      else if base == 2 then '0' :: 'b' :: ds
      else if base == 8 then (if ds.head? == some '0' then ds else '0' :: ds)
      else if base == 16 then '0' :: (if upper then 'X' else 'x') :: ds
      else ds
    let ds := if octalMark then '0' :: 'o' :: ds else ds
    let sign := if negative then "-" else if f.plus then "+" else if f.space then " " else ""
    f.unzeroed.pad (sign ++ String.ofList ds)

/-- The character a whole number stands for: its code point read as an unsigned 64-bit number,
or the replacement character when that is not a character. -/
def runeOf (n : Int) : Char :=
  let u := if n < 0 then (n + (Nat.pow 2 64 : Int)).toNat else n.toNat
  let c := Char.ofNat u
  if c.toNat == u then c else Char.ofNat 0xFFFD

/-- A code point as `U+` and at least four (or `precision`) upper-case hexadecimal digits; with
`#` a printable character follows in quotes. -/
def unicode (f : Spec) (n : Int) : String :=
  let u := if n < 0 then (n + (Nat.pow 2 64 : Int)).toNat else n.toNat
  let least := match f.precision with
    | some p => max p 4
    | none => 4
  let ds := (Nat.toDigits 16 u).map Char.toUpper
  let ds := List.replicate (least - ds.length) '0' ++ ds
  let c := Char.ofNat u
  let shown := if f.sharp && c.toNat == u && isPrintable c then " '" ++ c.toString ++ "'" else ""
  f.unzeroed.pad ("U+" ++ String.ofList ds ++ shown)

/-- Whether a text can be written between backquotes: it has no backquote, no control character
other than a tab, and no byte order mark. -/
def canBackquote (s : String) : Bool :=
  s.toList.all fun c =>
    let n := c.toNat
    (n ≥ 0x20 || n == 9) && n != 0x60 && n != 0x7F && n != 0xFEFF

/-- A text in quotes: between backquotes for `#` when it can be, else in double quotes with
escapes (only ASCII for `+`). A precision cuts the text first. -/
def quoted (f : Spec) (s : String) : String :=
  let s := f.truncate s
  if f.sharp && canBackquote s then f.pad ("`" ++ s ++ "`")
  else f.pad (if f.plus then quoteAscii s else quote s)

/-- The bytes of a text (at most `precision` of them) as pairs of hexadecimal digits. With a
blank flag the pairs are separated by blanks and `#` puts `0x` before each; without it `#` puts
one `0x` in front. -/
def hexBytes (f : Spec) (s : String) (upper : Bool) : String :=
  let bytes := s.toUTF8.toList.map UInt8.toNat
  let bytes := match f.precision with
    | some p => bytes.take p
    | none => bytes
  let mark := if upper then "0X" else "0x"
  let digit (d : Nat) : Char := if upper then (hexDigit d).toUpper else hexDigit d
  let pair (b : Nat) : String := String.ofList [digit (b / 16), digit (b % 16)]
  match bytes with
  | [] => f.padding (f.width.getD 0)
  | b :: rest =>
    let body :=
      if f.space then
        let each (b : Nat) : String := (if f.sharp then mark else "") ++ pair b
        " ".intercalate ((b :: rest).map each)
      else (if f.sharp then mark else "") ++ String.join ((b :: rest).map pair)
    let fill := f.padding (f.width.getD 0 - body.length)
    if f.minus then body ++ fill else fill ++ body

end Spec

/-- A value written in its plain form (the verb `v`) under a directive's flags. -/
def Arg.plain (f : Spec) : Arg → String
  | .int n => f.integer n 10 false false
  | .text s => if f.sharpV then f.quoted s else f.pad (f.truncate s)
  | .flag b => f.pad (if b then "true" else "false")

/-- A value written by one directive, or `%!verb(type=value)` when the verb does not suit it. -/
def Arg.write (f : Spec) (verb : Char) (a : Arg) : String :=
  let bad := "%!" ++ verb.toString ++ "(" ++ a.typeName ++ "=" ++ a.plain f ++ ")"
  if verb == 'T' then f.pad (f.truncate a.typeName)
  else match a, verb with
    | .int _, 'v' | .int _, 'd' => a.plain f
    | .int n, 'b' => f.integer n 2 false false
    | .int n, 'o' => f.integer n 8 false false
    | .int n, 'O' => f.integer n 8 false true
    | .int n, 'x' => f.integer n 16 false false
    | .int n, 'X' => f.integer n 16 true false
    | .int n, 'c' => f.pad (Spec.runeOf n).toString
    | .int n, 'q' => f.pad (quoteChar (Spec.runeOf n) f.plus)
    | .int n, 'U' => f.unicode n
    | .text _, 'v' => a.plain f
    | .text s, 's' => f.pad (f.truncate s)
    | .text s, 'x' => f.hexBytes s false
    | .text s, 'X' => f.hexBytes s true
    | .text s, 'q' => f.quoted s
    | .flag _, 'v' | .flag _, 't' => a.plain f
    | _, _ => bad

/-- The directive flags at the front of some characters, added to `f`, with the characters
after them. -/
def flagsAt (f : Spec) : List Char → Spec × List Char
  | '#' :: cs => flagsAt { f with sharp := true } cs
  | '0' :: cs => flagsAt { f with zero := !f.minus } cs
  | '+' :: cs => flagsAt { f with plus := true } cs
  | '-' :: cs => flagsAt { f with minus := true, zero := false } cs
  | ' ' :: cs => flagsAt { f with space := true } cs
  | cs => (f, cs)

/-- A number written in a directive's digits. -/
inductive Number where
  /-- No digit. -/
  | absent
  | value (n : Nat)
  /-- The number passed a million before its last digit. -/
  | tooLarge

/-- The number at the front of some characters, with the characters after its digits. -/
def numberAt (cs : List Char) : Number × List Char :=
  let ds := cs.takeWhile Char.isDigit
  let rest := cs.dropWhile Char.isDigit
  let step (acc : Option Nat) (c : Char) : Option Nat :=
    acc.bind fun n => if n > 1000000 then none else some (n * 10 + (c.toNat - 48))
  if ds.isEmpty then (.absent, cs)
  else match ds.foldl step (some 0) with
    | some n => (.value n, rest)
    | none => (.tooLarge, rest)

/-- A width or precision `*` takes the value at `i`: a whole number of at most a million either
way, and the position of the next value. A value of another kind is used up without giving a
number; past the last value nothing is used. -/
def sizeFrom (args : List Arg) (i : Nat) : Option Int × Nat :=
  match args[i]? with
  | none => (none, i)
  | some (.int n) => (if n.natAbs ≤ 1000000 then some n else none, i + 1)
  | some _ => (none, i + 1)

/-- Where the reading of one directive stands: its flags so far, the next value it would take,
whether that value is well chosen, whether any index was written in the format, whether the
last thing read was an index, and the text written so far. -/
structure Reading where
  spec : Spec := {}
  next : Nat
  good : Bool := true
  reordered : Bool
  afterIndex : Bool := false
  out : String

namespace Reading

/-- Reads an index `[n]` at the front of the characters, if there is one. A well-formed index
of a value that exists makes that value the next one; any other index marks the directive bad.
Without `]`, or with too few characters for an index, only the `[` is read. -/
def index (r : Reading) (count : Nat) : List Char → Reading × List Char
  | '[' :: cs =>
    let r := { r with reordered := true }
    let unread := ({ r with good := false, afterIndex := false }, cs)
    if cs.length < 2 then unread
    else match cs.idxOf? ']' with
      | none => unread
      | some j =>
        let rest := cs.drop (j + 1)
        match numberAt (cs.take j) with
        | (.value n, []) =>
          if 1 ≤ n && n ≤ count then ({ r with next := n - 1, afterIndex := true }, rest)
          else ({ r with good := false, afterIndex := true }, rest)
        | _ => ({ r with good := false, afterIndex := false }, rest)
  | cs => ({ r with afterIndex := false }, cs)

/-- Reads the width, if there is one. A number taken by `*` that is negative pads on the right;
digits right after an index mark the directive bad. Too many digits end the format. -/
def width (r : Reading) (args : List Arg) : List Char → Reading × List Char
  | '*' :: cs =>
    let (n, next) := sizeFrom args r.next
    let r := { r with next, afterIndex := false }
    match n with
    | none => ({ r with out := r.out ++ "%!(BADWIDTH)" }, cs)
    | some n =>
      let f := { r.spec with width := some n.natAbs }
      let f := if n < 0 then { f with minus := true, zero := false } else f
      ({ r with spec := f }, cs)
  | cs =>
    match numberAt cs with
    | (.absent, cs) => (r, cs)
    | (.value n, cs) =>
      ({ r with spec := { r.spec with width := some n }, good := r.good && !r.afterIndex }, cs)
    | (.tooLarge, _) => (r, [])

/-- Reads the precision, if a `.` stands before at least one more character. A number taken by
`*` that is negative gives no precision; no digits mean zero. Too many digits end the format. -/
def precision (r : Reading) (args : List Arg) : List Char → Reading × List Char
  | '.' :: c :: cs =>
    let r := { r with good := r.good && !r.afterIndex }
    let (r, cs) := r.index args.length (c :: cs)
    match cs with
    | '*' :: cs =>
      let (n, next) := sizeFrom args r.next
      let r := { r with next, afterIndex := false }
      match n with
      | some n =>
        if n < 0 then ({ r with out := r.out ++ "%!(BADPREC)" }, cs)
        else ({ r with spec := { r.spec with precision := some n.toNat } }, cs)
      | none => ({ r with out := r.out ++ "%!(BADPREC)" }, cs)
    | cs =>
      match numberAt cs with
      | (.absent, cs) => ({ r with spec := { r.spec with precision := some 0 } }, cs)
      | (.value n, cs) => ({ r with spec := { r.spec with precision := some n } }, cs)
      | (.tooLarge, _) => ({ r with spec := { r.spec with precision := some 0 } }, [])
  | cs => (r, cs)

end Reading

/-- What a format has written so far: the text, the next value to take, and whether an index
was written. -/
structure Progress where
  out : String := ""
  next : Nat := 0
  reordered : Bool := false

/-- Reads one directive after its `%` and writes it: the progress after it, with the characters
after the directive, or none when the format ended inside the directive. -/
def directive (args : List Arg) (p : Progress) (cs : List Char) :
    Progress × Option (List Char) :=
  let (f, cs) := flagsAt {} cs
  let r : Reading := { spec := f, next := p.next, reordered := p.reordered, out := p.out }
  let (r, cs) := r.index args.length cs
  let (r, cs) := r.width args cs
  let (r, cs) := r.precision args cs
  let (r, cs) := if r.afterIndex then (r, cs) else r.index args.length cs
  let p : Progress := { out := r.out, next := r.next, reordered := r.reordered }
  match cs with
  | [] => ({ p with out := p.out ++ "%!(NOVERB)" }, none)
  | verb :: cs =>
    let message (what : String) : String := "%!" ++ verb.toString ++ "(" ++ what ++ ")"
    if verb == '%' then ({ p with out := p.out.push '%' }, some cs)
    else if !r.good then ({ p with out := p.out ++ message "BADINDEX" }, some cs)
    else match args[p.next]? with
      | none => ({ p with out := p.out ++ message "MISSING" }, some cs)
      | some a =>
        let f := r.spec
        let f := if verb == 'v' || verb == 'w' then
            { f with sharpV := f.sharp, sharp := false, plus := false }
          else f
        ({ p with out := p.out ++ a.write f verb, next := p.next + 1 }, some cs)

/-- Copies text and writes directives until the format ends; `fuel` above the number of
characters left is enough, as each step reads at least one. -/
def formatLoop (args : List Arg) : Nat → Progress → List Char → Progress
  | 0, p, _ => p
  | _, p, [] => p
  | fuel + 1, p, '%' :: cs =>
    match directive args p cs with
    | (p, none) => p
    | (p, some rest) => formatLoop args fuel p rest
  | fuel + 1, p, c :: cs => formatLoop args fuel { p with out := p.out.push c } cs

/-- The text of a format with its values filled in. -/
def format (fmt : String) (args : List Arg) : String :=
  let cs := fmt.toList
  let p := formatLoop args (cs.length + 1) {} cs
  let extra := args.drop p.next
  if p.reordered || extra.isEmpty then p.out
  else
    p.out ++ "%!(EXTRA " ++
      ", ".intercalate (extra.map fun a => a.typeName ++ "=" ++ a.plain {}) ++ ")"

example : format "%d-%s" [.int 3, .text "a"] = "3-a" := by decide

end AclReconcile.Text
