import AclReconcile.Binary64.Basic

/-!
# YAML nodes and the types of scalars

A YAML document is read into a tree of scalars, sequences and mappings, each node with the line
it starts on (counted from 1) and its tag in short form (`!!str`, `!!int`, or a tag of the
document's own such as `!thing`). A scalar also keeps its text and how it was written.

A node given a name by an anchor `&name` can be referred to later by an alias `*name`. An alias
stays a node of its own, holding the number of the anchored node it refers to; the document keeps
the anchored nodes by number, so an alias is followed only when its value is read.

## The type of a scalar

A scalar written plain without a tag gets its type from its text (`resolve`):

* `~`, `null` (three spellings) and the empty text are null; `true` and `false` (three spellings
  each) are booleans; `.inf`, `-.inf`, `.nan` and their spellings are floats;
* a text starting with a digit or a sign may be a timestamp (`2001-12-14`, with a time and a
  zone after `T`, `t` or a blank), else an integer as the general integer reader takes it once
  its underscores are removed (decimal, or after `0x`, `0o`, `0b` or a leading `0`), a 64-bit
  one or an unsigned one, else a decimal float that does not overflow, else a binary or octal
  integer too large for the general reader;
* a text starting with `.` may be a float (`.5`);
* everything else is text.

Quoted and block scalars are text. A tag given explicitly is checked against the text: a tag
of text always holds, a float tag accepts an integer, and any other type the text does not have
is a failure (`cannot decode !!str `x` as a !!int`).
-/

namespace AclReconcile.Yaml

open AclReconcile (Binary64)

/-- How a scalar was written. -/
inductive Style where
  | plain | singleQuoted | doubleQuoted | literal | folded
  deriving DecidableEq, Repr, Inhabited

/-- A node of a YAML document. -/
inductive Node where
  /-- A scalar: its text, how it was written, its short tag and its line. -/
  | scalar (value : String) (style : Style) (tag : String) (line : Nat)
  /-- A sequence: its items, its short tag and its line. -/
  | sequence (items : List Node) (tag : String) (line : Nat)
  /-- A mapping: its pairs in order, its short tag and its line. -/
  | mapping (pairs : List (Node × Node)) (tag : String) (line : Nat)
  /-- An alias `*name`: its own number among the aliases, the number of the anchored node it
  refers to, and its line. -/
  | alias (name : String) (self : Nat) (target : Nat) (line : Nat)
  deriving Inhabited, Repr

/-- The prefix of the tags of the standard types. -/
def standardTagRoot : String := "tag:yaml.org,2002:"

/-- A tag in short form: the standard prefix written `!!`. -/
def shortTag (tag : String) : String :=
  if tag.startsWith standardTagRoot then "!!" ++ (tag.drop standardTagRoot.length).toString
  else tag

/-! ## Integers and floats as the general readers take them -/

/-- The value of a digit in bases up to 36 (letters in either case), none for other
characters. -/
def digitValue (c : Char) : Option Nat :=
  if '0' ≤ c && c ≤ '9' then some (c.toNat - 48)
  else if 'a' ≤ c && c ≤ 'z' then some (c.toNat - 87)
  else if 'A' ≤ c && c ≤ 'Z' then some (c.toNat - 55)
  else none

/-- Digits of a base read as a natural number; none when a character is not such a digit. -/
def digitsIn (base : Nat) (cs : List Char) : Option Nat :=
  cs.foldlM (fun n c => match digitValue c with
    | some d => if d < base then some (n * base + d) else none
    | none => none) 0

/-- An unsigned number as the general reader takes it with its base given (`0` lets a prefix
choose it: `0x`, `0o`, `0b` after a `0` and at least one more character, or a leading `0` for
octal); none when it is not one or does not fit 64 bits. -/
def readUnsigned (base : Nat) (cs : List Char) : Option Nat :=
  if cs.isEmpty then none
  else
    let (base, digits) : Nat × List Char :=
      if base != 0 then (base, cs)
      else match cs with
        | '0' :: x :: rest =>
          if rest.isEmpty then (8, x :: rest)
          else if x == 'b' || x == 'B' then (2, rest)
          else if x == 'o' || x == 'O' then (8, rest)
          else if x == 'x' || x == 'X' then (16, rest)
          else (8, x :: rest)
        | '0' :: rest => (8, rest)
        | _ => (10, cs)
    match digitsIn base digits with
    | some n => if n < Nat.pow 2 64 then some n else none
    | none => none

/-- A signed number as the general reader takes it: an optional sign and an unsigned number,
within 64 bits. -/
def readSigned (base : Nat) (cs : List Char) : Option Int :=
  let (negative, rest) := match cs with
    | '+' :: r => (false, r)
    | '-' :: r => (true, r)
    | r => (false, r)
  match readUnsigned base rest with
  | some n =>
    if negative then (if n ≤ Nat.pow 2 63 then some (-(n : Int)) else none)
    else if n < Nat.pow 2 63 then some n else none
  | none => none

/-- Whether a character is a decimal digit. -/
def isDecimal (c : Char) : Bool := '0' ≤ c && c ≤ '9'

/-- The digits and exponent of a decimal float `[-+]?(.d+|d+(.d*)?)([eE][-+]?d+)?`, as its
digits and the power of ten to scale them by; none for other text. -/
def decimalFloat? (cs : List Char) : Option (Bool × Nat × Int) :=
  let (negative, cs) := match cs with
    | '+' :: r => (false, r)
    | '-' :: r => (true, r)
    | r => (false, r)
  let whole := cs.takeWhile isDecimal
  let cs := cs.drop whole.length
  let (frac, cs, dotted) : List Char × List Char × Bool := match cs with
    | '.' :: r => (r.takeWhile isDecimal, r.drop (r.takeWhile isDecimal).length, true)
    | r => ([], r, false)
  let mantissaOk := !whole.isEmpty || (dotted && !frac.isEmpty)
  let expo : Option Int := match cs with
    | [] => some 0
    | e :: r =>
      if e == 'e' || e == 'E' then
        let (neg, ds) := match r with
          | '+' :: t => (false, t)
          | '-' :: t => (true, t)
          | t => (false, t)
        if !ds.isEmpty && ds.all isDecimal then
          let n : Nat := ds.foldl (fun n c => n * 10 + (c.toNat - 48)) 0
          some (if neg then -(n : Int) else n)
        else none
      else none
  match mantissaOk, expo with
  | true, some e =>
    let digits := (whole ++ frac).foldl (fun n c => n * 10 + (c.toNat - 48)) 0
    some (negative, digits, e - frac.length)
  | _, _ => none

/-- Whether a decimal float's value is finite as a binary64 number: the float reader refuses
one that overflows. -/
def floatInRange (negative : Bool) (digits : Nat) (exponent : Int) : Bool :=
  (Binary64.ofDecimal negative digits exponent).isFinite

/-- Whether text is a float the general float reader accepts after a `.`: `.d+` with an optional
exponent, in range. -/
def isDotFloat (cs : List Char) : Bool :=
  match cs with
  | '.' :: d :: _ =>
    isDecimal d &&
      match decimalFloat? cs with
      | some (n, m, e) => floatInRange n m e
      | none => false
  | _ => false

/-! ## Timestamps -/

/-- Reads one or two digits, as a time field; none when there is no digit. -/
def twoDigits : List Char → Option (Nat × List Char)
  | a :: b :: rest =>
    if isDecimal a then
      if isDecimal b then some ((a.toNat - 48) * 10 + (b.toNat - 48), rest)
      else some (a.toNat - 48, b :: rest)
    else none
  | [a] => if isDecimal a then some (a.toNat - 48, []) else none
  | [] => none

/-- Whether a year is a leap year. -/
def isLeapYear (y : Nat) : Bool := y % 4 == 0 && (y % 100 != 0 || y % 400 == 0)

/-- The number of days of a month of a year. -/
def daysInMonth (month year : Nat) : Nat :=
  match month with
  | 2 => if isLeapYear year then 29 else 28
  | 4 | 6 | 9 | 11 => 30
  | _ => 31

/-- Reads the date `YYYY-M-D` at the front of text: the year, month and day, and the rest;
none when the text does not start so or the month is out of range. -/
def readDate (cs : List Char) : Option (Nat × Nat × Nat × List Char) := do
  let year := cs.take 4
  guard (year.length == 4 && year.all isDecimal)
  let cs := cs.drop 4
  let '-' :: cs := cs | none
  let (month, cs) ← twoDigits cs
  guard (1 ≤ month && month ≤ 12)
  let '-' :: cs := cs | none
  let (day, cs) ← twoDigits cs
  let y := year.foldl (fun n c => n * 10 + (c.toNat - 48)) 0
  pure (y, month, day, cs)

/-- Reads a time `H:M:S` with an optional fraction after `.` or `,`; gives the rest. -/
def readTime (cs : List Char) : Option (List Char) := do
  let (hour, cs) ← twoDigits cs
  guard (hour < 24)
  let ':' :: cs := cs | none
  let (minute, cs) ← twoDigits cs
  guard (minute < 60)
  let ':' :: cs := cs | none
  let (second, cs) ← twoDigits cs
  guard (second < 60)
  match cs with
  | c :: d :: rest =>
    if (c == '.' || c == ',') && isDecimal d then pure (rest.dropWhile isDecimal) else pure cs
  | _ => pure cs

/-- Reads a zone `Z` or `±hh:mm` and nothing after it. -/
def zoneOnly (cs : List Char) : Bool :=
  match cs with
  | ['Z'] => true
  | [s, h1, h2, ':', m1, m2] =>
    (s == '+' || s == '-') && [h1, h2, m1, m2].all isDecimal &&
      (h1.toNat - 48) * 10 + (h2.toNat - 48) ≤ 24 && (m1.toNat - 48) * 10 + (m2.toNat - 48) ≤ 60
  | _ => false

/-- Whether text is a timestamp: a date alone, a date and time with a zone after `T` or `t`, or
a date and time without a zone after blanks; the day must exist in its month. -/
def isTimestamp (s : String) : Bool :=
  match readDate s.toList with
  | none => false
  | some (year, month, day, rest) =>
    let dayOk := 1 ≤ day && day ≤ daysInMonth month year
    dayOk &&
      (rest.isEmpty ||
        (match rest with
          | t :: more =>
            ((t == 'T' || t == 't') && (match readTime more with
              | some z => zoneOnly z
              | none => false)) ||
            (t == ' ' && (match readTime (more.dropWhile (· == ' ')) with
              | some r => r.isEmpty
              | none => false))
          | [] => true))

/-! ## Resolving scalars -/

/-- What the text of a scalar stands for. -/
inductive Resolved where
  | null
  | bool (value : Bool)
  | int
  | float
  | timestamp
  | str
  | merge
  | other
  deriving DecidableEq, Repr, Inhabited

/-- The kind of the first character of a scalar, which says how its text may be read: `S` for a
sign, `D` for a digit, `M` for the start of a word of the fixed table, `.` for a point, none
otherwise. -/
def hintOf (c : Char) : Option Char :=
  if c == '+' || c == '-' then some 'S'
  else if isDecimal c then some 'D'
  else if "yYnNtTfFoO~".toList.contains c then some 'M'
  else if c == '.' then some '.'
  else none

/-- The fixed words and what they stand for. -/
def fixedWord? (s : String) : Option (String × Resolved) :=
  match s with
  | "true" | "True" | "TRUE" => some ("!!bool", .bool true)
  | "false" | "False" | "FALSE" => some ("!!bool", .bool false)
  | "" | "~" | "null" | "Null" | "NULL" => some ("!!null", .null)
  | ".nan" | ".NaN" | ".NAN" | ".inf" | ".Inf" | ".INF" | "+.inf" | "+.Inf" | "+.INF"
  | "-.inf" | "-.Inf" | "-.INF" => some ("!!float", .float)
  | "<<" => some ("!!merge", .merge)
  | _ => none

/-- The type a plain text has, from its text alone. -/
def typeOfText (tag : String) (s : String) : String × Resolved :=
  let hint : Option Char := match s.toList with
    | c :: _ => hintOf c
    | [] => some 'N'
  match hint with
  | none => ("!!str", .str)
  | some h =>
    match fixedWord? s with
    | some r => r
    | none =>
      if h == '.' then (if isDotFloat s.toList then ("!!float", .float) else ("!!str", .str))
      else if h == 'D' || h == 'S' then
        if (tag == "" || tag == "!!timestamp") && isTimestamp s then ("!!timestamp", .timestamp)
        else
          let plain := s.toList.filter (· != '_')
          if (readSigned 0 plain).isSome || (readUnsigned 0 plain).isSome then ("!!int", .int)
          else if (match decimalFloat? plain with
              | some (n, m, e) => floatInRange n m e
              | none => false) then ("!!float", .float)
          else
            let binaryOrOctal (mark : Char) (base : Nat) : Bool :=
              match plain with
              | '0' :: m :: rest =>
                m == mark && ((readSigned base rest).isSome || (readUnsigned base rest).isSome)
              | '-' :: '0' :: m :: rest => m == mark && (readSigned base ('-' :: rest)).isSome
              | _ => false
            if binaryOrOctal 'b' 2 || binaryOrOctal 'o' 8 then ("!!int", .int)
            else ("!!str", .str)
      else ("!!str", .str)

/-- Whether a tag is one whose scalars are checked against their text. -/
def isResolvableTag (tag : String) : Bool :=
  ["", "!!str", "!!bool", "!!int", "!!float", "!!timestamp", "!!null"].contains tag

/-- The type of a scalar's text under a tag (in short form, empty for none): the tag it
resolves to and what it stands for; the failure when an explicit tag does not fit the text. A
tag that is not checked stands as it is. -/
def resolve (tag : String) (s : String) : Except String (String × Resolved) :=
  if !isResolvableTag tag then .ok (tag, .other)
  else
    let (rtag, value) :=
      if tag == "!!str" then ("!!str", Resolved.str) else typeOfText tag s
    if tag == "" || tag == rtag || tag == "!!str" then .ok (rtag, value)
    else if tag == "!!float" && rtag == "!!int" then .ok ("!!float", .float)
    else .error ("cannot decode " ++ rtag ++ " `" ++ s ++ "` as a " ++ tag)

/-! ## Binary scalars -/

/-- The value of a character of the standard base64 alphabet. -/
def base64Value (c : Char) : Option Nat :=
  if 'A' ≤ c && c ≤ 'Z' then some (c.toNat - 65)
  else if 'a' ≤ c && c ≤ 'z' then some (c.toNat - 71)
  else if '0' ≤ c && c ≤ '9' then some (c.toNat + 4)
  else if c == '+' then some 62
  else if c == '/' then some 63
  else none

/-- Decodes groups of four base64 characters; the last group may end in `==` or `=`, and
nothing may follow it. -/
def base64Groups : List Char → Option (List UInt8)
  | [] => some []
  | [a, b, '=', '='] => do
    let x ← base64Value a
    let y ← base64Value b
    pure [((x * 64 + y) / 16 % 256).toUInt8]
  | [a, b, c, '='] => do
    let x ← base64Value a
    let y ← base64Value b
    let z ← base64Value c
    let n := (x * 64 + y) * 64 + z
    pure [(n / 1024 % 256).toUInt8, (n / 4 % 256).toUInt8]
  | a :: b :: c :: d :: rest => do
    let x ← base64Value a
    let y ← base64Value b
    let z ← base64Value c
    let w ← base64Value d
    let n := ((x * 64 + y) * 64 + z) * 64 + w
    let tail ← base64Groups rest
    pure ((n / 65536 % 256).toUInt8 :: (n / 256 % 256).toUInt8 :: (n % 256).toUInt8 :: tail)
  | _ => none

/-- The bytes a `!!binary` scalar holds: its text in standard base64 with padding, line breaks
left out; none when the text is not such. -/
def decodeBase64 (s : String) : Option (List UInt8) :=
  base64Groups (s.toList.filter fun c => c != '\n' && c != '\r')

namespace Node

/-- The line a node starts on. -/
def line : Node → Nat
  | .scalar _ _ _ l => l
  | .sequence _ _ l => l
  | .mapping _ _ l => l
  | .alias _ _ _ l => l

/-- The tag of a node as it stands in the document. -/
def tag : Node → String
  | .scalar _ _ t _ => t
  | .sequence _ t _ => t
  | .mapping _ t _ => t
  | .alias .. => ""

/-- The text a node holds: a scalar's text, an alias's name, and nothing for a collection. -/
def text : Node → String
  | .scalar v _ _ _ => v
  | .alias name _ _ _ => name
  | _ => ""

/-- The kind of a node, for comparing keys: scalars, sequences, mappings and aliases. -/
def kindRank : Node → Nat
  | .scalar .. => 0
  | .sequence .. => 1
  | .mapping .. => 2
  | .alias .. => 3

/-- Whether two keys of a mapping count as the same key: nodes of one kind holding one text,
however they were written. -/
def sameKey (a b : Node) : Bool := a.kindRank == b.kindRank && a.text == b.text

/-- Whether a key is the merge key: `<<` as a scalar whose tag is the merge tag or none. -/
def isMergeKey : Node → Bool
  | .scalar v _ t _ => v == "<<" && (t == "" || t == "!" || t == "!!merge")
  | _ => false

mutual

/-- The depth of a node: one more than the deepest node it holds. -/
def depth : Node → Nat
  | .scalar .. => 1
  | .sequence items _ _ => depthOfItems items + 1
  | .mapping pairs _ _ => depthOfPairs pairs + 1
  | .alias .. => 1

/-- The greatest depth of some nodes. -/
def depthOfItems : List Node → Nat
  | [] => 0
  | n :: rest => max (depth n) (depthOfItems rest)

/-- The greatest depth of the keys and values of some pairs. -/
def depthOfPairs : List (Node × Node) → Nat
  | [] => 0
  | (k, v) :: rest => max (max (depth k) (depth v)) (depthOfPairs rest)

end

end Node

/-- A document: its root node and the anchored nodes by number. -/
structure Document where
  root : Node
  anchored : List (Nat × Node) := []
  /-- The number of aliases in the document. -/
  aliases : Nat := 0
  deriving Inhabited

end AclReconcile.Yaml
