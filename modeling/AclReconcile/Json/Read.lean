import AclReconcile.Json.Value
import AclReconcile.Text.Quote

/-!
# Reading JSON text

The grammar of RFC 8259, read left to right, with the first offending character reported
together with what was expected at that point: the beginning of a value, an object key, the
`:` after a key, the `,` or closing bracket after a member or element, a digit of a number,
the rest of a literal, or nothing at all after the top-level value. Running out of text is
its own failure.

Blanks between tokens are space, tab, line feed and carriage return. Strings decode their
escapes; a `\u` escape of half a surrogate pair that is not completed by the other half
stands for U+FFFD.

Two entry points differ in what may follow the value: `Json.parse` reads a whole document and
refuses anything but blanks after it, `Json.parsePrefix` reads the first value of a stream and
leaves the rest.
-/

namespace AclReconcile.Json

/-- Why a text is not JSON. -/
inductive SyntaxError where
  /-- The text ended inside a value. -/
  | truncated
  /-- `found` cannot stand where `context` says. -/
  | unexpected (found : Char) (context : String)
  /-- A string holds an escape that is not one; `shown` is how the message shows it. -/
  | badEscape (shown : String)
  deriving DecidableEq, Inhabited

/-- The message of a syntax error, for a whole document. A stream says `unexpected EOF`
instead of the first form. -/
def SyntaxError.message : SyntaxError → String
  | .truncated => "unexpected end of JSON input"
  | .unexpected c ctx => "invalid character " ++ Text.quoteChar c ++ " " ++ ctx
  | .badEscape shown => "invalid escape sequence " ++ shown ++ " in string"

/-- JSON's four blank characters. -/
def isSpace (c : Char) : Bool := c == ' ' || c == '\t' || c == '\n' || c == '\r'

/-- Drops JSON blanks from the front. -/
def skipSpace (cs : List Char) : List Char := cs.dropWhile isSpace

/-- The value of a hexadecimal digit. -/
def hexValue? (c : Char) : Option Nat :=
  if '0' ≤ c && c ≤ '9' then some (c.toNat - 48)
  else if 'a' ≤ c && c ≤ 'f' then some (c.toNat - 87)
  else if 'A' ≤ c && c ≤ 'F' then some (c.toNat - 55)
  else none

/-- The value of four hexadecimal digits at the front of some characters, with the characters
after them. -/
def hex4 : List Char → Option (Nat × List Char)
  | a :: b :: c :: d :: rest => do
    let v ← [a, b, c, d].foldlM (fun v x => (hexValue? x).map (v * 16 + ·)) 0
    pure (v, rest)
  | _ => none

/-- The characters that fit whole in the first `n` bytes of some text, with the bytes of the
character cut by that limit. -/
def bytePrefix (n : Nat) : List Char → List Char × List Nat
  | [] => ([], [])
  | c :: cs =>
    if c.utf8Size ≤ n then
      let (whole, cut) := bytePrefix (n - c.utf8Size) cs
      (c :: whole, cut)
    else ([], ((String.singleton c).toUTF8.toList.take n).map UInt8.toNat)

/-- How a bad escape is shown, from its characters and the bytes of a character cut at its
end: between backquotes, or quoted with escapes when it holds a cut character, a backquote, a
blank or a character that is not printable. -/
def escapeShown (whole : List Char) (cut : List Nat) : String :=
  let plain (c : Char) : Bool :=
    Text.isPrintable c && c != ' ' && c.toNat != 0x60 && c.toNat != 0xFFFD
  if cut.isEmpty && whole.all plain then "`" ++ String.ofList whole ++ "`"
  else
    "\"" ++ String.join (whole.map (Text.escapeChar '"')) ++
      String.join (cut.map fun b => "\\x" ++ Text.hexPadded 2 b) ++ "\""

/-- The error for a `\u` escape without four hexadecimal digits, from the text after the `u`:
the text ends too early when it ends within digits, and the message shows at most six bytes
of the escape otherwise. -/
def badUnicodeEscape (after : List Char) : SyntaxError :=
  let escape := '\\' :: 'u' :: after
  if (String.ofList after).utf8ByteSize < 4 && after.all fun c => (hexValue? c).isSome then
    .truncated
  else
    let (whole, cut) := bytePrefix 6 escape
    .badEscape (escapeShown whole cut)

/-- Whether a code unit is the first half of a surrogate pair. -/
def isHighSurrogate (n : Nat) : Bool := 0xD800 ≤ n && n < 0xDC00

/-- Whether a code unit is the second half of a surrogate pair. -/
def isLowSurrogate (n : Nat) : Bool := 0xDC00 ≤ n && n < 0xE000

/-- The character of a code point, U+FFFD for a surrogate. -/
def charOfCode (n : Nat) : Char :=
  if 0xD800 ≤ n && n < 0xE000 then Char.ofNat 0xFFFD else Char.ofNat n

/-- Reads the body of a string after its opening quote, up to and including the closing
quote. The fuel is the length of the text, which bounds the number of characters read. -/
def readStringBody : Nat → List Char → List Char → Except SyntaxError (String × List Char)
  | 0, _, _ => .error .truncated
  | _ + 1, _, [] => .error .truncated
  | fuel + 1, acc, c :: rest =>
    if c == '"' then .ok (String.ofList acc.reverse, rest)
    else if c == '\\' then
      match rest with
      | [] => .error .truncated
      | e :: rest' =>
        match e with
        | '"' => readStringBody fuel ('"' :: acc) rest'
        | '\\' => readStringBody fuel ('\\' :: acc) rest'
        | '/' => readStringBody fuel ('/' :: acc) rest'
        | 'b' => readStringBody fuel ('\x08' :: acc) rest'
        | 'f' => readStringBody fuel ('\x0c' :: acc) rest'
        | 'n' => readStringBody fuel ('\n' :: acc) rest'
        | 'r' => readStringBody fuel ('\r' :: acc) rest'
        | 't' => readStringBody fuel ('\t' :: acc) rest'
        | 'u' =>
          match hex4 rest' with
          | none => .error (badUnicodeEscape rest')
          | some (u, rest'') =>
            if isHighSurrogate u then
              match rest'' with
              | '\\' :: 'u' :: more =>
                match hex4 more with
                | some (l, more') =>
                  if isLowSurrogate l then
                    readStringBody fuel
                      (Char.ofNat (0x10000 + (u - 0xD800) * 1024 + (l - 0xDC00)) :: acc) more'
                  else readStringBody fuel (Char.ofNat 0xFFFD :: acc) rest''
                | none => readStringBody fuel (Char.ofNat 0xFFFD :: acc) rest''
              | _ => readStringBody fuel (Char.ofNat 0xFFFD :: acc) rest''
            else readStringBody fuel (charOfCode u :: acc) rest''
        | other =>
          if other.toNat < 0x80 then .error (.badEscape (escapeShown ['\\', other] []))
          else .error (.badEscape (escapeShown ['\\'] ((bytePrefix 1 [other]).2)))
    else if c.toNat < 0x20 then .error (.unexpected c "in string")
    else readStringBody fuel (c :: acc) rest

/-- Whether a character is a decimal digit. -/
def isDigit (c : Char) : Bool := '0' ≤ c && c ≤ '9'

/-- Reads the digits of an exponent after `e` and its sign. -/
def readExponent (cs : List Char) : Except SyntaxError (List Char × List Char) :=
  let (sign, rest) := match cs with
    | '+' :: r => (['+'], r)
    | '-' :: r => (['-'], r)
    | r => ([], r)
  match rest with
  | [] => .error .truncated
  | d :: _ =>
    if isDigit d then
      let digits := rest.takeWhile isDigit
      .ok (sign ++ digits, rest.dropWhile isDigit)
    else .error (.unexpected d "in exponent of numeric literal")

/-- Reads the fraction and exponent that may follow the integer part of a number. -/
def readNumberTail (cs : List Char) : Except SyntaxError (List Char × List Char) := do
  let (frac, rest) ← match cs with
    | '.' :: r =>
      match r with
      | [] => .error .truncated
      | d :: _ =>
        if isDigit d then .ok ('.' :: r.takeWhile isDigit, r.dropWhile isDigit)
        else .error (.unexpected d "after decimal point in numeric literal")
    | r => .ok ([], r)
  match rest with
  | e :: r =>
    if e == 'e' || e == 'E' then
      let (ex, rest') ← readExponent r
      pure (frac ++ e :: ex, rest')
    else pure (frac, rest)
  | [] => pure (frac, rest)

/-- Reads a number that starts at the front of the text. -/
def readNumber (cs : List Char) : Except SyntaxError (String × List Char) := do
  let (sign, rest) := match cs with
    | '-' :: r => (['-'], r)
    | r => ([], r)
  match rest with
  | [] => .error .truncated
  | '0' :: r =>
    let (tail, rest') ← readNumberTail r
    pure (String.ofList (sign ++ '0' :: tail), rest')
  | d :: _ =>
    if isDigit d then
      let (tail, rest') ← readNumberTail (rest.dropWhile isDigit)
      pure (String.ofList (sign ++ rest.takeWhile isDigit ++ tail), rest')
    else .error (.unexpected d "in numeric literal")

/-- Reads the rest of a literal whose first letter has been seen. -/
def readLiteral (word : String) (value : Json) (cs : List Char) :
    Except SyntaxError (Json × List Char) :=
  let expected := (word.toList.drop 1)
  let rec go : List Char → List Char → Except SyntaxError (Json × List Char)
    | [], rest => .ok (value, rest)
    | _ :: _, [] => .error .truncated
    | e :: es, c :: rest =>
      if c == e then go es rest
      else .error (.unexpected c ("in literal " ++ word ++ " (expecting " ++
        Text.quoteChar e ++ ")"))
  go expected cs

mutual
/-- Reads one value at the front of the text (after blanks). The fuel bounds the nesting
depth and is never smaller than the text. -/
def readValue : Nat → List Char → Except SyntaxError (Json × List Char)
  | 0, _ => .error .truncated
  | fuel + 1, cs =>
    match skipSpace cs with
    | [] => .error .truncated
    | c :: rest =>
      if c == '{' then readObject fuel [] true rest
      else if c == '[' then readArray fuel [] true rest
      else if c == '"' then do
        let (s, rest') ← readStringBody (rest.length + 1) [] rest
        pure (.string s, rest')
      else if c == 't' then readLiteral "true" (.bool true) rest
      else if c == 'f' then readLiteral "false" (.bool false) rest
      else if c == 'n' then readLiteral "null" .null rest
      else if c == '-' || isDigit c then do
        let (lit, rest') ← readNumber (c :: rest)
        pure (.number lit, rest')
      else .error (.unexpected c "looking for beginning of value")

/-- Reads the elements of an array after `[`, or after an element and its comma. -/
def readArray : Nat → List Json → Bool → List Char → Except SyntaxError (Json × List Char)
  | 0, _, _, _ => .error .truncated
  | fuel + 1, acc, first, cs =>
    match skipSpace cs with
    | [] => .error .truncated
    | c :: rest =>
      if first && c == ']' then .ok (.array acc.reverse, rest)
      else do
        let (v, rest') ← readValue fuel (c :: rest)
        match skipSpace rest' with
        | [] => .error .truncated
        | d :: rest'' =>
          if d == ',' then readArray fuel (v :: acc) false rest''
          else if d == ']' then .ok (.array (v :: acc).reverse, rest'')
          else .error (.unexpected d "after array element")

/-- Reads the members of an object after `{`, or after a member and its comma. -/
def readObject : Nat → List (String × Json × String) → Bool → List Char →
    Except SyntaxError (Json × List Char)
  | 0, _, _, _ => .error .truncated
  | fuel + 1, acc, first, cs =>
    match skipSpace cs with
    | [] => .error .truncated
    | c :: rest =>
      if first && c == '}' then .ok (.object acc.reverse, rest)
      else if c != '"' then .error (.unexpected c "looking for beginning of object key string")
      else do
        let (key, rest1) ← readStringBody (rest.length + 1) [] rest
        match skipSpace rest1 with
        | [] => .error .truncated
        | d :: rest2 =>
          if d != ':' then .error (.unexpected d "after object key")
          else do
            let start := skipSpace rest2
            let (v, rest3) ← readValue fuel start
            let raw := String.ofList (start.take (start.length - rest3.length))
            match skipSpace rest3 with
            | [] => .error .truncated
            | e :: rest4 =>
              if e == ',' then readObject fuel ((key, v, raw) :: acc) false rest4
              else if e == '}' then .ok (.object ((key, v, raw) :: acc).reverse, rest4)
              else .error (.unexpected e "after object key:value pair")
end

/-- Reads a whole document: one value with nothing but blanks around it. -/
def parse (s : String) : Except SyntaxError Json := do
  let cs := s.toList
  let (v, rest) ← readValue (cs.length + 1) cs
  match skipSpace rest with
  | [] => pure v
  | c :: _ => throw (.unexpected c "after top-level value")

/-- How reading the first value of a stream can fail. -/
inductive StreamError where
  /-- The stream holds nothing but blanks. -/
  | empty
  /-- The stream ends inside the value. -/
  | truncated
  /-- The value is not JSON. -/
  | malformed (e : SyntaxError)
  deriving DecidableEq

/-- The message of a stream failure. -/
def StreamError.message : StreamError → String
  | .empty => "EOF"
  | .truncated => "unexpected EOF"
  | .malformed e => e.message

/-- Reads the first value of a stream and leaves what follows it unread. -/
def parsePrefix (s : String) : Except StreamError Json :=
  let cs := s.toList
  match skipSpace cs with
  | [] => .error .empty
  | _ =>
    match readValue (cs.length + 1) cs with
    | .ok (v, _) => .ok v
    | .error .truncated => .error .truncated
    | .error e => .error (.malformed e)

/-- The source text of a whole document's value, without the blanks around it. -/
def rawText (s : String) : String :=
  String.ofList (skipSpace (skipSpace s.toList).reverse).reverse

end AclReconcile.Json
