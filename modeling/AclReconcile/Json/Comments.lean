/-!
# JSON with comments

Configuration documents may be written as JSON with `//` line comments, `/* */` block comments
and a trailing comma before a closing bracket. `strip` turns such a text into plain JSON: every
character of a comment becomes a space, except line breaks, tabs and carriage returns, which are
kept (so line numbers stay where they were), and a comma that is followed only by blanks up to a
closing bracket becomes a space. Strings are copied as they are, escapes included.

An unterminated block comment runs to the end of the text, and its last character is dropped.
-/

namespace AclReconcile.Json

/-- Whether a character counts as blank before a closing bracket: a control character or the
space. -/
def isLowBlank (c : Char) : Bool := c.toNat ≤ 32

/-- Blanks out a trailing comma: the last character of `out` (held reversed) that is not blank
becomes a space when it is a comma. -/
def dropTrailingComma : List Char → List Char
  | [] => []
  | c :: rest =>
    if isLowBlank c then c :: dropTrailingComma rest
    else if c == ',' then ' ' :: rest
    else c :: rest

/-- The blank that stands for a character of a comment. -/
def blankFor (c : Char) : Char := if c == '\n' || c == '\t' || c == '\r' then c else ' '

/-- Copies the rest of a string after its opening quote, up to and including the closing quote
that no backslash escapes; `out` is reversed. -/
def copyString : List Char → List Char → List Char × List Char
  | out, [] => (out, [])
  | out, '\\' :: c :: rest => copyString (c :: '\\' :: out) rest
  | out, '"' :: rest => ('"' :: out, rest)
  | out, c :: rest => copyString (c :: out) rest

/-- The body of a line comment, up to and including its line break. -/
def lineComment : List Char → List Char → List Char × List Char
  | out, [] => (out, [])
  | out, '\n' :: rest => ('\n' :: out, rest)
  | out, c :: rest => lineComment (blankFor c :: out) rest

/-- The body of a block comment, through its closing `*/`; the last character of an unclosed
comment is dropped. -/
def blockComment : List Char → List Char → List Char × List Char
  | out, [] => (out, [])
  | out, [_] => (out, [])
  | out, '*' :: '/' :: rest => (' ' :: ' ' :: out, rest)
  | out, c :: rest => blockComment (blankFor c :: out) rest

/-- Plain JSON from JSON with comments; the output is built reversed. The fuel is the length of
the input, which every step shortens. -/
def stripGo : Nat → List Char → List Char → List Char
  | 0, out, _ => out
  | _ + 1, out, [] => out
  | fuel + 1, out, c :: rest =>
    match c, rest with
    | '/', '/' :: more =>
      let (out', rest') := lineComment (' ' :: ' ' :: out) more
      stripGo fuel out' rest'
    | '/', '*' :: more =>
      let (out', rest') := blockComment (' ' :: ' ' :: out) more
      stripGo fuel out' rest'
    | '"', _ =>
      let (out', rest') := copyString ('"' :: out) rest
      stripGo fuel out' rest'
    | '}', _ => stripGo fuel ('}' :: dropTrailingComma out) rest
    | ']', _ => stripGo fuel (']' :: dropTrailingComma out) rest
    | _, _ => stripGo fuel (c :: out) rest

/-- Plain JSON from JSON with comments and trailing commas. -/
def strip (s : String) : String :=
  String.ofList (stripGo (s.length + 1) [] s.toList).reverse

end AclReconcile.Json
