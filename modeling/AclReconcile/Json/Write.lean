import AclReconcile.Json.Value
import AclReconcile.Text.Quote

/-!
# Writing JSON text

Values are written compactly: no blank between tokens, members in the order they are held.
A string escapes the quote and the backslash, writes backspace, form feed, line feed, carriage
return and tab with their short escapes and every other control character as `\u00XX`. The
characters `<`, `>` and `&` and the line and paragraph separators U+2028 and U+2029 are
written as `\u` escapes too, so that the text can be embedded in markup and in script source
unchanged.
-/

namespace AclReconcile.Json

/-- The escaped form of one character inside a JSON string. -/
def escape (c : Char) : String :=
  match c with
  | '"' => "\\\""
  | '\\' => "\\\\"
  | '\n' => "\\n"
  | '\r' => "\\r"
  | '\t' => "\\t"
  | '\x08' => "\\b"
  | '\x0c' => "\\f"
  | '<' => "\\u003c"
  | '>' => "\\u003e"
  | '&' => "\\u0026"
  | _ =>
    if c.toNat < 0x20 || c.toNat == 0x2028 || c.toNat == 0x2029 then
      "\\u" ++ Text.hexPadded 4 c.toNat
    else String.singleton c

/-- A JSON string literal. -/
def quoteString (s : String) : String :=
  "\"" ++ String.join (s.toList.map escape) ++ "\""

mutual
/-- The compact text of a value. -/
def render : Json → String
  | .null => "null"
  | .bool b => if b then "true" else "false"
  | .number lit => lit
  | .string s => quoteString s
  | .array items => "[" ++ renderItems items ++ "]"
  | .object members => "\x7b" ++ renderMembers members ++ "\x7d"

/-- Elements separated by commas. -/
def renderItems : List Json → String
  | [] => ""
  | [j] => render j
  | j :: rest => render j ++ "," ++ renderItems rest

/-- Members separated by commas, each as a key, a colon and the value. -/
def renderMembers : List (String × Json × String) → String
  | [] => ""
  | [(k, v, _)] => quoteString k ++ ":" ++ render v
  | (k, v, _) :: rest => quoteString k ++ ":" ++ render v ++ "," ++ renderMembers rest
end

end AclReconcile.Json
