import AclReconcile.Text.Blank
import AclReconcile.Text.Printable

/-!
# Quoted text

Error messages show a name or a character in double quotes with escapes, so that blanks and
control characters stay visible. A character is shown as itself when it is printable: a letter,
mark, number, punctuation or symbol, or the ASCII space. A quote and a backslash get a
backslash; the seven C escapes stand for their control characters; any other control character
becomes `\xHH`, and any other unprintable character `\uHHHH` (or `\UHHHHHHHH` beyond the basic
plane), with lower-case hex digits.
-/

namespace AclReconcile.Text

/-- A lower-case hexadecimal digit. -/
def hexDigit (n : Nat) : Char :=
  if n < 10 then Char.ofNat (48 + n) else Char.ofNat (87 + n)

/-- `n` in lower-case hexadecimal, padded with zeros to `width` digits. -/
def hexPadded (width n : Nat) : String :=
  String.ofList ((List.range width).reverse.map fun i => hexDigit (n / Nat.pow 16 i % 16))

/-- The escaped form of one character inside quotes delimited by `delim`; with `asciiOnly` every
character beyond ASCII is escaped too. -/
def escapeChar (delim : Char) (c : Char) (asciiOnly : Bool := false) : String :=
  if c == delim || c == '\\' then String.ofList ['\\', c]
  else if isPrintable c && (!asciiOnly || c.toNat < 0x80) then String.singleton c
  else match c.toNat with
    | 7 => "\\a" | 8 => "\\b" | 12 => "\\f" | 10 => "\\n" | 13 => "\\r" | 9 => "\\t"
    | 11 => "\\v"
    | n =>
      if n < 0x20 || n == 0x7F then "\\x" ++ hexPadded 2 n
      else if n < 0x10000 then "\\u" ++ hexPadded 4 n
      else "\\U" ++ hexPadded 8 n

/-- The text in double quotes, escaped. -/
def quote (s : String) : String :=
  "\"" ++ String.join (s.toList.map (escapeChar '"')) ++ "\""

/-- The text in double quotes, escaped, with only ASCII characters. -/
def quoteAscii (s : String) : String :=
  "\"" ++ String.join (s.toList.map (escapeChar '"' · true)) ++ "\""

/-- A character in single quotes, escaped; with `asciiOnly` in ASCII characters only. -/
def quoteChar (c : Char) (asciiOnly : Bool := false) : String :=
  "'" ++ escapeChar '\'' c asciiOnly ++ "'"

example : quote "a\tb\"" = "\"a\\tb\\\"\"" := by decide

end AclReconcile.Text
