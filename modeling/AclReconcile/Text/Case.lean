/-!
# Letter case for comparisons with keywords

Names of object types, configuration formats and log levels are recognised regardless of
case: the text is mapped to one case and compared with a fixed ASCII keyword. Only characters
whose simple case mapping lands in ASCII can make such a comparison succeed, so the maps here
are exact on those characters and leave every other character as it is: the ASCII letters,
the Kelvin sign and the dotted capital I (lower case `k` and `i`), and the dotless small i and
the long s (upper case `I` and `S`).
-/

namespace AclReconcile.Text

/-- The lower case of a character, exact wherever the result is ASCII. -/
def lowerChar (c : Char) : Char :=
  if 'A' ≤ c && c ≤ 'Z' then Char.ofNat (c.toNat + 32)
  else if c.toNat == 0x212A then 'k'
  else if c.toNat == 0x130 then 'i'
  else c

/-- The upper case of a character, exact wherever the result is ASCII. -/
def upperChar (c : Char) : Char :=
  if 'a' ≤ c && c ≤ 'z' then Char.ofNat (c.toNat - 32)
  else if c.toNat == 0x131 then 'I'
  else if c.toNat == 0x17F then 'S'
  else c

/-- The text in lower case. -/
def lower (s : String) : String := String.ofList (s.toList.map lowerChar)

/-- The text in upper case. -/
def upper (s : String) : String := String.ofList (s.toList.map upperChar)

/-- Two characters are the same letter up to case: they agree after mapping both to lower
case and, for the long s, to upper case as well. -/
def sameLetter (a b : Char) : Bool :=
  a == b || lowerChar a == lowerChar b || upperChar a == upperChar b ||
    lowerChar (upperChar a) == lowerChar (upperChar b)

/-- Two texts are equal up to case, letter by letter. -/
def equalFold (a b : String) : Bool :=
  a.length == b.length && (a.toList.zip b.toList).all fun (x, y) => sameLetter x y

example : lower "MASK" = "mask" := by decide
example : upper " ınfo" = " INFO" := by decide

end AclReconcile.Text
