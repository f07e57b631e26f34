import AclReconcile.Sql.Operators

/-!
# Tokens of SQL text

SQL text is cut into tokens: names (plain, or quoted with `"`, `` ` `` or brackets), text in
single quotes (a doubled quote standing for one), byte literals `x'..'`, numbers (decimal with an
optional point and exponent, or hexadecimal after `0x`), parameters, and symbols. Blanks and
comments (`--` to the end of the line, `/* ... */`) separate tokens; each token keeps the text
before it, so that the text of a run of tokens can be given back as it was written.

Text that is no token (an unknown character, a quote that never closes, a number run into a
name) becomes an illegal token: the engine reports it only when a statement reaches it, so the
statements before it still run.
-/

namespace AclReconcile.Sql

/-- The kinds of tokens. -/
inductive TokenKind where
  | word | quoted | text | bytes | number | symbol | parameter | illegal
  deriving DecidableEq, Repr, Inhabited

/-- A token with its kind, its value, the text it was read from and the text before it. -/
structure Token where
  kind : TokenKind
  value : String
  raw : String
  bytes : List UInt8 := []
  gap : String := ""
  deriving Repr, Inhabited

/-- The value of a hexadecimal digit. -/
def hexValue? (c : Char) : Option Nat :=
  if '0' ≤ c && c ≤ '9' then some (c.toNat - 48)
  else if 'a' ≤ c && c ≤ 'f' then some (c.toNat - 87)
  else if 'A' ≤ c && c ≤ 'F' then some (c.toNat - 55)
  else none

/-- Bytes from pairs of hexadecimal digits. -/
def hexBytes? : List Char → Option (List UInt8)
  | [] => some []
  | a :: b :: rest => do
    let x ← hexValue? a
    let y ← hexValue? b
    pure ((x * 16 + y).toUInt8 :: (← hexBytes? rest))
  | [_] => none

/-- Whether a character can start a name. -/
def isNameStart (c : Char) : Bool :=
  ('a' ≤ c && c ≤ 'z') || ('A' ≤ c && c ≤ 'Z') || c == '_' || c.toNat ≥ 0x80

/-- Whether a character can continue a name. -/
def isNamePart (c : Char) : Bool := isNameStart c || isDecimalDigit c || c == '$'

/-- Whether a character is a blank between tokens. -/
def isBlank (c : Char) : Bool :=
  c == ' ' || c == '\t' || c == '\n' || c == '\r' || c == '\x0c'

/-- The text up to a closing delimiter, a doubled delimiter standing for itself (when
`doubling` is set); with the rest after the delimiter, or `none` when it never closes. -/
def closing (delim : Char) (doubling : Bool) : List Char → Option (List Char × List Char)
  | [] => none
  | c :: rest =>
    if c == delim then
      match rest with
      | d :: rest' =>
        if doubling && d == delim then (closing delim doubling rest').map fun (t, r) => (delim :: t, r)
        else some ([], rest)
      | [] => some ([], [])
    else (closing delim doubling rest).map fun (t, r) => (c :: t, r)

/-- The characters of a number at the front of text: digits with an optional point and
exponent, or `0x` and hexadecimal digits; a name run into it makes it illegal. Gives the
characters, whether they are a number, and the rest. -/
def scanNumber (cs : List Char) : List Char × Bool × List Char :=
  match cs with
  | '0' :: x :: h :: rest =>
    if (x == 'x' || x == 'X') && (hexValue? h).isSome then
      let digits := (h :: rest).takeWhile fun c => (hexValue? c).isSome
      let after := (h :: rest).dropWhile fun c => (hexValue? c).isSome
      let tail := after.takeWhile isNamePart
      ('0' :: x :: digits ++ tail, tail.isEmpty, after.dropWhile isNamePart)
    else scanDecimal cs
  | _ => scanDecimal cs
where
  scanDecimal (cs : List Char) : List Char × Bool × List Char :=
    let whole := cs.takeWhile isDecimalDigit
    let rest := cs.dropWhile isDecimalDigit
    let (frac, rest) := match rest with
      | '.' :: r => ('.' :: r.takeWhile isDecimalDigit, r.dropWhile isDecimalDigit)
      | r => ([], r)
    let (expo, rest) := match rest with
      | e :: s :: d :: r =>
        if (e == 'e' || e == 'E') && (s == '+' || s == '-') && isDecimalDigit d then
          (e :: s :: d :: r.takeWhile isDecimalDigit, r.dropWhile isDecimalDigit)
        else if (e == 'e' || e == 'E') && isDecimalDigit s then
          (e :: s :: (d :: r).takeWhile isDecimalDigit, (d :: r).dropWhile isDecimalDigit)
        else ([], rest)
      | [e, d] =>
        if (e == 'e' || e == 'E') && isDecimalDigit d then ([e, d], []) else ([], rest)
      | r => ([], r)
    let tail := rest.takeWhile isNamePart
    (whole ++ frac ++ expo ++ tail, tail.isEmpty, rest.dropWhile isNamePart)

/-- The symbols of two characters. -/
def pairSymbols : List String := ["<=", ">=", "<>", "!=", "==", "||", "<<", ">>", "->"]

/-- The characters that are symbols by themselves. -/
def singleSymbols : List Char :=
  ['(', ')', ';', ',', '+', '-', '*', '/', '%', '=', '<', '>', '&', '|', '~', '.']

/-- The end of a block comment and the text after it. -/
def blockComment : List Char → List Char × List Char
  | '*' :: '/' :: r => (['*', '/'], r)
  | c :: r => let (body, after) := blockComment r; (c :: body, after)
  | [] => ([], [])

/-- One step of cutting text: characters to skip (blanks or a comment), or a token with the
characters it takes; both with the text after them. -/
inductive Scan where
  | skip (taken after : List Char)
  | token (kind : TokenKind) (value : String) (taken : List Char) (bytes : List UInt8)
      (after : List Char)

/-- The step of cutting text that starts with a character. -/
def scanOne (c : Char) (rest : List Char) : Scan :=
  if isBlank c then .skip [c] rest
  else if c == '-' && rest.head? == some '-' then
    let body := rest.takeWhile (· != '\n')
    .skip (c :: body) (rest.drop body.length)
  else if c == '/' && rest.head? == some '*' then
    let (body, after) := blockComment (rest.drop 1)
    .skip (c :: '*' :: body) after
  else if c == '\'' then
    match closing '\'' true rest with
    | some (t, r) => .token .text (String.ofList t) (c :: rest.take (rest.length - r.length)) [] r
    | none => .token .illegal "" (c :: rest) [] []
  else if c == '"' || c == '`' || c == '[' then
    let delim := if c == '[' then ']' else c
    match closing delim (c != '[') rest with
    | some (t, r) => .token .quoted (String.ofList t) (c :: rest.take (rest.length - r.length)) [] r
    | none => .token .illegal "" (c :: rest) [] []
  else if (c == 'x' || c == 'X') && rest.head? == some '\'' then
    let digits := (rest.drop 1).takeWhile fun ch => (hexValue? ch).isSome
    let after := rest.drop (1 + digits.length)
    match after with
    | '\'' :: r =>
      match hexBytes? digits with
      | some bs => .token .bytes "" (c :: '\'' :: digits ++ ['\'']) bs r
      | none => .token .illegal "" (c :: '\'' :: digits ++ ['\'']) [] r
    | _ =>
      let bad := after.takeWhile (· != '\'')
      let r := after.drop bad.length
      .token .illegal "" (c :: '\'' :: digits ++ bad ++ r.take 1) [] (r.drop 1)
  else if isNameStart c then
    let t := c :: rest.takeWhile isNamePart
    .token .word (String.ofList t) t [] (rest.dropWhile isNamePart)
  else if isDecimalDigit c || (c == '.' && (rest.head?.map isDecimalDigit).getD false) then
    let (taken, ok, after) := scanNumber (c :: rest)
    .token (if ok then .number else .illegal) (String.ofList taken) taken [] after
  else if c == '?' then
    let ds := rest.takeWhile isDecimalDigit
    .token .parameter "" (c :: ds) [] (rest.drop ds.length)
  else if (c == ':' || c == '@' || c == '$') && (rest.head?.map isNamePart).getD false then
    let n := rest.takeWhile isNamePart
    .token .parameter "" (c :: n) [] (rest.drop n.length)
  else
    let two := String.ofList [c, rest.headD ' ']
    if pairSymbols.contains two then .token .symbol two [c, rest.headD ' '] [] (rest.drop 1)
    else if singleSymbols.contains c then .token .symbol (String.singleton c) [c] [] rest
    else .token .illegal "" [c] [] rest

/-- Cuts text into tokens, `gap` holding the text skipped since the last token; `fuel` bounds
the number of steps, each of which takes at least one character. -/
def tokenize : Nat → List Char → List Char → List Token
  | 0, _, _ => []
  | _ + 1, [], _ => []
  | fuel + 1, c :: rest, gap =>
    match scanOne c rest with
    | .skip taken after => tokenize fuel after (gap ++ taken)
    | .token kind value taken bytes after =>
      { kind, value, raw := String.ofList taken, bytes, gap := String.ofList gap } ::
        tokenize fuel after []

/-- The tokens of a text. -/
def tokens (text : String) : List Token := tokenize (text.length + 1) text.toList []

/-- Whether a token is a given keyword. -/
def Token.isWord (t : Token) (k : String) : Bool := t.kind == .word && sameName t.value k

/-- Whether a token is a given symbol. -/
def Token.isSymbol (t : Token) (s : String) : Bool := t.kind == .symbol && t.value == s

/-- The text a run of tokens was written as, from the first token's own text. -/
def spanText : List Token → String
  | [] => ""
  | t :: rest => t.raw ++ String.join (rest.map fun u => u.gap ++ u.raw)

end AclReconcile.Sql
