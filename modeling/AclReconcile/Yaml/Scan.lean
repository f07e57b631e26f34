import AclReconcile.Yaml.Node
import AclReconcile.Text.Utf8

/-!
# Scanning YAML text into tokens

The scanner cuts YAML text into tokens: the indicators of collections and entries, keys and
values, anchors, aliases and tags, scalars, directives and document markers. Block structure is
given by indentation: when a line starts further right than the current block, a new block
begins (`BLOCK-SEQUENCE-START` or `BLOCK-MAPPING-START`), and when it starts further left the
blocks it leaves end (`BLOCK-END`).

A key written without `?` (a simple key) is only known to be a key once the `:` after it is
seen; the scanner remembers where such a key could start and puts the `KEY` token (and the start
of its mapping) in front of it when the `:` comes. A simple key must stay on one line and within
1024 characters; one that starts a line at the indentation of its block must be a key, and is an
error ("could not find expected ':'") when no `:` follows.

The scanner hands tokens to the parser one at a time but keeps two more scanned ahead, and more
while the next token could still turn out to be a key; so a problem in the text a little after a
token is reported before the parser looks at that token.

The text is read as characters; the line breaks are line feed, carriage return (with a line feed
after it, one break), next line (`U+0085`) and the line and paragraph separators. Positions count
characters, lines and columns from 0.
-/

namespace AclReconcile.Yaml

/-- A position in the text. -/
structure Mark where
  index : Nat := 0
  line : Nat := 0
  column : Nat := 0
  deriving Inhabited, Repr

/-- The kinds of token. -/
inductive TokenKind where
  | streamStart | streamEnd
  | versionDirective (major minor : Nat)
  | tagDirective (handle uri : String)
  | documentStart | documentEnd
  | blockSequenceStart | blockMappingStart | blockEnd
  | flowSequenceStart | flowSequenceEnd | flowMappingStart | flowMappingEnd
  | blockEntry | flowEntry | key | value
  | alias (name : String)
  | anchor (name : String)
  | tag (handle suffix : String)
  | scalar (text : String) (style : Style)
  deriving Inhabited, Repr

/-- A token with where it starts and ends. -/
structure Token where
  kind : TokenKind
  start : Mark
  stop : Mark
  deriving Inhabited, Repr

/-- A failure to read YAML text: whether the scanner found it (its lines are reported one
further on), the position of its context and of the problem, and the problem. -/
structure Problem where
  fromScanner : Bool := false
  context : Mark := {}
  place : Mark := {}
  problem : String
  deriving Inhabited, Repr

/-- The report of a failure: the problem, after the line of its context or, when that is the
first line, of the problem itself; none for the first line. -/
def Problem.message (p : Problem) : String :=
  let bump := if p.fromScanner then 1 else 0
  let line :=
    if p.context.line != 0 then p.context.line + bump
    else if p.place.line != 0 then p.place.line + bump
    else 0
  "yaml: " ++ (if line != 0 then "line " ++ toString line ++ ": " else "") ++ p.problem

/-- A place where a simple key could start. -/
structure SimpleKey where
  possible : Bool := false
  required : Bool := false
  tokenNumber : Nat := 0
  mark : Mark := {}
  deriving Inhabited, Repr

/-- The state of the scanner. -/
structure Scanner where
  text : Array Char
  mark : Mark := {}
  /-- Every token scanned so far, in order; the first `parsed` have been handed on. -/
  tokens : Array Token := #[]
  parsed : Nat := 0
  started : Bool := false
  indent : Int := -1
  /-- The indentations of the enclosing blocks, the nearest first. -/
  indents : List Int := []
  keyAllowed : Bool := false
  /-- The possible simple key of each flow level, the outermost first. -/
  keys : Array SimpleKey := #[]
  /-- The simple keys by the number of their token: the level in `keys` they were saved at. -/
  keysByToken : List (Nat × Nat) := []
  flowLevel : Nat := 0
  /-- The line breaks passed since the last character that is not a blank. -/
  newlines : Nat := 0
  deriving Inhabited

/-- The deepest nesting of flow collections and of blocks. -/
def maxDepth : Nat := 10000

namespace Scanner

/-! ## Characters -/

/-- The character `k` places ahead; the end of the text reads as NUL. -/
def peek (s : Scanner) (k : Nat := 0) : Char := s.text.getD (s.mark.index + k) '\x00'

/-- Whether a character breaks lines. -/
def isBreak (c : Char) : Bool :=
  c == '\r' || c == '\n' || c == '\x85' || c == ' ' || c == ' '

/-- Whether a character is a blank. -/
def isBlank (c : Char) : Bool := c == ' ' || c == '\t'

/-- Whether a character is a blank, a break or the end. -/
def isBlankZ (c : Char) : Bool := isBlank c || isBreak c || c == '\x00'

/-- Whether a character is a break or the end. -/
def isBreakZ (c : Char) : Bool := isBreak c || c == '\x00'

/-- Whether a character may be part of a name: ASCII letters and digits, `_` and `-`. -/
def isAlpha (c : Char) : Bool :=
  ('0' ≤ c && c ≤ '9') || ('a' ≤ c && c ≤ 'z') || ('A' ≤ c && c ≤ 'Z') || c == '_' || c == '-'

/-- Whether a character is a hexadecimal digit. -/
def isHex (c : Char) : Bool :=
  ('0' ≤ c && c ≤ '9') || ('a' ≤ c && c ≤ 'f') || ('A' ≤ c && c ≤ 'F')

/-- The value of a hexadecimal digit. -/
def hexValue (c : Char) : Nat :=
  if c ≤ '9' then c.toNat - 48 else if c ≤ 'F' then c.toNat - 55 else c.toNat - 87

/-- Whether the text left is at its end. -/
def atEnd (s : Scanner) : Bool := s.mark.index ≥ s.text.size

/-- Moves past one character. -/
def skip (s : Scanner) : Scanner :=
  { s with mark := { s.mark with index := s.mark.index + 1, column := s.mark.column + 1 },
           newlines := if isBlank s.peek then s.newlines else 0 }

/-- Moves past a line break, a carriage return and line feed together. -/
def skipLine (s : Scanner) : Scanner :=
  if s.peek == '\r' && s.peek 1 == '\n' then
    { s with mark := { index := s.mark.index + 2, line := s.mark.line + 1, column := 0 },
             newlines := s.newlines + 1 }
  else if isBreak s.peek then
    { s with mark := { index := s.mark.index + 1, line := s.mark.line + 1, column := 0 },
             newlines := s.newlines + 1 }
  else s

/-- Moves past one character, adding it to `acc`. -/
def read (s : Scanner) (acc : Array Char) : Scanner × Array Char := (s.skip, acc.push s.peek)

/-- Moves past a line break, adding it to `acc`: a line feed for carriage returns, line feeds
and next-line characters, the character itself for the line and paragraph separators. -/
def readLine (s : Scanner) (acc : Array Char) : Scanner × Array Char :=
  let c := s.peek
  if c == '\r' || c == '\n' || c == '\x85' then (s.skipLine, acc.push '\n')
  else if c == ' ' || c == ' ' then (s.skipLine, acc.push c)
  else (s, acc)

/-- A failure of the scanner with its context. -/
def fail {α : Type} (s : Scanner) (context : Mark) (problem : String) : Except Problem α :=
  .error { fromScanner := true, context, place := s.mark, problem }

/-- The number of characters left, which bounds every loop over the text. -/
def left (s : Scanner) : Nat := s.text.size - s.mark.index + 2

/-- Moves past characters while they satisfy `p`. -/
def skipWhile (p : Char → Bool) (s : Scanner) : Scanner :=
  let rec go : Nat → Scanner → Scanner
    | 0, s => s
    | fuel + 1, s => if p s.peek && !s.atEnd then go fuel s.skip else s
  go s.left s

/-- Reads characters while they satisfy `p`. -/
def readWhile (p : Char → Bool) (s : Scanner) (acc : Array Char) : Scanner × Array Char :=
  let rec go : Nat → Scanner → Array Char → Scanner × Array Char
    | 0, s, acc => (s, acc)
    | fuel + 1, s, acc =>
      if p s.peek && !s.atEnd then let (s, acc) := s.read acc; go fuel s acc else (s, acc)
  go s.left s acc

/-! ## The token queue and simple keys -/

/-- The number the next token appended will have. -/
def nextNumber (s : Scanner) : Nat := s.tokens.size

/-- Appends a token. -/
def push (s : Scanner) (kind : TokenKind) (start stop : Mark) : Scanner :=
  { s with tokens := s.tokens.push { kind, start, stop } }

/-- Puts a token in front of the token numbered `n`. -/
def insertAt (s : Scanner) (n : Nat) (kind : TokenKind) (m : Mark) : Scanner :=
  { s with tokens := s.tokens.insertIdxIfInBounds n { kind, start := m, stop := m } }

/-- The simple key of the current flow level. -/
def topKey (s : Scanner) : SimpleKey := s.keys.getD (s.keys.size - 1) {}

/-- Replaces the simple key of the current flow level. -/
def setTopKey (s : Scanner) (k : SimpleKey) : Scanner :=
  { s with keys := s.keys.setIfInBounds (s.keys.size - 1) k }

/-- Forgets the entry of a token in the simple keys by token. -/
def forgetToken (s : Scanner) (n : Nat) : Scanner :=
  { s with keysByToken := s.keysByToken.filter (·.1 != n) }

/-- Removes the possible simple key of the current flow level; a required one is an error. -/
def removeKey (s : Scanner) : Except Problem Scanner :=
  let k := s.topKey
  if k.possible then
    if k.required then s.fail k.mark "could not find expected ':'"
    else .ok ((s.setTopKey { k with possible := false }).forgetToken k.tokenNumber)
  else .ok s

/-- Saves the current position as a possible simple key when one may start here; it is required
when it starts a line of a block at the block's indentation. -/
def saveKey (s : Scanner) : Except Problem Scanner := do
  let required := s.flowLevel == 0 && s.indent == (s.mark.column : Int)
  if s.keyAllowed then
    let k : SimpleKey :=
      { possible := true, required, tokenNumber := s.nextNumber, mark := s.mark }
    let s ← s.removeKey
    let s := s.setTopKey k
    pure { s with keysByToken := (k.tokenNumber, s.keys.size - 1) :: s.keysByToken }
  else pure s

/-- Whether the simple key saved at a level can still be a key: it must be on the current line
and within 1024 characters; one that can no longer be is dropped, an error when it is
required. -/
def keyStillValid (s : Scanner) (level : Nat) : Except Problem (Bool × Scanner) :=
  let k := s.keys.getD level {}
  if !k.possible then .ok (false, s)
  else if k.mark.line < s.mark.line || k.mark.index + 1024 < s.mark.index then
    if k.required then s.fail k.mark "could not find expected ':'"
    else .ok (false, { s with keys := s.keys.setIfInBounds level { k with possible := false } })
  else .ok (true, s)

/-- Enters a flow collection. -/
def increaseFlowLevel (s : Scanner) : Except Problem Scanner :=
  let s := { s with keys := s.keys.push { mark := s.mark }, flowLevel := s.flowLevel + 1 }
  if s.flowLevel > maxDepth then
    s.fail s.topKey.mark ("exceeded max depth of " ++ toString maxDepth)
  else .ok s

/-- Leaves a flow collection. -/
def decreaseFlowLevel (s : Scanner) : Scanner :=
  if s.flowLevel > 0 then
    let s := s.forgetToken s.topKey.tokenNumber
    { s with flowLevel := s.flowLevel - 1, keys := s.keys.pop }
  else s

/-- Opens a block at a column when it is further right than the current one, putting its start
token at token number `number` (at the end when none). -/
def rollIndent (s : Scanner) (column : Nat) (number : Option Nat) (kind : TokenKind)
    (m : Mark) : Except Problem Scanner :=
  if s.flowLevel > 0 then .ok s
  else if s.indent < (column : Int) then
    let s := { s with indents := s.indent :: s.indents, indent := column }
    if s.indents.length > maxDepth then
      s.fail s.topKey.mark ("exceeded max depth of " ++ toString maxDepth)
    else
      match number with
      | some n => .ok (s.insertAt n kind m)
      | none => .ok (s.push kind m m)
  else .ok s

/-- Ends the blocks indented further than a column. -/
def unrollIndent (s : Scanner) (column : Int) (m : Mark) : Scanner :=
  if s.flowLevel > 0 then s
  else
    let rec go : List Int → Scanner → Scanner
      | [], s => s
      | outer :: rest, s =>
        if s.indent > column then
          go rest { (s.push .blockEnd m m) with indent := outer, indents := rest }
        else s
    go s.indents s

/-! ## Whitespace and comments -/

/-- Whether the next characters are a document marker `---` or `...` at the start of a line,
followed by a blank or the end. -/
def atDocumentMarker (s : Scanner) : Bool :=
  s.mark.column == 0 &&
    ((s.peek == '-' && s.peek 1 == '-' && s.peek 2 == '-') ||
      (s.peek == '.' && s.peek 1 == '.' && s.peek 2 == '.')) &&
    isBlankZ (s.peek 3)

/-- Passes over a comment to the end of its line, and over the comment lines that follow it
with only blanks and breaks between (looking at most 512 characters ahead for the next `#`). -/
def skipComments (s : Scanner) : Scanner :=
  let rec afterComment : Nat → Scanner → Scanner
    | 0, s => s
    | fuel + 1, s =>
      let s := skipWhile (fun c => !isBreakZ c) s
      -- look for another comment with only blanks and breaks before it
      let rec ahead : Nat → Nat → Option Nat
        | 0, _ => none
        | n + 1, k =>
          if k ≥ 512 then none
          else
            let c := s.peek k
            if c == '#' then some k
            else if isBlank c || isBreak c then ahead n (k + 1)
            else none
      match ahead 513 0 with
      | some k =>
        -- move to the `#`, counting the breaks passed
        let rec moveTo : Nat → Scanner → Scanner
          | 0, s => s
          | n + 1, s =>
            if s.peek == '#' then s
            else if isBreak s.peek then moveTo n s.skipLine
            else moveTo n s.skip
        afterComment fuel (moveTo (k + 1) s)
      | none => s
  afterComment s.left s

/-- Passes over blanks, comments and line breaks up to the next token. Tabs are passed over in
flow collections and where no simple key may start; at the start of a block line a tab is left
for the token reader, which refuses it. A break in a block makes a simple key possible again. -/
def toNextToken (s : Scanner) : Scanner :=
  let rec go : Nat → Scanner → Scanner
    | 0, s => s
    | fuel + 1, s =>
      let s := if s.mark.column == 0 && s.peek == '﻿' then s.skip else s
      let s := skipWhile
        (fun c => c == ' ' || ((s.flowLevel > 0 || !s.keyAllowed) && c == '\t')) s
      let s := if s.peek == '#' then skipComments s else s
      if isBreak s.peek then
        let s := s.skipLine
        go fuel (if s.flowLevel == 0 then { s with keyAllowed := true } else s)
      else s
  go s.left s

/-! ## Scalars -/

/-- Reads the hexadecimal digits of an escape and gives the character they stand for. -/
def escapeCode (s : Scanner) (start : Mark) (length : Nat) : Except Problem (Char × Scanner) := do
  let digits := (List.range length).map fun k => s.peek k
  if !digits.all isHex then
    s.fail start "did not find expected hexdecimal number"
  else
    let value := digits.foldl (fun n c => n * 16 + hexValue c) 0
    if (0xD800 ≤ value && value ≤ 0xDFFF) || value > 0x10FFFF then
      s.fail start "found invalid Unicode character escape code"
    else
      pure (Char.ofNat value, (List.range length).foldl (fun s _ => s.skip) s)

/-- The character a one-letter escape stands for, and the length of the code an escape that
takes one has. -/
def simpleEscape (c : Char) : Option (Option Char × Nat) :=
  match c with
  | '0' => some (some '\x00', 0)
  | 'a' => some (some '\x07', 0)
  | 'b' => some (some '\x08', 0)
  | 't' | '\t' => some (some '\t', 0)
  | 'n' => some (some '\n', 0)
  | 'v' => some (some '\x0b', 0)
  | 'f' => some (some '\x0c', 0)
  | 'r' => some (some '\r', 0)
  | 'e' => some (some '\x1b', 0)
  | ' ' => some (some ' ', 0)
  | '"' => some (some '"', 0)
  | '\'' => some (some '\'', 0)
  | '\\' => some (some '\\', 0)
  | '/' => some (some '/', 0)
  | 'N' => some (some '\x85', 0)
  | '_' => some (some '\xa0', 0)
  | 'L' => some (some ' ', 0)
  | 'P' => some (some ' ', 0)
  | 'x' => some (none, 2)
  | 'u' => some (none, 4)
  | 'U' => some (none, 8)
  | _ => none

/-- The characters of a quoted scalar up to a blank, a break or its closing quote; gives
whether an escaped line break ended them. -/
def quotedRun (single : Bool) (start : Mark) :
    Nat → Scanner → Array Char → Except Problem (Scanner × Array Char × Bool)
  | 0, s, acc => .ok (s, acc, false)
  | fuel + 1, s, acc =>
    let c := s.peek
    if isBlankZ c then .ok (s, acc, false)
    else if single && c == '\'' && s.peek 1 == '\'' then
      quotedRun single start fuel s.skip.skip (acc.push '\'')
    else if single && c == '\'' then .ok (s, acc, false)
    else if !single && c == '"' then .ok (s, acc, false)
    else if !single && c == '\\' && isBreak (s.peek 1) then
      .ok (s.skip.skipLine, acc, true)
    else if !single && c == '\\' then
      match simpleEscape (s.peek 1) with
      | none => s.fail start "found unknown escape character"
      | some (some ch, _) => quotedRun single start fuel s.skip.skip (acc.push ch)
      | some (none, length) =>
        match escapeCode s.skip.skip start length with
        | .error e => .error e
        | .ok (ch, s) => quotedRun single start fuel s (acc.push ch)
    else
      let (s, acc) := s.read acc
      quotedRun single start fuel s acc

/-- Reads blanks and breaks inside a flow or plain scalar: the blanks of the first line kept
in `spaces` until a break, then the first break and the further breaks. -/
structure Folding where
  spaces : Array Char := #[]
  leadingBreak : Array Char := #[]
  trailingBreaks : Array Char := #[]
  leadingBlanks : Bool := false

/-- Joins what a fold read onto the text: a single line feed becomes a blank, further breaks
stay; blanks without a break stay as they are. -/
def Folding.join (f : Folding) (acc : Array Char) : Array Char :=
  if f.leadingBlanks then
    if f.leadingBreak.toList.head? == some '\n' then
      if f.trailingBreaks.isEmpty then acc.push ' ' else acc ++ f.trailingBreaks
    else acc ++ f.leadingBreak ++ f.trailingBreaks
  else acc ++ f.spaces

/-- Reads blanks and breaks into a fold. -/
def foldBlanks : Nat → Scanner → Folding → Scanner × Folding
  | 0, s, f => (s, f)
  | fuel + 1, s, f =>
    let c := s.peek
    if isBlank c then
      if !f.leadingBlanks then
        let (s, spaces) := s.read f.spaces
        foldBlanks fuel s { f with spaces }
      else foldBlanks fuel s.skip f
    else if isBreak c then
      if !f.leadingBlanks then
        let (s, leadingBreak) := s.readLine f.leadingBreak
        foldBlanks fuel s { f with spaces := #[], leadingBreak, leadingBlanks := true }
      else
        let (s, trailingBreaks) := s.readLine f.trailingBreaks
        foldBlanks fuel s { f with trailingBreaks }
    else (s, f)

/-- Reads a single- or double-quoted scalar after its opening quote. -/
def quotedScalar (single : Bool) (start : Mark) :
    Nat → Scanner → Array Char → Except Problem (Scanner × Array Char)
  | 0, s, acc => .ok (s, acc)
  | fuel + 1, s, acc => do
    if s.atDocumentMarker then
      s.fail start "found unexpected document indicator"
    else if s.peek == '\x00' && s.atEnd then
      s.fail start "found unexpected end of stream"
    else
      let (s, acc, escapedBreak) ← quotedRun single start s.left s acc
      if s.peek == (if single then '\'' else '"') then pure (s, acc)
      else
        let (s, f) := foldBlanks s.left s { leadingBlanks := escapedBreak }
        quotedScalar single start fuel s (f.join acc)

/-- Scans a quoted scalar. -/
def scanQuoted (s : Scanner) (single : Bool) : Except Problem (Token × Scanner) := do
  let start := s.mark
  let (s, acc) ← quotedScalar single start s.left s.skip #[]
  let s := s.skip
  pure ({ kind := .scalar (String.ofList acc.toList) (if single then .singleQuoted else .doubleQuoted),
          start, stop := s.mark }, s)

/-- Whether a character ends the characters of a plain scalar here: `:` before a blank, and in
flow collections `,`, `?` and the brackets. -/
def endsPlain (s : Scanner) : Bool :=
  let c := s.peek
  (c == ':' && isBlankZ (s.peek 1)) ||
    (s.flowLevel > 0 && (c == ',' || c == '?' || c == '[' || c == ']' || c == '{' || c == '}'))

/-- Reads the non-blank characters of a plain scalar, joining what was folded before them. -/
def plainRun : Nat → Scanner → Array Char → Folding → Mark → Scanner × Array Char × Folding × Mark
  | 0, s, acc, f, stop => (s, acc, f, stop)
  | fuel + 1, s, acc, f, stop =>
    if isBlankZ s.peek || s.endsPlain then (s, acc, f, stop)
    else
      let acc := if f.leadingBlanks || !f.spaces.isEmpty then f.join acc else acc
      let (s, acc) := s.read acc
      plainRun fuel s acc {} s.mark

/-- Reads blanks and breaks after a line of a plain scalar; a tab in the indentation of a
following line is an error. -/
def plainBlanks (start : Mark) (indent : Int) :
    Nat → Scanner → Folding → Except Problem (Scanner × Folding)
  | 0, s, f => .ok (s, f)
  | fuel + 1, s, f =>
    let c := s.peek
    if isBlank c then
      if f.leadingBlanks && (s.mark.column : Int) < indent && c == '\t' then
        s.fail start "found a tab character that violates indentation"
      else if !f.leadingBlanks then
        let (s, spaces) := s.read f.spaces
        plainBlanks start indent fuel s { f with spaces }
      else plainBlanks start indent fuel s.skip f
    else if isBreak c then
      if !f.leadingBlanks then
        let (s, leadingBreak) := s.readLine f.leadingBreak
        plainBlanks start indent fuel s { f with spaces := #[], leadingBreak, leadingBlanks := true }
      else
        let (s, trailingBreaks) := s.readLine f.trailingBreaks
        plainBlanks start indent fuel s { f with trailingBreaks }
    else .ok (s, f)

/-- Reads the lines of a plain scalar. -/
def plainLines (start : Mark) (indent : Int) :
    Nat → Scanner → Array Char → Folding → Mark → Except Problem (Scanner × Array Char × Folding × Mark)
  | 0, s, acc, f, stop => .ok (s, acc, f, stop)
  | fuel + 1, s, acc, f, stop => do
    if s.atDocumentMarker || s.peek == '#' then pure (s, acc, f, stop)
    else
      let (s, acc, f, stop) := plainRun s.left s acc f stop
      if !(isBlank s.peek || isBreak s.peek) then pure (s, acc, f, stop)
      else
        let (s, f) ← plainBlanks start indent s.left s f
        if s.flowLevel == 0 && (s.mark.column : Int) < indent then pure (s, acc, f, stop)
        else plainLines start indent fuel s acc f stop

/-- Scans a plain scalar; after one that continued onto another line a simple key may start. -/
def scanPlain (s : Scanner) : Except Problem (Token × Scanner) := do
  let start := s.mark
  let (s, acc, f, stop) ← plainLines start (s.indent + 1) s.left s #[] {} start
  let s := if f.leadingBlanks then { s with keyAllowed := true } else s
  pure ({ kind := .scalar (String.ofList acc.toList) .plain, start, stop }, s)

/-- Passes over the spaces of indentation, up to the indentation when it is known. -/
def indentSpaces (indent : Nat) : Nat → Scanner → Scanner
  | 0, s => s
  | fuel + 1, s =>
    if (indent == 0 || s.mark.column < indent) && s.peek == ' ' then indentSpaces indent fuel s.skip
    else s

/-- Reads the indentation and empty lines of a block scalar up to a line with text, keeping
the breaks and the position after the last one. -/
def emptyLines (indent : Nat) (start : Mark) :
    Nat → Scanner → Array Char → Nat → Mark → Except Problem (Scanner × Array Char × Nat × Mark)
  | 0, s, breaks, deepest, stop => .ok (s, breaks, deepest, stop)
  | fuel + 1, s, breaks, deepest, stop =>
    let s := indentSpaces indent s.left s
    let deepest := max deepest s.mark.column
    if (indent == 0 || s.mark.column < indent) && s.peek == '\t' then
      s.fail start "found a tab character where an indentation space is expected"
    else if !isBreak s.peek then .ok (s, breaks, deepest, stop)
    else
      let (s, breaks) := s.readLine breaks
      emptyLines indent start fuel s breaks deepest s.mark

/-- Reads the indentation and empty lines before a line of a block scalar, choosing the
indentation when it is not known yet: the deepest of the empty lines and the first line, at
least one more than the enclosing block and at least 1. -/
def blockBreaks (s : Scanner) (indent : Nat) (breaks : Array Char) (start : Mark) :
    Except Problem (Scanner × Nat × Array Char × Mark) :=
  match emptyLines indent start s.left s breaks 0 s.mark with
  | .error e => .error e
  | .ok (s', breaks, deepest, stop) =>
    let indent :=
      if indent == 0 then max (max deepest ((s.indent + 1).toNat)) 1 else indent
    .ok (s', indent, breaks, stop)

/-- Reads the lines of a block scalar at its indentation. -/
def blockLines (literal : Bool) (start : Mark) :
    Nat → Scanner → Nat → Array Char → Array Char → Array Char → Bool → Mark →
      Except Problem (Scanner × Array Char × Array Char × Array Char × Mark)
  | 0, s, _, acc, lead, trail, _, stop => .ok (s, acc, lead, trail, stop)
  | fuel + 1, s, indent, acc, lead, trail, leadingBlank, stop =>
    if s.mark.column != indent || (s.peek == '\x00' && s.atEnd) then .ok (s, acc, lead, trail, stop)
    else
      let trailingBlank := isBlank s.peek
      let acc :=
        if !literal && !leadingBlank && !trailingBlank && lead.toList.head? == some '\n' then
          if trail.isEmpty then acc.push ' ' else acc
        else acc ++ lead
      let acc := acc ++ trail
      let leadingBlank := isBlank s.peek
      let (s, acc) := readWhile (fun c => !isBreakZ c) s acc
      let (s, lead) := s.readLine #[]
      match blockBreaks s indent #[] start with
      | .error e => .error e
      | .ok (s, indent, trail, stop) =>
        blockLines literal start fuel s indent acc lead trail leadingBlank stop

/-- Scans a literal (`|`) or folded (`>`) block scalar with its indicators of chomping (`+`
keeps the final breaks, `-` drops them) and indentation. -/
def scanBlock (s : Scanner) (literal : Bool) : Except Problem (Token × Scanner) := do
  let start := s.mark
  let s := s.skip
  let chompOf (c : Char) : Int := if c == '+' then 1 else -1
  let (s, chomping, increment) ← (do
    if s.peek == '+' || s.peek == '-' then
      let chomping := chompOf s.peek
      let s := s.skip
      if '0' ≤ s.peek && s.peek ≤ '9' then
        if s.peek == '0' then s.fail start "found an indentation indicator equal to 0"
        else pure (s.skip, chomping, s.peek.toNat - 48)
      else pure (s, chomping, 0)
    else if '0' ≤ s.peek && s.peek ≤ '9' then
      if s.peek == '0' then s.fail start "found an indentation indicator equal to 0"
      else
        let increment := s.peek.toNat - 48
        let s := s.skip
        if s.peek == '+' || s.peek == '-' then pure (s.skip, chompOf s.peek, increment)
        else pure (s, 0, increment)
    else pure (s, (0 : Int), 0) : Except Problem (Scanner × Int × Nat))
  let s := skipWhile isBlank s
  let s := if s.peek == '#' then skipWhile (fun c => !isBreakZ c) s else s
  if !isBreakZ s.peek || (s.peek == '\x00' && !s.atEnd) then
    s.fail start "did not find expected comment or line break"
  else
    let s := if isBreak s.peek then s.skipLine else s
    let indent : Nat :=
      if increment > 0 then (if s.indent ≥ 0 then s.indent.toNat + increment else increment) else 0
    let (s, indent, trail, stop) ← blockBreaks s indent #[] start
    let (s, acc, lead, trail, stop) ← blockLines literal start s.left s indent #[] #[] trail false stop
    let acc := if chomping != -1 then acc ++ lead else acc
    let acc := if chomping == 1 then acc ++ trail else acc
    pure ({ kind := .scalar (String.ofList acc.toList) (if literal then .literal else .folded),
            start, stop }, s)

/-! ## Anchors, tags and directives -/

/-- Scans an anchor `&name` or an alias `*name`. -/
def scanAnchor (s : Scanner) (isAlias : Bool) : Except Problem (Token × Scanner) :=
  let start := s.mark
  let (s, name) := readWhile isAlpha s.skip #[]
  let c := s.peek
  if name.isEmpty || !(isBlankZ c || c == '?' || c == ':' || c == ',' || c == ']' || c == '}' ||
      c == '%' || c == '@' || c == '`') then
    s.fail start "did not find expected alphabetic or numeric character"
  else
    let n := String.ofList name.toList
    .ok ({ kind := if isAlias then .alias n else .anchor n, start, stop := s.mark }, s)

/-- Reads `%xx` escapes of a tag's characters as the bytes of one UTF-8 character. -/
def uriEscapes (s : Scanner) (start : Mark) (acc : Array UInt8) :
    Except Problem (Scanner × Array UInt8) :=
  let rec go : Nat → Nat → Scanner → Array UInt8 → Except Problem (Scanner × Array UInt8)
    | 0, _, s, acc => .ok (s, acc)
    | fuel + 1, w, s, acc =>
      if w == 0 then .ok (s, acc)
      else if !(s.peek == '%' && isHex (s.peek 1) && isHex (s.peek 2)) then
        s.fail start "did not find URI escaped octet"
      else
        let octet := hexValue (s.peek 1) * 16 + hexValue (s.peek 2)
        let width :=
          if octet < 0x80 then 1 else if octet / 32 == 6 then 2 else if octet / 16 == 14 then 3
          else if octet / 8 == 30 then 4 else 0
        if w == 5 && width == 0 then s.fail start "found an incorrect leading UTF-8 octet"
        else if w != 5 && octet / 64 != 2 then s.fail start "found an incorrect trailing UTF-8 octet"
        else
          let w := if w == 5 then width else w
          go fuel (w - 1) s.skip.skip.skip (acc.push octet.toUInt8)
  go 5 5 s acc

/-- Whether a character may be part of a tag's URI (`verbatim` adds `,`, `[` and `]`). -/
def isUriChar (verbatim : Bool) (c : Char) : Bool :=
  isAlpha c || ";/?:@&=+$.%!~*'()".toList.contains c ||
    (verbatim && (c == ',' || c == '[' || c == ']'))

/-- Reads the URI of a tag, after the given head (whose first character is not kept). -/
def scanTagUri (s : Scanner) (verbatim : Bool) (head : List Char) (start : Mark) :
    Except Problem (Scanner × String) :=
  let rec go : Nat → Scanner → Array UInt8 → Bool → Except Problem (Scanner × Array UInt8 × Bool)
    | 0, s, acc, seen => .ok (s, acc, seen)
    | fuel + 1, s, acc, seen =>
      if isUriChar verbatim s.peek then
        if s.peek == '%' then
          match uriEscapes s start acc with
          | .error e => .error e
          | .ok (s, acc) => go fuel s acc true
        else
          go fuel s.skip (acc ++ (String.singleton s.peek).toUTF8.toList.toArray) true
      else .ok (s, acc, seen)
  let headBytes := (String.ofList (head.drop 1)).toUTF8.toList.toArray
  match go s.left s headBytes (!head.isEmpty) with
  | .error e => .error e
  | .ok (s, acc, seen) =>
    if !seen then s.fail start "did not find expected tag URI"
    else .ok (s, Text.decodeLossy acc.toList)

/-- Reads a tag handle `!`, `!!` or `!name!`; in a directive anything else is an error. -/
def scanTagHandle (s : Scanner) (directive : Bool) (start : Mark) :
    Except Problem (Scanner × List Char) :=
  if s.peek != '!' then s.fail start "did not find expected '!'"
  else
    let (s, acc) := s.read #[]
    let (s, acc) := readWhile isAlpha s acc
    if s.peek == '!' then
      let (s, acc) := s.read acc
      .ok (s, acc.toList)
    else if directive && acc.toList != ['!'] then s.fail start "did not find expected '!'"
    else .ok (s, acc.toList)

/-- Scans a tag: verbatim `!<uri>`, or a handle and a suffix, or `!` alone. -/
def scanTag (s : Scanner) : Except Problem (Token × Scanner) := do
  let start := s.mark
  let (s, handle, suffix) ← (do
    if s.peek 1 == '<' then
      let (s, suffix) ← scanTagUri s.skip.skip true [] start
      if s.peek != '>' then s.fail start "did not find the expected '>'"
      else pure (s.skip, "", suffix)
    else
      let (s, handle) ← scanTagHandle s false start
      if handle.head? == some '!' && handle.length > 1 && handle.getLast? == some '!' then
        let (s, suffix) ← scanTagUri s false [] start
        pure (s, String.ofList handle, suffix)
      else
        let (s, suffix) ← scanTagUri s false handle start
        if suffix.isEmpty then pure (s, "", "!") else pure (s, "!", suffix)
    : Except Problem (Scanner × String × String))
  if !isBlankZ s.peek && !(s.flowLevel > 0 && s.peek == ',') then
    s.fail start "did not find expected whitespace or line break"
  else pure ({ kind := .tag handle suffix, start, stop := s.mark }, s)

/-- Reads a number of a `%YAML` directive: one or two digits. -/
def versionNumber (s : Scanner) (start : Mark) : Except Problem (Scanner × Nat) :=
  let digits := (List.range 3).takeWhile fun k => '0' ≤ s.peek k && s.peek k ≤ '9'
  if digits.length > 2 then s.fail start "found extremely long version number"
  else if digits.isEmpty then s.fail start "did not find expected version number"
  else
    let value := digits.foldl (fun n k => n * 10 + ((s.peek k).toNat - 48)) 0
    .ok (digits.foldl (fun s _ => s.skip) s, value)

/-- Scans a directive `%YAML major.minor` or `%TAG handle prefix`, and the rest of its line. -/
def scanDirective (s : Scanner) : Except Problem (Token × Scanner) := do
  let start := s.mark
  let (s, name) := readWhile isAlpha s.skip #[]
  if name.isEmpty then s.fail start "could not find expected directive name"
  else if !isBlankZ s.peek then s.fail start "found unexpected non-alphabetical character"
  else
    let (s, kind) ← (do
      match String.ofList name.toList with
      | "YAML" =>
        let s := skipWhile isBlank s
        let (s, major) ← versionNumber s start
        if s.peek != '.' then s.fail start "did not find expected digit or '.' character"
        else
          let (s, minor) ← versionNumber s.skip start
          pure (s, TokenKind.versionDirective major minor)
      | "TAG" =>
        let s := skipWhile isBlank s
        let (s, handle) ← scanTagHandle s true start
        if !isBlank s.peek then s.fail start "did not find expected whitespace"
        else
          let s := skipWhile isBlank s
          let (s, uri) ← scanTagUri s true [] start
          if !isBlankZ s.peek then s.fail start "did not find expected whitespace or line break"
          else pure (s, TokenKind.tagDirective (String.ofList handle) uri)
      | _ => s.fail start "found unknown directive name"
      : Except Problem (Scanner × TokenKind))
    let stop := s.mark
    let s := skipWhile isBlank s
    let s := if s.peek == '#' then skipWhile (fun c => !isBreakZ c) s else s
    if !isBreakZ s.peek then s.fail start "did not find expected comment or line break"
    else
      let s := if isBreak s.peek then s.skipLine else s
      pure ({ kind, start, stop }, s)

/-! ## Fetching tokens -/

/-- Appends the end of the stream, ending every block. -/
def fetchStreamEnd (s : Scanner) : Except Problem Scanner := do
  let s := if s.mark.column != 0 then
      { s with mark := { s.mark with column := 0, line := s.mark.line + 1 } }
    else s
  let s := s.unrollIndent (-1) s.mark
  let s ← s.removeKey
  let s := { s with keyAllowed := false }
  pure (s.push .streamEnd s.mark s.mark)

/-- Appends a token whose scanning is done by `scan` after saving a possible simple key. -/
def fetchKeyable (s : Scanner) (scan : Scanner → Except Problem (Token × Scanner)) :
    Except Problem Scanner := do
  let s ← s.saveKey
  let s := { s with keyAllowed := false }
  let (t, s) ← scan s
  pure (s.push t.kind t.start t.stop)

/-- Appends a one-character indicator token. -/
def pushIndicator (s : Scanner) (kind : TokenKind) : Scanner :=
  let start := s.mark
  let s := s.skip
  s.push kind start s.mark

/-- Handles `:`: a simple key before it gets its `KEY` token (and its mapping its start); else
it is the value of a complex key, which in a block needs a place where a key may start. -/
def fetchValue (s : Scanner) : Except Problem Scanner := do
  let level := s.keys.size - 1
  let (valid, s) ← s.keyStillValid level
  let s ← if valid then do
      let k := s.topKey
      let s := s.insertAt k.tokenNumber .key k.mark
      let s ← s.rollIndent k.mark.column (some k.tokenNumber) .blockMappingStart k.mark
      let s := (s.setTopKey { k with possible := false }).forgetToken k.tokenNumber
      pure { s with keyAllowed := false }
    else do
      let s ← if s.flowLevel == 0 then do
          if !s.keyAllowed then s.fail s.mark "mapping values are not allowed in this context"
          else s.rollIndent s.mark.column none .blockMappingStart s.mark
        else pure s
      pure { s with keyAllowed := s.flowLevel == 0 }
  pure (s.pushIndicator .value)

/-- Passes over a comment that follows a token on its line, after blanks (at most 512). -/
def skipLineComment (s : Scanner) : Scanner :=
  if s.newlines > 0 then s
  else
    let blanks := ((List.range 512).takeWhile fun k => isBlank (s.peek k)).length
    if blanks < 512 && s.peek blanks == '#' then skipWhile (fun c => !isBreakZ c) s else s

/-- Scans a token that starts with the character `c`: collections, entries, keys and values,
anchors, aliases, tags and scalars. -/
def fetchToken (s : Scanner) (c : Char) : Except Problem Scanner := do
  if c == '[' || c == '{' then
    let s ← s.saveKey
    let s ← s.increaseFlowLevel
    let s := { s with keyAllowed := true }
    return s.pushIndicator (if c == '[' then .flowSequenceStart else .flowMappingStart)
  if c == ']' || c == '}' then
    let s ← s.removeKey
    let s := s.decreaseFlowLevel
    let s := { s with keyAllowed := false }
    return s.pushIndicator (if c == ']' then .flowSequenceEnd else .flowMappingEnd)
  if c == ',' then
    let s ← s.removeKey
    let s := { s with keyAllowed := true }
    return s.pushIndicator .flowEntry
  if c == '-' && isBlankZ (s.peek 1) then
    let s ← if s.flowLevel == 0 then do
        if !s.keyAllowed then s.fail s.mark "block sequence entries are not allowed in this context"
        else s.rollIndent s.mark.column none .blockSequenceStart s.mark
      else pure s
    let s ← s.removeKey
    let s := { s with keyAllowed := true }
    return s.pushIndicator .blockEntry
  if c == '?' && (s.flowLevel > 0 || isBlankZ (s.peek 1)) then
    let s ← if s.flowLevel == 0 then do
        if !s.keyAllowed then s.fail s.mark "mapping keys are not allowed in this context"
        else s.rollIndent s.mark.column none .blockMappingStart s.mark
      else pure s
    let s ← s.removeKey
    let s := { s with keyAllowed := s.flowLevel == 0 }
    return s.pushIndicator .key
  if c == ':' && (s.flowLevel > 0 || isBlankZ (s.peek 1)) then
    return ← s.fetchValue
  if c == '*' then return ← s.fetchKeyable (scanAnchor · true)
  if c == '&' then return ← s.fetchKeyable (scanAnchor · false)
  if c == '!' then return ← s.fetchKeyable scanTag
  if (c == '|' || c == '>') && s.flowLevel == 0 then
    let s ← s.removeKey
    let s := { s with keyAllowed := true }
    let (t, s) ← s.scanBlock (c == '|')
    return s.push t.kind t.start t.stop
  if c == '\'' || c == '"' then return ← s.fetchKeyable (scanQuoted · (c == '\''))
  let indicator := "-?:,[]\x7b\x7d#&*!|>'\"%@`".toList.contains c
  if !(isBlankZ c || indicator) || (c == '-' && !isBlank (s.peek 1)) ||
      (s.flowLevel == 0 && (c == '?' || c == ':') && !isBlankZ (s.peek 1)) then
    return ← s.fetchKeyable scanPlain
  s.fail s.mark "found character that cannot start any token"

/-- Scans the next token and appends it (with any block starts and ends it brings). -/
def fetchNext (s : Scanner) : Except Problem Scanner := do
  if !s.started then
    let s := { s with indent := -1, keys := #[{}], keyAllowed := true, started := true }
    return s.push .streamStart s.mark s.mark
  let scanStart := s.mark
  let s := s.toNextToken
  let s := s.unrollIndent s.mark.column { scanStart with index := scanStart.index - 1 }
  let c := s.peek
  if s.atEnd then return ← s.fetchStreamEnd
  if s.mark.column == 0 && c == '%' then
    let s := s.unrollIndent (-1) s.mark
    let s ← s.removeKey
    let s := { s with keyAllowed := false }
    let (t, s) ← s.scanDirective
    return s.push t.kind t.start t.stop
  if s.mark.column == 0 && isBlankZ (s.peek 3) &&
      ((c == '-' && s.peek 1 == '-' && s.peek 2 == '-') ||
        (c == '.' && s.peek 1 == '.' && s.peek 2 == '.')) then
    let s := s.unrollIndent (-1) s.mark
    let s ← s.removeKey
    let s := { s with keyAllowed := false }
    let start := s.mark
    let s := s.skip.skip.skip
    return s.push (if c == '-' then .documentStart else .documentEnd) start s.mark
  let s ← s.fetchToken c
  match s.tokens.back? with
  | some { kind := .blockEntry, .. } => pure s
  | _ => pure s.skipLineComment

/-- Scans until the parser may take the token at the head: two more tokens are scanned ahead,
and more while the head token could still be a simple key. -/
def fetchMore (s : Scanner) : Except Problem Scanner :=
  let rec go : Nat → Scanner → Except Problem Scanner
    | 0, s => .ok s
    | fuel + 1, s => do
      if s.parsed + 2 < s.tokens.size then
        match s.keysByToken.lookup s.parsed with
        | none => return s
        | some level =>
          let (valid, s) ← s.keyStillValid level
          if !valid then return s
      go fuel (← s.fetchNext)
  go (2 * s.left + 8) s

/-- The token at the head, scanning as needed. -/
def head (s : Scanner) : Except Problem (Token × Scanner) := do
  let s ← s.fetchMore
  pure (s.tokens.getD s.parsed { kind := .streamEnd, start := s.mark, stop := s.mark }, s)

/-- Hands the head token on. -/
def advance (s : Scanner) : Scanner := { s with parsed := s.parsed + 1 }

end Scanner

/-- A scanner of a text, which must not hold characters YAML does not allow: a byte order mark
at its start is passed over. -/
def Scanner.ofText (text : String) : Scanner :=
  let cs := match text.toList with
    | '﻿' :: rest => rest
    | cs => cs
  { text := cs.toArray }

/-- Whether a character may appear in YAML text: tab, line feed, carriage return, the printable
ASCII characters, next line, and the characters from U+00A0 on except surrogates and U+FFFE and
U+FFFF. -/
def allowedChar (c : Char) : Bool :=
  let n := c.toNat
  n == 0x09 || n == 0x0A || n == 0x0D || (0x20 ≤ n && n ≤ 0x7E) || n == 0x85 ||
    (0xA0 ≤ n && n ≤ 0xD7FF) || (0xE000 ≤ n && n ≤ 0xFFFD) || (0x10000 ≤ n && n ≤ 0x10FFFF)

end AclReconcile.Yaml
