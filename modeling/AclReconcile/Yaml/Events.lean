import AclReconcile.Yaml.Scan

/-!
# Reading tokens into events

The parser turns the scanner's tokens into events: the start and end of the stream and of a
document, scalars, aliases, and the start and end of sequences and mappings, each node with its
anchor and its tag. It is a state machine: `Parser.next` gives one event and the state to go on
from, and a stack of states says where to return once a node is done.

A node may be left out where the grammar allows it (a key without a value, an entry `-` with
nothing after it): it reads as an empty plain scalar. A tag is written as a handle and a suffix;
the handle `!!` stands for the standard prefix, `!` for itself, and others must be declared by a
`%TAG` directive of the document.

A failure names what was expected and where: the context mark is the start of the collection or
node being read, the problem mark the token found instead.
-/

namespace AclReconcile.Yaml

/-- The kinds of event. -/
inductive EventKind where
  | streamStart | streamEnd
  | documentStart | documentEnd
  | alias (name : String)
  | scalar (anchor tag value : String) (style : Style)
  | sequenceStart (anchor tag : String)
  | sequenceEnd
  | mappingStart (anchor tag : String)
  | mappingEnd
  deriving Inhabited, Repr

/-- An event and where it starts. -/
structure Event where
  kind : EventKind
  start : Mark
  deriving Inhabited, Repr

/-- What the parser reads next. -/
inductive ParseState where
  | streamStart | implicitDocumentStart | documentStart | documentContent | documentEnd
  | blockNode | blockNodeOrIndentlessSequence | flowNode
  | blockSequenceFirstEntry | blockSequenceEntry | indentlessSequenceEntry
  | blockMappingFirstKey | blockMappingKey | blockMappingValue
  | flowSequenceFirstEntry | flowSequenceEntry
  | flowSequenceEntryMappingKey | flowSequenceEntryMappingValue | flowSequenceEntryMappingEnd
  | flowMappingFirstKey | flowMappingKey | flowMappingValue | flowMappingEmptyValue
  | finished
  deriving Inhabited, Repr, DecidableEq

/-- The state of the parser. -/
structure Parser where
  scanner : Scanner
  state : ParseState := .streamStart
  /-- The states to return to, the nearest first. -/
  states : List ParseState := []
  /-- The starts of the collections being read, the nearest first. -/
  marks : List Mark := []
  /-- The tag handles of the document and their prefixes. -/
  handles : List (String × String) := []
  deriving Inhabited

/-- The kinds of token without what they hold, for telling them apart. -/
inductive TokenClass where
  | streamStart | streamEnd | versionDirective | tagDirective | documentStart | documentEnd
  | blockSequenceStart | blockMappingStart | blockEnd | flowSequenceStart | flowSequenceEnd
  | flowMappingStart | flowMappingEnd | blockEntry | flowEntry | key | value | alias | anchor
  | tag | scalar
  deriving DecidableEq, Repr

/-- The kind of a token without what it holds. -/
def TokenKind.cls : TokenKind → TokenClass
  | .streamStart => .streamStart
  | .streamEnd => .streamEnd
  | .versionDirective .. => .versionDirective
  | .tagDirective .. => .tagDirective
  | .documentStart => .documentStart
  | .documentEnd => .documentEnd
  | .blockSequenceStart => .blockSequenceStart
  | .blockMappingStart => .blockMappingStart
  | .blockEnd => .blockEnd
  | .flowSequenceStart => .flowSequenceStart
  | .flowSequenceEnd => .flowSequenceEnd
  | .flowMappingStart => .flowMappingStart
  | .flowMappingEnd => .flowMappingEnd
  | .blockEntry => .blockEntry
  | .flowEntry => .flowEntry
  | .key => .key
  | .value => .value
  | .alias .. => .alias
  | .anchor .. => .anchor
  | .tag .. => .tag
  | .scalar .. => .scalar

/-- Whether a token is of one of the given kinds. -/
def TokenKind.isIn (k : TokenKind) (classes : List TokenClass) : Bool := classes.contains k.cls

/-- The handles every document has. -/
def standardHandles : List (String × String) := [("!", "!"), ("!!", standardTagRoot)]

namespace Parser

/-- The token at the head. -/
def peek (p : Parser) : Except Problem (Token × Parser) := do
  let (t, s) ← p.scanner.head
  pure (t, { p with scanner := s })

/-- Hands the head token on. -/
def skipToken (p : Parser) : Parser := { p with scanner := p.scanner.advance }

/-- Goes back to the state on top of the stack. -/
def popState (p : Parser) : Parser :=
  match p.states with
  | s :: rest => { p with state := s, states := rest }
  | [] => { p with state := .finished }

/-- Saves a state to return to. -/
def pushState (p : Parser) (s : ParseState) : Parser := { p with states := s :: p.states }

/-- Forgets the start of the innermost collection. -/
def popMark (p : Parser) : Parser := { p with marks := p.marks.drop 1 }

/-- The start of the innermost collection. -/
def topMark (p : Parser) : Mark := p.marks.headD {}

/-- A failure at a token, without context. -/
def fail {α : Type} (problem : String) (place : Mark) : Except Problem α :=
  .error { problem, place }

/-- A failure at a token inside the node or collection starting at `context`. -/
def failIn {α : Type} (context : Mark) (problem : String) (place : Mark) : Except Problem α :=
  .error { context, problem, place }

/-- An empty plain scalar, standing for a node left out. -/
def emptyScalar (m : Mark) : Event := { kind := .scalar "" "" "" .plain, start := m }

/-- Reads the directives before a document, declaring their tag handles; then adds the
standard handles that were not declared. -/
def directives (p : Parser) : Except Problem Parser := do
  let rec go : Nat → Parser → Bool → Except Problem Parser
    | 0, p, _ => pure p
    | fuel + 1, p, seenVersion => do
      let (t, p) ← p.peek
      match t.kind with
      | .versionDirective major minor =>
        if seenVersion then fail "found duplicate %YAML directive" t.start
        else if major != 1 || minor != 1 then fail "found incompatible YAML document" t.start
        else go fuel p.skipToken true
      | .tagDirective handle pre =>
        if p.handles.any (·.1 == handle) then fail "found duplicate %TAG directive" t.start
        else go fuel { p.skipToken with handles := p.handles ++ [(handle, pre)] } seenVersion
      | _ =>
        pure { p with handles := p.handles ++
          standardHandles.filter fun (h, _) => !p.handles.any (·.1 == h) }
  go (p.scanner.left + 1) p false

/-- The start of a document: directives and `---`, or the content of the first document
without them, or the end of the stream. -/
def documentStart (p : Parser) (implicit : Bool) : Except Problem (Event × Parser) := do
  let (t, p) ← p.peek
  -- extra document end markers before a later document
  let rec skipEnds : Nat → Parser → Token → Except Problem (Token × Parser)
    | 0, p, t => pure (t, p)
    | fuel + 1, p, t =>
      match t.kind with
      | .documentEnd => do
        let (t, p) ← p.skipToken.peek
        skipEnds fuel p t
      | _ => pure (t, p)
  let (t, p) ← if implicit then pure (t, p) else skipEnds (p.scanner.left + 1) p t
  if implicit && !t.kind.isIn [.versionDirective, .tagDirective, .documentStart, .streamEnd] then
    let p ← p.directives
    pure ({ kind := .documentStart, start := t.start },
      { p with states := .documentEnd :: p.states, state := .blockNode })
  else if !t.kind.isIn [.streamEnd] then
    let start := t.start
    let p ← p.directives
    let (t, p) ← p.peek
    if !t.kind.isIn [.documentStart] then fail "did not find expected <document start>" t.start
    else
      pure ({ kind := .documentStart, start },
        { p.skipToken with states := .documentEnd :: p.states, state := .documentContent })
  else
    pure ({ kind := .streamEnd, start := t.start }, { p.skipToken with state := .finished })

/-- Reads a node: an alias, or an optional anchor and tag before a scalar or the start of a
collection (an indentless sequence where a block mapping's value may be one); an anchor or tag
alone stands before an empty scalar. -/
def node (p : Parser) (block indentless : Bool) : Except Problem (Event × Parser) := do
  let (t, p) ← p.peek
  if let .alias name := t.kind then
    return ({ kind := .alias name, start := t.start }, p.popState.skipToken)
  let start := t.start
  -- an anchor and a tag, in either order
  let (anchor, tagged, tagMark, t, p) ← (do
    match t.kind with
    | .anchor a => do
      let (t2, p) ← p.skipToken.peek
      match t2.kind with
      | .tag h s => do
        let (t3, p) ← p.skipToken.peek
        pure (a, some (h, s), t2.start, t3, p)
      | _ => pure (a, none, t.start, t2, p)
    | .tag h s => do
      let (t2, p) ← p.skipToken.peek
      match t2.kind with
      | .anchor a => do
        let (t3, p) ← p.skipToken.peek
        pure (a, some (h, s), t.start, t3, p)
      | _ => pure ("", some (h, s), t.start, t2, p)
    | _ => pure ("", none, t.start, t, p)
    : Except Problem (String × Option (String × String) × Mark × Token × Parser))
  let tag ← match tagged with
    | none => pure ""
    | some ("", suffix) => pure suffix
    | some (handle, suffix) =>
      match p.handles.find? (·.1 == handle) with
      | some (_, pre) => pure (pre ++ suffix)
      | none => failIn start "found undefined tag handle" tagMark
  if indentless && t.kind.isIn [.blockEntry] then
    return ({ kind := .sequenceStart anchor tag, start },
      { p with state := .indentlessSequenceEntry })
  match t.kind with
  | .scalar value style =>
    pure ({ kind := .scalar anchor tag value style, start }, p.popState.skipToken)
  | .flowSequenceStart =>
    pure ({ kind := .sequenceStart anchor tag, start }, { p with state := .flowSequenceFirstEntry })
  | .flowMappingStart =>
    pure ({ kind := .mappingStart anchor tag, start }, { p with state := .flowMappingFirstKey })
  | .blockSequenceStart =>
    if block then
      pure ({ kind := .sequenceStart anchor tag, start },
        { p with state := .blockSequenceFirstEntry })
    else failIn start "did not find expected node content" t.start
  | .blockMappingStart =>
    if block then
      pure ({ kind := .mappingStart anchor tag, start }, { p with state := .blockMappingFirstKey })
    else failIn start "did not find expected node content" t.start
  | _ =>
    if !anchor.isEmpty || !tag.isEmpty then
      pure ({ kind := .scalar anchor tag "" .plain, start }, p.popState)
    else failIn start "did not find expected node content" t.start

/-- Takes the first token of a collection, keeping its start. -/
def enterCollection (p : Parser) : Except Problem Parser := do
  let (t, p) ← p.peek
  pure { p.skipToken with marks := t.start :: p.marks }

/-- An entry of a block sequence, or its end. -/
def blockSequenceEntry (p : Parser) (first : Bool) : Except Problem (Event × Parser) := do
  let p ← if first then p.enterCollection else pure p
  let (t, p) ← p.peek
  match t.kind with
  | .blockEntry =>
    let m := t.stop
    let (t, p) ← p.skipToken.peek
    if !t.kind.isIn [.blockEntry, .blockEnd] then
      (p.pushState .blockSequenceEntry).node true false
    else pure (emptyScalar m, { p with state := .blockSequenceEntry })
  | .blockEnd =>
    pure ({ kind := .sequenceEnd, start := t.start }, p.popState.popMark.skipToken)
  | _ => failIn p.topMark "did not find expected '-' indicator" t.start

/-- An entry of a sequence written without indentation as a block mapping's value, or its
end. -/
def indentlessSequenceEntry (p : Parser) : Except Problem (Event × Parser) := do
  let (t, p) ← p.peek
  match t.kind with
  | .blockEntry =>
    let m := t.stop
    let (t, p) ← p.skipToken.peek
    if !t.kind.isIn [.blockEntry, .key, .value, .blockEnd] then
      (p.pushState .indentlessSequenceEntry).node true false
    else pure (emptyScalar m, { p with state := .indentlessSequenceEntry })
  | _ => pure ({ kind := .sequenceEnd, start := t.start }, p.popState)

/-- A key of a block mapping, or its end. -/
def blockMappingKey (p : Parser) (first : Bool) : Except Problem (Event × Parser) := do
  let p ← if first then p.enterCollection else pure p
  let (t, p) ← p.peek
  match t.kind with
  | .key =>
    let m := t.stop
    let (t, p) ← p.skipToken.peek
    if !t.kind.isIn [.key, .value, .blockEnd] then
      (p.pushState .blockMappingValue).node true true
    else pure (emptyScalar m, { p with state := .blockMappingValue })
  | .blockEnd =>
    pure ({ kind := .mappingEnd, start := t.start }, p.popState.popMark.skipToken)
  | _ => failIn p.topMark "did not find expected key" t.start

/-- A value of a block mapping; an empty scalar when it is left out. -/
def blockMappingValue (p : Parser) : Except Problem (Event × Parser) := do
  let (t, p) ← p.peek
  match t.kind with
  | .value =>
    let m := t.stop
    let (t, p) ← p.skipToken.peek
    if !t.kind.isIn [.key, .value, .blockEnd] then
      (p.pushState .blockMappingKey).node true true
    else pure (emptyScalar m, { p with state := .blockMappingKey })
  | _ => pure (emptyScalar t.start, { p with state := .blockMappingKey })

/-- An entry of a flow sequence (a single pair `k: v` is a mapping of its own), or its end. -/
def flowSequenceEntry (p : Parser) (first : Bool) : Except Problem (Event × Parser) := do
  let p ← if first then p.enterCollection else pure p
  let (t, p) ← p.peek
  let finish (t : Token) (p : Parser) : Event × Parser :=
    ({ kind := .sequenceEnd, start := t.start }, p.popState.popMark.skipToken)
  if t.kind.isIn [.flowSequenceEnd] then return finish t p
  let (t, p) ← if first then pure (t, p)
    else if t.kind.isIn [.flowEntry] then p.skipToken.peek
    else failIn p.topMark "did not find expected ',' or ']'" t.start
  match t.kind with
  | .key =>
    pure ({ kind := .mappingStart "" "", start := t.start },
      { p.skipToken with state := .flowSequenceEntryMappingKey })
  | .flowSequenceEnd => pure (finish t p)
  | _ => (p.pushState .flowSequenceEntry).node false false

/-- The key of a single pair in a flow sequence. -/
def flowSequenceEntryMappingKey (p : Parser) : Except Problem (Event × Parser) := do
  let (t, p) ← p.peek
  if !t.kind.isIn [.value, .flowEntry, .flowSequenceEnd] then
    (p.pushState .flowSequenceEntryMappingValue).node false false
  else pure (emptyScalar t.stop, { p.skipToken with state := .flowSequenceEntryMappingValue })

/-- The value of a single pair in a flow sequence. -/
def flowSequenceEntryMappingValue (p : Parser) : Except Problem (Event × Parser) := do
  let (t, p) ← p.peek
  match t.kind with
  | .value =>
    let (t, p) ← p.skipToken.peek
    if !t.kind.isIn [.flowEntry, .flowSequenceEnd] then
      (p.pushState .flowSequenceEntryMappingEnd).node false false
    else pure (emptyScalar t.start, { p with state := .flowSequenceEntryMappingEnd })
  | _ => pure (emptyScalar t.start, { p with state := .flowSequenceEntryMappingEnd })

/-- The end of a single pair in a flow sequence. -/
def flowSequenceEntryMappingEnd (p : Parser) : Except Problem (Event × Parser) := do
  let (t, p) ← p.peek
  pure ({ kind := .mappingEnd, start := t.start }, { p with state := .flowSequenceEntry })

/-- A key of a flow mapping, or its end. -/
def flowMappingKey (p : Parser) (first : Bool) : Except Problem (Event × Parser) := do
  let p ← if first then p.enterCollection else pure p
  let (t, p) ← p.peek
  let finish (t : Token) (p : Parser) : Event × Parser :=
    ({ kind := .mappingEnd, start := t.start }, p.popState.popMark.skipToken)
  if t.kind.isIn [.flowMappingEnd] then return finish t p
  let (t, p) ← if first then pure (t, p)
    else if t.kind.isIn [.flowEntry] then p.skipToken.peek
    else failIn p.topMark "did not find expected ',' or '\x7d'" t.start
  match t.kind with
  | .key =>
    let (t, p) ← p.skipToken.peek
    if !t.kind.isIn [.value, .flowEntry, .flowMappingEnd] then
      (p.pushState .flowMappingValue).node false false
    else pure (emptyScalar t.start, { p with state := .flowMappingValue })
  | .flowMappingEnd => pure (finish t p)
  | _ => (p.pushState .flowMappingEmptyValue).node false false

/-- A value of a flow mapping; an empty scalar when it is left out. -/
def flowMappingValue (p : Parser) (empty : Bool) : Except Problem (Event × Parser) := do
  let (t, p) ← p.peek
  if empty then return (emptyScalar t.start, { p with state := .flowMappingKey })
  match t.kind with
  | .value =>
    let (t, p) ← p.skipToken.peek
    if !t.kind.isIn [.flowEntry, .flowMappingEnd] then
      (p.pushState .flowMappingKey).node false false
    else pure (emptyScalar t.start, { p with state := .flowMappingKey })
  | _ => pure (emptyScalar t.start, { p with state := .flowMappingKey })

/-- The next event. After the end of the stream it stays at the end. -/
def next (p : Parser) : Except Problem (Event × Parser) := do
  match p.state with
  | .streamStart =>
    let (t, p) ← p.peek
    match t.kind with
    | .streamStart =>
      pure ({ kind := .streamStart, start := t.start },
        { p.skipToken with state := .implicitDocumentStart })
    | _ => fail "did not find expected <stream-start>" t.start
  | .implicitDocumentStart => p.documentStart true
  | .documentStart => p.documentStart false
  | .documentContent =>
    let (t, p) ← p.peek
    if t.kind.isIn [.versionDirective, .tagDirective, .documentStart, .documentEnd, .streamEnd] then
      pure (emptyScalar t.start, p.popState)
    else p.node true false
  | .documentEnd =>
    let (t, p) ← p.peek
    let p := match t.kind with
      | .documentEnd => p.skipToken
      | _ => p
    pure ({ kind := .documentEnd, start := t.start },
      { p with handles := [], state := .documentStart })
  | .blockNode => p.node true false
  | .blockNodeOrIndentlessSequence => p.node true true
  | .flowNode => p.node false false
  | .blockSequenceFirstEntry => p.blockSequenceEntry true
  | .blockSequenceEntry => p.blockSequenceEntry false
  | .indentlessSequenceEntry => p.indentlessSequenceEntry
  | .blockMappingFirstKey => p.blockMappingKey true
  | .blockMappingKey => p.blockMappingKey false
  | .blockMappingValue => p.blockMappingValue
  | .flowSequenceFirstEntry => p.flowSequenceEntry true
  | .flowSequenceEntry => p.flowSequenceEntry false
  | .flowSequenceEntryMappingKey => p.flowSequenceEntryMappingKey
  | .flowSequenceEntryMappingValue => p.flowSequenceEntryMappingValue
  | .flowSequenceEntryMappingEnd => p.flowSequenceEntryMappingEnd
  | .flowMappingFirstKey => p.flowMappingKey true
  | .flowMappingKey => p.flowMappingKey false
  | .flowMappingValue => p.flowMappingValue false
  | .flowMappingEmptyValue => p.flowMappingValue true
  | .finished =>
    let (t, p) ← p.peek
    pure ({ kind := .streamEnd, start := t.start }, p)

end Parser

end AclReconcile.Yaml
