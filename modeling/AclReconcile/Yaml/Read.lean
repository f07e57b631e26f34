import AclReconcile.Yaml.Events

/-!
# Reading YAML documents

The events of the parser are put together into the nodes of the first document of the text.
Each node gets its tag: an explicit tag (in short form), else text for a quoted or block scalar,
the merge tag for a plain `<<`, the sequence or mapping tag for a collection, and for any other
plain scalar the type its text resolves to. Each node also gets its line, counted from 1.

A node with an anchor is numbered when it starts, so an alias inside it may refer to it; the
document keeps the anchored nodes by number once they are complete. An alias to a name no
anchor before it has given is refused when it is read.

Only the first document is read, but the scanner looks a few tokens past its end, so a problem
in the text just after it is still reported.

Before anything is read, a text holding a character YAML does not allow is refused; a byte order
mark at its start is left out.
-/

namespace AclReconcile.Yaml

/-- The state of putting events together into nodes. -/
structure Composer where
  parser : Parser
  /-- The event read but not yet taken. -/
  pending : Option Event := none
  /-- The anchors given so far and the numbers of their nodes, the latest first. -/
  anchors : List (String × Nat) := []
  /-- The complete anchored nodes by number. -/
  anchored : List (Nat × Node) := []
  nextAnchor : Nat := 0
  aliases : Nat := 0

namespace Composer

/-- The next event, read once and kept until it is taken. -/
def peek (c : Composer) : Except String (Event × Composer) :=
  match c.pending with
  | some e => .ok (e, c)
  | none =>
    match c.parser.next with
    | .ok (e, p) => .ok (e, { c with parser := p, pending := some e })
    | .error problem => .error problem.message

/-- Takes the pending event. -/
def take (c : Composer) : Composer := { c with pending := none }

/-- Gives a node's anchor its number. -/
def register (c : Composer) (anchor : String) : Composer × Option Nat :=
  if anchor.isEmpty then (c, none)
  else
    ({ c with anchors := (anchor, c.nextAnchor) :: c.anchors, nextAnchor := c.nextAnchor + 1 },
      some c.nextAnchor)

/-- Keeps a complete anchored node. -/
def store (c : Composer) (number : Option Nat) (n : Node) : Composer :=
  match number with
  | some k => { c with anchored := (k, n) :: c.anchored }
  | none => c

end Composer

/-- The tag of a node: its explicit tag in short form (the non-specific `!` counts as none),
else the default tag of its kind, else the type its text resolves to. -/
def nodeTag (defaultTag tag value : String) : String :=
  if tag != "" && tag != "!" then shortTag tag
  else if defaultTag != "" then defaultTag
  else (typeOfText "" value).1

mutual

/-- Puts a node together from the events, starting with the pending one. -/
def composeNode : Nat → Composer → Except String (Node × Composer)
  | 0, _ => .error "yaml: document too deeply nested"
  | fuel + 1, c => do
    let (e, c) ← c.peek
    let line := e.start.line + 1
    match e.kind with
    | .alias name =>
      match c.anchors.lookup name with
      | none => .error ("yaml: unknown anchor '" ++ name ++ "' referenced")
      | some target =>
        pure (.alias name c.aliases target line, { c.take with aliases := c.aliases + 1 })
    | .scalar anchor tag value style =>
      let defaultTag :=
        if style == .plain then (if value == "<<" then "!!merge" else "") else "!!str"
      let n := Node.scalar value style (nodeTag defaultTag tag value) line
      let (c, number) := c.register anchor
      pure (n, (c.store number n).take)
    | .sequenceStart anchor tag =>
      let (c, number) := c.register anchor
      let (items, c) ← composeItems fuel c.take
      let n := Node.sequence items (nodeTag "!!seq" tag "") line
      pure (n, c.store number n)
    | .mappingStart anchor tag =>
      let (c, number) := c.register anchor
      let (pairs, c) ← composePairs fuel c.take
      let n := Node.mapping pairs (nodeTag "!!map" tag "") line
      pure (n, c.store number n)
    | _ => .error "yaml: unexpected event"

/-- Puts the items of a sequence together, up to and with its end. -/
def composeItems : Nat → Composer → Except String (List Node × Composer)
  | 0, _ => .error "yaml: document too deeply nested"
  | fuel + 1, c => do
    let (e, c) ← c.peek
    match e.kind with
    | .sequenceEnd => pure ([], c.take)
    | _ =>
      let (n, c) ← composeNode fuel c
      let (rest, c) ← composeItems fuel c
      pure (n :: rest, c)

/-- Puts the pairs of a mapping together, up to and with its end. -/
def composePairs : Nat → Composer → Except String (List (Node × Node) × Composer)
  | 0, _ => .error "yaml: document too deeply nested"
  | fuel + 1, c => do
    let (e, c) ← c.peek
    match e.kind with
    | .mappingEnd => pure ([], c.take)
    | _ =>
      let (k, c) ← composeNode fuel c
      let (v, c) ← composeNode fuel c
      let (rest, c) ← composePairs fuel c
      pure ((k, v) :: rest, c)

end

/-- Reads the first document of a text: none when the text holds no document. -/
def readDocument (text : String) : Except String (Option Document) := do
  if !text.all allowedChar then throw "yaml: control characters are not allowed"
  let c : Composer := { parser := { scanner := Scanner.ofText text } }
  let (_, c) ← c.peek
  let (e, c) ← c.take.peek
  match e.kind with
  | .documentStart =>
    let (root, c) ← composeNode (8 * text.length + 32) c.take
    let (e, c) ← c.peek
    match e.kind with
    | .documentEnd => pure (some { root, anchored := c.anchored, aliases := c.aliases })
    | _ => throw "yaml: unexpected event"
  | _ => pure none

end AclReconcile.Yaml
