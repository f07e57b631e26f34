import AclReconcile.Acl.Entry
import AclReconcile.Json.Decode
import AclReconcile.Json.Write

/-!
# Lists of entries, as text and as JSON

A list is written for people as its entries' text forms joined by commas, and stored as a JSON
array of records with the fields `object_type` (the kind's name), `identity`, `read`, `write`
and `execute`. The JSON form keeps identities that contain `:` or `,` intact.

Reading a stored list accepts both forms: a text that starts with `[` (after blanks) is JSON,
anything else the comma form, where a blank text is the empty list. A JSON reading failure is
reported as an invalid entry with the reader's message.
-/

namespace AclReconcile

namespace AclList

/-- The comma-joined text forms of the entries. -/
def format (entries : List AclEntry) : String := ",".intercalate (entries.map AclEntry.render)

/-- Reads the comma form; a blank text is the empty list. -/
def parse (s : String) : Except Error (List AclEntry) :=
  if Text.isBlankText s then .ok []
  else (s.splitOn ",").mapM AclEntry.parse

/-- The failure for writing an entry whose kind is invalid. -/
def unwritable (t : ObjectType) : Error :=
  .context "json: error calling MarshalText for type *data.ObjectType"
    (ObjectType.invalidCode t.code)

/-- The JSON record of an entry. -/
def entryJson (e : AclEntry) : Except Error Json :=
  match e.type.toText with
  | .error _ => .error (unwritable e.type)
  | .ok name => .ok <| Json.obj [("object_type", .string name), ("identity", .string e.identity),
      ("read", .bool e.read), ("write", .bool e.write), ("execute", .bool e.execute)]

/-- The stored JSON form of a list. -/
def encode (entries : List AclEntry) : Except Error String := do
  let items ← entries.mapM entryJson
  pure (Json.render (.array items))

/-- The entry every reading starts from: the unnamed user entry with nothing granted. -/
def blankEntry : AclEntry := ⟨.user, "", false, false, false⟩

/-- The fields of an entry's JSON record. -/
def entryFields : List (String × Json.FieldReader AclEntry) :=
  [("object_type", fun _ e j raw => match ObjectType.ofJson j raw with
      | .ok t => pure { e with type := t }
      | .error err => throw err),
   ("identity", fun p e j _ => do
      pure ((← Json.readText p j).elim e fun s => { e with identity := s })),
   ("read", fun p e j _ => do pure ((← Json.readFlag p j).elim e fun b => { e with read := b })),
   ("write", fun p e j _ => do pure ((← Json.readFlag p j).elim e fun b => { e with write := b })),
   ("execute", fun p e j _ => do
      pure ((← Json.readFlag p j).elim e fun b => { e with execute := b }))]

/-- Reads one element of a stored list: a record, or null for the blank entry. -/
def readEntry (p : Json.Place) : Json → Json.Reader AclEntry
  | .object ms => Json.readRecord false entryFields p blankEntry ms
  | .null => pure blankEntry
  | j => do Json.Reader.note (Json.mismatch p j.kindName "data.AclEntry"); pure blankEntry

/-- Reads a JSON document holding a list of entries. -/
def readJson (s : String) : Except Error (List AclEntry) :=
  match Json.parse s with
  | .error e => .error (.malformedJson e.message)
  | .ok doc => Json.Reader.run <| match doc with
    | .array items => Json.readElements readEntry {} items
    | .null => pure []
    | j => do Json.Reader.note (Json.mismatch {} j.kindName "[]data.AclEntry"); pure []

/-- Reads a stored list in either form. -/
def decode (s : String) : Except Error (List AclEntry) := do
  let trimmed := Text.trim s
  if !trimmed.startsWith "[" then parse trimmed
  else
    let entries ← match readJson trimmed with
      | .ok es => .ok es
      | .error e => .error (.detail .invalidEntry e.message)
    match entries.find? (fun e => !e.type.isValid) with
    | some e => .error (.detail .invalidObjectType ("'" ++ e.render ++ "'"))
    | none => pure entries

end AclList

end AclReconcile

namespace AclReconcile.ObjectType

/-- Reads a kind from a whole JSON document: the document must be JSON, and its value is then
read as `ofJson` reads a member. -/
def readDocument (s : String) : Except Error ObjectType :=
  match Json.parse s with
  | .error e => .error (.malformedJson e.message)
  | .ok j => ofJson j (Json.rawText s)

end AclReconcile.ObjectType
