import AclReconcile.Acl.ObjectType

/-!
# Entries

An entry grants a principal read, write and execute permission. Its identity names the
principal; an empty identity is the unnamed entry of its kind (the owner, the owning group,
the mask, everyone else).

The text form is `kind:identity:rwx`, with `-` for a permission not granted. When reading, the
short form `kind:rwx` stands for the unnamed entry, blanks around the whole text are ignored,
and the permissions must be exactly three bytes, each its letter or `-`.
-/

namespace AclReconcile

/-- One entry of an access control list. -/
structure AclEntry where
  type : ObjectType
  identity : String
  read : Bool
  write : Bool
  execute : Bool
  deriving DecidableEq, Repr, Inhabited

namespace AclEntry

/-- The permissions as `rwx` with `-` for each one not granted. -/
def permissions (e : AclEntry) : String :=
  String.ofList [if e.read then 'r' else '-', if e.write then 'w' else '-',
    if e.execute then 'x' else '-']

/-- The text form `kind:identity:rwx`. -/
def render (e : AclEntry) : String := e.type.name ++ ":" ++ e.identity ++ ":" ++ e.permissions

/-- The failure for a text that is not an entry. -/
def malformed (s : String) : Error := .detail .invalidEntry ("'" ++ s ++ "'")

/-- The failure for permissions that are not three letters or dashes. -/
def badPermissions (s : String) : Error :=
  .detail .invalidEntry ("'" ++ s ++ "' has malformed permissions")

/-- Reads the three permission flags, each its letter or `-`. -/
def readFlags (perms : String) : Option (Bool × Bool × Bool) :=
  let flag (c want : Char) : Option Bool :=
    if c == want then some true else if c == '-' then some false else none
  match perms.toList with
  | [r, w, x] => do
    let r ← flag r 'r'
    let w ← flag w 'w'
    let x ← flag x 'x'
    pure (r, w, x)
  | _ => none

/-- Reads the text form of an entry. -/
def parse (s : String) : Except Error AclEntry := do
  let parts := (Text.trim s).splitOn ":"
  let (typ, identity, perms) ← match parts with
    | [t, p] => pure (t, "", p)
    | [t, i, p] => pure (t, i, p)
    | _ => throw (malformed s)
  let type ← ObjectType.parse typ
  if perms.utf8ByteSize != 3 then throw (badPermissions s)
  match readFlags perms with
  | some (r, w, x) => pure ⟨type, identity, r, w, x⟩
  | none => throw (badPermissions s)

end AclEntry

end AclReconcile
