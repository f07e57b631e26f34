import AclReconcile.Session.Fault
import AclReconcile.Storage.Record

/-!
# A database server of item rows

The server keeps one table of item rows, keyed by id with a unique path, and one table of
principal names by id. It understands the statements a storage needs: make the schema, answer a
ping, read all paths with their ids, list the rows below a prefix, read, update and insert one
row, read the principals, and add or replace one; inserts may be grouped in a transaction, which
commits them together or drops them all.

Every statement has a method name and a key (the path of the row it touches, the prefix of a
listing, the id of a principal, or nothing). A rule naming the method and the key, or the method
alone with an empty key, makes the statement fail with an error the server reports in its usual
form: severity, message and state code.
-/

namespace AclReconcile.Rows

/-- One row of the item table. -/
structure ItemRow where
  id : String
  path : String
  folder : Bool
  owner : String
  group : String
  permissions : String
  acl : String
  defaultAcl : String
  modifyTime : Int := 0
  deriving Inhabited

/-- The row's columns as a record. -/
def ItemRow.record (r : ItemRow) : Record :=
  { id := r.id, folder := r.folder, owner := r.owner, group := r.group,
    permissions := r.permissions, acl := r.acl, defaultAcl := r.defaultAcl,
    modifyTime := r.modifyTime }

/-- The row of a record under a path. -/
def ItemRow.ofRecord (path : String) (r : Record) : ItemRow :=
  { id := r.id, path, folder := r.folder, owner := r.owner, group := r.group,
    permissions := r.permissions, acl := r.acl, defaultAcl := r.defaultAcl,
    modifyTime := r.modifyTime }

/-- The server's tables and the rules that make statements fail. -/
structure RowServer where
  items : List ItemRow := []
  /-- Principal names by id, in the order they were first added. -/
  principals : List (String × String) := []
  rules : List Fault := []
  deriving Inhabited

/-- An error the server reports. -/
structure ServerError where
  severity : String
  message : String
  code : String
  deriving Inhabited

/-- The usual text of a server error. -/
def ServerError.text (e : ServerError) : String :=
  e.severity ++ ": " ++ e.message ++ " (SQLSTATE " ++ e.code ++ ")"

/-- The error of a statement a rule makes fail. -/
def ServerError.injected : ServerError := ⟨"ERROR", "injected failure", "XX000"⟩

/-- The error of a connection a rule refuses. -/
def ServerError.refused : ServerError := ⟨"FATAL", "injected failure", "28000"⟩

/-- The error of an insert whose path is taken. -/
def ServerError.duplicatePath : ServerError :=
  ⟨"ERROR", "duplicate key value violates unique constraint \"acl_items_path_key\"", "23505"⟩

/-- The kinds of statement, named as rules name them. -/
inductive Method where
  | connect | schema | ping | begin | commit | selectKeys | listItems | selectItem | updateItem
  | insertItem | selectPrincipals | insertPrincipal
  deriving DecidableEq, Inhabited

/-- The name rules use for a kind of statement. -/
def Method.name : Method → String
  | .connect => "connect" | .schema => "schema" | .ping => "ping" | .begin => "begin"
  | .commit => "commit" | .selectKeys => "select_keys" | .listItems => "list_items"
  | .selectItem => "select_item" | .updateItem => "update_item" | .insertItem => "insert_item"
  | .selectPrincipals => "select_principals" | .insertPrincipal => "insert_principal"

/-- Computations on the server. -/
abbrev Exchange := StateM RowServer

namespace RowServer

/-- Whether a rule makes a statement fail; the rule that fires is spent. A connection is
refused whatever the rule's key. -/
def refuses (m : Method) (key : String) : Exchange Bool :=
  modifyGet fun s =>
    let hit (f : Fault) : Bool :=
      f.op == m.name && (m == .connect || f.path.isEmpty || f.path == key)
    let (found, rules) := Fault.take hit s.rules
    (found.isSome, { s with rules })

/-- Runs a statement unless a rule makes it fail. -/
def statement {α : Type} (m : Method) (key : String) (body : Exchange α) :
    Exchange (Except ServerError α) := do
  if (← refuses m key) then pure (.error .injected) else pure (.ok (← body))

/-- The path of the row with an id, or nothing. -/
def pathOf (s : RowServer) (id : String) : String :=
  ((s.items.find? (·.id == id)).map (·.path)).getD ""

/-- Opens a connection. -/
def connect : Exchange (Except ServerError Unit) := do
  if (← refuses .connect "") then pure (.error .refused) else pure (.ok ())

/-- Runs the schema statements, which change nothing once the tables exist. -/
def schema : Exchange (Except ServerError Unit) := do
  for _ in [0, 1, 2] do
    if (← refuses .schema "") then return .error .injected
  pure (.ok ())

/-- Answers a ping. -/
def ping : Exchange (Except ServerError Unit) := statement .ping "" (pure ())

/-- Every path with its id. -/
def selectKeys : Exchange (Except ServerError (List (String × String))) :=
  statement .selectKeys "" do pure ((← get).items.map fun r => (r.path, r.id))

/-- The paths that start with a prefix, with their kinds, in byte order. -/
def listItems (pre : String) : Exchange (Except ServerError (List (String × Bool))) :=
  statement .listItems pre do
    let rows := (← get).items.filter (·.path.startsWith pre)
    pure ((rows.map fun r => (r.path, r.folder)).mergeSort fun a b => !(b.1 < a.1))

/-- The row with an id, if there is one. -/
def selectItem (id : String) : Exchange (Except ServerError (Option ItemRow)) := do
  statement .selectItem ((← get).pathOf id) do pure ((← get).items.find? (·.id == id))

/-- Changes the row with an id. -/
def updateItem (id : String) (f : ItemRow → ItemRow) : Exchange (Except ServerError Unit) := do
  statement .updateItem ((← get).pathOf id) do
    modify fun s => { s with items := s.items.map fun r => if r.id == id then f r else r }

/-- Adds a row; its path must be free. -/
def insertItem (row : ItemRow) : Exchange (Except ServerError Unit) := do
  if (← refuses .insertItem row.path) then return .error .injected
  if (← get).items.any (·.path == row.path) then return .error .duplicatePath
  modify fun s => { s with items := s.items ++ [row] }
  pure (.ok ())

/-- Every principal name by id. -/
def selectPrincipals : Exchange (Except ServerError (List (String × String))) :=
  statement .selectPrincipals "" do pure (← get).principals

/-- Adds a principal name, or replaces the name an id has. -/
def insertPrincipal (id upn : String) : Exchange (Except ServerError Unit) :=
  statement .insertPrincipal id do
    modify fun s =>
      if s.principals.any (·.1 == id) then
        { s with principals := s.principals.map fun (k, v) => if k == id then (k, upn) else (k, v) }
      else { s with principals := s.principals ++ [(id, upn)] }

/-- Starts a transaction. -/
def begin : Exchange (Except ServerError Unit) := statement .begin "" (pure ())

/-- Commits a transaction. -/
def commit : Exchange (Except ServerError Unit) := statement .commit "" (pure ())

/-- Every path, in byte order. -/
def paths (s : RowServer) : List String :=
  (s.items.map (·.path)).mergeSort fun a b => !(b < a)

/-- The type name of a change of columns, as decoding reports name it. -/
def changeType : String :=
  "struct \x7b Folder *bool \"json:\\\"folder\\\"\"; Owner *string \"json:\\\"owner\\\"\"; " ++
  "Group *string \"json:\\\"owning_group\\\"\"; Permissions *string \"json:\\\"permissions\\\"\"; " ++
  "Acl *string \"json:\\\"acl\\\"\"; DefaultAcl *string \"json:\\\"default_acl\\\"\" \x7d"

/-- The members of a change of columns: each one present overwrites its column. -/
def changeFields : List (String × Json.FieldReader ItemRow) :=
  let text (set : ItemRow → String → ItemRow) : Json.FieldReader ItemRow := fun p r j _ => do
    pure ((← Json.readText p j).elim r (set r))
  [("folder", fun p r j _ => do pure ((← Json.readFlag p j).elim r fun b => { r with folder := b })),
   ("owner", text fun r s => { r with owner := s }),
   ("owning_group", text fun r s => { r with group := s }),
   ("permissions", text fun r s => { r with permissions := s }),
   ("acl", text fun r s => { r with acl := s }),
   ("default_acl", text fun r s => { r with defaultAcl := s })]

/-- Applies a change of columns given as JSON text: an object whose members overwrite the
columns they name; null changes nothing. -/
def applyChange (text : String) (row : ItemRow) : Except Error ItemRow :=
  match Json.parse text with
  | .error e => .error (.malformedJson e.message)
  | .ok doc => Json.Reader.run <| match doc with
    | .object ms => Json.readRecord false changeFields {} row ms
    | .null => pure row
    | j => do Json.Reader.note (Json.mismatch {} j.kindName changeType); pure row

end RowServer

end AclReconcile.Rows
