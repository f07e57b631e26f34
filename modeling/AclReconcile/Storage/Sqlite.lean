import AclReconcile.Storage.Interface
import AclReconcile.Storage.Record
import AclReconcile.Sql.Session
import AclReconcile.Index

/-!
# A storage in an SQL database file

Every item is a row of the table `acl_items`, under a generated id, with its path, whether it is
a folder, owner, group, summary, both lists as JSON text, and the time of the last change. The
table `acl_principals` maps object ids to principal names. When the storage opens, it reads the
path and id of every row into an index of keys; presence checks and the list of containers use
that index alone, and every other operation starts by finding the path's id there and then reads
the row. Creating a path writes all its missing directories in one transaction: on a failure
none of them stays, and the index learns the new keys only after the transaction.

The file itself can be replaced from outside: a file that is not a database cannot be opened,
and a missing file opens as an empty database. Once closed, the storage forgets its keys and
refuses everything that needs the database.
-/

namespace AclReconcile

/-- What lies in the database file. -/
inductive DbFile where
  | database (db : Sql.Database)
  /-- A file that is not a database. -/
  | foreign
  | missing
  /-- A path where no file can be opened: a directory, or a name in a missing directory. -/
  | unopenable
  deriving Inhabited

/-- The database a connection sees in a file: a missing file is an empty database. -/
def DbFile.opened : DbFile → Except Sql.SqlError Sql.Database
  | .database db => .ok db
  | .missing => .ok {}
  | .foreign => .error (.make 26 "")
  | .unopenable => .error (.make 14 "out of memory")

/-- The state of a storage in a database file. -/
structure SqliteStore where
  file : DbFile := .missing
  /-- Whether the storage's connection is open. -/
  connected : Bool := false
  /-- The id of every path, read when the storage opened. -/
  keys : Index String := {}
  /-- The number of ids handed out. -/
  serial : Nat := 0
  /-- The clock and the ids the storage takes. -/
  surroundings : Surroundings := {}
  deriving Inhabited

namespace SqliteStore

/-- Operations on a storage in a database file. -/
abbrev Op := EStateM Error SqliteStore

/-- A failure of the database as an error of the storage. -/
def sqlError (e : Sql.SqlError) : Error := .plain e.message

/-- The error of a closed storage. -/
def closedError : Error := .plain "sql: database is closed"

/-- A result that may fail, inside an operation. -/
def orThrow {α : Type} : Except Error α → Op α
  | .ok a => pure a
  | .error e => throw e

/-- Runs a statement on the storage's connection. -/
def run (s : Sql.Statement) : Op (List (List Sql.Value)) := do
  let st ← get
  if !st.connected then throw closedError
  match st.file.opened with
  | .error e => throw (sqlError e)
  | .ok db =>
    let (db', result) := db.execute s
    set { st with file := .database db' }
    match result with
    | .ok rows => pure rows
    | .error e => throw (sqlError e)

/-- The query of some columns of a table, of the rows where a condition holds. -/
def columnsOf (table : String) (columns : List String) (filter : Option Sql.Expr) :
    Sql.Select :=
  { columns := columns.map fun c => .expr (.column none c) none c, source := some table, filter }

/-- The columns of the item table. -/
def itemColumns : List Sql.Column :=
  let required (n t : String) : Sql.Column := { name := n, declared := t, notNull := true }
  [{ name := "id", declared := "TEXT", primary := true },
   { name := "path", declared := "TEXT", notNull := true, unique := true },
   required "folder" "INTEGER", required "owner" "TEXT", required "owning_group" "TEXT",
   required "permissions" "TEXT", required "acl" "TEXT", required "default_acl" "TEXT",
   required "modify_time" "INTEGER"]

/-- The statements that make the schema when it is missing. -/
def schema : List Sql.Statement :=
  [.createTable "acl_items" true itemColumns,
   .createIndex "idx_acl_items_path" true "acl_items" ["path"] false,
   .createTable "acl_principals" true
     [{ name := "id", declared := "TEXT", primary := true },
      { name := "upn", declared := "TEXT", notNull := true }]]

/-- The error of a value that cannot be read into a column's variable. -/
def scanError (i : Nat) (column msg : String) : Error :=
  .plain ("sql: Scan error on column index " ++ toString i ++ ", name " ++ Text.quote column ++
    ": " ++ msg)

/-- Reads a value as text. -/
def readText (row : List Sql.Value) (i : Nat) (column : String) : Except Error String :=
  (Sql.cell row i).asText.mapError (scanError i column)

/-- Reads a value as a truth value. -/
def readFlag (row : List Sql.Value) (i : Nat) (column : String) : Except Error Bool :=
  (Sql.cell row i).asFlag.mapError (scanError i column)

/-- The columns of a record, in the order they are read. -/
def recordColumns : List String :=
  ["id", "folder", "owner", "owning_group", "permissions", "acl", "default_acl", "modify_time"]

/-- A record from the values of its row. -/
def recordOf (row : List Sql.Value) : Except Error Record := do
  let id ← readText row 0 "id"
  let folder ← readFlag row 1 "folder"
  let owner ← readText row 2 "owner"
  let group ← readText row 3 "owning_group"
  let permissions ← readText row 4 "permissions"
  let acl ← readText row 5 "acl"
  let defaultAcl ← readText row 6 "default_acl"
  let modifyTime ← (Sql.cell row 7).asInt.mapError (scanError 7 "modify_time")
  pure { id, folder, owner, group, permissions, acl, defaultAcl, modifyTime }

/-- The record stored under an id. -/
def readRecord (id : String) : Op Record := do
  let byId := Sql.Expr.columnIs "id" (.text id)
  match ← run (.select (columnsOf "acl_items" recordColumns (some byId))) with
  | [] => throw (.sentinel .notExist)
  | row :: _ => orThrow (recordOf row)

/-- Stores a new record under a path, stamped with the time of the clock. -/
def insertRecord (path : String) (r : Record) : Op Unit := do
  let now := (← get).surroundings.now
  let _ ← run (.insert none "acl_items"
    (some ["id", "path", "folder", "owner", "owning_group", "permissions", "acl", "default_acl",
      "modify_time"])
    (.values [[.lit (.text r.id), .lit (.text path), .lit (.integer (if r.folder then 1 else 0)),
      .lit (.text r.owner), .lit (.text r.group), .lit (.text r.permissions), .lit (.text r.acl),
      .lit (.text r.defaultAcl), .lit (.integer now)]]) none)

/-- The principal names by object id; a later row for an id wins. -/
def readPrincipals : Op (List (String × String)) := do
  let rows ← run (.select (columnsOf "acl_principals" ["id", "upn"] none))
  let table ← orThrow (rows.foldlM (fun (ix : Index String) row => do
    let id ← readText row 0 "id"
    let upn ← readText row 1 "upn"
    pure (ix.insert id upn)) {})
  pure table.entries

/-- A new record id. -/
def freshId : Op String := do
  let st ← get
  set { st with serial := st.serial + 1 }
  pure (st.surroundings.newId (st.serial + 1))

/-- The id of a path, or the error that names the path as missing. -/
def idOf (path : String) : Op String := do
  match (← get).keys.get? path with
  | some id => pure id
  | none => throw (.detail .notExist ("'" ++ path ++ "'"))

/-- Reads the keys of every row into the index. -/
def loadKeys : Op Unit := do
  let rows ← run (.select (columnsOf "acl_items" ["path", "id"] none))
  for row in rows do
    let path ← orThrow (readText row 0 "path")
    let id ← orThrow (readText row 1 "id")
    modify fun st => { st with keys := st.keys.insert path id }

/-- Opens the storage: the connection must be open, and the keys are read. -/
def start : Op Unit := do
  if !(← get).connected then throw closedError
  loadKeys

/-- Closes the storage, forgetting its keys. -/
def stop : Op Unit := modify fun st => { st with connected := false, keys := {} }

/-- Opens a new connection to the file and makes the schema; statements of the schema that ran
before a failure stay. -/
def connect : Op Unit := do
  let st ← get
  match st.file.opened with
  | .error e => throw (sqlError e)
  | .ok db =>
    let (db', failure) := db.runAll schema
    set { st with file := .database db', connected := true, keys := {} }
    match failure with
    | some e =>
      modify fun st => { st with connected := false }
      throw (sqlError e)
    | none => pure ()

/-- A storage on a fresh file. -/
def fresh : SqliteStore :=
  match connect {} with
  | .ok () st => st
  | .error _ st => st

/-- Closes the storage and opens a new one on the same file; when that fails, the closed one
stays. -/
def reopen : Op Unit := do
  stop
  tryCatch (do connect; start) fun e => do
    stop
    throw e

/-- Creates a container; an existing one is left as it is. -/
def createContainer (name : String) : Op Unit := do
  orThrow (validateContainer name)
  if (← get).keys.contains name then return
  let id ← freshId
  let r ← orThrow (Record.ofState id true (AccessControl.initial none true))
  insertRecord name r
  modify fun st => { st with keys := st.keys.insert name id }

/-- Creates the segments below `current`, whose record is `parent`; the new keys so far are in
`created`. Gives `none` when the path turns out to be an existing file asked for as a file: the
transaction then ends without being committed. -/
def createBelow (folder : Bool) : String → Record → List String → List (String × String) →
    Op (Option (List (String × String)))
  | _, _, [], created => pure (some created)
  | current, parent, segment :: rest, created => do
    let current := Path.join [current, segment]
    let last := rest.isEmpty
    match (← get).keys.get? current with
    | some id =>
      let r ← readRecord id
      if !r.folder then
        if last && !folder then pure none
        else throw (.detail .notDirectory ("'" ++ current ++ "'"))
      else if last && !folder then throw (.detail .exist ("'" ++ current ++ "' is a directory"))
      else createBelow folder current r rest created
    | none =>
      let parentAccess ← orThrow parent.state
      let isFolder := folder || !last
      let id ← freshId
      let r ← orThrow (Record.ofState id isFolder (AccessControl.initial (some parentAccess) isFolder))
      insertRecord current r
      createBelow folder current r rest (created ++ [(current, id)])

/-- Creates a directory or an empty file, with the missing directories above it. -/
def create (path : String) (folder : Bool) : Op Unit := do
  orThrow (Path.validate path)
  if Path.isContainer path then throw (.detail .invalidPath ("'" ++ path ++ "' is a container root"))
  let (container, rel) := Path.split path
  let some parentId := (← get).keys.get? container
    | throw (.detail .containerNotExist ("'" ++ container ++ "'"))
  if !(← get).connected then throw closedError
  let before := (← get).file
  let rollback : Op Unit := modify fun st => { st with file := before }
  let outcome ← tryCatch (do
      let parent ← readRecord parentId
      createBelow folder container parent (Path.segments rel) [])
    fun e => do rollback; throw e
  match outcome with
  | none => rollback
  | some created =>
    modify fun st => { st with keys := created.foldl (fun ix (k, v) => ix.insert k v) st.keys }

/-- The state of a path, identities shown as principal names when `upn` is set. -/
def readAccess (path : String) (upn : Bool) : Op AccessControl := do
  let id ← idOf path
  let r ← readRecord id
  let ac ← orThrow r.state
  if upn then pure (ac.withNames (← readPrincipals)) else pure ac

/-- Stores the state of a path after checking it, principal names turned into object ids, and
stamps it with the time of the clock. -/
def writeAccess (path : String) (ac : Option AccessControl) : Op Unit := do
  let id ← idOf path
  let current ← readRecord id
  let prepared ← orThrow (AccessControl.prepare path ac current.folder)
  let principals ← readPrincipals
  let r ← orThrow (Record.ofState id current.folder (prepared.withIds principals))
  let now := (← get).surroundings.now
  let _ ← run (.update none "acl_items"
    [("owner", .lit (.text r.owner)), ("owning_group", .lit (.text r.group)),
     ("permissions", .lit (.text r.permissions)), ("acl", .lit (.text r.acl)),
     ("default_acl", .lit (.text r.defaultAcl)), ("modify_time", .lit (.integer now))]
    (some (Sql.Expr.columnIs "id" (.text id))))

/-- The items below a directory, in path order. -/
def list (path : String) (recursive : Bool) (max : Int) : Op (List Item) := do
  let id ← idOf path
  let r ← readRecord id
  if !r.folder then throw (.detail .notDirectory ("'" ++ path ++ "'"))
  let pre := path ++ "/"
  let below := Sql.Expr.binary .and
    (.binary .ge (.column none "path") (.lit (.text pre)))
    (.binary .lt (.column none "path") (.lit (.text (path ++ "0"))))
  let rows ← run (.select { columnsOf "acl_items" ["path", "folder"] (some below) with
    orderBy := [⟨.column none "path", false⟩] })
  let items ← orThrow (rows.mapM fun row => do
    pure (⟨← readText row 0 "path", ← readFlag row 1 "folder"⟩ : Item))
  let chosen := items.filter fun it => recursive || !(it.path.drop pre.length).contains '/'
  pure (limitItems chosen max)

/-- The names of the containers, in order. -/
def containers : Op (List String) := do
  pure ((← get).keys.keys.filter Path.isContainer)

/-- Registers the principal name of an object id. -/
def addPrincipal (id name : String) : Op Unit := do
  let _ ← run (.insert none "acl_principals" (some ["id", "upn"])
    (.values [[.lit (.text id), .lit (.text name)]])
    (some { target := ["id"], updates := some [("upn", .column (some "excluded") "upn")] }))

/-- Runs SQL text on the file through a separate connection. -/
def runSql (text : String) : Op Unit := do
  let st ← get
  match st.file.opened with
  | .error e => throw (sqlError e)
  | .ok db =>
    let (db', failure) := db.runText text
    set { st with file := .database db' }
    match failure with
    | some e => throw (sqlError e)
    | none => pure ()

/-- Writes a file in the directory of the database: writing the database file replaces it by a
file that is not a database (an empty one is an empty database), removing it leaves none. Other
files do not matter to the storage. -/
def writeFile (path content : String) : Op Unit :=
  if path == "state.db" then
    modify fun st => { st with file := if content.isEmpty then .missing else .foreign }
  else pure ()

/-- Removes a file or directory in the directory of the database. -/
def removeFile (path : String) : Op Unit :=
  if path == "state.db" || path == "" then modify fun st => { st with file := .missing }
  else pure ()

/-- The storage over a database file. -/
def storage : Storage Op where
  name := "sqlite"
  capabilities := Capability.all.map Capability.name
  start := start
  stop := stop
  present p := do pure ((← get).keys.contains p)
  createContainer := createContainer
  createDirectory p := create p true
  readAccess := readAccess
  writeAccess := writeAccess
  list := list
  listContainers := containers

end SqliteStore

end AclReconcile
