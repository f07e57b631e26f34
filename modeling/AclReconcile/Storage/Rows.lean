import AclReconcile.Storage.Interface
import AclReconcile.Rows.Server
import AclReconcile.Index

/-!
# A storage on a database server

Every item is a row of the server's item table, found by path through a map from paths to ids
that the storage keeps. The map is loaded when the storage opens and changed by the storage's
own creations only, so rows added or removed by someone else are seen only after the next
opening; a path in the map whose row is gone reads as missing. The rows of one creation are
inserted in one transaction, and their paths enter the map once it commits.

The storage talks through a pool of connections. Making the pool connects once and makes the
schema; closing the storage closes the pool, after which every statement fails.
-/

namespace AclReconcile.Rows

/-- The state of the storage: the server, whether the pool is open, the path map, the names
the server knows the client by, and where the pool dials, as reports name it. -/
structure RowStore where
  server : RowServer
  live : Bool := false
  keys : Index String := {}
  serial : Nat := 0
  /-- The clock and the ids the client takes. -/
  surroundings : Surroundings := {}
  user : String := "oracle"
  database : String := "oracle"
  dial : String := "<server>/.s.PGSQL.5432 (<server>)"
  deriving Inhabited

/-- Operations of the storage. -/
abbrev RowOp := EStateM Error RowStore

namespace RowOp

/-- A result that may fail, inside an operation. -/
def orThrow {α : Type} : Except Error α → RowOp α
  | .ok a => pure a
  | .error e => throw e

/-- A statement through the pool, failing with the pool's or the server's text under `label`
(the bare text when there is none). -/
def send {α : Type} (label : Option String) (x : Exchange (Except ServerError α)) : RowOp α := do
  let st ← get
  let fail (text : String) : Error := match label with
    | some l => .context l (.plain text)
    | none => .plain text
  if !st.live then throw (fail "closed pool")
  let (result, server) := x.run st.server
  set { st with server }
  match result with
  | .ok a => pure a
  | .error e => throw (fail e.text)

/-- A new record id. -/
def freshId : RowOp String := do
  let st ← get
  set { st with serial := st.serial + 1 }
  pure (st.surroundings.newId (st.serial + 1))

/-- The text of a refused connection. -/
def connectFailure (st : RowStore) (e : ServerError) : String :=
  "failed to connect to " ++ String.singleton (Char.ofNat 96) ++ "user=" ++ st.user ++
    " database=" ++ st.database ++ String.singleton (Char.ofNat 96) ++
    ": " ++ st.dial ++ ": server error: " ++ e.text

/-- Makes a new pool on the server: it connects and makes the schema. The path map starts
empty. -/
def build : RowOp Unit := do
  modify fun st => { st with live := false, keys := {} }
  let st ← get
  let (connected, server) := RowServer.connect.run st.server
  set { st with server }
  match connected with
  | .error e => throw (.context "failed to initialize schema" (.plain (connectFailure st e)))
  | .ok () =>
    modify fun st => { st with live := true }
    tryCatch (send (some "failed to execute schema statement") RowServer.schema) fun e => do
      modify fun st => { st with live := false }
      throw (.context "failed to initialize schema" e)

/-- Opens the storage: checks the connection and loads the path map. -/
def start : RowOp Unit := do
  if !(← get).live then throw (.context "failed to acquire connection" (.plain "closed pool"))
  send (some "failed to ping database") RowServer.ping
  let rows ← send (some "failed to load keys") RowServer.selectKeys
  modify fun st => { st with keys := rows.foldl (fun ix (p, id) => ix.insert p id) st.keys }

/-- Closes the storage: the path map is emptied and the pool closed. -/
def stop : RowOp Unit := modify fun st => { st with live := false, keys := {} }

/-- Closes the storage and opens a new one on the same server. -/
def reopen : RowOp Unit := do
  stop
  build
  start

/-- The record of a row; a missing row is a missing path. -/
def readRecord (id : String) : RowOp Record := do
  match ← send (some "failed to query item") (RowServer.selectItem id) with
  | some row => pure row.record
  | none => throw (.sentinel .notExist)

/-- Inserts the row of a record, stamped with the time of the clock. -/
def insertRecord (path : String) (r : Record) : RowOp Unit := do
  let now := (← get).surroundings.now
  send (some "failed to insert item")
    (RowServer.insertItem (ItemRow.ofRecord path (r.stampedAt now)))

/-- The id of a path in the map, or the error that names the path as missing. -/
def idOf (path : String) : RowOp String := do
  match (← get).keys.get? path with
  | some id => pure id
  | none => throw (.detail .notExist ("'" ++ path ++ "'"))

/-- The principal names by id. -/
def readPrincipals : RowOp (List (String × String)) :=
  send (some "failed to query principals") RowServer.selectPrincipals

/-- Whether a path is in the map. -/
def present (path : String) : RowOp Bool := do pure ((← get).keys.contains path)

/-- Creates a container; one in the map is left as it is. -/
def createContainer (name : String) : RowOp Unit := do
  orThrow (validateContainer name)
  if (← get).keys.contains name then return
  let id ← freshId
  let r ← orThrow (Record.ofState id true (AccessControl.initial none true))
  insertRecord name r
  modify fun st => { st with keys := st.keys.insert name id }

/-- Inserts the rows of the segments below `current`, whose record is `parent`; the paths
inserted so far are in `created`. The result is the paths to enter the map on commit, or
nothing when the item turns out to exist as a file already, which ends the creation without
committing. -/
def createBelow (folder : Bool) : String → Record → List String → List (String × String) →
    RowOp (Option (List (String × String)))
  | _, _, [], created => pure (some created)
  | current, parent, segment :: rest, created => do
    let current := Path.join [current, segment]
    let last := rest.isEmpty
    match (← get).keys.get? current with
    | some id =>
      let r ← readRecord id
      if !r.folder then
        if last && !folder then pure none
        else throw (.detail .notDirectory ("'" ++ current ++ "'"))
      else if last && !folder then throw (.detail .exist ("'" ++ current ++ "' is a directory"))
      else createBelow folder current r rest created
    | none =>
      let above ← orThrow parent.state
      let isFolder := folder || !last
      let id ← freshId
      let r ← orThrow (Record.ofState id isFolder (AccessControl.initial (some above) isFolder))
      insertRecord current r
      createBelow folder current r rest (created ++ [(current, id)])

/-- Creates a directory or an empty file, with the missing directories above it, in one
transaction. -/
def create (path : String) (folder : Bool) : RowOp Unit := do
  orThrow (Path.validate path)
  if Path.isContainer path then
    throw (.detail .invalidPath ("'" ++ path ++ "' is a container root"))
  let (container, rel) := Path.split path
  let parentId ← match (← get).keys.get? container with
    | some id => pure id
    | none => throw (.detail .containerNotExist ("'" ++ container ++ "'"))
  send (some "failed to begin transaction") RowServer.begin
  let before := (← get).server.items
  let rollback : RowOp Unit :=
    modify fun st => { st with server := { st.server with items := before } }
  let outcome ← tryCatch (do
      let parent ← readRecord parentId
      match ← createBelow folder container parent (Path.segments rel) [] with
      | none => pure none
      | some created =>
        send (some "failed to commit transaction") RowServer.commit
        pure (some created)) fun e => do
    rollback
    throw e
  match outcome with
  | none => rollback
  | some created =>
    modify fun st => { st with keys := created.foldl (fun ix (p, id) => ix.insert p id) st.keys }

/-- The state of a path, principal ids turned into names when asked. -/
def readAccess (path : String) (upn : Bool) : RowOp AccessControl := do
  let id ← idOf path
  let r ← readRecord id
  let ac ← orThrow r.state
  if upn then pure (ac.withNames (← readPrincipals)) else pure ac

/-- Stores the state of a path after checking it, principal names turned into object ids, and
stamps it with the time of the clock. -/
def writeAccess (path : String) (ac : Option AccessControl) : RowOp Unit := do
  let id ← idOf path
  let current ← readRecord id
  let prepared ← orThrow (AccessControl.prepare path ac current.folder)
  let principals ← readPrincipals
  let r ← orThrow (Record.ofState id current.folder (prepared.withIds principals))
  let now := (← get).surroundings.now
  send (some "failed to update access control") (RowServer.updateItem id fun row =>
    { row with owner := r.owner, group := r.group, permissions := r.permissions, acl := r.acl,
               defaultAcl := r.defaultAcl, modifyTime := now })

/-- The items below a directory, in path order. -/
def list (path : String) (recursive : Bool) (max : Int) : RowOp (List Item) := do
  let id ← idOf path
  let r ← readRecord id
  if !r.folder then throw (.detail .notDirectory ("'" ++ path ++ "'"))
  let pre := path ++ "/"
  let rows ← send (some "failed to list items") (RowServer.listItems pre)
  let items := rows.filterMap fun (p, f) =>
    if !recursive && ((p.drop pre.length).toString.contains '/') then none else some ⟨p, f⟩
  pure (limitItems items max)

/-- The containers in the map, in order. -/
def containers : RowOp (List String) := do
  pure ((← get).keys.keys.filter Path.isContainer)

/-- Adds or replaces a principal name. -/
def addPrincipal (id upn : String) : RowOp Unit :=
  send none (RowServer.insertPrincipal id upn)

/-- The storage on a database server. -/
def storage : Storage RowOp where
  name := "postgres"
  capabilities := Capability.all.map Capability.name
  start := start
  stop := stop
  present := present
  createContainer := createContainer
  createDirectory p := create p true
  readAccess := readAccess
  writeAccess := writeAccess
  list := list
  listContainers := containers

end RowOp

end AclReconcile.Rows
