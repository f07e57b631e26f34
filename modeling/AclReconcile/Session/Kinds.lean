import AclReconcile.Session.Bench
import AclReconcile.Storage.Memory
import AclReconcile.Storage.Sqlite
import AclReconcile.Storage.Local
import AclReconcile.Storage.Bucket
import AclReconcile.Storage.Rows
import AclReconcile.Storage.KeyValue

/-!
# The kinds of storage a session can hold

Each kind names its operations, how it reopens, and which of the steps that go past the
operations it has.
-/

namespace AclReconcile

/-- A storage held in memory; reopening starts over with an empty one. -/
def memoryKind : Backend MemoryStore where
  storage := MemoryStore.storage
  reopen := do
    MemoryStore.storage.stop
    set ({} : MemoryStore)
    MemoryStore.storage.start
  createFile := some fun p => MemoryStore.create p false
  addPrincipal := some MemoryStore.addPrincipal

/-- A storage in a database file; reopening connects to the same file again. -/
def sqliteKind : Backend SqliteStore where
  storage := SqliteStore.storage
  reopen := SqliteStore.reopen
  createFile := some fun p => SqliteStore.create p false
  addPrincipal := some SqliteStore.addPrincipal
  files := some fun
    | .write p c => SqliteStore.writeFile p c
    | .makeDirectories _ => pure ()
    | .remove p => SqliteStore.removeFile p
  sql := some SqliteStore.runSql

namespace LocalStore

/-- The place of a path below the root; "" is the root itself. -/
def below (st : LocalStore) (path : String) : String := st.itemPath path

/-- A change of the files below the root, made behind the storage's back. -/
def changeFiles : FileChange → Op Unit
  | .write p c => do
    let target := (← get).below p
    change fun t => t.mkdirAll (FileTree.parentOf target)
    change fun t => t.writeFile target c
  | .makeDirectories p => do
    let target := (← get).below p
    change fun t => t.mkdirAll target
  | .remove p => do
    let st ← get
    set { st with tree := st.tree.removeAll (st.below p) }

/-- A storage on the directory "tree" of the directory "<root>", before it is opened. -/
def initial : LocalStore where
  tree := { nodes := Index.insert {} "<root>/tree" .directory, roots := ["<root>"] }
  root := "<root>/tree"

end LocalStore

/-- A storage on a directory tree; reopening opens the same tree again. -/
def localKind : Backend LocalStore where
  storage := LocalStore.storage
  reopen := LocalStore.start
  createFile := some fun p => LocalStore.create p false
  files := some LocalStore.changeFiles

namespace ObjectStore

/-- A change made to the object store by another client. -/
def change : StoreChange → EStateM Error ObjectServer (Except String (Option (List String)))
  | .put bucket key _ contentType metadata => do
    modify fun s => ((ObjectServer.store bucket key { contentType, metadata }).run s).2
    pure (.ok none)
  | .remove bucket key => do
    modify fun s => match s.buckets.get? bucket with
      | some objects => { s with buckets := s.buckets.insert bucket (objects.erase key) }
      | none => s
    pure (.ok none)
  | .keys => do pure (.ok (some (← get).allKeys))
  | .faults rules => do
    modify fun s => { s with rules }
    pure (.ok none)
  | .makeBucket bucket => do
    modify fun s => if s.buckets.contains bucket then s
      else { s with buckets := s.buckets.insert bucket {} }
    pure (.ok none)

end ObjectStore

/-- A storage on an object store; reopening builds a new client for the same store. -/
def bucketKind : Backend ObjectStore.ObjectServer where
  storage := ObjectStore.BucketOp.storage
  reopen := ObjectStore.BucketOp.start
  store := some ObjectStore.change

namespace Rows

/-- A change made to the database server by another client. -/
def change : StoreChange → EStateM Error RowStore (Except String (Option (List String)))
  | .put _ path value _ _ =>
    match RowServer.applyChange value default with
    | .error e => pure (.error ("store_put value: " ++ e.message))
    | .ok _ => do
      let st ← get
      if !st.server.items.any (·.path == path) then
        return .error ("no stored row for '" ++ path ++ "'")
      let items := st.server.items.map fun r =>
        if r.path == path then (RowServer.applyChange value r).toOption.getD r else r
      set { st with server := { st.server with items } }
      pure (.ok none)
  | .remove _ path => do
    modify fun st =>
      { st with server := { st.server with items := st.server.items.filter (·.path != path) } }
    pure (.ok none)
  | .keys => do pure (.ok (some (← get).server.paths))
  | .faults rules => do
    modify fun st => { st with server := { st.server with rules } }
    pure (.ok none)
  | .makeBucket _ => pure (.error "store_make_bucket needs an object store")

end Rows

/-- A storage on a database server; reopening makes a new pool on the same server. -/
def rowKind : Backend Rows.RowStore where
  storage := Rows.RowOp.storage
  reopen := Rows.RowOp.reopen
  createFile := some fun p => Rows.RowOp.create p false
  addPrincipal := some Rows.RowOp.addPrincipal
  store := some Rows.change

namespace KeyValue

/-- A change made to the key-value store by another client. -/
def change : StoreChange → EStateM Error KvStore (Except String (Option (List String)))
  | .put _ key value _ _ => do
    modify fun st => { st with server := ((KvServer.write key value).run st.server).2 }
    pure (.ok none)
  | .remove _ key => do
    modify fun st => { st with server := { st.server with pairs := st.server.pairs.erase key } }
    pure (.ok none)
  | .keys => do pure (.ok (some (← get).server.allKeys))
  | .faults rules => do
    modify fun st => { st with server := { st.server with rules } }
    pure (.ok none)
  | .makeBucket _ => pure (.error "store_make_bucket needs an object store")

end KeyValue

/-- A storage on a key-value store; reopening builds a new client for the same store. -/
def keyValueKind : Backend KeyValue.KvStore where
  storage := KeyValue.KvOp.storage
  reopen := KeyValue.KvOp.start
  createFile := some fun p => KeyValue.KvOp.create p false
  addPrincipal := some KeyValue.KvOp.addPrincipal
  store := some KeyValue.change

end AclReconcile
