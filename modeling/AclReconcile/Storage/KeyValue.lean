import AclReconcile.Storage.Interface
import AclReconcile.Storage.Record
import AclReconcile.KeyValue.Server
import AclReconcile.Json.Write

/-!
# A storage on a key-value store

Every item is one key, the storage's prefix followed by the item's path, whose value is the
item's record in JSON. Principal names live under a second prefix, one key per object id. A new
item is written only if its key is absent, so a creation that loses that race takes the record
it finds, provided it is of the same kind; a change of state is written only if the key has not
changed since it was read, and otherwise reports a concurrent modification.

Looking up principal names asks for each identity in turn, and any failed request fails the
whole reading.
-/

namespace AclReconcile.KeyValue

/-- The settings of the storage. -/
structure KvConfig where
  address : String := ""
  scheme : String := ""
  token : String := ""
  datacenter : String := ""
  namespaceName : String := ""
  keyPrefix : String := ""
  principalPrefix : String := ""
  /-- The clock and the ids the client takes. -/
  surroundings : Surroundings := {}
  deriving Inhabited

/-- The settings with their defaults: the local agent's address, the prefix "aclsync" and the
principal prefix after it; prefixes lose their separators at both ends and must differ. -/
def KvConfig.settle (c : KvConfig) : Except Error KvConfig := do
  let address := if c.address.isEmpty then "127.0.0.1:8500" else c.address
  let keyPrefix := Path.trimSeparators c.keyPrefix
  let keyPrefix := if keyPrefix.isEmpty then "aclsync" else keyPrefix
  let principalPrefix := Path.trimSeparators c.principalPrefix
  let principalPrefix := if principalPrefix.isEmpty then keyPrefix ++ "-principals"
    else principalPrefix
  if principalPrefix == keyPrefix then
    throw (.plain ("principal prefix must differ from prefix '" ++ keyPrefix ++ "'"))
  pure { c with address, keyPrefix, principalPrefix }

/-- The settings with their defaults, once the client accepts the address: a scheme written
before "://" must be http, https or unix. -/
def KvConfig.build (c : KvConfig) : Except Error KvConfig := do
  let c ← c.settle
  match c.address.splitOn "://" with
  | scheme :: _ :: _ =>
    if !(["http", "https", "unix"].contains scheme) then
      throw (.plain ("Unknown protocol scheme: " ++ scheme))
  | _ => pure ()
  pure c

/-- The key of a path. -/
def KvConfig.keyOf (c : KvConfig) (path : String) : String :=
  c.keyPrefix ++ "/" ++ Path.trimSeparators path

/-- The path of a key. -/
def KvConfig.pathOf (c : KvConfig) (key : String) : String :=
  let pre := c.keyPrefix ++ "/"
  if key.startsWith pre then (key.drop pre.length).toString else key

/-- The key of a principal name. -/
def KvConfig.principalKey (c : KvConfig) (id : String) : String :=
  c.principalPrefix ++ "/" ++ id

/-- The state of the storage: the store, the settings and the ids handed out. -/
structure KvStore where
  server : KvServer
  config : KvConfig
  serial : Nat := 0
  deriving Inhabited

/-- Operations of the storage. -/
abbrev KvOp := EStateM Error KvStore

namespace KvOp

/-- A result that may fail, inside an operation. -/
def orThrow {α : Type} : Except Error α → KvOp α
  | .ok a => pure a
  | .error e => throw e

/-- A request to the store; a failed one ends the operation. -/
def call {α : Type} (r : KvRequest (Except KvError α)) : KvOp α := do
  let st ← get
  let (result, server) := r.run st.server
  set { st with server }
  match result with
  | .ok a => pure a
  | .error e => throw (.plain e.text)

/-- A new record id. -/
def freshId : KvOp String := do
  let st ← get
  set { st with serial := st.serial + 1 }
  pure (st.config.surroundings.newId (st.serial + 1))

/-- Reads the record stored under a key. -/
def decodeAt (key value : String) : Except Error Record :=
  (Record.readJson value).mapError (.context ("failed to decode '" ++ key ++ "'"))

/-- The record of a path and the index of its last change. -/
def readRecord (path : String) : KvOp (Record × Nat) := do
  let key := (← get).config.keyOf path
  match ← call (KvServer.read key) with
  | none => throw (.detail .notExist ("'" ++ path ++ "'"))
  | some p =>
    let r ← orThrow (decodeAt p.key p.value)
    pure (r, p.modifyIndex)

/-- Writes a record, stamped with the time of the clock, if its key's last change is still
`seen`; answers whether it wrote. -/
def writeRecord (path : String) (r : Record) (seen : Nat) : KvOp Bool := do
  let config := (← get).config
  call (KvServer.compareAndSet (config.keyOf path)
    (Json.render (r.stampedAt config.surroundings.now).toJson) seen)

/-- Creates the record of a new item below a state; when the key turns out to be taken, the
record found there is used if it is of the same kind. -/
def createRecord (path : String) (parent : Option AccessControl) (folder : Bool) : KvOp Record := do
  let id ← freshId
  let r ← orThrow (Record.ofState id folder (AccessControl.initial parent folder))
  if ← writeRecord path r 0 then return r
  let (existing, _) ← readRecord path
  if existing.folder != folder then throw (.detail .exist ("'" ++ path ++ "'"))
  pure existing

/-- Checks that the store can be reached. -/
def start : KvOp Unit := do
  let address := (← get).config.address
  tryCatch (do let _ ← call KvServer.leader) fun e =>
    throw (.context ("failed to reach consul at '" ++ address ++ "'") e)

/-- Whether a path has a key. -/
def present (path : String) : KvOp Bool := do
  let key := (← get).config.keyOf path
  pure (← call (KvServer.read key)).isSome

/-- Creates a container; an existing one is kept. -/
def createContainer (name : String) : KvOp Unit := do
  orThrow (validateContainer name)
  let _ ← createRecord name none true

/-- Creates the records of the segments below `current`, whose record is `parent`. -/
def createBelow (folder : Bool) : String → Record → List String → KvOp Unit
  | _, _, [] => pure ()
  | current, parent, segment :: rest => do
    let current := Path.join [current, segment]
    let last := rest.isEmpty
    let found ← tryCatch (do pure (some (← readRecord current))) fun e =>
      if e.is .notExist then pure none else throw e
    match found with
    | some (r, _) =>
      if !r.folder then
        if last && !folder then pure ()
        else throw (.detail .notDirectory ("'" ++ current ++ "'"))
      else if last && !folder then throw (.detail .exist ("'" ++ current ++ "' is a directory"))
      else createBelow folder current r rest
    | none =>
      let above ← orThrow parent.state
      let r ← createRecord current (some above) (folder || !last)
      createBelow folder current r rest

/-- Creates a directory or an empty file, with the missing directories above it. -/
def create (path : String) (folder : Bool) : KvOp Unit := do
  orThrow (Path.validate path)
  if Path.isContainer path then
    throw (.detail .invalidPath ("'" ++ path ++ "' is a container root"))
  let (container, rel) := Path.split path
  let (parent, _) ← tryCatch (readRecord container) fun e =>
    if e.is .notExist then throw (.detail .containerNotExist ("'" ++ container ++ "'"))
    else throw e
  createBelow folder container parent (Path.segments rel)

/-- Looks up the principal name of each id in turn: the names found, and whether some request
failed. -/
def lookupNames : List String → KvOp (List (String × String) × Option Error)
  | [] => pure ([], none)
  | id :: rest => do
    let key := (← get).config.principalKey id
    let found : Except Error (Option String) ← tryCatch (do
        match ← call (KvServer.read key) with
        | some p => pure (.ok (some p.value))
        | none => pure (.ok none)) fun e => pure (.error e)
    let (names, failed) ← lookupNames rest
    match found with
    | .ok (some name) => pure ((id, name) :: names, failed)
    | .ok none => pure (names, failed)
    | .error e => pure (names, failed.orElse fun _ => some e)

/-- The identities whose names are looked up: those of both lists that are not empty, then
the owner and the group. -/
def identities (ac : AccessControl) : List String :=
  ((ac.acl ++ ac.defaultAcl).map (·.identity)).filter (· != "") ++ [ac.owner, ac.group]

/-- The state of a path, principal ids turned into names when asked. -/
def readAccess (path : String) (upn : Bool) : KvOp AccessControl := do
  let (r, _) ← readRecord path
  let ac ← orThrow r.state
  if !upn then return ac
  let (names, failed) ← lookupNames (identities ac)
  match failed with
  | some e => throw (.context ("failed to resolve principals of '" ++ path ++ "'") e)
  | none => pure (ac.withNames names)

/-- The principal names by id. -/
def readPrincipals : KvOp (List (String × String)) := do
  let pre := (← get).config.principalPrefix ++ "/"
  let pairs ← call (KvServer.list pre)
  pure (pairs.map fun p => ((p.key.drop pre.length).toString, p.value))

/-- Stores the state of a path after checking it, principal names turned into object ids;
the write fails if the key changed since it was read. -/
def writeAccess (path : String) (ac : Option AccessControl) : KvOp Unit := do
  let (current, seen) ← readRecord path
  let prepared ← orThrow (AccessControl.prepare path ac current.folder)
  let principals ← tryCatch readPrincipals fun e => throw (.context "failed to read principals" e)
  let r ← orThrow (Record.ofState current.id current.folder (prepared.withIds principals))
  if !(← writeRecord path r seen) then
    throw (.plain ("aclsync: concurrent modification detected: '" ++ path ++ "'"))

/-- The items below a directory, in key order. -/
def list (path : String) (recursive : Bool) (max : Int) : KvOp (List Item) := do
  let (r, _) ← readRecord path
  if !r.folder then throw (.detail .notDirectory ("'" ++ path ++ "'"))
  let config := (← get).config
  let pre := config.keyOf path ++ "/"
  let pairs ← call (KvServer.list pre)
  let items ← pairs.filterMapM fun p => do
    let child := config.pathOf p.key
    if !Path.isBelow child path then return none
    if !recursive && ((p.key.drop pre.length).toString.contains '/') then return none
    let r ← orThrow (decodeAt p.key p.value)
    pure (some (⟨child, r.folder⟩ : Item))
  pure (limitItems items max)

/-- The containers: the keys one level below the prefix. -/
def containers : KvOp (List String) := do
  let config := (← get).config
  let keys ← call (KvServer.keysBelow (config.keyPrefix ++ "/") "/")
  pure ((keys.filter fun k => !k.endsWith "/").map config.pathOf)

/-- Adds or replaces a principal name. -/
def addPrincipal (id upn : String) : KvOp Unit := do
  let key := (← get).config.principalKey id
  call (KvServer.put key upn)

/-- The storage on a key-value store. -/
def storage : Storage KvOp where
  name := "consul"
  capabilities := Capability.all.map Capability.name
  start := start
  stop := pure ()
  present := present
  createContainer := createContainer
  createDirectory p := create p true
  readAccess := readAccess
  writeAccess := writeAccess
  list := list
  listContainers := containers

end KvOp

end AclReconcile.KeyValue
