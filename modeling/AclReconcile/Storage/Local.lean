import AclReconcile.Storage.Interface
import AclReconcile.Storage.Record
import AclReconcile.FileTree
import AclReconcile.Json.Write

/-!
# A storage on a local directory tree

Containers are the directories at the top of a root directory, and every item is a directory or
file below them. The state of an item is kept in a record file beside the tree, in the hidden
directory `.aclsync` of the root, at the item's path with `.acl.json` appended; a record is
replaced by writing a temporary file and renaming it. An item without a record has the state it
would have had if it had just been created below its parent, which is worked out from the
parent's record or, again, from its own parent. The name `.aclsync` is reserved and cannot be a
container. The storage knows no principal names.
-/

namespace AclReconcile

/-- The hidden directory that holds the records. -/
def stateDir : String := ".aclsync"

/-- The state of a storage on a local directory tree. -/
structure LocalStore where
  tree : FileTree
  /-- The root directory of the storage. -/
  root : String
  /-- The number of ids handed out. -/
  serial : Nat := 0
  /-- The clock and the ids the storage takes. -/
  surroundings : Surroundings := {}
  deriving Inhabited

/-- What reading a record finds. -/
inductive RecordRead where
  | found (r : Record)
  | absent
  | failed (e : Error)

namespace LocalStore

/-- Operations on a storage on a local directory tree. -/
abbrev Op := EStateM Error LocalStore

/-- A failed operation on files as an error of the storage. -/
def fileError (e : FileError) : Error := .plain e.message

/-- A result that may fail, inside an operation. -/
def orThrow {α : Type} : Except Error α → Op α
  | .ok a => pure a
  | .error e => throw e

/-- Runs a change of the tree, keeping the tree unchanged when it fails. -/
def change (f : FileTree → Except FileError FileTree) : Op Unit := do
  let st ← get
  match f st.tree with
  | .ok t => set { st with tree := t }
  | .error e => throw (fileError e)

/-- The place of an item in the tree. -/
def itemPath (st : LocalStore) (path : String) : String :=
  FileTree.clean (st.root ++ "/" ++ path)

/-- The place of an item's record. -/
def recordPath (st : LocalStore) (path : String) : String :=
  FileTree.clean (st.root ++ "/" ++ stateDir ++ "/" ++ path ++ ".acl.json")

/-- Checks a path, which may not lie in the hidden directory. -/
def validate (path : String) : Except Error Unit := do
  Path.validate path
  if (Path.split path).1 == stateDir then
    throw (.detail .invalidPath ("'" ++ path ++ "' is reserved"))

/-- A new record id. -/
def freshId : Op String := do
  let st ← get
  set { st with serial := st.serial + 1 }
  pure (st.surroundings.newId (st.serial + 1))

/-- Reads the record of an item. -/
def readRecord (st : LocalStore) (path : String) : RecordRead :=
  match st.tree.readFile (st.recordPath path) with
  | .error e => if e.errno == .noEntry then .absent else .failed (fileError e)
  | .ok content =>
    match Record.readJson content with
    | .ok r => .found r
    | .error e => .failed (.context ("failed to decode record of '" ++ path ++ "'") e)

/-- The state of an item: from its record, or else handed down from its parent, looking at
most `fuel` levels up. -/
def accessWithin (st : LocalStore) : Nat → String → Bool → Except Error AccessControl
  | fuel, path, folder =>
    match st.readRecord path with
    | .found r => r.state
    | .failed e => .error e
    | .absent =>
      let parent := Path.parent path
      match fuel, parent with
      | 0, _ | _, "" => .ok (AccessControl.initial none folder)
      | k + 1, parent => do
        let above ← st.accessWithin k parent true
        pure (AccessControl.initial (some above) folder)

/-- The state of an item. -/
def access (st : LocalStore) (path : String) (folder : Bool) : Except Error AccessControl :=
  st.accessWithin (Path.segments path).length path folder

/-- Replaces the record of an item, stamped with the time of the clock, through a temporary
file. -/
def writeRecord (path : String) (r : Record) : Op Unit := do
  let st ← get
  let target := st.recordPath path
  change fun t => t.mkdirAll (FileTree.parentOf target)
  let tmp := target ++ ".tmp"
  change fun t => t.writeFile tmp (Json.render (r.stampedAt st.surroundings.now).toJson)
  change fun t => t.rename tmp target

/-- What an item is, with a missing item named as such. -/
def statItem (path : String) : Op FileNode := do
  let st ← get
  match st.tree.stat (st.itemPath path) with
  | .ok n => pure n
  | .error e =>
    if e.errno == .noEntry then throw (.detail .notExist ("'" ++ path ++ "'"))
    else throw (fileError e)

/-- Opens the storage: the root must be a directory, and the hidden directory is made. -/
def start : Op Unit := do
  let st ← get
  match st.tree.stat st.root with
  | .error e =>
    if e.errno == .noEntry then throw (.detail .notExist ("root '" ++ st.root ++ "'"))
    else throw (fileError e)
  | .ok (.file _) => throw (.detail .notDirectory ("root '" ++ st.root ++ "'"))
  | .ok .directory => change fun t => t.mkdirAll (st.root ++ "/" ++ stateDir)

/-- Whether an item exists. -/
def present (path : String) : Op Bool := do
  orThrow (validate path)
  let st ← get
  match st.tree.stat (st.itemPath path) with
  | .ok _ => pure true
  | .error e => if e.errno == .noEntry then pure false else throw (fileError e)

/-- Creates a container; an existing one keeps its record. -/
def createContainer (name : String) : Op Unit := do
  orThrow (validateContainer name)
  if name == stateDir then throw (.detail .invalidContainer ("'" ++ name ++ "' is reserved"))
  let st ← get
  match st.tree.mkdir (st.itemPath name) with
  | .ok t => set { st with tree := t }
  | .error e => if e.errno == .exists then pure () else throw (fileError e)
  let st ← get
  if (st.tree.stat (st.recordPath name)).toBool then return
  let id ← freshId
  let r ← orThrow (Record.ofState id true (AccessControl.initial none true))
  writeRecord name r

/-- Creates the segments below `current`, whose state is `parent`. -/
def createBelow (folder : Bool) : String → AccessControl → List String → Op Unit
  | _, _, [] => pure ()
  | current, parent, segment :: rest => do
    let current := Path.join [current, segment]
    let last := rest.isEmpty
    let isFolder := folder || !last
    let st ← get
    match st.tree.stat (st.itemPath current) with
    | .ok n =>
      if !n.isDirectory then
        if last && !folder then pure ()
        else throw (.detail .notDirectory ("'" ++ current ++ "'"))
      else if last && !folder then throw (.detail .exist ("'" ++ current ++ "' is a directory"))
      else
        let above ← orThrow (st.access current true)
        createBelow folder current above rest
    | .error e =>
      if e.errno != .noEntry then throw (fileError e)
      if isFolder then change fun t => t.mkdir (st.itemPath current)
      else change fun t => t.writeFile (st.itemPath current) ""
      let ac := AccessControl.initial (some parent) isFolder
      let id ← freshId
      let r ← orThrow (Record.ofState id isFolder ac)
      writeRecord current r
      createBelow folder current ac rest

/-- Creates a directory or an empty file, with the missing directories above it. -/
def create (path : String) (folder : Bool) : Op Unit := do
  orThrow (validate path)
  if Path.isContainer path then throw (.detail .invalidPath ("'" ++ path ++ "' is a container root"))
  let (container, rel) := Path.split path
  let st ← get
  match st.tree.stat (st.itemPath container) with
  | .ok .directory => pure ()
  | _ => throw (.detail .containerNotExist ("'" ++ container ++ "'"))
  let parent ← orThrow (st.access container true)
  createBelow folder container parent (Path.segments rel)

/-- The state of an item. -/
def readAccess (path : String) (_upn : Bool) : Op AccessControl := do
  orThrow (validate path)
  let n ← statItem path
  orThrow ((← get).access path n.isDirectory)

/-- Stores the state of an item after checking it, keeping the id of its record. -/
def writeAccess (path : String) (ac : Option AccessControl) : Op Unit := do
  orThrow (validate path)
  let n ← statItem path
  let prepared ← orThrow (AccessControl.prepare path ac n.isDirectory)
  let fresh ← freshId
  let id ← match (← get).readRecord path with
    | .found r => pure r.id
    | .absent => pure fresh
    | .failed e => throw e
  let r ← orThrow (Record.ofState id n.isDirectory prepared)
  writeRecord path r

/-- The items below a directory, in path order. -/
def list (path : String) (recursive : Bool) (max : Int) : Op (List Item) := do
  orThrow (validate path)
  let n ← statItem path
  if !n.isDirectory then throw (.detail .notDirectory ("'" ++ path ++ "'"))
  let st ← get
  let base := st.itemPath path
  let below := (st.tree.descendants base).filterMap fun (k, node) =>
    let rel := (k.drop (base.length + 1)).toString
    if recursive || !rel.contains '/' then some (⟨Path.join [path, rel], node.isDirectory⟩ : Item)
    else none
  let sorted := below.mergeSort fun a b => !(b.path < a.path)
  pure (limitItems sorted max)

/-- The names of the containers, in order. -/
def containers : Op (List String) := do
  let st ← get
  match st.tree.readDir st.root with
  | .error e => throw (fileError e)
  | .ok entries =>
    pure (entries.filterMap fun (n, node) =>
      if node.isDirectory && n != stateDir then some n else none)

/-- The storage over a local directory tree. -/
def storage : Storage Op where
  name := "local"
  capabilities := [Capability.acl, .containers, .recursiveList].map Capability.name
  start := start
  stop := pure ()
  present := present
  createContainer := createContainer
  createDirectory p := create p true
  readAccess := readAccess
  writeAccess := writeAccess
  list := list
  listContainers := containers

end LocalStore

end AclReconcile
