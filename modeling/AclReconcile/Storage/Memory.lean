import AclReconcile.Storage.Interface
import AclReconcile.Index

/-!
# A storage held in memory

Every container, directory and file is a node of one ordered index, under its full path; a
container is the node whose path has no separator. Creating a path creates the missing
directories above it, each taking the state its parent hands down. A table from object ids to
principal names turns ids into names when a caller asks for them, and names back into ids when
a state is stored. Closing the storage forgets everything.
-/

namespace AclReconcile

/-- A stored directory or file. -/
structure MemoryNode where
  folder : Bool
  access : AccessControl
  deriving Inhabited

/-- The contents of a storage held in memory. -/
structure MemoryStore where
  nodes : Index MemoryNode := {}
  /-- Principal names by object id. -/
  principals : Index String := {}
  deriving Inhabited

namespace MemoryStore

/-- Operations on a storage held in memory. -/
abbrev Op := EStateM Error MemoryStore

/-- The node stored under a path, or the error that names the path as missing. -/
def node (path : String) : Op MemoryNode := do
  match (← get).nodes.get? path with
  | some n => pure n
  | none => throw (.detail .notExist ("'" ++ path ++ "'"))

/-- Creates the segments of a path below `current`, whose state is `parentAccess`. A file is
created only as the last segment; an existing file elsewhere on the way is an error, and so is
an existing directory where a file is asked for. -/
def createBelow (folder : Bool) : String → AccessControl → List String → Op Unit
  | _, _, [] => pure ()
  | current, parentAccess, segment :: rest => do
    let current := Path.join [current, segment]
    let last := rest.isEmpty
    match (← get).nodes.get? current with
    | some n =>
      if !n.folder then
        if last && !folder then pure ()
        else throw (.detail .notDirectory ("'" ++ current ++ "'"))
      else if last && !folder then throw (.detail .exist ("'" ++ current ++ "' is a directory"))
      else createBelow folder current n.access rest
    | none =>
      let isFolder := folder || !last
      let access := AccessControl.initial (some parentAccess) isFolder
      modify fun s => { s with nodes := s.nodes.insert current ⟨isFolder, access⟩ }
      createBelow folder current access rest

/-- Creates a directory or an empty file, with the missing directories above it. -/
def create (path : String) (folder : Bool) : Op Unit := do
  match Path.validate path with
  | .error e => throw e
  | .ok () => pure ()
  if Path.isContainer path then throw (.detail .invalidPath ("'" ++ path ++ "' is a container root"))
  let (container, rel) := Path.split path
  match (← get).nodes.get? container with
  | none => throw (.detail .containerNotExist ("'" ++ container ++ "'"))
  | some root => createBelow folder container root.access (Path.segments rel)

/-- Creates a container; an existing one is left as it is. -/
def createContainer (name : String) : Op Unit := do
  match validateContainer name with
  | .error e => throw e
  | .ok () => pure ()
  if !(← get).nodes.contains name then
    modify fun s => { s with nodes := s.nodes.insert name ⟨true, AccessControl.initial none true⟩ }

/-- The state of a path, identities shown as principal names when `upn` is set. -/
def readAccess (path : String) (upn : Bool) : Op AccessControl := do
  let n ← node path
  if upn then pure (n.access.withNames (← get).principals.entries) else pure n.access

/-- Stores the state of a path after checking it, principal names turned into object ids. -/
def writeAccess (path : String) (ac : Option AccessControl) : Op Unit := do
  let n ← node path
  match AccessControl.prepare path ac n.folder with
  | .error e => throw e
  | .ok prepared =>
    modify fun s => { s with
      nodes := s.nodes.insert path { n with access := prepared.withIds s.principals.entries } }

/-- The items below a directory, in path order. -/
def list (path : String) (recursive : Bool) (max : Int) : Op (List Item) := do
  let n ← node path
  if !n.folder then throw (.detail .notDirectory ("'" ++ path ++ "'"))
  let pre := path ++ "/"
  let below := ((← get).nodes.atOrAfter pre).takeWhile fun e => Path.isBelow e.1 path
  let chosen := below.filter fun e => recursive || !(e.1.drop pre.length).contains '/'
  pure (limitItems (chosen.map fun e => ⟨e.1, e.2.folder⟩) max)

/-- The names of the containers, in order. -/
def containers : Op (List String) := do
  pure ((← get).nodes.keys.filter Path.isContainer)

/-- Registers the principal name of an object id. -/
def addPrincipal (id name : String) : Op Unit :=
  modify fun s => { s with principals := s.principals.insert id name }

/-- The storage over the memory store. -/
def storage : Storage Op where
  name := "memory"
  capabilities := Capability.all.map Capability.name
  start := pure ()
  stop := set ({} : MemoryStore)
  present p := do pure ((← get).nodes.contains p)
  createContainer := createContainer
  createDirectory p := create p true
  readAccess := readAccess
  writeAccess := writeAccess
  list := list
  listContainers := containers

end MemoryStore

end AclReconcile
