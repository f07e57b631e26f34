import AclReconcile.Storage.Basic

/-!
# The operations of a storage

A storage holds containers; each container holds directories and files below it, addressed by
paths that start with the container's name. It answers seven operations, opens and closes, and
announces a name and its capabilities. The operations run in a monad of the caller's choice, so
that one storage can be wrapped by another: one that fails some calls on purpose, one that tries
again after a failure, one that announces other capabilities.
-/

namespace AclReconcile

/-- The seven operations of a storage, by the name they carry in logs and counts. -/
inductive Operation where
  | presence | createContainer | createDirectory | readAccess | writeAccess | list
  | listContainers
  deriving DecidableEq, Repr, Inhabited

/-- The name of an operation. -/
def Operation.name : Operation → String
  | .presence => "exists"
  | .createContainer => "create_container"
  | .createDirectory => "create_directory"
  | .readAccess => "get_access_control"
  | .writeAccess => "set_access_control"
  | .list => "list"
  | .listContainers => "list_containers"

/-- A storage whose operations run in the monad `m`. -/
structure Storage (m : Type → Type) where
  name : String
  capabilities : List String
  start : m Unit
  stop : m Unit
  /-- Whether a container, directory or file is stored under the path. -/
  present : String → m Bool
  createContainer : String → m Unit
  /-- Creates a directory and the missing directories above it, within an existing container. -/
  createDirectory : String → m Unit
  /-- The state of a path; with the flag set, identities are shown as principal names. -/
  readAccess : String → Bool → m AccessControl
  writeAccess : String → Option AccessControl → m Unit
  /-- The items below a path: the children, or every descendant when the flag is set; at most
  the given number unless it is not positive. -/
  list : String → Bool → Int → m (List Item)
  listContainers : m (List String)

namespace Storage

variable {m : Type → Type}

/-- Whether a storage announces a capability. -/
def supports (s : Storage m) (c : Capability) : Bool :=
  s.capabilities.contains c.name

/-- The same storage, announcing other capabilities. -/
def announcing (s : Storage m) (cs : List String) : Storage m :=
  { s with capabilities := cs }

/-- Every operation of a storage passed through `f`, which is told the operation and its path
(the empty path for the list of containers). -/
def around (s : Storage m) (f : {α : Type} → Operation → String → m α → m α) : Storage m :=
  { s with
    present := fun p => f .presence p (s.present p)
    createContainer := fun n => f .createContainer n (s.createContainer n)
    createDirectory := fun p => f .createDirectory p (s.createDirectory p)
    readAccess := fun p upn => f .readAccess p (s.readAccess p upn)
    writeAccess := fun p ac => f .writeAccess p (s.writeAccess p ac)
    list := fun p r n => f .list p (s.list p r n)
    listContainers := f .listContainers "" s.listContainers }

/-- A storage whose operations run in another monad, through `lift`. -/
def lift {n : Type → Type} (lift : {α : Type} → m α → n α) (s : Storage m) : Storage n where
  name := s.name
  capabilities := s.capabilities
  start := lift s.start
  stop := lift s.stop
  present p := lift (s.present p)
  createContainer c := lift (s.createContainer c)
  createDirectory p := lift (s.createDirectory p)
  readAccess p upn := lift (s.readAccess p upn)
  writeAccess p ac := lift (s.writeAccess p ac)
  list p r k := lift (s.list p r k)
  listContainers := lift s.listContainers

end Storage

end AclReconcile
