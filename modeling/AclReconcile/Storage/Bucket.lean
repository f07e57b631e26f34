import AclReconcile.Storage.Interface
import AclReconcile.ObjectStore.Metadata
import AclReconcile.ObjectStore.Server

/-!
# A storage on an object store

Containers are buckets, and an item is an object below them: a directory is the empty object
whose key is its path followed by the separator, a file the object under its path, and the state
of a bucket root is on the marker object. A path that has no object of its own but lies above
some key is a directory all the same, known only from the listing; it has no state of its own
until one is written. A state lives in the metadata of the item's object, so changing it copies
the object onto itself with new metadata.

Looking a path up tries the directory object, then the file object, then the listing below the
path; a missing object is "not there", any other failure of the store is passed on as it is.
The storage knows no principal names.
-/

namespace AclReconcile.ObjectStore

/-- An item of a bucket as a path names it. -/
structure Found where
  bucket : String
  key : String
  folder : Bool
  /-- The item has no object of its own. -/
  implicit : Bool := false
  metadata : List (String × String) := []

/-- Operations of the storage on an object store. -/
abbrev BucketOp := EStateM Error ObjectServer

namespace BucketOp

/-- A request to the store; its failure is kept for the caller to look at. -/
def call {α : Type} (c : Request (Except ClientError α)) : BucketOp (Except ClientError α) :=
  modifyGet fun s => c.run s

/-- A failure of the store as a failure of the storage. -/
def failure (e : ClientError) : Error := .plain e.message

/-- A request whose failure ends the operation, with a label when given. -/
def need {α : Type} (label : Option String) (c : Request (Except ClientError α)) :
    BucketOp α := do
  match ← call c with
  | .ok a => pure a
  | .error e => throw (match label with
    | some l => .context l (failure e)
    | none => failure e)

/-- A result that may fail, inside an operation. -/
def orThrow {α : Type} : Except Error α → BucketOp α
  | .ok a => pure a
  | .error e => throw e

/-- The metadata of an object, `none` when it is not there. -/
def stat (bucket key : String) : BucketOp (Option (List (String × String))) := do
  match ← call (ObjectServer.statObject bucket key) with
  | .ok m => pure (some m)
  | .error e => if e.isNotFound then pure none else throw (failure e)

/-- Writes the empty object of a state. -/
def put (bucket key contentType : String) (ac : AccessControl) : BucketOp Unit := do
  let metadata ← orThrow (encodeMetadata ac)
  need (some ("failed to write object '" ++ bucket ++ "/" ++ key ++ "'"))
    (ObjectServer.putObject bucket key contentType metadata)

/-- Checks a bucket, with the storage's label. -/
def bucketExists (bucket : String) : BucketOp Bool :=
  need (some ("failed to check bucket '" ++ bucket ++ "'")) (ObjectServer.bucketExists bucket)

/-- The item a path names. -/
def resolve (path : String) : BucketOp Found := do
  orThrow (Path.validate path)
  let (bucket, rel) := Path.split path
  if rel.isEmpty then
    if !(← bucketExists bucket) then throw (.detail .notExist ("'" ++ path ++ "'"))
    match ← stat bucket rootMarker with
    | some m => pure { bucket, key := rootMarker, folder := true, metadata := m }
    | none => pure { bucket, key := rootMarker, folder := true, implicit := true }
  else
    let (dirKey, fileKey) := objectKeys rel
    if let some m ← stat bucket dirKey then
      return { bucket, key := dirKey, folder := true, metadata := m }
    if let some m ← stat bucket fileKey then
      return { bucket, key := fileKey, folder := false, metadata := m }
    match ← call (ObjectServer.listObjects bucket dirKey false 1) with
    | .ok (_ :: _) => pure { bucket, key := dirKey, folder := true, implicit := true }
    | .ok [] => throw (.detail .notExist ("'" ++ path ++ "'"))
    | .error e =>
      if e.isNotFound then throw (.detail .notExist ("'" ++ path ++ "'"))
      else throw (.context ("failed to list '" ++ path ++ "'") (failure e))

/-- Checks that the store can be reached. -/
def start : BucketOp Unit := do
  let _ ← need (some "failed to reach s3 endpoint '<server>'") ObjectServer.listBuckets

/-- Whether an item exists. -/
def present (path : String) : BucketOp Bool :=
  tryCatch (do let _ ← resolve path; pure true) fun e =>
    if e.is .notExist then pure false else throw e

/-- Makes a bucket, and gives its root a state unless it has one. -/
def createContainer (name : String) : BucketOp Unit := do
  orThrow (validateContainer name)
  if !(← bucketExists name) then
    need (some ("failed to create bucket '" ++ name ++ "'")) (ObjectServer.makeBucket name)
  if (← stat name rootMarker).isSome then return
  put name rootMarker "" (AccessControl.initial none true)

/-- Makes the directory objects of the segments below `current`, whose state is `parent`. -/
def createBelow (bucket : String) : String → AccessControl → List String → BucketOp Unit
  | _, _, [] => pure ()
  | current, parent, segment :: rest => do
    let current := Path.join [current, segment]
    let (dirKey, fileKey) := objectKeys current
    if (← stat bucket fileKey).isSome then
      throw (.detail .notDirectory ("'" ++ Path.join [bucket, current] ++ "'"))
    match ← stat bucket dirKey with
    | some m =>
      let above ← orThrow (decodeMetadata m true)
      createBelow bucket current above rest
    | none =>
      let ac := AccessControl.initial (some parent) true
      put bucket dirKey directoryContentType ac
      createBelow bucket current ac rest

/-- Makes a directory and the missing ones above it. -/
def createDirectory (path : String) : BucketOp Unit := do
  orThrow (Path.validate path)
  if Path.isContainer path then
    throw (.detail .invalidPath ("'" ++ path ++ "' is a container root"))
  let (bucket, rel) := Path.split path
  let root ← tryCatch (resolve bucket) fun e =>
    if e.is .notExist then throw (.detail .containerNotExist ("'" ++ bucket ++ "'")) else throw e
  let parent ← orThrow (decodeMetadata root.metadata true)
  createBelow bucket "" parent (Path.segments rel)

/-- The state of an item. -/
def readAccess (path : String) (_upn : Bool) : BucketOp AccessControl := do
  let o ← resolve path
  orThrow (decodeMetadata o.metadata o.folder)

/-- Stores the state of an item after checking it. -/
def writeAccess (path : String) (ac : Option AccessControl) : BucketOp Unit := do
  let o ← resolve path
  let prepared ← orThrow (AccessControl.prepare path ac o.folder)
  let contentType := if o.folder && o.key != rootMarker then directoryContentType else ""
  if o.implicit then put o.bucket o.key contentType prepared
  else
    let metadata ← orThrow (encodeMetadata prepared)
    need (some ("failed to update metadata of '" ++ path ++ "'"))
      (ObjectServer.replaceMetadata o.bucket o.key
        (if contentType.isEmpty then none else some contentType) metadata)

/-- Records a name found by a listing; a directory wins over a file of the same name. -/
def note (seen : List (String × Bool)) (key : String) (folder : Bool) : List (String × Bool) :=
  if key.isEmpty || key == rootMarker then seen
  else match seen.lookup key with
    | none => seen ++ [(key, folder)]
    | some _ => if folder then seen.map fun (k, f) => if k == key then (k, true) else (k, f)
      else seen

/-- The names a listed key stands for: with `recursive`, every directory above it as well. -/
def noteListed (recursive : Bool) (pre : String) (seen : List (String × Bool)) (key : String) :
    List (String × Bool) :=
  let key := (key.drop pre.length).toString
  let folder := key.endsWith "/"
  let key := if folder then String.ofList key.toList.dropLast else key
  if !recursive then note seen key folder
  else
    let segments := key.splitOn "/"
    let above := (List.range (segments.length - 1)).map fun i =>
      "/".intercalate (segments.take (i + 1))
    note (above.foldl (fun s k => note s k true) seen) key folder

/-- The items below a directory, in path order. -/
def list (path : String) (recursive : Bool) (max : Int) : BucketOp (List Item) := do
  let o ← resolve path
  if !o.folder then throw (.detail .notDirectory ("'" ++ path ++ "'"))
  let rel := (Path.split path).2
  let pre := if rel.isEmpty then "" else rel ++ "/"
  let listed ← need (some ("failed to list '" ++ path ++ "'"))
    (ObjectServer.listObjects o.bucket pre recursive 0)
  let seen := listed.foldl (fun s e => noteListed recursive pre s e.key) []
  let sorted := seen.mergeSort fun a b => !(b.1 < a.1)
  pure (limitItems (sorted.map fun (k, f) => ⟨Path.join [path, k], f⟩) max)

/-- The names of the buckets. -/
def containers : BucketOp (List String) :=
  need (some "failed to list buckets") ObjectServer.listBuckets

/-- The storage over an object store. -/
def storage : Storage BucketOp where
  name := "s3"
  capabilities := [Capability.acl, .containers, .recursiveList].map Capability.name
  start := start
  stop := pure ()
  present := present
  createContainer := createContainer
  createDirectory := createDirectory
  readAccess := readAccess
  writeAccess := writeAccess
  list := list
  listContainers := containers

end BucketOp

end AclReconcile.ObjectStore
