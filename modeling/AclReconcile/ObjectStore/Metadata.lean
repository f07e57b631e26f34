import AclReconcile.Storage.Basic
import AclReconcile.Acl.List
import AclReconcile.Text.Case

/-!
# The state of an item as object metadata

In a bucket, the state of an item travels as five entries of user metadata on the item's
object: owner, group, permissions, and the two entry lists in their JSON form. Metadata names
arrive in any case and may still carry the prefix the protocol gives user metadata, so they are
compared in lower case with that prefix cut. An object without the list entry was written by
another client and has the state a new item would get.

A path relative to its bucket has two candidate objects: a directory object, whose key ends in
the separator, and a file object; the root of a bucket keeps its state on a marker object.
-/

namespace AclReconcile.ObjectStore

/-- The key of the object that holds a bucket root's state. -/
def rootMarker : String := ".aclsync"

/-- The content type of the empty objects that stand for directories. -/
def directoryContentType : String := "application/x-directory"

/-- The metadata name of the owner. -/
def ownerName : String := "Aclsync-Owner"

/-- The metadata name of the owning group. -/
def groupName : String := "Aclsync-Group"

/-- The metadata name of the permission summary. -/
def permissionsName : String := "Aclsync-Permissions"

/-- The metadata name of the entry list. -/
def aclName : String := "Aclsync-Acl"

/-- The metadata name of the default entry list. -/
def defaultAclName : String := "Aclsync-Default-Acl"

/-- The prefix of user metadata names in requests and answers. -/
def metaPrefix : String := "X-Amz-Meta-"

/-- The metadata holding a state. -/
def encodeMetadata (ac : AccessControl) : Except Error (List (String × String)) := do
  let acl ← AclList.encode ac.acl
  let defaultAcl ← AclList.encode ac.defaultAcl
  pure [(ownerName, ac.owner), (groupName, ac.group), (permissionsName, ac.permissions),
    (aclName, acl), (defaultAclName, defaultAcl)]

/-- A metadata name in the form it is compared in: lower case, without the prefix. -/
def normalName (name : String) : String :=
  let lowered := Text.lower name
  let pre := Text.lower metaPrefix
  if lowered.startsWith pre then (lowered.drop pre.length).toString else lowered

/-- The value of a metadata entry, found by its normal name. -/
def lookup (metadata : List (String × String)) (name : String) : Option String :=
  (metadata.find? fun (k, _) => normalName k == normalName name).map (·.2)

/-- The state held by an object's metadata; without an entry list, the state of a new item. -/
def decodeMetadata (metadata : List (String × String)) (folder : Bool) :
    Except Error AccessControl := do
  match lookup metadata aclName with
  | none => pure (AccessControl.initial none folder)
  | some raw =>
    let acl ← AclList.decode raw
    let defaultAcl ← AclList.decode ((lookup metadata defaultAclName).getD "")
    pure { owner := (lookup metadata ownerName).getD ""
           group := (lookup metadata groupName).getD ""
           permissions := (lookup metadata permissionsName).getD ""
           acl, defaultAcl }

/-- The directory object and the file object of a path relative to its bucket; the root's
state is on the marker. -/
def objectKeys (rel : String) : String × String :=
  if rel.isEmpty then (rootMarker, "") else (rel ++ "/", rel)

end AclReconcile.ObjectStore
