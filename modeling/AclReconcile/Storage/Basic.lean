import AclReconcile.Acl.Access
import AclReconcile.Path

/-!
# What every storage shares

The items a listing returns, the capabilities a storage announces, the checks on container
names, and the life of an access control state inside a storage: the state a new item starts
with, the checks before a state is stored, and the translation between object ids (what is
stored) and principal names (what a caller may ask to see).

A new item starts with owner and group `$superuser` and the list `user::rwx,group::r-x,other::---`.
Below a directory it takes the directory's owner and group, and, when the directory has a default
list, that list becomes the new item's effective list and, for a directory, its default list
too: the POSIX rule of inheritance.
-/

namespace AclReconcile

/-- A file or directory found below a path; the path includes the container. -/
structure Item where
  path : String
  isFolder : Bool
  deriving DecidableEq, Repr, Inhabited

/-- The first `max` items, or all of them when `max` is not positive. -/
def limitItems (items : List Item) (max : Int) : List Item :=
  if 0 < max then items.take max.toNat else items

/-- Something a storage can do beyond the basics. -/
inductive Capability where
  | acl | containers | upn | recursiveList
  deriving DecidableEq, Repr, Inhabited

/-- The name of a capability. -/
def Capability.name : Capability → String
  | .acl => "acl" | .containers => "containers" | .upn => "upn"
  | .recursiveList => "recursive_list"

/-- Every capability, in the order a full storage announces them. -/
def Capability.all : List Capability := [.acl, .containers, .upn, .recursiveList]

/-- A container name is not empty and has no separator. -/
def validateContainer (name : String) : Except Error Unit :=
  if name == "" || !Path.isContainer name then
    .error (.detail .invalidContainer ("'" ++ name ++ "'"))
  else .ok ()

namespace AccessControl

/-- The owner and group of items created without one. -/
def superuser : String := "$superuser"

/-- The state of a new item, below `parent` when there is one. -/
def initial (parent : Option AccessControl) (isFolder : Bool) : AccessControl :=
  let base : AccessControl :=
    { owner := superuser
      group := superuser
      permissions := ""
      acl := [⟨.user, "", true, true, true⟩, ⟨.group, "", true, false, true⟩,
        ⟨.other, "", false, false, false⟩]
      defaultAcl := [] }
  let withParent := match parent with
    | none => base
    | some p =>
      let owned := { base with owner := p.owner, group := p.group }
      if p.defaultAcl.isEmpty then owned else owned.replace p.defaultAcl p.defaultAcl isFolder
  { withParent with permissions := withParent.summary }

/-- Checks a state before it is stored for an item, and returns it with a fresh summary. A
file may not have a default list, and every entry must name a valid kind. -/
def prepare (path : String) (ac : Option AccessControl) (isFolder : Bool) :
    Except Error AccessControl :=
  match ac with
  | none => .error (.detail .invalidEntry ("missing access control for '" ++ path ++ "'"))
  | some ac =>
    if !isFolder && !ac.defaultAcl.isEmpty then
      .error (.detail .defaultAclOnFile ("'" ++ path ++ "'"))
    else match (ac.acl ++ ac.defaultAcl).find? (fun e => !e.type.isValid) with
      | some e => .error (.detail .invalidObjectType ("'" ++ e.render ++ "' on '" ++ path ++ "'"))
      | none => .ok { ac with permissions := ac.summary }

/-- Renames identities, owner and group through `lookup` where it knows them; an empty
identity stays as it is. -/
def renameWith (lookup : String → Option String) (ac : AccessControl) : AccessControl :=
  let rename (es : List AclEntry) : List AclEntry := es.map fun e =>
    if e.identity == "" then e else
      match lookup e.identity with
      | some n => { e with identity := n }
      | none => e
  { ac with
    acl := rename ac.acl
    defaultAcl := rename ac.defaultAcl
    owner := (lookup ac.owner).getD ac.owner
    group := (lookup ac.group).getD ac.group }

/-- Shows principal names in place of object ids, given the table from ids to names. -/
def withNames (principals : List (String × String)) (ac : AccessControl) : AccessControl :=
  renameWith (fun id => (principals.find? (·.1 == id)).map (·.2)) ac

/-- Stores object ids in place of principal names, given the table from ids to names. -/
def withIds (principals : List (String × String)) (ac : AccessControl) : AccessControl :=
  if principals.isEmpty then ac
  else renameWith (fun n => (principals.find? (·.2 == n)).map (·.1)) ac

end AccessControl

end AclReconcile
