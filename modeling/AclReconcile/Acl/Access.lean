import AclReconcile.Acl.Entry

/-!
# Access control state

The access control state of a path: owner, owning group, a permission summary, the effective
list and, for directories, the default list that new children inherit.

The summary is the classic nine-letter form: the permissions of the unnamed user entry, of the
unnamed group entry (or of the mask, when the list has one) and of the unnamed other entry, each
`---` when missing, followed by `+` when a mask is present. When a list holds several unnamed
entries of one kind, the last one counts.
-/

namespace AclReconcile

/-- The access control state of one path. -/
structure AccessControl where
  owner : String
  group : String
  permissions : String
  acl : List AclEntry
  defaultAcl : List AclEntry
  deriving DecidableEq, Repr, Inhabited

namespace AccessControl

/-- The last unnamed entry of a kind. -/
def unnamed (entries : List AclEntry) (t : ObjectType) : Option AclEntry :=
  (entries.filter fun e => e.identity == "" && e.type == t).getLast?

/-- The nine-letter permission summary of an effective list. -/
def summaryOf (entries : List AclEntry) : String :=
  let mask := unnamed entries .mask
  let group := match mask with
    | some m => some m
    | none => unnamed entries .group
  let part (e : Option AclEntry) : String := match e with
    | some x => x.permissions
    | none => "---"
  part (unnamed entries .user) ++ part group ++ part (unnamed entries .other) ++
    (if mask.isSome then "+" else "")

/-- The summary of the state's effective list. -/
def summary (ac : AccessControl) : String := summaryOf ac.acl

/-- Replaces both lists; a file gets an empty default list whatever is given. -/
def replace (ac : AccessControl) (acl defaultAcl : List AclEntry) (isDirectory : Bool) :
    AccessControl :=
  { ac with acl := acl, defaultAcl := if isDirectory then defaultAcl else [] }

@[simp] theorem replace_acl (ac : AccessControl) (acl d : List AclEntry) (b : Bool) :
    (ac.replace acl d b).acl = acl := rfl

@[simp] theorem replace_defaultAcl (ac : AccessControl) (acl d : List AclEntry) (b : Bool) :
    (ac.replace acl d b).defaultAcl = if b then d else [] := rfl

end AccessControl

end AclReconcile
