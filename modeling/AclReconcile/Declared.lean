import AclReconcile.Acl.Access
import AclReconcile.Path

/-!
# Declared directories

The desired state of a container or directory: its path, whether identities are compared by
principal name (`upn`), whether the state is applied to all descendants or only to the
children (`recurse`), whether it is written even when nothing differs (`force`), and one
declaration per principal that gives both its effective and its default permissions.
-/

namespace AclReconcile

/-- The effective and default permissions declared for one principal. -/
structure DeclaredAcl where
  type : ObjectType := .user
  identity : String := ""
  read : Bool := false
  write : Bool := false
  execute : Bool := false
  defaultRead : Bool := false
  defaultWrite : Bool := false
  defaultExecute : Bool := false
  deriving DecidableEq, Repr, Inhabited

/-- The desired state of one path. -/
structure DeclaredDirectory where
  path : String := ""
  upn : Bool := false
  recurse : Bool := false
  force : Bool := false
  acls : List DeclaredAcl := []
  deriving DecidableEq, Repr, Inhabited

namespace DeclaredAcl

/-- The effective entry of a declaration. -/
def effective (d : DeclaredAcl) : AclEntry := ⟨d.type, d.identity, d.read, d.write, d.execute⟩

/-- The default entry of a declaration. -/
def default (d : DeclaredAcl) : AclEntry :=
  ⟨d.type, d.identity, d.defaultRead, d.defaultWrite, d.defaultExecute⟩

end DeclaredAcl

namespace DeclaredDirectory

/-- The expected effective list, in declaration order. -/
def expectedAcl (d : DeclaredDirectory) : List AclEntry := d.acls.map DeclaredAcl.effective

/-- The expected default list, in declaration order. -/
def expectedDefault (d : DeclaredDirectory) : List AclEntry := d.acls.map DeclaredAcl.default

/-- Whether the declaration is for a container root. -/
def isContainer (d : DeclaredDirectory) : Bool := Path.isContainer d.path

/-- Checks the path and that every declaration names a valid kind. -/
def validate (d : DeclaredDirectory) : Except Error Unit := do
  Path.validate d.path
  match (d.acls.zipIdx).find? (fun (a, _) => !a.type.isValid) with
  | some (_, i) =>
    throw (.detail .invalidObjectType ("acl #" ++ toString i ++ " of '" ++ d.path ++ "'"))
  | none => pure ()

end DeclaredDirectory

end AclReconcile
