import AclReconcile.Acl.Access

/-!
# Differences between expected and actual lists

Two lists are compared as sets: order and repetition do not matter. The differences are the
entries only one side has, each once: first those only expected, in the order of the expected
list, then those only actual, in the order of the actual list. A state is compared on its
effective and its default list separately, effective first.
-/

namespace AclReconcile

/-- The side a differing entry was found on. -/
inductive Origin where
  | expected
  | actual
  deriving DecidableEq, Repr, Inhabited

/-- The word for a side. -/
def Origin.name : Origin → String
  | .expected => "expected"
  | .actual => "actual"

/-- An entry present on one side only, of the effective or of the default list. -/
structure Difference where
  origin : Origin
  isDefault : Bool
  entry : AclEntry
  deriving DecidableEq, Repr, Inhabited

/-- The text `side: entry`. -/
def Difference.render (d : Difference) : String := d.origin.name ++ ": " ++ d.entry.render

namespace Difference

/-- The entries of `source` that `other` lacks, each once, in the order of `source`. -/
def missing (source other : List AclEntry) : List AclEntry :=
  (source.filter fun e => !other.contains e).eraseDups

/-- The differences of two lists. -/
def between (expected actual : List AclEntry) (isDefault : Bool) : List Difference :=
  (missing expected actual).map (⟨.expected, isDefault, ·⟩) ++
    (missing actual expected).map (⟨.actual, isDefault, ·⟩)

/-- The differences of the expected lists against an actual state. -/
def ofState (acl defaultAcl : List AclEntry) (actual : AccessControl) : List Difference :=
  between acl actual.acl false ++ between defaultAcl actual.defaultAcl true

/-- The differences of one list. -/
def onList (ds : List Difference) (isDefault : Bool) : List Difference :=
  ds.filter (·.isDefault == isDefault)

/-- The comma-joined texts of differences. -/
def renderAll (ds : List Difference) : String := ",".intercalate (ds.map render)

end Difference

end AclReconcile
