/-!
# Planned failures

A rule names an operation and a path and says how many more calls it fails: a negative count
fails every call, zero none. A call is failed by the first rule that names its operation and path
and has calls left; a positive count goes down by one.
-/

namespace AclReconcile

/-- A rule that fails calls of one operation on one path. -/
structure Fault where
  op : String
  path : String
  /-- How many more calls fail; negative for all of them. -/
  times : Int
  /-- For a store: the call is swallowed instead of answered with an error. -/
  conflict : Bool := false
  deriving Repr, Inhabited

namespace Fault

/-- Whether a rule fails a call of `op` on `path`. -/
def fires (f : Fault) (op path : String) : Bool := f.op == op && f.path == path && f.times != 0

/-- The rule after failing one call. -/
def spend (f : Fault) : Fault := if f.times > 0 then { f with times := f.times - 1 } else f

/-- Whether a call of `op` on `path` fails, and the rules after it. -/
def trigger (op path : String) : List Fault → Bool × List Fault
  | [] => (false, [])
  | f :: fs =>
    if f.fires op path then (true, f.spend :: fs)
    else
      let (hit, rest) := trigger op path fs
      (hit, f :: rest)

/-- The first rule with calls left that `hit` selects, and the rules after it is spent. -/
def take (hit : Fault → Bool) : List Fault → Option Fault × List Fault
  | [] => (none, [])
  | f :: fs =>
    if hit f && f.times != 0 then (some f, f.spend :: fs)
    else
      let (found, rest) := take hit fs
      (found, f :: rest)

end Fault

end AclReconcile
