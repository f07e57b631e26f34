import AclReconcile.Error
import AclReconcile.Text.Blank

/-!
# Paths

A path is a `/`-separated text whose first segment names a container; a path without a
separator is the root of its container. Below containers, paths name directories and files.

`isBelow p q` says that `p` lies strictly under `q` (every path lies under the empty path). A
valid path is not blank and has no empty, `.` or `..` segment.
-/

namespace AclReconcile.Path

/-- Whether the path is the root of a container. -/
def isContainer (p : String) : Bool := !p.contains '/'

/-- The container and the path relative to it (empty for a container root). -/
def split (p : String) : String × String :=
  match p.splitOn "/" with
  | [] => (p, "")
  | c :: rest => (c, "/".intercalate rest)

/-- The text without separators at either end. -/
def trimSeparators (s : String) : String :=
  String.ofList (((s.toList.dropWhile (· == '/')).reverse.dropWhile (· == '/')).reverse)

/-- Joins segments with separators, each cut of its separators at both ends; empty segments
are skipped. -/
def join (segments : List String) : String :=
  "/".intercalate ((segments.map trimSeparators).filter (· != ""))

/-- The path without its last segment, empty for a container root. -/
def parent (p : String) : String :=
  match (p.splitOn "/").dropLast with
  | [] => ""
  | parts => "/".intercalate parts

/-- Whether `p` lies strictly below `q`. -/
def isBelow (p q : String) : Bool := q == "" || p.startsWith (q ++ "/")

/-- Checks that a path is not blank and has no empty, `.` or `..` segment. -/
def validate (p : String) : Except Error Unit :=
  if Text.isBlankText p then .error (.detail .invalidPath "empty path")
  else if (p.splitOn "/").any (fun s => s == "" || s == "." || s == "..") then
    .error (.detail .invalidPath ("'" ++ p ++ "'"))
  else .ok ()

/-- The segments of a path relative to its container. -/
def segments (rel : String) : List String := rel.splitOn "/"

end AclReconcile.Path
