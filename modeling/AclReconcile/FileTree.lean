import AclReconcile.Index

/-!
# A tree of directories and files

A file tree maps full paths to directories and files with their content. A path is read one
name at a time from the top: every name must be at most 255 bytes long, and every name before
the last must be an existing directory, otherwise the operation fails with "no such file or
directory" or "not a directory"; a path holding a NUL character is refused as an invalid
argument. The top of an absolute path and the names listed as roots always exist as directories.

The operations are those a program asks of its operating system: looking a path up, making one
directory or all missing ones, writing and reading a file, renaming, listing a directory, and
removing a whole subtree. Each failure names the operation and the path, in the system's words.
-/

namespace AclReconcile

/-- The reasons an operation on files fails. -/
inductive Errno where
  | noEntry | notDirectory | exists | isDirectory | invalid | nameTooLong | notEmpty
  deriving DecidableEq, Repr, Inhabited

/-- The system's words for a reason. -/
def Errno.text : Errno → String
  | .noEntry => "no such file or directory"
  | .notDirectory => "not a directory"
  | .exists => "file exists"
  | .isDirectory => "is a directory"
  | .invalid => "invalid argument"
  | .nameTooLong => "file name too long"
  | .notEmpty => "directory not empty"

/-- A failed operation on files: the operation, the path (two for a rename) and the reason. -/
structure FileError where
  op : String
  path : String
  errno : Errno
  deriving Repr, Inhabited

/-- The text of a failed operation. -/
def FileError.message (e : FileError) : String := e.op ++ " " ++ e.path ++ ": " ++ e.errno.text

/-- What a path names. -/
inductive FileNode where
  | directory
  | file (content : String)
  deriving DecidableEq, Repr, Inhabited

/-- Whether a node is a directory. -/
def FileNode.isDirectory : FileNode → Bool
  | .directory => true
  | .file _ => false

/-- A tree of directories and files under their full paths. -/
structure FileTree where
  nodes : Index FileNode := {}
  /-- Paths that are directories without being stored, such as the top of the tree. -/
  roots : List String := []
  deriving Inhabited

namespace FileTree

/-- The names of a path, without empty ones. -/
def names (p : String) : List String := (p.splitOn "/").filter (· != "")

/-- The full path of the first `k` names of a path. -/
def prefixPath (absolute : Bool) (ns : List String) (k : Nat) : String :=
  (if absolute then "/" else "") ++ "/".intercalate (ns.take k)

/-- The path without a final separator or doubled separators. -/
def normal (p : String) : String :=
  let ns := names p
  if p.startsWith "/" then (if ns.isEmpty then "/" else prefixPath true ns ns.length)
  else "/".intercalate ns

/-- One name read by `clean` onto the names kept so far, the last one first: empty and "."
names are dropped, and ".." takes away the name before it (at the top of an absolute path it
stays at the top). -/
def cleanStep (absolute : Bool) (acc : List String) (n : String) : List String :=
  if n == "" || n == "." then acc
  else if n == ".." then
    match acc with
    | a :: rest => if a == ".." then n :: acc else rest
    | [] => if absolute then [] else [n]
  else n :: acc

/-- The shortest path naming the same place by its text alone, reading its names with
`cleanStep`. -/
def clean (p : String) : String :=
  let absolute := p.startsWith "/"
  let body := "/".intercalate ((p.splitOn "/").foldl (cleanStep absolute) []).reverse
  if absolute then "/" ++ body else if body.isEmpty then "." else body

/-- What is stored under a path, if anything. -/
def node? (t : FileTree) (p : String) : Option FileNode :=
  if p == "" || p == "/" || t.roots.contains p then some .directory else t.nodes.get? p

/-- Follows a path to its last name: the node found there, if any, or the reason the path
cannot be followed. -/
def lookup (t : FileTree) (p : String) : Except Errno (Option FileNode) :=
  if p.contains (Char.ofNat 0) then .error .invalid
  else if p.utf8ByteSize > 4095 then .error .nameTooLong
  else
    let ns := names p
    let absolute := p.startsWith "/"
    let rec go : List String → Nat → Except Errno (Option FileNode)
      | [], _ => .ok (t.node? (prefixPath absolute ns 0))
      | [n], k =>
        if n.utf8ByteSize > 255 then .error .nameTooLong
        else .ok (t.node? (prefixPath absolute ns (k + 1)))
      | n :: rest, k =>
        if n.utf8ByteSize > 255 then .error .nameTooLong
        else match t.node? (prefixPath absolute ns (k + 1)) with
          | none => .error .noEntry
          | some (.file _) => .error .notDirectory
          | some .directory => go rest (k + 1)
    go ns 0

/-- The directory holding a path. -/
def parentOf (p : String) : String :=
  let ns := names p
  prefixPath (p.startsWith "/") ns (ns.length - 1)

/-- What a path names, or the error of looking it up. -/
def stat (t : FileTree) (p : String) : Except FileError FileNode :=
  match t.lookup p with
  | .error e => .error ⟨"stat", p, e⟩
  | .ok none => .error ⟨"stat", p, .noEntry⟩
  | .ok (some n) => .ok n

/-- Makes one directory; its parent must exist. -/
def mkdir (t : FileTree) (p : String) : Except FileError FileTree :=
  match t.lookup p with
  | .error e => .error ⟨"mkdir", p, e⟩
  | .ok (some _) => .error ⟨"mkdir", p, .exists⟩
  | .ok none => .ok { t with nodes := t.nodes.insert (normal p) .directory }

/-- Makes a directory and every missing one above it, looking at most `fuel` levels up; an
existing directory is left alone. -/
def mkdirAllWithin (t : FileTree) : Nat → String → Except FileError FileTree
  | 0, p => t.mkdir p
  | fuel + 1, p =>
    match t.stat p with
    | .ok .directory => .ok t
    | .ok (.file _) => .error ⟨"mkdir", p, .notDirectory⟩
    | .error _ =>
      let parent := parentOf p
      let above := if parent != "" && parent != "/" then mkdirAllWithin t fuel parent else .ok t
      match above with
      | .error e => .error e
      | .ok t' =>
        match t'.mkdir p with
        | .ok t'' => .ok t''
        | .error e =>
          match t'.stat p with
          | .ok .directory => .ok t'
          | _ => .error e

/-- Makes a directory and every missing one above it; an existing directory is left alone. -/
def mkdirAll (t : FileTree) (p : String) : Except FileError FileTree :=
  t.mkdirAllWithin ((names p).length + 1) p

/-- Writes a file, replacing its content; its directory must exist. -/
def writeFile (t : FileTree) (p : String) (content : String) : Except FileError FileTree :=
  match t.lookup p with
  | .error e => .error ⟨"open", p, e⟩
  | .ok (some .directory) => .error ⟨"open", p, .isDirectory⟩
  | .ok _ => .ok { t with nodes := t.nodes.insert (normal p) (.file content) }

/-- The content of a file. -/
def readFile (t : FileTree) (p : String) : Except FileError String :=
  match t.lookup p with
  | .error e => .error ⟨"open", p, e⟩
  | .ok none => .error ⟨"open", p, .noEntry⟩
  | .ok (some .directory) => .error ⟨"read", p, .isDirectory⟩
  | .ok (some (.file c)) => .ok c

/-- Whether `q` lies strictly below `p`. -/
def below (p q : String) : Bool := q.startsWith (if p == "/" then "/" else p ++ "/")

/-- The tree without a path and everything below it. -/
def removeAll (t : FileTree) (p : String) : FileTree :=
  let p := normal p
  { t with nodes := ⟨t.nodes.entries.filter fun (k, _) => k != p && !below p k⟩ }

/-- Moves a file or directory, with everything below it, to a new path. -/
def rename (t : FileTree) (src dst : String) : Except FileError FileTree :=
  let fail (e : Errno) : Except FileError FileTree := .error ⟨"rename", src ++ " " ++ dst, e⟩
  match t.lookup src, t.lookup dst with
  | .error e, _ => fail e
  | .ok none, _ => fail .noEntry
  | _, .error e => fail e
  | .ok (some n), .ok target =>
    match n, target with
    | .file _, some .directory => fail .isDirectory
    | .directory, some (.file _) => fail .notDirectory
    | .directory, some .directory =>
      if t.nodes.entries.any (fun (k, _) => below (normal dst) k) then fail .notEmpty
      else move
    | _, _ => move
where
  move : Except FileError FileTree :=
    let s := normal src
    let d := normal dst
    let moved := t.nodes.entries.filterMap fun (k, v) =>
      if k == s then some (d, v)
      else if below s k then some (d ++ (k.drop s.length).toString, v)
      else none
    let kept := (t.removeAll d).removeAll s
    .ok { kept with nodes := moved.foldl (fun ix (k, v) => ix.insert k v) kept.nodes }

/-- The names and nodes directly inside a directory, in name order. -/
def children (t : FileTree) (p : String) : List (String × FileNode) :=
  let p := normal p
  let pre := if p == "/" then "/" else p ++ "/"
  t.nodes.entries.filterMap fun (k, v) =>
    if k.startsWith pre && !((k.drop pre.length).contains '/') then
      some ((k.drop pre.length).toString, v)
    else none

/-- The entries of a directory, or the error of opening it. -/
def readDir (t : FileTree) (p : String) : Except FileError (List (String × FileNode)) :=
  match t.lookup p with
  | .error e => .error ⟨"open", p, e⟩
  | .ok none => .error ⟨"open", p, .noEntry⟩
  | .ok (some (.file _)) => .error ⟨"readdirent", p, .notDirectory⟩
  | .ok (some .directory) => .ok (t.children p)

/-- Every path below a directory with its node, in path order. -/
def descendants (t : FileTree) (p : String) : List (String × FileNode) :=
  let p := normal p
  t.nodes.entries.filter fun (k, _) => below p k

/-- The tree with directories and files added below a base directory, each with the
directories above it; paths are relative to the base. -/
def populate (t : FileTree) (base : String) (dirs : List String)
    (files : List (String × String)) : FileTree :=
  let t := dirs.foldl (fun t d => (t.mkdirAll (base ++ "/" ++ d)).toOption.getD t) t
  files.foldl (fun t (p, content) =>
    let target := base ++ "/" ++ p
    let t := (t.mkdirAll (parentOf target)).toOption.getD t
    (t.writeFile target content).toOption.getD t) t

end FileTree

end AclReconcile
