import AclReconcile.Storage.Interface
import AclReconcile.Declared
import AclReconcile.Acl.Diff
import AclReconcile.Acl.List
import AclReconcile.Log

/-!
# Reconciling declared directories

A run takes the declared directories in order. For each one it makes sure the directory exists
(a container through the list of containers, any other path through a presence check), reads its
state, and compares the lists with the declared ones. When they differ, or when the declaration
forces it, the declared lists are written to the directory and then to every item below it
(every descendant when the declaration recurses, the children otherwise), a batch at a time; an
item takes the default list only when it is a directory. Every step is logged. The first failure
ends the run: it is logged, and returned with the results of the directories finished before it;
what was written stays written.
-/

namespace AclReconcile

/-- What happened to one declared directory. -/
structure PathResult where
  path : String
  created : Bool
  different : Bool
  forced : Bool
  /-- The number of items below the directory that the declared lists were written to. -/
  items : Nat
  deriving Repr, Inhabited

/-- Whether the directory was written: it differed, or the declaration forced it. -/
def PathResult.applied (r : PathResult) : Bool := r.different || r.forced

/-- What a run did, directory by directory, with totals. -/
structure RunResult where
  paths : List PathResult := []
  unchanged : Nat := 0
  applied : Nat := 0
  /-- The items written below applied directories. -/
  items : Nat := 0
  deriving Repr, Inhabited

/-- The result with one more directory. -/
def RunResult.add (r : RunResult) (p : PathResult) : RunResult :=
  if p.applied then { r with paths := r.paths ++ [p], applied := r.applied + 1, items := r.items + p.items }
  else { r with paths := r.paths ++ [p], unchanged := r.unchanged + 1 }

/-- The number of items written at once. -/
def defaultBatchSize : Nat := 15

/-- A batch size, refused below one. -/
def batchSizeOf (n : Int) : Except Error Nat :=
  if n < 1 then .error (.plain ("batch size must be at least 1, got " ++ toString n))
  else .ok n.toNat

/-- A list cut into consecutive pieces of `n` elements, the last one possibly shorter. -/
def chunks {α : Type} (n : Nat) (xs : List α) : List (List α) :=
  let (done, current) := xs.foldl (fun (acc : List (List α) × List α) x =>
    if acc.2.length + 1 == n then (acc.1 ++ [acc.2 ++ [x]], []) else (acc.1, acc.2 ++ [x]))
    ([], [])
  if current.isEmpty then done else done ++ [current]

/-- What a run works with: a storage, a log, a way to see that the caller has given up, and the
batch size. -/
structure Reconciler (m : Type → Type) where
  storage : Storage m
  log : Level → String → m Unit
  cancelled : m Bool
  batchSize : Nat := defaultBatchSize

namespace Reconciler

variable {m : Type → Type} [Monad m] [MonadExceptOf Error m]

/-- A reconciler, refused when the storage cannot hold access control lists. -/
def new (storage : Storage m) (log : Level → String → m Unit) (cancelled : m Bool)
    (batchSize : Nat) : Except Error (Reconciler m) :=
  if storage.supports .acl then .ok ⟨storage, log, cancelled, batchSize⟩
  else .error (.detail .backendUnsupported
    ("backend '" ++ storage.name ++ "' does not support '" ++ Capability.acl.name ++ "'"))

/-- Makes sure the declared directory exists; true when it had to be created. -/
def ensure (r : Reconciler m) (d : DeclaredDirectory) : m Bool := do
  let present ← if d.isContainer then do
      let cs ← r.storage.listContainers
      pure (cs.contains d.path)
    else r.storage.present d.path
  if present then
    r.log .info (d.path ++ " - Exists.")
    pure false
  else if d.isContainer then
    r.storage.createContainer d.path
    r.log .info (d.path ++ " - Not exists: creating filesystem.")
    pure true
  else
    r.storage.createDirectory d.path
    r.log .info (d.path ++ " - Not exists: creating directory.")
    pure true

/-- Writes the declared lists to one item below a directory, keeping its owner and group. -/
def applyItem (r : Reconciler m) (acl defaultAcl : List AclEntry) (upn : Bool) (it : Item) :
    m Unit := do
  let ac ← r.storage.readAccess it.path upn
  r.storage.writeAccess it.path (some (ac.replace acl defaultAcl it.isFolder))

/-- Writes one batch: every item is tried, and the first failure, if any, is returned. -/
def applyBatch (r : Reconciler m) (acl defaultAcl : List AclEntry) (upn : Bool)
    (batch : List Item) : m (Option Error) :=
  batch.foldlM (fun first it => do
    let failure ← tryCatch (do r.applyItem acl defaultAcl upn it; pure none) fun e => pure (some e)
    pure (first <|> failure)) none

/-- Writes the batches in turn, stopping at a cancellation or a failure. -/
def applyBatches (r : Reconciler m) (d : DeclaredDirectory) (acl defaultAcl : List AclEntry) :
    List (List Item) → m Unit
  | [] => pure ()
  | batch :: rest => do
    if ← r.cancelled then throw .canceled
    for it in batch do
      r.log .info (d.path ++ " - Applying to file: " ++ it.path ++ ".")
    match ← r.applyBatch acl defaultAcl d.upn batch with
    | some e => throw e
    | none => r.applyBatches d acl defaultAcl rest

/-- Reconciles one declared directory. -/
def process (r : Reconciler m) (d : DeclaredDirectory) : m PathResult := do
  if ← r.cancelled then throw .canceled
  if d.upn && !r.storage.supports .upn then
    r.log .warn (d.path ++ " - Backend '" ++ r.storage.name ++
      "' cannot resolve principal names, identities are compared as stored.")
  let created ← r.ensure d
  let actual ← r.storage.readAccess d.path d.upn
  r.log .info (d.path ++ " - Actual: " ++ AclList.format actual.acl ++ ".")
  r.log .info (d.path ++ " - Actual default: " ++ AclList.format actual.defaultAcl ++ ".")
  let acl := d.expectedAcl
  let defaultAcl := d.expectedDefault
  r.log .info (d.path ++ " - Expected: " ++ AclList.format acl ++ ".")
  r.log .info (d.path ++ " - Expected default: " ++ AclList.format defaultAcl ++ ".")
  let diffs := Difference.ofState acl defaultAcl actual
  r.log .info (d.path ++ " - Differences: " ++ Difference.renderAll (Difference.onList diffs false))
  r.log .info (d.path ++ " - Differences default: " ++
    Difference.renderAll (Difference.onList diffs true))
  let result : PathResult := ⟨d.path, created, !diffs.isEmpty, d.force, 0⟩
  if !result.applied then return result
  r.storage.writeAccess d.path (some (actual.replace acl defaultAcl true))
  let items ← r.storage.list d.path d.recurse 0
  r.applyBatches d acl defaultAcl (chunks r.batchSize items)
  return { result with items := items.length }

/-- Reconciles the remaining directories onto the result so far. -/
def runFrom (r : Reconciler m) : List DeclaredDirectory → RunResult → m (RunResult × Option Error)
  | [], acc => pure (acc, none)
  | d :: ds, acc => do
    match ← tryCatch (Except.ok <$> r.process d) fun e => pure (Except.error e) with
    | .ok p => r.runFrom ds (acc.add p)
    | .error e =>
      r.log .error e.message
      pure (acc, some e)

/-- Reconciles the directories in order; the result of the directories finished, with the
failure that ended the run, if any. -/
def run (r : Reconciler m) (ds : List DeclaredDirectory) : m (RunResult × Option Error) :=
  r.runFrom ds {}

end Reconciler

end AclReconcile
