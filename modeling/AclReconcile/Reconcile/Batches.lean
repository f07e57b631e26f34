import AclReconcile.Reconcile

/-!
# Batches written by appliers that run side by side

The items below a directory are written a batch at a time. Within a batch every item has an
applier of its own: it reads the item's state and, when that succeeded, writes it back with the
declared lists. The appliers of one batch run side by side, so their calls may interleave in any
order; the batch ends when every applier has ended, and its failure is the first one an applier
ended with, in the order they ended. The next batch starts only after that.

A schedule says which applier makes the next call: each entry names a place in the batch. Under
`Reconciler.applyBatchIn sched` the appliers move as `sched` says, and whatever it leaves
unfinished then runs to its end, one applier after another, so that every schedule gives a whole
run of the batch and every interleaving of the appliers' calls is the run of some schedule. Under
the empty schedule the appliers run one after another, as `Reconciler.applyBatch` runs them.
-/

namespace AclReconcile

/-- How far the applier of one item has got. -/
inductive Applier where
  /-- It has made no call. -/
  | ready
  /-- It has read the item's state. -/
  | read (ac : AccessControl)
  /-- It has ended. -/
  | finished
  deriving Inhabited

namespace Reconciler

variable {m : Type → Type} [Monad m] [MonadExceptOf Error m]

/-- The next call of the applier of `it`: reading the item's state, or writing it back with the
declared lists, the default one only for a directory. Gives how far the applier has got then, and
the failure it ended with, if any; an applier that has ended makes no call. -/
def applierStep (r : Reconciler m) (acl defaultAcl : List AclEntry) (upn : Bool) (it : Item) :
    Applier → m (Applier × Option Error)
  | .ready =>
    tryCatch (do
        let ac ← r.storage.readAccess it.path upn
        pure (.read ac, none))
      fun e => pure (.finished, some e)
  | .read ac =>
    tryCatch (do
        r.storage.writeAccess it.path (some (ac.replace acl defaultAcl it.isFolder))
        pure (.finished, none))
      fun e => pure (.finished, some e)
  | .finished => pure (.finished, none)

/-- Moves the appliers of a batch as the schedule says: each entry lets the applier at that place
make its next call, and a place past the batch is passed over. The failure kept is the first one
an applier ended with. -/
def runSchedule (r : Reconciler m) (acl defaultAcl : List AclEntry) (upn : Bool) :
    List Nat → List (Item × Applier) → Option Error → m (List (Item × Applier) × Option Error)
  | [], pool, first => pure (pool, first)
  | i :: sched, pool, first =>
    match pool[i]? with
    | none => r.runSchedule acl defaultAcl upn sched pool first
    | some (it, a) => do
      let (a', failure) ← r.applierStep acl defaultAcl upn it a
      r.runSchedule acl defaultAcl upn sched (pool.set i (it, a')) (first <|> failure)

/-- The schedule that runs the appliers of a batch of `n` items one after another: two turns each,
enough for any applier to end. -/
def inTurn (n : Nat) : List Nat := (List.range n).flatMap fun i => [i, i]

/-- Writes one batch, its appliers moving as `sched` says and then each running to its end in
batch order; the first failure an applier ended with, if any. -/
def applyBatchIn (r : Reconciler m) (acl defaultAcl : List AclEntry) (upn : Bool)
    (sched : List Nat) (batch : List Item) : m (Option Error) := do
  let (_, first) ← r.runSchedule acl defaultAcl upn (sched ++ inTurn batch.length)
    (batch.map fun it => (it, .ready)) none
  pure first

/-- Writes the batches in turn, each under its own schedule (the empty one once the schedules run
out), stopping at a cancellation or a failure. -/
def applyBatchesIn (r : Reconciler m) (d : DeclaredDirectory) (acl defaultAcl : List AclEntry) :
    List (List Nat) → List (List Item) → m Unit
  | _, [] => pure ()
  | scheds, batch :: rest => do
    if ← r.cancelled then throw .canceled
    for it in batch do
      r.log .info (d.path ++ " - Applying to file: " ++ it.path ++ ".")
    match ← r.applyBatchIn acl defaultAcl d.upn (scheds.headD []) batch with
    | some e => throw e
    | none => r.applyBatchesIn d acl defaultAcl scheds.tail rest

/-- Lists the items below a declared directory and writes its declared lists to them in batches,
each batch under its own schedule; the number of items listed. -/
def applyItemsIn (r : Reconciler m) (d : DeclaredDirectory) (scheds : List (List Nat)) : m Nat := do
  let items ← r.storage.list d.path d.recurse 0
  r.applyBatchesIn d d.expectedAcl d.expectedDefault scheds (chunks r.batchSize items)
  pure items.length

end Reconciler

end AclReconcile
