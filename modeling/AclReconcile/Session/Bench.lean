import AclReconcile.Session.Step
import AclReconcile.Storage.Retry
import AclReconcile.Config
import AclReconcile.Index

/-!
# Running a session

A session holds one storage of some kind, whose contents are a value of type `σ`. Every call of
one of the seven operations passes a fault injector, which counts it, fails it when a planned
failure says so, and marks the step as cancelled once the step's chosen number of calls has
returned. When the session retries, a retrying wrapper sits above the injector and logs its
warnings. Steps that create files, register principals or read everything go to the storage
itself, past the injector.
-/

namespace AclReconcile

/-- A kind of storage: its operations on contents of type `σ`, and the steps that only some
kinds have. -/
structure Backend (σ : Type) where
  storage : Storage (EStateM Error σ)
  /-- Closes the storage and opens a new one on the same place. -/
  reopen : EStateM Error σ Unit
  createFile : Option (String → EStateM Error σ Unit) := none
  addPrincipal : Option (String → String → EStateM Error σ Unit) := none
  files : Option (FileChange → EStateM Error σ Unit) := none
  sql : Option (String → EStateM Error σ Unit) := none
  /-- A change to the store behind the storage; a malformed change is refused with a message,
  and listing the keys gives them back. -/
  store : Option (StoreChange → EStateM Error σ (Except String (Option (List String)))) := none

/-- The state of a session over contents of type `σ`. -/
structure Bench (σ : Type) where
  contents : σ
  faults : List Fault
  /-- The calls of this step that reached the injector, by operation name. -/
  calls : Index Nat := {}
  /-- The calls of this step that have returned. -/
  returned : Nat := 0
  /-- The number of returned calls after which the step is cancelled. -/
  cancelAfter : Option Nat := none
  cancelled : Bool := false
  retryLines : List String := []
  logLines : List String := []

/-- A computation of a session. -/
abbrev BenchM (σ : Type) := EStateM Error (Bench σ)

namespace Bench

variable {σ : Type}

/-- A computation on the contents, run inside a session. -/
def onContents {α : Type} (x : EStateM Error σ α) : BenchM σ α := fun b =>
  match x b.contents with
  | .ok a s => .ok a { b with contents := s }
  | .error e s => .error e { b with contents := s }

/-- The logger of the retrying wrapper. -/
def retryLogger : Logger := Logger.named ⟨"aclsync", .debug, "", false, false⟩ "retry"

/-- The logger of the reconciler. -/
def reconcileLogger : Logger := ⟨"aclsync", .debug, "", false, false⟩

/-- Whether the step has been cancelled. -/
def isCancelled : BenchM σ Bool := do pure (← get).cancelled

/-- Counts a call that has returned, cancelling the step at the chosen count. -/
def settle : BenchM σ Unit := modify fun b =>
  let n := b.returned + 1
  { b with returned := n, cancelled := b.cancelled || b.cancelAfter == some n }

/-- A call passed through the fault injector. -/
def inject {α : Type} (op : Operation) (path : String) (run : BenchM σ α) : BenchM σ α := do
  let b ← get
  let (hit, faults) := Fault.trigger op.name path b.faults
  set { b with calls := b.calls.insert op.name ((b.calls.get? op.name).getD 0 + 1), faults }
  if hit then
    settle
    throw .injected
  else
    tryCatch (do let v ← run; settle; pure v) fun e => do settle; throw e

/-- The storage itself, inside the session. -/
def raw (k : Backend σ) : Storage (BenchM σ) := k.storage.lift onContents

/-- The storage that steps call: the injector, and the retrying wrapper when there is one. -/
def top (k : Backend σ) (retry : Option RetryOptions) : Storage (BenchM σ) :=
  let injected := (raw k).around inject
  match retry with
  | some o =>
    let warn (msg : String) : BenchM σ Unit :=
      modify fun b => { b with retryLines := b.retryLines ++ retryLogger.lines .warn msg }
    -- nothing cancels a step while it waits, so a wait ends early only for a step that was
    -- cancelled before it began
    injected.retried o ⟨warn, isCancelled, fun _ => isCancelled⟩
  | none => injected

/-- Writes a line of the reconciler's log. -/
def logReconcile (lv : Level) (msg : String) : BenchM σ Unit :=
  modify fun b => { b with logLines := b.logLines ++ reconcileLogger.lines lv msg }

end Bench

/-- Every item a storage holds with its state: the containers in byte order, each followed by
everything below it. -/
def Storage.contents {m : Type → Type} [Monad m] (s : Storage m) :
    m (List (Item × AccessControl)) := do
  let cs := (← s.listContainers).mergeSort fun a b => !(b < a)
  let mut out := []
  for c in cs do
    let ac ← s.readAccess c false
    out := out ++ [(⟨c, true⟩, ac)]
    for it in ← s.list c true 0 do
      out := out ++ [(it, ← s.readAccess it.path false)]
  return out

namespace Bench

variable {σ : Type}

/-- The outcome of a computation that replies or fails. -/
def outcome (x : BenchM σ Reply) : BenchM σ Outcome :=
  tryCatch (Outcome.ok <$> x) fun e => pure (.failed e)

/-- The refusal of a step that this kind of storage does not have. -/
def lacks (k : Backend σ) (what : String) : Outcome :=
  .unsupported ("backend '" ++ k.storage.name ++ "' has no " ++ what)

/-- Runs a reconciliation over the storage that steps call. -/
def reconcile (k : Backend σ) (retry : Option RetryOptions) (source : Source)
    (batchSize : Option Int) (capabilities : Option (List String)) (cancelled : Bool) :
    BenchM σ Outcome := do
  let ds : Except Error (List DeclaredDirectory) := match source with
    | .directories ds => .ok ds
    | .config content format => Config.parse content format
  let size : Except Error Nat := match batchSize with
    | some n => batchSizeOf n
    | none => .ok defaultBatchSize
  match ds, size with
  | .error e, _ | _, .error e => pure (.refused e)
  | .ok ds, .ok size =>
    let storage := match capabilities with
      | some cs => (top k retry).announcing cs
      | none => top k retry
    match Reconciler.new storage logReconcile isCancelled size with
    | .error e => pure (.refused e)
    | .ok r =>
      if cancelled then modify fun (b : Bench σ) => { b with cancelled := true }
      outcome do
        let (result, failure) ← r.run ds
        pure (.run (← get).logLines result failure)

/-- Performs one step. -/
def perform (k : Backend σ) (retry : Option RetryOptions) : Step → BenchM σ Outcome
  | .present p => outcome do pure (.flag (← (top k retry).present p))
  | .createContainer n => outcome do (top k retry).createContainer n; pure .done
  | .createDirectory p => outcome do (top k retry).createDirectory p; pure .done
  | .createFile p => match k.createFile with
    | some f => outcome do onContents (f p); pure .done
    | none => pure (lacks k "create_file")
  | .readAccess p upn => outcome do pure (.access (← (top k retry).readAccess p upn))
  | .writeAccess p ac => outcome do (top k retry).writeAccess p ac; pure .done
  | .list p r n => outcome do pure (.items (← (top k retry).list p r n))
  | .listContainers => outcome do pure (.names (← (top k retry).listContainers))
  | .addPrincipal id name => match k.addPrincipal with
    | some f => outcome do onContents (f id name); pure .done
    | none => pure (lacks k "principal table")
  | .capabilities => pure (.ok (.names (top k retry).capabilities))
  | .start => outcome do (top k retry).start; pure .done
  | .stop => outcome do (top k retry).stop; pure .done
  | .reopen => outcome do onContents k.reopen; pure .done
  | .files c => match k.files with
    | some f =>
      if c.climbs then pure (.badInput ("path '" ++ c.path ++ "' leaves the base directory"))
      else outcome do onContents (f c); pure .done
    | none => pure (lacks k "files")
  | .sql t => match k.sql with
    | some f => outcome do onContents (f t); pure .done
    | none => pure (lacks k "sql")
  | .store c => match k.store with
    | some f => tryCatch (do
        match ← onContents (f c) with
        | .ok (some ks) => pure (.ok (.names ks))
        | .ok none => pure (.ok .done)
        | .error msg => pure (.badInput msg)) fun e => pure (.failed e)
    | none => pure (lacks k "raw store")
  | .dump => outcome do pure (.contents (← (raw k).contents))
  | .reconcile source size caps cancelled => reconcile k retry source size caps cancelled
  | .unknown name => pure (.badInput ("unknown step '" ++ name ++ "'"))

/-- Performs one step with fresh counts, cancelled after `cancelAfter` returned calls when
given. -/
def answer (k : Backend σ) (retry : Option RetryOptions) (step : Step)
    (cancelAfter : Option Nat) : BenchM σ Answer := do
  modify fun (b : Bench σ) => { b with
    calls := {}
    returned := 0
    cancelAfter := cancelAfter
    cancelled := false
    retryLines := []
    logLines := [] }
  let o ← perform k retry step
  let b ← get
  pure ⟨o, b.calls.entries, b.retryLines.mergeSort fun x y => !(y < x)⟩

/-- Performs the steps in turn. -/
def answers (k : Backend σ) (retry : Option RetryOptions) :
    List (Step × Option Nat) → BenchM σ (List Answer)
  | [] => pure []
  | (s, n) :: rest => do
    let a ← answer k retry s n
    pure (a :: (← answers k retry rest))

end Bench

/-- Options for the retrying wrapper of a session: the number of attempts and the base delay in
nanoseconds. -/
def sessionRetry (attempts delay : Int) : Except Error RetryOptions := do
  let o ← ({} : RetryOptions).withAttempts attempts
  o.withBaseDelay ⟨delay⟩

/-- Opens a storage of kind `k` over `contents` and runs the steps; a failure to open ends the
session before any step. -/
def runSession {σ : Type} (k : Backend σ) (contents : σ) (faults : List Fault)
    (retry : Option RetryOptions) (steps : List (Step × Option Nat)) : Except Error (List Answer) :=
  match k.storage.start contents with
  | .error e _ => .error e
  | .ok () opened =>
    match (Bench.answers k retry steps) ⟨opened, faults, {}, 0, none, false, [], []⟩ with
    | .ok as _ => .ok as
    | .error e _ => .error e

end AclReconcile
