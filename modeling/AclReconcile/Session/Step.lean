import AclReconcile.Session.Fault
import AclReconcile.Reconcile

/-!
# Steps of a session

A session drives one storage through a list of steps. Most steps call one operation of the
storage; others change what lies behind the storage (its files, its database, the store it talks
to), reopen it, run the reconciler over it, or read everything it holds. Each step answers with a
reply, a failure of the storage, or a refusal when the step does not apply to this kind of
storage or its input is malformed.
-/

namespace AclReconcile

/-- Where the declared directories of a reconciliation come from. -/
inductive Source where
  | directories (ds : List DeclaredDirectory)
  /-- A configuration text and its format name. -/
  | config (content format : String)

/-- A change to the files behind a storage, below its base directory. -/
inductive FileChange where
  | write (path content : String)
  | makeDirectories (path : String)
  | remove (path : String)

/-- The path a change of files touches, relative to the base directory. -/
def FileChange.path : FileChange → String
  | .write p _ | .makeDirectories p | .remove p => p

/-- Whether a change of files would climb above the base directory. -/
def FileChange.climbs (c : FileChange) : Bool := (c.path.splitOn "/").contains ".."

/-- A change to the store that a storage talks to, made by another client. -/
inductive StoreChange where
  /-- A value under a key: in a bucket for object stores, with a content type and metadata. -/
  | put (bucket key value contentType : String) (metadata : List (String × String))
  | remove (bucket key : String)
  | keys
  | faults (rules : List Fault)
  | makeBucket (bucket : String)

/-- One step of a session. -/
inductive Step where
  | present (path : String)
  | createContainer (name : String)
  | createDirectory (path : String)
  | createFile (path : String)
  | readAccess (path : String) (upn : Bool)
  | writeAccess (path : String) (ac : Option AccessControl)
  | list (path : String) (recursive : Bool) (max : Int)
  | listContainers
  | addPrincipal (id name : String)
  | capabilities
  | start
  | stop
  | reopen
  | files (change : FileChange)
  | sql (text : String)
  | store (change : StoreChange)
  | dump
  | reconcile (source : Source) (batchSize : Option Int) (capabilities : Option (List String))
      (cancelled : Bool)
  | unknown (name : String)

/-- What a step gives back when it succeeds. -/
inductive Reply where
  | done
  | flag (b : Bool)
  | access (ac : AccessControl)
  | items (items : List Item)
  | names (names : List String)
  /-- Every stored item with its state. -/
  | contents (entries : List (Item × AccessControl))
  /-- A reconciliation: its log lines, its result and the failure that ended it, if any. -/
  | run (log : List String) (result : RunResult) (failure : Option Error)

/-- How a step ended. -/
inductive Outcome where
  | ok (r : Reply)
  /-- The storage failed; the calls made before are counted. -/
  | failed (e : Error)
  /-- A reconciliation that could not start; no calls were made. -/
  | refused (e : Error)
  /-- The step does not apply to this kind of storage. -/
  | unsupported (message : String)
  /-- The step's input is malformed. -/
  | badInput (message : String)

/-- A step's answer: how it ended, the calls that reached the storage by operation name, and
the lines the retrying wrapper logged, in byte order. -/
structure Answer where
  outcome : Outcome
  calls : List (String × Nat)
  retryLog : List String

end AclReconcile
