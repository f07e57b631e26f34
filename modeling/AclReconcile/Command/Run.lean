import AclReconcile.Command.Flags
import AclReconcile.Address.Parse
import AclReconcile.Config
import AclReconcile.Log

/-!
# A run of the command

A run reads its flags, then the declared directories from the configuration file, builds the
storage its backend address names, opens it, wraps it in a retrying layer and reconciles the
directories, logging as it goes; the storage is closed again once it was opened. The first
failure ends the run.

The command is called wrongly when a flag or value is wrong, an argument is left over, the
configuration flag is missing, or the log level, retry settings or batch size are refused;
such a run ends with code 2 and logs nothing. Any other failure ends it with code 1, logged
at error level by the step that met it (the reconciler logs its own). Asking for help writes
the usage text to the error stream and ends with code 0.

Log lines go to the terminal unless the run is quiet, and to the log file when one is named; a
quiet run without a log file still writes them to the terminal, uncoloured, and also reports a
failure that is not a wrong call on the error stream. Lines are coloured on a terminal unless
colour is turned off, and the log file receives the same text as the terminal.

Runs share their world: the files, the database files by path, and the server a backend
address may reach.
-/

namespace AclReconcile.Command

open Address

/-- The server that runs of the command may reach, with what it holds. -/
inductive Server where
  | absent
  | keyValue (store : KeyValue.KvServer)
  | objects (store : ObjectStore.ObjectServer)
  | rows (store : Rows.RowServer)
  deriving Inhabited

/-- What runs of the command share: the files, the database files by path, the server and the
address it listens on. -/
structure World where
  tree : FileTree
  databases : List (String × DbFile) := []
  server : Server := .absent
  serverAddress : String := ""
  deriving Inhabited

/-- How a run that fails ends: the error, and whether the command was called wrongly. -/
structure Failure where
  error : Error
  usage : Bool := false
  deriving Inhabited

/-- What a run gives back: its exit code, what it wrote to the terminal and to the error
stream, and the error it ended with. -/
structure Report where
  exitCode : Nat
  stdout : List String
  stderr : List String
  error : Option Error
  deriving Inhabited

/-- A run in progress: the shared world and the log text written so far, one entry a line. -/
structure Progress where
  world : World
  lines : List String := []
  deriving Inhabited

/-- The steps of a run. -/
abbrev RunM := EStateM Failure Progress

/-- Writes a log line. -/
def say (logger : Logger) (lv : Level) (msg : String) : RunM Unit :=
  modify fun p => { p with lines := p.lines ++ (logger.render lv msg).toList }

/-- Ends the run with an error, logged under a label. -/
def failLogged {α : Type} (logger : Logger) (label : String) (e : Error) : RunM α := do
  say logger .error (label ++ e.message)
  throw ⟨e, false⟩

/-- The operations of a storage while the reconciler runs: the storage's contents, and the log
lines written. -/
abbrev Job (σ : Type) := EStateM Error (σ × List String)

/-- A storage operation inside a job. -/
def Job.onStore {σ α : Type} (x : EStateM Error σ α) : Job σ α := fun (c, ls) =>
  match x c with
  | .ok a c' => .ok a (c', ls)
  | .error e c' => .error e (c', ls)

/-- Writes a log line inside a job. -/
def Job.say {σ : Type} (logger : Logger) (lv : Level) (msg : String) : Job σ Unit :=
  modify fun (c, ls) => (c, ls ++ (logger.render lv msg).toList)

/-- The retry settings of the flags. -/
def retrySettings (g : Given) : Except Error RetryOptions := do
  let o ← ({} : RetryOptions).withAttempts (g.count "retries")
  o.withBaseDelay (g.span "retry-delay")

/-- The message of a finished reconciliation. -/
def summary (r : RunResult) : String :=
  "Reconciled " ++ toString r.paths.length ++ " directories: " ++ toString r.applied ++
    " applied, " ++ toString r.unchanged ++ " unchanged, " ++ toString r.items ++ " items updated"

/-- Opens a storage over its contents, reconciles the directories through the retrying layer
and closes it. `keep` puts the contents back into the world, which happens whether the run
goes on or fails. -/
def operate {σ : Type} (g : Given) (logger : Logger) (storage : Storage (EStateM Error σ))
    (contents : σ) (keep : σ → World → World) (ds : List DeclaredDirectory) : RunM Unit := do
  let store (c : σ) : RunM Unit := modify fun p => { p with world := keep c p.world }
  let close (c : σ) : σ := match storage.stop c with
    | .ok () c' => c'
    | .error _ c' => c'
  match storage.start contents with
  | .error e c =>
    store c
    failLogged logger ("Failed to open backend '" ++ storage.name ++ "': ") e
  | .ok () opened =>
    match retrySettings g, batchSizeOf (g.count "batch-size") with
    | .error e, _ | _, .error e =>
      store (close opened)
      throw ⟨e, true⟩
    | .ok retry, .ok size =>
      let retryLogger := logger.named "retry"
      let layered := (storage.lift Job.onStore).retried retry
        ⟨Job.say retryLogger .warn, pure false, fun _ => pure false⟩
      match Reconciler.new layered (Job.say logger) (pure false) size with
      | .error e =>
        store (close opened)
        if e.is .backendUnsupported then
          failLogged logger ("Unable to reconcile using backend '" ++ storage.name ++ "': ") e
        else throw ⟨e, true⟩
      | .ok r =>
        say logger .debug ("Reconciling " ++ toString ds.length ++
          " directories using backend '" ++ storage.name ++ "'")
        let (outcome, after, written) := match r.run ds (opened, []) with
          | .ok v (c, ls) => (Except.ok v, c, ls)
          | .error e (c, ls) => (Except.error e, c, ls)
        modify fun p => { p with lines := p.lines ++ written }
        store (close after)
        match outcome with
        | .error e | .ok (_, some e) => throw ⟨e, false⟩
        | .ok (result, none) => say logger .info (summary result)

/-- The report of a server that is not listening where an address points. -/
def refused (address : String) : String := "dial tcp " ++ address ++ ": connect: connection refused"

/-- The host and port a key-value store's address names, without scheme or path. -/
def agentOf (address : String) : String :=
  let rest := match address.splitOn "://" with
    | _ :: after :: more => "://".intercalate (after :: more)
    | _ => address
  (cutFirst rest '/').1

/-- What a database file path holds. Below the top of the file tree the tree decides: a
directory or a name in a missing directory cannot be opened, an empty file is an empty
database and any other file is not a database; elsewhere only the databases made by earlier
runs are known. -/
def World.databaseAt (w : World) (path : String) : DbFile :=
  match w.databases.lookup path with
  | some file => file
  | none =>
    if !w.tree.roots.any fun r => path.startsWith (r ++ "/") then .missing
    else match w.tree.stat path with
      | .ok (.file content) => if content.isEmpty then .missing else .foreign
      | .ok .directory => .unopenable
      | .error _ =>
        match w.tree.stat (FileTree.parentOf path) with
        | .ok .directory => .missing
        | _ => .unopenable

/-- Builds, opens and reconciles through the storage a backend address names. -/
def reach (g : Given) (logger : Logger) (b : Backend) (ds : List DeclaredDirectory) :
    RunM Unit := do
  let w := (← get).world
  match b with
  | .memory => operate g logger MemoryStore.storage {} (fun _ w => w) ds
  | .directory root =>
    operate g logger LocalStore.storage { tree := w.tree, root := FileTree.clean root }
      (fun c w => { w with tree := c.tree }) ds
  | .sqlite path =>
    let file := if path == ":memory:" then .missing else w.databaseAt path
    let keep (c : SqliteStore) (w : World) : World :=
      if path == ":memory:" then w
      else { w with databases := (path, c.file) :: w.databases.filter (·.1 != path) }
    match SqliteStore.connect { file } with
    | .error e c =>
      modify fun p => { p with world := keep c p.world }
      failLogged logger "Failed to create backend: " e
    | .ok () c => operate g logger SqliteStore.storage c keep ds
  | .keyValue config =>
    match w.server with
    | .keyValue server =>
      if agentOf config.address == w.serverAddress then
        operate g logger KeyValue.KvOp.storage { server, config }
          (fun c w => { w with server := .keyValue c.server }) ds
      else unreachableAgent config
    | _ => unreachableAgent config
  | .bucket config _ =>
    match w.server with
    | .objects server =>
      if config.endpoint == w.serverAddress then
        operate g logger ObjectStore.BucketOp.storage server
          (fun c w => { w with server := .objects c }) ds
      else unreachableEndpoint config
    | _ => unreachableEndpoint config
  | .database _ settings =>
    let st : Rows.RowStore := { server := {}, user := settings.value "user",
                                database := settings.value "database", dial := Rows.dialText settings }
    let host := ((settings.value "host").splitOn ",").headD ""
    match w.server with
    | .rows server =>
      if host == w.serverAddress then
        match Rows.RowOp.build { st with server } with
        | .error e c =>
          modify fun p => { p with world := { p.world with server := .rows c.server } }
          failLogged logger "Failed to create backend: " e
        | .ok () c =>
          operate g logger Rows.RowOp.storage c
            (fun c w => { w with server := .rows c.server }) ds
      else unreachableDatabase st
    | _ => unreachableDatabase st
where
  /-- A key-value store with no agent listening. -/
  unreachableAgent (config : KeyValue.KvConfig) : RunM Unit :=
    let agent := agentOf config.address
    let scheme := if config.scheme.isEmpty then "http" else config.scheme
    failLogged logger "Failed to open backend 'consul': "
      (.context ("failed to reach consul at '" ++ config.address ++ "'")
        (.plain ("Get \"" ++ scheme ++ "://" ++ agent ++ "/v1/status/leader\": " ++ refused agent)))
  /-- An object store with no server listening. -/
  unreachableEndpoint (config : BucketConfig) : RunM Unit :=
    failLogged logger "Failed to open backend 's3': "
      (.context ("failed to reach s3 endpoint '" ++ config.endpoint ++ "'")
        (.plain ("Get \"" ++ (if config.secure then "https" else "http") ++ "://" ++
          config.endpoint ++ "/\": " ++ refused config.endpoint)))
  /-- A database server with nothing listening. -/
  unreachableDatabase (st : Rows.RowStore) : RunM Unit :=
    failLogged logger "Failed to create backend: "
      (.context "failed to initialize schema" (.plain ("failed to connect to " ++ Rows.backquote ++
        "user=" ++ st.user ++ " database=" ++ st.database ++ Rows.backquote ++ ": " ++ st.dial ++
        ": dial error: connect: no such file or directory")))

/-- The steps of a run once its flags and log level are read. -/
def body (g : Given) (logger : Logger) : RunM Unit := do
  let ds ← match Config.loadFrom (← get).world.tree (g.text "config") with
    | .ok ds => pure ds
    | .error e => failLogged logger "Failed to load configuration: " e
  let connection : ConnectionOptions :=
    { limit := g.count "default-connection-limit",
      expectContinue := if g.changed "expect-100-continue" then some (g.switch "expect-100-continue")
        else none }
  let opts : Options :=
    { connection := some connection, accountName := g.text "account-name",
      accessKey := g.text "access-key" }
  match Address.parse (g.text "backend") opts with
  | .error e => failLogged logger "Failed to create backend: " e
  | .ok b => reach g logger b ds

/-- Appends log text to a file, making the directories above it; a file that cannot be made is
left alone. -/
def appendLog (t : FileTree) (path : String) (lines : List String) : FileTree :=
  if lines.isEmpty then t
  else match t.mkdirAll (FileTree.parentOf path) with
    | .error _ => t
    | .ok made =>
      let before := match made.readFile path with
        | .ok c => c
        | .error _ => ""
      match made.writeFile path (before ++ String.join (lines.map (· ++ "\n"))) with
      | .ok written => written
      | .error _ => t

/-- The lines of a file of the world, the last line break ending the last line; nothing when
the file cannot be read. -/
def World.fileLines (w : World) (path : String) : Option (List String) :=
  match w.tree.readFile path with
  | .error _ => none
  | .ok content =>
    match (content.splitOn "\n").reverse with
    | "" :: rest => some rest.reverse
    | all => some all.reverse

/-- A world holding only the given files, with the directories above them. -/
def World.ofFiles (files : List (String × String)) : World :=
  { tree := files.foldl (fun t (p, content) =>
      let t := (t.mkdirAll (FileTree.parentOf p)).toOption.getD t
      (t.writeFile p content).toOption.getD t) { roots := ["."] } }

/-- The report of a wrong call. -/
def wrongCall (w : World) (e : Error) : Report × World := (⟨2, [], [], some e⟩, w)

/-- Runs the command with its arguments in a world; `stamp` is the time written in log lines. -/
def run (w : World) (stamp : String) (args : List String) : Report × World :=
  match Given.read args with
  | .error .help => (⟨0, [], usageLines, none⟩, w)
  | .error (.invalid m) => wrongCall w (.plain m)
  | .ok g =>
    match g.args with
    | first :: _ => wrongCall w (.plain ("unexpected argument: " ++ first))
    | [] =>
      if (g.text "config").isEmpty then wrongCall w (.plain "missing required flag --config")
      else match Level.parse (g.text "log-level") with
      | .error m => wrongCall w (.plain m)
      | .ok level =>
        let quiet := g.switch "quiet"
        let file := g.text "log-file"
        let logger : Logger :=
          { name := "aclsync", threshold := level, stamp, json := g.switch "log-json",
            colored := !quiet && !g.switch "no-color" }
        let (outcome, p) := match body g logger ⟨w, []⟩ with
          | .ok () p => ((none : Option Failure), p)
          | .error f p => (some f, p)
        let stdout := if !quiet || file.isEmpty then p.lines.flatMap (·.splitOn "\n") else []
        let world := if file.isEmpty then p.world
          else { p.world with tree := appendLog p.world.tree file p.lines }
        let stderr := match outcome with
          | some f => if quiet && file.isEmpty && !f.usage then ("error: " ++ f.error.message).splitOn "\n"
            else []
          | none => []
        let code := match outcome with
          | none => 0
          | some f => if f.usage then 2 else 1
        (⟨code, stdout, stderr, outcome.map (·.error)⟩, world)

end AclReconcile.Command
