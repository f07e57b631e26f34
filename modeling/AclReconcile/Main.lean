import AclReconcile.Command.Run

/-!
# The command line

The command reconciles the declared directories of a configuration file against a storage.
This entry point reads the configuration file and the log file named on the command line from
disk, runs the command in a world holding them, prints what the run wrote to the terminal and
to the error stream, writes the log file back, and exits with the run's code. A wrong call
also reports its error on the error stream.
-/

open AclReconcile

/-- The time written in log lines. -/
def logStamp : String := "1970-01-01 00:00:00"

/-- The content of a file on disk, if it can be read. -/
def readText (path : String) : IO (Option String) :=
  try pure (some (← IO.FS.readFile path)) catch _ => pure none

/-- Runs the command with the arguments given. -/
def main (args : List String) : IO UInt32 := do
  let given := (Command.Given.read args).toOption
  let named (flag : String) : String := (given.map (·.text flag)).getD ""
  let mut files : List (String × String) := []
  for path in [named "config", named "log-file"] do
    if path.isEmpty then continue
    if let some content ← readText path then files := files ++ [(path, content)]
  let (report, world) := Command.run (Command.World.ofFiles files) logStamp args
  for line in report.stdout do IO.println line
  for line in report.stderr do IO.eprintln line
  if report.exitCode == 2 then
    if let some e := report.error then IO.eprintln ("error: " ++ e.message)
  let logPath := named "log-file"
  if !logPath.isEmpty then
    if let some lines := world.fileLines logPath then
      IO.FS.writeFile logPath (String.join (lines.map (· ++ "\n")))
  pure report.exitCode.toUInt32
