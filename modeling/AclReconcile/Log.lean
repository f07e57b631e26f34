import AclReconcile.Text.Blank
import AclReconcile.Text.Case
import AclReconcile.Json.Write

/-!
# Log lines

A logger writes a message when its level is at least the logger's threshold. A line is
`[stamp] LEVEL [name] message`, the level name padded to five characters and the name part left
out when the logger has no name; on a terminal the line is coloured by its level. In JSON mode
the line is an object with the stamp, the level name, the service name (left out when empty) and
the message. A logger named below another joins the two names with a slash.
-/

namespace AclReconcile

/-- A severity of log messages; ranks outside the five named ones have no name. -/
structure Level where
  rank : Int
  deriving BEq, Inhabited

namespace Level

def debug : Level := ⟨0⟩
def info : Level := ⟨1⟩
def warn : Level := ⟨2⟩
def error : Level := ⟨3⟩
def fatal : Level := ⟨4⟩

/-- The upper-case name of a level. -/
def name (l : Level) : String :=
  match l.rank with
  | 0 => "DEBUG" | 1 => "INFO" | 2 => "WARN" | 3 => "ERROR" | 4 => "FATAL"
  | _ => "UNKNOWN"

/-- The terminal colour of a level. -/
def color (l : Level) : String :=
  match l.rank with
  | 0 => "\x1b[34m" | 1 => "\x1b[32m" | 2 => "\x1b[33m" | 3 => "\x1b[31m" | 4 => "\x1b[31m"
  | _ => "\x1b[0m"

/-- The level named by a text, ignoring case and surrounding blanks; `WARNING` is `WARN`. -/
def parse (s : String) : Except String Level :=
  match Text.upper (Text.trim s) with
  | "DEBUG" => .ok debug
  | "INFO" => .ok info
  | "WARN" | "WARNING" => .ok warn
  | "ERROR" => .ok error
  | "FATAL" => .ok fatal
  | _ => .error ("invalid log level '" ++ s ++ "' defined")

/-- The level used when a level text cannot be read. -/
def fallback : Level := info

end Level

/-- Where and how a logger writes its lines. -/
structure Logger where
  name : String
  threshold : Level
  /-- The time stamp written in front of each line. -/
  stamp : String := ""
  json : Bool := false
  colored : Bool := false

namespace Logger

/-- The logger for the part `n` of what this logger covers. -/
def named (l : Logger) (n : String) : Logger :=
  { l with name := if l.name.isEmpty then n else l.name ++ "/" ++ n }

/-- The text a logger writes for a message, without the final line break; nothing when the
level is below the threshold. -/
def render (l : Logger) (lv : Level) (msg : String) : Option String :=
  if lv.rank < l.threshold.rank then none
  else if l.json then
    let service := if l.name.isEmpty then [] else [("service", Json.string l.name)]
    some (Json.render (Json.obj ([("timestamp", .string l.stamp), ("level", .string lv.name)] ++
      service ++ [("message", .string msg)])))
  else
    let levelText := lv.name ++ String.ofList (List.replicate (5 - lv.name.length) ' ')
    let pre := "[" ++ l.stamp ++ "] " ++ levelText
    let pre := if l.name.isEmpty then pre else pre ++ " [" ++ l.name ++ "]"
    if l.colored then some (lv.color ++ pre ++ " " ++ msg ++ "\x1b[0m")
    else some (pre ++ " " ++ msg)

/-- The lines a logger writes for a message: its text split at line breaks, nothing when the
level is below the threshold. -/
def lines (l : Logger) (lv : Level) (msg : String) : List String :=
  match l.render lv msg with
  | some text => text.splitOn "\n"
  | none => []

end Logger

end AclReconcile
