import AclReconcile.Address.Url
import AclReconcile.Text.Number
import AclReconcile.Duration
import AclReconcile.FileTree

/-!
# Connection strings of a database server

A connection string is a URL with the scheme "postgres" or "postgresql": user and password,
a list of hosts with ports, the database as the path, and settings in the query. Settings start
from defaults (the socket directory "/tmp", port 5432, any kind of server), then the URL's
parts, then the query's settings, where "dbname" names the database.

Before anything connects, the settings are checked in a fixed order: the service, the connect
timeout, for each host its port and (unless it is a socket directory, a path starting with
"/") its TLS settings, the kind of server asked for, then the cache and query mode settings of
the connection and the size and timing settings of the pool. The first refusal ends the
reading.

A refusal of the string itself quotes it with any password hidden: a URL that can be read
again is written back with the password "xxxxx"; otherwise every ":" followed by text up to an
"@" has that text replaced by "xxxxxx".
-/

namespace AclReconcile.Rows

open Address

/-- The backquote character, which refusals put around the connection string. -/
def backquote : String := String.singleton (Char.ofNat 96)

/-- Why a connection string is refused. -/
inductive ConnError where
  /-- The string is unusable: the reason and, when there is one, the error under it. -/
  | unreadable (connString reason : String) (cause : Option String)
  deriving Inhabited

/-- Replaces, from the left, every "password='...'" with "password=xxxxx"; `fuel` above the
length is enough, as each step takes a character. -/
def hideQuotedPassword : Nat → List Char → List Char
  | 0, cs => cs
  | _, [] => []
  | fuel + 1, c :: rest =>
    let key := "password='".toList
    if key.isPrefixOf (c :: rest) then
      match ((c :: rest).drop key.length).span (· != '\'') with
      | (_, '\'' :: tail) => "password=xxxxx".toList ++ hideQuotedPassword fuel tail
      | _ => c :: hideQuotedPassword fuel rest
    else c :: hideQuotedPassword fuel rest

/-- Replaces, from the left, every "password=" and the text after it up to a space with
"password=xxxxx". -/
def hidePlainPassword : Nat → List Char → List Char
  | 0, cs => cs
  | _, [] => []
  | fuel + 1, c :: rest =>
    let key := "password=".toList
    if key.isPrefixOf (c :: rest) then
      let tail := ((c :: rest).drop key.length).dropWhile (· != ' ')
      "password=xxxxx".toList ++ hidePlainPassword fuel tail
    else c :: hidePlainPassword fuel rest

/-- Replaces, from the left, every ":" followed by a non-empty text without ":" or "@" and then
an "@" with ":xxxxxx@". -/
def hideUserPassword : Nat → List Char → List Char
  | 0, cs => cs
  | _, [] => []
  | fuel + 1, c :: rest =>
    if c == ':' then
      match rest.span (fun x => x != ':' && x != '@') with
      | (_ :: _, '@' :: tail) => ":xxxxxx@".toList ++ hideUserPassword fuel tail
      | _ => c :: hideUserPassword fuel rest
    else c :: hideUserPassword fuel rest

/-- The connection string with its password hidden. -/
def redact (connString : String) : String :=
  let asUrl :=
    if connString.startsWith "postgres://" || connString.startsWith "postgresql://" then
      (Url.parse connString).toOption
    else none
  match asUrl with
  | some u =>
    (match u.user with
     | some info =>
       if info.password.isSome then { u with user := some { info with password := some "xxxxx" } }
       else u
     | none => u).text
  | none =>
    let step (f : Nat → List Char → List Char) (cs : List Char) := f (cs.length + 1) cs
    String.ofList (step hideUserPassword (step hidePlainPassword
      (step hideQuotedPassword connString.toList)))

/-- The report of a refused connection string. -/
def ConnError.message : ConnError → String
  | .unreadable c reason cause =>
    "cannot parse " ++ backquote ++ redact c ++ backquote ++ ": " ++ reason ++
      (cause.map fun e => " (" ++ e ++ ")").getD ""

/-- Settings by name, each name once. -/
abbrev Settings := List (String × String)

/-- The value of a setting. -/
def Settings.get? (s : Settings) (name : String) : Option String := s.lookup name

/-- The value of a setting, "" when it is not given. -/
def Settings.value (s : Settings) (name : String) : String := (s.get? name).getD ""

/-- Gives a setting a value, in place of any value it had. -/
def Settings.put (s : Settings) (name value : String) : Settings :=
  if s.any (·.1 == name) then s.map fun (k, v) => if k == name then (k, value) else (k, v)
  else s ++ [(name, value)]

/-- The settings every connection starts from. -/
def defaultSettings : Settings :=
  [("host", "/tmp"), ("port", "5432"), ("servicefile", "/root/.pg_service.conf"),
   ("target_session_attrs", "any")]

/-- The text without the brackets at its ends. -/
def dropBrackets (s : String) : String :=
  let bracket (c : Char) : Bool := c == '[' || c == ']'
  String.ofList ((s.toList.dropWhile bracket).reverse.dropWhile bracket).reverse

/-- Whether a host of a URL needs no splitting: an IP address once brackets are cut, or a text
without a colon. -/
def isAddressOnly (host : String) : Bool := isIP (dropBrackets host) || !host.contains ':'

/-- The settings a URL connection string gives; the error is the reason. -/
def urlSettings (connString : String) : Except String Settings := do
  let u ← (Url.parse connString).mapError (·.reason)
  let mut s : Settings := []
  if let some info := u.user then
    s := s.put "user" info.name
    if let some p := info.password then s := s.put "password" p
  let mut hosts : List String := []
  let mut ports : List String := []
  for part in u.host.splitOn "," do
    if part.isEmpty then continue
    if isAddressOnly part then
      hosts := hosts ++ [dropBrackets part]
    else
      match splitHostPort part with
      | .error e => throw ("failed to split host:port in '" ++ part ++ "', err: " ++ e)
      | .ok (h, p) =>
        if !h.isEmpty then hosts := hosts ++ [h]
        if !p.isEmpty then ports := ports ++ [p]
  if !hosts.isEmpty then s := s.put "host" (",".intercalate hosts)
  if !ports.isEmpty then s := s.put "port" (",".intercalate ports)
  let database := String.ofList (u.path.toList.dropWhile (· == '/'))
  if !database.isEmpty then s := s.put "database" database
  let mut seen : List String := []
  for (k, v) in queryValues u.rawQuery do
    if seen.contains k then continue
    seen := seen ++ [k]
    s := s.put (if k == "dbname" then "database" else k) v
  pure s

/-- The port of a host: a 16-bit number that is not zero. -/
def parsePort (text : String) : Except String Nat :=
  match Text.parseUnsigned 10 16 text with
  | .error e => .error e.message
  | .ok 0 => .error "outside range"
  | .ok n => .ok n

/-- The modes of encryption a connection may ask for. -/
def sslModes : List String := ["disable", "allow", "prefer", "require", "verify-ca", "verify-full"]

/-- The report of a file that cannot be read because it is not there. -/
def missingFile (path : String) : String := "open " ++ path ++ ": no such file or directory"

/-- Directories every system has. -/
def systemDirectories : List String :=
  ["/", "/bin", "/boot", "/dev", "/etc", "/home", "/lib", "/mnt", "/opt", "/proc", "/root",
   "/run", "/sbin", "/srv", "/sys", "/tmp", "/usr", "/var"]

/-- Reads a file a setting names: `/dev/null` is empty, the directories every system has cannot
be read as files, and any other file is taken to be missing. -/
def readSettingFile (path : String) : Except String String :=
  let trimmed := String.ofList ((path.toList.reverse.dropWhile (· == '/')).reverse)
  let name := if trimmed.isEmpty then "/" else trimmed
  if path == "/dev/null" then .ok ""
  else if path.startsWith "/" && systemDirectories.contains name then
    .error ("read " ++ path ++ ": is a directory")
  else if path.startsWith "/dev/null/" then .error ("open " ++ path ++ ": not a directory")
  else .error (missingFile path)

/-- Whether a text holds a PEM block. -/
def hasPemBlock (text : String) : Bool :=
  (text.splitOn "-----BEGIN ").length > 1

/-- Checks the encryption settings of a host reached over the network: the root certificate
file (`system` asks for the system's certificates and full verification), the mode, and the
client certificate with its key. -/
def checkTls (s : Settings) : Except String Unit := do
  let mode := if s.value "sslmode" == "" then "prefer" else s.value "sslmode"
  let mode := if s.value "sslnegotiation" == "direct" && mode == "prefer" then "require" else mode
  let rootCert := s.value "sslrootcert"
  let mode ← if rootCert == "" then pure mode
    else if rootCert == "system" then pure "verify-full"
    else do
      let content ← (readSettingFile rootCert).mapError ("unable to read CA file: " ++ ·)
      if !hasPemBlock content then throw "unable to add CA to cert pool"
      pure mode
  if !sslModes.contains mode then throw "sslmode is invalid"
  if mode == "disable" then return
  let cert := s.value "sslcert"
  let key := s.value "sslkey"
  if (cert != "" && key == "") || (cert == "" && key != "") then
    throw "both \"sslcert\" and \"sslkey\" are required"
  if cert != "" && key != "" then
    let content ← (readSettingFile key).mapError ("unable to read sslkey: " ++ ·)
    if !hasPemBlock content then throw "failed to decode sslkey"

/-- The kinds of server a connection may ask for. -/
def sessionKinds : List String :=
  ["read-write", "read-only", "primary", "standby", "prefer-standby", "any"]

/-- The modes of running queries a connection may ask for. -/
def queryModes : List String :=
  ["cache_statement", "cache_describe", "describe_exec", "exec", "simple_protocol"]

/-- Names that are settings of the connection rather than parameters sent to the server. -/
def connectionNames : List String :=
  ["host", "port", "database", "user", "password", "passfile", "connect_timeout", "sslmode",
   "sslkey", "sslcert", "sslrootcert", "sslnegotiation", "sslpassword", "sslsni", "krbspn",
   "krbsrvname", "target_session_attrs", "service", "servicefile"]

/-- Checks a whole number of 32 bits given for a parameter; `check` names what is wrong with a
number that reads. -/
def checkCount (fail : String → Option String → ConnError) (params : Settings) (name : String)
    (check : Int → Option String) : Except ConnError Unit :=
  match params.get? name with
  | none => .ok ()
  | some text =>
    match Text.parseSigned 10 32 text with
    | .error e => .error (fail ("cannot parse " ++ name) (some e.message))
    | .ok n => match check n with
      | some problem => .error (fail problem none)
      | none => .ok ()

/-- Checks a span of time given for a parameter. -/
def checkSpan (fail : String → Option String → ConnError) (params : Settings) (name : String) :
    Except ConnError Unit :=
  match params.get? name with
  | none => .ok ()
  | some text =>
    match Duration.parse text with
    | .error e => .error (fail ("cannot parse " ++ name) (some e))
    | .ok _ => .ok ()

/-- Where a pool with these settings dials first, as reports of a failed connection name it:
the socket file in a socket directory, or the host and port, each followed by the host as
given. -/
def dialText (s : Settings) : String :=
  let host := ((s.value "host").splitOn ",").headD ""
  let port := toString ((parsePort (((s.value "port").splitOn ",").headD "")).toOption.getD 5432)
  let address :=
    if host.startsWith "/" then FileTree.clean (host ++ "/.s.PGSQL.") ++ port
    else if host.contains ':' then "[" ++ host ++ "]:" ++ port
    else host ++ ":" ++ port
  address ++ " (" ++ host ++ ")"

/-- Reads a URL connection string and checks its settings, giving the settings. -/
def parseConnString (connString : String) : Except ConnError Settings := do
  let fail (reason : String) (cause : Option String) : ConnError :=
    .unreadable connString reason cause
  let given ← (urlSettings connString).mapError fun e => fail "failed to parse as URL" (some e)
  let s := given.foldl (fun acc (k, v) => acc.put k v) defaultSettings
  if s.get? "service" |>.isSome then
    throw (fail "failed to read service"
      (some ("failed to read service file: " ++ s.value "servicefile")))
  if let some text := s.get? "connect_timeout" then
    match Text.parseSigned 10 64 text with
    | .error e => throw (fail "invalid connect_timeout" (some e.message))
    | .ok n => if n < 0 then throw (fail "invalid connect_timeout" (some "negative timeout"))
  let hosts := (s.value "host").splitOn ","
  let ports := (s.value "port").splitOn ","
  for (host, i) in hosts.zipIdx do
    let portText := (ports[i]?).getD (ports.headD "")
    match parsePort portText with
    | .error e => throw (fail "invalid port" (some e))
    | .ok _ => pure ()
    if !host.startsWith "/" then
      match checkTls s with
      | .error e => throw (fail "failed to configure TLS" (some e))
      | .ok () => pure ()
  let kind := s.value "target_session_attrs"
  if !sessionKinds.contains kind then
    throw (fail ("unknown target_session_attrs value: " ++ kind) none)
  let params : Settings := s.filter fun (k, _) => !connectionNames.contains k
  checkCount fail params "statement_cache_capacity" fun _ => none
  checkCount fail params "description_cache_capacity" fun _ => none
  if let some mode := params.get? "default_query_exec_mode" then
    if !queryModes.contains mode then throw (fail "invalid default_query_exec_mode" none)
  checkCount fail params "pool_max_conns" fun n =>
    if n < 1 then some "pool_max_conns too small" else none
  checkCount fail params "pool_min_conns" fun _ => none
  checkCount fail params "pool_min_idle_conns" fun _ => none
  checkSpan fail params "pool_max_conn_lifetime"
  checkSpan fail params "pool_max_conn_idle_time"
  checkSpan fail params "pool_health_check_period"
  checkSpan fail params "pool_max_conn_lifetime_jitter"
  pure s

end AclReconcile.Rows
