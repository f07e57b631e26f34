import AclReconcile.Text.Number
import AclReconcile.Duration
import AclReconcile.Reconcile
import AclReconcile.Storage.Retry
import AclReconcile.Address.Url

/-!
# Flags of the command

The command takes flags, each with a long name after "--" and some with a one-letter name
after "-". A flag's value follows "=" or comes as the next argument; a switch needs no value
and is set to true when named alone. Several one-letter names may share one "-", the last of
them taking a value when it needs one; its value may also follow the letter directly. "--"
ends the flags, and every other argument that does not start with "-" (or is "-" alone) is
kept as an argument. "-h" and "--help" ask for the usage text.

A value is checked as the flag is read: a whole number with an optional base prefix, a truth
value, or a span of time. The first problem ends the reading, worded as the flag library words
it.
-/

namespace AclReconcile.Command

/-- The kinds of value a flag takes. -/
inductive FlagKind where
  | text
  | count
  | switch
  | span
  deriving DecidableEq, Inhabited

/-- The name of a kind of value in the usage text; a switch shows none. -/
def FlagKind.typeName : FlagKind → String
  | .text => "string"
  | .count => "int"
  | .switch => ""
  | .span => "duration"

/-- A flag: its long name, its one-letter name if it has one, the kind of its value, its
default value as text and what it is for. -/
structure Flag where
  name : String
  short : Option Char := none
  kind : FlagKind
  default : String
  usage : String
  deriving Inhabited

/-- The flags of the command. -/
def flags : List Flag :=
  [{ name := "backend", short := some 'b', kind := .text, default := "memory://",
     usage := "storage backend address (memory://, local://, sqlite://, postgres://, consul://, s3://, minio://)" },
   { name := "account-name", short := some 'a', kind := .text, default := "",
     usage := "storage account name, overrides the address credentials" },
   { name := "access-key", short := some 'k', kind := .text, default := "",
     usage := "storage access key, overrides the address credentials" },
   { name := "config", short := some 'c', kind := .text, default := "",
     usage := "path to the declared directories (.json, .jsonc, .yaml, .yml)" },
   { name := "default-connection-limit", kind := .count, default := "0",
     usage := "maximum concurrent connections per host (0 keeps the default)" },
   { name := "expect-100-continue", kind := .switch, default := "false",
     usage := "wait for '100 Continue' before sending request bodies" },
   { name := "batch-size", kind := .count, default := toString defaultBatchSize,
     usage := "number of descendants updated concurrently" },
   { name := "retries", kind := .count, default := toString ({} : RetryOptions).attempts,
     usage := "attempts per storage operation" },
   { name := "retry-delay", kind := .span, default := ({} : RetryOptions).baseDelay.render,
     usage := "base delay between attempts, multiplied by the attempt number" },
   { name := "log-level", kind := .text, default := "info",
     usage := "log level (debug, info, warn, error)" },
   { name := "log-file", kind := .text, default := "",
     usage := "additionally write logs to this file" },
   { name := "log-json", kind := .switch, default := "false", usage := "write logs as JSON lines" },
   { name := "no-color", kind := .switch, default := "false",
     usage := "disable coloured terminal output" },
   { name := "quiet", short := some 'q', kind := .switch, default := "false",
     usage := "do not log to the terminal" }]

/-- The flag of a long name. -/
def flagNamed (name : String) : Option Flag := flags.find? (·.name == name)

/-- The flag of a one-letter name. -/
def flagLettered (c : Char) : Option Flag := flags.find? (·.short == some c)

/-- How a flag is named in reports: both names when it has a letter. -/
def Flag.title (f : Flag) : String :=
  match f.short with
  | some c => "-" ++ String.singleton c ++ ", --" ++ f.name
  | none => "--" ++ f.name

/-- Why a value does not fit a flag's kind, if it does not. -/
def Flag.problem (f : Flag) (value : String) : Option String :=
  match f.kind with
  | .text => none
  | .count => match Text.parseSigned 0 64 value with
    | .error e => some e.message
    | .ok _ => none
  | .switch => match Text.parseBool value with
    | .error e => some e.message
    | .ok _ => none
  | .span => match Duration.parse value with
    | .error e => some e
    | .ok _ => none

/-- A character in single quotes, escaped. -/
def quoteLetter (c : Char) : String := "'" ++ Text.escapeChar '\'' c ++ "'"

/-- What was read from a command line: the value of each flag given, in the order first given,
the last value winning, and the arguments that are not flags. -/
structure Given where
  values : List (String × String) := []
  args : List String := []
  deriving Inhabited

/-- Why a command line is not read to the end. -/
inductive Stop where
  /-- The usage text was asked for. -/
  | help
  /-- A flag or value is wrong. -/
  | invalid (message : String)
  deriving Inhabited

/-- Records a flag's value after checking it. -/
def Given.set (g : Given) (f : Flag) (value : String) : Except Stop Given :=
  match f.problem value with
  | some cause =>
    .error (.invalid ("invalid argument " ++ Text.quote value ++ " for " ++ Text.quote f.title ++
      " flag: " ++ cause))
  | none =>
    if g.values.any (·.1 == f.name) then
      .ok { g with values := g.values.map fun (k, v) => if k == f.name then (k, value) else (k, v) }
    else .ok { g with values := g.values ++ [(f.name, value)] }

/-- Reads one argument of the form "--name" or "--name=value", with the arguments after it;
gives the arguments left. -/
def readLong (g : Given) (arg : String) (rest : List String) : Except Stop (Given × List String) :=
  let name := (arg.drop 2).toString
  if name.isEmpty || name.startsWith "-" || name.startsWith "=" then
    .error (.invalid ("bad flag syntax: " ++ arg))
  else
    let (name, inline) := Address.cutFirst name '='
    match flagNamed name with
    | none => if name == "help" then .error .help else .error (.invalid ("unknown flag: --" ++ name))
    | some f =>
      match inline with
      | some v => do pure (← g.set f v, rest)
      | none =>
        if f.kind == .switch then do pure (← g.set f "true", rest)
        else match rest with
          | v :: more => do pure (← g.set f v, more)
          | [] => .error (.invalid ("flag needs an argument: --" ++ name))

/-- Reads the letters of one argument "-letters", with the arguments after the argument; each
letter that needs a value takes the rest of the letters, or the next argument when it is the
last. Gives the arguments left. -/
def readLetters (g : Given) (rest : List String) : Nat → List Char → Except Stop (Given × List String)
  | 0, _ => .ok (g, rest)
  | _, [] => .ok (g, rest)
  | fuel + 1, c :: more =>
    let letters := String.ofList (c :: more)
    match flagLettered c with
    | none =>
      if c == 'h' then .error .help
      else
        -- the first byte of the letter is written as a character of its own and shown by
        -- the first byte of that character's encoding
        let lead := ((String.singleton c).toUTF8.toList.headD 0).toNat
        let shown := if c.toNat < 128 then c else Char.ofNat (0xC0 + lead / 64)
        .error (.invalid ("unknown shorthand flag: " ++ quoteLetter shown ++ " in -" ++ letters))
    | some f =>
      match more with
      | '=' :: value@(_ :: _) => do pure (← g.set f (String.ofList value), rest)
      | _ =>
        if f.kind == .switch then do readLetters (← g.set f "true") rest fuel more
        else if !more.isEmpty then do pure (← g.set f (String.ofList more), rest)
        else match rest with
          | v :: after => do pure (← g.set f v, after)
          | [] => .error (.invalid ("flag needs an argument: " ++ quoteLetter c ++ " in -" ++ letters))

/-- Reads a command line; `fuel` above the number of arguments is enough, as each step takes
at least one. -/
def readArgs : Nat → Given → List String → Except Stop Given
  | 0, g, _ => .ok g
  | _, g, [] => .ok g
  | fuel + 1, g, arg :: rest =>
    if arg.length ≤ 1 || !arg.startsWith "-" then readArgs fuel { g with args := g.args ++ [arg] } rest
    else if arg == "--" then .ok { g with args := g.args ++ rest }
    else if arg.startsWith "--" then do
      let (g, rest) ← readLong g arg rest
      readArgs fuel g rest
    else do
      let letters := (arg.drop 1).toString.toList
      let (g, rest) ← readLetters g rest (letters.length + 1) letters
      readArgs fuel g rest

/-- Reads a command line. -/
def Given.read (args : List String) : Except Stop Given := readArgs (args.length + 1) {} args

/-- The value of a flag: the one given, or its default. -/
def Given.text (g : Given) (name : String) : String :=
  match g.values.lookup name with
  | some v => v
  | none => ((flagNamed name).map (·.default)).getD ""

/-- Whether a flag was given. -/
def Given.changed (g : Given) (name : String) : Bool := g.values.any (·.1 == name)

/-- The value of a whole-number flag. -/
def Given.count (g : Given) (name : String) : Int :=
  (Text.parseSigned 0 64 (g.text name)).toOption.getD 0

/-- The value of a switch. -/
def Given.switch (g : Given) (name : String) : Bool :=
  (Text.parseBool (g.text name)).toOption.getD false

/-- The value of a span flag. -/
def Given.span (g : Given) (name : String) : Duration :=
  (Duration.parse (g.text name)).toOption.getD ⟨0⟩

/-- Whether a flag's default is the empty value of its kind, which the usage text leaves out. -/
def Flag.plainDefault (f : Flag) : Bool :=
  match f.kind with
  | .text => f.default.isEmpty
  | .count => f.default == "0"
  | .switch => f.default == "false"
  | .span => f.default == "0" || f.default == "0s"

/-- The usage text: a heading, then one line per flag in name order, the descriptions aligned
one column after the longest name part. -/
def usageLines : List String :=
  let sorted := flags.mergeSort fun a b => !(b.name < a.name)
  let head (f : Flag) : String :=
    (match f.short with
     | some c => "  -" ++ String.singleton c ++ ", --" ++ f.name
     | none => "      --" ++ f.name) ++
    (if f.kind.typeName.isEmpty then "" else " " ++ f.kind.typeName)
  let width := (sorted.map fun f => (head f).length + 1).foldl max 0
  let describe (f : Flag) : String :=
    f.usage ++
      (if f.plainDefault then ""
       else if f.kind == .text then " (default " ++ Text.quote f.default ++ ")"
       else " (default " ++ f.default ++ ")")
  "Usage of aclsync:" :: sorted.map fun f =>
    head f ++ " " ++ String.ofList (List.replicate (width - (head f).length) ' ') ++ " " ++
      describe f

end AclReconcile.Command
