import AclReconcile.Declared
import AclReconcile.Json.Comments
import AclReconcile.Json.Decode
import AclReconcile.Acl.List
import AclReconcile.Yaml.Read
import AclReconcile.FileTree
import AclReconcile.Text.Utf8

/-!
# Configuration documents

The declared directories of a run come from a document in one of two formats, chosen by the
file's extension (in any case): `.json` and `.jsonc` are JSON with comments and trailing commas,
`.yaml` and `.yml` are YAML.

Both hold a list of directory records. JSON records use the member names `path`, `upn`,
`recurse`, `force`, `acls` and, per declaration, `objectType`, `identity`, `read`, `write`,
`execute`, `defaultRead`, `defaultWrite`, `defaultExecute`, matched up to case; an unknown member
is an error. YAML records use the same names with `object_type` and `default_*` in snake case,
matched exactly; an unknown key is an error too, as is a key given twice. Only the first value of
a JSON stream and the first document of a YAML stream are read; an empty YAML stream is the empty
list.

The list is then validated as a whole: every record must be present and valid, and no path may
be declared twice. All problems are reported together, one per line.
-/

namespace AclReconcile.Config

/-- The two formats of configuration documents. -/
inductive Format where
  | json | yaml
  deriving DecidableEq, Repr, Inhabited

/-- The name of a format. -/
def Format.name : Format → String
  | .json => "json"
  | .yaml => "yaml"

/-- The extension of a file name: from its last dot within the last segment, or empty. -/
def extension (path : String) : String :=
  let last := (path.splitOn "/").getLast?.getD ""
  match last.splitOn "." with
  | [] | [_] => ""
  | parts => "." ++ parts.getLast?.getD ""

/-- The format a file name's extension selects. -/
def formatFromPath (path : String) : Except Error Format :=
  match Text.lower (extension path) with
  | ".json" | ".jsonc" => .ok .json
  | ".yaml" | ".yml" => .ok .yaml
  | _ => .error (.detail .unsupportedFormat ("'" ++ path ++ "'"))

/-! ## JSON records -/

/-- Reads a flag member into a declaration. -/
def flagField {α : Type} (set : α → Bool → α) : Json.FieldReader α := fun p a j _ => do
  pure ((← Json.readFlag p j).elim a (set a))

/-- The members of a JSON declaration. -/
def jsonAclFields : List (String × Json.FieldReader DeclaredAcl) :=
  [("objectType", fun _ a j raw => match ObjectType.ofJson j raw with
      | .ok t => pure { a with type := t }
      | .error e => throw e),
   ("identity", fun p a j _ => do
      pure ((← Json.readText p j).elim a fun s => { a with identity := s })),
   ("read", flagField fun a b => { a with read := b }),
   ("write", flagField fun a b => { a with write := b }),
   ("execute", flagField fun a b => { a with execute := b }),
   ("defaultRead", flagField fun a b => { a with defaultRead := b }),
   ("defaultWrite", flagField fun a b => { a with defaultWrite := b }),
   ("defaultExecute", flagField fun a b => { a with defaultExecute := b })]

/-- The sizes of the blocks small values are stored in, in bytes. -/
def blockSizes : List Nat :=
  [8, 16, 24, 32, 48, 64, 80, 96, 112, 128, 144, 160, 176, 192, 208, 224, 240, 256, 288, 320,
   352, 384, 416, 448, 480, 512, 576, 640, 704, 768, 896, 1024, 1152, 1280, 1408, 1536, 1792,
   2048, 2304, 2688, 3072, 3200, 3456, 4096, 4864, 5376, 6144, 6528, 6784, 6912, 8192, 9472,
   9728, 10240, 10880, 12288, 13568, 14336, 16384, 18432, 19072, 20480, 21760, 24576, 27264,
   28672, 32768]

/-- The bytes given for `size` bytes of storage that holds references: the least block that
fits, where a block above 512 bytes keeps 8 bytes for its own bookkeeping, or whole pages of
8192 bytes beyond the largest block. -/
def storageFor (size : Nat) : Nat :=
  if size ≤ 32760 then
    let wanted := if size > 512 then size + 8 else size
    match blockSizes.find? (wanted ≤ ·) with
    | some b => b - (wanted - size)
    | none => size
  else (size + 8191) / 8192 * 8192

/-- The number of declarations (of 32 bytes each) a list's storage holds after it grows from
`cap` declarations to hold one more: twice as many below 256, then a quarter more and 192,
rounded up to the storage given. -/
def grownCapacity (cap : Nat) : Nat :=
  let wanted := if cap == 0 then 1 else if cap < 256 then 2 * cap else cap + (cap + 768) / 4
  storageFor (wanted * 32) / 32

/-- A directory record read from JSON, with the declarations its `acls` list still holds past
its end. Decoding keeps a list's storage: a repeated `acls` member reads its elements over the
declarations stored, those past the end included, and storage added to hold more is cleared. -/
structure JsonDirectory where
  directory : DeclaredDirectory := {}
  spare : List DeclaredAcl := []

/-- Reads the elements of an `acls` array over the declarations stored, growing the storage as
needed: the declarations read, with the storage past them. -/
def jsonAclItems (p : Json.Place) :
    List DeclaredAcl → List Json → Nat → Json.Reader (List DeclaredAcl × List DeclaredAcl)
  | stored, [], _ => pure ([], stored)
  | stored, x :: rest, i => do
    let stored := match stored with
      | [] => List.replicate (grownCapacity i - i) ({} : DeclaredAcl)
      | _ => stored
    let start := stored.headD ({} : DeclaredAcl)
    let q := p.push (.element i)
    let acl ← match x with
      | .object ms => Json.readRecord true jsonAclFields q start ms
      | .null => pure start
      | other => do
        Json.Reader.note (Json.mismatch q other.kindName "data.DeclaredAcl"); pure start
    let (acls, spare) ← jsonAclItems p stored.tail rest (i + 1)
    pure (acl :: acls, spare)

/-- Reads the `acls` member: an array is read over the list's storage, an empty one gives a new
empty list, and null empties it. -/
def jsonAcls (p : Json.Place) (d : JsonDirectory) (j : Json) : Json.Reader JsonDirectory :=
  match j with
  | .array [] => pure { directory := { d.directory with acls := [] }, spare := [] }
  | .array items => do
    let (acls, spare) ← jsonAclItems p (d.directory.acls ++ d.spare) items 0
    pure { directory := { d.directory with acls }, spare }
  | .null => pure { directory := { d.directory with acls := [] }, spare := [] }
  | other => do Json.Reader.note (Json.mismatch p other.kindName "[]data.DeclaredAcl"); pure d

/-- A member reader of a directory, used on the directory of a record being read. -/
def onDirectory (r : Json.FieldReader DeclaredDirectory) : Json.FieldReader JsonDirectory :=
  fun p d j raw => do pure { d with directory := ← r p d.directory j raw }

/-- The members of a JSON directory record. -/
def jsonDirectoryFields : List (String × Json.FieldReader JsonDirectory) :=
  [("path", onDirectory fun p d j _ => do
      pure ((← Json.readText p j).elim d fun s => { d with path := s })),
   ("upn", onDirectory (flagField fun d b => { d with upn := b })),
   ("recurse", onDirectory (flagField fun d b => { d with recurse := b })),
   ("force", onDirectory (flagField fun d b => { d with force := b })),
   ("acls", fun p d j _ => jsonAcls p d j)]

/-- Reads the JSON list of directory records; a null element is a missing record. -/
def readJson (doc : Json) : Except Error (List (Option DeclaredDirectory)) :=
  Json.Reader.run <| match doc with
  | .array items => items.zipIdx.mapM fun (x, i) =>
      let p : Json.Place := { steps := [.element i] }
      match x with
      | .object ms => do
        let d ← Json.readRecord true jsonDirectoryFields p {} ms
        pure (some d.directory)
      | .null => pure none
      | other => do
        Json.Reader.note (Json.mismatch p other.kindName "data.DeclaredDirectory"); pure (some {})
  | .null => pure []
  | other => do
    Json.Reader.note (Json.mismatch {} other.kindName "[]*data.DeclaredDirectory"); pure []

/-! ## YAML records -/

/-- What reading the nodes of a YAML document needs: its anchored nodes by number, the aliases
being followed, and a bound on how deeply merges nest. -/
structure YamlScope where
  anchored : List (Nat × Yaml.Node) := []
  following : List Nat := []
  bound : Nat := 0

/-- Reading YAML nodes into records: a stop, or type problems collected in order. -/
abbrev YamlReader := ReaderT YamlScope (ExceptT Error (StateM (List String)))

/-- Reads a node with `k`, following an alias to the node it refers to first. An alias met
again while it is being followed refers to a node that contains itself, which is a failure. -/
def yamlFollow {α : Type} (n : Yaml.Node) (k : Yaml.Node → YamlReader α) : YamlReader α := do
  match n with
  | .alias name self target _ =>
    let scope ← read
    if scope.following.contains self then
      throw (.plain ("yaml: anchor '" ++ name ++ "' value contains itself"))
    match scope.anchored.lookup target with
    | some t => withReader (fun s => { s with following := self :: s.following }) (k t)
    | none => throw (.plain ("yaml: unknown anchor '" ++ name ++ "' referenced"))
  | _ => k n

/-- What a scalar's text stands for under its tag; an explicit tag that does not fit the text
stops the reading. -/
def yamlResolve (value tag : String) : YamlReader Yaml.Resolved :=
  match Yaml.resolve tag value with
  | .ok (_, r) => pure r
  | .error message => throw (.plain ("yaml: " ++ message))

/-- The problems of a mapping whose keys repeat: one for each pair of equal keys, named at the
later one, in the order of the earlier one. -/
def repeatedKeys (pairs : List (Yaml.Node × Yaml.Node)) : List String :=
  let keys := pairs.map (·.1)
  keys.zipIdx.flatMap fun (k, i) =>
    (keys.drop (i + 1)).filterMap fun k2 =>
      if k.sameKey k2 then
        some ("line " ++ toString k2.line ++ ": mapping key " ++ Text.quote k2.text ++
          " already defined at line " ++ toString k.line)
      else none

/-- Records the repeated keys of a mapping node; whether it had any. A mapping with a repeated
key is refused before anything else is read from it. -/
def yamlRepeats (pairs : List (Yaml.Node × Yaml.Node)) : YamlReader Bool := do
  let repeated := repeatedKeys pairs
  modify (· ++ repeated)
  pure !repeated.isEmpty

/-- How a scalar's value is shown in a type problem: whole up to ten bytes, otherwise its first
seven bytes and an ellipsis. -/
def shownValue (v : String) : String :=
  let bytes := v.toUTF8.toList
  if bytes.length > 10 then " `" ++ Text.decodeLossy (bytes.take 7) ++ "...`"
  else " `" ++ v ++ "`"

/-- Records a type problem, naming the node's tag and, unless it is a plain sequence or
mapping, its text; a mapping with repeated keys records those instead. -/
def yamlProblem (n : Yaml.Node) (target : String) : YamlReader Unit := do
  match n with
  | .mapping ps _ _ => if ← yamlRepeats ps then return
  | _ => pure ()
  let tag := n.tag
  let shown := if tag == "!!seq" || tag == "!!map" then "" else shownValue n.text
  modify (· ++ ["line " ++ toString n.line ++ ": cannot unmarshal " ++ tag ++ shown ++
    " into " ++ target])

/-- The text a scalar stands for: its own text, or for a `!!binary` scalar the bytes its
base64 text holds, which must be well formed. -/
def yamlScalarText (v tag : String) : YamlReader String :=
  if tag == "!!binary" then
    match Yaml.decodeBase64 v with
    | some bytes => pure (Text.decodeLossy bytes)
    | none => throw (.plain "yaml: !!binary value contains invalid base64 data")
  else pure v

/-- A text field: any scalar that is not null gives its text. -/
def yamlText (n : Yaml.Node) : YamlReader (Option String) :=
  yamlFollow n fun n => match n with
    | .scalar v _ tag _ => do
      if (← yamlResolve v tag) == .null then pure none else pure (some (← yamlScalarText v tag))
    | _ => do yamlProblem n "string"; pure none

/-- A flag field: the booleans, and the YAML 1.1 words yes, no, on, off and their short forms
when they stand as text. -/
def yamlFlag (n : Yaml.Node) : YamlReader (Option Bool) :=
  yamlFollow n fun n => match n with
    | .scalar v _ tag _ => do
      match ← yamlResolve v tag with
      | .null => pure none
      | .bool b => pure (some b)
      | .str | .other =>
        let w ← yamlScalarText v tag
        if ["y", "Y", "yes", "Yes", "YES", "on", "On", "ON"].contains w then pure (some true)
        else if ["n", "N", "no", "No", "NO", "off", "Off", "OFF"].contains w then pure (some false)
        else do yamlProblem n "bool"; pure none
      | _ => do yamlProblem n "bool"; pure none
    | _ => do yamlProblem n "bool"; pure none

/-- Whether a node is a null scalar; any other scalar is read for its tag first. -/
def yamlIsNull (n : Yaml.Node) : YamlReader Bool :=
  match n with
  | .scalar v _ tag _ => do pure ((← yamlResolve v tag) == .null)
  | _ => pure false

/-- The failure of a merge key whose value is neither a mapping nor a list of mappings. -/
def mergeFailure : Error := .plain "yaml: map merge requires map or sequence of maps as the value"

/-- The node an alias refers to; other nodes are themselves. -/
def yamlTarget (n : Yaml.Node) : YamlReader Yaml.Node := do
  match n with
  | .alias _ _ target _ => pure (((← read).anchored.lookup target).getD n)
  | _ => pure n

/-- Whether a node is a mapping or an alias to one. -/
def yamlIsMapping (n : Yaml.Node) : YamlReader Bool := do
  match ← yamlTarget n with
  | .mapping .. => pure true
  | _ => pure false

/-- Reads the keys of a YAML mapping into a record: each key names a field exactly, and an
unknown key is a problem. A mapping with a repeated key is not read (`none`).

A merge key `<<` brings in the keys of other mappings after the mapping's own keys, none of them
overriding a key already set: `taken` holds the keys set so far while mappings are merged, and
the reading gives it back with the keys it set. The value of a merge key is a mapping, or a list
of mappings, each possibly through an alias; anything else stops the reading. The nesting of
merges is bounded by `fuel`. -/
def yamlFields {α : Type} (typeName : String)
    (fields : List (String × (α → Yaml.Node → YamlReader α))) :
    Nat → α → Option (List String) → List (Yaml.Node × Yaml.Node) →
    YamlReader (Option (α × Option (List String)))
  | 0, acc, taken, _ => pure (some (acc, taken))
  | fuel + 1, acc, taken, pairs => do
    if ← yamlRepeats pairs then return none
    let mut acc := acc
    let mut taken := taken
    let mut merge : Option Yaml.Node := none
    let mut names : List String := []
    let mut done : List String := []
    for (k, v) in pairs do
      if k.isMergeKey then
        merge := some v
        continue
      let name? ← yamlFollow k fun key => match key with
        | .scalar name _ tag _ => do
          if (← yamlResolve name tag) == .null then pure none else pure (some name)
        | other => do yamlProblem other "string"; pure none
      let some name := name? | continue
      names := names ++ [name]
      if let some t := taken then
        if t.contains name then continue
        taken := some (t ++ [name])
      match fields.find? (·.1 == name) with
      | some (_, f) =>
        if done.contains name then
          modify (· ++ ["line " ++ toString k.line ++ ": field " ++ name ++
            " already set in type " ++ typeName])
        else
          done := done ++ [name]
          acc ← f acc v
      | none =>
        modify (· ++ ["line " ++ toString k.line ++ ": field " ++ name ++ " not found in type " ++
          typeName])
    let some m := merge | return some (acc, taken)
    let mut shared := taken.getD names
    let sources ← match ← yamlTarget m with
      | .mapping .. => pure [m]
      | .sequence items _ _ =>
        match m with
        | .alias .. => throw mergeFailure
        | _ => pure items
      | _ => throw mergeFailure
    for source in sources do
      unless (← yamlIsMapping source) do throw mergeFailure
      let merged ← yamlFollow source fun t => match t with
        | .mapping ps _ _ => yamlFields typeName fields fuel acc (some shared) ps
        | _ => throw mergeFailure
      if let some (a, t) := merged then
        acc := a
        shared := t.getD shared
    pure (some (acc, taken.map fun _ => shared))

/-- Reads the keys of a YAML mapping into a record, merged mappings included. -/
def yamlRecord {α : Type} (typeName : String)
    (fields : List (String × (α → Yaml.Node → YamlReader α))) (init : α)
    (pairs : List (Yaml.Node × Yaml.Node)) : YamlReader (Option α) := do
  let fuel := (← read).bound
  pure ((← yamlFields typeName fields fuel init none pairs).map (·.1))

/-- The keys of a YAML declaration. -/
def yamlAclFields : List (String × (DeclaredAcl → Yaml.Node → YamlReader DeclaredAcl)) :=
  let flag (set : DeclaredAcl → Bool → DeclaredAcl) : DeclaredAcl → Yaml.Node → YamlReader DeclaredAcl :=
    fun a n => do pure ((← yamlFlag n).elim a (set a))
  [("object_type", fun a n => yamlFollow n fun n => match n with
      | .scalar v _ tag _ => do
        if (← yamlResolve v tag) == .null then pure a
        else match ObjectType.ofText (← yamlScalarText v tag) with
          | .ok t => pure { a with type := t }
          | .error e => throw e
      | _ => do yamlProblem n "data.ObjectType"; pure a),
   ("identity", fun a n => do pure ((← yamlText n).elim a fun s => { a with identity := s })),
   ("read", flag fun a b => { a with read := b }),
   ("write", flag fun a b => { a with write := b }),
   ("execute", flag fun a b => { a with execute := b }),
   ("default_read", flag fun a b => { a with defaultRead := b }),
   ("default_write", flag fun a b => { a with defaultWrite := b }),
   ("default_execute", flag fun a b => { a with defaultExecute := b })]

/-- The keys of a YAML directory record. -/
def yamlDirectoryFields :
    List (String × (DeclaredDirectory → Yaml.Node → YamlReader DeclaredDirectory)) :=
  let flag (set : DeclaredDirectory → Bool → DeclaredDirectory) :
      DeclaredDirectory → Yaml.Node → YamlReader DeclaredDirectory :=
    fun d n => do pure ((← yamlFlag n).elim d (set d))
  [("path", fun d n => do pure ((← yamlText n).elim d fun s => { d with path := s })),
   ("upn", flag fun d b => { d with upn := b }),
   ("recurse", flag fun d b => { d with recurse := b }),
   ("force", flag fun d b => { d with force := b }),
   ("acls", fun d n => yamlFollow n fun n => match n with
      | .sequence items _ _ => do
        let acls ← items.filterMapM fun x => yamlFollow x fun x => match x with
          | .mapping ps _ _ => yamlRecord "data.DeclaredAcl" yamlAclFields {} ps
          | _ => do
            if ← yamlIsNull x then pure none
            else do yamlProblem x "data.DeclaredAcl"; pure none
        pure { d with acls }
      | _ => do
        if ← yamlIsNull n then pure { d with acls := [] }
        else do yamlProblem n "[]data.DeclaredAcl"; pure d)]

/-- Reads the YAML list of directory records; a null item is a missing record, and an item that
cannot be read is left out (its problem is recorded). -/
def readYamlNode (n : Yaml.Node) : YamlReader (List (Option DeclaredDirectory)) :=
  yamlFollow n fun n => match n with
    | .sequence items _ _ => items.filterMapM fun x => yamlFollow x fun x => match x with
      | .mapping ps _ _ =>
        (·.map some) <$> yamlRecord "data.DeclaredDirectory" yamlDirectoryFields {} ps
      | _ => do
        if ← yamlIsNull x then pure (some none)
        else do yamlProblem x "data.DeclaredDirectory"; pure none
    | _ => do
      if ← yamlIsNull n then pure []
      else do yamlProblem n "[]*data.DeclaredDirectory"; pure []

/-- The scope of a document: its anchored nodes, and a bound on the nesting of merges, which
may pass through each alias once and then through each node of its depth. -/
def yamlScope (doc : Yaml.Document) : YamlScope :=
  let depth := doc.anchored.foldl (fun m (_, n) => max m n.depth) doc.root.depth
  { anchored := doc.anchored, bound := (doc.aliases + 1) * (depth + 1) + 1 }

/-- Reads a YAML document's directory records. -/
def readYaml (s : String) : Except Error (List (Option DeclaredDirectory)) :=
  match Yaml.readDocument s with
  | .error message => .error (.plain message)
  | .ok none => .ok []
  | .ok (some doc) =>
    match (((readYamlNode doc.root).run (yamlScope doc)).run).run [] with
    | (.error e, _) => .error e
    | (.ok ds, []) => .ok ds
    | (.ok _, problems) => .error (.plain ("yaml: unmarshal errors:\n  " ++
        "\n  ".intercalate problems))

/-! ## Validation and the whole reading -/

/-- Checks every record and that no path is declared twice, collecting every problem. -/
def validate (ds : List (Option DeclaredDirectory)) : Except Error (List DeclaredDirectory) :=
  let step (acc : Errors × List (String × Nat) × List DeclaredDirectory)
      (x : Option DeclaredDirectory × Nat) : Errors × List (String × Nat) × List DeclaredDirectory :=
    let (errs, seen, out) := acc
    let (d?, i) := x
    let at_ := "directory #" ++ toString i
    match d? with
    | none => (errs.add (some (.plain (at_ ++ ": empty declaration"))), seen, out)
    | some d =>
      match d.validate with
      | .error e => (errs.add (some (.context at_ e)), seen, out)
      | .ok () =>
        match seen.find? (·.1 == d.path) with
        | some (_, first) =>
          (errs.add (some (.context at_ (.detail .duplicatePath
            ("'" ++ d.path ++ "' already declared by #" ++ toString first)))), seen, out)
        | none => (errs, seen ++ [(d.path, i)], out ++ [d])
  let (errs, _, out) := ds.zipIdx.foldl step ({}, [], [])
  match errs.result with
  | some e => .error e
  | none => .ok out

/-- Reads and validates the declared directories of a document in the given format. -/
def parse (content : String) (format : String) : Except Error (List DeclaredDirectory) := do
  let records ← match format with
    | "json" =>
      match Json.parsePrefix (Json.strip content) with
      | .error (.malformed e) => .error (.context "parsing directories" (.malformedJson e.message))
      | .error e => .error (.context "parsing directories" (.plain e.message))
      | .ok doc => (readJson doc).mapError (.context "parsing directories")
    | "yaml" => (readYaml content).mapError (.context "parsing directories")
    | other => .error (.detail .unsupportedFormat ("'" ++ other ++ "'"))
  validate records

/-- Reads the declared directories stored in a file, given a way to read files. -/
def load (read : String → Except Error String) (path : String) :
    Except Error (List DeclaredDirectory) := do
  let format ← formatFromPath path
  let content ← (read path).mapError (.context ("reading " ++ path))
  (parse content format.name).mapError (.context path)

/-- Reads the declared directories stored in a file of a file tree. -/
def loadFrom (tree : FileTree) (path : String) : Except Error (List DeclaredDirectory) :=
  load (fun p => (tree.readFile p).mapError (.plain ·.message)) path

end AclReconcile.Config
