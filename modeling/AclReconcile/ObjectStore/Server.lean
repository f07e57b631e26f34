import AclReconcile.Index
import AclReconcile.Session.Fault
import AclReconcile.Text.Blank

/-!
# An object store and its client

The store holds buckets of empty objects, each with a content type and user metadata. The
client asks it to list the buckets, to check for and make a bucket, to look up, write and copy an
object, and to list the keys of a bucket below a prefix, where a delimiter folds the keys that go
deeper into one common prefix each.

Before a request leaves, the client checks the names in it: a bucket name is 3 to 63 bytes of
letters, digits, dots, hyphens, underscores and colons (a new bucket: lower-case letters, digits,
dots and hyphens), begins and ends with a letter or digit, is not an address of four numbers, and
has no "..", ".-" or "-."; an object name is not blank and at most 1024 bytes; a metadata value
has no control character. The store then answers an error response to a request that a rule
denies, which rules match by method and target, the target being the request's path without the
leading separator ("bucket/" for a bucket, "" for the list of buckets).

Header values travel without line breaks and without blanks at their ends, so metadata comes back
in that form.
-/

namespace AclReconcile.ObjectStore

/-- An object: empty, with a content type and user metadata under names without the prefix. -/
structure StoredObject where
  contentType : String := ""
  metadata : List (String × String) := []
  deriving Inhabited

/-- The store: buckets of objects by key, and the rules that deny requests. -/
structure ObjectServer where
  buckets : Index (Index StoredObject) := {}
  rules : List Fault := []
  deriving Inhabited

/-- A failed request: the status of the answer (0 when the client refused it itself), the
error code and the message. -/
structure ClientError where
  status : Nat
  code : String
  message : String
  deriving Inhabited

namespace ClientError

/-- A request the client refuses before sending it. -/
def refused (message : String) : ClientError := ⟨0, "", message⟩

/-- The answer to a denied request. -/
def denied : ClientError := ⟨403, "AccessDenied", "Access Denied."⟩

/-- The answer for a missing bucket. -/
def noSuchBucket : ClientError := ⟨404, "NoSuchBucket", "The specified bucket does not exist."⟩

/-- The answer for a missing object. -/
def noSuchKey : ClientError := ⟨404, "NoSuchKey", "The specified key does not exist."⟩

/-- Whether the error says that the bucket or object is not there. -/
def isNotFound (e : ClientError) : Bool :=
  ["NoSuchKey", "NoSuchBucket", "NotFound"].contains e.code || e.status == 404

end ClientError

/-- A computation on the store. -/
abbrev Request := StateM ObjectServer

/-- What a listing returns: a key, or a common prefix. -/
structure Listed where
  key : String
  isPrefix : Bool
  deriving Inhabited

/-- Whether a character is an ASCII letter or digit. -/
def isAlnum (c : Char) : Bool := c.isAlpha || c.isDigit

/-- Whether a name is four groups of digits joined by dots. -/
def isAddress (name : String) : Bool :=
  let groups := name.splitOn "."
  groups.length == 4 && groups.all fun g => !g.isEmpty && g.all Char.isDigit

/-- Why a bucket name is refused, if it is; `strict` for a bucket about to be made. -/
def bucketNameProblem (strict : Bool) (name : String) : Option String :=
  let inner (c : Char) : Bool :=
    if strict then c.isLower || c.isDigit || c == '.' || c == '-'
    else isAlnum c || c == '.' || c == '-' || c == '_' || c == ':'
  let edge (c : Char) : Bool := if strict then c.isLower || c.isDigit else isAlnum c
  let cs := name.toList
  if Text.isBlankText name then some "Bucket name cannot be empty"
  else if name.utf8ByteSize < 3 then some "Bucket name cannot be shorter than 3 characters"
  else if name.utf8ByteSize > 63 then some "Bucket name cannot be longer than 63 characters"
  else if isAddress name then some "Bucket name cannot be an ip address"
  else if (name.splitOn "..").length > 1 || (name.splitOn ".-").length > 1 ||
      (name.splitOn "-.").length > 1 then
    some "Bucket name contains invalid characters"
  else if cs.all inner && (cs.head?.map edge).getD false && (cs.getLast?.map edge).getD false then
    none
  else some "Bucket name contains invalid characters"

/-- Why a prefix of object names is refused, if it is. -/
def prefixProblem (name : String) : Option String :=
  if name.utf8ByteSize > 1024 then some "Object name cannot be longer than 1024 characters"
  else none

/-- Why an object name is refused, if it is. -/
def objectNameProblem (name : String) : Option String :=
  if Text.isBlankText name then some "Object name cannot be empty" else prefixProblem name

/-- Whether a header value can be sent: no control character other than space and tab. -/
def validHeaderValue (v : String) : Bool :=
  v.toList.all fun c => !((c.toNat < 32 && c != '\t') || c.toNat == 127)

/-- A header value as it arrives: line breaks become spaces, and blanks at the ends are cut. -/
def headerValue (v : String) : String :=
  let cs := v.toList.map fun c => if c == '\n' || c == '\r' then ' ' else c
  let blank (c : Char) : Bool := c == ' ' || c == '\t'
  String.ofList ((cs.dropWhile blank).reverse.dropWhile blank).reverse

/-- Refuses a request for a problem the client finds. -/
def check (problem : Option String) (status : Nat) (code : String) : Except ClientError Unit :=
  match problem with
  | some m => .error ⟨status, code, m⟩
  | none => .ok ()

namespace ObjectServer

/-- Whether a rule denies a request; the rule that fires is spent. -/
def deny (method target : String) : Request Bool :=
  modifyGet fun s =>
    let (hit, rules) := Fault.trigger method target s.rules
    (hit, { s with rules })

/-- Sends a request, which is answered with the denial when a rule fires. -/
def send {α : Type} (method target : String) (answer : Request (Except ClientError α)) :
    Request (Except ClientError α) := do
  if (← deny method target) then pure (.error .denied) else answer

/-- The names of the buckets, in order. -/
def listBuckets : Request (Except ClientError (List String)) :=
  send "GET" "" do pure (.ok (← get).buckets.keys)

/-- Whether a bucket exists. -/
def bucketExists (bucket : String) : Request (Except ClientError Bool) := do
  match bucketNameProblem false bucket with
  | some m => pure (.error (.refused m))
  | none => send "HEAD" (bucket ++ "/") do pure (.ok ((← get).buckets.contains bucket))

/-- Makes a bucket. -/
def makeBucket (bucket : String) : Request (Except ClientError Unit) := do
  match bucketNameProblem true bucket with
  | some m => pure (.error (.refused m))
  | none => send "PUT" (bucket ++ "/") do
    modify fun s => if s.buckets.contains bucket then s
      else { s with buckets := s.buckets.insert bucket {} }
    pure (.ok ())

/-- The metadata of an object, as it arrives. -/
def statObject (bucket key : String) :
    Request (Except ClientError (List (String × String))) := do
  match check (bucketNameProblem false bucket) 400 "InvalidBucketName",
      check (objectNameProblem key) 400 "XMinioInvalidObjectName" with
  | .error e, _ | _, .error e => pure (.error e)
  | .ok (), .ok () => send "HEAD" (bucket ++ "/" ++ key) do
    match (← get).buckets.get? bucket >>= (·.get? key) with
    | some o => pure (.ok (o.metadata.map fun (k, v) => (k, headerValue v)))
    | none => pure (.error .noSuchKey)

/-- Stores an object under a key, in place of any object there. -/
def store (bucket key : String) (o : StoredObject) : Request Unit :=
  modify fun s => { s with
    buckets := s.buckets.insert bucket (((s.buckets.get? bucket).getD {}).insert key o) }

/-- Writes an empty object with a content type and metadata. -/
def putObject (bucket key contentType : String) (metadata : List (String × String)) :
    Request (Except ClientError Unit) := do
  let badValue := (metadata.find? fun (_, v) => !validHeaderValue v).map
    fun (_, v) => v ++ " unsupported user defined metadata value"
  let refusal := badValue.orElse fun _ =>
    (bucketNameProblem false bucket).orElse fun _ => objectNameProblem key
  match refusal with
  | some m => pure (.error (.refused m))
  | none => send "PUT" (bucket ++ "/" ++ key) do
    if !(← get).buckets.contains bucket then return .error .noSuchBucket
    store bucket key { contentType, metadata := metadata.map fun (k, v) => (k, headerValue v) }
    pure (.ok ())

/-- Copies an object onto itself with new metadata and, when given, a new content type. -/
def replaceMetadata (bucket key : String) (contentType : Option String)
    (metadata : List (String × String)) : Request (Except ClientError Unit) := do
  match check (bucketNameProblem false bucket) 0 "", check (objectNameProblem key) 0 "" with
  | .error e, _ | _, .error e => pure (.error e)
  | .ok (), .ok () => send "PUT" (bucket ++ "/" ++ key) do
    match (← get).buckets.get? bucket with
    | none => pure (.error .noSuchBucket)
    | some objects => match objects.get? key with
      | none => pure (.error .noSuchKey)
      | some o =>
        store bucket key { contentType := contentType.getD o.contentType
                           metadata := metadata.map fun (k, v) => (k, headerValue v) }
        pure (.ok ())

/-- The entries of a listing below a prefix: every key, or with `fold` the keys that go no
deeper and one common prefix for each deeper name, all in byte order. -/
def listing (keys : List String) (pre : String) (fold : Bool) : List Listed :=
  keys.foldr (fun k acc =>
    if !k.startsWith pre then acc
    else
      let rest := (k.drop pre.length).toString
      match rest.splitOn "/" with
      | first :: _ :: _ =>
        if fold then
          let p := pre ++ first ++ "/"
          match acc with
          | e :: _ => if e.key == p then acc else ⟨p, true⟩ :: acc
          | [] => [⟨p, true⟩]
        else ⟨k, false⟩ :: acc
      | _ => ⟨k, false⟩ :: acc) []

/-- Lists a bucket below a prefix, folding deeper names unless `recursive`, at most `max`
entries when `max` is positive. -/
def listObjects (bucket pre : String) (recursive : Bool) (max : Nat) :
    Request (Except ClientError (List Listed)) := do
  match (bucketNameProblem false bucket).orElse fun _ => prefixProblem pre with
  | some m => pure (.error (.refused m))
  | none => send "GET" (bucket ++ "/") do
    match (← get).buckets.get? bucket with
    | none => pure (.error .noSuchBucket)
    | some objects =>
      let all := listing objects.keys pre !recursive
      pure (.ok (if max > 0 then all.take max else all))

/-- Every bucket, as "bucket/", and every object, as "bucket/key", in byte order. -/
def allKeys (s : ObjectServer) : List String :=
  let names := s.buckets.entries.flatMap fun (b, objects) =>
    (b ++ "/") :: objects.keys.map (b ++ "/" ++ ·)
  names.mergeSort fun a b => !(b < a)

end ObjectServer

end AclReconcile.ObjectStore
