import AclReconcile.Address.Query
import AclReconcile.Rows.Connection
import AclReconcile.ObjectStore.Endpoint
import AclReconcile.Storage.KeyValue
import AclReconcile.Storage.Memory
import AclReconcile.Storage.Local
import AclReconcile.Storage.Sqlite
import AclReconcile.Storage.Rows
import AclReconcile.Storage.Bucket
import AclReconcile.Transport
import AclReconcile.Text.Number

/-!
# Backend addresses

An address names a storage by a protocol prefix and what follows it, after blanks are cut from
both ends; without "://" it is malformed, and with an unknown prefix its protocol is unknown:

* "memory://" is an empty storage in memory, whatever follows;
* "local://root" is a directory tree under the root;
* "sqlite://path" is a database file;
* "consul://address?settings" is a key-value store: the address of its agent and the scheme,
  token, datacenter, namespace and prefix from the settings;
* "postgres://", "postgresql://" and "psql://" (read as "postgres://") are connection strings
  of a database server;
* "s3://endpoint?settings" and "minio://endpoint?settings" are object stores: an endpoint with
  the access key, secret key, region and whether to use TLS from the settings.

The part after "?" must be a well-formed query; the part before it loses one trailing "/" and
must not be empty for a directory, a database file or an object store. Options given with the
address override its credentials: an account name is an object store's access key, and an
access key is its secret key and a key-value store's token.
-/

namespace AclReconcile.Address

/-- What is given along with an address: how to connect, and credentials. -/
structure Options where
  connection : Option ConnectionOptions := none
  accountName : String := ""
  accessKey : String := ""
  deriving Inhabited

/-- The settings of an object store client. -/
structure BucketConfig where
  endpoint : String
  accessKey : String := ""
  secretKey : String := ""
  region : String := ""
  secure : Bool := false
  deriving Inhabited

/-- A storage an address names, not yet opened. -/
inductive Backend where
  | memory
  | directory (root : String)
  | sqlite (path : String)
  | keyValue (config : KeyValue.KvConfig)
  | database (connString : String) (settings : Rows.Settings)
  | bucket (config : BucketConfig) (endpoint : Url)
  deriving Inhabited

/-- The name of the storage an address names. -/
def Backend.name : Backend → String
  | .memory => MemoryStore.storage.name
  | .directory _ => LocalStore.storage.name
  | .sqlite _ => SqliteStore.storage.name
  | .keyValue _ => KeyValue.KvOp.storage.name
  | .database .. => Rows.RowOp.storage.name
  | .bucket .. => ObjectStore.BucketOp.storage.name

/-- The capabilities of the storage an address names. -/
def Backend.capabilities : Backend → List String
  | .memory => MemoryStore.storage.capabilities
  | .directory _ => LocalStore.storage.capabilities
  | .sqlite _ => SqliteStore.storage.capabilities
  | .keyValue _ => KeyValue.KvOp.storage.capabilities
  | .database .. => Rows.RowOp.storage.capabilities
  | .bucket .. => ObjectStore.BucketOp.storage.capabilities

/-- The error of a malformed address, under a label. -/
def malformed (label : String) : Error := .context label (.sentinel .malformedAddress)

/-- The part of an address before "?" without one trailing "/", and the settings after "?". -/
def splitQuery (address : String) : Except Error (String × List (String × String)) := do
  let (host, rawQuery) := match cutFirst address '?' with
    | (before, after) => (before, after.getD "")
  let some query := parseQuery rawQuery
    | throw (malformed ("failed to parse query '" ++ rawQuery ++ "'"))
  let host := if host.endsWith "/" then String.ofList host.toList.dropLast else host
  pure (host, query)

/-- The key-value store of an address. -/
def parseKeyValue (address : String) (opts : Options) : Except Error Backend := do
  let (host, query) ← splitQuery address
  let config : KeyValue.KvConfig :=
    { address := host, scheme := setting query "scheme", datacenter := setting query "datacenter",
      token := if opts.accessKey.isEmpty then setting query "token" else opts.accessKey,
      namespaceName := setting query "namespace", keyPrefix := setting query "prefix" }
  pure (.keyValue (← config.build))

/-- The directory tree of an address. -/
def parseDirectory (address : String) : Except Error Backend := do
  let (path, _) ← splitQuery address
  if path.isEmpty then throw (malformed "missing local root directory")
  pure (.directory path)

/-- The database file of an address. -/
def parseSqlite (address : String) : Except Error Backend := do
  let (path, _) ← splitQuery address
  if path.isEmpty then throw (malformed "missing sqlite database path")
  pure (.sqlite path)

/-- The object store of an address. -/
def parseBucket (address : String) (opts : Options) : Except Error Backend := do
  let (host, query) ← splitQuery address
  if host.isEmpty then throw (malformed "missing s3 endpoint")
  let ssl := setting query "ssl"
  let secure ← if ssl.isEmpty then pure false else
    match Text.parseBool ssl with
    | .ok b => pure b
    | .error _ => throw (malformed ("invalid ssl value '" ++ ssl ++ "'"))
  let config : BucketConfig :=
    { endpoint := host, region := setting query "region", secure,
      accessKey := if opts.accountName.isEmpty then setting query "access_key" else opts.accountName,
      secretKey := if opts.accessKey.isEmpty then setting query "secret_key" else opts.accessKey }
  match ObjectStore.endpointUrl host secure with
  | .error e => throw (.plain e)
  | .ok u => pure (.bucket config u)

/-- The database server of a connection string. -/
def parseDatabase (connString : String) : Except Error Backend :=
  match Rows.parseConnString connString with
  | .error e => .error (.context "invalid connection string" (.plain e.message))
  | .ok settings => .ok (.database connString settings)

/-- The text after a prefix, when the text starts with it. -/
def afterPrefix (text pre : String) : Option String :=
  if text.startsWith pre then some (text.drop pre.length).toString else none

/-- The storage an address names. -/
def parse (address : String) (opts : Options) : Except Error Backend :=
  let address := Text.trim address
  if !ObjectStore.occursIn "://" address then
    .error (malformed ("failed to parse address '" ++ address ++ "'"))
  else if address.startsWith "memory://" then .ok .memory
  else if let some rest := afterPrefix address "local://" then parseDirectory rest
  else if let some rest := afterPrefix address "consul://" then parseKeyValue rest opts
  else if address.startsWith "postgres://" || address.startsWith "postgresql://" then
    parseDatabase address
  else if let some rest := afterPrefix address "psql://" then parseDatabase ("postgres://" ++ rest)
  else if let some rest := afterPrefix address "sqlite://" then parseSqlite rest
  else if let some rest := afterPrefix address "s3://" then parseBucket rest opts
  else if let some rest := afterPrefix address "minio://" then parseBucket rest opts
  else .error (.context ("failed to parse address '" ++ address ++ "'") (.sentinel .unknownProtocol))

end AclReconcile.Address
