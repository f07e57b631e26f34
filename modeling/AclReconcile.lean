import AclReconcile.Text.Blank
import AclReconcile.Text.Case
import AclReconcile.Text.Printable
import AclReconcile.Text.Quote
import AclReconcile.Json.Value
import AclReconcile.Json.Read
import AclReconcile.Json.Write
import AclReconcile.Error
import AclReconcile.Text.Integer
import AclReconcile.Json.Decode
import AclReconcile.Acl.ObjectType
import AclReconcile.Acl.Entry
import AclReconcile.Acl.List
import AclReconcile.Acl.Access
import AclReconcile.Acl.Diff
import AclReconcile.Path
import AclReconcile.Declared
import AclReconcile.Storage.Basic
import AclReconcile.Storage.Record
import AclReconcile.Json.Comments
import AclReconcile.Yaml.Node
import AclReconcile.Yaml.Scan
import AclReconcile.Yaml.Events
import AclReconcile.Yaml.Read
import AclReconcile.Config
import AclReconcile.Text.Format
import AclReconcile.Duration
import AclReconcile.Log
import AclReconcile.Storage.Interface
import AclReconcile.Storage.Retry
import AclReconcile.Reconcile
import AclReconcile.Index
import AclReconcile.Storage.Memory
import AclReconcile.Session.Fault
import AclReconcile.Session.Step
import AclReconcile.Session.Bench
import AclReconcile.Session.Kinds
import AclReconcile.Text.Utf8
import AclReconcile.Binary64.Basic
import AclReconcile.Binary64.Shortest
import AclReconcile.Sql.Real
import AclReconcile.Sql.Value
import AclReconcile.Sql.Expr
import AclReconcile.Sql.Operators
import AclReconcile.Sql.Printf
import AclReconcile.Sql.Functions
import AclReconcile.Sql.Eval
import AclReconcile.Sql.Statement
import AclReconcile.Sql.Database
import AclReconcile.Sql.Query
import AclReconcile.Sql.Prepare
import AclReconcile.Sql.Write
import AclReconcile.Sql.Schema
import AclReconcile.Sql.Token
import AclReconcile.Sql.Parse
import AclReconcile.Sql.Session
import AclReconcile.Storage.Sqlite
import AclReconcile.FileTree
import AclReconcile.Storage.Local
import AclReconcile.ObjectStore.Metadata
import AclReconcile.ObjectStore.Server
import AclReconcile.Storage.Bucket
import AclReconcile.Rows.Server
import AclReconcile.Storage.Rows
import AclReconcile.Address.Query
import AclReconcile.KeyValue.Server
import AclReconcile.Storage.KeyValue
import AclReconcile.Transport
import AclReconcile.Text.Number
import AclReconcile.Address.Ip
import AclReconcile.Address.Url
import AclReconcile.Rows.Connection
import AclReconcile.ObjectStore.Endpoint
import AclReconcile.Address.Parse
import AclReconcile.Command.Flags
import AclReconcile.Command.Run
import AclReconcile.Main
import AclReconcile.Proofs.Trace
import AclReconcile.Proofs.Run
import AclReconcile.Proofs.Protocol
import AclReconcile.Proofs.Memory
import AclReconcile.Proofs.Differences
import AclReconcile.Proofs.Settle
import AclReconcile.Reconcile.Batches
import AclReconcile.Proofs.Batches
import AclReconcile.Proofs.Segments
import AclReconcile.Proofs.StoredAccess
import AclReconcile.Proofs.MemoryTree
import AclReconcile.Proofs.JsonRoundTrip
import AclReconcile.Proofs.StoredLists
import AclReconcile.Proofs.MemoryContainers
import AclReconcile.Proofs.ConcurrentWrites
import AclReconcile.Proofs.RepeatedCalls
import AclReconcile.Proofs.Principals
import AclReconcile.Proofs.Overwrite
import AclReconcile.Proofs.Inheritance
import AclReconcile.Proofs.Retries
import AclReconcile.Proofs.KeySpaces
import AclReconcile.Proofs.TreePaths
import AclReconcile.Proofs.Listing
import AclReconcile.Proofs.TextForm
import AclReconcile.Proofs.ObjectMetadata
import AclReconcile.Proofs.Validation
import AclReconcile.Proofs.ObjectListing
import AclReconcile.Proofs.WalkDown
import AclReconcile.Proofs.LocalTrees
import AclReconcile.Proofs.BatchSchedules
