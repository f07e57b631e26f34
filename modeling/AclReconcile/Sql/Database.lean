import AclReconcile.Sql.Statement
import AclReconcile.Sql.Eval

/-!
# An SQL database

A database holds tables (named columns and rows, each row with its row id, in row id order),
views (a query under a name), indexes and triggers. Every schema object remembers when it was
made: the engine visits its schema in that order. Names compare without regard to the case of
ASCII letters.
-/

namespace AclReconcile.Sql

/-- A row of a table: its row id and its values, one per column. -/
structure Row where
  id : Int
  values : List Value
  deriving Repr, Inhabited

/-- A table with its rows. -/
structure Table where
  name : String
  columns : List Column
  rows : List Row := []
  serial : Nat := 0
  deriving Repr, Inhabited

/-- A view: a query under a name, with the names given to its columns (none to take them from
the query). -/
structure View where
  name : String
  columns : List String
  query : Select
  serial : Nat := 0
  deriving Repr, Inhabited

/-- An index on columns of a table. -/
structure IndexDef where
  name : String
  table : String
  columns : List String
  unique : Bool
  serial : Nat := 0
  deriving Repr, Inhabited

/-- A trigger on writes of a table (or view, for `INSTEAD OF`). -/
structure Trigger where
  name : String
  timing : Timing
  event : Event
  /-- For an update, the columns whose update fires it; none for every update. -/
  columns : List String
  table : String
  condition : Option Expr
  body : List Statement
  serial : Nat := 0
  deriving Repr, Inhabited

/-- The tables, views, indexes and triggers of a database, and the number of schema objects
made so far. -/
structure Database where
  tables : List Table := []
  views : List View := []
  indexes : List IndexDef := []
  triggers : List Trigger := []
  made : Nat := 0
  deriving Repr, Inhabited

/-- The value at a position of a row. -/
def cell (row : List Value) (i : Nat) : Value := row.getD i .null

namespace Table

/-- The position of a column. -/
def columnIndex? (t : Table) (name : String) : Option Nat :=
  t.columns.findIdx? fun c => sameName c.name name

/-- The columns of a table with their affinities. -/
def shape (t : Table) : List (String × Option Affinity) :=
  t.columns.map fun c => (c.name, some c.affinity)

/-- The row id of the next row: one more than the largest. -/
def nextRowId (t : Table) : Int := (t.rows.foldl (fun m r => max m r.id) 0) + 1

/-- The bindings of a row of the table, under a name. -/
def bindings (t : Table) (label : String) (row : List Value) : Env :=
  Env.ofRow label t.shape row

/-- The bindings a statement on the table sees when checking names. -/
def scope (t : Table) (label : String) : Env := t.bindings label []

end Table

namespace Database

/-- The table of a name. -/
def table? (db : Database) (name : String) : Option Table :=
  db.tables.find? fun t => sameName t.name name

/-- The view of a name. -/
def view? (db : Database) (name : String) : Option View :=
  db.views.find? fun v => sameName v.name name

/-- The index of a name. -/
def index? (db : Database) (name : String) : Option IndexDef :=
  db.indexes.find? fun i => sameName i.name name

/-- The trigger of a name. -/
def trigger? (db : Database) (name : String) : Option Trigger :=
  db.triggers.find? fun t => sameName t.name name

/-- The database with a table replaced by a new version of it. -/
def putTable (db : Database) (t : Table) : Database :=
  { db with tables := db.tables.map fun u => if sameName u.name t.name then t else u }

/-- The database with one more schema object made, and that object's number. -/
def nextSerial (db : Database) : Database × Nat := ({ db with made := db.made + 1 }, db.made + 1)

/-- The triggers of a table that fire on a kind of write at a time, the newest first; for an
update, only those watching one of the columns set. -/
def triggersOn (db : Database) (table : String) (timing : Timing) (event : Event)
    (changed : List String) : List Trigger :=
  (db.triggers.filter fun tr =>
    sameName tr.table table && tr.timing == timing && tr.event == event &&
      (tr.columns.isEmpty || tr.columns.any fun c => changed.any (sameName c))).reverse

/-- The groups of columns whose values must differ between rows, each with the result code of
a clash: the primary key, the unique columns, then the unique indexes. -/
def uniqueGroups (db : Database) (t : Table) : List (List Nat × Nat) :=
  let primary := (t.columns.zipIdx.filter fun (c, _) => c.primary).map fun (_, i) => ([i], 1555)
  let unique := (t.columns.zipIdx.filter fun (c, _) => c.unique && !c.primary).map
    fun (_, i) => ([i], 2067)
  let indexed := (db.indexes.filter fun ix => ix.unique && sameName ix.table t.name).map fun ix =>
    (ix.columns.filterMap t.columnIndex?, 2067)
  primary ++ unique ++ indexed

/-- The unique group whose columns are exactly the named ones. -/
def groupOf (db : Database) (t : Table) (names : List String) : Option (List Nat × Nat) :=
  let target := names.filterMap t.columnIndex?
  (db.uniqueGroups t).find? fun (g, _) => g.all target.contains && target.all g.contains

end Database

/-- Whether two rows clash on a group of columns: all values equal and none null. -/
def clash (group : List Nat) (r s : List Value) : Bool :=
  group.all fun i => cell r i != .null && (cell r i).compare? (cell s i) == some .eq

/-- What a failure undoes under a conflict resolution: the transaction for `ROLLBACK`, nothing
more for `FAIL`, the statement otherwise. -/
def Resolution.undoing : Resolution → Resolution
  | .rollback => .rollback
  | .fail => .fail
  | _ => .abort

/-- The error of a clash on a group of columns. -/
def clashError (t : Table) (group : List Nat) (code : Nat) (undo : Resolution) : SqlError :=
  { code, undo,
    detail := "UNIQUE constraint failed: " ++ ", ".intercalate (group.map fun i =>
      t.name ++ "." ++ (t.columns.getD i default).name) }

/-- The error of a null in a column that may not hold one. -/
def nullError (t : Table) (c : Column) (undo : Resolution) : SqlError :=
  { code := 1299, detail := "NOT NULL constraint failed: " ++ t.name ++ "." ++ c.name, undo }

end AclReconcile.Sql
