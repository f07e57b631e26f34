import AclReconcile.Sql.Expr

/-!
# Statements of an SQL database

The statements a database runs: queries, writes of rows, changes of the schema, and the
statements that begin and end a transaction.

A query reads the rows of one table or view (or one row of nothing) that meet its condition,
in the order it asks for, and computes its result columns from each. A write names its table,
the rows it changes by a condition, and how a clash with a constraint is resolved. A trigger
watches one kind of write of a table and runs its own statements for every row written, when
its condition holds.
-/

namespace AclReconcile.Sql

/-- A column of a table, with its declared type and constraints. -/
structure Column where
  name : String
  declared : String := ""
  notNull : Bool := false
  /-- The column is the table's primary key. -/
  primary : Bool := false
  unique : Bool := false
  default : Value := .null
  deriving Repr, Inhabited

/-- The affinity of a column. -/
def Column.affinity (c : Column) : Affinity := Affinity.ofType c.declared

/-- A column of a query's result: every column of the source, every column of a named source,
or an expression with an optional name and the text it was written as. -/
inductive ResultColumn where
  | all
  | allOf (table : String)
  | expr (e : Expr) (label : Option String) (text : String)
  deriving Repr, Inhabited

/-- A term of an `ORDER BY` clause. -/
structure OrderTerm where
  key : Expr
  descending : Bool
  deriving Repr, Inhabited

/-- A query: its result columns, the table or view it reads (with the name it goes by in the
query), its condition, its order and its limit. -/
structure Select where
  columns : List ResultColumn
  source : Option String := none
  sourceLabel : Option String := none
  filter : Option Expr := none
  orderBy : List OrderTerm := []
  limit : Option Expr := none
  offset : Option Expr := none
  distinct : Bool := false
  deriving Repr, Inhabited

/-- When a trigger runs. -/
inductive Timing where
  | before | after | insteadOf
  deriving DecidableEq, Repr, Inhabited

/-- The writes a trigger watches. -/
inductive Event where
  | insert | update | delete
  deriving DecidableEq, Repr, Inhabited

/-- The kinds of schema objects a statement can drop. -/
inductive ObjectKind where
  | table | index | trigger | view
  deriving DecidableEq, Repr, Inhabited

/-- What an insert does when a row clashes with the unique columns of its target: nothing, or
an update of the clashing row (optionally only where a condition holds). -/
structure Upsert where
  target : List String
  /-- The columns set and their new values, `none` for `DO NOTHING`. -/
  updates : Option (List (String × Expr))
  filter : Option Expr := none
  deriving Repr, Inhabited

/-- The rows an insert writes. -/
inductive InsertRows where
  | values (rows : List (List Expr))
  | query (q : Select)
  | defaults
  deriving Repr, Inhabited

/-- A statement. -/
inductive Statement where
  | select (q : Select)
  /-- A statement that changes nothing the tables can show. -/
  | pass
  /-- An insert: its conflict clause (none for the default), the table, the columns given
  values (none for all), the rows and what to do on a clash. -/
  | insert (conflict : Option Resolution) (table : String) (columns : Option (List String))
      (rows : InsertRows) (upsert : Option Upsert)
  | update (conflict : Option Resolution) (table : String) (sets : List (String × Expr))
      (filter : Option Expr)
  | delete (table : String) (filter : Option Expr)
  | createTable (name : String) (ifNotExists : Bool) (columns : List Column)
  | createIndex (name : String) (ifNotExists : Bool) (table : String) (columns : List String)
      (unique : Bool)
  /-- A view: its name, the names given to its columns (none to take them from the query) and
  its query. -/
  | createView (name : String) (ifNotExists : Bool) (columns : List String) (query : Select)
  /-- A trigger: its name, when it runs, the write it watches (for an update, optionally only of
  some columns), the table, its condition and its statements. -/
  | createTrigger (name : String) (ifNotExists : Bool) (timing : Timing) (event : Event)
      (columns : List String) (table : String) (condition : Option Expr) (body : List Statement)
  | drop (kind : ObjectKind) (name : String) (ifExists : Bool)
  | renameTable (table newName : String)
  | renameColumn (table column newName : String)
  | addColumn (table : String) (column : Column)
  | dropColumn (table column : String)
  | begin
  | commit
  | rollback
  deriving Repr, Inhabited

end AclReconcile.Sql
