import AclReconcile.Sql.Value

/-!
# Expressions of an SQL database

An expression computes a value from literals and the columns of the rows being read:
arithmetic, text concatenation, comparisons, the logic of `AND`, `OR` and `NOT` over true,
false and null, `IS`, `BETWEEN`, `IN`, `LIKE`, `GLOB`, `CAST`, `CASE`, function calls, and
`RAISE`, which only the program of a trigger may use.

A column is named by its name, optionally after the name of its table; the names an expression
can see are bindings, each a value with the table it comes from and the affinity of its column.
A name in double quotes that names no column is read as text.

Errors carry a result code and what they undo: a failing statement normally undoes its own
changes, a `FAIL` resolution keeps the changes made before the failure, and a `ROLLBACK`
resolution ends the transaction.
-/

namespace AclReconcile.Sql

/-- How a constraint failure or a trigger's `RAISE` is resolved: the transaction is undone, the
statement is undone, the statement stops where it is, the row is skipped, or (for a clash with
existing rows) the clashing rows are removed. -/
inductive Resolution where
  | rollback | abort | fail | ignore | replace
  deriving DecidableEq, Repr, Inhabited

/-- An error of the database: a result code, a message, and what the failure undoes. An error of
the library that hands statements to the engine, raised before the engine runs one, is `outside`
and has only its message. -/
structure SqlError where
  code : Nat
  detail : String
  undo : Resolution := .abort
  outside : Bool := false
  deriving Repr, Inhabited

namespace SqlError

/-- An error with a code and a message that undoes the statement. -/
def make (code : Nat) (detail : String) : SqlError := { code, detail }

/-- A logic error, such as a missing table or a syntax error. -/
def logic (detail : String) : SqlError := make 1 detail

/-- The general text of a result code. -/
def codeText (code : Nat) : String :=
  match code % 256 with
  | 1 => "SQL logic error"
  | 19 => "constraint failed"
  | 20 => "datatype mismatch"
  | 26 => "file is not a database"
  | 21 => "bad parameter or other API misuse"
  | 14 => "unable to open database file"
  | 18 => "string or blob too big"
  | 25 => "column index out of range"
  | _ => "unknown error"

/-- The message of an error: the text of its code, its detail when that says more, and the
code. -/
def message (e : SqlError) : String :=
  if e.outside then e.detail
  else if e.detail.isEmpty || e.detail == codeText e.code then
    codeText e.code ++ " (" ++ toString e.code ++ ")"
  else codeText e.code ++ ": " ++ e.detail ++ " (" ++ toString e.code ++ ")"

end SqlError

/-- A computation of the database that may fail. -/
abbrev SqlResult := Except SqlError

/-- The operators on one operand. -/
inductive UnaryOp where
  | negate | plus | bitNot | not
  deriving DecidableEq, Repr, Inhabited

/-- The operators between two operands. -/
inductive BinaryOp where
  | or | and
  | eq | ne | lt | le | gt | ge | is | isNot
  | concat | add | sub | mul | div | rem
  | bitAnd | bitOr | shiftLeft | shiftRight
  deriving DecidableEq, Repr, Inhabited

/-- Whether an operator compares its operands. -/
def BinaryOp.isComparison : BinaryOp → Bool
  | .eq | .ne | .lt | .le | .gt | .ge | .is | .isNot => true
  | _ => false

/-- An expression. -/
inductive Expr where
  | lit (v : Value)
  /-- A column, by its name and optionally the name of its table (or `NEW`, `OLD`,
  `excluded`). -/
  | column (qualifier : Option String) (name : String)
  /-- A name in double quotes: the column of that name when there is one, otherwise text. -/
  | quoted (name : String)
  | unary (op : UnaryOp) (e : Expr)
  | binary (op : BinaryOp) (a b : Expr)
  | isNull (e : Expr) (negated : Bool)
  | between (e low high : Expr) (negated : Bool)
  | inList (e : Expr) (items : List Expr) (negated : Bool)
  | like (e pattern : Expr) (escape : Option Expr) (negated : Bool)
  | glob (e pattern : Expr) (negated : Bool)
  | cast (e : Expr) (type : String)
  /-- A function call; `star` marks `count(*)`. -/
  | call (name : String) (args : List Expr) (star : Bool)
  /-- `CASE`: an optional operand, the `WHEN ... THEN ...` pairs as one flat list (each test
  followed by its result), and the `ELSE` result. -/
  | caseOf (base : Option Expr) (arms : List Expr) (otherwise : Option Expr)
  /-- `RAISE`: how it ends the trigger's program, and its message (null for `IGNORE`). -/
  | raise (kind : Resolution) (message : Expr)
  deriving Repr, Inhabited

namespace Expr

/-- The equality of a column with a value. -/
def columnIs (name : String) (v : Value) : Expr := .binary .eq (.column none name) (.lit v)

/-- Expressions joined by `AND`; `none` when there are none. -/
def allOf : List Expr → Option Expr
  | [] => none
  | e :: rest => match allOf rest with
    | some r => some (.binary .and e r)
    | none => some e

end Expr

/-- A value an expression can name: a column of a row being read, with the name of its table
(or `NEW`, `OLD`, `excluded`) and its affinity, `none` for a computed column. A hidden binding
(`NEW`, `OLD`, `excluded`) is seen only by a reference that names its table. -/
structure Binding where
  table : String
  name : String
  value : Value
  affinity : Option Affinity
  hidden : Bool := false
  deriving Repr, Inhabited

/-- The values an expression can name. -/
abbrev Env := List Binding

/-- The text of a column reference in messages. -/
def columnText (qualifier : Option String) (name : String) : String :=
  match qualifier with
  | some q => q ++ "." ++ name
  | none => name

/-- The binding a column reference names: the only one of that name (of the named table when
there is a qualifier). Two bindings of one unqualified name are ambiguous. -/
def Env.lookup (env : Env) (qualifier : Option String) (name : String) : SqlResult Binding :=
  let found := env.filter fun b =>
    sameName b.name name && (match qualifier with
      | some q => sameName b.table q
      | none => !b.hidden)
  match found with
  | [] => .error (.logic ("no such column: " ++ columnText qualifier name))
  | [b] => .ok b
  | b :: _ =>
    if qualifier.isSome then .ok b
    else .error (.logic ("ambiguous column name: " ++ name))

/-- The bindings of one row: each column under the table's name. -/
def Env.ofRow (table : String) (columns : List (String × Option Affinity)) (row : List Value) :
    Env :=
  (columns.zip (row ++ List.replicate (columns.length - row.length) .null)).map
    fun ((n, a), v) => { table, name := n, value := v, affinity := a }

/-- The hidden bindings of one row under a name such as `NEW`. -/
def Env.hiddenRow (table : String) (columns : List (String × Option Affinity))
    (row : List Value) : Env :=
  (Env.ofRow table columns row).map fun b => { b with hidden := true }

/-- How evaluating an expression stops early: an error, or the signal of a trigger's
`RAISE`. -/
inductive Stop where
  | error (e : SqlError)
  | raise (kind : Resolution) (message : String)
  deriving Repr, Inhabited

/-- A computation that may stop early. -/
abbrev Eval := Except Stop

/-- Lifts a database error into an evaluation. -/
def Eval.ofResult {α : Type} : SqlResult α → Eval α
  | .ok a => .ok a
  | .error e => .error (.error e)

end AclReconcile.Sql
