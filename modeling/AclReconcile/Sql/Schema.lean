import AclReconcile.Sql.Prepare

/-!
# Changing the schema

The statements that make, drop and alter tables, indexes, views and triggers.

Renaming a table or a column carries the new name into everything that refers to it: the
indexes of the table, the queries of views that read it, and the triggers on it or whose
statements write or read it. Before and after such a change, every view and trigger of the
schema is checked in the order the objects were made; the first that no longer reads (a missing
table or column) fails the change as `error in view v: ...` or `error in trigger t: ...`, after
the change with the change named (`... after rename: ...`). Dropping a column fails when an
index, view or trigger still needs it.
-/

namespace AclReconcile.Sql

/-! ## Renaming references -/

mutual

/-- An expression with every column reference (qualifier and name) mapped. A name in double
quotes counts as an unqualified reference. -/
def Expr.mapRefs (f : Option String → String → Option String × String) : Expr → Expr
  | .lit v => .lit v
  | .column q n => let (q', n') := f q n; .column q' n'
  | .quoted n => .quoted (f none n).2
  | .unary op e => .unary op (e.mapRefs f)
  | .binary op a b => .binary op (a.mapRefs f) (b.mapRefs f)
  | .isNull e neg => .isNull (e.mapRefs f) neg
  | .between e lo hi neg => .between (e.mapRefs f) (lo.mapRefs f) (hi.mapRefs f) neg
  | .inList e items neg => .inList (e.mapRefs f) (Expr.mapRefsAll f items) neg
  | .like e p esc neg => .like (e.mapRefs f) (p.mapRefs f) (Expr.mapRefsOption f esc) neg
  | .glob e p neg => .glob (e.mapRefs f) (p.mapRefs f) neg
  | .cast e t => .cast (e.mapRefs f) t
  | .call name args star => .call name (Expr.mapRefsAll f args) star
  | .caseOf b arms o =>
    .caseOf (Expr.mapRefsOption f b) (Expr.mapRefsAll f arms) (Expr.mapRefsOption f o)
  | .raise k m => .raise k (m.mapRefs f)

/-- Expressions with their column references mapped. -/
def Expr.mapRefsAll (f : Option String → String → Option String × String) :
    List Expr → List Expr
  | [] => []
  | e :: rest => e.mapRefs f :: Expr.mapRefsAll f rest

/-- An optional expression with its column references mapped. -/
def Expr.mapRefsOption (f : Option String → String → Option String × String) :
    Option Expr → Option Expr
  | none => none
  | some e => some (e.mapRefs f)

end

/-- A query with every column reference of its clauses mapped. -/
def Select.mapRefs (f : Option String → String → Option String × String) (q : Select) :
    Select :=
  { q with
    columns := q.columns.map fun
      | .expr e label text => .expr (e.mapRefs f) label text
      | c => c
    filter := Expr.mapRefsOption f q.filter
    orderBy := q.orderBy.map fun t => { t with key := t.key.mapRefs f }
    limit := Expr.mapRefsOption f q.limit
    offset := Expr.mapRefsOption f q.offset }

/-- A name replaced when it is the old one. -/
def swapName (old new : String) (n : String) : String := if sameName n old then new else n

/-- A query with a table's new name: as its source, and in the qualifiers that name it. -/
def Select.withTableRenamed (old new : String) (q : Select) : Select :=
  let reads := q.source.any (sameName old) && q.sourceLabel.isNone
  let q := if reads then q.mapRefs fun qual n => (qual.map (swapName old new), n) else q
  { q with source := q.source.map (swapName old new) }

/-- A statement of a trigger's program with a table's new name. -/
def Statement.withTableRenamed (old new : String) : Statement → Statement
  | .select q => .select (q.withTableRenamed old new)
  | .insert c t cols rows up =>
    let rows := match rows with
      | .query q => .query (q.withTableRenamed old new)
      | r => r
    .insert c (swapName old new t) cols rows up
  | .update c t sets filter =>
    let f := fun (qual : Option String) (n : String) => (qual.map (swapName old new), n)
    .update c (swapName old new t) (sets.map fun (k, e) => (k, e.mapRefs f))
      (Expr.mapRefsOption f filter)
  | .delete t filter =>
    .delete (swapName old new t)
      (Expr.mapRefsOption (fun qual n => (qual.map (swapName old new), n)) filter)
  | s => s

/-- The mapping of the references to a column: those qualified by one of some names, and when
`plain` is set the unqualified ones too. -/
def columnRenaming (labels : List String) (plain : Bool) (old new : String) :
    Option String → String → Option String × String :=
  fun q n =>
    let applies := match q with
      | some x => labels.any (sameName x)
      | none => plain
    if applies && sameName n old then (q, new) else (q, n)

/-- A query with a column of a table renamed where it reads that table; `outer` names the
bindings outside that also stand for the table (a trigger's `NEW` and `OLD`). -/
def Select.withColumnRenamed (table old new : String) (outer : List String) (q : Select) : Select :=
  if q.source.any (sameName table) then
    q.mapRefs (columnRenaming (q.sourceLabel.getD table :: outer) true old new)
  else q.mapRefs (columnRenaming outer false old new)

/-- A statement of a trigger's program with a column of a table renamed. -/
def Statement.withColumnRenamed (table old new : String) (outer : List String) :
    Statement → Statement
  | .select q => .select (q.withColumnRenamed table old new outer)
  | .insert c t cols rows up =>
    let own := sameName t table
    let rows := match rows with
      | .values rs => .values (rs.map (Expr.mapRefsAll (columnRenaming outer false old new)))
      | .query q => .query (q.withColumnRenamed table old new outer)
      | .defaults => .defaults
    let cols := if own then cols.map (·.map (swapName old new)) else cols
    let up := if own then up.map fun u =>
        let f := columnRenaming (table :: "excluded" :: outer) true old new
        { u with
          target := u.target.map (swapName old new)
          updates := u.updates.map (·.map fun (k, e) => (swapName old new k, e.mapRefs f))
          filter := Expr.mapRefsOption f u.filter }
      else up
    .insert c t cols rows up
  | .update c t sets filter =>
    let own := sameName t table
    let f := columnRenaming (if own then table :: outer else outer) own old new
    .update c t (sets.map fun (k, e) => (if own then swapName old new k else k, e.mapRefs f))
      (Expr.mapRefsOption f filter)
  | .delete t filter =>
    let own := sameName t table
    .delete t (Expr.mapRefsOption
      (columnRenaming (if own then table :: outer else outer) own old new) filter)
  | s => s

/-- A trigger with a column of a table renamed: in its column list, condition and statements
when it is on the table, and in the statements that read or write the table otherwise. -/
def Trigger.withColumnRenamed (table old new : String) (tr : Trigger) : Trigger :=
  if sameName tr.table table then
    { tr with
      columns := tr.columns.map (swapName old new)
      condition := Expr.mapRefsOption (columnRenaming ["new", "old"] false old new) tr.condition
      body := tr.body.map (Statement.withColumnRenamed table old new ["new", "old"]) }
  else { tr with body := tr.body.map (Statement.withColumnRenamed table old new []) }

/-! ## Checking the schema -/

namespace Database

/-- The problem of a trigger's program against the schema as it stands: its condition and
statements must name only tables that exist and columns they can see. -/
def programProblem (db : Database) (tr : Trigger) : Option SqlError :=
  let check : SqlResult Unit := do
    let shape ← db.sourceShape tr.table
    let scope := triggerScope shape tr.event [] []
    checkEach { env := scope } tr.condition.toList
    for s in tr.body do
      match s with
      | .select q => let _ ← db.checkQuery true scope q db.viewDepth
      | .insert _ t _ rows _ =>
        let _ ← db.sourceShape t |>.mapError fun _ => SqlError.logic ("no such table: main." ++ t)
        match rows with
        | .values rs => for r in rs do checkEach { env := scope } r
        | .query q => let _ ← db.checkQuery true scope q db.viewDepth
        | .defaults => pure ()
      | .update _ t sets filter =>
        let cols ← db.sourceShape t |>.mapError fun _ => SqlError.logic ("no such table: main." ++ t)
        let env := Env.ofRow t cols [] ++ scope
        checkEach { env } (sets.map (·.2))
        checkEach { env } filter.toList
      | .delete t filter =>
        let cols ← db.sourceShape t |>.mapError fun _ => SqlError.logic ("no such table: main." ++ t)
        checkEach { env := Env.ofRow t cols [] ++ scope } filter.toList
      | _ => pure ()
  match check with
  | .error e => some e
  | .ok () => none

/-- The problem of a view's query against the schema as it stands. -/
def viewProblem (db : Database) (v : View) : Option SqlError :=
  match db.checkQuery true [] v.query db.viewDepth with
  | .error e => some e
  | .ok _ => none

/-- The problem of an index against its table: a column the table no longer has. -/
def indexProblem (db : Database) (ix : IndexDef) : Option SqlError :=
  match db.table? ix.table with
  | some t => (ix.columns.find? fun c => (t.columnIndex? c).isNone).map fun c =>
      .logic ("no such column: " ++ c)
  | none => none

/-- The first view or trigger (and index, when asked) that no longer reads, in the order the
objects were made, as the error of a change of the schema at a phase. -/
def schemaProblem (db : Database) (phase : String) (indexes : Bool) : Option SqlError :=
  let objects : List (Nat × String × String × Option SqlError) :=
    (db.views.map fun v => (v.serial, "view", v.name, db.viewProblem v)) ++
    (db.triggers.map fun tr => (tr.serial, "trigger", tr.name, db.programProblem tr)) ++
    (if indexes then db.indexes.map fun ix => (ix.serial, "index", ix.name, db.indexProblem ix)
     else [])
  let sorted := objects.mergeSort fun a b => a.1 ≤ b.1
  (sorted.find? (·.2.2.2.isSome)).bind fun (_, kind, name, problem) =>
    problem.map fun e => .logic ("error in " ++ kind ++ " " ++ name ++
      (if phase.isEmpty then "" else " " ++ phase) ++ ": " ++ e.detail)

/-! ## Statements on the schema -/

/-- The error for a new table or view whose name is taken. -/
def nameTaken (db : Database) (name : String) : Option SqlError :=
  if (db.table? name).isSome then some (.logic ("table " ++ name ++ " already exists"))
  else if (db.view? name).isSome then some (.logic ("view " ++ name ++ " already exists"))
  else if (db.index? name).isSome then some (.logic ("there is already an index named " ++ name))
  else none

/-- The first name that occurs twice. -/
def firstDuplicate : List String → Option String
  | [] => none
  | n :: rest => if rest.any (sameName n) then some n else firstDuplicate rest

/-- Makes a table. -/
def createTable (db : Database) (name : String) (ifNotExists : Bool) (columns : List Column) :
    SqlResult Database :=
  if (db.table? name).isSome || (db.view? name).isSome then
    if ifNotExists then .ok db else .error ((db.nameTaken name).getD default)
  else match db.nameTaken name with
    | some e => .error e
    | none => match firstDuplicate (columns.map (·.name)) with
      | some c => .error (.logic ("duplicate column name: " ++ c))
      | none =>
        let (db, serial) := db.nextSerial
        .ok { db with tables := db.tables ++ [{ name, columns, serial }] }

/-- Makes an index; a unique index fails on rows that already clash. -/
def createIndex (db : Database) (name : String) (ifNotExists : Bool) (table : String)
    (columns : List String) (unique : Bool) : SqlResult Database :=
  match db.table? table with
  | none =>
    if (db.view? table).isSome then .error (.logic "views may not be indexed")
    else .error (.logic ("no such table: main." ++ table))
  | some t =>
    if (db.table? name).isSome || (db.view? name).isSome then
      .error (.logic ("there is already a table named " ++ name))
    else if (db.index? name).isSome then
      if ifNotExists then .ok db else .error (.logic ("index " ++ name ++ " already exists"))
    else match columns.find? fun c => (t.columnIndex? c).isNone with
      | some c => .error (.logic ("no such column: " ++ c))
      | none =>
        let group := columns.filterMap t.columnIndex?
        let dup := t.rows.any fun r => t.rows.any fun s => r.id < s.id && clash group r.values s.values
        if unique && dup then .error (clashError t group 2067 .abort)
        else
          let (db, serial) := db.nextSerial
          .ok { db with indexes := db.indexes ++ [{ name, table := t.name, columns, unique, serial }] }

/-- Makes a view. -/
def createView (db : Database) (name : String) (ifNotExists : Bool) (columns : List String)
    (query : Select) : SqlResult Database :=
  match db.nameTaken name with
  | some e => if ifNotExists && (db.index? name).isNone then .ok db else .error e
  | none =>
    let (db, serial) := db.nextSerial
    .ok { db with views := db.views ++ [{ name, columns, query, serial }] }

/-- Makes a trigger: `INSTEAD OF` only on a view, and only `BEFORE` or `AFTER` on a table. -/
def createTrigger (db : Database) (name : String) (ifNotExists : Bool) (timing : Timing)
    (event : Event) (columns : List String) (table : String) (condition : Option Expr)
    (body : List Statement) : SqlResult Database :=
  if (db.trigger? name).isSome then
    if ifNotExists then .ok db else .error (.logic ("trigger " ++ name ++ " already exists"))
  else
    let add (on : String) : SqlResult Database :=
      let (db, serial) := db.nextSerial
      .ok { db with triggers := db.triggers ++
        [{ name, timing, event, columns, table := on, condition, body, serial }] }
    match db.table? table, db.view? table with
    | some t, _ =>
      if timing == .insteadOf then
        .error (.logic ("cannot create INSTEAD OF trigger on table: " ++ t.name))
      else add t.name
    | none, some v =>
      if timing == .insteadOf then add v.name
      else
        .error (.logic ("cannot create " ++ (if timing == .before then "BEFORE" else "AFTER") ++
          " trigger on view: main." ++ v.name))
    | none, none => .error (.logic ("no such table: main." ++ table))

/-- Drops a schema object. -/
def dropObject (db : Database) (kind : ObjectKind) (name : String) (ifExists : Bool) :
    SqlResult Database :=
  match kind with
  | .table =>
    match db.table? name with
    | some t => .ok { db with
        tables := db.tables.filter fun u => !sameName u.name t.name
        indexes := db.indexes.filter fun ix => !sameName ix.table t.name
        triggers := db.triggers.filter fun tr => !sameName tr.table t.name }
    | none =>
      if (db.view? name).isSome then .error (.logic ("use DROP VIEW to delete view " ++ name))
      else if ifExists then .ok db else .error (.logic ("no such table: " ++ name))
  | .view =>
    match db.view? name with
    | some v => .ok { db with
        views := db.views.filter fun u => !sameName u.name v.name
        triggers := db.triggers.filter fun tr => !sameName tr.table v.name }
    | none =>
      if (db.table? name).isSome then .error (.logic ("use DROP TABLE to delete table " ++ name))
      else if ifExists then .ok db else .error (.logic ("no such view: " ++ name))
  | .index =>
    if (db.index? name).isSome then
      .ok { db with indexes := db.indexes.filter fun ix => !sameName ix.name name }
    else if ifExists then .ok db else .error (.logic ("no such index: " ++ name))
  | .trigger =>
    if (db.trigger? name).isSome then
      .ok { db with triggers := db.triggers.filter fun tr => !sameName tr.name name }
    else if ifExists then .ok db else .error (.logic ("no such trigger: " ++ name))

/-- The result of a change of the schema, unless a view or trigger no longer reads after it. -/
def checkedAfter (db : Database) (phase : String) (indexes : Bool) : SqlResult Database :=
  match db.schemaProblem phase indexes with
  | some e => .error e
  | none => .ok db

/-- Renames a table, carrying the new name into its indexes, the views that read it and the
triggers on it or that write or read it. -/
def renameTable (db : Database) (table newName : String) : SqlResult Database := do
  let (isView, oldName) ← match db.table? table, db.view? table with
    | some t, _ => pure (false, t.name)
    | none, some v => pure (true, v.name)
    | none, none => throw (.logic ("no such table: " ++ table))
  if (db.table? newName).isSome || (db.view? newName).isSome || (db.index? newName).isSome then
    throw (.logic ("there is already another table or index with this name: " ++ newName))
  if isView then throw (.logic ("view " ++ oldName ++ " may not be altered"))
  if let some e := db.schemaProblem "" false then throw e
  let swap := swapName oldName newName
  let renamed : Database := { db with
    tables := db.tables.map fun u => if sameName u.name oldName then { u with name := newName } else u
    indexes := db.indexes.map fun ix => { ix with table := swap ix.table }
    views := db.views.map fun v => { v with query := v.query.withTableRenamed oldName newName }
    triggers := db.triggers.map fun tr =>
      { tr with table := swap tr.table, body := tr.body.map (Statement.withTableRenamed oldName newName) } }
  renamed.checkedAfter "after rename" false

/-- Renames a column of a table, carrying the new name into the indexes, views and triggers
that refer to it. -/
def renameColumn (db : Database) (table column newName : String) : SqlResult Database := do
  let t ← match db.table? table, db.view? table with
    | some t, _ => pure t
    | none, some v => throw (.logic ("cannot rename columns of view \"" ++ v.name ++ "\""))
    | none, none => throw (.logic ("no such table: " ++ table))
  let some i := t.columnIndex? column | throw (.logic ("no such column: \"" ++ column ++ "\""))
  if let some e := db.schemaProblem "" false then throw e
  let old := (t.columns.getD i default).name
  if t.columns.zipIdx.any (fun (c, j) => j != i && sameName c.name newName) then
    throw (.logic ("error in table " ++ t.name ++ " after rename: duplicate column name: " ++ newName))
  let cols := t.columns.zipIdx.map fun (c, j) => if i == j then { c with name := newName } else c
  let renamed : Database := { db with
    indexes := db.indexes.map fun ix =>
      if sameName ix.table t.name then { ix with columns := ix.columns.map (swapName old newName) }
      else ix
    views := db.views.map fun v => { v with query := v.query.withColumnRenamed t.name old newName [] }
    triggers := db.triggers.map (Trigger.withColumnRenamed t.name old newName) }
  (renamed.putTable { t with columns := cols }).checkedAfter "after rename" false

/-- Adds a column to a table; its default fills the rows there are. -/
def addColumn (db : Database) (table : String) (column : Column) : SqlResult Database :=
  match db.table? table with
  | none =>
    if (db.view? table).isSome then .error (.logic "Cannot add a column to a view")
    else .error (.logic ("no such table: " ++ table))
  | some t =>
    if (t.columnIndex? column.name).isSome then
      .error (.logic ("duplicate column name: " ++ column.name))
    else if column.primary then .error (.logic "Cannot add a PRIMARY KEY column")
    else if column.unique then .error (.logic "Cannot add a UNIQUE column")
    else if column.notNull && column.default == .null && !t.rows.isEmpty then
      .error (.logic "Cannot add a NOT NULL column with default value NULL")
    else .ok (db.putTable { t with
      columns := t.columns ++ [column]
      rows := t.rows.map fun r => { r with values := r.values ++ [column.default] } })

/-- Drops a column of a table, unless it is a key, the only column, or still needed by an
index, view or trigger. -/
def dropColumn (db : Database) (table column : String) : SqlResult Database := do
  let t ← match db.table? table, db.view? table with
    | some t, _ => pure t
    | none, some v => throw (.logic ("cannot drop column from view \"" ++ v.name ++ "\""))
    | none, none => throw (.logic ("no such table: " ++ table))
  let some i := t.columnIndex? column | throw (.logic ("no such column: \"" ++ column ++ "\""))
  let c := t.columns.getD i default
  if c.primary then throw (.logic ("cannot drop PRIMARY KEY column: \"" ++ column ++ "\""))
  if c.unique then throw (.logic ("cannot drop UNIQUE column: \"" ++ column ++ "\""))
  if t.columns.length ≤ 1 then
    throw (.logic ("cannot drop column \"" ++ column ++ "\": no other columns exist"))
  if let some e := db.schemaProblem "" false then throw e
  let dropped := db.putTable { t with
    columns := t.columns.eraseIdx i
    rows := t.rows.map fun r => { r with values := r.values.eraseIdx i } }
  match (dropped.indexes.filter fun ix => sameName ix.table t.name).find?
      (dropped.indexProblem · |>.isSome) with
  | some ix =>
    throw (.logic ("error in index " ++ ix.name ++ " after drop column: no such column: " ++ c.name))
  | none => dropped.checkedAfter "after drop column" false

/-- Runs a statement that changes the schema; other statements leave it as it is. -/
def alter (db : Database) : Statement → SqlResult Database
  | .createTable name ine columns => db.createTable name ine columns
  | .createIndex name ine table columns unique => db.createIndex name ine table columns unique
  | .createView name ine columns query => db.createView name ine columns query
  | .createTrigger name ine timing event columns table condition body =>
    db.createTrigger name ine timing event columns table condition body
  | .drop kind name ifExists => db.dropObject kind name ifExists
  | .renameTable table newName => db.renameTable table newName
  | .renameColumn table column newName => db.renameColumn table column newName
  | .addColumn table column => db.addColumn table column
  | .dropColumn table column => db.dropColumn table column
  | _ => .ok db

end Database

end AclReconcile.Sql
