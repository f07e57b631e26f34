import AclReconcile.Sql.Query

/-!
# Preparing writes

Before a write runs, it is checked the way the engine prepares it, and the first problem is its
error:

* the table must exist; a view may only be written through its `INSTEAD OF` triggers;
* an insert's columns must be columns of the table, its values may name no column, and their
  number must match the columns;
* an upsert's target must be a unique group of the table, and its updates must name columns;
* an update's values and condition, and a delete's condition, must name only columns of the
  table (and, inside a trigger, of `NEW` and `OLD`);
* `RAISE` is for the programs of triggers only;
* then the programs of the triggers the write would fire are prepared, before ones first, each
  trigger's condition and statements in turn, and through them the triggers those statements
  would fire. A trigger already running does not fire again.

Inside a trigger a missing table is named with its schema, `main`.
-/

namespace AclReconcile.Sql

/-- The bindings a trigger's program sees for one row: the new values as `NEW` (not for a
delete) and the old ones as `OLD` (not for an insert). -/
def triggerScope (columns : List (String × Option Affinity)) (event : Event)
    (newRow oldRow : List Value) : Env :=
  (if event == .delete then [] else Env.hiddenRow "new" columns newRow) ++
    (if event == .insert then [] else Env.hiddenRow "old" columns oldRow)

/-- The error of a write to a view that has no `INSTEAD OF` trigger for it. -/
def viewWriteError (v : View) : SqlError :=
  .logic ("cannot modify " ++ v.name ++ " because it is a view")

/-- The error of `RAISE` outside the program of a trigger. -/
def raiseOutside : SqlError := .logic "RAISE() may only be used within a trigger-program"

/-- Whether the rows of an insert call `RAISE`. -/
def InsertRows.raises : InsertRows → Bool
  | .values rows => rows.any Expr.anyRaises
  | .query q => q.raises
  | .defaults => false

namespace Database

/-- The columns of a table or view, with their affinities. -/
def sourceShape (db : Database) (name : String) : SqlResult (List (String × Option Affinity)) :=
  db.checkQuery true [] { columns := [.all], source := some name } db.viewDepth

/-- What a write names: the table's or view's own name, its columns, and whether it is a view
(which the write reaches through triggers at a time). A view without such triggers cannot be
written. -/
def writeTarget (db : Database) (inTrigger : Bool) (table : String) (event : Event)
    (changed : List String) : SqlResult (String × List (String × Option Affinity) × Bool) :=
  match db.table? table, db.view? table with
  | some t, _ => .ok (t.name, t.shape, false)
  | none, some v =>
    if (db.triggersOn v.name .insteadOf event changed).isEmpty then .error (viewWriteError v)
    else do pure (v.name, ← db.sourceShape v.name, true)
  | none, none => .error (.logic ("no such table: " ++ tableText inTrigger table))

/-- Checks the names of the values set by an update (each value, then its column) and of its
condition, over a scope. -/
def checkSets (scope : Env) (columns : List (String × Option Affinity))
    (sets : List (String × Expr)) (filter : Option Expr) : SqlResult Unit := do
  for (c, e) in sets do
    checkEach { env := scope } [e]
    if !columns.any (fun (n, _) => sameName n c) then throw (.logic ("no such column: " ++ c))
  checkEach { env := scope } filter.toList

/-- Checks an upsert's target: its names must be columns, and together a unique group. -/
def checkUpsertTarget (db : Database) (table : String) (u : Upsert) : SqlResult Unit := do
  let some t := db.table? table | pure ()
  for c in u.target do
    if (t.columnIndex? c).isNone then throw (.logic ("no such column: " ++ c))
  if !u.target.isEmpty && (db.groupOf t u.target).isNone then
    throw (.logic "ON CONFLICT clause does not match any PRIMARY KEY or UNIQUE constraint")

mutual

/-- Prepares the programs of the triggers of a table that a write of one kind would fire at a
time; `fuel` bounds their nesting. -/
def checkTriggers (db : Database) (active : List String) (table : String)
    (columns : List (String × Option Affinity)) (timing : Timing) (event : Event)
    (changed : List String) : Nat → SqlResult Unit
  | 0 => .error (.logic "too many levels of trigger recursion")
  | fuel + 1 => do
    for tr in db.triggersOn table timing event changed do
      if !active.any (sameName tr.name) then
        let scope := triggerScope columns event [] []
        checkEach { env := scope } tr.condition.toList
        for s in tr.body do
          db.checkStep (active ++ [tr.name]) scope s fuel

/-- Prepares a statement of a trigger's program. -/
def checkStep (db : Database) (active : List String) (outer : Env) (s : Statement) :
    Nat → SqlResult Unit
  | 0 => .error (.logic "too many levels of trigger recursion")
  | fuel + 1 =>
    match s with
    | .select q => do let _ ← db.checkQuery true outer q db.viewDepth
    | .insert _ table columns rows upsert =>
      db.checkInsert active true outer table columns rows upsert fuel
    | .update _ table sets filter => db.checkUpdate active true outer table sets filter fuel
    | .delete table filter => db.checkDelete active true outer table filter fuel
    | _ => .ok ()

/-- Prepares an insert. -/
def checkInsert (db : Database) (active : List String) (inTrigger : Bool) (outer : Env)
    (table : String) (columns : Option (List String)) (rows : InsertRows)
    (upsert : Option Upsert) : Nat → SqlResult Unit
  | 0 => .error (.logic "too many levels of trigger recursion")
  | fuel + 1 => do
    let (name, shape, isView) ← db.writeTarget inTrigger table .insert []
    if let some cs := columns then
      for c in cs do
        if !shape.any (fun (n, _) => sameName n c) then
          throw (.logic ("table " ++ table ++ " has no column named " ++ c))
    let count ← match rows with
      | .values rs => do
        for r in rs do checkEach { env := outer } r
        pure ((rs.head?.map List.length).getD 0)
      | .query q => do pure (← db.checkQuery inTrigger outer q db.viewDepth).length
      | .defaults => pure 0
    match columns with
    | none =>
      if count != 0 && count != shape.length then
        throw (.logic ("table " ++ table ++ " has " ++ toString shape.length ++
          " columns but " ++ toString count ++ " values were supplied"))
    | some cs =>
      if count != cs.length then
        throw (.logic (toString count ++ " values for " ++ toString cs.length ++ " columns"))
    if let some u := upsert then
      if isView then throw (.logic "cannot UPSERT a view")
      db.checkUpsertTarget name u
    if !inTrigger && rows.raises then throw raiseOutside
    if isView then db.checkTriggers active name shape .insteadOf .insert [] fuel
    else
      db.checkTriggers active name shape .before .insert [] fuel
      if let some u := upsert then
        if let some sets := u.updates then
          let scope := Env.ofRow name shape [] ++ Env.hiddenRow "excluded" shape [] ++ outer
          checkSets scope shape sets u.filter
          db.checkTriggers active name shape .before .update (sets.map (·.1)) fuel
          db.checkTriggers active name shape .after .update (sets.map (·.1)) fuel
      db.checkTriggers active name shape .after .insert [] fuel

/-- Prepares an update. -/
def checkUpdate (db : Database) (active : List String) (inTrigger : Bool) (outer : Env)
    (table : String) (sets : List (String × Expr)) (filter : Option Expr) :
    Nat → SqlResult Unit
  | 0 => .error (.logic "too many levels of trigger recursion")
  | fuel + 1 => do
    let changed := sets.map (·.1)
    let (name, shape, isView) ← db.writeTarget inTrigger table .update changed
    checkSets (Env.ofRow name shape [] ++ outer) shape sets filter
    if !inTrigger && (sets.any (·.2.raises) || Expr.optionRaises filter) then throw raiseOutside
    if isView then db.checkTriggers active name shape .insteadOf .update changed fuel
    else
      db.checkTriggers active name shape .before .update changed fuel
      db.checkTriggers active name shape .after .update changed fuel

/-- Prepares a delete. -/
def checkDelete (db : Database) (active : List String) (inTrigger : Bool) (outer : Env)
    (table : String) (filter : Option Expr) : Nat → SqlResult Unit
  | 0 => .error (.logic "too many levels of trigger recursion")
  | fuel + 1 => do
    let (name, shape, isView) ← db.writeTarget inTrigger table .delete []
    checkEach { env := Env.ofRow name shape [] ++ outer } filter.toList
    if !inTrigger && Expr.optionRaises filter then throw raiseOutside
    if isView then db.checkTriggers active name shape .insteadOf .delete [] fuel
    else
      db.checkTriggers active name shape .before .delete [] fuel
      db.checkTriggers active name shape .after .delete [] fuel

end

/-- A bound on the nesting of trigger programs: every level costs a few steps, and a trigger
never fires while it is already running. -/
def triggerFuel (db : Database) : Nat := 4 * (db.triggers.length + 2)

end Database

end AclReconcile.Sql
