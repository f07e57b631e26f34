import AclReconcile.Sql.Prepare

/-!
# Writing rows

Writes go row by row. For each row:

* an insert fills the columns not given with their defaults and converts every value by its
  column's affinity; an update computes the new values from the old row;
* the `BEFORE` triggers fire (the newest first), each whose condition holds running its
  statements with the row as `NEW` and `OLD`; a `RAISE(IGNORE)` leaves the row as it is and goes
  on with the next one, any other `RAISE` fails the write;
* a null in a column that may not hold one fails, unless the conflict resolution is `IGNORE`
  (the row is left) or `REPLACE` with a default for the column;
* a clash with another row on a unique group fails, unless an upsert handles it (doing nothing,
  or updating the clashing row instead), or the resolution is `IGNORE` or `REPLACE` (the clashing
  rows are removed);
* the row is written and the `AFTER` triggers fire.

A view is written only through its `INSTEAD OF` triggers, which fire for every row instead of
the write. A conflict clause of the statement that fired a trigger overrides those of the
statements of its program. Every computation keeps the database as it was when it stopped, so
that a failure can keep the changes made before it or undo them.
-/

namespace AclReconcile.Sql

/-- A computation on a database that may stop, keeping the database as it was where it
stopped. -/
abbrev Exec := EStateM Stop Database

namespace Exec

/-- An evaluation as a computation on the database. -/
def ofEval {α : Type} : Eval α → Exec α
  | .ok a => pure a
  | .error s => throw s

/-- A result of the database as a computation on it. -/
def ofResult {α : Type} : SqlResult α → Exec α
  | .ok a => pure a
  | .error e => throw (.error e)

/-- Fails with an error. -/
def fail {α : Type} (e : SqlError) : Exec α := throw (.error e)

end Exec

namespace Table

/-- The row of a row id. -/
def row? (t : Table) (id : Int) : Option Row := t.rows.find? (·.id == id)

/-- The table with a row replaced by a new version of it. -/
def withRow (t : Table) (r : Row) : Table :=
  { t with rows := t.rows.map fun s => if s.id == r.id then r else s }

/-- The table without some rows. -/
def withoutRows (t : Table) (ids : List Int) : Table :=
  { t with rows := t.rows.filter fun s => !ids.contains s.id }

/-- Values converted by the affinities of the columns, one per column. -/
def conform (t : Table) (values : List Value) : List Value :=
  t.columns.zipIdx.map fun (c, i) => c.affinity.apply (cell values i)

/-- The row a write gives values to some columns of: those values at their columns, the
defaults elsewhere. -/
def fill (t : Table) (targets : List Nat) (values : List Value) : List Value :=
  t.columns.zipIdx.map fun (c, i) =>
    match targets.idxOf? i with
    | some k => cell values k
    | none => c.default

/-- A row made to keep the columns that may not be null: a null is the column's default under
`REPLACE` when that is not null; `none` when the row is to be left (`IGNORE`). -/
def settleNulls (t : Table) (conflict : Resolution) (row : List Value) :
    SqlResult (Option (List Value)) :=
  let rec go : List (Column × Nat) → List Value → SqlResult (Option (List Value))
    | [], r => .ok (some r)
    | (c, i) :: rest, r =>
      if c.notNull && cell r i == .null then
        match conflict with
        | .ignore => .ok none
        | .replace =>
          if c.default != .null then go rest (r.set i (c.affinity.apply c.default))
          else .error (nullError t c .abort)
        | other => .error (nullError t c other.undoing)
      else go rest r
  go t.columns.zipIdx row

end Table

/-- The rows a row clashes with on the unique groups of its table, settled by a conflict
resolution: the row ids to remove (under `REPLACE`), or `none` when the row is to be left
(`IGNORE`). The row itself, when it is already in the table, is no clash. -/
def Database.settleClashes (db : Database) (t : Table) (conflict : Resolution)
    (self : Option Int) (row : List Value) : SqlResult (Option (List Int)) :=
  let rec go : List (List Nat × Nat) → List Int → SqlResult (Option (List Int))
    | [], removed => .ok (some removed)
    | (g, code) :: rest, removed =>
      let clashing := t.rows.filter fun r =>
        some r.id != self && !removed.contains r.id && clash g row r.values
      if clashing.isEmpty then go rest removed
      else match conflict with
        | .replace => go rest (removed ++ clashing.map (·.id))
        | .ignore => .ok none
        | other => .error (clashError t g code other.undoing)
  go (db.uniqueGroups t) []

/-- Whether a condition holds under bindings; no condition always holds. -/
def holdsUnder (env : Env) : Option Expr → Exec Bool
  | some c => do pure (← Exec.ofEval (eval env c)).holds
  | none => pure true

/-- The rows of a source that a write's condition picks, with their values. -/
def pickRows (label : String) (columns : List (String × Option Affinity)) (outer : Env)
    (filter : Option Expr) (rows : List (Int × List Value)) : Exec (List (Int × List Value)) :=
  rows.filterM fun (_, values) => holdsUnder (Env.ofRow label columns values ++ outer) filter

/-- The values of a row updated by a statement's settings, each converted by its column's
affinity (none for the columns of a view). -/
def applySets (env : Env) (columns : List (String × Option Affinity))
    (sets : List (String × Expr)) (values : List Value) : Exec (List Value) :=
  sets.foldlM (fun row (c, e) => do
    let v ← Exec.ofEval (eval env e)
    match columns.findIdx? fun (n, _) => sameName n c with
    | some i => pure (row.set i (match (columns.getD i ("", none)).2 with
        | some a => a.apply v
        | none => v))
    | none => pure row) values

mutual

/-- Fires the triggers of a table on a write of one row at a time: each trigger not already
running whose condition holds runs its statements with the row's bindings. `false` when one
raised `IGNORE`: the row is then left as it is. -/
def fire (active : List String) (policy : Option Resolution) (table : String) (timing : Timing)
    (event : Event) (changed : List String) (env : Env) : Nat → Exec Bool
  | 0 => Exec.fail (.logic "too many levels of trigger recursion")
  | fuel + 1 => do
    let triggers := ((← get).triggersOn table timing event changed).filter fun tr =>
      !active.any (sameName tr.name)
    for tr in triggers do
      let proceed ← tryCatch (do
          if ← holdsUnder env tr.condition then
            for s in tr.body do
              runStep (active ++ [tr.name]) policy env s fuel
          pure true)
        fun
          | .raise .ignore _ => pure false
          | .raise kind msg => throw (.error { code := 1811, detail := msg, undo := kind.undoing })
          | other => throw other
      if !proceed then return false
    pure true

/-- Runs a statement of a trigger's program, under the conflict clause of the statement that
fired the trigger when it has one. -/
def runStep (active : List String) (policy : Option Resolution) (outer : Env) (s : Statement) :
    Nat → Exec Unit
  | 0 => Exec.fail (.logic "too many levels of trigger recursion")
  | fuel + 1 =>
    match s with
    | .select q => do let _ ← Exec.ofEval ((← get).query true outer q)
    | .insert conflict table columns rows upsert =>
      insertRows active (policy.orElse fun _ => conflict) outer table columns rows upsert fuel
    | .update conflict table sets filter =>
      updateRows active (policy.orElse fun _ => conflict) outer table sets filter fuel
    | .delete table filter => deleteRows active policy outer table filter fuel
    | _ => pure ()

/-- Inserts rows into a table, or passes them to the `INSTEAD OF` triggers of a view. -/
def insertRows (active : List String) (policy : Option Resolution) (outer : Env) (table : String)
    (columns : Option (List String)) (rows : InsertRows) (upsert : Option Upsert) :
    Nat → Exec Unit
  | 0 => Exec.fail (.logic "too many levels of trigger recursion")
  | fuel + 1 => do
    let db ← get
    let (name, shape, isView) ← Exec.ofResult (db.writeTarget false table .insert [])
    let targets := match columns with
      | some cs => cs.filterMap fun c => shape.findIdx? fun (n, _) => sameName n c
      | none => List.range shape.length
    let data : List (Eval (List Value)) ← match rows with
      | .values rs => pure (rs.map (evalAll outer))
      | .query q => do
        let (_, out) ← Exec.ofEval (db.query false outer q)
        pure (out.map pure)
      | .defaults => pure [pure []]
    for next in data do
      let values ← Exec.ofEval next
      if isView then
        let row := shape.zipIdx.map fun (_, i) => match targets.idxOf? i with
          | some k => cell values k
          | none => .null
        let _ ← fire active policy name .insteadOf .insert [] (triggerScope shape .insert row [])
          fuel
      else
        let some t := (← get).table? name | return
        insertOne active policy outer name (t.conform (t.fill targets values)) upsert fuel

/-- Inserts one row, its values complete and converted. -/
def insertOne (active : List String) (policy : Option Resolution) (outer : Env) (table : String)
    (row : List Value) (upsert : Option Upsert) : Nat → Exec Unit
  | 0 => Exec.fail (.logic "too many levels of trigger recursion")
  | fuel + 1 => do
    let conflict := policy.getD .abort
    let some t := (← get).table? table | return
    if !(← fire active policy t.name .before .insert [] (triggerScope t.shape .insert row [])
        fuel) then return
    let some t := (← get).table? table | return
    let some row ← Exec.ofResult (t.settleNulls conflict row) | return
    let db ← get
    -- an upsert handles a clash on its target first
    if let some u := upsert then
      let groups := if u.target.isEmpty then db.uniqueGroups t else (db.groupOf t u.target).toList
      match t.rows.find? (fun r => groups.any fun (g, _) => clash g row r.values) with
      | some existing =>
        if let some sets := u.updates then
          let env := t.bindings t.name existing.values ++ Env.hiddenRow "excluded" t.shape row ++
            outer
          if ← holdsUnder env u.filter then
            let updated ← applySets env t.shape sets existing.values
            updateOne active none t.name existing.id updated (sets.map (·.1)) fuel
        return
      | none => pure ()
    let id := t.nextRowId
    let some removed ← Exec.ofResult (db.settleClashes t conflict none row) | return
    let t := t.withoutRows removed
    set (db.putTable { t with rows := t.rows ++ [⟨id, row⟩] })
    let _ ← fire active policy t.name .after .insert [] (triggerScope t.shape .insert row []) fuel

/-- Updates one row of a table to new values, given the columns the statement sets. -/
def updateOne (active : List String) (policy : Option Resolution) (table : String) (id : Int)
    (newRow : List Value) (changed : List String) : Nat → Exec Unit
  | 0 => Exec.fail (.logic "too many levels of trigger recursion")
  | fuel + 1 => do
    let conflict := policy.getD .abort
    let some t := (← get).table? table | return
    let some old := t.row? id | return
    if !(← fire active policy t.name .before .update changed
        (triggerScope t.shape .update newRow old.values) fuel) then return
    let some t := (← get).table? table | return
    let some current := t.row? id | return
    -- a trigger may have changed the columns the statement does not set
    let setIdx := changed.filterMap t.columnIndex?
    let row := (List.range t.columns.length).map fun i =>
      if setIdx.contains i then cell newRow i else cell current.values i
    let some row ← Exec.ofResult (t.settleNulls conflict row) | return
    let db ← get
    let some removed ← Exec.ofResult (db.settleClashes t conflict (some id) row) | return
    set (db.putTable ((t.withoutRows removed).withRow ⟨id, row⟩))
    let _ ← fire active policy t.name .after .update changed
      (triggerScope t.shape .update row old.values) fuel

/-- Updates the rows of a table that meet a condition, or passes them to the `INSTEAD OF`
triggers of a view. -/
def updateRows (active : List String) (policy : Option Resolution) (outer : Env) (table : String)
    (sets : List (String × Expr)) (filter : Option Expr) : Nat → Exec Unit
  | 0 => Exec.fail (.logic "too many levels of trigger recursion")
  | fuel + 1 => do
    let db ← get
    let changed := sets.map (·.1)
    let (name, shape, isView) ← Exec.ofResult (db.writeTarget false table .update changed)
    if isView then
      let (_, rows) ← Exec.ofEval (db.query false [] { columns := [.all], source := some name })
      let picked ← pickRows name shape outer filter (rows.map fun r => (0, r))
      for (_, values) in picked do
        let env := Env.ofRow name shape values ++ outer
        let updated ← applySets env shape sets values
        let _ ← fire active policy name .insteadOf .update changed
          (triggerScope shape .update updated values) fuel
    else
      let some t := db.table? name | return
      let picked ← pickRows name shape outer filter (t.rows.map fun r => (r.id, r.values))
      for (id, _) in picked do
        let some t := (← get).table? name | return
        let some r := t.row? id | continue
        let env := t.bindings t.name r.values ++ outer
        let updated ← applySets env shape sets r.values
        updateOne active policy t.name id updated changed fuel

/-- Removes the rows of a table that meet a condition, or passes them to the `INSTEAD OF`
triggers of a view. -/
def deleteRows (active : List String) (policy : Option Resolution) (outer : Env) (table : String)
    (filter : Option Expr) : Nat → Exec Unit
  | 0 => Exec.fail (.logic "too many levels of trigger recursion")
  | fuel + 1 => do
    let db ← get
    let (name, shape, isView) ← Exec.ofResult (db.writeTarget false table .delete [])
    if isView then
      let (_, rows) ← Exec.ofEval (db.query false [] { columns := [.all], source := some name })
      let picked ← pickRows name shape outer filter (rows.map fun r => (0, r))
      for (_, values) in picked do
        let _ ← fire active policy name .insteadOf .delete [] (triggerScope shape .delete [] values)
          fuel
    else
      let some t := db.table? name | return
      let picked ← pickRows name shape outer filter (t.rows.map fun r => (r.id, r.values))
      for (id, _) in picked do
        deleteOne active policy name id fuel

/-- Removes one row of a table. -/
def deleteOne (active : List String) (policy : Option Resolution) (table : String) (id : Int) :
    Nat → Exec Unit
  | 0 => Exec.fail (.logic "too many levels of trigger recursion")
  | fuel + 1 => do
    let some t := (← get).table? table | return
    let some r := t.row? id | return
    let env := triggerScope t.shape .delete [] r.values
    if !(← fire active policy t.name .before .delete [] env fuel) then return
    let some t := (← get).table? table | return
    if (t.row? id).isNone then return
    modify fun db => db.putTable (t.withoutRows [id])
    let _ ← fire active policy t.name .after .delete [] env fuel

end

end AclReconcile.Sql
