import AclReconcile.Sql.Write
import AclReconcile.Sql.Schema
import AclReconcile.Sql.Parse

/-!
# Running statements

A statement runs on a database and gives its rows (a query) or nothing, or fails. A write is
prepared first; when it then fails, what it changed is undone unless its error says to keep the
changes (`FAIL`). A schema statement changes the schema or fails without a change.

A session runs statements one after another on one connection, with the transaction it may have
begun: `BEGIN` keeps the database as it was, `COMMIT` keeps the changes and `ROLLBACK` goes
back; an error whose resolution is `ROLLBACK` also goes back and ends the transaction. Text of
several statements runs them in order up to the first failure, each statement taking one step
(a query computes its first row only); a transaction still open when the text ends is rolled
back, since its connection closes.
-/

namespace AclReconcile.Sql

namespace Database

/-- The database after a write that ran from `db`, with the write's error: a failure keeps the
changes before it only when its resolution is `FAIL`. -/
def settleWrite (db : Database) : EStateM.Result Stop Database Unit →
    Database × Except SqlError (List (List Value))
  | .ok _ after => (after, .ok [])
  | .error (.error e) after => (if e.undo == .fail then after else db, .error e)
  | .error (.raise _ _) _ => (db, .error raiseOutside)

/-- Runs one statement: the database after it and the rows it gives, or its error. With
`stepOnce` a query computes its first row only, as a statement run without reading its rows
does. -/
def execute (db : Database) (s : Statement) (stepOnce : Bool := false) :
    Database × Except SqlError (List (List Value)) :=
  let fuel := db.triggerFuel
  match s with
  | .select q =>
    if q.raises then (db, .error raiseOutside)
    else match db.query false [] q stepOnce with
      | .ok (_, rows) => (db, .ok rows)
      | .error (.error e) => (db, .error e)
      | .error (.raise _ _) => (db, .error raiseOutside)
  | .insert conflict table columns rows upsert =>
    match db.checkInsert [] false [] table columns rows upsert fuel with
    | .error e => (db, .error e)
    | .ok () => db.settleWrite ((insertRows [] conflict [] table columns rows upsert fuel).run db)
  | .update conflict table sets filter =>
    match db.checkUpdate [] false [] table sets filter fuel with
    | .error e => (db, .error e)
    | .ok () => db.settleWrite ((updateRows [] conflict [] table sets filter fuel).run db)
  | .delete table filter =>
    match db.checkDelete [] false [] table filter fuel with
    | .error e => (db, .error e)
    | .ok () => db.settleWrite ((deleteRows [] none [] table filter fuel).run db)
  | other =>
    match db.alter other with
    | .ok after => (after, .ok [])
    | .error e => (db, .error e)

/-- The checks a statement passes before it runs: its tables, columns and functions. -/
def prepare (db : Database) : Statement → SqlResult Unit
  | .select q =>
    if q.raises then .error raiseOutside
    else (db.checkQuery false [] q db.viewDepth).map fun _ => ()
  | .insert _ table columns rows upsert =>
    db.checkInsert [] false [] table columns rows upsert db.triggerFuel
  | .update _ table sets filter => db.checkUpdate [] false [] table sets filter db.triggerFuel
  | .delete table filter => db.checkDelete [] false [] table filter db.triggerFuel
  | _ => .ok ()

/-- Runs statements in order up to the first failure: the database after them, with the
failure. -/
def runAll (db : Database) : List Statement → Database × Option SqlError
  | [] => (db, none)
  | s :: rest =>
    match db.execute s with
    | (after, .ok _) => after.runAll rest
    | (after, .error e) => (after, some e)

end Database

/-- A connection's database with the database as it was when its open transaction began. -/
structure Session where
  db : Database
  begun : Option Database := none

namespace Session

/-- The database a session leaves when its connection closes: an open transaction is rolled
back. -/
def closed (s : Session) : Database := s.begun.getD s.db

/-- Runs one statement in a session. -/
def step (s : Session) : Statement → Session × Option SqlError
  | .begin =>
    if s.begun.isSome then (s, some (.logic "cannot start a transaction within a transaction"))
    else ({ s with begun := some s.db }, none)
  | .commit =>
    if s.begun.isNone then (s, some (.logic "cannot commit - no transaction is active"))
    else ({ s with begun := none }, none)
  | .rollback =>
    match s.begun with
    | none => (s, some (.logic "cannot rollback - no transaction is active"))
    | some saved => ({ db := saved }, none)
  | other =>
    match s.db.execute other true with
    | (db, .ok _) => ({ s with db }, none)
    | (db, .error e) =>
      if e.undo == .rollback then ({ db := s.begun.getD db }, some e)
      else ({ s with db }, some e)

/-- The greatest parameter number of a statement and the names of its numbers, from its
parameters in order: `?` takes the next number, `?N` the number N (named `?N` when the number
has no name yet), and `:name`, `@name` or `$name` the number of the same name before it or the
next number. -/
def numberParameters : List String → Nat → List (Nat × String) → SqlResult (Nat × List (Nat × String))
  | [], n, names => .ok (n, names)
  | p :: ps, n, names =>
    match p.toList with
    | ['?'] => numberParameters ps (n + 1) names
    | '?' :: ds =>
      let (x, code) := readInt64 ds
      if code != 0 || x < 1 || x > 32766 then
        .error (.logic "variable number must be between ?1 and ?32766")
      else if x.toNat > n then numberParameters ps x.toNat (names ++ [(x.toNat, p)])
      else if names.any (·.1 == x.toNat) then numberParameters ps n names
      else numberParameters ps n (names ++ [(x.toNat, p)])
    | _ =>
      if names.any (·.2 == p) then numberParameters ps n names
      else numberParameters ps (n + 1) (names ++ [(n + 1, p)])

/-- The failure of binding a statement's parameters when no values are given: the first
parameter is missing, reported by its name without its mark or, when it has none, by its
number. -/
def missingParameter (params : List String) : SqlResult Unit := do
  let (count, names) ← numberParameters params 0 []
  if count == 0 then return
  match names.find? (·.1 == 1) with
  | some (_, name) =>
    throw { code := 1, detail := "missing named argument " ++ Text.quote (name.drop 1).toString,
            outside := true }
  | none => throw { code := 1, detail := "missing argument with index 1", outside := true }

/-- Runs the statements of some tokens one at a time up to the first failure, a statement that
does not read included; `fuel` bounds the number of statements. A statement with parameters
fails after its checks, since no values are given for them. -/
def runTokens (s : Session) (ts : List Token) : Nat → Session × Option SqlError
  | 0 => (s, none)
  | fuel + 1 =>
    match nextStatement ts (ts.length + 1) with
    | .error e => (s, some e)
    | .ok none => (s, none)
    | .ok (some (st, rest)) =>
      let params := ((ts.take (ts.length - rest.length)).filter (·.kind == .parameter)).map (·.raw)
      let bound : SqlResult Unit :=
        if params.isEmpty then .ok () else do
          s.db.prepare st
          missingParameter params
      match bound with
      | .error e => (s, some e)
      | .ok () =>
      match s.step st with
      | (after, some e) => (after, some e)
      | (after, none) => after.runTokens rest fuel

end Session

/-- Runs SQL text on a database through a connection of its own, up to the first failure: the
database when the connection closes, with the failure. -/
def Database.runText (db : Database) (text : String) : Database × Option SqlError :=
  let ts := tokens text
  let (s, failure) := Session.runTokens { db } ts (ts.length + 1)
  (s.closed, failure)

end AclReconcile.Sql
