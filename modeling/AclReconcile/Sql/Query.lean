import AclReconcile.Sql.Database

/-!
# Queries

A query reads one source: a table, a view (whose own query is read in turn), or nothing at all,
which gives one empty row. The rows of the source that meet the condition become result rows,
one result column each: every column of the source for `*`, or the value of an expression.
The rows are then ordered (nulls first, each key ascending or descending), made distinct when
asked, and cut by the limit and offset.

A query is checked before it is read, the way the engine prepares it: the source must exist,
then the result columns, the condition, the order and the limit must name only what they can
see, in that order. Inside the schema (the query of a view, the program of a trigger) a missing
table is named with the schema it was looked for in, `main`.

The columns of a query's result are named as the engine names them: the name given with `AS`,
the column's own name for a column, and otherwise the text of the expression; a name already
taken gets `:1`, `:2`, ... appended. A view's column keeps the affinity of the column it reads.
-/

namespace AclReconcile.Sql

/-- The name a missing table is reported under: qualified with the schema inside the schema. -/
def tableText (inSchema : Bool) (name : String) : String :=
  if inSchema then "main." ++ name else name

/-- Whether a name is taken among names. -/
def nameTaken (names : List String) (n : String) : Bool := names.any (sameName n)

/-- A name with a trailing `:digits` removed. -/
def withoutCounter (n : String) : String :=
  let cs := n.toList.reverse
  let digits := cs.takeWhile isDecimalDigit
  match cs.drop digits.length with
  | ':' :: rest => if rest.isEmpty then n else String.ofList rest.reverse
  | _ => n

/-- A name made different from names already taken by appending `:1`, `:2`, ...; `fuel`
bounds the attempts. -/
def freshName (taken : List String) (n : String) : Nat → Nat → String
  | 0, _ => n
  | fuel + 1, k =>
    if !nameTaken taken n then n
    else freshName taken (withoutCounter n ++ ":" ++ toString (k + 1)) fuel (k + 1)

/-- Names made unique, each in turn against those before it. -/
def uniqueNames (names : List String) : List String :=
  names.foldl (fun acc n => acc ++ [freshName acc n (acc.length + 1) 0]) []

/-- The name of a result column computed by an expression, before names are made unique. -/
def resultName (env : Env) (e : Expr) (label : Option String) (text : String) : String :=
  match label with
  | some l => l
  | none => match e with
    | .column q n => match env.lookup q n with
      | .ok b => b.name
      | .error _ => n
    | .quoted n => match env.lookup none n with
      | .ok b => b.name
      | .error _ => text
    | _ =>
      if sameName text "true" || sameName text "false" then "" else text

/-- The ordinal words of positions, as the engine writes them in messages. -/
def ordinal (n : Nat) : String :=
  let suffix :=
    if n % 100 ≥ 11 && n % 100 ≤ 13 then "th"
    else match n % 10 with
      | 1 => "st"
      | 2 => "nd"
      | 3 => "rd"
      | _ => "th"
  toString n ++ suffix

/-- A source being read: the name it goes by in the query, and its columns with their
affinities. -/
structure Shape where
  label : String
  columns : List (String × Option Affinity)
  deriving Inhabited

/-- The bindings of a row of a source, before the bindings the query sees from outside. -/
def Shape.bindings (s : Shape) (outer : Env) (row : List Value) : Env :=
  Env.ofRow s.label s.columns row ++ outer

/-- What a query's `ORDER BY` term stands for: a result column by position, or an
expression. -/
inductive OrderKey where
  | result (i : Nat)
  | expr (e : Expr)
  deriving Inhabited

/-- The result columns of a query over a shape, with their names and affinities: the columns of
the source for `*`, and each expression's own otherwise. -/
def resultShape (s : Shape) (outer : Env) (cols : List ResultColumn) :
    List (String × Option Affinity) :=
  let env := s.bindings outer []
  let raw := cols.flatMap fun
    | .all | .allOf _ => s.columns
    | .expr e label text => [(resultName env e label text, exprAffinity env e)]
  let named := raw.zipIdx.map fun ((n, a), i) =>
    (if n.isEmpty then "column" ++ toString (i + 1) else n, a)
  (uniqueNames (named.map (·.1))).zip (named.map (·.2))

/-- What an `ORDER BY` term stands for: a whole number is the result column at that position,
a name given to a result column with `AS` is that column, anything else is an expression. -/
def orderKey (cols : List ResultColumn) (resultCount : Nat) (index : Nat) (t : OrderTerm) :
    SqlResult OrderKey :=
  match t.key with
  | .lit (.integer k) =>
    if k ≥ 1 && k ≤ resultCount then .ok (.result (k.toNat - 1))
    else .error (.logic (ordinal (index + 1) ++ " ORDER BY term out of range - should be between 1 and " ++
      toString resultCount))
  | .column none n =>
    match cols.findIdx? (fun
        | .expr _ (some l) _ => sameName l n
        | _ => false) with
    | some i => .ok (.result i)
    | none => .ok (.expr t.key)
  | e => .ok (.expr e)

/-- Checks an expression that sees no columns, such as a limit. -/
def checkClosed (e : Option Expr) : SqlResult Unit := checkEach { env := [] } e.toList

/-- Checks the result columns, condition, order and limit of a query over a source of a
shape. -/
def checkClauses (s : Shape) (hasSource : Bool) (outer : Env) (q : Select) : SqlResult Unit := do
  let env := s.bindings outer []
  for c in q.columns do
    match c with
    | .all => if !hasSource then throw (.logic "no tables specified")
    | .allOf t =>
      if !hasSource || !sameName t s.label then throw (.logic ("no such table: " ++ t))
    | .expr e _ _ => checkEach { env, aggregates := true } [e]
  checkEach { env } q.filter.toList
  let count := (resultShape s outer q.columns).length
  for (t, i) in q.orderBy.zipIdx do
    match ← orderKey q.columns count i t with
    | .result _ => pure ()
    | .expr e => checkEach { env, aggregates := true } [e]
  checkClosed q.limit
  checkClosed q.offset

/-- The order of two result rows by their keys: nulls first, then as values compare, each key
ascending or descending. -/
def keysBefore (desc : List Bool) : List Value → List Value → Bool
  | a :: as, b :: bs =>
    let o := match a, b with
      | .null, .null => Ordering.eq
      | .null, _ => .lt
      | _, .null => .gt
      | x, y => (x.compare? y).getD .eq
    let o := if desc.headD false then o.swap else o
    match o with
    | .lt => true
    | .gt => false
    | .eq => keysBefore desc.tail as bs
  | _, _ => true

/-- The value of a limit or offset: a whole number; null when absent. -/
def countValue (e : Option Expr) : Eval (Option Int) :=
  match e with
  | none => pure none
  | some e => do
    match forComparison (some .numeric) (← eval [] e) with
    | .integer n => pure (some n)
    | _ => throw (.error (.make 20 "datatype mismatch"))

/-- The values of a row's result columns. -/
def resultValues (env : Env) (row : List Value) (columns : List ResultColumn) :
    Eval (List Value) :=
  columns.flatMapM fun
    | .all | .allOf _ => pure row
    | .expr e _ _ => do pure [← eval env e]

/-- Whether a limit has been reached by some number of result rows. -/
def limitReached (limit : Option Int) (count : Nat) : Bool :=
  match limit with
  | some n => n ≥ 0 && count ≥ n.toNat
  | none => false

/-- The result rows of a query over the rows of its source, computed in the order the engine
steps through them. The limit comes first, then the offset (a limit of zero reads nothing, not
even the offset). Then row by row: the condition, and for a row where it holds the result
columns and the sort keys. A distinct query passes over a row equal to one before it.

Without an order, a row the offset passes over is not computed (unless the query is distinct,
whose rows are compared first), and the rows stop at the limit. With an order, every row is
computed and sorted first. With `firstOnly` the rows stop at the first result: a statement run
without reading its rows takes one step, which computes no further. -/
def evalClauses (s : Shape) (outer : Env) (q : Select) (rows : List (List Value))
    (firstOnly : Bool := false) : Eval (List (List Value)) := do
  let limit ← countValue q.limit
  if limit == some 0 then return []
  let offset := ((← countValue q.offset).getD 0).toNat
  let count := (resultShape s outer q.columns).length
  let keys ← Eval.ofResult (q.orderBy.zipIdx.mapM fun (t, i) => orderKey q.columns count i t)
  let sorted := !keys.isEmpty
  let mut skip := offset
  let mut seen : List (List Value) := []
  let mut out : List (List Value) := []
  let mut pending : List (List Value × List Value) := []
  for row in rows do
    let env := s.bindings outer row
    if let some f := q.filter then
      if !(← eval env f).holds then continue
    if !sorted && !q.distinct && skip > 0 then
      skip := skip - 1
      continue
    let values ← resultValues env row q.columns
    if q.distinct then
      if seen.contains values then continue
      seen := seen ++ [values]
    if sorted then
      let sortKeys ← keys.mapM fun
        | .result i => pure (cell values i)
        | .expr e => eval env e
      pending := pending ++ [(values, sortKeys)]
    else
      if skip > 0 then
        skip := skip - 1
        continue
      out := out ++ [values]
      if firstOnly || limitReached limit out.length then break
  if !sorted then return out
  let desc := q.orderBy.map (·.descending)
  let ordered := (pending.mergeSort fun a b => keysBefore desc a.2 b.2).map (·.1)
  let ordered := ordered.drop offset
  match limit with
  | some n => if n < 0 then pure ordered else pure (ordered.take n.toNat)
  | none => pure ordered

namespace Database

/-- The result columns of a query, after checking it; `fuel` bounds the depth of views read
through views. -/
def checkQuery (db : Database) (inSchema : Bool) (outer : Env) (q : Select) :
    Nat → SqlResult (List (String × Option Affinity))
  | 0 => .error (.logic "too many levels of views")
  | fuel + 1 => do
    let s ← match q.source with
      | none => pure ({ label := "", columns := [] } : Shape)
      | some name =>
        match db.table? name, db.view? name with
        | some t, _ => pure { label := q.sourceLabel.getD t.name, columns := t.shape }
        | none, some v => do
          let cols ← db.checkQuery true [] v.query fuel
          let named := if v.columns.isEmpty then cols else v.columns.zip (cols.map (·.2))
          if !v.columns.isEmpty && v.columns.length != cols.length then
            throw (.logic ("expected " ++ toString v.columns.length ++ " columns for '" ++ v.name ++
              "' but got " ++ toString cols.length))
          pure { label := q.sourceLabel.getD v.name, columns := named }
        | none, none => throw (.logic ("no such table: " ++ tableText inSchema name))
    checkClauses s q.source.isSome outer q
    pure (resultShape s outer q.columns)

/-- The source a query reads and its rows; `fuel` bounds the depth of views read through
views. -/
def readSource (db : Database) (q : Select) : Nat → Eval (Shape × List (List Value))
  | 0 => throw (.error (.logic "too many levels of views"))
  | fuel + 1 =>
    match q.source with
    | none => pure ({ label := "", columns := [] }, [[]])
    | some name =>
      match db.table? name, db.view? name with
      | some t, _ =>
        pure ({ label := q.sourceLabel.getD t.name, columns := t.shape }, t.rows.map (·.values))
      | none, some v => do
        let cols ← Eval.ofResult (db.checkQuery true [] v.query (fuel + 1))
        let (inner, rows) ← db.readSource v.query fuel
        let out ← evalClauses inner [] v.query rows
        let named := if v.columns.isEmpty then cols else v.columns.zip (cols.map (·.2))
        pure ({ label := q.sourceLabel.getD v.name, columns := named }, out)
      | none, none => throw (.error (.logic ("no such table: " ++ name)))

/-- A bound on the depth of views read through views. -/
def viewDepth (db : Database) : Nat := db.views.length + 2

/-- The result columns and rows of a query, after checking it; bindings from outside (a
trigger's `NEW` and `OLD`) are seen after the source's columns. A query outside a trigger may
not use `RAISE`. With `firstOnly` the rows stop at the first result. -/
def query (db : Database) (inSchema : Bool) (outer : Env) (q : Select)
    (firstOnly : Bool := false) : Eval (List (String × Option Affinity) × List (List Value)) := do
  let cols ← Eval.ofResult (db.checkQuery inSchema outer q db.viewDepth)
  let (s, rows) ← db.readSource q db.viewDepth
  let out ← evalClauses s outer q rows firstOnly
  pure (cols, out)

end Database

/-- Whether a query calls `RAISE` anywhere in its clauses. -/
def Select.raises (q : Select) : Bool :=
  q.columns.any (fun
    | .expr e _ _ => e.raises
    | _ => false) ||
  Expr.optionRaises q.filter || q.orderBy.any (·.key.raises) || Expr.optionRaises q.limit ||
  Expr.optionRaises q.offset

end AclReconcile.Sql
