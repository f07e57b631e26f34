import AclReconcile.Sql.Token
import AclReconcile.Sql.Eval
import AclReconcile.Sql.Statement

/-!
# Reading SQL statements

Statements are read from tokens one at a time. Expressions are read by precedence, from the
loosest binding to the tightest: `OR`; `AND`; `NOT`; the comparisons of equality together with
`IS`, `IN`, `LIKE`, `GLOB`, `BETWEEN` and the null tests; the order comparisons; the bit
operators; `+` and `-`; `*`, `/` and `%`; `||`; `COLLATE`; the signs and `~`. Operators of one
level group to the left.

The statements understood are queries of one source, inserts (with a conflict clause, rows of
values or of a query, and an upsert), updates, deletes, the schema statements for tables,
indexes, views and triggers (whose programs hold queries and writes), the changes of a table
by `ALTER TABLE`, and the statements of transactions; statements that change nothing a
database here keeps (`PRAGMA`, `VACUUM`, ...) are read and pass.

A token that does not fit is reported as `near "token": syntax error`, an illegal token as
`unrecognized token: "token"`, and text that stops too early as `incomplete input`. Reserved
words cannot be names unless quoted.
-/

namespace AclReconcile.Sql

/-- A reader of tokens. -/
abbrev Parser := StateT (List Token) (Except SqlError)

namespace Parser

/-- The error at a token, or at the end of the text. -/
def failAt : Option Token → SqlError
  | some t =>
    if t.kind == .illegal then .logic ("unrecognized token: \"" ++ t.raw ++ "\"")
    else .logic ("near \"" ++ t.raw ++ "\": syntax error")
  | none => .logic "incomplete input"

/-- The next token, without taking it. -/
def peek : Parser (Option Token) := do pure (← get).head?

/-- The token after the next one, without taking either. -/
def peekSecond : Parser (Option Token) := do pure ((← get).drop 1).head?

/-- Fails at the next token. -/
def fail {α : Type} : Parser α := do throw (failAt (← peek))

/-- Takes the next token. -/
def next : Parser Token := do
  match ← get with
  | t :: rest => set rest; pure t
  | [] => throw (failAt none)

/-- Whether the next token is a given keyword. -/
def atWord (k : String) : Parser Bool := do
  match ← peek with
  | some t => pure (t.isWord k)
  | none => pure false

/-- Whether the next token is a given symbol. -/
def atSymbol (s : String) : Parser Bool := do
  match ← peek with
  | some t => pure (t.isSymbol s)
  | none => pure false

/-- Takes a keyword if it comes next. -/
def optWord (k : String) : Parser Bool := do
  if ← atWord k then let _ ← next; pure true else pure false

/-- Takes a symbol if it comes next. -/
def optSymbol (s : String) : Parser Bool := do
  if ← atSymbol s then let _ ← next; pure true else pure false

/-- Takes a keyword that must come next. -/
def word (k : String) : Parser Unit := do
  if ← atWord k then let _ ← next; pure () else fail

/-- Takes a symbol that must come next. -/
def symbol (s : String) : Parser Unit := do
  if ← atSymbol s then let _ ← next; pure () else fail

/-- The words that cannot be names unless quoted. -/
def reservedWords : List String :=
  ["add", "all", "alter", "and", "as", "autoincrement", "between", "case", "check", "collate",
   "commit", "constraint", "create", "default", "deferrable", "delete", "distinct", "drop",
   "else", "escape", "except", "exists", "foreign", "from", "group", "having", "in", "index",
   "insert", "intersect", "into", "is", "isnull", "join", "limit", "not", "nothing", "notnull",
   "null", "on", "or", "order", "primary", "references", "returning", "select", "set", "table",
   "then", "to", "transaction", "union", "unique", "update", "using", "values", "when", "where"]

/-- Whether a token is a reserved word. -/
def isReserved (t : Token) : Bool := t.kind == .word && reservedWords.any (sameName t.value)

/-- Whether a token can be a name: a word that is not reserved, a quoted name, or text. -/
def isName (t : Token) : Bool :=
  (t.kind == .word && !isReserved t) || t.kind == .quoted || t.kind == .text

/-- Takes a name. -/
def name : Parser String := do
  match ← peek with
  | some t => if isName t then do let _ ← next; pure t.value else fail
  | none => fail

/-- Takes the name of a table, after an optional schema name. -/
def tableName : Parser String := do
  let n ← name
  if ← optSymbol "." then name else pure n

/-- Takes `IF NOT EXISTS` if it comes next. -/
def ifNotExists : Parser Bool := do
  if ← optWord "if" then
    word "not"
    word "exists"
    pure true
  else pure false

/-- The number of tokens left, a bound on any repetition. -/
def left : Parser Nat := do pure (← get).length

/-- Repeats a reader after separators `sep`, at least once. -/
def sepBy {α : Type} (sep : String) (p : Parser α) : Parser (List α) := do
  let first ← p
  let rec more : Nat → Parser (List α)
    | 0 => pure []
    | k + 1 => do
      if ← optSymbol sep then
        let x ← p
        pure (x :: (← more k))
      else pure []
  pure (first :: (← more (← left)))

/-- A list of names in brackets. -/
def names : Parser (List String) := do
  symbol "("
  let ns ← sepBy "," name
  symbol ")"
  pure ns

/-- The value of a number token, negated when it follows a minus sign. A hexadecimal number is
its 64-bit pattern and may have at most sixteen significant digits; negating the smallest
integer that way is refused. A decimal number with a point or an exponent is real; one without
is an integer when it fits 64 bits (with its sign) and real otherwise. -/
def numberValue (negative : Bool) (t : Token) : Parser Value :=
  let sign : Int := if negative then -1 else 1
  match t.value.toList with
  | '0' :: x :: digits =>
    if x == 'x' || x == 'X' then
      let n := digits.foldl (fun n c => n * 16 + (hexValue? c).getD 0) 0
      let tooBig : Parser Value :=
        throw (.logic ("hex literal too big: " ++ (if negative then "-" else "") ++ t.value))
      if n ≥ Nat.pow 2 64 then tooBig
      else
        let v := signed64 n
        if negative && v == minInt then tooBig else pure (.integer (sign * v))
    else decimal
  | _ => decimal
where
  real : Value :=
    let r := (readReal t.value.toList).value
    .real (if negative then r.neg else r)
  decimal : Parser Value :=
    if t.value.any fun c => c == '.' || c == 'e' || c == 'E' then pure real
    else
      let (v, code) := readInt64 t.value.toList
      if (code == 3 && !negative) || code == 2 || (negative && v == minInt) then pure real
      else if code == 3 then pure (.integer minInt)
      else pure (.integer (if negative then -v else v))

/-- A type name: words, with an optional size in brackets. -/
def typeName : Parser String := do
  let rec typeWords : Nat → Parser (List String)
    | 0 => pure []
    | k + 1 => do
      match ← peek with
      | some t =>
        if (t.kind == .word && !isReserved t) || t.kind == .quoted then
          let _ ← next
          pure (t.value :: (← typeWords k))
        else pure []
      | none => pure []
  let ws ← typeWords (← left)
  if ← optSymbol "(" then
    let rec skip : Nat → Parser Unit
      | 0 => pure ()
      | k + 1 => do
        if ← atSymbol ")" then pure ()
        else let _ ← next; skip k
    skip (← left)
    symbol ")"
  pure (" ".intercalate ws)

/-- The kind of `RAISE` or conflict resolution a word names. -/
def resolutionOf (t : Token) : Option Resolution :=
  if t.isWord "rollback" then some .rollback
  else if t.isWord "abort" then some .abort
  else if t.isWord "fail" then some .fail
  else if t.isWord "ignore" then some .ignore
  else if t.isWord "replace" then some .replace
  else none

/-- The comparison or arithmetic operator a symbol stands for, with its level. -/
def symbolOperator (s : String) : Option (BinaryOp × Nat) :=
  match s with
  | "=" | "==" => some (.eq, 3)
  | "!=" | "<>" => some (.ne, 3)
  | "<" => some (.lt, 4)
  | "<=" => some (.le, 4)
  | ">" => some (.gt, 4)
  | ">=" => some (.ge, 4)
  | "&" => some (.bitAnd, 6)
  | "|" => some (.bitOr, 6)
  | "<<" => some (.shiftLeft, 6)
  | ">>" => some (.shiftRight, 6)
  | "+" => some (.add, 7)
  | "-" => some (.sub, 7)
  | "*" => some (.mul, 8)
  | "/" => some (.div, 8)
  | "%" => some (.rem, 8)
  | "||" => some (.concat, 9)
  | _ => none

/-- The words that follow `NOT` as an operator between two operands. -/
def negatableWords : List String := ["in", "like", "glob", "between", "null", "regexp", "match"]

mutual

/-- An expression whose operators bind at least as tightly as `level`; `fuel` bounds the
nesting, each level of which takes a token. -/
def expr : Nat → Nat → Parser Expr
  | 0, _ => fail
  | fuel + 1, level => do
    let mut lhs ← prefixed fuel
    for _ in List.range ((← left) + 1) do
      match ← peek with
      | none => break
      | some t =>
        if t.isWord "or" && level ≤ 0 then
          let _ ← next
          lhs := .binary .or lhs (← expr fuel 1)
        else if t.isWord "and" && level ≤ 1 then
          let _ ← next
          lhs := .binary .and lhs (← expr fuel 2)
        else if level ≤ 3 && (t.isWord "not" || t.isWord "is" || t.isWord "in" ||
            t.isWord "like" || t.isWord "glob" || t.isWord "between" || t.isWord "isnull" ||
            t.isWord "notnull" || t.isWord "regexp" || t.isWord "match") then
          -- after an operand, `NOT` can only start a negated operator
          let negated ← if t.isWord "not" then do
              let _ ← next
              match ← peek with
              | some u => if negatableWords.any u.isWord then pure true else fail
              | none => fail
            else pure false
          let op ← next
          if op.isWord "is" then
            let isNot ← optWord "not"
            if ← optWord "distinct" then
              word "from"
              let rhs ← expr fuel 4
              lhs := .binary (if isNot then .is else .isNot) lhs rhs
            else
              let rhs ← expr fuel 4
              lhs := .binary (if isNot then .isNot else .is) lhs rhs
          else if op.isWord "isnull" then lhs := .isNull lhs false
          else if op.isWord "notnull" then lhs := .isNull lhs true
          else if op.isWord "null" then lhs := .isNull lhs true
          else if op.isWord "in" then
            symbol "("
            let items ← if ← atSymbol ")" then pure [] else exprList fuel
            symbol ")"
            lhs := .inList lhs items negated
          else if op.isWord "between" then
            let low ← expr fuel 4
            word "and"
            let high ← expr fuel 4
            lhs := .between lhs low high negated
          else if op.isWord "glob" then
            let pattern ← expr fuel 4
            lhs := .glob lhs pattern negated
          else if op.isWord "like" then
            let pattern ← expr fuel 4
            let escape ← if ← optWord "escape" then some <$> expr fuel 6 else pure none
            lhs := .like lhs pattern escape negated
          else throw (.logic ("no such function: " ++ op.value.toUpper))
        else if t.isWord "collate" then
          let _ ← next
          let _ ← name
        else if t.kind == .symbol then
          match symbolOperator t.value with
          | some (op, opLevel) =>
            if opLevel ≥ level then
              let _ ← next
              lhs := .binary op lhs (← expr fuel (opLevel + 1))
            else break
          | none => break
        else break
    pure lhs

/-- An operand with its prefix operators: `NOT`, the signs and `~`. -/
def prefixed : Nat → Parser Expr
  | 0 => fail
  | fuel + 1 => do
    match ← peek with
    | some t =>
      if t.isWord "not" then
        let _ ← next
        pure (.unary .not (← expr fuel 2))
      else if t.isSymbol "-" || t.isSymbol "+" || t.isSymbol "~" then
        let _ ← next
        let op := if t.isSymbol "-" then UnaryOp.negate
          else if t.isSymbol "+" then .plus else .bitNot
        match ← peek with
        | some n =>
          if n.kind == .number && op == .negate then
            let _ ← next
            pure (.lit (← numberValue true n))
          else pure (.unary op (← expr fuel 11))
        | none => fail
      else primary fuel
    | none => fail

/-- A literal, a column, a call, a bracketed expression, `CAST`, `CASE` or `RAISE`. -/
def primary : Nat → Parser Expr
  | 0 => fail
  | fuel + 1 => do
    let t ← next
    match t.kind with
    | .number => pure (.lit (← numberValue false t))
    | .text => pure (.lit (.text t.value))
    | .bytes => pure (.lit (.blob t.bytes))
    | .parameter => pure (.lit .null)
    | .quoted =>
      if ← optSymbol "." then pure (.column (some t.value) (← name)) else pure (.quoted t.value)
    | .symbol =>
      if t.value == "(" then
        let e ← expr fuel 0
        symbol ")"
        pure e
      else throw (failAt (some t))
    | .word =>
      if t.isWord "null" then pure (.lit .null)
      else if t.isWord "true" then pure (.lit (.integer 1))
      else if t.isWord "false" then pure (.lit (.integer 0))
      else if t.isWord "current_time" || t.isWord "current_date" ||
          t.isWord "current_timestamp" then pure (.call t.value [] false)
      else if t.isWord "cast" then
        symbol "("
        let e ← expr fuel 0
        word "as"
        let ty ← typeName
        symbol ")"
        pure (.cast e ty)
      else if t.isWord "case" then
        let base ← if ← atWord "when" then pure none else some <$> expr fuel 0
        let arms ← whenArms fuel
        if arms.isEmpty then fail
        let otherwise ← if ← optWord "else" then some <$> expr fuel 0 else pure none
        word "end"
        pure (.caseOf base arms otherwise)
      else if t.isWord "raise" then
        symbol "("
        let k ← next
        match resolutionOf k with
        | some .ignore =>
          symbol ")"
          pure (.raise .ignore (.lit .null))
        | some .replace => throw (failAt (some k))
        | some kind =>
          symbol ","
          let m ← expr fuel 0
          symbol ")"
          pure (.raise kind m)
        | none => throw (failAt (some k))
      else if isReserved t then throw (failAt (some t))
      else if ← atSymbol "(" then
        let _ ← next
        if ← optSymbol "*" then
          symbol ")"
          pure (.call t.value [] true)
        else if ← optSymbol ")" then pure (.call t.value [] false)
        else
          let _ ← optWord "distinct" <||> optWord "all"
          let args ← exprList fuel
          symbol ")"
          pure (.call t.value args false)
      else if ← optSymbol "." then
        let second ← name
        if ← optSymbol "." then pure (.column (some second) (← name))
        else pure (.column (some t.value) second)
      else pure (.column none t.value)
    | _ => throw (failAt (some t))

/-- Expressions separated by commas, at least one. -/
def exprList : Nat → Parser (List Expr)
  | 0 => fail
  | fuel + 1 => do
    let first ← expr fuel 0
    let mut items := [first]
    for _ in List.range ((← left) + 1) do
      if ← optSymbol "," then items := items ++ [← expr fuel 0] else break
    pure items

/-- The `WHEN ... THEN ...` arms of `CASE`, as one flat list. -/
def whenArms : Nat → Parser (List Expr)
  | 0 => fail
  | fuel + 1 => do
    let mut arms := []
    for _ in List.range ((← left) + 1) do
      if ← optWord "when" then
        let test ← expr fuel 0
        word "then"
        let result ← expr fuel 0
        arms := arms ++ [test, result]
      else break
    pure arms

end

/-- A bound on the nesting of an expression over some tokens: every level of nesting takes a
token and at most four steps (an operand in brackets, a call's arguments, the arms of `CASE`). -/
def nestingFuel (tokens : Nat) : Nat := 4 * (tokens + 2)

/-- An expression, read to its end. -/
def expression : Parser Expr := do expr (nestingFuel (← left)) 0

/-- Expressions separated by commas. -/
def expressions : Parser (List Expr) := do exprList (nestingFuel (← left))

/-- An optional `WHERE` clause. -/
def whereClause : Parser (Option Expr) := do
  if ← optWord "where" then some <$> expression else pure none

/-- An alias: `AS name`, or a name that is not a keyword. -/
def alias? : Parser (Option String) := do
  if ← optWord "as" then some <$> name
  else match ← peek with
    | some t => if isName t then do let _ ← next; pure (some t.value) else pure none
    | none => pure none

/-- A result column of a query. -/
def resultColumn : Parser ResultColumn := do
  if ← optSymbol "*" then return .all
  match ← peek, ← peekSecond with
  | some t, some d =>
    if isName t && d.isSymbol "." && (((← get).drop 2).head?.map (·.isSymbol "*")).getD false then
      let _ ← next
      let _ ← next
      let _ ← next
      return .allOf t.value
  | _, _ => pure ()
  let before ← get
  let e ← expression
  let after ← get
  let text := spanText (before.take (before.length - after.length))
  let label ← alias?
  pure (.expr e label text)

/-- A term of `ORDER BY`. -/
def orderTerm : Parser OrderTerm := do
  let e ← expression
  if ← optWord "collate" then let _ ← name
  let descending ← if ← optWord "desc" then pure true else do let _ ← optWord "asc"; pure false
  if ← optWord "nulls" then
    let _ ← optWord "first" <||> optWord "last"
  pure ⟨e, descending⟩

/-- A query, after the word `SELECT`. -/
def select : Parser Select := do
  let distinct ← optWord "distinct"
  if !distinct then let _ ← optWord "all"
  let columns ← sepBy "," resultColumn
  let (source, sourceLabel) ← if ← optWord "from" then do
      let n ← tableName
      let label ← alias?
      pure (some n, label)
    else pure (none, none)
  let filter ← whereClause
  if ← optWord "group" then
    word "by"
    let _ ← expressions
    if ← optWord "having" then let _ ← expression
  let orderBy ← if ← optWord "order" then do word "by"; sepBy "," orderTerm else pure []
  let (limit, offset) ← if ← optWord "limit" then do
      let a ← expression
      if ← optWord "offset" then pure (some a, some (← expression))
      else if ← optSymbol "," then pure (some (← expression), some a)
      else pure (some a, none)
    else pure (none, none)
  pure { columns, source, sourceLabel, filter, orderBy, limit, offset, distinct }

/-- The settings of an update: `name = expression`, separated by commas. -/
def settings : Parser (List (String × Expr)) :=
  sepBy "," do
    let c ← name
    symbol "="
    pure (c, ← expression)

/-- An optional conflict clause `OR resolution`. -/
def conflictClause : Parser (Option Resolution) := do
  if ← optWord "or" then
    let t ← next
    match resolutionOf t with
    | some r => pure (some r)
    | none => throw (failAt (some t))
  else pure none

/-- Reads a `RETURNING` clause if one comes next: the rows it would give are not kept, since
a statement run on its own reads no rows. -/
def skipReturning : Parser Unit := do
  if ← optWord "returning" then let _ ← sepBy "," resultColumn

/-- An insert, after `INSERT [OR ...]` or `REPLACE`. -/
def insert (conflict : Option Resolution) : Parser Statement := do
  word "into"
  let table ← tableName
  if ← optWord "as" then let _ ← name
  let cols ← if ← atSymbol "(" then some <$> names else pure none
  let rows ← if ← optWord "values" then do
      let tuple : Parser (List Expr) := do
        symbol "("
        let vs ← expressions
        symbol ")"
        pure vs
      let rs ← sepBy "," tuple
      if rs.any (·.length != (rs.headD []).length) then
        throw (.logic "all VALUES must have the same number of terms")
      pure (InsertRows.values rs)
    else if ← optWord "select" then InsertRows.query <$> select
    else if ← optWord "default" then do word "values"; pure InsertRows.defaults
    else fail
  let upsert ← if ← optWord "on" then do
      word "conflict"
      let (target, _) ← if ← atSymbol "(" then do
          let ns ← names
          pure (ns, ← whereClause)
        else pure ([], none)
      word "do"
      if ← optWord "nothing" then pure (some { target, updates := none : Upsert })
      else
        word "update"
        word "set"
        let sets ← settings
        let filter ← whereClause
        pure (some { target, updates := some sets, filter })
    else pure none
  skipReturning
  pure (.insert conflict table cols rows upsert)

/-- An update, after the word `UPDATE`. -/
def update : Parser Statement := do
  let conflict ← conflictClause
  let table ← tableName
  if ← optWord "as" then let _ ← name
  word "set"
  let sets ← settings
  let filter ← whereClause
  skipReturning
  pure (.update conflict table sets filter)

/-- A delete, after the word `DELETE`. -/
def delete : Parser Statement := do
  word "from"
  let table ← tableName
  if ← optWord "as" then let _ ← name
  let filter ← whereClause
  skipReturning
  pure (.delete table filter)

/-- A query or write, as a statement of its own or of a trigger's program. -/
def write : Parser Statement := do
  let t ← next
  if t.isWord "select" then Statement.select <$> select
  else if t.isWord "insert" then do insert (← conflictClause)
  else if t.isWord "replace" then insert (some .replace)
  else if t.isWord "update" then update
  else if t.isWord "delete" then delete
  else throw (failAt (some t))

/-- Skips tokens up to the end of the statement, keeping brackets balanced. -/
def skipRest : Nat → Nat → Parser Unit
  | 0, _ => pure ()
  | fuel + 1, depth => do
    match ← peek with
    | none => pure ()
    | some t =>
      if t.isSymbol ";" && depth == 0 then pure ()
      else
        let _ ← next
        if t.isSymbol "(" then skipRest fuel (depth + 1)
        else if t.isSymbol ")" then skipRest fuel (depth - 1)
        else skipRest fuel depth

/-- A literal term of a default: a number, text, bytes, `NULL`, a truth value or a time. -/
def term (t : Token) : Parser Expr :=
  match t.kind with
  | .number => do pure (.lit (← numberValue false t))
  | .text => pure (.lit (.text t.value))
  | .bytes => pure (.lit (.blob t.bytes))
  | .word =>
    if t.isWord "null" then pure (.lit .null)
    else if t.isWord "current_time" || t.isWord "current_date" || t.isWord "current_timestamp"
    then pure (.call t.value [] false)
    else throw (failAt (some t))
  | _ => throw (failAt (some t))

/-- A column's default: a term, a signed term, a name (read as text, `TRUE` and `FALSE` as
truth values) or an expression in brackets, evaluated with no columns. -/
def constant : Parser Value := do
  let t ← next
  let e ← if t.isSymbol "(" then do
      let e ← expression
      symbol ")"
      pure e
    else if t.isSymbol "-" || t.isSymbol "+" then do
      let n ← next
      if n.kind == .number then pure (Expr.lit (← numberValue (t.isSymbol "-") n))
      else
        let v ← term n
        pure (if t.isSymbol "-" then .unary .negate v else v)
    else if t.isWord "true" then pure (.lit (.integer 1))
    else if t.isWord "false" then pure (.lit (.integer 0))
    else if t.kind == .word && !isReserved t && !(t.isWord "current_time") &&
        !(t.isWord "current_date") && !(t.isWord "current_timestamp") then
      pure (.lit (.text t.value))
    else term t
  match eval [] e with
  | .ok v => pure v
  | .error _ => pure .null

/-- The words that end a column's type and start a constraint. -/
def constraintWords : List String :=
  ["constraint", "primary", "not", "null", "unique", "default", "check", "references", "collate",
   "generated", "as"]

/-- A column definition: a name, an optional type and constraints. -/
def columnDef : Parser Column := do
  let n ← name
  let declared ← typeName
  let rec constraints : Nat → Column → Parser Column
    | 0, c => pure c
    | k + 1, c => do
      if ← optWord "constraint" then let _ ← name
      if ← optWord "primary" then
        word "key"
        let _ ← optWord "asc" <||> optWord "desc"
        let _ ← conflictOn
        let _ ← optWord "autoincrement"
        constraints k { c with primary := true }
      else if ← optWord "not" then
        word "null"
        let _ ← conflictOn
        constraints k { c with notNull := true }
      else if ← optWord "null" then constraints k c
      else if ← optWord "unique" then
        let _ ← conflictOn
        constraints k { c with unique := true }
      else if ← optWord "default" then constraints k { c with default := ← constant }
      else if ← optWord "collate" then let _ ← name; constraints k c
      else if ← optWord "check" then
        symbol "("
        let _ ← expression
        symbol ")"
        constraints k c
      else if ← optWord "references" then
        let _ ← name
        if ← atSymbol "(" then let _ ← names
        skipTail (← left)
        constraints k c
      else if (← atWord "generated") || (← atWord "as") then
        if ← optWord "generated" then word "always"
        word "as"
        symbol "("
        let _ ← expression
        symbol ")"
        let _ ← optWord "stored" <||> optWord "virtual"
        constraints k c
      else pure c
  constraints (← left) { name := n, declared }
where
  conflictOn : Parser Unit := do
    if ← optWord "on" then
      word "conflict"
      let t ← next
      if (resolutionOf t).isNone then throw (failAt (some t))
  skipTail : Nat → Parser Unit
    | 0 => pure ()
    | k + 1 => do
      match ← peek with
      | none => pure ()
      | some t =>
        if t.isSymbol "," || t.isSymbol ")" || constraintWords.any t.isWord then pure ()
        else if t.isSymbol "(" then
          let _ ← next
          skipRest (← left) 1
          symbol ")"
          skipTail k
        else
          let _ ← next
          skipTail k

/-- A table constraint: a key or unique group of one column marks that column; other
constraints are read and kept out. -/
def tableConstraint (cols : List Column) : Parser (List Column) := do
  if ← optWord "constraint" then let _ ← name
  let mark (ns : List String) (f : Column → Column) : List Column :=
    match ns with
    | [n] => cols.map fun c => if sameName c.name n then f c else c
    | _ => cols
  if ← optWord "primary" then
    word "key"
    let ns ← names
    pure (mark ns fun c => { c with primary := true })
  else if ← optWord "unique" then
    let ns ← names
    pure (mark ns fun c => { c with unique := true })
  else if ← optWord "check" then
    symbol "("
    let _ ← expression
    symbol ")"
    pure cols
  else if ← optWord "foreign" then
    word "key"
    let _ ← names
    word "references"
    skipRest (← left) 0
    pure cols
  else fail

/-- A `CREATE TABLE` statement, after the words `CREATE TABLE`. -/
def createTable : Parser Statement := do
  let ine ← ifNotExists
  let n ← tableName
  symbol "("
  let rec defs : Nat → List Column → Parser (List Column)
    | 0, cols => pure cols
    | k + 1, cols => do
      if (← atWord "primary") || (← atWord "unique") || (← atWord "check") ||
          (← atWord "foreign") || (← atWord "constraint") then
        let cols ← tableConstraint cols
        if ← optSymbol "," then constraintsAfter k cols else pure cols
      else
        let c ← columnDef
        if ← optSymbol "," then defs k (cols ++ [c]) else pure (cols ++ [c])
  let cols ← defs (← left) []
  symbol ")"
  let rec options : Nat → Parser Unit
    | 0 => pure ()
    | k + 1 => do
      if ← optWord "without" then
        let _ ← name
        if ← optSymbol "," then options k
      else if ← optWord "strict" then
        if ← optSymbol "," then options k
      else pure ()
  options (← left)
  pure (.createTable n ine cols)
where
  constraintsAfter : Nat → List Column → Parser (List Column)
    | 0, cols => pure cols
    | k + 1, cols => do
      let cols ← tableConstraint cols
      if ← optSymbol "," then constraintsAfter k cols else pure cols

/-- The statements of a trigger's program, each ended by `;`, up to `END`. -/
def triggerBody : Nat → Parser (List Statement)
  | 0 => pure []
  | k + 1 => do
    let s ← write
    symbol ";"
    if ← optWord "end" then pure [s] else do pure (s :: (← triggerBody k))

/-- A `CREATE` statement, after the word `CREATE`. -/
def create : Parser Statement := do
  let _ ← optWord "temp" <||> optWord "temporary"
  let unique ← optWord "unique"
  if ← optWord "table" then createTable
  else if ← optWord "index" then
    let ine ← ifNotExists
    let n ← tableName
    word "on"
    let t ← name
    symbol "("
    let cols ← sepBy "," do
      let c ← name
      if ← optWord "collate" then let _ ← name
      let _ ← optWord "asc" <||> optWord "desc"
      pure c
    symbol ")"
    let _ ← whereClause
    pure (.createIndex n ine t cols unique)
  else if ← optWord "view" then
    let ine ← ifNotExists
    let n ← tableName
    let cols ← if ← atSymbol "(" then names else pure []
    word "as"
    word "select"
    pure (.createView n ine cols (← select))
  else if ← optWord "trigger" then
    let ine ← ifNotExists
    let n ← tableName
    let timing ← if ← optWord "before" then pure Timing.before
      else if ← optWord "after" then pure Timing.after
      else if ← optWord "instead" then do
        word "of"
        pure Timing.insteadOf
      else pure Timing.before
    let (event, cols) ← if ← optWord "insert" then pure (Event.insert, [])
      else if ← optWord "delete" then pure (Event.delete, [])
      else if ← optWord "update" then do
        if ← optWord "of" then pure (Event.update, ← sepBy "," name)
        else pure (Event.update, [])
      else fail
    word "on"
    let t ← tableName
    if ← optWord "for" then
      word "each"
      word "row"
    let condition ← if ← optWord "when" then some <$> expression else pure none
    word "begin"
    let body ← triggerBody (← left)
    pure (.createTrigger n ine timing event cols t condition body)
  else fail

/-- One statement. -/
def statement : Parser Statement := do
  match ← peek with
  | none => fail
  | some t =>
    if t.isWord "select" || t.isWord "insert" || t.isWord "replace" || t.isWord "update" ||
        t.isWord "delete" then write
    else
      let _ ← next
      if t.isWord "create" then create
      else if t.isWord "drop" then
        let kind ← if ← optWord "table" then pure ObjectKind.table
          else if ← optWord "index" then pure ObjectKind.index
          else if ← optWord "trigger" then pure ObjectKind.trigger
          else if ← optWord "view" then pure ObjectKind.view
          else fail
        let ie ← if ← optWord "if" then do
            word "exists"
            pure true
          else pure false
        pure (.drop kind (← tableName) ie)
      else if t.isWord "alter" then
        word "table"
        let table ← tableName
        if ← optWord "rename" then
          if ← optWord "to" then pure (.renameTable table (← name))
          else
            let _ ← optWord "column"
            let old ← name
            word "to"
            pure (.renameColumn table old (← name))
        else if ← optWord "add" then
          let _ ← optWord "column"
          pure (.addColumn table (← columnDef))
        else if ← optWord "drop" then
          let _ ← optWord "column"
          pure (.dropColumn table (← name))
        else fail
      else if t.isWord "begin" then
        let _ ← optWord "deferred" <||> optWord "immediate" <||> optWord "exclusive"
        if ← optWord "transaction" then
          if let some u := ← peek then if isName u then let _ ← next
        pure .begin
      else if t.isWord "commit" || t.isWord "end" then
        if ← optWord "transaction" then
          if let some u := ← peek then if isName u then let _ ← next
        pure .commit
      else if t.isWord "rollback" then
        if ← optWord "transaction" then
          if let some u := ← peek then if isName u then let _ ← next
        if ← optWord "to" then
          let _ ← optWord "savepoint"
          throw (.logic ("no such savepoint: " ++ (← name)))
        pure .rollback
      else if t.isWord "pragma" || t.isWord "vacuum" || t.isWord "analyze" ||
          t.isWord "reindex" || t.isWord "savepoint" || t.isWord "release" ||
          t.isWord "explain" || t.isWord "attach" || t.isWord "detach" then
        skipRest (← left) 0
        pure .pass
      else throw (failAt (some t))

end Parser

/-- The first statement of some tokens and the tokens after it: `none` when only separators
are left, an error when the statement does not read or is not followed by `;` or the end. -/
def nextStatement (ts : List Token) : Nat → SqlResult (Option (Statement × List Token))
  | 0 => .ok none
  | fuel + 1 =>
    match ts with
    | [] => .ok none
    | t :: rest =>
      if t.isSymbol ";" then nextStatement rest fuel
      else match Parser.statement ts with
        | .error e => .error e
        | .ok (s, after) =>
          match after with
          | [] => .ok (some (s, []))
          | u :: more =>
            if u.isSymbol ";" then .ok (some (s, more)) else .error (Parser.failAt (some u))

end AclReconcile.Sql
