import AclReconcile.Sql.Functions

/-!
# Evaluating expressions

An expression is evaluated against the bindings of the rows being read. `AND` and `OR` look at
their right operand only when the left one does not decide, `CASE` evaluates its tests in order
up to the first that holds, and `coalesce`, `ifnull` and `iif` evaluate their arguments only as
far as needed; everything else evaluates all its operands, left to right (a `LIKE` its pattern
first, as the engine calls it as a function of the pattern and the text).

Before a statement runs, its expressions are checked the way the engine prepares them: every
column must be one the statement can see, every function must exist and take the given number
of arguments, and aggregates may appear only among the result columns of a query. A missing
column ends the check at once; a problem with a function is remembered and the check goes on
into its arguments, a later problem replacing it.
-/

namespace AclReconcile.Sql

/-- The affinity of an expression in a comparison: a column's affinity, the affinity of the
type of a `CAST`; none for every other expression. -/
def exprAffinity (env : Env) : Expr → Option Affinity
  | .column q n => match env.lookup q n with
    | .ok b => b.affinity
    | .error _ => none
  | .quoted n => match env.lookup none n with
    | .ok b => b.affinity
    | .error _ => none
  | .cast _ t => some (Affinity.ofType t)
  | _ => none

/-- `AND` of two truth values that may be null. -/
def andValues (a b : Value) : Value :=
  match a.truth?, b.truth? with
  | some false, _ | _, some false => ofBool false
  | some true, some true => ofBool true
  | _, _ => .null

/-- `OR` of two truth values that may be null. -/
def orValues (a b : Value) : Value :=
  match a.truth?, b.truth? with
  | some true, _ | _, some true => ofBool true
  | some false, some false => ofBool false
  | _, _ => .null

/-- The value of an operator between two values, comparisons under an affinity. -/
def binaryValue (op : BinaryOp) (aff : Option Affinity) (a b : Value) : Value :=
  match op with
  | .and => andValues a b
  | .or => orValues a b
  | .concat => concatValues a b
  | .add | .sub | .mul | .div | .rem => arith op a b
  | .bitAnd | .bitOr | .shiftLeft | .shiftRight => bitwise op a b
  | _ => comparisonResult op aff a b

/-- A truth value negated when asked. -/
def negatedIf (negated : Bool) (v : Value) : Value := if negated then unaryValue .not v else v

mutual

/-- The value of an expression under bindings. -/
def eval (env : Env) : Expr → Eval Value
  | .lit v => pure v
  | .column q n => do pure (← Eval.ofResult (env.lookup q n)).value
  | .quoted n => pure (match env.lookup none n with
    | .ok b => b.value
    | .error _ => .text n)
  | .unary op e => do pure (unaryValue op (← eval env e))
  | .binary .and a b => do
    let x ← eval env a
    if x.truth? == some false then pure (ofBool false)
    else do pure (andValues x (← eval env b))
  | .binary .or a b => do
    let x ← eval env a
    if x.truth? == some true then pure (ofBool true)
    else do pure (orValues x (← eval env b))
  | .binary op a b => do
    let x ← eval env a
    let y ← eval env b
    pure (binaryValue op (comparisonAffinity (exprAffinity env a) (exprAffinity env b)) x y)
  | .isNull e negated => do
    let v ← eval env e
    pure (ofBool ((v == .null) != negated))
  | .between e low high negated => do
    let v ← eval env e
    let lo ← eval env low
    let first := comparisonResult .ge
      (comparisonAffinity (exprAffinity env e) (exprAffinity env low)) v lo
    if first.truth? == some false then pure (negatedIf negated (ofBool false))
    else do
      let hi ← eval env high
      let second := comparisonResult .le
        (comparisonAffinity (exprAffinity env e) (exprAffinity env high)) v hi
      pure (negatedIf negated (andValues first second))
  | .inList e items negated => do
    if items.isEmpty then pure (ofBool negated)
    else do
      let v ← eval env e
      let xs ← evalAll env items
      pure (negatedIf negated (ofTruth (memberOf (exprAffinity env e) v xs)))
  | .like e pattern escape negated => do
    let p ← eval env pattern
    let s ← eval env e
    let esc ← evalOption env escape
    pure (negatedIf negated (← applyFunction "like" (p :: s :: esc.toList)))
  | .glob e pattern negated => do
    let p ← eval env pattern
    let s ← eval env e
    pure (negatedIf negated (← applyFunction "glob" [p, s]))
  | .cast e type => do pure (castValue type (← eval env e))
  | .call name args _ =>
    match asciiLower name with
    | "coalesce" | "ifnull" => evalFirstPresent env args
    | "iif" => evalChoice env args
    | _ => do applyFunction name (← evalAll env args)
  | .caseOf base arms otherwise => do
    let b ← evalOption env base
    let chosen ← evalArms env ((b.map fun v => (v, base.bind (exprAffinity env)))) arms
    match chosen with
    | some v => pure v
    | none => do pure ((← evalOption env otherwise).getD .null)
  | .raise kind message => do
    let m ← eval env message
    throw (.raise kind (m.text?.getD ""))

/-- The values of expressions, in order. -/
def evalAll (env : Env) : List Expr → Eval (List Value)
  | [] => pure []
  | e :: rest => do
    let v ← eval env e
    pure (v :: (← evalAll env rest))

/-- The value of an optional expression. -/
def evalOption (env : Env) : Option Expr → Eval (Option Value)
  | none => pure none
  | some e => do pure (some (← eval env e))

/-- The first value that is not null, evaluating expressions only up to it. -/
def evalFirstPresent (env : Env) : List Expr → Eval Value
  | [] => pure .null
  | e :: rest => do
    let v ← eval env e
    if v == .null then evalFirstPresent env rest else pure v

/-- `iif`: the second expression when the first is true, otherwise the third (or null). -/
def evalChoice (env : Env) : List Expr → Eval Value
  | c :: rest => do
    let v ← eval env c
    evalBranch env (v.truth? == some true) rest
  | [] => pure .null

/-- The first expression of a list when `first` is set, otherwise the second (or null). -/
def evalBranch (env : Env) (first : Bool) : List Expr → Eval Value
  | e :: rest => if first then eval env e else evalFirstOf env rest
  | [] => pure .null

/-- The value of the first expression of a list, null for none. -/
def evalFirstOf (env : Env) : List Expr → Eval Value
  | e :: _ => eval env e
  | [] => pure .null

/-- The result of the first `WHEN` arm whose test holds: a test that is true, or equal to the
operand when `CASE` has one; `none` when no test holds. -/
def evalArms (env : Env) (base : Option (Value × Option Affinity)) :
    List Expr → Eval (Option Value)
  | test :: result :: rest => do
    let t ← eval env test
    let hit := match base with
      | some (b, aff) =>
        (comparisonResult .eq (comparisonAffinity aff (exprAffinity env test)) b t).truth? ==
          some true
      | none => t.truth? == some true
    if hit then do pure (some (← eval env result)) else evalArms env base rest
  | _ => pure none

end

/-- Whether a value, as a condition, holds: only true values do, not false or null ones. -/
def Value.holds (v : Value) : Bool := v.truth? == some true

/-! ## Checking names -/

/-- What the names of an expression are checked against: the bindings it can see, and whether
aggregates may appear. -/
structure Scope where
  env : Env
  aggregates : Bool := false

/-- The outcome of checking an expression: `.error` when a missing column ended the check, and
otherwise the last problem with a function, if any. -/
abbrev Check := Except SqlError (Option SqlError)

/-- The problem with a call of a function, if any: an aggregate where none may be, an unknown
name, or a wrong number of arguments. -/
def callProblem (scope : Scope) (name : String) (argc : Nat) : Option SqlError :=
  match functionArity name with
  | none => some (.logic ("no such function: " ++ name))
  | some accepts =>
    if !accepts argc then some (.logic ("wrong number of arguments to function " ++ name ++ "()"))
    else if isAggregate name argc && !scope.aggregates then
      some (.logic ("misuse of aggregate function " ++ name ++ "()"))
    else none

/-- A check continued after a step: a later problem replaces an earlier one. -/
def followedBy (first : Check) (next : Check) : Check :=
  match first with
  | .error e => .error e
  | .ok earlier => match next with
    | .error e => .error e
    | .ok later => .ok (later.orElse fun _ => earlier)

mutual

/-- Checks the names of an expression, the expression itself first and then its operands from
left to right. -/
def checkExpr (scope : Scope) : Expr → Check
  | .lit _ => .ok none
  | .column q n => match scope.env.lookup q n with
    | .ok _ => .ok none
    | .error e => .error e
  | .quoted _ => .ok none
  | .unary _ e => checkExpr scope e
  | .binary _ a b => followedBy (checkExpr scope a) (checkExpr scope b)
  | .isNull e _ => checkExpr scope e
  | .between e low high _ =>
    followedBy (followedBy (checkExpr scope e) (checkExpr scope low)) (checkExpr scope high)
  | .inList e items _ => followedBy (checkExpr scope e) (checkAll scope items)
  | .like e pattern escape _ =>
    followedBy (followedBy (checkExpr scope pattern) (checkExpr scope e))
      (checkOption scope escape)
  | .glob e pattern _ => followedBy (checkExpr scope pattern) (checkExpr scope e)
  | .cast e _ => checkExpr scope e
  | .call name args _ =>
    let inner := { scope with aggregates := scope.aggregates && !isAggregate name args.length }
    followedBy (.ok (callProblem scope name args.length)) (checkAll inner args)
  | .caseOf base arms otherwise =>
    followedBy (followedBy (checkOption scope base) (checkAll scope arms))
      (checkOption scope otherwise)
  | .raise _ _ => .ok none

/-- Checks expressions in order. -/
def checkAll (scope : Scope) : List Expr → Check
  | [] => .ok none
  | e :: rest => followedBy (checkExpr scope e) (checkAll scope rest)

/-- Checks an optional expression. -/
def checkOption (scope : Scope) : Option Expr → Check
  | none => .ok none
  | some e => checkExpr scope e

end

/-- The first problem of expressions checked one after another: each expression is checked to
its end, and the first with a problem stops the checking. -/
def checkEach (scope : Scope) : List Expr → SqlResult Unit
  | [] => .ok ()
  | e :: rest => match checkExpr scope e with
    | .error err | .ok (some err) => .error err
    | .ok none => checkEach scope rest

mutual

/-- Whether an expression calls `RAISE`. -/
def Expr.raises : Expr → Bool
  | .raise .. => true
  | .unary _ e | .isNull e _ | .cast e _ => e.raises
  | .binary _ a b | .glob a b _ => a.raises || b.raises
  | .between e low high _ => e.raises || low.raises || high.raises
  | .inList e items _ => e.raises || Expr.anyRaises items
  | .like e p esc _ => e.raises || p.raises || Expr.optionRaises esc
  | .call _ args _ => Expr.anyRaises args
  | .caseOf b arms o => Expr.optionRaises b || Expr.anyRaises arms || Expr.optionRaises o
  | .lit _ | .column .. | .quoted _ => false

/-- Whether one of some expressions calls `RAISE`. -/
def Expr.anyRaises : List Expr → Bool
  | [] => false
  | e :: rest => e.raises || Expr.anyRaises rest

/-- Whether an optional expression calls `RAISE`. -/
def Expr.optionRaises : Option Expr → Bool
  | none => false
  | some e => e.raises

end

end AclReconcile.Sql
