import AclReconcile.Storage.Interface
import AclReconcile.Duration

/-!
# Trying again

A storage can be wrapped so that a failed operation is tried again, up to a number of attempts
in all. After the failed attempt `n`, except the last, the wrapper logs a warning and waits `n`
times the base delay. A cancellation seen before an attempt, or during a wait, ends the
operation with the cancellation followed by the last failure; when every attempt failed, the
error names the operation, the number of attempts and the last failure. Opening and closing are
not tried again.
-/

namespace AclReconcile

/-- How often and how patiently a wrapped storage tries an operation. -/
structure RetryOptions where
  /-- The number of attempts in all, at least one. -/
  attempts : Nat := 3
  /-- The wait after the first failed attempt; later waits grow linearly. -/
  baseDelay : Duration := Duration.second
  deriving Inhabited

namespace RetryOptions

/-- The options with `n` attempts, refused below one. -/
def withAttempts (n : Int) (o : RetryOptions) : Except Error RetryOptions :=
  if n < 1 then .error (.plain ("retries must be at least 1, got " ++ toString n))
  else .ok { o with attempts := n.toNat }

/-- The options with base delay `d`, refused when negative. -/
def withBaseDelay (d : Duration) (o : RetryOptions) : Except Error RetryOptions :=
  if d.nanos < 0 then .error (.plain ("base delay must not be negative, got " ++ d.render))
  else .ok { o with baseDelay := d }

/-- The wait after the failed attempt `attempt`: that many times the base delay, multiplied as
64-bit spans multiply. -/
def delay (o : RetryOptions) (attempt : Nat) : Duration := o.baseDelay.scale attempt

/-- The warning logged after a failed attempt that will be tried again. -/
def warning (o : RetryOptions) (op : Operation) (attempt : Nat) (e : Error) : String :=
  "Attempt " ++ toString attempt ++ " of " ++ toString o.attempts ++ " for '" ++ op.name ++
    "' failed, retrying in " ++ (o.delay attempt).render ++ ": " ++ e.message

end RetryOptions

/-- What a retrying wrapper needs from its surroundings: a way to log a warning, a way to see
whether the caller has given up, and a wait for a span that ends early when the caller gives up,
answering whether it did. -/
structure RetryContext (m : Type → Type) where
  warn : String → m Unit
  cancelled : m Bool
  sleep : Duration → m Bool

section
variable {m : Type → Type} [Monad m] [MonadExceptOf Error m]

/-- The error that ends an operation cancelled after the failure `last`, if any. -/
def cancelledAfter : Option Error → Error
  | some e => .chain .canceled e
  | none => .canceled

/-- Attempts `attempt`, `attempt + 1`, ... of an operation, with `left` attempts still allowed
and `last` the failure of the attempt before. -/
def retryFrom (o : RetryOptions) (ctx : RetryContext m) (op : Operation) {α : Type}
    (run : m α) : Nat → Nat → Option Error → m α
  | _, 0, last => throw (match last with
    | some e => .exhausted op.name o.attempts e
    | none => .canceled)
  | attempt, left + 1, last => do
    if ← ctx.cancelled then throw (cancelledAfter last)
    let outcome ← tryCatch (Except.ok <$> run) fun e => pure (Except.error e)
    match outcome with
    | .ok v => pure v
    | .error e =>
      if left == 0 then throw (.exhausted op.name o.attempts e)
      else do
        ctx.warn (o.warning op attempt e)
        if ← ctx.sleep (o.delay attempt) then throw (cancelledAfter (some e))
        retryFrom o ctx op run (attempt + 1) left (some e)

/-- An operation tried as the options say. -/
def retrying (o : RetryOptions) (ctx : RetryContext m) (op : Operation) {α : Type}
    (run : m α) : m α :=
  retryFrom o ctx op run 1 o.attempts none

/-- A storage whose operations are tried again after a failure. -/
def Storage.retried (o : RetryOptions) (ctx : RetryContext m) (s : Storage m) : Storage m :=
  s.around fun op _ run => retrying o ctx op run

end

end AclReconcile
