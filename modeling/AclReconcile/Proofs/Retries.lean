import AclReconcile.Proofs.Trace
import AclReconcile.Storage.Retry

/-!
# Trying again, attempt by attempt

The retrying wrapper is run here against surroundings fixed in advance (`Schedule`): what each
attempt of the operation gives, whether the caller has given up by the time an attempt would
start, and whether it gives up during the wait after an attempt. Any schedule is allowed, so what
is proved holds whatever the operation answers and whenever the caller gives up. The run is
recorded in `Attempts`: the attempts made, the waits asked for and the warnings logged.

One step of the loop has five ways to go, one lemma each: the caller has given up before the
attempt (`Schedule.retryFrom_given_up`); the attempt succeeds (`Schedule.retryFrom_succeeds`); it
fails as the last one allowed (`Schedule.retryFrom_exhausted`); it fails and the caller gives up
during the wait (`Schedule.retryFrom_given_up_waiting`); or it fails and the next attempt follows
the wait (`Schedule.retryFrom_next`). After `k` failed attempts through which the caller stayed,
a run stands at attempt `k + 1` with a record of those attempts, their warnings and their waits
(`Schedule.retrying_after_failures`), so each way a whole run ends is that one step taken there
(`Schedule.retrying_meets_spec`). Whatever the schedule, the operation is attempted at most as
often as the options allow (`Schedule.retrying_calls_le`).

The wait after attempt `n` is `n` times the base delay, multiplied as 64-bit spans multiply: it is
the product itself exactly while the product stays below `2 ^ 63` nanoseconds
(`RetryOptions.delay_nanos_eq_iff`), and past that it wraps around.
-/

namespace AclReconcile

/-- The surroundings of one retried operation, fixed in advance; attempts are numbered from 1. -/
structure Schedule (α : Type) where
  /-- What attempt `k` returns, or the failure it ends with. -/
  outcome : Nat → Except Error α
  /-- Whether the caller has given up by the time attempt `k` would start. -/
  doneBefore : Nat → Bool
  /-- Whether the caller gives up during the wait after attempt `k`. -/
  doneDuring : Nat → Bool

/-- What a retried operation has done: the attempts made, and the waits asked for and the
warnings logged, in order. -/
structure Attempts where
  calls : Nat := 0
  waits : List Duration := []
  warnings : List String := []

namespace Attempts

/-- The record with one attempt more. -/
def tried (w : Attempts) : Attempts := { w with calls := w.calls + 1 }

/-- The record with a warning logged and a wait asked for. -/
def waited (w : Attempts) (msg : String) (d : Duration) : Attempts :=
  { w with warnings := w.warnings ++ [msg], waits := w.waits ++ [d] }

@[simp] theorem tried_calls (w : Attempts) : w.tried.calls = w.calls + 1 := rfl

@[simp] theorem tried_waits (w : Attempts) : w.tried.waits = w.waits := rfl

@[simp] theorem waited_calls (w : Attempts) (msg : String) (d : Duration) :
    (w.waited msg d).calls = w.calls := rfl

@[simp] theorem waited_waits (w : Attempts) (msg : String) (d : Duration) :
    (w.waited msg d).waits = w.waits ++ [d] := rfl

end Attempts

namespace RetryOptions

/-- The waits after the failed attempts `1, …, k`, in order. -/
def delays (o : RetryOptions) (k : Nat) : List Duration :=
  (List.range k).map fun i => o.delay (i + 1)

/-- The waits after `k + 1` failed attempts are those after `k` and then the next one. -/
theorem delays_succ (o : RetryOptions) (k : Nat) :
    o.delays (k + 1) = o.delays k ++ [o.delay (k + 1)] := by
  simp [delays, List.range_succ]

end RetryOptions

/-- The failure of the last of the attempts `1, …, k` that failed with `fails`; none for
`k = 0`. -/
def lastFailure (fails : Nat → Error) : Nat → Option Error
  | 0 => none
  | k + 1 => some (fails (k + 1))

/-- The record of a run whose attempts `1, …, k` failed with `fails`, each followed by its warning
and its wait. -/
def Attempts.afterFailures (o : RetryOptions) (op : Operation) (fails : Nat → Error) (k : Nat) :
    Attempts where
  calls := k
  waits := o.delays k
  warnings := (List.range k).map fun i => o.warning op (i + 1) (fails (i + 1))

/-- One more failed attempt, with its warning and its wait, extends the record of the failures by
one. -/
theorem Attempts.afterFailures_succ (o : RetryOptions) (op : Operation) (fails : Nat → Error)
    (k : Nat) :
    (afterFailures o op fails k).tried.waited (o.warning op (k + 1) (fails (k + 1)))
        (o.delay (k + 1)) =
      afterFailures o op fails (k + 1) := by
  simp [afterFailures, tried, waited, RetryOptions.delays_succ, List.range_succ]

/-- A cancellation names the cancellation first and then every category of the failure it
follows, so it is both a cancellation and, deep down, that failure. -/
@[simp] theorem cancelledAfter_categories (last : Option Error) :
    (cancelledAfter last).categories = .canceled :: (last.map Error.categories).getD [] := by
  cases last <;> rfl

namespace Schedule

variable {α : Type} (s : Schedule α)

/-- The operation under retry: the next attempt, counted, with what the schedule gives for it. -/
def attempt : EStateM Error Attempts α := fun w =>
  match s.outcome (w.calls + 1) with
  | .ok v => .ok v w.tried
  | .error e => .error e w.tried

/-- The surroundings the schedule describes: the caller is asked about before the attempt that
follows those made, and about during the wait after the last attempt made. -/
def context : RetryContext (EStateM Error Attempts) where
  warn msg := fun w => .ok () { w with warnings := w.warnings ++ [msg] }
  cancelled := fun w => .ok (s.doneBefore (w.calls + 1)) w
  sleep d := fun w => .ok (s.doneDuring w.calls) { w with waits := w.waits ++ [d] }

/-- Attempts `1, …, k` fail with `fails`, and the caller stays through each of them and through
the wait after it. -/
def FailsLive (fails : Nat → Error) (k : Nat) : Prop :=
  ∀ i, 0 < i → i ≤ k →
    s.doneBefore i = false ∧ s.outcome i = .error (fails i) ∧ s.doneDuring i = false

variable {s}

/-- Failures through attempt `k + 1` with the caller staying are such failures through attempt `k`.
-/
theorem FailsLive.pred {fails : Nat → Error} {k : Nat} (h : s.FailsLive fails (k + 1)) :
    s.FailsLive fails k :=
  fun i hi hik => h i hi (Nat.le_succ_of_le hik)

/-! ## One attempt -/

@[simp] theorem cancelled_run (w : Attempts) :
    s.context.cancelled.run w = .ok (s.doneBefore (w.calls + 1)) w := rfl

@[simp] theorem warn_run (msg : String) (w : Attempts) :
    (s.context.warn msg).run w = .ok () { w with warnings := w.warnings ++ [msg] } := rfl

@[simp] theorem sleep_run (d : Duration) (w : Attempts) :
    (s.context.sleep d).run w = .ok (s.doneDuring w.calls) { w with waits := w.waits ++ [d] } :=
  rfl

/-- An attempt that the schedule lets succeed returns its value, and is counted. -/
theorem attempt_run_ok {w : Attempts} {v : α} (h : s.outcome (w.calls + 1) = .ok v) :
    s.attempt.run w = .ok v w.tried := by
  show (match s.outcome (w.calls + 1) with | .ok v => _ | .error e => _) = _
  rw [h]

/-- An attempt that the schedule fails throws its failure, and is counted. -/
theorem attempt_run_error {w : Attempts} {e : Error} (h : s.outcome (w.calls + 1) = .error e) :
    s.attempt.run w = .error e w.tried := by
  show (match s.outcome (w.calls + 1) with | .ok v => _ | .error e => _) = _
  rw [h]

variable (o : RetryOptions) (op : Operation) {n left : Nat} {last : Option Error} {w : Attempts}

/-- A step whose caller has given up before the attempt ends with a cancellation after the last
failure, and makes no attempt. -/
theorem retryFrom_given_up (h : s.doneBefore (w.calls + 1) = true) :
    (retryFrom o s.context op s.attempt n (left + 1) last).run w =
      .error (cancelledAfter last) w := by
  simp only [retryFrom, EStateM.run_bind, cancelled_run, h, ↓reduceIte, EStateM.run_throw]

/-- A step whose attempt succeeds returns the attempt's value. -/
theorem retryFrom_succeeds {v : α} (h : s.doneBefore (w.calls + 1) = false)
    (hv : s.outcome (w.calls + 1) = .ok v) :
    (retryFrom o s.context op s.attempt n (left + 1) last).run w = .ok v w.tried := by
  simp only [retryFrom, EStateM.run_bind, cancelled_run, h, Bool.false_eq_true, ↓reduceIte,
    run_tryCatch, run_map, attempt_run_ok hv, EStateM.run_pure]

/-- The body of a step after an attempt that failed: from there on the loop only looks at the
attempts it has left and at the caller during the wait. -/
theorem retryFrom_failed {e : Error} (h : s.doneBefore (w.calls + 1) = false)
    (he : s.outcome (w.calls + 1) = .error e) :
    (retryFrom o s.context op s.attempt n (left + 1) last).run w =
      (if left = 0 then throw (Error.exhausted op.name o.attempts e)
        else do
          s.context.warn (o.warning op n e)
          if ← s.context.sleep (o.delay n) then throw (cancelledAfter (some e))
          retryFrom o s.context op s.attempt (n + 1) left (some e)).run w.tried := by
  simp only [retryFrom, EStateM.run_bind, cancelled_run, h, Bool.false_eq_true, ↓reduceIte,
    run_tryCatch, run_map, attempt_run_error he, EStateM.run_pure, beq_iff_eq]

/-- A failed attempt with no attempt left ends the run with the exhaustion error around the failure.
-/
theorem retryFrom_exhausted {e : Error} (h : s.doneBefore (w.calls + 1) = false)
    (he : s.outcome (w.calls + 1) = .error e) :
    (retryFrom o s.context op s.attempt n 1 last).run w =
      .error (.exhausted op.name o.attempts e) w.tried := by
  rw [retryFrom_failed o op h he, if_pos rfl]
  rfl

/-- A failed attempt with attempts left logs its warning and waits; a caller who gives up during the
wait ends the run with a cancellation after that failure. -/
theorem retryFrom_given_up_waiting {e : Error} (h : s.doneBefore (w.calls + 1) = false)
    (he : s.outcome (w.calls + 1) = .error e) (hd : s.doneDuring (w.calls + 1) = true) :
    (retryFrom o s.context op s.attempt n (left + 2) last).run w =
      .error (cancelledAfter (some e)) (w.tried.waited (o.warning op n e) (o.delay n)) := by
  rw [retryFrom_failed o op h he]
  simp only [Nat.add_one_ne_zero, ↓reduceIte, EStateM.run_bind, warn_run, sleep_run,
    Attempts.tried_calls, hd, EStateM.run_throw]
  rfl

/-- A failed attempt with attempts left, the caller staying through the wait, is followed by the
next step with one attempt fewer. -/
theorem retryFrom_next {e : Error} (h : s.doneBefore (w.calls + 1) = false)
    (he : s.outcome (w.calls + 1) = .error e) (hd : s.doneDuring (w.calls + 1) = false) :
    (retryFrom o s.context op s.attempt n (left + 2) last).run w =
      (retryFrom o s.context op s.attempt (n + 1) (left + 1) (some e)).run
        (w.tried.waited (o.warning op n e) (o.delay n)) := by
  rw [retryFrom_failed o op h he]
  simp only [Nat.add_one_ne_zero, ↓reduceIte, EStateM.run_bind, warn_run, sleep_run,
    Attempts.tried_calls, hd, Bool.false_eq_true]
  rfl

/-! ## Whole runs -/

variable {fails : Nat → Error} {k : Nat}

/-- After attempts `1, …, k` failed with the caller staying, and with attempts left, a run stands
at attempt `k + 1` with the record of the failures, their warnings and their waits. By induction
on `k`: the step at attempt `k + 1` fails with the caller staying, and not as the last one. -/
theorem retrying_after_failures (hlive : s.FailsLive fails k) (hk : k < o.attempts) :
    (retrying o s.context op s.attempt).run {} =
      (retryFrom o s.context op s.attempt (k + 1) (o.attempts - k) (lastFailure fails k)).run
        (Attempts.afterFailures o op fails k) := by
  induction k with
  | zero => rfl
  | succ k ih =>
    rw [ih hlive.pred (by omega)]
    obtain ⟨hbefore, hfail, hduring⟩ := hlive (k + 1) (by omega) le_rfl
    obtain ⟨left, hleft⟩ : ∃ left, o.attempts - k = left + 2 :=
      ⟨o.attempts - k - 2, by omega⟩
    have hleft' : o.attempts - (k + 1) = left + 1 := by omega
    rw [hleft, hleft', retryFrom_next o op hbefore hfail hduring, Attempts.afterFailures_succ]
    rfl

/-- A run whose caller gives up before attempt `k + 1` ends with a cancellation after the `k`-th
failure. -/
theorem retrying_given_up (hlive : s.FailsLive fails k) (hk : k < o.attempts)
    (h : s.doneBefore (k + 1) = true) :
    (retrying o s.context op s.attempt).run {} =
      .error (cancelledAfter (lastFailure fails k)) (Attempts.afterFailures o op fails k) := by
  obtain ⟨left, hleft⟩ : ∃ left, o.attempts - k = left + 1 :=
    ⟨o.attempts - k - 1, by omega⟩
  rw [retrying_after_failures o op hlive hk, hleft, retryFrom_given_up o op h]

/-- A run whose attempt `k + 1` succeeds returns its value after `k + 1` attempts. -/
theorem retrying_succeeds {v : α} (hlive : s.FailsLive fails k) (hk : k < o.attempts)
    (h : s.doneBefore (k + 1) = false) (hv : s.outcome (k + 1) = .ok v) :
    (retrying o s.context op s.attempt).run {} =
      .ok v (Attempts.afterFailures o op fails k).tried := by
  obtain ⟨left, hleft⟩ : ∃ left, o.attempts - k = left + 1 :=
    ⟨o.attempts - k - 1, by omega⟩
  rw [retrying_after_failures o op hlive hk, hleft, retryFrom_succeeds o op h hv]

/-- A run whose last allowed attempt `k + 1` fails ends with the exhaustion error around that
failure. -/
theorem retrying_exhausted {e : Error} (hlive : s.FailsLive fails k) (hk : k + 1 = o.attempts)
    (h : s.doneBefore (k + 1) = false) (he : s.outcome (k + 1) = .error e) :
    (retrying o s.context op s.attempt).run {} =
      .error (.exhausted op.name o.attempts e) (Attempts.afterFailures o op fails k).tried := by
  rw [retrying_after_failures o op hlive (by omega), show o.attempts - k = 1 by omega,
    retryFrom_exhausted o op h he]

/-- A run whose attempt `k + 1` fails with attempts left, and whose caller gives up during the wait
after it, ends with a cancellation after that failure. -/
theorem retrying_given_up_waiting {e : Error} (hlive : s.FailsLive fails k)
    (hk : k + 1 < o.attempts) (h : s.doneBefore (k + 1) = false)
    (he : s.outcome (k + 1) = .error e) (hd : s.doneDuring (k + 1) = true) :
    (retrying o s.context op s.attempt).run {} =
      .error (cancelledAfter (some e))
        ((Attempts.afterFailures o op fails k).tried.waited (o.warning op (k + 1) e)
          (o.delay (k + 1))) := by
  obtain ⟨left, hleft⟩ : ∃ left, o.attempts - k = left + 2 :=
    ⟨o.attempts - k - 2, by omega⟩
  rw [retrying_after_failures o op hlive (by omega), hleft, retryFrom_given_up_waiting o op h he hd]

/-- A run of the loop with `left` attempts allowed makes at most `left` attempts, whatever the
schedule. By induction on `left`: a failure ends the run unless attempts are left and the caller
stays through the wait. -/
theorem retryFrom_calls_le (left n : Nat) (last : Option Error) (w : Attempts) :
    (endState ((retryFrom o s.context op s.attempt n left last).run w)).calls ≤
      w.calls + left := by
  induction left generalizing n last w with
  | zero => exact Nat.le_refl _
  | succ left ih =>
    cases hb : s.doneBefore (w.calls + 1)
    case true => simp [retryFrom_given_up o op hb]
    case false =>
      cases ho : s.outcome (w.calls + 1) with
      | ok v => simp [retryFrom_succeeds o op hb ho]
      | error e =>
        cases left with
        | zero => simp [retryFrom_exhausted o op hb ho]
        | succ left =>
          cases hd : s.doneDuring (w.calls + 1)
          case true => simp [retryFrom_given_up_waiting o op hb ho hd]
          case false =>
            rw [retryFrom_next o op hb ho hd]
            have := ih (n + 1) (some e) ((w.tried.waited (o.warning op n e) (o.delay n)))
            simp only [Attempts.waited_calls, Attempts.tried_calls] at this
            omega

/-- Whatever the schedule, the operation is attempted at most as often as the options allow. -/
theorem retrying_calls_le :
    (endState ((retrying o s.context op s.attempt).run {})).calls ≤ o.attempts := by
  simpa [retrying] using retryFrom_calls_le o op o.attempts 1 none {}

/-- What a run of the retrying wrapper against the schedule must end with, by the first attempt
at which something other than a failure with the caller staying happens: its success, the last
failure, or the caller giving up before it or during the wait after it. -/
structure RetrySpec (s : Schedule α) (r : EStateM.Result Error Attempts α) : Prop where
  /-- A success at attempt `k + 1` is returned as it is, after `k + 1` attempts and the waits
  after the first `k`. -/
  succeeds : ∀ k fails v, k < o.attempts → s.FailsLive fails k →
    s.doneBefore (k + 1) = false →
    s.outcome (k + 1) = .ok v → ∃ w, r = .ok v w ∧ w.calls = k + 1 ∧ w.waits = o.delays k
  /-- A failure of the last attempt allowed gives no value, only the exhaustion naming the
  operation, the number of attempts and that failure. -/
  exhausts : ∀ k fails e, k + 1 = o.attempts → s.FailsLive fails k →
    s.doneBefore (k + 1) = false → s.outcome (k + 1) = .error e →
    ∃ w, r = .error (.exhausted op.name o.attempts e) w ∧ w.calls = k + 1 ∧
      w.waits = o.delays k
  /-- A caller that has given up before attempt `k + 1` ends the run there, with the cancellation
  after the last failure, if any. -/
  givenUpBefore : ∀ k fails, k < o.attempts → s.FailsLive fails k →
    s.doneBefore (k + 1) = true →
    ∃ w, r = .error (cancelledAfter (lastFailure fails k)) w ∧ w.calls = k ∧
      w.waits = o.delays k
  /-- A caller that gives up during the wait after the failed attempt `k + 1` ends the run there,
  with the cancellation after that failure. -/
  givenUpWaiting : ∀ k fails e, k + 1 < o.attempts → s.FailsLive fails k →
    s.doneBefore (k + 1) = false → s.outcome (k + 1) = .error e →
    s.doneDuring (k + 1) = true →
    ∃ w, r = .error (cancelledAfter (some e)) w ∧ w.calls = k + 1 ∧ w.waits = o.delays (k + 1)
  /-- The operation is attempted at most as often as allowed. -/
  callsBounded : (endState r).calls ≤ o.attempts

/-- The retrying wrapper, against any outcomes of the operation and any moments at which the
caller gives up, ends as `RetrySpec` says: a success is returned as it is; when every attempt
fails there is no value, only the exhaustion with the last failure; a caller that gives up before
an attempt or during a wait stops the attempts there, with the cancellation wrapping the last
failure; and no more attempts are made than allowed. A cancellation is, by its categories, both a
cancellation and the failure it wraps. -/
theorem retrying_meets_spec (s : Schedule α) :
    s.RetrySpec o op ((retrying o s.context op s.attempt).run {}) ∧
      ∀ last, (cancelledAfter last).categories =
        .canceled :: (last.map Error.categories).getD [] where
  left := {
    succeeds := fun k fails v hk hlive h hv =>
      ⟨_, retrying_succeeds o op hlive hk h hv, rfl, rfl⟩
    exhausts := fun k fails e hk hlive h he =>
      ⟨_, retrying_exhausted o op hlive hk h he, rfl, rfl⟩
    givenUpBefore := fun k fails hk hlive h =>
      ⟨_, retrying_given_up o op hlive hk h, rfl, rfl⟩
    givenUpWaiting := fun k fails e hk hlive h he hd =>
      ⟨_, retrying_given_up_waiting o op hlive hk h he hd, rfl,
        by simp [Attempts.afterFailures, RetryOptions.delays_succ]⟩
    callsBounded := retrying_calls_le o op }
  right := cancelledAfter_categories

-- the default options against an operation that always fails: three attempts, with waits of
-- one and two seconds between them
example :
    let s : Schedule Bool := ⟨fun _ => .error .injected, fun _ => false, fun _ => false⟩
    (endState ((retrying {} s.context .presence s.attempt).run {})).calls = 3 ∧
      (endState ((retrying {} s.context .presence s.attempt).run {})).waits.map (·.nanos) =
        [1000000000, 2000000000] := by
  decide

end Schedule

/-! ## The waits -/

/-- A span wrapped into the signed 64-bit range is the span itself exactly when it lies in that
range. -/
theorem Duration.wrap64_eq_self_iff (x : Int) :
    Duration.wrap64 x = x ↔ -2 ^ 63 ≤ x ∧ x < 2 ^ 63 := by
  change (x + 9223372036854775808) % 18446744073709551616 - 9223372036854775808 = x ↔ _
  omega

namespace RetryOptions

/-- Options that took a base delay have one that is not negative. -/
theorem withBaseDelay_nonneg {o₀ o : RetryOptions} {d : Duration}
    (h : o₀.withBaseDelay d = .ok o) :
    0 ≤ o.baseDelay.nanos := by
  unfold withBaseDelay at h
  split at h
  · cases h
  · next hd =>
    cases h
    exact Int.not_lt.1 hd

/-- The wait after attempt `n`, for a base delay that is not negative, is the product of the
base delay and `n` exactly when the product is below `2 ^ 63` nanoseconds. -/
theorem delay_nanos_eq_iff {o : RetryOptions} (hB : 0 ≤ o.baseDelay.nanos) (n : Nat) :
    (o.delay n).nanos = o.baseDelay.nanos * n ↔ o.baseDelay.nanos * n < 2 ^ 63 := by
  have hprod : 0 ≤ o.baseDelay.nanos * n := Int.mul_nonneg hB (Int.natCast_nonneg n)
  show Duration.wrap64 (o.baseDelay.nanos * n) = _ ↔ _
  rw [Duration.wrap64_eq_self_iff]
  omega

/-- The waits of the retrying wrapper are the products of the base delay and the attempt for as
long as those products stay below `2 ^ 63` nanoseconds, and only then. For options that took a
base delay (which is then not negative), the wait after attempt `n` is `base delay * n` exactly
when that product is below `2 ^ 63`. When the product for the last attempt that is waited after
is below it, every wait of a run is its product, none is negative, a later one is not shorter, and
it is strictly longer when the base delay is not zero. -/
theorem delays_exact_within_range {o₀ o : RetryOptions} {d : Duration}
    (h : o₀.withBaseDelay d = .ok o) :
    (∀ n : Nat, (o.delay n).nanos = o.baseDelay.nanos * n ↔ o.baseDelay.nanos * n < 2 ^ 63) ∧
    (o.baseDelay.nanos * (o.attempts - 1 : Nat) < 2 ^ 63 →
      ∀ n m : Nat, 0 < n → n ≤ m → m < o.attempts →
        (o.delay n).nanos = o.baseDelay.nanos * n ∧ 0 ≤ (o.delay n).nanos ∧
        (o.delay n).nanos ≤ (o.delay m).nanos ∧
        (0 < o.baseDelay.nanos → n < m → (o.delay n).nanos < (o.delay m).nanos)) := by
  have hB := withBaseDelay_nonneg h
  refine ⟨delay_nanos_eq_iff hB, fun hfit n m hn hnm hm => ?_⟩
  have hle : ∀ j : Nat, j < o.attempts →
      o.baseDelay.nanos * j ≤ o.baseDelay.nanos * (o.attempts - 1 : Nat) := fun j hj =>
    Int.mul_le_mul_of_nonneg_left (by omega) hB
  have hdn := (delay_nanos_eq_iff hB n).2 (lt_of_le_of_lt (hle n (by omega)) hfit)
  have hdm := (delay_nanos_eq_iff hB m).2 (lt_of_le_of_lt (hle m hm) hfit)
  refine ⟨hdn, ?_, ?_, fun hpos hlt => ?_⟩
  · rw [hdn]
    exact Int.mul_nonneg hB (Int.natCast_nonneg n)
  · rw [hdn, hdm]
    exact Int.mul_le_mul_of_nonneg_left (by omega) hB
  · rw [hdn, hdm]
    exact Int.mul_lt_mul_of_pos_left (by omega) hpos

/-- The default options, whose base delay is one second, wait exactly one second times the attempt's
number. -/
theorem delays_exact_within_range_default :
    ({} : RetryOptions).withBaseDelay Duration.second = .ok {} ∧
    ((∀ n : Nat, (({} : RetryOptions).delay n).nanos = 1000000000 * n ↔
        (1000000000 : Int) * n < 2 ^ 63) ∧
      ((1000000000 : Int) * (3 - 1 : Nat) < 2 ^ 63 →
        ∀ n m : Nat, 0 < n → n ≤ m → m < 3 →
          (({} : RetryOptions).delay n).nanos = 1000000000 * n ∧
          0 ≤ (({} : RetryOptions).delay n).nanos ∧
          (({} : RetryOptions).delay n).nanos ≤ (({} : RetryOptions).delay m).nanos ∧
          ((0 : Int) < 1000000000 → n < m →
            (({} : RetryOptions).delay n).nanos < (({} : RetryOptions).delay m).nanos))) :=
  have h : ({} : RetryOptions).withBaseDelay Duration.second = .ok {} := rfl
  ⟨h, delays_exact_within_range h⟩

/-- Past that range the waits wrap around: with three attempts and a base delay of `2 ^ 62`
nanoseconds, both accepted, a run whose attempts all fail, the caller staying, waits `2 ^ 62`
nanoseconds after the first attempt and `-2 ^ 63` after the second where the product is
`2 ^ 63`: a negative wait, which ends at once. -/
theorem waits_wrap_past_range :
    let o : RetryOptions := { attempts := 3, baseDelay := ⟨2 ^ 62⟩ }
    let s : Schedule Bool := ⟨fun _ => .error .injected, fun _ => false, fun _ => false⟩
    (({} : RetryOptions).withAttempts 3 >>= fun o' => o'.withBaseDelay ⟨2 ^ 62⟩) = .ok o ∧
      (endState ((retrying o s.context .presence s.attempt).run {})).waits.map (·.nanos) =
        [2 ^ 62, -2 ^ 63] :=
  ⟨rfl, by decide⟩

end RetryOptions

end AclReconcile
