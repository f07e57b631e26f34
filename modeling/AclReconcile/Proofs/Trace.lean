import AclReconcile.Reconcile
import Mathlib

/-!
# Recorded runs of the reconciler

To speak of the calls a run makes, the reconciler is run over a storage whose every call is
recorded. The storage's contents sit in a `Traced` state beside the calls made so far, each with
the answer it got (a value or a failure), and beside the lines the reconciler has logged. Any
storage over any contents can be recorded this way, so what is proved of the recorded reconciler
holds whatever the storage answers. The caller gives up once `cut` holds of the calls made so far;
the reconciler sees that where it looks at its context.

`Keeps R x` says that every run of `x` ends in a state that `R` relates to the state it started
in, whether it returns or fails. For a reflexive and transitive `R` it passes through the monad's
operations, so a frame condition or the growth of the record is proved of a whole run from the
calls it is made of. `process_keeps` says once what processing one directory can do: read
anything, create its own path, write its own path and the items its listing returned, and log at
info or warn level. Every such property of a directory's processing is an instance of it.

`Triple P x Q` speaks of the value and end state of every run of `x` from `P` that returns;
`Yields x s Q` says that the run from `s` does return, with `Q` of its value and end state.
`Traced.Inspected` relates two records between which the contents stayed the same and only calls
that look at one path or at the containers were made.
-/

namespace AclReconcile

/-- A call of one of the seven storage operations, with its arguments. -/
inductive Call where
  | present (path : String)
  | createContainer (name : String)
  | createDirectory (path : String)
  | readAccess (path : String) (upn : Bool)
  | writeAccess (path : String) (ac : Option AccessControl)
  | list (path : String) (recursive : Bool) (max : Int)
  | listContainers

namespace Call

/-- What a call gives back when it succeeds. -/
abbrev Answer : Call → Type
  | .present _ => Bool
  | .createContainer _ | .createDirectory _ | .writeAccess _ _ => Unit
  | .readAccess _ _ => AccessControl
  | .list _ _ _ => List Item
  | .listContainers => List String

/-- The operation a call is of. -/
def op : Call → Operation
  | .present _ => .presence
  | .createContainer _ => .createContainer
  | .createDirectory _ => .createDirectory
  | .readAccess _ _ => .readAccess
  | .writeAccess _ _ => .writeAccess
  | .list _ _ _ => .list
  | .listContainers => .listContainers

/-- Whether a call only looks: a presence check, a read of a state, or a listing. -/
def isRead : Call → Bool
  | .present _ | .readAccess _ _ | .list _ _ _ | .listContainers => true
  | .createContainer _ | .createDirectory _ | .writeAccess _ _ => false

/-- Whether a call looks at one path or at the containers: a presence check, a read of a state,
or the list of containers, but not the listing of a directory. -/
def inspects : Call → Bool
  | .present _ | .readAccess _ _ | .listContainers => true
  | .createContainer _ | .createDirectory _ | .writeAccess _ _ | .list _ _ _ => false

end Call

/-- A call with the answer the storage gave it, a value or a failure. -/
structure Exchange where
  call : Call
  answer : Except Error call.Answer

/-- The operation of a storage that a call names, at the call's arguments. -/
def Storage.perform {m : Type → Type} (s : Storage m) : (c : Call) → m c.Answer
  | .present p => s.present p
  | .createContainer n => s.createContainer n
  | .createDirectory p => s.createDirectory p
  | .readAccess p upn => s.readAccess p upn
  | .writeAccess p ac => s.writeAccess p ac
  | .list p r k => s.list p r k
  | .listContainers => s.listContainers

/-- The contents of a storage, with the calls made so far and the lines logged so far. -/
structure Traced (σ : Type) where
  store : σ
  exchanges : List Exchange := []
  lines : List (Level × String) := []

/-- Computations over a recorded storage. -/
abbrev TracedM (σ : Type) := EStateM Error (Traced σ)

section Record

variable {σ : Type}

namespace Traced

/-- A computation on the contents alone, made inside a record. -/
def onStore {α : Type} (x : EStateM Error σ α) : TracedM σ α := fun t =>
  match x.run t.store with
  | .ok a st => .ok a { t with store := st }
  | .error e st => .error e { t with store := st }

/-- Makes one call of the storage and records it with its answer. -/
def record (s : Storage (EStateM Error σ)) (c : Call) : TracedM σ c.Answer := fun t =>
  match (s.perform c).run t.store with
  | .ok a st => .ok a { t with store := st, exchanges := t.exchanges ++ [⟨c, .ok a⟩] }
  | .error e st => .error e { t with store := st, exchanges := t.exchanges ++ [⟨c, .error e⟩] }

/-- Logs a line into the record. -/
def say (lv : Level) (msg : String) : TracedM σ Unit :=
  modify fun t => { t with lines := t.lines ++ [(lv, msg)] }

end Traced

/-- The storage whose every call is recorded. -/
def Storage.traced (s : Storage (EStateM Error σ)) : Storage (TracedM σ) where
  name := s.name
  capabilities := s.capabilities
  start := Traced.onStore s.start
  stop := Traced.onStore s.stop
  present p := Traced.record s (.present p)
  createContainer n := Traced.record s (.createContainer n)
  createDirectory p := Traced.record s (.createDirectory p)
  readAccess p upn := Traced.record s (.readAccess p upn)
  writeAccess p ac := Traced.record s (.writeAccess p ac)
  list p r k := Traced.record s (.list p r k)
  listContainers := Traced.record s .listContainers

/-- Whether the caller has given up, which it has once `cut` holds of the calls made so far. -/
def Traced.givenUp (cut : List Exchange → Bool) : TracedM σ Bool := fun t =>
  .ok (cut t.exchanges) t

/-- The reconciler over a recorded storage: it logs into the record, and the caller gives up once
`cut` holds of the calls made so far. -/
def Reconciler.traced (s : Storage (EStateM Error σ)) (cut : List Exchange → Bool)
    (batchSize : Nat) : Reconciler (TracedM σ) where
  storage := s.traced
  log := Traced.say
  cancelled := Traced.givenUp cut
  batchSize := batchSize

section Unfold

variable {s : Storage (EStateM Error σ)} {cut : List Exchange → Bool} {b : Nat}

@[simp] theorem Reconciler.traced_storage : (Reconciler.traced s cut b).storage = s.traced := rfl
@[simp] theorem Reconciler.traced_log : (Reconciler.traced s cut b).log = Traced.say := rfl
@[simp] theorem Reconciler.traced_cancelled :
    (Reconciler.traced s cut b).cancelled = Traced.givenUp cut := rfl
@[simp] theorem Reconciler.traced_batchSize : (Reconciler.traced s cut b).batchSize = b := rfl

@[simp] theorem Storage.traced_supports (c : Capability) : s.traced.supports c = s.supports c := rfl
@[simp] theorem Storage.traced_name : s.traced.name = s.name := rfl
@[simp] theorem Storage.traced_present (p : String) :
    s.traced.present p = Traced.record s (.present p) := rfl
@[simp] theorem Storage.traced_createContainer (n : String) :
    s.traced.createContainer n = Traced.record s (.createContainer n) := rfl
@[simp] theorem Storage.traced_createDirectory (p : String) :
    s.traced.createDirectory p = Traced.record s (.createDirectory p) := rfl
@[simp] theorem Storage.traced_readAccess (p : String) (upn : Bool) :
    s.traced.readAccess p upn = Traced.record s (.readAccess p upn) := rfl
@[simp] theorem Storage.traced_writeAccess (p : String) (ac : Option AccessControl) :
    s.traced.writeAccess p ac = Traced.record s (.writeAccess p ac) := rfl
@[simp] theorem Storage.traced_list (p : String) (r : Bool) (k : Int) :
    s.traced.list p r k = Traced.record s (.list p r k) := rfl
@[simp] theorem Storage.traced_listContainers :
    s.traced.listContainers = Traced.record s .listContainers := rfl

end Unfold

/-- A recorded call that succeeds appends its call with the value to the record. -/
theorem Traced.record_run_ok {s : Storage (EStateM Error σ)} {c : Call} {t : Traced σ}
    {a : c.Answer} {st : σ} (h : (s.perform c).run t.store = .ok a st) :
    (record s c).run t =
      .ok a { t with store := st, exchanges := t.exchanges ++ [⟨c, .ok a⟩] } := by
  simp only [EStateM.run, record] at h ⊢
  rw [h]

/-- A recorded call that fails appends its call with the failure to the record. -/
theorem Traced.record_run_error {s : Storage (EStateM Error σ)} {c : Call} {t : Traced σ}
    {e : Error} {st : σ} (h : (s.perform c).run t.store = .error e st) :
    (record s c).run t =
      .error e { t with store := st, exchanges := t.exchanges ++ [⟨c, .error e⟩] } := by
  simp only [EStateM.run, record] at h ⊢
  rw [h]

/-- A recorded call that returned made the call, which returned the same, and recorded it. -/
theorem Traced.record_run_ok_inv {s : Storage (EStateM Error σ)} {c : Call} {t t' : Traced σ}
    {a : c.Answer} (h : (record s c).run t = .ok a t') :
    (s.perform c).run t.store = .ok a t'.store ∧ t'.exchanges = t.exchanges ++ [⟨c, .ok a⟩] := by
  cases hperform : (s.perform c).run t.store with
  | ok a' st =>
    rw [Traced.record_run_ok hperform] at h
    cases h
    exact ⟨rfl, rfl⟩
  | error e st =>
    rw [Traced.record_run_error hperform] at h
    cases h

end Record

/-! ## Runs that keep a relation -/

section Keeps

variable {ε σ α β : Type}

/-- The state a run ends in, whether it returned or failed. -/
def endState : EStateM.Result ε σ α → σ
  | .ok _ s => s
  | .error _ s => s

@[simp] theorem endState_ok (a : α) (s : σ) : endState (.ok a s : EStateM.Result ε σ α) = s := rfl
@[simp] theorem endState_error (e : ε) (s : σ) :
    endState (.error e s : EStateM.Result ε σ α) = s := rfl

/-- A mapped run is the run with its value mapped, its failures as they were. -/
theorem run_map (f : α → β) (x : EStateM ε σ α) (s : σ) :
    (f <$> x).run s = match x.run s with
      | .ok a s' => .ok (f a) s'
      | .error e s' => .error e s' := rfl

/-- A handled run is the run of the body, or of the handler from where the body failed: nothing
of the state is rolled back. -/
theorem run_tryCatch (x : EStateM ε σ α) (h : ε → EStateM ε σ α) (s : σ) :
    (tryCatch x h).run s = match x.run s with
      | .ok a s' => .ok a s'
      | .error e s' => (h e).run s' := by
  change EStateM.tryCatch x h s = _
  simp only [EStateM.tryCatch, EStateM.Backtrackable.restore, EStateM.dummyRestore, EStateM.run]
  cases x s <;> rfl

/-- A run of `x >>= f` that returns ran `x` to a value and then `f` of that value. -/
theorem bind_run_ok {x : EStateM ε σ α} {f : α → EStateM ε σ β} {s s' : σ} {b : β}
    (h : (x >>= f).run s = .ok b s') : ∃ a s₁, x.run s = .ok a s₁ ∧ (f a).run s₁ = .ok b s' := by
  rw [EStateM.run_bind] at h
  cases hx : x.run s with
  | ok a s₁ =>
    rw [hx] at h
    exact ⟨a, s₁, rfl, h⟩
  | error e s₁ =>
    rw [hx] at h
    cases h

/-- Every run of `x` ends, returning or failing, in a state that `R` relates to the one it
started in. -/
def Keeps (R : σ → σ → Prop) (x : EStateM ε σ α) : Prop := ∀ s, R s (endState (x.run s))

/-- Every value that a run of `x` returns satisfies `P`. -/
def Returns (P : α → Prop) (x : EStateM ε σ α) : Prop := ∀ s a s', x.run s = .ok a s' → P a

/-- What a run returns satisfies every consequence of what it is known to satisfy. -/
theorem Returns.mono {P Q : α → Prop} {x : EStateM ε σ α} (h : Returns P x)
    (hPQ : ∀ a, P a → Q a) : Returns Q x :=
  fun s a s' hrun => hPQ a (h s a s' hrun)

variable {R : σ → σ → Prop}

/-- A run that keeps a relation keeps every weaker one. -/
theorem Keeps.mono {R' : σ → σ → Prop} {x : EStateM ε σ α} (h : Keeps R x)
    (hR : ∀ s s', R s s' → R' s s') : Keeps R' x :=
  fun s => hR _ _ (h s)

/-- A choice between two runs that keep a relation keeps it. -/
theorem Keeps.ite {c : Prop} [Decidable c] {x y : EStateM ε σ α} (hx : Keeps R x)
    (hy : Keeps R y) : Keeps R (if c then x else y) := by
  split
  · exact hx
  · exact hy

variable [IsPreorder σ R]

/-- Returning a value changes no state. -/
theorem Keeps.pure (a : α) : Keeps (ε := ε) R (pure a) := fun s => refl_of R s

/-- Throwing changes no state. -/
theorem Keeps.throw (e : ε) : Keeps R (throw e : EStateM ε σ α) := fun s => refl_of R s

/-- A run that throws at once never reaches what follows. -/
theorem Keeps.throw_bind (e : ε) (f : α → EStateM ε σ β) :
    Keeps R ((MonadExcept.throw e : EStateM ε σ α) >>= f) :=
  fun s => refl_of R s

/-- A run of `x >>= f` is a run of `x` and, when it returned `a`, a run of `f a`; the second
only needs to keep `R` for the values `x` can return. -/
theorem Keeps.bind {x : EStateM ε σ α} {f : α → EStateM ε σ β} {P : α → Prop}
    (hx : Keeps R x) (hr : Returns P x) (hf : ∀ a, P a → Keeps R (f a)) :
    Keeps R (x >>= f) := by
  intro s
  have hs := hx s
  rw [EStateM.run_bind]
  cases h : x.run s with
  | ok a s' =>
    rw [h] at hs
    exact trans_of R hs (hf a (hr s a s' h) s')
  | error e s' =>
    rw [h] at hs
    exact hs

/-- `Keeps.bind` when nothing is needed of the values `x` returns. -/
theorem Keeps.seq {x : EStateM ε σ α} {f : α → EStateM ε σ β} (hx : Keeps R x)
    (hf : ∀ a, Keeps R (f a)) : Keeps R (x >>= f) :=
  Keeps.bind (P := fun _ => True) hx (fun _ _ _ _ => trivial) fun a _ => hf a

/-- A handled run keeps a relation that the body and every handler keep: the handler starts where
the body failed. -/
theorem Keeps.tryCatch {x : EStateM ε σ α} {h : ε → EStateM ε σ α} (hx : Keeps R x)
    (hh : ∀ e, Keeps R (h e)) : Keeps R (tryCatch x h) := by
  intro s
  have hs := hx s
  rw [run_tryCatch]
  cases hxs : x.run s with
  | ok a s' =>
    rw [hxs] at hs
    exact hs
  | error e s' =>
    rw [hxs] at hs
    exact trans_of R hs (hh e s')

/-- A fold keeps a relation that each of its steps keeps, by induction on the elements still to
fold. -/
theorem Keeps.foldlM {γ : Type} {f : β → γ → EStateM ε σ β} :
    ∀ {xs : List γ}, (∀ b, ∀ c ∈ xs, Keeps R (f b c)) → ∀ b, Keeps R (xs.foldlM f b)
  | [], _, b => Keeps.pure b
  | c :: cs, hf, b => by
    rw [List.foldlM_cons]
    exact Keeps.seq (hf b c (.head _)) fun b' =>
      Keeps.foldlM (fun b c hc => hf b c (.tail _ hc)) b'

/-- A loop keeps a relation that each pass of its body keeps, whether it goes on or stops early. -/
theorem Keeps.forIn {γ : Type} {f : γ → β → EStateM ε σ (ForInStep β)}
    (hf : ∀ c b, Keeps R (f c b)) : ∀ (xs : List γ) (b : β), Keeps R (forIn xs b f)
  | [], b => Keeps.pure b
  | c :: cs, b => by
    rw [List.forIn_cons]
    refine Keeps.seq (hf c b) fun step => ?_
    cases step with
    | done b' => exact Keeps.pure b'
    | yield b' => exact Keeps.forIn hf cs b'

/-- A fold whose every step keeps the invariant `P` of the state and the value so far keeps it to
the end. -/
theorem foldlM_run_invariant {γ : Type} {f : β → γ → EStateM ε σ β} (P : σ → β → Prop) :
    ∀ {xs : List γ}, (∀ b, ∀ c ∈ xs, ∀ s b' s', P s b → (f b c).run s = .ok b' s' → P s' b') →
      ∀ {b s b' s'}, P s b → (xs.foldlM f b).run s = .ok b' s' → P s' b'
  | [], _, b, s, b', s', hP, h => by
    simp only [List.foldlM_nil, EStateM.run_pure, EStateM.Result.ok.injEq] at h
    obtain ⟨rfl, rfl⟩ := h
    exact hP
  | c :: cs, hf, b, s, b', s', hP, h => by
    rw [List.foldlM_cons, EStateM.run_bind] at h
    split at h
    · next b₁ s₁ hstep =>
      exact foldlM_run_invariant P (fun b c hc => hf b c (.tail _ hc))
        (hf b c (.head _) s b₁ s₁ hP hstep) h
    · cases h

end Keeps

/-! ## Relations on the contents -/

section OnStore

variable {σ : Type} {R : σ → σ → Prop} {s : Storage (EStateM Error σ)}

/-- A relation on the contents of a storage, read as a relation on recorded states. -/
def Traced.OnStore (R : σ → σ → Prop) (t t' : Traced σ) : Prop := R t.store t'.store

/-- A preorder on the contents is one on recorded states. -/
instance [IsPreorder σ R] : IsPreorder (Traced σ) (Traced.OnStore R) where
  refl t := refl_of R t.store
  trans _ _ _ h₁ h₂ := trans_of R h₁ h₂

/-- A recorded call keeps a relation on the contents that the call itself keeps. -/
theorem Traced.record_onStore {c : Call} (h : Keeps R (s.perform c)) :
    Keeps (Traced.OnStore R) (Traced.record s c) := by
  intro t
  have hs := h t.store
  cases hrun : (s.perform c).run t.store with
  | ok a st =>
    rw [hrun] at hs
    rw [Traced.record_run_ok hrun]
    exact hs
  | error e st =>
    rw [hrun] at hs
    rw [Traced.record_run_error hrun]
    exact hs

/-- A recorded call returns what the call itself returns. -/
theorem Traced.record_returns {c : Call} {P : c.Answer → Prop} (h : Returns P (s.perform c)) :
    Returns P (Traced.record s c) := by
  intro t a t' hrun
  cases hperform : (s.perform c).run t.store with
  | ok a' st =>
    rw [Traced.record_run_ok hperform] at hrun
    cases hrun
    exact h t.store a st hperform
  | error e st =>
    rw [Traced.record_run_error hperform] at hrun
    cases hrun

/-- Logging leaves the contents alone. -/
theorem Traced.say_onStore [IsPreorder σ R] (lv : Level) (msg : String) :
    Keeps (Traced.OnStore R) (Traced.say (σ := σ) lv msg) :=
  fun t => refl_of R t.store

end OnStore

/-! ## Runs that end in a condition -/

section Triple

variable {ε σ α β : Type} {P : σ → Prop}

/-- Every run of `x` from a state where `P` holds that returns `a` ends in a state where `Q a`
holds. -/
def Triple (P : σ → Prop) (x : EStateM ε σ α) (Q : α → σ → Prop) : Prop :=
  ∀ s a s', P s → x.run s = .ok a s' → Q a s'

/-- The run of `x` from `s` returns, and its value and end state satisfy `Q`. -/
def Yields (x : EStateM ε σ α) (s : σ) (Q : α → σ → Prop) : Prop :=
  ∃ a s', x.run s = .ok a s' ∧ Q a s'

namespace Triple

variable {Q : α → σ → Prop}

/-- Returning a value ends where it starts. -/
theorem pure {a : α} (h : ∀ s, P s → Q a s) : Triple P (Pure.pure a : EStateM ε σ α) Q := by
  intro s a' s' hP hrun
  simp only [EStateM.run_pure, EStateM.Result.ok.injEq] at hrun
  obtain ⟨rfl, rfl⟩ := hrun
  exact h s hP

/-- A run that throws at once returns nothing, so it satisfies every triple. -/
theorem throw_bind (e : ε) (f : β → EStateM ε σ α) :
    Triple P ((MonadExcept.throw e : EStateM ε σ β) >>= f) Q :=
  fun _ _ _ _ h => nomatch h

/-- Nothing is promised of a run. -/
theorem anything (x : EStateM ε σ α) : Triple P x fun _ _ => True :=
  fun _ _ _ _ _ => trivial

/-- Sequencing: the condition `x` ends in is the precondition of what follows. -/
theorem bind {x : EStateM ε σ β} {f : β → EStateM ε σ α} {M : β → σ → Prop}
    (hx : Triple P x M) (hf : ∀ b, Triple (M b) (f b) Q) : Triple P (x >>= f) Q := by
  intro s a s' hP hrun
  rw [EStateM.run_bind] at hrun
  cases hx' : x.run s with
  | ok b s₁ =>
    rw [hx'] at hrun
    exact hf b s₁ a s' (hx s b s₁ hP hx') hrun
  | error e s₁ =>
    rw [hx'] at hrun
    cases hrun

/-- A choice between two runs that satisfy a triple satisfies it. -/
theorem ite {c : Prop} [Decidable c] {x y : EStateM ε σ α} (hx : Triple P x Q)
    (hy : Triple P y Q) : Triple P (if c then x else y) Q := by
  split
  · exact hx
  · exact hy

/-- A run that keeps `R` takes `P` to every condition that `R` leads to from `P`. -/
theorem of_keeps {R : σ → σ → Prop} {x : EStateM ε σ α} {P' : σ → Prop} (hx : Keeps R x)
    (h : ∀ s s', R s s' → P s → P' s') : Triple P x fun _ => P' := by
  intro s a s' hP hrun
  have hs := hx s
  rw [hrun] at hs
  exact h s s' hs hP

/-- A throw returns nothing, so it satisfies every triple. -/
theorem throw (e : ε) : Triple P (throw e : EStateM ε σ α) Q := fun _ _ _ _ h => nomatch h

/-- A stronger precondition keeps a triple. -/
theorem weaken {P' : σ → Prop} {x : EStateM ε σ α} (hx : Triple P x Q) (h : ∀ s, P' s → P s) :
    Triple P' x Q :=
  fun s a s' hP hrun => hx s a s' (h s hP) hrun

/-- A fact about the values bound so far can be taken out of the precondition. -/
theorem of_and {c : Prop} {x : EStateM ε σ α} (h : c → Triple P x Q) :
    Triple (fun s => P s ∧ c) x Q :=
  fun s a s' ⟨hP, hc⟩ hrun => h hc s a s' hP hrun

/-- A handled run satisfies `Q` when the body does and the handler does from wherever the body
failed. -/
theorem tryCatch {x : EStateM ε σ α} {h : ε → EStateM ε σ α} (hx : Triple P x Q)
    (hh : ∀ e, Triple (fun _ => True) (h e) Q) : Triple P (tryCatch x h) Q := by
  intro s a s' hP hrun
  rw [run_tryCatch] at hrun
  cases hxs : x.run s with
  | ok a₁ s₁ =>
    rw [hxs] at hrun
    cases hrun
    exact hx s a s' hP hxs
  | error e s₁ =>
    rw [hxs] at hrun
    exact hh e s₁ a s' trivial hrun

/-- What every run from `P` is known to yield holds of the run that returned. -/
theorem of_yields {x : EStateM ε σ α} (h : ∀ s, P s → Yields x s Q) : Triple P x Q := by
  intro s a s' hP hrun
  obtain ⟨a', s'', hrun', hQ⟩ := h s hP
  rw [hrun] at hrun'
  cases hrun'
  exact hQ

end Triple

namespace Yields

variable {x : EStateM ε σ β} {s : σ} {Q : α → σ → Prop} {M' : β → σ → Prop}

/-- Returning a value yields it in the state it starts from. -/
theorem pure {a : α} (h : Q a s) : Yields (Pure.pure a : EStateM ε σ α) s Q := ⟨a, s, rfl, h⟩

/-- A run that yields, followed by a continuation that yields from wherever the first ended, yields.
-/
theorem bind {f : β → EStateM ε σ α} {M : β → σ → Prop} (hx : Yields x s M)
    (hf : ∀ b s', M b s' → Yields (f b) s' Q) : Yields (x >>= f) s Q := by
  obtain ⟨b, s₁, hrun, hM⟩ := hx
  obtain ⟨a, s₂, hrun', hQ⟩ := hf b s₁ hM
  exact ⟨a, s₂, by rw [EStateM.run_bind, hrun]; exact hrun', hQ⟩

/-- A run that yields a condition yields every consequence of it. -/
theorem mono {M : β → σ → Prop} (hx : Yields x s M) (hM : ∀ b s', M b s' → M' b s') :
    Yields x s M' := by
  obtain ⟨b, s', hrun, hb⟩ := hx
  exact ⟨b, s', hrun, hM b s' hb⟩

/-- A choice yields what the branch taken yields. -/
theorem ite {c : Prop} [Decidable c] {y : EStateM ε σ β} {M : β → σ → Prop}
    (hx : c → Yields x s M) (hy : ¬c → Yields y s M) : Yields (if c then x else y) s M := by
  split
  · next hc => exact hx hc
  · next hc => exact hy hc

/-- Runs that return, each relating its end state to its start by a transitive `R`, make a run
that returns and relates its end state to its start by `R`. -/
theorem bind_trans {R : σ → σ → Prop} [IsTrans σ R] {f : β → EStateM ε σ α} {P : β → Prop}
    {P' : α → Prop} (hx : Yields x s fun b s' => P b ∧ R s s')
    (hf : ∀ b s', P b → R s s' → Yields (f b) s' fun a s'' => P' a ∧ R s' s'') :
    Yields (x >>= f) s fun a s'' => P' a ∧ R s s'' :=
  hx.bind fun b s' ⟨hb, hs⟩ => (hf b s' hb hs).mono fun _ _ ⟨ha, hs'⟩ => ⟨ha, trans_of R hs hs'⟩

end Yields

end Triple

/-! ## Runs that only inspect -/

section Inspect

variable {σ α : Type} {s : Storage (EStateM Error σ)}

/-- `t'` follows `t` by inspections alone: the contents are the same, and every call recorded
since looked at one path or at the containers. -/
def Traced.Inspected (t t' : Traced σ) : Prop :=
  t'.store = t.store ∧ ∃ xs, t'.exchanges = t.exchanges ++ xs ∧ ∀ x ∈ xs, x.call.inspects

/-- Following by inspections is reflexive and transitive: the calls recorded on the way concatenate.
-/
instance : IsPreorder (Traced σ) Traced.Inspected where
  refl t := ⟨rfl, [], by simp, by simp⟩
  trans _ _ _ h₁ h₂ := by
    obtain ⟨hst₁, xs₁, hx₁, hi₁⟩ := h₁
    obtain ⟨hst₂, xs₂, hx₂, hi₂⟩ := h₂
    refine ⟨hst₂.trans hst₁, xs₁ ++ xs₂, by simp [hx₂, hx₁], fun x hx => ?_⟩
    rcases List.mem_append.1 hx with hx | hx
    · exact hi₁ x hx
    · exact hi₂ x hx

/-- An inspecting call that the storage answers without a change moves the record on by
inspection. -/
theorem Traced.record_inspected {c : Call} (hc : c.inspects = true) {t : Traced σ} {a : c.Answer}
    (h : (s.perform c).run t.store = .ok a t.store) :
    Yields (Traced.record s c) t fun a' t' => a' = a ∧ Traced.Inspected t t' :=
  ⟨a, _, Traced.record_run_ok h, rfl, rfl, [⟨c, .ok a⟩], rfl, by simpa using hc⟩

/-- Logging moves the record on by inspection: no call is recorded. -/
theorem Traced.say_inspected (lv : Level) (msg : String) (t : Traced σ) :
    Yields (Traced.say lv msg) t fun _ t' => True ∧ Traced.Inspected t t' :=
  ⟨(), _, rfl, trivial, rfl, [], by simp, by simp⟩

/-- A caller who never gives up lets the run go on. -/
theorem Traced.live_yields {f : Bool → TracedM σ α} {t : Traced σ} {Q : α → Traced σ → Prop}
    (h : Yields (f false) t Q) : Yields (Traced.givenUp (fun _ => false) >>= f) t Q :=
  h

end Inspect

/-! ## Batches -/

/-- A fold whose every step moves one element to the end of its batches loses and repeats
nothing: the batches, with the one still open, concatenate to what was folded. -/
theorem foldl_flatten_append {α : Type} {f : List (List α) × List α → α → List (List α) × List α}
    (hf : ∀ acc x, (f acc x).1.flatten ++ (f acc x).2 = acc.1.flatten ++ acc.2 ++ [x]) :
    ∀ (xs : List α) (acc r : List (List α) × List α), xs.foldl f acc = r →
      r.1.flatten ++ r.2 = acc.1.flatten ++ acc.2 ++ xs
  | [], acc, r, h => by
    subst h
    simp
  | x :: xs, acc, r, h => by
    rw [foldl_flatten_append hf xs (f acc x) r h, hf]
    simp

/-- Cutting a list into batches loses and repeats nothing: the batches concatenate to the list,
in order. -/
theorem flatten_chunks {α : Type} (n : Nat) (xs : List α) : (chunks n xs).flatten = xs := by
  unfold chunks
  split
  next done current hfold =>
    have key := foldl_flatten_append ?step xs ([], []) (done, current) hfold
    · simp only [List.flatten_nil, List.append_nil, List.nil_append] at key
      split
      · next hempty =>
        rw [List.isEmpty_iff] at hempty
        simpa [hempty] using key
      · simpa using key
    case step =>
      intro acc x
      split <;> simp

/-- Every element of a batch is an element of the list cut into batches. -/
theorem mem_of_mem_chunks {α : Type} {n : Nat} {xs batch : List α} {x : α}
    (hb : batch ∈ chunks n xs) (hx : x ∈ batch) : x ∈ xs := by
  rw [← flatten_chunks n xs]
  exact List.mem_flatten.2 ⟨batch, hb, hx⟩

/-! ## What processing a directory can do -/

section Process

variable {σ : Type} {s : Storage (EStateM Error σ)} {cut : List Exchange → Bool} {b : Nat}
  {R : Traced σ → Traced σ → Prop} {d : DeclaredDirectory}

/-- The steps that processing any directory over the storage `s` may take and that keep `R`: any
call that only looks, and logging at info or warn level. -/
structure LooksKeep (R : Traced σ → Traced σ → Prop) (s : Storage (EStateM Error σ)) : Prop where
  read : ∀ c, c.isRead → Keeps R (Traced.record s c)
  say : ∀ lv msg, lv = Level.info ∨ lv = Level.warn → Keeps R (Traced.say lv msg)

/-- The steps that processing the directory `d` over the storage `s` may take, each keeping `R`:
any call that only looks, creating `d`'s path, writing `d`'s path, writing any item that the
listing of `d` returns, and logging at info or warn level. -/
structure Preserves (R : Traced σ → Traced σ → Prop) (s : Storage (EStateM Error σ))
    (d : DeclaredDirectory) : Prop extends LooksKeep R s where
  createContainer : Keeps R (Traced.record s (.createContainer d.path))
  createDirectory : Keeps R (Traced.record s (.createDirectory d.path))
  writeOwn : ∀ ac, Keeps R (Traced.record s (.writeAccess d.path ac))
  writeListed : Returns (fun its : List Item => ∀ it ∈ its, ∀ ac,
      Keeps R (Traced.record s (.writeAccess it.path ac)))
    (Traced.record s (.list d.path d.recurse 0))

/-- The reads and logs of any directory keep a relation on the contents that the storage's reads
keep. -/
theorem LooksKeep.onStore {Rs : σ → σ → Prop} [IsPreorder σ Rs]
    (h : ∀ c, c.isRead → Keeps Rs (s.perform c)) : LooksKeep (Traced.OnStore Rs) s :=
  ⟨fun c hc => Traced.record_onStore (h c hc), fun lv msg _ => Traced.say_onStore lv msg⟩

variable [IsPreorder (Traced σ) R]

/-- Asking whether the caller has given up changes nothing. -/
theorem givenUp_keeps : Keeps R (Traced.givenUp (σ := σ) cut) := fun t => refl_of R t

/-- Making sure a directory's path exists keeps every relation its steps keep: the path is looked
up, among the containers or directly, and then it may be created, with logs either way. -/
theorem Reconciler.ensure_keeps (h : Preserves R s d) :
    Keeps R ((Reconciler.traced s cut b).ensure d) := by
  unfold Reconciler.ensure
  simp only [Reconciler.traced_storage, Reconciler.traced_log, Storage.traced_listContainers,
    Storage.traced_present, Storage.traced_createContainer, Storage.traced_createDirectory]
  refine Keeps.ite (Keeps.seq (h.read _ rfl) fun cs => Keeps.seq (Keeps.pure _) fun present => ?_)
    (Keeps.seq (h.read _ rfl) fun present => ?_)
  all_goals
    refine Keeps.ite (Keeps.seq (h.say _ _ (.inl rfl)) fun _ => Keeps.pure _) (Keeps.ite ?_ ?_)
    · exact Keeps.seq h.createContainer fun _ =>
        Keeps.seq (h.say _ _ (.inl rfl)) fun _ => Keeps.pure _
    · exact Keeps.seq h.createDirectory fun _ =>
        Keeps.seq (h.say _ _ (.inl rfl)) fun _ => Keeps.pure _

/-- Applying an item keeps every relation that reading and writing its path keep. -/
theorem Reconciler.applyItem_keeps {acl defaultAcl : List AclEntry} {upn : Bool} {it : Item}
    (h : LooksKeep R s) (hw : ∀ ac, Keeps R (Traced.record s (.writeAccess it.path ac))) :
    Keeps R ((Reconciler.traced s cut b).applyItem acl defaultAcl upn it) := by
  unfold Reconciler.applyItem
  simp only [Reconciler.traced_storage, Storage.traced_readAccess, Storage.traced_writeAccess]
  exact Keeps.seq (h.read _ rfl) fun _ => hw _

/-- Applying a batch keeps every relation that its items' steps keep, a failed item included. -/
theorem Reconciler.applyBatch_keeps {acl defaultAcl : List AclEntry} {upn : Bool}
    {batch : List Item} (h : LooksKeep R s)
    (hw : ∀ it ∈ batch, ∀ ac, Keeps R (Traced.record s (.writeAccess it.path ac))) :
    Keeps R ((Reconciler.traced s cut b).applyBatch acl defaultAcl upn batch) := by
  unfold Reconciler.applyBatch
  refine Keeps.foldlM (fun first it hit => ?_) none
  refine Keeps.seq (Keeps.tryCatch ?_ fun _ => Keeps.pure _) fun _ => Keeps.pure _
  exact Keeps.seq (Reconciler.applyItem_keeps h (hw it hit)) fun _ => Keeps.pure _

/-- Applying batches keeps every relation that their items' steps keep, by induction on the batches
left: a check for giving up, logs, a batch, and then the rest or the batch's failure. -/
theorem Reconciler.applyBatches_keeps {acl defaultAcl : List AclEntry} (h : LooksKeep R s) :
    ∀ {batches : List (List Item)},
      (∀ batch ∈ batches, ∀ it ∈ batch, ∀ ac, Keeps R (Traced.record s (.writeAccess it.path ac))) →
      Keeps R ((Reconciler.traced s cut b).applyBatches d acl defaultAcl batches)
  | [], _ => by
    unfold Reconciler.applyBatches
    exact Keeps.pure _
  | batch :: rest, hw => by
    unfold Reconciler.applyBatches
    simp only [Reconciler.traced_cancelled, Reconciler.traced_log]
    refine Keeps.seq givenUp_keeps fun _ => Keeps.ite (Keeps.throw_bind _ _) ?_
    refine Keeps.seq (Keeps.forIn (fun _ _ => Keeps.seq (h.say _ _ (.inl rfl)) fun _ =>
      Keeps.pure _) _ _) fun _ => ?_
    refine Keeps.seq (Reconciler.applyBatch_keeps h (hw batch (.head _))) fun failure => ?_
    cases failure with
    | some e => exact Keeps.throw e
    | none => exact Reconciler.applyBatches_keeps h fun batch hb => hw batch (.tail _ hb)

/-- Processing a directory keeps every relation that the steps it may take keep. -/
theorem Reconciler.process_keeps (h : Preserves R s d) :
    Keeps R ((Reconciler.traced s cut b).process d) := by
  unfold Reconciler.process
  simp only [Reconciler.traced_cancelled, Reconciler.traced_log, Reconciler.traced_storage,
    Storage.traced_readAccess, Storage.traced_writeAccess, Storage.traced_list,
    Reconciler.traced_batchSize]
  refine Keeps.seq givenUp_keeps fun _ => Keeps.ite (Keeps.throw_bind _ _) ?_
  refine Keeps.ite (Keeps.seq (h.say _ _ (.inr rfl)) fun _ => ?_) ?_
  all_goals
    refine Keeps.seq (Reconciler.ensure_keeps h) fun _ => Keeps.seq (h.read _ rfl) fun _ => ?_
    iterate 6 refine Keeps.seq (h.say _ _ (.inl rfl)) fun _ => ?_
    refine Keeps.ite (Keeps.pure _) (Keeps.seq (h.writeOwn _) fun _ => ?_)
    refine Keeps.bind (h.read _ rfl) h.writeListed fun items hitems => ?_
    refine Keeps.seq (Reconciler.applyBatches_keeps h.toLooksKeep fun batch hb it hit => ?_)
      fun _ => Keeps.pure _
    exact hitems it (mem_of_mem_chunks hb hit)

end Process

end AclReconcile
