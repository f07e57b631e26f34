import AclReconcile.Proofs.Run

/-!
# The calls a directory is processed with

Processing a declared directory is a fixed conversation with the storage. A `Protocol` is that
conversation as a tree: at each node a call is made, and its answer, a value or a failure, picks
the next node; a leaf says whether processing returned or failed. `Protocol.directory size d`
is the tree for the directory `d` when the listed items are written `size` at a time: make sure
the directory exists (through the list of containers for a container, through a presence check
for any other path), read its state, and, when the lists differ from the declared ones or the
declaration forces it, write the declared lists to the directory, list the items below it and
write each batch of them in turn. Every item is read, and written when the read succeeded; a batch
with a failed item is the last one.

`Protocol.Follows T xs ok` says that the exchanges `xs` are one path through `T`, each call with
the answer that chose the next node. While the caller has not given up, the calls a run of the
reconciler makes follow the directories' trees one after another, up to the first directory
whose processing fails (`Reconciler.run_follows_protocol`).
-/

namespace AclReconcile

/-- A conversation with the storage: a call, and what follows each of its answers. -/
inductive Protocol where
  /-- Processing has returned. -/
  | done
  /-- Processing has failed. -/
  | halt
  | call (c : Call) (next : Except Error c.Answer → Protocol)

namespace Protocol

/-- A path through the tree: the exchanges make the calls of the nodes it passes, each answered
with what chose the next node, and the path ends in a leaf that returned (`true`) or failed. -/
inductive Follows : Protocol → List Exchange → Bool → Prop
  | done : Follows .done [] true
  | halt : Follows .halt [] false
  | call {c : Call} {next : Except Error c.Answer → Protocol} {a : Except Error c.Answer}
      {xs : List Exchange} {ok : Bool} :
      Follows (next a) xs ok → Follows (.call c next) (⟨c, a⟩ :: xs) ok

/-- A call whose failure ends processing, followed by `next` with the value it gave. -/
def ask (c : Call) (next : c.Answer → Protocol) : Protocol :=
  .call c fun
    | .ok a => next a
    | .error _ => .halt

/-- Making sure the directory exists, then `next`. -/
def ensure (d : DeclaredDirectory) (next : Protocol) : Protocol :=
  if d.path.contains '/' then
    ask (.present d.path) fun (present : Bool) =>
      if present then next else ask (.createDirectory d.path) fun _ => next
  else
    ask .listContainers fun (names : List String) =>
      if names.contains d.path then next else ask (.createContainer d.path) fun _ => next

/-- Writing the declared lists to one item: its state is read and, when that succeeded, written
back with the declared lists, the default one only for a directory. `next` is told whether one of
the two calls failed. -/
def item (d : DeclaredDirectory) (it : Item) (next : Bool → Protocol) : Protocol :=
  .call (.readAccess it.path d.upn) fun
    | .error _ => next true
    | .ok (ac : AccessControl) =>
      .call (.writeAccess it.path (some { ac with
          acl := d.expectedAcl
          defaultAcl := if it.isFolder then d.expectedDefault else [] }))
        fun
          | .error _ => next true
          | .ok _ => next false

/-- Writing a batch of items, every one of them tried; when one failed (or `failed` says one
already did) processing fails after the batch, and otherwise goes on with `after`. -/
def items (d : DeclaredDirectory) (after : Protocol) : Bool → List Item → Protocol
  | failed, [] => if failed then .halt else after
  | failed, it :: rest => item d it fun f => items d after (failed || f) rest

/-- Writing the batches in turn. -/
def batches (d : DeclaredDirectory) : List (List Item) → Protocol
  | [] => .done
  | batch :: rest => items d (batches d rest) false batch

/-- Processing the declared directory `d`, the listed items written `size` at a time. -/
def directory (size : Nat) (d : DeclaredDirectory) : Protocol :=
  ensure d <| ask (.readAccess d.path d.upn) fun (ac : AccessControl) =>
    if !(Difference.ofState d.expectedAcl d.expectedDefault ac).isEmpty || d.force then
      ask (.writeAccess d.path
          (some { ac with acl := d.expectedAcl, defaultAcl := d.expectedDefault })) fun _ =>
        ask (.list d.path d.recurse 0) fun (listed : List Item) => batches d (chunks size listed)
    else .done

/-- The exchanges of a run over the directories `ds`: each directory's exchanges follow its tree,
the next directory starts where one returned, and the run stops where one failed. -/
inductive FollowsInTurn (size : Nat) : List DeclaredDirectory → List Exchange → Prop
  | nil : FollowsInTurn size [] []
  | next {d : DeclaredDirectory} {ds : List DeclaredDirectory} {xs ys : List Exchange} :
      (directory size d).Follows xs true → FollowsInTurn size ds ys →
        FollowsInTurn size (d :: ds) (xs ++ ys)
  | stop {d : DeclaredDirectory} {ds : List DeclaredDirectory} {xs : List Exchange} :
      (directory size d).Follows xs false → FollowsInTurn size (d :: ds) xs

end Protocol

/-! ## Computations that follow a tree -/

section Obeys

variable {σ α β : Type}

/-- Whether a run returned. -/
def returned {ε : Type} : EStateM.Result ε σ α → Bool
  | .ok _ _ => true
  | .error _ _ => false

/-- Every run of `x` adds to the record the exchanges of one path through `T`, ending in a leaf
that returned exactly when the run did. -/
def Obeys (x : TracedM σ α) (T : Protocol) : Prop :=
  ∀ t, ∃ xs, (endState (x.run t)).exchanges = t.exchanges ++ xs ∧
    T.Follows xs (returned (x.run t))

/-- `x` returns and makes no call. -/
def Silent (x : TracedM σ α) : Prop :=
  ∀ t, ∃ a t', x.run t = .ok a t' ∧ t'.exchanges = t.exchanges

namespace Obeys

/-- Returning a value makes no call and returns. -/
theorem pure (a : α) : Obeys (Pure.pure a : TracedM σ α) .done :=
  fun _ => ⟨[], by simp, .done⟩

/-- Throwing makes no call and fails. -/
theorem throw (e : Error) : Obeys (MonadExcept.throw e : TracedM σ α) .halt :=
  fun t => ⟨[], (List.append_nil t.exchanges).symm, .halt⟩

/-- A run that throws at once makes no call and fails. -/
theorem throw_bind (e : Error) (f : α → TracedM σ β) :
    Obeys ((MonadExcept.throw e : TracedM σ α) >>= f) .halt :=
  fun t => ⟨[], (List.append_nil t.exchanges).symm, .halt⟩

/-- A choice between two runs that follow a tree follows it. -/
theorem ite {c : Prop} [Decidable c] {x y : TracedM σ α} {T : Protocol} (hx : Obeys x T)
    (hy : Obeys y T) : Obeys (if c then x else y) T := by
  split
  · exact hx
  · exact hy

/-- A choice of runs, followed by `f`, follows the tree of the branch taken. -/
theorem ite_bind {c : Prop} [Decidable c] {x y : TracedM σ α} {f : α → TracedM σ β}
    {T U : Protocol} (hx : Obeys (x >>= f) T) (hy : Obeys (y >>= f) U) :
    Obeys ((if c then x else y) >>= f) (if c then T else U) := by
  split
  · exact hx
  · exact hy

/-- A call whose failure ends processing and whose value `f` goes on with. -/
theorem ask {s : Storage (EStateM Error σ)} {c : Call} {f : c.Answer → TracedM σ β}
    {next : c.Answer → Protocol} (hf : ∀ a, Obeys (f a) (next a)) :
    Obeys (Traced.record s c >>= f) (Protocol.ask c next) := by
  intro t
  rw [EStateM.run_bind]
  cases h : (s.perform c).run t.store with
  | ok a st =>
    rw [Traced.record_run_ok h]
    obtain ⟨xs, hxs, hfollows⟩ :=
      hf a { t with store := st, exchanges := t.exchanges ++ [⟨c, .ok a⟩] }
    exact ⟨⟨c, .ok a⟩ :: xs, by simp [hxs], .call hfollows⟩
  | error e st =>
    rw [Traced.record_run_error h]
    exact ⟨[⟨c, .error e⟩], by simp, .call .halt⟩

/-- A run that makes no call and returns, followed by `f`, follows the tree `f` follows. -/
theorem silent_bind {x : TracedM σ α} {f : α → TracedM σ β} {T : Protocol} (hx : Silent x)
    (hf : ∀ a, Obeys (f a) T) : Obeys (x >>= f) T := by
  intro t
  obtain ⟨a, t', hrun, hex⟩ := hx t
  obtain ⟨xs, hxs, hfollows⟩ := hf a t'
  rw [EStateM.run_bind, hrun]
  exact ⟨xs, by rw [hxs, hex], hfollows⟩

/-- A run of `x` from a state whose record has grown by `ys` since `t`: since `t`, the record has
grown by `ys` and the exchanges of a path through `T`, which together make a path through `U`. -/
theorem from_grown {x : TracedM σ α} {T U : Protocol} (hx : Obeys x T) {t t' : Traced σ}
    (ys : List Exchange) (ht : t'.exchanges = t.exchanges ++ ys)
    (hU : ∀ xs ok, T.Follows xs ok → U.Follows (ys ++ xs) ok) :
    ∃ xs, (endState (x.run t')).exchanges = t.exchanges ++ xs ∧
      U.Follows xs (returned (x.run t')) := by
  obtain ⟨xs, hxs, hfollows⟩ := hx t'
  exact ⟨ys ++ xs, by rw [hxs, ht, List.append_assoc], hU xs _ hfollows⟩

/-- A caller that never gives up lets the run go on. -/
theorem live_bind {f : Bool → TracedM σ β} {T : Protocol} (hf : Obeys (f false) T) :
    Obeys (Traced.givenUp (fun _ => false) >>= f) T :=
  fun t => hf t

/-- Returning a value made of what `x` returned follows the tree `x` follows. -/
theorem bind_pure {x : TracedM σ α} {g : α → β} {T : Protocol} (hx : Obeys x T) :
    Obeys (x >>= fun a => Pure.pure (g a)) T := by
  intro t
  obtain ⟨xs, hxs, hfollows⟩ := hx t
  rw [EStateM.run_bind]
  cases h : x.run t with
  | ok a t' =>
    rw [h] at hxs hfollows
    exact ⟨xs, hxs, hfollows⟩
  | error e t' =>
    rw [h] at hxs hfollows
    exact ⟨xs, hxs, hfollows⟩

end Obeys

/-- Logging makes no call. -/
theorem Traced.say_silent (lv : Level) (msg : String) : Silent (Traced.say (σ := σ) lv msg) :=
  fun _ => ⟨(), _, rfl, rfl⟩

/-- Returning a value makes no call. -/
theorem Silent.pure (a : α) : Silent (Pure.pure a : TracedM σ α) :=
  fun t => ⟨a, t, rfl, rfl⟩

/-- Two runs that make no call make none together. -/
theorem Silent.bind {x : TracedM σ α} {f : α → TracedM σ β} (hx : Silent x)
    (hf : ∀ a, Silent (f a)) : Silent (x >>= f) := by
  intro t
  obtain ⟨a, t₁, hrun, hex⟩ := hx t
  obtain ⟨a', t₂, hrun', hex'⟩ := hf a t₁
  rw [EStateM.run_bind, hrun]
  exact ⟨a', t₂, hrun', hex'.trans hex⟩

/-- A loop whose every pass makes no call makes none, whether it goes on or stops early. -/
theorem Silent.forIn {γ : Type} {f : γ → β → TracedM σ (ForInStep β)} (hf : ∀ c b, Silent (f c b)) :
    ∀ (xs : List γ) (b : β), Silent (forIn xs b f)
  | [], b => fun t => ⟨b, t, rfl, rfl⟩
  | c :: cs, b => by
    intro t
    obtain ⟨step, t₁, hrun, hex⟩ := hf c b t
    rw [List.forIn_cons, EStateM.run_bind, hrun]
    cases step with
    | done b' => exact ⟨b', t₁, rfl, hex⟩
    | yield b' =>
      obtain ⟨a, t₂, hrest, hex₂⟩ := Silent.forIn hf cs b' t₁
      exact ⟨a, t₂, hrest, hex₂.trans hex⟩

end Obeys

/-! ## The reconciler follows the trees -/

section Reconciler

variable {σ β : Type} {s : Storage (EStateM Error σ)} {cut : List Exchange → Bool} {b : Nat}
  {d : DeclaredDirectory}

/-- Making sure a directory's path exists follows the tree for it: one test on the path picks both
the way of finding out whether it exists and the way of creating it. -/
theorem Reconciler.ensure_obeys {f : Bool → TracedM σ β} {next : Protocol}
    (hf : ∀ created, Obeys (f created) next) :
    Obeys ((Reconciler.traced s cut b).ensure d >>= f) (Protocol.ensure d next) := by
  unfold Reconciler.ensure Protocol.ensure
  simp only [Reconciler.traced_storage, Reconciler.traced_log, Storage.traced_listContainers,
    Storage.traced_present, Storage.traced_createContainer, Storage.traced_createDirectory,
    DeclaredDirectory.isContainer, Path.isContainer]
  by_cases hc : d.path.contains '/' = true
  all_goals
    simp only [hc, Bool.not_true, Bool.not_false, Bool.false_eq_true, ↓reduceIte, bind_assoc,
      pure_bind]
    refine Obeys.ask fun _ => ?_
    refine Obeys.ite_bind ?_ ?_ <;> simp only [bind_assoc, pure_bind]
    · exact Obeys.silent_bind (Traced.say_silent _ _) fun _ => hf false
    · exact Obeys.ask fun _ => Obeys.silent_bind (Traced.say_silent _ _) fun _ => hf true

/-- One item of a batch: its state is read and written back with the declared lists, and a
failure of either call is kept, the batch's first failure winning. -/
theorem Reconciler.itemStep_obeys (first : Option Error) (it : Item)
    {k : Option Error → TracedM σ β} {P : Bool → Protocol} (hk : ∀ o, Obeys (k o) (P o.isSome)) :
    Obeys ((do
        let failure ← tryCatch (do
          (Reconciler.traced s cut b).applyItem d.expectedAcl d.expectedDefault d.upn it
          pure none) fun e => pure (some e)
        pure (first <|> failure)) >>= k)
      (Protocol.item d it fun failed => P (first.isSome || failed)) := by
  intro t
  unfold Reconciler.applyItem
  simp only [Reconciler.traced_storage, Storage.traced_readAccess, Storage.traced_writeAccess,
    EStateM.run_bind, run_tryCatch]
  cases hread : (s.perform (.readAccess it.path d.upn)).run t.store with
  | error e st =>
    simp only [Traced.record_run_error hread, EStateM.run_pure]
    exact Obeys.from_grown (hk _) _ rfl fun xs ok h => .call (by simpa using h)
  | ok ac st =>
    simp only [Traced.record_run_ok hread]
    generalize ht₁ : ({ t with
      store := st
      exchanges := t.exchanges ++ [⟨.readAccess it.path d.upn, .ok ac⟩] } : Traced σ) = t₁
    cases hwrite : (s.perform (.writeAccess it.path
        (some (ac.replace d.expectedAcl d.expectedDefault it.isFolder)))).run t₁.store with
    | error e st' =>
      simp only [Traced.record_run_error hwrite, EStateM.run_pure]
      subst ht₁
      exact Obeys.from_grown (hk _) [⟨_, .ok ac⟩, ⟨_, .error e⟩] (by simp [AccessControl.replace])
        fun xs ok h => .call (.call (by simpa using h))
    | ok u st' =>
      simp only [Traced.record_run_ok hwrite, EStateM.run_pure]
      subst ht₁
      exact Obeys.from_grown (hk _) [⟨_, .ok ac⟩, ⟨_, .ok u⟩] (by simp [AccessControl.replace])
        fun xs ok h => .call (.call (by simpa using h))

/-- Trying the items of a batch in turn, the failure the fold carries deciding whether `g` is
given one. -/
theorem Obeys.foldlM_items {f : Option Error → Item → TracedM σ (Option Error)}
    {g : Option Error → TracedM σ β} {after : Protocol}
    (hf : ∀ first it (k : Option Error → TracedM σ β) (P : Bool → Protocol),
      (∀ o, Obeys (k o) (P o.isSome)) →
        Obeys (f first it >>= k) (Protocol.item d it fun failed => P (first.isSome || failed)))
    (hnone : Obeys (g none) after) (hsome : ∀ e, Obeys (g (some e)) .halt) :
    ∀ (batch : List Item) (first : Option Error),
      Obeys (batch.foldlM f first >>= g) (Protocol.items d after first.isSome batch)
  | [], first => by
    cases first with
    | none => simpa [Protocol.items] using hnone
    | some e => simpa [Protocol.items] using hsome e
  | it :: rest, first => by
    rw [List.foldlM_cons, bind_assoc]
    exact hf first it _ (fun failed => Protocol.items d after failed rest) fun o =>
      Obeys.foldlM_items hf hnone hsome rest o

/-- Applying a batch follows the tree of its items, the failure it reports deciding whether `g` is
given one. -/
theorem Reconciler.applyBatch_obeys {g : Option Error → TracedM σ β} {after : Protocol}
    (hnone : Obeys (g none) after) (hsome : ∀ e, Obeys (g (some e)) .halt) (batch : List Item) :
    Obeys ((Reconciler.traced s cut b).applyBatch d.expectedAcl d.expectedDefault d.upn batch >>= g)
      (Protocol.items d after false batch) :=
  Obeys.foldlM_items (fun first it _ _ hk => Reconciler.itemStep_obeys first it hk) hnone hsome
    batch none

/-- Applying batches for a caller who never gives up follows the tree of the batches, by induction
on the batches left. -/
theorem Reconciler.applyBatches_obeys : ∀ batches : List (List Item),
    Obeys ((Reconciler.traced s (fun _ => false) b).applyBatches d d.expectedAcl d.expectedDefault
      batches) (Protocol.batches d batches)
  | [] => by
    unfold Reconciler.applyBatches
    exact Obeys.pure ()
  | batch :: rest => by
    unfold Reconciler.applyBatches
    simp only [Reconciler.traced_cancelled, Reconciler.traced_log]
    refine Obeys.live_bind ?_
    simp only [Bool.false_eq_true, ↓reduceIte]
    refine Obeys.silent_bind (Silent.forIn (fun _ _ => Silent.bind (Traced.say_silent _ _) fun _ =>
      Silent.pure _) _ _) fun _ => ?_
    exact Reconciler.applyBatch_obeys (Reconciler.applyBatches_obeys rest) (fun e => Obeys.throw e)
      batch

/-- Processing a directory for a caller who never gives up follows the directory's tree: with or
without the warning the same calls follow, and the directory is written exactly when its lists
differ or it is forced. -/
theorem Reconciler.process_obeys (d : DeclaredDirectory) :
    Obeys ((Reconciler.traced s (fun _ => false) b).process d) (Protocol.directory b d) := by
  unfold Reconciler.process Protocol.directory
  simp only [Reconciler.traced_cancelled, Reconciler.traced_log, Reconciler.traced_storage,
    Storage.traced_readAccess, Storage.traced_writeAccess, Storage.traced_list,
    Reconciler.traced_batchSize]
  refine Obeys.live_bind ?_
  simp only [Bool.false_eq_true, ↓reduceIte]
  refine Obeys.ite (Obeys.silent_bind (Traced.say_silent _ _) fun _ => ?_) ?_
  all_goals
    refine Reconciler.ensure_obeys fun _ => Obeys.ask fun ac => ?_
    iterate 6 refine Obeys.silent_bind (Traced.say_silent _ _) fun _ => ?_
    by_cases happ :
        (!(Difference.ofState d.expectedAcl d.expectedDefault ac).isEmpty || d.force) = true
    · simp only [PathResult.applied, happ, Bool.not_true, Bool.false_eq_true, ↓reduceIte]
      exact Obeys.ask fun _ => Obeys.ask fun _ => Obeys.bind_pure (Reconciler.applyBatches_obeys _)
    · rw [Bool.not_eq_true] at happ
      simp only [PathResult.applied, happ, Bool.not_false, Bool.false_eq_true, ↓reduceIte]
      exact Obeys.pure _

/-- The exchanges of a run from a result so far follow the directories' trees in turn. -/
theorem Reconciler.runFrom_follows (acc : RunResult) :
    ∀ (ds : List DeclaredDirectory) (t : Traced σ),
      ∃ xs, (endState (((Reconciler.traced s (fun _ => false) b).runFrom ds acc).run t)).exchanges =
        t.exchanges ++ xs ∧ Protocol.FollowsInTurn b ds xs
  | [], t => ⟨[], by simp [Reconciler.runFrom], .nil⟩
  | d :: ds, t => by
    obtain ⟨xs, hxs, hfollows⟩ := Reconciler.process_obeys (s := s) (b := b) d t
    cases hd : ((Reconciler.traced s (fun _ => false) b).process d).run t with
    | ok p t₁ =>
      rw [hd, endState_ok] at hxs
      rw [hd] at hfollows
      obtain ⟨ys, hys, hrest⟩ := Reconciler.runFrom_follows (acc.add p) ds t₁
      refine ⟨xs ++ ys, ?_, .next hfollows hrest⟩
      rw [Reconciler.runFrom_cons_ok hd, hys, hxs, List.append_assoc]
    | error e t₁ =>
      rw [hd, endState_error] at hxs
      rw [hd] at hfollows
      exact ⟨xs, by rw [Reconciler.runFrom_cons_error hd]; exact hxs, .stop hfollows⟩

/-- While the caller has not given up, a run makes the calls of the directories' trees in turn:
each directory is processed by the calls of one path through its tree, the answers choosing the
path, and the run stops after the first directory whose path ends in a failure. -/
theorem Reconciler.run_follows_protocol (ds : List DeclaredDirectory) (t : Traced σ) :
    ∃ xs, (endState (((Reconciler.traced s (fun _ => false) b).run ds).run t)).exchanges =
      t.exchanges ++ xs ∧ Protocol.FollowsInTurn b ds xs :=
  Reconciler.runFrom_follows {} ds t

end Reconciler

end AclReconcile
