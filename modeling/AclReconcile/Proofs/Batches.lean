import AclReconcile.Proofs.Protocol
import AclReconcile.Reconcile.Batches
import AclReconcile.Storage.Memory

/-!
# Batches, whatever the interleaving

The items below a directory are cut into batches, consecutive and in the order they were listed:
each holds one item at least and the batch size at most, all but the last hold exactly the batch
size, and there are as many as the size goes into the number of items, rounded up
(`chunks_cutInto`). The batches are written one after another (`Batched`): before each one the
caller is asked whether they have given up, and the calls of a batch's appliers all come before
any call of the next batch's. Within a batch the appliers' calls interleave in any order
(`Interleaves`), but each applier runs to its end, reading its item and writing it when the read
succeeded (`ItemRun`), also when another applier has failed; the batch fails with the first
failure among its calls, and then no later batch is touched. When nothing failed, every item was
read and written once (`Batched.all_written`).

`Reconciler.applyItems_batch_by_batch` says that every run of the listing and the batches, under
any schedule of every batch and whatever the storage answers, is such a run, and that it returns
the number of items listed when no call failed. The runs the reconciler makes are among them:
under the empty schedules the batches are written as `Reconciler.applyBatches` writes them
(`Reconciler.applyBatchesIn_nil`).
-/

namespace AclReconcile

/-! ## Cutting into batches -/

section Chunks

variable {α : Type} {b : Nat}

/-- How far cutting into batches of `b` has got: every batch closed holds `b` elements, and the
one still open fewer. -/
structure CutSoFar (b : Nat) (acc : List (List α) × List α) : Prop where
  closed : ∀ c ∈ acc.1, c.length = b
  open_lt : acc.2.length < b

/-- A fold whose every step keeps the batches cut so far keeps them to the end, by induction on the
elements still to fold. -/
theorem foldl_cutSoFar {f : List (List α) × List α → α → List (List α) × List α}
    (hf : ∀ acc x, CutSoFar b acc → CutSoFar b (f acc x)) :
    ∀ (xs : List α) (acc : List (List α) × List α), CutSoFar b acc →
      CutSoFar b (xs.foldl f acc)
  | [], _, h => h
  | x :: xs, acc, h => foldl_cutSoFar hf xs (f acc x) (hf acc x h)

/-- Batches all of length `b` hold `b` elements each. -/
theorem length_flatten_of_lengths : ∀ {cs : List (List α)}, (∀ c ∈ cs, c.length = b) →
    cs.flatten.length = cs.length * b
  | [], _ => by simp
  | c :: cs, h => by
    rw [List.flatten_cons, List.length_append, h c (.head _),
      length_flatten_of_lengths fun c' hc' => h c' (.tail _ hc'), List.length_cons, Nat.succ_mul]
    omega

/-- Cutting into batches of `b` closes full batches and leaves at most one shorter one open. -/
theorem chunks_eq_closed (hb : 0 < b) (xs : List α) :
    ∃ full : List (List α), ∃ last : List α, (∀ c ∈ full, c.length = b) ∧ last.length < b ∧
      chunks b xs = if last.isEmpty then full else full ++ [last] := by
  unfold chunks
  split
  next full last hfold =>
    have hcut : CutSoFar b (full, last) := hfold ▸ foldl_cutSoFar ?step xs ([], []) ⟨nofun, hb⟩
    · exact ⟨full, last, hcut.closed, hcut.open_lt, rfl⟩
    case step =>
      intro acc x hacc
      have := hacc.open_lt
      split
      · next heq =>
        refine ⟨fun c hc => ?_, hb⟩
        rcases List.mem_append.1 hc with hc | hc
        · exact hacc.closed c hc
        · simp at hc heq
          simp [hc, heq]
      · next hne =>
        simp at hne
        exact ⟨hacc.closed, by simp; omega⟩

/-- The batches of `items`, cut at `b`: consecutive and in order, each of one to `b` items, all but
the last of exactly `b`, and as many as `b` goes into the number of items, rounded up. -/
structure CutInto (b : Nat) (items : List α) (batches : List (List α)) : Prop where
  flatten : batches.flatten = items
  sizes : ∀ c ∈ batches, 0 < c.length ∧ c.length ≤ b
  full : ∀ c ∈ batches.dropLast, c.length = b
  count : batches.length = (items.length + b - 1) / b

/-- Cutting into batches of `b` is a cut into batches: when no shorter batch is left open every
batch is full, and otherwise the shorter one comes last. -/
theorem chunks_cutInto (hb : 0 < b) (xs : List α) : CutInto b xs (chunks b xs) := by
  obtain ⟨full, last, hfull, hlast, heq⟩ := chunks_eq_closed hb xs
  have hxs : xs.length = full.length * b + last.length := by
    have hlen := congrArg List.length (flatten_chunks b xs)
    split at heq
    · next hempty =>
      rw [List.isEmpty_iff.1 hempty]
      simpa [heq, length_flatten_of_lengths hfull] using hlen.symm
    · simpa [heq, length_flatten_of_lengths hfull] using hlen.symm
  split at heq
  · next hempty =>
    have hnil : last.length = 0 := by simp [List.isEmpty_iff.1 hempty]
    refine ⟨flatten_chunks b xs, fun c hc => ?_, fun c hc => ?_, ?_⟩
    · rw [heq] at hc
      exact ⟨hfull c hc ▸ hb, (hfull c hc).le⟩
    · rw [heq] at hc
      exact hfull c (List.mem_of_mem_dropLast hc)
    · rw [heq, hxs]
      symm
      apply Nat.div_eq_of_lt_le (by omega)
      rw [Nat.add_mul, Nat.one_mul]
      omega
  · next hempty =>
    have hpos : 0 < last.length := by simpa [List.length_pos_iff] using hempty
    refine ⟨flatten_chunks b xs, fun c hc => ?_, fun c hc => ?_, ?_⟩
    · rw [heq] at hc
      rcases List.mem_append.1 hc with hc | hc
      · exact ⟨hfull c hc ▸ hb, (hfull c hc).le⟩
      · rw [List.mem_singleton.1 hc]
        exact ⟨hpos, hlast.le⟩
    · rw [heq, List.dropLast_concat] at hc
      exact hfull c hc
    · rw [heq, hxs, List.length_append, List.length_singleton]
      symm
      apply Nat.div_eq_of_lt_le <;> simp only [Nat.add_mul, Nat.one_mul] <;> omega

end Chunks

/-! ## Interleavings -/

section Interleaves

variable {α : Type}

/-- `xs` interleaves the lists `ts`: it is made of all their elements, each list's in its own
order. -/
inductive Interleaves : List (List α) → List α → Prop
  | done {ts : List (List α)} : (∀ t ∈ ts, t = []) → Interleaves ts []
  | step {ts : List (List α)} {i : Nat} {x : α} {l xs : List α} :
      ts[i]? = some (x :: l) → Interleaves (ts.set i l) xs → Interleaves ts (x :: xs)

/-- Empty lists are interleaved by the empty list. -/
theorem Interleaves.replicate_nil (n : Nat) : Interleaves (List.replicate n ([] : List α)) [] :=
  .done fun _ ht => List.eq_of_mem_replicate ht

/-- An element added at the end of one of the lists is added at the end of the interleaving. -/
theorem Interleaves.snoc {ts : List (List α)} {xs : List α} (h : Interleaves ts xs) :
    ∀ {i : Nat} {t : List α} (x : α), ts[i]? = some t →
      Interleaves (ts.set i (t ++ [x])) (xs ++ [x]) := by
  induction h with
  | @done ts hnil =>
    intro i t x ht
    have hi : i < ts.length := (List.getElem?_eq_some_iff.1 ht).1
    have htnil : t = [] := hnil t (List.mem_of_getElem? ht)
    subst htnil
    refine .step (i := i) (l := []) (by simp [hi]) (.done fun u hu => ?_)
    rw [List.set_set] at hu
    rcases List.mem_or_eq_of_mem_set hu with hu | rfl
    · exact hnil u hu
    · rfl
  | @step ts j y rest xs hj _ ih =>
    intro i t x ht
    by_cases hij : i = j
    · subst hij
      have hyt : t = y :: rest := Option.some.inj (ht.symm.trans hj)
      subst hyt
      have hi : i < ts.length := (List.getElem?_eq_some_iff.1 hj).1
      refine .step (i := i) (l := rest ++ [x]) (by simp [hi]) ?_
      have hrest := ih x (i := i) (t := rest) (by simp [hi])
      rw [List.set_set] at hrest ⊢
      exact hrest
    · refine .step (i := j) (l := rest) (by simpa [List.getElem?_set, hij] using hj) ?_
      have hrest := ih x (i := i) (t := t) (by simpa [List.getElem?_set, Ne.symm hij] using ht)
      rwa [List.set_comm _ _ (Ne.symm hij)] at hrest

/-- An element added at the end of one of the lists, or nothing added at all. -/
theorem Interleaves.snoc_toList {ts : List (List α)} {xs : List α} (h : Interleaves ts xs)
    {i : Nat} {t : List α} (ht : ts[i]? = some t) :
    ∀ o : Option α, Interleaves (ts.set i (t ++ o.toList)) (xs ++ o.toList)
  | none => by
    obtain ⟨_, rfl⟩ := List.getElem?_eq_some_iff.1 ht
    simpa using h
  | some x => h.snoc x ht

/-- Every element of the lists interleaved is in the interleaving. By induction on the
interleaving: the list its first element came from holds that element or one still left in it. -/
theorem Interleaves.mem {ts : List (List α)} {xs : List α} (h : Interleaves ts xs) :
    ∀ t ∈ ts, ∀ x ∈ t, x ∈ xs := by
  induction h with
  | done hnil =>
    intro t ht x hx
    rw [hnil t ht] at hx
    cases hx
  | @step ts i y rest xs hi _ ih =>
    intro t ht x hx
    obtain ⟨j, hj, rfl⟩ := List.getElem_of_mem ht
    by_cases hji : j = i
    · subst hji
      rw [List.getElem?_eq_getElem hj, Option.some.injEq] at hi
      rw [hi] at hx
      rcases List.mem_cons.1 hx with rfl | hx
      · exact .head _
      · exact .tail _ (ih rest (List.mem_of_getElem? (List.getElem?_set_self hj)) x hx)
    · have hset : (ts.set i rest)[j]? = some ts[j] := by
        rw [List.getElem?_set_ne (Ne.symm hji), List.getElem?_eq_getElem hj]
      exact .tail _ (ih _ (List.mem_of_getElem? hset) x hx)

/-- Lists that are all empty can be put before the lists interleaved. -/
theorem Interleaves.nils_append {us : List (List α)} {ys : List α} (h : Interleaves us ys) :
    ∀ {ts : List (List α)}, (∀ t ∈ ts, t = []) → Interleaves (ts ++ us) ys := by
  induction h with
  | done hnil =>
    intro ts hts
    exact .done fun t ht => (List.mem_append.1 ht).elim (hts t) (hnil t)
  | @step us i y rest ys hi _ ih =>
    intro ts hts
    refine .step (i := ts.length + i)
      (by rw [List.getElem?_append_right (Nat.le_add_right _ _), Nat.add_sub_cancel_left, hi]) ?_
    rw [List.set_append_right _ _ (Nat.le_add_right _ _), Nat.add_sub_cancel_left]
    exact ih hts

/-- Interleavings of two families, one after the other, interleave the two families together. -/
theorem Interleaves.append {ts us : List (List α)} {xs ys : List α} (h : Interleaves ts xs)
    (h' : Interleaves us ys) : Interleaves (ts ++ us) (xs ++ ys) := by
  induction h with
  | done hnil => exact h'.nils_append hnil
  | @step ts i x rest xs hi _ ih =>
    have hlt : i < ts.length := (List.getElem?_eq_some_iff.1 hi).1
    refine .step (i := i) (by rw [List.getElem?_append_left hlt, hi]) ?_
    rw [List.set_append_left _ _ hlt]
    exact ih

end Interleaves

section Forall₂

variable {α β : Type} {R : α → β → Prop}

/-- Lists related element by element relate their elements at each index. -/
theorem forall₂_getElem? : ∀ {l₁ : List α} {l₂ : List β}, List.Forall₂ R l₁ l₂ →
    ∀ {i : Nat} {a : α}, l₁[i]? = some a → ∃ b, l₂[i]? = some b ∧ R a b
  | _, _, .nil, _, _, h => by simp at h
  | _, _, .cons hab _, 0, _, h => by
    simp only [List.getElem?_cons_zero, Option.some.injEq] at h
    exact ⟨_, rfl, h ▸ hab⟩
  | _, _, .cons _ hrest, i + 1, _, h => forall₂_getElem? hrest (by simpa using h)

/-- Setting related elements at one index keeps two lists related element by element. -/
theorem forall₂_set : ∀ {l₁ : List α} {l₂ : List β}, List.Forall₂ R l₁ l₂ →
    ∀ (i : Nat) {a : α} {b : β}, R a b → List.Forall₂ R (l₁.set i a) (l₂.set i b)
  | _, _, .nil, _, _, _, _ => .nil
  | _, _, .cons _ hrest, 0, _, _, hab => .cons hab hrest
  | _, _, .cons hab' hrest, i + 1, _, _, hab => .cons hab' (forall₂_set hrest i hab)

end Forall₂

/-! ## One applier -/

/-- The failure a call ended with, if any. -/
def Exchange.failure (x : Exchange) : Option Error :=
  match x.answer with
  | .ok _ => none
  | .error e => some e

/-- The calls of the applier of `it` from start to end: the item's state read and, when that
succeeded, written back with the declared lists, the default one only for a directory. -/
inductive ItemRun (acl defaultAcl : List AclEntry) (upn : Bool) (it : Item) :
    List Exchange → Prop
  | unread (e : Error) : ItemRun acl defaultAcl upn it [⟨.readAccess it.path upn, .error e⟩]
  | written (ac : AccessControl) (answer : Except Error Unit) :
      ItemRun acl defaultAcl upn it [⟨.readAccess it.path upn, .ok ac⟩,
        ⟨.writeAccess it.path (some (ac.replace acl defaultAcl it.isFolder)), answer⟩]

/-- The calls an applier has made, for how far it has got. -/
def Applier.Made (acl defaultAcl : List AclEntry) (upn : Bool) (it : Item) :
    Applier → List Exchange → Prop
  | .ready, xs => xs = []
  | .read ac, xs => xs = [⟨.readAccess it.path upn, .ok ac⟩]
  | .finished, xs => ItemRun acl defaultAcl upn it xs

/-- Whether an applier has ended. -/
def Applier.isFinished : Applier → Bool
  | .finished => true
  | .ready | .read _ => false

/-- Moving the appliers as one schedule and then as another is moving them as the two, one after
the other. -/
theorem Reconciler.runSchedule_append {m : Type → Type} [Monad m] [LawfulMonad m]
    [MonadExceptOf Error m] (r : Reconciler m) (acl defaultAcl : List AclEntry) (upn : Bool) :
    ∀ (xs ys : List Nat) (pool : List (Item × Applier)) (first : Option Error),
      r.runSchedule acl defaultAcl upn (xs ++ ys) pool first =
        r.runSchedule acl defaultAcl upn xs pool first >>= fun p =>
          r.runSchedule acl defaultAcl upn ys p.1 p.2
  | [], ys, pool, first => by simp [Reconciler.runSchedule]
  | i :: xs, ys, pool, first => by
    simp only [List.cons_append, Reconciler.runSchedule]
    split
    · exact Reconciler.runSchedule_append r acl defaultAcl upn xs ys pool first
    · simp only [bind_assoc]
      congr 1
      funext p
      exact Reconciler.runSchedule_append r acl defaultAcl upn xs ys _ _

/-- The turns for one more applier are those before and then two turns of the new one. -/
theorem Reconciler.inTurn_succ (n : Nat) :
    Reconciler.inTurn (n + 1) = Reconciler.inTurn n ++ [n, n] := by
  simp [Reconciler.inTurn, List.range_succ]

/-! ## The empty schedule -/

section InTurn

variable {σ : Type} (r : Reconciler (EStateM Error σ)) (acl defaultAcl : List AclEntry) (upn : Bool)

/-- A ready applier reads its item's state: a read that returns leaves it holding the state, and a
failed one ends it with the failure. -/
theorem Reconciler.applierStep_ready_run (it : Item) (t : σ) :
    (r.applierStep acl defaultAcl upn it .ready).run t =
      match (r.storage.readAccess it.path upn).run t with
      | .ok ac t' => .ok (.read ac, none) t'
      | .error e t' => .ok (.finished, some e) t' := by
  rw [Reconciler.applierStep, run_tryCatch, EStateM.run_bind]
  cases (r.storage.readAccess it.path upn).run t <;> rfl

/-- An applier that has read writes the state its entries make of what it read, and ends with the
write's failure, if any. -/
theorem Reconciler.applierStep_read_run (it : Item) (ac : AccessControl) (t : σ) :
    (r.applierStep acl defaultAcl upn it (.read ac)).run t =
      match (r.storage.writeAccess it.path (some (ac.replace acl defaultAcl it.isFolder))).run t with
      | .ok _ t' => .ok (.finished, none) t'
      | .error e t' => .ok (.finished, some e) t' := by
  rw [Reconciler.applierStep, run_tryCatch, EStateM.run_bind]
  cases (r.storage.writeAccess it.path (some (ac.replace acl defaultAcl it.isFolder))).run t <;> rfl

/-- Two turns of a ready applier write its item as one step of the reconciler's own loop does. -/
theorem Reconciler.runSchedule_pair_ready (pre post : List (Item × Applier)) (it : Item)
    (first : Option Error) :
    r.runSchedule acl defaultAcl upn [pre.length, pre.length] (pre ++ (it, .ready) :: post) first =
      (do
        let failure ← tryCatch (do r.applyItem acl defaultAcl upn it; pure none) fun e =>
          pure (some e)
        pure (pre ++ (it, .finished) :: post, first <|> failure)) := by
  have hget : (pre ++ (it, Applier.ready) :: post)[pre.length]? = some (it, .ready) := by simp
  funext t
  change EStateM.run _ t = EStateM.run _ t
  rw [Reconciler.runSchedule, hget]
  simp only [Reconciler.applyItem, EStateM.run_bind, run_tryCatch,
    Reconciler.applierStep_ready_run]
  cases hread : (r.storage.readAccess it.path upn).run t with
  | error e t₁ =>
    simp [Reconciler.runSchedule, Reconciler.applierStep]
  | ok ac t₁ =>
    cases hwrite : (r.storage.writeAccess it.path
        (some (ac.replace acl defaultAcl it.isFolder))).run t₁ with
    | error e t₂ => simp [Reconciler.runSchedule, Reconciler.applierStep_read_run, hwrite]
    | ok u t₂ => simp [Reconciler.runSchedule, Reconciler.applierStep_read_run, hwrite]

/-- Two turns for each ready applier, in batch order, run the reconciler's own loop over their
items. -/
theorem Reconciler.runSchedule_range' : ∀ (rest : List Item) (pre : List (Item × Applier))
    (first : Option Error),
    r.runSchedule acl defaultAcl upn ((List.range' pre.length rest.length).flatMap fun i => [i, i])
        (pre ++ rest.map fun it => (it, .ready)) first =
      (do
        let f ← rest.foldlM (fun first it => do
          let failure ← tryCatch (do r.applyItem acl defaultAcl upn it; pure none) fun e =>
            pure (some e)
          pure (first <|> failure)) first
        pure (pre ++ rest.map fun it => (it, .finished), f))
  | [], pre, first => by simp [Reconciler.runSchedule]
  | it :: rest, pre, first => by
    have hlen : (pre ++ [(it, Applier.finished)]).length = pre.length + 1 := by simp
    rw [List.length_cons, List.range'_succ, List.flatMap_cons, List.map_cons,
      Reconciler.runSchedule_append, Reconciler.runSchedule_pair_ready, List.foldlM_cons]
    simp only [bind_assoc, pure_bind]
    congr 1
    funext failure
    have ih := Reconciler.runSchedule_range' rest (pre ++ [(it, .finished)]) (first <|> failure)
    rw [hlen] at ih
    simpa using ih

/-- Under the empty schedule the appliers of a batch run one after another, each to its end: the
batch is written as the reconciler writes it. -/
theorem Reconciler.applyBatchIn_nil (batch : List Item) :
    r.applyBatchIn acl defaultAcl upn [] batch = r.applyBatch acl defaultAcl upn batch := by
  have h := Reconciler.runSchedule_range' r acl defaultAcl upn batch [] none
  rw [List.length_nil, List.nil_append, List.nil_append] at h
  rw [Reconciler.applyBatchIn, Reconciler.applyBatch, List.nil_append, Reconciler.inTurn,
    List.range_eq_range', h]
  simp

/-- Under the empty schedules the batches are written as the reconciler writes them. Past the first
batch the two bodies differ at most in the matchers made for each definition. -/
theorem Reconciler.applyBatchesIn_nil (d : DeclaredDirectory) :
    ∀ batches : List (List Item),
      r.applyBatchesIn d acl defaultAcl [] batches = r.applyBatches d acl defaultAcl batches
  | [] => by
    rw [Reconciler.applyBatchesIn, Reconciler.applyBatches]
  | batch :: rest => by
    rewrite [Reconciler.applyBatchesIn, Reconciler.applyBatches, List.headD_nil, List.tail_nil,
      Reconciler.applyBatchIn_nil, Reconciler.applyBatchesIn_nil d rest]
    rfl

end InTurn

section Traced

variable {σ : Type} {s : Storage (EStateM Error σ)} {r : Reconciler (TracedM σ)}
  {acl defaultAcl : List AclEntry} {upn : Bool}

/-- One call of an applier, whatever the storage answers: it adds at most that call to the
record, the calls the applier has made stay the beginning of a run of it, and the failure it
reports is the one the call ended with. An applier that has read ends with its next call, and
one that has ended makes no more. -/
theorem Reconciler.applierStep_made (hr : r.storage = s.traced) {it : Item} {a : Applier}
    {xs : List Exchange} (h : a.Made acl defaultAcl upn it xs) (t : Traced σ) :
    ∃ (a' : Applier) (o : Option Exchange) (t' : Traced σ),
      (r.applierStep acl defaultAcl upn it a).run t =
        .ok (a', o.bind Exchange.failure) t' ∧
      t'.exchanges = t.exchanges ++ o.toList ∧ a'.Made acl defaultAcl upn it (xs ++ o.toList) ∧
      a' ≠ .ready ∧ (a'.isFinished = true ∨ a = .ready) := by
  cases a with
  | ready =>
    change xs = [] at h
    subst h
    rw [Reconciler.applierStep, hr, Storage.traced_readAccess, run_tryCatch, EStateM.run_bind]
    cases hread : (s.perform (.readAccess it.path upn)).run t.store with
    | ok ac st =>
      rw [Traced.record_run_ok hread]
      exact ⟨.read ac, some ⟨_, .ok ac⟩, _, rfl, rfl, rfl, nofun, .inr rfl⟩
    | error e st =>
      rw [Traced.record_run_error hread]
      exact ⟨.finished, some ⟨_, .error e⟩, _, rfl, rfl, .unread e, nofun, .inl rfl⟩
  | read ac =>
    change xs = _ at h
    subst h
    rw [Reconciler.applierStep, hr, Storage.traced_writeAccess, run_tryCatch, EStateM.run_bind]
    cases hwrite : (s.perform (.writeAccess it.path
        (some (ac.replace acl defaultAcl it.isFolder)))).run t.store with
    | ok u st =>
      rw [Traced.record_run_ok hwrite]
      exact ⟨.finished, some ⟨_, .ok u⟩, _, rfl, rfl, .written ac (.ok u), nofun, .inl rfl⟩
    | error e st =>
      rw [Traced.record_run_error hwrite]
      exact ⟨.finished, some ⟨_, .error e⟩, _, rfl, rfl, .written ac (.error e), nofun, .inl rfl⟩
  | finished =>
    exact ⟨.finished, none, t, rfl, by simp, by simpa using h, nofun, .inl rfl⟩

/-- How a batch stands after the calls `ys` of its appliers: each applier has made the calls of
its own list in `made`, which `ys` interleaves, and the failure kept is the first among them. -/
structure BatchSoFar (acl defaultAcl : List AclEntry) (upn : Bool) (pool : List (Item × Applier))
    (made : List (List Exchange)) (ys : List Exchange) (first : Option Error) : Prop where
  appliers : List.Forall₂ (fun p xs => p.2.Made acl defaultAcl upn p.1 xs) pool made
  interleaves : Interleaves made ys
  firstFailure : first = ys.findSome? Exchange.failure

/-- The first failure among at most one call is that call's failure. -/
theorem findSome?_toList_failure (o : Option Exchange) :
    o.toList.findSome? Exchange.failure = o.bind Exchange.failure := by
  cases o <;> simp

/-- Setting an applier keeps the item in its place. -/
theorem map_fst_set {pool : List (Item × Applier)} {k : Nat} {it : Item} {a a' : Applier}
    (hk : pool[k]? = some (it, a)) : (pool.set k (it, a')).map Prod.fst = pool.map Prod.fst := by
  have hit : (pool.map Prod.fst)[k]? = some it := by simp [hk]
  obtain ⟨_, hget⟩ := List.getElem?_eq_some_iff.1 hit
  rw [List.map_set, ← hget, List.set_getElem_self]

/-- Moving the appliers as any schedule says keeps how the batch stands: the calls made are
added to the record, and they extend the appliers' own calls, interleaved. -/
theorem Reconciler.runSchedule_soFar (hr : r.storage = s.traced) :
    ∀ (sched : List Nat) {pool : List (Item × Applier)} {made : List (List Exchange)}
      {ys : List Exchange} {first : Option Error} (t : Traced σ),
    BatchSoFar acl defaultAcl upn pool made ys first →
    ∃ pool' first' made' zs t',
      (r.runSchedule acl defaultAcl upn sched pool first).run t =
        .ok (pool', first') t' ∧
      t'.exchanges = t.exchanges ++ zs ∧ pool'.map Prod.fst = pool.map Prod.fst ∧
      BatchSoFar acl defaultAcl upn pool' made' (ys ++ zs) first'
  | [], pool, made, ys, first, t, h =>
    ⟨pool, first, made, [], t, rfl, by simp, rfl, by simpa using h⟩
  | i :: sched, pool, made, ys, first, t, h => by
    rw [Reconciler.runSchedule]
    cases hi : pool[i]? with
    | none => exact Reconciler.runSchedule_soFar hr sched t h
    | some p =>
      obtain ⟨it, a⟩ := p
      obtain ⟨xs, hxs, hmade⟩ := forall₂_getElem? h.appliers hi
      obtain ⟨a', o, t₁, hstep, hex₁, hmade', -, -⟩ :=
        Reconciler.applierStep_made hr hmade t
      have h₁ : BatchSoFar acl defaultAcl upn (pool.set i (it, a')) (made.set i (xs ++ o.toList))
          (ys ++ o.toList) (first <|> o.bind Exchange.failure) :=
        ⟨forall₂_set h.appliers i hmade', h.interleaves.snoc_toList hxs o,
          by simp [h.firstFailure, findSome?_toList_failure]⟩
      obtain ⟨pool', first', made', zs, t', hrun, hex', hpaths, h'⟩ :=
        Reconciler.runSchedule_soFar hr sched t₁ h₁
      refine ⟨pool', first', made', o.toList ++ zs, t', ?_, by simp [hex', hex₁], ?_,
        by simpa using h'⟩
      · simp only [EStateM.run_bind, hstep]
        exact hrun
      · rw [hpaths, map_fst_set hi]

/-- Two turns of one applier run it to its end: after its first turn it is no longer ready, so its
second turn ends it. -/
theorem Reconciler.runSchedule_pair (hr : r.storage = s.traced) {k : Nat}
    {pool : List (Item × Applier)}
    {made : List (List Exchange)} {ys : List Exchange} {first : Option Error} {it : Item}
    {a : Applier} (hk : pool[k]? = some (it, a)) (t : Traced σ)
    (h : BatchSoFar acl defaultAcl upn pool made ys first) :
    ∃ a' first' made' zs t',
      (r.runSchedule acl defaultAcl upn [k, k] pool first).run t =
        .ok (pool.set k (it, a'), first') t' ∧
      t'.exchanges = t.exchanges ++ zs ∧ a'.isFinished = true ∧
      BatchSoFar acl defaultAcl upn (pool.set k (it, a')) made' (ys ++ zs) first' := by
  have hlt : k < pool.length := (List.getElem?_eq_some_iff.1 hk).1
  obtain ⟨xs, hxs, hmade⟩ := forall₂_getElem? h.appliers hk
  dsimp only at hmade
  obtain ⟨a₁, o₁, t₁, hstep₁, hex₁, hmade₁, hready, -⟩ :=
    Reconciler.applierStep_made hr hmade t
  obtain ⟨a₂, o₂, t₂, hstep₂, hex₂, hmade₂, -, hfin⟩ :=
    Reconciler.applierStep_made hr hmade₁ t₁
  have hfin₂ : a₂.isFinished = true := hfin.resolve_right hready
  refine ⟨a₂, (first <|> o₁.bind Exchange.failure) <|> o₂.bind Exchange.failure,
    made.set k (xs ++ o₁.toList ++ o₂.toList), o₁.toList ++ o₂.toList, t₂, ?_,
    by simp [hex₂, hex₁],
    hfin₂, ?_⟩
  · rw [Reconciler.runSchedule, hk]
    simp only [EStateM.run_bind, hstep₁]
    rw [Reconciler.runSchedule, List.getElem?_set_self hlt]
    simp only [EStateM.run_bind, hstep₂, Reconciler.runSchedule, List.set_set]
    rfl
  · refine ⟨forall₂_set h.appliers k hmade₂, ?_, ?_⟩
    · have h₁ := h.interleaves.snoc_toList hxs o₁
      have h₂ := h₁.snoc_toList (i := k) (t := xs ++ o₁.toList)
        (by simp [(List.getElem?_eq_some_iff.1 hxs).1]) o₂
      simpa using h₂
    · simp [h.firstFailure, findSome?_toList_failure, Option.or_assoc]

/-- Two turns for each of the first `k` appliers, in order, run each of them to its end. -/
theorem Reconciler.runSchedule_inTurn (hr : r.storage = s.traced) :
    ∀ (k : Nat) {pool : List (Item × Applier)}
    {made : List (List Exchange)} {ys : List Exchange} {first : Option Error} (t : Traced σ),
    k ≤ pool.length → BatchSoFar acl defaultAcl upn pool made ys first →
    ∃ pool' first' made' zs t',
      (r.runSchedule acl defaultAcl upn (Reconciler.inTurn k) pool
          first).run t = .ok (pool', first') t' ∧
      t'.exchanges = t.exchanges ++ zs ∧ pool'.map Prod.fst = pool.map Prod.fst ∧
      (∀ j < k, ∀ p, pool'[j]? = some p → p.2.isFinished = true) ∧
      BatchSoFar acl defaultAcl upn pool' made' (ys ++ zs) first'
  | 0, pool, made, ys, first, t, _, h =>
    ⟨pool, first, made, [], t, rfl, by simp, rfl, nofun, by simpa using h⟩
  | k + 1, pool, made, ys, first, t, hk, h => by
    obtain ⟨pool₁, first₁, made₁, zs₁, t₁, hrun₁, hex₁, hpaths₁, hfin₁, h₁⟩ :=
      Reconciler.runSchedule_inTurn hr k t (by omega) h
    have hlen : pool₁.length = pool.length := by simpa using congrArg List.length hpaths₁
    obtain ⟨⟨it, a⟩, hget⟩ : ∃ p, pool₁[k]? = some p :=
      ⟨_, List.getElem?_eq_getElem (by omega)⟩
    obtain ⟨a', first', made', zs₂, t', hrun₂, hex₂, hfin, h'⟩ :=
      Reconciler.runSchedule_pair hr hget t₁ h₁
    refine ⟨pool₁.set k (it, a'), first', made', zs₁ ++ zs₂, t', ?_, by simp [hex₂, hex₁],
      by rw [map_fst_set hget, hpaths₁], fun j hj p hp => ?_, by simpa using h'⟩
    · rw [Reconciler.inTurn_succ, Reconciler.runSchedule_append, EStateM.run_bind, hrun₁]
      exact hrun₂
    · by_cases hjk : j = k
      · subst hjk
        rw [List.getElem?_set_self (by omega)] at hp
        cases hp
        exact hfin
      · rw [List.getElem?_set_ne (Ne.symm hjk)] at hp
        exact hfin₁ j (by omega) p hp

/-- The calls of a batch: every applier ran from its start to its end, and the calls of all of
them interleave. -/
def BatchRun (acl defaultAcl : List AclEntry) (upn : Bool) (batch : List Item)
    (seg : List Exchange) : Prop :=
  ∃ runs : List (List Exchange), List.Forall₂ (ItemRun acl defaultAcl upn) batch runs ∧
    Interleaves runs seg

/-- Appliers that have all ended have made whole runs. -/
theorem forall₂_itemRun : ∀ {pool : List (Item × Applier)} {made : List (List Exchange)},
    List.Forall₂ (fun p xs => p.2.Made acl defaultAcl upn p.1 xs) pool made →
    (∀ p ∈ pool, p.2.isFinished = true) →
    List.Forall₂ (ItemRun acl defaultAcl upn) (pool.map Prod.fst) made
  | _, _, .nil, _ => .nil
  | (it, a) :: _, _, .cons hmade hrest, hfin => by
    have ha : a.isFinished = true := hfin (it, a) (.head _)
    cases a with
    | finished => exact .cons hmade (forall₂_itemRun hrest fun p hp => hfin p (.tail _ hp))
    | ready | read _ => cases ha

/-- Whatever the schedule, the turns in batch order that follow it run every applier of the batch
to its end, each item staying in its place, and the calls made are added to the record. -/
theorem Reconciler.runSchedule_runsOut (hr : r.storage = s.traced) (sched : List Nat)
    (batch : List Item) (t : Traced σ) :
    ∃ pool first made zs t',
      (r.runSchedule acl defaultAcl upn (sched ++ Reconciler.inTurn batch.length)
          (batch.map fun it => (it, .ready)) none).run t = .ok (pool, first) t' ∧
      t'.exchanges = t.exchanges ++ zs ∧ pool.map Prod.fst = batch ∧
      (∀ p ∈ pool, p.2.isFinished = true) ∧ BatchSoFar acl defaultAcl upn pool made zs first := by
  have h₀ : BatchSoFar acl defaultAcl upn (batch.map fun it => (it, .ready))
      (List.replicate batch.length []) [] none := by
    refine ⟨?_, Interleaves.replicate_nil _, rfl⟩
    induction batch with
    | nil => exact .nil
    | cons it rest ih => exact .cons rfl ih
  obtain ⟨pool₁, first₁, made₁, zs₁, t₁, hrun₁, hex₁, hpaths₁, h₁⟩ :=
    Reconciler.runSchedule_soFar hr sched t h₀
  have hlen : batch.length ≤ pool₁.length := by simpa using (congrArg List.length hpaths₁).ge
  obtain ⟨pool₂, first₂, made₂, zs₂, t₂, hrun₂, hex₂, hpaths₂, hfin₂, h₂⟩ :=
    Reconciler.runSchedule_inTurn hr batch.length t₁ hlen h₁
  have hpool : pool₂.map Prod.fst = batch := by simp [hpaths₂, hpaths₁, Function.comp_def]
  have hall : ∀ p ∈ pool₂, p.2.isFinished = true := by
    intro p hp
    obtain ⟨j, hj, hjp⟩ := List.getElem_of_mem hp
    exact hfin₂ j (by simpa [← hpool] using hj) p (by simp [← hjp])
  refine ⟨pool₂, first₂, made₂, zs₁ ++ zs₂, t₂, ?_, by simp [hex₂, hex₁], hpool, hall,
    by simpa using h₂⟩
  rw [Reconciler.runSchedule_append, EStateM.run_bind, hrun₁]
  exact hrun₂

/-- A batch under any schedule, whatever the storage answers: its calls are a run of the batch,
added to the record, and the failure it returns is the first among them. -/
theorem Reconciler.applyBatchIn_run (hr : r.storage = s.traced) (sched : List Nat)
    (batch : List Item) (t : Traced σ) :
    ∃ seg t', (r.applyBatchIn acl defaultAcl upn sched batch).run t =
        .ok (seg.findSome? Exchange.failure) t' ∧
      t'.exchanges = t.exchanges ++ seg ∧ BatchRun acl defaultAcl upn batch seg := by
  obtain ⟨pool, first, made, zs, t', hrun, hex, hpool, hall, h⟩ :=
    Reconciler.runSchedule_runsOut hr sched batch t
  refine ⟨zs, t', ?_, hex, made, hpool ▸ forall₂_itemRun h.appliers hall, h.interleaves⟩
  unfold Reconciler.applyBatchIn
  rw [EStateM.run_bind, hrun, ← h.firstFailure]
  rfl

end Traced


/-! ## Batch after batch -/

section Batched

variable {σ α β : Type}

/-- What a run gave: its value, or the failure it ended with. -/
def outcome {ε : Type} : EStateM.Result ε σ α → Except ε α
  | .ok a _ => .ok a
  | .error e _ => .error e

/-- Every run of `x` adds calls `zs` to the record, with `P` of the calls made before, of `zs` and
of what the run gave. -/
def Adds (x : TracedM σ α) (P : List Exchange → List Exchange → Except Error α → Prop) : Prop :=
  ∀ t, ∃ zs, (endState (x.run t)).exchanges = t.exchanges ++ zs ∧
    P t.exchanges zs (outcome (x.run t))

/-- The calls `zs` made writing the batches one after another, after the calls `h`, and how the
writing ended. Before each batch the caller is asked whether they have given up, which they have
once `cut` holds of the calls made so far. A batch's calls are a whole run of it, all of them made
before any call of the next batch, and the first failure among them ends the writing. -/
inductive Batched (cut : List Exchange → Bool) (acl defaultAcl : List AclEntry) (upn : Bool) :
    List (List Item) → List Exchange → List Exchange → Except Error Unit → Prop
  | done {h : List Exchange} : Batched cut acl defaultAcl upn [] h [] (.ok ())
  | canceled {batch : List Item} {rest : List (List Item)} {h : List Exchange} :
      cut h = true → Batched cut acl defaultAcl upn (batch :: rest) h [] (.error .canceled)
  | failed {batch : List Item} {rest : List (List Item)} {h seg : List Exchange} {e : Error} :
      cut h = false → BatchRun acl defaultAcl upn batch seg →
      seg.findSome? Exchange.failure = some e →
      Batched cut acl defaultAcl upn (batch :: rest) h seg (.error e)
  | next {batch : List Item} {rest : List (List Item)} {h seg zs : List Exchange}
      {res : Except Error Unit} :
      cut h = false → BatchRun acl defaultAcl upn batch seg →
      seg.findSome? Exchange.failure = none →
      Batched cut acl defaultAcl upn rest (h ++ seg) zs res →
      Batched cut acl defaultAcl upn (batch :: rest) h (seg ++ zs) res

/-- The calls of an item written with no failure: its state read, and written back with the
declared lists. -/
def ItemWritten (acl defaultAcl : List AclEntry) (upn : Bool) (it : Item) (xs : List Exchange) :
    Prop :=
  ∃ ac, xs = [⟨.readAccess it.path upn, .ok ac⟩,
    ⟨.writeAccess it.path (some (ac.replace acl defaultAcl it.isFolder)), .ok ()⟩]

/-- A run of an item with no failed call read the item's state and wrote it. -/
theorem ItemRun.itemWritten {acl defaultAcl : List AclEntry} {upn : Bool} {it : Item}
    {xs : List Exchange} (h : ItemRun acl defaultAcl upn it xs)
    (hno : ∀ x ∈ xs, x.failure = none) : ItemWritten acl defaultAcl upn it xs := by
  cases h with
  | unread e => cases hno _ (.head _)
  | written ac answer =>
    cases answer with
    | error e => cases hno _ (.tail _ (.head _))
    | ok u => exact ⟨ac, rfl⟩

/-- Runs of a batch's items with no failed call each read and wrote their item. -/
theorem forall₂_itemWritten {acl defaultAcl : List AclEntry} {upn : Bool} :
    ∀ {batch : List Item} {runs : List (List Exchange)},
      List.Forall₂ (ItemRun acl defaultAcl upn) batch runs →
      (∀ r ∈ runs, ∀ x ∈ r, x.failure = none) →
      List.Forall₂ (ItemWritten acl defaultAcl upn) batch runs
  | _, _, .nil, _ => .nil
  | _, _, .cons hr hrest, hno =>
    .cons (hr.itemWritten (hno _ (.head _)))
      (forall₂_itemWritten hrest fun r hr' => hno r (.tail _ hr'))

/-- When the writing of the batches ended well, its calls interleave one read and one write of
every item of every batch, each answered. -/
theorem Batched.all_written {cut : List Exchange → Bool} {acl defaultAcl : List AclEntry}
    {upn : Bool} {batches : List (List Item)} {h zs : List Exchange} {res : Except Error Unit}
    (hb : Batched cut acl defaultAcl upn batches h zs res) (hres : res = .ok ()) :
    ∃ runs, List.Forall₂ (ItemWritten acl defaultAcl upn) batches.flatten runs ∧
      Interleaves runs zs := by
  induction hb with
  | done => exact ⟨[], .nil, .done nofun⟩
  | canceled => cases hres
  | failed => cases hres
  | @next batch rest h seg zs res _ hrun hnone _ ih =>
    obtain ⟨runs, hwritten, hinter⟩ := ih hres
    obtain ⟨runs₁, hruns₁, hinter₁⟩ := hrun
    have hok : ∀ x ∈ seg, x.failure = none := List.findSome?_eq_none_iff.1 hnone
    have hwritten₁ : List.Forall₂ (ItemWritten acl defaultAcl upn) batch runs₁ :=
      forall₂_itemWritten hruns₁ fun r hr x hx => hok x (hinter₁.mem r hr x hx)
    exact ⟨runs₁ ++ runs, by simpa using List.rel_append hwritten₁ hwritten,
      hinter₁.append hinter⟩

/-- The calls `zs` made listing the items below `d` and writing its declared lists to them in
batches of `b`, after the calls `h`, and what that gave. The listing comes first, and when it
fails nothing else is done. Otherwise the items listed are cut into batches of `b` and written
batch after batch, and when every batch was written the number of items listed is returned. -/
inductive ItemsApplied (cut : List Exchange → Bool) (b : Nat) (d : DeclaredDirectory)
    (h : List Exchange) : List Exchange → Except Error Nat → Prop
  | unlisted {e : Error} :
      ItemsApplied cut b d h [⟨.list d.path d.recurse 0, .error e⟩] (.error e)
  | listed {items : List Item} {batches : List (List Item)} {zs : List Exchange}
      {res : Except Error Unit} :
      CutInto b items batches →
      Batched cut d.expectedAcl d.expectedDefault d.upn batches
        (h ++ [⟨.list d.path d.recurse 0, .ok items⟩]) zs res →
      ItemsApplied cut b d h (⟨.list d.path d.recurse 0, .ok items⟩ :: zs)
        (res.map fun _ => items.length)

/-- Mapping a result maps its outcome. -/
@[simp] theorem outcome_map {ε : Type} (f : α → β) (res : EStateM.Result ε σ α) :
    outcome (res.map f) = (outcome res).map f := by
  cases res <;> rfl

/-- Mapping a result keeps its end state. -/
@[simp] theorem endState_map {ε : Type} (f : α → β) (res : EStateM.Result ε σ α) :
    endState (res.map f) = endState res := by
  cases res <;> rfl

end Batched

section Writing

variable {σ : Type} {s : Storage (EStateM Error σ)} {cut : List Exchange → Bool} {b : Nat}

/-- Asking whether the caller has given up answers by the calls made so far, and changes nothing. -/
theorem Traced.givenUp_run (t : Traced σ) : (Traced.givenUp cut).run t = .ok (cut t.exchanges) t :=
  rfl

/-- Writing batches under any schedules, whatever the storage answers and whenever the caller
gives up, is writing them batch after batch. -/
theorem Reconciler.applyBatchesIn_batched (s : Storage (EStateM Error σ))
    (cut : List Exchange → Bool) (b : Nat) (d : DeclaredDirectory)
    (acl defaultAcl : List AclEntry) :
    ∀ (scheds : List (List Nat)) (batches : List (List Item)),
      Adds ((Reconciler.traced s cut b).applyBatchesIn d acl defaultAcl scheds batches)
        (Batched cut acl defaultAcl d.upn batches)
  | _, [] => fun t => ⟨[], by simp [Reconciler.applyBatchesIn], .done⟩
  | scheds, batch :: rest => by
    intro t
    unfold Reconciler.applyBatchesIn
    simp only [Reconciler.traced_cancelled, Reconciler.traced_log]
    rw [EStateM.run_bind, Traced.givenUp_run]
    cases hcut : cut t.exchanges
    · simp only [Bool.false_eq_true, ↓reduceIte]
      obtain ⟨_, t₁, hlog, hex₁⟩ := Silent.forIn (fun _ _ => Silent.bind (Traced.say_silent _ _)
        fun _ => Silent.pure _) batch PUnit.unit t
      obtain ⟨seg, t₂, hrun, hex₂, hbatch⟩ :=
        Reconciler.applyBatchIn_run (r := Reconciler.traced s cut b) rfl (scheds.headD []) batch t₁
      rw [EStateM.run_bind, hlog]
      dsimp only
      rw [EStateM.run_bind, hrun]
      dsimp only
      cases hfirst : seg.findSome? Exchange.failure with
      | some e => exact ⟨seg, by simp [hex₂, hex₁], .failed hcut hbatch hfirst⟩
      | none =>
        obtain ⟨zs, hzs, hrest⟩ :=
          Reconciler.applyBatchesIn_batched s cut b d acl defaultAcl scheds.tail rest t₂
        refine ⟨seg ++ zs, by simp [hzs, hex₂, hex₁], .next hcut hbatch hfirst ?_⟩
        rw [hex₂, hex₁] at hrest
        exact hrest
    · exact ⟨[], by simp, by simpa using .canceled hcut⟩

/-- Listing the items below a directory and writing its declared lists to them in batches of a
size of at least one, under any schedule of the appliers within each batch, whatever the storage
answers and whenever the caller gives up: the items listed are cut into consecutive batches, in
the order listed, of at most the batch size and as many as the size goes into their number,
rounded up; the batches are written one after another, the caller asked before each whether they
have given up; every applier of a batch runs to its end, also when another fails, before any call
of the next batch; the first failure of a batch ends the writing with that failure, and when no
call failed the number of items listed is returned. -/
theorem Reconciler.applyItems_batch_by_batch (hb : 0 < b) (d : DeclaredDirectory)
    (scheds : List (List Nat)) :
    Adds ((Reconciler.traced s cut b).applyItemsIn d scheds) (ItemsApplied cut b d) := by
  intro t
  unfold Reconciler.applyItemsIn
  simp only [Reconciler.traced_storage, Storage.traced_list, Reconciler.traced_batchSize]
  rw [EStateM.run_bind]
  cases hlist : (s.perform (.list d.path d.recurse 0)).run t.store with
  | error e st =>
    rw [Traced.record_run_error hlist]
    exact ⟨_, rfl, .unlisted⟩
  | ok items st =>
    rw [Traced.record_run_ok hlist]
    dsimp only
    obtain ⟨zs, hzs, hbatched⟩ := Reconciler.applyBatchesIn_batched s cut b d d.expectedAcl
      d.expectedDefault scheds (chunks b items)
      { t with store := st, exchanges := t.exchanges ++ [⟨.list d.path d.recurse 0, .ok items⟩] }
    simp only [bind_pure_comp, EStateM.run_map, endState_map, outcome_map]
    refine ⟨_ :: zs, by rw [hzs, List.append_assoc]; rfl, ?_⟩
    exact .listed (chunks_cutInto hb items) hbatched

/-- Over the memory storage, in batches of one, below a container, for a caller that never gives
up and appliers scheduled out of turn in the first two batches. -/
theorem Reconciler.applyItems_batch_by_batch_in_memory :
    0 < 1 ∧ Adds ((Reconciler.traced MemoryStore.storage (fun _ => false) 1).applyItemsIn
        { path := "c" } [[0], [0, 0]])
      (ItemsApplied (fun _ => false) 1 { path := "c" }) :=
  ⟨by decide, Reconciler.applyItems_batch_by_batch (by decide) _ _⟩

end Writing

end AclReconcile
