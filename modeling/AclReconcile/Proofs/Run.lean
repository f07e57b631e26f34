import AclReconcile.Proofs.Trace

/-!
# A run stops at its first failure

A run reconciles the declared directories one after another (`Reconciler.Reconciles`). When
every one of them succeeds, the run returns their results, one per directory and in order. When
one fails, the run stops there: it logs the failure once, at error level, and returns it with
the results of the directories before it, and it makes no call for the directories after it. The
failure is returned as it arose: the very error that one of that directory's calls answered, or
the cancellation, once the caller had given up (`Traced.Caused`). Whatever happens, the totals of
the result agree with its paths (`RunResult.Tallied`).

Processing one directory only logs at info and warn level (`Traced.Quiet`), which is why the one
error-level line of a failed run is the run's own.
-/

namespace AclReconcile

/-! ## Totals -/

/-- The totals of a result agree with its paths: every path is counted once, as unchanged or as
applied, and the items are those of the applied paths. -/
def RunResult.Tallied (r : RunResult) : Prop :=
  r.unchanged + r.applied = r.paths.length ∧
    r.items = ((r.paths.filter PathResult.applied).map PathResult.items).sum

/-- The empty result is tallied. -/
theorem RunResult.tallied_empty : ({} : RunResult).Tallied := ⟨rfl, rfl⟩

/-- Adding a path keeps the totals in agreement with the paths. -/
theorem RunResult.Tallied.add {r : RunResult} (h : r.Tallied) (p : PathResult) :
    (r.add p).Tallied := by
  obtain ⟨hcount, hitems⟩ := h
  unfold RunResult.add
  split
  · next happlied =>
    refine ⟨by simp; omega, ?_⟩
    simp [List.filter_append, happlied, hitems]
  · next happlied =>
    refine ⟨by simp; omega, ?_⟩
    simp [List.filter_append, happlied, hitems]

/-- Adding paths one after another keeps the totals in agreement with the paths. -/
theorem RunResult.Tallied.foldl_add {r : RunResult} (h : r.Tallied) :
    ∀ ps : List PathResult, (ps.foldl RunResult.add r).Tallied
  | [] => h
  | p :: ps => (h.add p).foldl_add ps

/-- Adding paths one after another appends them to the result's paths. -/
@[simp] theorem RunResult.paths_foldl_add (r : RunResult) :
    ∀ ps : List PathResult, (ps.foldl RunResult.add r).paths = r.paths ++ ps
  | [] => by simp
  | p :: ps => by
    rw [List.foldl_cons, RunResult.paths_foldl_add]
    unfold RunResult.add
    split <;> simp

/-- Paths that were not written are each counted as unchanged. -/
theorem RunResult.foldl_add_unapplied (r : RunResult) :
    ∀ ps : List PathResult, (∀ p ∈ ps, p.applied = false) →
      ps.foldl RunResult.add r =
        { r with paths := r.paths ++ ps, unchanged := r.unchanged + ps.length }
  | [], _ => by simp
  | p :: ps, h => by
    have hp : p.applied = false := h p (.head _)
    rw [List.foldl_cons, RunResult.foldl_add_unapplied _ ps fun q hq => h q (.tail _ hq)]
    simp [RunResult.add, hp, Nat.add_assoc, Nat.add_comm 1]

/-! ## Directories one after another -/

/-- `r` reconciles the directories `ds` one after another from the state `t` to the state `t'`,
each one returning the result in the same place of `ps`. -/
inductive Reconciler.Reconciles {τ : Type} (r : Reconciler (EStateM Error τ)) :
    List DeclaredDirectory → List PathResult → τ → τ → Prop
  | nil (t : τ) : r.Reconciles [] [] t t
  | cons {d : DeclaredDirectory} {ds : List DeclaredDirectory} {p : PathResult}
      {ps : List PathResult} {t t₁ t₂ : τ} :
      (r.process d).run t = .ok p t₁ → r.Reconciles ds ps t₁ t₂ →
      r.Reconciles (d :: ds) (p :: ps) t t₂

/-- Reconciling `pre`, then `d`, then `post` passes through a state where `pre` is done and one
where `d` is. -/
theorem Reconciler.Reconciles.split {τ : Type} {r : Reconciler (EStateM Error τ)}
    {pre post : List DeclaredDirectory} {d : DeclaredDirectory} {ps : List PathResult} {t t' : τ}
    (h : r.Reconciles (pre ++ d :: post) ps t t') :
    ∃ ps₁ p ps₂ t₁ t₂, r.Reconciles pre ps₁ t t₁ ∧ (r.process d).run t₁ = .ok p t₂ ∧
      r.Reconciles post ps₂ t₂ t' ∧ ps = ps₁ ++ p :: ps₂ := by
  induction pre generalizing ps t with
  | nil =>
    cases h with
    | cons hp hrest => exact ⟨[], _, _, t, _, .nil t, hp, hrest, rfl⟩
  | cons d₀ pre ih =>
    cases h with
    | cons hp hrest =>
      obtain ⟨ps₁, p, ps₂, t₁, t₂, h₁, hd, h₂, rfl⟩ := ih hrest
      exact ⟨_ :: ps₁, p, ps₂, t₁, t₂, .cons hp h₁, hd, h₂, rfl⟩

/-- A relation that processing each directory keeps holds between the two ends of their
reconciliation. -/
theorem Reconciler.Reconciles.keeps {τ : Type} {r : Reconciler (EStateM Error τ)}
    {R : τ → τ → Prop} [IsPreorder τ R] {ds : List DeclaredDirectory} {ps : List PathResult}
    {t t' : τ} (h : r.Reconciles ds ps t t') (hR : ∀ d ∈ ds, Keeps R (r.process d)) : R t t' := by
  induction h with
  | nil t => exact refl_of R t
  | @cons d ds p ps t t₁ t₂ hp _ ih =>
    have hd := hR d (.head _) t
    rw [hp] at hd
    exact trans_of R hd (ih fun d' hd' => hR d' (.tail _ hd'))

/-! ## What a directory's processing leaves in the record -/

section Record

variable {σ : Type} {s : Storage (EStateM Error σ)} {cut : List Exchange → Bool} {b : Nat}

/-- From `t` to `t'` calls were only added, and lines were only added at info or warn level. -/
def Traced.Quiet (t t' : Traced σ) : Prop :=
  t.exchanges <+: t'.exchanges ∧
    ∃ ls, t'.lines = t.lines ++ ls ∧ ∀ l ∈ ls, l.1 = Level.info ∨ l.1 = Level.warn

/-- Quiet steps are reflexive and transitive: calls and lines are only appended. -/
instance : IsPreorder (Traced σ) Traced.Quiet where
  refl t := ⟨List.prefix_refl _, [], by simp, by simp⟩
  trans _ _ _ h₁ h₂ := by
    obtain ⟨hx₁, ls₁, hl₁, hq₁⟩ := h₁
    obtain ⟨hx₂, ls₂, hl₂, hq₂⟩ := h₂
    refine ⟨hx₁.trans hx₂, ls₁ ++ ls₂, by simp [hl₂, hl₁], fun l hl => ?_⟩
    rcases List.mem_append.1 hl with hl | hl
    · exact hq₁ l hl
    · exact hq₂ l hl

/-- A recorded call only appends its call to the record. -/
theorem Traced.record_quiet (c : Call) : Keeps Traced.Quiet (Traced.record s c) := by
  intro t
  simp only [EStateM.run, Traced.record]
  split <;> exact ⟨List.prefix_append _ _, [], by simp, by simp⟩

/-- Logging at info or warn level is quiet. -/
theorem Traced.say_quiet {lv : Level} (msg : String) (hlv : lv = Level.info ∨ lv = Level.warn) :
    Keeps Traced.Quiet (Traced.say (σ := σ) lv msg) :=
  fun _ => ⟨List.prefix_refl _, [(lv, msg)], rfl, by simpa using hlv⟩

/-! ## Where a failure comes from -/

/-- The failure `e` of a step from `t` to `t'` is caused by the step: a call made in it was
answered with `e`, or `e` is the cancellation and the caller had given up at some point of the
step. -/
def Traced.Caused (cut : List Exchange → Bool) (t : Traced σ) (e : Error) (t' : Traced σ) :
    Prop :=
  ∃ xs, t'.exchanges = t.exchanges ++ xs ∧
    ((∃ x ∈ xs, x.answer = .error e) ∨
      (e = .canceled ∧ ∃ ys, ys <+: xs ∧ cut (t.exchanges ++ ys) = true))

/-- A failure caused by a step is caused by any longer step that contains it. -/
theorem Traced.Caused.widen {t₀ t t₁ t' : Traced σ} {e : Error}
    (h₀ : t₀.exchanges <+: t.exchanges) (h : Traced.Caused cut t e t₁)
    (h₁ : t₁.exchanges <+: t'.exchanges) : Traced.Caused cut t₀ e t' := by
  obtain ⟨zs, hzs⟩ := h₀
  obtain ⟨xs, hxs, hwhy⟩ := h
  obtain ⟨ws, hws⟩ := h₁
  refine ⟨zs ++ xs ++ ws, by rw [← hws, hxs, ← hzs]; simp, ?_⟩
  rcases hwhy with ⟨x, hx, hans⟩ | ⟨rfl, ys, hys, hcut⟩
  · exact .inl ⟨x, by simp [hx], hans⟩
  · refine .inr ⟨rfl, zs ++ ys, ?_, by rw [← List.append_assoc, hzs]; exact hcut⟩
    rw [List.append_assoc]
    exact (List.prefix_append_right_inj zs).2 (hys.trans (List.prefix_append _ _))

/-- Looking at the cancellation when the caller has given up causes the cancellation. -/
theorem Traced.caused_canceled {t : Traced σ} (h : cut t.exchanges = true) :
    Traced.Caused cut t .canceled t :=
  ⟨[], by simp, .inr ⟨rfl, [], List.prefix_refl _, by simpa using h⟩⟩

/-- A run of `x` leaves the record quiet, and each of its failures is caused by it. -/
def Accounted (cut : List Exchange → Bool) {α : Type} (x : TracedM σ α) : Prop :=
  Keeps Traced.Quiet x ∧ ∀ t e t', x.run t = .error e t' → Traced.Caused cut t e t'

namespace Accounted

variable {α β : Type}

/-- Returning a value is accounted for: it never fails. -/
theorem pure (a : α) : Accounted cut (Pure.pure a : TracedM σ α) :=
  ⟨Keeps.pure a, fun _ _ _ h => by cases h⟩

/-- Logging at info or warn level is accounted for. -/
theorem say {lv : Level} (msg : String) (hlv : lv = Level.info ∨ lv = Level.warn) :
    Accounted cut (Traced.say (σ := σ) lv msg) :=
  ⟨Traced.say_quiet msg hlv, fun _ _ _ h => by cases h⟩

/-- A recorded call is accounted for: its failure is the answer it records. -/
theorem record (c : Call) : Accounted cut (Traced.record s c) := by
  refine ⟨Traced.record_quiet c, fun t e t' h => ?_⟩
  simp only [EStateM.run, Traced.record] at h
  split at h
  · cases h
  · cases h
    exact ⟨[⟨c, .error e⟩], rfl, .inl ⟨_, List.mem_singleton_self _, rfl⟩⟩

/-- Sequencing accounted runs is accounted for: a failure of either part is caused by the whole,
which contains the part's calls. -/
theorem bind {x : TracedM σ α} {f : α → TracedM σ β} (hx : Accounted cut x)
    (hf : ∀ a, Accounted cut (f a)) : Accounted cut (x >>= f) := by
  refine ⟨Keeps.seq hx.1 fun a => (hf a).1, fun t e t' h => ?_⟩
  rw [EStateM.run_bind] at h
  split at h
  · next a t₁ hx₁ =>
    have hq₁ := hx.1 t
    rw [hx₁] at hq₁
    exact ((hf a).2 t₁ e t' h).widen hq₁.1 (List.prefix_refl _)
  · cases h
    exact hx.2 t e t' (by assumption)

/-- A choice between accounted runs is accounted for. -/
theorem ite {c : Prop} [Decidable c] {x y : TracedM σ α} (hx : Accounted cut x)
    (hy : Accounted cut y) : Accounted cut (if c then x else y) := by
  split
  · exact hx
  · exact hy

/-- A failure of a handler is caused by the run it handles, since the failed body's calls stay
in the record. -/
theorem tryCatch {x : TracedM σ α} {h : Error → TracedM σ α} (hx : Keeps Traced.Quiet x)
    (hh : ∀ e, Accounted cut (h e)) : Accounted cut (tryCatch x h) := by
  refine ⟨Keeps.tryCatch hx fun e => (hh e).1, fun t e t' hrun => ?_⟩
  have hq₁ := hx t
  rw [run_tryCatch] at hrun
  split at hrun
  · cases hrun
  · next e₁ t₁ hx₁ =>
    rw [hx₁] at hq₁
    exact ((hh e₁).2 t₁ e t' hrun).widen hq₁.1 (List.prefix_refl _)

/-- A fold of accounted steps is accounted for, by induction on the elements still to fold. -/
theorem foldlM {γ : Type} {f : β → γ → TracedM σ β} :
    ∀ {xs : List γ}, (∀ b, ∀ c ∈ xs, Accounted cut (f b c)) → ∀ b, Accounted cut (xs.foldlM f b)
  | [], _, b => Accounted.pure b
  | c :: cs, hf, b => by
    rw [List.foldlM_cons]
    exact Accounted.bind (hf b c (.head _)) fun b' =>
      Accounted.foldlM (fun b c hc => hf b c (.tail _ hc)) b'

/-- A loop of accounted bodies is accounted for, whether it goes on or stops early. -/
theorem forIn {γ : Type} {f : γ → β → TracedM σ (ForInStep β)}
    (hf : ∀ c b, Accounted cut (f c b)) : ∀ (xs : List γ) (b : β), Accounted cut (forIn xs b f)
  | [], b => Accounted.pure b
  | c :: cs, b => by
    rw [List.forIn_cons]
    refine Accounted.bind (hf c b) fun step => ?_
    cases step with
    | done b' => exact Accounted.pure b'
    | yield b' => exact Accounted.forIn hf cs b'

/-- Looking at the cancellation and failing with it when the caller has given up: that failure
is caused, and the rest is accounted for as it is when the caller has not given up. -/
theorem givenUp_bind {f : Bool → TracedM σ β} (hgiven : Keeps Traced.Quiet (f true))
    (hcaused : ∀ t e t', cut t.exchanges = true → (f true).run t = .error e t' →
      Traced.Caused cut t e t')
    (hlive : Accounted cut (f false)) : Accounted cut (Traced.givenUp cut >>= f) := by
  refine ⟨Keeps.seq (fun t => refl_of Traced.Quiet t) fun c => ?_, fun t e t' h => ?_⟩
  · cases c
    · exact hlive.1
    · exact hgiven
  · rw [EStateM.run_bind] at h
    simp only [EStateM.run, Traced.givenUp] at h
    cases hcut : cut t.exchanges
    · rw [hcut] at h
      exact hlive.2 t e t' h
    · rw [hcut] at h
      exact hcaused t e t' hcut h

end Accounted

/-! ## Failures of a directory's processing -/

/-- Making sure a directory's path exists is accounted for, whichever way the path is looked up. -/
theorem Reconciler.ensure_accounted (d : DeclaredDirectory) :
    Accounted cut ((Reconciler.traced s cut b).ensure d) := by
  unfold Reconciler.ensure
  simp only [Reconciler.traced_storage, Reconciler.traced_log, Storage.traced_listContainers,
    Storage.traced_present, Storage.traced_createContainer, Storage.traced_createDirectory]
  refine Accounted.ite (Accounted.bind (Accounted.record _) fun _ =>
      Accounted.bind (Accounted.pure _) fun _ => ?_)
    (Accounted.bind (Accounted.record _) fun _ => ?_)
  all_goals
    refine Accounted.ite (Accounted.bind (Accounted.say _ (.inl rfl)) fun _ => Accounted.pure _)
      (Accounted.ite ?_ ?_)
    all_goals exact Accounted.bind (Accounted.record _) fun _ =>
      Accounted.bind (Accounted.say _ (.inl rfl)) fun _ => Accounted.pure _

/-- Applying an item, a read and then a write of its path, is accounted for. -/
theorem Reconciler.applyItem_accounted (acl defaultAcl : List AclEntry) (upn : Bool)
    (it : Item) : Accounted cut ((Reconciler.traced s cut b).applyItem acl defaultAcl upn it) := by
  unfold Reconciler.applyItem
  simp only [Reconciler.traced_storage, Storage.traced_readAccess, Storage.traced_writeAccess]
  exact Accounted.bind (Accounted.record _) fun _ => Accounted.record _

/-- Applying a batch is accounted for: each item's failure is caught and kept. -/
theorem Reconciler.applyBatch_accounted (acl defaultAcl : List AclEntry) (upn : Bool)
    (batch : List Item) :
    Accounted cut ((Reconciler.traced s cut b).applyBatch acl defaultAcl upn batch) := by
  unfold Reconciler.applyBatch
  refine Accounted.foldlM (fun first it _ => ?_) none
  refine Accounted.bind (Accounted.tryCatch ?_ fun _ => Accounted.pure _) fun _ => Accounted.pure _
  exact Keeps.seq (Reconciler.applyItem_accounted acl defaultAcl upn it).1 fun _ => Keeps.pure _

/-- The failure a batch returns is caused by the batch: it is the first failure of its items. The
fold's invariant is that the failure kept so far was caused since the start of the batch. -/
theorem Reconciler.applyBatch_caused {acl defaultAcl : List AclEntry} {upn : Bool}
    {batch : List Item} {t t' : Traced σ} {e : Error}
    (h : ((Reconciler.traced s cut b).applyBatch acl defaultAcl upn batch).run t =
      .ok (some e) t') : Traced.Caused cut t e t' := by
  unfold Reconciler.applyBatch at h
  refine (foldlM_run_invariant
    (fun t₁ first => t.exchanges <+: t₁.exchanges ∧ ∀ e, first = some e → Traced.Caused cut t e t₁)
    ?_ ⟨List.prefix_refl _, fun _ h => by cases h⟩ h).2 e rfl
  intro first it _ t₁ first' t₂ ⟨hpre, hfirst⟩ hstep
  have hitem : Accounted cut ((Reconciler.traced s cut b).applyItem acl defaultAcl upn it) :=
    Reconciler.applyItem_accounted acl defaultAcl upn it
  rw [EStateM.run_bind, run_tryCatch, EStateM.run_bind] at hstep
  cases hrun : ((Reconciler.traced s cut b).applyItem acl defaultAcl upn it).run t₁ with
  | ok _ t₃ =>
    have hq := hitem.1 t₁
    rw [hrun] at hq
    simp only [hrun, EStateM.run_pure] at hstep
    cases hstep
    refine ⟨hpre.trans hq.1, fun e he => (hfirst e ?_).widen (List.prefix_refl _) hq.1⟩
    cases first with
    | none => simp at he
    | some e₀ => simpa using he
  | error e₁ t₃ =>
    have hq := hitem.1 t₁
    rw [hrun] at hq
    simp only [hrun, EStateM.run_pure] at hstep
    cases hstep
    refine ⟨hpre.trans hq.1, fun e he => ?_⟩
    cases first with
    | some e₀ =>
      obtain rfl : e₀ = e := by simpa using he
      exact (hfirst e₀ rfl).widen (List.prefix_refl _) hq.1
    | none =>
      obtain rfl : e₁ = e := by simpa using he
      exact (hitem.2 t₁ e₁ _ hrun).widen hpre (List.prefix_refl _)

/-- Applying batches is accounted for, by induction on the batches left: giving up causes the
cancellation, and a batch's failure is raised as it is. -/
theorem Reconciler.applyBatches_accounted (d : DeclaredDirectory)
    (acl defaultAcl : List AclEntry) :
    ∀ batches : List (List Item),
      Accounted cut ((Reconciler.traced s cut b).applyBatches d acl defaultAcl batches)
  | [] => by
    unfold Reconciler.applyBatches
    exact Accounted.pure _
  | batch :: rest => by
    unfold Reconciler.applyBatches
    simp only [Reconciler.traced_cancelled, Reconciler.traced_log]
    refine Accounted.givenUp_bind (by rw [if_pos rfl]; exact Keeps.throw_bind _ _)
      (fun t e t' hcut h => ?_) ?_
    · rw [if_pos rfl] at h
      cases h
      exact Traced.caused_canceled hcut
    rw [if_neg Bool.false_ne_true]
    refine Accounted.bind (Accounted.forIn (fun _ _ =>
      Accounted.bind (Accounted.say _ (.inl rfl)) fun _ => Accounted.pure _) _ _) fun _ => ?_
    have hbatch :
        Accounted cut ((Reconciler.traced s cut b).applyBatch acl defaultAcl d.upn batch) :=
      Reconciler.applyBatch_accounted acl defaultAcl d.upn batch
    have hrest := Reconciler.applyBatches_accounted d acl defaultAcl rest
    refine ⟨Keeps.seq hbatch.1 fun failure => ?_, fun t e t' h => ?_⟩
    · cases failure with
      | some e => exact Keeps.throw e
      | none => exact hrest.1
    · rw [EStateM.run_bind] at h
      split at h
      · next failure t₁ hrun =>
        cases failure with
        | some e₁ =>
          cases h
          exact Reconciler.applyBatch_caused hrun
        | none =>
          have hq := hbatch.1 t
          rw [hrun] at hq
          exact (hrest.2 t₁ e t' h).widen hq.1 (List.prefix_refl _)
      · cases h
        exact hbatch.2 t e t' (by assumption)

/-- Processing a directory leaves the record quiet, and each of its failures is caused by it. -/
theorem Reconciler.process_accounted (d : DeclaredDirectory) :
    Accounted cut ((Reconciler.traced s cut b).process d) := by
  unfold Reconciler.process
  simp only [Reconciler.traced_cancelled, Reconciler.traced_log, Reconciler.traced_storage,
    Storage.traced_readAccess, Storage.traced_writeAccess, Storage.traced_list,
    Reconciler.traced_batchSize]
  refine Accounted.givenUp_bind (by rw [if_pos rfl]; exact Keeps.throw_bind _ _)
    (fun t e t' hcut h => ?_) ?_
  · rw [if_pos rfl] at h
    cases h
    exact Traced.caused_canceled hcut
  rw [if_neg Bool.false_ne_true]
  refine Accounted.ite (Accounted.bind (Accounted.say _ (.inr rfl)) fun _ => ?_) ?_
  all_goals
    refine Accounted.bind (Reconciler.ensure_accounted d) fun _ =>
      Accounted.bind (Accounted.record _) fun _ => ?_
    iterate 6 refine Accounted.bind (Accounted.say _ (.inl rfl)) fun _ => ?_
    refine Accounted.ite (Accounted.pure _) (Accounted.bind (Accounted.record _) fun _ => ?_)
    exact Accounted.bind (Accounted.record _) fun _ =>
      Accounted.bind (Reconciler.applyBatches_accounted d _ _ _) fun _ => Accounted.pure _

/-! ## The run -/

/-- A directory whose processing returns adds its result, and the run goes on from where it ended.
-/
theorem Reconciler.runFrom_cons_ok {d : DeclaredDirectory} {ds : List DeclaredDirectory}
    {acc : RunResult} {t t₁ : Traced σ} {p : PathResult}
    (h : ((Reconciler.traced s cut b).process d).run t = .ok p t₁) :
    ((Reconciler.traced s cut b).runFrom (d :: ds) acc).run t =
      ((Reconciler.traced s cut b).runFrom ds (acc.add p)).run t₁ := by
  simp only [Reconciler.runFrom, EStateM.run_bind, run_tryCatch, run_map, h]

/-- A directory whose processing fails stops the run: the failure is logged at error level and
returned beside the results so far. -/
theorem Reconciler.runFrom_cons_error {d : DeclaredDirectory} {ds : List DeclaredDirectory}
    {acc : RunResult} {t t₁ : Traced σ} {e : Error}
    (h : ((Reconciler.traced s cut b).process d).run t = .error e t₁) :
    ((Reconciler.traced s cut b).runFrom (d :: ds) acc).run t =
      .ok (acc, some e) { t₁ with lines := t₁.lines ++ [(Level.error, e.message)] } := by
  simp only [Reconciler.runFrom, EStateM.run_bind, run_tryCatch, run_map, h, EStateM.run_pure,
    Reconciler.traced_log, Traced.say, EStateM.run_modify]

/-- A run from a result so far either reconciles every directory, adding their results, or
reconciles the directories before one whose processing fails, adds their results, logs the
failure and stops. -/
theorem Reconciler.runFrom_cases (acc : RunResult) :
    ∀ (ds : List DeclaredDirectory) (t : Traced σ),
      (∃ ps t', ((Reconciler.traced s cut b).runFrom ds acc).run t =
          .ok (ps.foldl RunResult.add acc, none) t' ∧
        (Reconciler.traced s cut b).Reconciles ds ps t t') ∨
      (∃ pre d post ps t₁ e t₂, ds = pre ++ d :: post ∧
        (Reconciler.traced s cut b).Reconciles pre ps t t₁ ∧
        ((Reconciler.traced s cut b).process d).run t₁ = .error e t₂ ∧
        ((Reconciler.traced s cut b).runFrom ds acc).run t =
          .ok (ps.foldl RunResult.add acc, some e)
            { t₂ with lines := t₂.lines ++ [(Level.error, e.message)] })
  | [], t => .inl ⟨[], t, by simp [Reconciler.runFrom], .nil t⟩
  | d :: ds, t => by
    cases hd : ((Reconciler.traced s cut b).process d).run t with
    | ok p t₁ =>
      rcases Reconciler.runFrom_cases (acc.add p) ds t₁ with
        ⟨ps, t', hrun, hrec⟩ | ⟨pre, d', post, ps, t₂, e, t₃, rfl, hrec, hfail, hrun⟩
      · exact .inl ⟨p :: ps, t', by rw [Reconciler.runFrom_cons_ok hd, hrun]; rfl, .cons hd hrec⟩
      · exact .inr ⟨d :: pre, d', post, p :: ps, t₂, e, t₃, rfl, .cons hd hrec, hfail,
          by rw [Reconciler.runFrom_cons_ok hd, hrun]; rfl⟩
    | error e t₁ =>
      exact .inr ⟨[], d, ds, [], t, e, t₁, rfl, .nil t, hd, Reconciler.runFrom_cons_error hd⟩

/-- A run that ends without a failure has reconciled every directory, one result for each. -/
theorem Reconciler.run_reconciles {ds : List DeclaredDirectory} {t t' : Traced σ} {res : RunResult}
    (h : ((Reconciler.traced s cut b).run ds).run t = .ok (res, none) t') :
    (Reconciler.traced s cut b).Reconciles ds res.paths t t' := by
  unfold Reconciler.run at h
  rcases Reconciler.runFrom_cases {} ds t with
    ⟨ps, t'', hrun, hrec⟩ | ⟨_, _, _, _, _, _, _, _, _, _, hrun⟩
  · rw [hrun] at h
    cases h
    simpa using hrec
  · rw [hrun] at h
    cases h

/-- Directories reconciled one after another leave the record quiet. -/
theorem Reconciler.Reconciles.quiet {ds : List DeclaredDirectory} {ps : List PathResult}
    {t t' : Traced σ} (h : (Reconciler.traced s cut b).Reconciles ds ps t t') :
    Traced.Quiet t t' :=
  h.keeps fun d _ => (Reconciler.process_accounted d).1

/-- Quiet lines hold no error-level line. -/
theorem quiet_lines_filter_error {ls : List (Level × String)}
    (h : ∀ l ∈ ls, l.1 = Level.info ∨ l.1 = Level.warn) :
    ls.filter (·.1 == Level.error) = [] := by
  rw [List.filter_eq_nil_iff]
  intro l hl
  rcases h l hl with h | h <;> rw [h] <;> decide

/-- A run stops at its first failure. Either every directory is reconciled, one result per
directory and in order, or the run returns the failure of the first directory whose processing
failed, as one of that directory's calls answered it or as the cancellation once the caller had
given up, with the results of the directories before it. It then makes no further call, and the
failure is the one error-level line the run logs. Either way the totals agree with the paths. -/
theorem Reconciler.run_stops_at_first_failure (ds : List DeclaredDirectory) (t : Traced σ) :
    ∃ res err t', ((Reconciler.traced s cut b).run ds).run t = .ok (res, err) t' ∧
      res.Tallied ∧
      (err = none → (Reconciler.traced s cut b).Reconciles ds res.paths t t') ∧
      ∀ e, err = some e → ∃ pre d post t₁ t₂, ds = pre ++ d :: post ∧
        (Reconciler.traced s cut b).Reconciles pre res.paths t t₁ ∧
        ((Reconciler.traced s cut b).process d).run t₁ = .error e t₂ ∧
        Traced.Caused cut t₁ e t₂ ∧
        t' = { t₂ with lines := t₂.lines ++ [(Level.error, e.message)] } ∧
        ∃ ls, t'.lines = t.lines ++ ls ∧
          ls.filter (·.1 == Level.error) = [(Level.error, e.message)] := by
  unfold Reconciler.run
  rcases Reconciler.runFrom_cases {} ds t with
    ⟨ps, t', hrun, hrec⟩ | ⟨pre, d, post, ps, t₁, e, t₂, hds, hrec, hfail, hrun⟩
  · refine ⟨_, none, t', hrun, RunResult.tallied_empty.foldl_add ps, fun _ => ?_,
      fun _ => nofun⟩
    simpa using hrec
  · refine ⟨_, some e, _, hrun, RunResult.tallied_empty.foldl_add ps, nofun, fun e' he => ?_⟩
    cases he
    have haccounted : Accounted cut ((Reconciler.traced s cut b).process d) :=
      Reconciler.process_accounted d
    have hq₁ := haccounted.1 t₁
    rw [hfail] at hq₁
    obtain ⟨-, ls, hls, hquiet⟩ := trans_of Traced.Quiet hrec.quiet hq₁
    rw [endState_error] at hls
    refine ⟨pre, d, post, t₁, t₂, hds, by simpa using hrec, hfail,
      haccounted.2 t₁ e t₂ hfail, rfl, ls ++ [(Level.error, e.message)], by simp [hls], ?_⟩
    rw [List.filter_append, quiet_lines_filter_error hquiet]
    rfl

end Record

end AclReconcile
