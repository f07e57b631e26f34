import AclReconcile.Proofs.Batches
import AclReconcile.Proofs.Listing

/-!
# Every schedule of a batch writes the same store

The appliers of one batch run side by side, and their calls may interleave in any order
(`Reconciler.applyBatchIn`). Over the memory storage the order does not matter once the items of
the batch have distinct paths. Each applier reads and writes its own path only, and no call
changes the principal table through which a read shows identities; so what an applier leaves at
its path, and the failure it ends with, depend only on the store the batch started from
(`MemoryStore.itemNode`, `MemoryStore.itemFailure`).

One call of an applier keeps how the batch stands against that store (`BatchStands`,
`Reconciler.applierStep_stands`), and so does every schedule (`Reconciler.runSchedule_stands`).
At the end every applier has finished, so the batch has written each item's node and no other,
and it failed exactly when some item failed, with the failure of one of them
(`Reconciler.applyBatchIn_written`). Over a sorted index two stores with the same lookups are
equal (`Index.ext_of_sorted`), so every schedule leaves the very store that the appliers running
one after another leave (`Reconciler.applyBatchIn_like_applyBatch`). Batch after batch the same
holds for a caller that never gives up (`Reconciler.applyBatchesIn_like_applyBatches`), and so
writing the items listed below a directory ends alike under every schedule
(`Reconciler.applyItemsIn_schedule_free`).
-/

namespace AclReconcile

/-! ## Lists and indexes -/

/-- An element that does not stand at place `i` stays in the list when that place is set. -/
theorem List.mem_set_of_getElem?_ne {α : Type} {l : List α} {i : Nat} {p x : α} (hp : p ∈ l)
    (hne : l[i]? ≠ some p) : p ∈ l.set i x := by
  obtain ⟨j, hj, rfl⟩ := List.getElem_of_mem hp
  have hij : i ≠ j := by
    rintro rfl
    exact hne (List.getElem?_eq_getElem hj)
  have hj' : j < (l.set i x).length := by simpa using hj
  rw [← List.getElem_set_ne hij hj']
  exact List.getElem_mem hj'

/-- Two sorted indexes with the same lookups are the same index. -/
theorem Index.ext_of_sorted {α : Type} {ix₁ ix₂ : Index α} (h₁ : ix₁.Sorted)
    (h₂ : ix₂.Sorted) (h : ∀ k, ix₁.get? k = ix₂.get? k) : ix₁ = ix₂ := by
  have hmem : ∀ e, e ∈ ix₁.entries ↔ e ∈ ix₂.entries := by
    rintro ⟨k, v⟩
    rw [Index.mem_entries_iff h₁, Index.mem_entries_iff h₂, h]
  have hperm : ix₁.entries.Perm ix₂.entries :=
    (List.perm_ext_iff_of_nodup (h₁.keys_nodup.of_map _) (h₂.keys_nodup.of_map _)).2 hmem
  obtain ⟨es₁⟩ := ix₁
  obtain ⟨es₂⟩ := ix₂
  congr
  exact hperm.eq_of_pairwise (fun _ _ _ _ hab hba => absurd (lt_trans hab hba) (lt_irrefl _))
    h₁ h₂

/-! ## What one applier does alone -/

namespace MemoryStore

section Alone

variable (acl defaultAcl : List AclEntry) (upn : Bool)

/-- The state the applier of `it` asks to store over the node `n` of `st`: the node's state as a
read shows it, with the declared lists written over it, checked. -/
def itemPrepared (st : MemoryStore) (it : Item) (n : MemoryNode) : Except Error AccessControl :=
  AccessControl.prepare it.path (some ((view upn st n).replace acl defaultAcl it.isFolder))
    n.folder

/-- The node the applier of `it` leaves at its path when it runs alone from `st`: none when there
is no node, which its read reports; the node as it was when the state asked for does not check;
and otherwise the node with the checked state, identities stored as object ids. -/
def itemNode (st : MemoryStore) (it : Item) : Option MemoryNode :=
  match st.nodes.get? it.path with
  | none => none
  | some n =>
    match itemPrepared acl defaultAcl upn st it n with
    | .error _ => some n
    | .ok prepared => some { n with access := prepared.withIds st.principals.entries }

/-- The failure the applier of `it` ends with when it runs alone from `st`, if any. -/
def itemFailure (st : MemoryStore) (it : Item) : Option Error :=
  match st.nodes.get? it.path with
  | none => some (.detail .notExist ("'" ++ it.path ++ "'"))
  | some n =>
    match itemPrepared acl defaultAcl upn st it n with
    | .error e => some e
    | .ok _ => none

end Alone

/-- A read shows a node through the principal table only. -/
theorem view_of_principals {st st' : MemoryStore} (h : st'.principals = st.principals) (upn : Bool)
    (n : MemoryNode) : view upn st' n = view upn st n := by
  simp only [view, h]

end MemoryStore

open MemoryStore

/-! ## How a batch stands -/

section Stands

variable (acl defaultAcl : List AclEntry) (upn : Bool)

/-- How the store `st` stands at the path of `it` against the store `st₀` its batch started from,
for how far the applier of `it` has got: untouched while it has made no call; untouched, its
state as a read of `st₀` shows it, once it has read; and as the applier alone leaves it from
`st₀` once it has ended. -/
def Applier.Stands (st₀ st : MemoryStore) (it : Item) : Applier → Prop
  | .ready => st.nodes.get? it.path = st₀.nodes.get? it.path
  | .read ac => ∃ n, st₀.nodes.get? it.path = some n ∧ st.nodes.get? it.path = some n ∧
      ac = view upn st₀ n
  | .finished => st.nodes.get? it.path = itemNode acl defaultAcl upn st₀ it

/-- How a batch stands in the store `st`, its appliers at `pool` and the failure kept `first`,
against the store `st₀` it started from: the paths of the batch are distinct, the principal table
and every path outside the batch are untouched, a sorted index stays sorted, each applier's path
stands as far as the applier has got, and the failure kept is one that a finished applier ended
with, none only when no finished applier failed. -/
structure BatchStands (st₀ : MemoryStore) (pool : List (Item × Applier)) (first : Option Error)
    (st : MemoryStore) : Prop where
  distinct : (pool.map (·.1.path)).Nodup
  principals : st.principals = st₀.principals
  sorted : st₀.nodes.Sorted → st.nodes.Sorted
  outside : ∀ k, k ∉ pool.map (·.1.path) → st.nodes.get? k = st₀.nodes.get? k
  appliers : ∀ p ∈ pool, p.2.Stands acl defaultAcl upn st₀ st p.1
  kept : ∀ e, first = some e →
    ∃ p ∈ pool, p.2.isFinished = true ∧ itemFailure acl defaultAcl upn st₀ p.1 = some e
  clean : first = none →
    ∀ p ∈ pool, p.2.isFinished = true → itemFailure acl defaultAcl upn st₀ p.1 = none

/-- What a whole run of a batch does to the store it started from, `st₀`: each item's node is
the one its applier alone leaves, the principal table and every other path are untouched, a
sorted index stays sorted, and the batch fails exactly when some item fails, with the failure
of one of them. -/
structure BatchWritten (st₀ : MemoryStore) (batch : List Item) (first : Option Error)
    (st : MemoryStore) : Prop where
  principals : st.principals = st₀.principals
  sorted : st₀.nodes.Sorted → st.nodes.Sorted
  items : ∀ it ∈ batch, st.nodes.get? it.path = itemNode acl defaultAcl upn st₀ it
  outside : ∀ k, k ∉ batch.map (·.path) → st.nodes.get? k = st₀.nodes.get? k
  succeeds : first = none ↔ ∀ it ∈ batch, itemFailure acl defaultAcl upn st₀ it = none
  failure : ∀ e, first = some e →
    ∃ it ∈ batch, itemFailure acl defaultAcl upn st₀ it = some e

variable {acl defaultAcl upn} {st₀ st st' : MemoryStore} {pool : List (Item × Applier)}
  {first failure : Option Error} {i : Nat} {it : Item} {a a' : Applier}

/-- How an applier's path stands reads the store at that path only. -/
theorem Applier.Stands.congr (h : a.Stands acl defaultAcl upn st₀ st it)
    (heq : st'.nodes.get? it.path = st.nodes.get? it.path) :
    a.Stands acl defaultAcl upn st₀ st' it := by
  cases a <;> simpa only [Applier.Stands, heq] using h

/-- An applier that has ended leaves its path as it would alone. -/
theorem Applier.Stands.finished (h : a.Stands acl defaultAcl upn st₀ st it)
    (ha : a.isFinished = true) : st.nodes.get? it.path = itemNode acl defaultAcl upn st₀ it := by
  cases a with
  | finished => exact h
  | ready | read _ => cases ha

/-- Setting the applier at a place keeps the paths of the batch. -/
theorem paths_set (hi : pool[i]? = some (it, a)) (a' : Applier) :
    (pool.set i (it, a')).map (·.1.path) = pool.map (·.1.path) := by
  have h := congrArg (List.map Item.path) (@map_fst_set pool i it a a' hi)
  simpa [List.map_map, Function.comp_def] using h

/-- Among distinct paths, an applier after the one at place `i` is set is the one set, or one of
the others, whose path is another. -/
theorem mem_set_pool (hd : (pool.map (·.1.path)).Nodup) (hi : pool[i]? = some (it, a))
    {p x : Item × Applier} (hp : p ∈ pool.set i x) :
    p = x ∨ (p ∈ pool ∧ p.1.path ≠ it.path) := by
  obtain ⟨j, hj, rfl⟩ := List.getElem_of_mem hp
  obtain ⟨hlt, hget⟩ := List.getElem?_eq_some_iff.1 hi
  have hj' : j < pool.length := by simpa using hj
  by_cases hij : i = j
  · subst hij
    left
    simp
  · right
    rw [List.getElem_set_ne hij]
    refine ⟨List.getElem_mem hj', fun heq => hij ?_⟩
    have hsame : pool[j] = pool[i] :=
      List.inj_on_of_nodup_map hd (List.getElem_mem hj') (List.getElem_mem hlt)
        (by simp [heq, hget])
    exact ((List.Nodup.getElem_inj_iff (hd.of_map _)).1 hsame).symm

/-- The frame of one call. When the applier at place `i`, not yet ended, gets to `a'` with its
path standing in `st'` as far as it has got, reports its own failure once it has ended and none
before, and `st'` differs from `st` at most at that path, the batch stands in `st'`. -/
theorem BatchStands.set (h : BatchStands acl defaultAcl upn st₀ pool first st)
    (hi : pool[i]? = some (it, a)) (ha : a.isFinished = false)
    (hstands : a'.Stands acl defaultAcl upn st₀ st' it)
    (hfailure : failure = if a'.isFinished then itemFailure acl defaultAcl upn st₀ it else none)
    (hframe : ∀ k, k ≠ it.path → st'.nodes.get? k = st.nodes.get? k)
    (hprincipals : st'.principals = st.principals)
    (hsorted : st.nodes.Sorted → st'.nodes.Sorted) :
    BatchStands acl defaultAcl upn st₀ (pool.set i (it, a')) (first <|> failure) st' := by
  have hmem : (it, a) ∈ pool := List.mem_of_getElem? hi
  have hpaths := paths_set hi a'
  refine ⟨hpaths ▸ h.distinct, hprincipals.trans h.principals, fun hs => hsorted (h.sorted hs),
    ?outside, ?appliers, ?kept, ?clean⟩
  case outside =>
    intro k hk
    rw [hpaths] at hk
    have hne : k ≠ it.path := fun heq => hk (heq ▸ List.mem_map_of_mem hmem)
    rw [hframe k hne, h.outside k hk]
  case appliers =>
    intro p hp
    rcases mem_set_pool h.distinct hi hp with rfl | ⟨hp, hne⟩
    · exact hstands
    · exact (h.appliers p hp).congr (hframe _ hne)
  case kept =>
    intro e he
    simp only [Option.orElse_eq_orElse, Option.orElse_eq_or] at he
    cases hfirst : first with
    | some e' =>
      simp only [hfirst, Option.some_or, Option.some.injEq] at he
      subst he
      obtain ⟨p, hp, hfin, hfail⟩ := h.kept e' hfirst
      have hne : pool[i]? ≠ some p := by
        rw [hi]
        rintro ⟨⟩
        simp [ha] at hfin
      exact ⟨p, List.mem_set_of_getElem?_ne hp hne, hfin, hfail⟩
    | none =>
      simp only [hfirst, Option.none_or] at he
      cases hfin : a'.isFinished
      · simp only [hfin, Bool.false_eq_true, ↓reduceIte] at hfailure
        simp [hfailure] at he
      · simp only [hfin, ↓reduceIte] at hfailure
        exact ⟨(it, a'), List.mem_set (List.getElem?_eq_some_iff.1 hi).1 _, hfin,
          hfailure ▸ he⟩
  case clean =>
    intro hnone p hp hfin
    simp only [Option.orElse_eq_orElse, Option.orElse_eq_or, Option.or_eq_none_iff] at hnone
    obtain ⟨hfirst, hfail⟩ := hnone
    rcases mem_set_pool h.distinct hi hp with rfl | ⟨hp, -⟩
    · simpa [hfin, hfail] using hfailure.symm
    · exact h.clean hfirst p hp hfin

/-- A batch of distinct paths stands, before any call, in the store it starts from. -/
theorem batchStands_start {batch : List Item} (hd : (batch.map (·.path)).Nodup)
    (st₀ : MemoryStore) :
    BatchStands acl defaultAcl upn st₀ (batch.map fun it => (it, .ready)) none st₀ where
  distinct := by simpa [List.map_map, Function.comp_def] using hd
  principals := rfl
  sorted := id
  outside _ _ := rfl
  appliers p hp := by
    obtain ⟨it, -, rfl⟩ := List.mem_map.1 hp
    rfl
  kept _ h := by cases h
  clean _ p hp hfin := by
    obtain ⟨it, -, rfl⟩ := List.mem_map.1 hp
    cases hfin

/-- A batch that stands with every applier ended is written. -/
theorem BatchStands.written {batch : List Item}
    (h : BatchStands acl defaultAcl upn st₀ pool first st)
    (hpool : pool.map Prod.fst = batch) (hfin : ∀ p ∈ pool, p.2.isFinished = true) :
    BatchWritten acl defaultAcl upn st₀ batch first st := by
  have hpaths : pool.map (·.1.path) = batch.map (·.path) := by
    rw [← hpool, List.map_map]
    rfl
  have hmem : ∀ it ∈ batch, ∃ a, (it, a) ∈ pool := by
    intro it hit
    rw [← hpool] at hit
    obtain ⟨⟨it', a⟩, hp, rfl⟩ := List.mem_map.1 hit
    exact ⟨a, hp⟩
  have hof : ∀ p ∈ pool, p.1 ∈ batch := fun p hp => hpool ▸ List.mem_map_of_mem hp
  refine ⟨h.principals, h.sorted, fun it hit => ?_, fun k hk => h.outside k (hpaths ▸ hk),
    ⟨fun hnone it hit => ?_, fun hall => ?_⟩, fun e he => ?_⟩
  · obtain ⟨a, hp⟩ := hmem it hit
    exact (h.appliers _ hp).finished (hfin _ hp)
  · obtain ⟨a, hp⟩ := hmem it hit
    exact h.clean hnone _ hp (hfin _ hp)
  · cases hfirst : first with
    | none => rfl
    | some e =>
      obtain ⟨p, hp, -, hfail⟩ := h.kept e hfirst
      rw [hall p.1 (hof p hp)] at hfail
      cases hfail
  · obtain ⟨p, hp, -, hfail⟩ := h.kept e he
    exact ⟨p.1, hof p hp, hfail⟩

/-- Two runs of one batch from one sorted store leave the same store, and fail alike. -/
theorem BatchWritten.same {batch : List Item} {first₁ first₂ : Option Error}
    {st₁ st₂ : MemoryStore} (hs : st₀.nodes.Sorted)
    (h₁ : BatchWritten acl defaultAcl upn st₀ batch first₁ st₁)
    (h₂ : BatchWritten acl defaultAcl upn st₀ batch first₂ st₂) :
    st₁ = st₂ ∧ (first₁ = none ↔ first₂ = none) := by
  have hget : ∀ k, st₁.nodes.get? k = st₂.nodes.get? k := by
    intro k
    by_cases hk : k ∈ batch.map (·.path)
    · obtain ⟨it, hit, rfl⟩ := List.mem_map.1 hk
      rw [h₁.items it hit, h₂.items it hit]
    · rw [h₁.outside k hk, h₂.outside k hk]
  have hnodes := Index.ext_of_sorted (h₁.sorted hs) (h₂.sorted hs) hget
  have hprincipals : st₁.principals = st₂.principals :=
    h₁.principals.trans h₂.principals.symm
  refine ⟨?_, h₁.succeeds.trans h₂.succeeds.symm⟩
  cases st₁
  cases st₂
  cases hnodes
  cases hprincipals
  rfl

end Stands

/-! ## The calls of the appliers -/

section Calls

variable {r : Reconciler (TracedM MemoryStore)} {acl defaultAcl : List AclEntry} {upn : Bool}
  {st₀ : MemoryStore} {pool : List (Item × Applier)} {first : Option Error}

/-- One call of an applier over the memory storage keeps how the batch stands, and logs
nothing. -/
theorem Reconciler.applierStep_stands (hr : r.storage = MemoryStore.storage.traced)
    {t : Traced MemoryStore} (h : BatchStands acl defaultAcl upn st₀ pool first t.store)
    {i : Nat} {it : Item} {a : Applier} (hi : pool[i]? = some (it, a)) :
    ∃ a' failure t', (r.applierStep acl defaultAcl upn it a).run t = .ok (a', failure) t' ∧
      t'.lines = t.lines ∧
      BatchStands acl defaultAcl upn st₀ (pool.set i (it, a')) (first <|> failure) t'.store := by
  have hstands := h.appliers _ (List.mem_of_getElem? hi)
  cases a with
  | ready =>
    change t.store.nodes.get? it.path = st₀.nodes.get? it.path at hstands
    rw [Reconciler.applierStep_ready_run, hr, Storage.traced_readAccess]
    cases hn : t.store.nodes.get? it.path with
    | none =>
      have hn₀ : st₀.nodes.get? it.path = none := hstands ▸ hn
      have hread : (MemoryStore.storage.perform (.readAccess it.path upn)).run t.store =
          .error (.detail .notExist ("'" ++ it.path ++ "'")) t.store := by
        rw [storage_perform_readAccess, readAccess_run, hn]
      rw [Traced.record_run_error hread]
      refine ⟨.finished, _, _, rfl, rfl, h.set hi rfl ?_ ?_ (fun _ _ => rfl) rfl id⟩
      · change t.store.nodes.get? it.path = itemNode acl defaultAcl upn st₀ it
        rw [hn, itemNode, hn₀]
      · simp [itemFailure, hn₀, Applier.isFinished]
    | some n =>
      have hread : (MemoryStore.storage.perform (.readAccess it.path upn)).run t.store =
          .ok (view upn t.store n) t.store := by
        rw [storage_perform_readAccess, readAccess_run, hn]
      rw [Traced.record_run_ok hread]
      exact ⟨.read _, none, _, rfl, rfl, h.set hi rfl
        ⟨n, hstands ▸ hn, hn, view_of_principals h.principals upn n⟩ rfl (fun _ _ => rfl)
        rfl id⟩
  | read ac =>
    obtain ⟨n, hn₀, hn, rfl⟩ := hstands
    rw [Reconciler.applierStep_read_run, hr, Storage.traced_writeAccess]
    cases hprep : itemPrepared acl defaultAcl upn st₀ it n with
    | error e =>
      have hwrite : (MemoryStore.storage.perform (.writeAccess it.path
          (some ((view upn st₀ n).replace acl defaultAcl it.isFolder)))).run t.store =
          .error e t.store := by
        rw [itemPrepared] at hprep
        rw [storage_perform_writeAccess, writeAccess_run, hn]
        simp only [hprep]
      rw [Traced.record_run_error hwrite]
      refine ⟨.finished, some e, _, rfl, rfl, h.set hi rfl ?_ ?_ (fun _ _ => rfl) rfl id⟩
      · change t.store.nodes.get? it.path = itemNode acl defaultAcl upn st₀ it
        rw [hn, itemNode, hn₀]
        simp only [hprep]
      · simp [Applier.isFinished, itemFailure, hn₀, hprep]
    | ok prepared =>
      have hwrite : (MemoryStore.storage.perform (.writeAccess it.path
          (some ((view upn st₀ n).replace acl defaultAcl it.isFolder)))).run t.store =
          .ok () { t.store with
            nodes := t.store.nodes.insert it.path
              { n with access := prepared.withIds t.store.principals.entries } } := by
        rw [itemPrepared] at hprep
        rw [storage_perform_writeAccess, writeAccess_run, hn]
        simp only [hprep]
      rw [Traced.record_run_ok hwrite]
      refine ⟨.finished, none, _, rfl, rfl, h.set hi rfl ?_ ?_
        (fun k hk => Index.get?_insert_of_ne _ _ hk) rfl (fun hs => hs.insert _ _)⟩
      · change (t.store.nodes.insert it.path _).get? it.path = itemNode acl defaultAcl upn st₀ it
        rw [Index.get?_insert_self, itemNode, hn₀]
        simp only [hprep, h.principals]
      · simp [Applier.isFinished, itemFailure, hn₀, hprep]
  | finished =>
    refine ⟨.finished, none, t, rfl, rfl, ?_⟩
    obtain ⟨hlt, hget⟩ := List.getElem?_eq_some_iff.1 hi
    rw [← hget, List.set_getElem_self]
    simpa using h

/-- Every schedule keeps how the batch stands, and logs nothing. The induction is on the
schedule, one call of an applier at each entry that names a place of the batch. -/
theorem Reconciler.runSchedule_stands (hr : r.storage = MemoryStore.storage.traced) :
    ∀ (sched : List Nat) {pool : List (Item × Applier)} {first : Option Error}
      (t : Traced MemoryStore), BatchStands acl defaultAcl upn st₀ pool first t.store →
    ∃ pool' first' t', (r.runSchedule acl defaultAcl upn sched pool first).run t =
        .ok (pool', first') t' ∧ t'.lines = t.lines ∧
      BatchStands acl defaultAcl upn st₀ pool' first' t'.store
  | [], pool, first, t, h => ⟨pool, first, t, rfl, rfl, h⟩
  | i :: sched, pool, first, t, h => by
    rw [Reconciler.runSchedule]
    cases hi : pool[i]? with
    | none => exact Reconciler.runSchedule_stands hr sched t h
    | some p =>
      obtain ⟨it, a⟩ := p
      obtain ⟨a', failure, t₁, hstep, hlines₁, h₁⟩ :=
        Reconciler.applierStep_stands hr h hi
      obtain ⟨pool', first', t', hrun, hlines', h'⟩ :=
        Reconciler.runSchedule_stands hr sched t₁ h₁
      refine ⟨pool', first', t', ?_, hlines'.trans hlines₁, h'⟩
      simp only [EStateM.run_bind, hstep]
      exact hrun

/-- A batch of distinct paths over the memory storage, under any schedule: it returns, logging
nothing, and leaves the store written as `BatchWritten` says against the store it started
from. -/
theorem Reconciler.applyBatchIn_written (hr : r.storage = MemoryStore.storage.traced)
    (sched : List Nat) {batch : List Item} (hd : (batch.map (·.path)).Nodup)
    (t : Traced MemoryStore) :
    ∃ first t', (r.applyBatchIn acl defaultAcl upn sched batch).run t = .ok first t' ∧
      t'.lines = t.lines ∧ BatchWritten acl defaultAcl upn t.store batch first t'.store := by
  obtain ⟨pool, first, t', hrun, hlines, h⟩ := Reconciler.runSchedule_stands hr
    (sched ++ Reconciler.inTurn batch.length) t (batchStands_start hd t.store)
  obtain ⟨pool₂, first₂, -, -, t₂, hrun₂, -, hpool, hfin, -⟩ :=
    Reconciler.runSchedule_runsOut hr sched batch t
  rw [hrun] at hrun₂
  cases hrun₂
  refine ⟨first, t', ?_, hlines, h.written hpool hfin⟩
  unfold Reconciler.applyBatchIn
  rw [EStateM.run_bind, hrun]
  rfl

/-- Over a sorted memory store, a batch of distinct paths under any schedule leaves the very store
that its appliers running one after another leave, with the same lines logged, and it fails
exactly when they do. -/
theorem Reconciler.applyBatchIn_like_applyBatch (hr : r.storage = MemoryStore.storage.traced)
    (sched : List Nat) {batch : List Item} (hd : (batch.map (·.path)).Nodup)
    (t : Traced MemoryStore) (hs : t.store.nodes.Sorted) :
    ∃ first₁ first₂ t₁ t₂, (r.applyBatchIn acl defaultAcl upn sched batch).run t = .ok first₁ t₁ ∧
      (r.applyBatch acl defaultAcl upn batch).run t = .ok first₂ t₂ ∧
      t₁.store = t₂.store ∧ t₁.lines = t₂.lines ∧ (first₁ = none ↔ first₂ = none) := by
  obtain ⟨first₁, t₁, hrun₁, hlines₁, h₁⟩ :=
    Reconciler.applyBatchIn_written hr sched hd t
  obtain ⟨first₂, t₂, hrun₂, hlines₂, h₂⟩ :=
    Reconciler.applyBatchIn_written hr [] hd t
  rw [Reconciler.applyBatchIn_nil] at hrun₂
  obtain ⟨hstore, hnone⟩ := h₁.same hs h₂
  exact ⟨first₁, first₂, t₁, t₂, hrun₁, hrun₂, hstore, hlines₁.trans hlines₂.symm,
    hnone⟩

end Calls

/-! ## Batch after batch -/

/-- Logging a line for each item of a batch appends the lines, in batch order, and changes nothing
else. -/
theorem forIn_say_run {σ : Type} (msg : Item → String) : ∀ (batch : List Item) (t : Traced σ),
    (forIn batch PUnit.unit fun it (_ : PUnit) => do
        Traced.say .info (msg it)
        pure (ForInStep.yield PUnit.unit) : TracedM σ PUnit).run t =
      .ok PUnit.unit { t with lines := t.lines ++ batch.map fun it => (.info, msg it) }
  | [], t => by simp
  | it :: rest, t => by
    rw [List.forIn_cons, EStateM.run_bind, EStateM.run_bind,
      show (Traced.say Level.info (msg it)).run t =
        .ok () { t with lines := t.lines ++ [(.info, msg it)] } from rfl]
    simp only [EStateM.run_pure]
    rw [forIn_say_run msg rest]
    simp

/-- Two runs that end alike: in the same store, with the same lines logged, and returning the same
value or both failing. -/
def EndAlike {α : Type} (res₁ res₂ : EStateM.Result Error (Traced MemoryStore) α) : Prop :=
  (endState res₁).store = (endState res₂).store ∧ (endState res₁).lines = (endState res₂).lines ∧
    ∀ x, outcome res₁ = .ok x ↔ outcome res₂ = .ok x

/-- Runs that end alike still do once their values are mapped. -/
theorem EndAlike.map {α β : Type} {res₁ res₂ : EStateM.Result Error (Traced MemoryStore) α}
    (h : EndAlike res₁ res₂) (f : α → β) : EndAlike (res₁.map f) (res₂.map f) := by
  obtain ⟨hstore, hlines, hout⟩ := h
  refine ⟨by simpa using hstore, by simpa using hlines, fun y => ?_⟩
  simp only [outcome_map]
  cases h₁ : outcome res₁ with
  | ok x => rw [(hout x).1 h₁]
  | error e₁ =>
    cases h₂ : outcome res₂ with
    | ok x =>
      have h := (hout x).2 h₂
      rw [h₁] at h
      cases h
    | error e₂ => exact ⟨fun h => (by cases h), fun h => (by cases h)⟩

section Batches

variable {b : Nat} (d : DeclaredDirectory) (acl defaultAcl : List AclEntry)

/-- The first batch, written for a caller that never gives up under the first schedule: it is
logged and written, and the writing goes on with the rest exactly when the batch did not fail. -/
theorem Reconciler.applyBatchesIn_cons_run (scheds : List (List Nat)) {batch : List Item}
    (rest : List (List Item)) (hd : (batch.map (·.path)).Nodup) (t : Traced MemoryStore) :
    ∃ first t', BatchWritten acl defaultAcl d.upn t.store batch first t'.store ∧
      t'.lines = t.lines ++
        batch.map (fun it => (.info, d.path ++ " - Applying to file: " ++ it.path ++ ".")) ∧
      (first = none →
        ((Reconciler.traced MemoryStore.storage (fun _ => false) b).applyBatchesIn d acl
          defaultAcl scheds (batch :: rest)).run t =
        ((Reconciler.traced MemoryStore.storage (fun _ => false) b).applyBatchesIn d acl
          defaultAcl scheds.tail rest).run t') ∧
      ∀ e, first = some e →
        ((Reconciler.traced MemoryStore.storage (fun _ => false) b).applyBatchesIn d acl
          defaultAcl scheds (batch :: rest)).run t = .error e t' := by
  obtain ⟨first, t', hrun, hlines, hw⟩ :=
    @Reconciler.applyBatchIn_written (Reconciler.traced MemoryStore.storage (fun _ => false) b)
      acl defaultAcl d.upn rfl (scheds.headD []) batch hd
      { t with lines := t.lines ++
        batch.map fun it => (.info, d.path ++ " - Applying to file: " ++ it.path ++ ".") }
  refine ⟨first, t', hw, hlines, ?_⟩
  rw [Reconciler.applyBatchesIn.eq_2]
  simp only [Reconciler.traced_cancelled, Reconciler.traced_log]
  rw [EStateM.run_bind, Traced.givenUp_run]
  simp only [Bool.false_eq_true, ↓reduceIte]
  rw [EStateM.run_bind, forIn_say_run]
  dsimp only
  rw [EStateM.run_bind, hrun]
  cases first with
  | none => exact ⟨fun _ => rfl, fun _ he => by cases he⟩
  | some e => exact ⟨fun h => (by cases h), fun e' he => by cases he; rfl⟩

/-- For a caller that never gives up, batches of distinct paths written under any two lists of
schedules, from states alike over a sorted store, end alike. The induction is on the batches:
each batch leaves the two runs in one store, with the same lines, and failing alike. -/
theorem Reconciler.applyBatchesIn_alike : ∀ (scheds₁ scheds₂ : List (List Nat))
    (batches : List (List Item)) (t₁ t₂ : Traced MemoryStore), t₁.store = t₂.store →
    t₁.lines = t₂.lines → t₁.store.nodes.Sorted →
    (∀ batch ∈ batches, (batch.map (·.path)).Nodup) →
    EndAlike
      (((Reconciler.traced MemoryStore.storage (fun _ => false) b).applyBatchesIn d acl defaultAcl
        scheds₁ batches).run t₁)
      (((Reconciler.traced MemoryStore.storage (fun _ => false) b).applyBatchesIn d acl defaultAcl
        scheds₂ batches).run t₂)
  | _, _, [], _, _, hstore, hlines, _, _ => by
    rw [Reconciler.applyBatchesIn, Reconciler.applyBatchesIn]
    exact ⟨hstore, hlines, fun _ => Iff.rfl⟩
  | scheds₁, scheds₂, batch :: rest, t₁, t₂, hstore, hlines, hs, hd => by
    obtain ⟨f₁, t₁', hw₁, hlines₁, hnone₁, hsome₁⟩ :=
      Reconciler.applyBatchesIn_cons_run (b := b) d acl defaultAcl scheds₁ rest
        (hd batch (.head _)) t₁
    obtain ⟨f₂, t₂', hw₂, hlines₂, hnone₂, hsome₂⟩ :=
      Reconciler.applyBatchesIn_cons_run (b := b) d acl defaultAcl scheds₂ rest
        (hd batch (.head _)) t₂
    rw [hstore] at hw₁ hs
    obtain ⟨hsame, hiff⟩ := hw₁.same hs hw₂
    have hlines' : t₁'.lines = t₂'.lines := by rw [hlines₁, hlines₂, hlines]
    cases f₁ with
    | none =>
      rw [hnone₁ rfl, hnone₂ (hiff.1 rfl)]
      exact Reconciler.applyBatchesIn_alike scheds₁.tail scheds₂.tail rest t₁' t₂' hsame
        hlines' (hw₁.sorted hs) fun c hc => hd c (.tail _ hc)
    | some e₁ =>
      obtain ⟨e₂, rfl⟩ : ∃ e₂, f₂ = some e₂ :=
        Option.ne_none_iff_exists'.1 fun h => Option.some_ne_none _ (hiff.2 h)
      rw [hsome₁ e₁ rfl, hsome₂ e₂ rfl]
      exact ⟨hsame, hlines', fun _ => ⟨fun h => (by cases h), fun h => (by cases h)⟩⟩

/-- Over a sorted memory store, for a caller that never gives up, batches of distinct paths
written under any schedules end alike with the reconciler's own writing of them, the appliers
of each batch running one after another. -/
theorem Reconciler.applyBatchesIn_like_applyBatches (scheds : List (List Nat))
    {batches : List (List Item)} (hd : ∀ batch ∈ batches, (batch.map (·.path)).Nodup)
    (t : Traced MemoryStore) (hs : t.store.nodes.Sorted) :
    EndAlike
      (((Reconciler.traced MemoryStore.storage (fun _ => false) b).applyBatchesIn d acl defaultAcl
        scheds batches).run t)
      (((Reconciler.traced MemoryStore.storage (fun _ => false) b).applyBatches d acl defaultAcl
        batches).run t) := by
  rw [← Reconciler.applyBatchesIn_nil]
  exact Reconciler.applyBatchesIn_alike d acl defaultAcl scheds [] batches t t rfl rfl hs hd

end Batches

/-! ## The items below a directory -/

/-- Cutting to the limit keeps a part of the items, in order. -/
theorem limitItems_sublist (items : List Item) (max : Int) :
    (limitItems items max).Sublist items := by
  unfold limitItems
  split
  · exact List.take_sublist _ _
  · exact List.Sublist.refl _

/-- A sorted memory store lists distinct paths. -/
theorem MemoryStore.listing_paths_nodup {st : MemoryStore} (hs : st.nodes.Sorted) (p : String)
    (r : Bool) (k : Int) : ((listing st p r k).map (·.path)).Nodup := by
  have hchosen : (((st.nodes.atOrAfter (p ++ "/")).takeWhile fun e => Path.isBelow e.1 p).filter
      fun e => r || !(e.1.drop (p ++ "/").length).contains '/').Sublist st.nodes.entries :=
    (List.filter_sublist.trans (List.takeWhile_sublist _)).trans List.filter_sublist
  refine hs.keys_nodup.sublist (((limitItems_sublist _ k).map Item.path).trans ?_)
  rw [List.map_map]
  exact hchosen.map _

/-- The batches cut from items of distinct paths have distinct paths. -/
theorem chunks_paths_nodup {items : List Item} (hd : (items.map (·.path)).Nodup) (n : Nat) :
    ∀ batch ∈ chunks n items, (batch.map (·.path)).Nodup := by
  intro batch hbatch
  have hsub : batch.Sublist items := flatten_chunks n items ▸ List.sublist_flatten_of_mem hbatch
  exact hd.sublist (hsub.map _)

/-- Over a sorted memory store, for a caller that never gives up, listing the items below a
directory and writing its declared lists to them in batches ends alike under every list of
schedules and under the reconciler's own writing, the appliers of each batch one after
another: in the same store, with the same lines logged, and with the same number of items or a
failure in both. -/
theorem Reconciler.applyItemsIn_schedule_free {b : Nat} (d : DeclaredDirectory)
    (scheds : List (List Nat)) (t : Traced MemoryStore) (hs : t.store.nodes.Sorted) :
    EndAlike (((Reconciler.traced MemoryStore.storage (fun _ => false) b).applyItemsIn d
        scheds).run t)
      (((Reconciler.traced MemoryStore.storage (fun _ => false) b).applyItemsIn d []).run t) := by
  unfold Reconciler.applyItemsIn
  simp only [Reconciler.traced_storage, Storage.traced_list, Reconciler.traced_batchSize]
  rw [EStateM.run_bind, EStateM.run_bind]
  cases hlist : (MemoryStore.storage.perform (.list d.path d.recurse 0)).run t.store with
  | error e st =>
    rw [Traced.record_run_error hlist]
    exact ⟨rfl, rfl, fun _ => Iff.rfl⟩
  | ok items st =>
    rw [Traced.record_run_ok hlist]
    have hlisted : items = listing t.store d.path d.recurse 0 ∧ st = t.store := by
      rw [storage_perform_list, list_run] at hlist
      cases hn : t.store.nodes.get? d.path with
      | none => simp [hn] at hlist
      | some n =>
        cases hf : n.folder <;> simp [hn, hf] at hlist
        exact ⟨hlist.1.symm, hlist.2.symm⟩
    obtain ⟨rfl, rfl⟩ := hlisted
    simp only [bind_pure_comp, EStateM.run_map]
    refine (Reconciler.applyBatchesIn_alike d _ _ scheds [] _ _ _ rfl rfl ?_ ?_).map _
    · exact hs
    · exact chunks_paths_nodup (listing_paths_nodup hs _ _ _) b

end AclReconcile
