import AclReconcile.Proofs.Settle
import AclReconcile.Proofs.MemoryContainers

/-!
# Processing one directory overwrites exactly it and what its listing returns

Over the memory storage with no principals, a declared directory that is already there as a
directory is processed in one of two ways. When its lists agree with the declaration and nothing
forces a write, the store is left exactly as it was. Otherwise the declared lists are written to
the directory, and then to every item the listing of the directory returned: each such node keeps
its kind, owner and group, takes the declared effective list and, as a directory, the declared
default list (a file an empty one), and a summary computed from its new list
(`MemoryNode.withLists`). Every other node stays as it was; with recursion off, so do the
descendants more than one level down (`Reconciler.process_overwrites_listed`).

The argument follows the calls. The directory is found, not created (`MemoryStore.ensure_found`),
and read as stored, since there are no principal names to show. A write of declared lists to a
node is `MemoryStore.overwrite` of the store (`MemoryStore.record_writeAccess_overwrites`); the
listing reads only the index past the directory's own path, which the directory's write does not
change (`MemoryStore.listing_overwrite`). A batch of item writes that reports no failure has
overwritten every item of the batch in turn (`MemoryStore.applyBatch_overwrites`), and overwriting
is idempotent (`MemoryNode.withLists_withLists`), so the overwritten nodes are read off the
list of paths written whatever its repeats (`MemoryStore.get?_foldl_overwrite`). That a listed
item carries the kind of its node is where the index being sorted is used: each path is bound
once, so the entry the listing reads is the node of its path (`Index.get?_of_mem`).
-/

namespace AclReconcile

namespace Index

variable {α : Type}

/-- In a sorted index, a binding of the entries is what its key looks up: every later key is larger
than the first. -/
theorem get?_of_mem {ix : Index α} (hs : ix.Sorted) {k : String} {v : α}
    (h : (k, v) ∈ ix.entries) : ix.get? k = some v := by
  obtain ⟨es⟩ := ix
  simp only [Sorted, get?] at hs h ⊢
  induction es with
  | nil => cases h
  | cons e rest ih =>
    obtain ⟨k', v'⟩ := e
    rw [List.pairwise_cons] at hs
    rcases List.mem_cons.1 h with h | h
    · obtain ⟨rfl, rfl⟩ := Prod.mk.inj h
      simp [List.lookup]
    · have hne : (k == k') = false := by simpa using ne_of_gt (hs.1 (k, v) h)
      rw [List.lookup_cons, hne]
      exact ih hs.2 h

/-- Binding a key below `pre` leaves the bindings from `pre` on as they were: the filter drops the
new binding wherever it lands. -/
theorem atOrAfter_insert_of_lt (ix : Index α) {k pre : String} (v : α) (h : k < pre) :
    (ix.insert k v).atOrAfter pre = ix.atOrAfter pre := by
  obtain ⟨es⟩ := ix
  simp only [insert, atOrAfter]
  have hk : (!decide (k < pre)) = false := by simp only [decide_eq_true h, Bool.not_true]
  induction es with
  | nil => simp only [insertInto, List.filter_cons, hk, Bool.false_eq_true, ↓reduceIte,
      List.filter_nil]
  | cons e rest ih =>
    obtain ⟨k', v'⟩ := e
    simp only [insertInto]
    split
    · next heq =>
      have hk' : k = k' := by simpa using heq
      subst hk'
      simp only [List.filter_cons, hk, Bool.false_eq_true, ↓reduceIte]
    · split
      · rw [List.filter_cons_of_neg (by simp only [hk, Bool.false_eq_true, not_false_eq_true])]
      · simp only [List.filter_cons]
        split <;> simp only [ih]

end Index

namespace MemoryNode

/-- The node with both lists replaced, the default one only for a directory (a file gets an
empty one), and the summary of the new effective list; its kind, owner and group stay. -/
def withLists (acl defaultAcl : List AclEntry) (n : MemoryNode) : MemoryNode where
  folder := n.folder
  access := { n.access with
    acl := acl
    defaultAcl := if n.folder then defaultAcl else []
    permissions := AccessControl.summaryOf acl }

variable {acl defaultAcl : List AclEntry} {n : MemoryNode}

@[simp] theorem withLists_folder : (n.withLists acl defaultAcl).folder = n.folder := rfl

@[simp] theorem withLists_owner : (n.withLists acl defaultAcl).access.owner = n.access.owner := rfl

@[simp] theorem withLists_group : (n.withLists acl defaultAcl).access.group = n.access.group := rfl

@[simp] theorem withLists_acl : (n.withLists acl defaultAcl).access.acl = acl := rfl

@[simp] theorem withLists_defaultAcl :
    (n.withLists acl defaultAcl).access.defaultAcl = if n.folder then defaultAcl else [] := rfl

@[simp] theorem withLists_permissions :
    (n.withLists acl defaultAcl).access.permissions = AccessControl.summaryOf acl := rfl

/-- Writing the same lists twice is writing them once. -/
@[simp] theorem withLists_withLists :
    (n.withLists acl defaultAcl).withLists acl defaultAcl = n.withLists acl defaultAcl := rfl

end MemoryNode

namespace AccessControl

/-- A state that passes the check is stored with a fresh summary and nothing else changed. -/
theorem prepare_eq {path : String} {ac prepared : AccessControl} {isFolder : Bool}
    (h : prepare path (some ac) isFolder = .ok prepared) :
    prepared = { ac with permissions := ac.summary } := by
  simp only [prepare] at h
  split at h
  · cases h
  · split at h
    · cases h
    · cases h
      rfl

end AccessControl

namespace MemoryStore

/-! ## Overwriting nodes -/

section Overwrite

variable {acl defaultAcl : List AclEntry} {st : MemoryStore}

/-- The store with the declared lists written to the node under `p`, if there is one. -/
def overwrite (acl defaultAcl : List AclEntry) (st : MemoryStore) (p : String) : MemoryStore :=
  match st.nodes.get? p with
  | some n => { st with nodes := st.nodes.insert p (n.withLists acl defaultAcl) }
  | none => st

/-- Overwriting keeps the principal table. -/
@[simp] theorem overwrite_principals (p : String) :
    (st.overwrite acl defaultAcl p).principals = st.principals := by
  unfold overwrite
  split <;> rfl

/-- Overwriting a path that has a node gives the node the declared lists. -/
theorem overwrite_of_some {p : String} {n : MemoryNode} (hp : st.nodes.get? p = some n) :
    st.overwrite acl defaultAcl p =
      { st with nodes := st.nodes.insert p (n.withLists acl defaultAcl) } := by
  unfold overwrite
  rw [hp]

/-- Overwriting a path that has no node changes nothing. -/
theorem overwrite_of_none {p : String} (hp : st.nodes.get? p = none) :
    st.overwrite acl defaultAcl p = st := by
  unfold overwrite
  rw [hp]

/-- After overwriting `p`, the node of `p` carries the declared lists and every other node is as it
was. -/
theorem get?_overwrite (p k : String) :
    (st.overwrite acl defaultAcl p).nodes.get? k =
      if k = p then (st.nodes.get? k).map (·.withLists acl defaultAcl) else st.nodes.get? k := by
  cases hp : st.nodes.get? p with
  | none =>
    rw [overwrite_of_none hp]
    split
    · next hk => rw [hk, hp]; rfl
    · rfl
  | some n =>
    rw [overwrite_of_some hp]
    split
    · next hk => subst hk; simp [hp]
    · next hk => simp [Index.get?_insert_of_ne _ _ hk]

/-- Overwriting the paths `ps` one after another overwrites the nodes of exactly those paths. -/
theorem get?_foldl_overwrite (k : String) :
    ∀ (ps : List String) (st : MemoryStore), (ps.foldl (overwrite acl defaultAcl) st).nodes.get? k =
      if k ∈ ps then (st.nodes.get? k).map (·.withLists acl defaultAcl) else st.nodes.get? k
  | [], st => by simp
  | p :: ps, st => by
    rw [List.foldl_cons, get?_foldl_overwrite k ps, get?_overwrite]
    by_cases hk : k = p
    · subst hk
      by_cases hmem : k ∈ ps <;> simp [hmem, Option.map_map, Function.comp_def]
    · simp [hk]

/-- Overwriting paths one after another keeps the principal table. -/
@[simp] theorem foldl_overwrite_principals (ps : List String) (st : MemoryStore) :
    (ps.foldl (overwrite acl defaultAcl) st).principals = st.principals := by
  induction ps generalizing st with
  | nil => rfl
  | cons p ps ih => rw [List.foldl_cons, ih, overwrite_principals]

/-- Every item of `items` is listed with the kind of its node in `st`. -/
def KindsAgree (st : MemoryStore) (items : List Item) : Prop :=
  ∀ it ∈ items, ∀ m, st.nodes.get? it.path = some m → it.isFolder = m.folder

/-- Overwriting keeps the kind of every node. -/
theorem KindsAgree.overwrite {items : List Item} (h : KindsAgree st items) (p : String) :
    KindsAgree (st.overwrite acl defaultAcl p) items := by
  intro it hit m hm
  rw [get?_overwrite] at hm
  split at hm
  · obtain ⟨m₀, hm₀, rfl⟩ := Option.map_eq_some_iff.1 hm
    exact h it hit m₀ hm₀
  · exact h it hit m hm

/-- Overwriting paths one after another keeps the kind of every node. -/
theorem KindsAgree.foldl_overwrite {items : List Item} (h : KindsAgree st items)
    (ps : List String) : KindsAgree (ps.foldl (MemoryStore.overwrite acl defaultAcl) st) items := by
  induction ps generalizing st with
  | nil => exact h
  | cons p ps ih => exact ih (h.overwrite p)

/-- Kinds that agree on a list agree on every part of it. -/
theorem KindsAgree.of_subset {items items' : List Item} (h : KindsAgree st items)
    (hsub : ∀ it ∈ items', it ∈ items) : KindsAgree st items' :=
  fun it hit => h it (hsub it hit)

end Overwrite

/-! ## The listing -/

/-- What the listing of a directory returns, read off the bindings past the directory's path. -/
def listing (st : MemoryStore) (p : String) (recursive : Bool) (max : Int) : List Item :=
  limitItems ((((st.nodes.atOrAfter (p ++ "/")).takeWhile fun e => Path.isBelow e.1 p).filter
    fun e => recursive || !(e.1.drop (p ++ "/").length).contains '/').map
      fun e => ⟨e.1, e.2.folder⟩) max

/-- A listing fails when the path has no node or a file, and otherwise answers the listing read off
the bindings past the path. -/
theorem list_run (p : String) (r : Bool) (k : Int) (st : MemoryStore) :
    (list p r k).run st = match st.nodes.get? p with
      | none => .error (.detail .notExist ("'" ++ p ++ "'")) st
      | some n =>
        if n.folder then .ok (listing st p r k) st
        else .error (.detail .notDirectory ("'" ++ p ++ "'")) st := by
  unfold list
  simp only [EStateM.run_bind, node_run]
  cases st.nodes.get? p with
  | none => rfl
  | some n =>
    dsimp only
    cases n.folder <;> simp only [Bool.not_true, Bool.not_false, ↓reduceIte] <;> rfl

/-- A directory is listed with what `listing` reads. -/
theorem list_run_of_folder {st : MemoryStore} {p : String} {n : MemoryNode}
    (hn : st.nodes.get? p = some n) (hfolder : n.folder = true) (r : Bool) (k : Int) :
    (list p r k).run st = .ok (listing st p r k) st := by
  rw [list_run, hn]
  simp only [hfolder, ↓reduceIte]

/-- Writing the directory's own path leaves its listing as it was. -/
theorem listing_overwrite {acl defaultAcl : List AclEntry} (st : MemoryStore) (p : String)
    (r : Bool) (k : Int) : listing (st.overwrite acl defaultAcl p) p r k = listing st p r k := by
  cases hp : st.nodes.get? p with
  | none => rw [overwrite_of_none hp]
  | some n =>
    rw [overwrite_of_some hp]
    simp only [listing, Index.atOrAfter_insert_of_lt _ _ (String.lt_append_separator p)]

/-- A listed item is a binding of the index, with the kind of its node. -/
theorem mem_listing {st : MemoryStore} {p : String} {r : Bool} {k : Int} {it : Item}
    (h : it ∈ listing st p r k) : ∃ m, (it.path, m) ∈ st.nodes.entries ∧ it.isFolder = m.folder := by
  obtain ⟨e, he, rfl⟩ := List.mem_map.1 (mem_of_mem_limitItems h)
  have hwhile := (List.mem_filter.1 he).1
  have hafter := List.takeWhile_subset _ hwhile
  exact ⟨e.2, (List.mem_filter.1 hafter).1, rfl⟩

/-- Without recursion, a listed item lies one level below the directory. -/
theorem listing_child {st : MemoryStore} {p : String} {k : Int} {it : Item}
    (h : it ∈ listing st p false k) : (it.path.drop (p ++ "/").length).contains '/' = false := by
  obtain ⟨e, he, rfl⟩ := List.mem_map.1 (mem_of_mem_limitItems h)
  simpa using (List.mem_filter.1 he).2

/-- In a sorted index, the listing gives every item the kind of its node. -/
theorem kindsAgree_listing {st : MemoryStore} (hs : st.nodes.Sorted) (p : String) (r : Bool)
    (k : Int) : KindsAgree st (listing st p r k) := by
  intro it hit m hm
  obtain ⟨m', hmem, hkind⟩ := mem_listing hit
  rw [Index.get?_of_mem hs hmem] at hm
  cases hm
  exact hkind

/-! ## The calls, over a store with no principals -/

section Calls

variable {cut : List Exchange → Bool} {b : Nat} {S : MemoryStore}

/-- A run that keeps the contents keeps any one store. -/
theorem store_kept {α : Type} {x : TracedM MemoryStore α} (h : Keeps (Traced.OnStore Eq) x) :
    Triple (fun t => t.store = S) x fun _ t => t.store = S :=
  Triple.of_keeps h fun _ _ hs hS => hs.symm.trans hS

/-- With no principals, a node reads as it is stored. -/
theorem view_of_empty {upn : Bool} {n : MemoryNode} (h : S.principals.entries = []) :
    view upn S n = n.access := by
  cases upn <;> simp [view, h]

/-- A directory whose node is there is found, not created, and nothing changes. -/
theorem ensure_found {d : DeclaredDirectory} {n : MemoryNode}
    (hn : S.nodes.get? d.path = some n) :
    Triple (fun t => t.store = S) ((Reconciler.traced storage cut b).ensure d)
      fun created t => t.store = S ∧ created = false :=
  Triple.of_yields fun t ht =>
    (ensure_inert (by rw [ht]; exact hn)).mono fun _ _ h => ⟨h.2.1.trans ht, h.1⟩

/-- A read that returns has found the node and, with no principals, returns its state. -/
theorem record_readAccess_found (hprincipals : S.principals.entries = []) (p : String)
    (upn : Bool) :
    Triple (fun t => t.store = S) (Traced.record storage (.readAccess p upn))
      fun ac t => t.store = S ∧ ∃ m, S.nodes.get? p = some m ∧ ac = m.access := by
  intro t ac t' ht hrun
  obtain ⟨hperform, -⟩ := Traced.record_run_ok_inv hrun
  obtain ⟨hst, m, hm, hac⟩ := readAccess_run_ok hperform
  rw [ht] at hm hac
  exact ⟨hst.trans ht, m, hm, hac.trans (view_of_empty hprincipals)⟩

/-- Writing the declared lists over a node's own state, the default one as its kind asks, is
overwriting the node. -/
theorem record_writeAccess_overwrites (hprincipals : S.principals.entries = []) {p : String}
    {m : MemoryNode} (hm : S.nodes.get? p = some m) {acl defaultAcl : List AclEntry}
    {isFolder : Bool} (hkind : isFolder = m.folder) :
    Triple (fun t => t.store = S)
      (Traced.record storage (.writeAccess p (some (m.access.replace acl defaultAcl isFolder))))
      fun _ t => t.store = S.overwrite acl defaultAcl p := by
  intro t u t' ht hrun
  obtain ⟨hperform, -⟩ := Traced.record_run_ok_inv hrun
  obtain ⟨m', prepared, hm', hprep, hst⟩ := writeAccess_run_ok hperform
  rw [ht, hm] at hm'
  cases hm'
  rw [AccessControl.prepare_eq hprep] at hst
  rw [hst, ht, hprincipals, AccessControl.withIds_nil, overwrite_of_some hm]
  subst hkind
  rfl

/-- A listing that returns has read the store, and returns what the same listing of that store
returns. -/
theorem record_list_found (p : String) (r : Bool) (k : Int) :
    Triple (fun t => t.store = S) (Traced.record storage (.list p r k))
      fun items t => t.store = S ∧ (list p r k).run S = .ok items S := by
  intro t items t' ht hrun
  obtain ⟨hperform, -⟩ := Traced.record_run_ok_inv hrun
  have hend := list_endState p r k t.store
  rw [storage_perform_list] at hperform
  rw [hperform, endState_ok] at hend
  refine ⟨hend.trans ht, ?_⟩
  rw [← ht, hperform, hend]

/-- Writing the declared lists to one item reads it and overwrites it. -/
theorem applyItem_overwrites (hprincipals : S.principals.entries = []) {acl defaultAcl : List AclEntry}
    {upn : Bool} {it : Item} (hkinds : KindsAgree S [it]) :
    Triple (fun t => t.store = S)
      ((Reconciler.traced storage cut b).applyItem acl defaultAcl upn it)
      fun _ t => t.store = S.overwrite acl defaultAcl it.path := by
  unfold Reconciler.applyItem
  simp only [Reconciler.traced_storage, Storage.traced_readAccess, Storage.traced_writeAccess]
  refine Triple.bind (record_readAccess_found hprincipals _ _) fun ac => Triple.of_and fun h => ?_
  obtain ⟨m, hm, rfl⟩ := h
  exact record_writeAccess_overwrites hprincipals hm (hkinds it (.head _) m hm)

/-! ## Batches -/

/-- A fold of batch steps that starts from a failure ends with it, when every step keeps the
failure it is given. -/
theorem foldlM_failure_stays {f : Option Error → Item → TracedM MemoryStore (Option Error)}
    (hf : ∀ e it, Triple (fun _ => True) (f (some e) it) fun r _ => r = some e) (e : Error) :
    ∀ batch : List Item, Triple (fun _ => True) (batch.foldlM f (some e)) fun r _ => r = some e
  | [] => by
    rw [List.foldlM_nil]
    exact Triple.pure fun _ _ => rfl
  | it :: rest => by
    rw [List.foldlM_cons]
    refine Triple.bind (hf e it) fun r => ?_
    intro t r' t' hr hrun
    subst hr
    exact foldlM_failure_stays hf e rest t r' t' trivial hrun

/-- A fold of batch steps from no failure, where a step from no failure overwrites its item or
reports a failure, ends with no failure only after overwriting every item in turn: a failure,
once reported, stays to the end. -/
theorem foldlM_overwrites {acl defaultAcl : List AclEntry}
    {f : Option Error → Item → TracedM MemoryStore (Option Error)}
    (hsome : ∀ e it, Triple (fun _ => True) (f (some e) it) fun r _ => r = some e)
    (hnone : ∀ (S : MemoryStore) it, S.principals.entries = [] → KindsAgree S [it] →
      Triple (fun t => t.store = S) (f none it)
        fun r t => r = none → t.store = S.overwrite acl defaultAcl it.path) :
    ∀ (batch : List Item) (S : MemoryStore), S.principals.entries = [] → KindsAgree S batch →
      Triple (fun t => t.store = S) (batch.foldlM f none)
        fun r t => r = none → t.store = (batch.map (·.path)).foldl (overwrite acl defaultAcl) S
  | [], S, _, _ => by
    rw [List.foldlM_nil]
    exact Triple.pure fun _ ht _ => ht
  | it :: rest, S, hp, hk => by
    rw [List.foldlM_cons]
    refine Triple.bind (hnone S it hp (hk.of_subset (by simp))) fun r => ?_
    cases r with
    | none =>
      have hrest := foldlM_overwrites hsome hnone rest (S.overwrite acl defaultAcl it.path)
        (by rw [overwrite_principals]; exact hp)
        ((hk.of_subset fun _ hi => .tail _ hi).overwrite it.path)
      exact hrest.weaken fun _ h => h rfl
    | some e =>
      intro t r t' _ hrun hr
      have hfail := foldlM_failure_stays hsome e rest t r t' trivial hrun
      rw [hr] at hfail
      cases hfail

/-- A batch that reports no failure has overwritten its items one after another. -/
theorem applyBatch_overwrites {acl defaultAcl : List AclEntry} {upn : Bool} (batch : List Item)
    (hp : S.principals.entries = []) (hk : KindsAgree S batch) :
    Triple (fun t => t.store = S)
      ((Reconciler.traced storage cut b).applyBatch acl defaultAcl upn batch)
      fun r t => r = none → t.store = (batch.map (·.path)).foldl (overwrite acl defaultAcl) S := by
  unfold Reconciler.applyBatch
  refine foldlM_overwrites (fun e it => ?_) (fun S it hp hk => ?_) batch S hp hk
  · exact Triple.bind (Triple.anything _) fun _ => Triple.pure fun _ _ => rfl
  · refine Triple.bind (M := fun r t => r = none → t.store = S.overwrite acl defaultAcl it.path)
      (Triple.tryCatch (Triple.bind (applyItem_overwrites hp hk) fun _ =>
        Triple.pure fun _ ht _ => ht) fun e => Triple.pure fun _ _ h => nomatch h) fun failure => ?_
    exact Triple.pure fun _ h hnone => h hnone

/-- Batches that all report no failure have overwritten their items one after another. -/
theorem applyBatches_overwrites {acl defaultAcl : List AclEntry} (d : DeclaredDirectory) :
    ∀ (batches : List (List Item)) (S : MemoryStore), S.principals.entries = [] →
      KindsAgree S batches.flatten →
      Triple (fun t => t.store = S)
        ((Reconciler.traced storage cut b).applyBatches d acl defaultAcl batches)
        fun _ t => t.store = (batches.flatten.map (·.path)).foldl (overwrite acl defaultAcl) S
  | [], S, _, _ => by
    unfold Reconciler.applyBatches
    exact Triple.pure fun _ ht => ht
  | batch :: rest, S, hp, hk => by
    unfold Reconciler.applyBatches
    simp only [Reconciler.traced_cancelled, Reconciler.traced_log]
    refine Triple.bind (store_kept givenUp_keeps) fun _ => Triple.ite (Triple.throw_bind _ _) ?_
    refine Triple.bind (store_kept (Keeps.forIn (fun _ _ =>
      Keeps.seq (Traced.say_onStore _ _) fun _ => Keeps.pure _) _ _)) fun _ => ?_
    rw [List.flatten_cons] at hk
    refine Triple.bind (applyBatch_overwrites batch hp
      (hk.of_subset fun _ hit => List.mem_append_left _ hit)) fun failure => ?_
    cases failure with
    | some e => exact Triple.throw e
    | none =>
      have hrest : Triple (fun t => t.store = (batch.map (·.path)).foldl (overwrite acl defaultAcl) S)
          ((Reconciler.traced storage cut b).applyBatches d acl defaultAcl rest) _ :=
        applyBatches_overwrites d rest _ (by rw [foldl_overwrite_principals]; exact hp)
          (KindsAgree.foldl_overwrite (hk.of_subset fun _ hit => List.mem_append_right _ hit) _)
      intro t u t' ht hrun
      rw [hrest t u t' (ht rfl) hrun, List.flatten_cons, List.map_append, List.foldl_append]

/-! ## One directory -/

/-- Processing a directory that is there as a directory, in a sorted store with no principals.
When nothing is applied the store is as it was; otherwise the directory is overwritten, and
then every item its listing returns, one after another. -/
theorem process_overwrites (d : DeclaredDirectory) (hp : S.principals.entries = [])
    (hs : S.nodes.Sorted) {n : MemoryNode} (hn : S.nodes.get? d.path = some n)
    (hfolder : n.folder = true) :
    Triple (fun t => t.store = S) ((Reconciler.traced storage cut b).process d) fun res t =>
      (res.applied = false → t.store = S) ∧
      (res.applied = true →
        (list d.path d.recurse 0).run S = .ok (listing S d.path d.recurse 0) S ∧
        t.store = ((listing S d.path d.recurse 0).map (·.path)).foldl
          (overwrite d.expectedAcl d.expectedDefault)
          (S.overwrite d.expectedAcl d.expectedDefault d.path)) := by
  unfold Reconciler.process
  simp only [Reconciler.traced_cancelled, Reconciler.traced_log, Reconciler.traced_storage,
    Storage.traced_readAccess, Storage.traced_writeAccess, Storage.traced_list,
    Reconciler.traced_batchSize]
  refine Triple.bind (store_kept givenUp_keeps) fun _ => Triple.ite (Triple.throw_bind _ _) ?_
  refine Triple.ite (Triple.bind (say_keeps_store (Q := (· = S)) _ _) fun _ => ?_) ?_
  all_goals
    refine Triple.bind (ensure_found hn) fun _ => Triple.of_and fun _ => ?_
    refine Triple.bind (record_readAccess_found hp _ _) fun ac => Triple.of_and fun h => ?_
    obtain ⟨m, hm, rfl⟩ := h
    rw [hn] at hm
    cases hm
    iterate 6 refine Triple.bind (say_keeps_store (Q := (· = S)) _ _) fun _ => ?_
    by_cases happ :
        (!(Difference.ofState d.expectedAcl d.expectedDefault n.access).isEmpty || d.force) = true
    · simp only [PathResult.applied, happ, Bool.not_true, Bool.false_eq_true, ↓reduceIte]
      refine Triple.bind (record_writeAccess_overwrites hp hn hfolder.symm) fun _ => ?_
      refine Triple.bind (record_list_found _ _ _) fun items => Triple.of_and fun hitems => ?_
      have hwritten : (S.overwrite d.expectedAcl d.expectedDefault d.path).nodes.get? d.path =
          some (n.withLists d.expectedAcl d.expectedDefault) := by
        rw [get?_overwrite, if_pos rfl, hn, Option.map_some]
      rw [list_run_of_folder hwritten hfolder, listing_overwrite] at hitems
      cases hitems
      have hkinds : KindsAgree (S.overwrite d.expectedAcl d.expectedDefault d.path)
          (chunks b (listing S d.path d.recurse 0)).flatten := by
        rw [flatten_chunks]
        exact (kindsAgree_listing hs _ _ _).overwrite _
      refine Triple.bind (applyBatches_overwrites d _ _ (by rw [overwrite_principals]; exact hp)
        hkinds) fun _ => Triple.pure fun t ht => ⟨fun h => ?_, fun _ => ⟨?_, ?_⟩⟩
      · simp [happ] at h
      · exact list_run_of_folder hn hfolder _ _
      · rw [ht, flatten_chunks]
    · rw [Bool.not_eq_true, Bool.or_eq_false_iff, Bool.not_eq_false'] at happ
      simp only [PathResult.applied, happ.1, happ.2, Bool.not_true, Bool.or_false, Bool.not_false,
        ↓reduceIte]
      refine Triple.pure fun t ht => ⟨fun _ => ht, fun h => ?_⟩
      simp at h

/-- After overwriting the directory and then the listed paths, the nodes of those paths carry
the declared lists and every other node is as it was. -/
theorem get?_overwrite_listed (acl defaultAcl : List AclEntry) (p : String) (ps : List String)
    (k : String) :
    (ps.foldl (overwrite acl defaultAcl) (S.overwrite acl defaultAcl p)).nodes.get? k =
      if k = p ∨ k ∈ ps then (S.nodes.get? k).map (·.withLists acl defaultAcl)
      else S.nodes.get? k := by
  rw [get?_foldl_overwrite, get?_overwrite]
  by_cases hk : k = p <;> by_cases hmem : k ∈ ps <;>
    simp [hk, hmem, Option.map_map, Function.comp_def]

end Calls

end MemoryStore

open MemoryStore in
/-- Processing a declared directory that is already there as a directory, over a sorted memory
store with no principals. When the run applies nothing the store is left exactly as it was.
When it applies the declared lists, the listing of the directory returns some items and the
store ends with the directory and exactly the nodes of those items overwritten: each keeps its
kind, owner and group and takes the declared lists (`MemoryNode.withLists`). Every other node is
as it was; with recursion off that includes every descendant more than one level down. -/
theorem Reconciler.process_overwrites_listed {cut : List Exchange → Bool} {b : Nat}
    {d : DeclaredDirectory} {t t' : Traced MemoryStore} {res : PathResult} {n : MemoryNode}
    (hprincipals : t.store.principals.entries = []) (hsorted : t.store.nodes.Sorted)
    (hn : t.store.nodes.get? d.path = some n) (hfolder : n.folder = true)
    (hrun : ((Reconciler.traced MemoryStore.storage cut b).process d).run t = .ok res t') :
    (res.applied = false → t'.store = t.store) ∧
    (res.applied = true → ∃ items,
      (list d.path d.recurse 0).run t.store = .ok items t.store ∧
      t'.store.principals = t.store.principals ∧
      t'.store.nodes.get? d.path = some (n.withLists d.expectedAcl d.expectedDefault) ∧
      (∀ it ∈ items, ∃ m, t.store.nodes.get? it.path = some m ∧ it.isFolder = m.folder ∧
        t'.store.nodes.get? it.path = some (m.withLists d.expectedAcl d.expectedDefault)) ∧
      (∀ k, k ≠ d.path → (∀ it ∈ items, it.path ≠ k) →
        t'.store.nodes.get? k = t.store.nodes.get? k) ∧
      (d.recurse = false → ∀ k, k ≠ d.path →
        (k.drop (d.path ++ "/").length).contains '/' = true →
        t'.store.nodes.get? k = t.store.nodes.get? k)) := by
  obtain ⟨hkept, hwritten⟩ := process_overwrites d hprincipals hsorted hn hfolder t res t' rfl hrun
  refine ⟨hkept, fun happ => ?_⟩
  obtain ⟨hlist, hstore⟩ := hwritten happ
  have hget := get?_overwrite_listed (S := t.store) d.expectedAcl d.expectedDefault d.path
    ((listing t.store d.path d.recurse 0).map (·.path))
  rw [← hstore] at hget
  have hother : ∀ k, k ≠ d.path → (∀ it ∈ listing t.store d.path d.recurse 0, it.path ≠ k) →
      t'.store.nodes.get? k = t.store.nodes.get? k := by
    intro k hk hnot
    rw [hget, if_neg]
    rintro (h | h)
    · exact hk h
    · obtain ⟨it, hit, rfl⟩ := List.mem_map.1 h
      exact hnot it hit rfl
  refine ⟨_, hlist, by rw [hstore, foldl_overwrite_principals, overwrite_principals],
    by simp [hget, hn], fun it hit => ?_, hother, fun hr k hk hdeep => hother k hk ?_⟩
  · obtain ⟨m, hmem, hkind⟩ := mem_listing hit
    have hm := Index.get?_of_mem hsorted hmem
    refine ⟨m, hm, hkind, ?_⟩
    rw [hget, if_pos (Or.inr (List.mem_map_of_mem hit)), hm, Option.map_some]
  · intro it hit hpath
    rw [hr] at hit
    rw [← hpath, listing_child hit] at hdeep
    cases hdeep

open MemoryStore in
/-- A directory with a subdirectory, a file and a directory two levels down, processed with
recursion, applies its lists to all three. -/
theorem Reconciler.process_overwrites_listed_on_children :
    let n : MemoryNode := ⟨true, AccessControl.initial none true⟩
    let st : MemoryStore :=
      { nodes := (((({} : Index MemoryNode).insert "c" n).insert "c/a" n).insert "c/a/b" n).insert
          "c/f" ⟨false, AccessControl.initial none true⟩ }
    let d : DeclaredDirectory :=
      { path := "c", recurse := true
        acls := [{ read := true, write := true, execute := true, defaultRead := true }] }
    let t : Traced MemoryStore := { store := st }
    let r := ((Reconciler.traced MemoryStore.storage (fun _ => false) 15).process d).run t
    let res : PathResult := ⟨"c", false, true, false, 3⟩
    st.principals.entries = [] ∧ st.nodes.Sorted ∧ st.nodes.get? d.path = some n ∧
    n.folder = true ∧ r = .ok res (endState r) ∧
    (res.applied = false → (endState r).store = t.store) ∧
    (res.applied = true → ∃ items,
      (list d.path d.recurse 0).run t.store = .ok items t.store ∧
      (endState r).store.principals = t.store.principals ∧
      (endState r).store.nodes.get? d.path = some (n.withLists d.expectedAcl d.expectedDefault) ∧
      (∀ it ∈ items, ∃ m, t.store.nodes.get? it.path = some m ∧ it.isFolder = m.folder ∧
        (endState r).store.nodes.get? it.path =
          some (m.withLists d.expectedAcl d.expectedDefault)) ∧
      (∀ k, k ≠ d.path → (∀ it ∈ items, it.path ≠ k) →
        (endState r).store.nodes.get? k = t.store.nodes.get? k) ∧
      (d.recurse = false → ∀ k, k ≠ d.path →
        (k.drop (d.path ++ "/").length).contains '/' = true →
        (endState r).store.nodes.get? k = t.store.nodes.get? k)) := by
  have hempty : ({} : Index MemoryNode).Sorted := List.Pairwise.nil
  refine ⟨?principals, ?sorted, ?found, rfl, ?run,
    Reconciler.process_overwrites_listed ?principals ?sorted ?found rfl ?run⟩
  case sorted => exact (((hempty.insert _ _).insert _ _).insert _ _).insert _ _
  all_goals cbv

end AclReconcile
