import AclReconcile.Proofs.Run
import AclReconcile.Proofs.Memory
import AclReconcile.Proofs.Differences

/-!
# Reconciling a storage held in memory

Over the memory storage, a directory that has been processed holds its declared lists: either
the lists it held already had the declared entries, compared as sets the way the reconciler
compares them (`MemoryStore.Agrees`), or the declared lists were written to it
(`MemoryStore.Written`). Processing a later directory keeps that node unless it writes the same
path or lists it, which it does only when the later path is the same or lies above. Hence a
successful run leaves every directory that no later one writes over with its declared entries
(`Reconciler.run_leaves_declared`).

Lists written with identities that the principal table does not know read back as written, so a
written directory agrees with its declaration too. A directory that agrees and is not forced is
only inspected when processed again, so a second run over such a declaration makes no change at
all (`Reconciler.rerun_changes_nothing`).
-/

namespace AclReconcile

/-! ## Identities through the principal table -/

namespace AccessControl

/-- Renaming leaves the entries whose identity it does not know. -/
theorem renameWith_entries {lookup : String → Option String} {es : List AclEntry}
    (h : ∀ e ∈ es, lookup e.identity = none) :
    es.map (fun e => if e.identity == "" then e else
      match lookup e.identity with
      | some n => { e with identity := n }
      | none => e) = es := by
  conv => rhs; rw [← List.map_id es]
  refine List.map_congr_left fun e he => ?_
  split
  · rfl
  · rw [h e he]
    rfl

/-- Renaming through a lookup that knows no identity of the lists keeps both lists. -/
theorem renameWith_lists {lookup : String → Option String} {ac : AccessControl}
    (h : ∀ e ∈ ac.acl ++ ac.defaultAcl, lookup e.identity = none) :
    (renameWith lookup ac).acl = ac.acl ∧ (renameWith lookup ac).defaultAcl = ac.defaultAcl :=
  ⟨renameWith_entries fun e he => h e (List.mem_append_left _ he),
    renameWith_entries fun e he => h e (List.mem_append_right _ he)⟩

/-- With no principals, names are shown as they are stored. -/
@[simp] theorem withNames_nil (ac : AccessControl) : ac.withNames [] = ac := by
  unfold withNames renameWith
  obtain ⟨owner, group, permissions, acl, defaultAcl⟩ := ac
  simp

/-- With no principals, identities are stored as they are. -/
@[simp] theorem withIds_nil (ac : AccessControl) : ac.withIds [] = ac := rfl

/-- An identity that is no name of the table is stored as it is. -/
theorem withIds_lists {principals : List (String × String)} {ac : AccessControl}
    (h : ∀ e ∈ ac.acl ++ ac.defaultAcl, ∀ q ∈ principals, q.2 ≠ e.identity) :
    (ac.withIds principals).acl = ac.acl ∧
      (ac.withIds principals).defaultAcl = ac.defaultAcl := by
  unfold withIds
  split
  · exact ⟨rfl, rfl⟩
  · refine renameWith_lists fun e he => ?_
    rw [Option.map_eq_none_iff, List.find?_eq_none]
    intro q hq
    simpa using h e he q hq

/-- An identity that is no object id of the table is shown as it is. -/
theorem withNames_lists {principals : List (String × String)} {ac : AccessControl}
    (h : ∀ e ∈ ac.acl ++ ac.defaultAcl, ∀ q ∈ principals, q.1 ≠ e.identity) :
    (ac.withNames principals).acl = ac.acl ∧
      (ac.withNames principals).defaultAcl = ac.defaultAcl := by
  unfold withNames
  refine renameWith_lists fun e he => ?_
  rw [Option.map_eq_none_iff, List.find?_eq_none]
  intro q hq
  simpa using h e he q hq

/-- A state that passes the check keeps its lists. -/
theorem prepare_lists {path : String} {ac prepared : AccessControl} {isFolder : Bool}
    (h : prepare path (some ac) isFolder = .ok prepared) :
    prepared.acl = ac.acl ∧ prepared.defaultAcl = ac.defaultAcl := by
  simp only [prepare] at h
  split at h
  · cases h
  · split at h
    · cases h
    · cases h
      exact ⟨rfl, rfl⟩

end AccessControl

/-! ## One directory -/

namespace MemoryStore

/-- The node under `p` reads as `ac` to a caller who asks for principal names when `upn` is set. -/
def ReadsAs (p : String) (upn : Bool) (ac : AccessControl) (st : MemoryStore) : Prop :=
  ∃ n, st.nodes.get? p = some n ∧ ac = view upn st n

/-- The node under `d`'s path, read as the reconciler reads it, shows no difference with the
declared lists. -/
def Agrees (d : DeclaredDirectory) (st : MemoryStore) : Prop :=
  ∃ n, st.nodes.get? d.path = some n ∧
    (Difference.ofState d.expectedAcl d.expectedDefault (view d.upn st n)).isEmpty = true

/-- The node under `d`'s path holds the declared lists as they were written, identities stored as
object ids. -/
def Written (d : DeclaredDirectory) (st : MemoryStore) : Prop :=
  ∃ n, ∃ ac : AccessControl, st.nodes.get? d.path = some n ∧ ac.acl = d.expectedAcl ∧
    ac.defaultAcl = d.expectedDefault ∧ n.access = ac.withIds st.principals.entries

/-- What processing `d` leaves at its path: it agreed with the declaration already, or the
declared lists were written to it. -/
def Reconciled (d : DeclaredDirectory) (st : MemoryStore) : Prop := Agrees d st ∨ Written d st

/-- What agrees stays so while its node and the principal table stay. -/
theorem Agrees.of_fixes {d : DeclaredDirectory} {st st' : MemoryStore} (h : Agrees d st)
    (hf : Fixes d.path st st') : Agrees d st' := by
  obtain ⟨n, hn, hdiff⟩ := h
  refine ⟨n, hf.2 n hn, ?_⟩
  unfold view at hdiff ⊢
  rw [show st'.principals = st.principals from hf.1]
  exact hdiff

/-- Lists written to a directory stay written while its node is kept. -/
theorem Written.of_fixes {d : DeclaredDirectory} {st st' : MemoryStore} (h : Written d st)
    (hf : Fixes d.path st st') : Written d st' := by
  obtain ⟨n, ac, hn, hacl, hdefault, hac⟩ := h
  refine ⟨n, ac, hf.2 n hn, hacl, hdefault, ?_⟩
  rw [show st'.principals = st.principals from hf.1]
  exact hac

/-- A reconciled directory stays reconciled while its node is kept. -/
theorem Reconciled.of_fixes {d : DeclaredDirectory} {st st' : MemoryStore} (h : Reconciled d st)
    (hf : Fixes d.path st st') : Reconciled d st' :=
  h.imp (fun h => h.of_fixes hf) fun h => h.of_fixes hf

variable {cut : List Exchange → Bool} {b : Nat}

/-- A read that returns gives the view of the path's node. -/
theorem record_readAccess {P : Traced MemoryStore → Prop} (p : String) (upn : Bool) :
    Triple P (Traced.record storage (.readAccess p upn)) fun ac t => ReadsAs p upn ac t.store := by
  intro t ac t' _ hrun
  obtain ⟨hperform, -⟩ := Traced.record_run_ok_inv hrun
  obtain ⟨hst, n, hn, hac⟩ := readAccess_run_ok hperform
  rw [hst]
  exact ⟨n, hn, hac⟩

/-- Writing the declared lists to a directory that returns has written them. -/
theorem record_writeAccess {P : Traced MemoryStore → Prop} (d : DeclaredDirectory)
    (ac : AccessControl) :
    Triple P (Traced.record storage
      (.writeAccess d.path (some (ac.replace d.expectedAcl d.expectedDefault true))))
      fun _ t => Written d t.store := by
  intro t u t' _ hrun
  obtain ⟨hperform, -⟩ := Traced.record_run_ok_inv hrun
  obtain ⟨n, prepared, -, hprepared, hst⟩ := writeAccess_run_ok hperform
  obtain ⟨hacl, hdefault⟩ := AccessControl.prepare_lists hprepared
  rw [hst]
  exact ⟨{ n with access := prepared.withIds t.store.principals.entries }, prepared, by simp, hacl,
    by simpa using hdefault, rfl⟩

/-- Logging changes nothing in the contents. -/
theorem say_keeps_store {Q : MemoryStore → Prop} (lv : Level) (msg : String) :
    Triple (fun t : Traced MemoryStore => Q t.store) (Traced.say lv msg) fun _ t => Q t.store :=
  Triple.of_keeps (Traced.say_onStore (R := Eq) lv msg) fun _ _ h hQ => h ▸ hQ

/-- Processing a directory that returns leaves it reconciled: nothing differed, or the declared
lists were written, and listing and writing the items below keep the directory's own node. -/
theorem process_reconciles (d : DeclaredDirectory) :
    Triple (fun _ => True) ((Reconciler.traced storage cut b).process d)
      fun _ t => Reconciled d t.store := by
  unfold Reconciler.process
  simp only [Reconciler.traced_cancelled, Reconciler.traced_log, Reconciler.traced_storage,
    Storage.traced_readAccess, Storage.traced_writeAccess, Storage.traced_list,
    Reconciler.traced_batchSize]
  refine Triple.bind (Triple.anything _) fun _ => Triple.ite (Triple.throw_bind _ _) ?_
  refine Triple.ite (Triple.bind (Triple.anything _) fun _ => ?_) ?_
  all_goals
    refine Triple.bind (Triple.anything _) fun _ => Triple.bind (record_readAccess _ _) fun ac => ?_
    iterate 6 refine Triple.bind (say_keeps_store _ _) fun _ => ?_
    by_cases happ :
        (!(Difference.ofState d.expectedAcl d.expectedDefault ac).isEmpty || d.force) = true
    · simp only [PathResult.applied, happ, Bool.not_true, Bool.false_eq_true, ↓reduceIte]
      refine Triple.bind (record_writeAccess d ac) fun _ => ?_
      refine Triple.of_keeps ?_ fun _ _ hf h => Or.inr (h.of_fixes hf)
      refine Keeps.bind ((looksKeep_fixes d.path).read _ rfl)
        (Traced.record_returns (c := .list d.path d.recurse 0) (list_returns_below _ _ _))
        fun items hitems => Keeps.seq ?_ fun _ => Keeps.pure _
      refine Reconciler.applyBatches_keeps (looksKeep_fixes d.path) fun batch hb it hit ac => ?_
      refine Traced.record_onStore (perform_fixes _ fun _ h => ?_)
      have hp : it.path = d.path := (Call.writeAccess.inj h).1
      exact (hitems it (mem_of_mem_chunks hb hit)).2 (hp ▸ String.lt_append_separator d.path)
    · rw [Bool.not_eq_true, Bool.or_eq_false_iff, Bool.not_eq_false'] at happ
      simp only [PathResult.applied, happ.1, happ.2, Bool.not_true, Bool.or_false, Bool.not_false,
        ↓reduceIte]
      refine Triple.pure fun t ⟨n, hn, hac⟩ => Or.inl ⟨n, hn, ?_⟩
      rw [← hac]
      exact happ.1

/-! ## A whole run -/

/-- After directories reconciled one after another, a directory none of the later ones writes
over is reconciled, and the principal table is as it was. -/
theorem reconciled_after {pre post : List DeclaredDirectory} {d : DeclaredDirectory}
    {ps : List PathResult} {t t' : Traced MemoryStore}
    (h : (Reconciler.traced storage cut b).Reconciles (pre ++ d :: post) ps t t')
    (hlater : ∀ d' ∈ post, d'.path ≠ d.path ∧ Path.isBelow d.path d'.path = false) :
    Reconciled d t'.store ∧ SamePrincipals t.store t'.store := by
  have hsame : Traced.OnStore SamePrincipals t t' :=
    h.keeps fun d' _ => Reconciler.process_keeps (preserves_samePrincipals d')
  obtain ⟨_, _, _, t₁, t₂, -, hd, hpost, -⟩ := h.split
  have hreconciled : Reconciled d t₂.store := process_reconciles d t₁ _ t₂ trivial hd
  have hfixes : Traced.OnStore (Fixes d.path) t₂ t' :=
    hpost.keeps fun d' hd' =>
      Reconciler.process_keeps (preserves_fixes (hlater d' hd').1 (hlater d' hd').2)
  exact ⟨hreconciled.of_fixes hfixes, hsame⟩

/-! ## A second run -/

/-- Declared lists written with identities that the principal table knows neither as object ids
nor as names read back as they were written, so they agree with the declaration. -/
theorem Written.agrees {d : DeclaredDirectory} {st : MemoryStore} (h : Written d st)
    (habsent : ∀ a ∈ d.acls, ∀ q ∈ st.principals.entries, q.1 ≠ a.identity ∧ q.2 ≠ a.identity) :
    Agrees d st := by
  obtain ⟨n, ac, hn, hacl, hdefault, hac⟩ := h
  have hunknown : ∀ e ∈ ac.acl ++ ac.defaultAcl, ∀ q ∈ st.principals.entries,
      q.1 ≠ e.identity ∧ q.2 ≠ e.identity := by
    intro e he q hq
    rw [hacl, hdefault, List.mem_append, DeclaredDirectory.expectedAcl,
      DeclaredDirectory.expectedDefault, List.mem_map, List.mem_map] at he
    rcases he with ⟨a, ha, rfl⟩ | ⟨a, ha, rfl⟩ <;> exact habsent a ha q hq
  have hstored : n.access.acl = ac.acl ∧ n.access.defaultAcl = ac.defaultAcl := by
    rw [hac]
    exact AccessControl.withIds_lists fun e he q hq => (hunknown e he q hq).2
  have hread : (view d.upn st n).acl = ac.acl ∧ (view d.upn st n).defaultAcl = ac.defaultAcl := by
    unfold view
    split
    · obtain ⟨hnames, hdefaultNames⟩ :=
        @AccessControl.withNames_lists st.principals.entries n.access fun e he q hq => by
          rw [hstored.1, hstored.2] at he
          exact (hunknown e he q hq).1
      rw [hnames, hdefaultNames]
      exact hstored
    · exact hstored
  refine ⟨n, hn, Difference.ofState_isEmpty_iff.2 ⟨fun e => ?_, fun e => ?_⟩⟩
  · rw [hread.1, hacl]
  · rw [hread.2, hdefault]

/-- A reconciled directory agrees with its declaration when the principal table knows none of its
identities. -/
theorem Reconciled.agrees {d : DeclaredDirectory} {st : MemoryStore} (h : Reconciled d st)
    (habsent : ∀ a ∈ d.acls, ∀ q ∈ st.principals.entries, q.1 ≠ a.identity ∧ q.2 ≠ a.identity) :
    Agrees d st :=
  h.elim id fun h => h.agrees habsent

/-- A directory whose node is there is found, not created, by inspections alone: a container among
the containers, any other path by its presence. -/
theorem ensure_inert {d : DeclaredDirectory} {t : Traced MemoryStore} {n : MemoryNode}
    (hn : t.store.nodes.get? d.path = some n) :
    Yields ((Reconciler.traced storage cut b).ensure d) t
      fun created t' => created = false ∧ Traced.Inspected t t' := by
  unfold Reconciler.ensure
  simp only [Reconciler.traced_storage, Reconciler.traced_log, Storage.traced_listContainers,
    Storage.traced_present, Storage.traced_createContainer, Storage.traced_createDirectory,
    pure_bind]
  have hfound : ∀ t₁ : Traced MemoryStore, Yields (do
      Traced.say Level.info (d.path ++ " - Exists.")
      pure false) t₁ fun created t' => created = false ∧ Traced.Inspected t₁ t' :=
    fun t₁ => Yields.bind_trans (R := Traced.Inspected) (Traced.say_inspected _ _ t₁)
      fun _ t₂ _ _ => Yields.pure ⟨rfl, refl_of _ t₂⟩
  refine Yields.ite (fun hc => ?_) fun _ => ?_
  · refine Yields.bind_trans (R := Traced.Inspected)
      (Traced.record_inspected (a := t.store.nodes.keys.filter Path.isContainer) rfl rfl)
      fun cs t₁ hcs _ => ?_
    have hin : cs.contains d.path = true := by
      rw [hcs, List.contains_iff_mem, List.mem_filter]
      exact ⟨Index.mem_keys_of_get? hn, hc⟩
    simp only [hin, ↓reduceIte]
    exact hfound t₁
  · refine Yields.bind_trans (R := Traced.Inspected)
      (Traced.record_inspected (a := t.store.nodes.contains d.path) rfl rfl)
      fun present t₁ hpresent _ => ?_
    have hin : present = true := by simp [hpresent, Index.contains, hn]
    simp only [hin, ↓reduceIte]
    exact hfound t₁

/-- A directory that agrees with its declaration and is not forced is inspected, reported
unchanged, and left as it is. The memory storage resolves principal names, so no warning is
logged. -/
theorem process_inert {d : DeclaredDirectory} {t : Traced MemoryStore} (hd : Agrees d t.store)
    (hforce : d.force = false) :
    Yields ((Reconciler.traced storage (fun _ => false) b).process d) t
      fun p t' => p = ⟨d.path, false, false, false, 0⟩ ∧ Traced.Inspected t t' := by
  obtain ⟨n, hn, hdiff⟩ := hd
  unfold Reconciler.process
  simp only [Reconciler.traced_cancelled, Reconciler.traced_log, Reconciler.traced_storage,
    Storage.traced_readAccess, Storage.traced_writeAccess, Storage.traced_list,
    Reconciler.traced_batchSize]
  refine Traced.live_yields ?_
  simp only [Storage.traced_supports, storage_supports, Bool.not_true, Bool.and_false,
    Bool.false_eq_true, ↓reduceIte]
  refine Yields.bind_trans (R := Traced.Inspected) (ensure_inert hn)
    fun created t₂ hcreated h₂ => ?_
  subst hcreated
  have hst₂ : t₂.store = t.store := h₂.1
  refine Yields.bind_trans (R := Traced.Inspected)
    (Traced.record_inspected (a := view d.upn t.store n) rfl ?read) fun ac t₃ hac _ => ?_
  case read =>
    rw [storage_perform_readAccess, readAccess_run, hst₂, hn]
  subst hac
  iterate 6
    refine Yields.bind_trans (R := Traced.Inspected) (Traced.say_inspected _ _ _) fun _ _ _ _ => ?_
  simp only [PathResult.applied, hdiff, hforce, Bool.not_true, Bool.or_false, Bool.not_false,
    ↓reduceIte]
  exact Yields.pure ⟨rfl, refl_of _ _⟩

/-- Over directories that all agree with their declarations, none forced, a run from a result so
far inspects each one, adds each as unchanged, and changes nothing. -/
theorem runFrom_inert (acc : RunResult) :
    ∀ (ds : List DeclaredDirectory) (t : Traced MemoryStore),
      (∀ d ∈ ds, Agrees d t.store ∧ d.force = false) →
      Yields ((Reconciler.traced storage (fun _ => false) b).runFrom ds acc) t fun r t' =>
        r = ((ds.map fun d => ⟨d.path, false, false, false, 0⟩).foldl RunResult.add acc, none) ∧
          Traced.Inspected t t'
  | [], t, _ => Yields.pure ⟨rfl, refl_of _ t⟩
  | d :: ds, t, hds => by
    obtain ⟨hagrees, hforce⟩ := hds d (.head _)
    obtain ⟨p, t₁, hd, rfl, h₁⟩ := process_inert hagrees hforce
    have hrest : ∀ d' ∈ ds, Agrees d' t₁.store ∧ d'.force = false := by
      intro d' hd'
      rw [h₁.1]
      exact hds d' (.tail _ hd')
    obtain ⟨r, t', hrun, rfl, h'⟩ := runFrom_inert (acc.add _) ds t₁ hrest
    exact ⟨_, t', by rw [Reconciler.runFrom_cons_ok hd, hrun]; rfl, rfl, trans_of _ h₁ h'⟩

end MemoryStore

/-- A successful run leaves every declared directory that no later one shares or lies above with
the declared entries, compared as sets: the effective list has the entries of the expected one
and the default list those of the expected default, when the principal table is empty. -/
theorem Reconciler.run_leaves_declared {cut : List Exchange → Bool} {b : Nat}
    {ds pre post : List DeclaredDirectory} {d : DeclaredDirectory} {t t' : Traced MemoryStore}
    {res : RunResult} (hprincipals : t.store.principals.entries = [])
    (hrun : ((Reconciler.traced MemoryStore.storage cut b).run ds).run t = .ok (res, none) t')
    (hds : ds = pre ++ d :: post)
    (hlater : ∀ d' ∈ post, d'.path ≠ d.path ∧ Path.isBelow d.path d'.path = false) :
    ∃ n, t'.store.nodes.get? d.path = some n ∧
      (∀ e, e ∈ n.access.acl ↔ e ∈ d.expectedAcl) ∧
      ∀ e, e ∈ n.access.defaultAcl ↔ e ∈ d.expectedDefault := by
  subst hds
  obtain ⟨hreconciled, hsame⟩ :=
    MemoryStore.reconciled_after (Reconciler.run_reconciles hrun) hlater
  have hempty : t'.store.principals.entries = [] := by
    rw [show t'.store.principals = t.store.principals from hsame]
    exact hprincipals
  obtain ⟨n, hn, hdiff⟩ := hreconciled.agrees fun _ _ q hq => by simp [hempty] at hq
  simp only [MemoryStore.view, hempty, AccessControl.withNames_nil, ite_self] at hdiff
  exact ⟨n, hn, Difference.ofState_isEmpty_iff.1 hdiff⟩

/-- A container as it is created, in a storage with no principals. -/
def newContainer : MemoryStore := { nodes := ⟨[("c", ⟨true, AccessControl.initial none true⟩)]⟩ }

/-- The container declared with every right for its owner, and reading by default. -/
def ownerDeclared : DeclaredDirectory :=
  { path := "c", acls := [{ read := true, write := true, execute := true, defaultRead := true }] }

/-- The record after reconciling `ownerDeclared` onto `newContainer`: the lists differed, so the
declared ones were written, and the container had nothing below it. -/
def ownerReconciled : Traced MemoryStore where
  store := { nodes := ⟨[("c", ⟨true,
    { owner := "$superuser", group := "$superuser", permissions := "rwx------",
      acl := [⟨.user, "", true, true, true⟩]
      defaultAcl := [⟨.user, "", true, false, false⟩] }⟩)]⟩ }
  exchanges := [⟨.listContainers, .ok ["c"]⟩,
    ⟨.readAccess "c" false, .ok (AccessControl.initial none true)⟩,
    ⟨.writeAccess "c" (some ((AccessControl.initial none true).replace
      [⟨.user, "", true, true, true⟩] [⟨.user, "", true, false, false⟩] true)), .ok ()⟩,
    ⟨.list "c" false 0, .ok []⟩]
  lines := [(.info, "c - Exists."), (.info, "c - Actual: user::rwx,group::r-x,other::---."),
    (.info, "c - Actual default: ."), (.info, "c - Expected: user::rwx."),
    (.info, "c - Expected default: user::r--."),
    (.info, "c - Differences: actual: group::r-x,actual: other::---"),
    (.info, "c - Differences default: expected: user::r--")]

/-- The owner's declaration reconciled onto a new container: the declared lists are written. -/
theorem Reconciler.run_leaves_declared_on_new_container :
    newContainer.principals.entries = [] ∧
    ((Reconciler.traced MemoryStore.storage (fun _ => false) 15).run [ownerDeclared]).run
        { store := newContainer } =
      .ok ({ paths := [⟨"c", false, true, false, 0⟩], applied := 1 }, none) ownerReconciled ∧
    [ownerDeclared] = [] ++ ownerDeclared :: [] ∧
    (∀ d' ∈ ([] : List DeclaredDirectory),
      d'.path ≠ ownerDeclared.path ∧ Path.isBelow ownerDeclared.path d'.path = false) ∧
    ∃ n, ownerReconciled.store.nodes.get? ownerDeclared.path = some n ∧
      (∀ e, e ∈ n.access.acl ↔ e ∈ ownerDeclared.expectedAcl) ∧
      ∀ e, e ∈ n.access.defaultAcl ↔ e ∈ ownerDeclared.expectedDefault := by
  refine ⟨rfl, ?run, rfl, nofun,
    Reconciler.run_leaves_declared rfl ?run (List.nil_append _).symm nofun⟩
  cbv

/-- Reconciling a second time changes nothing. Over directories with distinct paths, none lying
below a later one, none forced, and none naming an identity the principal table knows as an
object id or as a name, a second run after a successful one succeeds (the caller not giving up),
reports every directory neither created nor different, counts them all unchanged, writes no
item, makes only presence checks, reads of states and lists of containers, and leaves the
contents exactly as they were. -/
theorem Reconciler.rerun_changes_nothing {cut : List Exchange → Bool} {b : Nat}
    {ds : List DeclaredDirectory} {t t' : Traced MemoryStore} {res : RunResult}
    (hdistinct : (ds.map DeclaredDirectory.path).Nodup)
    (hbelow : ds.Pairwise fun d d' => Path.isBelow d.path d'.path = false)
    (hforce : ∀ d ∈ ds, d.force = false)
    (habsent : ∀ d ∈ ds, ∀ a ∈ d.acls, ∀ q ∈ t.store.principals.entries,
      q.1 ≠ a.identity ∧ q.2 ≠ a.identity)
    (hrun : ((Reconciler.traced MemoryStore.storage cut b).run ds).run t = .ok (res, none) t') :
    ∃ res' t'', ((Reconciler.traced MemoryStore.storage (fun _ => false) b).run ds).run t' =
        .ok (res', none) t'' ∧
      res'.paths = ds.map (fun d =>
        { path := d.path, created := false, different := false, forced := false, items := 0 }) ∧
      res'.unchanged = ds.length ∧ res'.applied = 0 ∧ res'.items = 0 ∧
      t''.store = t'.store ∧
      ∃ xs, t''.exchanges = t'.exchanges ++ xs ∧ ∀ x ∈ xs, x.call.inspects := by
  have hagrees : ∀ d ∈ ds, MemoryStore.Agrees d t'.store ∧ d.force = false := by
    intro d hd
    obtain ⟨pre, post, rfl⟩ := List.append_of_mem hd
    have hpaths : (pre ++ d :: post).Pairwise fun d d' => d.path ≠ d'.path :=
      List.pairwise_map.1 hdistinct
    have hlater : ∀ d' ∈ post, d'.path ≠ d.path ∧ Path.isBelow d.path d'.path = false :=
      fun d' hd' => ⟨(List.rel_of_pairwise_cons (List.pairwise_append.1 hpaths).2.1 hd').symm,
        List.rel_of_pairwise_cons (List.pairwise_append.1 hbelow).2.1 hd'⟩
    obtain ⟨hreconciled, hsame⟩ :=
      MemoryStore.reconciled_after (Reconciler.run_reconciles hrun) hlater
    refine ⟨hreconciled.agrees fun a ha q hq => ?_, hforce d hd⟩
    rw [show t'.store.principals = t.store.principals from hsame] at hq
    exact habsent d hd a ha q hq
  obtain ⟨r, t'', hrun', hr, hstore, xs, hxs, hinspects⟩ :=
    MemoryStore.runFrom_inert {} ds t' hagrees
  rw [RunResult.foldl_add_unapplied _ _ (by simp [PathResult.applied])] at hr
  subst hr
  exact ⟨_, t'', hrun', by simp, by simp, rfl, rfl, hstore, xs, hxs, hinspects⟩

/-- A second run of the owner's declaration, on the container the first run left, changes nothing.
-/
theorem Reconciler.rerun_changes_nothing_on_new_container :
    ([ownerDeclared].map DeclaredDirectory.path).Nodup ∧
    [ownerDeclared].Pairwise (fun d d' => Path.isBelow d.path d'.path = false) ∧
    (∀ d ∈ [ownerDeclared], d.force = false) ∧
    (∀ d ∈ [ownerDeclared], ∀ a ∈ d.acls, ∀ q ∈ newContainer.principals.entries,
      q.1 ≠ a.identity ∧ q.2 ≠ a.identity) ∧
    ((Reconciler.traced MemoryStore.storage (fun _ => false) 15).run [ownerDeclared]).run
        { store := newContainer } =
      .ok ({ paths := [⟨"c", false, true, false, 0⟩], applied := 1 }, none) ownerReconciled ∧
    ∃ res' t'', ((Reconciler.traced MemoryStore.storage (fun _ => false) 15).run
          [ownerDeclared]).run ownerReconciled = .ok (res', none) t'' ∧
      res'.paths = [ownerDeclared].map (fun d =>
        { path := d.path, created := false, different := false, forced := false, items := 0 }) ∧
      res'.unchanged = [ownerDeclared].length ∧ res'.applied = 0 ∧ res'.items = 0 ∧
      t''.store = ownerReconciled.store ∧
      ∃ xs, t''.exchanges = ownerReconciled.exchanges ++ xs ∧ ∀ x ∈ xs, x.call.inspects := by
  have hforce : ∀ d ∈ [ownerDeclared], d.force = false := by simp [ownerDeclared]
  have habsent : ∀ d ∈ [ownerDeclared], ∀ a ∈ d.acls, ∀ q ∈ newContainer.principals.entries,
      q.1 ≠ a.identity ∧ q.2 ≠ a.identity := by simp [newContainer]
  refine ⟨List.nodup_singleton _, List.pairwise_singleton _ _, hforce, habsent, ?run,
    Reconciler.rerun_changes_nothing (List.nodup_singleton _) (List.pairwise_singleton _ _) hforce
      habsent ?run⟩
  cbv

end AclReconcile
