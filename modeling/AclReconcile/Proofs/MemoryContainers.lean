import AclReconcile.Proofs.MemoryTree
import AclReconcile.Proofs.Settle

/-!
# Containers of the memory storage stay visible

The memory storage changes its index only by binding paths: no operation removes a path or
reorders the index (`MemoryStore.Binds`, one lemma per operation, `MemoryStore.Step.binds`).
Every property of an index that a binding keeps therefore holds of every store the storage
reaches. Two such properties matter here: the keys stay in increasing order, so each path is
bound once (`MemoryStore.Reachable.sorted`), and a bound path stays bound
(`MemoryStore.Binds.bound`).

Hence a container, once created, is listed exactly once among the containers, is found present,
can be read and listed, and stays so through any later operations; the reconciler's ensure step
then only inspects it (`MemoryStore.created_container_visible`). Every name the container check
admits is covered, `.`, `..` and blank names included.
-/

namespace AclReconcile

namespace Index

variable {α : Type}

/-- Keys in strictly increasing order, as every index a storage builds keeps them. -/
def Sorted (ix : Index α) : Prop := ix.entries.Pairwise fun a b => a.1 < b.1

/-- A key of the entries after an insertion is the key inserted or a key of the entries before. -/
theorem mem_keys_insertInto_cases (k : String) (v : α) :
    ∀ (es : List (String × α)) {x : String}, x ∈ (insertInto k v es).map (·.1) →
      x = k ∨ x ∈ es.map (·.1)
  | [], x, h => by simp [insertInto] at h; exact .inl h
  | (k₀, v₀) :: rest, x, h => by
    simp only [insertInto] at h
    split at h
    · next heq =>
      have hk : k = k₀ := by simpa using heq
      simp only [List.map_cons, List.mem_cons] at h ⊢
      rcases h with h | h
      · exact .inl h
      · exact .inr (.inr h)
    · split at h
      · simp only [List.map_cons, List.mem_cons] at h ⊢
        rcases h with h | h | h
        · exact .inl h
        · exact .inr (.inl h)
        · exact .inr (.inr h)
      · simp only [List.map_cons, List.mem_cons] at h ⊢
        rcases h with h | h
        · exact .inr (.inl h)
        · rcases mem_keys_insertInto_cases k v rest h with h | h
          · exact .inl h
          · exact .inr (.inr h)

/-- Inserting into entries in increasing key order keeps them so, by induction on the entries walked
past: the key goes further down only past a smaller one. -/
theorem pairwise_insertInto (k : String) (v : α) :
    ∀ (es : List (String × α)), es.Pairwise (fun a b => a.1 < b.1) →
      (insertInto k v es).Pairwise fun a b => a.1 < b.1
  | [], _ => by simp [insertInto]
  | (k₀, v₀) :: rest, h => by
    rw [List.pairwise_cons] at h
    obtain ⟨hhead, hrest⟩ := h
    simp only [insertInto]
    split
    · next heq =>
      have hk : k = k₀ := by simpa using heq
      subst hk
      exact List.Pairwise.cons (fun b hb => hhead b hb) hrest
    · split
      · next _ hlt =>
        refine List.Pairwise.cons (fun b hb => ?_) (List.Pairwise.cons hhead hrest)
        rcases List.mem_cons.1 hb with rfl | hb
        · exact hlt
        · exact lt_trans hlt (hhead b hb)
      · next hne hnlt =>
        have hgt : k₀ < k := by
          rcases lt_trichotomy k k₀ with h | h | h
          · exact absurd h hnlt
          · exact absurd (by simp [h]) hne
          · exact h
        refine List.Pairwise.cons (fun b hb => ?_) (pairwise_insertInto k v rest hrest)
        rcases mem_keys_insertInto_cases k v rest (List.mem_map_of_mem hb) with h | h
        · exact h ▸ hgt
        · obtain ⟨b', hb', hbb⟩ := List.mem_map.1 h
          exact hbb ▸ hhead b' hb'

/-- Inserting into a sorted index keeps it sorted. -/
theorem Sorted.insert {ix : Index α} (h : ix.Sorted) (k : String) (v : α) :
    (ix.insert k v).Sorted :=
  pairwise_insertInto k v ix.entries h

/-- A sorted index binds each key once. -/
theorem Sorted.keys_nodup {ix : Index α} (h : ix.Sorted) : ix.keys.Nodup := by
  unfold keys
  exact (List.pairwise_map.2 h).nodup

end Index

namespace MemoryStore

/-- `s'` follows `s` by bindings of paths in the index alone: every property of an index that
binding a path keeps passes from `s` to `s'`. -/
def Binds (s s' : MemoryStore) : Prop :=
  ∀ P : Index MemoryNode → Prop, (∀ ix k v, P ix → P (ix.insert k v)) → P s.nodes → P s'.nodes

/-- Following by bindings alone is reflexive and transitive. -/
instance : IsPreorder MemoryStore Binds where
  refl _ _ _ h := h
  trans _ _ _ h₁ h₂ P hP h := h₂ P hP (h₁ P hP h)

/-- Binding one path is a step by bindings. -/
theorem binds_insert (st : MemoryStore) (k : String) (v : MemoryNode) :
    Binds st { st with nodes := st.nodes.insert k v } :=
  fun _ hP h => hP _ k v h

/-- Walking down and creating what is missing only binds paths, by induction on the segments still
to walk: a node on the way is kept, and a missing one is bound before the creation goes on below it.
-/
theorem createBelow_binds (folder : Bool) :
    ∀ (segs : List String) (current : String) (acc : AccessControl),
      Keeps Binds (createBelow folder current acc segs)
  | [], _, _ => by
    unfold createBelow
    exact Keeps.pure ()
  | seg :: rest, current, acc => by
    intro st
    unfold createBelow
    simp only [EStateM.run_bind, EStateM.run_get]
    cases st.nodes.get? (Path.join [current, seg]) with
    | some n =>
      simp only
      split
      · split
        · exact refl_of Binds st
        · exact refl_of Binds st
      · split
        · exact refl_of Binds st
        · exact createBelow_binds folder rest _ n.access st
    | none =>
      simp only [EStateM.run_bind, EStateM.run_modify]
      exact trans_of Binds (binds_insert st _ _) (createBelow_binds folder rest _ _ _)

/-- Creating a directory or a file only binds paths. -/
theorem create_binds (q : String) (folder : Bool) : Keeps Binds (create q folder) := by
  intro st
  unfold create
  split
  next container rel _ =>
    simp only
    split
    · exact refl_of Binds st
    · split
      · exact refl_of Binds st
      · simp only [EStateM.run_bind, EStateM.run_get]
        split
        · exact refl_of Binds st
        · exact createBelow_binds folder _ _ _ st

/-- Creating a container only binds paths. -/
theorem createContainer_binds (n : String) : Keeps Binds (createContainer n) := by
  intro st
  unfold createContainer
  split
  · exact refl_of Binds st
  · simp only [EStateM.run_bind, EStateM.run_get]
    split
    · simp only [EStateM.run_modify]
      exact binds_insert st _ _
    · exact refl_of Binds st

/-- Writing a state only binds paths. -/
theorem writeAccess_binds (q : String) (ac : Option AccessControl) :
    Keeps Binds (writeAccess q ac) := by
  intro st
  rw [writeAccess_run]
  cases st.nodes.get? q with
  | none => exact refl_of Binds st
  | some n =>
    simp only
    split
    · exact refl_of Binds st
    · exact binds_insert st _ _

/-- Every call of the memory storage only binds paths. -/
theorem perform_binds (c : Call) : Keeps Binds (storage.perform c) := by
  cases c with
  | createContainer n => exact createContainer_binds n
  | createDirectory q => exact create_binds q true
  | writeAccess q ac => exact writeAccess_binds q ac
  | present _ | readAccess _ _ | list _ _ _ | listContainers =>
    intro st
    rw [perform_looks _ rfl st]
    exact refl_of Binds st

/-- One operation of the memory storage: a call, the creation of a file, or the registration of
a principal name. -/
inductive Step : MemoryStore → MemoryStore → Prop
  | call (c : Call) (st : MemoryStore) : Step st (endState ((storage.perform c).run st))
  | createFile (p : String) (st : MemoryStore) : Step st (endState ((create p false).run st))
  | addPrincipal (id name : String) (st : MemoryStore) :
      Step st (endState ((addPrincipal id name).run st))

/-- Each operation of the memory storage only binds paths. -/
theorem Step.binds {s s' : MemoryStore} (h : Step s s') : Binds s s' := by
  cases h with
  | call c => exact perform_binds c s
  | createFile p => exact create_binds p false s
  | addPrincipal id name => exact refl_of Binds s

/-- Any number of operations only bind paths. -/
theorem binds_of_steps {s s' : MemoryStore} (h : Relation.ReflTransGen Step s s') : Binds s s' := by
  induction h with
  | refl => exact refl_of Binds s
  | tail _ hstep ih => exact trans_of Binds ih hstep.binds

/-- Binding paths keeps an index sorted. -/
theorem Binds.sorted {s s' : MemoryStore} (h : Binds s s') (hs : s.nodes.Sorted) :
    s'.nodes.Sorted :=
  h _ (fun _ k v hix => Index.Sorted.insert hix k v) hs

/-- Every store the memory storage reaches keeps its paths in increasing order. -/
theorem Reachable.sorted {st : MemoryStore} (hr : Reachable st) : st.nodes.Sorted := by
  induction hr with
  | empty => exact List.Pairwise.nil
  | call c _ ih => exact (Step.call c _).binds.sorted ih
  | createFile p _ ih => exact (Step.createFile p _).binds.sorted ih
  | addPrincipal id name _ ih => exact (Step.addPrincipal id name _).binds.sorted ih

/-- A bound path stays bound through any number of operations. -/
theorem Binds.bound {s s' : MemoryStore} (h : Binds s s') {k : String} {n : MemoryNode}
    (hk : s.nodes.get? k = some n) : ∃ n', s'.nodes.get? k = some n' := by
  refine h (fun ix => ∃ n', ix.get? k = some n') (fun ix k' v _ => ?_) ⟨n, hk⟩
  by_cases hkk : k = k'
  · exact ⟨v, hkk ▸ Index.get?_insert_self ix k' v⟩
  · obtain ⟨n', hn'⟩ := ‹∃ n', ix.get? k = some n'›
    exact ⟨n', by rw [Index.get?_insert_of_ne _ _ hkk, hn']⟩

/-- A container created is a valid container name bound to a node. -/
theorem createContainer_run_ok {name : String} {st st' : MemoryStore}
    (h : (createContainer name).run st = .ok () st') :
    Path.isContainer name = true ∧ ∃ n, st'.nodes.get? name = some n := by
  unfold createContainer at h
  split at h
  · cases h
  · next hvalid =>
    have hname : Path.isContainer name = true := by
      unfold validateContainer at hvalid
      split at hvalid
      · cases hvalid
      · next hcond => exact (by simpa using hcond : ¬name = "" ∧ _).2
    refine ⟨hname, ?_⟩
    simp only [EStateM.run_bind, EStateM.run_get] at h
    split at h
    · simp only [EStateM.run_modify, EStateM.Result.ok.injEq, true_and] at h
      subst h
      exact ⟨_, Index.get?_insert_self _ _ _⟩
    · next hpresent =>
      simp only [EStateM.run_pure, EStateM.Result.ok.injEq, true_and] at h
      subst h
      have hsome : st.nodes.get? name ≠ none := by simpa [Index.contains] using hpresent
      exact Option.ne_none_iff_exists'.1 hsome

/-- A directory can be listed. -/
theorem list_run_folder {p : String} {st : MemoryStore} {n : MemoryNode}
    (hn : st.nodes.get? p = some n) (hfolder : n.folder = true) (r : Bool) (k : Int) :
    ∃ items, (list p r k).run st = .ok items st := by
  unfold list
  simp only [EStateM.run_bind, node_run, hn, hfolder, Bool.not_true, Bool.false_eq_true,
    ↓reduceIte]
  exact ⟨_, rfl⟩

variable {cut : List Exchange → Bool} {b : Nat}

/-- A container that the memory storage created is listed once among the containers, found
present, and can be read and listed; it stays bound through any later operations, so the
reconciler's ensure step only ever inspects it and never creates it again. -/
theorem created_container_visible {st st' : MemoryStore} (hr : Reachable st) {name : String}
    (h : (createContainer name).run st = .ok () st') :
    (∃ names, containers.run st' = .ok names st' ∧ names.count name = 1) ∧
    (storage.present name).run st' = .ok true st' ∧
    (∃ ac, (readAccess name false).run st' = .ok ac st') ∧
    (∀ recursive max, ∃ items, (list name recursive max).run st' = .ok items st') ∧
    (∀ st'', Relation.ReflTransGen Step st' st'' → ∀ (d : DeclaredDirectory), d.path = name →
      ∀ t : Traced MemoryStore, t.store = st'' →
        Yields ((Reconciler.traced storage cut b).ensure d) t
          fun created t' => created = false ∧ Traced.Inspected t t') := by
  obtain ⟨hcont, n, hn⟩ := createContainer_run_ok h
  have hr' : Reachable st' := by
    have := Reachable.call (.createContainer name) hr
    rwa [show (storage.perform (.createContainer name)).run st = .ok () st' from h] at this
  have hfolder : n.folder = true := hr'.consistent.container_folder name n hn hcont
  have hmem : name ∈ st'.nodes.keys.filter Path.isContainer :=
    List.mem_filter.2 ⟨Index.mem_keys_of_get? hn, hcont⟩
  refine ⟨⟨_, rfl, List.count_eq_one_of_mem (hr'.sorted.keys_nodup.filter _) hmem⟩, ?_,
    ⟨_, by rw [readAccess_run, hn]⟩, list_run_folder hn hfolder, ?_⟩
  · show EStateM.Result.ok (st'.nodes.contains name) st' = _
    simp [Index.contains, hn]
  · intro st'' hsteps d hd t ht
    obtain ⟨n', hn'⟩ := (binds_of_steps hsteps).bound hn
    exact ensure_inert (by rw [ht, hd, hn'])

/-- The name `.`, which a storage on a file tree cannot show among its containers, is created,
listed and read like any other in memory. -/
theorem created_container_visible_for_dot :
    let st' := endState ((createContainer ".").run {})
    Reachable ({} : MemoryStore) ∧ (createContainer ".").run {} = .ok () st' ∧
      ((∃ names, containers.run st' = .ok names st' ∧ names.count "." = 1) ∧
      (storage.present ".").run st' = .ok true st' ∧
      (∃ ac, (readAccess "." false).run st' = .ok ac st') ∧
      (∀ recursive max, ∃ items, (list "." recursive max).run st' = .ok items st') ∧
      (∀ st'', Relation.ReflTransGen Step st' st'' → ∀ (d : DeclaredDirectory), d.path = "." →
        ∀ t : Traced MemoryStore, t.store = st'' →
          Yields ((Reconciler.traced storage (fun _ => false) 1).ensure d) t
            fun created t' => created = false ∧ Traced.Inspected t t')) :=
  have h : (createContainer ".").run {} = .ok () (endState ((createContainer ".").run {})) := by
    cbv
  ⟨.empty, h, created_container_visible .empty h⟩

end MemoryStore

end AclReconcile
