import AclReconcile.Proofs.Trace
import AclReconcile.Storage.Memory

/-!
# What the operations of the memory storage change

The memory storage keeps every path as a node of one index, beside a table of principal names.
None of its operations touches the table. Reading, checking presence and listing change
nothing; creating a container or a directory adds nodes only under paths that had none; writing
a state replaces the node of the path written and no other. So a node stays as it is through
every call but a write of its own path (`MemoryStore.perform_fixes`). A listing returns only
paths below the directory listed, never the directory itself (`MemoryStore.list_returns_below`).
-/

namespace AclReconcile

namespace Index

variable {α : Type}

/-- Inserting under one key leaves the entry of every other key as it was, by induction on the
entries walked past. -/
theorem lookup_insertInto_of_ne {k k' : String} (v : α) (h : k' ≠ k) :
    ∀ es : List (String × α), (insertInto k v es).lookup k' = es.lookup k'
  | [] => by
    have hne : (k' == k) = false := by simpa using h
    simp [insertInto, List.lookup, hne]
  | (k₀, v₀) :: rest => by
    have hne : (k' == k) = false := by simpa using h
    simp only [insertInto]
    split
    · next heq =>
      have hk : k = k₀ := by simpa using heq
      subst hk
      simp [List.lookup, hne]
    · split
      · simp [List.lookup, hne]
      · simp only [List.lookup]
        split
        · rfl
        · exact lookup_insertInto_of_ne v h rest

/-- Inserting under one key leaves every other key as it was. -/
@[simp] theorem get?_insert_of_ne (ix : Index α) {k k' : String} (v : α) (h : k' ≠ k) :
    (ix.insert k v).get? k' = ix.get? k' :=
  lookup_insertInto_of_ne v h ix.entries

/-- A key with an entry is one of the index's keys. -/
theorem mem_keys_of_get? {ix : Index α} {k : String} {v : α} (h : ix.get? k = some v) :
    k ∈ ix.keys := by
  obtain ⟨es⟩ := ix
  simp only [get?, keys] at h ⊢
  induction es with
  | nil => cases h
  | cons e rest ih =>
    obtain ⟨k', v'⟩ := e
    by_cases hk : k = k'
    · simp [hk]
    · have hne : (k == k') = false := by simpa using hk
      rw [List.lookup_cons, hne] at h
      exact List.mem_cons_of_mem _ (ih h)

/-- The entries from a key on come no earlier than the key. -/
theorem not_lt_of_mem_atOrAfter {ix : Index α} {k : String} {e : String × α}
    (h : e ∈ ix.atOrAfter k) : ¬ e.1 < k := by
  simpa [atOrAfter] using (List.mem_filter.1 h).2

end Index

/-- A list cut to its limit holds only items of the list. -/
theorem mem_of_mem_limitItems {items : List Item} {max : Int} {it : Item}
    (h : it ∈ limitItems items max) : it ∈ items := by
  unfold limitItems at h
  split at h
  · exact List.mem_of_mem_take h
  · exact h

/-- A text is below itself followed by a separator. -/
theorem String.lt_append_separator (s : String) : s < s ++ "/" := by
  have h := @List.append_left_lt _ _ s.toList [] ['/'] (List.nil_lt_cons '/' [])
  rw [List.append_nil] at h
  rw [String.lt_iff, String.toList_append]
  exact h

namespace MemoryStore

/-- What reading a node returns: its state, identities shown as principal names when `upn` is
set. -/
def view (upn : Bool) (st : MemoryStore) (n : MemoryNode) : AccessControl :=
  if upn then n.access.withNames st.principals.entries else n.access

/-- `s'` has the principal table of `s`. -/
def SamePrincipals (s s' : MemoryStore) : Prop := s'.principals = s.principals

/-- `s'` has the principal table of `s`, and the node that `s` stores under `p`, if any. -/
def Fixes (p : String) (s s' : MemoryStore) : Prop :=
  SamePrincipals s s' ∧ ∀ n, s.nodes.get? p = some n → s'.nodes.get? p = some n

/-- Keeping the principal table is reflexive and transitive. -/
instance : IsPreorder MemoryStore SamePrincipals where
  refl _ := rfl
  trans _ _ _ h₁ h₂ := h₂.trans h₁

/-- Keeping the principal table and the node under `p` is reflexive and transitive. -/
instance {p : String} : IsPreorder MemoryStore (Fixes p) where
  refl _ := ⟨rfl, fun _ h => h⟩
  trans _ _ _ h₁ h₂ := ⟨h₂.1.trans h₁.1, fun n h => h₂.2 n (h₁.2 n h)⟩

/-- A run that keeps the node under `p` keeps the principal table. -/
theorem Fixes.samePrincipals {p : String} {s s' : MemoryStore} (h : Fixes p s s') :
    SamePrincipals s s' := h.1

/-- Binding a path that had no node keeps every node there was. -/
theorem fixes_insert_of_absent (p : String) {st : MemoryStore} {k : String} (v : MemoryNode)
    (hk : st.nodes.get? k = none) : Fixes p st { st with nodes := st.nodes.insert k v } := by
  refine ⟨rfl, fun n hn => ?_⟩
  have hne : p ≠ k := by
    rintro rfl
    rw [hk] at hn
    cases hn
  simpa [hne] using hn

/-- Binding one path keeps the node of every other. -/
theorem fixes_insert_of_ne {p k : String} (st : MemoryStore) (v : MemoryNode) (hne : k ≠ p) :
    Fixes p st { st with nodes := st.nodes.insert k v } :=
  ⟨rfl, fun n hn => by simpa [Ne.symm hne] using hn⟩

/-! ## The operations one by one -/

/-- Looking a node up returns it, or fails naming the path when there is none. -/
theorem node_run (p : String) (st : MemoryStore) :
    (node p).run st = match st.nodes.get? p with
      | some n => .ok n st
      | none => .error (.detail .notExist ("'" ++ p ++ "'")) st := by
  unfold node
  simp only [EStateM.run_bind, EStateM.run_get]
  cases st.nodes.get? p <;> rfl

/-- Reading a node's state returns its view, or fails naming the path when there is none. -/
theorem readAccess_run (p : String) (upn : Bool) (st : MemoryStore) :
    (readAccess p upn).run st = match st.nodes.get? p with
      | some n => .ok (view upn st n) st
      | none => .error (.detail .notExist ("'" ++ p ++ "'")) st := by
  unfold readAccess
  rw [EStateM.run_bind, node_run]
  cases st.nodes.get? p with
  | none => rfl
  | some n => cases upn <;> rfl

/-- A read that returns has found a node, and returns the node's state as the caller asked to
see it. -/
theorem readAccess_run_ok {p : String} {upn : Bool} {st st' : MemoryStore} {ac : AccessControl}
    (h : (readAccess p upn).run st = .ok ac st') :
    st' = st ∧ ∃ n, st.nodes.get? p = some n ∧ ac = view upn st n := by
  rw [readAccess_run] at h
  cases hget : st.nodes.get? p with
  | none =>
    rw [hget] at h
    cases h
  | some n =>
    rw [hget] at h
    cases h
    exact ⟨rfl, n, rfl, rfl⟩

/-- A listing changes nothing, whether it returns or fails. -/
theorem list_endState (p : String) (r : Bool) (k : Int) (st : MemoryStore) :
    endState ((list p r k).run st) = st := by
  unfold list
  simp only [EStateM.run_bind, node_run]
  cases st.nodes.get? p with
  | none => rfl
  | some n =>
    simp only
    split <;> rfl

/-- A listing returns only paths below the directory listed that come after the directory
followed by a separator, so never the directory itself. -/
theorem list_returns_below (p : String) (r : Bool) (k : Int) :
    Returns (fun items : List Item => ∀ it ∈ items, Path.isBelow it.path p = true ∧
      ¬ it.path < p ++ "/") (list p r k) := by
  intro st items st' hrun
  unfold list at hrun
  simp only [EStateM.run_bind, node_run] at hrun
  cases hget : st.nodes.get? p with
  | none => simp [hget] at hrun
  | some n =>
    simp only [hget] at hrun
    cases hf : n.folder
    · simp [hf] at hrun
    · simp only [hf, Bool.not_true, Bool.false_eq_true, ↓reduceIte, EStateM.run_bind,
        EStateM.run_get, EStateM.run_pure, EStateM.Result.ok.injEq] at hrun
      obtain ⟨rfl, -⟩ := hrun
      intro it hit
      obtain ⟨e, he, rfl⟩ := List.mem_map.1 (mem_of_mem_limitItems hit)
      have hwhile := (List.mem_filter.1 he).1
      have hbelow := List.mem_takeWhile_imp hwhile
      exact ⟨hbelow, Index.not_lt_of_mem_atOrAfter (List.takeWhile_subset _ hwhile)⟩

/-- Writing a state fails when the path has no node or the state fails its check, and otherwise
replaces the node's state by the checked one, identities stored as object ids. -/
theorem writeAccess_run (p : String) (ac : Option AccessControl) (st : MemoryStore) :
    (writeAccess p ac).run st = match st.nodes.get? p with
      | none => .error (.detail .notExist ("'" ++ p ++ "'")) st
      | some n => match AccessControl.prepare p ac n.folder with
        | .error e => .error e st
        | .ok prepared => .ok () { st with
            nodes := st.nodes.insert p
              { n with access := prepared.withIds st.principals.entries } } := by
  unfold writeAccess
  simp only [EStateM.run_bind, node_run]
  cases st.nodes.get? p with
  | none => rfl
  | some n =>
    simp only
    cases AccessControl.prepare p ac n.folder <;> rfl

/-- A write that returns has replaced the node of its path by the same node with the state
checked, identities stored as object ids. -/
theorem writeAccess_run_ok {p : String} {ac : Option AccessControl} {st st' : MemoryStore}
    (h : (writeAccess p ac).run st = .ok () st') :
    ∃ n prepared, st.nodes.get? p = some n ∧ AccessControl.prepare p ac n.folder = .ok prepared ∧
      st' = { st with
        nodes := st.nodes.insert p
          { n with access := prepared.withIds st.principals.entries } } := by
  rw [writeAccess_run] at h
  cases hget : st.nodes.get? p with
  | none => simp [hget] at h
  | some n =>
    simp only [hget] at h
    cases hprep : AccessControl.prepare p ac n.folder with
    | error e => simp [hprep] at h
    | ok prepared =>
      simp only [hprep, EStateM.Result.ok.injEq, true_and] at h
      exact ⟨n, prepared, rfl, hprep, h.symm⟩

/-- A write replaces at most the node of its own path. -/
theorem writeAccess_fixes {p q : String} (ac : Option AccessControl) (hne : q ≠ p) :
    Keeps (Fixes p) (writeAccess q ac) := by
  intro st
  rw [writeAccess_run]
  cases st.nodes.get? q with
  | none => exact refl_of (Fixes p) st
  | some n =>
    simp only
    split
    · exact refl_of (Fixes p) st
    · exact fixes_insert_of_ne st _ hne

/-- A write keeps the principal table. -/
theorem writeAccess_samePrincipals (q : String) (ac : Option AccessControl) :
    Keeps SamePrincipals (writeAccess q ac) := by
  intro st
  rw [writeAccess_run]
  cases st.nodes.get? q with
  | none => rfl
  | some n =>
    simp only
    split <;> rfl

/-- Walking down and creating what is missing keeps the node under `p`, by induction on the segments
still to walk: a node on the way is kept and the creation goes on below it, and a missing one is
added under a path that had no node. -/
theorem createBelow_fixes (p : String) (folder : Bool) :
    ∀ (segs : List String) (current : String) (acc : AccessControl),
      Keeps (Fixes p) (createBelow folder current acc segs)
  | [], _, _ => by
    unfold createBelow
    exact Keeps.pure ()
  | seg :: rest, current, acc => by
    intro st
    unfold createBelow
    simp only [EStateM.run_bind, EStateM.run_get]
    cases hget : st.nodes.get? (Path.join [current, seg]) with
    | some n =>
      simp only
      split
      · split
        · exact refl_of (Fixes p) st
        · exact refl_of (Fixes p) st
      · split
        · exact refl_of (Fixes p) st
        · exact createBelow_fixes p folder rest _ n.access st
    | none =>
      simp only [EStateM.run_bind, EStateM.run_modify]
      exact trans_of (Fixes p) (fixes_insert_of_absent p _ hget)
        (createBelow_fixes p folder rest _ _ _)

/-- Creating a directory or a file keeps the node under any path that had one. -/
theorem create_fixes (p q : String) (folder : Bool) : Keeps (Fixes p) (create q folder) := by
  intro st
  unfold create
  split
  next container rel _ =>
    simp only
    split
    · exact refl_of (Fixes p) st
    · split
      · exact refl_of (Fixes p) st
      · simp only [EStateM.run_bind, EStateM.run_get]
        split
        · exact refl_of (Fixes p) st
        · exact createBelow_fixes p folder _ _ _ st

/-- Creating a container keeps the node under any path that had one: it adds a node only where there
was none. -/
theorem createContainer_fixes (p n : String) : Keeps (Fixes p) (createContainer n) := by
  intro st
  unfold createContainer
  split
  · exact refl_of (Fixes p) st
  · simp only [EStateM.run_bind, EStateM.run_get]
    split
    · next habsent =>
      simp only [EStateM.run_modify]
      exact fixes_insert_of_absent p _ (by simpa [Index.contains] using habsent)
    · exact refl_of (Fixes p) st

/-! ## Every call -/

/-- The memory storage announces every capability. -/
@[simp] theorem storage_supports (c : Capability) : storage.supports c = true := by
  cases c <;> rfl

/-- A read of a state on the memory storage is `readAccess`. -/
theorem storage_perform_readAccess (p : String) (upn : Bool) :
    storage.perform (.readAccess p upn) = readAccess p upn := rfl

/-- A write of a state on the memory storage is `writeAccess`. -/
theorem storage_perform_writeAccess (p : String) (ac : Option AccessControl) :
    storage.perform (.writeAccess p ac) = writeAccess p ac := rfl

/-- A listing on the memory storage is `list`. -/
theorem storage_perform_list (p : String) (r : Bool) (k : Int) :
    storage.perform (.list p r k) = list p r k := rfl

/-- A call that only looks leaves the contents as they were. -/
theorem perform_looks (c : Call) (hc : c.isRead) (st : MemoryStore) :
    endState ((storage.perform c).run st) = st := by
  cases c with
  | present p => rfl
  | readAccess p upn =>
    rw [storage_perform_readAccess, readAccess_run]
    cases st.nodes.get? p <;> rfl
  | list p r k => exact list_endState p r k st
  | listContainers => rfl
  | createContainer n => cases hc
  | createDirectory p => cases hc
  | writeAccess p ac => cases hc

/-- Every call but a write of `p` keeps the principal table and the node under `p`. -/
theorem perform_fixes {p : String} (c : Call) (hc : ∀ ac, c ≠ .writeAccess p ac) :
    Keeps (Fixes p) (storage.perform c) := by
  cases c with
  | createContainer n => exact createContainer_fixes p n
  | createDirectory q => exact create_fixes p q true
  | writeAccess q ac =>
    refine writeAccess_fixes ac fun hq => ?_
    subst hq
    exact hc ac rfl
  | present _ | readAccess _ _ | list _ _ _ | listContainers =>
    intro st
    rw [perform_looks _ rfl st]
    exact refl_of (Fixes p) st

/-- No call changes the principal table. -/
theorem perform_samePrincipals (c : Call) : Keeps SamePrincipals (storage.perform c) := by
  cases c with
  | writeAccess q ac => exact writeAccess_samePrincipals q ac
  | _ =>
    refine Keeps.mono (perform_fixes (p := "") _ ?_) fun _ _ h => h.samePrincipals
    intro ac h
    cases h

/-- Processing any directory keeps the principal table. -/
theorem preserves_samePrincipals (d : DeclaredDirectory) :
    Preserves (Traced.OnStore SamePrincipals) storage d where
  toLooksKeep := LooksKeep.onStore fun c _ => perform_samePrincipals c
  createContainer := Traced.record_onStore (perform_samePrincipals _)
  createDirectory := Traced.record_onStore (perform_samePrincipals _)
  writeOwn _ := Traced.record_onStore (perform_samePrincipals _)
  writeListed _ _ _ _ _ _ _ := Traced.record_onStore (perform_samePrincipals _)

/-- Reads and logs keep every node. -/
theorem looksKeep_fixes (p : String) : LooksKeep (Traced.OnStore (Fixes p)) storage :=
  LooksKeep.onStore fun c hc => perform_fixes c fun ac h => by
    subst h
    cases hc

/-- Processing a directory other than `p` and not above it keeps the node under `p`. -/
theorem preserves_fixes {p : String} {d : DeclaredDirectory} (hpath : d.path ≠ p)
    (hbelow : Path.isBelow p d.path = false) :
    Preserves (Traced.OnStore (Fixes p)) storage d where
  toLooksKeep := looksKeep_fixes p
  createContainer := Traced.record_onStore (perform_fixes _ fun _ h => by cases h)
  createDirectory := Traced.record_onStore (perform_fixes _ fun _ h => by cases h)
  writeOwn _ := Traced.record_onStore (perform_fixes _ fun _ h => hpath (Call.writeAccess.inj h).1)
  writeListed := by
    refine Traced.record_returns (c := .list d.path d.recurse 0)
      (Returns.mono (list_returns_below d.path d.recurse 0) ?_)
    intro items hitems it hit ac
    refine Traced.record_onStore (perform_fixes _ fun _ h => ?_)
    have hp : it.path = p := (Call.writeAccess.inj h).1
    rw [← hp, (hitems it hit).1] at hbelow
    cases hbelow

end MemoryStore

end AclReconcile
