import AclReconcile.Proofs.MemoryTree

/-!
# Calling the memory storage twice

A caller that retries repeats a call whose first answer it did not get, so the storage must end
as one call leaves it. The memory storage does. From every store it reaches, a call run on the
store that a first run of it left has the first run's outcome again, answer and store
(`MemoryStore.repeated_call_same_outcome`). So two calls leave the store one call leaves; the
second returns whenever the first did; and it fails with the first one's error whenever the
first failed.

A failure is the easy half. A failing call leaves a consistent store as it was
(`MemoryStore.Behaves`), so the second run starts where the first did. A call that returned has
made what it was asked for, and the second run finds it made and changes nothing. A container
is there. Every directory on the way down, and the item itself, are there with the kinds the
creation gives them, since a creation never replaces a node. The node a write stored is the one
a second write computes again, because a write keeps the node's kind, and the kind is all the
check of the state reads.
-/

namespace AclReconcile

namespace Index

variable {α : Type}

/-- Inserting a binding twice is inserting it once: the second insertion finds the key where the
first put it and replaces its value by the same value. -/
theorem insertInto_insertInto_self (k : String) (v : α) :
    ∀ es : List (String × α), insertInto k v (insertInto k v es) = insertInto k v es
  | [] => by simp [insertInto]
  | (k', v') :: rest => by
    simp only [insertInto]
    by_cases heq : (k == k') = true
    · simp [heq, insertInto]
    · by_cases hlt : k < k'
      · simp [heq, hlt, insertInto]
      · simp [heq, hlt, insertInto, insertInto_insertInto_self k v rest]

/-- Binding a key to the value it was just bound to changes nothing. -/
@[simp] theorem insert_insert_self (ix : Index α) (k : String) (v : α) :
    (ix.insert k v).insert k v = ix.insert k v :=
  congrArg Index.mk (insertInto_insertInto_self k v ix.entries)

end Index

namespace MemoryStore

/-! ## A second run after one that returned -/

/-- A creation of a container that returned returns again on the store it left, and changes nothing:
the name is bound after the first run, whether it was before or not. -/
theorem createContainer_run_again {name : String} {st st' : MemoryStore}
    (h : (createContainer name).run st = .ok () st') :
    (createContainer name).run st' = .ok () st' := by
  unfold createContainer at h ⊢
  cases hv : validateContainer name with
  | error e => simp [hv] at h
  | ok u =>
    simp only [hv, EStateM.run_bind, EStateM.run_get] at h ⊢
    have hbound : st'.nodes.contains name = true := by
      cases hc : st.nodes.contains name
      · simp only [hc, Bool.not_false, ↓reduceIte, EStateM.run_modify,
          EStateM.Result.ok.injEq, true_and] at h
        subst h
        simp [Index.contains]
      · simp only [hc, Bool.not_true, Bool.false_eq_true, ↓reduceIte, EStateM.run_pure,
          EStateM.Result.ok.injEq, true_and] at h
        exact h ▸ hc
    simp [hbound]

/-- A node a creation below a directory finds or adds is there when the creation returns. -/
theorem createBelow_keeps_node {folder : Bool} {current : String} {acc : AccessControl}
    {segs : List String} {st st' : MemoryStore} {p : String} {n : MemoryNode}
    (h : (createBelow folder current acc segs).run st = .ok () st')
    (hn : st.nodes.get? p = some n) : st'.nodes.get? p = some n := by
  have hfix := createBelow_fixes p folder segs current acc st
  rw [h] at hfix
  exact hfix.2 n hn

/-- A creation below a directory that returned leaves every segment there with the kind it
asks for, so a second one, from any state handed down, goes through them and returns at once. -/
theorem createBelow_run_again (folder : Bool) :
    ∀ (segs : List String) (current : String) (acc acc' : AccessControl) (st st' : MemoryStore),
      (createBelow folder current acc segs).run st = .ok () st' →
      (createBelow folder current acc' segs).run st' = .ok () st'
  | [], current, acc, acc', st, st', h => by
    rw [createBelow_nil_run] at h
    cases h
    exact createBelow_nil_run ..
  | seg :: rest, current, acc, acc', st, st', h => by
    have hkeep : ∀ {p n}, st.nodes.get? p = some n → st'.nodes.get? p = some n :=
      createBelow_keeps_node h
    rw [createBelow_cons_run] at h
    rw [createBelow_cons_run]
    cases hget : st.nodes.get? (Path.join [current, seg]) with
    | some n =>
      rw [hget] at h
      rw [hkeep hget]
      cases hf : n.folder <;> by_cases hlast : (rest.isEmpty && !folder) = true
      · simp only [hf, hlast, Bool.not_false, ↓reduceIte] at h ⊢
      · simp [hf, hlast] at h
      · simp [hf, hlast] at h
      · simp only [hf, hlast, Bool.not_true, Bool.false_eq_true, ↓reduceIte] at h ⊢
        exact createBelow_run_again folder rest _ n.access n.access st st' h
    | none =>
      rw [hget] at h
      dsimp only at h
      have hadded := createBelow_keeps_node h (Index.get?_insert_self ..)
      rw [hadded]
      dsimp only
      cases hkind : (folder || !rest.isEmpty) with
      | false =>
        have hrest : rest = [] := by simpa using (Bool.or_eq_false_iff.1 hkind).2
        have hfolder : folder = false := (Bool.or_eq_false_iff.1 hkind).1
        subst hrest hfolder
        simp
      | true =>
        have hgo : (rest.isEmpty && !folder) = false := by
          cases folder <;> cases rest <;> simp_all
        simp only [hgo, Bool.not_true, Bool.false_eq_true, ↓reduceIte]
        exact createBelow_run_again folder rest _ _ _ _ _ h

/-- What creating a path does, read off its checks in order: a path that does not validate, a
container root and a missing container are refused with the store unchanged; otherwise the segments
below the container are created from the container's state. -/
theorem create_run (p : String) (folder : Bool) (st : MemoryStore) :
    (create p folder).run st = match Path.validate p with
      | .error e => .error e st
      | .ok () =>
        if Path.isContainer p then
          .error (.detail .invalidPath ("'" ++ p ++ "' is a container root")) st
        else match st.nodes.get? (Path.split p).1 with
          | none => .error (.detail .containerNotExist ("'" ++ (Path.split p).1 ++ "'")) st
          | some root =>
            (createBelow folder (Path.split p).1 root.access
              (Path.segments (Path.split p).2)).run st := by
  unfold create
  cases Path.validate p with
  | error e => rfl
  | ok u =>
    cases Path.isContainer p
    · simp only [EStateM.run_bind, EStateM.run_get, Bool.false_eq_true, ↓reduceIte]
      cases st.nodes.get? (Path.split p).1 <;> rfl
    · rfl

/-- A creation that returned returns again on the store it left, and changes nothing: the container
is still there with the state it handed down, and every segment below it is there with its kind. -/
theorem create_run_again {p : String} {folder : Bool} {st st' : MemoryStore}
    (h : (create p folder).run st = .ok () st') : (create p folder).run st' = .ok () st' := by
  rw [create_run] at h ⊢
  cases hv : Path.validate p with
  | error e => simp [hv] at h
  | ok u =>
    cases hc : Path.isContainer p
    · simp only [hv, hc, Bool.false_eq_true, ↓reduceIte] at h ⊢
      cases hroot : st.nodes.get? (Path.split p).1 with
      | none => simp [hroot] at h
      | some root =>
        rw [hroot] at h
        dsimp only at h
        rw [createBelow_keeps_node h hroot]
        exact createBelow_run_again folder _ _ _ root.access st st' h
    · simp [hv, hc] at h

/-- A write of a state that returned returns again on the store it left, and changes nothing: the
node written keeps its kind, so the state is checked against the same kind and the same node is
stored. -/
theorem writeAccess_run_again {p : String} {ac : Option AccessControl} {st st' : MemoryStore}
    (h : (writeAccess p ac).run st = .ok () st') : (writeAccess p ac).run st' = .ok () st' := by
  obtain ⟨n, prepared, hget, hprep, rfl⟩ := writeAccess_run_ok h
  rw [writeAccess_run, Index.get?_insert_self]
  simp only [hprep, Index.insert_insert_self]

/-! ## Every call -/

section Again

variable {st : MemoryStore}

/-- A run from a consistent store repeats its outcome when it is run again on the store it left,
as long as, having returned, it returns again without a change. -/
theorem rerun_of_behaves {α : Type} {x : Op α} (hb : Behaves x st)
    (hagain : ∀ a st', x.run st = .ok a st' → x.run st' = .ok a st') :
    x.run (endState (x.run st)) = x.run st := by
  cases hrun : x.run st with
  | ok a st' => exact hagain a st' hrun
  | error e st' =>
    obtain rfl := hb.unchanged hrun
    exact hrun

/-- A creation from a consistent store, run again on the store it left, has the outcome of the first
run. -/
theorem create_rerun (h : st.Consistent) (p : String) (folder : Bool) :
    (create p folder).run (endState ((create p folder).run st)) = (create p folder).run st :=
  rerun_of_behaves (create_behaves h p folder) fun () _ hrun => create_run_again hrun

/-- Every call of the memory storage from a consistent store, run again on the store it left, has
the outcome of the first run: a call that only looks changes nothing, and one that changes the store
finds its change made. -/
theorem perform_rerun (h : st.Consistent) (c : Call) :
    (storage.perform c).run (endState ((storage.perform c).run st)) =
      (storage.perform c).run st := by
  cases c with
  | createContainer n =>
    exact rerun_of_behaves (createContainer_behaves h n) fun () _ hrun =>
      createContainer_run_again hrun
  | createDirectory p => exact create_rerun h p true
  | writeAccess p ac =>
    exact rerun_of_behaves (writeAccess_behaves h p ac) fun () _ hrun =>
      writeAccess_run_again hrun
  | present _ | readAccess _ _ | list _ _ _ | listContainers =>
    rw [perform_looks _ rfl st]

end Again

/-- Every call of the memory storage, and the creation of a file, repeated from a store the
storage reaches, has the outcome of the first run again: the same answer or the same error,
and the same store. -/
theorem repeated_call_same_outcome {st : MemoryStore} (hr : Reachable st) :
    (∀ c : Call, (storage.perform c).run (endState ((storage.perform c).run st)) =
      (storage.perform c).run st) ∧
    ∀ p, (create p false).run (endState ((create p false).run st)) = (create p false).run st :=
  ⟨perform_rerun hr.consistent, fun p => create_rerun hr.consistent p false⟩

/-- The store a container and a file in a new directory below it leave: every call, and the creation
of a file, repeated from it has the outcome of the first run. -/
theorem repeated_call_same_outcome_after_file :
    let st := endState ((create "c/d/f" false).run
      (endState ((storage.perform (.createContainer "c")).run {})))
    Reachable st ∧
      (∀ c : Call, (storage.perform c).run (endState ((storage.perform c).run st)) =
        (storage.perform c).run st) ∧
      ∀ p, (create p false).run (endState ((create p false).run st)) = (create p false).run st :=
  have hr := Reachable.createFile "c/d/f" (.call (.createContainer "c") .empty)
  ⟨hr, repeated_call_same_outcome hr⟩

end MemoryStore

end AclReconcile
