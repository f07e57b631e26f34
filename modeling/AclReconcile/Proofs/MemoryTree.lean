import AclReconcile.Proofs.Memory
import AclReconcile.Proofs.Segments
import AclReconcile.Proofs.StoredAccess

/-!
# The tree of the memory storage

The memory storage binds paths to nodes in one ordered index, beside a table from object ids to
principal names. `MemoryStore.Consistent` is the shape it keeps: a path without separator is a
container and holds a directory; any other path is valid, and its container and every directory
on the way down to it are directories of the store; a file has no default list; every entry
names a valid kind; and every stored summary is the summary of its list, as long as no principal
has an empty object id. Without that last condition the summary goes stale: such a principal
turns a named entry written for it into an unnamed one after the summary was computed
(`MemoryStore.empty_id_leaves_summary_stale`).

Every operation keeps the shape, and one that fails leaves the store as it was, index and
principal table (`MemoryStore.Behaves`). The creation of a path is where this takes an
argument: it walks down from the container and may fail at a file on the way, or at a directory
where a file is asked for. It never fails after it has added a node, because once a segment is
missing, everything below it is missing too (`MemoryStore.missing_below`), and the rest of the
walk only adds nodes (`MemoryStore.createBelow_fresh`).
-/

namespace AclReconcile

namespace Index

variable {α : Type}

/-- Inserting keeps every key the entries had. -/
theorem mem_keys_insertInto (k : String) (v : α) :
    ∀ (es : List (String × α)) {k' : String}, k' ∈ es.map (·.1) →
      k' ∈ (insertInto k v es).map (·.1)
  | [], _, h => by cases h
  | (k₀, v₀) :: rest, k', h => by
    simp only [insertInto]
    split
    · next heq =>
      have hk : k = k₀ := by simpa using heq
      simpa [hk] using h
    · split
      · simp only [List.map_cons, List.mem_cons] at h ⊢
        exact .inr h
      · simp only [List.map_cons, List.mem_cons] at h ⊢
        rcases h with h | h
        · exact .inl h
        · exact .inr (mem_keys_insertInto k v rest h)

/-- Binding a key keeps every key bound. -/
theorem keys_subset_insert (ix : Index α) (k : String) (v : α) :
    ix.keys ⊆ (ix.insert k v).keys :=
  fun _ h => mem_keys_insertInto k v ix.entries h

end Index

namespace MemoryStore

/-- A node as the storage keeps every node: a file has no default list, and every entry of either
list names a valid kind. -/
structure NodeOk (n : MemoryNode) : Prop where
  file_default : n.folder = false → n.access.defaultAcl = []
  validKinds : n.access.ValidKinds

/-- No principal of the table has an empty object id. -/
def NoEmptyId (st : MemoryStore) : Prop := "" ∉ st.principals.keys

/-- Every path made of the first segments of `k`, from its container down to its parent, is a
directory of the store. -/
def AncestorsAreFolders (st : MemoryStore) (k : String) : Prop :=
  ∀ i, 0 < i → i < (k.splitOn "/").length →
    ∃ a, st.nodes.get? ("/".intercalate ((k.splitOn "/").take i)) = some a ∧ a.folder = true

/-- The tree the memory storage keeps. A path without separator is a container, held as a
directory; any other path is valid, and its container and every directory on the way to it are
directories of the store. A file has no default list, every entry names a valid kind, and, as
long as no principal has an empty object id, every stored summary is the summary of its list. -/
structure Consistent (st : MemoryStore) : Prop where
  container_folder : ∀ k n, st.nodes.get? k = some n → Path.isContainer k = true →
    n.folder = true
  valid : ∀ k n, st.nodes.get? k = some n → Path.isContainer k = false →
    Path.validate k = .ok ()
  ancestors : ∀ k n, st.nodes.get? k = some n → st.AncestorsAreFolders k
  nodeOk : ∀ k n, st.nodes.get? k = some n → NodeOk n
  summaries : st.NoEmptyId → ∀ k n, st.nodes.get? k = some n →
    n.access.permissions = n.access.summary

/-- The empty store is consistent: it has no node. -/
theorem consistent_empty : Consistent {} := by
  refine ⟨?_, ?_, ?_, ?_, ?_⟩ <;> intros <;> contradiction

/-- Binding a path keeps the store consistent: a container to a directory, or a valid path whose
container and directories on the way are there; a node as every node must be, with its own
summary when no principal has an empty id; and, in place of a node, one of the same kind. -/
theorem Consistent.insert {st : MemoryStore} (h : st.Consistent) {k : String} {n : MemoryNode}
    (hcont : Path.isContainer k = true → n.folder = true)
    (hvalid : Path.isContainer k = false → Path.validate k = .ok ())
    (hanc : st.AncestorsAreFolders k) (hok : NodeOk n)
    (hsum : st.NoEmptyId → n.access.permissions = n.access.summary)
    (hkind : ∀ old, st.nodes.get? k = some old → old.folder = n.folder) :
    Consistent { st with nodes := st.nodes.insert k n } := by
  have hget : ∀ k' n', (st.nodes.insert k n).get? k' = some n' →
      (k' = k ∧ n' = n) ∨ st.nodes.get? k' = some n' := by
    intro k' n' h'
    by_cases hk : k' = k
    · subst hk
      rw [Index.get?_insert_self] at h'
      exact .inl ⟨rfl, (Option.some.inj h').symm⟩
    · rw [Index.get?_insert_of_ne _ _ hk] at h'
      exact .inr h'
  have hkeep : ∀ a an, st.nodes.get? a = some an → an.folder = true →
      ∃ an', (st.nodes.insert k n).get? a = some an' ∧ an'.folder = true := by
    intro a an ha hf
    by_cases hak : a = k
    · subst hak
      exact ⟨n, Index.get?_insert_self .., hkind an ha ▸ hf⟩
    · exact ⟨an, by rw [Index.get?_insert_of_ne _ _ hak, ha], hf⟩
  refine ⟨fun k' n' h' hc => ?_, fun k' n' h' hc => ?_, fun k' n' h' i hi hlt => ?_,
    fun k' n' h' => ?_, fun hids k' n' h' => ?_⟩
  · rcases hget k' n' h' with ⟨rfl, rfl⟩ | h'
    · exact hcont hc
    · exact h.container_folder k' n' h' hc
  · rcases hget k' n' h' with ⟨rfl, rfl⟩ | h'
    · exact hvalid hc
    · exact h.valid k' n' h' hc
  · rcases hget k' n' h' with ⟨rfl, rfl⟩ | h'
    · obtain ⟨a, ha, hf⟩ := hanc i hi hlt
      exact hkeep _ a ha hf
    · obtain ⟨a, ha, hf⟩ := h.ancestors k' n' h' i hi hlt
      exact hkeep _ a ha hf
  · rcases hget k' n' h' with ⟨rfl, rfl⟩ | h'
    · exact hok
    · exact h.nodeOk k' n' h'
  · rcases hget k' n' h' with ⟨rfl, rfl⟩ | h'
    · exact hsum hids
    · exact h.summaries hids k' n' h'

/-- What an operation does from a store: failing, it leaves the store as it was, index and
principal table; returning, it leaves a consistent store. -/
def Behaves {α : Type} (x : Op α) (st : MemoryStore) : Prop :=
  match x.run st with
  | .ok _ st' => st'.Consistent
  | .error _ st' => st' = st

/-! ## Creating below a directory -/

section Create

variable {st : MemoryStore} {pre : List String} {seg : String}

/-- Segments hold no separator. -/
theorem noSep_of_segments {ts : List String} (h : ∀ t ∈ ts, Path.Segment t) :
    ∀ t ∈ ts, '/' ∉ t.toList :=
  fun t ht => (h t ht).no_sep

/-- The segments down to one below a directory, and some further, are segments of the path. -/
theorem segments_snoc_take {rest : List String} (h : ∀ t ∈ pre ++ seg :: rest, Path.Segment t)
    (j : Nat) : ∀ t ∈ pre ++ [seg] ++ rest.take j, Path.Segment t := by
  intro t ht
  refine h t ?_
  rw [List.mem_append, List.mem_append, List.mem_singleton] at ht
  rcases ht with (ht | rfl) | ht
  · exact List.mem_append_left _ ht
  · exact List.mem_append_right _ List.mem_cons_self
  · exact List.mem_append_right _ (List.mem_cons_of_mem _ (List.mem_of_mem_take ht))

/-- The segments down to one below a directory are segments of the path. -/
theorem segments_snoc {rest : List String} (h : ∀ t ∈ pre ++ seg :: rest, Path.Segment t) :
    ∀ t ∈ pre ++ [seg], Path.Segment t := by
  simpa using segments_snoc_take h 0

/-- Below a path of segments, the next segment joined on is the segments joined one further. -/
theorem join_snoc {rest : List String} (hpre : pre ≠ [])
    (h : ∀ t ∈ pre ++ seg :: rest, Path.Segment t) :
    Path.join ["/".intercalate pre, seg] = "/".intercalate (pre ++ [seg]) :=
  have hsegs := segments_snoc h
  Path.join_intercalate hpre (fun t ht => hsegs t (List.mem_append_left _ ht))
    (hsegs seg (by simp))

/-- A directory and one more segment make no container. -/
theorem isContainer_intercalate_snoc (hpre : pre ≠ []) :
    Path.isContainer ("/".intercalate (pre ++ [seg])) = false := by
  obtain ⟨a, as, rfl⟩ := List.exists_cons_of_ne_nil hpre
  obtain ⟨b, bs, hbs⟩ := List.exists_cons_of_ne_nil (List.append_ne_nil_of_right_ne_nil as
    (List.cons_ne_nil seg []))
  rw [List.cons_append, hbs]
  cases hc : Path.isContainer ("/".intercalate (a :: b :: bs))
  · rfl
  · exact absurd (Path.slash_mem_intercalate a b bs) (Path.isContainer_iff.1 hc)

/-- Below a directory of a consistent store, the directories on the way to a new segment are
there: the directory itself and its own ancestors. -/
theorem ancestors_snoc (h : st.Consistent) {acc : AccessControl} (hpre : pre ≠ [])
    (hgood : ∀ t ∈ pre ++ [seg], Path.Segment t)
    (hcur : st.nodes.get? ("/".intercalate pre) = some ⟨true, acc⟩) :
    st.AncestorsAreFolders ("/".intercalate (pre ++ [seg])) := by
  intro i hi hlt
  have hsplit := splitOn_intercalate_slash (List.append_ne_nil_of_left_ne_nil hpre _)
    (noSep_of_segments hgood)
  rw [hsplit] at hlt ⊢
  rw [List.length_append, List.length_singleton] at hlt
  rw [List.take_append_of_le_length (by omega)]
  rcases Nat.lt_or_ge i pre.length with hlt' | hge
  · have hcursplit := splitOn_intercalate_slash hpre
      (fun t ht => (hgood t (List.mem_append_left _ ht)).no_sep)
    have := h.ancestors _ _ hcur i hi (by rw [hcursplit]; exact hlt')
    rwa [hcursplit] at this
  · rw [List.take_of_length_le hge]
    exact ⟨_, hcur, rfl⟩

/-- Where a segment below a directory is missing, so is everything below it: that segment would be
an ancestor of any node found further down. -/
theorem missing_below (h : st.Consistent) {rest : List String} (hpre : pre ≠ [])
    (hgood : ∀ t ∈ pre ++ seg :: rest, Path.Segment t)
    (hmissing : st.nodes.get? ("/".intercalate (pre ++ [seg])) = none) :
    ∀ j, 0 < j → j ≤ rest.length + 1 →
      st.nodes.get? ("/".intercalate (pre ++ (seg :: rest).take j)) = none := by
  intro j hj hjl
  obtain ⟨j, rfl⟩ := Nat.exists_eq_add_of_lt hj
  cases hget : st.nodes.get? ("/".intercalate (pre ++ (seg :: rest).take (0 + j + 1))) with
  | none => rfl
  | some n =>
    exfalso
    cases j with
    | zero =>
      simp only [Nat.zero_add, List.take_succ_cons, List.take_zero] at hget
      rw [hmissing] at hget
      cases hget
    | succ j =>
      have hL : pre ++ (seg :: rest).take (0 + (j + 1) + 1) =
          (pre ++ [seg]) ++ rest.take (j + 1) := by
        simp [List.take_succ_cons]
      rw [hL] at hget
      have hsplit := splitOn_intercalate_slash
        (List.append_ne_nil_of_left_ne_nil (List.append_ne_nil_of_left_ne_nil hpre _) _)
        (noSep_of_segments (segments_snoc_take hgood (j + 1)))
      have hlen : (rest.take (j + 1)).length = j + 1 := List.length_take_of_le (by omega)
      obtain ⟨a, ha, -⟩ := h.ancestors _ n hget (pre.length + 1) (by omega)
        (by rw [hsplit]; simp [hlen])
      rw [hsplit, List.take_left' (by simp), hmissing] at ha
      cases ha

/-- Lists of pieces without separator, joined to one text, are one list. -/
theorem intercalate_slash_inj {a b : List String} (ha : a ≠ []) (hb : b ≠ [])
    (hsa : ∀ t ∈ a, '/' ∉ t.toList) (hsb : ∀ t ∈ b, '/' ∉ t.toList)
    (h : "/".intercalate a = "/".intercalate b) : a = b := by
  rw [← splitOn_intercalate_slash ha hsa, h, splitOn_intercalate_slash hb hsb]

/-- One step of creating below a directory: a node on the way is gone through when it is a directory
and ends the creation otherwise, and a missing one is added, a directory when more segments follow,
with the state of the directory above it. -/
theorem createBelow_cons_run (folder : Bool) (current : String) (acc : AccessControl)
    (seg : String) (rest : List String) (st : MemoryStore) :
    (createBelow folder current acc (seg :: rest)).run st =
      match st.nodes.get? (Path.join [current, seg]) with
      | some n =>
        if !n.folder then
          if rest.isEmpty && !folder then .ok () st
          else .error (.detail .notDirectory ("'" ++ Path.join [current, seg] ++ "'")) st
        else if rest.isEmpty && !folder then
          .error (.detail .exist ("'" ++ Path.join [current, seg] ++ "' is a directory")) st
        else (createBelow folder (Path.join [current, seg]) n.access rest).run st
      | none =>
        let isFolder := folder || !rest.isEmpty
        (createBelow folder (Path.join [current, seg])
            (AccessControl.initial (some acc) isFolder) rest).run
          { st with
            nodes := st.nodes.insert (Path.join [current, seg])
              ⟨isFolder, AccessControl.initial (some acc) isFolder⟩ } := by
  rw [createBelow]
  simp only [EStateM.run_bind, EStateM.run_get]
  cases st.nodes.get? (Path.join [current, seg]) with
  | none => rfl
  | some n =>
    dsimp only
    split <;> split <;> rfl

/-- Creating below a directory with no segment left does nothing. -/
theorem createBelow_nil_run (folder : Bool) (current : String) (acc : AccessControl)
    (st : MemoryStore) : (createBelow folder current acc []).run st = .ok () st := by
  rw [createBelow]
  rfl

/-- Below a directory of a consistent store where every segment still to create is missing, the
creation adds them all, each a directory but for a file asked for last, and returns with the
store still consistent. By induction on the segments: each new node starts from the state of the
directory above it. -/
theorem createBelow_fresh (folder : Bool) : ∀ (segs pre : List String) (acc : AccessControl)
    (st : MemoryStore), st.Consistent → pre ≠ [] → (∀ t ∈ pre ++ segs, Path.Segment t) →
    st.nodes.get? ("/".intercalate pre) = some ⟨true, acc⟩ →
    (∀ j, 0 < j → j ≤ segs.length →
      st.nodes.get? ("/".intercalate (pre ++ segs.take j)) = none) →
    ∃ st', (createBelow folder ("/".intercalate pre) acc segs).run st = .ok () st' ∧
      st'.Consistent
  | [], pre, acc, st, h, _, _, _, _ => ⟨st, createBelow_nil_run .., h⟩
  | seg :: rest, pre, acc, st, h, hpre, hgood, hcur, hmissing => by
    have hsegs := segments_snoc hgood
    have hK : st.nodes.get? ("/".intercalate (pre ++ [seg])) = none := by
      simpa using hmissing 1 (by omega) (by simp)
    rw [createBelow_cons_run, join_snoc hpre hgood, hK]
    dsimp only
    have hacc : acc.ValidKinds := (h.nodeOk _ _ hcur).validKinds
    obtain ⟨hfile, hkinds, hsum⟩ := AccessControl.initial_ok (some acc)
      (fun p hp e he => by
        obtain rfl := Option.some.inj hp
        exact hacc e (List.mem_append_right _ he))
      (folder || !rest.isEmpty)
    have h₁ := h.insert (k := "/".intercalate (pre ++ [seg]))
      (n := ⟨folder || !rest.isEmpty,
        AccessControl.initial (some acc) (folder || !rest.isEmpty)⟩)
      (fun hc => absurd hc (by rw [isContainer_intercalate_snoc hpre]; decide))
      (fun _ => Path.validate_intercalate (by
        rw [List.length_append, List.length_singleton]
        have := List.length_pos_of_ne_nil hpre
        omega) hsegs)
      (ancestors_snoc h hpre hsegs hcur) ⟨hfile, hkinds⟩ (fun _ => hsum)
      (fun old hold => by rw [hK] at hold; cases hold)
    cases rest with
    | nil => exact ⟨_, createBelow_nil_run .., h₁⟩
    | cons r rs =>
      have hfolder : (folder || !(r :: rs).isEmpty) = true := by simp
      refine createBelow_fresh folder (r :: rs) (pre ++ [seg]) _ _ h₁
        (List.append_ne_nil_of_left_ne_nil hpre _) (by simpa using hgood)
        (by rw [Index.get?_insert_self, hfolder]) fun j hj hjl => ?_
      have hne : "/".intercalate (pre ++ [seg] ++ (r :: rs).take j) ≠
          "/".intercalate (pre ++ [seg]) := by
        intro heq
        have := congrArg List.length (intercalate_slash_inj (by simp) (by simp)
          (noSep_of_segments (segments_snoc_take hgood j)) (noSep_of_segments hsegs) heq)
        simp at this
        omega
      rw [Index.get?_insert_of_ne _ _ hne]
      simpa [List.take_succ_cons] using hmissing (j + 1) (by omega) (by simpa using hjl)

/-- Below a directory of a consistent store, creating goes through the directories that are there
and adds what is missing; it fails only at a file on the way, or at a directory where a file is
asked for, and then before it has added anything. -/
theorem createBelow_behaves (folder : Bool) : ∀ (segs pre : List String) (acc : AccessControl)
    (st : MemoryStore), st.Consistent → pre ≠ [] → (∀ t ∈ pre ++ segs, Path.Segment t) →
    st.nodes.get? ("/".intercalate pre) = some ⟨true, acc⟩ →
    Behaves (createBelow folder ("/".intercalate pre) acc segs) st
  | [], pre, acc, st, h, _, _, _ => by
    unfold Behaves
    rw [createBelow_nil_run]
    exact h
  | seg :: rest, pre, acc, st, h, hpre, hgood, hcur => by
    cases hK : st.nodes.get? ("/".intercalate (pre ++ [seg])) with
    | none =>
      obtain ⟨st', hrun, hcons⟩ := createBelow_fresh folder (seg :: rest) pre acc st h hpre
        hgood hcur (missing_below h hpre hgood hK)
      unfold Behaves
      rw [hrun]
      exact hcons
    | some n =>
      have hrest := createBelow_behaves folder rest (pre ++ [seg]) n.access st h
        (List.append_ne_nil_of_left_ne_nil hpre _) (by simpa using hgood)
      unfold Behaves at hrest ⊢
      rw [createBelow_cons_run, join_snoc hpre hgood, hK]
      dsimp only
      cases hf : n.folder <;> by_cases hlast : (rest.isEmpty && !folder) = true
      · simp only [Bool.not_false, hlast, ↓reduceIte]
        exact h
      · simp only [Bool.not_false, hlast, ↓reduceIte, Bool.false_eq_true]
      · simp only [Bool.not_true, hlast, ↓reduceIte, Bool.false_eq_true]
      · simp only [Bool.not_true, hlast, ↓reduceIte, Bool.false_eq_true]
        exact hrest (by rw [hK, ← hf])

/-- A path that is not a container has more than one segment. -/
theorem splitOn_of_not_container {p c : String} {rest : List String}
    (h : p.splitOn "/" = c :: rest) (hc : Path.isContainer p = false) : rest ≠ [] := by
  rintro rfl
  have hp : p = c := by rw [← intercalate_splitOn_slash p, h, String.intercalate_singleton]
  have hsep := slash_not_mem_of_mem_splitOn (h ▸ List.mem_singleton_self c)
  rw [← hp, ← Path.isContainer_iff, hc] at hsep
  exact Bool.false_ne_true hsep

/-- Creating from a consistent store: a path that is not valid, a container root, or in a
missing container fails with the store as it was; otherwise the creation goes down from the
container. -/
theorem create_behaves (h : st.Consistent) (p : String) (folder : Bool) :
    Behaves (create p folder) st := by
  unfold Behaves create
  cases hv : Path.validate p with
  | error e => rfl
  | ok u =>
    cases hc : Path.isContainer p
    · obtain ⟨c, rest, hsplit⟩ := List.exists_cons_of_ne_nil (splitOn_slash_ne_nil p)
      rw [Path.split_eq hsplit]
      simp only [Bool.false_eq_true, ↓reduceIte, EStateM.run_bind, EStateM.run_get]
      cases hroot : st.nodes.get? c with
      | none => rfl
      | some root =>
        have hgood : ∀ t ∈ [c] ++ rest, Path.Segment t :=
          fun t ht => Path.segment_of_validate hv (hsplit ▸ ht)
        have hfolder : root.folder = true := h.container_folder c root hroot
          (Path.isContainer_iff.2 (slash_not_mem_of_mem_splitOn (hsplit ▸ List.mem_cons_self)))
        have hsegs : Path.segments ("/".intercalate rest) = rest :=
          splitOn_intercalate_slash (splitOn_of_not_container hsplit hc)
            fun t ht => (hgood t (List.mem_append_right _ ht)).no_sep
        have hbelow := createBelow_behaves folder rest [c] root.access st h (List.cons_ne_nil _ _)
          hgood (by rw [String.intercalate_singleton, hroot, ← hfolder])
        rw [String.intercalate_singleton] at hbelow
        rw [hsegs]
        exact hbelow
    · rfl

end Create

/-! ## Every operation -/

section Operations

variable {st : MemoryStore}

/-- An operation that leaves a consistent store as it was behaves. -/
theorem behaves_of_endState {α : Type} {x : Op α} (h : st.Consistent)
    (hx : endState (x.run st) = st) : Behaves x st := by
  unfold Behaves
  cases hrun : x.run st with
  | ok a st' =>
    rw [hrun] at hx
    exact (hx : st' = st) ▸ h
  | error e st' =>
    rw [hrun] at hx
    exact hx

/-- An operation that behaves from a consistent store ends in a consistent store, whether it returns
or fails. -/
theorem Behaves.consistent {α : Type} {x : Op α} (hx : Behaves x st) (h : st.Consistent) :
    (endState (x.run st)).Consistent := by
  unfold Behaves at hx
  cases hrun : x.run st with
  | ok a st' =>
    rw [hrun] at hx
    exact hx
  | error e st' =>
    rw [hrun] at hx
    exact (hx : st' = st) ▸ h

/-- An operation that behaves and fails leaves the store as it was. -/
theorem Behaves.unchanged {α : Type} {x : Op α} (hx : Behaves x st) {e : Error}
    {st' : MemoryStore} (hrun : x.run st = .error e st') : st' = st := by
  unfold Behaves at hx
  rw [hrun] at hx
  exact hx

/-- Creating a container binds a new name, one without separator, to a directory. -/
theorem createContainer_behaves (h : st.Consistent) (name : String) :
    Behaves (createContainer name) st := by
  unfold Behaves createContainer
  cases hv : validateContainer name with
  | error e => rfl
  | ok u =>
    have hc : Path.isContainer name = true := by
      unfold validateContainer at hv
      split at hv
      · cases hv
      · next hname =>
        simp only [Bool.or_eq_true, beq_iff_eq, Bool.not_eq_eq_eq_not, Bool.not_true,
          not_or] at hname
        simpa using hname.2
    simp only [EStateM.run_bind, EStateM.run_get]
    cases hcont : st.nodes.contains name
    · simp only [Bool.not_false, ↓reduceIte, EStateM.run_modify]
      have hone : name.splitOn "/" = [name] := by
        simpa [String.intercalate_singleton] using
          splitOn_intercalate_slash (List.cons_ne_nil name [])
            (by simpa using Path.isContainer_iff.1 hc)
      obtain ⟨-, hkinds, hsum⟩ := AccessControl.initial_ok none
        (fun _ hp => by cases hp) true
      refine h.insert (fun _ => rfl) (fun hc' => absurd hc' (by rw [hc]; decide))
        (fun i hi hlt => ?_) ⟨fun hf => absurd hf (by decide), hkinds⟩ (fun _ => hsum)
        fun old hold => ?_
      · rw [hone] at hlt
        simp at hlt
        omega
      · have : st.nodes.get? name = none := by simpa [Index.contains] using hcont
        rw [this] at hold
        cases hold
    · simp only [Bool.not_true, Bool.false_eq_true, ↓reduceIte, EStateM.run_pure]
      exact h

/-- Writing a state checks it against the node's kind and stores it with object ids for names;
as long as no principal has an empty object id, the stored summary is still its list's. -/
theorem writeAccess_behaves (h : st.Consistent) (p : String) (ac : Option AccessControl) :
    Behaves (writeAccess p ac) st := by
  unfold Behaves
  rw [writeAccess_run]
  cases hget : st.nodes.get? p with
  | none => rfl
  | some n =>
    dsimp only
    cases hprep : AccessControl.prepare p ac n.folder with
    | error e => rfl
    | ok prepared =>
      obtain ⟨hfile, hkinds, hsum⟩ := AccessControl.prepare_ok hprep
      refine h.insert (h.container_folder p n hget) (h.valid p n hget) (h.ancestors p n hget)
        ⟨fun hf => AccessControl.withIds_defaultAcl_nil _ (hfile hf),
          AccessControl.withIds_validKinds _ hkinds⟩ (fun hids => ?_) fun old hold => ?_
      · rw [AccessControl.withIds_permissions, AccessControl.withIds_summary hids, hsum]
      · rw [hget] at hold
        cases hold
        rfl

/-- Registering a principal leaves the tree as it was. -/
theorem addPrincipal_behaves (h : st.Consistent) (id name : String) :
    Behaves (addPrincipal id name) st := by
  have hids : NoEmptyId { st with principals := st.principals.insert id name } → st.NoEmptyId :=
    fun hnew hmem => hnew (Index.keys_subset_insert _ _ _ hmem)
  exact { h with summaries := fun hnew => h.summaries (hids hnew) }

/-- Every call of the memory storage behaves from a consistent store. -/
theorem perform_behaves (h : st.Consistent) (c : Call) : Behaves (storage.perform c) st := by
  cases c with
  | createContainer n => exact createContainer_behaves h n
  | createDirectory p => exact create_behaves h p true
  | writeAccess p ac => exact writeAccess_behaves h p ac
  | present _ | readAccess _ _ | list _ _ _ | listContainers =>
    exact behaves_of_endState h (perform_looks _ rfl st)

end Operations

/-! ## The stores the memory storage reaches -/

/-- The stores reached from the empty one through calls of the storage, the creation of files and
the registration of principals, whether each returns or fails. -/
inductive Reachable : MemoryStore → Prop
  | empty : Reachable {}
  | call {st : MemoryStore} (c : Call) : Reachable st →
      Reachable (endState ((storage.perform c).run st))
  | createFile {st : MemoryStore} (p : String) : Reachable st →
      Reachable (endState ((create p false).run st))
  | addPrincipal {st : MemoryStore} (id name : String) : Reachable st →
      Reachable (endState ((addPrincipal id name).run st))

/-- Every reachable store is consistent. -/
theorem Reachable.consistent {st : MemoryStore} (hr : Reachable st) : st.Consistent := by
  induction hr with
  | empty => exact consistent_empty
  | call c _ ih => exact (perform_behaves ih c).consistent ih
  | createFile p _ ih => exact (create_behaves ih p false).consistent ih
  | addPrincipal id name _ ih => exact (addPrincipal_behaves ih id name).consistent ih

/-- The memory storage keeps its tree: every store it reaches is consistent, and from such a store
a call or a creation that fails leaves the store, its index and its principal table, exactly as
it was. -/
theorem reachable_consistent {st : MemoryStore} (hr : Reachable st) :
    st.Consistent ∧
      (∀ c e st', (storage.perform c).run st = .error e st' → st' = st) ∧
      (∀ p folder e st', (create p folder).run st = .error e st' → st' = st) :=
  ⟨hr.consistent, fun c _ _ hrun => (perform_behaves hr.consistent c).unchanged hrun,
    fun p folder _ _ hrun => (create_behaves hr.consistent p folder).unchanged hrun⟩

/-- A store reached by registering a principal, creating a container and creating a file two levels
below it. -/
theorem reachable_consistent_with_file :
    let st := endState ((create "c/d/f" false).run
      (endState ((storage.perform (.createContainer "c")).run
        (endState ((addPrincipal "u1" "alice").run {})))))
    Reachable st ∧ st.Consistent ∧
      (∀ c e st', (storage.perform c).run st = .error e st' → st' = st) ∧
      (∀ p folder e st', (create p folder).run st = .error e st' → st' = st) :=
  have hr := Reachable.createFile "c/d/f"
    (.call (.createContainer "c") (.addPrincipal "u1" "alice" .empty))
  ⟨hr, reachable_consistent hr⟩

/-- A principal with an empty object id turns a named entry written for it into an unnamed one:
the stored list then has a summary other than the one stored with it. -/
theorem empty_id_leaves_summary_stale :
    let ac : AccessControl := ⟨"o", "g", "",
      [⟨.user, "", true, true, true⟩, ⟨.user, "alice", false, false, false⟩], []⟩
    let st := endState ((storage.perform (.writeAccess "c" (some ac))).run
      (endState ((storage.perform (.createContainer "c")).run
        (endState ((addPrincipal "" "alice").run {})))))
    Reachable st ∧
      (st.nodes.get? "c").map (fun n => (n.access.permissions, n.access.summary)) =
        some ("rwx------", "---------") :=
  ⟨.call _ (.call _ (.addPrincipal _ _ .empty)), by cbv⟩

end MemoryStore

end AclReconcile
