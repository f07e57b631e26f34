import AclReconcile.Proofs.RepeatedCalls
import AclReconcile.Storage.Local

/-!
# New items inherit from their parent

A new item takes its state from the item above it, as POSIX default lists work
(`AccessControl.Inherits`): the parent's owner and group; the parent's default list as its list,
or, when the parent has none, a list giving the owner everything, the group reading and entering
and the others nothing; the parent's default list again as its own default list when it is a
directory; and the summary of its list.

The memory storage creates the directories on the way to a path and the path itself in one pass
down from the container, handing each new item's state to the next one down. A creation that
returns has bound exactly the paths of the way down that were missing, in order, each inheriting
from the node above it, whether that node was there before or was made by the same call
(`MemoryStore.Creates`, `MemoryStore.create_creates`). So below a directory with a default list,
every new directory carries that list as both lists, and a new file as its list alone.

The local storage keeps no state for an item it has not written: it hands the state down when it
is read, walking up one parent at a time (`LocalStore.access_of_absent`). The fuel of that walk is
the number of segments of the path, one more than that of its parent, so the walk always reaches
the container. All is gathered in `creation_inherits_from_parent`.
-/

namespace AclReconcile

namespace AccessControl

/-- `ac` is the state of a new item of kind `isFolder` below an item in the state `parent`: the
parent's owner and group; the parent's default list as its list, or when that is empty the list
`user::rwx,group::r-x,other::---`; the parent's default list as its default list when it is a
directory and that list is not empty, otherwise none; and the summary of its list. -/
structure Inherits (parent : AccessControl) (isFolder : Bool) (ac : AccessControl) : Prop where
  owner : ac.owner = parent.owner
  group : ac.group = parent.group
  acl : ac.acl = if parent.defaultAcl = [] then
    [⟨.user, "", true, true, true⟩, ⟨.group, "", true, false, true⟩,
      ⟨.other, "", false, false, false⟩]
    else parent.defaultAcl
  defaultAcl : ac.defaultAcl =
    if isFolder = true ∧ parent.defaultAcl ≠ [] then parent.defaultAcl else []
  permissions : ac.permissions = summaryOf ac.acl

/-- A new item's initial state inherits from its parent's state. -/
theorem initial_inherits (parent : AccessControl) (isFolder : Bool) :
    Inherits parent isFolder (initial (some parent) isFolder) := by
  by_cases hD : parent.defaultAcl = []
  · constructor <;> simp [initial, hD, summary]
  · constructor <;> simp [initial, hD, summary, replace]

/-- Below a parent with a default list, a new item has that list as its list, and a directory
has it as its default list too. -/
theorem Inherits.of_default {parent ac : AccessControl} {isFolder : Bool}
    (h : Inherits parent isFolder ac) (hD : parent.defaultAcl ≠ []) :
    ac.acl = parent.defaultAcl ∧ ac.defaultAcl = if isFolder then parent.defaultAcl else [] := by
  refine ⟨by rw [h.acl, if_neg hD], ?_⟩
  rw [h.defaultAcl]
  cases isFolder <;> simp [hD]

end AccessControl

namespace Path

/-- The paths one segment below `pre`, then one more, down through every segment of `segs`. -/
def chainBelow : List String → List String → List String
  | _, [] => []
  | pre, seg :: rest => "/".intercalate (pre ++ [seg]) :: chainBelow (pre ++ [seg]) rest

/-- The paths from the first one below the container of `p` down to `p`. -/
def chain (p : String) : List String :=
  match p.splitOn "/" with
  | [] => []
  | c :: rest => chainBelow [c] rest

/-- A path of the chain below `pre` is `pre` and the first `j` segments joined, for some `j` from
one up. -/
theorem mem_chainBelow : ∀ {segs pre : List String} {k : String}, k ∈ chainBelow pre segs →
    ∃ j, 0 < j ∧ j ≤ segs.length ∧ k = "/".intercalate (pre ++ segs.take j)
  | [], _, _, h => by cases h
  | seg :: rest, pre, k, h => by
    rcases List.mem_cons.1 h with rfl | h
    · exact ⟨1, by omega, by simp, by simp⟩
    · obtain ⟨j, hj, hjl, rfl⟩ := mem_chainBelow h
      exact ⟨j + 1, by omega, by simpa using hjl, by simp⟩

variable {pre : List String} {seg : String}

/-- The parent of a path of segments is the path of all of them but the last. -/
theorem parent_intercalate (hpre : pre ≠ []) (h : ∀ t ∈ pre ++ [seg], '/' ∉ t.toList) :
    parent ("/".intercalate (pre ++ [seg])) = "/".intercalate pre := by
  obtain ⟨a, as, rfl⟩ := List.exists_cons_of_ne_nil hpre
  rw [parent, splitOn_intercalate_slash (by simp) h, List.dropLast_concat]

/-- A path of segments is its extension by further segments only when there are none. -/
theorem intercalate_snoc_eq_iff {rest : List String}
    (h : ∀ t ∈ pre ++ seg :: rest, '/' ∉ t.toList) :
    "/".intercalate (pre ++ [seg]) = "/".intercalate (pre ++ seg :: rest) ↔ rest = [] := by
  refine ⟨fun heq => ?_, fun hrest => by rw [hrest]⟩
  have hsnoc : ∀ t ∈ pre ++ [seg], '/' ∉ t.toList := fun t ht =>
    h t (by simp only [List.mem_append, List.mem_cons] at ht ⊢; tauto)
  have := MemoryStore.intercalate_slash_inj (by simp) (by simp) hsnoc h heq
  simpa using this

/-- A path of segments differs from its extension exactly when further segments follow. -/
theorem intercalate_snoc_bne {rest : List String} (h : ∀ t ∈ pre ++ seg :: rest, '/' ∉ t.toList) :
    ("/".intercalate (pre ++ [seg]) != "/".intercalate (pre ++ seg :: rest)) = !rest.isEmpty := by
  cases rest with
  | nil => simp
  | cons r rs =>
    have hne := mt (intercalate_snoc_eq_iff h).1 (List.cons_ne_nil r rs)
    simp [hne]

/-- The paths further down are not the path they start below. -/
theorem chainBelow_ne {rest : List String} (hpre : pre ≠ [])
    (h : ∀ t ∈ pre ++ [seg] ++ rest, '/' ∉ t.toList) :
    ∀ k ∈ chainBelow (pre ++ [seg]) rest, k ≠ "/".intercalate (pre ++ [seg]) := by
  intro k hk heq
  obtain ⟨j, hj, hjl, rfl⟩ := mem_chainBelow hk
  have hsub : ∀ t ∈ pre ++ [seg] ++ rest.take j, '/' ∉ t.toList := fun t ht =>
    h t (by
      simp only [List.mem_append] at ht ⊢
      rcases ht with ht | ht
      · exact .inl ht
      · exact .inr (List.mem_of_mem_take ht))
  have hlen := congrArg List.length (MemoryStore.intercalate_slash_inj (by simp)
    (List.append_ne_nil_of_left_ne_nil hpre _) hsub
    (fun t ht => h t (List.mem_append_left _ ht)) heq)
  have : (rest.take j).length = j := List.length_take_of_le hjl
  simp only [List.length_append, List.length_singleton] at hlen
  omega

/-- Every path with a parent has one segment more than its parent. -/
theorem segments_parent {p : String} (hp : parent p ≠ "") :
    (segments (parent p)).length + 1 = (segments p).length := by
  unfold parent at hp ⊢
  cases hdrop : (p.splitOn "/").dropLast with
  | nil => rw [hdrop] at hp; exact absurd rfl hp
  | cons a as =>
    have hsep : ∀ t ∈ a :: as, '/' ∉ t.toList := fun t ht =>
      slash_not_mem_of_mem_splitOn (List.dropLast_subset _ (hdrop ▸ ht))
    have hlen := congrArg List.length hdrop
    have hpos := List.length_pos_of_ne_nil (splitOn_slash_ne_nil p)
    rw [List.length_dropLast] at hlen
    simp only [segments, splitOn_intercalate_slash (List.cons_ne_nil a as) hsep]
    omega

end Path

namespace MemoryStore

/-! ## Creating in memory -/

/-- What a creation of `target` did to reach `st'` from `st`: it bound the nodes `news` one after
another and changed nothing else; their paths are those of `chain` that `st` lacks, in order;
each is a directory but `target`, which has the kind asked for; and each inherits from the node
of its parent path, one that was there or one the creation made. -/
structure Creates (folder : Bool) (target : String) (chain : List String) (st : MemoryStore)
    (news : List (String × MemoryNode)) (st' : MemoryStore) : Prop where
  store : st' = { st with nodes := news.foldl (fun ix e => ix.insert e.1 e.2) st.nodes }
  paths : news.map (·.1) = chain.filter fun k => (st.nodes.get? k).isNone
  kinds : ∀ e ∈ news, e.2.folder = (folder || e.1 != target)
  inherits : ∀ e ∈ news, ∃ pn, st'.nodes.get? (Path.parent e.1) = some pn ∧
    AccessControl.Inherits pn.access e.2.folder e.2.access

section Creates

variable {folder : Bool} {target : String} {chain : List String} {st st' : MemoryStore}
  {news : List (String × MemoryNode)}

/-- With no path to go down, nothing is created. -/
theorem Creates.nil (folder : Bool) (target : String) (st : MemoryStore) :
    Creates folder target [] st [] st :=
  ⟨rfl, rfl, nofun, nofun⟩

/-- With no path to go down, nothing is created. -/
theorem Creates.news_eq_nil (h : Creates folder target [] st news st') : news = [] :=
  List.map_eq_nil_iff.1 h.paths

/-- A path of the chain that is there is gone through. -/
theorem Creates.found {K : String} {n : MemoryNode} (hK : st.nodes.get? K = some n)
    (h : Creates folder target chain st news st') : Creates folder target (K :: chain) st news st' where
  store := h.store
  paths := by rw [h.paths, List.filter_cons_of_neg (by simp [hK])]
  kinds := h.kinds
  inherits := h.inherits

/-- A path of the chain that is missing is bound first, and the rest is created from there. -/
theorem Creates.added {K : String} {nn pn : MemoryNode} (hK : st.nodes.get? K = none)
    (hchain : ∀ k ∈ chain, k ≠ K)
    (h : Creates folder target chain { st with nodes := st.nodes.insert K nn } news st')
    (hkind : nn.folder = (folder || K != target))
    (hparent : st'.nodes.get? (Path.parent K) = some pn)
    (hinherits : AccessControl.Inherits pn.access nn.folder nn.access) :
    Creates folder target (K :: chain) st ((K, nn) :: news) st' where
  store := h.store
  paths := by
    rw [List.map_cons, h.paths, List.filter_cons_of_pos (by simp [hK])]
    exact congrArg _ (List.filter_congr fun k hk => by
      rw [Index.get?_insert_of_ne _ _ (hchain k hk)])
  kinds e he := by
    rcases List.mem_cons.1 he with rfl | he
    · exact hkind
    · exact h.kinds e he
  inherits e he := by
    rcases List.mem_cons.1 he with rfl | he
    · exact ⟨pn, hparent, hinherits⟩
    · exact h.inherits e he

end Creates

/-- Below a parent with the default list `D`, a new node takes `D` as its list, and, as a
directory, as its default list; so do the new nodes below it, as long as every one of them whose
parent was there already finds `D` there. -/
theorem takesDefault_added {D : List AclEntry} (hD : D ≠ []) {st : MemoryStore} {K : String}
    {nn pn : MemoryNode} {news : List (String × MemoryNode)}
    (hpn : st.nodes.get? (Path.parent K) = some pn)
    (hinherits : AccessControl.Inherits pn.access nn.folder nn.access)
    (hfolder : news ≠ [] → nn.folder = true)
    (hpar : ∀ e ∈ (K, nn) :: news, ∀ q, st.nodes.get? (Path.parent e.1) = some q →
      q.access.defaultAcl = D)
    (hrest : (∀ e ∈ news, ∀ q, (st.nodes.insert K nn).get? (Path.parent e.1) = some q →
      q.access.defaultAcl = D) →
      ∀ e ∈ news, e.2.access.acl = D ∧ e.2.access.defaultAcl = if e.2.folder then D else []) :
    ∀ e ∈ (K, nn) :: news,
      e.2.access.acl = D ∧ e.2.access.defaultAcl = if e.2.folder then D else [] := by
  have hnew : nn.access.acl = D ∧ nn.access.defaultAcl = if nn.folder then D else [] := by
    have hpD := hpar (K, nn) List.mem_cons_self pn hpn
    rw [← hpD]
    exact hinherits.of_default (by rw [hpD]; exact hD)
  intro e he
  rcases List.mem_cons.1 he with rfl | he
  · exact hnew
  · refine hrest (fun e' he' q hq => ?_) e he
    by_cases hk : Path.parent e'.1 = K
    · rw [hk, Index.get?_insert_self] at hq
      cases hq
      rw [hnew.2, hfolder (List.ne_nil_of_mem he'), if_pos rfl]
    · rw [Index.get?_insert_of_ne _ _ hk] at hq
      exact hpar e' (List.mem_cons_of_mem _ he') q hq

/-- A creation below a directory that returns has bound exactly the missing paths of the way
down, each inheriting from the node above it; and below parents with the default list `D` every
new node takes `D`. By induction on the segments: a node on the way is gone through, a file only
when it is the file asked for, and a missing one is added before the rest is made below it. -/
theorem createBelow_creates (folder : Bool) :
    ∀ (segs pre : List String) (pn : MemoryNode) (st st' : MemoryStore),
      pre ≠ [] → (∀ t ∈ pre ++ segs, Path.Segment t) →
      st.nodes.get? ("/".intercalate pre) = some pn →
      (createBelow folder ("/".intercalate pre) pn.access segs).run st = .ok () st' →
      ∃ news, Creates folder ("/".intercalate (pre ++ segs)) (Path.chainBelow pre segs) st news st' ∧
        ∀ D, D ≠ [] →
          (∀ e ∈ news, ∀ q, st.nodes.get? (Path.parent e.1) = some q → q.access.defaultAcl = D) →
          ∀ e ∈ news, e.2.access.acl = D ∧ e.2.access.defaultAcl = if e.2.folder then D else []
  | [], pre, pn, st, st', _, _, _, h => by
    rw [createBelow_nil_run] at h
    cases h
    exact ⟨[], Creates.nil folder _ st, fun _ _ _ => nofun⟩
  | seg :: rest, pre, pn, st, st', hpre, hgood, hpn, h => by
    have hkeep : ∀ {k n}, st.nodes.get? k = some n → st'.nodes.get? k = some n :=
      createBelow_keeps_node h
    have hsep : ∀ t ∈ pre ++ seg :: rest, '/' ∉ t.toList := noSep_of_segments hgood
    have hgood' : ∀ t ∈ pre ++ [seg] ++ rest, Path.Segment t := by simpa using hgood
    have hpre' : pre ++ [seg] ≠ [] := List.append_ne_nil_of_left_ne_nil hpre _
    have htarget : "/".intercalate (pre ++ [seg] ++ rest) = "/".intercalate (pre ++ seg :: rest) :=
      by simp
    have hparent : Path.parent ("/".intercalate (pre ++ [seg])) = "/".intercalate pre :=
      Path.parent_intercalate hpre (noSep_of_segments (segments_snoc hgood))
    rw [createBelow_cons_run, join_snoc hpre hgood] at h
    cases hK : st.nodes.get? ("/".intercalate (pre ++ [seg])) with
    | some n =>
      rw [hK] at h
      dsimp only at h
      cases hf : n.folder <;> by_cases hlast : (rest.isEmpty && !folder) = true
      · simp only [hf, hlast, Bool.not_false, ↓reduceIte, EStateM.Result.ok.injEq,
          true_and] at h
        subst h
        have hrest : rest = [] := by simpa using (Bool.and_eq_true_iff.1 hlast).1
        subst hrest
        exact ⟨[], (Creates.nil folder _ st).found hK, fun _ _ _ => nofun⟩
      · simp [hf, hlast] at h
      · simp [hf, hlast] at h
      · simp only [hf, hlast, Bool.not_true, Bool.false_eq_true, ↓reduceIte] at h
        obtain ⟨news, hc, hd⟩ :=
          createBelow_creates folder rest (pre ++ [seg]) n st st' hpre' hgood' hK h
        rw [htarget] at hc
        exact ⟨news, hc.found hK, hd⟩
    | none =>
      rw [hK] at h
      dsimp only at h
      obtain ⟨news, hc, hd⟩ := createBelow_creates folder rest (pre ++ [seg])
        ⟨folder || !rest.isEmpty, AccessControl.initial (some pn.access) (folder || !rest.isEmpty)⟩
        _ st' hpre' hgood' (Index.get?_insert_self ..) h
      rw [htarget] at hc
      have hfolder : news ≠ [] → (folder || !rest.isEmpty) = true := by
        intro hnews
        cases rest with
        | nil => exact absurd hc.news_eq_nil hnews
        | cons r rs => simp
      refine ⟨_, hc.added hK (Path.chainBelow_ne hpre (noSep_of_segments hgood'))
        (by rw [Path.intercalate_snoc_bne hsep]) (by rw [hparent]; exact hkeep hpn)
        (AccessControl.initial_inherits _ _),
        fun D hD hpar => takesDefault_added hD (by rw [hparent]; exact hpn)
          (AccessControl.initial_inherits _ _) hfolder hpar (hd D hD)⟩

/-- A creation of a directory or a file that returns has bound exactly the missing paths of the
way down from the container to the path, in order, each a directory but the path itself, which
has the kind asked for, and each inheriting from the node of its parent path, changing no node
that was there; below parents with the default list `D`, every new node takes `D`. -/
theorem create_creates {st st' : MemoryStore} {p : String} {folder : Bool}
    (h : (create p folder).run st = .ok () st') :
    ∃ news, Creates folder p (Path.chain p) st news st' ∧
      (∀ k n, st.nodes.get? k = some n → st'.nodes.get? k = some n) ∧
      ∀ D, D ≠ [] →
        (∀ e ∈ news, ∀ q, st.nodes.get? (Path.parent e.1) = some q → q.access.defaultAcl = D) →
        ∀ e ∈ news, e.2.access.acl = D ∧ e.2.access.defaultAcl = if e.2.folder then D else [] := by
  have hkeep : ∀ k n, st.nodes.get? k = some n → st'.nodes.get? k = some n := by
    intro k n hn
    have hfix := create_fixes k p folder st
    rw [h] at hfix
    exact hfix.2 n hn
  rw [create_run] at h
  cases hv : Path.validate p with
  | error e => simp [hv] at h
  | ok u =>
    cases hc : Path.isContainer p
    · obtain ⟨c, rest, hsplit⟩ := List.exists_cons_of_ne_nil (splitOn_slash_ne_nil p)
      simp only [hv, hc, Bool.false_eq_true, ↓reduceIte, Path.split_eq hsplit] at h
      cases hroot : st.nodes.get? c with
      | none => simp [hroot] at h
      | some root =>
        rw [hroot] at h
        dsimp only at h
        have hgood : ∀ t ∈ [c] ++ rest, Path.Segment t :=
          fun t ht => Path.segment_of_validate hv (hsplit ▸ ht)
        have hsegs : Path.segments ("/".intercalate rest) = rest :=
          splitOn_intercalate_slash (splitOn_of_not_container hsplit hc)
            fun t ht => (hgood t (List.mem_append_right _ ht)).no_sep
        rw [hsegs] at h
        obtain ⟨news, hcreates, hd⟩ := createBelow_creates folder rest [c] root st st'
          (List.cons_ne_nil _ _) hgood (by rw [String.intercalate_singleton]; exact hroot)
          (by rw [String.intercalate_singleton]; exact h)
        have htarget : "/".intercalate ([c] ++ rest) = p := by
          rw [List.singleton_append, ← hsplit, intercalate_splitOn_slash]
        have hchain : Path.chain p = Path.chainBelow [c] rest := by
          rw [Path.chain, hsplit]
        rw [htarget, ← hchain] at hcreates
        exact ⟨news, hcreates, hkeep, hd⟩
    · simp [hv, hc] at h

end MemoryStore

namespace LocalStore

/-! ## Reading on a local tree -/

variable {st : LocalStore} {p : String} {folder : Bool}

/-- An item without a record, with a parent, is read as a new item below its parent, read one
level less far up. -/
theorem accessWithin_absent (h : st.readRecord p = .absent) (hp : Path.parent p ≠ "")
    (k : Nat) : st.accessWithin (k + 1) p folder = (do
      let above ← st.accessWithin k (Path.parent p) true
      pure (AccessControl.initial (some above) folder)) := by
  rw [accessWithin, h]
  dsimp only
  split
  · next _ _ hfuel => exact absurd hfuel (Nat.succ_ne_zero k)
  · next _ _ hparent _ => exact absurd hparent hp
  · next _ _ k' hfuel _ =>
    obtain rfl : k = k' := Nat.succ.inj hfuel
    rfl

/-- An item without a record, with a parent, is read as a new item below its parent. -/
theorem access_of_absent (h : st.readRecord p = .absent) (hp : Path.parent p ≠ "") :
    st.access p folder = (do
      let above ← st.access (Path.parent p) true
      pure (AccessControl.initial (some above) folder)) := by
  unfold access
  rw [← Path.segments_parent hp, accessWithin_absent h hp]

/-- A container without a record is read as a new container. -/
theorem access_of_absent_top (h : st.readRecord p = .absent) (hp : Path.parent p = "") :
    st.access p folder = .ok (AccessControl.initial none folder) := by
  unfold access
  rw [accessWithin, h]
  dsimp only
  rw [hp]
  split
  · rfl
  · rfl
  · next _ _ _ _ hne => exact absurd rfl hne

end LocalStore

/-- Created items inherit from their parent, POSIX style. In memory, a creation of a directory
(`folder`) or a file that returns binds exactly the paths missing on the way from the container
down to the path, in order, and changes no node that was there; each new node is a directory but
the path itself, and inherits from the node of its parent path, whether that was there or made
by the same creation. Below parents with a default list `D`, every new directory has `D` as both
lists and a new file has `D` as its list and no default list. On a local tree, an item without a
record reads as the same new item below its parent, read the same way; a container without a
record reads as a new container. -/
theorem creation_inherits_from_parent :
    (∀ (st st' : MemoryStore) (p : String) (folder : Bool),
      (MemoryStore.create p folder).run st = .ok () st' →
      ∃ news, MemoryStore.Creates folder p (Path.chain p) st news st' ∧
        (∀ k n, st.nodes.get? k = some n → st'.nodes.get? k = some n) ∧
        ∀ D, D ≠ [] →
          (∀ e ∈ news, ∀ q, st.nodes.get? (Path.parent e.1) = some q →
            q.access.defaultAcl = D) →
          ∀ e ∈ news, e.2.access.acl = D ∧
            e.2.access.defaultAcl = if e.2.folder then D else []) ∧
    (∀ (st : LocalStore) (p : String) (folder : Bool), st.readRecord p = .absent →
      (Path.parent p = "" → st.access p folder = .ok (AccessControl.initial none folder)) ∧
      (Path.parent p ≠ "" → ∀ above, st.access (Path.parent p) true = .ok above →
        ∃ ac, st.access p folder = .ok ac ∧ AccessControl.Inherits above folder ac) ∧
      (Path.parent p ≠ "" → ∀ e, st.access (Path.parent p) true = .error e →
        st.access p folder = .error e)) := by
  refine ⟨fun st st' p folder h => MemoryStore.create_creates h,
    fun st p folder h => ⟨LocalStore.access_of_absent_top h, fun hp above habove => ?_,
      fun hp e he => ?_⟩⟩
  · rw [LocalStore.access_of_absent h hp, habove]
    exact ⟨_, rfl, AccessControl.initial_inherits above folder⟩
  · rw [LocalStore.access_of_absent h hp, he]
    rfl

/-- A file created two levels below a container with a default list: the directory made on the way
and the file both take that list. -/
theorem creation_inherits_from_parent_below_default :
    let st : MemoryStore :=
      { nodes := ({} : Index MemoryNode).insert "c" ⟨true,
          { AccessControl.initial none true with defaultAcl := [⟨.user, "", true, false, true⟩] }⟩ }
    let r := (MemoryStore.create "c/a/f" false).run st
    r = .ok () (endState r) ∧
      ∃ news, MemoryStore.Creates false "c/a/f" (Path.chain "c/a/f") st news (endState r) ∧
        (∀ k n, st.nodes.get? k = some n → (endState r).nodes.get? k = some n) ∧
        ∀ D, D ≠ [] →
          (∀ e ∈ news, ∀ q, st.nodes.get? (Path.parent e.1) = some q →
            q.access.defaultAcl = D) →
          ∀ e ∈ news, e.2.access.acl = D ∧
            e.2.access.defaultAcl = if e.2.folder then D else [] := by
  intro st r
  have hsegs : ∀ t ∈ ["c", "a", "f"], Path.Segment t := by
    intro t ht
    simp only [List.mem_cons, List.mem_nil_iff, or_false] at ht
    rcases ht with rfl | rfl | rfl <;> exact ⟨by decide, by decide, by decide, by decide⟩
  have hv : Path.validate "c/a/f" = .ok () := Path.validate_intercalate (by decide) hsegs
  have hsplit : Path.split "c/a/f" = ("c", "a/f") := by rw [Path.split, splitOn_slash]; cbv
  have hseg : Path.segments "a/f" = ["a", "f"] := by rw [Path.segments, splitOn_slash]; cbv
  have hrun : r = .ok () (endState r) := by
    simp only [r, MemoryStore.create_run, hv, hsplit, hseg]
    cbv
  exact ⟨hrun, creation_inherits_from_parent.1 _ _ "c/a/f" false hrun⟩

end AclReconcile
