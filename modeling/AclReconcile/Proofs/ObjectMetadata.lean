import AclReconcile.Proofs.Segments
import AclReconcile.Proofs.StoredLists
import AclReconcile.Proofs.Principals
import AclReconcile.ObjectStore.Metadata

/-!
# The state of an item survives the renaming of its metadata

On an object store, the state of an item is five metadata entries of its object
(`ObjectStore.encodeMetadata`). Stores hand metadata names back changed: in another case, or
with the protocol's prefix in front. Reading therefore compares names in their normal form
(`ObjectStore.normalName`): in lower case, with the prefix cut once.

A name renamed by changing its case or by adding the prefix keeps its normal form, as long as its
lower case does not start with the prefix already (`ObjectStore.normalName_renamed`), which holds
of the five names, whose normal forms are besides distinct (`ObjectStore.stateNames_normal`). So
in metadata renamed so, in any order, each name still finds the value written under it
(`ObjectStore.lookup_renamed`), and the state read back is the state written
(`ObjectStore.decodeMetadata_renamed`), the two lists being read back from their stored text
(`AclList.decode_encode`). Metadata with no name whose normal form is that of the entry list was
written by another client, and reads as the state of a new item
(`ObjectStore.decodeMetadata_foreign`). Both together are `ObjectStore.metadata_survives_renaming`.
-/

namespace AclReconcile

/-- Dropping the first text of an append leaves the second. -/
theorem String.toString_drop_append (p n : String) : ((p ++ n).drop p.length).toString = n := by
  apply String.ext
  simp [String.length, String.toList_copy_drop]

namespace ObjectStore

/-! ## Normal forms of names -/

/-- The metadata prefix is already in lower case. -/
theorem lower_metaPrefix : Text.lower metaPrefix = "x-amz-meta-" := by decide

/-- The normal form of a name depends on its lower case only. -/
theorem normalName_congr {a b : String} (h : Text.lower a = Text.lower b) :
    normalName a = normalName b := by
  dsimp only [normalName]
  rw [h]

/-- A name whose lower case does not start with the prefix is normal in lower case. -/
theorem normalName_eq_lower {k : String} (h : ¬ "x-amz-meta-".toList <+: (Text.lower k).toList) :
    normalName k = Text.lower k := by
  have hs : (Text.lower k).startsWith "x-amz-meta-" = false := String.startsWith_eq_false_iff.2 h
  dsimp only [normalName]
  rw [lower_metaPrefix, hs, if_neg Bool.false_ne_true]

/-- A name whose lower case is the prefix followed by `n` has the normal form `n`. -/
theorem normalName_of_prefixed {k n : String} (h : Text.lower k = "x-amz-meta-" ++ n) :
    normalName k = n := by
  have hs : (Text.lower k).startsWith "x-amz-meta-" = true := by
    rw [h, String.startsWith_string_iff, String.toList_append]
    exact List.prefix_append _ _
  dsimp only [normalName]
  rw [lower_metaPrefix, hs, if_pos rfl, h]
  exact String.toString_drop_append _ _

/-- Changing the case of a name or putting the prefix before its lower case keeps its normal form,
when its lower case does not start with the prefix already. -/
theorem normalName_renamed {k k' : String} (hk : ¬ "x-amz-meta-".toList <+: (Text.lower k).toList)
    (h : Text.lower k' = Text.lower k ∨ Text.lower k' = "x-amz-meta-" ++ Text.lower k) :
    normalName k' = normalName k := by
  rcases h with h | h
  · exact normalName_congr h
  · rw [normalName_of_prefixed h, normalName_eq_lower hk]

/-- The names of the five entries of a state, in the order they are written. -/
def stateNames : List String := [ownerName, groupName, permissionsName, aclName, defaultAclName]

/-- No name of a state starts with the prefix in lower case, and their normal forms are the
distinct lower-case names. -/
theorem stateNames_normal :
    (∀ k ∈ stateNames, ¬ "x-amz-meta-".toList <+: (Text.lower k).toList) ∧
      (stateNames.map normalName).Nodup := by
  have hplain : ∀ k ∈ stateNames, ¬ "x-amz-meta-".toList <+: (Text.lower k).toList := by decide
  have hlower : stateNames.map normalName = stateNames.map Text.lower :=
    List.map_congr_left fun k hk => normalName_eq_lower (hplain k hk)
  refine ⟨hplain, ?_⟩
  rw [hlower]
  decide

/-! ## Looking names up -/

/-- In metadata whose names have distinct normal forms, a name finds the value of the entry with
its normal form. -/
theorem lookup_eq_some {md : List (String × String)}
    (hn : (md.map fun p => normalName p.1).Nodup) {k v name : String} (hmem : (k, v) ∈ md)
    (hk : normalName k = normalName name) : lookup md name = some v := by
  unfold lookup
  rw [(AccessControl.find?_key_eq_some_iff hn).2 ⟨hmem, hk⟩]
  rfl

/-- A name finds nothing in metadata where no name has its normal form. -/
theorem lookup_eq_none {md : List (String × String)} {name : String}
    (h : ∀ k ∈ md.map Prod.fst, normalName k ≠ normalName name) : lookup md name = none := by
  unfold lookup
  rw [Option.map_eq_none_iff, List.find?_eq_none]
  rintro ⟨k, v⟩ hmem
  simpa using h k (List.mem_map_of_mem hmem)

/-- The metadata written for a state whose entries name valid kinds. -/
theorem encodeMetadata_of_valid {ac : AccessControl} (h : ac.ValidKinds) :
    ∃ acl defaultAcl, AclList.encode ac.acl = .ok acl ∧
      AclList.encode ac.defaultAcl = .ok defaultAcl ∧
      encodeMetadata ac = .ok [(ownerName, ac.owner), (groupName, ac.group),
        (permissionsName, ac.permissions), (aclName, acl), (defaultAclName, defaultAcl)] := by
  obtain ⟨acl, hacl⟩ := AclList.encode_ok_iff.2 fun e he => h e (List.mem_append_left _ he)
  obtain ⟨dacl, hdacl⟩ := AclList.encode_ok_iff.2 fun e he => h e (List.mem_append_right _ he)
  exact ⟨acl, dacl, hacl, hdacl, by simp only [encodeMetadata, hacl, hdacl]; rfl⟩

/-- Metadata whose names have distinct normal forms, none written with the prefix, still gives
each name the value written under it once its names are renamed by a change of case or the prefix
and its entries put in any order: a renamed name has the normal form of the name it comes from. -/
theorem lookup_renamed {m md : List (String × String)}
    (hplain : ∀ k ∈ m.map Prod.fst, ¬ "x-amz-meta-".toList <+: (Text.lower k).toList)
    (hnodup : ((m.map Prod.fst).map normalName).Nodup) {rename : String → String}
    (hrename : ∀ k ∈ m.map Prod.fst,
      Text.lower (rename k) = Text.lower k ∨ Text.lower (rename k) = "x-amz-meta-" ++ Text.lower k)
    (hperm : md.Perm (m.map (Prod.map rename id))) {k v : String} (hmem : (k, v) ∈ m) :
    lookup md k = some v := by
  have hnormal : ∀ k ∈ m.map Prod.fst, normalName (rename k) = normalName k := fun k hk =>
    normalName_renamed (hplain k hk) (hrename k hk)
  have hrenamed : (m.map (Prod.map rename id)).map (fun p => normalName p.1) =
      (m.map Prod.fst).map normalName := by
    rw [List.map_map, List.map_map]
    refine List.map_congr_left fun p hp => ?_
    simp only [Function.comp_apply, Prod.map_fst]
    exact hnormal p.1 (List.mem_map_of_mem hp)
  have hforms : (md.map fun p => normalName p.1).Nodup := by
    rw [(hperm.map _).nodup_iff, hrenamed]
    exact hnodup
  have hk : k ∈ m.map Prod.fst := List.mem_map_of_mem (f := Prod.fst) hmem
  have hmd : (rename k, v) ∈ md :=
    hperm.symm.subset (List.mem_map_of_mem (f := Prod.map rename id) hmem)
  exact lookup_eq_some hforms hmd (hnormal k hk)

/-! ## The table built by a walk

Reading builds a table from the normal forms of the names to their values by walking the
metadata, in an order that is not fixed: where two names share a normal form, either value may
end up under it. A table that such a walk may build gives a form the value of some entry whose
name has that form, and nothing to a form no name has (`ObjectStore.ValueChoice`). The first
entry of each form is one of them (`ObjectStore.valueChoice_firstValues`), which is how a name is
looked up (`ObjectStore.lookup_eq_firstValues`); any entry's value is chosen for its form by one
of them (`ObjectStore.valueChoice_of_mem`), so with a shared form the walk decides; and when the
forms are distinct every one of them looks a name up as `ObjectStore.lookup` does
(`ObjectStore.ValueChoice.lookup_eq`), so the state read back does not depend on the walk.
-/

/-- The value of the first entry whose name has the normal form `n`. -/
def firstValues (md : List (String × String)) (n : String) : Option String :=
  (md.find? fun p => normalName p.1 == n).map (·.2)

/-- `tbl` is a table from normal forms to values that a walk of the metadata `md` may build: a
form gets the value of some entry whose name has it, and nothing when no name has it. -/
structure ValueChoice (md : List (String × String)) (tbl : String → Option String) : Prop where
  some_mem : ∀ n v, tbl n = some v → ∃ k, (k, v) ∈ md ∧ normalName k = n
  none_iff : ∀ n, tbl n = none ↔ ∀ k ∈ md.map Prod.fst, normalName k ≠ n

/-- Looking a name up reads the first entry of its normal form. -/
theorem lookup_eq_firstValues (md : List (String × String)) (name : String) :
    lookup md name = firstValues md (normalName name) := rfl

/-- The first entry of each normal form is one choice. -/
theorem valueChoice_firstValues (md : List (String × String)) : ValueChoice md (firstValues md) where
  some_mem n v h := by
    obtain ⟨q, hq, rfl⟩ := Option.map_eq_some_iff.1 h
    exact ⟨q.1, List.mem_of_find?_eq_some hq, by simpa using List.find?_some hq⟩
  none_iff n := by
    simp only [firstValues, Option.map_eq_none_iff, List.find?_eq_none, beq_iff_eq, List.mem_map]
    constructor
    · rintro h k ⟨q, hq, rfl⟩
      exact h q hq
    · exact fun h q hq => h q.1 ⟨q, hq, rfl⟩

/-- Every entry's value is chosen for the normal form of its name by some walk. -/
theorem valueChoice_of_mem {md : List (String × String)} {k v : String} (hmem : (k, v) ∈ md) :
    ∃ tbl, ValueChoice md tbl ∧ tbl (normalName k) = some v := by
  refine ⟨Function.update (firstValues md) (normalName k) (some v), ⟨fun n w hw => ?_,
    fun n => ?_⟩, by simp⟩
  · by_cases hn : n = normalName k
    · subst hn
      obtain rfl : v = w := by simpa using hw
      exact ⟨k, hmem, rfl⟩
    · rw [Function.update_of_ne hn] at hw
      exact (valueChoice_firstValues md).some_mem n w hw
  · by_cases hn : n = normalName k
    · subst hn
      simp only [Function.update_self, reduceCtorEq, false_iff, not_forall, not_not]
      exact ⟨k, List.mem_map_of_mem (f := Prod.fst) hmem, rfl⟩
    · rw [Function.update_of_ne hn]
      exact (valueChoice_firstValues md).none_iff n

/-- When the names have distinct normal forms, every table a walk may build looks a name up as
`lookup` does. -/
theorem ValueChoice.lookup_eq {md : List (String × String)} {tbl : String → Option String}
    (hn : (md.map fun p => normalName p.1).Nodup) (h : ValueChoice md tbl) (name : String) :
    tbl (normalName name) = lookup md name := by
  cases ht : tbl (normalName name) with
  | none => exact (lookup_eq_none ((h.none_iff _).1 ht)).symm
  | some v =>
    obtain ⟨k, hmem, hk⟩ := h.some_mem _ v ht
    exact (lookup_eq_some hn hmem hk).symm

/-! ## Reading a state back -/

/-- The state written for a state whose entries name valid kinds is read back from its metadata,
renamed and reordered as a store may, for either kind of item: the names written are the state's
names, and each finds the value written under it. -/
theorem decodeMetadata_renamed {ac : AccessControl} (h : ac.ValidKinds) :
    ∃ m, encodeMetadata ac = .ok m ∧ ∀ (folder : Bool) (rename : String → String),
      (∀ k ∈ m.map Prod.fst, Text.lower (rename k) = Text.lower k ∨
        Text.lower (rename k) = "x-amz-meta-" ++ Text.lower k) →
      ∀ md : List (String × String), md.Perm (m.map (Prod.map rename id)) →
        decodeMetadata md folder = .ok ac := by
  obtain ⟨acl, dacl, hacl, hdacl, hm⟩ := encodeMetadata_of_valid h
  refine ⟨_, hm, fun folder rename hrename md hperm => ?_⟩
  have hkeys : [(ownerName, ac.owner), (groupName, ac.group), (permissionsName, ac.permissions),
      (aclName, acl), (defaultAclName, dacl)].map Prod.fst = stateNames := rfl
  have hplain := hkeys ▸ stateNames_normal.1
  have hnodup := hkeys ▸ stateNames_normal.2
  have hfind := fun {k v : String} => lookup_renamed hplain hnodup hrename hperm (k := k) (v := v)
  have howner : lookup md ownerName = some ac.owner := hfind (by simp)
  have hgroup : lookup md groupName = some ac.group := hfind (by simp)
  have hperms : lookup md permissionsName = some ac.permissions := hfind (by simp)
  have hacl' : lookup md aclName = some acl := hfind (by simp)
  have hdacl' : lookup md defaultAclName = some dacl := hfind (by simp)
  simp only [decodeMetadata, hacl', AclList.decode_encode hacl, hdacl', Option.getD_some,
    AclList.decode_encode hdacl, howner, hgroup, hperms, bind, Except.bind, pure, Except.pure]

/-- Metadata with no name whose normal form is that of the entry list reads as the state of a new
item. -/
theorem decodeMetadata_foreign {md : List (String × String)} {folder : Bool}
    (h : ∀ k ∈ md.map Prod.fst, normalName k ≠ "aclsync-acl") :
    decodeMetadata md folder = .ok (AccessControl.initial none folder) := by
  have hacl : normalName aclName = "aclsync-acl" := by
    rw [normalName_eq_lower (by decide)]
    decide
  have hnone : lookup md aclName = none := lookup_eq_none fun k hk => by
    rw [hacl]
    exact h k hk
  simp only [decodeMetadata, hnone]
  rfl

/-- The state of an item survives what stores do to its metadata: the metadata written for a
state whose entries name valid kinds, its names put in another case or behind the prefix and its
entries in any order, reads back as that state for either kind of item; and metadata in which no
name has the normal form of the entry list reads as the state of a new item. -/
theorem metadata_survives_renaming :
    (∀ ac : AccessControl, ac.ValidKinds →
      ∃ m, encodeMetadata ac = .ok m ∧ ∀ (folder : Bool) (rename : String → String),
        (∀ k ∈ m.map Prod.fst, Text.lower (rename k) = Text.lower k ∨
          Text.lower (rename k) = "x-amz-meta-" ++ Text.lower k) →
        ∀ md : List (String × String), md.Perm (m.map (Prod.map rename id)) →
          decodeMetadata md folder = .ok ac) ∧
    (∀ (md : List (String × String)) (folder : Bool),
      (∀ k ∈ md.map Prod.fst, normalName k ≠ "aclsync-acl") →
        decodeMetadata md folder = .ok (AccessControl.initial none folder)) :=
  ⟨fun _ h => decodeMetadata_renamed h, fun _ _ h => decodeMetadata_foreign h⟩

/-- Names in upper case, the list's name behind the prefix, entries in reverse order: the state
comes back; and an object of another client, whose names hold no state, reads as a new item. -/
theorem metadata_survives_renaming_in_upper_case :
    let ac : AccessControl := ⟨"alice", "staff", "rwxr-x---",
      [⟨.user, "", true, true, true⟩, ⟨.group, "ops:eng,x", true, false, true⟩],
      [⟨.other, "", true, false, false⟩]⟩
    let rename : String → String := fun k =>
      if k = aclName then "X-Amz-Meta-" ++ k else Text.upper k
    let foreign : List (String × String) :=
      [("Content-Type", "text/plain"), ("X-Amz-Meta-Owner", "bob")]
    ac.ValidKinds ∧
      (∃ m, encodeMetadata ac = .ok m ∧
        (∀ k ∈ m.map Prod.fst, Text.lower (rename k) = Text.lower k ∨
          Text.lower (rename k) = "x-amz-meta-" ++ Text.lower k) ∧
        decodeMetadata (m.map (Prod.map rename id)).reverse true = .ok ac) ∧
      (∀ k ∈ foreign.map Prod.fst, normalName k ≠ "aclsync-acl") ∧
      decodeMetadata foreign false = .ok (AccessControl.initial none false) := by
  intro ac rename foreign
  have hvalid : ac.ValidKinds := by
    unfold AccessControl.ValidKinds
    decide
  obtain ⟨m, hm, hread⟩ := metadata_survives_renaming.1 ac hvalid
  have hkeys : m.map Prod.fst = stateNames := by
    obtain ⟨acl, dacl, -, -, hm'⟩ := encodeMetadata_of_valid hvalid
    rw [hm] at hm'
    cases hm'
    rfl
  have hrename : ∀ k ∈ m.map Prod.fst, Text.lower (rename k) = Text.lower k ∨
      Text.lower (rename k) = "x-amz-meta-" ++ Text.lower k := by
    rw [hkeys]
    decide
  have hforeign : ∀ k ∈ foreign.map Prod.fst, normalName k ≠ "aclsync-acl" := by
    have hct : normalName "Content-Type" = "content-type" := by
      rw [normalName_eq_lower (by decide)]
      decide
    have howner : normalName "X-Amz-Meta-Owner" = "owner" :=
      normalName_of_prefixed (by decide)
    simp only [foreign, List.map_cons, List.map_nil, List.mem_cons, List.not_mem_nil, or_false,
      forall_eq_or_imp, forall_eq, hct, howner]
    decide
  exact ⟨hvalid, ⟨m, hm, hrename, hread true rename hrename _ (List.reverse_perm _)⟩, hforeign,
    metadata_survives_renaming.2 foreign false hforeign⟩

end ObjectStore

end AclReconcile
