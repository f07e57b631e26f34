import AclReconcile.Storage.Basic

/-!
# Stored states keep their summary

A state is checked before a storage keeps it (`AccessControl.prepare`): its summary is computed
from its list, a file may have no default list, and every entry must name a valid kind. Then
principal names are turned into the object ids the table gives for them
(`AccessControl.withIds`). The renaming keeps every entry's kind and permissions, and keeps
whether an entry is named as long as no object id looked up is empty; the summary, which reads
only the last unnamed entries of each kind, survives it then (`AccessControl.withIds_summary`).
The state of a new item (`AccessControl.initial`) passes the same checks when its parent's
default list names only valid kinds.
-/

namespace AclReconcile

namespace AccessControl

/-- Mapping entries that keep their kind, their permissions and whether they are named keeps the
last unnamed entry of every kind, mapped. -/
theorem unnamed_map {f : AclEntry → AclEntry} {es : List AclEntry}
    (hf : ∀ e ∈ es, (f e).type = e.type ∧ ((f e).identity == "") = (e.identity == ""))
    (t : ObjectType) : unnamed (es.map f) t = (unnamed es t).map f := by
  unfold unnamed
  rw [List.filter_map, ← List.getLast?_map]
  congr 2
  refine List.filter_congr fun e he => ?_
  simp only [Function.comp_apply, (hf e he).1, (hf e he).2]

/-- The summary, read off the permissions of the last unnamed entries. -/
theorem summaryOf_eq (es : List AclEntry) : summaryOf es =
    ((unnamed es .user).map AclEntry.permissions).getD "---" ++
      (((unnamed es .mask).or (unnamed es .group)).map AclEntry.permissions).getD "---" ++
      ((unnamed es .other).map AclEntry.permissions).getD "---" ++
      (if (unnamed es .mask).isSome then "+" else "") := by
  unfold summaryOf
  cases unnamed es .user <;> cases unnamed es .mask <;> cases unnamed es .group <;>
    cases unnamed es .other <;> rfl

/-- The last unnamed entry of a kind is an entry of the list. -/
theorem mem_of_unnamed {es : List AclEntry} {t : ObjectType} {e : AclEntry}
    (h : unnamed es t = some e) : e ∈ es :=
  (List.mem_filter.1 (List.mem_of_getLast? h)).1

/-- The summary of entries mapped as above, permissions kept, is the summary of the entries: each
kind's last unnamed entry is mapped, and mapping keeps its permissions. -/
theorem summaryOf_map {f : AclEntry → AclEntry} {es : List AclEntry}
    (hf : ∀ e ∈ es, (f e).type = e.type ∧ ((f e).identity == "") = (e.identity == ""))
    (hperm : ∀ e ∈ es, (f e).permissions = e.permissions) :
    summaryOf (es.map f) = summaryOf es := by
  have hkeep : ∀ o : Option AclEntry, (∀ e, o = some e → e ∈ es) →
      (o.map f).map AclEntry.permissions = o.map AclEntry.permissions := by
    rintro (_ | e) he
    · rfl
    · simp [hperm e (he e rfl)]
  have hperms : ∀ t, (unnamed (es.map f) t).map AclEntry.permissions =
      (unnamed es t).map AclEntry.permissions := fun t => by
    rw [unnamed_map hf]
    exact hkeep _ fun e he => mem_of_unnamed he
  have hgroup : ((unnamed (es.map f) .mask).or (unnamed (es.map f) .group)).map
      AclEntry.permissions = ((unnamed es .mask).or (unnamed es .group)).map
      AclEntry.permissions := by
    rw [unnamed_map hf, unnamed_map hf, ← Option.map_or]
    refine hkeep _ fun e he => ?_
    cases hm : unnamed es .mask with
    | none => rw [hm, Option.none_or] at he; exact mem_of_unnamed he
    | some m => rw [hm, Option.some_or] at he; exact mem_of_unnamed (he ▸ hm)
  rw [summaryOf_eq, summaryOf_eq, hperms .user, hperms .other, hgroup, unnamed_map hf .mask,
    Option.isSome_map]

/-- Every entry of both lists names a valid kind. -/
def ValidKinds (ac : AccessControl) : Prop :=
  ∀ e ∈ ac.acl ++ ac.defaultAcl, e.type.isValid = true

/-- Renaming maps one function over both lists; it keeps every entry's kind and permissions, and
whether an entry is named, so long as no lookup gives the empty name. -/
theorem renameWith_map (lookup : String → Option String) (ac : AccessControl) :
    ∃ f : AclEntry → AclEntry,
      (renameWith lookup ac).acl = ac.acl.map f ∧
      (renameWith lookup ac).defaultAcl = ac.defaultAcl.map f ∧
      (∀ e, (f e).type = e.type ∧ (f e).permissions = e.permissions) ∧
      ((∀ n, lookup n ≠ some "") → ∀ e, ((f e).identity == "") = (e.identity == "")) := by
  refine ⟨_, rfl, rfl, fun e => ?_, fun hlookup e => ?_⟩
  · split
    · exact ⟨rfl, rfl⟩
    · split <;> exact ⟨rfl, rfl⟩
  · split
    · rfl
    · next hnamed =>
      split
      · next n hn =>
        have hne : n ≠ "" := fun h => hlookup _ (h ▸ hn)
        simp [hne, hnamed]
      · rfl

/-- Renaming keeps every entry's kind valid. -/
theorem renameWith_validKinds {lookup : String → Option String} {ac : AccessControl}
    (h : ac.ValidKinds) : (renameWith lookup ac).ValidKinds := by
  obtain ⟨f, hacl, hdef, hkeep, -⟩ := renameWith_map lookup ac
  intro e he
  rw [hacl, hdef, ← List.map_append] at he
  obtain ⟨e', he', rfl⟩ := List.mem_map.1 he
  rw [(hkeep e').1]
  exact h e' he'

/-- Renaming keeps an empty default list empty. -/
theorem renameWith_defaultAcl_nil {lookup : String → Option String} {ac : AccessControl}
    (h : ac.defaultAcl = []) : (renameWith lookup ac).defaultAcl = [] := by
  obtain ⟨f, -, hdef, -⟩ := renameWith_map lookup ac
  rw [hdef, h, List.map_nil]

/-- Renaming keeps the summary when no lookup gives the empty name. -/
theorem renameWith_summary {lookup : String → Option String}
    (hlookup : ∀ n, lookup n ≠ some "") (ac : AccessControl) :
    (renameWith lookup ac).summary = ac.summary := by
  obtain ⟨f, hacl, -, hkeep, hnamed⟩ := renameWith_map lookup ac
  unfold summary
  rw [hacl]
  exact summaryOf_map (fun e _ => ⟨(hkeep e).1, hnamed hlookup e⟩) fun e _ => (hkeep e).2

/-- Object ids looked up for names are ids of the table. -/
theorem withIds_lookup_ne {principals : List (String × String)}
    (hids : "" ∉ principals.map Prod.fst) (n : String) :
    ((principals.find? (·.2 == n)).map (·.1)) ≠ some "" := by
  intro h
  obtain ⟨q, hq, hq1⟩ := Option.map_eq_some_iff.1 h
  exact hids (List.mem_map.2 ⟨q, List.mem_of_find?_eq_some hq, hq1⟩)

/-- Storing object ids for names keeps every entry's kind valid. -/
theorem withIds_validKinds (principals : List (String × String)) {ac : AccessControl}
    (h : ac.ValidKinds) : (ac.withIds principals).ValidKinds := by
  unfold withIds
  split
  · exact h
  · exact renameWith_validKinds h

/-- Storing object ids for names keeps an empty default list empty. -/
theorem withIds_defaultAcl_nil (principals : List (String × String)) {ac : AccessControl}
    (h : ac.defaultAcl = []) : (ac.withIds principals).defaultAcl = [] := by
  unfold withIds
  split
  · exact h
  · exact renameWith_defaultAcl_nil h

/-- Storing object ids for names keeps the stored permissions. -/
@[simp] theorem withIds_permissions (principals : List (String × String)) (ac : AccessControl) :
    (ac.withIds principals).permissions = ac.permissions := by
  unfold withIds
  split <;> rfl

/-- Storing object ids for names keeps the summary when no principal has an empty object id. -/
theorem withIds_summary {principals : List (String × String)}
    (hids : "" ∉ principals.map Prod.fst) (ac : AccessControl) :
    (ac.withIds principals).summary = ac.summary := by
  unfold withIds
  split
  · rfl
  · exact renameWith_summary (withIds_lookup_ne hids) ac

/-- A state that passes the check has no default list on a file, names only valid kinds, and
carries its own summary. -/
theorem prepare_ok {path : String} {ac : Option AccessControl} {isFolder : Bool}
    {prepared : AccessControl} (h : prepare path ac isFolder = .ok prepared) :
    (isFolder = false → prepared.defaultAcl = []) ∧ prepared.ValidKinds ∧
      prepared.permissions = prepared.summary := by
  unfold prepare at h
  split at h
  · cases h
  · next ac =>
    split at h
    · cases h
    · next hfile =>
      split at h
      · cases h
      · next hfind =>
        cases h
        refine ⟨fun hf => ?_, fun e he => ?_, rfl⟩
        · simpa [hf] using hfile
        · have := List.find?_eq_none.1 hfind e he
          simpa using this

/-- A new item's state names only valid kinds when its parent's default list does, has no
default list when it is a file, and carries its own summary. -/
theorem initial_ok (parent : Option AccessControl)
    (hparent : ∀ p, parent = some p → ∀ e ∈ p.defaultAcl, e.type.isValid = true)
    (isFolder : Bool) :
    (isFolder = false → (initial parent isFolder).defaultAcl = []) ∧
      (initial parent isFolder).ValidKinds ∧
      (initial parent isFolder).permissions = (initial parent isFolder).summary := by
  refine ⟨fun hf => ?_, fun e he => ?_, rfl⟩
  · subst hf
    unfold initial
    cases parent with
    | none => rfl
    | some p =>
      dsimp only
      split <;> rfl
  · unfold initial at he
    cases parent with
    | none =>
      simp only [List.append_nil, List.mem_cons, List.mem_nil_iff, or_false] at he
      rcases he with rfl | rfl | rfl <;> decide
    | some p =>
      dsimp only at he
      split at he
      · simp only [List.append_nil, List.mem_cons, List.mem_nil_iff, or_false] at he
        rcases he with rfl | rfl | rfl <;> decide
      · have hp := hparent p rfl
        simp only [replace_acl, replace_defaultAcl, List.mem_append] at he
        rcases he with he | he
        · exact hp e he
        · split at he
          · exact hp e he
          · cases he

end AccessControl

end AclReconcile
