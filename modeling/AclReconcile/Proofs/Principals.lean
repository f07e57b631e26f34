import AclReconcile.Storage.Basic
import Mathlib

/-!
# Principal names and object ids

A storage keeps object ids and shows principal names to a caller who asks for them: reading
renames through the table from ids to names (`AccessControl.withNames`), writing renames back
through the same table read the other way (`AccessControl.withIds`). Both rename the owner and the
group whatever they are, and the identity of every named entry; an unnamed entry, whose identity
is empty, is left as it is (`AccessControl.renameEntry_unnamed`).

For a table that names each principal once, each renaming undoes the other on the texts it
meets (`AccessControl.renameText_nameOf_idOf`, `AccessControl.renameText_idOf_nameOf`), as long
as a text that one side knows the other side knows too. A named entry is one exception. A
principal whose name or id is empty turns a named entry into an unnamed one, which the way back
then leaves alone (`AccessControl.withIds_withNames_unnames`). So the round trips hold
(`AccessControl.principal_round_trips`) when, besides, no named entry's identity is renamed to
the empty text.
-/

namespace AclReconcile

namespace AccessControl

/-! ## The two lookups of a table -/

section Lookup

variable {P : List (String × String)}

/-- The principal name of an object id, in a table from ids to names. -/
def nameOf (P : List (String × String)) (id : String) : Option String :=
  (P.find? (·.1 == id)).map (·.2)

/-- The object id of a principal name, in a table from ids to names. -/
def idOf (P : List (String × String)) (name : String) : Option String :=
  (P.find? (·.2 == name)).map (·.1)

/-- In a list whose keys are distinct, the element found by its key is the one with that key. -/
theorem find?_key_eq_some_iff {key : String × String → String} (hn : (P.map key).Nodup)
    {k : String} {q : String × String} : P.find? (key · == k) = some q ↔ q ∈ P ∧ key q = k := by
  constructor
  · intro h
    exact ⟨List.mem_of_find?_eq_some h, by simpa using List.find?_some h⟩
  · rintro ⟨hq, rfl⟩
    obtain ⟨q', hq'⟩ : ∃ q', P.find? (key · == key q) = some q' := by
      cases h : P.find? (key · == key q) with
      | some q' => exact ⟨q', rfl⟩
      | none => exact absurd (List.find?_eq_none.1 h q hq) (by simp)
    have hk : key q' = key q := by simpa using List.find?_some hq'
    rw [hq', List.inj_on_of_nodup_map hn (List.mem_of_find?_eq_some hq') hq hk]

/-- With distinct ids, an id looks up exactly the name it is paired with. -/
theorem nameOf_eq_some_iff (hids : (P.map (·.1)).Nodup) {id name : String} :
    nameOf P id = some name ↔ (id, name) ∈ P := by
  simp only [nameOf, Option.map_eq_some_iff]
  constructor
  · rintro ⟨q, hq, rfl⟩
    obtain ⟨hmem, rfl⟩ := (find?_key_eq_some_iff hids).1 hq
    exact hmem
  · intro h
    exact ⟨_, (find?_key_eq_some_iff hids).2 ⟨h, rfl⟩, rfl⟩

/-- Looking up an id by its name is looking up a name in the table read the other way round. -/
theorem idOf_eq_nameOf_swap (P : List (String × String)) : idOf P = nameOf (P.map Prod.swap) := by
  funext name
  simp [idOf, nameOf, List.find?_map, Function.comp_def, Option.map_map]

/-- Looking up a name by its id is looking up an id in the table read the other way round. -/
theorem nameOf_eq_idOf_swap (P : List (String × String)) : nameOf P = idOf (P.map Prod.swap) := by
  rw [idOf_eq_nameOf_swap, List.map_map, Prod.swap_swap_eq, List.map_id]

/-- The first column of the table read the other way round is its second. -/
theorem map_fst_swap (P : List (String × String)) : (P.map Prod.swap).map (·.1) = P.map (·.2) := by
  simp [Function.comp_def]

/-- The second column of the table read the other way round is its first. -/
theorem map_snd_swap (P : List (String × String)) : (P.map Prod.swap).map (·.2) = P.map (·.1) := by
  simp [Function.comp_def]

/-- With distinct names, a name looks up exactly the id it is paired with. -/
theorem idOf_eq_some_iff (hnames : (P.map (·.2)).Nodup) {id name : String} :
    idOf P name = some id ↔ (id, name) ∈ P := by
  rw [idOf_eq_nameOf_swap, nameOf_eq_some_iff (by rwa [map_fst_swap])]
  simp

/-- An id looks up no name exactly when it is no id of the table. -/
theorem nameOf_eq_none_iff {id : String} : nameOf P id = none ↔ id ∉ P.map (·.1) := by
  simp only [nameOf, Option.map_eq_none_iff, List.find?_eq_none, beq_iff_eq, List.mem_map]
  exact ⟨fun h ⟨q, hq, hid⟩ => h q hq hid, fun h q hq hid => h ⟨q, hq, hid⟩⟩

/-- A name looks up no id exactly when it is no name of the table. -/
theorem idOf_eq_none_iff {name : String} : idOf P name = none ↔ name ∉ P.map (·.2) := by
  rw [idOf_eq_nameOf_swap, nameOf_eq_none_iff, map_fst_swap]

end Lookup

/-! ## Renaming, field by field -/

/-- Two states with the same fields are the same. -/
@[ext] theorem ext {a b : AccessControl} (howner : a.owner = b.owner) (hgroup : a.group = b.group)
    (hpermissions : a.permissions = b.permissions) (hacl : a.acl = b.acl)
    (hdefault : a.defaultAcl = b.defaultAcl) : a = b := by
  cases a
  cases b
  simp_all

section Rename

variable {lookup : String → Option String}

/-- A text renamed through `lookup`, kept where `lookup` does not know it. -/
def renameText (lookup : String → Option String) (x : String) : String := (lookup x).getD x

/-- An entry renamed through `lookup`; an unnamed entry is kept. -/
def renameEntry (lookup : String → Option String) (e : AclEntry) : AclEntry :=
  if e.identity = "" then e else { e with identity := renameText lookup e.identity }

/-- An unnamed entry is kept by every renaming. -/
theorem renameEntry_unnamed {e : AclEntry} (h : e.identity = "") : renameEntry lookup e = e :=
  if_pos h

/-- The renaming of one entry inside `renameWith` is `renameEntry`. -/
theorem renameWith_entry (e : AclEntry) :
    (if e.identity == "" then e else
      match lookup e.identity with
      | some n => { e with identity := n }
      | none => e) = renameEntry lookup e := by
  unfold renameEntry renameText
  by_cases h : e.identity = ""
  · simp [h]
  · cases lookup e.identity <;> simp [h]

@[simp] theorem renameWith_acl (ac : AccessControl) :
    (renameWith lookup ac).acl = ac.acl.map (renameEntry lookup) :=
  List.map_congr_left fun e _ => renameWith_entry e

@[simp] theorem renameWith_defaultAcl (ac : AccessControl) :
    (renameWith lookup ac).defaultAcl = ac.defaultAcl.map (renameEntry lookup) :=
  List.map_congr_left fun e _ => renameWith_entry e

@[simp] theorem renameWith_owner (ac : AccessControl) :
    (renameWith lookup ac).owner = renameText lookup ac.owner := rfl

@[simp] theorem renameWith_group (ac : AccessControl) :
    (renameWith lookup ac).group = renameText lookup ac.group := rfl

@[simp] theorem renameWith_permissions (ac : AccessControl) :
    (renameWith lookup ac).permissions = ac.permissions := rfl

/-- Showing identities as names is renaming through the lookup of names by id. -/
theorem withNames_eq (P : List (String × String)) (ac : AccessControl) :
    ac.withNames P = renameWith (nameOf P) ac := rfl

/-- An empty table knows no name, so storing ids for names is renaming through it too. -/
theorem withIds_eq (P : List (String × String)) (ac : AccessControl) :
    ac.withIds P = renameWith (idOf P) ac := by
  unfold withIds
  split
  · next hP =>
    rw [List.isEmpty_iff.1 hP]
    have hentry : renameEntry (idOf []) = id := funext fun e => by
      by_cases h : e.identity = "" <;> simp [renameEntry, renameText, idOf, h]
    refine ext ?_ ?_ rfl ?_ ?_ <;> simp [hentry, renameText, idOf]
  · rfl

/-- Renaming twice gives the state back when the second renaming undoes the first on the owner,
the group and every named identity, and the first never turns a named identity empty: an unnamed
entry is never touched, and a named one stays named on the way. -/
theorem renameWith_renameWith {f g : String → Option String} {ac : AccessControl}
    (howner : renameText g (renameText f ac.owner) = ac.owner)
    (hgroup : renameText g (renameText f ac.group) = ac.group)
    (hnamed : ∀ e ∈ ac.acl ++ ac.defaultAcl, e.identity ≠ "" →
      renameText f e.identity ≠ "" ∧ renameText g (renameText f e.identity) = e.identity) :
    renameWith g (renameWith f ac) = ac := by
  have hentry : ∀ e ∈ ac.acl ++ ac.defaultAcl, renameEntry g (renameEntry f e) = e := by
    intro e he
    by_cases h : e.identity = ""
    · rw [renameEntry_unnamed h, renameEntry_unnamed h]
    · obtain ⟨hne, hback⟩ := hnamed e he h
      simp [renameEntry, h, hne, hback]
  refine ext howner hgroup rfl ?_ ?_
  · rw [renameWith_acl, renameWith_acl, List.map_map]
    exact (List.map_congr_left fun e he => hentry e (List.mem_append_left _ he)).trans
      (List.map_id _)
  · rw [renameWith_defaultAcl, renameWith_defaultAcl, List.map_map]
    exact (List.map_congr_left fun e he => hentry e (List.mem_append_right _ he)).trans
      (List.map_id _)

end Rename

/-! ## The two lookups undo each other -/

section RoundTrip

variable {P : List (String × String)}

/-- A text read as a name and written back as an id comes back, when it is no name without being
an id too: an id is the id of the name it is shown as, and a text that is no id is no name. -/
theorem renameText_nameOf_idOf (hids : (P.map (·.1)).Nodup) (hnames : (P.map (·.2)).Nodup)
    {x : String} (hx : x ∈ P.map (·.2) → x ∈ P.map (·.1)) :
    renameText (idOf P) (renameText (nameOf P) x) = x := by
  cases hname : nameOf P x with
  | some n =>
    have hback : idOf P n = some x := (idOf_eq_some_iff hnames).2 ((nameOf_eq_some_iff hids).1 hname)
    simp [renameText, hname, hback]
  | none =>
    have hno : idOf P x = none := idOf_eq_none_iff.2 fun hn => nameOf_eq_none_iff.1 hname (hx hn)
    simp [renameText, hname, hno]

/-- A text written as an id and read back as a name comes back, when it is no id without being a
name too: in the table read the other way round, this is reading as a name and writing back. -/
theorem renameText_idOf_nameOf (hids : (P.map (·.1)).Nodup) (hnames : (P.map (·.2)).Nodup)
    {x : String} (hx : x ∈ P.map (·.1) → x ∈ P.map (·.2)) :
    renameText (nameOf P) (renameText (idOf P) x) = x := by
  rw [nameOf_eq_idOf_swap, idOf_eq_nameOf_swap P]
  exact renameText_nameOf_idOf (by rwa [map_fst_swap]) (by rwa [map_snd_swap])
    (by rwa [map_fst_swap, map_snd_swap])

/-- A named identity is shown as a name that is not empty, unless its principal's name is. -/
theorem renameText_nameOf_ne_empty (hids : (P.map (·.1)).Nodup) {x : String} (hx : x ≠ "")
    (hempty : (x, "") ∉ P) : renameText (nameOf P) x ≠ "" := by
  cases hname : nameOf P x with
  | some n =>
    intro h
    have hn : n = "" := by simpa [renameText, hname] using h
    exact hempty ((nameOf_eq_some_iff hids).1 (hn ▸ hname))
  | none => simpa [renameText, hname] using hx

/-- A named identity is stored as an id that is not empty, unless its principal's id is. -/
theorem renameText_idOf_ne_empty (hnames : (P.map (·.2)).Nodup) {x : String} (hx : x ≠ "")
    (hempty : ("", x) ∉ P) : renameText (idOf P) x ≠ "" := by
  rw [idOf_eq_nameOf_swap]
  exact renameText_nameOf_ne_empty (by rwa [map_fst_swap]) hx (by simpa using hempty)

/-- A principal with an empty name turns an entry named by its id into an unnamed entry, which
storing ids for names then leaves unnamed. -/
theorem withIds_withNames_unnames :
    let P := [("x", "")]
    let ac : AccessControl := ⟨"o", "g", "", [⟨.user, "x", true, false, false⟩], []⟩
    (P.map (·.1)).Nodup ∧ (P.map (·.2)).Nodup ∧
      (∀ e ∈ ac.acl ++ ac.defaultAcl, e.identity ≠ "" →
        e.identity ∈ P.map (·.2) → e.identity ∈ P.map (·.1)) ∧
      (ac.owner ∈ P.map (·.2) → ac.owner ∈ P.map (·.1)) ∧
      (ac.group ∈ P.map (·.2) → ac.group ∈ P.map (·.1)) ∧
      ((ac.withNames P).withIds P).acl = [⟨.user, "", true, false, false⟩] ∧
      (ac.withNames P).withIds P ≠ ac := by
  intro P ac
  have hacl : ((ac.withNames P).withIds P).acl = [⟨.user, "", true, false, false⟩] := by cbv
  refine ⟨by simp [P], by simp [P], by simp [P, ac], by simp [P, ac], by simp [P, ac], hacl,
    fun h => ?_⟩
  rw [h] at hacl
  simp [ac] at hacl

/-- Reading with principal names and writing back, or writing names and reading them back, gives
the state again, for a table that names each principal once. Reading then writing needs every
named identity, the owner and the group to be an object id if they are a name, and no named
identity to be the id of a principal with an empty name; writing then reading needs them to be a
name if they are an object id, and no named identity to be the name of a principal with an empty
id. Either way an unnamed entry is never rewritten. -/
theorem principal_round_trips (hids : (P.map (·.1)).Nodup) (hnames : (P.map (·.2)).Nodup)
    (ac : AccessControl) :
    ((∀ e ∈ ac.acl ++ ac.defaultAcl, e.identity ≠ "" →
        (e.identity ∈ P.map (·.2) → e.identity ∈ P.map (·.1)) ∧ (e.identity, "") ∉ P) →
      (ac.owner ∈ P.map (·.2) → ac.owner ∈ P.map (·.1)) →
      (ac.group ∈ P.map (·.2) → ac.group ∈ P.map (·.1)) →
      (ac.withNames P).withIds P = ac) ∧
    ((∀ e ∈ ac.acl ++ ac.defaultAcl, e.identity ≠ "" →
        (e.identity ∈ P.map (·.1) → e.identity ∈ P.map (·.2)) ∧ ("", e.identity) ∉ P) →
      (ac.owner ∈ P.map (·.1) → ac.owner ∈ P.map (·.2)) →
      (ac.group ∈ P.map (·.1) → ac.group ∈ P.map (·.2)) →
      (ac.withIds P).withNames P = ac) ∧
    (∀ (i : Nat) (e : AclEntry), e.identity = "" →
      (ac.acl[i]? = some e → (ac.withNames P).acl[i]? = some e ∧ (ac.withIds P).acl[i]? = some e) ∧
      (ac.defaultAcl[i]? = some e →
        (ac.withNames P).defaultAcl[i]? = some e ∧ (ac.withIds P).defaultAcl[i]? = some e)) := by
  refine ⟨fun hnamed howner hgroup => ?_, fun hnamed howner hgroup => ?_, fun i e he => ?_⟩
  · rw [withNames_eq, withIds_eq]
    refine renameWith_renameWith (renameText_nameOf_idOf hids hnames howner)
      (renameText_nameOf_idOf hids hnames hgroup) fun e he hne => ?_
    obtain ⟨hx, hempty⟩ := hnamed e he hne
    exact ⟨renameText_nameOf_ne_empty hids hne hempty, renameText_nameOf_idOf hids hnames hx⟩
  · rw [withNames_eq, withIds_eq]
    refine renameWith_renameWith (renameText_idOf_nameOf hids hnames howner)
      (renameText_idOf_nameOf hids hnames hgroup) fun e he hne => ?_
    obtain ⟨hx, hempty⟩ := hnamed e he hne
    exact ⟨renameText_idOf_ne_empty hnames hne hempty, renameText_idOf_nameOf hids hnames hx⟩
  · simp only [withNames_eq, withIds_eq, renameWith_acl, renameWith_defaultAcl,
      List.getElem?_map]
    refine ⟨fun h => ?_, fun h => ?_⟩ <;> simp [h, renameEntry_unnamed he]

/-- A table of two principals and a state that names both by object id, as it is stored, beside
the same state with their names, as a caller sees it: reading renames the owner and both named
entries, writing renames them back, and each round trip gives its state again. -/
theorem principal_round_trips_on_two_principals :
    let P := [("u1", "alice"), ("u2", "bob")]
    let stored : AccessControl := ⟨"u1", "staff", "", [⟨.user, "", true, true, true⟩,
      ⟨.user, "u1", true, false, false⟩, ⟨.group, "u2", true, false, true⟩], []⟩
    let shown : AccessControl := ⟨"alice", "staff", "", [⟨.user, "", true, true, true⟩,
      ⟨.user, "alice", true, false, false⟩, ⟨.group, "bob", true, false, true⟩], []⟩
    (P.map (·.1)).Nodup ∧ (P.map (·.2)).Nodup ∧
      stored.withNames P = shown ∧ shown.withIds P = stored ∧
      (stored.withNames P).withIds P = stored ∧ (shown.withIds P).withNames P = shown := by
  intro P stored shown
  have hids : (P.map (·.1)).Nodup := by decide
  have hnames : (P.map (·.2)).Nodup := by decide
  have hread : stored.withNames P = shown := by decide
  have hwrite : shown.withIds P = stored := by decide
  obtain ⟨hback, -, -⟩ := principal_round_trips hids hnames stored
  obtain ⟨-, hforth, -⟩ := principal_round_trips hids hnames shown
  exact ⟨hids, hnames, hread, hwrite, hback (by decide) (by decide) (by decide),
    hforth (by decide) (by decide) (by decide)⟩

end RoundTrip

/-! ## The table built by a walk

Writing builds its table from names to ids by walking the table from ids to names, in an order
that is not fixed: where two principals share a name, either id may end up under it. A lookup
that such a walk may build gives each name the id of some principal of that name, and nothing to
a name no principal has (`AccessControl.IdChoice`). The first match in table order is one of
them (`AccessControl.idChoice_idOf`); any principal's id is chosen for its name by one of them
(`AccessControl.idChoice_of_mem`), so with a shared name the walk decides; and when names are
distinct every one of them is the first match (`AccessControl.IdChoice.eq_idOf`), so the state
stored does not depend on the walk (`AccessControl.withIds_of_idChoice`).
-/

section Choice

variable {P : List (String × String)} {pick : String → Option String}

/-- `pick` is a lookup from names to ids that a walk of the table `P` may build: it gives a name
the id of some principal of that name, and nothing to a name no principal has. -/
structure IdChoice (P : List (String × String)) (pick : String → Option String) : Prop where
  some_mem : ∀ name id, pick name = some id → (id, name) ∈ P
  none_iff : ∀ name, pick name = none ↔ name ∉ P.map (·.2)

/-- The first principal of a name in table order is one choice. -/
theorem idChoice_idOf (P : List (String × String)) : IdChoice P (idOf P) where
  some_mem name id h := by
    obtain ⟨q, hq, rfl⟩ := Option.map_eq_some_iff.1 h
    have hname : q.2 = name := by simpa using List.find?_some hq
    rw [← hname]
    exact List.mem_of_find?_eq_some hq
  none_iff _ := idOf_eq_none_iff

/-- Every principal's id is chosen for its name by some walk. -/
theorem idChoice_of_mem {id name : String} (hmem : (id, name) ∈ P) :
    ∃ pick, IdChoice P pick ∧ pick name = some id := by
  refine ⟨Function.update (idOf P) name (some id), ⟨fun n i hi => ?_, fun n => ?_⟩, by simp⟩
  · by_cases hn : n = name
    · subst hn
      obtain rfl : id = i := by simpa using hi
      exact hmem
    · rw [Function.update_of_ne hn] at hi
      exact (idChoice_idOf P).some_mem n i hi
  · by_cases hn : n = name
    · subst hn
      simpa using List.mem_map_of_mem (f := (·.2)) hmem
    · rw [Function.update_of_ne hn]
      exact (idChoice_idOf P).none_iff n

/-- With distinct names, every lookup a walk may build is the first match. -/
theorem IdChoice.eq_idOf (hnames : (P.map (·.2)).Nodup) (h : IdChoice P pick) : pick = idOf P := by
  funext name
  cases hp : pick name with
  | none => exact (idOf_eq_none_iff.2 ((h.none_iff name).1 hp)).symm
  | some id => exact ((idOf_eq_some_iff hnames).2 (h.some_mem name id hp)).symm

/-- With distinct names, storing ids for names renames through whatever lookup the walk
builds. -/
theorem withIds_of_idChoice (hnames : (P.map (·.2)).Nodup) (h : IdChoice P pick)
    (ac : AccessControl) : ac.withIds P = renameWith pick ac := by
  rw [withIds_eq, h.eq_idOf hnames]

end Choice

end AccessControl

end AclReconcile
