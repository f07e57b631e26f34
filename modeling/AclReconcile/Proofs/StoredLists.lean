import AclReconcile.Proofs.JsonRoundTrip
import AclReconcile.Proofs.StoredAccess
import AclReconcile.Storage.Record
import Mathlib.Data.List.Forall2

/-!
# The stored form of entry lists and records

Database and key-value storages keep an item's state as a record whose two entry lists are
JSON text. This module shows the form loses nothing. Writing a list succeeds exactly when every
entry names a valid kind (`AclList.encode_ok_iff`); the text then reads back as the same list
(`AclList.decode_encode`), whatever the identities hold, since the JSON reader undoes the
writer's escapes one by one (`Json.parse_render`) and each entry's record is read field by field
into the entry it was written from (`AclList.readEntry_written`). A record built from a state
with valid kinds holds that state (`Record.state_ofState`).
-/

namespace AclReconcile

namespace Json

/-- Mapping over numbered elements, each of which gives its partner whatever its number, gives
the partners. -/
theorem mapM_zipIdx_eq_pure {α β : Type} {f : α × Nat → Reader β} {xs : List α} {ys : List β}
    (h : List.Forall₂ (fun x y => ∀ i, f (x, i) = pure y) xs ys) (n : Nat) :
    (xs.zipIdx n).mapM f = pure ys := by
  induction h generalizing n with
  | nil => rfl
  | cons hxy _ ih =>
    rw [List.zipIdx_cons, List.mapM_cons]
    simp only [hxy, ih, pure_bind]

/-- Reading elements each of which reads back as its partner, with nothing kept aside, gives the
partners. -/
theorem readElements_eq_pure {α : Type} {item : Place → Json → Reader α} {xs : List Json}
    {ys : List α} (h : List.Forall₂ (fun x y => ∀ q, item q x = pure y) xs ys) (p : Place) :
    readElements item p xs = pure ys :=
  mapM_zipIdx_eq_pure (h.imp fun _ _ hxy _ => hxy _) 0

end Json

/-- A kind is written only when it is valid, and then by its name. -/
theorem ObjectType.toText_eq_ok {t : ObjectType} {name : String} (h : t.toText = .ok name) :
    t.isValid = true ∧ name = t.name := by
  unfold ObjectType.toText at h
  split at h
  · cases h; exact ⟨‹_›, rfl⟩
  · cases h

/-- A map that succeeds element by element gives, for each element, its image. -/
theorem List.forall₂_of_mapM_ok {α β ε : Type} {f : α → Except ε β} :
    ∀ {l : List α} {ys : List β}, l.mapM f = .ok ys → List.Forall₂ (fun x y => f x = .ok y) l ys
  | [], ys, h => by
    simp only [List.mapM_nil] at h
    cases h
    exact .nil
  | x :: l, ys, h => by
    rw [List.mapM_cons] at h
    cases hx : f x with
    | error err => rw [hx] at h; cases h
    | ok y =>
      cases hl : l.mapM f with
      | error err => rw [hx, hl] at h; cases h
      | ok zs =>
        rw [hx, hl] at h
        cases h
        exact .cons hx (forall₂_of_mapM_ok hl)

namespace AclList

/-- An entry has a record exactly when its kind is valid. -/
theorem entryJson_ok_iff {e : AclEntry} : (∃ j, entryJson e = .ok j) ↔ e.type.isValid = true := by
  unfold entryJson ObjectType.toText
  by_cases h : e.type.isValid = true <;> simp [h]

/-- The record of an entry holds texts and flags only. -/
theorem plain_of_entryJson {e : AclEntry} {j : Json} (h : entryJson e = .ok j) : Json.Plain j := by
  unfold entryJson at h
  split at h
  · cases h
  · cases h
    refine .object fun m hm => ?_
    simp only [List.map_cons, List.map_nil, List.mem_cons, List.not_mem_nil, or_false] at hm
    rcases hm with rfl | rfl | rfl | rfl | rfl <;> constructor

/-- The record of an entry, as read back from its text, reads as the entry. -/
theorem readEntry_written {e : AclEntry} {j : Json} (h : entryJson e = .ok j) (p : Json.Place) :
    readEntry p (Json.sourced j) = pure e := by
  unfold entryJson at h
  split at h
  · cases h
  · next name hname =>
    cases h
    obtain ⟨hvalid, rfl⟩ := ObjectType.toText_eq_ok hname
    simp only [readEntry, Json.obj, List.map_cons, List.map_nil, Json.sourced,
      Json.sourcedMembers, Json.readRecord, Json.selectField, entryFields, ObjectType.ofJson,
      ObjectType.ofText, ObjectType.parse_name hvalid, Json.readText, Json.readFlag,
      bind_pure_comp, Bool.false_eq_true, ↓reduceIte, List.foldlM_cons, List.foldlM_nil, BEq.rfl,
      List.find?_cons_of_pos, List.find?_cons_of_neg, String.reduceBEq, not_false_eq_true,
      map_pure, Option.elim_some, bind_pure]

/-- An entry that has a record has a valid kind. -/
theorem valid_of_forall₂ {l : List AclEntry} {items : List Json}
    (h : List.Forall₂ (fun e j => entryJson e = .ok j) l items) : ∀ e ∈ l, e.type.isValid = true := by
  induction h with
  | nil => simp
  | cons hej _ ih =>
    intro e he
    rcases List.mem_cons.1 he with rfl | he
    · exact entryJson_ok_iff.1 ⟨_, hej⟩
    · exact ih e he

/-- A list whose entries all have a valid kind can be written entry by entry. -/
theorem mapM_entryJson_of_valid : ∀ {l : List AclEntry}, (∀ e ∈ l, e.type.isValid = true) →
    ∃ items, l.mapM entryJson = .ok items
  | [], _ => ⟨[], rfl⟩
  | e :: l, h => by
    obtain ⟨j, hj⟩ := entryJson_ok_iff.2 (h e List.mem_cons_self)
    obtain ⟨js, hjs⟩ := mapM_entryJson_of_valid fun x hx => h x (List.mem_cons_of_mem e hx)
    exact ⟨j :: js, by rw [List.mapM_cons, hj, hjs]; rfl⟩

/-- A list written is the text of the array of its entries' records. -/
theorem encode_eq_ok {l : List AclEntry} {s : String} (h : encode l = .ok s) :
    ∃ items, l.mapM entryJson = .ok items ∧ s = Json.render (.array items) := by
  unfold encode at h
  cases hl : l.mapM entryJson with
  | error err => rw [hl] at h; cases h
  | ok items => rw [hl] at h; cases h; exact ⟨items, rfl, rfl⟩

/-- Writing a list succeeds exactly when every entry has a valid kind. -/
theorem encode_ok_iff {l : List AclEntry} :
    (∃ s, encode l = .ok s) ↔ ∀ e ∈ l, e.type.isValid = true := by
  constructor
  · rintro ⟨s, hs⟩
    obtain ⟨items, hitems, -⟩ := encode_eq_ok hs
    exact valid_of_forall₂ (List.forall₂_of_mapM_ok hitems)
  · intro h
    obtain ⟨items, hitems⟩ := mapM_entryJson_of_valid h
    exact ⟨_, by simp [encode, hitems]; rfl⟩

/-- Reading back the records of a list's entries gives the entries. -/
theorem readEntries_written {l : List AclEntry} {items : List Json}
    (h : List.Forall₂ (fun e j => entryJson e = .ok j) l items) :
    List.Forall₂ (fun x y => ∀ q, readEntry q x = pure y) (Json.sourcedItems items) l := by
  induction h with
  | nil => exact .nil
  | cons hej _ ih => exact .cons (fun q => readEntry_written hej q) ih

/-- Records of entries hold no numbers. -/
theorem plain_of_forall₂ {l : List AclEntry} {items : List Json}
    (h : List.Forall₂ (fun e j => entryJson e = .ok j) l items) : ∀ j ∈ items, Json.Plain j := by
  induction h with
  | nil => simp
  | cons hej _ ih =>
    intro j hj
    rcases List.mem_cons.1 hj with rfl | hj
    · exact plain_of_entryJson hej
    · exact ih j hj

/-- The JSON text of written records reads back as the entries. -/
theorem readJson_written {l : List AclEntry} {items : List Json}
    (h : List.Forall₂ (fun e j => entryJson e = .ok j) l items) :
    readJson (Json.render (.array items)) = .ok l := by
  unfold readJson
  rw [Json.parse_render (.array (plain_of_forall₂ h))]
  simp only [Json.sourced]
  rw [Json.readElements_eq_pure (readEntries_written h)]
  rfl

/-- A text that starts and ends with a character that is no blank is its own trimmed form. -/
theorem trim_of_ends {s : String} {c d : Char} {m : List Char} (hs : s.toList = c :: (m ++ [d]))
    (hc : Text.isBlank c = false) (hd : Text.isBlank d = false) : Text.trim s = s := by
  have hfront : Text.dropBlanks (c :: (m ++ [d])) = c :: (m ++ [d]) :=
    List.dropWhile_cons_of_neg (by simp [hc])
  have hback : Text.dropBlanks (d :: (c :: m).reverse) = d :: (c :: m).reverse :=
    List.dropWhile_cons_of_neg (by simp [hd])
  have hrev : (c :: (m ++ [d])).reverse = d :: (c :: m).reverse := by simp
  rw [Text.trim, hs, hfront, hrev, hback, ← hrev, List.reverse_reverse, ← hs, String.ofList_toList]

/-- Reading a stored list back gives the list written. -/
theorem decode_encode {l : List AclEntry} {s : String} (h : encode l = .ok s) :
    decode s = .ok l := by
  obtain ⟨items, hitems, rfl⟩ := encode_eq_ok h
  have hf := List.forall₂_of_mapM_ok hitems
  have htrim : Text.trim (Json.render (.array items)) = Json.render (.array items) :=
    trim_of_ends (Json.render_array_toList items) (by decide) (by decide)
  have hstart : (Json.render (.array items)).startsWith "[" = true := by simp [Json.render]
  have hnone : l.find? (fun e => !e.type.isValid) = none :=
    List.find?_eq_none.2 fun e he => by simp [valid_of_forall₂ hf e he]
  unfold decode
  simp only [htrim, hstart, readJson_written hf, Bool.not_true, Bool.false_eq_true, if_false,
    bind, Except.bind, hnone]
  rfl

end AclList

namespace Record

/-- The record of a state whose entries all have a valid kind is written, and holds the state. -/
theorem state_ofState {id : String} {folder : Bool} {ac : AccessControl} (h : ac.ValidKinds) :
    ∃ r, ofState id folder ac = .ok r ∧ r.id = id ∧ r.folder = folder ∧ r.state = .ok ac := by
  obtain ⟨sa, hsa⟩ := AclList.encode_ok_iff.2 fun e he => h e (List.mem_append_left _ he)
  obtain ⟨sd, hsd⟩ := AclList.encode_ok_iff.2 fun e he => h e (List.mem_append_right _ he)
  refine ⟨⟨id, folder, ac.owner, ac.group, ac.permissions, sa, sd, 0⟩, ?_, rfl, rfl, ?_⟩
  · simp [ofState, hsa, hsd, Except.mapError, bind, Except.bind, pure, Except.pure]
  · simp [state, AclList.decode_encode hsa, AclList.decode_encode hsd, Except.mapError, bind,
      Except.bind, pure, Except.pure]

/-- The stored form of entry lists and records: writing a list succeeds exactly when every entry
has a valid kind, and reading it back then gives the list, whatever its identities hold; the
record of a state whose entries have valid kinds is written for any id and either kind of item,
and gives the state back, owner, group and summary included. -/
theorem stored_form_round_trips :
    (∀ l : List AclEntry, (∃ s, AclList.encode l = .ok s) ↔ ∀ e ∈ l, e.type.isValid = true) ∧
    (∀ l : List AclEntry, (∀ e ∈ l, e.type.isValid = true) →
      ∃ s, AclList.encode l = .ok s ∧ AclList.decode s = .ok l) ∧
    (∀ (id : String) (folder : Bool) (ac : AccessControl), ac.ValidKinds →
      ∃ r, ofState id folder ac = .ok r ∧ r.id = id ∧ r.folder = folder ∧ r.state = .ok ac) := by
  refine ⟨fun l => AclList.encode_ok_iff, fun l hl => ?_, fun id folder ac h => state_ofState h⟩
  obtain ⟨s, hs⟩ := AclList.encode_ok_iff.2 hl
  exact ⟨s, hs, AclList.decode_encode hs⟩

/-- Identities with separators, quotes, markup characters and text beyond ASCII come back as
written. -/
theorem stored_form_round_trips_on_awkward_identities :
    let l : List AclEntry := [⟨.user, "a,b:c\"d<e>&f é ✓", true, false, true⟩,
      ⟨.mask, "", true, true, false⟩, ⟨.other, "\n\\u003c", false, false, false⟩]
    (∀ e ∈ l, e.type.isValid = true) ∧ ∃ s, AclList.encode l = .ok s ∧ AclList.decode s = .ok l :=
  ⟨by decide, stored_form_round_trips.2.1 _ (by decide)⟩

end Record

end AclReconcile
