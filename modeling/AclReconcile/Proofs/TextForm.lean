import AclReconcile.Proofs.Segments
import AclReconcile.Proofs.StoredLists

/-!
# The comma text form of entry lists

People read and write an entry as `kind:identity:rwx` and a list as its entries' texts joined by
commas (`AclList.format`); `AclList.parse` reads that form back, and `AclList.decode` reads it too
when a stored text is not JSON. The form has no escapes, so it carries exactly the entries whose
kind has a name and whose identity holds neither separator (`AclEntry.Printable`). For those the
text of a list cuts at its commas into the entries' texts (`AclList.splitOn_format`), each of which
cuts at its colons into kind, identity and permissions (`AclEntry.splitOn_render`); so reading an
entry's text gives the entry (`AclEntry.parse_render`) and reading a list's text gives the list
(`AclList.parse_format`, `AclList.decode_format`).

Whatever text the reader accepts, the entries it gives are printable (`AclList.printable_of_parse`):
an identity is a piece between colons of a piece between commas, and a kind that was read is
valid. So printing what was read and reading it again gives the same entries
(`AclList.text_form_round_trips`): the short form `kind:rwx`, kinds in upper case and blanks
around an entry are read once and printed in the long form from then on.
-/

namespace AclReconcile

/-! ## Characters of pieces and trimmed texts -/

/-- A member of one of the lists joined is a member of the joined list. -/
theorem List.mem_intercalate_of_mem {α : Type} {sep t : List α} {a : α} :
    ∀ {ts : List (List α)}, t ∈ ts → a ∈ t → a ∈ sep.intercalate ts
  | [], ht, _ => absurd ht List.not_mem_nil
  | [u], ht, ha => by
    rw [List.mem_singleton] at ht
    subst ht
    rwa [List.intercalate_singleton]
  | u :: v :: ts, ht, ha => by
    rw [List.intercalate_cons_cons]
    rcases List.mem_cons.1 ht with rfl | ht
    · exact List.mem_append_left _ (List.mem_append_left _ ha)
    · exact List.mem_append_right _ (mem_intercalate_of_mem ht ha)

/-- Every character of a piece of a text cut at a one-character separator is a character of the
text. -/
theorem mem_of_mem_splitOn_singleton {sep a : Char} {s t : String}
    (ht : t ∈ s.splitOn (String.singleton sep)) (ha : a ∈ t.toList) : a ∈ s.toList := by
  rw [splitOn_singleton] at ht
  obtain ⟨u, hu, rfl⟩ := List.mem_map.1 ht
  rw [String.toList_ofList] at ha
  have hjoin : [sep].intercalate (s.toList.splitOn sep) = s.toList := List.intercalate_splitOn sep
  rw [← hjoin]
  exact List.mem_intercalate_of_mem hu ha

namespace Text

/-- Every character left by trimming was in the text. -/
theorem mem_of_mem_trim {s : String} {a : Char} (h : a ∈ (trim s).toList) : a ∈ s.toList := by
  rw [trim, String.toList_ofList, List.mem_reverse] at h
  have h₁ := (List.dropWhile_sublist _).subset h
  rw [List.mem_reverse] at h₁
  exact (List.dropWhile_sublist _).subset h₁

/-- A text that neither starts nor ends with a blank is its own trimmed form: blanks are dropped
from the front, then from the front of the reversed text. -/
theorem trim_self {s : String} (hhead : ∀ c, s.toList.head? = some c → isBlank c = false)
    (hlast : ∀ c, s.toList.getLast? = some c → isBlank c = false) : trim s = s := by
  have hfront : ∀ l : List Char, (∀ c, l.head? = some c → isBlank c = false) →
      dropBlanks l = l := by
    rintro (_ | ⟨c, l⟩) hc
    · rfl
    · exact List.dropWhile_cons_of_neg (by simp [hc c rfl])
  have hrev : ∀ c, s.toList.reverse.head? = some c → isBlank c = false := by
    rw [List.head?_reverse]
    exact hlast
  rw [trim, hfront _ hhead, hfront _ hrev, List.reverse_reverse, String.ofList_toList]

end Text

/-! ## Entries -/

namespace ObjectType

/-- Every kind is written with one of five names. -/
theorem name_mem (t : ObjectType) : t.name ∈ ["user", "group", "mask", "other", "unknown"] := by
  unfold name
  split <;> simp

/-- No name holds a separator of the text form. -/
theorem separators_not_mem_name (t : ObjectType) : ':' ∉ t.name.toList ∧ ',' ∉ t.name.toList := by
  have h : ∀ n ∈ ["user", "group", "mask", "other", "unknown"],
      ':' ∉ String.toList n ∧ ',' ∉ String.toList n := by decide
  exact h _ t.name_mem

/-- Every name starts with a letter: no blank, no bracket. -/
theorem name_head (t : ObjectType) :
    ∃ c, t.name.toList.head? = some c ∧ Text.isBlank c = false ∧ c ≠ '[' := by
  have h : ∀ n ∈ ["user", "group", "mask", "other", "unknown"],
      ((String.toList n).head?.map fun c => !Text.isBlank c && c != '[') = some true := by
    decide
  obtain ⟨c, hc, hgood⟩ := Option.map_eq_some_iff.1 (h _ t.name_mem)
  simp only [Bool.and_eq_true, Bool.not_eq_true', bne_iff_ne, ne_eq] at hgood
  exact ⟨c, hc, hgood⟩

/-- A kind's name is not empty. -/
theorem name_ne_empty (t : ObjectType) : t.name ≠ "" := by
  obtain ⟨c, hc, -⟩ := t.name_head
  intro h
  rw [h] at hc
  cases hc

/-- A kind that was read is valid. -/
theorem isValid_of_parse {s : String} {t : ObjectType} (h : parse s = .ok t) :
    t.isValid = true := by
  unfold parse at h
  split at h <;> cases h <;> rfl

end ObjectType

namespace AclEntry

/-- An entry the text form carries: its kind has a name, and its identity holds neither
separator. -/
structure Printable (e : AclEntry) : Prop where
  valid : e.type.isValid = true
  no_comma : ',' ∉ e.identity.toList
  no_colon : ':' ∉ e.identity.toList

/-- The permissions are three characters: for each flag its letter when it is set and a dash when it
is not. -/
theorem permissions_toList (e : AclEntry) :
    e.permissions.toList =
      [if e.read then 'r' else '-', if e.write then 'w' else '-', if e.execute then 'x' else '-'] := by
  simp [permissions]

/-- The permissions hold neither separator. -/
theorem separators_not_mem_permissions (e : AclEntry) :
    ':' ∉ e.permissions.toList ∧ ',' ∉ e.permissions.toList := by
  rw [permissions_toList]
  cases e.read <;> cases e.write <;> cases e.execute <;> decide

/-- The permissions end with the execute flag's letter or dash, which is no blank. -/
theorem permissions_getLast (e : AclEntry) :
    ∀ c, e.permissions.toList.getLast? = some c → Text.isBlank c = false := by
  intro c hc
  rw [permissions_toList] at hc
  simp only [List.getLast?_cons_cons, List.getLast?_singleton, Option.some.injEq] at hc
  subst hc
  cases e.execute <;> decide

/-- The permissions are not empty. -/
theorem permissions_ne_empty (e : AclEntry) : e.permissions ≠ "" := by
  intro h
  have := congrArg String.toList h
  rw [permissions_toList] at this
  cases this

/-- The permissions take three bytes. -/
theorem utf8ByteSize_permissions (e : AclEntry) : e.permissions.utf8ByteSize = 3 := by
  unfold permissions
  cases e.read <;> cases e.write <;> cases e.execute <;> decide

/-- The permissions read back as the three flags. -/
theorem readFlags_permissions (e : AclEntry) :
    readFlags e.permissions = some (e.read, e.write, e.execute) := by
  unfold readFlags permissions
  cases e.read <;> cases e.write <;> cases e.execute <;> rfl

/-- The text of an entry is its kind's name, identity and permissions joined by colons. -/
theorem render_eq_intercalate (e : AclEntry) :
    e.render = ":".intercalate [e.type.name, e.identity, e.permissions] := by
  simp [render, String.intercalate_cons_cons, String.append_assoc]

/-- The text of an entry starts as its kind's name does, with no blank and no bracket. -/
theorem render_head (e : AclEntry) :
    ∃ c, e.render.toList.head? = some c ∧ Text.isBlank c = false ∧ c ≠ '[' := by
  rw [render_eq_intercalate, Path.head?_intercalate e.type.name_ne_empty]
  exact e.type.name_head

/-- The text of an entry is not empty. -/
theorem render_ne_empty (e : AclEntry) : e.render ≠ "" := by
  obtain ⟨c, hc, -⟩ := e.render_head
  intro h
  rw [h] at hc
  cases hc

/-- The text of an entry ends as its permissions do, with no blank. -/
theorem render_getLast (e : AclEntry) :
    ∀ c, e.render.toList.getLast? = some c → Text.isBlank c = false := by
  rw [render_eq_intercalate]
  show ∀ c, (":".intercalate ([e.type.name, e.identity] ++ [e.permissions])).toList.getLast? =
    some c → _
  rw [Path.getLast?_intercalate e.permissions_ne_empty]
  exact e.permissions_getLast

/-- The text of an entry is its own trimmed form. -/
theorem trim_render (e : AclEntry) : Text.trim e.render = e.render := by
  obtain ⟨c, hc, hblank, -⟩ := e.render_head
  exact Text.trim_self (fun c' hc' => by rw [hc] at hc'; cases hc'; exact hblank) e.render_getLast

/-- The text of an entry whose identity holds no colon cuts at its colons into the kind's name,
the identity and the permissions. -/
theorem splitOn_render {e : AclEntry} (h : ':' ∉ e.identity.toList) :
    e.render.splitOn ":" = [e.type.name, e.identity, e.permissions] := by
  rw [render_eq_intercalate]
  refine splitOn_intercalate_singleton ':' (List.cons_ne_nil _ _) fun t ht => ?_
  simp only [List.mem_cons, List.not_mem_nil, or_false] at ht
  rcases ht with rfl | rfl | rfl
  · exact e.type.separators_not_mem_name.1
  · exact h
  · exact e.separators_not_mem_permissions.1

/-- Reading the text of an entry whose kind is valid and whose identity holds no colon gives the
entry. -/
theorem parse_render {e : AclEntry} (hvalid : e.type.isValid = true)
    (h : ':' ∉ e.identity.toList) : parse e.render = .ok e := by
  unfold parse
  rw [trim_render, splitOn_render h]
  simp only [ObjectType.parse_name hvalid, utf8ByteSize_permissions, readFlags_permissions,
    bne_self_eq_false, Bool.false_eq_true, if_false, bind, Except.bind, pure, Except.pure]

/-- The text of an entry whose identity holds no comma holds none. -/
theorem comma_not_mem_render {e : AclEntry} (h : ',' ∉ e.identity.toList) :
    ',' ∉ e.render.toList := by
  simp only [render, String.toList_append, List.mem_append, not_or]
  exact ⟨⟨⟨⟨e.type.separators_not_mem_name.2, by decide⟩, h⟩, by decide⟩,
    e.separators_not_mem_permissions.2⟩

/-- What an accepted entry text gives: a kind that was read, the flags read off the permissions,
and the identity, empty in the short form and the middle piece in the long one. -/
theorem parse_eq_ok {s : String} {e : AclEntry} (h : parse s = .ok e) :
    ∃ typ perms, ObjectType.parse typ = .ok e.type ∧
      readFlags perms = some (e.read, e.write, e.execute) ∧
      ((Text.trim s).splitOn ":" = [typ, perms] ∧ e.identity = "" ∨
        (Text.trim s).splitOn ":" = [typ, e.identity, perms]) := by
  unfold parse at h
  simp only [bind, Except.bind, throw, throwThe, MonadExceptOf.throw, pure, Except.pure] at h
  split at h
  · next t p hparts =>
    split at h
    · cases h
    · next type htype =>
      split at h
      · cases h
      · split at h
        · next r w x hflags => cases h; exact ⟨t, p, htype, hflags, .inl ⟨hparts, rfl⟩⟩
        · cases h
  · next t i p hparts =>
    split at h
    · cases h
    · next type htype =>
      split at h
      · cases h
      · split at h
        · next r w x hflags => cases h; exact ⟨t, p, htype, hflags, .inr hparts⟩
        · cases h
  · cases h

/-- An entry read from a text without commas is printable. -/
theorem printable_of_parse {s : String} {e : AclEntry} (h : parse s = .ok e)
    (hs : ',' ∉ s.toList) : e.Printable := by
  obtain ⟨typ, perms, htype, -, hparts⟩ := parse_eq_ok h
  have hid : e.identity = "" ∨ e.identity ∈ (Text.trim s).splitOn (String.singleton ':') := by
    rcases hparts with ⟨-, hid⟩ | hparts
    · exact .inl hid
    · exact .inr (by rw [show String.singleton ':' = ":" from rfl, hparts]; simp)
  refine ⟨ObjectType.isValid_of_parse htype, ?_, ?_⟩ <;> rcases hid with hid | hid
  · simp [hid]
  · exact fun hc => hs (Text.mem_of_mem_trim (mem_of_mem_splitOn_singleton hid hc))
  · simp [hid]
  · exact not_mem_of_mem_splitOn_singleton hid

end AclEntry

/-! ## Lists -/

/-- What stands on the right of a pointwise relation has a partner on the left. -/
theorem List.Forall₂.exists_of_mem_right {α β : Type} {R : α → β → Prop} {l₁ : List α}
    {l₂ : List β} (h : List.Forall₂ R l₁ l₂) {b : β} (hb : b ∈ l₂) : ∃ a ∈ l₁, R a b := by
  induction h with
  | nil => cases hb
  | cons hab _ ih =>
    rcases List.mem_cons.1 hb with rfl | hb
    · exact ⟨_, List.mem_cons_self, hab⟩
    · obtain ⟨a, ha, hR⟩ := ih hb
      exact ⟨a, List.mem_cons_of_mem _ ha, hR⟩

namespace AclList

/-- The text of a list of printable entries cuts at its commas into the entries' texts. -/
theorem splitOn_format {l : List AclEntry} (hne : l ≠ []) (h : ∀ e ∈ l, e.Printable) :
    (format l).splitOn "," = l.map AclEntry.render := by
  refine splitOn_intercalate_singleton ',' (by simpa using hne) fun t ht => ?_
  obtain ⟨e, he, rfl⟩ := List.mem_map.1 ht
  exact AclEntry.comma_not_mem_render (h e he).no_comma

/-- Reading the texts of printable entries one by one gives the entries. -/
theorem mapM_parse_render : ∀ {l : List AclEntry}, (∀ e ∈ l, e.Printable) →
    (l.map AclEntry.render).mapM AclEntry.parse = .ok l
  | [], _ => rfl
  | e :: l, h => by
    have he := h e List.mem_cons_self
    rw [List.map_cons, List.mapM_cons, AclEntry.parse_render he.valid he.no_colon,
      mapM_parse_render fun x hx => h x (List.mem_cons_of_mem e hx)]
    rfl

/-- The text of a list that is not empty starts as its first entry's kind name does. -/
theorem format_head {l : List AclEntry} (hne : l ≠ []) :
    ∃ c, (format l).toList.head? = some c ∧ Text.isBlank c = false ∧ c ≠ '[' := by
  obtain ⟨e, rest, rfl⟩ := List.exists_cons_of_ne_nil hne
  rw [format, List.map_cons, Path.head?_intercalate e.render_ne_empty]
  exact e.render_head

/-- The text of a list that is not empty ends as its last entry's permissions do. -/
theorem format_getLast {l : List AclEntry} (hne : l ≠ []) :
    ∀ c, (format l).toList.getLast? = some c → Text.isBlank c = false := by
  obtain ⟨init, z, rfl⟩ := (l.eq_nil_or_concat).resolve_left hne
  rw [List.concat_eq_append, format, List.map_append, List.map_singleton,
    Path.getLast?_intercalate z.render_ne_empty]
  exact z.render_getLast

/-- Reading the text of printable entries gives the entries. -/
theorem parse_format {l : List AclEntry} (h : ∀ e ∈ l, e.Printable) : parse (format l) = .ok l := by
  by_cases hne : l = []
  · subst hne
    rfl
  · obtain ⟨c, hc, hblank, -⟩ := format_head hne
    have hnotBlank : Text.isBlankText (format l) = false := by
      rw [Text.isBlankText, List.all_eq_false]
      exact ⟨c, List.mem_of_head? hc, by simp [hblank]⟩
    rw [parse, hnotBlank, if_neg Bool.false_ne_true, splitOn_format hne h, mapM_parse_render h]

/-- A stored text in the comma form is read as that form: the text of printable entries decodes
to the entries, since it starts with a letter and not with the bracket of a JSON array. -/
theorem decode_format {l : List AclEntry} (h : ∀ e ∈ l, e.Printable) :
    decode (format l) = .ok l := by
  by_cases hne : l = []
  · subst hne
    rfl
  · obtain ⟨c, hc, hblank, hbracket⟩ := format_head hne
    have htrim : Text.trim (format l) = format l := Text.trim_self
      (fun c' hc' => by rw [hc] at hc'; cases hc'; exact hblank) (format_getLast hne)
    have hstart : (format l).startsWith "[" = false := by
      rw [String.startsWith_eq_false_iff]
      rintro ⟨t, ht⟩
      rw [← ht] at hc
      simp at hc
      exact hbracket (hc.symm ▸ rfl)
    simp only [decode, htrim, hstart, Bool.not_false, if_true, parse_format h]

/-- Every entry of an accepted text is printable. -/
theorem printable_of_parse {s : String} {l : List AclEntry} (h : parse s = .ok l) :
    ∀ e ∈ l, e.Printable := by
  unfold parse at h
  split at h
  · cases h
    simp
  · intro e he
    obtain ⟨piece, hpiece, hparse⟩ :=
      List.Forall₂.exists_of_mem_right (List.forall₂_of_mapM_ok h) he
    have hpiece' : piece ∈ s.splitOn (String.singleton ',') := hpiece
    exact AclEntry.printable_of_parse hparse (not_mem_of_mem_splitOn_singleton hpiece')

/-- The text form of entry lists: for printable entries, reading the text of a list, or decoding
it as a stored text, gives the list back, and reading an entry's text gives the entry; and
whatever text is accepted, printing what was read and reading it again gives the same entries. -/
theorem text_form_round_trips :
    (∀ l : List AclEntry, (∀ e ∈ l, e.Printable) →
      parse (format l) = .ok l ∧ decode (format l) = .ok l ∧
        ∀ e ∈ l, AclEntry.parse e.render = .ok e) ∧
    (∀ (s : String) (l : List AclEntry), parse s = .ok l → parse (format l) = .ok l) := by
  refine ⟨fun l h => ⟨parse_format h, decode_format h, fun e he => ?_⟩, fun s l h => ?_⟩
  · exact AclEntry.parse_render (h e he).valid (h e he).no_colon
  · exact parse_format (printable_of_parse h)

/-- A kind in upper case, the short form and blanks around an entry are read, and what was read
prints and reads back. -/
theorem text_form_round_trips_on_short_forms :
    let l : List AclEntry := [⟨.user, "", true, true, true⟩, ⟨.group, "staff", true, false, true⟩]
    (∀ e ∈ l, e.Printable) ∧
      (parse (format l) = .ok l ∧ decode (format l) = .ok l ∧
        ∀ e ∈ l, AclEntry.parse e.render = .ok e) ∧
      parse " USER:rwx ,group:staff:r-x" = .ok l ∧ parse (format l) = .ok l := by
  intro l
  have hprintable : ∀ e ∈ l, e.Printable := by
    intro e he
    simp only [l, List.mem_cons, List.not_mem_nil, or_false] at he
    rcases he with rfl | rfl <;> exact ⟨by decide, by decide, by decide⟩
  have hcomma : " USER:rwx ,group:staff:r-x".splitOn "," = [" USER:rwx ", "group:staff:r-x"] :=
    (splitOn_singleton ',' _).trans (by decide)
  have hcolon : ∀ s : String, s.splitOn ":" = (s.toList.splitOn ':').map String.ofList :=
    splitOn_singleton ':'
  have hread : parse " USER:rwx ,group:staff:r-x" = .ok l := by
    simp only [parse, hcomma, List.mapM_cons, List.mapM_nil, AclEntry.parse, hcolon]
    rfl
  exact ⟨hprintable, text_form_round_trips.1 l hprintable, hread,
    text_form_round_trips.2 _ l hread⟩

end AclList

end AclReconcile
