import Mathlib
import AclReconcile.Path

/-!
# Paths as lists of segments

A path is its segments joined with separators: cutting a text at its separators and joining the
pieces again gives the text back (`intercalate_splitOn_slash`), and pieces without separators,
joined and cut again, come back as they were (`splitOn_intercalate_slash`). Both rest on reading
the cutting of a text at a one-character separator as the cutting of its characters
(`splitOn_singleton`), which the comma and colon of the text form of entry lists use as well.

Every piece of a valid path is a segment: not empty, neither `.` nor `..`, and without separator
(`Path.Segment`, `Path.segment_of_validate`); two segments or more, joined, make a valid path
(`Path.validate_intercalate`). A path of segments joined with one more segment is that segment
added at its end (`Path.join_intercalate`), which is how the storages build the directories above
a path they create.
-/

namespace AclReconcile

open String

/-! ## Cutting at separators -/

/-- Cutting at a one-character separator, from a position inside a text: the pieces are those of
the characters left, the first one extended by the characters read since the last separator. By
induction on the characters left: a separator closes the piece read so far, and any other
character extends it. -/
theorem splitOnAux_singleton (sep : Char) : ∀ (l m r : List Char) (acc : List String),
    splitOnAux (ofList (l ++ m ++ r)) (singleton sep) ⟨utf8Len l⟩ ⟨utf8Len l + utf8Len m⟩ 0 acc =
      acc.reverse ++ (List.splitOnPPrepend (· == sep) r m.reverse).map ofList
  | l, m, [], acc => by
    unfold splitOnAux
    simp only [List.append_nil, atEnd_iff, rawEndPos_ofList, utf8Len_append, Pos.Raw.mk_le_mk,
      Nat.le_refl, ↓reduceIte, List.splitOnPPrepend_nil, List.reverse_reverse, List.map_cons,
      List.map_nil]
    simpa using extract_of_valid l m []
  | l, m, c :: r, acc => by
    have hpos := Char.utf8Size_pos c
    have hend : ¬ (ofList (l ++ m ++ c :: r)).rawEndPos ≤ ⟨utf8Len l + utf8Len m⟩ := by
      rw [rawEndPos_ofList, Pos.Raw.mk_le_mk, utf8Len_append, utf8Len_append, utf8Len_cons]
      omega
    have hget : Pos.Raw.get (ofList (l ++ m ++ c :: r)) ⟨utf8Len l + utf8Len m⟩ = c := by
      simpa [utf8Len_append] using get_of_valid (l ++ m) (c :: r)
    have hnext : Pos.Raw.next (ofList (l ++ m ++ c :: r)) ⟨utf8Len l + utf8Len m⟩ =
        ⟨utf8Len l + utf8Len m + c.utf8Size⟩ := by
      simpa [utf8Len_append] using next_of_valid (l ++ m) c r
    have hsing : singleton sep = ofList [sep] := by simp
    have hsep : Pos.Raw.get (singleton sep) 0 = sep := by
      rw [hsing]
      simpa using get_of_valid [] [sep]
    have hsep₁ : Pos.Raw.next (singleton sep) 0 = ⟨sep.utf8Size⟩ := by
      rw [hsing]
      simpa using next_of_valid [] sep []
    have hsepEnd : Pos.Raw.atEnd (singleton sep) ⟨sep.utf8Size⟩ = true := by
      rw [hsing, atEnd_iff, rawEndPos_ofList]
      simp
    unfold splitOnAux
    rw [if_neg (by rwa [atEnd_iff]), hget, hsep]
    by_cases hc : c = sep
    · subst hc
      have hback : (⟨utf8Len l + utf8Len m + c.utf8Size⟩ : Pos.Raw).unoffsetBy ⟨c.utf8Size⟩ =
          ⟨utf8Len l + utf8Len m⟩ := by
        simp [Pos.Raw.unoffsetBy]
      have ih := splitOnAux_singleton c (l ++ m ++ [c]) [] r (ofList m :: acc)
      simp only [List.append_nil, List.append_assoc, List.cons_append, List.nil_append,
        utf8Len_append, utf8Len_cons, utf8Len_nil, Nat.zero_add, Nat.add_zero] at ih
      simp only [beq_self_eq_true, ↓reduceIte, hnext, hsep₁, hsepEnd, hback, extract_of_valid]
      rw [List.splitOnPPrepend_cons_pos (by simp), List.append_assoc, Nat.add_assoc, ih]
      simp
    · have ih := splitOnAux_singleton sep l (m ++ [c]) r acc
      have hc' : (c == sep) = false := by simpa using hc
      simp only [List.append_assoc, List.cons_append, List.nil_append, utf8Len_append,
        utf8Len_cons, utf8Len_nil, Nat.zero_add, List.reverse_append, List.reverse_cons] at ih
      simp only [hc', Bool.false_eq_true, ↓reduceIte, Pos.Raw.unoffsetBy, Pos.Raw.byteIdx_zero,
        Nat.sub_zero, hnext]
      rw [List.splitOnPPrepend_cons_neg (p := (· == sep)) hc', List.append_assoc, Nat.add_assoc,
        ih]
      simp

/-- Cutting a text at a one-character separator cuts its characters there. -/
theorem splitOn_singleton (sep : Char) (s : String) :
    s.splitOn (singleton sep) = (s.toList.splitOn sep).map ofList := by
  have h := splitOnAux_singleton sep [] [] s.toList []
  simp only [List.nil_append, ofList_toList, utf8Len_nil, Nat.add_zero, List.reverse_nil,
    List.splitOnPPrepend_nil_right] at h
  rw [String.splitOn, if_neg (by simp)]
  exact h

/-- Cutting a text at its separators cuts its characters there. -/
theorem splitOn_slash (s : String) : s.splitOn "/" = (s.toList.splitOn '/').map ofList :=
  splitOn_singleton '/' s

/-- No piece of a list cut at a separator holds it, by induction on the list: a character other than
the separator joins the first piece of the rest. -/
theorem not_mem_of_mem_splitOn {α : Type} [BEq α] [LawfulBEq α] {a : α} :
    ∀ {xs u : List α}, u ∈ xs.splitOn a → a ∉ u
  | [], u, h => by
    rw [List.splitOn_nil, List.mem_singleton] at h
    subst h
    exact List.not_mem_nil
  | x :: xs, u, h => by
    rw [List.splitOn_cons_eq_if_modifyHead] at h
    split at h
    · rcases List.mem_cons.1 h with rfl | h
      · exact List.not_mem_nil
      · exact not_mem_of_mem_splitOn h
    · next hx =>
      obtain ⟨v, vs, hvs⟩ := List.exists_cons_of_ne_nil (List.splitOn_ne_nil a xs)
      rw [hvs, List.modifyHead_cons] at h
      rcases List.mem_cons.1 h with rfl | h
      · intro hmem
        rcases List.mem_cons.1 hmem with rfl | hmem
        · exact hx (beq_self_eq_true a)
        · exact not_mem_of_mem_splitOn (hvs ▸ List.mem_cons_self) hmem
      · exact not_mem_of_mem_splitOn (hvs ▸ List.mem_cons_of_mem _ h)

/-- No piece of a text cut at a one-character separator holds it. -/
theorem not_mem_of_mem_splitOn_singleton {sep : Char} {s t : String}
    (h : t ∈ s.splitOn (singleton sep)) : sep ∉ t.toList := by
  rw [splitOn_singleton] at h
  obtain ⟨u, hu, rfl⟩ := List.mem_map.1 h
  rw [toList_ofList]
  exact not_mem_of_mem_splitOn hu

/-- No piece of a text cut at its separators holds one. -/
theorem slash_not_mem_of_mem_splitOn {s t : String} (h : t ∈ s.splitOn "/") : '/' ∉ t.toList :=
  not_mem_of_mem_splitOn_singleton h

/-- Joining pieces with a one-character separator and cutting the text there again gives the
pieces back, when no piece holds the separator. -/
theorem splitOn_intercalate_singleton (sep : Char) {l : List String} (hl : l ≠ [])
    (hsep : ∀ t ∈ l, sep ∉ t.toList) :
    ((singleton sep).intercalate l).splitOn (singleton sep) = l := by
  have hmap : (l.map String.toList).map ofList = l := by simp
  rw [splitOn_singleton, toList_intercalate, toList_singleton]
  rw [List.splitOn_intercalate sep (by simpa using hsep) (by simpa using hl), hmap]

/-- Joining pieces with separators and cutting the text again gives the pieces back. -/
theorem splitOn_intercalate_slash {l : List String} (hl : l ≠ [])
    (hsep : ∀ t ∈ l, '/' ∉ t.toList) : ("/".intercalate l).splitOn "/" = l :=
  splitOn_intercalate_singleton '/' hl hsep

/-- Joining the pieces of a text cut at its separators gives the text back. -/
theorem intercalate_splitOn_slash (s : String) : "/".intercalate (s.splitOn "/") = s := by
  apply String.ext
  rw [splitOn_slash, toList_intercalate, List.map_map]
  change ['/'].intercalate ((s.toList.splitOn '/').map (String.toList ∘ ofList)) = s.toList
  simp [Function.comp_def]

/-- Cutting a text at its separators gives at least one piece. -/
theorem splitOn_slash_ne_nil (s : String) : s.splitOn "/" ≠ [] := by
  rw [splitOn_slash]
  simp

/-! ## Segments of a path -/

namespace Path

/-- A segment of a valid path: not empty, neither `.` nor `..`, and without a separator. -/
structure Segment (t : String) : Prop where
  ne_empty : t ≠ ""
  ne_dot : t ≠ "."
  ne_dotdot : t ≠ ".."
  no_sep : '/' ∉ t.toList

/-- A container's name is a path without separator. -/
theorem isContainer_iff {p : String} : isContainer p = true ↔ '/' ∉ p.toList := by
  simp [isContainer, String.contains_char_eq]

/-- Every piece of a valid path is a segment. -/
theorem segment_of_validate {p t : String} (h : validate p = .ok ()) (ht : t ∈ p.splitOn "/") :
    Segment t := by
  unfold validate at h
  split at h
  · cases h
  · split at h
    · cases h
    · next hany =>
      have hgood := List.any_eq_false.1 (Bool.not_eq_true _ ▸ hany) t ht
      simp only [Bool.or_eq_true, beq_iff_eq, not_or] at hgood
      exact ⟨hgood.1.1, hgood.1.2, hgood.2, slash_not_mem_of_mem_splitOn ht⟩

/-- Two pieces or more, joined, hold a separator. -/
theorem slash_mem_intercalate (a b : String) (rest : List String) :
    '/' ∈ ("/".intercalate (a :: b :: rest)).toList := by
  rw [String.intercalate_cons_cons]
  simp

/-- Two segments or more, joined, make a valid path. -/
theorem validate_intercalate {segs : List String} (hlen : 2 ≤ segs.length)
    (hsegs : ∀ t ∈ segs, Segment t) : validate ("/".intercalate segs) = .ok () := by
  obtain ⟨a, b, rest, rfl⟩ : ∃ a b rest, segs = a :: b :: rest := by
    match segs, hlen with
    | a :: b :: rest, _ => exact ⟨a, b, rest, rfl⟩
  have hsplit := splitOn_intercalate_slash (List.cons_ne_nil _ _)
    fun t ht => (hsegs t ht).no_sep
  unfold validate
  have hblank : Text.isBlankText ("/".intercalate (a :: b :: rest)) = false := by
    unfold Text.isBlankText
    rw [List.all_eq_false]
    exact ⟨'/', slash_mem_intercalate a b rest, by decide⟩
  have hany : ((a :: b :: rest).any fun s => s == "" || s == "." || s == "..") = false := by
    rw [List.any_eq_false]
    intro t ht
    have := hsegs t ht
    simp [this.ne_empty, this.ne_dot, this.ne_dotdot]
  rw [hblank, hsplit, hany]
  rfl

/-- The container of a path is its first piece, and the rest is its other pieces joined. -/
theorem split_eq {p c : String} {rest : List String} (h : p.splitOn "/" = c :: rest) :
    split p = (c, "/".intercalate rest) := by
  unfold split
  rw [h]

/-- Dropping leading separators from characters that do not start with one keeps them all. -/
theorem dropWhile_slash_self {l : List Char} (h : l.head? ≠ some '/') :
    l.dropWhile (· == '/') = l := by
  cases l with
  | nil => rfl
  | cons x xs =>
    have hx : (x == '/') = false := by simpa using h
    simp [hx]

/-- A text that neither starts nor ends with a separator is kept whole by trimming. -/
theorem trimSeparators_self {s : String} (hhead : s.toList.head? ≠ some '/')
    (hlast : s.toList.getLast? ≠ some '/') : trimSeparators s = s := by
  unfold trimSeparators
  rw [dropWhile_slash_self hhead, dropWhile_slash_self (by rwa [List.head?_reverse]),
    List.reverse_reverse, String.ofList_toList]

/-- A text without separator does not start with one. -/
theorem head?_ne_slash {t : String} (ht : '/' ∉ t.toList) : t.toList.head? ≠ some '/' :=
  fun h => ht (List.mem_of_head? h)

/-- A text without separator does not end with one. -/
theorem getLast?_ne_slash {t : String} (ht : '/' ∉ t.toList) : t.toList.getLast? ≠ some '/' :=
  fun h => ht (List.mem_of_getLast? h)

/-- Pieces joined start as their first piece does, whatever the separator. -/
theorem head?_intercalate {sep t : String} {ts : List String} (ht : t ≠ "") :
    (sep.intercalate (t :: ts)).toList.head? = t.toList.head? := by
  have hne : t.toList ≠ [] := by simpa using ht
  cases ts with
  | nil => rw [String.intercalate_singleton]
  | cons u us =>
    rw [String.intercalate_cons_cons, String.toList_append, String.toList_append,
      List.append_assoc, List.head?_append_of_ne_nil _ hne]

/-- Pieces joined end as their last piece does, whatever the separator. -/
theorem getLast?_intercalate {sep : String} {ts : List String} {u : String} (hu : u ≠ "") :
    (sep.intercalate (ts ++ [u])).toList.getLast? = u.toList.getLast? := by
  have hne : u.toList ≠ [] := by simpa using hu
  by_cases hts : ts = []
  · subst hts
    rw [List.nil_append, String.intercalate_singleton]
  · rw [String.intercalate_append_of_ne_nil hts (List.cons_ne_nil _ _),
      String.intercalate_singleton, String.toList_append, List.getLast?_append_of_ne_nil _ hne]

/-- Joining a path of segments with one more segment adds it at the end. -/
theorem join_intercalate {pre : List String} {t : String} (hpre : pre ≠ [])
    (hgood : ∀ u ∈ pre, Segment u) (ht : Segment t) :
    join ["/".intercalate pre, t] = "/".intercalate (pre ++ [t]) := by
  obtain ⟨a, as, hpre_eq⟩ := List.exists_cons_of_ne_nil hpre
  have ha := hgood a (hpre_eq ▸ List.mem_cons_self)
  have hhead : ("/".intercalate pre).toList.head? = a.toList.head? := by
    rw [hpre_eq, head?_intercalate ha.ne_empty]
  have hlast : ("/".intercalate pre).toList.getLast? ≠ some '/' := by
    have hz := hgood _ (List.getLast_mem hpre)
    rw [← List.dropLast_append_getLast hpre, getLast?_intercalate hz.ne_empty]
    exact getLast?_ne_slash hz.no_sep
  have hne : "/".intercalate pre ≠ "" := by
    intro h
    rw [h] at hhead
    exact ha.ne_empty (String.toList_eq_nil_iff.1 (List.head?_eq_none_iff.1 hhead.symm))
  unfold join
  simp only [List.map_cons, List.map_nil,
    trimSeparators_self (hhead ▸ head?_ne_slash ha.no_sep) hlast,
    trimSeparators_self (head?_ne_slash ht.no_sep) (getLast?_ne_slash ht.no_sep)]
  rw [List.filter_cons_of_pos (by simpa using hne), List.filter_cons_of_pos
    (by simpa using ht.ne_empty), List.filter_nil, String.intercalate_append_of_ne_nil hpre
    (List.cons_ne_nil _ _), String.intercalate_singleton, String.intercalate_cons_cons,
    String.intercalate_singleton]

end Path

/-- A text does not begin with `pat` exactly when its characters do not begin with those of
`pat`. -/
theorem String.startsWith_eq_false_iff {s pat : String} :
    s.startsWith pat = false ↔ ¬ pat.toList <+: s.toList := by
  rw [Bool.eq_false_iff, ne_eq, String.startsWith_string_iff]

end AclReconcile
