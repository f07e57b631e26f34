import AclReconcile.Proofs.Segments
import AclReconcile.Storage.Local

/-!
# Cleaned paths of a file tree

`FileTree.clean` reads the names of a path onto a stack (`FileTree.cleanStep`) and joins what is
left. Every name left is a piece, not empty and without separator (`FileTree.Pieces`), so a
cleaned path is already in the form `FileTree.normal` gives it (`FileTree.normal_clean`). The
segments of a valid path read after any text are all kept, on top of the stack
(`FileTree.foldl_cleanStep_append_valid`), and a path that keeps some names is not cleaned to the
top of the tree (`FileTree.clean_ne_top`). So the place of a valid item of the local storage is
never the top of the tree (`LocalStore.itemPath_ne_top`), and the paths strictly below that place
are those that begin with it and a separator (`LocalStore.descendants_itemPath`).

A path that neither is empty nor starts or ends with a separator (`Path.Inner`) is kept whole by
trimming, and two such paths are joined by one separator (`Path.join_inner`).
-/

namespace AclReconcile

/-! ## Inner paths -/

namespace Path

/-- A path that is not empty and neither starts nor ends with a separator. -/
structure Inner (s : String) : Prop where
  ne_empty : s ≠ ""
  head : s.toList.head? ≠ some '/'
  last : s.toList.getLast? ≠ some '/'

/-- Segments joined make an inner path: the text starts as the first segment does and ends as the
last one does, and neither is empty or holds a separator. -/
theorem inner_intercalate {l : List String} (hl : l ≠ []) (h : ∀ t ∈ l, Segment t) :
    Inner ("/".intercalate l) := by
  obtain ⟨a, as, rfl⟩ := List.exists_cons_of_ne_nil hl
  have ha := h a List.mem_cons_self
  have hz := h _ (List.getLast_mem hl)
  have hhead : ("/".intercalate (a :: as)).toList.head? = a.toList.head? :=
    head?_intercalate ha.ne_empty
  refine ⟨fun hempty => ha.ne_empty ?_, ?_, ?_⟩
  · rw [hempty] at hhead
    exact String.toList_eq_nil_iff.1 (List.head?_eq_none_iff.1 hhead.symm)
  · rw [hhead]
    exact head?_ne_slash ha.no_sep
  · rw [← List.dropLast_append_getLast hl, getLast?_intercalate hz.ne_empty]
    exact getLast?_ne_slash hz.no_sep

/-- A valid path neither is empty nor starts or ends with a separator: it is its segments
joined. -/
theorem inner_of_validate {p : String} (h : validate p = .ok ()) : Inner p := by
  rw [← intercalate_splitOn_slash p]
  exact inner_intercalate (splitOn_slash_ne_nil p) fun t ht => segment_of_validate h ht

/-- Two inner paths are joined by one separator. -/
theorem join_inner {p q : String} (hp : Inner p) (hq : Inner q) : join [p, q] = p ++ "/" ++ q := by
  unfold join
  rw [List.map_cons, List.map_cons, List.map_nil, trimSeparators_self hp.head hp.last,
    trimSeparators_self hq.head hq.last, List.filter_cons_of_pos (by simpa using hp.ne_empty),
    List.filter_cons_of_pos (by simpa using hq.ne_empty), List.filter_nil,
    String.intercalate_cons_cons, String.intercalate_singleton]

end Path

/-! ## Pieces of a cleaned path -/

namespace FileTree

/-- Names that are not empty and hold no separator. -/
def Pieces (S : List String) : Prop := ∀ m ∈ S, m ≠ "" ∧ '/' ∉ m.toList

/-- A name read onto the stack is either the name itself, not empty, or was there before. -/
theorem mem_cleanStep {absolute : Bool} {acc : List String} {n m : String}
    (h : m ∈ cleanStep absolute acc n) : m ∈ acc ∨ (m = n ∧ n ≠ "") := by
  unfold cleanStep at h
  split at h
  · exact .inl h
  · next hn =>
    have hne : n ≠ "" := fun h0 => by simp [h0] at hn
    split at h
    · split at h
      · split at h
        · rcases List.mem_cons.1 h with rfl | h
          · exact .inr ⟨rfl, hne⟩
          · exact .inl h
        · exact .inl (List.mem_cons_of_mem _ h)
      · split at h
        · cases h
        · exact .inr ⟨List.mem_singleton.1 h, hne⟩
    · rcases List.mem_cons.1 h with rfl | h
      · exact .inr ⟨rfl, hne⟩
      · exact .inl h

/-- Reading names without separator onto a stack of pieces leaves pieces. -/
theorem pieces_foldl_cleanStep (absolute : Bool) :
    ∀ {l acc : List String}, (∀ n ∈ l, '/' ∉ n.toList) → Pieces acc →
      Pieces (l.foldl (cleanStep absolute) acc)
  | [], _, _, hacc => hacc
  | n :: l, acc, hl, hacc => by
    rw [List.foldl_cons]
    refine pieces_foldl_cleanStep absolute (fun n' hn' => hl n' (List.mem_cons_of_mem _ hn'))
      fun m hm => ?_
    rcases mem_cleanStep hm with hm | ⟨rfl, hne⟩
    · exact hacc m hm
    · exact ⟨hne, hl m List.mem_cons_self⟩

/-- A segment is pushed onto the stack. -/
theorem cleanStep_segment (absolute : Bool) (acc : List String) {n : String}
    (hn : Path.Segment n) : cleanStep absolute acc n = n :: acc := by
  have hskip : (n == "" || n == ".") = false := by simp [hn.ne_empty, hn.ne_dot]
  simp [cleanStep, hskip, hn.ne_dotdot]

/-- Segments are pushed onto the stack one after the other. -/
theorem foldl_cleanStep_segments (absolute : Bool) :
    ∀ {segs : List String} (acc : List String), (∀ n ∈ segs, Path.Segment n) →
      segs.foldl (cleanStep absolute) acc = segs.reverse ++ acc
  | [], _, _ => rfl
  | n :: segs, acc, h => by
    rw [List.foldl_cons, cleanStep_segment absolute acc (h n List.mem_cons_self),
      foldl_cleanStep_segments absolute _ fun n' hn' => h n' (List.mem_cons_of_mem _ hn')]
    simp

/-- Pieces that are there, joined, start with the first one's first character, which is no
separator. -/
theorem head?_intercalate_pieces {S : List String} (hS : Pieces S) (hne : S ≠ []) :
    ∃ c, ("/".intercalate S).toList.head? = some c ∧ c ≠ '/' := by
  obtain ⟨t, ts, rfl⟩ := List.exists_cons_of_ne_nil hne
  obtain ⟨ht, hsep⟩ := hS t List.mem_cons_self
  rw [Path.head?_intercalate ht]
  obtain ⟨c, cs, hc⟩ := List.exists_cons_of_ne_nil (by simpa using ht : t.toList ≠ [])
  refine ⟨c, by simp [hc], fun h => hsep ?_⟩
  rw [hc, h]
  exact List.mem_cons_self

/-- Pieces joined by separators do not start with one. -/
theorem intercalate_pieces_startsWith {S : List String} (hS : Pieces S) :
    ("/".intercalate S).startsWith "/" = false := by
  rw [String.startsWith_eq_false_iff]
  intro h
  by_cases hne : S = []
  · subst hne
    simp at h
  · obtain ⟨c, hc, hslash⟩ := head?_intercalate_pieces hS hne
    rw [show "/".toList = ['/'] from rfl, List.singleton_prefix_iff_head?_eq_some, hc] at h
    exact hslash (Option.some.inj h)

/-- The names of pieces joined are the pieces. -/
theorem names_intercalate {S : List String} (hS : Pieces S) : names ("/".intercalate S) = S := by
  by_cases hne : S = []
  · subst hne
    simp [names, splitOn_slash]
  · rw [names, splitOn_intercalate_slash hne fun t ht => (hS t ht).2, List.filter_eq_self]
    intro t ht
    simpa using (hS t ht).1

/-- The names of pieces joined after a separator are the pieces. -/
theorem names_slash_intercalate {S : List String} (hS : Pieces S) :
    names ("/" ++ "/".intercalate S) = S := by
  by_cases hne : S = []
  · subst hne
    simp only [names, splitOn_slash]
    decide
  · obtain ⟨t, ts, rfl⟩ := List.exists_cons_of_ne_nil hne
    have hjoin : "/" ++ "/".intercalate (t :: ts) = "/".intercalate ("" :: t :: ts) := by
      rw [String.intercalate_cons_cons, String.empty_append]
    have hsep : ∀ u ∈ "" :: t :: ts, '/' ∉ u.toList := by
      intro u hu
      rcases List.mem_cons.1 hu with rfl | hu
      · simp
      · exact (hS u hu).2
    rw [hjoin, names, splitOn_intercalate_slash (List.cons_ne_nil _ _) hsep,
      List.filter_cons_of_neg (by simp), List.filter_eq_self]
    intro u hu
    simpa using (hS u hu).1

/-- Pieces joined after a separator are in normal form. -/
theorem normal_slash_intercalate {S : List String} (hS : Pieces S) :
    normal ("/" ++ "/".intercalate S) = "/" ++ "/".intercalate S := by
  have hstart : ("/" ++ "/".intercalate S).startsWith "/" = true := by
    rw [String.startsWith_string_iff]
    simp
  rw [normal]
  simp only [hstart, names_slash_intercalate hS, ↓reduceIte, prefixPath, List.take_length]
  by_cases hne : S = []
  · subst hne
    rfl
  · simp [hne]

/-- Pieces joined are in normal form. -/
theorem normal_intercalate {S : List String} (hS : Pieces S) :
    normal ("/".intercalate S) = "/".intercalate S := by
  rw [normal]
  simp only [intercalate_pieces_startsWith hS, names_intercalate hS, Bool.false_eq_true,
    ↓reduceIte]

/-- The names that cleaning keeps of a path, in order, are pieces. -/
theorem pieces_clean_names (absolute : Bool) (x : String) :
    Pieces ((x.splitOn "/").foldl (cleanStep absolute) []).reverse := by
  have h : Pieces ((x.splitOn "/").foldl (cleanStep absolute) []) :=
    pieces_foldl_cleanStep absolute (fun n hn => slash_not_mem_of_mem_splitOn hn)
      (by simp [Pieces])
  exact fun m hm => h m (List.mem_reverse.1 hm)

/-- A cleaned path is in normal form. -/
theorem normal_clean (x : String) : normal (clean x) = clean x := by
  have hS := pieces_clean_names (x.startsWith "/") x
  unfold clean
  dsimp only
  generalize ((x.splitOn "/").foldl (cleanStep (x.startsWith "/")) []).reverse = S at hS
  split
  · exact normal_slash_intercalate hS
  · split
    · simpa using normal_intercalate (S := ["."]) (by simp [Pieces])
    · exact normal_intercalate hS

/-- A relative path of segments is clean already. -/
theorem clean_intercalate_segments {segs : List String} (hne : segs ≠ [])
    (hsegs : ∀ t ∈ segs, Path.Segment t) :
    clean ("/".intercalate segs) = "/".intercalate segs := by
  have hS : Pieces segs := fun t ht => ⟨(hsegs t ht).ne_empty, (hsegs t ht).no_sep⟩
  obtain ⟨c, hc, -⟩ := head?_intercalate_pieces hS hne
  unfold clean
  dsimp only
  rw [splitOn_intercalate_slash hne fun t ht => (hsegs t ht).no_sep,
    foldl_cleanStep_segments _ [] hsegs, List.append_nil, List.reverse_reverse,
    intercalate_pieces_startsWith hS]
  have hbody : ("/".intercalate segs).isEmpty = false := by
    rw [Bool.eq_false_iff, ne_eq, String.isEmpty_iff]
    rintro h
    simp [h] at hc
  simp [hbody]

/-- The segments of a valid path, read after a text and a separator, are kept on top of the
names kept of the text. -/
theorem foldl_cleanStep_append_valid (absolute : Bool) (x : String) {p : String}
    (hp : Path.validate p = .ok ()) :
    ((x ++ "/" ++ p).splitOn "/").foldl (cleanStep absolute) [] =
      (p.splitOn "/").reverse ++ (x.splitOn "/").foldl (cleanStep absolute) [] := by
  have hsplit : (x ++ "/" ++ p).splitOn "/" = x.splitOn "/" ++ p.splitOn "/" := by
    rw [splitOn_slash, splitOn_slash, splitOn_slash, String.toList_append,
      String.toList_append, show "/".toList = ['/'] from rfl, List.append_assoc,
      List.singleton_append, List.splitOn_append_cons_self, List.map_append]
  rw [hsplit, List.foldl_append,
    foldl_cleanStep_segments _ _ fun t ht => Path.segment_of_validate hp ht]

/-- A path that keeps some names when cleaned is not cleaned to the top of the tree: the names
joined start with a character other than a separator. -/
theorem clean_ne_top {x : String}
    (hne : (x.splitOn "/").foldl (cleanStep (x.startsWith "/")) [] ≠ []) : clean x ≠ "/" := by
  have hS := pieces_clean_names (x.startsWith "/") x
  obtain ⟨c, hc, hslash⟩ := head?_intercalate_pieces hS (by simpa using hne)
  unfold clean
  dsimp only
  generalize ((x.splitOn "/").foldl (cleanStep (x.startsWith "/")) []).reverse = S at hc
  split
  · intro h
    have hempty : "/".intercalate S = "" := by simpa using h
    simp [hempty] at hc
  · split
    · simp
    · intro h
      rw [h] at hc
      exact hslash (by simpa using hc.symm)

end FileTree

/-! ## The place of an item -/

namespace LocalStore

/-- The place of a valid item is not the top of the tree: the item's segments stay on top of
the names kept. -/
theorem itemPath_ne_top (st : LocalStore) {p : String} (hp : Path.validate p = .ok ()) :
    st.itemPath p ≠ "/" := by
  apply FileTree.clean_ne_top
  rw [FileTree.foldl_cleanStep_append_valid _ _ hp]
  simp [splitOn_slash_ne_nil]

/-- The place of a valid item is in normal form and not the top of the tree, so what lies
strictly below it is what begins with it and a separator. -/
theorem descendants_itemPath (st : LocalStore) {p : String} (hp : Path.validate p = .ok ()) :
    st.tree.descendants (st.itemPath p) =
      st.tree.nodes.entries.filter fun e => e.1.startsWith (st.itemPath p ++ "/") := by
  have hnormal : FileTree.normal (st.itemPath p) = st.itemPath p := FileTree.normal_clean _
  unfold FileTree.descendants
  dsimp only
  rw [hnormal]
  refine List.filter_congr fun e _ => ?_
  rw [FileTree.below, if_neg (by simpa using itemPath_ne_top st hp)]

end LocalStore

end AclReconcile
