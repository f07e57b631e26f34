import AclReconcile.Proofs.Listing
import AclReconcile.Proofs.ObjectListing
import AclReconcile.Session.Kinds

/-!
# The trees the local storage builds

A listing of the local storage answers exactly the items below a directory as long as its tree is
well formed: sorted, and with no path that ends with a separator or holds two in a row
(`FileTree.WellFormed`). Here every tree the storage reaches is shown to be so.

A path is tidy when none of its pieces after the first is empty (`FileTree.Tidy`); a tidy path is
in the form the listing needs (`FileTree.Tidy.normal`). The tree is orderly when it is sorted and
its paths are tidy (`FileTree.Orderly`). The normal form of a path with a name in it is tidy
(`FileTree.tidy_normal`), and a path with no name names the top of the tree or the current
directory, which is always there (`FileTree.lookup_of_names_nil`), so making a directory and
writing a file keep a tree orderly. Making all missing directories is making them one by one, and
removing a subtree only drops paths. Renaming moves every path below the source to the same rest
below the target, which stays tidy when both name something (`FileTree.rename_orderly`).

The storage renames only a record's temporary file to the record, and both name something: the
record's place ends with the record's name, which cleaning keeps (`LocalStore.names_recordPath`).
So every operation keeps the tree orderly (`LocalStore.perform_keeps`), and every store a session
reaches from the empty tree, through the storage's operations, reopening it and changing its files
behind its back, holds a well-formed tree (`LocalStore.Reachable.wellFormed`), where listing a
directory answers exactly the items below it (`LocalStore.Reachable.list_lists_below`).
-/

namespace AclReconcile

namespace FileTree

/-! ## Tidy paths -/

/-- None of the pieces of a path after the first is empty. -/
def Tidy (k : String) : Prop := ∀ u ∈ (k.splitOn "/").tail, u ≠ ""

/-- A tree in increasing path order whose paths are tidy. -/
structure Orderly (t : FileTree) : Prop where
  sorted : t.nodes.Sorted
  tidy : ∀ k ∈ t.nodes.keys, Tidy k

/-- A path is tidy exactly when the one before a separator is and the pieces after it are not
empty. -/
theorem tidy_append_slash_iff {a b : String} :
    Tidy (a ++ "/" ++ b) ↔ Tidy a ∧ ∀ u ∈ b.splitOn "/", u ≠ "" := by
  unfold Tidy
  rw [ObjectStore.splitOn_slash_append, List.tail_append_of_ne_nil (splitOn_slash_ne_nil a)]
  simp only [List.mem_append]
  exact ⟨fun h => ⟨fun u hu => h u (.inl hu), fun u hu => h u (.inr hu)⟩,
    fun h u hu => hu.elim (h.1 u) (h.2 u)⟩

/-- The top of the tree is not tidy: the piece after its separator is empty. -/
theorem not_tidy_top : ¬ Tidy "/" := by
  intro h
  exact h "" (by rw [splitOn_slash]; decide) rfl

/-- A tidy path neither ends with a separator nor holds two in a row: a last separator would leave
an empty last piece, and two in a row an empty piece between them. -/
theorem Tidy.normal {k : String} (h : Tidy k) :
    k.toList.getLast? ≠ some '/' ∧ ¬ ['/', '/'] <:+: k.toList := by
  refine ⟨fun hlast => ?_, fun ⟨A, B, hAB⟩ => ?_⟩
  · obtain ⟨l, hl⟩ : ∃ l, k.toList = l ++ ['/'] :=
      ⟨k.toList.dropLast, (List.dropLast_append_getLast? _ hlast).symm⟩
    have hk : k = String.ofList l ++ "/" ++ "" := String.ext (by simp [hl])
    rw [hk] at h
    exact (tidy_append_slash_iff.1 h).2 "" (by rw [splitOn_slash]; decide) rfl
  · have hk : k = String.ofList A ++ "/" ++ ("" ++ "/" ++ String.ofList B) :=
      String.ext (by simp [← hAB])
    rw [hk] at h
    have hempty : "" ∈ ("" ++ "/" ++ String.ofList B).splitOn "/" := by
      rw [ObjectStore.splitOn_slash_append]
      simp [splitOn_slash]
    exact (tidy_append_slash_iff.1 h).2 "" hempty rfl

/-- An orderly tree is well formed. -/
theorem Orderly.wellFormed {t : FileTree} (h : t.Orderly) : t.WellFormed where
  sorted := h.sorted
  normal e he := (h.tidy e.1 (List.mem_map_of_mem he)).normal

/-- Pieces joined are tidy. -/
theorem tidy_intercalate {S : List String} (hS : Pieces S) : Tidy ("/".intercalate S) := by
  intro u hu
  by_cases hne : S = []
  · subst hne
    simp [splitOn_slash] at hu
  · rw [splitOn_intercalate_slash hne fun t ht => (hS t ht).2] at hu
    exact (hS u (List.mem_of_mem_tail hu)).1

/-- Pieces joined after a separator are tidy when there are some. -/
theorem tidy_slash_intercalate {S : List String} (hS : Pieces S) (hne : S ≠ []) :
    Tidy ("/" ++ "/".intercalate S) := by
  have hjoin : "/" ++ "/".intercalate S = "" ++ "/" ++ "/".intercalate S := by simp
  rw [hjoin, tidy_append_slash_iff]
  refine ⟨fun u hu => by simp [splitOn_slash] at hu, fun u hu => ?_⟩
  rw [splitOn_intercalate_slash hne fun t ht => (hS t ht).2] at hu
  exact (hS u hu).1

/-- The names of a path are pieces. -/
theorem pieces_names (p : String) : Pieces (names p) := by
  intro m hm
  obtain ⟨hsplit, hne⟩ := List.mem_filter.1 hm
  exact ⟨by simpa using hne, slash_not_mem_of_mem_splitOn hsplit⟩

/-- The normal form of a path with a name in it is tidy. -/
theorem tidy_normal {p : String} (h : names p ≠ []) : Tidy (normal p) := by
  unfold normal
  dsimp only
  split
  · rw [if_neg (by simpa using h), prefixPath, if_pos rfl, List.take_length]
    exact tidy_slash_intercalate (pieces_names p) h
  · exact tidy_intercalate (pieces_names p)

/-! ## Looking paths up -/

/-- A path with no name names the top of the tree or the current directory, a directory that is
always there. -/
theorem lookup_of_names_nil {t : FileTree} {p : String} (h : names p = [])
    {r : Option FileNode} (hr : t.lookup p = .ok r) : r = some .directory := by
  unfold lookup at hr
  split at hr
  · cases hr
  · split at hr
    · cases hr
    · rw [h] at hr
      simp only [lookup.go, prefixPath, List.take_nil, String.intercalate_nil,
        Except.ok.injEq] at hr
      rw [← hr]
      split <;> simp [node?]

/-- Where a lookup finds nothing or a file, the path has a name. -/
theorem names_ne_nil_of_lookup {t : FileTree} {p : String} {r : Option FileNode}
    (hr : t.lookup p = .ok r) (hdir : r ≠ some .directory) : names p ≠ [] :=
  fun h => hdir (lookup_of_names_nil h hr)

/-! ## Operations on a tree -/

section Operations

variable {t t' : FileTree}

/-- Binding a tidy path keeps a tree orderly. -/
theorem Orderly.insert (h : t.Orderly) {k : String} (hk : Tidy k) (n : FileNode) :
    Orderly { t with nodes := t.nodes.insert k n } where
  sorted := h.sorted.insert k n
  tidy k' hk' := (Index.mem_keys_insertInto_cases k n _ hk').elim (· ▸ hk) (h.tidy k')

/-- Making a directory keeps a tree orderly: the path it binds is a normal form with a name in it.
-/
theorem mkdir_orderly (h : t.Orderly) {p : String} (hm : t.mkdir p = .ok t') : t'.Orderly := by
  unfold mkdir at hm
  split at hm
  · cases hm
  · cases hm
  · next hnone =>
    cases hm
    exact h.insert (tidy_normal (names_ne_nil_of_lookup hnone (by simp))) _

/-- Writing a file keeps a tree orderly: the path it binds is a normal form with a name in it. -/
theorem writeFile_orderly (h : t.Orderly) {p content : String}
    (hw : t.writeFile p content = .ok t') : t'.Orderly := by
  unfold writeFile at hw
  split at hw
  · cases hw
  · cases hw
  · next r hdir hlookup =>
    cases hw
    exact h.insert (tidy_normal (names_ne_nil_of_lookup hlookup hdir)) _

/-- Making the missing directories above a path, and the path, is making them one at a time. The
induction is on how many levels up the walk may still look. -/
theorem mkdirAllWithin_orderly (h : t.Orderly) :
    ∀ (fuel : Nat) {p : String} {t' : FileTree}, t.mkdirAllWithin fuel p = .ok t' → t'.Orderly
  | 0, _, _, hm => mkdir_orderly h hm
  | fuel + 1, p, t', hm => by
    unfold mkdirAllWithin at hm
    dsimp only at hm
    split at hm
    · cases hm
      exact h
    · cases hm
    · have habove : ∀ t₁, (if parentOf p != "" && parentOf p != "/" then
          t.mkdirAllWithin fuel (parentOf p) else .ok t) = .ok t₁ → t₁.Orderly := by
        intro t₁ h₁
        split at h₁
        · exact mkdirAllWithin_orderly h fuel h₁
        · cases h₁
          exact h
      split at hm
      · cases hm
      · next t₁ h₁ =>
        have ht₁ := habove t₁ h₁
        split at hm
        · cases hm
          exact mkdir_orderly ht₁ ‹_›
        · split at hm
          · cases hm
            exact ht₁
          · cases hm

/-- Making a path's missing directories keeps a tree orderly. -/
theorem mkdirAll_orderly (h : t.Orderly) {p : String} (hm : t.mkdirAll p = .ok t') :
    t'.Orderly :=
  mkdirAllWithin_orderly h _ hm

/-- Removing a subtree only drops paths. -/
theorem removeAll_orderly (h : t.Orderly) (p : String) : (t.removeAll p).Orderly where
  sorted := h.sorted.sublist List.filter_sublist
  tidy k hk := by
    obtain ⟨e, he, rfl⟩ := List.mem_map.1 hk
    exact h.tidy _ (List.mem_map_of_mem (List.mem_of_mem_filter he))

/-- Binding paths one after another keeps a tree orderly when every path bound is tidy. -/
theorem orderly_foldl_insert {f : Index FileNode → String × FileNode → Index FileNode}
    (hf : ∀ ix e, f ix e = ix.insert e.1 e.2) :
    ∀ {es : List (String × FileNode)} {t : FileTree}, t.Orderly → (∀ e ∈ es, Tidy e.1) →
      Orderly { t with nodes := es.foldl f t.nodes }
  | [], _, h, _ => h
  | e :: es, t, h, hes => by
    rw [List.foldl_cons, hf]
    exact orderly_foldl_insert hf (t := { t with nodes := t.nodes.insert e.1 e.2 })
      (h.insert (hes e List.mem_cons_self) e.2) fun e' he' => hes e' (List.mem_cons_of_mem _ he')

/-- What follows a text in a longer one is read back whole. -/
theorem drop_length_append (a b : String) : ((a ++ b).drop a.length).toString = b :=
  String.ext (by simp [String.length])

/-- A tidy path below a tidy source, moved below a tidy target, is tidy: the pieces after the
source are not empty, and they follow the target as they followed the source. -/
theorem tidy_moved {s d k : String} (hs : Tidy s) (hd : Tidy d) (hk : Tidy k)
    (hbelow : below s k = true) : Tidy (d ++ (k.drop s.length).toString) := by
  have hs' : (s == "/") = false := by
    rw [beq_eq_false_iff_ne]
    rintro rfl
    exact not_tidy_top hs
  rw [below, hs', if_neg Bool.false_ne_true] at hbelow
  obtain ⟨rest, rfl⟩ := String.startsWith_iff_eq_append.1 hbelow
  rw [String.append_assoc, drop_length_append, ← String.append_assoc]
  exact tidy_append_slash_iff.2 ⟨hd, (tidy_append_slash_iff.1 hk).2⟩

/-- Moving between two tidy places keeps a tree orderly: what is left after removing both places
is, and every path moved is tidy. -/
theorem move_orderly (h : t.Orderly) {src dst : String} (hs : Tidy (normal src))
    (hd : Tidy (normal dst)) (hm : rename.move t src dst = .ok t') : t'.Orderly := by
  unfold rename.move at hm
  cases hm
  refine orderly_foldl_insert (fun _ _ => rfl)
    (removeAll_orderly (removeAll_orderly h _) _) fun e he => ?_
  obtain ⟨⟨k, v⟩, hkv, hmoved⟩ := List.mem_filterMap.1 he
  have hk : Tidy k := h.tidy k (List.mem_map_of_mem hkv)
  dsimp only at hmoved
  split at hmoved
  · cases hmoved
    exact hd
  · split at hmoved
    · cases hmoved
      exact tidy_moved hs hd hk ‹_›
    · cases hmoved

/-- A rename that succeeds moves its source to its target. -/
theorem rename_eq_move {src dst : String} (hr : t.rename src dst = .ok t') :
    rename.move t src dst = .ok t' := by
  unfold rename at hr
  dsimp only at hr
  split at hr
  · cases hr
  · cases hr
  · cases hr
  · split at hr
    · cases hr
    · cases hr
    · split at hr
      · cases hr
      · exact hr
    · exact hr

/-- Renaming between two paths that name something keeps a tree orderly. -/
theorem rename_orderly (h : t.Orderly) {src dst : String} (hs : names src ≠ [])
    (hd : names dst ≠ []) (hr : t.rename src dst = .ok t') : t'.Orderly :=
  move_orderly h (tidy_normal hs) (tidy_normal hd) (rename_eq_move hr)

end Operations

/-! ## Paths with a name at the end -/

/-- A piece without separators added at the end of a text extends its last piece. -/
theorem splitOn_append_piece (y : String) {z : String} (hz : '/' ∉ z.toList) :
    ∃ init u, '/' ∉ u.toList ∧ (y ++ z).splitOn "/" = init ++ [u ++ z] := by
  obtain ⟨init, u, hl⟩ := (List.eq_nil_or_concat (y.splitOn "/")).resolve_left
    (splitOn_slash_ne_nil y)
  rw [List.concat_eq_append] at hl
  have hmem : u ∈ y.splitOn "/" := by simp [hl]
  have hu : '/' ∉ u.toList := slash_not_mem_of_mem_splitOn hmem
  have huz : '/' ∉ (u ++ z).toList := by simp [hu, hz]
  have hy := intercalate_splitOn_slash y
  rw [hl] at hy
  refine ⟨init, u, hu, ?_⟩
  by_cases hinit : init = []
  · subst hinit
    rw [List.nil_append, String.intercalate_singleton] at hy
    rw [List.nil_append, ← hy, ObjectStore.splitOn_slash_of_not_mem huz]
  · rw [String.intercalate_append_of_ne_nil hinit (List.cons_ne_nil _ _),
      String.intercalate_singleton] at hy
    rw [← hy, String.append_assoc, ObjectStore.splitOn_slash_append,
      splitOn_intercalate_slash hinit fun t ht =>
        slash_not_mem_of_mem_splitOn (hl ▸ List.mem_append_left _ ht),
      ObjectStore.splitOn_slash_of_not_mem huz]

/-- A name of three characters or more, without separators, is a segment. -/
theorem segment_of_length {w : String} (hw : '/' ∉ w.toList) (hlen : 3 ≤ w.length) :
    Path.Segment w where
  ne_empty h := absurd (h ▸ hlen) (by decide)
  ne_dot h := absurd (h ▸ hlen) (by decide)
  ne_dotdot h := absurd (h ▸ hlen) (by decide)
  no_sep := hw

/-- A text that ends with a name of three characters or more keeps a name when cleaned: its last
piece is that name or longer, and reading it pushes it onto the names kept. -/
theorem names_clean_append {y z : String} (hz : '/' ∉ z.toList) (hlen : 3 ≤ z.length) :
    names (clean (y ++ z)) ≠ [] := by
  obtain ⟨init, u, hu, hsplit⟩ := splitOn_append_piece y hz
  have hseg : Path.Segment (u ++ z) :=
    segment_of_length (by simp [hu, hz]) (by rw [String.length_append]; omega)
  have hS := pieces_clean_names ((y ++ z).startsWith "/") (y ++ z)
  have hne : ((y ++ z).splitOn "/").foldl (cleanStep ((y ++ z).startsWith "/")) [] ≠ [] := by
    rw [hsplit, List.foldl_append, List.foldl_cons, List.foldl_nil, cleanStep_segment _ _ hseg]
    exact List.cons_ne_nil _ _
  unfold clean
  dsimp only
  generalize ((y ++ z).splitOn "/").foldl (cleanStep ((y ++ z).startsWith "/")) [] = K at hne hS
  have hK : K.reverse ≠ [] := by simpa using hne
  split
  · rwa [names_slash_intercalate hS]
  · split
    · rw [names, splitOn_slash]
      decide
    · rwa [names_intercalate hS]

end FileTree

/-! ## Runs that keep an invariant of the state -/

section Keeping

variable {σ ε α : Type} {R : σ → σ → Prop}

/-- A computation that starts by reading the state keeps `R` when what follows keeps it from the
state read. -/
theorem Keeps.get_bind {f : σ → EStateM ε σ α} (hf : ∀ s, R s (endState ((f s).run s))) :
    Keeps R (get >>= f) := by
  intro s
  simpa [EStateM.run_bind] using hf s

/-- Setting a state related to the current one, and then going on in a way that keeps `R`, keeps
`R`. -/
theorem Keeps.set_bind [IsPreorder σ R] {s s' : σ} {g : PUnit → EStateM ε σ α} (hs : R s s')
    (hg : Keeps R (g ⟨⟩)) :
    R s (endState ((set s' >>= g).run s)) := by
  simpa [EStateM.run_bind] using trans_of R hs (hg s')

end Keeping

namespace LocalStore

/-! ## Every operation keeps the tree orderly -/

/-- A step from `s` to `s'` keeps the tree orderly when it was. -/
def KeepsOrder (s s' : LocalStore) : Prop := s.tree.Orderly → s'.tree.Orderly

/-- Keeping the tree orderly is reflexive and transitive. -/
instance : IsPreorder LocalStore KeepsOrder where
  refl _ h := h
  trans _ _ _ h₁ h₂ h := h₂ (h₁ h)

/-- A change of the tree that keeps every orderly tree orderly keeps the store's tree so. -/
theorem change_keeps {f : FileTree → Except FileError FileTree}
    (hf : ∀ t t', t.Orderly → f t = .ok t' → t'.Orderly) : Keeps KeepsOrder (change f) := by
  unfold change
  refine Keeps.get_bind fun s => ?_
  split
  · next t ht => exact Keeps.set_bind (fun h => hf _ _ h ht) (Keeps.pure ())
  · exact Keeps.throw _ s

/-- Handing a result to the storage keeps the tree orderly. -/
theorem orThrow_keeps {α : Type} (x : Except Error α) : Keeps KeepsOrder (orThrow x) := by
  cases x with
  | ok a => exact Keeps.pure a
  | error e => exact Keeps.throw e

/-- Taking a new id leaves the tree alone. -/
theorem freshId_keeps : Keeps KeepsOrder freshId := by
  unfold freshId
  refine Keeps.get_bind fun s => ?_
  exact Keeps.set_bind id (Keeps.pure _)

/-- The place of a record keeps a name when cleaned: the record's own name. -/
theorem names_recordPath (st : LocalStore) (path : String) :
    FileTree.names (st.recordPath path) ≠ [] :=
  FileTree.names_clean_append (by decide) (by decide)

/-- The temporary file of a record has a name: the record's name and the mark of a temporary
file. -/
theorem names_tmp (target : String) : FileTree.names (target ++ ".tmp") ≠ [] := by
  obtain ⟨init, u, -, hsplit⟩ := FileTree.splitOn_append_piece target (z := ".tmp") (by decide)
  have hpiece : u ++ ".tmp" ∈ FileTree.names (target ++ ".tmp") := by
    rw [FileTree.names, List.mem_filter, hsplit]
    exact ⟨by simp, by simp⟩
  exact List.ne_nil_of_mem hpiece

/-- Replacing a record makes the directories above it, writes its temporary file and renames it
into place, all between places that name something. -/
theorem writeRecord_keeps (path : String) (r : Record) : Keeps KeepsOrder (writeRecord path r) := by
  unfold writeRecord
  refine Keeps.get_bind fun s => ?_
  refine Keeps.seq (change_keeps fun _ _ h hm => FileTree.mkdirAll_orderly h hm) (fun _ =>
    Keeps.seq (change_keeps fun _ _ h hw => FileTree.writeFile_orderly h hw) fun _ =>
      change_keeps fun _ _ h hr => FileTree.rename_orderly h (names_tmp _)
        (names_recordPath s path) hr) s

/-- Looking at an item leaves the tree alone. -/
theorem statItem_keeps (path : String) : Keeps KeepsOrder (statItem path) := by
  unfold statItem
  refine Keeps.get_bind fun s => ?_
  split
  · exact Keeps.pure _ s
  · exact Keeps.ite (Keeps.throw _) (Keeps.throw _) s

/-- Opening the store makes at most the missing directories of its root. -/
theorem start_keeps : Keeps KeepsOrder start := by
  unfold start
  refine Keeps.get_bind fun s => ?_
  split
  · exact Keeps.ite (Keeps.throw _) (Keeps.throw _) s
  · exact Keeps.throw _ s
  · exact change_keeps (fun _ _ h hm => FileTree.mkdirAll_orderly h hm) s

/-- Asking whether a path is present leaves the tree alone. -/
theorem present_keeps (path : String) : Keeps KeepsOrder (present path) := by
  unfold present
  refine Keeps.seq (orThrow_keeps _) fun _ => Keeps.get_bind fun s => ?_
  split
  · exact Keeps.pure _ s
  · exact Keeps.ite (Keeps.pure _) (Keeps.throw _) s

/-- Creating a container makes its directory when it is missing, and writes its record only when
that is missing. -/
theorem createContainer_keeps (name : String) : Keeps KeepsOrder (createContainer name) := by
  unfold createContainer
  refine Keeps.seq (orThrow_keeps _) fun _ => ?_
  extract_lets record make
  have hrecord : ∀ u, Keeps KeepsOrder (record u) := fun _ =>
    Keeps.get_bind fun s => Keeps.ite (Keeps.pure ()) (Keeps.seq freshId_keeps fun _ =>
      Keeps.seq (orThrow_keeps _) fun r => writeRecord_keeps name r) s
  have hmake : ∀ u, Keeps KeepsOrder (make u) := fun _ => Keeps.get_bind fun s => by
    split
    · next t ht => exact Keeps.set_bind (fun h => FileTree.mkdir_orderly h ht) (hrecord ())
    · exact Keeps.ite (hrecord ()) (Keeps.throw_bind _ _) s
  exact Keeps.ite (Keeps.throw_bind _ _) (hmake ())

/-- Walking down and creating what is missing keeps the tree orderly, by induction on the segments
still to walk. -/
theorem createBelow_keeps (folder : Bool) :
    ∀ (segs : List String) (current : String) (parent : AccessControl),
      Keeps KeepsOrder (createBelow folder current parent segs)
  | [], _, _ => by
    unfold createBelow
    exact Keeps.pure ()
  | seg :: rest, current, parent => by
    unfold createBelow
    refine Keeps.get_bind fun s => ?_
    split
    · exact Keeps.ite (Keeps.ite (Keeps.pure ()) (Keeps.throw _)) (Keeps.ite (Keeps.throw _)
        (Keeps.seq (orThrow_keeps _) fun above => createBelow_keeps folder rest _ above)) s
    · refine (?_ : Keeps KeepsOrder _) s
      extract_lets ac written made
      have hwritten : ∀ u, Keeps KeepsOrder (written u) := fun _ =>
        Keeps.seq freshId_keeps fun _ => Keeps.seq (orThrow_keeps _) fun r =>
          Keeps.seq (writeRecord_keeps _ r) fun _ => createBelow_keeps folder rest _ _
      have hmade : ∀ u, Keeps KeepsOrder (made u) := fun _ =>
        Keeps.ite (Keeps.seq (change_keeps fun _ _ h hm => FileTree.mkdir_orderly h hm) hwritten)
          (Keeps.seq (change_keeps fun _ _ h hw => FileTree.writeFile_orderly h hw) hwritten)
      exact Keeps.ite (Keeps.throw_bind _ _) (hmade ())

/-- Creating a directory or a file keeps the tree orderly. -/
theorem create_keeps (path : String) (folder : Bool) : Keeps KeepsOrder (create path folder) := by
  unfold create
  refine Keeps.seq (orThrow_keeps _) fun _ => ?_
  extract_lets below
  have hbelow : ∀ u, Keeps KeepsOrder (below u) := fun _ => by
    dsimp only [below]
    refine Keeps.get_bind fun s => ?_
    split
    · exact Keeps.seq (orThrow_keeps _) (fun parent => createBelow_keeps folder _ _ parent) s
    · exact Keeps.throw_bind _ _ s
  exact Keeps.ite (Keeps.throw_bind _ _) (hbelow ())

/-- Reading a state leaves the tree alone. -/
theorem readAccess_keeps (path : String) (upn : Bool) : Keeps KeepsOrder (readAccess path upn) :=
  Keeps.seq (orThrow_keeps _) fun _ => Keeps.seq (statItem_keeps path) fun _ =>
    Keeps.get_bind fun s => orThrow_keeps _ s

/-- Writing a state replaces the item's record, which keeps the tree orderly. -/
theorem writeAccess_keeps (path : String) (ac : Option AccessControl) :
    Keeps KeepsOrder (writeAccess path ac) := by
  unfold writeAccess
  refine Keeps.seq (orThrow_keeps _) fun _ => Keeps.seq (statItem_keeps path) fun _ =>
    Keeps.seq (orThrow_keeps _) fun _ => Keeps.seq freshId_keeps fun _ =>
      Keeps.get_bind fun s => ?_
  extract_lets stored
  have hstored : ∀ id, Keeps KeepsOrder (stored id) := fun _ =>
    Keeps.seq (orThrow_keeps _) fun r => writeRecord_keeps path r
  split
  · exact Keeps.seq (Keeps.pure _) hstored s
  · exact Keeps.seq (Keeps.pure _) hstored s
  · exact Keeps.throw_bind _ _ s

/-- A listing leaves the tree alone. -/
theorem list_keeps (path : String) (recursive : Bool) (max : Int) :
    Keeps KeepsOrder (list path recursive max) := by
  unfold list
  refine Keeps.seq (orThrow_keeps _) fun _ => Keeps.seq (statItem_keeps path) fun _ => ?_
  extract_lets answer
  have hanswer : ∀ u, Keeps KeepsOrder (answer u) := fun _ =>
    Keeps.get_bind fun s => Keeps.pure _ s
  exact Keeps.ite (Keeps.throw_bind _ _) (hanswer ())

/-- Listing the containers leaves the tree alone. -/
theorem containers_keeps : Keeps KeepsOrder containers := by
  unfold containers
  refine Keeps.get_bind fun s => ?_
  split
  · exact Keeps.throw _ s
  · exact Keeps.pure _ s

/-- Every operation of the storage keeps its tree orderly, whether it returns or fails. -/
theorem perform_keeps (c : Call) : Keeps KeepsOrder (storage.perform c) := by
  cases c with
  | present p => exact present_keeps p
  | createContainer n => exact createContainer_keeps n
  | createDirectory p => exact create_keeps p true
  | readAccess p upn => exact readAccess_keeps p upn
  | writeAccess p ac => exact writeAccess_keeps p ac
  | list p r max => exact list_keeps p r max
  | listContainers => exact containers_keeps

/-- Writing a file, making directories or removing a subtree behind the storage's back keeps its
tree orderly too. -/
theorem changeFiles_keeps (fc : FileChange) : Keeps KeepsOrder (changeFiles fc) := by
  cases fc with
  | write p c =>
    unfold changeFiles
    exact Keeps.get_bind fun s =>
      Keeps.seq (change_keeps fun _ _ h hm => FileTree.mkdirAll_orderly h hm) (fun _ =>
        change_keeps fun _ _ h hw => FileTree.writeFile_orderly h hw) s
  | makeDirectories p =>
    unfold changeFiles
    exact Keeps.get_bind fun s => change_keeps (fun _ _ h hm => FileTree.mkdirAll_orderly h hm) s
  | remove p =>
    unfold changeFiles
    exact Keeps.get_bind fun s h => FileTree.removeAll_orderly h _

/-! ## The stores a session reaches -/

/-- The tree of a new session: the directory `tree` of `<root>`. -/
theorem initial_orderly : initial.tree.Orderly where
  sorted := Index.Sorted.insert List.Pairwise.nil _ _
  tidy k hk := by
    have hk' : k = "<root>/tree" := by
      simpa [initial, Index.keys, Index.insert, Index.insertInto] using hk
    rw [hk', FileTree.Tidy, splitOn_slash]
    decide

/-- The stores a session over the local storage reaches from its first tree through the storage's
operations, the creation of files, reopening it and changes of its files behind its back, each
whether it returns or fails. -/
inductive Reachable : LocalStore → Prop
  | fresh : Reachable initial
  | call {st : LocalStore} (c : Call) : Reachable st →
      Reachable (endState ((storage.perform c).run st))
  | createFile {st : LocalStore} (p : String) : Reachable st →
      Reachable (endState ((create p false).run st))
  | reopen {st : LocalStore} : Reachable st → Reachable (endState (start.run st))
  | files {st : LocalStore} (fc : FileChange) : Reachable st →
      Reachable (endState ((changeFiles fc).run st))

/-- Every store a session reaches holds an orderly tree. -/
theorem Reachable.orderly {st : LocalStore} (hr : Reachable st) : st.tree.Orderly := by
  induction hr with
  | fresh => exact initial_orderly
  | call c _ ih => exact perform_keeps c _ ih
  | createFile p _ ih => exact create_keeps p false _ ih
  | reopen _ ih => exact start_keeps _ ih
  | files fc _ ih => exact changeFiles_keeps fc _ ih

/-- Every store a session reaches holds a well-formed tree. -/
theorem Reachable.wellFormed {st : LocalStore} (hr : Reachable st) : st.tree.WellFormed :=
  hr.orderly.wellFormed

/-- In every store a session reaches, a listing of a valid directory holds exactly the stored items
below it, with recursion off only those one level below, each with its node's kind, in increasing
path order, cut to the first `max` when `max` is positive. -/
theorem Reachable.list_lists_below {st : LocalStore} (hr : Reachable st) {p : String}
    (hvalid : validate p = .ok ()) (hdir : st.tree.stat (st.itemPath p) = .ok .directory)
    (r : Bool) (max : Int) :
    ∃ answer, (list p r max).run st = .ok answer st ∧
      ListingOf (ItemsBelow (st.kindBelow p) p r) max answer :=
  LocalStore.list_lists_below hr.wellFormed hvalid hdir r max

end LocalStore

end AclReconcile
