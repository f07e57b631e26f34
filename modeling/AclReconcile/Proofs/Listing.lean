import AclReconcile.Proofs.Overwrite
import AclReconcile.Proofs.Inheritance
import AclReconcile.Proofs.TreePaths

/-!
# A listing holds exactly the items below a directory, in path order

A listing of a directory `p` must answer with the items `p/rel` for every stored place `rel`
below it, with recursion off only those one level below, each once and with the kind stored,
in increasing path order, cut to the first `max` of them when `max` is positive
(`ListingOf`, `ItemsBelow`). Both the memory storage and the local storage do
(`list_answers_items_below`).

The memory storage does not look at every path: it starts at the directory's path followed by a
separator and stops at the first path that does not begin with it. That misses nothing because
the paths that begin with a text lie together in path order: a path between a text and a path
that begins with it begins with it too (`List.prefix_of_between`). So in a sorted index, scanning
from a text while the paths begin with it is filtering the whole index by it
(`Index.scan_eq_filter`). Every store the memory storage reaches is sorted and never binds the
empty path (`MemoryStore.Reachable.empty_unbound`), so the directory's path is not empty and
"below it" means "begins with it and a separator" (`MemoryStore.list_lists_below`).

The local storage reads every path of its tree below the directory's place and sorts the items
it makes of them. In a tree whose paths are sorted and in normal form (`FileTree.WellFormed`:
none ends with a separator or holds two in a row), what follows the place and a separator is an
inner path, which the item takes after `p` and a separator; so the items come in the order of
the paths already, and the sort leaves them as they are (`LocalStore.list_lists_below`).
-/

namespace AclReconcile

/-! ## Texts with a common beginning lie together -/

/-- A list that, once a test fails on it, fails the test ever after, is taken while the test
holds exactly as it is filtered by the test. -/
theorem List.takeWhile_eq_filter_of_pairwise {α : Type} {p : α → Bool} :
    ∀ {l : List α}, l.Pairwise (fun a b => p a = false → p b = false) →
      l.takeWhile p = l.filter p
  | [], _ => rfl
  | a :: l, h => by
    rw [List.pairwise_cons] at h
    cases hp : p a
    · rw [List.takeWhile_cons_of_neg (by simp [hp]), List.filter_cons_of_neg (by simp [hp]),
        List.filter_eq_nil_iff.2 fun b hb => by simp [h.1 b hb hp]]
    · rw [List.takeWhile_cons_of_pos hp, List.filter_cons_of_pos hp,
        takeWhile_eq_filter_of_pairwise h.2]

/-- A list of characters from `pre` on and before `pre` followed by more begins with `pre`: the
first characters agree, and the rest lies between the rests again. -/
theorem List.prefix_of_between :
    ∀ {pre a t : List Char}, ¬ a < pre → a < pre ++ t → pre <+: a
  | [], _, _, _, _ => List.nil_prefix
  | x :: pre, [], _, h₁, _ => absurd (List.nil_lt_cons x pre) h₁
  | x :: pre, y :: a, t, h₁, h₂ => by
    rw [List.cons_lt_cons_iff] at h₁
    rw [List.cons_append, List.cons_lt_cons_iff] at h₂
    obtain ⟨rfl, hrest⟩ := h₂.resolve_left fun hyx => h₁ (.inl hyx)
    exact List.cons_prefix_cons.2
      ⟨rfl, prefix_of_between (fun h => h₁ (.inr ⟨rfl, h⟩)) hrest⟩

/-- A list of characters that begins with `pre` does not come before it. -/
theorem List.not_lt_of_prefix : ∀ {pre a : List Char}, pre <+: a → ¬ a < pre
  | [], _, _ => List.not_lt_nil _
  | _ :: _, [], h => absurd h (by simp)
  | x :: pre, y :: a, h => by
    obtain ⟨rfl, hrest⟩ := List.cons_prefix_cons.1 h
    rw [List.cons_lt_cons_iff]
    rintro (hlt | ⟨-, hlt⟩)
    · exact lt_irrefl _ hlt
    · exact not_lt_of_prefix hrest hlt

/-- A text between `pre` and a text that begins with `pre` begins with `pre`. -/
theorem String.startsWith_of_between {pre k k' : String} (h₁ : ¬ k < pre) (h₂ : k < k')
    (h₃ : k'.startsWith pre = true) : k.startsWith pre = true := by
  rw [String.startsWith_string_iff] at h₃ ⊢
  obtain ⟨t, ht⟩ := h₃
  rw [String.lt_iff] at h₁ h₂
  exact List.prefix_of_between h₁ (ht ▸ h₂)

/-- A text that begins with `pre` does not come before it. -/
theorem String.not_lt_of_startsWith {pre k : String} (h : k.startsWith pre = true) :
    ¬ k < pre := by
  rw [String.startsWith_string_iff] at h
  rw [String.lt_iff]
  exact List.not_lt_of_prefix h

namespace Index

variable {α : Type}

/-- In a sorted index, scanning from `pre` while the keys begin with `pre` finds every binding
whose key begins with `pre`: among the keys from `pre` on, one that does not begin with `pre` is
followed by none that does. -/
theorem scan_eq_filter {ix : Index α} (hs : ix.Sorted) (pre : String) :
    (ix.atOrAfter pre).takeWhile (fun e => e.1.startsWith pre) =
      ix.entries.filter fun e => e.1.startsWith pre := by
  unfold atOrAfter
  have hgap : (ix.entries.filter fun e => !(decide (e.1 < pre))).Pairwise
      (fun a b => a.1.startsWith pre = false → b.1.startsWith pre = false) := by
    refine ((List.Pairwise.filter _ hs).imp_of_mem ?_)
    intro a b ha _ hab hna
    have ha' : ¬ a.1 < pre := by simpa using (List.mem_filter.1 ha).2
    by_contra hb
    have := String.startsWith_of_between ha' hab (by simpa using hb)
    simp [this] at hna
  rw [List.takeWhile_eq_filter_of_pairwise hgap, List.filter_filter]
  refine List.filter_congr fun e _ => ?_
  cases h : e.1.startsWith pre
  · simp
  · simp [String.not_lt_of_startsWith h]

/-- A binding of a sorted index is what its key looks up, and only those are. -/
theorem mem_entries_iff {ix : Index α} (hs : ix.Sorted) {k : String} {v : α} :
    (k, v) ∈ ix.entries ↔ ix.get? k = some v := by
  refine ⟨get?_of_mem hs, fun h => ?_⟩
  obtain ⟨l₁, l₂, heq, -⟩ := List.lookup_eq_some_iff.1 h
  rw [heq]
  simp

end Index

/-- A text begins with `pre` exactly when it is `pre` followed by some text. -/
theorem String.startsWith_iff_eq_append {pre k : String} :
    k.startsWith pre = true ↔ ∃ rest, k = pre ++ rest := by
  rw [String.startsWith_string_iff]
  constructor
  · rintro ⟨t, ht⟩
    exact ⟨String.ofList t, String.ext (by simp [ht])⟩
  · rintro ⟨rest, rfl⟩
    simp

/-- What follows `pre` in `pre ++ rest` holds a character exactly when `rest` does. -/
theorem String.drop_append_contains (pre rest : String) (c : Char) :
    ((pre ++ rest).drop pre.length).contains c = true ↔ c ∈ rest.toList := by
  simp [String.length]

/-! ## The empty path is never bound -/

namespace MemoryStore

variable {st : MemoryStore}

/-- Binding paths other than the empty one leaves the empty one unbound. -/
theorem empty_unbound_foldl {news : List (String × MemoryNode)}
    (hne : ∀ e ∈ news, e.1 ≠ "") :
    ∀ {ix : Index MemoryNode}, ix.get? "" = none →
      (news.foldl (fun ix e => ix.insert e.1 e.2) ix).get? "" = none := by
  induction news with
  | nil => exact id
  | cons e news ih =>
    intro ix h
    rw [List.foldl_cons]
    refine ih (fun e' he' => hne e' (List.mem_cons_of_mem _ he')) ?_
    rw [Index.get?_insert_of_ne _ _ (hne e List.mem_cons_self).symm, h]

/-- A path on the way down to a path lies below its container, so it is not empty. -/
theorem ne_empty_of_mem_chain {p k : String} (h : k ∈ Path.chain p) : k ≠ "" := by
  unfold Path.chain at h
  split at h
  · cases h
  · next c rest _ =>
    obtain ⟨j, hj, hjl, rfl⟩ := Path.mem_chainBelow h
    obtain ⟨b, rest', hb⟩ := List.exists_cons_of_ne_nil
      (List.ne_nil_of_length_pos (by simp; omega : 0 < (rest.take j).length))
    intro hk
    have hsep := Path.slash_mem_intercalate c b rest'
    rw [← List.singleton_append, ← hb, hk] at hsep
    simp at hsep

/-- Creating a container leaves the empty path unbound: a container that is bound has a name. -/
theorem createContainer_keeps_empty_unbound (h : st.nodes.get? "" = none) (name : String) :
    (endState ((createContainer name).run st)).nodes.get? "" = none := by
  unfold createContainer
  cases hv : validateContainer name with
  | error e => simpa [hv] using h
  | ok u =>
    have hname : "" ≠ name := by
      unfold validateContainer at hv
      split at hv
      · cases hv
      · next hcond => exact fun heq => hcond (by simp [← heq])
    simp only [EStateM.run_bind, EStateM.run_get]
    split
    · simp [EStateM.run_modify, Index.get?_insert_of_ne _ _ hname, h]
    · simpa using h

/-- Creating a directory or a file from a consistent store leaves the empty path unbound: it binds
only paths on the way down to the path created. -/
theorem create_keeps_empty_unbound (hc : st.Consistent) (h : st.nodes.get? "" = none) (q : String)
    (folder : Bool) : (endState ((create q folder).run st)).nodes.get? "" = none := by
  cases hrun : (create q folder).run st with
  | ok _ st' =>
    obtain ⟨news, hcr, -⟩ := create_creates hrun
    rw [endState_ok, hcr.store]
    refine empty_unbound_foldl (fun e he => ne_empty_of_mem_chain (p := q) ?_) h
    have hmem : e.1 ∈ news.map (·.1) := List.mem_map_of_mem he
    rw [hcr.paths] at hmem
    exact (List.mem_filter.1 hmem).1
  | error e st' =>
    rw [endState_error, (create_behaves hc q folder).unchanged hrun]
    exact h

/-- Writing a state leaves the empty path unbound: only a bound path is written. -/
theorem writeAccess_keeps_empty_unbound (h : st.nodes.get? "" = none) (q : String)
    (ac : Option AccessControl) : (endState ((writeAccess q ac).run st)).nodes.get? "" = none := by
  rw [writeAccess_run]
  cases hq : st.nodes.get? q with
  | none => exact h
  | some n =>
    have hne : "" ≠ q := fun heq => by rw [← heq, h] at hq; cases hq
    simp only
    split
    · exact h
    · simp [Index.get?_insert_of_ne _ _ hne, h]

/-- Every call of the memory storage from a consistent store leaves the empty path unbound. -/
theorem perform_keeps_empty_unbound (hc : st.Consistent) (h : st.nodes.get? "" = none) (c : Call) :
    (endState ((storage.perform c).run st)).nodes.get? "" = none := by
  cases c with
  | createContainer n => exact createContainer_keeps_empty_unbound h n
  | createDirectory q => exact create_keeps_empty_unbound hc h q true
  | writeAccess q ac => exact writeAccess_keeps_empty_unbound h q ac
  | present _ | readAccess _ _ | list _ _ _ | listContainers =>
    rw [perform_looks _ rfl st]
    exact h

/-- No store the memory storage reaches binds the empty path. -/
theorem Reachable.empty_unbound (hr : Reachable st) : st.nodes.get? "" = none := by
  induction hr with
  | empty => rfl
  | call c hr ih => exact perform_keeps_empty_unbound hr.consistent ih c
  | createFile p hr ih => exact create_keeps_empty_unbound hr.consistent ih p false
  | addPrincipal id name _ ih => exact ih

end MemoryStore

/-! ## What a listing answers -/

/-- `answer` lists the items that `holds` admits, as a listing must: each of them once, in
increasing path order, cut to the first `max` of them when `max` is positive. -/
def ListingOf (holds : Item → Prop) (max : Int) (answer : List Item) : Prop :=
  ∃ items, answer = limitItems items max ∧ items.Pairwise (fun a b => a.path < b.path) ∧
    ∀ it, it ∈ items ↔ holds it

/-- The items a listing of `p` must hold, where `kindAt rel` is the kind of what the storage
keeps at `rel` below `p`, if anything: the item `p/rel` for each such `rel`, with recursion off
only those one level below, with the kind found there. -/
def ItemsBelow (kindAt : String → Option Bool) (p : String) (recursive : Bool) (it : Item) :
    Prop :=
  ∃ rel, it.path = p ++ "/" ++ rel ∧ (recursive = true ∨ '/' ∉ rel.toList) ∧
    kindAt rel = some it.isFolder

namespace MemoryStore

variable {st : MemoryStore}

/-- The kind of the node stored at `rel` below `p`. -/
def kindBelow (st : MemoryStore) (p rel : String) : Option Bool :=
  (st.nodes.get? (p ++ "/" ++ rel)).map MemoryNode.folder

/-- In a sorted index, the listing of a directory with a non-empty path reads every binding
whose path begins with the directory's path and a separator. -/
theorem listing_eq_filter (hs : st.nodes.Sorted) {p : String} (hp : p ≠ "") (r : Bool)
    (k : Int) :
    listing st p r k = limitItems
      (((st.nodes.entries.filter fun e => e.1.startsWith (p ++ "/")).filter
        fun e => r || !(e.1.drop (p ++ "/").length).contains '/').map
          fun e => ⟨e.1, e.2.folder⟩) k := by
  have hbelow : (fun e : String × MemoryNode => Path.isBelow e.1 p) =
      fun e => e.1.startsWith (p ++ "/") := by
    funext e
    simp [Path.isBelow, hp]
  simp only [listing, hbelow, Index.scan_eq_filter hs]

/-- The listing keeps a path `pre ++ rel` with recursion on, and otherwise when `rel` has no
separator. -/
theorem keeps_child_iff (r : Bool) (pre rel : String) :
    (r || !((pre ++ rel).drop pre.length).contains '/') = true ↔
      r = true ∨ '/' ∉ rel.toList := by
  rw [Bool.or_eq_true, Bool.not_eq_true', ← Bool.not_eq_true, String.drop_append_contains]

/-- A binding below `p` that the listing keeps is an item the listing must hold, and back. -/
theorem itemsBelow_iff (hs : st.nodes.Sorted) (p : String) (r : Bool) (it : Item) :
    ItemsBelow (st.kindBelow p) p r it ↔
      ∃ e ∈ (st.nodes.entries.filter fun e => e.1.startsWith (p ++ "/")).filter
        (fun e => r || !(e.1.drop (p ++ "/").length).contains '/'),
        (⟨e.1, e.2.folder⟩ : Item) = it := by
  constructor
  · rintro ⟨rel, hpath, hchild, hkind⟩
    obtain ⟨n, hn, hfolder⟩ := Option.map_eq_some_iff.1 hkind
    refine ⟨(it.path, n), ?_, by rw [hfolder]⟩
    rw [← hpath] at hn
    refine List.mem_filter.2 ⟨List.mem_filter.2 ⟨(Index.mem_entries_iff hs).2 hn, ?_⟩, ?_⟩
    · exact String.startsWith_iff_eq_append.2 ⟨rel, hpath⟩
    · rw [hpath]
      exact (keeps_child_iff r _ rel).2 hchild
  · rintro ⟨e, he, rfl⟩
    obtain ⟨he, hchild⟩ := List.mem_filter.1 he
    obtain ⟨he, hstart⟩ := List.mem_filter.1 he
    obtain ⟨rel, hrel⟩ := String.startsWith_iff_eq_append.1 hstart
    rw [hrel] at hchild
    refine ⟨rel, hrel, (keeps_child_iff r _ rel).1 hchild, ?_⟩
    rw [kindBelow, ← hrel, (Index.mem_entries_iff hs).1 he, Option.map_some]

/-- A listing of a directory of a store the memory storage reaches holds exactly the stored items
below it, with recursion off only those one level below, each with its node's kind, in increasing
path order, cut to the first `max` when `max` is positive. The scan that starts after the
directory's path and stops at the first path not below it misses none of them. -/
theorem list_lists_below (hr : Reachable st) {p : String} {n : MemoryNode}
    (hn : st.nodes.get? p = some n) (hfolder : n.folder = true) (r : Bool) (max : Int) :
    ∃ answer, (list p r max).run st = .ok answer st ∧
      ListingOf (ItemsBelow (st.kindBelow p) p r) max answer := by
  have hs := hr.sorted
  have hp : p ≠ "" := by
    rintro rfl
    rw [hr.empty_unbound] at hn
    cases hn
  refine ⟨_, list_run_of_folder hn hfolder r max, _, listing_eq_filter hs hp r max, ?_,
    fun it => ?_⟩
  · exact List.pairwise_map.2 ((hs.filter _).filter _)
  · rw [itemsBelow_iff hs p r it, List.mem_map]

end MemoryStore

/-! ## The local storage -/

/-- Texts with a common beginning compare as what follows it. -/
theorem String.append_lt_append_left_iff (s a b : String) : s ++ a < s ++ b ↔ a < b := by
  rw [String.lt_iff, String.lt_iff, String.toList_append, String.toList_append]
  induction s.toList with
  | nil => rfl
  | cons c l ih => rw [List.cons_append, List.cons_append, List.cons_lt_cons_iff, ih]; simp

/-- A listing that is sorted already comes out of the sort as it is. -/
theorem listingOf_mergeSort {holds : Item → Prop} {items : List Item} (max : Int)
    (hsorted : items.Pairwise fun a b => a.path < b.path)
    (hmem : ∀ it, it ∈ items ↔ holds it) :
    ListingOf holds max (limitItems (items.mergeSort fun a b => !(b.path < a.path)) max) := by
  refine ⟨items, ?_, hsorted, hmem⟩
  rw [List.mergeSort_of_pairwise]
  exact hsorted.imp fun hab => by simpa using String.lt_asymm hab

namespace FileTree

/-- A tree whose paths are in increasing order and in normal form: none ends with a separator or
holds two separators in a row. -/
structure WellFormed (t : FileTree) : Prop where
  sorted : t.nodes.Sorted
  normal : ∀ e ∈ t.nodes.entries,
    e.1.toList.getLast? ≠ some '/' ∧ ¬ ['/', '/'] <:+: e.1.toList

/-- In a well-formed tree, what follows a directory's path and a separator in a stored path is an
inner path. -/
theorem WellFormed.inner_rest {t : FileTree} (hwf : t.WellFormed) {base rel : String}
    {n : FileNode} (he : (base ++ "/" ++ rel, n) ∈ t.nodes.entries) : Path.Inner rel := by
  obtain ⟨hlast, hinfix⟩ := hwf.normal _ he
  have hk : (base ++ "/" ++ rel).toList = base.toList ++ '/' :: rel.toList := by simp
  rw [hk] at hlast hinfix
  have hne : rel ≠ "" := by
    rintro rfl
    simp at hlast
  refine ⟨hne, fun hhead => hinfix ?_, fun hend => hlast ?_⟩
  · obtain ⟨rest, hrest⟩ := List.head?_eq_some_iff.1 hhead
    exact ⟨base.toList, rest, by simp [hrest]⟩
  · rw [← List.singleton_append, ← List.append_assoc, List.getLast?_append_of_ne_nil _
      (by simpa using hne)]
    exact hend

end FileTree

namespace LocalStore

variable {st : LocalStore}

/-- The kind of the node stored at `rel` below the place of `p`. -/
def kindBelow (st : LocalStore) (p rel : String) : Option Bool :=
  (st.tree.nodes.get? (st.itemPath p ++ "/" ++ rel)).map FileNode.isDirectory

/-- A path the local storage accepts is a valid path. -/
theorem path_validate_of_validate {p : String} (h : validate p = .ok ()) :
    Path.validate p = .ok () := by
  unfold validate at h
  cases hv : Path.validate p with
  | error e => simp [hv, bind, Except.bind] at h
  | ok u => rfl

/-- A listing of a valid directory of the local storage reads the tree once and sorts. -/
theorem list_run {p : String} (hvalid : validate p = .ok ())
    (hdir : st.tree.stat (st.itemPath p) = .ok .directory) (r : Bool) (max : Int) :
    ∃ answer, (list p r max).run st = .ok answer st ∧
      answer = limitItems (((st.tree.descendants (st.itemPath p)).filterMap fun e =>
        if r || !((e.1.drop ((st.itemPath p).length + 1)).toString.contains '/') then
          some (⟨Path.join [p, (e.1.drop ((st.itemPath p).length + 1)).toString],
            e.2.isDirectory⟩ : Item)
        else none).mergeSort fun a b => !(b.path < a.path)) max := by
  refine ⟨_, ?_, rfl⟩
  simp [list, hvalid, orThrow, statItem, hdir, FileNode.isDirectory, EStateM.run_bind]

/-- What follows a place and a separator is read back whole. -/
theorem drop_place (base rel : String) :
    ((base ++ "/" ++ rel).drop (base.length + 1)).toString = rel :=
  String.ext (by simp [String.length])

/-- A stored path below the place of a valid `p` is that place, a separator and an inner rest
`rel`, which the listing reads back as `rel` and lists as the item `p/rel`. -/
theorem entry_below (hwf : st.tree.WellFormed) {p : String} (hp : Path.validate p = .ok ())
    {k : String} {n : FileNode}
    (he : (k, n) ∈ st.tree.nodes.entries.filter fun e => e.1.startsWith (st.itemPath p ++ "/")) :
    ∃ rel, k = st.itemPath p ++ "/" ++ rel ∧
      (k.drop ((st.itemPath p).length + 1)).toString = rel ∧
      Path.join [p, rel] = p ++ "/" ++ rel ∧ st.tree.nodes.get? k = some n := by
  obtain ⟨he, hstart⟩ := List.mem_filter.1 he
  obtain ⟨rel, rfl⟩ := String.startsWith_iff_eq_append.1 hstart
  refine ⟨rel, rfl, drop_place _ rel, ?_, (Index.mem_entries_iff hwf.sorted).1 he⟩
  exact Path.join_inner (Path.inner_of_validate hp) (hwf.inner_rest he)

/-- A listing of a valid directory of a well-formed tree of the local storage holds exactly the
stored items below it, with recursion off only those one level below, each with its node's kind,
in increasing path order, cut to the first `max` when `max` is positive. -/
theorem list_lists_below (hwf : st.tree.WellFormed) {p : String} (hvalid : validate p = .ok ())
    (hdir : st.tree.stat (st.itemPath p) = .ok .directory) (r : Bool) (max : Int) :
    ∃ answer, (list p r max).run st = .ok answer st ∧
      ListingOf (ItemsBelow (st.kindBelow p) p r) max answer := by
  have hp := path_validate_of_validate hvalid
  obtain ⟨answer, hrun, rfl⟩ := list_run hvalid hdir r max
  refine ⟨_, hrun, listingOf_mergeSort max ?_ fun it => ?_⟩
  · rw [descendants_itemPath st hp, List.pairwise_filterMap]
    refine (hwf.sorted.filter _).imp_of_mem ?_
    rintro ⟨k₁, n₁⟩ ⟨k₂, n₂⟩ he₁ he₂ hlt x₁ hx₁ x₂ hx₂
    obtain ⟨rel₁, rfl, hdrop₁, hjoin₁, -⟩ := entry_below hwf hp he₁
    obtain ⟨rel₂, rfl, hdrop₂, hjoin₂, -⟩ := entry_below hwf hp he₂
    simp only [hdrop₁, hjoin₁, Option.ite_none_right_eq_some,
      Option.some.injEq] at hx₁
    simp only [hdrop₂, hjoin₂, Option.ite_none_right_eq_some,
      Option.some.injEq] at hx₂
    rw [← hx₁.2, ← hx₂.2]
    exact (String.append_lt_append_left_iff _ _ _).2
      ((String.append_lt_append_left_iff _ _ _).1 hlt)
  · rw [descendants_itemPath st hp, List.mem_filterMap]
    constructor
    · rintro ⟨⟨k, n⟩, he, hf⟩
      obtain ⟨rel, rfl, hdrop, hjoin, hn⟩ := entry_below hwf hp he
      simp only [hdrop, hjoin, Option.ite_none_right_eq_some, Option.some.injEq] at hf
      obtain ⟨hchild, rfl⟩ := hf
      exact ⟨rel, rfl, by simpa using hchild, by simp [kindBelow, hn]⟩
    · rintro ⟨rel, hpath, hchild, hkind⟩
      obtain ⟨n, hn, hkind⟩ := Option.map_eq_some_iff.1 hkind
      have he : (st.itemPath p ++ "/" ++ rel, n) ∈
          st.tree.nodes.entries.filter fun e => e.1.startsWith (st.itemPath p ++ "/") :=
        List.mem_filter.2 ⟨(Index.mem_entries_iff hwf.sorted).2 hn,
          String.startsWith_iff_eq_append.2 ⟨rel, rfl⟩⟩
      have hjoin := Path.join_inner (Path.inner_of_validate hp)
        (hwf.inner_rest (List.mem_filter.1 he).1)
      refine ⟨_, he, ?_⟩
      simp only [drop_place, hjoin, Option.ite_none_right_eq_some, Option.some.injEq]
      refine ⟨by simpa using hchild, ?_⟩
      rw [← hpath, hkind]

end LocalStore

/-! ## Both storages -/

/-- A listing of a directory holds exactly the items below it, each once and with its kind, with
recursion off only those one level below, in increasing path order, cut to the first `max` when
`max` is positive: on the memory storage for every directory of a store it reaches, the scan
from the directory's path missing none of them, and on the local storage for every valid
directory of a well-formed tree. -/
theorem list_answers_items_below :
    (∀ (st : MemoryStore) (p : String) (n : MemoryNode), MemoryStore.Reachable st →
      st.nodes.get? p = some n → n.folder = true → ∀ r max, ∃ answer,
        (MemoryStore.list p r max).run st = .ok answer st ∧
          ListingOf (ItemsBelow (st.kindBelow p) p r) max answer) ∧
    (∀ (st : LocalStore) (p : String), st.tree.WellFormed → LocalStore.validate p = .ok () →
      st.tree.stat (st.itemPath p) = .ok .directory → ∀ r max, ∃ answer,
        (LocalStore.list p r max).run st = .ok answer st ∧
          ListingOf (ItemsBelow (st.kindBelow p) p r) max answer) :=
  ⟨fun _ _ _ hr hn hfolder => MemoryStore.list_lists_below hr hn hfolder,
    fun _ _ hwf hvalid hdir => LocalStore.list_lists_below hwf hvalid hdir⟩

/-- The container `c` made in an empty memory store, and a tree under the root `t` holding the
directory `t/c` with a file in it. -/
theorem list_answers_items_below_in_container :
    let st := endState ((MemoryStore.storage.perform (.createContainer "c")).run {})
    let lst : LocalStore :=
      { tree := { nodes := ⟨[("t/c", .directory), ("t/c/a", .file "")]⟩, roots := ["t"] },
        root := "t" }
    (MemoryStore.Reachable st ∧
      st.nodes.get? "c" = some ⟨true, AccessControl.initial none true⟩ ∧
      ∀ r max, ∃ answer, (MemoryStore.list "c" r max).run st = .ok answer st ∧
        ListingOf (ItemsBelow (st.kindBelow "c") "c" r) max answer) ∧
    (lst.tree.WellFormed ∧ LocalStore.validate "c" = .ok () ∧
      lst.tree.stat (lst.itemPath "c") = .ok .directory ∧
      ∀ r max, ∃ answer, (LocalStore.list "c" r max).run lst = .ok answer lst ∧
        ListingOf (ItemsBelow (lst.kindBelow "c") "c" r) max answer) := by
  intro st lst
  have hr : MemoryStore.Reachable st := .call (.createContainer "c") .empty
  have hn : st.nodes.get? "c" = some ⟨true, AccessControl.initial none true⟩ := by
    show (endState ((MemoryStore.storage.perform (.createContainer "c")).run {})).nodes.get? "c" = _
    cbv
  have hwf : lst.tree.WellFormed := ⟨by unfold Index.Sorted; decide, by decide⟩
  have hvalid : LocalStore.validate "c" = .ok () := by
    simp only [LocalStore.validate, Path.validate, Path.split, splitOn_slash]
    rfl
  have hplace : lst.itemPath "c" = "t/c" := by
    have hsegs : ∀ t ∈ ["t", "c"], Path.Segment t := by
      intro t ht
      simp only [List.mem_cons, List.not_mem_nil, or_false] at ht
      rcases ht with rfl | rfl <;> exact ⟨by decide, by decide, by decide, by decide⟩
    simpa [LocalStore.itemPath, lst, String.intercalate_cons_cons] using
      FileTree.clean_intercalate_segments (List.cons_ne_nil _ _) hsegs
  have hnames : FileTree.names "t/c" = ["t", "c"] := by
    simpa [String.intercalate_cons_cons] using
      FileTree.names_intercalate (S := ["t", "c"]) (by simp [FileTree.Pieces])
  have hrel : ("t/c" : String).startsWith "/" = false := by
    rw [String.startsWith_eq_false_iff]
    decide
  have hdir : lst.tree.stat (lst.itemPath "c") = .ok .directory := by
    rw [hplace]
    simp only [FileTree.stat, FileTree.lookup, hnames, String.contains_char_eq, hrel]
    rfl
  exact ⟨⟨hr, hn, list_answers_items_below.1 st "c" _ hr hn rfl⟩,
    ⟨hwf, hvalid, hdir, list_answers_items_below.2 lst "c" hwf hvalid hdir⟩⟩

end AclReconcile
