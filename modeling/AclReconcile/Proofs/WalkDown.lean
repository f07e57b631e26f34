import AclReconcile.Proofs.Inheritance
import AclReconcile.Proofs.TreePaths

/-!
# The walk down to a path

Every storage creates a path the same way: it starts at the container and joins the next segment
on at each step, creating what is missing on the way (`Path.descend`). The walk goes down through
the true chain of the path's prefixes (`Path.FollowsPrefixes`). One step joins a segment onto a
path of segments with one separator (`Path.join_intercalate`), so after `k` steps the walk stands
at the container and the first `k` segments joined (`Path.descend_intercalate`). Each place after
the start is then a valid path whose parent is the place one step before
(`Path.parent_intercalate`), and it lies below every earlier place
(`Path.isBelow_intercalate_append`). Blank segments are no exception: a valid path may have them,
and joining trims separators only.

Cutting a valid path into its container and the rest, and joining the two again, gives the path
back, container roots included (`Path.join_split_pieces`). All is gathered in
`Path.descent_follows_prefixes`.
-/

namespace AclReconcile.Path

/-- Where the creation loops stand after walking down from `start` through `segs`, joining each
segment on in turn. -/
def descend (start : String) (segs : List String) : String :=
  segs.foldl (fun current segment => join [current, segment]) start

@[simp] theorem descend_nil (start : String) : descend start [] = start := rfl

@[simp] theorem descend_cons (start seg : String) (rest : List String) :
    descend start (seg :: rest) = descend (join [start, seg]) rest := rfl

/-! ## One step at a time -/

/-- Below a path of segments, the walk through more segments stands at all of them joined. The
induction is on the segments still to walk, the path walked so far growing by one each step. -/
theorem descend_intercalate : ∀ (segs : List String) {pre : List String}, pre ≠ [] →
    (∀ t ∈ pre ++ segs, Segment t) →
      descend ("/".intercalate pre) segs = "/".intercalate (pre ++ segs)
  | [], _, _, _ => by simp
  | seg :: rest, pre, hpre, hgood => by
    rw [descend_cons, MemoryStore.join_snoc hpre hgood,
      descend_intercalate rest (List.append_ne_nil_of_left_ne_nil hpre _) (by simpa using hgood)]
    simp

/-- A path lies below each of its prefixes followed by a separator. -/
theorem isBelow_append_slash (q r : String) : isBelow (q ++ "/" ++ r) q = true := by
  rw [isBelow, Bool.or_eq_true]
  right
  rw [String.startsWith_string_iff, @String.toList_append (q ++ "/") r]
  exact List.prefix_append _ _

/-- A path of segments lies below the path of its first segments. -/
theorem isBelow_intercalate_append {pre more : List String} (hpre : pre ≠ [])
    (hmore : more ≠ []) :
    isBelow ("/".intercalate (pre ++ more)) ("/".intercalate pre) = true := by
  rw [String.intercalate_append_of_ne_nil hpre hmore]
  exact isBelow_append_slash _ _

/-! ## The chain of prefixes -/

/-- The walk down from `c` through `segs` follows the prefixes of `p`: after `k` steps it stands
at `c` and the first `k` segments joined by separators, and after all of them at `p`; each place
after the start is a valid path whose parent is the place one step before, and it lies below every
earlier place. -/
structure FollowsPrefixes (c : String) (segs : List String) (p : String) : Prop where
  at_prefix : ∀ k ≤ segs.length, descend c (segs.take k) = "/".intercalate (c :: segs.take k)
  reaches : descend c segs = p
  parent_step : ∀ k < segs.length,
    parent (descend c (segs.take (k + 1))) = descend c (segs.take k)
  valid : ∀ k, 0 < k → k ≤ segs.length → validate (descend c (segs.take k)) = .ok ()
  below : ∀ j k, j < k → k ≤ segs.length →
    isBelow (descend c (segs.take k)) (descend c (segs.take j)) = true

section Chain

variable {c : String} {segs : List String}

/-- The container and the first `k` segments after it are segments. -/
theorem segments_take (hgood : ∀ t ∈ c :: segs, Segment t) (k : Nat) :
    ∀ t ∈ c :: segs.take k, Segment t := by
  intro t ht
  rcases List.mem_cons.1 ht with rfl | ht
  · exact hgood t List.mem_cons_self
  · exact hgood t (List.mem_cons_of_mem _ (List.mem_of_mem_take ht))

/-- After `k` steps from the container, the walk stands at the container and the first `k`
segments joined. -/
theorem descend_take (hgood : ∀ t ∈ c :: segs, Segment t) (k : Nat) :
    descend c (segs.take k) = "/".intercalate (c :: segs.take k) := by
  simpa using descend_intercalate (segs.take k) (List.cons_ne_nil c [])
    (by simpa using segments_take hgood k)

/-- One step further down, the parent of the place reached is the place before. -/
theorem parent_descend_take (hgood : ∀ t ∈ c :: segs, Segment t) {k : Nat}
    (hk : k < segs.length) :
    parent (descend c (segs.take (k + 1))) = descend c (segs.take k) := by
  have hsnoc : c :: segs.take (k + 1) = (c :: segs.take k) ++ [segs[k]] := by
    rw [List.take_add_one, List.getElem?_eq_getElem hk, Option.toList_some, List.cons_append]
  rw [descend_take hgood, descend_take hgood, hsnoc]
  refine parent_intercalate (List.cons_ne_nil _ _) fun t ht =>
    (segments_take hgood (k + 1) t (by rwa [hsnoc])).no_sep

/-- Every place after the start is a valid path: two segments or more, joined. -/
theorem validate_descend_take (hgood : ∀ t ∈ c :: segs, Segment t) {k : Nat} (hk : 0 < k)
    (hkn : k ≤ segs.length) : validate (descend c (segs.take k)) = .ok () := by
  rw [descend_take hgood]
  refine validate_intercalate ?_ (segments_take hgood k)
  rw [List.length_cons, List.length_take, Nat.min_eq_left hkn]
  omega

/-- A place of the walk lies below every earlier one: its segments are those of the earlier place
and some more. -/
theorem isBelow_descend_take (hgood : ∀ t ∈ c :: segs, Segment t) {j k : Nat} (hjk : j < k)
    (hkn : k ≤ segs.length) :
    isBelow (descend c (segs.take k)) (descend c (segs.take j)) = true := by
  have hsplit : c :: segs.take k = (c :: segs.take j) ++ (segs.take k).drop j := by
    conv_lhs => rw [← List.take_append_drop j (segs.take k)]
    rw [List.take_take, Nat.min_eq_left hjk.le, List.cons_append]
  have hmore : (segs.take k).drop j ≠ [] := by
    rw [← List.length_pos_iff, List.length_drop, List.length_take, Nat.min_eq_left hkn]
    omega
  rw [descend_take hgood, descend_take hgood, hsplit]
  exact isBelow_intercalate_append (List.cons_ne_nil _ _) hmore

/-- The walk from the first segment through the others follows the prefixes of them all
joined. -/
theorem followsPrefixes_intercalate (hgood : ∀ t ∈ c :: segs, Segment t) :
    FollowsPrefixes c segs ("/".intercalate (c :: segs)) where
  at_prefix k _ := descend_take hgood k
  reaches := by simpa using descend_take hgood segs.length
  parent_step _ hk := parent_descend_take hgood hk
  valid _ hk hkn := validate_descend_take hgood hk hkn
  below _ _ hjk hkn := isBelow_descend_take hgood hjk hkn

end Chain

/-! ## Cutting a path at its container -/

/-- Joining an inner path with nothing gives the path: the empty piece is skipped. -/
theorem join_inner_empty {q : String} (hq : Inner q) : join [q, ""] = q := by
  have hempty : trimSeparators "" = "" := trimSeparators_self (by simp) (by simp)
  unfold join
  rw [List.map_cons, List.map_cons, List.map_nil, trimSeparators_self hq.head hq.last, hempty,
    List.filter_cons_of_pos (by simpa using hq.ne_empty), List.filter_cons_of_neg (by simp),
    List.filter_nil, String.intercalate_singleton]

/-- A path's container joined with the rest of its segments gives the path back, whether the rest
is empty (a container root) or not. -/
theorem join_split_pieces {c : String} {rest : List String}
    (hgood : ∀ t ∈ c :: rest, Segment t) :
    join [c, "/".intercalate rest] = "/".intercalate (c :: rest) := by
  have hc : Inner c := by
    simpa using inner_intercalate (List.cons_ne_nil c [])
      fun t ht => hgood t (by simp_all)
  by_cases hrest : rest = []
  · subst hrest
    rw [String.intercalate_nil, String.intercalate_singleton]
    exact join_inner_empty hc
  · rw [join_inner hc (inner_intercalate hrest fun t ht => hgood t (List.mem_cons_of_mem _ ht)),
      String.intercalate_cons_of_ne_nil hrest]

/-- Creating a valid path that is not a container root walks down from its container through the
true chain of its prefixes, and cutting any valid path at its container and joining the two pieces
again gives the path back: its pieces are segments, which joined again make the path. -/
theorem descent_follows_prefixes {p c rel : String} (hv : validate p = .ok ())
    (hsplit : split p = (c, rel)) :
    join [c, rel] = p ∧ (isContainer p = false → FollowsPrefixes c (segments rel) p) := by
  obtain ⟨c', rest, hpieces⟩ := List.exists_cons_of_ne_nil (splitOn_slash_ne_nil p)
  obtain ⟨rfl, rfl⟩ := Prod.mk.inj (hsplit.symm.trans (split_eq hpieces))
  have hgood : ∀ t ∈ c :: rest, Segment t := fun t ht => segment_of_validate hv (hpieces ▸ ht)
  have hp : "/".intercalate (c :: rest) = p := by rw [← hpieces, intercalate_splitOn_slash]
  refine ⟨hp ▸ join_split_pieces hgood, fun hcont => ?_⟩
  have hsegs : segments ("/".intercalate rest) = rest :=
    splitOn_intercalate_slash (MemoryStore.splitOn_of_not_container hpieces hcont)
      fun t ht => (hgood t (List.mem_cons_of_mem _ ht)).no_sep
  rw [hsegs, ← hp]
  exact followsPrefixes_intercalate hgood

/-- A path with a blank segment is walked down through its prefixes like any other. -/
theorem descent_follows_prefixes_through_blank_segment :
    validate "c/ /a" = .ok () ∧ split "c/ /a" = ("c", " /a") ∧ isContainer "c/ /a" = false ∧
      join ["c", " /a"] = "c/ /a" ∧ FollowsPrefixes "c" (segments " /a") "c/ /a" := by
  have hsegs : ∀ t ∈ ["c", " ", "a"], Segment t := by
    intro t ht
    simp only [List.mem_cons, List.mem_nil_iff, or_false] at ht
    rcases ht with rfl | rfl | rfl <;> exact ⟨by decide, by decide, by decide, by decide⟩
  have hv : validate "c/ /a" = .ok () := validate_intercalate (by decide) hsegs
  have hsplit : split "c/ /a" = ("c", " /a") := by rw [split, splitOn_slash]; cbv
  have hc : isContainer "c/ /a" = false := by
    rw [Bool.eq_false_iff, ne_eq, isContainer_iff]
    decide
  obtain ⟨hjoin, hfollows⟩ := descent_follows_prefixes hv hsplit
  exact ⟨hv, hsplit, hc, hjoin, hfollows hc⟩

end AclReconcile.Path
