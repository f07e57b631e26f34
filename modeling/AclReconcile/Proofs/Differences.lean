import AclReconcile.Acl.Diff
import Mathlib

/-!
# The differences of two lists are their symmetric difference

`Difference.between e a d` reports first the entries of `e` that `a` lacks, then those of `a`
that `e` lacks, every one tagged with the list flag `d`. Each side is exactly what
`Difference.FirstMissing` describes: every missing entry once, in the order of its first
occurrence (`Difference.missing_firstMissing`). The order is read off `List.idxOf`, the position
of the first occurrence, which filtering and dropping repeats both keep
(`idxOf_filter_lt_iff`, `idxOf_eraseDups_lt_iff`).

The rest follows from that description. Two lists show no difference exactly when they hold the
same entries (`Difference.between_eq_nil_iff`); lists with the same entries, in any order and
with any repeats, show the same differences up to order (`Difference.between_perm`); comparing
the other way round swaps the two sides and their tags (`Difference.between_swap`); and the
differences of a state split into those of its effective list and those of its default list
(`Difference.onList_ofState`).
-/

namespace AclReconcile

namespace List

variable {α : Type} [DecidableEq α]

/-- Filtering keeps the order of first occurrence of the elements it keeps: an element the filter
drops is neither of the two compared. -/
theorem idxOf_filter_lt_iff {p : α → Bool} {x y : α} (hx : p x = true) (hy : p y = true) :
    ∀ l : List α, (l.filter p).idxOf x < (l.filter p).idxOf y ↔ l.idxOf x < l.idxOf y
  | [] => by simp
  | a :: l => by
    have ih := idxOf_filter_lt_iff hx hy l
    by_cases ha : p a = true
    · rw [List.filter_cons_of_pos ha]
      rcases Decidable.em (a = x) with rfl | hax <;> rcases Decidable.em (a = y) with rfl | hay <;>
        simp [*]
    · have hax : a ≠ x := fun h => ha (h ▸ hx)
      have hay : a ≠ y := fun h => ha (h ▸ hy)
      rw [List.filter_cons_of_neg ha]
      simp [hax, hay, ih]

/-- Dropping repeats keeps each element once. -/
theorem nodup_eraseDups : ∀ l : List α, l.eraseDups.Nodup
  | [] => List.nodup_nil
  | a :: l => by
    rw [List.eraseDups_cons]
    refine List.nodup_cons.2 ⟨fun h => ?_, nodup_eraseDups _⟩
    simp at h
termination_by l => l.length
decreasing_by
  have := List.length_filter_le (fun b => !b == a) l
  simp only [List.length_cons]
  omega

/-- Dropping repeats keeps the order of first occurrence: past the head, the rest has the head
filtered out, which neither element compared is. -/
theorem idxOf_eraseDups_lt_iff (x y : α) :
    ∀ l : List α, l.eraseDups.idxOf x < l.eraseDups.idxOf y ↔ l.idxOf x < l.idxOf y
  | [] => by simp
  | a :: l => by
    rw [List.eraseDups_cons]
    rcases Decidable.em (a = x) with rfl | hax
    · rcases Decidable.em (a = y) with rfl | hay <;> simp [*]
    rcases Decidable.em (a = y) with rfl | hay
    · simp [hax]
    have ih := idxOf_eraseDups_lt_iff x y (l.filter fun b => !b == a)
    rw [idxOf_filter_lt_iff (by simpa using Ne.symm hax) (by simpa using Ne.symm hay)] at ih
    simp [hax, hay, ih]
termination_by l => l.length
decreasing_by
  have := List.length_filter_le (fun b => !b == a) l
  simp only [List.length_cons]
  omega

end List

@[simp] theorem Origin.expected_beq_actual : (Origin.expected == Origin.actual) = false := rfl

@[simp] theorem Origin.actual_beq_expected : (Origin.actual == Origin.expected) = false := rfl

/-- The other side. -/
def Origin.flip : Origin → Origin
  | .expected => .actual
  | .actual => .expected

namespace Difference

/-- `m` lists the entries of `source` that `other` lacks, each once, in the order in which they
first occur in `source`. -/
structure FirstMissing (m source other : List AclEntry) : Prop where
  nodup : m.Nodup
  mem_iff : ∀ x, x ∈ m ↔ x ∈ source ∧ x ∉ other
  order : ∀ x ∈ m, ∀ y ∈ m, m.idxOf x < m.idxOf y ↔ source.idxOf x < source.idxOf y

/-- An entry is missing from `other` exactly when it is in `source` and not in `other`. -/
theorem mem_missing {x : AclEntry} {source other : List AclEntry} :
    x ∈ missing source other ↔ x ∈ source ∧ x ∉ other := by
  simp [missing]

/-- The entries missing are those of `source` that `other` lacks, each once, in the order of their
first occurrence. -/
theorem missing_firstMissing (source other : List AclEntry) :
    FirstMissing (missing source other) source other where
  nodup := List.nodup_eraseDups _
  mem_iff _ := mem_missing
  order x hx y hy := by
    rw [missing, List.idxOf_eraseDups_lt_iff,
      List.idxOf_filter_lt_iff (by simpa using (mem_missing.1 hx).2)
        (by simpa using (mem_missing.1 hy).2)]

/-! ## Lists compared as sets -/

/-- Nothing is missing exactly when every entry of `xs` is in `ys`. -/
theorem missing_eq_nil_iff {xs ys : List AclEntry} : missing xs ys = [] ↔ ∀ e ∈ xs, e ∈ ys := by
  rw [List.eq_nil_iff_forall_not_mem]
  simp [missing, List.mem_eraseDups]

/-- Two lists differ in nothing exactly when they hold the same entries. -/
theorem between_eq_nil_iff {xs ys : List AclEntry} {isDefault : Bool} :
    between xs ys isDefault = [] ↔ ∀ e, e ∈ ys ↔ e ∈ xs := by
  simp only [between, List.append_eq_nil_iff, List.map_eq_nil_iff, missing_eq_nil_iff]
  exact ⟨fun h e => ⟨h.2 e, h.1 e⟩, fun h => ⟨fun e he => (h e).2 he, fun e he => (h e).1 he⟩⟩

/-- A state shows no difference exactly when each of its lists has the entries of the expected
one, order and repetition aside. -/
theorem ofState_isEmpty_iff {acl defaultAcl : List AclEntry} {ac : AccessControl} :
    (ofState acl defaultAcl ac).isEmpty = true ↔
      (∀ e, e ∈ ac.acl ↔ e ∈ acl) ∧ ∀ e, e ∈ ac.defaultAcl ↔ e ∈ defaultAcl := by
  rw [List.isEmpty_iff, ofState, List.append_eq_nil_iff, between_eq_nil_iff, between_eq_nil_iff]

/-- Lists with the same entries miss the same entries, up to order. -/
theorem missing_perm {s s' o o' : List AclEntry} (hs : ∀ x, x ∈ s' ↔ x ∈ s)
    (ho : ∀ x, x ∈ o' ↔ x ∈ o) : (missing s' o').Perm (missing s o) := by
  refine (List.perm_ext_iff_of_nodup (missing_firstMissing s' o').nodup
    (missing_firstMissing s o).nodup).2 fun x => ?_
  rw [mem_missing, mem_missing, hs, ho]

/-- Reordering or repeating the entries of either list only reorders the differences. -/
theorem between_perm {e e' a a' : List AclEntry} (d : Bool) (he : ∀ x, x ∈ e' ↔ x ∈ e)
    (ha : ∀ x, x ∈ a' ↔ x ∈ a) : (between e' a' d).Perm (between e a d) :=
  ((missing_perm he ha).map _).append ((missing_perm ha he).map _)

/-! ## The two sides -/

/-- The same difference, seen from the other side. -/
def flip (d : Difference) : Difference := { d with origin := d.origin.flip }

/-- Comparing the other way round swaps the two sides and their tags. -/
theorem between_swap (e a : List AclEntry) (d : Bool) :
    between a e d = ((between e a d).filter (·.origin == .actual) ++
      (between e a d).filter (·.origin == .expected)).map flip := by
  simp [between, List.filter_map, Function.comp_def, flip, Origin.flip, List.filter_true,
    List.filter_false]

/-- The differences of a list's two parts are those of the list. -/
theorem onList_append (xs ys : List Difference) (d : Bool) :
    onList (xs ++ ys) d = onList xs d ++ onList ys d :=
  List.filter_append ..

/-- The differences of one list are all tagged with its flag. -/
theorem onList_between (xs ys : List AclEntry) (d d' : Bool) :
    onList (between xs ys d) d' = if d = d' then between xs ys d else [] := by
  by_cases h : d = d' <;> simp [onList, between, List.filter_map, Function.comp_def, List.filter_true, h]

/-- The differences of a state split into those of its effective list and those of its default
list. -/
theorem onList_ofState (acl defaultAcl : List AclEntry) (ac : AccessControl) :
    onList (ofState acl defaultAcl ac) false = between acl ac.acl false ∧
      onList (ofState acl defaultAcl ac) true = between defaultAcl ac.defaultAcl true := by
  simp [ofState, onList_append, onList_between]

/-- The differences of two lists are their symmetric difference: the entries only the first has,
each once in the order of their first occurrence and tagged as expected, then those only the
second has, likewise and tagged as actual, all with the list flag. So there are none exactly when
both lists hold the same entries; lists with the same entries give the same differences up to
order; comparing the other way round swaps the sides; and a state's differences split into those
of its effective and those of its default list. -/
theorem between_symmetric_difference (e a : List AclEntry) (d : Bool)
    (acl defaultAcl : List AclEntry) (ac : AccessControl) :
    (∃ onlyExpected onlyActual, between e a d =
        onlyExpected.map (⟨.expected, d, ·⟩) ++ onlyActual.map (⟨.actual, d, ·⟩) ∧
      FirstMissing onlyExpected e a ∧ FirstMissing onlyActual a e) ∧
    (between e a d = [] ↔ ∀ x, x ∈ e ↔ x ∈ a) ∧
    (∀ e' a', (∀ x, x ∈ e' ↔ x ∈ e) → (∀ x, x ∈ a' ↔ x ∈ a) →
      (between e' a' d).Perm (between e a d)) ∧
    between a e d = ((between e a d).filter (·.origin == .actual) ++
      (between e a d).filter (·.origin == .expected)).map flip ∧
    onList (ofState acl defaultAcl ac) false = between acl ac.acl false ∧
    onList (ofState acl defaultAcl ac) true = between defaultAcl ac.defaultAcl true := by
  refine ⟨⟨missing e a, missing a e, rfl, missing_firstMissing e a, missing_firstMissing a e⟩,
    ?_, fun e' a' he ha => between_perm d he ha, between_swap e a d, onList_ofState acl defaultAcl ac⟩
  rw [between_eq_nil_iff]
  exact forall_congr' fun x => Iff.comm

end Difference

end AclReconcile
