import AclReconcile.Proofs.Segments
import AclReconcile.Storage.KeyValue

/-!
# Item keys and principal keys of the key-value storage

The key-value storage keeps every item under its prefix and a separator, and the principal name
of every object id under its principal prefix and a separator. The two kinds of keys stay apart
(`KvConfig.KeysApart`: no item key is a principal key, no principal key lies below an item key,
and no item key lies below the principal prefix) exactly when neither prefix, followed by a
separator, begins the other followed by one (`KvConfig.PrefixesApart`,
`KvConfig.settled_keys_apart_iff`). The default principal prefix, the prefix followed by
`-principals`, always is apart, since `-` is not a separator.

The settings refuse only a principal prefix equal to the prefix, so settings with one prefix
below the other are accepted, and an item key is then a principal key
(`KvConfig.nested_prefixes_collide`).
-/

namespace AclReconcile.KeyValue

open AclReconcile.Path (trimSeparators)

namespace KvConfig

/-- No item key is a principal key, no principal key lies below an item key, and no item key lies
below the principal prefix. -/
def KeysApart (c : KvConfig) : Prop :=
  ∀ p i, c.keyOf p ≠ c.principalKey i ∧
    (c.principalKey i).startsWith (c.keyOf p ++ "/") = false ∧
    (c.keyOf p).startsWith (c.principalPrefix ++ "/") = false

/-- Neither prefix, followed by a separator, begins the other followed by one. -/
def PrefixesApart (c : KvConfig) : Prop :=
  ¬ (c.keyPrefix ++ "/").toList <+: (c.principalPrefix ++ "/").toList ∧
    ¬ (c.principalPrefix ++ "/").toList <+: (c.keyPrefix ++ "/").toList

/-- Whether the two prefixes are apart can be decided. -/
instance (c : KvConfig) : Decidable c.PrefixesApart :=
  inferInstanceAs (Decidable (_ ∧ _))

/-- Settled settings have a principal prefix other than the prefix, which is the principal
prefix given, trimmed, or when that is empty the prefix followed by `-principals`. -/
theorem settle_ok {c₀ c : KvConfig} (h : c₀.settle = .ok c) :
    c.principalPrefix ≠ c.keyPrefix ∧
      c.principalPrefix = if (trimSeparators c₀.principalPrefix).isEmpty then
        c.keyPrefix ++ "-principals" else trimSeparators c₀.principalPrefix := by
  unfold settle at h
  simp only [bind, Except.bind, pure, Except.pure] at h
  generalize (if (trimSeparators c₀.keyPrefix).isEmpty = true then "aclsync"
    else trimSeparators c₀.keyPrefix) = K at h
  generalize hP : (if (trimSeparators c₀.principalPrefix).isEmpty = true then K ++ "-principals"
    else trimSeparators c₀.principalPrefix) = P at h
  by_cases hPK : P = K
  · simp [hPK, throw, throwThe, MonadExceptOf.throw] at h
  · rw [if_neg (by simpa using hPK)] at h
    cases h
    exact ⟨hPK, hP.symm⟩

/-- A trimmed text does not end with a separator. -/
theorem getLast?_trimSeparators (s : String) : (trimSeparators s).toList.getLast? ≠ some '/' := by
  intro h
  unfold trimSeparators at h
  rw [String.toList_ofList, List.getLast?_reverse] at h
  have hnot := List.head?_dropWhile_not (· == '/') (s.toList.dropWhile (· == '/')).reverse
  rw [h] at hnot
  simp at hnot

/-- Settled settings have a principal prefix that does not end with a separator. -/
theorem settle_principal_getLast? {c₀ c : KvConfig} (h : c₀.settle = .ok c) :
    c.principalPrefix.toList.getLast? ≠ some '/' := by
  rw [(settle_ok h).2]
  split
  · simp
  · exact getLast?_trimSeparators _

/-- The key of the empty path is the prefix followed by a separator. -/
theorem keyOf_empty (c : KvConfig) : c.keyOf "" = c.keyPrefix ++ "/" := by
  have htrim : trimSeparators "" = "" := by decide
  rw [keyOf, htrim, String.append_empty]

/-- Apart prefixes keep the keys apart: every item key begins with the prefix and a separator,
every principal key with the principal prefix and one, and two beginnings of one text are one
the beginning of the other. -/
theorem keysApart_of_prefixesApart {c : KvConfig} (h : c.PrefixesApart) : c.KeysApart := by
  intro p i
  have hk : ∀ s, (c.keyPrefix ++ "/").toList <+: (c.keyOf p ++ s).toList := fun s =>
    ⟨(trimSeparators p ++ s).toList, by simp [keyOf]⟩
  have hp : (c.principalPrefix ++ "/").toList <+: (c.principalKey i).toList :=
    ⟨i.toList, by simp [principalKey]⟩
  have hboth : ∀ x : List Char, (c.keyPrefix ++ "/").toList <+: x →
      ¬ (c.principalPrefix ++ "/").toList <+: x := fun x h₁ h₂ =>
    (List.prefix_or_prefix_of_prefix h₁ h₂).elim h.1 h.2
  refine ⟨fun heq => hboth _ (by simpa using hk "") (heq ▸ hp), ?_, ?_⟩
  · rw [String.startsWith_eq_false_iff]
    exact fun hsub => hboth _ ((hk "/").trans hsub) hp
  · rw [String.startsWith_eq_false_iff]
    exact hboth _ (by simpa using hk "")

/-- A principal prefix that is the prefix followed by a separator and more is that, followed by
a rest that neither is empty nor ends with a separator. -/
theorem principal_eq_below {c : KvConfig} (hne : c.principalPrefix ≠ c.keyPrefix)
    (hlast : c.principalPrefix.toList.getLast? ≠ some '/')
    (h : (c.keyPrefix ++ "/").toList <+: (c.principalPrefix ++ "/").toList) :
    ∃ x r, c.principalPrefix.toList = c.keyPrefix.toList ++ '/' :: x :: r := by
  obtain ⟨t, ht⟩ := h
  simp only [String.toList_append] at ht
  rcases List.eq_nil_or_concat t with rfl | ⟨r, z, rfl⟩
  · have heq : c.keyPrefix.toList = c.principalPrefix.toList := by simpa using ht
    exact absurd (String.toList_inj.1 heq).symm hne
  · rw [List.concat_eq_append, ← List.append_assoc] at ht
    obtain ⟨hP, -⟩ := List.append_inj' ht rfl
    cases r with
    | nil => exact absurd (by simp [← hP]) hlast
    | cons x r => exact ⟨x, r, by simp [← hP]⟩

/-- Keys that stay apart for every path and object id need apart prefixes, for settings with
distinct prefixes and a principal prefix that does not end with a separator. With the prefix and
a separator beginning the principal prefix, the item key of the empty path or of the rest of the
principal prefix, followed by a separator, begins a principal key; with the other way round, the
item key of the empty path lies below the principal prefix. -/
theorem prefixesApart_of_keysApart {c : KvConfig} (hne : c.principalPrefix ≠ c.keyPrefix)
    (hlast : c.principalPrefix.toList.getLast? ≠ some '/') (h : c.KeysApart) :
    c.PrefixesApart := by
  refine ⟨fun hpre => ?_, fun hpre => ?_⟩
  · obtain ⟨x, r, hP⟩ := principal_eq_below hne hlast hpre
    by_cases hx : x = '/'
    · have hbelow := (h "" "").2.1
      rw [String.startsWith_eq_false_iff] at hbelow
      exact hbelow ⟨r ++ ['/'], by simp [keyOf_empty, principalKey, hP, hx]⟩
    · have htrim : trimSeparators (String.ofList (x :: r)) = String.ofList (x :: r) :=
        Path.trimSeparators_self (by simpa using hx)
          (by simpa [hP, List.getLast?_append] using hlast)
      have hbelow := (h (String.ofList (x :: r)) "").2.1
      rw [String.startsWith_eq_false_iff] at hbelow
      exact hbelow ⟨[], by rw [keyOf, htrim]; simp [principalKey, hP]⟩
  · have hitem := (h "" "").2.2
    rw [String.startsWith_eq_false_iff, keyOf_empty] at hitem
    exact hitem hpre

/-- The default principal prefix is apart from the prefix: after the prefix it goes on with `-`,
not with a separator, and it is longer than the prefix and a separator. -/
theorem default_prefixesApart (k : String) :
    PrefixesApart { keyPrefix := k, principalPrefix := k ++ "-principals" } := by
  refine ⟨fun h => ?_, fun h => ?_⟩
  · simp only [String.toList_append, List.append_assoc, List.prefix_append_right_inj] at h
    exact absurd h (by decide)
  · have hlen := h.length_le
    simp [String.length_toList] at hlen

/-- Settled settings keep item keys and principal keys apart exactly when their prefixes are
apart, and they are whenever the principal prefix is left to its default. -/
theorem settled_keys_apart_iff {c₀ c : KvConfig} (h : c₀.settle = .ok c) :
    (c.KeysApart ↔ c.PrefixesApart) ∧
      ((trimSeparators c₀.principalPrefix).isEmpty = true → c.PrefixesApart) := by
  obtain ⟨hne, hP⟩ := settle_ok h
  refine ⟨⟨prefixesApart_of_keysApart hne (settle_principal_getLast? h),
    keysApart_of_prefixesApart⟩, fun hdef => ?_⟩
  rw [if_pos hdef] at hP
  have happart := default_prefixesApart c.keyPrefix
  unfold PrefixesApart at happart ⊢
  rwa [hP]

/-- The default settings: the prefix `aclsync` and the principal prefix `aclsync-principals`. -/
theorem settled_keys_apart_iff_default :
    let c : KvConfig :=
      { address := "127.0.0.1:8500", keyPrefix := "aclsync",
        principalPrefix := "aclsync-principals" }
    ({} : KvConfig).settle = .ok c ∧ ((c.KeysApart ↔ c.PrefixesApart) ∧
      ((trimSeparators ({} : KvConfig).principalPrefix).isEmpty = true → c.PrefixesApart)) :=
  have h : ({} : KvConfig).settle =
      .ok { address := "127.0.0.1:8500", keyPrefix := "aclsync",
            principalPrefix := "aclsync-principals" } := rfl
  ⟨h, settled_keys_apart_iff h⟩

/-- A principal prefix below the prefix is accepted, and then the valid path `raw/x` under the
prefix `a` has the key of the principal `x` under the principal prefix `a/raw`. -/
theorem nested_prefixes_collide :
    ({ keyPrefix := "a", principalPrefix := "a/raw" } : KvConfig).settle =
        .ok { address := "127.0.0.1:8500", keyPrefix := "a", principalPrefix := "a/raw" } ∧
      Path.validate "raw/x" = .ok () ∧
      keyOf { keyPrefix := "a", principalPrefix := "a/raw" } "raw/x" =
        principalKey { keyPrefix := "a", principalPrefix := "a/raw" } "x" := by
  have hsegs : ∀ t ∈ ["raw", "x"], Path.Segment t := by
    intro t ht
    simp only [List.mem_cons, List.not_mem_nil, or_false] at ht
    rcases ht with rfl | rfl <;> exact ⟨by decide, by decide, by decide, by decide⟩
  refine ⟨rfl, ?_, by decide⟩
  exact Path.validate_intercalate (by decide) hsegs

end KvConfig

end AclReconcile.KeyValue
