import AclReconcile.Storage.Bucket
import AclReconcile.Proofs.ObjectMetadata
import AclReconcile.Proofs.Listing

/-!
# A listing of an object store holds the items its keys make

An object store keeps no directories: a bucket holds keys, and a key `d/f` makes a file `f` in a
directory `d` whether or not the directory has an object `d/` of its own. Listing a directory `p`
of a bucket therefore asks the store for the keys below the directory's prefix (`keyPrefix`), with
recursion off folded at the next separator (`ObjectServer.mem_listing_folded`), records the names
each key stands for (`BucketOp.namesOf`): the directories above it with recursion on, and the key
itself without the separator that marks a directory object, where a name recorded twice is a
directory if either record says so and the empty name and the marker's name are left out
(`BucketOp.lookup_note`). It then sorts the names and puts `p` in front of each.

What a listing records for a name is then what the keys make of it (`BucketOp.lookup_recorded`,
`BucketOp.kindAmong`): a directory when some key lies below it, a file when a key is exactly it,
with recursion off only the names one level down. That holds of every set of keys. The item's
path is joined from `p` and the name, and joining cuts separators off the ends of the name and
skips it when empty, so distinct names give distinct paths only when the keys are in normal form
(`Clean`): then every recorded name is an inner path (`BucketOp.inner_of_kindAmong`), joined by
one separator. For such keys a listing of a directory the storage finds answers, on a store that
denies nothing, exactly the items below it, each once and in increasing path order
(`BucketOp.list_answers_keys_below`), as the memory and local storages do.

A key with an empty segment breaks this: the key `a//b` makes the directories `a` and `a/`, both
joined to the path `bkt/a` (`BucketOp.list_repeats_collapsed_path`).
-/

namespace AclReconcile.ObjectStore

/-! ## Texts and separators -/

/-- Splitting at the separators splits the parts before and after one apart. -/
theorem splitOn_slash_append (a b : String) :
    (a ++ "/" ++ b).splitOn "/" = a.splitOn "/" ++ b.splitOn "/" := by
  have hsep : "/".toList = ['/'] := rfl
  rw [splitOn_slash, splitOn_slash, splitOn_slash, String.toList_append, String.toList_append, hsep,
    List.append_assoc, List.singleton_append, List.splitOn_append_cons_self, List.map_append]

/-- A text without separators is one piece. -/
theorem splitOn_slash_of_not_mem {r : String} (h : '/' ∉ r.toList) : r.splitOn "/" = [r] := by
  rw [splitOn_slash, List.splitOn_eq_singleton h, List.map_singleton, String.ofList_toList]

/-- A text holds no separator, or is a piece without one, a separator and the rest. -/
theorem not_mem_or_first_piece (r : String) :
    '/' ∉ r.toList ∨ ∃ first more, '/' ∉ first.toList ∧ r = first ++ "/" ++ more := by
  obtain ⟨first, tail, hsplit⟩ := List.exists_cons_of_ne_nil (splitOn_slash_ne_nil r)
  have hfirst : '/' ∉ first.toList := slash_not_mem_of_mem_splitOn (hsplit ▸ List.mem_cons_self)
  have hjoin := intercalate_splitOn_slash r
  rw [hsplit] at hjoin
  cases tail with
  | nil =>
    rw [String.intercalate_singleton] at hjoin
    exact .inl (hjoin ▸ hfirst)
  | cons t ts =>
    rw [String.intercalate_cons_of_ne_nil (List.cons_ne_nil t ts)] at hjoin
    exact .inr ⟨first, _, hfirst, hjoin.symm⟩

/-- A text that ends with a separator is what comes before it, followed by it. -/
theorem dropLast_append_slash {r : String} (h : r.endsWith "/" = true) :
    String.ofList r.toList.dropLast ++ "/" = r := by
  have hsuf : ['/'] <:+ r.toList := by simpa [← String.endsWith_toSlice] using h
  obtain ⟨t, ht⟩ := hsuf
  apply String.ext
  simp [← ht]

/-- A text without separators does not end with one. -/
theorem endsWith_slash_of_not_mem {r : String} (h : '/' ∉ r.toList) : r.endsWith "/" = false := by
  rw [Bool.eq_false_iff]
  intro hend
  exact h (dropLast_append_slash hend ▸ by simp)

/-- A text that does not end with a separator has some other last character, if any. -/
theorem getLast?_of_endsWith {r : String} (h : r.endsWith "/" = false) :
    r.toList.getLast? ≠ some '/' := by
  intro hr
  have hend : ['/'] <:+ r.toList := ⟨r.toList.dropLast, List.dropLast_append_getLast? _ hr⟩
  rw [← Bool.not_eq_true] at h
  exact h (by simpa [← String.endsWith_toSlice] using hend)

/-- A place followed by a separator begins with `n` and a separator when the place itself does, or
is `n`. -/
theorem startsWith_append_slash {rel n : String} :
    (rel ++ "/").startsWith (n ++ "/") = true ↔ rel.startsWith (n ++ "/") = true ∨ n = rel := by
  have hsep : "/".toList = ['/'] := rfl
  simp only [String.startsWith_string_iff, String.toList_append, hsep, List.prefix_concat_iff,
    List.append_cancel_right_eq, String.toList_inj]
  tauto

/-- A text that ends with a separator begins with `n` and a separator when what comes before its
last separator does, or is `n`. -/
theorem startsWith_of_endsWith {r n : String} (h : r.endsWith "/" = true) :
    r.startsWith (n ++ "/") = true ↔
      (String.ofList r.toList.dropLast).startsWith (n ++ "/") = true ∨
        n = String.ofList r.toList.dropLast := by
  conv_lhs => rw [← dropLast_append_slash h]
  exact startsWith_append_slash

/-! ## Requests to a store that denies nothing -/

namespace ObjectServer

variable {s : ObjectServer}

/-- A store with no rules denies nothing and stays as it is. -/
theorem deny_run_of_nil (h : s.rules = []) (m t : String) : (deny m t).run s = (false, s) := by
  obtain ⟨buckets, rules⟩ := s
  subst h
  rfl

/-- On a store with no rules, a request is answered as it is. -/
theorem send_run_of_nil {α : Type} (h : s.rules = []) (m t : String)
    (answer : Request (Except ClientError α)) : (send m t answer).run s = answer.run s := by
  unfold send
  rw [StateT.run_bind, deny_run_of_nil h]
  rfl

/-- A check that passes had no problem to report. -/
theorem check_eq_ok {p : Option String} {status : Nat} {code : String}
    (h : check p status code = .ok ()) : p = none := by
  unfold check at h
  split at h
  · cases h
  · rfl

/-- Checking for a bucket leaves the store as it is; an answer means the name passed the client's
checks, and is whether the bucket is there. -/
theorem bucketExists_run_of_nil (h : s.rules = []) (b : String) :
    ∃ r, (bucketExists b).run s = (r, s) ∧
      ∀ x, r = .ok x → bucketNameProblem false b = none ∧ x = s.buckets.contains b := by
  unfold bucketExists
  cases hb : bucketNameProblem false b with
  | some m => exact ⟨_, rfl, fun x hx => by cases hx⟩
  | none =>
    refine ⟨_, send_run_of_nil h _ _ _, ?_⟩
    rintro x ⟨⟩
    exact ⟨rfl, rfl⟩

/-- Looking an object up leaves the store as it is; finding it means that both names passed the
client's checks and that the bucket is there; a name that passes is found or missing. -/
theorem statObject_run_of_nil (h : s.rules = []) (b k : String) :
    ∃ r, (statObject b k).run s = (r, s) ∧
      (∀ m, r = .ok m → bucketNameProblem false b = none ∧ objectNameProblem k = none ∧
        (s.buckets.get? b).isSome) ∧
      (bucketNameProblem false b = none → objectNameProblem k = none →
        (∃ m, r = .ok m) ∨ r = .error .noSuchKey) := by
  unfold statObject
  split
  · next e hb =>
    refine ⟨_, rfl, fun m hm => ?_, fun hname _ => ?_⟩
    · cases hm
    · rw [hname] at hb
      cases hb
  · next e hk _ =>
    refine ⟨_, rfl, fun m hm => ?_, fun _ hname => ?_⟩
    · cases hm
    · rw [hname] at hk
      cases hk
  · next hb hk =>
    rw [send_run_of_nil h]
    have hnames : bucketNameProblem false b = none ∧ objectNameProblem k = none :=
      ⟨check_eq_ok hb, check_eq_ok hk⟩
    cases hget : s.buckets.get? b with
    | none =>
      refine ⟨_, by simp [hget]; rfl, ?_, fun _ _ => Or.inr rfl⟩
      intro m hm
      cases hm
    | some objects =>
      cases hobj : objects.get? k with
      | none =>
        refine ⟨_, by simp [hget, hobj]; rfl, ?_, fun _ _ => Or.inr rfl⟩
        intro m hm
        cases hm
      | some o =>
        exact ⟨_, by simp [hget, hobj]; rfl, fun _ _ => ⟨hnames.1, hnames.2, rfl⟩,
          fun _ _ => Or.inl ⟨_, rfl⟩⟩

/-- Listing a bucket leaves the store as it is; an answer means that the bucket's name and the
prefix passed the client's checks and that the bucket is there. -/
theorem listObjects_run_of_nil (h : s.rules = []) (b pre : String) (recursive : Bool)
    (max : Nat) :
    ∃ r, (listObjects b pre recursive max).run s = (r, s) ∧
      ∀ l, r = .ok l → bucketNameProblem false b = none ∧ prefixProblem pre = none ∧
        (s.buckets.get? b).isSome := by
  unfold listObjects
  cases hb : bucketNameProblem false b with
  | some m => exact ⟨_, rfl, fun l hl => by cases hl⟩
  | none =>
    cases hp : prefixProblem pre with
    | some m => exact ⟨_, rfl, fun l hl => by cases hl⟩
    | none =>
      rw [Option.orElse_none]
      dsimp only
      rw [send_run_of_nil h]
      cases hget : s.buckets.get? b with
      | none => exact ⟨_, by simp [hget]; rfl, fun l hl => by cases hl⟩
      | some objects => exact ⟨_, by simp [hget]; rfl, fun _ _ => ⟨rfl, rfl, rfl⟩⟩

/-- Checking for a bucket under a name that passes the client's checks answers whether it is
there. -/
theorem bucketExists_run_found (h : s.rules = []) {b : String}
    (hb : bucketNameProblem false b = none) :
    (bucketExists b).run s = (.ok (s.buckets.contains b), s) := by
  unfold bucketExists
  rw [hb]
  exact send_run_of_nil h _ _ _

/-- Listing a bucket that is there, under names that pass the client's checks, answers every key
below the prefix, folded unless `recursive`. -/
theorem listObjects_run_found (h : s.rules = []) {b pre : String}
    {objects : Index StoredObject} (hb : bucketNameProblem false b = none)
    (hp : prefixProblem pre = none) (hget : s.buckets.get? b = some objects) (recursive : Bool) :
    (listObjects b pre recursive 0).run s = (.ok (listing objects.keys pre !recursive), s) := by
  unfold listObjects
  rw [hb, Option.orElse_none, hp]
  dsimp only
  rw [send_run_of_nil h]
  simp [hget]
  rfl

/-! ## What a listing of the store shows -/

/-- The key a listing shows for a key below the prefix: with folding, a key that goes deeper is
shown as its first segment below the prefix, followed by a separator. -/
def shownKey (pre : String) (fold : Bool) (k : String) : String :=
  match ((k.drop pre.length).toString).splitOn "/" with
  | first :: _ :: _ => if fold then pre ++ first ++ "/" else k
  | _ => k

/-- A listing shows, for each key below the prefix, its shown key, and nothing else. By induction
on the keys: a folded key is added unless the entry before it is already its shown key. -/
theorem mem_listing {keys : List String} {pre : String} {fold : Bool} {x : String} :
    x ∈ (listing keys pre fold).map Listed.key ↔
      ∃ k ∈ keys, k.startsWith pre = true ∧ x = shownKey pre fold k := by
  induction keys with
  | nil => simp [listing]
  | cons k keys ih =>
    unfold listing at ih ⊢
    rw [List.foldr_cons]
    generalize List.foldr _ [] keys = acc at ih ⊢
    have hcons : (∃ k' ∈ k :: keys, k'.startsWith pre = true ∧ x = shownKey pre fold k') ↔
        (k.startsWith pre = true ∧ x = shownKey pre fold k) ∨ x ∈ acc.map Listed.key := by
      rw [ih]
      simp only [List.mem_cons, or_and_right, exists_or, exists_eq_left]
    rw [hcons]
    by_cases hs : k.startsWith pre = true
    · rw [if_neg (by simp [hs])]
      simp only [hs, true_and]
      unfold shownKey
      cases ((k.drop pre.length).toString).splitOn "/" with
      | nil => simp
      | cons first tail =>
        cases tail with
        | nil => simp
        | cons second more =>
          cases fold with
          | false => simp
          | true =>
            cases acc with
            | nil => simp
            | cons e acc =>
              simp only [↓reduceIte]
              by_cases he : e.key = pre ++ first ++ "/"
              · rw [if_pos (c := (e.key == pre ++ first ++ "/") = true) (by simpa using he)]
                constructor
                · exact Or.inr
                · rintro (rfl | h)
                  · simp [he]
                  · exact h
              · rw [if_neg (c := (e.key == pre ++ first ++ "/") = true) (by simpa using he)]
                simp
    · rw [if_pos (by simpa using hs)]
      simp [hs]

/-- A key whose part below the prefix holds no separator is shown as it is. -/
theorem shownKey_of_not_mem {pre r : String} (fold : Bool) (h : '/' ∉ r.toList) :
    shownKey pre fold (pre ++ r) = pre ++ r := by
  unfold shownKey
  rw [String.toString_drop_append, splitOn_slash_of_not_mem h]

/-- With folding, a key that goes deeper below the prefix is shown as its first piece there,
followed by a separator. -/
theorem shownKey_of_first {pre first more : String} (h : '/' ∉ first.toList) :
    shownKey pre true (pre ++ (first ++ "/" ++ more)) = pre ++ first ++ "/" := by
  unfold shownKey
  rw [String.toString_drop_append, splitOn_slash_append, splitOn_slash_of_not_mem h]
  obtain ⟨m, ms, hmore⟩ := List.exists_cons_of_ne_nil (splitOn_slash_ne_nil more)
  rw [hmore]
  rfl

/-- Without folding, every key is shown as it is. -/
theorem shownKey_false (pre k : String) : shownKey pre false k = k := by
  unfold shownKey
  split <;> rfl

/-- Without folding, a listing shows the keys below the prefix. -/
theorem mem_listing_keys {keys : List String} {pre x : String} :
    x ∈ (listing keys pre false).map Listed.key ↔ ∃ r, x = pre ++ r ∧ pre ++ r ∈ keys := by
  rw [mem_listing]
  simp only [shownKey_false, String.startsWith_iff_eq_append]
  constructor
  · rintro ⟨k, hk, ⟨r, rfl⟩, rfl⟩
    exact ⟨r, rfl, hk⟩
  · rintro ⟨r, rfl, hk⟩
    exact ⟨_, hk, ⟨r, rfl⟩, rfl⟩

/-- With folding, a listing shows the keys just below the prefix, and for each deeper key its
first piece below the prefix, followed by a separator. -/
theorem mem_listing_folded {keys : List String} {pre x : String} :
    x ∈ (listing keys pre true).map Listed.key ↔ ∃ r, pre ++ r ∈ keys ∧
      (('/' ∉ r.toList ∧ x = pre ++ r) ∨
        ∃ first more, '/' ∉ first.toList ∧ r = first ++ "/" ++ more ∧ x = pre ++ first ++ "/") := by
  rw [mem_listing]
  constructor
  · rintro ⟨k, hk, hpre, rfl⟩
    obtain ⟨r, rfl⟩ := String.startsWith_iff_eq_append.1 hpre
    refine ⟨r, hk, ?_⟩
    rcases not_mem_or_first_piece r with hr | ⟨first, more, hfirst, rfl⟩
    · exact .inl ⟨hr, shownKey_of_not_mem true hr⟩
    · exact .inr ⟨first, more, hfirst, rfl, shownKey_of_first hfirst⟩
  · rintro ⟨r, hk, ⟨hr, rfl⟩ | ⟨first, more, hfirst, rfl, rfl⟩⟩
    · exact ⟨_, hk, String.startsWith_iff_eq_append.2 ⟨r, rfl⟩, (shownKey_of_not_mem true hr).symm⟩
    · exact ⟨_, hk, String.startsWith_iff_eq_append.2 ⟨_, rfl⟩, (shownKey_of_first hfirst).symm⟩

/-- Some key begins with a text exactly when some key is that text followed by more. -/
theorem any_startsWith_iff {keys : List String} {q : String} :
    keys.any (·.startsWith q) = true ↔ ∃ t, q ++ t ∈ keys := by
  simp only [List.any_eq_true, String.startsWith_iff_eq_append]
  constructor
  · rintro ⟨k, hk, t, rfl⟩
    exact ⟨t, hk⟩
  · rintro ⟨t, ht⟩
    exact ⟨_, ht, t, rfl⟩

end ObjectServer

/-! ## Looking a directory up -/

namespace BucketOp

open ObjectServer

variable {s s' : ObjectServer}

/-- A request through the storage is answered by the store, which is left as the answer left it. -/
theorem call_run {α : Type} (c : Request (Except ClientError α)) (s : ObjectServer) :
    (call c).run s = .ok (c.run s).1 (c.run s).2 := rfl

/-- A needed request that returned was answered with that value. -/
theorem need_run_ok {α : Type} {label : Option String} {c : Request (Except ClientError α)}
    {a : α} (hr : (need label c).run s = .ok a s') : c.run s = (.ok a, s') := by
  unfold need at hr
  rw [EStateM.run_bind, call_run] at hr
  cases hc : c.run s with
  | mk r s₁ =>
    rw [hc] at hr
    cases r with
    | ok a' => cases hr; rfl
    | error e => cases hr

/-- A needed request answered with a value returns it. -/
theorem need_run_of_ok {α : Type} {label : Option String} {c : Request (Except ClientError α)}
    {a : α} (hc : c.run s = (.ok a, s')) : (need label c).run s = .ok a s' := by
  unfold need
  rw [EStateM.run_bind, call_run, hc]
  rfl

/-- A result handed to the storage is returned, with nothing changed. -/
theorem orThrow_run_of_ok {α : Type} (a : α) (s : ObjectServer) :
    (orThrow (.ok a : Except Error α)).run s = .ok a s := rfl

/-- Handing over a result that returned a value was handing over that value, and changed nothing. -/
theorem orThrow_run_ok {α : Type} {x : Except Error α} {a : α}
    (hr : (orThrow x).run s = .ok a s') : x = .ok a ∧ s' = s := by
  cases x with
  | ok a' => cases hr; exact ⟨rfl, rfl⟩
  | error e => cases hr

/-- Looking an object up on a store that denies nothing leaves it as it is; a found object means
that the names passed the client's checks and that the bucket is there; under names that pass,
the lookup answers. -/
theorem stat_run_of_nil (h : s.rules = []) (b k : String) :
    ∃ r, (stat b k).run s = r ∧ (∀ x s', r = .ok x s' → s' = s ∧ ∀ m, x = some m →
      bucketNameProblem false b = none ∧ objectNameProblem k = none ∧ (s.buckets.get? b).isSome) ∧
      (bucketNameProblem false b = none → objectNameProblem k = none → ∃ x, r = .ok x s) := by
  obtain ⟨r, hrun, hok, hanswer⟩ := ObjectServer.statObject_run_of_nil h b k
  unfold stat
  rw [EStateM.run_bind, call_run, hrun]
  refine ⟨_, rfl, fun x s' hx => ?_, fun hb hk => ?_⟩
  · cases r with
    | ok m =>
      cases hx
      exact ⟨rfl, fun m' hm' => by cases hm'; exact hok m rfl⟩
    | error e =>
      dsimp only at hx
      split at hx
      · cases hx
        exact ⟨rfl, fun m hm => by cases hm⟩
      · cases hx
  · rcases hanswer hb hk with ⟨m, rfl⟩ | rfl
    · exact ⟨_, rfl⟩
    · exact ⟨none, rfl⟩

/-- A lookup on a store with no rules that returns leaves the store as it is, and an object it finds
passed the checks, in a bucket that is there. -/
theorem stat_run_ok (h : s.rules = []) {b k : String} {x : Option (List (String × String))}
    (hr : (stat b k).run s = .ok x s') :
    s' = s ∧ ∀ m, x = some m → bucketNameProblem false b = none ∧ objectNameProblem k = none ∧
      (s.buckets.get? b).isSome := by
  obtain ⟨r, hrun, hok, -⟩ := stat_run_of_nil h b k
  exact hok x s' (hrun ▸ hr)

/-- On a store with no rules, a lookup under names that pass the checks returns. -/
theorem stat_run_found (h : s.rules = []) {b k : String} (hb : bucketNameProblem false b = none)
    (hk : objectNameProblem k = none) : ∃ x, (stat b k).run s = .ok x s := by
  obtain ⟨r, hrun, -, hfound⟩ := stat_run_of_nil h b k
  rw [hrun]
  exact hfound hb hk

/-- Asking a store with no rules whether a bucket exists leaves the store as it is; the bucket's
name passed its check and the answer is whether the bucket is there. -/
theorem bucketExists_run_ok (h : s.rules = []) {b : String} {x : Bool}
    (hr : (bucketExists b).run s = .ok x s') :
    s' = s ∧ bucketNameProblem false b = none ∧ x = s.buckets.contains b := by
  obtain ⟨r, hrun, hok⟩ := ObjectServer.bucketExists_run_of_nil h b
  unfold bucketExists at hr
  rw [need_run_ok hr] at hrun
  cases hrun
  exact ⟨rfl, hok x rfl⟩

/-- An object name that passes its check passes as a prefix. -/
theorem prefixProblem_of_objectNameProblem {k : String} (h : objectNameProblem k = none) :
    prefixProblem k = none := by
  unfold objectNameProblem at h
  split at h
  · cases h
  · exact h

/-- The prefix of the keys below a directory: its path in the bucket followed by a separator, or
nothing for the bucket's root. -/
def keyPrefix (p : String) : String :=
  if (Path.split p).2.isEmpty then "" else (Path.split p).2 ++ "/"

/-- The prefix of the keys below a directory is empty or ends with a separator. -/
theorem keyPrefix_cases (p : String) : keyPrefix p = "" ∨ ∃ q, keyPrefix p = q ++ "/" := by
  unfold keyPrefix
  split
  · exact .inl rfl
  · exact .inr ⟨_, rfl⟩

/-- On a store that denies nothing, the storage finds a directory without changing the store; the
path is then valid, the directory lies in the bucket the path names, which is there, and the
bucket's name and the directory's prefix pass the client's checks. The root is found by its
bucket, a directory below it by its object, or, when it has none and no file has its name, by a
key below it. -/
theorem resolve_folder (h : s.rules = []) {p : String} {o : Found}
    (hr : (resolve p).run s = .ok o s') (hfolder : o.folder = true) :
    s' = s ∧ Path.validate p = .ok () ∧ o.bucket = (Path.split p).1 ∧
      bucketNameProblem false o.bucket = none ∧ prefixProblem (keyPrefix p) = none ∧
      (s.buckets.get? o.bucket).isSome := by
  unfold resolve at hr
  replace hr := bind_run_ok hr
  obtain ⟨u, s₁, hv, hr⟩ := hr
  obtain ⟨hvalid, hs₁⟩ := orThrow_run_ok hv
  subst s₁
  unfold keyPrefix
  cases hsp : Path.split p with
  | mk bucket rel =>
  rw [hsp] at hr
  dsimp only at hr ⊢
  cases hrel : rel.isEmpty with
  | true =>
    rw [if_pos hrel] at hr
    replace hr := bind_run_ok hr
    obtain ⟨x, s₂, hx, hr⟩ := hr
    obtain ⟨hs₂, hname, rfl⟩ := bucketExists_run_ok h hx
    subst s₂
    cases hc : s.buckets.contains bucket with
    | false => rw [hc] at hr; cases hr
    | true =>
      rw [hc] at hr
      replace hr := bind_run_ok hr
      obtain ⟨y, s₃, hy, hr⟩ := hr
      obtain ⟨hs₃, -⟩ := stat_run_ok h hy
      subst s₃
      have hroot : prefixProblem "" = none := rfl
      cases y <;> (cases hr; exact ⟨rfl, hvalid, rfl, hname, hroot, hc⟩)
  | false =>
    have hkeys : objectKeys rel = (rel ++ "/", rel) := by simp [objectKeys, hrel]
    have hpre : (if false = true then "" else rel ++ "/") = rel ++ "/" := rfl
    rw [hrel, if_neg Bool.false_ne_true, hkeys] at hr
    rw [hpre]
    dsimp only at hr
    replace hr := bind_run_ok hr
    obtain ⟨y, s₂, hy, hr⟩ := hr
    obtain ⟨hs₂, hdir⟩ := stat_run_ok h hy
    subst s₂
    cases y with
    | some m =>
      cases hr
      obtain ⟨hname, hobj, hget⟩ := hdir m rfl
      exact ⟨rfl, hvalid, rfl, hname, prefixProblem_of_objectNameProblem hobj, hget⟩
    | none =>
      dsimp only at hr
      replace hr := bind_run_ok hr
      obtain ⟨z, s₃, hz, hr⟩ := hr
      obtain ⟨hs₃, -⟩ := stat_run_ok h hz
      subst s₃
      cases z with
      | some m => cases hr; cases hfolder
      | none =>
        dsimp only at hr
        replace hr := bind_run_ok hr
        obtain ⟨r, s₄, hcall, hr⟩ := hr
        obtain ⟨r', hrun, hok⟩ := ObjectServer.listObjects_run_of_nil h bucket (rel ++ "/") false 1
        rw [call_run, hrun] at hcall
        cases hcall
        cases r' with
        | ok l =>
          cases l with
          | nil => cases hr
          | cons e es =>
            cases hr
            obtain ⟨hname, hpre, hget⟩ := hok _ rfl
            exact ⟨rfl, hvalid, rfl, hname, hpre, hget⟩
        | error e =>
          dsimp only at hr
          split at hr <;> cases hr

/-- On a store that denies nothing, the root of a bucket that is there, under a name that passes
the client's checks, is found as a directory, the store left as it was. -/
theorem resolve_run_root (h : s.rules = []) {p b : String} (hv : Path.validate p = .ok ())
    (hsp : Path.split p = (b, "")) (hname : bucketNameProblem false b = none)
    (hget : s.buckets.contains b = true) :
    ∃ o, (resolve p).run s = .ok o s ∧ o.folder = true ∧ o.bucket = b := by
  have hexists : (bucketExists b).run s = .ok true s := by
    unfold bucketExists
    rw [need_run_of_ok (ObjectServer.bucketExists_run_found h hname), hget]
  have hmarker : objectNameProblem rootMarker = none := by decide
  obtain ⟨x, hstat⟩ := stat_run_found h hname hmarker
  unfold resolve
  rw [EStateM.run_bind, hv, orThrow_run_of_ok]
  dsimp only
  rw [hsp]
  dsimp only
  rw [if_pos (show "".isEmpty = true from rfl), EStateM.run_bind, hexists]
  dsimp only
  rw [if_neg (by decide), EStateM.run_bind, hstat]
  cases x <;> exact ⟨_, rfl, rfl, rfl⟩

/-! ## Recording names -/

/-- Marking a name as a directory changes only what is recorded for that name. -/
theorem lookup_mark (seen : List (String × Bool)) (k n : String) :
    (seen.map fun (k', f) => if k' == k then (k', true) else (k', f)).lookup n =
      if n = k then (seen.lookup n).map fun _ => true else seen.lookup n := by
  induction seen with
  | nil => simp
  | cons e seen ih =>
    obtain ⟨k', f⟩ := e
    rw [List.map_cons, List.lookup_cons, List.lookup_cons, ih]
    by_cases hn : n = k'
    · subst hn
      by_cases hk : n = k <;> simp [hk]
    · have hne : (n == k') = false := beq_false_of_ne hn
      by_cases hk : k' = k
      · subst hk
        simp [hne, hn]
      · simp [hne, hk]

/-- Recording a name leaves out the empty name and the marker's; any other name is recorded
with its kind, and a name recorded before becomes a directory when this record says so. -/
theorem lookup_note (seen : List (String × Bool)) (k : String) (f : Bool) (n : String) :
    (note seen k f).lookup n =
      if n = k ∧ k ≠ "" ∧ k ≠ rootMarker then some ((seen.lookup k).getD false || f)
      else seen.lookup n := by
  unfold note
  by_cases hk : k = "" ∨ k = rootMarker
  · have hskip : (k.isEmpty || k == rootMarker) = true := by
      rcases hk with rfl | rfl <;> simp
    rw [if_pos hskip, if_neg (by tauto)]
  · have hkeep : (k.isEmpty || k == rootMarker) = false := by
      obtain ⟨hempty, hmarker⟩ := not_or.1 hk
      rw [Bool.or_eq_false_iff, beq_eq_false_iff_ne]
      exact ⟨by simpa using hempty, hmarker⟩
    rw [if_neg (by simp [hkeep])]
    have hvalid : k ≠ "" ∧ k ≠ rootMarker := not_or.1 hk
    by_cases hn : n = k
    · subst hn
      rw [if_pos (c := n = n ∧ n ≠ "" ∧ n ≠ rootMarker) ⟨rfl, hvalid⟩]
      cases hl : seen.lookup n with
      | none => simp [List.lookup_append, hl]
      | some g =>
        cases f with
        | true => rw [if_pos rfl, lookup_mark, if_pos rfl, hl]; simp
        | false => simp [hl]
    · rw [if_neg (c := n = k ∧ k ≠ "" ∧ k ≠ rootMarker) (fun h => hn h.1)]
      have hne : (n == k) = false := beq_false_of_ne hn
      cases seen.lookup k with
      | none => simp [List.lookup_append, List.lookup_cons, hne]
      | some g =>
        cases f with
        | true => rw [if_pos rfl, lookup_mark, if_neg hn]
        | false => rfl

/-- Recording never names a place twice. -/
theorem nodup_note {seen : List (String × Bool)} (h : (seen.map Prod.fst).Nodup) (k : String)
    (f : Bool) : ((note seen k f).map Prod.fst).Nodup := by
  unfold note
  split
  · exact h
  · split
    · next hl =>
      have hk : k ∉ seen.map Prod.fst := by
        simp only [List.lookup_eq_none_iff, bne_iff_ne, ne_eq] at hl
        simpa using fun f hf => hl (k, f) hf rfl
      rw [List.map_append, List.nodup_append]
      refine ⟨h, List.nodup_singleton _, fun a ha b hb => ?_⟩
      rw [List.map_cons, List.map_nil, List.mem_singleton] at hb
      subst hb
      exact fun hab => hk (hab ▸ ha)
    · split
      · have hkeys : (seen.map fun (k', f) => if k' == k then (k', true) else (k', f)).map
            Prod.fst = seen.map Prod.fst := by
          rw [List.map_map]
          congr 1
          funext e
          obtain ⟨k', f'⟩ := e
          by_cases hk : k' = k <;> simp [hk]
        rw [hkeys]
        exact h
      · exact h

/-- What a run of records from nothing keeps for a name: the name when it is neither empty nor
the marker's and some record names it, as a directory exactly when some record says so. -/
theorem lookup_foldl_note (N : List (String × Bool)) (n : String) :
    (N.foldl (fun s e => note s e.1 e.2) []).lookup n =
      if n ≠ "" ∧ n ≠ rootMarker ∧ n ∈ N.map Prod.fst then some (decide ((n, true) ∈ N))
      else none := by
  induction N using List.reverseRecOn generalizing n with
  | nil => simp
  | append_singleton N e ih =>
    obtain ⟨k, f⟩ := e
    rw [List.foldl_append, List.foldl_cons, List.foldl_nil, lookup_note, ih, ih]
    by_cases hn : n = k
    · subst hn
      by_cases hv : n ≠ "" ∧ n ≠ rootMarker
      · by_cases hN : n ∈ N.map Prod.fst <;> simp_all
      · have hinv : ∀ M : List (String × Bool), ¬(n ≠ "" ∧ n ≠ rootMarker ∧ n ∈ M.map Prod.fst) :=
          fun M h => hv ⟨h.1, h.2.1⟩
        rw [if_neg (fun h => hv h.2), if_neg (hinv N), if_neg (hinv _)]
    · simp [hn]

/-- Noting names one after another from nothing records each name once, by induction on the names
from the end. -/
theorem nodup_foldl_note (N : List (String × Bool)) :
    ((N.foldl (fun s e => note s e.1 e.2) []).map Prod.fst).Nodup := by
  induction N using List.reverseRecOn with
  | nil => simp
  | append_singleton N e ih =>
    rw [List.foldl_append, List.foldl_cons, List.foldl_nil]
    exact nodup_note ih e.1 e.2

/-! ## The names a key stands for -/

/-- The place a listed key names below the prefix, without the separator that marks a directory
object, and whether it had one. -/
def placeOf (pre key : String) : String × Bool :=
  let rest := (key.drop pre.length).toString
  if rest.endsWith "/" then (String.ofList rest.toList.dropLast, true) else (rest, false)

/-- The directories above a place: its segments joined up to each separator. -/
def directoriesAbove (rel : String) : List String :=
  let segments := rel.splitOn "/"
  (List.range (segments.length - 1)).map fun i => "/".intercalate (segments.take (i + 1))

/-- The names a listed key stands for, each with whether it is a directory, in the order the
listing records them. -/
def namesOf (recursive : Bool) (pre key : String) : List (String × Bool) :=
  (if recursive then (directoriesAbove (placeOf pre key).1).map (·, true) else []) ++
    [placeOf pre key]

/-- Noting a listed key is noting the names it stands for, one after the other. -/
theorem noteListed_eq (recursive : Bool) (pre : String) (seen : List (String × Bool))
    (key : String) :
    noteListed recursive pre seen key =
      (namesOf recursive pre key).foldl (fun s e => note s e.1 e.2) seen := by
  unfold noteListed namesOf placeOf directoriesAbove
  dsimp only
  generalize (key.drop pre.length).toString = rest
  cases hf : rest.endsWith "/" <;> cases recursive <;> simp [List.foldl_map]

/-- The directories above a place are the texts that it begins with, followed by a separator. -/
theorem mem_directoriesAbove {rel n : String} :
    n ∈ directoriesAbove rel ↔ rel.startsWith (n ++ "/") = true := by
  unfold directoriesAbove
  rw [List.mem_map, String.startsWith_iff_eq_append]
  constructor
  · rintro ⟨i, hi, rfl⟩
    rw [List.mem_range] at hi
    have hne₁ : (rel.splitOn "/").take (i + 1) ≠ [] := by
      simpa using splitOn_slash_ne_nil rel
    have hne₂ : (rel.splitOn "/").drop (i + 1) ≠ [] := by
      simp only [ne_eq, List.drop_eq_nil_iff, not_le]
      omega
    refine ⟨"/".intercalate ((rel.splitOn "/").drop (i + 1)), ?_⟩
    calc rel = "/".intercalate (rel.splitOn "/") := (intercalate_splitOn_slash rel).symm
      _ = "/".intercalate ((rel.splitOn "/").take (i + 1) ++ (rel.splitOn "/").drop (i + 1)) := by
        rw [List.take_append_drop]
      _ = _ := by rw [String.intercalate_append_of_ne_nil hne₁ hne₂]
  · rintro ⟨rest, rfl⟩
    have hn := List.length_pos_of_ne_nil (splitOn_slash_ne_nil n)
    have hrest := List.length_pos_of_ne_nil (splitOn_slash_ne_nil rest)
    refine ⟨(n.splitOn "/").length - 1, ?_, ?_⟩
    · rw [List.mem_range, splitOn_slash_append, List.length_append]
      omega
    · rw [splitOn_slash_append, Nat.sub_add_cancel hn, List.take_left,
        intercalate_splitOn_slash]

/-- What follows the prefix in a listed key: without its last separator if it ends in one. -/
theorem placeOf_append (pre r : String) :
    placeOf pre (pre ++ r) =
      if r.endsWith "/" then (String.ofList r.toList.dropLast, true) else (r, false) := by
  unfold placeOf
  rw [String.toString_drop_append]

/-- With recursion, a listed key stands for a directory at `n` exactly when what follows the
prefix begins with `n` and a separator. -/
theorem directory_mem_namesOf {pre r n : String} :
    (n, true) ∈ namesOf true pre (pre ++ r) ↔ r.startsWith (n ++ "/") = true := by
  unfold namesOf
  rw [if_pos rfl, placeOf_append]
  by_cases hend : r.endsWith "/" = true
  · rw [if_pos hend, startsWith_of_endsWith hend, ← mem_directoriesAbove]
    simp
  · rw [if_neg hend]
    simp [mem_directoriesAbove]

/-- With recursion, a listed key stands for the name `n` exactly when what follows the prefix
begins with `n` and a separator, or is `n` and names no directory object. -/
theorem mem_namesOf {pre r n : String} :
    n ∈ (namesOf true pre (pre ++ r)).map Prod.fst ↔
      r.startsWith (n ++ "/") = true ∨ (n = r ∧ r.endsWith "/" = false) := by
  unfold namesOf
  rw [if_pos rfl, placeOf_append]
  by_cases hend : r.endsWith "/" = true
  · rw [if_pos hend, startsWith_of_endsWith hend, ← mem_directoriesAbove, hend]
    simp
  · rw [if_neg hend]
    simp [mem_directoriesAbove, hend]

/-- A place just below the prefix, without separators, is a file. -/
theorem placeOf_of_not_mem {pre r : String} (h : '/' ∉ r.toList) :
    placeOf pre (pre ++ r) = (r, false) := by
  rw [placeOf_append, endsWith_slash_of_not_mem h]
  rfl

/-- A first piece below the prefix, followed by a separator, is a directory. -/
theorem placeOf_folded (pre first : String) : placeOf pre (pre ++ first ++ "/") = (first, true) := by
  have hend : (first ++ "/").endsWith "/" = true := by
    simp [← String.endsWith_toSlice]
  rw [String.append_assoc, placeOf_append, if_pos hend]
  congr 1
  apply String.ext
  simp

/-- Without recursion, a shown key stands for its place alone. -/
theorem namesOf_false (pre x : String) : namesOf false pre x = [placeOf pre x] := rfl

/-! ## The names a listing records -/

/-- What the keys of a bucket make of the name `n` below the prefix `pre`: a directory when some
key lies below it, a file when a key is exactly it and names no directory object, nothing
otherwise; the empty name and the marker's name are never items. -/
def kindAmong (keys : List String) (pre n : String) : Option Bool :=
  if n = "" ∨ n = rootMarker then none
  else if keys.any (·.startsWith (pre ++ n ++ "/")) then some true
  else if pre ++ n ∈ keys ∧ n.endsWith "/" = false then some false
  else none

/-- A name recorded from a listing is one of the names of a key it shows. -/
theorem mem_flatMap_namesOf {listed : List Listed} {recursive : Bool} {pre : String}
    {e : String × Bool} :
    e ∈ listed.flatMap (fun l => namesOf recursive pre l.key) ↔
      ∃ x ∈ listed.map Listed.key, e ∈ namesOf recursive pre x := by
  simp [List.mem_flatMap]

/-- The directories a listing records are the names some key lies below, with recursion off only
those without a separator. -/
theorem directory_mem_recorded {keys : List String} {pre n : String} (recursive : Bool) :
    (n, true) ∈ (listing keys pre !recursive).flatMap (fun l => namesOf recursive pre l.key) ↔
      (recursive = true ∨ '/' ∉ n.toList) ∧ keys.any (·.startsWith (pre ++ n ++ "/")) = true := by
  rw [mem_flatMap_namesOf, any_startsWith_iff]
  cases recursive with
  | true =>
    simp only [Bool.not_true, mem_listing_keys, true_or, true_and]
    constructor
    · rintro ⟨x, ⟨r, rfl, hk⟩, hn⟩
      obtain ⟨t, rfl⟩ := String.startsWith_iff_eq_append.1 (directory_mem_namesOf.1 hn)
      exact ⟨t, by simpa only [String.append_assoc] using hk⟩
    · rintro ⟨t, hk⟩
      refine ⟨_, ⟨n ++ "/" ++ t, rfl, by simpa only [String.append_assoc] using hk⟩, ?_⟩
      exact directory_mem_namesOf.2 (String.startsWith_iff_eq_append.2 ⟨t, rfl⟩)
  | false =>
    simp only [Bool.not_false, mem_listing_folded, namesOf_false, List.mem_singleton]
    constructor
    · rintro ⟨x, ⟨r, hk, ⟨hr, rfl⟩ | ⟨first, more, hfirst, rfl, rfl⟩⟩, hn⟩
      · rw [placeOf_of_not_mem hr] at hn
        cases hn
      · rw [placeOf_folded] at hn
        cases hn
        exact ⟨.inr hfirst, more, by simpa only [String.append_assoc] using hk⟩
    · rintro ⟨hn, t, hk⟩
      have hn : '/' ∉ n.toList := by simpa using hn
      refine ⟨_, ⟨n ++ "/" ++ t, by simpa only [String.append_assoc] using hk,
        .inr ⟨n, t, hn, rfl, rfl⟩⟩, ?_⟩
      rw [placeOf_folded]

/-- The names a listing records are those some key lies below, and the keys that name no
directory object, with recursion off only those without a separator. -/
theorem mem_recorded {keys : List String} {pre n : String} (recursive : Bool) :
    n ∈ ((listing keys pre !recursive).flatMap (fun l => namesOf recursive pre l.key)).map
        Prod.fst ↔
      (recursive = true ∨ '/' ∉ n.toList) ∧ (keys.any (·.startsWith (pre ++ n ++ "/")) = true ∨
        (pre ++ n ∈ keys ∧ n.endsWith "/" = false)) := by
  have hmem : n ∈ ((listing keys pre !recursive).flatMap
      (fun l => namesOf recursive pre l.key)).map Prod.fst ↔
      ∃ x ∈ (listing keys pre !recursive).map Listed.key,
        n ∈ (namesOf recursive pre x).map Prod.fst := by
    simp only [List.mem_map, mem_flatMap_namesOf]
    constructor
    · rintro ⟨e, ⟨x, hx, he⟩, rfl⟩
      exact ⟨x, hx, e, he, rfl⟩
    · rintro ⟨x, hx, e, he, rfl⟩
      exact ⟨e, ⟨x, hx, he⟩, rfl⟩
  rw [hmem, any_startsWith_iff]
  cases recursive with
  | true =>
    simp only [Bool.not_true, mem_listing_keys, true_or, true_and]
    constructor
    · rintro ⟨x, ⟨r, rfl, hk⟩, hn⟩
      rcases mem_namesOf.1 hn with hbelow | ⟨rfl, hend⟩
      · obtain ⟨t, rfl⟩ := String.startsWith_iff_eq_append.1 hbelow
        exact .inl ⟨t, by simpa only [String.append_assoc] using hk⟩
      · exact .inr ⟨hk, hend⟩
    · rintro (⟨t, hk⟩ | ⟨hk, hend⟩)
      · refine ⟨_, ⟨n ++ "/" ++ t, rfl, by simpa only [String.append_assoc] using hk⟩, ?_⟩
        exact mem_namesOf.2 (.inl (String.startsWith_iff_eq_append.2 ⟨t, rfl⟩))
      · exact ⟨_, ⟨n, rfl, hk⟩, mem_namesOf.2 (.inr ⟨rfl, hend⟩)⟩
  | false =>
    simp only [Bool.not_false, mem_listing_folded, namesOf_false, List.map_singleton,
      List.mem_singleton]
    constructor
    · rintro ⟨x, ⟨r, hk, ⟨hr, rfl⟩ | ⟨first, more, hfirst, rfl, rfl⟩⟩, hn⟩
      · rw [placeOf_of_not_mem hr] at hn
        subst hn
        exact ⟨.inr hr, .inr ⟨hk, endsWith_slash_of_not_mem hr⟩⟩
      · rw [placeOf_folded] at hn
        subst hn
        exact ⟨.inr hfirst, .inl ⟨more, by simpa only [String.append_assoc] using hk⟩⟩
    · rintro ⟨hn, (⟨t, hk⟩ | ⟨hk, -⟩)⟩
      · have hn : '/' ∉ n.toList := by simpa using hn
        refine ⟨_, ⟨n ++ "/" ++ t, by simpa only [String.append_assoc] using hk,
          .inr ⟨n, t, hn, rfl, rfl⟩⟩, ?_⟩
        rw [placeOf_folded]
      · have hn : '/' ∉ n.toList := by simpa using hn
        exact ⟨_, ⟨n, hk, .inl ⟨hn, rfl⟩⟩, by rw [placeOf_of_not_mem hn]⟩

/-- Recording the names of the keys a listing shows, one key after another, records them all. -/
theorem foldl_noteListed (recursive : Bool) (pre : String) (listed : List Listed) :
    listed.foldl (fun s e => noteListed recursive pre s e.key) [] =
      (listed.flatMap fun l => namesOf recursive pre l.key).foldl (fun s e => note s e.1 e.2) [] := by
  simp only [noteListed_eq, List.foldl_flatMap]

/-- The names recorded from a listing of the keys below `pre` have the kinds the keys make of
them, with recursion off only those without a separator. -/
theorem lookup_recorded (keys : List String) (pre : String) (recursive : Bool) (n : String) :
    ((listing keys pre !recursive).foldl (fun s e => noteListed recursive pre s e.key) []).lookup n =
      if recursive = true ∨ '/' ∉ n.toList then kindAmong keys pre n else none := by
  rw [foldl_noteListed, lookup_foldl_note]
  simp only [mem_recorded, directory_mem_recorded]
  unfold kindAmong
  by_cases hlevel : recursive = true ∨ '/' ∉ n.toList
  · by_cases hn : n = "" ∨ n = rootMarker
    · rcases hn with rfl | rfl <;> simp
    · obtain ⟨hempty, hmarker⟩ := not_or.1 hn
      by_cases hbelow : keys.any (·.startsWith (pre ++ n ++ "/")) = true
      · simp [hlevel, hempty, hmarker, hbelow]
      · simp [hlevel, hempty, hmarker, hbelow]
  · simp [hlevel]

end BucketOp

/-! ## Keys in normal form -/

/-- A key in normal form: it does not begin with a separator and holds no two separators in a
row, so that only the key of a directory object ends with one. -/
def Clean (k : String) : Prop := k.toList.head? ≠ some '/' ∧ ¬ ['/', '/'] <:+: k.toList

/-- Whether a key is in normal form can be decided. -/
instance : DecidablePred Clean := fun k =>
  inferInstanceAs (Decidable (k.toList.head? ≠ some '/' ∧ ¬ ['/', '/'] <:+: k.toList))

/-- A name that follows a prefix ending in a separator, in a key in normal form, does not begin
with one. -/
theorem head_of_clean {pre n m : String} (hpre : pre = "" ∨ ∃ q, pre = q ++ "/")
    (hk : Clean (pre ++ n ++ m)) : n.toList.head? ≠ some '/' := by
  intro hn
  obtain ⟨cs, hcs⟩ : ∃ cs, n.toList = '/' :: cs := by
    cases hl : n.toList with
    | nil => rw [hl] at hn; cases hn
    | cons c cs => rw [hl] at hn; cases hn; exact ⟨cs, rfl⟩
  rcases hpre with rfl | ⟨q, rfl⟩
  · apply hk.1
    simp [hcs]
  · apply hk.2
    exact ⟨q.toList, cs ++ m.toList, by simp [hcs]⟩

/-- A name followed by a separator, in a key in normal form, does not end with one. -/
theorem last_of_clean {pre n t : String} (hk : Clean (pre ++ n ++ "/" ++ t)) :
    n.toList.getLast? ≠ some '/' := by
  intro hn
  apply hk.2
  refine ⟨pre.toList ++ n.toList.dropLast, t.toList, ?_⟩
  have hsplit : n.toList = n.toList.dropLast ++ ['/'] :=
    (List.dropLast_append_getLast? _ hn).symm
  conv_rhs => rw [String.toList_append, String.toList_append, String.toList_append, hsplit]
  simp

namespace BucketOp

open ObjectServer

variable {s s' : ObjectServer}

/-- Among keys in normal form, below a prefix that is empty or ends with a separator, every name
that the keys make an item of is an inner path. -/
theorem inner_of_kindAmong {keys : List String} {pre n : String} {f : Bool}
    (hclean : ∀ k ∈ keys, Clean k) (hpre : pre = "" ∨ ∃ q, pre = q ++ "/")
    (h : kindAmong keys pre n = some f) : Path.Inner n := by
  unfold kindAmong at h
  split_ifs at h with hex hbelow hfile
  · obtain ⟨t, ht⟩ := any_startsWith_iff.1 hbelow
    have hk := hclean _ ht
    have hk' : Clean (pre ++ n ++ ("/" ++ t)) := by simpa only [String.append_assoc] using hk
    exact ⟨(not_or.1 hex).1, head_of_clean hpre hk', last_of_clean hk⟩
  · have hk : Clean (pre ++ n ++ "") := by simpa using hclean _ hfile.1
    exact ⟨(not_or.1 hex).1, head_of_clean hpre hk, getLast?_of_endsWith hfile.2⟩

/-! ## Listing a directory -/

/-- In a list that names each place once, a place is bound to a kind exactly when the kind is
what looking the place up finds. -/
theorem List.mem_iff_lookup {l : List (String × Bool)} (h : (l.map Prod.fst).Nodup)
    {n : String} {f : Bool} : (n, f) ∈ l ↔ l.lookup n = some f := by
  induction l with
  | nil => simp
  | cons e l ih =>
    obtain ⟨k, g⟩ := e
    rw [List.map_cons, List.nodup_cons] at h
    by_cases hn : n = k
    · subst hn
      have hnot : ∀ f', (n, f') ∉ l := fun f' hf => h.1 (List.mem_map.2 ⟨_, hf, rfl⟩)
      simp [hnot, eq_comm]
    · have hne : (n == k) = false := beq_false_of_ne hn
      simp [List.lookup_cons, hne, hn, ih h.2]

/-- Sorting names that are all different puts them in strictly increasing order. -/
theorem pairwise_lt_mergeSort {l : List (String × Bool)} (h : (l.map Prod.fst).Nodup) :
    (l.mergeSort fun a b => !(b.1 < a.1)).Pairwise (fun a b => a.1 < b.1) := by
  have hsorted : (l.mergeSort fun a b => !(b.1 < a.1)).Pairwise fun a b => !(b.1 < a.1) :=
    List.pairwise_mergeSort
      (fun a b c hab hbc => by
        simp only [Bool.not_eq_true', decide_eq_false_iff_not, not_lt] at hab hbc ⊢
        exact le_trans hab hbc)
      (fun a b => by
        simp only [Bool.or_eq_true, Bool.not_eq_true', decide_eq_false_iff_not, not_lt]
        exact le_total a.1 b.1)
      l
  have hnodup : ((l.mergeSort fun a b => !(b.1 < a.1)).map Prod.fst).Nodup :=
    ((List.mergeSort_perm l _).map Prod.fst).nodup_iff.2 h
  refine (hsorted.and (List.pairwise_map.1 hnodup)).imp fun ⟨hle, hne⟩ => ?_
  simp only [Bool.not_eq_true', decide_eq_false_iff_not, not_lt] at hle
  exact lt_of_le_of_ne hle hne

/-- On a store that denies nothing, listing a directory the storage finds asks the store once for
the keys below the directory's prefix, records the names they stand for and answers them sorted,
each joined to the directory's path, the store left as it was. -/
theorem list_run (h : s.rules = []) {p : String} {o : Found} (hr : (resolve p).run s = .ok o s')
    (hfolder : o.folder = true) (recursive : Bool) (max : Int) :
    ∃ objects, s.buckets.get? o.bucket = some objects ∧
      (list p recursive max).run s = .ok (limitItems ((((listing objects.keys (keyPrefix p)
        !recursive).foldl (fun seen e => noteListed recursive (keyPrefix p) seen e.key) []).mergeSort
          fun a b => !(b.1 < a.1)).map fun (k, f) => ⟨Path.join [p, k], f⟩) max) s := by
  obtain ⟨rfl, -, -, hname, hpre, hget⟩ := resolve_folder h hr hfolder
  obtain ⟨objects, hobj⟩ := Option.isSome_iff_exists.1 hget
  refine ⟨objects, hobj, ?_⟩
  unfold list
  rw [EStateM.run_bind, hr]
  dsimp only
  rw [hfolder, if_neg (by decide)]
  rw [show (if (Path.split p).2.isEmpty = true then "" else (Path.split p).2 ++ "/") = keyPrefix p
    from rfl, EStateM.run_bind,
    need_run_of_ok (ObjectServer.listObjects_run_found h hname hpre hobj recursive)]
  rfl

/-- Names that are all different, each bound to the kind `kindAt` gives it and admitted at the
level `recursive` asks for, and each joined to `p` by one separator, form once sorted and joined
the listing of the items below `p`. -/
theorem listingOf_joined {kindAt : String → Option Bool} {p : String} {recursive : Bool}
    {seen : List (String × Bool)} (hnodup : (seen.map Prod.fst).Nodup)
    (hmem : ∀ n f, (n, f) ∈ seen ↔ (recursive = true ∨ '/' ∉ n.toList) ∧ kindAt n = some f)
    (hjoin : ∀ n f, (n, f) ∈ seen → Path.join [p, n] = p ++ "/" ++ n) (max : Int) :
    ListingOf (ItemsBelow kindAt p recursive) max (limitItems ((seen.mergeSort
      fun a b => !(b.1 < a.1)).map fun (k, f) => ⟨Path.join [p, k], f⟩) max) := by
  have hperm := List.mergeSort_perm seen fun a b => !(b.1 < a.1)
  refine ⟨_, rfl, ?_, fun it => ?_⟩
  · rw [List.pairwise_map]
    refine (pairwise_lt_mergeSort hnodup).imp_of_mem fun {a b} ha hb hab => ?_
    obtain ⟨n₁, f₁⟩ := a
    obtain ⟨n₂, f₂⟩ := b
    dsimp only
    rw [hjoin n₁ f₁ (hperm.mem_iff.1 ha), hjoin n₂ f₂ (hperm.mem_iff.1 hb)]
    exact (String.append_lt_append_left_iff _ _ _).2 hab
  · rw [List.mem_map]
    constructor
    · rintro ⟨⟨n, f⟩, he, rfl⟩
      have he' := hperm.mem_iff.1 he
      obtain ⟨hlevel, hkind⟩ := (hmem n f).1 he'
      refine ⟨n, ?_, hlevel, hkind⟩
      dsimp only
      exact hjoin n f he'
    · rintro ⟨n, hpath, hlevel, hkind⟩
      have he := (hmem n it.isFolder).2 ⟨hlevel, hkind⟩
      refine ⟨(n, it.isFolder), hperm.mem_iff.2 he, ?_⟩
      obtain ⟨path, folder⟩ := it
      simp only [Item.mk.injEq, and_true]
      exact (hjoin n folder he).trans hpath.symm

/-- A listing records each name once. -/
theorem nodup_recorded (keys : List String) (pre : String) (recursive : Bool) :
    (((listing keys pre !recursive).foldl
      (fun s e => noteListed recursive pre s e.key) []).map Prod.fst).Nodup := by
  rw [foldl_noteListed]
  exact nodup_foldl_note _

/-- A listing records a name with the kind the keys make of it, with recursion off only the names
one level down. -/
theorem recorded_iff (keys : List String) (pre : String) (recursive : Bool) (n : String)
    (f : Bool) :
    (n, f) ∈ (listing keys pre !recursive).foldl (fun s e => noteListed recursive pre s e.key) [] ↔
      (recursive = true ∨ '/' ∉ n.toList) ∧ kindAmong keys pre n = some f := by
  rw [List.mem_iff_lookup (nodup_recorded keys pre recursive), lookup_recorded]
  split <;> simp_all

/-- On a store that denies nothing, listing a directory the storage finds, in a bucket whose keys
are in normal form, answers exactly the items the keys make below it: for a name below the
directory, the item at the directory's path, a separator and the name, a directory when some key
lies below the name and otherwise a file when a key is the name, with recursion off only the
names one level down and never the marker's name; each once, in increasing path order, cut to the
first `max` when `max` is positive. -/
theorem list_answers_keys_below (h : s.rules = []) {p : String} {o : Found}
    (hr : (resolve p).run s = .ok o s') (hfolder : o.folder = true)
    {objects : Index StoredObject} (hb : s.buckets.get? o.bucket = some objects)
    (hclean : ∀ k ∈ objects.keys, Clean k) (recursive : Bool) (max : Int) :
    ∃ answer, (list p recursive max).run s = .ok answer s ∧
      ListingOf (ItemsBelow (kindAmong objects.keys (keyPrefix p)) p recursive) max answer := by
  obtain ⟨objects', hobj, hrun⟩ := list_run h hr hfolder recursive max
  rw [hb] at hobj
  cases hobj
  obtain ⟨-, hvalid, -⟩ := resolve_folder h hr hfolder
  have hp : Path.Inner p := Path.inner_of_validate hvalid
  have hjoin : ∀ n f, (n, f) ∈ (listing objects.keys (keyPrefix p) !recursive).foldl
      (fun seen e => noteListed recursive (keyPrefix p) seen e.key) [] →
      Path.join [p, n] = p ++ "/" ++ n := fun n f he =>
    Path.join_inner hp (inner_of_kindAmong hclean (keyPrefix_cases p)
      ((recorded_iff _ _ _ n f).1 he).2)
  exact ⟨_, hrun, listingOf_joined (nodup_recorded _ _ _) (recorded_iff _ _ _) hjoin max⟩

/-- The bucket `bkt` is its own root. -/
theorem split_bkt : Path.split "bkt" = ("bkt", "") := by
  rw [Path.split, splitOn_slash]
  cbv

/-- In a store that denies nothing and holds the bucket `bkt`, the storage finds the bucket's root
as a directory. -/
theorem resolve_run_bkt (h : s.rules = []) (hget : s.buckets.contains "bkt" = true) :
    ∃ o, (resolve "bkt").run s = .ok o s ∧ o.folder = true ∧ o.bucket = "bkt" := by
  have hv : Path.validate "bkt" = .ok () := by cbv
  have hname : bucketNameProblem false "bkt" = none := by cbv
  exact resolve_run_root h hv split_bkt hname hget

/-- A bucket holding a directory object `d/` and a file `d/f` below it. -/
theorem list_answers_keys_below_in_bucket :
    let objects : Index StoredObject := ⟨[("d/", {}), ("d/f", {})]⟩
    let s : ObjectServer := { buckets := ⟨[("bkt", objects)]⟩ }
    ∀ r max, ∃ answer, (list "bkt" r max).run s = .ok answer s ∧
      ListingOf (ItemsBelow (kindAmong objects.keys (keyPrefix "bkt")) "bkt" r) max answer := by
  intro objects s r max
  obtain ⟨o, hr, hfolder, hb⟩ := resolve_run_bkt (s := s) rfl (by decide)
  have hclean : ∀ k ∈ objects.keys, Clean k := by decide
  exact list_answers_keys_below rfl hr hfolder (by rw [hb]; rfl) hclean r max

/-- The key `a//b` stands for the directories `a` and `a/`, which are joined to one path: a
recursive listing of its bucket holds that path twice. -/
theorem list_repeats_collapsed_path :
    let s : ObjectServer := { buckets := ⟨[("bkt", ⟨[("a//b", {})]⟩)]⟩ }
    (list "bkt" true 0).run s = .ok [⟨"bkt/a", true⟩, ⟨"bkt/a", true⟩, ⟨"bkt/a//b", false⟩] s := by
  intro s
  obtain ⟨o, hr, hfolder, hb⟩ := resolve_run_bkt (s := s) rfl (by decide)
  obtain ⟨objects, hobj, hrun⟩ := list_run rfl hr hfolder true 0
  rw [hb] at hobj
  cases hobj
  have hpre : keyPrefix "bkt" = "" := by
    rw [keyPrefix, split_bkt]
    rfl
  have hkeys : (⟨[("a//b", {})]⟩ : Index StoredObject).keys = ["a//b"] := rfl
  have hlist : listing ["a//b"] "" false = [⟨"a//b", false⟩] := by
    simp only [listing, splitOn_slash]
    cbv
  have hend : ("a//b" : String).endsWith "/" = false := by
    simp [← String.endsWith_toSlice]
    decide
  have hplace : placeOf "" "a//b" = ("a//b", false) := by
    have h := placeOf_append "" "a//b"
    rw [String.empty_append] at h
    rw [h, hend]
    rfl
  have habove : directoriesAbove "a//b" = ["a", "a/"] := by
    simp only [directoriesAbove, splitOn_slash]
    cbv
  have hnames : noteListed true "" [] "a//b" = [("a", true), ("a/", true), ("a//b", false)] := by
    rw [noteListed_eq, namesOf, hplace, habove]
    cbv
  rw [hrun, hpre, hkeys, Bool.not_true, hlist, List.foldl_cons, List.foldl_nil, hnames]
  cbv

end BucketOp

end AclReconcile.ObjectStore
