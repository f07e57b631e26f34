/-!
# Ordered indexes

An index binds text keys to values and keeps its bindings in increasing key order, each key
once: the order in which stores walk their items. Keys compare character by character, which is
the byte order of their UTF-8 text.
-/

namespace AclReconcile

/-- Bindings from text keys, kept in increasing key order with each key once. -/
structure Index (α : Type) where
  entries : List (String × α) := []
  deriving Inhabited

namespace Index

variable {α : Type}

/-- The value bound to a key. -/
def get? (ix : Index α) (k : String) : Option α := ix.entries.lookup k

/-- Whether a key is bound. -/
def contains (ix : Index α) (k : String) : Bool := (ix.get? k).isSome

/-- The bindings with `k` bound to `v` in its place, replacing an older binding. -/
def insertInto (k : String) (v : α) : List (String × α) → List (String × α)
  | [] => [(k, v)]
  | (k', v') :: rest =>
    if k == k' then (k, v) :: rest
    else if k < k' then (k, v) :: (k', v') :: rest
    else (k', v') :: insertInto k v rest

/-- The index with `k` bound to `v`. -/
def insert (ix : Index α) (k : String) (v : α) : Index α := ⟨insertInto k v ix.entries⟩

/-- The index without a binding for `k`. -/
def erase (ix : Index α) (k : String) : Index α := ⟨ix.entries.filter (·.1 != k)⟩

/-- The keys in order. -/
def keys (ix : Index α) : List String := ix.entries.map (·.1)

/-- The bindings whose key is not below `k`, in order. -/
def atOrAfter (ix : Index α) (k : String) : List (String × α) := ix.entries.filter fun e => !(e.1 < k)

/-- The number of bindings. -/
def size (ix : Index α) : Nat := ix.entries.length

theorem lookup_insertInto (k : String) (v : α) (es : List (String × α)) :
    (insertInto k v es).lookup k = some v := by
  induction es with
  | nil => simp [insertInto]
  | cons e rest ih =>
    obtain ⟨k', v'⟩ := e
    simp only [insertInto]
    split
    · simp
    · split
      · simp
      · have hne : (k == k') = false := by simp_all
        simp [List.lookup_cons, hne, ih]

@[simp] theorem get?_insert_self (ix : Index α) (k : String) (v : α) :
    (ix.insert k v).get? k = some v :=
  lookup_insertInto k v ix.entries

end Index

end AclReconcile
