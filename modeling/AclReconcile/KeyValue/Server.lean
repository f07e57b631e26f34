import AclReconcile.Index
import AclReconcile.Session.Fault

/-!
# A key-value store with compare-and-set

The store maps keys to values. Every write moves one global index forward and stamps the pair
with it, so a pair carries the index of its creation and of its last change. A write may be
made conditional on the index the writer last saw: with index 0 it succeeds only for a key
that is absent, otherwise only if the pair's last change is still that index. A lost condition
is no failure, the answer is just "not written".

Reads take one key, every pair below a prefix, or the distinct names one level below a prefix.
A rule for a request's method and key fails it with a server error, unless the rule is a
conflict rule, which is spent without effect; rules for the method "CAS" make a conditional
write lose without writing.

Other clients share the store. Their changes, writes, conditional writes and removals, land in
batches: before each request of this client the next batch is applied, so any interleaving of
their changes with this client's requests is a list of batches.
-/

namespace AclReconcile.KeyValue

/-- A stored pair with the indexes of its creation and last change. -/
structure Pair where
  key : String
  value : String
  createIndex : Nat
  modifyIndex : Nat
  deriving Inhabited

/-- A change another client makes: a write, a conditional write, or a removal. -/
inductive Change where
  | put (key value : String)
  | compareAndSet (key value : String) (seen : Nat)
  | delete (key : String)
  deriving Inhabited

/-- The store: its pairs by key, the global index, the rules that fail requests, and the
batches of changes other clients make before each coming request. -/
structure KvServer where
  pairs : Index Pair := {}
  index : Nat := 1
  rules : List Fault := []
  others : List (List Change) := []
  deriving Inhabited

/-- An answer other than success: its status code and body. -/
structure KvError where
  status : Nat
  body : String
  deriving Inhabited

/-- The text a client makes of an unexpected answer. -/
def KvError.text (e : KvError) : String :=
  "Unexpected response code: " ++ toString e.status ++ " (" ++ e.body ++ ")"

/-- The answer to a request a rule fails. -/
def KvError.injected : KvError := ⟨500, "injected"⟩

/-- Computations on the store. -/
abbrev KvRequest := StateM KvServer

namespace KvServer

/-- The store with a value written under a key, stamped with the next index. -/
def withValue (s : KvServer) (key value : String) : KvServer :=
  let index := s.index + 1
  let created := ((s.pairs.get? key).map (·.createIndex)).getD index
  { s with index, pairs := s.pairs.insert key ⟨key, value, created, index⟩ }

/-- Whether the key's last change is still `seen` (0: whether the key is absent). -/
def unchangedSince (s : KvServer) (key : String) (seen : Nat) : Bool :=
  ((s.pairs.get? key).map (·.modifyIndex)) == (if seen == 0 then none else some seen)

end KvServer

/-- The store after another client's change. -/
def Change.apply : Change → KvServer → KvServer
  | .put key value, s => s.withValue key value
  | .compareAndSet key value seen, s => if s.unchangedSince key seen then s.withValue key value else s
  | .delete key, s => { s with pairs := s.pairs.erase key }

namespace KvServer

/-- The store after a batch of other clients' changes, in order. -/
def undergo (s : KvServer) (batch : List Change) : KvServer :=
  batch.foldl (fun s c => c.apply s) s

/-- Lands the next batch of other clients' changes. -/
def interfere : KvRequest Unit :=
  modify fun s => match s.others with
    | [] => s
    | batch :: rest => { s with others := rest }.undergo batch

/-- Whether a request goes through: the first rule for its method and key is spent, and fails
it unless it is a conflict rule. -/
def admits (method key : String) : KvRequest Bool :=
  modifyGet fun s =>
    let (found, rules) := Fault.take (fun f => f.op == method && f.path == key) s.rules
    ((found.map (·.conflict)).getD true, { s with rules })

/-- Runs a request unless a rule fails it, once the others' next changes have landed. -/
def send {α : Type} (method key : String) (body : KvRequest α) :
    KvRequest (Except KvError α) := do
  interfere
  if (← admits method key) then pure (.ok (← body)) else pure (.error .injected)

/-- The address of the leader. -/
def leader : KvRequest (Except KvError String) := send "GET" "<leader>" (pure "127.0.0.1:8300")

/-- The pair under a key, if any. -/
def read (key : String) : KvRequest (Except KvError (Option Pair)) :=
  send "GET" key do pure ((← get).pairs.get? key)

/-- Every pair whose key starts with a prefix, in key order. -/
def list (pre : String) : KvRequest (Except KvError (List Pair)) :=
  send "GET" pre do
    pure (((← get).pairs.entries.filter fun (k, _) => k.startsWith pre).map (·.2))

/-- The keys that start with a prefix, each cut after the first separator that follows the
prefix, without repeats, in key order. -/
def keysBelow (pre sep : String) : KvRequest (Except KvError (List String)) :=
  send "GET" pre do
    let cut (k : String) : String :=
      match ((k.drop pre.length).toString).splitOn sep with
      | first :: _ :: _ => pre ++ first ++ sep
      | _ => k
    let keys := ((← get).pairs.keys.filter (·.startsWith pre)).map cut
    pure (keys.foldr (fun k acc => if acc.head? == some k then acc else k :: acc) [])

/-- Writes a value under a key, stamped with the next index. -/
def write (key value : String) : KvRequest Unit :=
  modify (·.withValue key value)

/-- Writes a value if the key's last change is still `seen` (0: if the key is absent);
answers whether it wrote. -/
def compareAndSet (key value : String) (seen : Nat) : KvRequest (Except KvError Bool) :=
  send "PUT" key do
    let lost ← modifyGet fun s =>
      let (found, rules) := Fault.take (fun f => f.op == "CAS" && f.path == key) s.rules
      (found.isSome, { s with rules })
    if lost then return false
    if (← get).unchangedSince key seen then
      write key value
      pure true
    else pure false

/-- Writes a value under a key. -/
def put (key value : String) : KvRequest (Except KvError Unit) := send "PUT" key (write key value)

/-- Every key, in order. -/
def allKeys (s : KvServer) : List String := s.pairs.keys

end KvServer

end AclReconcile.KeyValue
