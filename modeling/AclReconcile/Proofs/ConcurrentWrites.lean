import AclReconcile.Storage.KeyValue
import AclReconcile.Proofs.Trace
import AclReconcile.Proofs.StoredLists
import AclReconcile.Proofs.Memory

/-!
# Writes among other clients

The key-value store is shared: before each request of the storage the next batch of the other
clients' changes lands (`KvServer.interfere`). `KvServer.land s n` is the store once the next `n`
batches have landed and nothing else happened.

Every write stamps its pair with the next value of the global index, so in a well-stamped store
(`Stamped`: every pair's last change is a positive index no later than the store's) a pair's last
change names it: a later store that has a pair under the same key with the same last change has
that very pair (`Since.eq_of_modifyIndex`). This is what makes a conditional write at the index
read a guard against lost updates.

The storage's own steps are described by a relation `own` on stores, and a run among the others
by `Interleaved own`: batches of others' changes alternating with steps of `own`. Creations only
ever add keys (`Fills`), so whatever the others do, no pair they made is replaced by a creation.
A change of state reads the record, reads the principals and writes at the index it read: it
writes exactly when the key is still as it read it, and a failed change writes nothing.

The clock that stamps a written record and the source of new ids are part of the storage's
configuration (`Surroundings`), so every statement here holds whatever the time and whatever ids
the source gives.
-/

namespace AclReconcile

namespace Index

variable {α : Type}

/-- Erasing a key leaves nothing under it. -/
theorem get?_erase_self (ix : Index α) (k : String) : (ix.erase k).get? k = none := by
  obtain ⟨es⟩ := ix
  simp only [erase, get?]
  induction es with
  | nil => rfl
  | cons e rest ih =>
    obtain ⟨k₀, v₀⟩ := e
    by_cases hk : k₀ = k
    · rw [List.filter_cons_of_neg (by simp [hk])]
      exact ih
    · rw [List.filter_cons_of_pos (by simpa using hk), List.lookup_cons,
        beq_eq_false_iff_ne.2 fun h => hk h.symm]
      exact ih

/-- Erasing a key leaves every other key as it was. -/
theorem get?_erase_of_ne (ix : Index α) {k k' : String} (h : k' ≠ k) :
    (ix.erase k).get? k' = ix.get? k' := by
  obtain ⟨es⟩ := ix
  simp only [erase, get?]
  induction es with
  | nil => rfl
  | cons e rest ih =>
    obtain ⟨k₀, v₀⟩ := e
    by_cases hk : k₀ = k
    · subst hk
      rw [List.filter_cons_of_neg (by simp), List.lookup_cons,
        beq_eq_false_iff_ne.2 h]
      exact ih
    · rw [List.filter_cons_of_pos (by simpa using hk), List.lookup_cons, List.lookup_cons, ih]

end Index

/-- A record made of a state keeps the id and kind it was made with. -/
theorem Record.ofState_ok {id : String} {folder : Bool} {ac : AccessControl} {r : Record}
    (h : Record.ofState id folder ac = .ok r) : r.id = id ∧ r.folder = folder := by
  unfold Record.ofState at h
  cases ha : (AclList.encode ac.acl).mapError
      (Error.context ("failed to encode acl of '" ++ id ++ "'")) with
  | error e => rw [ha] at h; cases h
  | ok sa =>
    cases hd : (AclList.encode ac.defaultAcl).mapError
        (Error.context ("failed to encode default acl of '" ++ id ++ "'")) with
    | error e => rw [ha] at h; simp [hd, bind, Except.bind] at h
    | ok sd =>
      simp only [ha, hd, bind, Except.bind, pure, Except.pure, Except.ok.injEq] at h
      subst h
      exact ⟨rfl, rfl⟩

namespace KeyValue

/-- A change of the others neither reads nor touches the failure rules. -/
theorem Change.apply_withRules (c : Change) (s : KvServer) (r : List Fault) :
    c.apply { s with rules := r } = { c.apply s with rules := r } := by
  cases c with
  | put k v => rfl
  | compareAndSet k v seen =>
    show (if s.unchangedSince k seen then _ else _) = _
    simp only [Change.apply]
    split <;> rfl
  | delete k => rfl

/-- A change neither reads nor touches the batches still to come. -/
theorem Change.apply_withOthers (c : Change) (s : KvServer) (o : List (List Change)) :
    c.apply { s with others := o } = { c.apply s with others := o } := by
  cases c with
  | put k v => rfl
  | compareAndSet k v seen =>
    show (if s.unchangedSince k seen then _ else _) = _
    simp only [Change.apply]
    split <;> rfl
  | delete k => rfl

namespace KvServer

/-- Undergoing two lists of changes is undergoing one and then the other. -/
theorem undergo_append (s : KvServer) (a b : List Change) :
    s.undergo (a ++ b) = (s.undergo a).undergo b :=
  List.foldl_append ..

/-- Undergoing changes and setting the failure rules commute. -/
theorem undergo_withRules (s : KvServer) (r : List Fault) (b : List Change) :
    { s with rules := r }.undergo b = { s.undergo b with rules := r } := by
  induction b generalizing s with
  | nil => rfl
  | cons c b ih =>
    change (c.apply { s with rules := r }).undergo b = { (c.apply s).undergo b with rules := r }
    rw [Change.apply_withRules, ih]

/-- Undergoing changes and setting the batches still to come commute. -/
theorem undergo_withOthers (s : KvServer) (o : List (List Change)) (b : List Change) :
    { s with others := o }.undergo b = { s.undergo b with others := o } := by
  induction b generalizing s with
  | nil => rfl
  | cons c b ih =>
    change (c.apply { s with others := o }).undergo b = { (c.apply s).undergo b with others := o }
    rw [Change.apply_withOthers, ih]

/-- A change touches neither the rules nor the batches still to come. -/
theorem Change.apply_control (c : Change) (s : KvServer) :
    (c.apply s).rules = s.rules ∧ (c.apply s).others = s.others := by
  cases c with
  | put k v => exact ⟨rfl, rfl⟩
  | compareAndSet k v seen =>
    simp only [Change.apply]
    split <;> exact ⟨rfl, rfl⟩
  | delete k => exact ⟨rfl, rfl⟩

/-- Changes touch neither the failure rules nor the batches still to come. -/
theorem undergo_control (s : KvServer) (b : List Change) :
    (s.undergo b).rules = s.rules ∧ (s.undergo b).others = s.others := by
  induction b generalizing s with
  | nil => exact ⟨rfl, rfl⟩
  | cons c b ih =>
    obtain ⟨hr, ho⟩ := ih (c.apply s)
    exact ⟨hr.trans (Change.apply_control c s).1, ho.trans (Change.apply_control c s).2⟩

/-- The store once the next `n` batches of the other clients' changes have landed. -/
def land (s : KvServer) (n : Nat) : KvServer :=
  { s with others := s.others.drop n }.undergo (s.others.take n).flatten

/-- Landing batches and setting the failure rules commute. -/
theorem land_withRules (s : KvServer) (r : List Fault) (n : Nat) :
    { s with rules := r }.land n = { s.land n with rules := r } :=
  undergo_withRules { s with others := s.others.drop n } r _

/-- Landing batches keeps the failure rules. -/
@[simp] theorem land_rules (s : KvServer) (n : Nat) : (s.land n).rules = s.rules :=
  (undergo_control _ _).1

/-- Landing `n` batches and then `m` more is landing `n + m` at once. -/
theorem land_land (s : KvServer) (n m : Nat) : (s.land n).land m = s.land (n + m) := by
  unfold land
  rw [(undergo_control _ _).2, ← undergo_withOthers, ← undergo_append, ← List.flatten_append,
    ← List.take_add, List.drop_drop]

/-- What lands before a request is exactly the others' next batch. -/
theorem interfere_run (s : KvServer) : interfere.run s = ((), s.land 1) := by
  unfold interfere land
  show ((), _) = _
  cases h : s.others with
  | nil =>
    cases s
    subst h
    rfl
  | cons b rest => simp [h]

/-- Every pair carries a positive last change no later than the store's index. -/
def Stamped (s : KvServer) : Prop :=
  ∀ k p, s.pairs.get? k = some p → 0 < p.modifyIndex ∧ p.modifyIndex ≤ s.index

/-- `s'` follows `s` by writes stamped after it: the index does not go back, stamps stay well
formed, and every pair of `s'` is the pair of `s` under its key or was written after `s`. -/
def Since (s s' : KvServer) : Prop :=
  s.index ≤ s'.index ∧ (s.Stamped → s'.Stamped) ∧
    ∀ k p, s'.pairs.get? k = some p → s.pairs.get? k = some p ∨ s.index < p.modifyIndex

/-- Following by later writes is reflexive and transitive. -/
instance : IsPreorder KvServer Since where
  refl s := ⟨Nat.le_refl _, id, fun _ _ h => .inl h⟩
  trans s₁ s₂ s₃ h₁₂ h₂₃ := by
    refine ⟨Nat.le_trans h₁₂.1 h₂₃.1, h₂₃.2.1 ∘ h₁₂.2.1, fun k p hp => ?_⟩
    rcases h₂₃.2.2 k p hp with h₂ | hlt
    · exact h₁₂.2.2 k p h₂
    · exact .inr (Nat.lt_of_le_of_lt h₁₂.1 hlt)

/-- In a well-stamped store, a later pair under the same key with the same last change is the
same pair: every write since was stamped later than anything the store held. -/
theorem Since.eq_of_modifyIndex {s s' : KvServer} (h : Since s s') (hs : s.Stamped) {k : String}
    {p q : Pair} (hp : s.pairs.get? k = some p) (hq : s'.pairs.get? k = some q)
    (hidx : q.modifyIndex = p.modifyIndex) : q = p := by
  rcases h.2.2 k q hq with hq' | hlt
  · exact Option.some.inj (hq'.symm.trans hp)
  · have := (hs k p hp).2
    omega

/-- A write leaves its value under its key, made when the key's earlier pair was made (or by this
write if there was none) and last changed at the next index. -/
theorem withValue_get_self (s : KvServer) (k v : String) :
    (s.withValue k v).pairs.get? k =
      some ⟨k, v, ((s.pairs.get? k).map (·.createIndex)).getD (s.index + 1), s.index + 1⟩ :=
  Index.get?_insert_self ..

/-- A write is stamped after everything the store held. -/
theorem since_withValue (s : KvServer) (k v : String) : Since s (s.withValue k v) := by
  refine ⟨Nat.le_succ _, fun hs k' p hp => ?_, fun k' p hp => ?_⟩
  · by_cases hk : k' = k
    · subst hk
      simp only [withValue, Index.get?_insert_self, Option.some.injEq] at hp
      subst hp
      exact ⟨Nat.succ_pos _, Nat.le_refl _⟩
    · simp only [withValue, Index.get?_insert_of_ne _ _ hk] at hp
      have := hs k' p hp
      exact ⟨this.1, Nat.le_succ_of_le this.2⟩
  · by_cases hk : k' = k
    · subst hk
      simp only [withValue, Index.get?_insert_self, Option.some.injEq] at hp
      subst hp
      exact .inr (Nat.lt_succ_self _)
    · exact .inl (by simpa only [withValue, Index.get?_insert_of_ne _ _ hk] using hp)

/-- A deletion only removes, so the store it leaves follows the one before. -/
theorem since_erase (s : KvServer) (k : String) : Since s { s with pairs := s.pairs.erase k } := by
  have hsub : ∀ k' p, (s.pairs.erase k).get? k' = some p → s.pairs.get? k' = some p := by
    intro k' p hp
    by_cases hk : k' = k
    · subst hk
      rw [Index.get?_erase_self] at hp
      cases hp
    · rwa [Index.get?_erase_of_ne _ hk] at hp
  exact ⟨Nat.le_refl _, fun hs k' p hp => hs k' p (hsub k' p hp),
    fun k' p hp => .inl (hsub k' p hp)⟩

/-- Every change of the others leaves a store that follows the one before. -/
theorem since_apply (c : Change) (s : KvServer) : Since s (c.apply s) := by
  cases c with
  | put k v => exact since_withValue s k v
  | compareAndSet k v seen =>
    simp only [Change.apply]
    split
    · exact since_withValue s k v
    · exact refl_of Since s
  | delete k => exact since_erase s k

/-- A list of changes leaves a store that follows the one before, by transitivity over its changes.
-/
theorem since_undergo (s : KvServer) (b : List Change) : Since s (s.undergo b) := by
  induction b generalizing s with
  | nil => exact refl_of Since s
  | cons c b ih => exact trans_of Since (since_apply c s) (ih (c.apply s))

/-- Landing batches leaves a store that follows the one before. -/
theorem since_land (s : KvServer) (n : Nat) : Since s (s.land n) :=
  since_undergo { s with others := s.others.drop n } _

/-- The conditional write at the last change of a pair read from a well-stamped store goes
through in a later store exactly when the key still holds that very pair. -/
theorem unchangedSince_iff {s s' : KvServer} (h : Since s s') (hs : s.Stamped) {k : String}
    {p : Pair} (hp : s.pairs.get? k = some p) :
    s'.unchangedSince k p.modifyIndex = true ↔ s'.pairs.get? k = some p := by
  have hpos : p.modifyIndex ≠ 0 := Nat.pos_iff_ne_zero.1 (hs k p hp).1
  have hseen :
      (if (p.modifyIndex == 0) = true then none else some p.modifyIndex) = some p.modifyIndex := by
    simp [hpos]
  unfold unchangedSince
  rw [hseen, beq_iff_eq]
  constructor
  · intro hq
    obtain ⟨q, hq, hidx⟩ := Option.map_eq_some_iff.1 hq
    rw [hq, h.eq_of_modifyIndex hs hp hq hidx]
  · intro hq
    rw [hq]
    rfl

/-- `s'` only adds pairs to `s`, with the same batches of the others' changes still to come. -/
def Fills (s s' : KvServer) : Prop :=
  s'.others = s.others ∧ ∀ k p, s.pairs.get? k = some p → s'.pairs.get? k = some p

/-- `s'` follows `s` by steps of the storage among the other clients: before each step the
others' next batch lands, and the step itself changes the store as `own` allows. -/
def Interleaved (own : KvServer → KvServer → Prop) : KvServer → KvServer → Prop :=
  Relation.ReflTransGen fun s s' => own (s.land 1) s'

/-- A conditional write at index 0 goes through exactly when the key is absent. -/
theorem unchangedSince_zero {s : KvServer} {k : String} :
    s.unchangedSince k 0 = true ↔ s.pairs.get? k = none := by
  simp [unchangedSince]

/-- A write into an absent key only adds. -/
theorem fills_withValue {s : KvServer} {k : String} (h : s.pairs.get? k = none) (v : String)
    (r : List Fault) : Fills s { s.withValue k v with rules := r } := by
  refine ⟨rfl, fun k' p hp => ?_⟩
  have hk : k' ≠ k := by
    rintro rfl
    rw [h] at hp
    cases hp
  show (s.pairs.insert k _).get? k' = some p
  rwa [Index.get?_insert_of_ne _ _ hk]

/-! ### Requests -/

/-- Binding in `Id` is application. -/
private theorem id_bind {β γ : Type} (x : Id β) (f : β → Id γ) : x >>= f = f x := rfl

/-- Returning in `Id` is the value itself. -/
private theorem id_pure {β : Type} (x : β) : (pure x : Id β) = x := rfl

/-- The rules decide a request by the first rule for its operation and key, which is used up; with
no such rule the request goes through. -/
theorem admits_run (m k : String) (s : KvServer) :
    (admits m k).run s =
      (((Fault.take (fun f => f.op == m && f.path == k) s.rules).1.map (·.conflict)).getD true,
        { s with rules := (Fault.take (fun f => f.op == m && f.path == k) s.rules).2 }) := rfl

/-- With no rules, every request goes through and the store is left as it was. -/
theorem admits_run_of_nil {m k : String} {s : KvServer} (h : s.rules = []) :
    (admits m k).run s = (true, s) := by
  rw [admits_run, h]
  cases s
  subst h
  rfl

/-- A request: the others' next batch lands, then the rules decide whether the body runs. -/
theorem send_run {α : Type} (m k : String) (body : KvRequest α) (s : KvServer) :
    (send m k body).run s =
      if ((admits m k).run (s.land 1)).1 then
        (.ok (body.run ((admits m k).run (s.land 1)).2).1,
          (body.run ((admits m k).run (s.land 1)).2).2)
      else (.error .injected, ((admits m k).run (s.land 1)).2) := by
  unfold send
  simp only [StateT.run_bind, interfere_run, id_bind]
  generalize (admits m k).run (s.land 1) = p
  obtain ⟨go, s₁⟩ := p
  cases go <;> rfl

/-- A read lands the others' next batch and then fails by a rule or returns the pair then under the
key. -/
theorem read_run (key : String) (s : KvServer) : ∃ (go : Bool) (r : List Fault),
    (read key).run s =
      (if go then .ok ((s.land 1).pairs.get? key) else .error .injected,
        { s.land 1 with rules := r }) := by
  unfold read
  rw [send_run]
  split
  · exact ⟨true, _, rfl⟩
  · exact ⟨false, _, rfl⟩

/-- With no rules, a read returns the pair under the key once the next batch has landed. -/
theorem read_run_of_nil (key : String) {s : KvServer} (h : s.rules = []) :
    (read key).run s = (.ok ((s.land 1).pairs.get? key), s.land 1) := by
  unfold read
  rw [send_run, admits_run_of_nil (by rw [land_rules, h])]
  rfl

/-- A listing lands the others' next batch and then fails by a rule or returns some pairs. -/
theorem list_run (pre : String) (s : KvServer) : ∃ (go : Bool) (r : List Fault) (v : List Pair),
    (list pre).run s = (if go then .ok v else .error .injected, { s.land 1 with rules := r }) := by
  unfold list
  rw [send_run]
  split
  · exact ⟨true, _, _, rfl⟩
  · exact ⟨false, _, [], rfl⟩

/-- With no rules, a listing returns once the next batch has landed. -/
theorem list_run_of_nil (pre : String) {s : KvServer} (h : s.rules = []) :
    ∃ v, (list pre).run s = (.ok v, s.land 1) := by
  unfold list
  rw [send_run, admits_run_of_nil (by rw [land_rules, h])]
  exact ⟨_, rfl⟩

/-- A conditional write fails by a rule, loses, or writes when the key's last change is still
`seen`. -/
theorem compareAndSet_run (key value : String) (seen : Nat) (s : KvServer) : ∃ r : List Fault,
    (compareAndSet key value seen).run s = (.error .injected, { s.land 1 with rules := r }) ∨
    (compareAndSet key value seen).run s = (.ok false, { s.land 1 with rules := r }) ∨
    ((s.land 1).unchangedSince key seen = true ∧
      (compareAndSet key value seen).run s =
        (.ok true, { (s.land 1).withValue key value with rules := r })) := by
  unfold compareAndSet
  rw [send_run]
  split
  · simp only [StateT.run_bind, StateT.run_modifyGet, id_bind]
    split
    · exact ⟨_, .inr (.inl rfl)⟩
    · simp only [StateT.run_bind, StateT.run_get, id_bind]
      split
      · next h => exact ⟨_, .inr (.inr ⟨h, rfl⟩)⟩
      · exact ⟨_, .inr (.inl rfl)⟩
  · exact ⟨_, .inl rfl⟩

/-- With no rules, a conditional write goes through exactly when the key's last change is still
`seen` once the next batch has landed, and otherwise loses with nothing written. -/
theorem compareAndSet_run_of_nil (key value : String) (seen : Nat) {s : KvServer}
    (h : s.rules = []) :
    (compareAndSet key value seen).run s =
      if (s.land 1).unchangedSince key seen then (.ok true, (s.land 1).withValue key value)
      else (.ok false, s.land 1) := by
  have h1 : (s.land 1).rules = [] := by rw [land_rules, h]
  have hkeep : { s.land 1 with rules := [] } = s.land 1 := by rw [← h1]
  unfold compareAndSet
  rw [send_run, admits_run_of_nil h1, if_pos rfl]
  simp only [StateT.run_bind, StateT.run_modifyGet, id_bind, id_pure, h1, Fault.take,
    Option.isSome_none, Bool.false_eq_true, ↓reduceIte, StateT.run_get, hkeep]
  split <;> rfl

end KvServer

namespace KvStore

/-- The storage's state once the next `n` batches of the others' changes have landed and the
rules have become `r`. -/
def after (st : KvStore) (n : Nat) (r : List Fault) : KvStore :=
  { st with server := { st.server.land n with rules := r } }

/-- Landing batches in two steps is landing them in one, the later rules standing. -/
theorem after_after (st : KvStore) (n m : Nat) (r r' : List Fault) :
    (st.after n r).after m r' = st.after (n + m) r' := by
  unfold after
  rw [KvServer.land_withRules, KvServer.land_land]

/-- Landing more batches after `after` lands them all from the start, under its rules. -/
theorem after_land (st : KvStore) (n m : Nat) (r : List Fault) :
    (st.after n r).server.land m = { st.server.land (n + m) with rules := r } := by
  unfold after
  rw [KvServer.land_withRules, KvServer.land_land]

/-- With no rules, landing more batches after `after n []` is landing them all from the start. -/
theorem after_land_of_nil {st : KvStore} (h : st.server.rules = []) (n m : Nat) :
    (st.after n []).server.land m = st.server.land (n + m) := by
  have hr : (st.server.land (n + m)).rules = [] := by rw [KvServer.land_rules, h]
  rw [after_land, ← hr]

/-- With no rules, the state once `n` batches have landed is `after n []`. -/
theorem after_of_nil {st : KvStore} (h : st.server.rules = []) (n : Nat) :
    { st with server := st.server.land n } = st.after n [] := by
  have hn : (st.server.land n).rules = [] := by rw [KvServer.land_rules, h]
  unfold after
  rw [← hn]

/-- `Interleaved own` between the stores of two states of the storage. -/
def Among (own : KvServer → KvServer → Prop) (st st' : KvStore) : Prop :=
  KvServer.Interleaved own st.server st'.server

/-- Runs among the other clients are reflexive and transitive. -/
instance (own : KvServer → KvServer → Prop) : IsPreorder KvStore (Among own) where
  refl _ := Relation.ReflTransGen.refl
  trans _ _ _ h₁ h₂ := Relation.ReflTransGen.trans h₁ h₂

end KvStore

namespace KvOp

open KvStore

/-- A request that returns gives its value to the storage, the store as the request left it. -/
theorem call_run_ok {α : Type} {r : KvRequest (Except KvError α)} {st : KvStore} {a : α}
    {s : KvServer} (h : r.run st.server = (.ok a, s)) :
    (call r).run st = .ok a { st with server := s } := by
  unfold call
  simp only [EStateM.run_bind, EStateM.run_get, h]
  rfl

/-- A request that fails fails the storage with its text, the store as the request left it. -/
theorem call_run_error {α : Type} {r : KvRequest (Except KvError α)} {st : KvStore} {e : KvError}
    {s : KvServer} (h : r.run st.server = (.error e, s)) :
    (call r).run st = .error (.plain e.text) { st with server := s } := by
  unfold call
  simp only [EStateM.run_bind, EStateM.run_get, h]
  rfl

/-- A read through the storage returns the pair under the key once the next batch has landed, or
fails by a rule. -/
theorem call_read (key : String) (st : KvStore) : ∃ r,
    (call (KvServer.read key)).run st = .ok ((st.server.land 1).pairs.get? key) (st.after 1 r) ∨
    (call (KvServer.read key)).run st = .error (.plain KvError.injected.text) (st.after 1 r) := by
  obtain ⟨go, r, h⟩ := KvServer.read_run key st.server
  refine ⟨r, ?_⟩
  cases go
  · exact .inr (call_run_error h)
  · exact .inl (call_run_ok h)

/-- With no rules, a read through the storage returns the pair under the key once the next batch has
landed. -/
theorem call_read_of_nil (key : String) {st : KvStore} (h : st.server.rules = []) :
    (call (KvServer.read key)).run st =
      .ok ((st.server.land 1).pairs.get? key) (st.after 1 []) := by
  rw [call_run_ok (KvServer.read_run_of_nil key h), after_of_nil h]

/-- A result handed to the storage is returned, with nothing changed. -/
theorem orThrow_ok {α : Type} (a : α) (st : KvStore) : (orThrow (.ok a)).run st = .ok a st := rfl

/-- An error handed to the storage is thrown, with nothing changed. -/
theorem orThrow_error {α : Type} (e : Error) (st : KvStore) :
    (orThrow (.error e : Except Error α)).run st = .error e st := rfl

/-- Reading a record: the others' next batch lands, then the pair under the path's key is read
and decoded; nothing else changes but the rules. -/
theorem readRecord_cases (path : String) (st : KvStore) : ∃ r,
    (∃ e, (readRecord path).run st = .error e (st.after 1 r)) ∨
    ∃ p cur, (st.server.land 1).pairs.get? (st.config.keyOf path) = some p ∧
      Record.readJson p.value = .ok cur ∧
      (readRecord path).run st = .ok (cur, p.modifyIndex) (st.after 1 r) := by
  unfold readRecord
  simp only [EStateM.run_bind, EStateM.run_get]
  obtain ⟨r, h | h⟩ := call_read (st.config.keyOf path) st
  · refine ⟨r, ?_⟩
    rw [h]
    dsimp only
    cases hp : (st.server.land 1).pairs.get? (st.config.keyOf path) with
    | none => exact .inl ⟨_, rfl⟩
    | some p =>
      dsimp only
      cases hd : Record.readJson p.value with
      | error e =>
        left
        rw [EStateM.run_bind, decodeAt, hd]
        exact ⟨_, rfl⟩
      | ok cur =>
        refine .inr ⟨p, cur, rfl, hd, ?_⟩
        rw [EStateM.run_bind, decodeAt, hd]
        rfl
  · exact ⟨r, .inl ⟨_, by rw [h]⟩⟩

/-- With no rules, reading a record whose pair decodes returns the record and the pair's last
change, one batch later. -/
theorem readRecord_run_of_nil {path : String} {st : KvStore} (h : st.server.rules = [])
    {p : Pair} {cur : Record} (hp : (st.server.land 1).pairs.get? (st.config.keyOf path) = some p)
    (hd : Record.readJson p.value = .ok cur) :
    (readRecord path).run st = .ok (cur, p.modifyIndex) (st.after 1 []) := by
  unfold readRecord
  simp only [EStateM.run_bind, EStateM.run_get]
  rw [call_read_of_nil _ h]
  dsimp only
  rw [hp]
  dsimp only
  rw [EStateM.run_bind, decodeAt, hd]
  rfl

/-- Reading the principals: the others' next batch lands, then the table is read. -/
theorem readPrincipals_cases (st : KvStore) : ∃ r,
    (∃ e, readPrincipals.run st = .error e (st.after 1 r)) ∨
    ∃ v, readPrincipals.run st = .ok v (st.after 1 r) := by
  obtain ⟨go, r, v, h⟩ := KvServer.list_run (st.config.principalPrefix ++ "/") st.server
  refine ⟨r, ?_⟩
  unfold readPrincipals
  simp only [EStateM.run_bind, EStateM.run_get]
  cases go
  · rw [call_run_error h]
    exact .inl ⟨_, rfl⟩
  · rw [call_run_ok h]
    exact .inr ⟨_, rfl⟩

/-- With no rules, reading the principals returns, one batch later. -/
theorem readPrincipals_run_of_nil {st : KvStore} (h : st.server.rules = []) :
    ∃ v, readPrincipals.run st = .ok v (st.after 1 []) := by
  obtain ⟨v, hv⟩ := KvServer.list_run_of_nil (st.config.principalPrefix ++ "/") h
  unfold readPrincipals
  simp only [EStateM.run_bind, EStateM.run_get]
  rw [call_run_ok hv, after_of_nil h]
  exact ⟨_, rfl⟩

/-- A conditional write of a record: the others' next batch lands, then the write fails by a rule,
loses, or goes through when the key's last change is still `seen`. -/
theorem writeRecord_cases (path : String) (rec : Record) (seen : Nat) (st : KvStore) : ∃ r,
    (∃ e, (writeRecord path rec seen).run st = .error e (st.after 1 r)) ∨
    (writeRecord path rec seen).run st = .ok false (st.after 1 r) ∨
    ((st.server.land 1).unchangedSince (st.config.keyOf path) seen = true ∧
      (writeRecord path rec seen).run st = .ok true
        { st with server := { (st.server.land 1).withValue (st.config.keyOf path)
            (Json.render (rec.stampedAt st.config.surroundings.now).toJson)
              with rules := r } }) := by
  obtain ⟨r, h | h | ⟨hu, h⟩⟩ := KvServer.compareAndSet_run (st.config.keyOf path)
    (Json.render (rec.stampedAt st.config.surroundings.now).toJson) seen st.server
  all_goals
    refine ⟨r, ?_⟩
    unfold writeRecord
    simp only [EStateM.run_bind, EStateM.run_get]
  · exact .inl ⟨_, call_run_error h⟩
  · exact .inr (.inl (call_run_ok h))
  · exact .inr (.inr ⟨hu, call_run_ok h⟩)

/-- With no rules, a conditional write of a record stamped by the clock goes through exactly when
the key's last change is still `seen` once the next batch has landed, and otherwise loses with
nothing written. -/
theorem writeRecord_run_of_nil (path : String) (rec : Record) (seen : Nat) {st : KvStore}
    (h : st.server.rules = []) :
    (writeRecord path rec seen).run st =
      if (st.server.land 1).unchangedSince (st.config.keyOf path) seen then
        .ok true { st with
          server := (st.server.land 1).withValue (st.config.keyOf path)
            (Json.render (rec.stampedAt st.config.surroundings.now).toJson) }
      else .ok false (st.after 1 []) := by
  have hcas := KvServer.compareAndSet_run_of_nil (st.config.keyOf path)
    (Json.render (rec.stampedAt st.config.surroundings.now).toJson) seen h
  unfold writeRecord
  simp only [EStateM.run_bind, EStateM.run_get]
  split
  · next hu => rw [if_pos hu] at hcas; rw [call_run_ok hcas]
  · next hu => rw [if_neg hu] at hcas; rw [call_run_ok hcas, after_of_nil h]

/-- What a change of state can do: fail with nothing changed but the others' batches landed and
the rules, or read a pair, keep its id and kind, and write over the key at the last change it
read, three batches later. -/
theorem writeAccess_cases (path : String) (ac : Option AccessControl) (st : KvStore) :
    (∃ e n r, (writeAccess path ac).run st = .error e (st.after n r)) ∨
    ∃ (p : Pair) (cur w : Record) (r : List Fault),
      (st.server.land 1).pairs.get? (st.config.keyOf path) = some p ∧
      Record.readJson p.value = .ok cur ∧ w.id = cur.id ∧ w.folder = cur.folder ∧
      (st.server.land 3).unchangedSince (st.config.keyOf path) p.modifyIndex = true ∧
      (writeAccess path ac).run st = .ok ()
        { st with server := { (st.server.land 3).withValue (st.config.keyOf path)
            (Json.render w.toJson) with rules := r } } := by
  unfold writeAccess
  rw [EStateM.run_bind]
  obtain ⟨r₁, ⟨e, he⟩ | ⟨p, cur, hp, hd, hrun⟩⟩ := readRecord_cases path st
  · rw [he]
    exact .inl ⟨e, 1, r₁, rfl⟩
  rw [hrun]
  dsimp only
  rw [EStateM.run_bind]
  cases hprep : AccessControl.prepare path ac cur.folder with
  | error e =>
    rw [orThrow_error]
    exact .inl ⟨e, 1, r₁, rfl⟩
  | ok prepared =>
  rw [orThrow_ok]
  dsimp only
  rw [EStateM.run_bind, run_tryCatch]
  obtain ⟨r₂, ⟨e, he⟩ | ⟨v, hv⟩⟩ := readPrincipals_cases (st.after 1 r₁)
  · rw [he]
    dsimp only
    rw [after_after]
    exact .inl ⟨_, 2, r₂, rfl⟩
  rw [hv, after_after]
  dsimp only
  rw [EStateM.run_bind]
  cases hw : Record.ofState cur.id cur.folder (prepared.withIds v) with
  | error e =>
    rw [orThrow_error]
    exact .inl ⟨e, 2, r₂, rfl⟩
  | ok w =>
  rw [orThrow_ok]
  dsimp only
  rw [EStateM.run_bind]
  obtain ⟨r₃, ⟨e, he⟩ | hf | ⟨hu, ht⟩⟩ := writeRecord_cases path w p.modifyIndex (st.after 2 r₂)
  · rw [he, after_after]
    exact .inl ⟨e, 3, r₃, rfl⟩
  · rw [hf, after_after]
    exact .inl ⟨_, 3, r₃, rfl⟩
  · rw [ht]
    rw [after_land] at hu ⊢
    exact .inr ⟨p, cur, w.stampedAt st.config.surroundings.now, r₃, hp, hd,
      (Record.ofState_ok hw).1, (Record.ofState_ok hw).2, hu, rfl⟩

/-- With no rules, a change of a record that reads and passes the check writes exactly when the
key still holds the pair read when the write lands, and otherwise reports a concurrent
modification, three batches later. -/
theorem writeAccess_run_of_nil {path : String} {ac : Option AccessControl} {st : KvStore}
    (h : st.server.rules = []) {p : Pair} {cur : Record} {prepared : AccessControl}
    (hp : (st.server.land 1).pairs.get? (st.config.keyOf path) = some p)
    (hd : Record.readJson p.value = .ok cur)
    (hprep : AccessControl.prepare path ac cur.folder = .ok prepared) :
    ∃ w : Record, w.id = cur.id ∧ w.folder = cur.folder ∧
      (writeAccess path ac).run st =
        if (st.server.land 3).unchangedSince (st.config.keyOf path) p.modifyIndex then
          .ok () { st with
            server := (st.server.land 3).withValue (st.config.keyOf path) (Json.render w.toJson) }
        else .error (.plain ("aclsync: concurrent modification detected: '" ++ path ++ "'"))
          (st.after 3 []) := by
  unfold writeAccess
  rw [EStateM.run_bind, readRecord_run_of_nil h hp hd]
  dsimp only
  rw [EStateM.run_bind, hprep, orThrow_ok]
  dsimp only
  rw [EStateM.run_bind, run_tryCatch]
  obtain ⟨v, hv⟩ := readPrincipals_run_of_nil (show (st.after 1 []).server.rules = [] from rfl)
  rw [hv, after_after]
  dsimp only
  obtain ⟨-, hkinds, -⟩ := AccessControl.prepare_ok hprep
  obtain ⟨w, hw, hid, hfolder, -⟩ := @Record.state_ofState cur.id cur.folder _
    (AccessControl.withIds_validKinds v hkinds)
  refine ⟨w.stampedAt st.config.surroundings.now, hid, hfolder, ?_⟩
  rw [EStateM.run_bind, hw, orThrow_ok]
  dsimp only
  rw [EStateM.run_bind,
    writeRecord_run_of_nil _ _ _ (show (st.after 2 []).server.rules = [] from rfl),
    after_land_of_nil h, after_after]
  have hcfg : (st.after 2 []).config = st.config := rfl
  simp only [hcfg, Nat.reduceAdd]
  by_cases hu : (st.server.land 3).unchangedSince (st.config.keyOf path) p.modifyIndex = true
  · simp only [hu, ↓reduceIte]
    rfl
  · simp only [hu, ↓reduceIte, Bool.false_eq_true]
    rfl

/-- The store the record is read from and the one the write lands in: the second follows the
first, which is well stamped when the store was. -/
theorem read_write_since {st : KvStore} (hs : st.server.Stamped) :
    KvServer.Since (st.server.land 1) (st.server.land 3) ∧ (st.server.land 1).Stamped := by
  refine ⟨?_, (KvServer.since_land st.server 1).2.1 hs⟩
  rw [← KvServer.land_land st.server 1 2]
  exact KvServer.since_land _ 2

/-- A change of state that returns read a pair, found the key still holding that very pair when
its write landed, and replaced it by a record with the same id and kind, stamped with the next
index: no change the others made after the read is overwritten. -/
theorem writeAccess_ok {path : String} {ac : Option AccessControl} {st st' : KvStore}
    (hs : st.server.Stamped) (h : (writeAccess path ac).run st = .ok () st') :
    ∃ (p : Pair) (cur w : Record),
      (st.server.land 1).pairs.get? (st.config.keyOf path) = some p ∧
      Record.readJson p.value = .ok cur ∧
      (st.server.land 3).pairs.get? (st.config.keyOf path) = some p ∧
      w.id = cur.id ∧ w.folder = cur.folder ∧
      st'.server.pairs.get? (st.config.keyOf path) =
        some ⟨st.config.keyOf path, Json.render w.toJson, p.createIndex, st'.server.index⟩ := by
  rcases writeAccess_cases path ac st with
    ⟨e, n, r, he⟩ | ⟨p, cur, w, r, hp, hd, hid, hfolder, hu, hrun⟩
  · rw [he] at h
    cases h
  rw [hrun] at h
  cases h
  obtain ⟨hsince, hstamped⟩ := read_write_since hs
  have hkept := (KvServer.unchangedSince_iff hsince hstamped hp).1 hu
  refine ⟨p, cur, w, hp, hd, hkept, hid, hfolder, ?_⟩
  show ((st.server.land 3).withValue (st.config.keyOf path) (Json.render w.toJson)).pairs.get?
      (st.config.keyOf path) =
    some ⟨st.config.keyOf path, Json.render w.toJson, p.createIndex, (st.server.land 3).index + 1⟩
  rw [KvServer.withValue_get_self, hkept]
  rfl

/-- A change of state that fails wrote nothing: its store is what the others' batches made of it. -/
theorem writeAccess_error {path : String} {ac : Option AccessControl} {st st' : KvStore} {e : Error}
    (h : (writeAccess path ac).run st = .error e st') :
    ∃ n, st'.server.pairs = (st.server.land n).pairs := by
  rcases writeAccess_cases path ac st with ⟨e', n, r, he⟩ | ⟨p, cur, w, r, -, -, -, -, -, hrun⟩
  · rw [he] at h
    cases h
    exact ⟨n, rfl⟩
  · rw [hrun] at h
    cases h

/-- With no rules, a change of a record that reads and passes the check goes through when the key
still holds the pair read when its write lands, and otherwise reports a concurrent modification
and leaves the key with what the others put there. -/
theorem writeAccess_outcome_of_nil {path : String} {ac : Option AccessControl} {st : KvStore}
    (hs : st.server.Stamped) (h : st.server.rules = []) {p : Pair} {cur : Record}
    {prepared : AccessControl}
    (hp : (st.server.land 1).pairs.get? (st.config.keyOf path) = some p)
    (hd : Record.readJson p.value = .ok cur)
    (hprep : AccessControl.prepare path ac cur.folder = .ok prepared) :
    ((st.server.land 3).pairs.get? (st.config.keyOf path) = some p →
      ∃ st', (writeAccess path ac).run st = .ok () st') ∧
    ((st.server.land 3).pairs.get? (st.config.keyOf path) ≠ some p →
      (writeAccess path ac).run st =
        .error (.plain ("aclsync: concurrent modification detected: '" ++ path ++ "'"))
          (st.after 3 [])) := by
  obtain ⟨w, -, -, hrun⟩ := writeAccess_run_of_nil h hp hd hprep
  obtain ⟨hsince, hstamped⟩ := read_write_since hs
  have hiff := KvServer.unchangedSince_iff hsince hstamped hp
  refine ⟨fun hkept => ⟨_, by rw [hrun, if_pos (hiff.2 hkept)]⟩, fun hchanged => ?_⟩
  rw [hrun, if_neg (mt hiff.1 hchanged)]

/-! ### Creations -/

/-- The steps creations are made of: reading a pair or losing a write, taking a new record id,
and writing a pair into a key that is absent, each once the others' next batch has landed. -/
structure CreationSteps (R : KvStore → KvStore → Prop) : Prop where
  read : ∀ st r, R st (st.after 1 r)
  fresh : ∀ st n, R st { st with serial := n }
  fill : ∀ st key v r, (st.server.land 1).pairs.get? key = none →
    R st { st with server := { (st.server.land 1).withValue key v with rules := r } }

/-- Creations only ever add pairs. -/
theorem creationSteps_fills : CreationSteps (Among KvServer.Fills) where
  read _ _ := Relation.ReflTransGen.single ⟨rfl, fun _ _ h => h⟩
  fresh _ _ := Relation.ReflTransGen.refl
  fill _ _ v r h := Relation.ReflTransGen.single (KvServer.fills_withValue h v r)

section Creation

variable {R : KvStore → KvStore → Prop}

/-- Reading a record is a step of creations, whatever it returns. -/
theorem readRecord_keeps (h : CreationSteps R) (path : String) : Keeps R (readRecord path) := by
  intro st
  obtain ⟨r, ⟨e, he⟩ | ⟨p, cur, -, -, hrun⟩⟩ := readRecord_cases path st
  · rw [he]
    exact h.read st r
  · rw [hrun]
    exact h.read st r

/-- A write at index 0 lands in an absent key or not at all. -/
theorem writeRecord_new_keeps (h : CreationSteps R) (path : String) (w : Record) :
    Keeps R (writeRecord path w 0) := by
  intro st
  obtain ⟨r, ⟨e, he⟩ | hf | ⟨hu, ht⟩⟩ := writeRecord_cases path w 0 st
  · rw [he]
    exact h.read st r
  · rw [hf]
    exact h.read st r
  · rw [ht]
    exact h.fill st _ _ r (KvServer.unchangedSince_zero.1 hu)

variable [IsPreorder KvStore R]

/-- Handing a result to the storage is a step of any run. -/
theorem orThrow_keeps {α : Type} (x : Except Error α) : Keeps R (orThrow x) := by
  cases x with
  | ok a => exact Keeps.pure a
  | error e => exact Keeps.throw e

/-- Creating a record is made of steps of creations: a new id, a write at index 0, and after a lost
write a read of the record found, taken if it is of the same kind. -/
theorem createRecord_keeps (h : CreationSteps R) (path : String) (parent : Option AccessControl)
    (folder : Bool) : Keeps R (createRecord path parent folder) := by
  unfold createRecord
  refine Keeps.seq (fun st => h.fresh st _) fun id => Keeps.seq (orThrow_keeps _) fun w =>
    Keeps.seq (writeRecord_new_keeps h path w) fun written => Keeps.ite (Keeps.pure w) ?_
  refine Keeps.seq (readRecord_keeps h path) fun found => ?_
  obtain ⟨existing, _⟩ := found
  exact Keeps.ite (Keeps.throw_bind _ _) (Keeps.pure _)

/-- Walking down and creating what is missing is made of steps of creations, by induction on the
segments still to walk. -/
theorem createBelow_keeps (h : CreationSteps R) (folder : Bool) :
    ∀ (segs : List String) (current : String) (parent : Record),
      Keeps R (createBelow folder current parent segs)
  | [], _, _ => by
    unfold createBelow
    exact Keeps.pure ()
  | seg :: rest, current, parent => by
    unfold createBelow
    refine Keeps.seq (Keeps.tryCatch (Keeps.seq (readRecord_keeps h _) fun _ => Keeps.pure _)
      fun e => Keeps.ite (Keeps.pure _) (Keeps.throw e)) fun found => ?_
    cases found with
    | none =>
      exact Keeps.seq (orThrow_keeps _) fun above => Keeps.seq (createRecord_keeps h _ _ _)
        fun r => createBelow_keeps h folder rest _ r
    | some x =>
      obtain ⟨r, _⟩ := x
      exact Keeps.ite (Keeps.ite (Keeps.pure ()) (Keeps.throw _))
        (Keeps.ite (Keeps.throw _) (createBelow_keeps h folder rest _ r))

/-- Creating a directory or a file is made of steps of creations. -/
theorem create_keeps (h : CreationSteps R) (path : String) (folder : Bool) :
    Keeps R (create path folder) := by
  unfold create
  refine Keeps.seq (orThrow_keeps _) fun _ => ?_
  dsimp only
  exact Keeps.ite (Keeps.throw_bind _ _) (Keeps.seq (Keeps.tryCatch (readRecord_keeps h _)
    fun e => Keeps.ite (Keeps.throw _) (Keeps.throw e))
      fun found => createBelow_keeps h folder _ _ found.1)

/-- Creating a container is made of steps of creations. -/
theorem createContainer_keeps (h : CreationSteps R) (name : String) :
    Keeps R (createContainer name) := by
  unfold createContainer
  exact Keeps.seq (orThrow_keeps _) fun _ => Keeps.seq (createRecord_keeps h _ _ _) fun _ =>
    Keeps.pure ()

end Creation

/-- A record a creation takes is of the kind asked for: its own new record, or the record found
under the key after losing the write, which must be of the same kind. -/
theorem createRecord_returns (path : String) (parent : Option AccessControl) (folder : Bool) :
    Returns (fun r => r.folder = folder) (createRecord path parent folder) := by
  intro st w' st' h
  unfold createRecord at h
  obtain ⟨id, st₁, -, h⟩ := bind_run_ok h
  obtain ⟨w, st₂, hw, h⟩ := bind_run_ok h
  have hwf : w.folder = folder := by
    cases hof : Record.ofState id folder (AccessControl.initial parent folder) with
    | error e =>
      rw [hof] at hw
      cases hw
    | ok w₀ =>
      rw [hof] at hw
      cases hw
      exact (Record.ofState_ok hof).2
  obtain ⟨written, st₃, -, h⟩ := bind_run_ok h
  cases written
  · obtain ⟨⟨existing, _⟩, st₄, -, h⟩ := bind_run_ok h
    dsimp only at h
    split at h
    · cases h
    · next hkind =>
      cases h
      simpa using hkind
  · cases h
    exact hwf

/-- A new record id is the id source's value at the next serial, which is taken. -/
theorem freshId_run (st : KvStore) :
    freshId.run st =
      .ok (st.config.surroundings.newId (st.serial + 1)) { st with serial := st.serial + 1 } :=
  rfl

/-- With no rules, a valid container whose key is absent when the creation's write lands is
created by that write, as a folder record. -/
theorem createContainer_run_new {name : String} {st : KvStore} (h : st.server.rules = [])
    (hvalid : validateContainer name = .ok ())
    (habsent : (st.server.land 1).pairs.get? (st.config.keyOf name) = none) :
    ∃ w : Record, w.folder = true ∧ (createContainer name).run st =
      .ok () { st with
        serial := st.serial + 1
        server := (st.server.land 1).withValue (st.config.keyOf name) (Json.render w.toJson) } := by
  obtain ⟨-, hkinds, -⟩ := AccessControl.initial_ok none (fun _ hp => nomatch hp) true
  obtain ⟨w, hw, -, hfolder, -⟩ :=
    @Record.state_ofState (st.config.surroundings.newId (st.serial + 1)) true _ hkinds
  refine ⟨w.stampedAt st.config.surroundings.now, hfolder, ?_⟩
  unfold createContainer
  rw [EStateM.run_bind, hvalid, orThrow_ok]
  dsimp only
  unfold createRecord
  rw [EStateM.run_bind, EStateM.run_bind, freshId_run]
  dsimp only
  rw [EStateM.run_bind, hw, orThrow_ok]
  dsimp only
  rw [EStateM.run_bind, writeRecord_run_of_nil _ _ _
    (show ({ st with serial := st.serial + 1 } : KvStore).server.rules = [] from h),
    if_pos (KvServer.unchangedSince_zero.2 habsent)]
  rfl

/-- With no rules, a valid container whose key is absent when the creation's write lands is
created as a new pair, made and last changed by that write. -/
theorem createContainer_new_pair {name : String} {st : KvStore} (h : st.server.rules = [])
    (hvalid : validateContainer name = .ok ())
    (habsent : (st.server.land 1).pairs.get? (st.config.keyOf name) = none) :
    ∃ (st' : KvStore) (w : Record), (createContainer name).run st = .ok () st' ∧
      w.folder = true ∧
      st'.server.pairs.get? (st.config.keyOf name) =
        some ⟨st.config.keyOf name, Json.render w.toJson, st'.server.index, st'.server.index⟩ := by
  obtain ⟨w, hfolder, hrun⟩ := createContainer_run_new h hvalid habsent
  refine ⟨_, w, hrun, hfolder, ?_⟩
  show ((st.server.land 1).withValue (st.config.keyOf name) (Json.render w.toJson)).pairs.get?
      (st.config.keyOf name) =
    some ⟨_, _, (st.server.land 1).index + 1, (st.server.land 1).index + 1⟩
  rw [KvServer.withValue_get_self, habsent]
  rfl

/-- The storage on a shared key-value store loses no update, whatever the other clients change
between its requests. A change of state that returns read a pair, found the key still holding
that very pair when its write landed, and wrote over it a record with the id and kind it read,
stamped with the next index; one that fails wrote nothing. With no failing rules and a state the
item accepts, the change returns exactly when the key still held the pair read, and otherwise
reports a concurrent modification, leaving the key as the others left it. Creations of
containers, directories and files only ever add pairs, and take only records of the kind asked
for; with no failing rules a valid container whose key is absent when the write lands is created
by that write. -/
theorem updates_never_lost {st : KvStore} (hs : st.server.Stamped) (path : String)
    (ac : Option AccessControl) :
    (∀ st', (writeAccess path ac).run st = .ok () st' →
      ∃ (p : Pair) (cur w : Record),
        (st.server.land 1).pairs.get? (st.config.keyOf path) = some p ∧
        Record.readJson p.value = .ok cur ∧
        (st.server.land 3).pairs.get? (st.config.keyOf path) = some p ∧
        w.id = cur.id ∧ w.folder = cur.folder ∧
        st'.server.pairs.get? (st.config.keyOf path) =
          some ⟨st.config.keyOf path, Json.render w.toJson, p.createIndex, st'.server.index⟩) ∧
    (∀ e st', (writeAccess path ac).run st = .error e st' →
      ∃ n, st'.server.pairs = (st.server.land n).pairs) ∧
    (st.server.rules = [] → ∀ (p : Pair) (cur : Record) (prepared : AccessControl),
      (st.server.land 1).pairs.get? (st.config.keyOf path) = some p →
      Record.readJson p.value = .ok cur →
      AccessControl.prepare path ac cur.folder = .ok prepared →
      ((st.server.land 3).pairs.get? (st.config.keyOf path) = some p →
        ∃ st', (writeAccess path ac).run st = .ok () st') ∧
      ((st.server.land 3).pairs.get? (st.config.keyOf path) ≠ some p →
        (writeAccess path ac).run st =
          .error (.plain ("aclsync: concurrent modification detected: '" ++ path ++ "'"))
            (st.after 3 []))) ∧
    Keeps (Among KvServer.Fills) (createContainer path) ∧
    (∀ folder, Keeps (Among KvServer.Fills) (create path folder)) ∧
    (∀ parent folder, Returns (fun r => r.folder = folder) (createRecord path parent folder)) ∧
    (st.server.rules = [] → validateContainer path = .ok () →
      (st.server.land 1).pairs.get? (st.config.keyOf path) = none →
      ∃ (st' : KvStore) (w : Record), (createContainer path).run st = .ok () st' ∧
        w.folder = true ∧
        st'.server.pairs.get? (st.config.keyOf path) =
          some ⟨st.config.keyOf path, Json.render w.toJson, st'.server.index,
            st'.server.index⟩) := by
  refine ⟨fun _ h => writeAccess_ok hs h, fun _ _ h => writeAccess_error h,
    fun hnil _ _ _ hp hd hprep => writeAccess_outcome_of_nil hs hnil hp hd hprep,
    createContainer_keeps creationSteps_fills path,
    fun folder => create_keeps creationSteps_fills path folder,
    createRecord_returns path, fun hnil hvalid habsent =>
      createContainer_new_pair hnil hvalid habsent⟩

/-- Other clients write a container's key between the reading and the writing of its state. -/
theorem updates_never_lost_with_others :
    let st : KvStore :=
      ⟨{ others := [[], [.put "aclsync/c" "{}"], []] }, { keyPrefix := "aclsync" }, 0⟩
    st.server.Stamped ∧
    (∀ st', (writeAccess "c" none).run st = .ok () st' →
      ∃ (p : Pair) (cur w : Record),
        (st.server.land 1).pairs.get? (st.config.keyOf "c") = some p ∧
        Record.readJson p.value = .ok cur ∧
        (st.server.land 3).pairs.get? (st.config.keyOf "c") = some p ∧
        w.id = cur.id ∧ w.folder = cur.folder ∧
        st'.server.pairs.get? (st.config.keyOf "c") =
          some ⟨st.config.keyOf "c", Json.render w.toJson, p.createIndex, st'.server.index⟩) ∧
    (∀ e st', (writeAccess "c" none).run st = .error e st' →
      ∃ n, st'.server.pairs = (st.server.land n).pairs) ∧
    (st.server.rules = [] → ∀ (p : Pair) (cur : Record) (prepared : AccessControl),
      (st.server.land 1).pairs.get? (st.config.keyOf "c") = some p →
      Record.readJson p.value = .ok cur →
      AccessControl.prepare "c" none cur.folder = .ok prepared →
      ((st.server.land 3).pairs.get? (st.config.keyOf "c") = some p →
        ∃ st', (writeAccess "c" none).run st = .ok () st') ∧
      ((st.server.land 3).pairs.get? (st.config.keyOf "c") ≠ some p →
        (writeAccess "c" none).run st =
          .error (.plain ("aclsync: concurrent modification detected: '" ++ "c" ++ "'"))
            (st.after 3 []))) ∧
    Keeps (Among KvServer.Fills) (createContainer "c") ∧
    (∀ folder, Keeps (Among KvServer.Fills) (create "c" folder)) ∧
    (∀ parent folder, Returns (fun r => r.folder = folder) (createRecord "c" parent folder)) ∧
    (st.server.rules = [] → validateContainer "c" = .ok () →
      (st.server.land 1).pairs.get? (st.config.keyOf "c") = none →
      ∃ (st' : KvStore) (w : Record), (createContainer "c").run st = .ok () st' ∧
        w.folder = true ∧
        st'.server.pairs.get? (st.config.keyOf "c") =
          some ⟨st.config.keyOf "c", Json.render w.toJson, st'.server.index, st'.server.index⟩) :=
  have hs : KvServer.Stamped ⟨{}, 1, [], [[], [.put "aclsync/c" "{}"], []]⟩ :=
    fun _ _ h => nomatch h
  ⟨hs, updates_never_lost hs "c" none⟩

end KvOp

end KeyValue

end AclReconcile
