import Mathlib
import AclReconcile.Config

/-!
# Validation reports exactly the records that offend

A configuration is checked record by record (`Config.validate`). A record offends when it is
absent, when it fails its own check (`DeclaredDirectory.validate`), or when it declares a path that
an earlier record which passed its check declared already; the failure then names the first such
record (`Config.offence`). A record does not offend exactly when it is present, valid, and no
earlier valid record declares its path (`Config.offence_eq_none_iff`). Validation accepts exactly
the lists of present, valid records with distinct paths (`Config.reports_eq_nil_iff`) and gives
them back; otherwise it reports every offence, one line each, in the order of the records
(`Config.validate_reports_offences`).

The code keeps the paths seen so far, each with the index of the record that declared it first.
That list answers for a path what a search of the earlier records for the first valid one with
that path answers (`Config.Gathered`); each kind of record keeps this so (`Config.Gathered.empty`,
`Config.Gathered.invalid`, `Config.Gathered.duplicate`, `Config.Gathered.fresh`), and so does the
whole pass over the records, by induction on them (`Config.foldl_gathered`).
-/

namespace AclReconcile

namespace Error

/-- Joining failures gives nothing only when there are none. -/
theorem join?_eq_none_iff : ∀ {es : List Error}, join? es = none ↔ es = []
  | [] => by simp [join?]
  | [e] => by simp [join?]
  | e :: e' :: es => by
    have hrest : join? (e' :: es) ≠ none := fun h => List.cons_ne_nil e' es (join?_eq_none_iff.1 h)
    simp only [join?, Option.map_eq_none_iff, hrest, reduceCtorEq]

end Error

namespace Config

/-! ## What offends -/

/-- Whether a record passes its own check and declares the path `p`. -/
def declares (p : String) : Option DeclaredDirectory → Bool
  | some d => d.validate.toBool && d.path == p
  | none => false

/-- What is wrong with a record. -/
inductive Offence where
  /-- The record is absent. -/
  | empty
  /-- The record fails its own check with this failure. -/
  | invalid (e : Error)
  /-- The record declares a path that the record at index `first` declared already. -/
  | duplicate (path : String) (first : Nat)

/-- What is wrong with a record, given the records before it: nothing when it is present, valid,
and declares a path that no earlier valid record declares; otherwise the first earlier valid
record with its path is named. -/
def offence (before : List (Option DeclaredDirectory)) : Option DeclaredDirectory → Option Offence
  | none => some .empty
  | some d =>
    match d.validate with
    | .error e => some (.invalid e)
    | .ok () => (before.findIdx? (declares d.path)).map (.duplicate d.path)

/-- The failure reported for the offence of the record at index `i`. -/
def Offence.report (i : Nat) : Offence → Error
  | .empty => .plain ("directory #" ++ toString i ++ ": empty declaration")
  | .invalid e => .context ("directory #" ++ toString i) e
  | .duplicate p first => .context ("directory #" ++ toString i)
      (.detail .duplicatePath ("'" ++ p ++ "' already declared by #" ++ toString first))

/-- The failures reported for the records `rest` that follow the records `before`, in order. -/
def reportsFrom (before : List (Option DeclaredDirectory)) :
    List (Option DeclaredDirectory) → List Error
  | [] => []
  | x :: rest =>
    ((offence before x).map (Offence.report before.length)).toList ++
      reportsFrom (before ++ [x]) rest

/-- The failures reported for a list of records, in order. -/
def reports (ds : List (Option DeclaredDirectory)) : List Error := reportsFrom [] ds

/-- A record more, after the records already reported from `before`, adds its own report if it
offends. -/
theorem reportsFrom_snoc (x : Option DeclaredDirectory) :
    ∀ (before rest : List (Option DeclaredDirectory)),
      reportsFrom before (rest ++ [x]) = reportsFrom before rest ++
        ((offence (before ++ rest) x).map (Offence.report (before ++ rest).length)).toList
  | before, [] => by simp [reportsFrom]
  | before, y :: rest => by
    rw [List.cons_append, reportsFrom, reportsFrom, reportsFrom_snoc x (before ++ [y]) rest,
      List.append_assoc, List.append_assoc, List.singleton_append]

/-- A record more adds its own report, if it offends. -/
theorem reports_snoc (ds : List (Option DeclaredDirectory)) (x : Option DeclaredDirectory) :
    reports (ds ++ [x]) = reports ds ++ ((offence ds x).map (Offence.report ds.length)).toList :=
  reportsFrom_snoc x [] ds

/-- A record does not offend exactly when it is present and valid and no earlier valid record
declares its path. -/
theorem offence_eq_none_iff {before : List (Option DeclaredDirectory)}
    {x : Option DeclaredDirectory} : offence before x = none ↔
      ∃ d, x = some d ∧ d.validate = .ok () ∧ ∀ y ∈ before, declares d.path y = false := by
  cases x with
  | none => simp [offence]
  | some d =>
    cases hv : d.validate with
    | error e => simp [offence, hv]
    | ok u => simp [offence, hv]

/-! ## What the pass over the records keeps -/

section Gathered

variable {before : List (Option DeclaredDirectory)} {errs : Errors}
  {seen : List (String × Nat)} {out : List DeclaredDirectory}

/-- What validation has gathered after the records `before`: their failures in order; for every
path, the index of the first of them that is valid and declares it; and, while nothing failed,
the records themselves. -/
structure Gathered (before : List (Option DeclaredDirectory))
    (acc : Errors × List (String × Nat) × List DeclaredDirectory) : Prop where
  reported : acc.1.items = reports before
  seen : ∀ p, (acc.2.1.find? (·.1 == p)).map (·.2) = before.findIdx? (declares p)
  kept : acc.1.items = [] → acc.2.2 = before.filterMap id

/-- Nothing is gathered before the first record. -/
theorem gathered_nil : Gathered [] ({}, [], []) :=
  ⟨rfl, fun _ => rfl, fun _ => rfl⟩

/-- A record that declares no path leaves the search for every path as it was. -/
theorem findIdx?_snoc_of_false {p : String} {x : Option DeclaredDirectory}
    (hx : declares p x = false) : (before ++ [x]).findIdx? (declares p) =
      before.findIdx? (declares p) := by
  simp [hx]

/-- The three facts `Gathered` holds of a pass that gathered `errs`, `seen` and `out`. -/
theorem gathered_iff : Gathered before (errs, seen, out) ↔ errs.items = reports before ∧
    (∀ p, (seen.find? (·.1 == p)).map (·.2) = before.findIdx? (declares p)) ∧
    (errs.items = [] → out = before.filterMap id) :=
  ⟨fun h => ⟨h.reported, h.seen, h.kept⟩, fun ⟨hr, hs, hk⟩ => ⟨hr, hs, hk⟩⟩

/-- An absent record is reported and changes nothing else. -/
theorem Gathered.empty (h : Gathered before (errs, seen, out)) :
    Gathered (before ++ [none])
      (errs.add (some (.plain ("directory #" ++ toString before.length ++
        ": empty declaration"))), seen, out) := by
  obtain ⟨hr, hs, -⟩ := gathered_iff.1 h
  refine gathered_iff.2 ⟨?_, fun p => ?_, fun hnil => ?_⟩
  · simp [Errors.add, hr, reports_snoc, offence, Offence.report]
  · rw [findIdx?_snoc_of_false rfl]
    exact hs p
  · simp [Errors.add] at hnil

/-- A record that fails its own check is reported with its failure and changes nothing else. -/
theorem Gathered.invalid {d : DeclaredDirectory} {e : Error} (h : Gathered before (errs, seen, out))
    (hv : d.validate = .error e) :
    Gathered (before ++ [some d])
      (errs.add (some (.context ("directory #" ++ toString before.length) e)), seen, out) := by
  obtain ⟨hr, hs, -⟩ := gathered_iff.1 h
  refine gathered_iff.2 ⟨?_, fun p => ?_, fun hnil => ?_⟩
  · simp [Errors.add, hr, reports_snoc, offence, hv, Offence.report]
  · rw [findIdx?_snoc_of_false (by simp [declares, hv, Except.toBool])]
    exact hs p
  · simp [Errors.add] at hnil

/-- A valid record whose path was seen is reported with the index the path was seen first at, the
index the earlier records' search finds, where the search keeps stopping. -/
theorem Gathered.duplicate {d : DeclaredDirectory} {q : String} {first : Nat}
    (h : Gathered before (errs, seen, out)) (hv : d.validate = .ok ())
    (hseen : seen.find? (·.1 == d.path) = some (q, first)) :
    Gathered (before ++ [some d])
      (errs.add (some (.context ("directory #" ++ toString before.length)
        (.detail .duplicatePath ("'" ++ d.path ++ "' already declared by #" ++
          toString first)))), seen, out) := by
  obtain ⟨hr, hs, -⟩ := gathered_iff.1 h
  have hfirst : before.findIdx? (declares d.path) = some first := by
    rw [← hs d.path, hseen]
    rfl
  refine gathered_iff.2 ⟨?_, fun p => ?_, fun hnil => ?_⟩
  · simp [Errors.add, hr, reports_snoc, offence, hv, hfirst, Offence.report]
  · rw [hs p]
    by_cases hp : d.path = p
    · subst hp
      rw [List.findIdx?_append, hfirst]
      rfl
    · rw [findIdx?_snoc_of_false (by simp [declares, hp])]
  · simp [Errors.add] at hnil

/-- A valid record with a path not seen yet is kept, and its path is seen at its index. -/
theorem Gathered.fresh {d : DeclaredDirectory} (h : Gathered before (errs, seen, out))
    (hv : d.validate = .ok ()) (hseen : seen.find? (·.1 == d.path) = none) :
    Gathered (before ++ [some d]) (errs, seen ++ [(d.path, before.length)], out ++ [d]) := by
  obtain ⟨hr, hs, hk⟩ := gathered_iff.1 h
  have hnone : before.findIdx? (declares d.path) = none := by
    rw [← hs d.path, hseen]
    rfl
  refine gathered_iff.2 ⟨?_, fun p => ?_, fun hnil => ?_⟩
  · simp [hr, reports_snoc, offence, hv, hnone]
  · rw [List.find?_append, List.findIdx?_append, ← hs p]
    cases hfound : seen.find? (·.1 == p) with
    | some r => rfl
    | none =>
      by_cases hp : d.path = p
      · subst hp
        simp [declares, hv, Except.toBool]
      · simp [declares, hp]
  · rw [hk hnil, List.filterMap_append]
    rfl

/-- The pass over the records gathers what `Gathered` says, whatever one step does, as long as
each step keeps it. -/
theorem foldl_gathered
    {f : Errors × List (String × Nat) × List DeclaredDirectory → Option DeclaredDirectory × Nat →
      Errors × List (String × Nat) × List DeclaredDirectory}
    (hf : ∀ before acc x, Gathered before acc → Gathered (before ++ [x]) (f acc (x, before.length))) :
    ∀ (rest before : List (Option DeclaredDirectory)) (acc), Gathered before acc →
      Gathered (before ++ rest) ((rest.zipIdx before.length).foldl f acc)
  | [], before, acc, h => by simpa using h
  | x :: rest, before, acc, h => by
    have ih := foldl_gathered hf rest (before ++ [x]) _ (hf before acc x h)
    rw [List.length_append, List.length_singleton, List.append_assoc, List.singleton_append] at ih
    rwa [List.zipIdx_cons, List.foldl_cons]

end Gathered

/-! ## Validation -/

/-- Validation reports the failures of the offending records, joined, or gives the records back
when none offends. Each step of the pass keeps `Gathered`, by the kind of record it meets. -/
theorem validate_eq (ds : List (Option DeclaredDirectory)) :
    validate ds = (Error.join? (reports ds)).elim (.ok (ds.filterMap id)) .error := by
  dsimp only [validate]
  generalize hF : List.foldl _ _ _ = F
  have hg : Gathered ds F := by
    rw [← hF]
    refine foldl_gathered (fun before acc x h => ?_) ds [] _ gathered_nil
    obtain ⟨errs, seen, out⟩ := acc
    dsimp only
    split
    · exact h.empty
    · next d =>
      split
      · next e hv => exact h.invalid hv
      · next hv =>
        split
        · next q first hseen => exact h.duplicate hv hseen
        · next hseen => exact h.fresh hv hseen
  obtain ⟨errs, seen, out⟩ := F
  rw [Errors.result, hg.reported]
  cases hjoin : Error.join? (reports ds) with
  | none => rw [hg.kept (hg.reported.trans (Error.join?_eq_none_iff.1 hjoin))]; rfl
  | some e => rfl

/-- When the records are all present and valid, none declares a path exactly when none has it. -/
theorem forall_not_declares_iff {ds : List (Option DeclaredDirectory)}
    (hvalid : ∀ y ∈ ds, ∃ d, y = some d ∧ d.validate = .ok ()) {p : String} :
    (∀ y ∈ ds, declares p y = false) ↔ p ∉ (ds.filterMap id).map (·.path) := by
  constructor
  · intro h hmem
    obtain ⟨d, hd, hpath⟩ := List.mem_map.1 hmem
    obtain ⟨y, hy, hyd⟩ := List.mem_filterMap.1 hd
    obtain ⟨d', rfl, hv⟩ := hvalid y hy
    cases hyd
    have hdecl := h _ hy
    simp [declares, hv, hpath, Except.toBool] at hdecl
  · intro h y hy
    obtain ⟨d, rfl, hv⟩ := hvalid y hy
    simp only [declares, hv, Except.toBool, Bool.true_and, beq_eq_false_iff_ne, ne_eq]
    exact fun hpath => h (List.mem_map.2 ⟨d, List.mem_filterMap.2 ⟨_, hy, rfl⟩, hpath⟩)

/-- No record offends exactly when all are present and valid and their paths are distinct. -/
theorem reports_eq_nil_iff (ds : List (Option DeclaredDirectory)) :
    reports ds = [] ↔ (∀ x ∈ ds, ∃ d, x = some d ∧ d.validate = .ok ()) ∧
      ((ds.filterMap id).map (·.path)).Nodup := by
  induction ds using List.reverseRecOn with
  | nil => simp [reports, reportsFrom]
  | append_singleton ds x ih =>
    rw [reports_snoc, List.append_eq_nil_iff, ih, Option.toList_eq_nil_iff,
      Option.map_eq_none_iff, offence_eq_none_iff]
    have hpaths : ∀ d : DeclaredDirectory, ((ds ++ [some d]).filterMap id).map (·.path) =
        (ds.filterMap id).map (·.path) ++ [d.path] := fun d => by
      simp [List.filterMap_append]
    constructor
    · rintro ⟨⟨hvalid, hnodup⟩, d, rfl, hv, hfresh⟩
      refine ⟨fun y hy => ?_, ?_⟩
      · rcases List.mem_append.1 hy with hy | hy
        · exact hvalid y hy
        · exact ⟨d, List.mem_singleton.1 hy, hv⟩
      · rw [hpaths, List.nodup_append]
        refine ⟨hnodup, List.nodup_singleton _, fun a ha b hb hab => ?_⟩
        rw [List.mem_singleton.1 hb] at hab
        exact (forall_not_declares_iff hvalid).1 hfresh (hab ▸ ha)
    · rintro ⟨hvalid, hnodup⟩
      have hvalid' : ∀ y ∈ ds, ∃ d, y = some d ∧ d.validate = .ok () := fun y hy =>
        hvalid y (List.mem_append_left _ hy)
      obtain ⟨d, rfl, hv⟩ := hvalid _ (List.mem_append_right _ (List.mem_singleton_self _))
      rw [hpaths, List.nodup_append] at hnodup
      obtain ⟨hnodup, -, hdisj⟩ := hnodup
      refine ⟨⟨hvalid', hnodup⟩, d, rfl, hv, (forall_not_declares_iff hvalid').2 fun hmem => ?_⟩
      exact hdisj _ hmem _ (List.mem_singleton_self _) rfl

/-- Validation reports exactly the records that offend: it accepts a list of records exactly
when all are present and valid and their paths are distinct, and gives them back then; otherwise
it fails with one report per offending record, in the order of the records, joined. A record
offends when it is absent, fails its own check, or declares the path of an earlier valid record,
whose index its report names (`offence`, `Offence.report`). -/
theorem validate_reports_offences (ds : List (Option DeclaredDirectory)) :
    ((∃ out, validate ds = .ok out) ↔ (∀ x ∈ ds, ∃ d, x = some d ∧ d.validate = .ok ()) ∧
      ((ds.filterMap id).map (·.path)).Nodup) ∧
    validate ds = (Error.join? (reports ds)).elim (.ok (ds.filterMap id)) .error := by
  refine ⟨?_, validate_eq ds⟩
  rw [validate_eq, ← reports_eq_nil_iff, ← Error.join?_eq_none_iff]
  cases Error.join? (reports ds) with
  | none => simp
  | some e => simp

end Config

end AclReconcile
