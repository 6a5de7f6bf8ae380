/- The managed-key ledger over whole runs of syncs.
   digest: Bookkeeping written by one sync and read by the next gives a closed form for every run. -/

import VClusterTranslate.Merge.ApplyMaps

set_option autoImplicit false
set_option relaxedAutoImplicit false

/-!
A sync reads the keys the previous sync recorded as managed from a bookkeeping
annotation, merges, and records the keys it manages now. `LedgerLaw` is what one
sync does to a key outside the excluded keys. From it alone, `get_run` gives the
value of such a key after any non-empty run: the last source's value, else the
initial value when no source of the run ever held the key and the initial
bookkeeping did not list it. The newline encoding is decoded exactly when keys are
non-empty and contain no newline, which is the only place `ValidKey` is used.
-/

namespace VClusterTranslate.Merge.Ledger

open VClusterTranslate.Go.Library VClusterTranslate.Types VClusterTranslate.Merge.ApplyMaps

/-- A key that Kubernetes validation accepts here: non-empty, no newline. -/
def ValidKey (k : GoString) : Prop := k ≠ [] ∧ newline ∉ k

/-- Every key of the map is valid. -/
def ValidKeys (m : GoMap) : Prop := ∀ k ∈ m, ValidKey k

instance (k : GoString) : Decidable (ValidKey k) := inferInstanceAs (Decidable (_ ∧ _))

instance (m : GoMap) : Decidable (ValidKeys m) :=
  inferInstanceAs (Decidable (∀ k ∈ m.keys, ValidKey k))

/-- `k ∈ strings.Split(b, "\n")`, a missing annotation read as `""`. -/
def listed (b : Option GoString) (k : GoString) : Prop := k ∈ split (b.getD []) newline

instance (b : Option GoString) (k : GoString) : Decidable (listed b k) :=
  inferInstanceAs (Decidable (k ∈ _))

private theorem lit_newline : lit "\n" = [newline] := rfl

theorem managedValue_eq {ks : List GoString} (nonempty : ∀ k ∈ ks, k ≠ []) :
    managedValue ks = if ks = [] then none else some (join (sortStrings ks) (lit "\n")) := by
  unfold managedValue
  by_cases h : ks = []
  · simp [h, sortStrings, join, List.intercalate]
  · have hj : join (sortStrings ks) (lit "\n") ≠ [] := fun hj =>
      h (sortStrings_eq_nil.mp (join_eq_nil_of_ne_nil
        (fun k hk => nonempty k (mem_sortStrings.mp hk)) hj))
    simp [h, hj]

private theorem listed_managedValue {ks : List GoString} (valid : ∀ k ∈ ks, ValidKey k) {k : GoString}
    (hk : k ≠ []) : listed (managedValue ks) k ↔ k ∈ ks := by
  rw [managedValue_eq fun k' hk' => (valid k' hk').1]
  split_ifs with h
  · simp [listed, split_nil, h, hk]
  · have fresh : ∀ k' ∈ sortStrings ks, newline ∉ k' :=
      fun k' hk' => (valid k' (mem_sortStrings.mp hk')).2
    have ne : sortStrings ks ≠ [] := fun hs => h (sortStrings_eq_nil.mp hs)
    simp only [listed, Option.getD_some, lit_newline, split_join fresh ne, mem_sortStrings]

theorem valid_fromKeys {m : GoMap} (valid : ValidKeys m) (X : List GoString) :
    ∀ k ∈ fromKeys m X, ValidKey k := fun k hk =>
  valid k (AList.lookup_isSome.mp (mem_fromKeys.mp hk).1)

private theorem listed_managedValue_fromKeys {m : GoMap} (valid : ValidKeys m) {X : List GoString}
    {k : GoString} (hk : k ≠ []) (hx : k ∉ X) : listed (managedValue (fromKeys m X)) k ↔ k ∈ m := by
  rw [listed_managedValue (valid_fromKeys valid X) hk, mem_fromKeys, AList.lookup_isSome]
  exact and_iff_left hx

section Run

variable {σ φ : Type} (step : σ → φ → σ) (get : σ → GoString → Option GoString)
  (book : σ → Option GoString) (src : φ → GoMap) (X : List GoString)

/-- One sync, outside the excluded keys `X`: it records the source's keys as managed,
and a key takes the source's value, else is dropped if it was listed as managed,
else keeps its value. -/
structure LedgerLaw : Prop where
  book_step : ∀ s f, book (step s f) = managedValue (fromKeys (src f) X)
  get_step : ∀ s f k, k ∉ X →
    get (step s f) k = ((src f).lookup k).or (if listed (book s) k then none else get s k)

/-- A key every sync leaves alone keeps its initial value over any run. -/
theorem get_run_frame {k : GoString} (frame : ∀ s f, get (step s f) k = get s k) (fs : List φ)
    (s : σ) : get (fs.foldl step s) k = get s k := by
  induction fs generalizing s with
  | nil => rfl
  | cons f fs ih => rw [List.foldl_cons, ih, frame]

variable {step get book src X}

theorem book_run (law : LedgerLaw step get book src X) (s : σ) (fs : List φ) (f : φ) :
    book ((fs ++ [f]).foldl step s) = managedValue (fromKeys (src f) X) := by
  rw [List.foldl_append, List.foldl_cons, List.foldl_nil, law.book_step]

/-- The value of a key outside `X` after a run that ends with the sync `f`. -/
theorem get_run (law : LedgerLaw step get book src X) (fs : List φ) (f : φ)
    (valid : ∀ g ∈ fs, ValidKeys (src g)) {k : GoString} (hk : k ≠ []) (hx : k ∉ X) (s : σ) :
    get ((fs ++ [f]).foldl step s) k = ((src f).lookup k).or
      (if (∃ g ∈ fs ++ [f], k ∈ src g) ∨ listed (book s) k then none else get s k) := by
  induction fs generalizing s with
  | nil =>
    rw [List.nil_append, List.foldl_cons, List.foldl_nil, law.get_step s f k hx]
    cases hv : (src f).lookup k <;> simp [← AList.lookup_isSome, hv]
  | cons g fs ih =>
    rw [List.cons_append, List.foldl_cons,
      ih (fun g' hg' => valid g' (List.mem_cons_of_mem g hg')) (step s g),
      law.book_step, law.get_step s g k hx]
    simp only [listed_managedValue_fromKeys (valid g (List.mem_cons_self g fs)) hk hx]
    by_cases hg : k ∈ src g
    · simp [hg]
    · simp only [List.exists_mem_cons_iff, hg, false_or, or_false, AList.lookup_eq_none.mpr hg,
        Option.none_or]
      by_cases hany : ∃ g' ∈ fs ++ [f], k ∈ src g' <;> by_cases hl : listed (book s) k <;>
        simp only [hany, hl, if_true, if_false, or_true, or_false]

private theorem get_step_step (law : LedgerLaw step get book src X) (s : σ) (f : φ)
    (valid : ValidKeys (src f)) (empty : get s [] = none) {k : GoString} (hx : k ∉ X) :
    get (step (step s f) f) k = get (step s f) k := by
  rw [law.get_step _ f k hx, law.book_step]
  by_cases hk : k = []
  · subst hk
    have absent : (src f).lookup [] = none :=
      AList.lookup_eq_none.mpr fun mem => (valid [] mem).1 rfl
    have dropped : get (step s f) [] = none := by
      rw [law.get_step s f [] hx, empty, absent]
      simp
    simp [absent, dropped]
  · rw [law.get_step s f k hx, if_congr (listed_managedValue_fromKeys valid hk hx) rfl rfl]
    cases found : (src f).lookup k with
    | none => simp [AList.lookup_eq_none.mp found]
    | some v => rfl

end Run

/-! ### The two ledgers of `ApplyMetadata` -/

section Metadata

variable (K : Keys) (excludeAnnotations : List GoString)

/-- One call of `ApplyMetadata` on the state (labels, annotations) with the sources
(annotations, labels). -/
def metadataStep (s : GoMap × GoMap) (f : GoMap × GoMap) : GoMap × GoMap :=
  ApplyMetadata K f.1 s.2 f.2 s.1 excludeAnnotations

private theorem lookup_applyAnnotations_managedLabels (fromAnnotations toAnnotations : GoMap) :
    (applyAnnotations K fromAnnotations toAnnotations excludeAnnotations).lookup
      K.managedLabelsAnnotationKey = toAnnotations.lookup K.managedLabelsAnnotationKey := by
  simp [lookup_applyAnnotations, K.annotationKeys_ne, Ne.symm]

theorem annotationLedger :
    LedgerLaw (metadataStep K excludeAnnotations) (fun s k => s.2.lookup k)
      (fun s => s.2.lookup K.managedAnnotationsAnnotationKey) (fun f => f.1)
      ([K.managedAnnotationsAnnotationKey, K.managedLabelsAnnotationKey] ++ excludeAnnotations) where
  book_step s f := by
    simp [metadataStep, ApplyMetadata, lookup_applyLabels_snd, lookup_applyAnnotations,
      K.annotationKeys_ne]
  get_step s f k hk := by
    simp only [List.cons_append, List.mem_cons, List.nil_append, not_or] at hk
    simp [metadataStep, ApplyMetadata, lookup_applyLabels_snd, lookup_applyAnnotations, hk, listed,
      index]

theorem labelLedger :
    LedgerLaw (metadataStep K excludeAnnotations) (fun s k => s.1.lookup k)
      (fun s => s.2.lookup K.managedLabelsAnnotationKey) (fun f => f.2)
      [K.managedAnnotationsAnnotationKey, K.managedLabelsAnnotationKey] where
  book_step s f := by simp [metadataStep, ApplyMetadata, lookup_applyLabels_snd]
  get_step s f k hk := by
    simp only [List.mem_cons, List.mem_singleton, List.not_mem_nil, or_false, not_or] at hk
    simp [metadataStep, ApplyMetadata, lookup_applyLabels_fst, hk, listed, index,
      lookup_applyAnnotations_managedLabels]

end Metadata

/-- The labels and annotations after a run of `ApplyMetadata`, each sync with its
sources (annotations, labels). -/
def metadataRun (K : Keys) (excludeAnnotations : List GoString) (init : GoMap × GoMap)
    (syncs : List (GoMap × GoMap)) : GoMap × GoMap :=
  syncs.foldl (metadataStep K excludeAnnotations) init

/-- `ApplyMetadata` keeps two independent ledgers: after any run of syncs ending with
the sources `(fA, fL)`, each bookkeeping annotation lists the last source's keys, the
excluded annotations keep their initial values, and every other annotation or label
is the last source's value, else the initial value when no source of the run held the
key and the initial bookkeeping did not list it, else absent. -/
theorem applyMetadata_two_ledgers (K : Keys) (ex : List GoString) (L0 A0 : GoMap)
    (syncs : List (GoMap × GoMap)) (fA fL : GoMap)
    (valid : ∀ f ∈ syncs ++ [(fA, fL)], ValidKeys f.1 ∧ ValidKeys f.2) :
    let r := metadataRun K ex (L0, A0) (syncs ++ [(fA, fL)])
    let EA := [K.managedAnnotationsAnnotationKey, K.managedLabelsAnnotationKey] ++ ex
    let EL := [K.managedAnnotationsAnnotationKey, K.managedLabelsAnnotationKey]
    r.2.lookup K.managedAnnotationsAnnotationKey =
        (if fromKeys fA EA = [] then none
          else some (join (sortStrings (fromKeys fA EA)) (lit "\n"))) ∧
      r.2.lookup K.managedLabelsAnnotationKey =
        (if fromKeys fL EL = [] then none
          else some (join (sortStrings (fromKeys fL EL)) (lit "\n"))) ∧
      (∀ k ∈ ex, k ∉ EL → r.2.lookup k = A0.lookup k) ∧
      (∀ k, k ≠ [] → k ∉ EA → r.2.lookup k = (fA.lookup k).or
        (if (∃ f ∈ syncs ++ [(fA, fL)], k ∈ f.1) ∨
            k ∈ split (index A0 K.managedAnnotationsAnnotationKey) newline
          then none else A0.lookup k)) ∧
      (∀ k, k ≠ [] → k ∉ EL → r.1.lookup k = (fL.lookup k).or
        (if (∃ f ∈ syncs ++ [(fA, fL)], k ∈ f.2) ∨
            k ∈ split (index A0 K.managedLabelsAnnotationKey) newline
          then none else L0.lookup k)) ∧
      (∀ k ∈ EL, r.1.lookup k = L0.lookup k) := by
  intro r EA EL
  have validA : ∀ f ∈ syncs, ValidKeys f.1 := fun f hf => (valid f (by simp [hf])).1
  have validL : ∀ f ∈ syncs, ValidKeys f.2 := fun f hf => (valid f (by simp [hf])).2
  obtain ⟨lastA, lastL⟩ := valid (fA, fL) (by simp)
  refine ⟨?_, ?_, ?_, ?_, ?_, ?_⟩
  · rw [← managedValue_eq fun k hk => (valid_fromKeys lastA EA k hk).1]
    exact book_run (annotationLedger K ex) (L0, A0) syncs (fA, fL)
  · rw [← managedValue_eq fun k hk => (valid_fromKeys lastL EL k hk).1]
    exact book_run (labelLedger K ex) (L0, A0) syncs (fA, fL)
  · intro k hk hkl
    simp only [EL, List.mem_cons, List.mem_singleton, List.not_mem_nil, or_false, not_or] at hkl
    refine get_run_frame (metadataStep K ex) (fun s k => s.2.lookup k) (fun s f => ?_) _ (L0, A0)
    simp [metadataStep, ApplyMetadata, lookup_applyLabels_snd, lookup_applyAnnotations, hk, hkl]
  · intro k hk hx
    exact get_run (annotationLedger K ex) syncs (fA, fL) validA hk hx (L0, A0)
  · intro k hk hx
    exact get_run (labelLedger K ex) syncs (fA, fL) validL hk hx (L0, A0)
  · intro k hk
    refine get_run_frame (metadataStep K ex) (fun s k => s.1.lookup k) (fun s f => ?_) _ (L0, A0)
    simp only [EL, List.mem_cons, List.mem_singleton, List.not_mem_nil, or_false] at hk
    simp [metadataStep, ApplyMetadata, lookup_applyLabels_fst, hk]

/-- A re-sync from unchanged sources is a fixpoint: `ApplyMetadata` applied to its own
result with the same sources returns the same labels and annotations, when no source key
is empty or holds a newline and the labels and annotations it started from have no
empty key. -/
theorem applyMetadata_resync_fixpoint (K : Keys) (ex : List GoString)
    (fromAnnotations toAnnotations fromLabels toLabels : GoMap)
    (validFrom : ValidKeys fromAnnotations ∧ ValidKeys fromLabels)
    (noEmpty : toAnnotations.lookup [] = none ∧ toLabels.lookup [] = none) :
    let r := ApplyMetadata K fromAnnotations toAnnotations fromLabels toLabels ex
    let r' := ApplyMetadata K fromAnnotations r.2 fromLabels r.1 ex
    ∀ k, r'.1.lookup k = r.1.lookup k ∧ r'.2.lookup k = r.2.lookup k := by
  intro r r' k
  let s : GoMap × GoMap := (toLabels, toAnnotations)
  let f : GoMap × GoMap := (fromAnnotations, fromLabels)
  constructor
  · by_cases hx : k ∈ [K.managedAnnotationsAnnotationKey, K.managedLabelsAnnotationKey]
    · simp only [List.mem_cons, List.mem_singleton, List.not_mem_nil, or_false] at hx
      simp [r', ApplyMetadata, lookup_applyLabels_fst, hx]
    · exact get_step_step (labelLedger K ex) s f validFrom.2 noEmpty.2 hx
  · by_cases hA : k = K.managedAnnotationsAnnotationKey
    · subst hA
      exact ((annotationLedger K ex).book_step r f).trans ((annotationLedger K ex).book_step s f).symm
    by_cases hL : k = K.managedLabelsAnnotationKey
    · subst hL
      exact ((labelLedger K ex).book_step r f).trans ((labelLedger K ex).book_step s f).symm
    by_cases excluded : k ∈ ex
    · simp [r', ApplyMetadata, lookup_applyLabels_snd, lookup_applyAnnotations, excluded, hA, hL]
    · exact get_step_step (annotationLedger K ex) s f validFrom.1 noEmpty.1 (by simp [hA, hL, excluded])

/-- Re-syncing `app: web` and the annotation `a: 1` over the labels `team: x` and the
annotation `b: 2`. -/
theorem applyMetadata_resync_app :
    let fA : GoMap := (∅ : GoMap).insert (lit "a") (lit "1")
    let A : GoMap := (∅ : GoMap).insert (lit "b") (lit "2")
    let fL : GoMap := (∅ : GoMap).insert (lit "app") (lit "web")
    let L : GoMap := (∅ : GoMap).insert (lit "team") (lit "x")
    (ValidKeys fA ∧ ValidKeys fL) ∧ (A.lookup [] = none ∧ L.lookup [] = none) ∧
      let r := ApplyMetadata sampleKeys fA A fL L []
      let r' := ApplyMetadata sampleKeys fA r.2 fL r.1 []
      ∀ k, r'.1.lookup k = r.1.lookup k ∧ r'.2.lookup k = r.2.lookup k :=
  ⟨by decide, by decide, applyMetadata_resync_fixpoint sampleKeys [] _ _ _ _ (by decide) (by decide)⟩

/-- Two syncs of labels: a label the first source set and the second dropped is
deleted, and a label no source ever set keeps its value. -/
theorem applyMetadata_two_syncs :
    let r := metadataRun sampleKeys [] (((∅ : GoMap).insert (lit "app") (lit "old")).insert
      (lit "team") (lit "x"), ∅) [(∅, (∅ : GoMap).insert (lit "app") (lit "web")), (∅, ∅)]
    r.1.lookup (lit "app") = none ∧ r.1.lookup (lit "team") = some (lit "x") := by
  have ledger := (applyMetadata_two_ledgers sampleKeys [] (((∅ : GoMap).insert (lit "app")
    (lit "old")).insert (lit "team") (lit "x")) ∅ [(∅, (∅ : GoMap).insert (lit "app") (lit "web"))]
    ∅ ∅ (by decide)).2.2.2.2.1
  exact ⟨(ledger (lit "app") (by decide) (by decide)).trans (by decide),
    (ledger (lit "team") (by decide) (by decide)).trans (by decide)⟩

end VClusterTranslate.Merge.Ledger
