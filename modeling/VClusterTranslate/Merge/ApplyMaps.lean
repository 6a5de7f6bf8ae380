/- The metadata merge engine: copyMaps, applyMaps and the annotation and label merges.
   digest: Every key of a merge result is read off the source map, the target map and two lists. -/

import VClusterTranslate.Types

set_option autoImplicit false
set_option relaxedAutoImplicit false

/-!
`applyMaps` copies the source map minus the excluded keys, then walks the target
map: an excluded key is copied, a key the source now manages or the target's
bookkeeping lists as managed is dropped, and any other key is kept. The loops are
folds over the entries of the maps. Each loop is one instance of a conditional
insert fold, whose lookups `lookup_foldl_insertIf` gives once; the spec lemmas of
`copyMaps` and `applyMaps` are read off it. A map's entry order is its `range` order,
and `applyMaps` reads the maps only through their lookups (`applyMaps_merge_law`).
-/

namespace VClusterTranslate.Merge.ApplyMaps

open VClusterTranslate.Go.Library VClusterTranslate.Types

/-- `exists`: whether `k` occurs in `a`. -/
def «exists» (a : List GoString) (k : GoString) : Bool := a.any (· == k)

@[simp] theorem exists_eq_decide (a : List GoString) (k : GoString) :
    «exists» a k = decide (k ∈ a) := by
  rw [Bool.eq_iff_iff]; simp [«exists»]

/-! ### Conditional insert folds -/

/-- Insert the visited entry when `p` accepts its key. -/
def insertIf (p : GoString → Bool) (r : GoMap) (e : Entry) : GoMap :=
  if p e.1 then r.insert e.1 e.2 else r

theorem lookup_foldl_insertIf (p : GoString → Bool) (l : List Entry) (nodup : l.NodupKeys)
    (r : GoMap) (k : GoString) :
    (l.foldl (insertIf p) r).lookup k =
      if p k then (l.dlookup k).or (r.lookup k) else r.lookup k := by
  induction l generalizing r with
  | nil => simp
  | cons e l ih =>
    obtain ⟨a, b⟩ := e
    obtain ⟨fresh, nodup⟩ := List.nodupKeys_cons.mp nodup
    rw [List.foldl_cons, ih nodup]
    by_cases hk : k = a
    · subst hk
      by_cases hp : p k <;>
        simp [insertIf, hp, List.dlookup_eq_none.mpr fresh, lookup_insert_eq_ite]
    · by_cases hp : p a <;> simp [insertIf, hp, hk, lookup_insert_eq_ite]

private theorem foldl_eq_foldl_insertIf {f : GoMap → Entry → GoMap} (p : GoString → Bool)
    (l : List Entry) (agree : ∀ r, ∀ e ∈ l, f r e = insertIf p r e) (r : GoMap) :
    l.foldl f r = l.foldl (insertIf p) r := by
  induction l generalizing r with
  | nil => rfl
  | cons e l ih =>
    rw [List.foldl_cons, List.foldl_cons, agree r e (List.mem_cons_self e l)]
    exact ih (fun r e he => agree r e (List.mem_cons_of_mem _ he)) _

theorem lookup_entries_of_mem (m : GoMap) {e : Entry} (he : e ∈ m.entries) :
    m.lookup e.1 = some e.2 :=
  AList.mem_lookup_iff.mpr he

theorem dlookup_entries (m : GoMap) (k : GoString) : m.entries.dlookup k = m.lookup k := rfl

/-! ### copyMaps -/

/-- The second loop of `copyMaps`: an excluded key of the target is copied with the
value `toMap[key]` reads. -/
def copyMapsTo (toMap : GoMap) (excludeKey : GoString → Bool) (retMap : GoMap) (e : Entry) :
    GoMap :=
  if excludeKey e.1 then
    match toMap.lookup e.1 with
    | some value => retMap.insert e.1 value
    | none => retMap
  else retMap

/-- `copyMaps`: the source minus the excluded keys, plus the target's excluded keys.
Every caller passes an exclusion function. -/
def copyMaps (fromMap toMap : GoMap) (excludeKey : GoString → Bool) : GoMap :=
  let retMap := fromMap.entries.foldl (insertIf fun k => !excludeKey k) ∅
  toMap.entries.foldl (copyMapsTo toMap excludeKey) retMap

theorem lookup_copyMaps (fromMap toMap : GoMap) (excludeKey : GoString → Bool) (k : GoString) :
    (copyMaps fromMap toMap excludeKey).lookup k =
      if excludeKey k then toMap.lookup k else fromMap.lookup k := by
  have agree : ∀ r, ∀ e ∈ toMap.entries,
      copyMapsTo toMap excludeKey r e = insertIf excludeKey r e :=
    fun r e he => by simp [copyMapsTo, insertIf, lookup_entries_of_mem toMap he]
  rw [copyMaps, foldl_eq_foldl_insertIf excludeKey _ agree,
    lookup_foldl_insertIf _ _ toMap.nodupKeys, lookup_foldl_insertIf _ _ fromMap.nodupKeys]
  by_cases hx : excludeKey k <;> simp [hx, dlookup_entries]

/-! ### applyMaps -/

structure ApplyMapsOptions where
  managedKeys : List GoString
  excludeKeys : List GoString

/-- The first loop of `applyMaps`: copy a non-excluded source entry and record its key. -/
def applyMapsFrom (excludeKeys : List GoString) (acc : GoMap × List GoString) (e : Entry) :
    GoMap × List GoString :=
  if «exists» excludeKeys e.1 then acc else (acc.1.insert e.1 e.2, acc.2 ++ [e.1])

/-- The second loop of `applyMaps`. -/
def applyMapsTo (opts : ApplyMapsOptions) (managedKeys : List GoString) (retMap : GoMap)
    (e : Entry) : GoMap :=
  if «exists» opts.excludeKeys e.1 then retMap.insert e.1 e.2
  else if «exists» managedKeys e.1 || «exists» opts.managedKeys e.1 then retMap
  else retMap.insert e.1 e.2

/-- `applyMaps`: the merged map and the newline-joined sorted managed keys. -/
def applyMaps (fromMap toMap : GoMap) (opts : ApplyMapsOptions) : GoMap × GoString :=
  let (retMap, managedKeys) := fromMap.entries.foldl (applyMapsFrom opts.excludeKeys) (∅, [])
  let retMap := toMap.entries.foldl (applyMapsTo opts managedKeys) retMap
  (retMap, join (sortStrings managedKeys) (lit "\n"))

private theorem foldl_applyMapsFrom (excludeKeys : List GoString) (l : List Entry)
    (acc : GoMap × List GoString) :
    l.foldl (applyMapsFrom excludeKeys) acc =
      (l.foldl (insertIf fun k => !«exists» excludeKeys k) acc.1,
        acc.2 ++ (l.keys.filter fun k => !«exists» excludeKeys k)) := by
  induction l generalizing acc with
  | nil => simp
  | cons e l ih =>
    rw [List.foldl_cons, ih, List.foldl_cons]
    by_cases hx : e.1 ∈ excludeKeys <;> simp [applyMapsFrom, insertIf, hx, List.keys]

/-- The managed keys the first loop of `applyMaps` collects. -/
def fromKeys (fromMap : GoMap) (excludeKeys : List GoString) : List GoString :=
  fromMap.keys.filter fun k => !«exists» excludeKeys k

theorem mem_fromKeys {fromMap : GoMap} {excludeKeys : List GoString} {k : GoString} :
    k ∈ fromKeys fromMap excludeKeys ↔ (fromMap.lookup k).isSome ∧ k ∉ excludeKeys := by
  simp [fromKeys, ← AList.mem_keys, AList.lookup_isSome]

private theorem nodup_fromKeys (fromMap : GoMap) (excludeKeys : List GoString) :
    (fromKeys fromMap excludeKeys).Nodup :=
  fromMap.keys_nodup.filter _

private theorem applyMaps_snd (fromMap toMap : GoMap) (opts : ApplyMapsOptions) :
    (applyMaps fromMap toMap opts).2 =
      join (sortStrings (fromKeys fromMap opts.excludeKeys)) (lit "\n") := by
  simp [applyMaps, foldl_applyMapsFrom, fromKeys, AList.keys]

private theorem lookup_applyMaps (fromMap toMap : GoMap) (opts : ApplyMapsOptions) (k : GoString) :
    (applyMaps fromMap toMap opts).1.lookup k =
      if k ∈ opts.excludeKeys then toMap.lookup k
      else (fromMap.lookup k).or (if k ∈ opts.managedKeys then none else toMap.lookup k) := by
  let keep : GoString → Bool := fun k =>
    decide (k ∈ opts.excludeKeys) ||
      !(decide (k ∈ fromKeys fromMap opts.excludeKeys) || decide (k ∈ opts.managedKeys))
  have agree : ∀ r, ∀ e ∈ toMap.entries,
      applyMapsTo opts (fromKeys fromMap opts.excludeKeys) r e = insertIf keep r e := by
    intro r e _
    by_cases hx : e.1 ∈ opts.excludeKeys <;>
      by_cases hf : e.1 ∈ fromKeys fromMap opts.excludeKeys <;>
      by_cases hm : e.1 ∈ opts.managedKeys <;> simp [applyMapsTo, insertIf, keep, hx, hf, hm]
  have managed : (fromMap.entries.keys.filter fun k => !«exists» opts.excludeKeys k) =
      fromKeys fromMap opts.excludeKeys := rfl
  simp only [applyMaps, foldl_applyMapsFrom, List.nil_append, managed]
  rw [foldl_eq_foldl_insertIf keep _ agree, lookup_foldl_insertIf _ _ toMap.nodupKeys,
    lookup_foldl_insertIf _ _ fromMap.nodupKeys]
  by_cases hx : k ∈ opts.excludeKeys <;> by_cases hm : k ∈ opts.managedKeys <;>
    cases hf : fromMap.lookup k <;> simp [keep, hx, hm, hf, mem_fromKeys, dlookup_entries]

/-- `applyMaps` is the ownership-aware merge: each key of the result is read off the
two maps and the two lists, the bookkeeping value joins the sorted source keys that are
not excluded, each once, and neither depends on the order in which `range` visits the
maps. -/
theorem applyMaps_merge_law (fromMap toMap : GoMap) (opts : ApplyMapsOptions) :
    (∀ k, (applyMaps fromMap toMap opts).1.lookup k =
      if k ∈ opts.excludeKeys then toMap.lookup k
      else if k ∈ fromMap then fromMap.lookup k
      else if k ∉ opts.managedKeys then toMap.lookup k
      else none) ∧
    (∃ keys : List GoString, keys.Sorted (· ≤ ·) ∧ keys.Nodup ∧
      (∀ k, k ∈ keys ↔ k ∈ fromMap ∧ k ∉ opts.excludeKeys) ∧
      (applyMaps fromMap toMap opts).2 = join keys (lit "\n")) ∧
    ∀ fromMap' toMap' : GoMap, (∀ k, fromMap'.lookup k = fromMap.lookup k) →
      (∀ k, toMap'.lookup k = toMap.lookup k) →
      (∀ k, (applyMaps fromMap' toMap' opts).1.lookup k =
        (applyMaps fromMap toMap opts).1.lookup k) ∧
        (applyMaps fromMap' toMap' opts).2 = (applyMaps fromMap toMap opts).2 := by
  refine ⟨fun k => ?_, ⟨_, sorted_sortStrings _,
    (List.perm_insertionSort _ _).nodup_iff.mpr (nodup_fromKeys fromMap _), fun k => ?_,
    applyMaps_snd fromMap toMap opts⟩, fun fromMap' toMap' sameFrom sameTo => ⟨fun k => ?_, ?_⟩⟩
  · rw [lookup_applyMaps]
    cases hf : fromMap.lookup k with
    | none => simp [AList.lookup_eq_none.mp hf]
    | some v => simp [← AList.lookup_isSome, hf]
  · rw [mem_sortStrings, mem_fromKeys, AList.lookup_isSome]
  · simp only [lookup_applyMaps, sameFrom, sameTo]
  · rw [applyMaps_snd, applyMaps_snd, sortStrings_eq_of_perm
      ((List.perm_ext_iff_of_nodup (nodup_fromKeys fromMap' opts.excludeKeys)
        (nodup_fromKeys fromMap opts.excludeKeys)).mpr
        fun k => by simp only [mem_fromKeys, sameFrom])]

/-! ### The bookkeeping annotations -/

/-- The bookkeeping value written for a list of managed keys: their sorted
newline-join, or no annotation when the join is empty. -/
def managedValue (managedKeys : List GoString) : Option GoString :=
  let joined := join (sortStrings managedKeys) (lit "\n")
  if joined = [] then none else some joined

/-- The write of a bookkeeping annotation: deleted when the joined keys are empty. -/
def setManaged (m : GoMap) (key joined : GoString) : GoMap :=
  if joined = [] then m.erase key else m.insert key joined

private theorem lookup_setManaged (m : GoMap) (key joined k : GoString) :
    (setManaged m key joined).lookup k =
      if k = key then (if joined = [] then none else some joined) else m.lookup k := by
  unfold setManaged
  split_ifs <;> simp_all [lookup_insert_eq_ite, lookup_erase_eq_ite]

/-- `applyAnnotations`: the managed-key merge of annotations, with its bookkeeping
annotation `ManagedAnnotationsAnnotation` rewritten. -/
def applyAnnotations (K : Keys) (fromAnnotations toAnnotations : GoMap)
    (excludeAnnotations : List GoString) : GoMap :=
  let excludedKeys := [K.managedAnnotationsAnnotationKey, K.managedLabelsAnnotationKey] ++
    excludeAnnotations
  let (mergedAnnotations, managedKeys) := applyMaps fromAnnotations toAnnotations
    { managedKeys := split (index toAnnotations K.managedAnnotationsAnnotationKey) newline
      excludeKeys := excludedKeys }
  setManaged mergedAnnotations K.managedAnnotationsAnnotationKey managedKeys

/-- `applyLabels`: the managed-key merge of labels, whose bookkeeping lives in the
annotation `ManagedLabelsAnnotation`; returns the labels and the annotations. -/
def applyLabels (K : Keys) (fromLabels toLabels toAnnotations : GoMap) : GoMap × GoMap :=
  let (mergedLabels, managedKeys) := applyMaps fromLabels toLabels
    { managedKeys := split (index toAnnotations K.managedLabelsAnnotationKey) newline
      excludeKeys := [K.managedAnnotationsAnnotationKey, K.managedLabelsAnnotationKey] }
  let mergedAnnotations := toAnnotations.entries.foldl (insertIf fun _ => true) ∅
  (mergedLabels, setManaged mergedAnnotations K.managedLabelsAnnotationKey managedKeys)

/-- `ApplyMetadata`: merge the annotations, then the labels against the merged
annotations; returns the labels and the annotations. -/
def ApplyMetadata (K : Keys) (fromAnnotations toAnnotations fromLabels toLabels : GoMap)
    (excludeAnnotations : List GoString) : GoMap × GoMap :=
  let mergedAnnotations := applyAnnotations K fromAnnotations toAnnotations excludeAnnotations
  applyLabels K fromLabels toLabels mergedAnnotations

theorem lookup_applyAnnotations (K : Keys) (fromAnnotations toAnnotations : GoMap)
    (excludeAnnotations : List GoString) (k : GoString) :
    (applyAnnotations K fromAnnotations toAnnotations excludeAnnotations).lookup k =
      if k = K.managedAnnotationsAnnotationKey then
        managedValue (fromKeys fromAnnotations
          ([K.managedAnnotationsAnnotationKey, K.managedLabelsAnnotationKey] ++ excludeAnnotations))
      else if k = K.managedLabelsAnnotationKey ∨ k ∈ excludeAnnotations then
        toAnnotations.lookup k
      else (fromAnnotations.lookup k).or
        (if k ∈ split (index toAnnotations K.managedAnnotationsAnnotationKey) newline then none
          else toAnnotations.lookup k) := by
  have := lookup_applyMaps fromAnnotations toAnnotations
    { managedKeys := split (index toAnnotations K.managedAnnotationsAnnotationKey) newline
      excludeKeys := [K.managedAnnotationsAnnotationKey, K.managedLabelsAnnotationKey] ++
        excludeAnnotations } k
  have snd := applyMaps_snd fromAnnotations toAnnotations
    { managedKeys := split (index toAnnotations K.managedAnnotationsAnnotationKey) newline
      excludeKeys := [K.managedAnnotationsAnnotationKey, K.managedLabelsAnnotationKey] ++
        excludeAnnotations }
  simp only [applyAnnotations, lookup_setManaged, managedValue, ← snd]
  split_ifs <;> simp_all

theorem lookup_applyLabels_fst (K : Keys) (fromLabels toLabels toAnnotations : GoMap)
    (k : GoString) :
    (applyLabels K fromLabels toLabels toAnnotations).1.lookup k =
      if k = K.managedAnnotationsAnnotationKey ∨ k = K.managedLabelsAnnotationKey then
        toLabels.lookup k
      else (fromLabels.lookup k).or
        (if k ∈ split (index toAnnotations K.managedLabelsAnnotationKey) newline then none
          else toLabels.lookup k) := by
  simp only [applyLabels, lookup_applyMaps, List.mem_cons, List.mem_singleton, List.not_mem_nil,
    or_false]

theorem lookup_applyLabels_snd (K : Keys) (fromLabels toLabels toAnnotations : GoMap)
    (k : GoString) :
    (applyLabels K fromLabels toLabels toAnnotations).2.lookup k =
      if k = K.managedLabelsAnnotationKey then
        managedValue
          (fromKeys fromLabels [K.managedAnnotationsAnnotationKey, K.managedLabelsAnnotationKey])
      else toAnnotations.lookup k := by
  simp only [applyLabels, lookup_setManaged, managedValue, applyMaps_snd,
    lookup_foldl_insertIf _ _ toAnnotations.nodupKeys, dlookup_entries]
  split_ifs <;> simp

end VClusterTranslate.Merge.ApplyMaps
