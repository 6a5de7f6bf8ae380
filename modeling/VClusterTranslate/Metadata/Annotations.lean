/- Host and virtual annotations: HostAnnotations, VirtualAnnotations and their laws.
   digest: Re-syncing host annotations follows the ledger law; a virtual round trip returns every key. -/

import VClusterTranslate.Merge.Ledger

set_option autoImplicit false
set_option relaxedAutoImplicit false

/-!
`HostAnnotations` merges the virtual object's annotations into the host object's
with `applyAnnotations`, the back-reference keys excluded, and then writes the
back-reference annotations. A re-sync feeds the host annotations of one sync to the
next, so the ledger law of `VClusterTranslate.Merge.Ledger` governs every key
outside the reserved ones. `VirtualAnnotations` copies the host annotations back,
the reserved keys excluded, and keeps the virtual object's own values of them.
-/

namespace VClusterTranslate.Metadata.Annotations

open VClusterTranslate.Go.Library VClusterTranslate.Types VClusterTranslate.Merge.ApplyMaps
  VClusterTranslate.Merge.Ledger

variable (K : Keys) (gvkForObject : GoString → Option GoString)

/-- The annotations of a host object, `nil` read as the empty map. -/
def annotationsOf : Option Object → GoMap
  | some p => p.annotations
  | none => ∅

/-- `HostAnnotations(vObj, pObj, excluded...)`. `gvkForObject` is
`apiutil.GVKForObject(vObj, scheme.Scheme)` followed by `gvk.String()`, a function of
the object's Go type that fails with `none`. -/
def HostAnnotations (vObj : Object) (pObj : Option Object) (excluded : List GoString) : GoMap :=
  let excluded := excluded ++ [K.nameAnnotationKey, K.uidAnnotationKey, K.kindAnnotationKey,
    K.namespaceAnnotationKey]
  let retMap := applyAnnotations K vObj.annotations (annotationsOf pObj) excluded
  let retMap := retMap.insert K.nameAnnotationKey vObj.name
  let retMap := retMap.insert K.uidAnnotationKey vObj.uid
  let retMap := if vObj.«namespace» = [] then retMap.erase K.namespaceAnnotationKey
    else retMap.insert K.namespaceAnnotationKey vObj.«namespace»
  match gvkForObject vObj.goType with
  | some gvk => retMap.insert K.kindAnnotationKey gvk
  | none => retMap

/-- `VirtualAnnotations(pObj, vObj, excluded...)`. -/
def VirtualAnnotations (pObj : Object) (vObj : Option Object) (excluded : List GoString) : GoMap :=
  let excluded := excluded ++ [K.nameAnnotationKey, K.uidAnnotationKey, K.kindAnnotationKey,
    K.namespaceAnnotationKey, K.managedAnnotationsAnnotationKey, K.managedLabelsAnnotationKey]
  copyMaps pObj.annotations (annotationsOf vObj) fun key => «exists» excluded key

private theorem lookup_HostAnnotations_of_ne (vObj : Object) (pObj : Option Object)
    (excluded : List GoString) {k : GoString} (hname : k ≠ K.nameAnnotationKey)
    (huid : k ≠ K.uidAnnotationKey) (hkind : k ≠ K.kindAnnotationKey)
    (hns : k ≠ K.namespaceAnnotationKey) :
    (HostAnnotations K gvkForObject vObj pObj excluded).lookup k =
      (applyAnnotations K vObj.annotations (annotationsOf pObj)
        (excluded ++ [K.nameAnnotationKey, K.uidAnnotationKey, K.kindAnnotationKey,
          K.namespaceAnnotationKey])).lookup k := by
  unfold HostAnnotations
  cases gvkForObject vObj.goType <;> split_ifs <;>
    simp [lookup_insert_eq_ite, lookup_erase_eq_ite, hname, huid, hkind, hns]

theorem lookup_HostAnnotations_name (vObj : Object) (pObj : Option Object)
    (excluded : List GoString) :
    (HostAnnotations K gvkForObject vObj pObj excluded).lookup K.nameAnnotationKey =
      some vObj.name := by
  unfold HostAnnotations
  cases gvkForObject vObj.goType <;> split_ifs <;>
    simp [lookup_insert_eq_ite, lookup_erase_eq_ite, K.annotationKeys_ne]

private theorem lookup_HostAnnotations_uid (vObj : Object) (pObj : Option Object)
    (excluded : List GoString) :
    (HostAnnotations K gvkForObject vObj pObj excluded).lookup K.uidAnnotationKey =
      some vObj.uid := by
  unfold HostAnnotations
  cases gvkForObject vObj.goType <;> split_ifs <;>
    simp [lookup_insert_eq_ite, lookup_erase_eq_ite, K.annotationKeys_ne]

private theorem lookup_HostAnnotations_namespace (vObj : Object) (pObj : Option Object)
    (excluded : List GoString) :
    (HostAnnotations K gvkForObject vObj pObj excluded).lookup K.namespaceAnnotationKey =
      if vObj.«namespace» = [] then none else some vObj.«namespace» := by
  unfold HostAnnotations
  cases gvkForObject vObj.goType <;> split_ifs <;>
    simp [lookup_insert_eq_ite, lookup_erase_eq_ite, K.annotationKeys_ne, Ne.symm, *]

private theorem lookup_HostAnnotations_kind (vObj : Object) (pObj : Option Object)
    (excluded : List GoString) {gvk : GoString} (resolves : gvkForObject vObj.goType = some gvk) :
    (HostAnnotations K gvkForObject vObj pObj excluded).lookup K.kindAnnotationKey = some gvk := by
  simp [HostAnnotations, resolves, lookup_insert_eq_ite]

theorem lookup_HostAnnotations_kind_eq (vObj : Object) (pObj : Option Object)
    (excluded : List GoString) :
    (HostAnnotations K gvkForObject vObj pObj excluded).lookup K.kindAnnotationKey =
      (gvkForObject vObj.goType).or ((annotationsOf pObj).lookup K.kindAnnotationKey) := by
  unfold HostAnnotations
  cases gvkForObject vObj.goType with
  | some gvk => simp [lookup_insert_eq_ite]
  | none =>
    split_ifs <;> simp [lookup_insert_eq_ite, lookup_erase_eq_ite, lookup_applyAnnotations,
      K.annotationKeys_ne, Ne.symm]

/-! ### Re-syncing host annotations -/

/-- One re-sync: the host annotations of `vObj` against the host object `p` carrying
the annotations `a`. -/
def resyncStep (excluded : List GoString) (p : Object) (a : GoMap) (vObj : Object) : GoMap :=
  HostAnnotations K gvkForObject vObj (some { p with annotations := a }) excluded

/-- The host annotations after re-syncing the versions `vs` of a virtual object in turn. -/
def hostAnnotationsRun (excluded : List GoString) (p : Object) (a0 : GoMap) (vs : List Object) :
    GoMap :=
  vs.foldl (resyncStep K gvkForObject excluded p) a0

/-- The keys `applyAnnotations` excludes inside `HostAnnotations`. -/
def hostExcluded (excluded : List GoString) : List GoString :=
  [K.managedAnnotationsAnnotationKey, K.managedLabelsAnnotationKey] ++
    (excluded ++ [K.nameAnnotationKey, K.uidAnnotationKey, K.kindAnnotationKey,
      K.namespaceAnnotationKey])

theorem hostAnnotationsLedger (excluded : List GoString) (p : Object) :
    LedgerLaw (resyncStep K gvkForObject excluded p) (fun a k => a.lookup k)
      (fun a => a.lookup K.managedAnnotationsAnnotationKey)
      Object.annotations (hostExcluded K excluded) where
  book_step a vObj := by
    obtain ⟨-, -, -, name, -, -, -, uid, -, -, kind, -, ns, -, -⟩ := K.annotationKeys_ne
    rw [resyncStep, lookup_HostAnnotations_of_ne K gvkForObject _ _ _ name.symm uid.symm kind.symm
      ns.symm, lookup_applyAnnotations, if_pos rfl, hostExcluded]
  get_step a vObj k hk := by
    simp only [hostExcluded, List.cons_append, List.nil_append, List.mem_cons, List.mem_append,
      List.mem_singleton, List.not_mem_nil, or_false, not_or] at hk
    rw [resyncStep, lookup_HostAnnotations_of_ne K gvkForObject _ _ _ hk.2.2.2.1 hk.2.2.2.2.1
      hk.2.2.2.2.2.1 hk.2.2.2.2.2.2, lookup_applyAnnotations]
    simp [hk, annotationsOf, listed, index]

private theorem hostAnnotationsRun_append (excluded : List GoString) (p : Object) (a0 : GoMap)
    (vs : List Object) (v : Object) :
    hostAnnotationsRun K gvkForObject excluded p a0 (vs ++ [v]) =
      HostAnnotations K gvkForObject v
        (some { p with annotations := hostAnnotationsRun K gvkForObject excluded p a0 vs }) excluded := by
  simp only [hostAnnotationsRun, List.foldl_append, List.foldl_cons, List.foldl_nil, resyncStep]

/-- The host-annotation re-sync law: after re-syncing any non-empty run of versions of a
virtual object, the back-references name the last version, the bookkeeping lists the last
version's managed keys, the other reserved and excluded keys keep their initial values,
and every other key follows the ledger law. -/
theorem hostAnnotations_resync (excluded : List GoString) (p : Object) (a0 : GoMap)
    (vs : List Object) (v : Object) (valid : ∀ w ∈ vs ++ [v], ValidKeys w.annotations) :
    let a := hostAnnotationsRun K gvkForObject excluded p a0 (vs ++ [v])
    let E := hostExcluded K excluded
    a.lookup K.nameAnnotationKey = some v.name ∧
      a.lookup K.uidAnnotationKey = some v.uid ∧
      a.lookup K.namespaceAnnotationKey =
        (if v.«namespace» = [] then none else some v.«namespace») ∧
      (∀ gvk, gvkForObject v.goType = some gvk → a.lookup K.kindAnnotationKey = some gvk) ∧
      a.lookup K.managedAnnotationsAnnotationKey =
        (if fromKeys v.annotations E = [] then none
          else some (join (sortStrings (fromKeys v.annotations E)) (lit "\n"))) ∧
      (∀ k ∈ K.managedLabelsAnnotationKey :: excluded,
        k ∉ [K.nameAnnotationKey, K.uidAnnotationKey, K.kindAnnotationKey,
          K.namespaceAnnotationKey, K.managedAnnotationsAnnotationKey] →
        a.lookup k = a0.lookup k) ∧
      (∀ k, k ≠ [] → k ∉ E → a.lookup k = (v.annotations.lookup k).or
        (if (∃ w ∈ vs ++ [v], k ∈ w.annotations) ∨
            k ∈ split (index a0 K.managedAnnotationsAnnotationKey) newline
          then none else a0.lookup k)) := by
  have law := hostAnnotationsLedger K gvkForObject excluded p
  have last : ValidKeys v.annotations := valid v (by simp)
  dsimp only
  refine ⟨?_, ?_, ?_, fun gvk resolves => ?_, ?_, ?_, ?_⟩
  · rw [hostAnnotationsRun_append]; exact lookup_HostAnnotations_name K gvkForObject _ _ _
  · rw [hostAnnotationsRun_append]; exact lookup_HostAnnotations_uid K gvkForObject _ _ _
  · rw [hostAnnotationsRun_append]; exact lookup_HostAnnotations_namespace K gvkForObject _ _ _
  · rw [hostAnnotationsRun_append]; exact lookup_HostAnnotations_kind K gvkForObject _ _ _ resolves
  · rw [← managedValue_eq fun k hk => (valid_fromKeys last _ k hk).1]
    exact book_run law a0 vs v
  · intro k hk reserved
    simp only [List.mem_cons, List.mem_singleton, List.not_mem_nil, or_false, not_or] at hk reserved
    refine get_run_frame (resyncStep K gvkForObject excluded p) (fun a k => a.lookup k)
      (fun a vObj => ?_) _ a0
    simp only [resyncStep]
    rw [lookup_HostAnnotations_of_ne K gvkForObject _ _ _ reserved.1 reserved.2.1 reserved.2.2.1
      reserved.2.2.2.1, lookup_applyAnnotations]
    rcases hk with hk | hk <;> simp [reserved.2.2.2.2, hk, annotationsOf, K.annotationKeys_ne, Ne.symm]
  · intro k hk hx
    exact get_run law vs v (fun w hw => valid w (List.mem_append_left _ hw)) hk hx a0

/-- Two syncs: an annotation the first version had and the second dropped is deleted. -/
theorem hostAnnotations_resync_deletes_dropped :
    (hostAnnotationsRun sampleKeys (fun _ => none) [] default ∅
      [{ (default : Object) with annotations := (∅ : GoMap).insert (lit "team") (lit "a") }, default]).lookup
        (lit "team") = none := by
  have resync := hostAnnotations_resync sampleKeys (fun _ => none) [] default ∅
    [{ (default : Object) with annotations := (∅ : GoMap).insert (lit "team") (lit "a") }] default
    (by decide)
  dsimp only at resync
  exact (resync.2.2.2.2.2.2 (lit "team") (by decide) (by decide)).trans (by decide)

/-! ### Back to the virtual object -/

theorem lookup_VirtualAnnotations (pObj : Object) (vObj : Option Object) (excluded : List GoString)
    (k : GoString) :
    (VirtualAnnotations K pObj vObj excluded).lookup k =
      if k ∈ excluded ++ [K.nameAnnotationKey, K.uidAnnotationKey, K.kindAnnotationKey,
          K.namespaceAnnotationKey, K.managedAnnotationsAnnotationKey, K.managedLabelsAnnotationKey]
      then (annotationsOf vObj).lookup k else pObj.annotations.lookup k := by
  simp only [VirtualAnnotations, lookup_copyMaps, exists_eq_decide, decide_eq_true_eq]

theorem lookup_HostAnnotations_of_not_mem (vObj : Object) (pObj : Option Object)
    (excluded : List GoString) {k : GoString}
    (hk : k ∉ excluded ++ [K.nameAnnotationKey, K.uidAnnotationKey, K.kindAnnotationKey,
      K.namespaceAnnotationKey, K.managedAnnotationsAnnotationKey, K.managedLabelsAnnotationKey]) :
    (HostAnnotations K gvkForObject vObj pObj excluded).lookup k =
      (vObj.annotations.lookup k).or
        (if k ∈ split (index (annotationsOf pObj) K.managedAnnotationsAnnotationKey) newline then none
          else (annotationsOf pObj).lookup k) := by
  simp only [List.mem_append, List.mem_cons, List.mem_singleton, List.not_mem_nil, or_false,
    not_or] at hk
  rw [lookup_HostAnnotations_of_ne K gvkForObject _ _ _ hk.2.1 hk.2.2.1 hk.2.2.2.1 hk.2.2.2.2.1,
    lookup_applyAnnotations]
  simp [hk]

/-- The annotation round trip: the virtual annotations read back from a host object
built by `HostAnnotations` agree with the virtual object on every key it carries, equal
its annotations exactly when there was no prior host object, and on every reserved key
(so no back-reference or bookkeeping annotation leaks back). -/
theorem virtualAnnotations_hostAnnotations (excluded : List GoString) (v p : Object)
    (prior : Option Object) :
    (∀ k ∈ v.annotations, (VirtualAnnotations K
        { p with annotations := HostAnnotations K gvkForObject v prior excluded } (some v)
        excluded).lookup k = v.annotations.lookup k) ∧
      (∀ k, (VirtualAnnotations K
        { p with annotations := HostAnnotations K gvkForObject v none excluded } (some v)
        excluded).lookup k = v.annotations.lookup k) ∧
      (∀ k ∈ [K.nameAnnotationKey, K.uidAnnotationKey, K.kindAnnotationKey,
          K.namespaceAnnotationKey, K.managedAnnotationsAnnotationKey, K.managedLabelsAnnotationKey],
        (VirtualAnnotations K
          { p with annotations := HostAnnotations K gvkForObject v prior excluded } (some v)
          excluded).lookup k = v.annotations.lookup k) := by
  refine ⟨fun k hk => ?_, fun k => ?_, fun k hk => ?_⟩
  · rw [lookup_VirtualAnnotations]
    split_ifs with hx
    · rfl
    · obtain ⟨w, hw⟩ := Option.isSome_iff_exists.mp (AList.lookup_isSome.mpr hk)
      simp [lookup_HostAnnotations_of_not_mem K gvkForObject _ _ _ hx, hw]
  · rw [lookup_VirtualAnnotations]
    split_ifs with hx
    · rfl
    · simp [lookup_HostAnnotations_of_not_mem K gvkForObject _ _ _ hx, annotationsOf]
  · rw [lookup_VirtualAnnotations, if_pos (List.mem_append_right _ hk)]
    rfl

end VClusterTranslate.Metadata.Annotations
