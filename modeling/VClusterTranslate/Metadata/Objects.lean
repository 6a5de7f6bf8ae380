/- Host objects: CopyObjectWithName, HostMetadata and the multi-namespace IsManaged check.
   digest: Every host object HostMetadata builds passes IsManaged, unless a namespace is pinned to "". -/

import VClusterTranslate.Metadata.Annotations
import VClusterTranslate.Labels.Maps

set_option autoImplicit false
set_option relaxedAutoImplicit false

/-!
`HostMetadata` copies the virtual object under its host name and namespace, resets the
server-side metadata, and writes host annotations and host labels. `IsManaged` of the
multi-namespace translator recognises a cluster-scoped host object by its marker label
and a namespaced one by its namespace, its name annotation and its kind annotation.
It tells the two kinds apart by the empty namespace, so a virtual namespace pinned to
the empty host namespace yields a host object that is checked as cluster-scoped and
carries no marker label. For every other configuration whose pins `IsTargetedNamespace`
accepts, the host object passes, also after any number of annotation re-syncs
(`isManaged_hostMetadata`).
-/

namespace VClusterTranslate.Metadata.Objects

open VClusterTranslate.Go.Library VClusterTranslate.Types VClusterTranslate.Naming.Names
  VClusterTranslate.Labels.Maps VClusterTranslate.Metadata.Annotations

/-- `types.NamespacedName`. -/
structure NamespacedName where
  «namespace» : GoString
  name : GoString

/-- The package variable `Owner`, when it is set: the name, UID and type of the object
that owns synced objects. -/
structure OwnerObject where
  name : GoString
  uid : GoString
  apiVersion : GoString
  kind : GoString

/-- `ResetObjectMetadata` on the fields of `Object`. -/
def ResetObjectMetadata (obj : Object) : Object :=
  { obj with
    generateName := [], uid := [], resourceVersion := [], generation := 0, ownerReferences := [],
    finalizers := [] }

/-- `metav1.GetControllerOf(object) != nil`. -/
def hasController (obj : Object) : Bool :=
  obj.ownerReferences.any fun ref => ref.controller == some true

def GetOwnerReference (owner : Option OwnerObject) (object : Option Object) :
    List OwnerReference :=
  match owner with
  | none => []
  | some owner =>
    if owner.name = [] ∨ owner.uid = [] then []
    else if owner.apiVersion = [] ∨ owner.kind = [] then []
    else [⟨owner.apiVersion, owner.kind, owner.name, owner.uid,
      some ((object.map hasController).getD false)⟩]

/-- `CopyObjectWithName`: a cluster-scoped copy keeps the object's empty namespace. -/
def CopyObjectWithName (owner : Option OwnerObject) (obj : Object) (name : NamespacedName)
    (setOwner : Bool) : Object :=
  let target := { ResetObjectMetadata obj with name := name.name }
  if obj.«namespace» ≠ [] then
    let target := { target with «namespace» := name.«namespace» }
    if setOwner ∧ owner.isSome then
      { target with ownerReferences := GetOwnerReference owner (some obj) }
    else target
  else target

theorem namespace_CopyObjectWithName (owner : Option OwnerObject) (obj : Object)
    (name : NamespacedName) (setOwner : Bool) :
    (CopyObjectWithName owner obj name setOwner).«namespace» =
      if obj.«namespace» = [] then [] else name.«namespace» := by
  unfold CopyObjectWithName ResetObjectMetadata
  by_cases empty : obj.«namespace» = []
  · simp [empty]
  · simp only [empty, ne_eq, not_false_eq_true, if_true, if_false]
    split <;> rfl

theorem name_CopyObjectWithName (owner : Option OwnerObject) (obj : Object)
    (name : NamespacedName) (setOwner : Bool) :
    (CopyObjectWithName owner obj name setOwner).name = name.name := by
  unfold CopyObjectWithName
  split_ifs <;> rfl

theorem goType_CopyObjectWithName (owner : Option OwnerObject) (obj : Object)
    (name : NamespacedName) (setOwner : Bool) :
    (CopyObjectWithName owner obj name setOwner).goType = obj.goType := by
  unfold CopyObjectWithName
  split_ifs <;> rfl

section Translator

variable (sum256 : GoString → Digest) (K : Keys) (gvkForObject : GoString → Option GoString)
  (ctx : SyncContext) (s : MultiNamespace)

/-- `HostLabels` with the multi-namespace translator as `Default`, with the store it leaves. -/
def HostLabels (store : MappingStore) (vObj : Object) (pObj : Option Object) :
    GoMap × MappingStore :=
  let pLabels := (pObj.map (·.labels)).getD ∅
  if vObj.«namespace» = [] then HostLabelsMapCluster sum256 K ctx s store vObj.labels pLabels
  else ((HostLabelsMap K ctx s (some vObj.labels) pLabels vObj.«namespace»).getD ∅, store)

/-- `HostMetadata`, with the store it leaves. -/
def HostMetadata (owner : Option OwnerObject) (store : MappingStore) (vObj : Object)
    (name : NamespacedName) (excludedAnnotations : List GoString) : Object × MappingStore :=
  let pObj := CopyObjectWithName owner vObj name true
  let pObj := { pObj with annotations := HostAnnotations K gvkForObject vObj none excludedAnnotations }
  let labels := HostLabels sum256 K ctx s store vObj none
  ({ pObj with labels := labels.1 }, labels.2)

/-- The host labels of a namespaced object are its labels, and the store is untouched. -/
theorem HostLabels_namespaced (store : MappingStore) {vObj : Object} (pObj : Option Object)
    (namespaced : vObj.«namespace» ≠ []) :
    HostLabels sum256 K ctx s store vObj pObj = (vObj.labels, store) := by
  simp [HostLabels, namespaced, HostLabelsMap_eq]

theorem namespace_HostMetadata (owner : Option OwnerObject) (store : MappingStore)
    (vObj : Object) (name : NamespacedName) (excluded : List GoString) :
    (HostMetadata sum256 K gvkForObject ctx s owner store vObj name excluded).1.«namespace» =
      if vObj.«namespace» = [] then [] else name.«namespace» :=
  namespace_CopyObjectWithName owner vObj name true

theorem goType_HostMetadata (owner : Option OwnerObject) (store : MappingStore)
    (vObj : Object) (name : NamespacedName) (excluded : List GoString) :
    (HostMetadata sum256 K gvkForObject ctx s owner store vObj name excluded).1.goType =
      vObj.goType :=
  goType_CopyObjectWithName owner vObj name true

theorem annotations_HostMetadata (owner : Option OwnerObject) (store : MappingStore)
    (vObj : Object) (name : NamespacedName) (excluded : List GoString) :
    (HostMetadata sum256 K gvkForObject ctx s owner store vObj name excluded).1.annotations =
      HostAnnotations K gvkForObject vObj none excluded := rfl

theorem labels_HostMetadata (owner : Option OwnerObject) (store : MappingStore)
    (vObj : Object) (name : NamespacedName) (excluded : List GoString) :
    (HostMetadata sum256 K gvkForObject ctx s owner store vObj name excluded).1.labels =
      (HostLabels sum256 K ctx s store vObj none).1 := rfl

/-- `IsManaged` of the multi-namespace translator. -/
def IsManaged (pObj : Object) : Bool :=
  if pObj.«namespace» = [] then index pObj.labels K.markerLabel == s.MarkerLabelCluster sum256
  else if !s.IsTargetedNamespace sum256 ctx pObj.«namespace» ||
      index pObj.annotations K.nameAnnotationKey == [] then false
  else if index pObj.annotations K.kindAnnotationKey ≠ [] then
    match gvkForObject pObj.goType with
    | some gvk => gvk == index pObj.annotations K.kindAnnotationKey
    | none => true
  else true

/-- A re-sync that replaces the host object's annotations with the host annotations of
a later version of the virtual object, under its own exclusion list. -/
def annotationResync (pObj : Object) (sync : Object × List GoString) : Object :=
  { pObj with annotations := HostAnnotations K gvkForObject sync.1 (some pObj) sync.2 }

/-- The annotations `IsManaged` reads of a namespaced object of type `goType`: a
non-empty name annotation and a kind annotation that is the resolved GVK. -/
def BackReferences (goType : GoString) (annotations : GoMap) : Prop :=
  index annotations K.nameAnnotationKey ≠ [] ∧
    ∀ gvk, annotations.lookup K.kindAnnotationKey = some gvk → gvkForObject goType = some gvk

private theorem backReferences_HostAnnotations {vObj : Object} (pObj : Option Object)
    (excluded : List GoString) (named : vObj.name ≠ [])
    (prior : ∀ gvk, (annotationsOf pObj).lookup K.kindAnnotationKey = some gvk →
      gvkForObject vObj.goType = some gvk) :
    BackReferences K gvkForObject vObj.goType (HostAnnotations K gvkForObject vObj pObj excluded) := by
  refine ⟨by simpa [index, lookup_HostAnnotations_name] using named, fun gvk found => ?_⟩
  rw [lookup_HostAnnotations_kind_eq] at found
  cases resolved : gvkForObject vObj.goType with
  | some g => rw [resolved] at found; exact found
  | none => rw [resolved] at found; exact resolved ▸ prior gvk found

private theorem annotationResync_run (goType : GoString) (syncs : List (Object × List GoString))
    (versions : ∀ w ∈ syncs, w.1.name ≠ [] ∧ w.1.goType = goType) (p : Object)
    (typed : p.goType = goType) (refs : BackReferences K gvkForObject goType p.annotations) :
    let q := syncs.foldl (annotationResync K gvkForObject) p
    q.«namespace» = p.«namespace» ∧ q.labels = p.labels ∧ q.goType = goType ∧
      BackReferences K gvkForObject goType q.annotations := by
  induction syncs generalizing p with
  | nil => exact ⟨rfl, rfl, typed, refs⟩
  | cons w syncs ih =>
    obtain ⟨named, sameType⟩ := versions w (.head _)
    have step := backReferences_HostAnnotations K gvkForObject (some p) w.2 named
      (fun gvk found => sameType ▸ refs.2 gvk found)
    exact ih (fun w' mem => versions w' (.tail _ mem)) _ typed (sameType ▸ step)

private theorem isManaged_of_marker {q : Object} (clusterScoped : q.«namespace» = [])
    (marker : q.labels.lookup K.markerLabel = some (s.MarkerLabelCluster sum256)) :
    IsManaged sum256 K gvkForObject ctx s q = true := by
  simp [IsManaged, clusterScoped, index, marker]

private theorem isManaged_of_backReferences {q : Object} (nonempty : q.«namespace» ≠ [])
    (targeted : s.IsTargetedNamespace sum256 ctx q.«namespace» = true)
    (refs : BackReferences K gvkForObject q.goType q.annotations) :
    IsManaged sum256 K gvkForObject ctx s q = true := by
  obtain ⟨nameSet, kindSet⟩ := refs
  unfold IsManaged
  simp only [nonempty, if_false, targeted, Bool.not_true, Bool.false_or, beq_iff_eq, nameSet]
  split_ifs with kindGiven
  · cases found : q.annotations.lookup K.kindAnnotationKey with
    | none => simp [index, found] at kindGiven
    | some gvk => simp [kindSet gvk found, index, found]
  · rfl

private theorem hostNamespace_targeted {vNamespace : GoString}
    (pins : ∀ pNamespace, ctx.virtualNamespaceMatchesMapping vNamespace = some pNamespace →
      pNamespace ≠ [] ∧ (ctx.hostNamespaceMatchesMapping pNamespace).isSome) :
    s.HostNamespace sum256 ctx vNamespace ≠ [] ∧
      s.IsTargetedNamespace sum256 ctx (s.HostNamespace sum256 ctx vNamespace) = true := by
  unfold MultiNamespace.HostNamespace
  cases pinned : ctx.virtualNamespaceMatchesMapping vNamespace with
  | some pNamespace =>
    obtain ⟨nonempty, accepted⟩ := pins pNamespace pinned
    refine ⟨nonempty, ?_⟩
    unfold MultiNamespace.IsTargetedNamespace
    obtain ⟨_, found⟩ := Option.isSome_iff_exists.mp accepted
    simp [found]
  | none =>
    have prefixed : getNamespacePrefix ≠ [] := by decide
    exact ⟨by simp [hostNamespace, prefixed],
      isTargetedNamespace_hostNamespace sum256 s ctx vNamespace rfl⟩

/-- Every host object `HostMetadata` builds for a virtual object with a non-empty name,
under its host name and host namespace, passes `IsManaged`, also after any number of
annotation re-syncs from versions with a non-empty name and the same type, provided
every pin of the object's namespace is a non-empty host namespace that the host
mapping accepts. -/
theorem isManaged_hostMetadata (owner : Option OwnerObject) (store : MappingStore) (v : Object)
    (named : v.name ≠ []) (excluded : List GoString)
    (pins : ∀ pNamespace, ctx.virtualNamespaceMatchesMapping v.«namespace» = some pNamespace →
      pNamespace ≠ [] ∧ (ctx.hostNamespaceMatchesMapping pNamespace).isSome)
    (syncs : List (Object × List GoString))
    (versions : ∀ w ∈ syncs, w.1.name ≠ [] ∧ w.1.goType = v.goType) :
    IsManaged sum256 K gvkForObject ctx s (syncs.foldl (annotationResync K gvkForObject)
      (HostMetadata sum256 K gvkForObject ctx s owner store v
        ⟨s.HostNamespace sum256 ctx v.«namespace», MultiNamespace.HostName v.name v.«namespace»⟩
        excluded).1) = true := by
  obtain ⟨sameNamespace, sameLabels, typed, refs⟩ :=
    annotationResync_run K gvkForObject v.goType syncs versions
      (HostMetadata sum256 K gvkForObject ctx s owner store v
        ⟨s.HostNamespace sum256 ctx v.«namespace»,
          MultiNamespace.HostName v.name v.«namespace»⟩ excluded).1
    (goType_HostMetadata ..) (by
      rw [annotations_HostMetadata]
      exact backReferences_HostAnnotations K gvkForObject none excluded named
        (by simp [annotationsOf]))
  rw [namespace_HostMetadata] at sameNamespace
  rw [labels_HostMetadata] at sameLabels
  by_cases clusterScoped : v.«namespace» = []
  · refine isManaged_of_marker sum256 K gvkForObject ctx s
      (by rw [sameNamespace, if_pos clusterScoped]) ?_
    rw [sameLabels]
    simp [HostLabels, clusterScoped, lookup_HostLabelsMapCluster_marker]
  · obtain ⟨nonempty, targeted⟩ := hostNamespace_targeted sum256 ctx s pins
    rw [if_neg clusterScoped] at sameNamespace
    exact isManaged_of_backReferences sum256 K gvkForObject ctx s (sameNamespace ▸ nonempty)
      (sameNamespace ▸ targeted) (typed ▸ refs)

end Translator

/-! ### A pod in the namespace `team` -/

/-- `GVKForObject` on the Go type `Pod`. -/
def podGVK (goType : GoString) : Option GoString :=
  if goType = lit "Pod" then some (lit "/v1, Kind=Pod") else none

/-- The pod `web` in the virtual namespace `team`. -/
def teamPod : Object :=
  { (default : Object) with goType := lit "Pod", name := lit "web", «namespace» := lit "team" }

/-- The host object of `teamPod` with no namespace pins, re-synced once from a version
that adds an annotation. -/
theorem isManaged_teamPod :
    IsManaged paddedDigest sampleKeys podGVK plainContext sampleInstance
      ([({ teamPod with annotations := (∅ : GoMap).insert (lit "team") (lit "web") }, [])].foldl
        (annotationResync sampleKeys podGVK)
        (HostMetadata paddedDigest sampleKeys podGVK plainContext sampleInstance none ∅ teamPod
          ⟨sampleInstance.HostNamespace paddedDigest plainContext teamPod.«namespace»,
            MultiNamespace.HostName teamPod.name teamPod.«namespace»⟩ []).1) = true :=
  isManaged_hostMetadata paddedDigest sampleKeys podGVK plainContext sampleInstance none ∅ teamPod
    (by decide) [] (fun _ pinned => by simp [plainContext] at pinned) _ (by decide)

/-- A context that pins the virtual namespace `team` to the empty host namespace, which
the host mapping accepts. -/
def emptyPinContext : SyncContext :=
  ⟨fun _ => false, fun vNamespace => if vNamespace = lit "team" then some [] else none,
    fun pNamespace => if pNamespace = [] then some (lit "team") else none⟩

/-- With `team` pinned to the empty host namespace, which the host mapping accepts, the
host object of `teamPod` lands in no namespace, is checked as cluster-scoped, and fails
`IsManaged`. -/
theorem isManaged_emptyPin :
    (∀ pNamespace, emptyPinContext.virtualNamespaceMatchesMapping teamPod.«namespace» =
      some pNamespace → (emptyPinContext.hostNamespaceMatchesMapping pNamespace).isSome) ∧
    IsManaged paddedDigest sampleKeys podGVK emptyPinContext sampleInstance
      (HostMetadata paddedDigest sampleKeys podGVK emptyPinContext sampleInstance none ∅ teamPod
        ⟨sampleInstance.HostNamespace paddedDigest emptyPinContext teamPod.«namespace»,
          MultiNamespace.HostName teamPod.name teamPod.«namespace»⟩ []).1 = false := by
  refine ⟨fun pNamespace pinned => ?_, by decide⟩
  obtain rfl : pNamespace = [] := by simpa [emptyPinContext, teamPod] using pinned.symm
  rfl

end VClusterTranslate.Metadata.Objects
