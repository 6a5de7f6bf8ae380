/- Virtual objects read back from host objects: VirtualLabels and VirtualMetadata.
   digest: An object synced to the host and read back keeps its name, labels and annotations. -/

import VClusterTranslate.Metadata.Objects

set_option autoImplicit false
set_option relaxedAutoImplicit false

/-!
`VirtualMetadata` builds the virtual object of a host object: a copy under the virtual
name, the host annotations without the reserved ones, and the host labels translated
back. The labels of a cluster-scoped object go through the translate-back loop of
`VirtualLabelsMapCluster`, so both functions are relations over the runs of that loop;
some run always exists (`VirtualMetadata_exists`). For a namespaced object whose host
namespace is not empty, the virtual object read back from the host object `HostMetadata`
builds has the original name, namespace, type and labels, and every annotation that is
neither reserved nor excluded (`virtualMetadata_hostMetadata`). A cluster-scoped object
reads back the same way when its labels meet the conditions of
`virtualLabelsMapCluster_of_unreserved` and none of them is a key the read-back takes
from the virtual object, which `VirtualMetadata` does not have
(`virtualMetadata_hostMetadataCluster`).
-/

namespace VClusterTranslate.Metadata.Sync

open VClusterTranslate.Go.Library VClusterTranslate.Types VClusterTranslate.Naming.Names
  VClusterTranslate.Merge.ApplyMaps VClusterTranslate.Labels.KeyTranslation
  VClusterTranslate.Labels.Maps VClusterTranslate.Metadata.Annotations
  VClusterTranslate.Metadata.Objects

variable (K : Keys) (ctx : SyncContext)

/-- `VirtualLabels` with the multi-namespace translator as `Default`: its results, with
the store they leave. -/
def VirtualLabels (store : MappingStore) (pObj : Object) (vObj : Option Object)
    (vNamespace : GoString) (result : Option GoMap × MappingStore) : Prop :=
  let vLabels := (vObj.map (·.labels)).getD ∅
  if pObj.«namespace» = [] then
    VirtualLabelsMapCluster K ctx store (some pObj.labels) vLabels [] result
  else ∃ labels, VirtualLabelsMap K ctx (some pObj.labels) vLabels vNamespace [] labels ∧
    result = (labels, store)

/-- `VirtualMetadata`, with the store it leaves. `CopyObjectWithName` reads no owner when
it sets none. -/
def VirtualMetadata (store : MappingStore) (pObj : Object) (name : NamespacedName)
    (excludedAnnotations : List GoString) (result : Object × MappingStore) : Prop :=
  let vObj := CopyObjectWithName none pObj name false
  let vObj := { vObj with annotations := VirtualAnnotations K pObj none excludedAnnotations }
  ∃ labels, VirtualLabels K ctx store pObj none vObj.«namespace» labels ∧
    result = ({ vObj with labels := labels.1.getD ∅ }, labels.2)

private theorem VirtualLabels_namespaced (store : MappingStore) {pObj : Object} (vObj : Option Object)
    (vNamespace : GoString) (namespaced : pObj.«namespace» ≠ [])
    (result : Option GoMap × MappingStore) :
    VirtualLabels K ctx store pObj vObj vNamespace result ↔
      result = (some pObj.labels, store) := by
  simp [VirtualLabels, namespaced, VirtualLabelsMap_iff]

/-- Every call returns: some run of the translate-back loops exists. -/
theorem VirtualMetadata_exists (store : MappingStore) (pObj : Object) (name : NamespacedName)
    (excluded : List GoString) :
    ∃ result, VirtualMetadata K ctx store pObj name excluded result := by
  obtain ⟨labels, run⟩ : ∃ labels, VirtualLabels K ctx store pObj none
      (CopyObjectWithName none pObj name false).«namespace» labels := by
    by_cases clusterScoped : pObj.«namespace» = []
    · simpa [VirtualLabels, clusterScoped] using VirtualLabelsMapCluster_exists K ctx _ _ _ _
    · exact ⟨_, (VirtualLabels_namespaced K ctx _ _ _ clusterScoped _).mpr rfl⟩
  exact ⟨_, labels, run, rfl⟩

private theorem lookup_VirtualAnnotations_of_host (gvkForObject : GoString → Option GoString)
    {v p : Object} {excluded : List GoString}
    (host : p.annotations = HostAnnotations K gvkForObject v none excluded) (k : GoString) :
    (VirtualAnnotations K p none excluded).lookup k =
      if k ∈ excluded ++ [K.nameAnnotationKey, K.uidAnnotationKey, K.kindAnnotationKey,
          K.namespaceAnnotationKey, K.managedAnnotationsAnnotationKey, K.managedLabelsAnnotationKey]
      then none else v.annotations.lookup k := by
  rw [lookup_VirtualAnnotations]
  split_ifs with reserved
  · rfl
  · rw [host, lookup_HostAnnotations_of_not_mem K gvkForObject v none excluded reserved]
    simp [annotationsOf]

/-- The annotations `VirtualMetadata` reads back, with no virtual object, from a host
object whose annotations `HostAnnotations` wrote: every annotation of the virtual object
outside the reserved and excluded keys, whatever host object the write replaced; and
when it replaced none, exactly those, with nothing at the reserved and excluded keys. -/
theorem virtualAnnotations_readBack (gvkForObject : GoString → Option GoString)
    (excluded : List GoString) (v p : Object) (prior : Option Object) :
    (∀ k ∈ v.annotations, k ∉ excluded ++ [K.nameAnnotationKey, K.uidAnnotationKey,
        K.kindAnnotationKey, K.namespaceAnnotationKey, K.managedAnnotationsAnnotationKey,
        K.managedLabelsAnnotationKey] →
      (VirtualAnnotations K { p with annotations := HostAnnotations K gvkForObject v prior excluded }
        none excluded).lookup k = v.annotations.lookup k) ∧
    ∀ k, (VirtualAnnotations K { p with annotations := HostAnnotations K gvkForObject v none excluded }
        none excluded).lookup k =
      if k ∈ excluded ++ [K.nameAnnotationKey, K.uidAnnotationKey, K.kindAnnotationKey,
          K.namespaceAnnotationKey, K.managedAnnotationsAnnotationKey, K.managedLabelsAnnotationKey]
      then none else v.annotations.lookup k := by
  refine ⟨fun k mem kept => ?_, lookup_VirtualAnnotations_of_host K gvkForObject rfl⟩
  obtain ⟨w, found⟩ := Option.isSome_iff_exists.mp (AList.lookup_isSome.mpr mem)
  rw [lookup_VirtualAnnotations, if_neg kept,
    lookup_HostAnnotations_of_not_mem K gvkForObject _ _ _ kept, found]
  rfl

/-- The pod `web` of the namespace `team` with the annotation `team: web`. -/
def annotatedPod : Object :=
  { teamPod with annotations := (∅ : GoMap).insert (lit "team") (lit "web") }

/-- The annotation `team: web` reads back from the host object of `annotatedPod`, written
over the host object of the pod without it. -/
theorem teamAnnotation_readBack :
    (VirtualAnnotations sampleKeys
      { teamPod with annotations := HostAnnotations sampleKeys podGVK annotatedPod (some teamPod) [] }
      none []).lookup (lit "team") = some (lit "web") :=
  (virtualAnnotations_readBack sampleKeys podGVK [] annotatedPod teamPod (some teamPod)).1
    (lit "team") (by decide) (by decide)

private theorem VirtualMetadata_inv {store : MappingStore} {pObj : Object} {name : NamespacedName}
    {excluded : List GoString} {result : Object × MappingStore}
    (run : VirtualMetadata K ctx store pObj name excluded result) :
    result.1.name = name.name ∧
      result.1.«namespace» = (if pObj.«namespace» = [] then [] else name.«namespace») ∧
      result.1.goType = pObj.goType ∧
      result.1.annotations = VirtualAnnotations K pObj none excluded ∧
      ∃ labels, VirtualLabels K ctx store pObj none result.1.«namespace» labels ∧
        result.1.labels = labels.1.getD ∅ ∧ result.2 = labels.2 := by
  obtain ⟨labels, run, rfl⟩ := run
  exact ⟨name_CopyObjectWithName .., namespace_CopyObjectWithName ..,
    goType_CopyObjectWithName .., rfl, labels, run, rfl, rfl⟩

variable (sum256 : GoString → Digest) (gvkForObject : GoString → Option GoString)
  (s : MultiNamespace)

/-- Sync down and read back: `VirtualMetadata` reads a virtual object back under the
original name from the host object of a namespaced object, built by `HostMetadata` in a
non-empty host namespace, and every object it reads back has the original name, namespace,
type and labels, and every annotation that is neither reserved nor excluded; the store is
left as it was. -/
theorem virtualMetadata_hostMetadata (owner : Option OwnerObject) (store : MappingStore)
    (v : Object) (pName : NamespacedName) (excluded : List GoString)
    (namespaced : v.«namespace» ≠ []) (hostNamespace : pName.«namespace» ≠ []) :
    let host := HostMetadata sum256 K gvkForObject ctx s owner store v pName excluded
    (∃ result, VirtualMetadata K ctx host.2 host.1 ⟨v.«namespace», v.name⟩ excluded result) ∧
      ∀ result, VirtualMetadata K ctx host.2 host.1 ⟨v.«namespace», v.name⟩ excluded result →
        result.1.name = v.name ∧ result.1.«namespace» = v.«namespace» ∧
        result.1.goType = v.goType ∧ result.1.labels = v.labels ∧ result.2 = store ∧
        ∀ k, result.1.annotations.lookup k =
          if k ∈ excluded ++ [K.nameAnnotationKey, K.uidAnnotationKey, K.kindAnnotationKey,
              K.namespaceAnnotationKey, K.managedAnnotationsAnnotationKey,
              K.managedLabelsAnnotationKey]
          then none else v.annotations.lookup k := by
  refine ⟨VirtualMetadata_exists K ctx _ _ _ _, fun result readBack => ?_⟩
  obtain ⟨named, placed, typed, annotations, labels, run, relabeled, stored⟩ :=
    VirtualMetadata_inv K ctx readBack
  have hostLabels := HostLabels_namespaced sum256 K ctx s store none namespaced
  have pNamespace :
      (HostMetadata sum256 K gvkForObject ctx s owner store v pName excluded).1.«namespace» =
        pName.«namespace» := by
    rw [namespace_HostMetadata, if_neg namespaced]
  rw [VirtualLabels_namespaced K ctx _ _ _ (pNamespace ▸ hostNamespace)] at run
  subst run
  refine ⟨named, ?_, typed.trans (goType_HostMetadata ..), ?_, ?_, fun k => ?_⟩
  · rw [placed, pNamespace, if_neg hostNamespace]
  · simp [relabeled, labels_HostMetadata, hostLabels]
  · simp [stored, HostMetadata, hostLabels]
  · rw [annotations]
    exact lookup_VirtualAnnotations_of_host K gvkForObject (annotations_HostMetadata ..) k

/-- Sync down and read back a cluster-scoped object: when its labels are readable back
(the conditions of `virtualLabelsMapCluster_of_unreserved`) and none of them is a key the
read-back takes from the virtual object, every virtual object `VirtualMetadata` reads
back under the original name has the original name, namespace, type and labels, and
every annotation that is neither reserved nor excluded. -/
theorem virtualMetadata_hostMetadataCluster (owner : Option OwnerObject) (store : MappingStore)
    (v : Object) (pName : NamespacedName) (excluded : List GoString)
    (clusterScoped : v.«namespace» = []) (valid : ∀ k ∈ v.labels, k ≠ [])
    (inj : ∀ k₁ ∈ v.labels, ∀ k₂ ∈ v.labels,
      clusterLabel sum256 K ctx s k₁ = clusterLabel sum256 K ctx s k₂ → k₁ = k₂)
    (derived : ∀ k ∈ v.labels, ctx.keyMatchesSyncedLabels k = false →
      ctx.keyMatchesSyncedLabels (clusterLabel sum256 K ctx s k) = false ∧
        hasPrefix (clusterLabel sum256 K ctx s k) K.labelPrefix = true ∧
        virtualExcluded K [] (clusterLabel sum256 K ctx s k) = false)
    (unreserved : ∀ k ∈ v.labels, hasPrefix k K.labelPrefix = true →
      ctx.keyMatchesSyncedLabels k = true)
    (prefixes : ∀ x ∈ [K.labelPrefix, K.markerLabel, K.controllerLabel],
      hasPrefix x reservedPrefix = true)
    (plain : ∀ k ∈ v.labels, virtualExcluded K [] k = false)
    {result : Object × MappingStore}
    (readBack : VirtualMetadata K ctx
      (HostMetadata sum256 K gvkForObject ctx s owner store v pName excluded).2
      (HostMetadata sum256 K gvkForObject ctx s owner store v pName excluded).1
      ⟨v.«namespace», v.name⟩ excluded result) :
    result.1.name = v.name ∧ result.1.«namespace» = v.«namespace» ∧
      result.1.goType = v.goType ∧ (∀ k, result.1.labels.lookup k = v.labels.lookup k) ∧
      ∀ k, result.1.annotations.lookup k =
        if k ∈ excluded ++ [K.nameAnnotationKey, K.uidAnnotationKey, K.kindAnnotationKey,
            K.namespaceAnnotationKey, K.managedAnnotationsAnnotationKey,
            K.managedLabelsAnnotationKey]
        then none else v.annotations.lookup k := by
  obtain ⟨named, placed, typed, annotations, labels, run, relabeled, -⟩ :=
    VirtualMetadata_inv K ctx readBack
  have pNamespace :
      (HostMetadata sum256 K gvkForObject ctx s owner store v pName excluded).1.«namespace» =
        [] := by
    rw [namespace_HostMetadata, if_pos clusterScoped]
  have agree :
      ∀ k, virtualExcluded K [] k = true → (∅ : GoMap).lookup k = v.labels.lookup k :=
    fun k excl => by
      cases found : v.labels.lookup k with
      | none => rfl
      | some _ => simp [plain k (mem_of_lookup found)] at excl
  have hostRun : VirtualLabelsMapCluster K ctx
      (HostLabelsMapCluster sum256 K ctx s store v.labels ∅).2
      (some (HostLabelsMapCluster sum256 K ctx s store v.labels ∅).1) ∅ [] labels := by
    simp only [VirtualLabels, if_pos pNamespace] at run
    simpa [HostMetadata, HostLabels, clusterScoped] using run
  obtain ⟨readLabels, found, same⟩ := (virtualLabelsMapCluster_of_unreserved valid inj derived
    unreserved prefixes store ∅ ∅ agree).2 labels hostRun
  refine ⟨named, by rw [placed, pNamespace, if_pos rfl, clusterScoped],
    typed.trans (goType_HostMetadata ..), fun k => by rw [relabeled, found, Option.getD_some, same],
    fun k => ?_⟩
  rw [annotations]
  exact lookup_VirtualAnnotations_of_host K gvkForObject (annotations_HostMetadata ..) k

/-- The cluster-scoped object `reader` with the label `app: web`. -/
def reader : Object :=
  { (default : Object) with
    name := lit "reader", labels := (∅ : GoMap).insert (lit "app") (lit "web") }

/-- `reader` meets every condition: a virtual object is read back from its host object,
and every one has its name and labels. -/
theorem reader_round_trip :
    ∃ result, VirtualMetadata sampleKeys plainContext
      (HostMetadata paddedDigest sampleKeys podGVK plainContext sampleInstance none ∅ reader
        ⟨[], lit "reader"⟩ []).2
      (HostMetadata paddedDigest sampleKeys podGVK plainContext sampleInstance none ∅ reader
        ⟨[], lit "reader"⟩ []).1
      ⟨[], lit "reader"⟩ [] result ∧
      result.1.name = reader.name ∧ ∀ k, result.1.labels.lookup k = reader.labels.lookup k := by
  obtain ⟨result, readBack⟩ := VirtualMetadata_exists sampleKeys plainContext
    (HostMetadata paddedDigest sampleKeys podGVK plainContext sampleInstance none ∅ reader
      ⟨[], lit "reader"⟩ []).2
    (HostMetadata paddedDigest sampleKeys podGVK plainContext sampleInstance none ∅ reader
      ⟨[], lit "reader"⟩ []).1 ⟨[], lit "reader"⟩ []
  have back := virtualMetadata_hostMetadataCluster sampleKeys plainContext paddedDigest podGVK
    sampleInstance none ∅ reader ⟨[], lit "reader"⟩ [] rfl (by decide) (by decide) (by decide)
    (by decide) (by decide) (by decide) readBack
  exact ⟨result, readBack, back.1, back.2.2.2.1⟩

/-- The pod `web` of the namespace `team`, synced to the host namespace `vcluster-team`:
a virtual object is read back, and every one has its name, namespace and labels and
leaves the store as it was. -/
theorem teamPod_round_trip :
    ∃ result, VirtualMetadata sampleKeys plainContext
      (HostMetadata paddedDigest sampleKeys podGVK plainContext sampleInstance none ∅ teamPod
        ⟨lit "vcluster-team", lit "web"⟩ []).2
      (HostMetadata paddedDigest sampleKeys podGVK plainContext sampleInstance none ∅ teamPod
        ⟨lit "vcluster-team", lit "web"⟩ []).1
      ⟨teamPod.«namespace», teamPod.name⟩ [] result ∧
      result.1.name = teamPod.name ∧ result.1.«namespace» = teamPod.«namespace» ∧
      result.1.labels = teamPod.labels ∧ result.2 = ∅ := by
  obtain ⟨⟨result, readBack⟩, back⟩ := virtualMetadata_hostMetadata sampleKeys plainContext
    paddedDigest podGVK sampleInstance none ∅ teamPod ⟨lit "vcluster-team", lit "web"⟩ []
    (by decide) (by decide)
  obtain ⟨named, placed, -, labelled, stored, -⟩ := back result readBack
  exact ⟨result, readBack, named, placed, labelled, stored⟩

end VClusterTranslate.Metadata.Sync
