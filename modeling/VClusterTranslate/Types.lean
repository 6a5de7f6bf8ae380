/- The objects, reserved keys, sync context and mapping store of package translate.
   digest: Object metadata records and the package-level values the source reads. -/

import VClusterTranslate.Go.Library

set_option autoImplicit false
set_option relaxedAutoImplicit false

/-!
The reserved annotation and label keys, `keyMatchesSyncedLabels`, the `pro`
namespace-mapping hooks and the mapping store are read by the source but declared
outside it. The keys are parameters; the one property the development needs of
them, that the six reserved annotation keys are six different keys, is a field.
-/

namespace VClusterTranslate.Types

open VClusterTranslate.Go.Library

/-- The reserved annotation and label keys of package translate; `nameAnnotationKey`
is the source's `NameAnnotation`, and so on. -/
structure Keys where
  nameAnnotationKey : GoString
  uidAnnotationKey : GoString
  kindAnnotationKey : GoString
  namespaceAnnotationKey : GoString
  managedAnnotationsAnnotationKey : GoString
  managedLabelsAnnotationKey : GoString
  markerLabel : GoString
  namespaceLabel : GoString
  controllerLabel : GoString
  labelPrefix : GoString
  namespaceLabelPrefix : GoString
  annotations_nodup : [nameAnnotationKey, uidAnnotationKey, kindAnnotationKey, namespaceAnnotationKey,
    managedAnnotationsAnnotationKey, managedLabelsAnnotationKey].Nodup

/-- Keys under the prefix `vcluster.loft.sh/` that the source reserves, for evaluating
the model on concrete objects. -/
def sampleKeys : Keys where
  nameAnnotationKey := lit "vcluster.loft.sh/object-name"
  uidAnnotationKey := lit "vcluster.loft.sh/object-uid"
  kindAnnotationKey := lit "vcluster.loft.sh/object-kind"
  namespaceAnnotationKey := lit "vcluster.loft.sh/object-namespace"
  managedAnnotationsAnnotationKey := lit "vcluster.loft.sh/managed-annotations"
  managedLabelsAnnotationKey := lit "vcluster.loft.sh/managed-labels"
  markerLabel := lit "vcluster.loft.sh/managed-by"
  namespaceLabel := lit "vcluster.loft.sh/namespace"
  controllerLabel := lit "vcluster.loft.sh/controlled-by"
  labelPrefix := lit "vcluster.loft.sh/label"
  namespaceLabelPrefix := lit "vcluster.loft.sh/ns-label"
  annotations_nodup := by decide

namespace Keys

variable (K : Keys)

/-- The six reserved annotation keys are pairwise different: `annotations_nodup` unfolded
into its fifteen inequalities, each key on the left of the keys after it. Together with
`Ne.symm`, `simp` uses them in either orientation. -/
theorem annotationKeys_ne :
    K.nameAnnotationKey ≠ K.uidAnnotationKey ∧ K.nameAnnotationKey ≠ K.kindAnnotationKey ∧
    K.nameAnnotationKey ≠ K.namespaceAnnotationKey ∧
    K.nameAnnotationKey ≠ K.managedAnnotationsAnnotationKey ∧
    K.nameAnnotationKey ≠ K.managedLabelsAnnotationKey ∧
    K.uidAnnotationKey ≠ K.kindAnnotationKey ∧ K.uidAnnotationKey ≠ K.namespaceAnnotationKey ∧
    K.uidAnnotationKey ≠ K.managedAnnotationsAnnotationKey ∧
    K.uidAnnotationKey ≠ K.managedLabelsAnnotationKey ∧
    K.kindAnnotationKey ≠ K.namespaceAnnotationKey ∧
    K.kindAnnotationKey ≠ K.managedAnnotationsAnnotationKey ∧
    K.kindAnnotationKey ≠ K.managedLabelsAnnotationKey ∧
    K.namespaceAnnotationKey ≠ K.managedAnnotationsAnnotationKey ∧
    K.namespaceAnnotationKey ≠ K.managedLabelsAnnotationKey ∧
    K.managedAnnotationsAnnotationKey ≠ K.managedLabelsAnnotationKey := by
  simpa [and_assoc] using K.annotations_nodup

end Keys

/-- `metav1.OwnerReference`. -/
structure OwnerReference where
  apiVersion : GoString
  kind : GoString
  name : GoString
  uid : GoString
  controller : Option Bool
  deriving DecidableEq

/-- The metadata of a `client.Object`, with the Go type that `apiutil.GVKForObject`
resolves through the scheme. -/
structure Object where
  goType : GoString
  name : GoString
  generateName : GoString
  «namespace» : GoString
  uid : GoString
  resourceVersion : GoString
  generation : Int
  labels : GoMap
  annotations : GoMap
  ownerReferences : List OwnerReference
  finalizers : List GoString
  deriving Inhabited

/-- The parts of `synccontext.SyncContext` the package reads besides the mapping store. -/
structure SyncContext where
  /-- `keyMatchesSyncedLabels`: label keys configured to sync unchanged. -/
  keyMatchesSyncedLabels : GoString → Bool
  /-- `pro.VirtualNamespaceMatchesMapping`: an administrator pin of a virtual namespace. -/
  virtualNamespaceMatchesMapping : GoString → Option GoString
  /-- `pro.HostNamespaceMatchesMapping`: the pin of a host namespace. -/
  hostNamespaceMatchesMapping : GoString → Option GoString

/-- A sync context with no always-synced label keys and no namespace pins. -/
def plainContext : SyncContext := ⟨fun _ => false, fun _ => none, fun _ => none⟩

/-- Modelled from the spec: the mapping store's table of cluster-scoped label keys,
from a host key to the virtual key it was derived from. -/
abbrev MappingStore := AList (fun _ : GoString => GoString)

/-- Modelled from the spec: `recordLabelCluster` records a forward translation
`vLabel ↦ pLabel`; a call with an empty key records nothing. -/
def recordLabelCluster (store : MappingStore) (vLabel pLabel : GoString) : MappingStore :=
  if vLabel = [] ∨ pLabel = [] then store else store.insert pLabel vLabel

/-- Modelled from the spec: `Store().HostToVirtualLabelCluster`, a lookup that
reports a miss as `none`. -/
def hostToVirtualLabelCluster (store : MappingStore) (pLabel : GoString) : Option GoString :=
  store.lookup pLabel

theorem lookup_recordLabelCluster (store : MappingStore) (vLabel pLabel x : GoString) :
    (recordLabelCluster store vLabel pLabel).lookup x =
      if vLabel ≠ [] ∧ pLabel ≠ [] ∧ x = pLabel then some vLabel else store.lookup x := by
  unfold recordLabelCluster
  by_cases empty : vLabel = [] ∨ pLabel = []
  · rw [if_pos empty, if_neg (by tauto)]
  · rw [if_neg empty, lookup_insert_eq_ite]
    by_cases hx : x = pLabel <;> simp_all

theorem lookup_recordLabelCluster_of_lookup {store : MappingStore} {vLabel pLabel : GoString}
    (held : store.lookup pLabel = some vLabel) (x : GoString) :
    (recordLabelCluster store vLabel pLabel).lookup x = store.lookup x := by
  rw [lookup_recordLabelCluster]
  split_ifs with h
  · rw [h.2.2, held]
  · rfl

end VClusterTranslate.Types
