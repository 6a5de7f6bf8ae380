/- Label maps of cluster-scoped objects: HostLabelsMapCluster and VirtualLabelsMapCluster.
   digest: The translate-back loop ranges over the map it rewrites, so a revisited key can be lost. -/

import VClusterTranslate.Labels.KeyTranslation
import VClusterTranslate.Merge.ApplyMaps

set_option autoImplicit false
set_option relaxedAutoImplicit false

/-!
`HostLabelsMapCluster` renames every label key of a cluster-scoped virtual object with
`HostLabelCluster`, recording each derived key in the mapping store, and stamps the
marker and controller labels. `VirtualLabelsMapCluster` copies the host map, then
translates it back in place: its loop deletes the entry it visits and inserts the
translated key into the map it ranges over. The Go runtime may produce such an
inserted entry again in the same loop, so the function is the relation
`VirtualLabelsMapCluster` of all results its runs allow.

When every virtual key under the reserved label prefix is an always-synced key, every
run returns the virtual labels (`virtualLabelsMapCluster_of_unreserved`): the invariant
`RewriteInvariant` says each entry is final or a pending derived key. A virtual key under
the prefix that is not synced reads back through the store on its first visit and
finds nothing on a second one.
-/

namespace VClusterTranslate.Labels.Maps

open VClusterTranslate.Go.Library VClusterTranslate.Go.Range VClusterTranslate.Types
  VClusterTranslate.Naming.Names VClusterTranslate.Labels.KeyTranslation
  VClusterTranslate.Merge.ApplyMaps

/-- The prefix of the keys that "add already existing labels back" skips. -/
def reservedPrefix : GoString := lit "vcluster.loft.sh/"

/-- One iteration of the loop "add already existing labels back". -/
def addExistingLabel (labels : GoMap) (e : Entry) : GoMap :=
  if hasPrefix e.1 reservedPrefix then labels
  else if e.1 ∈ labels then labels else labels.insert e.1 e.2

/-- The loop "add already existing labels back" over `pLabels`. -/
def addExistingLabels (pLabels labels : GoMap) : GoMap :=
  pLabels.entries.foldl addExistingLabel labels

private theorem addExistingLabels_of_present {pLabels labels : GoMap}
    (present : ∀ k ∈ pLabels, hasPrefix k reservedPrefix = true ∨ k ∈ labels) :
    addExistingLabels pLabels labels = labels := by
  have skip : ∀ e ∈ pLabels.entries, addExistingLabel labels e = labels := fun e he => by
    have := present e.1 (List.mem_keys_of_mem he)
    unfold addExistingLabel
    split_ifs <;> simp_all
  unfold addExistingLabels
  generalize pLabels.entries = l at skip
  induction l with
  | nil => rfl
  | cons e l ih => rw [List.foldl_cons, skip e (.head _), ih fun e' he' => skip e' (.tail _ he')]

section Cluster

variable (sum256 : GoString → Digest) (K : Keys) (ctx : SyncContext) (s : MultiNamespace)

/-- `HostLabelsMapCluster`, with the store it leaves. -/
def HostLabelsMapCluster (store : MappingStore) (vLabels pLabels : GoMap) :
    GoMap × MappingStore :=
  let acc := vLabels.entries.foldl (renameStep (HostLabelCluster sum256 K ctx s)) (∅, store)
  let newLabels :=
    if index pLabels K.controllerLabel ≠ [] then
      acc.1.insert K.controllerLabel (index pLabels K.controllerLabel)
    else acc.1
  (newLabels.insert K.markerLabel (s.MarkerLabelCluster sum256), acc.2)

theorem lookup_HostLabelsMapCluster (store : MappingStore) (vLabels pLabels : GoMap)
    {k : GoString}
    (inj : ∀ k' ∈ vLabels, clusterLabel sum256 K ctx s k' = clusterLabel sum256 K ctx s k → k' = k)
    (marker : clusterLabel sum256 K ctx s k ≠ K.markerLabel)
    (controller : clusterLabel sum256 K ctx s k ≠ K.controllerLabel) :
    (HostLabelsMapCluster sum256 K ctx s store vLabels pLabels).1.lookup
      (clusterLabel sum256 K ctx s k) = vLabels.lookup k := by
  unfold HostLabelsMapCluster
  dsimp only
  rw [AList.lookup_insert_ne marker, apply_ite (AList.lookup _), AList.lookup_insert_ne controller,
    ite_self, foldl_renameStep_fst _ (clusterLabel sum256 K ctx s) (fun _ => True)
      (fun _ _ _ => trivial) (fun _ _ _ => HostLabelCluster_fst ..) _ _ trivial,
    lookup_foldl_insertRenamed _ _ _ vLabels.nodupKeys _
      fun e he => inj e.1 (List.mem_keys_of_mem he)]
  simp [dlookup_entries]

theorem lookup_HostLabelsMapCluster_marker (store : MappingStore) (vLabels pLabels : GoMap) :
    (HostLabelsMapCluster sum256 K ctx s store vLabels pLabels).1.lookup K.markerLabel =
      some (s.MarkerLabelCluster sum256) :=
  AList.lookup_insert _

private theorem mem_HostLabelsMapCluster {store : MappingStore} {vLabels pLabels : GoMap} {x : GoString}
    (mem : x ∈ (HostLabelsMapCluster sum256 K ctx s store vLabels pLabels).1) :
    x = K.markerLabel ∨ x = K.controllerLabel ∨ ∃ k ∈ vLabels, x = clusterLabel sum256 K ctx s k := by
  unfold HostLabelsMapCluster at mem
  dsimp only at mem
  rw [foldl_renameStep_fst _ (clusterLabel sum256 K ctx s) (fun _ => True) (fun _ _ _ => trivial)
    (fun _ _ _ => HostLabelCluster_fst ..) _ _ trivial] at mem
  rcases (AList.mem_insert _).mp mem with marker | mem
  · exact .inl marker
  have renamed : x ∈ vLabels.entries.foldl (insertRenamed (fun _ => true)
      (clusterLabel sum256 K ctx s) Sigma.snd) ∅ → ∃ k ∈ vLabels, x = clusterLabel sum256 K ctx s k :=
    fun mem => match mem_foldl_insertRenamed _ _ _ _ _ mem with
      | .inl empty => absurd empty (AList.not_mem_empty x)
      | .inr ⟨e, he, hx⟩ => ⟨e.1, List.mem_keys_of_mem he, hx.symm⟩
  split at mem
  · rcases (AList.mem_insert _).mp mem with controller | mem
    · exact .inr (.inl controller)
    · exact .inr (.inr (renamed mem))
  · exact .inr (.inr (renamed mem))

private theorem HostLabelsMapCluster_snd (store : MappingStore) (vLabels pLabels : GoMap) :
    (HostLabelsMapCluster sum256 K ctx s store vLabels pLabels).2 = vLabels.entries.foldl
      (insertRenamed (recordsKey ctx) (clusterLabel sum256 K ctx s) Sigma.fst) store := by
  unfold HostLabelsMapCluster
  rw [foldl_renameStep_snd]
  exact congrArg (vLabels.entries.foldl · store) (funext₂ (HostLabelCluster_snd sum256 K ctx s))

private theorem lookup_HostLabelsMapCluster_store (store : MappingStore) (vLabels pLabels : GoMap)
    {k : GoString} (mem : k ∈ vLabels)
    (inj : ∀ k' ∈ vLabels, clusterLabel sum256 K ctx s k' = clusterLabel sum256 K ctx s k → k' = k)
    (records : recordsKey ctx k = true) :
    (HostLabelsMapCluster sum256 K ctx s store vLabels pLabels).2.lookup
      (clusterLabel sum256 K ctx s k) = some k := by
  obtain ⟨v, found⟩ := Option.isSome_iff_exists.mp (AList.lookup_isSome.mpr mem)
  rw [HostLabelsMapCluster_snd, lookup_foldl_insertRenamed _ _ _ vLabels.nodupKeys _
    fun e he => inj e.1 (List.mem_keys_of_mem he), if_pos records, dlookup_entries, found]
  rfl

private theorem mem_HostLabelsMapCluster_store {store : MappingStore} {vLabels pLabels : GoMap}
    {x : GoString} (mem : x ∈ (HostLabelsMapCluster sum256 K ctx s store vLabels pLabels).2) :
    x ∈ store ∨ ∃ k ∈ vLabels, x = clusterLabel sum256 K ctx s k := by
  rw [HostLabelsMapCluster_snd] at mem
  rcases mem_foldl_insertRenamed _ _ _ _ _ mem with kept | ⟨e, he, rfl⟩
  · exact .inl kept
  · exact .inr ⟨e.1, List.mem_keys_of_mem he, rfl⟩

end Cluster

/-! ### Namespaced objects -/

section Namespaced

variable (K : Keys) (ctx : SyncContext) (s : MultiNamespace)

/-- `HostLabelsMap` with the multi-namespace translator as `Default`; a nil map is `none`.
`maps.Copy` into a fresh map gives a map with the same entries. -/
def HostLabelsMap (vLabels : Option GoMap) (pLabels : GoMap) (vNamespace : GoString) :
    Option GoMap :=
  match vLabels with
  | none => none
  | some vLabels =>
    if (ctx.virtualNamespaceMatchesMapping vNamespace).isSome ||
        !MultiNamespace.SingleNamespaceTarget then some vLabels
    else
      let newLabels := vLabels.entries.foldl
        (insertRenamed (fun _ => true) (MultiNamespace.HostLabel · vNamespace) Sigma.snd) ∅
      let newLabels := newLabels.insert K.markerLabel s.vClusterName
      let newLabels :=
        if vNamespace ≠ [] then newLabels.insert K.namespaceLabel vNamespace
        else newLabels.erase K.namespaceLabel
      let newLabels :=
        if index pLabels K.controllerLabel ≠ [] then
          newLabels.insert K.controllerLabel (index pLabels K.controllerLabel)
        else newLabels
      some (addExistingLabels pLabels newLabels)

/-- The multi-namespace translator never targets a single namespace, so host labels of
a namespaced object are a copy of its labels. -/
theorem HostLabelsMap_eq (vLabels : Option GoMap) (pLabels : GoMap) (vNamespace : GoString) :
    HostLabelsMap K ctx s vLabels pLabels vNamespace = vLabels := by
  cases vLabels <;> simp [HostLabelsMap, MultiNamespace.SingleNamespaceTarget]

/-- One visit of the loop "try to translate back" of `VirtualLabelsMap`, with the key of
the entry it created. -/
def translateBackLabel (vNamespace key value : GoString) (retLabels : GoMap) :
    GoMap × List GoString :=
  match MultiNamespace.VirtualLabel key vNamespace with
  | some vKey => ((retLabels.erase key).insert vKey value,
      if vKey ∈ retLabels.erase key then [] else [vKey])
  | none => (retLabels.erase key, [])

/-- `VirtualLabelsMap` with the multi-namespace translator as `Default`: its results over
every run of the translate-back loop, which ranges over the map it rewrites. -/
def VirtualLabelsMap (pLabels : Option GoMap) (vLabels : GoMap) (vNamespace : GoString)
    (excluded : List GoString) (result : Option GoMap) : Prop :=
  match pLabels with
  | none => result = none
  | some pLabels =>
    if (ctx.virtualNamespaceMatchesMapping vNamespace).isSome ||
        !MultiNamespace.SingleNamespaceTarget then result = some pLabels
    else
      let excluded := excluded ++ [K.markerLabel, K.namespaceLabel, K.controllerLabel]
      let retLabels := copyMaps pLabels vLabels fun key =>
        «exists» excluded key || hasPrefix key K.namespaceLabelPrefix
      ∃ rewritten, RangeRun id (translateBackLabel vNamespace) retLabels retLabels.keys rewritten ∧
        result = some rewritten

/-- The virtual labels of a namespaced object are a copy of its host labels. -/
theorem VirtualLabelsMap_iff (pLabels : Option GoMap) (vLabels : GoMap) (vNamespace : GoString)
    (excluded : List GoString) (result : Option GoMap) :
    VirtualLabelsMap K ctx pLabels vLabels vNamespace excluded result ↔ result = pLabels := by
  cases pLabels <;> simp [VirtualLabelsMap, MultiNamespace.SingleNamespaceTarget]

end Namespaced

/-! ### Translating back in place -/

section Virtual

variable (K : Keys) (ctx : SyncContext)

/-- Whether `VirtualLabelsMapCluster` takes a label from the virtual object: an
excluded key, the marker or controller label, or a namespace label. -/
def virtualExcluded (excluded : List GoString) (key : GoString) : Bool :=
  «exists» (excluded ++ [K.markerLabel, K.controllerLabel]) key ||
    hasPrefix key K.namespaceLabelPrefix

/-- One visit of the loop "try to translate back": `delete(retLabels, key)`, then
`retLabels[vKey] = value` when `VirtualLabelCluster` finds `vKey`. The list holds the
key of the entry the visit created. -/
def translateBack (key value : GoString) (t : GoMap × MappingStore) :
    (GoMap × MappingStore) × List GoString :=
  match (VirtualLabelCluster K ctx t.2 key).1 with
  | some vKey => (((t.1.erase key).insert vKey value, (VirtualLabelCluster K ctx t.2 key).2),
      if vKey ∈ t.1.erase key then [] else [vKey])
  | none => ((t.1.erase key, (VirtualLabelCluster K ctx t.2 key).2), [])

/-- `VirtualLabelsMapCluster`: the results, with the store they leave, of every run the
Go runtime allows for the loop that translates the copied map back in place. -/
def VirtualLabelsMapCluster (store : MappingStore) (pLabels : Option GoMap) (vLabels : GoMap)
    (excluded : List GoString) (result : Option GoMap × MappingStore) : Prop :=
  match pLabels with
  | none => result = (none, store)
  | some pLabels =>
    let retLabels := copyMaps pLabels vLabels (virtualExcluded K excluded)
    ∃ rewritten store', RangeRun Prod.fst (translateBack K ctx) (retLabels, store) retLabels.keys
      (rewritten, store') ∧ result = (some (addExistingLabels pLabels rewritten), store')

private theorem virtualExcluded_marker (excluded : List GoString) :
    virtualExcluded K excluded K.markerLabel = true := by
  simp [virtualExcluded]

private theorem virtualExcluded_controller (excluded : List GoString) :
    virtualExcluded K excluded K.controllerLabel = true := by
  simp [virtualExcluded]

private theorem translateBack_store (key value : GoString) (t : GoMap × MappingStore) :
    (translateBack K ctx key value t).1.2 = (VirtualLabelCluster K ctx t.2 key).2 := by
  unfold translateBack; split <;> rfl

private theorem lookup_translateBack (key value : GoString) (t : GoMap × MappingStore) (y : GoString) :
    (translateBack K ctx key value t).1.1.lookup y =
      if (VirtualLabelCluster K ctx t.2 key).1 = some y then some value
      else (t.1.erase key).lookup y := by
  unfold translateBack
  cases (VirtualLabelCluster K ctx t.2 key).1 <;> simp [lookup_insert_eq_ite, eq_comm]

private theorem translateBack_frame (key value : GoString) (t : GoMap × MappingStore) (k : GoString)
    (ne : k ≠ key) (mem : k ∈ t.1) : k ∈ (translateBack K ctx key value t).1.1 := by
  rw [← AList.lookup_isSome, lookup_translateBack, lookup_erase_eq_ite, if_neg ne]
  split
  · rfl
  · exact AList.lookup_isSome.mpr mem

/-- The Go loop terminates: some run exists from every map. -/
theorem VirtualLabelsMapCluster_exists (store : MappingStore) (pLabels : Option GoMap)
    (vLabels : GoMap) (excluded : List GoString) :
    ∃ result, VirtualLabelsMapCluster K ctx store pLabels vLabels excluded result := by
  cases pLabels with
  | none => exact ⟨_, rfl⟩
  | some pLabels =>
    obtain ⟨⟨rewritten, store'⟩, run⟩ := RangeRun.exists_of_frame
      (fun k v t k' ne mem => translateBack_frame K ctx k v t k' ne mem) _ _
      (AList.keys_nodup _) fun k mem => AList.mem_keys.mpr mem
    exact ⟨_, rewritten, store', run, rfl⟩

end Virtual

/-! ### The round trip when no virtual key uses the reserved prefix -/

section RoundTrip

variable {sum256 : GoString → Digest} {K : Keys} {ctx : SyncContext} {s : MultiNamespace}
  {vLabels : GoMap}

/-- The invariant of the translate-back loop on the host map of `vLabels`: the store maps
every derived key back, every entry is final or a pending derived key, and every label
of `vLabels` is final or waits under its derived key. -/
def RewriteInvariant (sum256 : GoString → Digest) (K : Keys) (ctx : SyncContext)
    (s : MultiNamespace) (vLabels : GoMap) (t : GoMap × MappingStore) (pending : List GoString) :
    Prop :=
  (∀ k ∈ vLabels, ctx.keyMatchesSyncedLabels k = false →
    t.2.lookup (clusterLabel sum256 K ctx s k) = some k) ∧
  (∀ x v, t.1.lookup x = some v → vLabels.lookup x = some v ∨
    x ∈ pending ∧ ∃ k ∈ vLabels, x = clusterLabel sum256 K ctx s k ∧
      ctx.keyMatchesSyncedLabels k = false ∧ vLabels.lookup k = some v) ∧
  (∀ k v, vLabels.lookup k = some v → t.1.lookup k = some v ∨
    ctx.keyMatchesSyncedLabels k = false ∧ clusterLabel sum256 K ctx s k ∈ pending ∧
      t.1.lookup (clusterLabel sum256 K ctx s k) = some v)

theorem mem_of_lookup {m : GoMap} {k v : GoString} (found : m.lookup k = some v) : k ∈ m :=
  AList.lookup_isSome.mp (by simp [found])

variable (valid : ∀ k ∈ vLabels, k ≠ [])
  (inj : ∀ k₁ ∈ vLabels, ∀ k₂ ∈ vLabels,
    clusterLabel sum256 K ctx s k₁ = clusterLabel sum256 K ctx s k₂ → k₁ = k₂)
  (derived : ∀ k ∈ vLabels, ctx.keyMatchesSyncedLabels k = false →
    ctx.keyMatchesSyncedLabels (clusterLabel sum256 K ctx s k) = false ∧
      hasPrefix (clusterLabel sum256 K ctx s k) K.labelPrefix = true ∧
      virtualExcluded K [] (clusterLabel sum256 K ctx s k) = false)
  (unreserved : ∀ k ∈ vLabels, hasPrefix k K.labelPrefix = true →
    ctx.keyMatchesSyncedLabels k = true)

include derived unreserved in
private theorem derived_not_mem {k : GoString} (mem : k ∈ vLabels)
    (notSynced : ctx.keyMatchesSyncedLabels k = false) :
    clusterLabel sum256 K ctx s k ∉ vLabels := fun derivedMem => by
  obtain ⟨synced, reserved, -⟩ := derived k mem notSynced
  simp [unreserved _ derivedMem reserved] at synced

include unreserved in
private theorem translate_final (store : MappingStore) {x : GoString} (mem : x ∈ vLabels) :
    (VirtualLabelCluster K ctx store x).1 = some x := by
  rw [VirtualLabelCluster_fst, if_pos]
  cases reserved : hasPrefix x K.labelPrefix
  · exact .inr rfl
  · exact .inl (unreserved x mem reserved)

include derived in
private theorem translate_derived {store : MappingStore} {k : GoString} (mem : k ∈ vLabels)
    (notSynced : ctx.keyMatchesSyncedLabels k = false)
    (recorded : store.lookup (clusterLabel sum256 K ctx s k) = some k) :
    (VirtualLabelCluster K ctx store (clusterLabel sum256 K ctx s k)).1 = some k := by
  obtain ⟨synced, reserved, -⟩ := derived k mem notSynced
  rw [VirtualLabelCluster_fst, if_neg (by simp [synced, reserved]), recorded]

include inj derived unreserved in
private theorem rewriteInvariant_step {t : GoMap × MappingStore} {pending : List GoString}
    {x v : GoString} {produced : List GoString}
    (inv : RewriteInvariant sum256 K ctx s vLabels t pending) (found : t.1.lookup x = some v)
    (_created : produced.Sublist (translateBack K ctx x v t).2) :
    RewriteInvariant sum256 K ctx s vLabels (translateBack K ctx x v t).1
      (pending.erase x ++ produced) := by
  obtain ⟨recorded, sound, complete⟩ := inv
  obtain ⟨y, translated, final, origin⟩ :
      ∃ y, (VirtualLabelCluster K ctx t.2 x).1 = some y ∧ vLabels.lookup y = some v ∧
        (y = x ∨ x = clusterLabel sum256 K ctx s y ∧ ctx.keyMatchesSyncedLabels y = false) := by
    rcases sound x v found with final | ⟨-, k, mem, rfl, notSynced, value⟩
    · exact ⟨x, translate_final unreserved _ (mem_of_lookup final), final, .inl rfl⟩
    · exact ⟨k, translate_derived derived mem notSynced (recorded k mem notSynced), value,
        .inr ⟨rfl, notSynced⟩⟩
  have ymem := mem_of_lookup final
  have lookup' : ∀ z, (translateBack K ctx x v t).1.1.lookup z =
      if z = y then some v else if z = x then none else t.1.lookup z := fun z => by
    rw [lookup_translateBack, translated, lookup_erase_eq_ite]; simp [eq_comm]
  have keep : ∀ z, z ≠ x → z ∈ pending → z ∈ pending.erase x ++ produced :=
    fun z ne mem => List.mem_append_left _ ((List.mem_erase_of_ne ne).mpr mem)
  refine ⟨fun k mem notSynced => ?_, fun z w hz => ?_, fun k w hk => ?_⟩
  · rw [translateBack_store, lookup_VirtualLabelCluster_snd]
    exact recorded k mem notSynced
  · rw [lookup' z] at hz
    split_ifs at hz with zy zx
    · subst zy; cases hz; exact .inl final
    · rcases sound z w hz with fin | ⟨pz, rest⟩
      · exact .inl fin
      · exact .inr ⟨keep z zx pz, rest⟩
  · have kmem := mem_of_lookup hk
    by_cases ky : k = y
    · subst ky; rw [final] at hk; cases hk; simp [lookup']
    have kx : k ≠ x := by
      rcases origin with rfl | ⟨rfl, notSynced⟩
      · exact ky
      · exact fun h => derived_not_mem derived unreserved ymem notSynced (h ▸ kmem)
    rw [lookup' k, if_neg ky, if_neg kx]
    rcases complete k w hk with fin | ⟨notSynced, pk, look⟩
    · exact .inl fin
    have fy : clusterLabel sum256 K ctx s k ≠ y :=
      fun h => derived_not_mem derived unreserved kmem notSynced (h ▸ ymem)
    have fx : clusterLabel sum256 K ctx s k ≠ x := by
      rcases origin with rfl | ⟨rfl, -⟩
      · exact fy
      · exact fun h => ky (inj k kmem y ymem h)
    exact .inr ⟨notSynced, keep _ fx pk, by rw [lookup', if_neg fy, if_neg fx]; exact look⟩

include valid inj derived in
private theorem rewriteInvariant_init (store : MappingStore) (pLabels target : GoMap)
    (agree : ∀ k, virtualExcluded K [] k = true → target.lookup k = vLabels.lookup k) :
    let host := HostLabelsMapCluster sum256 K ctx s store vLabels pLabels
    let retLabels := copyMaps host.1 target (virtualExcluded K [])
    RewriteInvariant sum256 K ctx s vLabels (retLabels, host.2) retLabels.keys := by
  intro host retLabels
  have hostLookup : ∀ k ∈ vLabels,
      virtualExcluded K [] (clusterLabel sum256 K ctx s k) = false →
      host.1.lookup (clusterLabel sum256 K ctx s k) = vLabels.lookup k := fun k mem kept =>
    lookup_HostLabelsMapCluster sum256 K ctx s store vLabels pLabels
      (fun k' mem' h => inj k' mem' k mem h)
      (fun h => by simp [h, virtualExcluded_marker] at kept)
      (fun h => by simp [h, virtualExcluded_controller] at kept)
  have retLookup : ∀ x, retLabels.lookup x =
      if virtualExcluded K [] x then target.lookup x else host.1.lookup x :=
    lookup_copyMaps _ _ _
  have pendingKey : ∀ {x v}, retLabels.lookup x = some v → x ∈ retLabels.keys :=
    fun found => AList.mem_keys.mp (mem_of_lookup found)
  refine ⟨fun k mem notSynced => ?_, fun x v found => ?_, fun k v found => ?_⟩
  · exact lookup_HostLabelsMapCluster_store sum256 K ctx s store vLabels pLabels mem
      (fun k' mem' h => inj k' mem' k mem h) (by simp [recordsKey, notSynced, valid k mem])
  · have found' := (retLookup x).symm.trans found
    cases excl : virtualExcluded K [] x
    · rw [excl] at found'
      rcases mem_HostLabelsMapCluster sum256 K ctx s (mem_of_lookup found') with
        rfl | rfl | ⟨k, mem, rfl⟩
      · simp [virtualExcluded_marker] at excl
      · simp [virtualExcluded_controller] at excl
      rw [hostLookup k mem excl] at found'
      cases synced : ctx.keyMatchesSyncedLabels k
      · exact .inr ⟨pendingKey found, k, mem, rfl, synced, found'⟩
      · exact .inl (by rwa [clusterLabel_of_synced sum256 K ctx s synced])
    · rw [excl, agree x excl] at found'
      exact .inl found'
  · have mem := mem_of_lookup found
    cases excl : virtualExcluded K [] k
    · cases synced : ctx.keyMatchesSyncedLabels k
      · have kept := (derived k mem synced).2.2
        have look : retLabels.lookup (clusterLabel sum256 K ctx s k) = some v := by
          rw [retLookup, kept, if_neg Bool.false_ne_true, hostLookup k mem kept, found]
        exact .inr ⟨rfl, pendingKey look, look⟩
      · have same := clusterLabel_of_synced sum256 K ctx s synced
        left
        rw [retLookup, excl, if_neg Bool.false_ne_true, ← found,
          ← hostLookup k mem (by rw [same]; exact excl), same]
    · left
      rw [retLookup, excl, if_pos rfl, agree k excl, found]

include valid inj derived unreserved in
/-- When every virtual key under the reserved label prefix is an always-synced key, the
loop terminates and every run of `VirtualLabelsMapCluster` on the host map returns the
virtual labels, whichever created entries the runtime produces again. The labels it
keeps from the virtual object, `target`, must agree with them on the excluded keys:
they are the virtual labels themselves on an update, and no labels on a create. -/
theorem virtualLabelsMapCluster_of_unreserved
    (prefixes : ∀ x ∈ [K.labelPrefix, K.markerLabel, K.controllerLabel],
      hasPrefix x reservedPrefix = true)
    (store : MappingStore) (pLabels target : GoMap)
    (agree : ∀ k, virtualExcluded K [] k = true → target.lookup k = vLabels.lookup k) :
    let host := HostLabelsMapCluster sum256 K ctx s store vLabels pLabels
    (∃ result, VirtualLabelsMapCluster K ctx host.2 (some host.1) target [] result) ∧
      ∀ result, VirtualLabelsMapCluster K ctx host.2 (some host.1) target [] result →
        ∃ labels, result.1 = some labels ∧ ∀ k, labels.lookup k = vLabels.lookup k := by
  intro host
  refine ⟨VirtualLabelsMapCluster_exists K ctx _ _ _ _, ?_⟩
  rintro result ⟨rewritten, store', run, rfl⟩
  obtain ⟨-, sound, complete⟩ := run.invariant
    (fun _ _ _ _ _ inv _ found created =>
      rewriteInvariant_step inj derived unreserved inv found created)
    (rewriteInvariant_init valid inj derived store pLabels target agree)
  have same : ∀ k, rewritten.lookup k = vLabels.lookup k := fun k => by
    cases found : vLabels.lookup k with
    | some v =>
      rcases complete k v found with fin | ⟨-, pend, -⟩
      · exact fin
      · simp at pend
    | none =>
      cases found' : rewritten.lookup k with
      | none => rfl
      | some v =>
        rcases sound k v found' with fin | ⟨pend, -⟩
        · rw [found] at fin; exact fin.symm
        · simp at pend
  refine ⟨rewritten, ?_, same⟩
  show some (addExistingLabels host.1 rewritten) = some rewritten
  rw [addExistingLabels_of_present]
  intro x mem
  rcases mem_HostLabelsMapCluster sum256 K ctx s mem with rfl | rfl | ⟨k, kmem, rfl⟩
  · exact .inl (prefixes _ (by simp))
  · exact .inl (prefixes _ (by simp))
  cases synced : ctx.keyMatchesSyncedLabels k
  · exact .inl (hasPrefix_trans (derived k kmem synced).2.1 (prefixes _ (by simp)))
  · right
    rw [clusterLabel_of_synced sum256 K ctx s synced, ← AList.lookup_isSome, same,
      AList.lookup_isSome]
    exact kmem

end RoundTrip

/-! ### A run that produces every moved label again -/

section Revisit

variable {sum256 : GoString → Digest} {K : Keys} {ctx : SyncContext} {s : MultiNamespace}
  {vLabels : GoMap}

private theorem mem_erase_insert {m : GoMap} {x p k v : GoString} :
    x ∈ (m.erase p).insert k v ↔ x = k ∨ x ≠ p ∧ x ∈ m := by
  rw [AList.mem_insert, AList.mem_erase]

private theorem translateBack_of_miss {key : GoString} (value : GoString) (m : GoMap)
    {store : MappingStore} (notSynced : ctx.keyMatchesSyncedLabels key = false)
    (reserved : hasPrefix key K.labelPrefix = true) (miss : store.lookup key = none) :
    translateBack K ctx key value (m, store) = ((m.erase key, store), []) := by
  simp [translateBack, VirtualLabelCluster, hostToVirtualLabelCluster, notSynced, reserved,
    miss, recordLabelCluster]

private theorem translateBack_of_hit {key vKey : GoString} (value : GoString) {m : GoMap}
    {store : MappingStore} (hit : (VirtualLabelCluster K ctx store key).1 = some vKey)
    (fresh : vKey ∉ m) :
    translateBack K ctx key value (m, store) =
      (((m.erase key).insert vKey value, (VirtualLabelCluster K ctx store key).2), [vKey]) := by
  have gone : vKey ∉ m.erase key := fun mem => fresh (AList.mem_erase.mp mem).2
  simp only [translateBack, hit, if_neg gone]

/- Visiting keys under the label prefix that the store misses deletes them one by one. -/
private theorem rangeRun_misses (store : MappingStore) :
    ∀ (pending : List GoString) (m : GoMap), pending.Nodup →
      (∀ k ∈ pending, k ∈ m ∧ ctx.keyMatchesSyncedLabels k = false ∧
        hasPrefix k K.labelPrefix = true ∧ store.lookup k = none) →
      (∀ x ∈ m, x ∈ pending) →
      RangeRun Prod.fst (translateBack K ctx) (m, store) pending (∅, store)
  | [], m, _, _, keys => by
    have empty : m = ∅ := AList.ext <| List.eq_nil_iff_forall_not_mem.mpr fun e mem =>
      List.not_mem_nil _ (keys e.1 (List.mem_keys_of_mem mem))
    exact empty ▸ .done _
  | k :: rest, m, nodup, misses, keys => by
    obtain ⟨fresh, nodup⟩ := List.nodup_cons.mp nodup
    obtain ⟨mem, notSynced, reserved, miss⟩ := misses k (.head _)
    obtain ⟨v, found⟩ := Option.isSome_iff_exists.mp (AList.lookup_isSome.mpr mem)
    have visit := translateBack_of_miss (K := K) v m notSynced reserved miss
    refine .visit_head found visit ?_
    rw [List.append_nil]
    refine rangeRun_misses store rest _ nodup (fun k' mem' => ?_) (fun x mem' => ?_)
    · obtain ⟨inMap, rest'⟩ := misses k' (.tail _ mem')
      exact ⟨AList.mem_erase.mpr ⟨fun h => fresh (h ▸ mem'), inMap⟩, rest'⟩
    · obtain ⟨ne, inMap⟩ := AList.mem_erase.mp mem'
      exact (List.mem_cons.mp (keys x inMap)).resolve_left ne

variable (under : ∀ k ∈ vLabels, ctx.keyMatchesSyncedLabels k = false ∧
    hasPrefix k K.labelPrefix = true)
  (derived : ∀ k ∈ vLabels, ctx.keyMatchesSyncedLabels (clusterLabel sum256 K ctx s k) = false ∧
    hasPrefix (clusterLabel sum256 K ctx s k) K.labelPrefix = true ∧
    virtualExcluded K [] (clusterLabel sum256 K ctx s k) = false ∧
    clusterLabel sum256 K ctx s k ∉ vLabels)

include under derived in
/- Visiting the pending derived keys first moves each entry back to its label, which
waits behind the other pending keys; the labels are then visited and deleted. -/
private theorem rangeRun_derived_first :
    ∀ (P Q : List GoString) (t : GoMap × MappingStore), (P ++ Q).Nodup →
      (∀ k ∈ vLabels, t.2.lookup (clusterLabel sum256 K ctx s k) = some k ∧
        t.2.lookup k = none) →
      (∀ p ∈ P, p ∈ t.1 ∧ ∃ k ∈ vLabels, p = clusterLabel sum256 K ctx s k ∧ k ∉ t.1 ∧ k ∉ Q) →
      (∀ k ∈ Q, k ∈ t.1 ∧ k ∈ vLabels) → (∀ x ∈ t.1, x ∈ P ++ Q) →
      ∃ store, RangeRun Prod.fst (translateBack K ctx) t (P ++ Q) (∅, store)
  | [], Q, (m, store), nodup, stored, _, labels, keys =>
    ⟨store, rangeRun_misses store Q m nodup (fun k mem =>
      ⟨(labels k mem).1, (under k (labels k mem).2).1, (under k (labels k mem).2).2,
        (stored k (labels k mem).2).2⟩) keys⟩
  | p :: P, Q, (m, store), nodup, stored, pending, labels, keys => by
    obtain ⟨inMap, k, mem, rfl, absentK, notQ⟩ := pending _ (.head _)
    obtain ⟨notSynced, reserved, -, notLabel⟩ := derived k mem
    obtain ⟨v, found⟩ := Option.isSome_iff_exists.mp (AList.lookup_isSome.mpr inMap)
    have hit : (VirtualLabelCluster K ctx store (clusterLabel sum256 K ctx s k)).1 = some k := by
      rw [VirtualLabelCluster_fst, if_neg (by simp [notSynced, reserved]), (stored k mem).1]
    have visit := translateBack_of_hit v hit absentK
    have other : ∀ k' ∈ vLabels, clusterLabel sum256 K ctx s k ≠ k' :=
      fun k' mem' h => notLabel (h ▸ mem')
    obtain ⟨fresh, nodup⟩ := List.nodup_cons.mp nodup
    have apart : ∀ x ∈ P, x ≠ clusterLabel sum256 K ctx s k :=
      fun x inP h => fresh (List.mem_append_left _ (h ▸ inP))
    refine (rangeRun_derived_first P (Q ++ [k]) _ ?nodup ?stored ?pending ?labels ?keys).imp
      fun store' run => .visit_head found visit (by rwa [List.append_eq, List.append_assoc])
    case nodup =>
      rw [← List.append_assoc]
      refine nodup.append (List.nodup_singleton k) (List.disjoint_singleton.mpr fun inPQ => ?_)
      rcases List.mem_append.mp inPQ with inP | inQ
      · obtain ⟨-, k', mem', same, -⟩ := pending k (.tail _ inP)
        exact (derived k' mem').2.2.2 (same ▸ mem)
      · exact notQ inQ
    case stored =>
      intro k' mem'
      simpa only [lookup_VirtualLabelCluster_snd] using stored k' mem'
    case pending =>
      intro p' inP
      obtain ⟨inMap', k', mem', rfl, absent', notQ'⟩ := pending p' (.tail _ inP)
      have ne : k' ≠ k := fun h => apart _ inP (h ▸ rfl)
      refine ⟨mem_erase_insert.mpr (.inr ⟨apart _ inP, inMap'⟩), k', mem', rfl, ?_, ?_⟩
      · rw [mem_erase_insert]
        rintro (h | ⟨-, h⟩)
        exacts [ne h, absent' h]
      · simpa [ne] using notQ'
    case labels =>
      intro k' inQ
      rcases List.mem_append.mp inQ with inQ | single
      · obtain ⟨inMap', mem'⟩ := labels k' inQ
        exact ⟨mem_erase_insert.mpr (.inr ⟨(other k' mem').symm, inMap'⟩), mem'⟩
      · rw [List.mem_singleton.mp single]
        exact ⟨mem_erase_insert.mpr (.inl rfl), mem⟩
    case keys =>
      intro x inMap'
      rcases mem_erase_insert.mp inMap' with rfl | ⟨ne, inMap'⟩
      · simp
      · rcases List.mem_cons.mp (keys x inMap') with rfl | inPQ
        · exact absurd rfl ne
        · rw [← List.append_assoc]
          exact List.mem_append_left _ inPQ

/- The copy the loop starts from holds derived keys only, when no label of `vLabels` is
one the copy takes from the virtual object. -/
private theorem mem_copy_derived (store : MappingStore) (pLabels : GoMap)
    (plain : ∀ k ∈ vLabels, virtualExcluded K [] k = false) {x : GoString}
    (mem : x ∈ copyMaps (HostLabelsMapCluster sum256 K ctx s store vLabels pLabels).1 vLabels
      (virtualExcluded K [])) :
    ∃ k ∈ vLabels, x = clusterLabel sum256 K ctx s k := by
  have found := AList.lookup_isSome.mpr mem
  rw [lookup_copyMaps] at found
  cases excl : virtualExcluded K [] x
  · rw [excl, if_neg Bool.false_ne_true] at found
    rcases mem_HostLabelsMapCluster sum256 K ctx s (AList.lookup_isSome.mp found) with
      rfl | rfl | derivedKey
    · simp [virtualExcluded_marker] at excl
    · simp [virtualExcluded_controller] at excl
    · exact derivedKey
  · rw [excl, if_pos rfl] at found
    simp [plain x (AList.lookup_isSome.mp found)] at excl

include under derived in
/-- When every label of `vLabels` lies under the label prefix and is not always synced,
some run of `VirtualLabelsMapCluster` on the host map returns no labels: the run that
visits every derived key first, so that each label it moves back is produced again and,
missing from the store, deleted. -/
theorem virtualLabelsMapCluster_revisits_drop (valid : ∀ k ∈ vLabels, k ≠ [])
    (inj : ∀ k₁ ∈ vLabels, ∀ k₂ ∈ vLabels,
      clusterLabel sum256 K ctx s k₁ = clusterLabel sum256 K ctx s k₂ → k₁ = k₂)
    (plain : ∀ k ∈ vLabels, virtualExcluded K [] k = false)
    (prefixes : ∀ x ∈ [K.labelPrefix, K.markerLabel, K.controllerLabel],
      hasPrefix x reservedPrefix = true)
    (store : MappingStore) (absent : ∀ k ∈ vLabels, k ∉ store) (pLabels : GoMap) :
    let host := HostLabelsMapCluster sum256 K ctx s store vLabels pLabels
    ∃ store', VirtualLabelsMapCluster K ctx host.2 (some host.1) vLabels [] (some ∅, store') := by
  intro host
  let retLabels := copyMaps host.1 vLabels (virtualExcluded K [])
  have stored : ∀ k ∈ vLabels, host.2.lookup (clusterLabel sum256 K ctx s k) = some k ∧
      host.2.lookup k = none := fun k mem => by
    refine ⟨lookup_HostLabelsMapCluster_store sum256 K ctx s store vLabels pLabels mem
      (fun k' mem' h => inj k' mem' k mem h) (by simp [recordsKey, (under k mem).1, valid k mem]),
      AList.lookup_eq_none.mpr fun inHost => ?_⟩
    rcases mem_HostLabelsMapCluster_store sum256 K ctx s inHost with kept | ⟨k', mem', rfl⟩
    · exact absent _ mem kept
    · exact (derived k' mem').2.2.2 mem
  have pending : ∀ p ∈ retLabels.keys, p ∈ retLabels ∧ ∃ k ∈ vLabels,
      p = clusterLabel sum256 K ctx s k ∧ k ∉ retLabels ∧ k ∉ ([] : List GoString) :=
    fun p inKeys => by
      obtain ⟨k, mem, rfl⟩ := mem_copy_derived store pLabels plain (AList.mem_keys.mp inKeys)
      refine ⟨AList.mem_keys.mp inKeys, k, mem, rfl, fun inCopy => ?_, List.not_mem_nil _⟩
      obtain ⟨k', mem', same⟩ := mem_copy_derived store pLabels plain inCopy
      exact (derived k' mem').2.2.2 (same ▸ mem)
  have noneBack : addExistingLabels host.1 ∅ = ∅ := addExistingLabels_of_present fun x mem => by
    left
    rcases mem_HostLabelsMapCluster sum256 K ctx s mem with rfl | rfl | ⟨k, kmem, rfl⟩
    · exact prefixes _ (by simp)
    · exact prefixes _ (by simp)
    · exact hasPrefix_trans (derived k kmem).2.1 (prefixes _ (by simp))
  obtain ⟨store', run⟩ := rangeRun_derived_first under derived retLabels.keys [] (retLabels, host.2)
    (by simpa using retLabels.keys_nodup) stored pending (fun _ h => absurd h (List.not_mem_nil _))
    (fun x mem => by simpa using AList.mem_keys.mpr mem)
  rw [List.append_nil] at run
  exact ⟨store', ∅, store', run, by rw [noneBack]⟩

end Revisit

/-! ### A virtual key under the reserved prefix

The label `vcluster.loft.sh/label-app: web` of a cluster-scoped object, not always
synced, on the instance `ns`/`vc`. Its derived key translates back on the first visit;
when the runtime produces the re-inserted key again, the store has no entry for it and
the label is dropped. `paddedDigest` stands in for `SHA-256`: the runs below read the
digest only through the derived key. -/

/-- The labels of the cluster-scoped object. -/
def reservedAppLabels : GoMap := (∅ : GoMap).insert (lit "vcluster.loft.sh/label-app") (lit "web")

/-- The instance `ns`/`vc`. -/
def sampleInstance : MultiNamespace := ⟨lit "ns", lit "vc"⟩

/-- The host labels of the object and the store as `HostLabelsMapCluster` leaves them. -/
def reservedAppHost : GoMap × MappingStore :=
  HostLabelsMapCluster paddedDigest sampleKeys plainContext sampleInstance ∅ reservedAppLabels ∅

/-- The run that produces the re-inserted key again. -/
theorem revisitRun_drops :
    VirtualLabelsMapCluster sampleKeys plainContext reservedAppHost.2 (some reservedAppHost.1)
      reservedAppLabels [] (some ∅, reservedAppHost.2) := by
  refine ⟨∅, reservedAppHost.2, ?_, rfl⟩
  exact .visit (hostLabelCluster paddedDigest sampleKeys (lit "vcluster.loft.sh/label-app")
      (lit "ns") (lit "vc")) (lit "web") [lit "vcluster.loft.sh/label-app"]
      (by decide) (by decide) (by decide)
    (.visit (lit "vcluster.loft.sh/label-app") (lit "web") [] (by decide) (by decide) (by decide)
      (.done _))

/-- The run that skips the re-inserted key. -/
theorem revisitRun_keeps :
    VirtualLabelsMapCluster sampleKeys plainContext reservedAppHost.2 (some reservedAppHost.1)
      reservedAppLabels [] (some reservedAppLabels, reservedAppHost.2) := by
  refine ⟨reservedAppLabels, reservedAppHost.2, ?_, rfl⟩
  exact .visit (hostLabelCluster paddedDigest sampleKeys (lit "vcluster.loft.sh/label-app")
      (lit "ns") (lit "vc")) (lit "web") [] (by decide) (by decide) (by decide) (.done _)

/-- A stand-in for `SHA-256` that reads the key from its end, so that keys sharing the
label prefix get distinct derived keys. -/
def tailDigest (key : GoString) : Digest := paddedDigest key.reverse

/-- The nine labels `vcluster.loft.sh/label-a` to `vcluster.loft.sh/label-i`, all `web`. -/
def prefixedLabels : GoMap :=
  ["a", "b", "c", "d", "e", "f", "g", "h", "i"].foldl
    (fun labels c => labels.insert (lit ("vcluster.loft.sh/label-" ++ c)) (lit "web")) ∅

/-- The host labels of the nine-label object and the store as `HostLabelsMapCluster`
leaves them. -/
def prefixedHost : GoMap × MappingStore :=
  HostLabelsMapCluster tailDigest sampleKeys plainContext sampleInstance ∅ prefixedLabels ∅

/-- A run of `VirtualLabelsMapCluster` on the host labels of `vcluster.loft.sh/label-app: web`
returns no labels, and so does a run on the host labels of nine labels under the prefix
with distinct derived keys. -/
theorem virtualLabelsMapCluster_drops_reserved_label :
    (VirtualLabelsMapCluster sampleKeys plainContext reservedAppHost.2 (some reservedAppHost.1)
        reservedAppLabels [] (some ∅, reservedAppHost.2) ∧
      reservedAppLabels.lookup (lit "vcluster.loft.sh/label-app") = some (lit "web")) ∧
    prefixedLabels.keys.length = 9 ∧
    (prefixedLabels.keys.map (clusterLabel tailDigest sampleKeys plainContext sampleInstance)).Nodup ∧
    ∃ store, VirtualLabelsMapCluster sampleKeys plainContext prefixedHost.2 (some prefixedHost.1)
      prefixedLabels [] (some ∅, store) := by
  have distinct : (prefixedLabels.keys.map
      (clusterLabel tailDigest sampleKeys plainContext sampleInstance)).Nodup := by decide
  refine ⟨⟨revisitRun_drops, rfl⟩, by decide, distinct, ?_⟩
  exact virtualLabelsMapCluster_revisits_drop (by decide) (by decide) (by decide)
    (fun k₁ mem₁ k₂ mem₂ same => List.inj_on_of_nodup_map distinct mem₁ mem₂ same) (by decide)
    (by decide) ∅ (by decide) ∅

end VClusterTranslate.Labels.Maps
