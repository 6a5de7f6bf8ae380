/- Cluster-scoped label keys of the multi-namespace translator and the mapping store.
   digest: A derived host key reads back through the store that recorded it. -/

import VClusterTranslate.Go.Range
import VClusterTranslate.Naming.Names

set_option autoImplicit false
set_option relaxedAutoImplicit false

/-!
`HostLabelCluster` passes an always-synced key through and derives any other key from
the instance identity and a digest of the key, recording the pair in the mapping store.
`VirtualLabelCluster` passes through an always-synced key and a key outside the
reserved prefix, and looks any other key up in the store; a miss is the source's
`found = false`. A lookup never changes what the store reads
(`lookup_VirtualLabelCluster_snd`), and a derived key reads back to the key it was
derived from (`VirtualLabelCluster_HostLabelCluster`).
-/

namespace VClusterTranslate.Labels.KeyTranslation

open VClusterTranslate.Go.Library VClusterTranslate.Go.Range VClusterTranslate.Types
  VClusterTranslate.Naming.Names

variable (sum256 : GoString → Digest) (K : Keys) (ctx : SyncContext)

/-- `hostLabelCluster(key, vClusterNamespace)`, with the package variable `VClusterName`. -/
def hostLabelCluster (key vClusterNamespace vClusterName : GoString) : GoString :=
  SafeConcatName sum256 [K.labelPrefix, vClusterNamespace, lit "x", vClusterName, lit "x",
    (encodeToString (sum256 key).bytes).take 10]

private theorem hostLabelCluster_ne_nil (key vClusterNamespace vClusterName : GoString) :
    hostLabelCluster sum256 K key vClusterNamespace vClusterName ≠ [] :=
  SafeConcatName_ne_nil sum256 (by simp)

/-- Every derived key lies under the label prefix, whatever the key, the instance and the
digest, when the prefix is at most 52 bytes, holds no `.-` and does not end in `.`: the
shortening keeps the prefix, and the separator after it is no `.-`. So `VirtualLabelCluster`
reads every derived key that is not always synced from the store. -/
theorem hasPrefix_hostLabelCluster (key vClusterNamespace vClusterName : GoString)
    (short : K.labelPrefix.length ≤ 52) (clean : ¬ lit ".-" <:+: K.labelPrefix)
    (noFinalDot : K.labelPrefix.getLast? ≠ some 46) :
    hasPrefix (hostLabelCluster sum256 K key vClusterNamespace vClusterName) K.labelPrefix = true := by
  have apart : (K.labelPrefix ++ [45]).Chain' fun x y => ¬(x = 46 ∧ y = 45) := by
    rw [lit_dotDash, not_infix_pair_iff] at clean
    exact List.chain'_append.mpr ⟨clean, List.chain'_singleton _,
      fun x last _ _ dot => noFinalDot (dot.1 ▸ last)⟩
  unfold hostLabelCluster SafeConcatName
  rw [join_cons_cons, lit_dash]
  generalize join _ [45] = rest
  dsimp only
  split
  · simp only [List.append_assoc, List.take_append_eq_append_take, List.take_of_length_le short,
      List.singleton_append]
    generalize (encodeToString _).take 10 = digits
    have first : ((45 :: rest).take (52 - K.labelPrefix.length) ++ 45 :: digits).take 1 = [45] := by
      cases 52 - K.labelPrefix.length <;> rfl
    rw [replaceAll, lit_dotDash, List.length_append,
      replaceAllAux_pair_append _ _ _ (by rwa [first])]
    exact hasPrefix_append _ _
  · simp only [List.append_assoc]
    exact hasPrefix_append _ _

theorem appKey_under_labelPrefix :
    (sampleKeys.labelPrefix.length ≤ 52 ∧ ¬ lit ".-" <:+: sampleKeys.labelPrefix ∧
        sampleKeys.labelPrefix.getLast? ≠ some 46) ∧
      hasPrefix (hostLabelCluster paddedDigest sampleKeys (lit "app") (lit "ns") (lit "vc"))
        sampleKeys.labelPrefix = true :=
  ⟨⟨by decide, by decide, by decide⟩,
    hasPrefix_hostLabelCluster paddedDigest sampleKeys (lit "app") (lit "ns") (lit "vc")
      (by decide) (by decide) (by decide)⟩

/-- `VirtualLabelCluster`: the virtual key of a host label key, or `none` for the
source's `found = false`, with the store as the deferred `recordLabelCluster` leaves it. -/
def VirtualLabelCluster (store : MappingStore) (pLabel : GoString) :
    Option GoString × MappingStore :=
  if ctx.keyMatchesSyncedLabels pLabel then (some pLabel, store)
  else if !hasPrefix pLabel K.labelPrefix then (some pLabel, store)
  else
    match hostToVirtualLabelCluster store pLabel with
    | some vLabel => (some vLabel, recordLabelCluster store vLabel pLabel)
    | none => (none, recordLabelCluster store [] pLabel)

theorem VirtualLabelCluster_fst (store : MappingStore) (pLabel : GoString) :
    (VirtualLabelCluster K ctx store pLabel).1 =
      if ctx.keyMatchesSyncedLabels pLabel = true ∨ hasPrefix pLabel K.labelPrefix = false
      then some pLabel else store.lookup pLabel := by
  unfold VirtualLabelCluster hostToVirtualLabelCluster
  by_cases synced : ctx.keyMatchesSyncedLabels pLabel <;>
    by_cases reserved : hasPrefix pLabel K.labelPrefix <;> simp only [synced, reserved] <;>
    simp only [Bool.false_eq_true, Bool.not_true, Bool.not_false, ite_true, ite_false,
      or_self, or_true, true_or]
  split <;> simp_all

theorem lookup_VirtualLabelCluster_snd (store : MappingStore) (pLabel x : GoString) :
    (VirtualLabelCluster K ctx store pLabel).2.lookup x = store.lookup x := by
  unfold VirtualLabelCluster hostToVirtualLabelCluster
  split_ifs
  · rfl
  · rfl
  · split
    · exact lookup_recordLabelCluster_of_lookup ‹_› x
    · simp [lookup_recordLabelCluster]

variable (s : MultiNamespace)

/-- `HostLabelCluster`, with the store as the deferred `recordLabelCluster` leaves it. -/
def HostLabelCluster (store : MappingStore) (key : GoString) : GoString × MappingStore :=
  if ctx.keyMatchesSyncedLabels key then (key, store)
  else
    let retLabel := hostLabelCluster sum256 K key s.currentNamespace s.vClusterName
    (retLabel, recordLabelCluster store key retLabel)

/-- The key `HostLabelCluster` returns, which does not read the store. -/
def clusterLabel (key : GoString) : GoString :=
  if ctx.keyMatchesSyncedLabels key then key
  else hostLabelCluster sum256 K key s.currentNamespace s.vClusterName

theorem clusterLabel_of_synced {key : GoString} (synced : ctx.keyMatchesSyncedLabels key = true) :
    clusterLabel sum256 K ctx s key = key := by
  simp [clusterLabel, synced]

@[simp] theorem HostLabelCluster_fst (store : MappingStore) (key : GoString) :
    (HostLabelCluster sum256 K ctx s store key).1 = clusterLabel sum256 K ctx s key := by
  unfold HostLabelCluster clusterLabel; split <;> rfl

theorem lookup_HostLabelCluster_snd (store : MappingStore) (key x : GoString) :
    (HostLabelCluster sum256 K ctx s store key).2.lookup x =
      if ctx.keyMatchesSyncedLabels key = false ∧ key ≠ [] ∧ x = clusterLabel sum256 K ctx s key
      then some key else store.lookup x := by
  unfold HostLabelCluster clusterLabel
  by_cases synced : ctx.keyMatchesSyncedLabels key
  · simp [synced]
  · simp only [synced, Bool.false_eq_true, ite_false, lookup_recordLabelCluster,
      ne_eq, hostLabelCluster_ne_nil, not_false_eq_true, true_and]

/-- The keys whose derived key `HostLabelCluster` records. -/
def recordsKey (key : GoString) : Bool := !ctx.keyMatchesSyncedLabels key && decide (key ≠ [])

theorem HostLabelCluster_snd (store : MappingStore) (e : Entry) :
    (HostLabelCluster sum256 K ctx s store e.1).2 =
      insertRenamed (recordsKey ctx) (clusterLabel sum256 K ctx s) Sigma.fst store e := by
  obtain ⟨key, v⟩ := e
  unfold HostLabelCluster clusterLabel recordsKey insertRenamed recordLabelCluster
  by_cases synced : ctx.keyMatchesSyncedLabels key
  · simp [synced]
  · by_cases empty : key = []
    · subst empty; simp [synced]
    · simp [synced, empty, hostLabelCluster_ne_nil]

private theorem lookup_foldl_HostLabelCluster (keys : List GoString) (store : MappingStore) (x : GoString) :
    (keys.foldl (fun st key => (HostLabelCluster sum256 K ctx s st key).2) store).lookup x =
      (keys.reverse.find? fun key => recordsKey ctx key && clusterLabel sum256 K ctx s key == x).or
        (store.lookup x) := by
  induction keys generalizing store with
  | nil => simp
  | cons key keys ih =>
    rw [List.foldl_cons, ih, lookup_HostLabelCluster_snd, List.reverse_cons, List.find?_append,
      Option.or_assoc]
    congr 1
    have iff : (recordsKey ctx key && clusterLabel sum256 K ctx s key == x) = true ↔
        ctx.keyMatchesSyncedLabels key = false ∧ key ≠ [] ∧ x = clusterLabel sum256 K ctx s key := by
      simp only [recordsKey, Bool.and_eq_true, Bool.not_eq_true', decide_eq_true_eq, beq_iff_eq]
      exact ⟨fun h => ⟨h.1.1, h.1.2, h.2.symm⟩, fun h => ⟨⟨h.1, h.2.1⟩, h.2.2.symm⟩⟩
    by_cases records : (recordsKey ctx key && clusterLabel sum256 K ctx s key == x) = true
    · rw [if_pos (iff.mp records)]
      simp only [List.find?, records]
      rfl
    · rw [if_neg (mt iff.mpr records)]
      simp only [List.find?, Bool.not_eq_true] at records ⊢
      simp only [records, Option.none_or]

theorem lookup_foldl_HostLabelCluster_of_mem {keys : List GoString} (store : MappingStore)
    {k : GoString} (mem : k ∈ keys) (valid : k ≠ []) (notSynced : ctx.keyMatchesSyncedLabels k = false)
    (apart : ∀ k' ∈ keys, clusterLabel sum256 K ctx s k' = clusterLabel sum256 K ctx s k → k' = k) :
    (keys.foldl (fun st key => (HostLabelCluster sum256 K ctx s st key).2) store).lookup
      (clusterLabel sum256 K ctx s k) = some k := by
  let derivesTo := fun key => recordsKey ctx key && clusterLabel sum256 K ctx s key ==
    clusterLabel sum256 K ctx s k
  obtain ⟨k', found⟩ : ∃ k', keys.reverse.find? derivesTo = some k' :=
    Option.isSome_iff_exists.mp (List.find?_isSome.mpr
      ⟨k, List.mem_reverse.mpr mem, by simp [derivesTo, recordsKey, notSynced, valid]⟩)
  have same : clusterLabel sum256 K ctx s k' = clusterLabel sum256 K ctx s k := by
    have picked := List.find?_some found
    simp only [derivesTo, Bool.and_eq_true, beq_iff_eq] at picked
    exact picked.2
  rw [lookup_foldl_HostLabelCluster, found,
    apart k' (List.mem_reverse.mp (List.mem_of_find?_eq_some found)) same]
  rfl

private theorem VirtualLabelCluster_HostLabelCluster (store : MappingStore) {key : GoString}
    (valid : key ≠ [])
    (derived : ctx.keyMatchesSyncedLabels key = false →
      ctx.keyMatchesSyncedLabels (clusterLabel sum256 K ctx s key) = false ∧
        hasPrefix (clusterLabel sum256 K ctx s key) K.labelPrefix = true) :
    (VirtualLabelCluster K ctx (HostLabelCluster sum256 K ctx s store key).2
      (HostLabelCluster sum256 K ctx s store key).1).1 = some key := by
  rw [VirtualLabelCluster_fst, HostLabelCluster_fst, lookup_HostLabelCluster_snd]
  cases synced : ctx.keyMatchesSyncedLabels key
  · obtain ⟨notSynced, reserved⟩ := derived synced
    simp [notSynced, reserved, valid]
  · simp [clusterLabel, synced]

end VClusterTranslate.Labels.KeyTranslation
