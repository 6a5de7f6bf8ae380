/- Label selectors: their standard semantics and the key rewrites of package translate.
   digest: A selector renamed like the label map selects the renamed labels just when it selected the labels. -/

import VClusterTranslate.Labels.Maps

set_option autoImplicit false
set_option relaxedAutoImplicit false

/-!
`hostLabelSelector` and `virtualLabelSelector` rewrite the keys of a selector's
`MatchLabels` and `MatchExpressions` with a label function that may record into the
mapping store: both are the loop `rewriteSelector`, over two kinds of label function.
What a selector selects is the standard semantics of `metav1.LabelSelectorAsSelector`,
`Selects`, which reads a label map only at the selector's keys. A selector renamed by
`f` selects the labels `ls'` exactly when it selected `ls`, once `ls'` agrees with `ls`
at each renamed key (`Selects_rename`). `HostLabelsMapCluster` gives such an `ls'` for
the keys `HostLabelCluster` keeps apart.

`MergeLabelSelectors` copies each selector's `MatchLabels` over the merged map and
appends its requirements. For each key the merge keeps the value of the last selector
that names it (`lookup_foldl_mergeLabelSelector`), so it selects every label map all the
selectors select, and no more when the selectors agree on their shared keys.
-/

namespace VClusterTranslate.Labels.Selector

open VClusterTranslate.Go.Library VClusterTranslate.Go.Range VClusterTranslate.Types
  VClusterTranslate.Naming.Names VClusterTranslate.Labels.KeyTranslation
  VClusterTranslate.Merge.ApplyMaps VClusterTranslate.Labels.Maps

/-- `metav1.LabelSelectorOperator`: the four operators of a requirement. -/
inductive LabelSelectorOperator
  | In | NotIn | Exists | DoesNotExist
  deriving DecidableEq

/-- `metav1.LabelSelectorRequirement`. -/
structure LabelSelectorRequirement where
  key : GoString
  operator : LabelSelectorOperator
  values : List GoString
  deriving DecidableEq

/-- `metav1.LabelSelector`; a nil `MatchLabels` is `none`. -/
structure LabelSelector where
  matchLabels : Option GoMap
  matchExpressions : List LabelSelectorRequirement

/-! ### Semantics -/

/-- Whether a requirement holds of a label map, as `labels.Requirement.Matches` decides. -/
def LabelSelectorRequirement.Matches (r : LabelSelectorRequirement) (ls : GoMap) : Bool :=
  match r.operator, ls.lookup r.key with
  | .In, some v => decide (v ∈ r.values)
  | .In, none => false
  | .NotIn, some v => !decide (v ∈ r.values)
  | .NotIn, none => true
  | .Exists, found => found.isSome
  | .DoesNotExist, found => found.isNone

/-- Whether a selector selects a label map: every `MatchLabels` pair and every
requirement holds. A nil selector selects nothing. -/
def Selects (selector : Option LabelSelector) (ls : GoMap) : Bool :=
  match selector with
  | none => false
  | some S => (S.matchLabels.getD ∅).entries.all (fun e => decide (ls.lookup e.1 = some e.2)) &&
      S.matchExpressions.all (·.Matches ls)

private theorem Selects_some_iff (S : LabelSelector) (ls : GoMap) :
    Selects (some S) ls = true ↔
      (∀ k v, (S.matchLabels.getD ∅).lookup k = some v → ls.lookup k = some v) ∧
        ∀ r ∈ S.matchExpressions, r.Matches ls = true := by
  simp only [Selects, Bool.and_eq_true, List.all_eq_true, decide_eq_true_eq]
  exact and_congr_left' ⟨fun h k v found => h ⟨k, v⟩ (AList.mem_lookup_iff.mp found),
    fun h e he => h e.1 e.2 (AList.mem_lookup_iff.mpr he)⟩

/-- The keys a selector reads. -/
def selectorKeys (selector : Option LabelSelector) : List GoString :=
  match selector with
  | none => []
  | some S => (S.matchLabels.getD ∅).keys ++ S.matchExpressions.map (·.key)

/-! ### Renaming a selector -/

/-- The copy of a map with every key renamed by `f`. -/
def renameMap (f : GoString → GoString) (m : GoMap) : GoMap :=
  m.entries.foldl (insertRenamed (fun _ => true) f Sigma.snd) ∅

/-- A selector with every key renamed by `f`. -/
def renameSelector (f : GoString → GoString) (S : LabelSelector) : LabelSelector :=
  ⟨S.matchLabels.map (renameMap f), S.matchExpressions.map fun r => { r with key := f r.key }⟩

private theorem lookup_renameMap (f : GoString → GoString) (m : GoMap) {k : GoString}
    (inj : ∀ k' ∈ m, f k' = f k → k' = k) : (renameMap f m).lookup (f k) = m.lookup k := by
  rw [renameMap, lookup_foldl_insertRenamed _ _ _ m.nodupKeys _
    fun e he => inj e.1 (List.mem_keys_of_mem he)]
  simp [dlookup_entries]

private theorem mem_renameMap {f : GoString → GoString} {m : GoMap} {x : GoString}
    (mem : x ∈ renameMap f m) : ∃ k ∈ m, f k = x := by
  rcases mem_foldl_insertRenamed _ _ _ _ _ mem with empty | ⟨e, he, rfl⟩
  · exact absurd empty (AList.not_mem_empty x)
  · exact ⟨e.1, List.mem_keys_of_mem he, rfl⟩

private theorem lookup_renameMap_renameMap (f g : GoString → GoString) (m : GoMap)
    (back : ∀ k ∈ m, f (g k) = k) (k : GoString) :
    (renameMap f (renameMap g m)).lookup k = m.lookup k := by
  by_cases mem : k ∈ m
  · have injG : ∀ k' ∈ m, g k' = g k → k' = k := fun k' mem' h => by
      rw [← back k' mem', h, back k mem]
    have injF : ∀ k' ∈ renameMap g m, f k' = f (g k) → k' = g k := fun k' mem' h => by
      obtain ⟨k'', mem'', rfl⟩ := mem_renameMap mem'
      rw [back k'' mem'', back k mem] at h
      rw [h]
    conv_lhs => rw [← back k mem]
    rw [lookup_renameMap f _ injF, lookup_renameMap g m injG]
  · rw [AList.lookup_eq_none.mpr mem, AList.lookup_eq_none]
    intro renamed
    obtain ⟨k', mem', rfl⟩ := mem_renameMap renamed
    obtain ⟨k'', mem'', rfl⟩ := mem_renameMap mem'
    exact mem (by rwa [back k'' mem''])

private theorem Matches_rename (f : GoString → GoString) (r : LabelSelectorRequirement) {ls ls' : GoMap}
    (agree : ls'.lookup (f r.key) = ls.lookup r.key) :
    ({ r with key := f r.key } : LabelSelectorRequirement).Matches ls' = r.Matches ls := by
  unfold LabelSelectorRequirement.Matches
  rw [agree]

private theorem matchLabels_rename (f : GoString → GoString) (m : GoMap) {ls ls' : GoMap}
    (inj : ∀ k₁ ∈ m, ∀ k₂ ∈ m, f k₁ = f k₂ → k₁ = k₂)
    (agree : ∀ k ∈ m, ls'.lookup (f k) = ls.lookup k) :
    (∀ e ∈ (renameMap f m).entries, ls'.lookup e.1 = some e.2) ↔
      ∀ e ∈ m.entries, ls.lookup e.1 = some e.2 := by
  have renamed : ∀ k ∈ m, (renameMap f m).lookup (f k) = m.lookup k :=
    fun k mem => lookup_renameMap f m fun k' mem' h => inj k' mem' k mem h
  constructor
  · intro holds e he
    have mem := List.mem_keys_of_mem he
    rw [← agree _ mem]
    exact holds ⟨f e.1, e.2⟩ (AList.mem_lookup_iff.mp
      (by rw [renamed _ mem]; exact lookup_entries_of_mem m he))
  · intro holds e he
    obtain ⟨k, mem, hk⟩ := mem_renameMap (List.mem_keys_of_mem he)
    have found : m.lookup k = some e.2 := by
      rw [← renamed k mem, hk]; exact lookup_entries_of_mem _ he
    rw [← hk, agree k mem]
    exact holds ⟨k, e.2⟩ (AList.mem_lookup_iff.mp found)

private theorem Selects_rename (f : GoString → GoString) (selector : Option LabelSelector) (ls ls' : GoMap)
    (inj : ∀ k₁ ∈ selectorKeys selector, ∀ k₂ ∈ selectorKeys selector, f k₁ = f k₂ → k₁ = k₂)
    (agree : ∀ k ∈ selectorKeys selector, ls'.lookup (f k) = ls.lookup k) :
    Selects (selector.map (renameSelector f)) ls' = Selects selector ls := by
  cases selector with
  | none => rfl
  | some S =>
    have labelKey : ∀ k ∈ S.matchLabels.getD ∅, k ∈ selectorKeys (some S) :=
      fun k mem => List.mem_append_left _ mem
    have exprKey : ∀ r ∈ S.matchExpressions, r.key ∈ selectorKeys (some S) :=
      fun r mem => List.mem_append_right _ (List.mem_map_of_mem _ mem)
    have renamedLabels : (S.matchLabels.map (renameMap f)).getD ∅ =
        renameMap f (S.matchLabels.getD ∅) := by
      cases S.matchLabels <;> rfl
    simp only [Selects, Option.map_some', renameSelector, renamedLabels, List.all_map]
    congr 1
    · rw [Bool.eq_iff_iff]
      simp only [List.all_eq_true, decide_eq_true_eq]
      exact matchLabels_rename f _
        (fun k₁ m₁ k₂ m₂ => inj k₁ (labelKey k₁ m₁) k₂ (labelKey k₂ m₂))
        fun k mem => agree k (labelKey k mem)
    · rw [Bool.eq_iff_iff]
      simp only [List.all_eq_true, Function.comp_apply]
      exact forall₂_congr fun r mem => by rw [Matches_rename f r (agree _ (exprKey r mem))]

/-! ### The rewrites of package translate -/

/-- One iteration of the loop over `MatchExpressions`: the requirement with its key
renamed by `labelFunc`. -/
def renameRequirement (labelFunc : MappingStore → GoString → GoString × MappingStore)
    (acc : List LabelSelectorRequirement × MappingStore) (r : LabelSelectorRequirement) :
    List LabelSelectorRequirement × MappingStore :=
  (acc.1 ++ [{ r with key := (labelFunc acc.2 r.key).1 }], (labelFunc acc.2 r.key).2)

/-- The body of `hostLabelSelector` and `virtualLabelSelector`: both loops rename with
`labelFunc`, threading the store it records into. -/
def rewriteSelector (labelFunc : MappingStore → GoString → GoString × MappingStore)
    (store : MappingStore) (labelSelector : Option LabelSelector) :
    Option LabelSelector × MappingStore :=
  match labelSelector with
  | none => (none, store)
  | some S =>
    let matchLabels : Option GoMap × MappingStore :=
      match S.matchLabels with
      | none => (none, store)
      | some m =>
        let acc := m.entries.foldl (renameStep labelFunc) (∅, store)
        (some acc.1, acc.2)
    let matchExpressions :=
      S.matchExpressions.foldl (renameRequirement labelFunc) ([], matchLabels.2)
    (some ⟨matchLabels.1, matchExpressions.1⟩, matchExpressions.2)

private theorem foldl_renameRequirement_fst (labelFunc : MappingStore → GoString → GoString × MappingStore)
    (f : GoString → GoString) (label : ∀ st k, (labelFunc st k).1 = f k)
    (l : List LabelSelectorRequirement) (acc : List LabelSelectorRequirement) (st : MappingStore) :
    (l.foldl (renameRequirement labelFunc) (acc, st)).1 =
      acc ++ l.map fun r => { r with key := f r.key } := by
  induction l generalizing acc st with
  | nil => simp
  | cons r l ih => simp [renameRequirement, label, ih]

private theorem rewriteSelector_fst (labelFunc : MappingStore → GoString → GoString × MappingStore)
    (f : GoString → GoString) (label : ∀ st k, (labelFunc st k).1 = f k) (store : MappingStore)
    (selector : Option LabelSelector) :
    (rewriteSelector labelFunc store selector).1 = selector.map (renameSelector f) := by
  rcases selector with _ | ⟨_ | m, exprs⟩ <;>
    simp [rewriteSelector, renameSelector, foldl_renameRequirement_fst labelFunc f label, renameMap,
      foldl_renameStep_fst labelFunc f (fun _ => True) (fun _ _ _ => trivial)
        (fun st k _ => label st k) _ _ trivial]

private theorem foldl_renameRequirement_snd (labelFunc : MappingStore → GoString → GoString × MappingStore)
    (l : List LabelSelectorRequirement) (acc : List LabelSelectorRequirement) (st : MappingStore) :
    (l.foldl (renameRequirement labelFunc) (acc, st)).2 =
      l.foldl (fun st r => (labelFunc st r.key).2) st := by
  induction l generalizing acc st with
  | nil => rfl
  | cons r l ih => exact ih _ _

private theorem rewriteSelector_snd (labelFunc : MappingStore → GoString → GoString × MappingStore)
    (store : MappingStore) (S : LabelSelector) :
    (rewriteSelector labelFunc store (some S)).2 =
      (selectorKeys (some S)).foldl (fun st k => (labelFunc st k).2) store := by
  rcases S with ⟨_ | m, exprs⟩ <;>
    simp [rewriteSelector, selectorKeys, foldl_renameRequirement_snd, foldl_renameStep_snd,
      AList.keys, List.keys, List.foldl_map]

private theorem foldl_renameRequirement_fst_of_good
    (labelFunc : MappingStore → GoString → GoString × MappingStore) (f : GoString → GoString)
    (Good : MappingStore → Prop) (keep : ∀ st k, Good st → Good (labelFunc st k).2)
    (label : ∀ st k, Good st → (labelFunc st k).1 = f k) (l : List LabelSelectorRequirement)
    (acc : List LabelSelectorRequirement) {st : MappingStore} (good : Good st) :
    (l.foldl (renameRequirement labelFunc) (acc, st)).1 =
      acc ++ l.map fun r => { r with key := f r.key } := by
  induction l generalizing acc st with
  | nil => simp
  | cons r l ih =>
    rw [List.foldl_cons, renameRequirement, ih _ (keep st r.key good), label st r.key good]
    simp

private theorem rewriteSelector_fst_of_good (labelFunc : MappingStore → GoString → GoString × MappingStore)
    (f : GoString → GoString) (Good : MappingStore → Prop)
    (keep : ∀ st k, Good st → Good (labelFunc st k).2)
    (label : ∀ st k, Good st → (labelFunc st k).1 = f k) {store : MappingStore} (good : Good store)
    (selector : Option LabelSelector) :
    (rewriteSelector labelFunc store selector).1 = selector.map (renameSelector f) := by
  have labelsGood : ∀ (l : List Entry) {st : MappingStore}, Good st →
      Good (l.foldl (renameStep labelFunc) (∅, st)).2 := fun l {st} good => by
    rw [foldl_renameStep_snd]
    induction l generalizing st with
    | nil => exact good
    | cons e l ih => exact ih (keep _ _ good)
  rcases selector with _ | ⟨_ | m, exprs⟩
  · rfl
  · simp [rewriteSelector, renameSelector,
      foldl_renameRequirement_fst_of_good labelFunc f Good keep label _ _ good]
  · simp [rewriteSelector, renameSelector, renameMap,
      foldl_renameStep_fst labelFunc f Good keep label _ _ good,
      foldl_renameRequirement_fst_of_good labelFunc f Good keep label _ _ (labelsGood m.entries good)]

def hostLabelSelector (store : MappingStore) (labelSelector : Option LabelSelector)
    (labelFunc : MappingStore → GoString → GoString × MappingStore) :
    Option LabelSelector × MappingStore :=
  rewriteSelector labelFunc store labelSelector

/-- `virtualLabelSelector`: a key the label function does not translate is kept. -/
def virtualLabelSelector (store : MappingStore) (labelSelector : Option LabelSelector)
    (labelFunc : MappingStore → GoString → Option GoString × MappingStore) :
    Option LabelSelector × MappingStore :=
  rewriteSelector (fun st k => ((labelFunc st k).1.getD k, (labelFunc st k).2)) store labelSelector

section Translator

variable (sum256 : GoString → Digest) (K : Keys) (ctx : SyncContext) (s : MultiNamespace)

def HostLabelSelectorCluster (store : MappingStore) (labelSelector : Option LabelSelector) :
    Option LabelSelector × MappingStore :=
  hostLabelSelector store labelSelector (HostLabelCluster sum256 K ctx s)

/-- `HostLabelSelector` with the multi-namespace translator as `Default`. -/
def HostLabelSelector (store : MappingStore) (labelSelector : Option LabelSelector)
    (vNamespace : GoString) : Option LabelSelector × MappingStore :=
  hostLabelSelector store labelSelector fun st key => (MultiNamespace.HostLabel key vNamespace, st)

def VirtualLabelSelectorCluster (store : MappingStore) (labelSelector : Option LabelSelector) :
    Option LabelSelector × MappingStore :=
  virtualLabelSelector store labelSelector (VirtualLabelCluster K ctx)

/-- `VirtualLabelSelector` with the multi-namespace translator as `Default`. -/
def VirtualLabelSelector (store : MappingStore) (labelSelector : Option LabelSelector)
    (vNamespace : GoString) : Option LabelSelector × MappingStore :=
  virtualLabelSelector store labelSelector fun st key =>
    (MultiNamespace.VirtualLabel key vNamespace, st)

/-- The host rewrite of a selector selects the host labels of a cluster-scoped object
just when the selector selects its labels, provided `HostLabelCluster` keeps the keys of
both apart and sends no selector key to the marker or controller label; for a namespaced
object the rewrite and the label map keep every key. Any two stores may be used. -/
theorem hostLabelSelector_selects (store store' : MappingStore) (selector : Option LabelSelector)
    (vLabels pLabels : GoMap)
    (inj : ∀ k₁ ∈ selectorKeys selector ++ vLabels.keys, ∀ k₂ ∈ selectorKeys selector ++ vLabels.keys,
      clusterLabel sum256 K ctx s k₁ = clusterLabel sum256 K ctx s k₂ → k₁ = k₂)
    (reserved : ∀ k ∈ selectorKeys selector,
      clusterLabel sum256 K ctx s k ≠ K.markerLabel ∧ clusterLabel sum256 K ctx s k ≠ K.controllerLabel)
    (labels : Option GoMap) (vNamespace : GoString) :
    Selects (HostLabelSelectorCluster sum256 K ctx s store selector).1
        (HostLabelsMapCluster sum256 K ctx s store' vLabels pLabels).1 = Selects selector vLabels ∧
      Selects (HostLabelSelector store selector vNamespace).1
        ((HostLabelsMap K ctx s labels pLabels vNamespace).getD ∅) =
          Selects selector (labels.getD ∅) := by
  constructor
  · rw [HostLabelSelectorCluster, hostLabelSelector,
      rewriteSelector_fst _ _ (HostLabelCluster_fst sum256 K ctx s)]
    refine Selects_rename _ selector _ _
      (fun k₁ m₁ k₂ m₂ =>
        inj k₁ (List.mem_append_left _ m₁) k₂ (List.mem_append_left _ m₂))
      fun k mem => ?_
    exact lookup_HostLabelsMapCluster sum256 K ctx s store' vLabels pLabels
      (fun k' mem' h => inj k' (List.mem_append_right _ (AList.mem_keys.mp mem')) k
        (List.mem_append_left _ mem) h) (reserved k mem).1 (reserved k mem).2
  · rw [HostLabelSelector, hostLabelSelector, rewriteSelector_fst _ id fun _ _ => rfl,
      HostLabelsMap_eq]
    exact Selects_rename id selector _ _ (fun _ _ _ _ h => h) fun _ _ => rfl

/-- The selector `app = web, tier exists` on a cluster-scoped object labelled
`app: web, tier: db`. -/
theorem hostLabelSelector_selects_app :
    let selector : Option LabelSelector :=
      some ⟨some ((∅ : GoMap).insert (lit "app") (lit "web")), [⟨lit "tier", .Exists, []⟩]⟩
    let vLabels : GoMap := ((∅ : GoMap).insert (lit "tier") (lit "db")).insert (lit "app") (lit "web")
    Selects (HostLabelSelectorCluster paddedDigest sampleKeys plainContext sampleInstance ∅ selector).1
        (HostLabelsMapCluster paddedDigest sampleKeys plainContext sampleInstance ∅ vLabels ∅).1 =
          Selects selector vLabels ∧
      Selects (HostLabelSelector ∅ selector (lit "default")).1
        ((HostLabelsMap sampleKeys plainContext sampleInstance (some vLabels) ∅ (lit "default")).getD ∅) =
          Selects selector vLabels :=
  hostLabelSelector_selects paddedDigest sampleKeys plainContext sampleInstance ∅ ∅ _ _ ∅
    (by decide) (by decide) (some _) (lit "default")

/-- A cluster-scoped selector translated to the host and back through the store the
host translation recorded into is the selector: the same requirements and the same
`MatchLabels`. The host translation must keep the selector's keys apart, and derive
from each key that is not always synced a key under the label prefix that is not
always synced either. -/
theorem virtualLabelSelectorCluster_hostLabelSelectorCluster (store : MappingStore)
    (S : LabelSelector) (valid : ∀ k ∈ selectorKeys (some S), k ≠ [])
    (inj : ∀ k₁ ∈ selectorKeys (some S), ∀ k₂ ∈ selectorKeys (some S),
      clusterLabel sum256 K ctx s k₁ = clusterLabel sum256 K ctx s k₂ → k₁ = k₂)
    (derived : ∀ k ∈ selectorKeys (some S), ctx.keyMatchesSyncedLabels k = false →
      ctx.keyMatchesSyncedLabels (clusterLabel sum256 K ctx s k) = false ∧
        hasPrefix (clusterLabel sum256 K ctx s k) K.labelPrefix = true) :
    let host := HostLabelSelectorCluster sum256 K ctx s store (some S)
    ∃ S', (VirtualLabelSelectorCluster K ctx host.2 host.1).1 = some S' ∧
      S'.matchExpressions = S.matchExpressions ∧ S'.matchLabels.isSome = S.matchLabels.isSome ∧
      ∀ k, (S'.matchLabels.getD ∅).lookup k = (S.matchLabels.getD ∅).lookup k := by
  intro host
  let g := clusterLabel sum256 K ctx s
  have hostStore : host.2 = (selectorKeys (some S)).foldl
      (fun st k => (HostLabelCluster sum256 K ctx s st k).2) store :=
    rewriteSelector_snd _ store S
  have readBack : ∀ k ∈ selectorKeys (some S), (VirtualLabelCluster K ctx host.2 (g k)).1 = some k := by
    intro k mem
    rw [VirtualLabelCluster_fst]
    cases synced : ctx.keyMatchesSyncedLabels k
    · obtain ⟨notSynced, reserved⟩ := derived k mem synced
      rw [if_neg (by simp [g, notSynced, reserved]), hostStore]
      exact lookup_foldl_HostLabelCluster_of_mem sum256 K ctx s store mem (valid k mem) synced
        fun k' mem' h => inj k' mem' k mem h
    · simp [g, clusterLabel_of_synced sum256 K ctx s synced, synced]
  let f : GoString → GoString := fun h => (VirtualLabelCluster K ctx host.2 h).1.getD h
  have back : ∀ k ∈ selectorKeys (some S), f (g k) = k := fun k mem => by
    simp only [f, readBack k mem, Option.getD_some]
  have hostSelector : host.1 = some (renameSelector g S) :=
    rewriteSelector_fst _ g (HostLabelCluster_fst sum256 K ctx s) store (some S)
  have renamed : (VirtualLabelSelectorCluster K ctx host.2 host.1).1 =
      some (renameSelector f (renameSelector g S)) := by
    rw [VirtualLabelSelectorCluster, virtualLabelSelector, hostSelector,
      rewriteSelector_fst_of_good _ f (fun st => ∀ x, st.lookup x = host.2.lookup x)
        (fun st k same x => by rw [lookup_VirtualLabelCluster_snd, same])
        (fun st k same => by simp only [f, VirtualLabelCluster_fst, same]) (fun _ => rfl)]
    rfl
  refine ⟨_, renamed, ?_, ?_, fun k => ?_⟩
  · conv_rhs => rw [← List.map_id S.matchExpressions]
    simp only [renameSelector, List.map_map]
    refine List.map_congr_left fun r mem => ?_
    simp only [Function.comp_apply, id]
    rw [back r.key (List.mem_append_right _ (List.mem_map_of_mem _ mem))]
  · rcases hS : S.matchLabels <;> simp [renameSelector, hS]
  · rcases hS : S.matchLabels with _ | m
    · simp [renameSelector, hS]
    · simp only [renameSelector, hS, Option.map_some', Option.getD_some]
      exact lookup_renameMap_renameMap f g m (fun k mem => back k (List.mem_append_left _
        (by simpa [selectorKeys, hS] using mem))) k

/-- The selector `app = web, tier exists` on the instance `ns`/`vc` comes back from the
host. -/
theorem appSelector_round_trip :
    let S : LabelSelector :=
      ⟨some ((∅ : GoMap).insert (lit "app") (lit "web")), [⟨lit "tier", .Exists, []⟩]⟩
    (∀ k ∈ selectorKeys (some S), k ≠ []) ∧
      (∀ k₁ ∈ selectorKeys (some S), ∀ k₂ ∈ selectorKeys (some S),
        clusterLabel paddedDigest sampleKeys plainContext sampleInstance k₁ =
          clusterLabel paddedDigest sampleKeys plainContext sampleInstance k₂ → k₁ = k₂) ∧
      (∀ k ∈ selectorKeys (some S), plainContext.keyMatchesSyncedLabels k = false →
        plainContext.keyMatchesSyncedLabels
            (clusterLabel paddedDigest sampleKeys plainContext sampleInstance k) = false ∧
          hasPrefix (clusterLabel paddedDigest sampleKeys plainContext sampleInstance k)
            sampleKeys.labelPrefix = true) ∧
      let host := HostLabelSelectorCluster paddedDigest sampleKeys plainContext sampleInstance ∅
        (some S)
      ∃ S', (VirtualLabelSelectorCluster sampleKeys plainContext host.2 host.1).1 = some S' ∧
        S'.matchExpressions = S.matchExpressions ∧ S'.matchLabels.isSome = S.matchLabels.isSome ∧
        ∀ k, (S'.matchLabels.getD ∅).lookup k = (S.matchLabels.getD ∅).lookup k :=
  ⟨by decide, by decide, by decide,
    virtualLabelSelectorCluster_hostLabelSelectorCluster paddedDigest sampleKeys plainContext
      sampleInstance ∅ _ (by decide) (by decide) (by decide)⟩

end Translator

/-! ### Iteration order

The host-side `MatchLabels` `{app: 1, k: 2}`, where `k` is the key `HostLabelCluster`
derived from `app` on the instance `ns`/`vc` and recorded in the store. Both keys
translate back to `app`, so the pair written last wins, and which one that is depends
on the order in which `range` visits the two entries. -/

/-- The store after `HostLabelCluster` derived the key of `app`. -/
def appStore : MappingStore :=
  (HostLabelCluster paddedDigest sampleKeys plainContext sampleInstance ∅ (lit "app")).2

/-- The key derived from `app`. -/
def appDerivedKey : GoString := clusterLabel paddedDigest sampleKeys plainContext sampleInstance (lit "app")

/-- `{app: 1, k: 2}` with `app` visited first. -/
def appMatchLabels₁ : GoMap := ((∅ : GoMap).insert appDerivedKey (lit "2")).insert (lit "app") (lit "1")

/-- `{app: 1, k: 2}` with `k` visited first. -/
def appMatchLabels₂ : GoMap := ((∅ : GoMap).insert (lit "app") (lit "1")).insert appDerivedKey (lit "2")

/-- The value `VirtualLabelSelectorCluster` gives `app` in the rewrite of `MatchLabels`. -/
def rewrittenApp (matchLabels : GoMap) : Option (Option GoString) :=
  ((VirtualLabelSelectorCluster sampleKeys plainContext appStore
    (some ⟨some matchLabels, []⟩)).1.bind (·.matchLabels)).map (·.lookup (lit "app"))

/-- Host-to-virtual label translation depends on the iteration order: two runs of
`VirtualLabelsMapCluster` on one host map return different maps, and one Go map of
`MatchLabels` rewrites to `app: 2` or to `app: 1` depending on the order of its entries. -/
theorem virtualLabels_depend_on_iteration_order :
    (VirtualLabelsMapCluster sampleKeys plainContext reservedAppHost.2 (some reservedAppHost.1)
        reservedAppLabels [] (some ∅, reservedAppHost.2) ∧
      VirtualLabelsMapCluster sampleKeys plainContext reservedAppHost.2 (some reservedAppHost.1)
        reservedAppLabels [] (some reservedAppLabels, reservedAppHost.2)) ∧
    (∀ k, appMatchLabels₁.lookup k = appMatchLabels₂.lookup k) ∧
    rewrittenApp appMatchLabels₁ = some (some (lit "2")) ∧
    rewrittenApp appMatchLabels₂ = some (some (lit "1")) := by
  refine ⟨⟨revisitRun_drops, revisitRun_keeps⟩, fun k => ?_, by decide, by decide⟩
  have distinct : appDerivedKey ≠ lit "app" := by decide
  simp only [appMatchLabels₁, appMatchLabels₂, lookup_insert_eq_ite]
  split_ifs <;> simp_all

/-! ### Merging selectors -/

/-- The `MatchLabels` of a selector; a nil selector has none. -/
def labelsOf : Option LabelSelector → GoMap
  | none => ∅
  | some S => S.matchLabels.getD ∅

/-- The requirements of a selector; a nil selector has none. -/
def requirementsOf : Option LabelSelector → List LabelSelectorRequirement
  | none => []
  | some S => S.matchExpressions

/-- One iteration of `MergeLabelSelectors`: a nil selector is skipped, a non-empty
`MatchLabels` is copied over the merged one, and the requirements are appended. -/
def mergeLabelSelector (out : LabelSelector) : Option LabelSelector → LabelSelector
  | none => out
  | some selector =>
    { matchLabels :=
        if 0 < (selector.matchLabels.getD ∅).entries.length then
          some ((selector.matchLabels.getD ∅).entries.foldl (insertIf fun _ => true)
            (out.matchLabels.getD ∅))
        else out.matchLabels
      matchExpressions := out.matchExpressions ++ selector.matchExpressions }

def MergeLabelSelectors (elems : List (Option LabelSelector)) : Option LabelSelector :=
  some (elems.foldl mergeLabelSelector ⟨none, []⟩)

private theorem lookup_mergeLabelSelector (out : LabelSelector) (selector : Option LabelSelector)
    (k : GoString) :
    ((mergeLabelSelector out selector).matchLabels.getD ∅).lookup k =
      ((labelsOf selector).lookup k).or ((out.matchLabels.getD ∅).lookup k) := by
  cases selector with
  | none => simp [mergeLabelSelector, labelsOf]
  | some S =>
    simp only [mergeLabelSelector, labelsOf]
    split_ifs with nonempty
    · simp [lookup_foldl_insertIf _ _ (S.matchLabels.getD ∅).nodupKeys, dlookup_entries]
    · simp_all [← dlookup_entries]

private theorem lookup_foldl_mergeLabelSelector (elems : List (Option LabelSelector)) (out : LabelSelector)
    (k : GoString) :
    ((elems.foldl mergeLabelSelector out).matchLabels.getD ∅).lookup k =
      (elems.reverse.findSome? fun selector => (labelsOf selector).lookup k).or
        ((out.matchLabels.getD ∅).lookup k) := by
  induction elems generalizing out with
  | nil => simp
  | cons selector elems ih =>
    rw [List.foldl_cons, ih, lookup_mergeLabelSelector, List.reverse_cons, List.findSome?_append,
      Option.or_assoc, List.findSome?_cons, List.findSome?_nil]
    cases (labelsOf selector).lookup k <;> rfl

private theorem foldl_mergeLabelSelector_matchExpressions (elems : List (Option LabelSelector))
    (out : LabelSelector) :
    (elems.foldl mergeLabelSelector out).matchExpressions =
      out.matchExpressions ++ elems.flatMap requirementsOf := by
  induction elems generalizing out with
  | nil => simp
  | cons selector elems ih => cases selector <;> simp [ih, mergeLabelSelector, requirementsOf]

private theorem Selects_MergeLabelSelectors (elems : List (Option LabelSelector)) (ls : GoMap) :
    Selects (MergeLabelSelectors elems) ls = true ↔
      (∀ k v, (elems.reverse.findSome? fun selector => (labelsOf selector).lookup k) = some v →
        ls.lookup k = some v) ∧
        ∀ selector ∈ elems, ∀ r ∈ requirementsOf selector, r.Matches ls = true := by
  simp [MergeLabelSelectors, Selects_some_iff, lookup_foldl_mergeLabelSelector,
    foldl_mergeLabelSelector_matchExpressions, List.mem_flatMap, @forall_swap LabelSelectorRequirement]

private theorem Selects_MergeLabelSelectors_of_forall {elems : List (Option LabelSelector)} {ls : GoMap}
    (all : ∀ S, some S ∈ elems → Selects (some S) ls = true) :
    Selects (MergeLabelSelectors elems) ls = true := by
  refine (Selects_MergeLabelSelectors elems ls).mpr ⟨fun k v found => ?_, ?_⟩
  · obtain ⟨selector, mem, hv⟩ := List.exists_of_findSome?_eq_some found
    cases selector with
    | none => simp [labelsOf] at hv
    | some S => exact ((Selects_some_iff S ls).mp (all S (List.mem_reverse.mp mem))).1 k v hv
  · rintro (_ | S) mem r hr
    · exact absurd hr (List.not_mem_nil r)
    · exact ((Selects_some_iff S ls).mp (all S mem)).2 r hr

/-- When the merged selectors give each shared `MatchLabels` key one value, the merge
selects exactly the label maps that all of them select. -/
theorem Selects_MergeLabelSelectors_iff {elems : List (Option LabelSelector)} (ls : GoMap)
    (agree : ∀ k, ∀ o₁ ∈ elems, ∀ o₂ ∈ elems, ∀ v₁ ∈ (labelsOf o₁).lookup k,
      ∀ v₂ ∈ (labelsOf o₂).lookup k, v₁ = v₂) :
    Selects (MergeLabelSelectors elems) ls = true ↔
      ∀ S, some S ∈ elems → Selects (some S) ls = true := by
  refine ⟨fun merged S mem => ?_, Selects_MergeLabelSelectors_of_forall⟩
  obtain ⟨labels, requirements⟩ := (Selects_MergeLabelSelectors elems ls).mp merged
  refine (Selects_some_iff S ls).mpr ⟨fun k v hv => ?_, requirements (some S) mem⟩
  obtain ⟨v', found⟩ : ∃ v', (elems.reverse.findSome? fun o => (labelsOf o).lookup k) = some v' :=
    Option.ne_none_iff_exists'.mp fun missing =>
      Option.some_ne_none v (hv.symm.trans
        (List.findSome?_eq_none_iff.mp missing (some S) (List.mem_reverse.mpr mem)))
  obtain ⟨o, mem', hv'⟩ := List.exists_of_findSome?_eq_some found
  rw [agree k (some S) mem o (List.mem_reverse.mp mem') v hv v' hv']
  exact labels k v' found

/-- `app = web` merged with `tier exists`: no key is named twice, so the merge selects
`app: web, tier: db` just when both selectors do. -/
theorem appTierSelectors_merge :
    let elems : List (Option LabelSelector) :=
      [some ⟨some ((∅ : GoMap).insert (lit "app") (lit "web")), []⟩,
        some ⟨none, [⟨lit "tier", .Exists, []⟩]⟩]
    let ls : GoMap := ((∅ : GoMap).insert (lit "tier") (lit "db")).insert (lit "app") (lit "web")
    (∀ k, ∀ o₁ ∈ elems, ∀ o₂ ∈ elems, ∀ v₁ ∈ (labelsOf o₁).lookup k,
      ∀ v₂ ∈ (labelsOf o₂).lookup k, v₁ = v₂) ∧
      (Selects (MergeLabelSelectors elems) ls = true ↔
        ∀ S, some S ∈ elems → Selects (some S) ls = true) := by
  intro elems ls
  have agree : ∀ k, ∀ o₁ ∈ elems, ∀ o₂ ∈ elems, ∀ v₁ ∈ (labelsOf o₁).lookup k,
      ∀ v₂ ∈ (labelsOf o₂).lookup k, v₁ = v₂ := by
    intro k o₁ h₁ o₂ h₂ v₁ hv₁ v₂ hv₂
    simp only [elems, List.mem_cons, List.mem_singleton, List.not_mem_nil, or_false] at h₁ h₂
    rcases h₁ with rfl | rfl <;> rcases h₂ with rfl | rfl <;>
      simp_all [labelsOf, Option.mem_def]
  exact ⟨agree, Selects_MergeLabelSelectors_iff ls agree⟩

private theorem lookup_labelsOf_MergeLabelSelectors (elems : List (Option LabelSelector)) (k : GoString) :
    (labelsOf (MergeLabelSelectors elems)).lookup k =
      elems.reverse.findSome? fun selector => (labelsOf selector).lookup k := by
  simp [MergeLabelSelectors, labelsOf, lookup_foldl_mergeLabelSelector]

private theorem requirementsOf_MergeLabelSelectors (elems : List (Option LabelSelector)) :
    requirementsOf (MergeLabelSelectors elems) = elems.flatMap requirementsOf := by
  simp [MergeLabelSelectors, requirementsOf, foldl_mergeLabelSelector_matchExpressions]

/-- Merging in stages merges the same, whatever the selectors and their conflicts: the
merge of two merges reads at every key of `MatchLabels` what the merge of the joined list
reads, has its requirements, and selects the same label maps. -/
theorem mergeLabelSelectors_in_stages (xs ys : List (Option LabelSelector)) :
    let staged := MergeLabelSelectors [MergeLabelSelectors xs, MergeLabelSelectors ys]
    let joined := MergeLabelSelectors (xs ++ ys)
    (∀ k, (labelsOf staged).lookup k = (labelsOf joined).lookup k) ∧
      requirementsOf staged = requirementsOf joined ∧ ∀ ls, Selects staged ls = Selects joined ls := by
  intro staged joined
  have labels : ∀ k, (labelsOf staged).lookup k = (labelsOf joined).lookup k := by
    intro k
    simp only [staged, joined, lookup_labelsOf_MergeLabelSelectors, List.reverse_append,
      List.findSome?_append, List.reverse_cons, List.reverse_nil, List.nil_append,
      List.singleton_append, List.findSome?_cons]
    cases (ys.reverse.findSome? fun selector => (labelsOf selector).lookup k) <;>
      cases (xs.reverse.findSome? fun selector => (labelsOf selector).lookup k) <;> rfl
  have requirements : requirementsOf staged = requirementsOf joined := by
    simp [staged, joined, requirementsOf_MergeLabelSelectors]
  refine ⟨labels, requirements, fun ls => Bool.eq_iff_iff.mpr ?_⟩
  simp only [staged, joined, MergeLabelSelectors, Selects_some_iff] at labels requirements ⊢
  simp only [labelsOf, requirementsOf] at labels requirements
  simp only [labels, requirements]

/-- Two selectors that ask for different values of `app`: the merge keeps the value of
the last one and selects `app: b`, which the first selector rejects. -/
theorem mergeLabelSelectors_conflict :
    let appA : LabelSelector := ⟨some ((∅ : GoMap).insert (lit "app") (lit "a")), []⟩
    let appB : LabelSelector := ⟨some ((∅ : GoMap).insert (lit "app") (lit "b")), []⟩
    let ls : GoMap := (∅ : GoMap).insert (lit "app") (lit "b")
    Selects (MergeLabelSelectors [some appA, some appB]) ls = true ∧
      Selects (some appB) ls = true ∧ Selects (some appA) ls = false := by
  decide

end VClusterTranslate.Labels.Selector
