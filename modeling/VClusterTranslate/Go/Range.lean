/- Go range loops over maps: copies under a key renaming, and loops that mutate their own map.
   digest: A renaming copy reads back through an injective renaming; a mutating loop is a run. -/

import VClusterTranslate.Go.Library

set_option autoImplicit false
set_option relaxedAutoImplicit false

/-!
A loop `for k, v := range m { r[f(k)] = g(k, v) }` whose body never writes `m` is a
fold over `m.entries`. A loop whose body deletes the entry it visits and creates
others is not: the Go specification lets each entry created during the iteration be
produced later or skipped, a choice that may differ from entry to entry and from one
iteration to the next. `RangeRun` is the relation of all the runs it allows; an
invariant that every visit keeps holds at the end of each of them
(`RangeRun.invariant`), and the run that skips every created entry always exists
(`RangeRun.exists_of_frame`).
-/

namespace VClusterTranslate.Go.Range

open VClusterTranslate.Go.Library

/-! ### Copying under a renaming -/

/-- One iteration of `for k, v := range m { if p(k) { r[f(k)] = g(k, v) } }`. -/
def insertRenamed (p : GoString → Bool) (f : GoString → GoString) (g : Entry → GoString)
    (r : GoMap) (e : Entry) : GoMap :=
  if p e.1 then r.insert (f e.1) (g e) else r

theorem lookup_foldl_insertRenamed (p : GoString → Bool) (f : GoString → GoString)
    (g : Entry → GoString) {l : List Entry} (nodup : l.NodupKeys) (r : GoMap) {k : GoString}
    (inj : ∀ e ∈ l, f e.1 = f k → e.1 = k) :
    (l.foldl (insertRenamed p f g) r).lookup (f k) =
      if p k then ((l.dlookup k).map fun v => g ⟨k, v⟩).or (r.lookup (f k))
      else r.lookup (f k) := by
  induction l generalizing r with
  | nil => by_cases hp : p k <;> simp [hp]
  | cons e l ih =>
    obtain ⟨fresh, nodup⟩ := List.nodupKeys_cons.mp nodup
    rw [List.foldl_cons, ih nodup _ fun e' he' => inj e' (.tail _ he')]
    by_cases hk : e.1 = k
    · obtain ⟨k', v⟩ := e
      subst hk
      have absent : l.dlookup k' = none := List.dlookup_eq_none.mpr fresh
      by_cases hp : p k' <;> simp [insertRenamed, hp, absent, List.dlookup_cons_eq]
    · have other : f e.1 ≠ f k := fun h => hk (inj e (.head _) h)
      have kept : (insertRenamed p f g r e).lookup (f k) = r.lookup (f k) := by
        unfold insertRenamed; split
        · exact AList.lookup_insert_ne (Ne.symm other)
        · rfl
      obtain ⟨k', v⟩ := e
      simp only [kept, List.dlookup_cons_ne _ _ (Ne.symm hk)]

theorem mem_foldl_insertRenamed (p : GoString → Bool) (f : GoString → GoString)
    (g : Entry → GoString) (l : List Entry) (r : GoMap) {x : GoString}
    (mem : x ∈ l.foldl (insertRenamed p f g) r) : x ∈ r ∨ ∃ e ∈ l, f e.1 = x := by
  induction l generalizing r with
  | nil => exact .inl mem
  | cons e l ih =>
    rcases ih _ mem with mem | ⟨e', he', rfl⟩
    · unfold insertRenamed at mem
      split at mem
      · rcases (AList.mem_insert _).mp mem with rfl | mem
        · exact .inr ⟨e, .head _, rfl⟩
        · exact .inl mem
      · exact .inl mem
    · exact .inr ⟨e', .tail _ he', rfl⟩

/-- One iteration of `for k, v := range m { r[labelFunc(k)] = v }`, for a label function
that reads and writes a state. -/
def renameStep {τ : Type} (labelFunc : τ → GoString → GoString × τ) (acc : GoMap × τ)
    (e : Entry) : GoMap × τ :=
  (acc.1.insert (labelFunc acc.2 e.1).1 e.2, (labelFunc acc.2 e.1).2)

theorem foldl_renameStep_snd {τ : Type} (labelFunc : τ → GoString → GoString × τ)
    (l : List Entry) (m : GoMap) (st : τ) :
    (l.foldl (renameStep labelFunc) (m, st)).2 = l.foldl (fun st e => (labelFunc st e.1).2) st := by
  induction l generalizing m st with
  | nil => rfl
  | cons e l ih => exact ih _ _

theorem foldl_renameStep_fst {τ : Type} (labelFunc : τ → GoString → GoString × τ)
    (f : GoString → GoString) (Good : τ → Prop) (keep : ∀ st k, Good st → Good (labelFunc st k).2)
    (label : ∀ st k, Good st → (labelFunc st k).1 = f k) (l : List Entry) (m : GoMap) {st : τ}
    (good : Good st) :
    (l.foldl (renameStep labelFunc) (m, st)).1 = l.foldl (insertRenamed (fun _ => true) f Sigma.snd) m := by
  induction l generalizing m st with
  | nil => rfl
  | cons e l ih =>
    simp only [List.foldl_cons, renameStep, insertRenamed, label st e.1 good, if_true]
    exact ih _ (keep st e.1 good)

/-! ### Loops that mutate the map they range over -/

section Run

variable {σ : Type} (entries : σ → GoMap) (body : GoString → GoString → σ → σ × List GoString)

/-- The runs of `for k, v := range entries t { body }` for a body that removes at most
the entry it visits. `body k v t` is the state after one visit together with the keys
of the entries that visit created, and `pending` holds the keys still to be produced:
each entry present at the start is produced once, and each created entry is produced
later or not at all. -/
inductive RangeRun : σ → List GoString → σ → Prop
  | done (t : σ) : RangeRun t [] t
  | visit {t t' : σ} {pending : List GoString} (k v : GoString) (produced : List GoString) :
      k ∈ pending → (entries t).lookup k = some v → produced.Sublist (body k v t).2 →
      RangeRun (body k v t).1 (pending.erase k ++ produced) t' → RangeRun t pending t'

variable {entries body}

/-- A property of the state and the pending keys that every visit keeps holds at the
end of every run. -/
theorem RangeRun.invariant {Inv : σ → List GoString → Prop}
    (step : ∀ t pending k v produced, Inv t pending → k ∈ pending →
      (entries t).lookup k = some v → produced.Sublist (body k v t).2 →
      Inv (body k v t).1 (pending.erase k ++ produced))
    {t t' : σ} {pending : List GoString} (run : RangeRun entries body t pending t')
    (init : Inv t pending) : Inv t' [] := by
  induction run with
  | done => exact init
  | visit k v produced mem found created _ ih =>
    exact ih (step _ _ k v produced init mem found created)

/-- A visit of the first pending key that produces every entry it created: they wait
behind the other pending keys. -/
theorem RangeRun.visit_head {t t₁ t' : σ} {k v : GoString} {rest created : List GoString}
    (found : (entries t).lookup k = some v) (visit : body k v t = (t₁, created))
    (run : RangeRun entries body t₁ (rest ++ created) t') :
    RangeRun entries body t (k :: rest) t' :=
  .visit k v created (.head _) found (by rw [visit]) (by rwa [List.erase_cons_head, visit])

/-- When a visit keeps every other entry, the run that produces no created entry visits
the pending keys in their order. -/
theorem RangeRun.exists_of_frame
    (frame : ∀ k v t, ∀ k' ≠ k, k' ∈ entries t → k' ∈ entries (body k v t).1) :
    ∀ (pending : List GoString) (t : σ), pending.Nodup → (∀ k ∈ pending, k ∈ entries t) →
      ∃ t', RangeRun entries body t pending t'
  | [], t, _, _ => ⟨t, .done t⟩
  | k :: rest, t, nodup, present => by
    obtain ⟨fresh, nodup⟩ := List.nodup_cons.mp nodup
    obtain ⟨v, found⟩ := Option.isSome_iff_exists.mp
      (AList.lookup_isSome.mpr (present k (.head _)))
    obtain ⟨t', run⟩ := exists_of_frame frame rest (body k v t).1 nodup fun k' mem =>
      frame k v t k' (fun h => fresh (h ▸ mem)) (present k' (.tail _ mem))
    exact ⟨t', .visit k v [] (.head _) found (List.nil_sublist _) (by simpa using run)⟩

end Run

end VClusterTranslate.Go.Range
