/- Go strings, maps, sorting and hex encoding as package translate reads them.
   digest: Byte strings, association-list maps with Go's zero-value reads, Split after Join. -/

import Mathlib.Data.List.AList
import Mathlib.Data.List.Chain
import Mathlib.Data.List.Sort

set_option autoImplicit false
set_option relaxedAutoImplicit false

/-!
A Go `string` is an immutable byte sequence, so it is a `List UInt8` here and
`len` is `List.length`. A Go map is an association list with distinct keys; its
entry order is the unspecified order of `range`, so a statement about every
iteration order is a statement about every `GoMap` with the same lookups.
A nil map reads like an empty one and the package never writes to one, so the
two are not told apart.
-/

namespace VClusterTranslate.Go.Library

/-- A Go `string`: its bytes. -/
abbrev GoString := List UInt8

/-- The bytes of a string literal of the source, `[]byte("...")`. -/
def lit (s : String) : GoString := s.data.flatMap String.utf8EncodeChar

/-- The byte of `"\n"`. -/
def newline : UInt8 := 10

/-- `strings.Join`. -/
def join (elems : List GoString) (sep : GoString) : GoString := sep.intercalate elems

/-- `strings.Split` with a one-byte separator, the only kind the package passes. -/
def split (s : GoString) (sep : UInt8) : List GoString := s.splitOn sep

/-- `strings.HasPrefix`. -/
def hasPrefix (s pre : GoString) : Bool := pre.isPrefixOf s

/-- `strings.HasSuffix`. -/
def hasSuffix (s suf : GoString) : Bool := suf.isSuffixOf s

theorem hasPrefix_trans {s p q : GoString} (hs : hasPrefix s p = true) (hp : hasPrefix p q = true) :
    hasPrefix s q = true := by
  simp only [hasPrefix, List.isPrefixOf_iff_prefix] at *
  exact hp.trans hs

/-- The scan of `strings.ReplaceAll`, with `fuel` bounding the bytes left to scan. -/
def replaceAllAux (old new : GoString) : Nat → GoString → GoString
  | 0, s => s
  | _ + 1, [] => []
  | fuel + 1, c :: s =>
    if old ≠ [] ∧ old.isPrefixOf (c :: s) then
      new ++ replaceAllAux old new fuel ((c :: s).drop old.length)
    else c :: replaceAllAux old new fuel s

/-- `strings.ReplaceAll` for a non-empty pattern, the only kind the package passes:
every non-overlapping occurrence of `old`, scanned from the left, becomes `new`. -/
def replaceAll (s old new : GoString) : GoString := replaceAllAux old new s.length s

private theorem replaceAllAux_nil (old new : GoString) (fuel : Nat) : replaceAllAux old new fuel [] = [] := by
  cases fuel <;> rfl

theorem length_replaceAllAux_le {old new : GoString} (shorter : new.length ≤ old.length) :
    ∀ (fuel : Nat) (s : GoString), (replaceAllAux old new fuel s).length ≤ s.length
  | 0, _ => le_rfl
  | _ + 1, [] => le_rfl
  | fuel + 1, c :: s => by
    simp only [replaceAllAux]
    split
    · rename_i found
      have fits := (List.isPrefixOf_iff_prefix.mp found.2).length_le
      have rest := length_replaceAllAux_le shorter fuel ((c :: s).drop old.length)
      simp only [List.length_append, List.length_drop] at rest fits ⊢
      omega
    · have rest := length_replaceAllAux_le shorter fuel s
      simp only [List.length_cons]
      omega

/-! The scan for a two-byte pattern `a b`, step by step: a match is replaced and
skipped, any other byte is kept. A string holds no `a b` exactly when each byte and the
next are not `a` then `b`, a `List.Chain'`. -/

theorem not_infix_pair_iff (a b : UInt8) (l : GoString) :
    ¬ [a, b] <:+: l ↔ l.Chain' fun x y => ¬(x = a ∧ y = b) := by
  induction l with
  | nil => simp
  | cons x l ih =>
    rw [List.infix_cons_iff, not_or, ih, List.chain'_cons']
    cases l with
    | nil => simp
    | cons y l => simp [and_comm, eq_comm]

theorem chain'_pair_of_forall_ne {a b : UInt8} {l : GoString} (absent : ∀ c ∈ l, c ≠ a) :
    l.Chain' fun x y => ¬(x = a ∧ y = b) := by
  induction l with
  | nil => exact List.chain'_nil
  | cons c l ih =>
    exact List.chain'_cons'.mpr ⟨fun _ _ found => absent c (.head _) found.1,
      ih fun c' mem => absent c' (.tail _ mem)⟩

theorem replaceAllAux_pair_match (a b : UInt8) (new t : GoString) (n : Nat) :
    replaceAllAux [a, b] new (n + 1) (a :: b :: t) = new ++ replaceAllAux [a, b] new n t := by
  simp [replaceAllAux, List.isPrefixOf]

private theorem replaceAllAux_pair_skip {a b c : UInt8} {new s : GoString} (n : Nat)
    (skip : ∀ y ∈ s.head?, ¬(c = a ∧ y = b)) :
    replaceAllAux [a, b] new (n + 1) (c :: s) = c :: replaceAllAux [a, b] new n s := by
  rw [replaceAllAux, if_neg]
  rintro ⟨-, found⟩
  cases s with
  | nil => simp [List.isPrefixOf] at found
  | cons y s =>
    simp only [List.isPrefixOf, Bool.and_eq_true, beq_iff_eq] at found
    exact skip y rfl ⟨found.1.symm, found.2.1.symm⟩

theorem replaceAllAux_pair_append {a b : UInt8} {new : GoString} (p t : GoString) (n : Nat)
    (clear : (p ++ t.take 1).Chain' fun x y => ¬(x = a ∧ y = b)) :
    replaceAllAux [a, b] new (p.length + n) (p ++ t) = p ++ replaceAllAux [a, b] new n t := by
  induction p with
  | nil => simp
  | cons c p ih =>
    rw [List.cons_append, List.chain'_cons'] at clear
    have head : (p ++ t).head? = (p ++ t.take 1).head? := by
      cases p <;> cases t <;> rfl
    rw [List.length_cons, Nat.add_right_comm, List.cons_append,
      replaceAllAux_pair_skip _ (head ▸ clear.1), ih clear.2, List.cons_append]

theorem replaceAllAux_pair_of_chain {a b : UInt8} {new s : GoString} {fuel : Nat}
    (clear : s.Chain' fun x y => ¬(x = a ∧ y = b)) (enough : s.length ≤ fuel) :
    replaceAllAux [a, b] new fuel s = s := by
  obtain ⟨n, rfl⟩ := Nat.exists_eq_add_of_le enough
  simpa [replaceAllAux_nil] using @replaceAllAux_pair_append a b new s [] n (by simpa using clear)

theorem replaceAll_ne_nil {s old new : GoString} (hs : s ≠ []) (hnew : new ≠ []) :
    replaceAll s old new ≠ [] := by
  obtain ⟨c, s, rfl⟩ := List.exists_cons_of_ne_nil hs
  simp only [replaceAll, List.length_cons, replaceAllAux]
  split <;> simp [hnew]

/-- `sort.Strings`: ascending bytewise order. Any sorting algorithm gives this list. -/
def sortStrings (l : List GoString) : List GoString := l.insertionSort (· ≤ ·)

/-- A Go `map[string]string`. -/
abbrev GoMap := AList (fun _ : GoString => GoString)

/-- A map entry as `range` yields it. -/
abbrev Entry := Σ _ : GoString, GoString

/-- `m[k]`: a missing key reads as the zero value `""`. -/
def index (m : GoMap) (k : GoString) : GoString := (m.lookup k).getD []

/-- The result of `sha256.Sum256`: 32 bytes. -/
structure Digest where
  bytes : List UInt8
  length_bytes : bytes.length = 32

/-- A stand-in for `sha256.Sum256` when evaluating the model on concrete inputs: the
first 32 bytes of the input, padded with zeros. -/
def paddedDigest (s : GoString) : Digest := ⟨(s ++ List.replicate 32 0).take 32, by simp⟩

/-- One lowercase hexadecimal digit of `encoding/hex`. -/
def hexDigit (n : Nat) : UInt8 := if n < 10 then UInt8.ofNat (48 + n) else UInt8.ofNat (87 + n)

/-- `hex.EncodeToString`: two lowercase digits per byte, high nibble first. -/
def encodeToString (src : List UInt8) : GoString :=
  src.flatMap fun b => [hexDigit (b.toNat / 16), hexDigit (b.toNat % 16)]

/-- A lowercase hexadecimal digit, `0`-`9` or `a`-`f`. -/
def IsLowerHex (c : UInt8) : Prop :=
  48 ≤ c.toNat ∧ c.toNat ≤ 57 ∨ 97 ≤ c.toNat ∧ c.toNat ≤ 102

instance (c : UInt8) : Decidable (IsLowerHex c) := inferInstanceAs (Decidable (_ ∨ _))

private theorem isLowerHex_hexDigit : ∀ n < 16, IsLowerHex (hexDigit n) := by decide

theorem isLowerHex_of_mem_encodeToString {src : List UInt8} {c : UInt8}
    (mem : c ∈ encodeToString src) : IsLowerHex c := by
  simp only [encodeToString, List.mem_flatMap, List.mem_cons, List.mem_singleton,
    List.not_mem_nil, or_false] at mem
  obtain ⟨b, -, rfl | rfl⟩ := mem
  · exact isLowerHex_hexDigit _ (Nat.div_lt_of_lt_mul b.toNat_lt_size)
  · exact isLowerHex_hexDigit _ (Nat.mod_lt _ (by decide))

private theorem length_encodeToString (src : List UInt8) :
    (encodeToString src).length = 2 * src.length := by
  induction src with
  | nil => rfl
  | cons b src ih =>
    simp only [encodeToString, List.flatMap_cons, List.length_append] at ih ⊢
    simp [ih]
    omega

theorem length_hex_prefix (d : Digest) (n : Nat) (h : n ≤ 64) :
    ((encodeToString d.bytes).take n).length = n := by
  simp [length_encodeToString, d.length_bytes]
  omega

/-! ### Split after Join -/

theorem split_nil (sep : UInt8) : split [] sep = [[]] := rfl

/-- `strings.Split` undoes `strings.Join` on a non-empty list of pieces that do not
contain the separator. -/
theorem split_join {ks : List GoString} {sep : UInt8} (fresh : ∀ k ∈ ks, sep ∉ k)
    (ne : ks ≠ []) : split (join ks [sep]) sep = ks :=
  List.splitOn_intercalate ks sep fresh ne

theorem join_eq_nil_of_ne_nil {ks : List GoString} {sep : GoString}
    (nonempty : ∀ k ∈ ks, k ≠ []) (h : join ks sep = []) : ks = [] := by
  cases ks with
  | nil => rfl
  | cons k ks =>
    have head : k = [] := by
      cases ks with
      | nil => simpa [join, List.intercalate] using h
      | cons k' ks => simp [join, List.intercalate, List.intersperse] at h; exact h.1
    exact absurd head (nonempty k (List.mem_cons_self k ks))

theorem mem_sortStrings {k : GoString} {l : List GoString} : k ∈ sortStrings l ↔ k ∈ l :=
  (List.perm_insertionSort _ l).mem_iff

theorem sortStrings_eq_nil {l : List GoString} : sortStrings l = [] ↔ l = [] := by
  rw [← List.length_eq_zero, ← List.length_eq_zero, sortStrings,
    (List.perm_insertionSort _ l).length_eq]

/-! ### The order of `sort.Strings`

Go compares strings byte by byte: core's lexicographic `List.lt` on `List UInt8`, whose
`≤` is `¬ t < s`. It is a linear order, so `sort.Strings` gives one result for every
ordering of one list. -/

private theorem byte_eq_of_not_lt {a b : UInt8} (ab : ¬a < b) (ba : ¬b < a) : a = b :=
  UInt8.eq_of_toBitVec_eq (BitVec.le_antisymm (UInt8.not_lt.mp ba) (UInt8.not_lt.mp ab))

private theorem lt_trichotomy_bytes : ∀ s t : GoString, List.lt s t ∨ s = t ∨ List.lt t s
  | [], [] => .inr (.inl rfl)
  | [], _ :: _ => .inl (.nil ..)
  | _ :: _, [] => .inr (.inr (.nil ..))
  | a :: s, b :: t =>
    if ab : a < b then .inl (.head _ _ ab)
    else if ba : b < a then .inr (.inr (.head _ _ ba))
    else by
      obtain rfl := byte_eq_of_not_lt ab ba
      rcases lt_trichotomy_bytes s t with lt | rfl | gt
      · exact .inl (.tail ab ab lt)
      · exact .inr (.inl rfl)
      · exact .inr (.inr (.tail ab ab gt))

private theorem lt_trans_bytes {s t u : GoString} (st : List.lt s t) (tu : List.lt t u) : List.lt s u :=
  List.lt_trans UInt8.lt_trans
    (fun xy yz => UInt8.not_lt.mpr (UInt8.le_trans (UInt8.not_lt.mp yz) (UInt8.not_lt.mp xy)))
    st tu

instance : IsTotal GoString (· ≤ ·) where
  total s _ := not_and_or.mp fun ⟨ts, st⟩ => List.lt_irrefl UInt8.lt_irrefl s (lt_trans_bytes st ts)

instance : IsTrans GoString (· ≤ ·) where
  trans s t _ ts ut us := by
    rcases lt_trichotomy_bytes s t with st | rfl | lt
    · exact ut (lt_trans_bytes us st)
    · exact ut us
    · exact ts lt

instance : IsAntisymm GoString (· ≤ ·) where
  antisymm _ _ ts st := List.lt_antisymm byte_eq_of_not_lt st ts

theorem sorted_sortStrings (l : List GoString) : (sortStrings l).Sorted (· ≤ ·) :=
  List.sorted_insertionSort _ l

theorem sortStrings_eq_of_perm {l₁ l₂ : List GoString} (perm : l₁.Perm l₂) :
    sortStrings l₁ = sortStrings l₂ :=
  List.eq_of_perm_of_sorted
    ((List.perm_insertionSort _ l₁).trans (perm.trans (List.perm_insertionSort _ l₂).symm))
    (sorted_sortStrings l₁) (sorted_sortStrings l₂)

/-! ### Map reads -/

@[simp] theorem index_empty (k : GoString) : index ∅ k = [] := rfl

theorem lookup_insert_eq_ite (m : GoMap) (k k' v : GoString) :
    (m.insert k v).lookup k' = if k' = k then some v else m.lookup k' := by
  split_ifs with h
  · subst h; exact AList.lookup_insert m
  · exact AList.lookup_insert_ne h

theorem lookup_erase_eq_ite (m : GoMap) (k k' : GoString) :
    (m.erase k).lookup k' = if k' = k then none else m.lookup k' := by
  split_ifs with h
  · subst h; exact AList.lookup_erase k' m
  · exact AList.lookup_erase_ne h

end VClusterTranslate.Go.Library
