/- The naming engine of the multi-namespace translator: SafeConcatName and host names.
   digest: Host names are joins with an `x` separator, so distinct identities can share one. -/

import Mathlib.Data.List.Infix
import VClusterTranslate.Types

set_option autoImplicit false
set_option relaxedAutoImplicit false

/-!
`SafeConcatName` joins its parts with `-` and shortens a join longer than 63 bytes
with a digest. The multi-namespace translator separates the parts of an instance
identity with the letter `x`, which is itself a legal character of those parts: the
digest input of `getNamespaceSuffix` and the joins of `HostNameCluster` and
`MarkerLabelCluster` are equal for distinct identities exactly when an `x`-delimited
block moves from one part to its neighbour. `SHA-256` is a parameter `sum256`.
-/

namespace VClusterTranslate.Naming.Names

open VClusterTranslate.Go.Library VClusterTranslate.Types

variable (sum256 : GoString → Digest)

/-- `SafeConcatName(name...)`. -/
def SafeConcatName (name : List GoString) : GoString :=
  let fullPath := join name (lit "-")
  if fullPath.length > 63 then
    let digest := sum256 fullPath
    replaceAll (fullPath.take 52 ++ lit "-" ++ (encodeToString digest.bytes).take 10) (lit ".-")
      (lit "-")
  else fullPath

private theorem SafeConcatName_of_le {name : List GoString} (short : (join name (lit "-")).length ≤ 63) :
    SafeConcatName sum256 name = join name (lit "-") := by
  simp [SafeConcatName, Nat.not_lt.mpr short]

theorem lit_dash : lit "-" = [45] := rfl

theorem lit_dotDash : lit ".-" = [46, 45] := rfl

private theorem lit_dotDot : lit ".." = [46, 46] := rfl

/-- `s` with a final `.` (the byte 46) dropped. -/
def dropFinalDot (s : GoString) : GoString :=
  if s.getLast? = some 46 then s.dropLast else s

private theorem replaceAll_truncated {P h : GoString} (lenP : P.length = 52) (lenH : h.length = 10)
    (hex : ∀ c ∈ h, IsLowerHex c) (noDotDash : P.Chain' fun x y => ¬(x = 46 ∧ y = 45))
    (noDotDot : P.Chain' fun x y => ¬(x = 46 ∧ y = 46)) :
    replaceAll (P ++ lit "-" ++ h) (lit ".-") (lit "-") = dropFinalDot P ++ lit "-" ++ h ∧
      (dropFinalDot P ++ lit "-" ++ h).Chain' fun x y => ¬(x = 46 ∧ y = 45) := by
  have digits : h.Chain' fun x y => ¬(x = 46 ∧ y = 45) :=
    chain'_pair_of_forall_ne fun c mem dot => absurd (hex c mem) (by rw [dot]; decide)
  have suffix : (45 :: h).Chain' fun x y => ¬(x = 46 ∧ y = 45) :=
    List.chain'_cons'.mpr ⟨fun _ _ found => by simp at found, digits⟩
  simp only [replaceAll, lit_dotDash, lit_dash, dropFinalDot, List.append_assoc,
    List.singleton_append]
  split
  case isTrue last =>
    obtain ⟨Q, rfl⟩ : ∃ Q, P = Q ++ [46] := ⟨_, (List.dropLast_append_getLast? _ last).symm⟩
    have lenQ : Q.length = 51 := by simpa using lenP
    have kept : ∀ x ∈ Q.getLast?, x ≠ 46 := fun x mem dot =>
      (List.chain'_append.mp noDotDot).2.2 x mem 46 rfl ⟨dot, rfl⟩
    have fuel : (Q ++ [46] ++ 45 :: h).length = Q.length + 12 := by simp [lenH]
    rw [List.dropLast_concat, fuel, List.append_assoc, List.singleton_append,
      replaceAllAux_pair_append _ _ 12 (by simpa using noDotDash), replaceAllAux_pair_match,
      replaceAllAux_pair_of_chain digits (by omega)]
    exact ⟨rfl, List.chain'_append.mpr ⟨noDotDash.left_of_append, suffix,
      fun x mem y _ found => kept x mem found.1⟩⟩
  case isFalse last =>
    have whole : (P ++ 45 :: h).Chain' fun x y => ¬(x = 46 ∧ y = 45) :=
      List.chain'_append.mpr ⟨noDotDash, suffix, fun x mem _ _ found =>
        last (found.1 ▸ Option.mem_def.mp mem)⟩
    exact ⟨replaceAllAux_pair_of_chain whole le_rfl, whole⟩

/-- The shortening rule: a name never exceeds 63 bytes, a join that fits is returned as
it is, and a longer join with no `..` and no `.-` becomes its first 52 bytes with a final
`.` dropped, the separator and ten lowercase hex digits of its digest, and holds no `.-`. -/
theorem safeConcatName_shortening (parts : List GoString) :
    let fullPath := join parts (lit "-")
    (SafeConcatName sum256 parts).length ≤ 63 ∧
      (fullPath.length ≤ 63 → SafeConcatName sum256 parts = fullPath) ∧
      (63 < fullPath.length → ¬ lit ".." <:+: fullPath → ¬ lit ".-" <:+: fullPath →
        let digits := (encodeToString (sum256 fullPath).bytes).take 10
        SafeConcatName sum256 parts = dropFinalDot (fullPath.take 52) ++ lit "-" ++ digits ∧
          digits.length = 10 ∧ (∀ c ∈ digits, IsLowerHex c) ∧
          ¬ lit ".-" <:+: SafeConcatName sum256 parts) := by
  intro fullPath
  have digitsLength := length_hex_prefix (sum256 fullPath) 10 (by decide)
  have hexDigits : ∀ c ∈ (encodeToString (sum256 fullPath).bytes).take 10, IsLowerHex c :=
    fun c mem => isLowerHex_of_mem_encodeToString (List.mem_of_mem_take mem)
  refine ⟨?_, SafeConcatName_of_le sum256, fun long noDotDot noDotDash => ?_⟩
  · unfold SafeConcatName
    dsimp only
    split
    · refine (length_replaceAllAux_le (by decide) _ _).trans ?_
      simp only [List.length_append, List.length_take, digitsLength, lit_dash,
        List.length_singleton]
      omega
    · omega
  · rw [lit_dotDot, not_infix_pair_iff] at noDotDot
    rw [lit_dotDash, not_infix_pair_iff] at noDotDash
    have truncated := replaceAll_truncated (List.length_take_of_le (by omega)) digitsLength
      hexDigits (noDotDash.take 52) (noDotDot.take 52)
    have shortened : SafeConcatName sum256 parts = replaceAll
        (fullPath.take 52 ++ lit "-" ++ (encodeToString (sum256 fullPath).bytes).take 10)
        (lit ".-") (lit "-") := if_pos long
    rw [shortened, truncated.1, lit_dotDash, not_infix_pair_iff]
    exact ⟨rfl, digitsLength, hexDigits, truncated.2⟩

/-- A 64-byte name whose 52nd byte is `.`. -/
def dottedName : GoString := lit "aaaaaaaaaaaaaaaaaaaaaaaaaaaaaaaaaaaaaaaaaaaaaaaaaaa.bbbbbbbbbbbb"

/-- `dottedName` holds no `..` and no `.-`, so it is cut to 52 bytes, its final `.` meets
the separator and is dropped, and ten hex digits of the digest follow. -/
theorem dottedName_shortened :
    63 < dottedName.length ∧ ¬ lit ".." <:+: dottedName ∧ ¬ lit ".-" <:+: dottedName ∧
      SafeConcatName paddedDigest [dottedName] =
        lit "aaaaaaaaaaaaaaaaaaaaaaaaaaaaaaaaaaaaaaaaaaaaaaaaaaa-6161616161" ∧
      ¬ lit ".-" <:+: SafeConcatName paddedDigest [dottedName] := by
  have one : join [dottedName] (lit "-") = dottedName := by simp [join, List.intercalate]
  have long : 63 < dottedName.length := by decide
  have noDotDot : ¬ lit ".." <:+: dottedName := by decide
  have noDotDash : ¬ lit ".-" <:+: dottedName := by decide
  have shortening := (safeConcatName_shortening paddedDigest [dottedName]).2.2
  rw [one] at shortening
  obtain ⟨shortened, -, -, clean⟩ := shortening long noDotDot noDotDash
  exact ⟨long, noDotDot, noDotDash, shortened.trans (by decide), clean⟩

/-- `multiNamespace`, together with the package variable `VClusterName` it reads: the
identity of one vcluster instance. -/
structure MultiNamespace where
  currentNamespace : GoString
  vClusterName : GoString
  deriving DecidableEq

def getNamespacePrefix : GoString := lit "vcluster"

/-- The digest input of `getNamespaceSuffix`: `currentNamespace + "x" + suffix`. -/
def namespaceSuffixInput (currentNamespace suffix : GoString) : GoString :=
  currentNamespace ++ lit "x" ++ suffix

/-- `getNamespaceSuffix`: the first eight hex digits of the digest of the identity. -/
def getNamespaceSuffix (currentNamespace suffix : GoString) : GoString :=
  (encodeToString (sum256 (namespaceSuffixInput currentNamespace suffix)).bytes).take 8

/-- `hostNamespace`: `fmt.Sprintf("%s-%s-%s", prefix, hex8(vNamespace), suffix8)`. -/
def hostNamespace (currentNamespace vNamespace pre suffix : GoString) : GoString :=
  pre ++ lit "-" ++ (encodeToString (sum256 vNamespace).bytes).take 8 ++ lit "-" ++
    getNamespaceSuffix sum256 currentNamespace suffix

namespace MultiNamespace

variable (s : MultiNamespace)

/-- `HostName`: names are kept in the multi-namespace mode. -/
def HostName (name _vNamespace : GoString) : GoString := name

/-- `SingleNamespaceTarget`: the translator spreads virtual namespaces over host
namespaces. -/
def SingleNamespaceTarget : Bool := false

/-- `HostLabel`: label keys of namespaced objects are kept. -/
def HostLabel (vLabel _vNamespace : GoString) : GoString := vLabel

/-- `VirtualLabel`: every host label key of a namespaced object translates to itself. -/
def VirtualLabel (pLabel _vNamespace : GoString) : Option GoString := some pLabel

def HostNameCluster (name : GoString) : GoString :=
  if name = [] then [] else
    SafeConcatName sum256 [lit "vcluster", name, lit "x", s.currentNamespace, lit "x", s.vClusterName]

def MarkerLabelCluster : GoString :=
  SafeConcatName sum256 [s.currentNamespace, lit "x", s.vClusterName]

/-- `HostNamespace`: an administrator pin first, else the hashed host namespace. -/
def HostNamespace (ctx : SyncContext) (vNamespace : GoString) : GoString :=
  match ctx.virtualNamespaceMatchesMapping vNamespace with
  | some pNamespace => pNamespace
  | none => hostNamespace sum256 s.currentNamespace vNamespace getNamespacePrefix s.vClusterName

def IsTargetedNamespace (ctx : SyncContext) (pNamespace : GoString) : Bool :=
  match ctx.hostNamespaceMatchesMapping pNamespace with
  | some _ => true
  | none => hasPrefix pNamespace getNamespacePrefix &&
      hasSuffix pNamespace (getNamespaceSuffix sum256 s.currentNamespace s.vClusterName)

end MultiNamespace

/-! ### RFC 1123 labels -/

/-- A byte of `[a-z0-9]`. -/
def isLowerAlnum (b : UInt8) : Bool := (97 ≤ b && b ≤ 122) || (48 ≤ b && b ≤ 57)

/-- An RFC 1123 label: one to 63 bytes of `[a-z0-9-]`, alphanumeric at both ends. -/
def IsDNS1123Label (s : GoString) : Prop :=
  s ≠ [] ∧ s.length ≤ 63 ∧ (∀ b ∈ s, isLowerAlnum b ∨ b = 45) ∧ s.head?.all isLowerAlnum ∧
    s.getLast?.all isLowerAlnum

instance (s : GoString) : Decidable (IsDNS1123Label s) :=
  inferInstanceAs (Decidable (_ ∧ _ ∧ _ ∧ _ ∧ _))

/-! ### The digest input of the namespace suffix -/

private theorem lit_x : lit "x" = [120] := rfl

/-- Two identities give one digest input exactly when they are equal or an
`x`-delimited block `w` moves between the namespace and the vcluster name. -/
theorem namespaceSuffixInput_eq_iff (n₁ c₁ n₂ c₂ : GoString) :
    namespaceSuffixInput n₁ c₁ = namespaceSuffixInput n₂ c₂ ↔
      (n₁ = n₂ ∧ c₁ = c₂) ∨ (∃ w, n₂ = n₁ ++ lit "x" ++ w ∧ c₁ = w ++ lit "x" ++ c₂) ∨
        (∃ w, n₁ = n₂ ++ lit "x" ++ w ∧ c₂ = w ++ lit "x" ++ c₁) := by
  simp only [namespaceSuffixInput, List.append_assoc]
  constructor
  · intro h
    rcases List.append_eq_append_iff.mp h with ⟨t, rfl, ht⟩ | ⟨t, rfl, ht⟩
    · cases t with
      | nil => exact .inl ⟨by simp, by simpa using ht⟩
      | cons b t =>
        simp only [lit_x, List.cons_append, List.nil_append, List.singleton_append,
          List.cons.injEq] at ht
        exact .inr (.inl ⟨t, by simp [lit_x, ← ht.1], by simp [lit_x, ht.2]⟩)
    · cases t with
      | nil => exact .inl ⟨by simp, by simpa using ht.symm⟩
      | cons b t =>
        simp only [lit_x, List.cons_append, List.nil_append, List.singleton_append,
          List.cons.injEq] at ht
        exact .inr (.inr ⟨t, by simp [lit_x, ← ht.1], by simp [lit_x, ht.2]⟩)
  · rintro (⟨rfl, rfl⟩ | ⟨w, rfl, rfl⟩ | ⟨w, rfl, rfl⟩) <;> simp

theorem hasPrefix_append (pre rest : GoString) : hasPrefix (pre ++ rest) pre = true := by
  simp [hasPrefix]

private theorem hasSuffix_append (rest suf : GoString) : hasSuffix (rest ++ suf) suf = true := by
  simp [hasSuffix]

/-- An instance targets every hashed host namespace built from an identity with its own
digest input, whatever the digest and the administrator pins. -/
theorem isTargetedNamespace_hostNamespace (s : MultiNamespace) (ctx : SyncContext)
    {currentNamespace suffix : GoString} (vNamespace : GoString)
    (same : namespaceSuffixInput currentNamespace suffix =
      namespaceSuffixInput s.currentNamespace s.vClusterName) :
    s.IsTargetedNamespace sum256 ctx
      (hostNamespace sum256 currentNamespace vNamespace getNamespacePrefix suffix) = true := by
  unfold MultiNamespace.IsTargetedNamespace
  cases ctx.hostNamespaceMatchesMapping _
  · simp only [hostNamespace, getNamespaceSuffix, same, hasSuffix_append, Bool.and_true]
    simp [hasPrefix, List.append_assoc]
  · rfl

/-- The identities (`ax`, `b`) and (`a`, `xb`), all RFC 1123 labels, share the digest
input `axxb`: whatever the digest and the pins, they get one namespace suffix, map every
virtual namespace to one host namespace, and each targets the other's host namespaces. -/
theorem namespaceSuffix_shared :
    IsDNS1123Label (lit "ax") ∧ IsDNS1123Label (lit "b") ∧ IsDNS1123Label (lit "a") ∧
      IsDNS1123Label (lit "xb") ∧ (⟨lit "ax", lit "b"⟩ : MultiNamespace) ≠ ⟨lit "a", lit "xb"⟩ ∧
      namespaceSuffixInput (lit "ax") (lit "b") = namespaceSuffixInput (lit "a") (lit "xb") ∧
      ∀ (sum256 : GoString → Digest) (ctx : SyncContext) (vNamespace : GoString),
        getNamespaceSuffix sum256 (lit "ax") (lit "b") = getNamespaceSuffix sum256 (lit "a") (lit "xb") ∧
        MultiNamespace.HostNamespace sum256 ⟨lit "ax", lit "b"⟩ ctx vNamespace =
          MultiNamespace.HostNamespace sum256 ⟨lit "a", lit "xb"⟩ ctx vNamespace ∧
        MultiNamespace.IsTargetedNamespace sum256 ⟨lit "ax", lit "b"⟩ ctx
          (hostNamespace sum256 (lit "a") vNamespace getNamespacePrefix (lit "xb")) = true ∧
        MultiNamespace.IsTargetedNamespace sum256 ⟨lit "a", lit "xb"⟩ ctx
          (hostNamespace sum256 (lit "ax") vNamespace getNamespacePrefix (lit "b")) = true := by
  have same :
      namespaceSuffixInput (lit "ax") (lit "b") = namespaceSuffixInput (lit "a") (lit "xb") := by
    decide
  refine ⟨by decide, by decide, by decide, by decide, by decide, same,
    fun sum256 ctx vNamespace => ⟨by simp only [getNamespaceSuffix, same], ?_,
      isTargetedNamespace_hostNamespace sum256 _ ctx _ same.symm,
      isTargetedNamespace_hostNamespace sum256 _ ctx _ same⟩⟩
  simp only [MultiNamespace.HostNamespace, hostNamespace, getNamespaceSuffix, same]

/-! ### The hashed host namespace -/

private theorem isLowerAlnum_of_isLowerHex {c : UInt8} (hex : IsLowerHex c) : isLowerAlnum c := by
  unfold IsLowerHex at hex
  simp [isLowerAlnum, UInt8.le_def, BitVec.le_def, UInt8.toNat] at hex ⊢
  omega

private theorem hex_prefix_label (d : Digest) :
    ((encodeToString d.bytes).take 8).length = 8 ∧
      ∀ b ∈ (encodeToString d.bytes).take 8, isLowerAlnum b := by
  refine ⟨?_, fun _ mem => ?_⟩
  · exact length_hex_prefix d 8 (by decide)
  · exact isLowerAlnum_of_isLowerHex (isLowerHex_of_mem_encodeToString (List.mem_of_mem_take mem))

private theorem hostNamespace_label (currentNamespace vNamespace suffix : GoString) :
    let pNamespace := hostNamespace sum256 currentNamespace vNamespace getNamespacePrefix suffix
    IsDNS1123Label pNamespace ∧ pNamespace.length = 26 := by
  obtain ⟨len₁, alnum₁⟩ := hex_prefix_label (sum256 vNamespace)
  obtain ⟨len₂, alnum₂⟩ := hex_prefix_label (sum256 (namespaceSuffixInput currentNamespace suffix))
  simp only [hostNamespace, getNamespaceSuffix, getNamespacePrefix]
  generalize (encodeToString (sum256 vNamespace).bytes).take 8 = A at len₁ alnum₁ ⊢
  generalize (encodeToString (sum256 (namespaceSuffixInput currentNamespace suffix)).bytes).take 8 = B
    at len₂ alnum₂ ⊢
  have len : (lit "vcluster" ++ lit "-" ++ A ++ lit "-" ++ B).length = 26 := by
    simp [len₁, len₂, lit_dash, show (lit "vcluster").length = 8 from rfl]
  have last : B ≠ [] := by rintro rfl; cases len₂
  refine ⟨⟨List.ne_nil_of_length_pos (by omega), by omega, fun b mem => ?_,
    by simp only [List.append_assoc]; rfl, ?_⟩, len⟩
  · simp only [List.mem_append, lit_dash, List.mem_singleton] at mem
    rcases mem with (((word | dash) | hex) | dash) | hex
    · exact .inl (by revert word b; decide)
    · exact .inr dash
    · exact .inl (alnum₁ b hex)
    · exact .inr dash
    · exact .inl (alnum₂ b hex)
  · rw [List.getLast?_append_of_ne_nil _ last, List.getLast?_eq_getLast _ last]
    exact alnum₂ _ (List.getLast_mem last)

/-- A virtual namespace that no pin maps is synced into a host namespace that is an
RFC 1123 label of 26 bytes, however long the virtual namespace and whatever the identity
and the digest, and that the instance recognises as one of its own. -/
theorem hostNamespace_own_label (s : MultiNamespace) (ctx : SyncContext) (vNamespace : GoString)
    (unpinned : ctx.virtualNamespaceMatchesMapping vNamespace = none) :
    let pNamespace := s.HostNamespace sum256 ctx vNamespace
    IsDNS1123Label pNamespace ∧ pNamespace.length = 26 ∧
      s.IsTargetedNamespace sum256 ctx pNamespace = true := by
  simp only [MultiNamespace.HostNamespace, unpinned]
  exact ⟨(hostNamespace_label sum256 _ _ _).1, (hostNamespace_label sum256 _ _ _).2,
    isTargetedNamespace_hostNamespace sum256 s ctx vNamespace rfl⟩

theorem teamNamespace_own_label :
    plainContext.virtualNamespaceMatchesMapping (lit "default") = none ∧
      let pNamespace := (⟨lit "team-a", lit "vc"⟩ : MultiNamespace).HostNamespace paddedDigest
        plainContext (lit "default")
      IsDNS1123Label pNamespace ∧ pNamespace.length = 26 ∧
        (⟨lit "team-a", lit "vc"⟩ : MultiNamespace).IsTargetedNamespace paddedDigest plainContext
          pNamespace = true :=
  ⟨rfl, hostNamespace_own_label paddedDigest ⟨lit "team-a", lit "vc"⟩ plainContext (lit "default") rfl⟩

/-! ### Cluster-scoped names and markers -/

private theorem lit_dash_x : lit "-x" = [45, 120] := rfl

theorem join_cons_cons (a b : GoString) (l : List GoString) (sep : GoString) :
    join (a :: b :: l) sep = a ++ sep ++ join (b :: l) sep := by
  simp [join, List.intercalate]

private theorem join_singleton (a sep : GoString) : join [a] sep = a := by
  simp [join, List.intercalate]

theorem SafeConcatName_ne_nil {name : List GoString} (two : 2 ≤ name.length) :
    SafeConcatName sum256 name ≠ [] := by
  obtain ⟨a, b, l, rfl⟩ : ∃ a b l, name = a :: b :: l := by
    match name, two with | a :: b :: l, _ => exact ⟨a, b, l, rfl⟩
  unfold SafeConcatName
  dsimp only
  split
  · exact replaceAll_ne_nil (by simp [lit_dash]) (by simp [lit_dash])
  · simp [join_cons_cons, lit_dash]

/-- A name part that a `-x-` separator cannot be moved into: it holds no `-x-` and does
not end in `-x`. -/
def SplitsCleanly (part : GoString) : Prop :=
  ¬lit "-x-" <:+: part ∧ ¬lit "-x" <:+ part

instance (part : GoString) : Decidable (SplitsCleanly part) :=
  inferInstanceAs (Decidable (_ ∧ _))

private theorem lit_dash_x_dash : lit "-x-" = [45, 120, 45] := rfl

/- The separator of the shorter split cannot start inside the longer part `b₂ = b₁ ++ t`:
one byte of overlap mismatches, two leave `b₂` ending in `-x`, three put `-x-` in it. -/
private theorem eq_of_sep_overlap {b₁ b₂ s₁ s₂ : GoString} (t : GoString)
    (clean : SplitsCleanly b₂) (hb₂ : b₂ = b₁ ++ t)
    (ht : [45, 120, 45] ++ s₁ = t ++ ([45, 120, 45] ++ s₂)) : b₁ = b₂ ∧ s₁ = s₂ := by
  match t, ht with
  | [], ht => exact ⟨by simp [hb₂], by simpa using ht⟩
  | [_], ht => simp at ht
  | [_, _], ht =>
    simp only [List.cons_append, List.nil_append, List.cons.injEq] at ht
    obtain ⟨rfl, rfl, -⟩ := ht
    exact absurd ⟨b₁, by simp [hb₂, lit_dash_x]⟩ clean.2
  | _ :: _ :: _ :: t', ht =>
    simp only [List.cons_append, List.cons.injEq] at ht
    obtain ⟨rfl, rfl, rfl, -⟩ := ht
    exact absurd ⟨b₁, t', by simp [hb₂, lit_dash_x_dash]⟩ clean.1

private theorem eq_of_append_sep_eq {a₁ a₂ r₁ r₂ : GoString} (h₁ : SplitsCleanly a₁)
    (h₂ : SplitsCleanly a₂) (h : a₁ ++ ([45, 120, 45] ++ r₁) = a₂ ++ ([45, 120, 45] ++ r₂)) :
    a₁ = a₂ ∧ r₁ = r₂ := by
  rcases List.append_eq_append_iff.mp h with ⟨t, ha₂, ht⟩ | ⟨t, ha₁, ht⟩
  · exact eq_of_sep_overlap t h₂ ha₂ ht
  · obtain ⟨e, r⟩ := eq_of_sep_overlap t h₁ ha₁ ht
    exact ⟨e.symm, r.symm⟩

private theorem eq_of_identity_join_eq {s₁ s₂ : MultiNamespace}
    (h₁ : SplitsCleanly s₁.currentNamespace) (h₂ : SplitsCleanly s₂.currentNamespace)
    (h : s₁.currentNamespace ++ ([45, 120, 45] ++ s₁.vClusterName) =
      s₂.currentNamespace ++ ([45, 120, 45] ++ s₂.vClusterName)) : s₁ = s₂ := by
  obtain ⟨hn, hc⟩ := eq_of_append_sep_eq h₁ h₂ h
  cases s₁; cases s₂
  exact congrArg₂ MultiNamespace.mk hn hc

private theorem join_hostNameCluster (name currentNamespace vClusterName : GoString) :
    join [lit "vcluster", name, lit "x", currentNamespace, lit "x", vClusterName] (lit "-") =
      lit "vcluster" ++ [45] ++ (name ++ ([45, 120, 45] ++ (currentNamespace ++
        ([45, 120, 45] ++ vClusterName)))) := by
  simp [join_cons_cons, join_singleton, lit_x, lit_dash]

private theorem join_markerLabelCluster (currentNamespace vClusterName : GoString) :
    join [currentNamespace, lit "x", vClusterName] (lit "-") =
      currentNamespace ++ ([45, 120, 45] ++ vClusterName) := by
  simp [join_cons_cons, join_singleton, lit_x, lit_dash]

/-- Two instances, names all RFC 1123 labels and joins within 63 bytes: the virtual name
`a` of (`b-x-c`, `d`) and `a-x-b` of (`c`, `d`) get one cluster-scoped host name, and the
instances (`a-x-b`, `c`) and (`a`, `b-x-c`) stamp one marker label, whatever the digest. -/
theorem clusterNames_shared :
    IsDNS1123Label (lit "a") ∧ IsDNS1123Label (lit "a-x-b") ∧ IsDNS1123Label (lit "b-x-c") ∧
      IsDNS1123Label (lit "c") ∧ IsDNS1123Label (lit "d") ∧
      (join [lit "vcluster", lit "a", lit "x", lit "b-x-c", lit "x", lit "d"] (lit "-")).length ≤ 63 ∧
      (join [lit "a-x-b", lit "x", lit "c"] (lit "-")).length ≤ 63 ∧
      lit "a" ≠ lit "a-x-b" ∧ (⟨lit "a-x-b", lit "c"⟩ : MultiNamespace) ≠ ⟨lit "a", lit "b-x-c"⟩ ∧
      ∀ sum256 : GoString → Digest,
        MultiNamespace.HostNameCluster sum256 ⟨lit "b-x-c", lit "d"⟩ (lit "a") =
          MultiNamespace.HostNameCluster sum256 ⟨lit "c", lit "d"⟩ (lit "a-x-b") ∧
        MultiNamespace.MarkerLabelCluster sum256 ⟨lit "a-x-b", lit "c"⟩ =
          MultiNamespace.MarkerLabelCluster sum256 ⟨lit "a", lit "b-x-c"⟩ := by
  have short₁ : (join [lit "vcluster", lit "a", lit "x", lit "b-x-c", lit "x", lit "d"]
    (lit "-")).length ≤ 63 := by decide
  have short₂ : (join [lit "vcluster", lit "a-x-b", lit "x", lit "c", lit "x", lit "d"]
    (lit "-")).length ≤ 63 := by decide
  have marker₁ : (join [lit "a-x-b", lit "x", lit "c"] (lit "-")).length ≤ 63 := by decide
  have marker₂ : (join [lit "a", lit "x", lit "b-x-c"] (lit "-")).length ≤ 63 := by decide
  refine ⟨by decide, by decide, by decide, by decide, by decide, short₁, marker₁, by decide,
    by decide, fun sum256 => ⟨?_, ?_⟩⟩
  · simp only [MultiNamespace.HostNameCluster, if_neg (by decide : lit "a" ≠ []),
      if_neg (by decide : lit "a-x-b" ≠ []), SafeConcatName_of_le sum256 short₁,
      SafeConcatName_of_le sum256 short₂]
    decide
  · simp only [MultiNamespace.MarkerLabelCluster, SafeConcatName_of_le sum256 marker₁,
      SafeConcatName_of_le sum256 marker₂]
    decide

/-- On the unshortened path, cluster-scoped host names determine the virtual name and the
instance, and marker labels the instance, when the virtual names and the namespaces
split cleanly at `-x-`. -/
theorem clusterNames_injective (s₁ s₂ : MultiNamespace) (m₁ m₂ : GoString) :
    ((join [lit "vcluster", m₁, lit "x", s₁.currentNamespace, lit "x", s₁.vClusterName]
          (lit "-")).length ≤ 63 →
        (join [lit "vcluster", m₂, lit "x", s₂.currentNamespace, lit "x", s₂.vClusterName]
          (lit "-")).length ≤ 63 →
        SplitsCleanly m₁ → SplitsCleanly m₂ → SplitsCleanly s₁.currentNamespace →
        SplitsCleanly s₂.currentNamespace → m₁ ≠ [] → m₂ ≠ [] →
        s₁.HostNameCluster sum256 m₁ = s₂.HostNameCluster sum256 m₂ → m₁ = m₂ ∧ s₁ = s₂) ∧
      ((join [s₁.currentNamespace, lit "x", s₁.vClusterName] (lit "-")).length ≤ 63 →
        (join [s₂.currentNamespace, lit "x", s₂.vClusterName] (lit "-")).length ≤ 63 →
        SplitsCleanly s₁.currentNamespace → SplitsCleanly s₂.currentNamespace →
        s₁.MarkerLabelCluster sum256 = s₂.MarkerLabelCluster sum256 → s₁ = s₂) := by
  refine ⟨fun short₁ short₂ name₁ name₂ namespace₁ namespace₂ ne₁ ne₂ h => ?_,
    fun short₁ short₂ namespace₁ namespace₂ h => ?_⟩
  · simp only [MultiNamespace.HostNameCluster, if_neg ne₁, if_neg ne₂,
      SafeConcatName_of_le sum256 short₁, SafeConcatName_of_le sum256 short₂,
      join_hostNameCluster, List.append_assoc, List.append_cancel_left_eq] at h
    obtain ⟨rfl, rest⟩ := eq_of_append_sep_eq name₁ name₂ h
    exact ⟨rfl, eq_of_identity_join_eq namespace₁ namespace₂ rest⟩
  · simp only [MultiNamespace.MarkerLabelCluster, SafeConcatName_of_le sum256 short₁,
      SafeConcatName_of_le sum256 short₂, join_markerLabelCluster] at h
    exact eq_of_identity_join_eq namespace₁ namespace₂ h

/-- Names with `-x` inside a segment are isolated: the instances (`team-xray`, `vc`) and
(`team`, `xray-vc`) give the virtual name `web-x1` different cluster-scoped host names and
stamp different marker labels. -/
theorem xrayClusterNames_differ :
    MultiNamespace.HostNameCluster paddedDigest ⟨lit "team-xray", lit "vc"⟩ (lit "web-x1") ≠
        MultiNamespace.HostNameCluster paddedDigest ⟨lit "team", lit "xray-vc"⟩ (lit "web-x1") ∧
      MultiNamespace.MarkerLabelCluster paddedDigest ⟨lit "team-xray", lit "vc"⟩ ≠
        MultiNamespace.MarkerLabelCluster paddedDigest ⟨lit "team", lit "xray-vc"⟩ :=
  ⟨fun h => absurd ((clusterNames_injective paddedDigest ⟨lit "team-xray", lit "vc"⟩
      ⟨lit "team", lit "xray-vc"⟩ (lit "web-x1") (lit "web-x1")).1 (by decide) (by decide)
      (by decide) (by decide) (by decide) (by decide) (by decide) (by decide) h).2 (by decide),
    fun h => absurd ((clusterNames_injective paddedDigest ⟨lit "team-xray", lit "vc"⟩
      ⟨lit "team", lit "xray-vc"⟩ (lit "web-x1") (lit "web-x1")).2 (by decide) (by decide)
      (by decide) (by decide) h) (by decide)⟩

end VClusterTranslate.Naming.Names
