/- Mirroring a custom resource definition from the host cluster: EnsureCRDFromPhysicalCluster.
   digest: A nil error means the kind was served, or a definition of the host's name is ready. -/

import VClusterTranslate.Go.Library

set_option autoImplicit false
set_option relaxedAutoImplicit false

/-!
Each cluster is a store of `CustomResourceDefinition`s, keyed by name as the API server
keys them; the server admits a definition only under the name `plural.group`, so the
store carries that as a field. Discovery lists a kind at a group version exactly when
an established definition serves that version, and every API call of a run may fail:
`Faults` gives the failure of each call site, and the readiness wait reads a list of
polls. `EnsureCRDFromPhysicalCluster` either finds the kind served in the virtual
cluster, or copies the host definition reduced to the requested version and waits for
it to be established. "Already exists" counts as success on creation, so a definition
of the same name that serves other versions satisfies the wait.
-/

namespace VClusterTranslate.Schema.EnsureCRD

open VClusterTranslate.Go.Library

/-- `schema.GroupVersionKind`. -/
structure GroupVersionKind where
  group : GoString
  version : GoString
  kind : GoString
  deriving DecidableEq

/-- `GroupVersionKind.String()`. -/
def GroupVersionKind.String (gvk : GroupVersionKind) : GoString :=
  gvk.group ++ lit "/" ++ gvk.version ++ lit ", Kind=" ++ gvk.kind

/-- `schema.GroupResource.String()`. -/
def groupResourceString (resource group : GoString) : GoString :=
  if group = [] then resource else resource ++ lit "." ++ group

/-- An entry of `Spec.Versions`: its name, `Served`, `Storage`, and whether it declares
a status subresource. -/
structure CRDVersion where
  name : GoString
  served : Bool
  storage : Bool
  status : Bool
  deriving DecidableEq

/-- A `CustomResourceDefinition`: its name, `Spec.Group`, `Spec.Names.Kind`,
`Spec.Names.Plural`, whether `Spec.Scope` is `Cluster`, `Spec.Versions`, and whether
its `Established` condition is true. -/
structure CRD where
  name : GoString
  group : GoString
  kind : GoString
  plural : GoString
  clusterScoped : Bool
  versions : List CRDVersion
  established : Bool
  deriving DecidableEq

/-- The name the API server admits for a definition. -/
def CRD.WellNamed (crd : CRD) : Prop :=
  crd.group ≠ [] ∧ crd.name = groupResourceString crd.plural crd.group

instance (crd : CRD) : Decidable crd.WellNamed := inferInstanceAs (Decidable (_ ∧ _))

/-- The definitions of one cluster. -/
structure Cluster where
  crds : List CRD
  wellNamed : ∀ crd ∈ crds, crd.WellNamed
  unique : (crds.map (·.name)).Nodup

/-- An error of the API machinery, with the wrapping of `fmt.Errorf` and `errors.Wrap`. -/
inductive ApiError
  | notFound
  | alreadyExists
  | failed
  | wrap (message : GoString) (cause : ApiError)
  | text (message : GoString)
  deriving DecidableEq

/-- `kerrors.IsNotFound`, which looks through wrapping. -/
def ApiError.IsNotFound : ApiError → Bool
  | .notFound => true
  | .wrap _ cause => cause.IsNotFound
  | _ => false

/-- `kerrors.IsAlreadyExists`. -/
def ApiError.IsAlreadyExists : ApiError → Bool
  | .alreadyExists => true
  | .wrap _ cause => cause.IsAlreadyExists
  | _ => false

/-! ### The API server -/

namespace Cluster

/-- `CustomResourceDefinitions().Get(name)` when the call goes through. -/
def find (c : Cluster) (name : GoString) : Option CRD := c.crds.find? (·.name == name)

/-- `CustomResourceDefinitions().Create(crd)`: a taken name is `AlreadyExists`, a name
other than `plural.group` is rejected, and any other definition is stored. -/
def create (c : Cluster) (crd : CRD) : Except ApiError Cluster :=
  if taken : crd.name ∈ c.crds.map (·.name) then .error .alreadyExists
  else if named : crd.WellNamed then
    .ok ⟨crd :: c.crds, by
      intro d mem
      rcases List.mem_cons.mp mem with rfl | mem
      · exact named
      · exact c.wellNamed d mem, List.nodup_cons.mpr ⟨taken, c.unique⟩⟩
  else .error .failed

/-- The API server sets the `Established` condition of the definition `name`. -/
def establish (c : Cluster) (name : GoString) : Cluster :=
  ⟨c.crds.map fun crd => if crd.name = name then { crd with established := true } else crd,
    by
      intro d mem
      obtain ⟨crd, member, rfl⟩ := List.mem_map.mp mem
      split
      · exact c.wellNamed crd member
      · exact c.wellNamed crd member,
    by
      rw [List.map_map]
      convert c.unique using 2
      funext crd
      simp only [Function.comp_apply]
      split <;> rfl⟩

@[simp]
theorem crds_establish (c : Cluster) (name : GoString) :
    (c.establish name).crds =
      c.crds.map fun crd => if crd.name = name then { crd with established := true } else crd :=
  rfl

private theorem eq_of_name {c : Cluster} {crd crd' : CRD} (mem : crd ∈ c.crds) (mem' : crd' ∈ c.crds)
    (name : crd.name = crd'.name) : crd = crd' :=
  List.inj_on_of_nodup_map c.unique mem mem' name

private theorem find_eq_some_iff {c : Cluster} {name : GoString} {crd : CRD} :
    c.find name = some crd ↔ crd ∈ c.crds ∧ crd.name = name := by
  constructor
  · intro found
    exact ⟨List.mem_of_find?_eq_some found, by simpa using List.find?_some found⟩
  · rintro ⟨mem, rfl⟩
    obtain ⟨d, found⟩ : ∃ d, c.find crd.name = some d :=
      Option.isSome_iff_exists.mp (List.find?_isSome.mpr ⟨crd, mem, beq_self_eq_true _⟩)
    have same : d.name = crd.name := by simpa using List.find?_some found
    rw [found, eq_of_name (List.mem_of_find?_eq_some found) mem same]

@[simp]
theorem names_establish (c : Cluster) (name : GoString) :
    (c.establish name).crds.map (·.name) = c.crds.map (·.name) := by
  simp only [crds_establish, List.map_map]
  congr 1
  funext crd
  simp only [Function.comp_apply]
  split <;> rfl

private theorem create_eq_ok {c c' : Cluster} {crd : CRD} (created : c.create crd = .ok c') :
    c'.crds = crd :: c.crds ∧ crd.name ∉ c.crds.map (·.name) := by
  unfold create at created
  split at created
  · cases created
  · split at created
    · cases created
      exact ⟨rfl, ‹_›⟩
    · cases created

private theorem find_establish {c : Cluster} {name : GoString} {crd : CRD}
    (found : c.find name = some crd) :
    (c.establish name).find name = some { crd with established := true } := by
  obtain ⟨mem, rfl⟩ := find_eq_some_iff.mp found
  exact find_eq_some_iff.mpr ⟨List.mem_map.mpr ⟨crd, mem, if_pos rfl⟩, rfl⟩

private theorem establish_of_established {c : Cluster} {name : GoString} {crd : CRD}
    (found : c.find name = some crd) (done : crd.established) : c.establish name = c := by
  obtain ⟨mem, rfl⟩ := find_eq_some_iff.mp found
  have same : (c.establish crd.name).crds = c.crds := by
    rw [crds_establish]
    refine (List.map_congr_left fun d member => ?_).trans (List.map_id _)
    split_ifs with named
    · obtain rfl := eq_of_name member mem named
      cases d
      simp_all
    · rfl
  cases c
  simpa [establish] using same

end Cluster

/-- `metav1.APIResource` as discovery lists it for a definition: the plural, the kind,
and whether it is namespaced. -/
structure APIResource where
  name : GoString
  kind : GoString
  namespaced : Bool
  deriving DecidableEq

/-- A definition serves a version: established, with a served entry of that name. -/
def CRD.ServesVersion (crd : CRD) (group version : GoString) : Bool :=
  crd.established && crd.group == group && crd.versions.any fun v => v.name == version && v.served

/-- A definition serves `gvk.Version` of `gvk.Kind`. -/
def CRD.Serves (crd : CRD) (gvk : GroupVersionKind) : Bool :=
  crd.ServesVersion gvk.group gvk.version && crd.kind == gvk.kind

private theorem CRD.name_of_serves {crd : CRD} {gvk : GroupVersionKind} (named : crd.WellNamed)
    (serves : crd.Serves gvk) : groupResourceString crd.plural gvk.group = crd.name := by
  simp only [CRD.Serves, CRD.ServesVersion, Bool.and_eq_true, beq_iff_eq] at serves
  rw [named.2, serves.1.1.2]

/-- `ServerResourcesForGroupVersion` when the call goes through: one resource for each
established definition that serves the group version, and `NotFound` when there is none. -/
def serverResources (c : Cluster) (group version : GoString) : Except ApiError (List APIResource) :=
  let crds := c.crds.filter (·.ServesVersion group version)
  if crds = [] then .error .notFound
  else .ok (crds.map fun crd => ⟨crd.plural, crd.kind, !crd.clusterScoped⟩)

/-- The discovery lookup shared by `KindExists` and `ConvertKindToResource`. -/
def findResource (fault : Option ApiError) (c : Cluster) (gvk : GroupVersionKind) :
    Except ApiError APIResource :=
  match fault with
  | some e => .error e
  | none =>
    match serverResources c gvk.group gvk.version with
    | .error e => .error e
    | .ok resources =>
      match resources.find? (·.kind == gvk.kind) with
      | some r => .ok r
      | none => .error .notFound

private theorem findResource_eq_ok {fault : Option ApiError} {c : Cluster} {gvk : GroupVersionKind}
    {r : APIResource} (found : findResource fault c gvk = .ok r) :
    fault = none ∧ ∃ crd ∈ c.crds, crd.Serves gvk ∧
      r = ⟨crd.plural, crd.kind, !crd.clusterScoped⟩ := by
  rcases fault with _ | e
  · by_cases empty : c.crds.filter (·.ServesVersion gvk.group gvk.version) = []
    · simp [findResource, serverResources, empty] at found
    · simp only [findResource, serverResources, empty, if_false] at found
      split at found
      · rename_i r' listed
        cases found
        obtain ⟨crd, mem, rfl⟩ := List.mem_map.mp (List.mem_of_find?_eq_some listed)
        obtain ⟨mem, version⟩ := List.mem_filter.mp mem
        have kind : crd.kind = gvk.kind := by simpa using List.find?_some listed
        exact ⟨rfl, crd, mem, by simp [CRD.Serves, version, kind], rfl⟩
      · cases found
  · cases found

private theorem findResource_of_head {c : Cluster} {gvk : GroupVersionKind} {crd : CRD} {rest : List CRD}
    (head : c.crds = crd :: rest) (serves : crd.Serves gvk) :
    findResource none c gvk = .ok ⟨crd.plural, crd.kind, !crd.clusterScoped⟩ := by
  simp only [CRD.Serves, Bool.and_eq_true, beq_iff_eq] at serves
  simp [findResource, serverResources, head, serves]

private theorem findResource_none_error {c : Cluster} {gvk : GroupVersionKind} {e : ApiError}
    (failed : findResource none c gvk = .error e) : e = .notFound := by
  simp only [findResource, serverResources] at failed
  split_ifs at failed
  · cases failed; rfl
  · simp only at failed
    split at failed <;> cases failed; rfl

def KindExists (fault : Option ApiError) (c : Cluster) (gvk : GroupVersionKind) :
    Except ApiError APIResource :=
  findResource fault c gvk

/-- `ConvertKindToResource`, returning the resource of the group version. -/
def ConvertKindToResource (fault : Option ApiError) (c : Cluster) (gvk : GroupVersionKind) :
    Except ApiError GoString :=
  (findResource fault c gvk).map (·.name)

private theorem ConvertKindToResource_eq_ok {fault : Option ApiError} {c : Cluster}
    {gvk : GroupVersionKind} {resource : GoString}
    (converted : ConvertKindToResource fault c gvk = .ok resource) :
    ∃ crd ∈ c.crds, crd.Serves gvk ∧ resource = crd.plural := by
  unfold ConvertKindToResource at converted
  cases found : findResource fault c gvk with
  | error e => simp [found, Except.map] at converted
  | ok r =>
    simp only [found, Except.map, Except.ok.injEq] at converted
    obtain ⟨-, crd, mem, serves, rfl⟩ := findResource_eq_ok found
    exact ⟨crd, mem, serves, converted.symm⟩

private theorem ConvertKindToResource_fault {fault : Option ApiError} {c : Cluster}
    {gvk : GroupVersionKind} {resource : GoString}
    (converted : ConvertKindToResource fault c gvk = .ok resource) : fault = none := by
  rcases fault with _ | e
  · rfl
  · cases converted

/-- `Get` of a definition by name. -/
def getCRD (fault : Option ApiError) (c : Cluster) (name : GoString) : Except ApiError CRD :=
  match fault with
  | some e => .error e
  | none =>
    match c.find name with
    | some crd => .ok crd
    | none => .error .notFound

private theorem getCRD_eq_ok {fault : Option ApiError} {c : Cluster} {name : GoString} {crd : CRD}
    (got : getCRD fault c name = .ok crd) :
    fault = none ∧ crd ∈ c.crds ∧ crd.name = name := by
  rcases fault with _ | e
  · simp only [getCRD] at got
    split at got
    · cases got
      exact ⟨rfl, Cluster.find_eq_some_iff.mp ‹_›⟩
    · cases got
  · cases got

private theorem getCRD_of_serves {c : Cluster} {crd : CRD} {gvk : GroupVersionKind} (mem : crd ∈ c.crds)
    (serves : crd.Serves gvk) :
    getCRD none c (groupResourceString crd.plural gvk.group) = .ok crd := by
  rw [CRD.name_of_serves (c.wellNamed crd mem) serves]
  simp [getCRD, Cluster.find_eq_some_iff.mpr ⟨mem, rfl⟩]

/-- The loop over `Spec.Versions`: whether the entry of `version` declares a status
subresource. -/
def statusSubresource (crd : CRD) (version : GoString) : Bool :=
  match crd.versions.find? (·.name == version) with
  | some v => v.status
  | none => false

/-- The host definition as it is created in the virtual cluster: status cleared and only
the entry of `version`, served and stored. -/
def stripCRD (crd : CRD) (version : GoString) : CRD :=
  { crd with
    versions := (crd.versions.find? (·.name == version)).toList.map
      fun v => { v with served := true, storage := true },
    established := false }

@[simp]
theorem stripCRD_name (crd : CRD) (version : GoString) : (stripCRD crd version).name = crd.name :=
  rfl

@[simp]
theorem stripCRD_clusterScoped (crd : CRD) (version : GoString) :
    (stripCRD crd version).clusterScoped = crd.clusterScoped :=
  rfl

private theorem statusSubresource_stripCRD (crd : CRD) (version : GoString) :
    statusSubresource (stripCRD crd version) version = statusSubresource crd version := by
  unfold statusSubresource stripCRD
  cases found : crd.versions.find? (·.name == version) with
  | none => rfl
  | some v => simp [List.find?_some found]

private theorem serves_stripCRD {crd : CRD} {gvk : GroupVersionKind} (serves : crd.Serves gvk) :
    { stripCRD crd gvk.version with established := true }.Serves gvk := by
  simp only [CRD.Serves, CRD.ServesVersion, Bool.and_eq_true, List.any_eq_true, beq_iff_eq]
    at serves ⊢
  obtain ⟨⟨⟨-, group⟩, v, mem, name, -⟩, kind⟩ := serves
  obtain ⟨w, found⟩ : ∃ w, crd.versions.find? (·.name == gvk.version) = some w :=
    Option.isSome_iff_exists.mp (List.find?_isSome.mpr ⟨v, mem, by simpa using name⟩)
  have named : w.name = gvk.version := by simpa using List.find?_some found
  exact ⟨⟨⟨trivial, group⟩, { w with served := true, storage := true },
    by simp [stripCRD, found], named, rfl⟩, kind⟩

/-! ### The run -/

/-- The failure each API call of a run meets, `none` when the call goes through. -/
structure Faults where
  vClient : Option ApiError
  vDiscovery : Option ApiError
  vGet : Option ApiError
  pDiscovery : Option ApiError
  pClient : Option ApiError
  pGet : Option ApiError
  create : Option ApiError

/-- One poll of the readiness wait: its `Get` fails, or it sees whether the API server
has established the definition by then. -/
inductive Poll
  | failed (e : ApiError)
  | seen (established : Bool)

/-- The readiness wait, `wait.ExponentialBackoffWithContext` over the polls of the run;
running out of polls is the context ending the wait. -/
def waitEstablished (c : Cluster) (name : GoString) : List Poll → Except ApiError Cluster
  | [] => .error .failed
  | .failed e :: _ => .error (.wrap (lit "retrieve crd in virtual cluster") e)
  | .seen established :: polls =>
    match c.find name with
    | none => .error (.wrap (lit "retrieve crd in virtual cluster") .notFound)
    | some crd =>
      if crd.established || established then .ok (c.establish name)
      else waitEstablished c name polls

private theorem waitEstablished_eq_ok {c c' : Cluster} {name : GoString} {polls : List Poll}
    (waited : waitEstablished c name polls = .ok c') :
    c' = c.establish name ∧ ∃ crd, c.find name = some crd := by
  induction polls with
  | nil => cases waited
  | cons poll polls ih =>
    rcases poll with e | established
    · cases waited
    · simp only [waitEstablished] at waited
      split at waited
      · cases waited
      · split at waited
        · cases waited
          exact ⟨rfl, _, ‹_›⟩
        · exact ih waited

/-- `Create` where "already exists" counts as success. -/
def createOrExisting (fault : Option ApiError) (c : Cluster) (crd : CRD) :
    Except ApiError Cluster :=
  match fault with
  | some e => if e.IsAlreadyExists then .ok c else .error e
  | none =>
    match c.create crd with
    | .ok c' => .ok c'
    | .error e => if e.IsAlreadyExists then .ok c else .error e

private theorem createOrExisting_eq_ok {fault : Option ApiError} {c c' : Cluster} {crd : CRD}
    (created : createOrExisting fault c crd = .ok c') :
    c' = c ∨ (c'.crds = crd :: c.crds ∧ crd.name ∉ c.crds.map (·.name)) := by
  unfold createOrExisting at created
  split at created
  · split at created
    · cases created
      exact .inl rfl
    · cases created
  · split at created
    · cases created
      exact .inr (Cluster.create_eq_ok ‹_›)
    · split at created
      · cases created
        exact .inl rfl
      · cases created

private theorem createOrExisting_of_taken {c : Cluster} {crd : CRD}
    (taken : crd.name ∈ c.crds.map (·.name)) : createOrExisting none c crd = .ok c := by
  simp [createOrExisting, Cluster.create, taken, ApiError.IsAlreadyExists]

/-- What `EnsureCRDFromPhysicalCluster` returns, with the virtual cluster as the run
leaves it. -/
structure Outcome where
  isClusterScoped : Bool
  hasStatusSubresource : Bool
  err : Option ApiError
  virtual : Cluster

def EnsureCRDFromPhysicalCluster (faults : Faults) (polls : List Poll) (p v : Cluster)
    (gvk : GroupVersionKind) : Outcome :=
  match faults.vClient with
  | some e => ⟨false, false, some e, v⟩
  | none =>
    match KindExists faults.vDiscovery v gvk with
    | .ok apiResource =>
      let isClusterScoped := !apiResource.namespaced
      match getCRD faults.vGet v (groupResourceString apiResource.name gvk.group) with
      | .error _ => ⟨isClusterScoped, false, none, v⟩
      | .ok crd => ⟨isClusterScoped, statusSubresource crd gvk.version, none, v⟩
    | .error e =>
      if !e.IsNotFound then ⟨false, false, some (.wrap (lit "check virtual cluster kind") e), v⟩
      else
        match ConvertKindToResource faults.pDiscovery p gvk with
        | .error e =>
          if e.IsNotFound then
            ⟨false, false, some (.text (lit "seems like resource " ++ gvk.String ++
              lit " is not available in the physical cluster or vcluster has no access to it")), v⟩
          else ⟨false, false, some e, v⟩
        | .ok resource =>
          match faults.pClient with
          | some e => ⟨false, false, some e, v⟩
          | none =>
            match getCRD faults.pGet p (groupResourceString resource gvk.group) with
            | .error e => ⟨false, false, some (.wrap (lit "retrieve crd in host cluster") e), v⟩
            | .ok crd =>
              let hasStatusSubresource := statusSubresource crd gvk.version
              let crdDefinition := stripCRD crd gvk.version
              match createOrExisting faults.create v crdDefinition with
              | .error e =>
                ⟨false, hasStatusSubresource, some (.wrap (lit "create crd in virtual cluster") e), v⟩
              | .ok v' =>
                match waitEstablished v' (groupResourceString resource gvk.group) polls with
                | .error e => ⟨false, hasStatusSubresource, some (.wrap
                    (lit "failed to wait for CRD " ++ gvk.String ++ lit " to become ready") e), v'⟩
                | .ok v'' => ⟨crdDefinition.clusterScoped, hasStatusSubresource, none, v''⟩

private theorem EnsureCRDFromPhysicalCluster_nil {faults : Faults} {polls : List Poll} {p v : Cluster}
    {gvk : GroupVersionKind} {run : Outcome}
    (eq : EnsureCRDFromPhysicalCluster faults polls p v gvk = run) (ok : run.err = none) :
    (∃ r, KindExists faults.vDiscovery v gvk = .ok r ∧ run.virtual = v ∧
        run.isClusterScoped = !r.namespaced ∧
        ∀ crd, getCRD faults.vGet v (groupResourceString r.name gvk.group) = .ok crd →
          run.hasStatusSubresource = statusSubresource crd gvk.version) ∨
      ((∃ e, KindExists faults.vDiscovery v gvk = .error e) ∧
        ∃ host ∈ p.crds, host.Serves gvk ∧ run.isClusterScoped = host.clusterScoped ∧
          run.hasStatusSubresource = statusSubresource host gvk.version ∧
          ∃ c, createOrExisting faults.create v (stripCRD host gvk.version) = .ok c ∧
            waitEstablished c host.name polls = .ok run.virtual) := by
  unfold EnsureCRDFromPhysicalCluster at eq
  split at eq
  · subst eq; cases ok
  split at eq
  case h_1 r found =>
    left
    refine ⟨r, found, ?_⟩
    split at eq <;> subst eq
    case h_1 failed => exact ⟨rfl, rfl, fun crd got => by rw [failed] at got; cases got⟩
    case h_2 crd got => exact ⟨rfl, rfl, fun crd' got' => by rw [got] at got'; cases got'; rfl⟩
  case h_2 e missing =>
    right
    refine ⟨⟨e, missing⟩, ?_⟩
    split at eq
    · subst eq; cases ok
    split at eq
    · split at eq <;> (subst eq; cases ok)
    rename_i resource converted
    split at eq
    · subst eq; cases ok
    split at eq
    · subst eq; cases ok
    rename_i host got
    obtain ⟨crd, mem, serves, rfl⟩ := ConvertKindToResource_eq_ok converted
    obtain ⟨-, hostMem, hostName⟩ := getCRD_eq_ok got
    rw [CRD.name_of_serves (p.wellNamed crd mem) serves] at eq hostName
    obtain rfl := Cluster.eq_of_name hostMem mem hostName
    dsimp only at eq
    split at eq
    · subst eq; cases ok
    rename_i c created
    split at eq <;> subst eq
    · cases ok
    · exact ⟨host, hostMem, serves, rfl, rfl, c, created, ‹_›⟩

/-- Where any run leaves the virtual cluster. Every return before the create leaves it as
it was, and of those only the return after discovery found the kind has a nil error;
after host discovery pointed to a definition serving the kind, the create of its stripped
copy leaves the cluster as the wait finds it, and the wait establishes the definition of
its name or fails. -/
theorem EnsureCRDFromPhysicalCluster_virtual {faults : Faults} {polls : List Poll} {p v : Cluster}
    {gvk : GroupVersionKind} {run : Outcome}
    (eq : EnsureCRDFromPhysicalCluster faults polls p v gvk = run) :
    (run.virtual = v ∧ (run.err = none → ∃ r, KindExists faults.vDiscovery v gvk = .ok r)) ∨
      ∃ host ∈ p.crds, host.Serves gvk ∧
        ConvertKindToResource faults.pDiscovery p gvk = .ok host.plural ∧ ∃ c,
          createOrExisting faults.create v (stripCRD host gvk.version) = .ok c ∧
          (run.virtual = c ∧ run.err ≠ none ∨
            waitEstablished c host.name polls = .ok run.virtual ∧ run.err = none) := by
  unfold EnsureCRDFromPhysicalCluster at eq
  split at eq
  · subst eq; exact .inl ⟨rfl, nofun⟩
  split at eq
  case h_1 r found => split at eq <;> (subst eq; exact .inl ⟨rfl, fun _ => ⟨r, found⟩⟩)
  split at eq
  · subst eq; exact .inl ⟨rfl, nofun⟩
  split at eq
  · split at eq <;> (subst eq; exact .inl ⟨rfl, nofun⟩)
  rename_i resource converted
  split at eq
  · subst eq; exact .inl ⟨rfl, nofun⟩
  split at eq
  · subst eq; exact .inl ⟨rfl, nofun⟩
  rename_i host got
  obtain ⟨crd, mem, serves, rfl⟩ := ConvertKindToResource_eq_ok converted
  obtain ⟨-, hostMem, hostName⟩ := getCRD_eq_ok got
  rw [CRD.name_of_serves (p.wellNamed crd mem) serves] at eq hostName
  obtain rfl := Cluster.eq_of_name hostMem mem hostName
  dsimp only at eq
  split at eq
  · subst eq; exact .inl ⟨rfl, nofun⟩
  rename_i c created
  refine .inr ⟨host, hostMem, serves, converted, c, created, ?_⟩
  split at eq <;> subst eq
  · exact .inl ⟨rfl, nofun⟩
  · exact .inr ⟨‹_›, rfl⟩

private theorem ensureCRD_served_or_mirrored {faults : Faults} {polls : List Poll} {p v : Cluster}
    {gvk : GroupVersionKind} {run : Outcome}
    (eq : EnsureCRDFromPhysicalCluster faults polls p v gvk = run) (ok : run.err = none) :
    (run.virtual = v ∧ ∃ crd ∈ v.crds, crd.Serves gvk ∧
        run.isClusterScoped = crd.clusterScoped ∧
        (faults.vGet = none → run.hasStatusSubresource = statusSubresource crd gvk.version)) ∨
      ∃ host ∈ p.crds, host.Serves gvk ∧ run.isClusterScoped = host.clusterScoped ∧
        run.hasStatusSubresource = statusSubresource host gvk.version ∧
        ∃ crd ∈ run.virtual.crds, crd.established ∧ crd.name = host.name ∧
          (host.name ∉ v.crds.map (·.name) → crd.Serves gvk ∧
            run.isClusterScoped = crd.clusterScoped ∧
            run.hasStatusSubresource = statusSubresource crd gvk.version) := by
  rcases EnsureCRDFromPhysicalCluster_nil eq ok with
    ⟨r, found, same, scope, status⟩ |
      ⟨-, host, mem, serves, scope, status, c, created, waited⟩
  · obtain ⟨-, crd, mem, serves, rfl⟩ := findResource_eq_ok found
    exact .inl ⟨same, crd, mem, serves, by simpa using scope, fun vGet =>
      status crd (vGet ▸ getCRD_of_serves mem serves)⟩
  · obtain ⟨established, crd, found⟩ := waitEstablished_eq_ok waited
    obtain ⟨cmem, cname⟩ := Cluster.find_eq_some_iff.mp found
    have mirrored : { crd with established := true } ∈ run.virtual.crds := by
      rw [established]
      exact List.mem_map.mpr ⟨crd, cmem, if_pos cname⟩
    refine .inr ⟨host, mem, serves, scope, status, _, mirrored, rfl, cname, fun free => ?_⟩
    rcases createOrExisting_eq_ok created with rfl | ⟨crds, -⟩
    · exact absurd (cname ▸ List.mem_map_of_mem (·.name) cmem) free
    · obtain rfl := Cluster.eq_of_name cmem (crds ▸ List.mem_cons_self _ _)
        (show crd.name = (stripCRD host gvk.version).name from cname)
      exact ⟨serves_stripCRD serves, scope, status.trans (statusSubresource_stripCRD _ _).symm⟩

private theorem ensureCRD_later_call {faults : Faults} {polls : List Poll} {p v : Cluster}
    {gvk : GroupVersionKind} {run : Outcome}
    (eq : EnsureCRDFromPhysicalCluster faults polls p v gvk = run) (ok : run.err = none)
    (created : ∃ crd ∈ run.virtual.crds, crd.name ∉ v.crds.map (·.name))
    {faults' : Faults} {polls' : List Poll} {p' : Cluster} {later : Outcome}
    (eq' : EnsureCRDFromPhysicalCluster faults' polls' p' run.virtual gvk = later)
    (ok' : later.err = none) (found : faults'.vDiscovery = none) :
    later.isClusterScoped = run.isClusterScoped ∧
      (faults'.vGet = none → later.hasStatusSubresource = run.hasStatusSubresource) := by
  obtain ⟨fresh, freshMem, freshName⟩ := created
  rcases EnsureCRDFromPhysicalCluster_nil eq ok with
    ⟨-, -, same, -⟩ | ⟨-, host, -, serves, scope, status, c, createdC, waited⟩
  · exact absurd (List.mem_map_of_mem (·.name) (same ▸ freshMem)) freshName
  obtain ⟨established, -⟩ := waitEstablished_eq_ok waited
  rcases createOrExisting_eq_ok createdC with rfl | ⟨crds, -⟩
  · have named := List.mem_map_of_mem (·.name) freshMem
    rw [established, Cluster.names_establish] at named
    exact absurd named freshName
  have head : run.virtual.crds = { stripCRD host gvk.version with established := true } ::
      v.crds.map fun crd =>
        if crd.name = host.name then { crd with established := true } else crd := by
    rw [established, Cluster.crds_establish, crds, List.map_cons, if_pos (stripCRD_name _ _)]
  have served := serves_stripCRD serves
  have mirrored : { stripCRD host gvk.version with established := true } ∈ run.virtual.crds :=
    head ▸ List.mem_cons_self _ _
  rcases EnsureCRDFromPhysicalCluster_nil eq' ok' with
    ⟨r, listed, -, scope', status'⟩ | ⟨⟨e, missing⟩, -⟩
  · rw [found, KindExists, findResource_of_head head served] at listed
    cases listed
    refine ⟨by simpa [scope] using scope', fun vGet => ?_⟩
    rw [status' _ (vGet ▸ getCRD_of_serves mirrored served), status]
    exact statusSubresource_stripCRD _ _
  · rw [found, KindExists, findResource_of_head head served] at missing
    cases missing

/-- Whenever `EnsureCRDFromPhysicalCluster` returns a nil error, the kind was served in the
virtual cluster, or a host definition serving it was mirrored; and after a run that
created a definition, a later run that finds the kind reports the same flags. -/
theorem ensureCRD_nil_error (faults : Faults) (polls : List Poll) (p v : Cluster)
    (gvk : GroupVersionKind) (ok : (EnsureCRDFromPhysicalCluster faults polls p v gvk).err = none) :
    let run := EnsureCRDFromPhysicalCluster faults polls p v gvk
    ((run.virtual = v ∧ ∃ crd ∈ v.crds, crd.Serves gvk ∧ run.isClusterScoped = crd.clusterScoped ∧
        (faults.vGet = none → run.hasStatusSubresource = statusSubresource crd gvk.version)) ∨
      ∃ host ∈ p.crds, host.Serves gvk ∧ run.isClusterScoped = host.clusterScoped ∧
        run.hasStatusSubresource = statusSubresource host gvk.version ∧
        ∃ crd ∈ run.virtual.crds, crd.established ∧ crd.name = host.name ∧
          (host.name ∉ v.crds.map (·.name) → crd.Serves gvk ∧
            run.isClusterScoped = crd.clusterScoped ∧
            run.hasStatusSubresource = statusSubresource crd gvk.version)) ∧
    ((∃ crd ∈ run.virtual.crds, crd.name ∉ v.crds.map (·.name)) →
      ∀ (faults' : Faults) (polls' : List Poll) (p' : Cluster), faults'.vDiscovery = none →
        let later := EnsureCRDFromPhysicalCluster faults' polls' p' run.virtual gvk
        later.err = none → later.isClusterScoped = run.isClusterScoped ∧
          (faults'.vGet = none → later.hasStatusSubresource = run.hasStatusSubresource)) :=
  ⟨ensureCRD_served_or_mirrored rfl ok, fun created _ _ _ found ok' =>
    ensureCRD_later_call rfl ok created rfl ok' found⟩

/-- `example.com/v2, Kind=Widget`. -/
def widgetV2 : GroupVersionKind := ⟨lit "example.com", lit "v2", lit "Widget"⟩

/-- The namespaced definition `widgets.example.com` with the given versions, each with a
status subresource. -/
def widgets (versions : List GoString) : CRD :=
  ⟨lit "widgets.example.com", lit "example.com", lit "Widget", lit "widgets", false,
    versions.map fun name => ⟨name, true, name = lit "v1", true⟩, true⟩

/-- A host cluster serving `v1` and `v2` of `Widget`. -/
def hostWidgets : Cluster := ⟨[widgets [lit "v1", lit "v2"]], by decide, by decide⟩

/-- A virtual cluster serving only `v1` of `Widget`. -/
def virtualWidgetsV1 : Cluster := ⟨[widgets [lit "v1"]], by decide, by decide⟩

/-- A cluster with no definitions. -/
def emptyCluster : Cluster := ⟨[], by decide, by decide⟩

/-- A run in which every API call goes through. -/
def noFaults : Faults := ⟨none, none, none, none, none, none, none⟩

theorem ensureCRD_mirrors_widgets :
    (EnsureCRDFromPhysicalCluster noFaults [.seen true] hostWidgets emptyCluster widgetV2).err = none ∧
    let run := EnsureCRDFromPhysicalCluster noFaults [.seen true] hostWidgets emptyCluster widgetV2
    ((run.virtual = emptyCluster ∧ ∃ crd ∈ emptyCluster.crds, crd.Serves widgetV2 ∧
        run.isClusterScoped = crd.clusterScoped ∧
        (noFaults.vGet = none → run.hasStatusSubresource = statusSubresource crd widgetV2.version)) ∨
      ∃ host ∈ hostWidgets.crds, host.Serves widgetV2 ∧ run.isClusterScoped = host.clusterScoped ∧
        run.hasStatusSubresource = statusSubresource host widgetV2.version ∧
        ∃ crd ∈ run.virtual.crds, crd.established ∧ crd.name = host.name ∧
          (host.name ∉ emptyCluster.crds.map (·.name) → crd.Serves widgetV2 ∧
            run.isClusterScoped = crd.clusterScoped ∧
            run.hasStatusSubresource = statusSubresource crd widgetV2.version)) ∧
    ((∃ crd ∈ run.virtual.crds, crd.name ∉ emptyCluster.crds.map (·.name)) →
      ∀ (faults' : Faults) (polls' : List Poll) (p' : Cluster), faults'.vDiscovery = none →
        let later := EnsureCRDFromPhysicalCluster faults' polls' p' run.virtual widgetV2
        later.err = none → later.isClusterScoped = run.isClusterScoped ∧
          (faults'.vGet = none → later.hasStatusSubresource = run.hasStatusSubresource)) :=
  ⟨by decide, ensureCRD_nil_error noFaults [.seen true] hostWidgets emptyCluster widgetV2 (by decide)⟩

/-- Mirroring `v2` into a cluster whose `widgets.example.com` serves only `v1`: the create
meets "already exists", the wait sees the old definition established, and the run returns
a nil error although no definition of the virtual cluster serves `v2`. -/
theorem ensureCRD_already_exists_other_version :
    (EnsureCRDFromPhysicalCluster noFaults [.seen true] hostWidgets virtualWidgetsV1 widgetV2).err =
      none ∧
    ¬ ∃ crd ∈ (EnsureCRDFromPhysicalCluster noFaults [.seen true] hostWidgets virtualWidgetsV1
      widgetV2).virtual.crds, crd.Serves widgetV2 := by
  decide

/-! ### What a run never does -/

/-- Whatever fails along the way, a run changes the virtual cluster only by creating the
stripped copy of a host definition serving the kind, and establishing the definition of
that name: it removes no definition, and touches none of another name. -/
theorem ensureCRD_only_mirrors (faults : Faults) (polls : List Poll) (p v : Cluster)
    (gvk : GroupVersionKind) :
    let run := EnsureCRDFromPhysicalCluster faults polls p v gvk
    run.virtual = v ∨ ∃ host ∈ p.crds, host.Serves gvk ∧
      ∃ c : Cluster, (c = v ∨ c.crds = stripCRD host gvk.version :: v.crds) ∧
        (run.virtual = c ∨ run.virtual = c.establish host.name) := by
  rcases EnsureCRDFromPhysicalCluster_virtual
      (rfl : EnsureCRDFromPhysicalCluster faults polls p v gvk = _) with
    ⟨same, -⟩ | ⟨host, mem, serves, -, c, created, waited⟩
  · exact .inl same
  refine .inr ⟨host, mem, serves, c, (createOrExisting_eq_ok created).imp_right And.left, ?_⟩
  rcases waited with ⟨same, -⟩ | ⟨waited, -⟩
  · exact .inl same
  · exact .inr (waitEstablished_eq_ok waited).1

/-! ### Convergence -/

/-- Nothing is left for a run to do: discovery finds the kind in the virtual cluster, or
the definition host discovery points to has an established definition of its name there. -/
def Settled (p v : Cluster) (gvk : GroupVersionKind) : Prop :=
  (∃ r, KindExists none v gvk = .ok r) ∨
    ∃ resource, ConvertKindToResource none p gvk = .ok resource ∧
      ∃ crd, v.find (groupResourceString resource gvk.group) = some crd ∧ crd.established

private theorem settled_of_nil {faults : Faults} {polls : List Poll} {p v : Cluster}
    {gvk : GroupVersionKind} {run : Outcome}
    (eq : EnsureCRDFromPhysicalCluster faults polls p v gvk = run) (ok : run.err = none) :
    Settled p run.virtual gvk := by
  rcases EnsureCRDFromPhysicalCluster_virtual eq with
    ⟨same, fast⟩ | ⟨host, mem, serves, converted, c, -, ⟨-, failed⟩ | ⟨waited, -⟩⟩
  · obtain ⟨r, found⟩ := fast ok
    obtain ⟨through, -⟩ := findResource_eq_ok found
    exact .inl ⟨r, by rw [same, ← through]; exact found⟩
  · exact absurd ok failed
  · obtain ⟨established, crd, found⟩ := waitEstablished_eq_ok waited
    rw [ConvertKindToResource_fault converted] at converted
    refine .inr ⟨host.plural, converted, { crd with established := true }, ?_, rfl⟩
    rw [CRD.name_of_serves (p.wellNamed host mem) serves, established]
    exact Cluster.find_establish found

/-- From a settled kind, a run whose calls all go through and whose first poll gets an
answer returns a nil error and changes nothing. -/
theorem EnsureCRDFromPhysicalCluster_settled {p v : Cluster} {gvk : GroupVersionKind}
    (settled : Settled p v gvk) (b : Bool) (rest : List Poll) :
    let run := EnsureCRDFromPhysicalCluster noFaults (.seen b :: rest) p v gvk
    run.err = none ∧ run.virtual = v := by
  cases found : KindExists none v gvk with
  | ok r =>
    simp only [EnsureCRDFromPhysicalCluster, noFaults, found]
    split <;> exact ⟨rfl, rfl⟩
  | error e =>
    obtain ⟨resource, converted, crd, defined, done⟩ :=
      settled.resolve_left fun ⟨r, ok⟩ => by rw [found] at ok; cases ok
    obtain ⟨host, mem, serves, rfl⟩ := ConvertKindToResource_eq_ok converted
    have named := CRD.name_of_serves (p.wellNamed host mem) serves
    have taken : (stripCRD host gvk.version).name ∈ v.crds.map (·.name) := by
      obtain ⟨defMem, defName⟩ := Cluster.find_eq_some_iff.mp defined
      rw [stripCRD_name, ← named, ← defName]
      exact List.mem_map_of_mem _ defMem
    simp [EnsureCRDFromPhysicalCluster, noFaults, found, findResource_none_error found,
      ApiError.IsNotFound, converted, getCRD_of_serves mem serves, createOrExisting_of_taken taken,
      waitEstablished, defined, done, Cluster.establish_of_established defined done]

/-- Once a run has returned a nil error, a later run over the same host cluster whose calls
all go through and whose first poll gets an answer returns a nil error too, and leaves the
virtual cluster as the first run left it. -/
theorem ensureCRD_converges (faults : Faults) (polls : List Poll) (p v : Cluster)
    (gvk : GroupVersionKind) (ok : (EnsureCRDFromPhysicalCluster faults polls p v gvk).err = none)
    (b : Bool) (rest : List Poll) :
    let run := EnsureCRDFromPhysicalCluster faults polls p v gvk
    let again := EnsureCRDFromPhysicalCluster noFaults (.seen b :: rest) p run.virtual gvk
    again.err = none ∧ again.virtual = run.virtual :=
  EnsureCRDFromPhysicalCluster_settled (settled_of_nil rfl ok) b rest

/-- Mirroring `v2` into a cluster whose `widgets.example.com` serves only `v1`, then
running again. -/
theorem widgets_converge :
    (EnsureCRDFromPhysicalCluster noFaults [.seen false] hostWidgets virtualWidgetsV1 widgetV2).err =
        none ∧
      let run := EnsureCRDFromPhysicalCluster noFaults [.seen false] hostWidgets virtualWidgetsV1 widgetV2
      let again := EnsureCRDFromPhysicalCluster noFaults [.seen false] hostWidgets run.virtual widgetV2
      again.err = none ∧ again.virtual = run.virtual :=
  ⟨by decide, ensureCRD_converges noFaults [.seen false] hostWidgets virtualWidgetsV1 widgetV2
    (by decide) false []⟩

end VClusterTranslate.Schema.EnsureCRD
