/- The `vcluster registry push` command: which images a run pushes, over any answers of the
   cluster, the file system and the registry.
   digest: A run pushes only tagged images of the archives it was given, and all of them when it returns nil. -/

import VClusterTranslate.Go.Library

set_option autoImplicit false
set_option relaxedAutoImplicit false

/-!
`PushOptions.Run` checks that the cluster serves a registry, saves the images given as
arguments to `image.tar` with `docker save`, and copies each archive it was given, and
each `.tar` and `.tar.gz` file of each directory it was given, to the registry of the
vcluster host: every manifest of the archive's image index is pushed under the reference
its `io.containerd.image.name` annotation names. The first error ends the run.

What the command reads from outside itself (the kubeconfig, the round trip to `/v2/`,
`docker`, the file system, the image layout of an extracted archive, and the pushes) is a
`World`: the answer of each call, keyed by what the call is given. `filepath.Join` is a
parameter `joinPath`, as `sha256.Sum256` is elsewhere. A run returns the actions it takes
outside, the `docker save`, each push and the removal of `image.tar`, with its error.
-/

namespace VClusterTranslate.Registry.Push

open VClusterTranslate.Go.Library

/-- A Go error of the command: one a call outside it returned, `fmt.Errorf` with no
wrapped error, and `fmt.Errorf("message: %w", cause)`. -/
inductive PushError
  | external (message : GoString)
  | text (message : GoString)
  | wrap (message : GoString) (cause : PushError)
  deriving DecidableEq

/-- An entry of an image index's manifest. -/
structure Manifest where
  annotations : GoMap
  digest : GoString

/-- A push of the image of `digest` in the extracted `archive`, under the reference `ref`,
to `registry`. -/
structure ImagePush where
  archive : GoString
  digest : GoString
  ref : GoString
  registry : GoString
  deriving DecidableEq

/-- What a run does outside itself. -/
inductive Action
  | save (args : List GoString)
  | push (p : ImagePush)
  | remove (path : GoString)
  deriving DecidableEq

/-- The answers of the calls the command makes outside itself. -/
structure World where
  /-- `kubeClientConfig.ClientConfig()`: the host of the rest config. -/
  clientConfig : Except PushError GoString
  /-- `rest.TransportFor`. -/
  transportFor : Option PushError
  /-- `http.NewRequestWithContext` of a URL. -/
  newRequest : GoString → Option PushError
  /-- `client.Do` of the request: the status code. -/
  get : GoString → Except PushError Nat
  /-- `exec.Command(args[0], args[1:]...).Run()`. -/
  runCommand : List GoString → Option PushError
  /-- `url.Parse`: the host of the URL. -/
  parseURL : GoString → Except PushError GoString
  /-- `name.NewRegistry`. -/
  newRegistry : GoString → Except PushError GoString
  /-- `os.Stat(path)`, and whether it is a directory. -/
  stat : GoString → Except PushError Bool
  /-- `os.ReadDir`: the names of the entries, in its order. -/
  readDir : GoString → Except PushError (List GoString)
  /-- `os.MkdirTemp` for the copy of an archive. -/
  mkdirTemp : GoString → Option PushError
  /-- `archive.ExtractTarGz` of an archive. -/
  extractTarGz : GoString → Option PushError
  /-- `archive.ExtractTar` of an archive. -/
  extractTar : GoString → Option PushError
  /-- `layout.ImageIndexFromPath` of the extracted archive. -/
  imageIndex : GoString → Option PushError
  /-- `imageIndex.IndexManifest()` of the extracted archive: its manifests. -/
  indexManifest : GoString → Except PushError (List Manifest)
  /-- `name.ParseReference` of a tag. -/
  parseReference : GoString → Except PushError GoString
  /-- `imageIndex.Image(digest)` in an extracted archive. -/
  image : GoString → GoString → Option PushError
  /-- `pushImage`: the push, its progress and its final error. -/
  pushImage : ImagePush → Option PushError

/-- The actions a call takes outside the command, and the error it returns. -/
structure Trace where
  actions : List Action
  err : Option PushError

/-- A return with an error, before any action. -/
def Trace.fail (e : PushError) : Trace := ⟨[], some e⟩

/-- A call that returned an error before any action. -/
def Trace.Aborted (r : Trace) : Prop := r.actions = [] ∧ r.err ≠ none

private theorem Trace.aborted_fail (e : PushError) : (Trace.fail e).Aborted := ⟨rfl, nofun⟩

private theorem Trace.no_push_fail (e : PushError) :
    (∀ p, .push p ∉ (Trace.fail e).actions) ∧ (Trace.fail e).err ≠ none :=
  ⟨fun _ => List.not_mem_nil _, nofun⟩

/-- `for _, x := range xs { if err := body(x); err != nil { return err } }`: each body in
turn, up to the first error. -/
def forEachUntilError {α : Type} (body : α → Trace) : List α → Trace
  | [] => ⟨[], none⟩
  | x :: xs =>
    match (body x).err with
    | some e => ⟨(body x).actions, some e⟩
    | none => ⟨(body x).actions ++ (forEachUntilError body xs).actions, (forEachUntilError body xs).err⟩

section Loop

variable {α : Type} {body : α → Trace} {x : α} {xs : List α}

private theorem forEachUntilError_cons_of_err {e : PushError} (failed : (body x).err = some e) :
    forEachUntilError body (x :: xs) = ⟨(body x).actions, some e⟩ := by
  simp [forEachUntilError, failed]

private theorem forEachUntilError_cons_of_ok (done : (body x).err = none) :
    forEachUntilError body (x :: xs) =
      ⟨(body x).actions ++ (forEachUntilError body xs).actions, (forEachUntilError body xs).err⟩ := by
  simp [forEachUntilError, done]

private theorem mem_forEachUntilError {a : Action} (mem : a ∈ (forEachUntilError body xs).actions) :
    ∃ x ∈ xs, a ∈ (body x).actions := by
  induction xs with
  | nil => cases mem
  | cons x xs ih =>
    cases done : (body x).err with
    | some e =>
      rw [forEachUntilError_cons_of_err done] at mem
      exact ⟨x, .head _, mem⟩
    | none =>
      rw [forEachUntilError_cons_of_ok done, List.mem_append] at mem
      rcases mem with here | later
      · exact ⟨x, .head _, here⟩
      · obtain ⟨y, mem, acted⟩ := ih later
        exact ⟨y, .tail _ mem, acted⟩

private theorem forEachUntilError_ok (ok : (forEachUntilError body xs).err = none) :
    ∀ x ∈ xs, (body x).err = none ∧ ∀ a ∈ (body x).actions, a ∈ (forEachUntilError body xs).actions := by
  induction xs with
  | nil => nofun
  | cons x xs ih =>
    cases done : (body x).err with
    | some e => rw [forEachUntilError_cons_of_err done] at ok; cases ok
    | none =>
      rw [forEachUntilError_cons_of_ok done] at ok ⊢
      intro y mem
      rcases List.mem_cons.mp mem with rfl | later
      · exact ⟨done, fun a acted => List.mem_append_left _ acted⟩
      · obtain ⟨ran, took⟩ := ih ok y later
        exact ⟨ran, fun a acted => List.mem_append_right _ (took a acted)⟩

private theorem forEachUntilError_stops {e : PushError} (failed : (forEachUntilError body xs).err = some e) :
    ∃ before x after, xs = before ++ x :: after ∧ (∀ y ∈ before, (body y).err = none) ∧
      (body x).err = some e ∧
      (forEachUntilError body xs).actions = (before.flatMap fun y => (body y).actions) ++ (body x).actions := by
  induction xs with
  | nil => cases failed
  | cons x xs ih =>
    cases done : (body x).err with
    | some e' =>
      rw [forEachUntilError_cons_of_err done] at failed ⊢
      cases failed
      exact ⟨[], x, xs, rfl, nofun, done, by simp⟩
    | none =>
      rw [forEachUntilError_cons_of_ok done] at failed ⊢
      obtain ⟨before, y, after, rfl, ran, fails, acts⟩ := ih failed
      refine ⟨x :: before, y, after, rfl, fun z mem => ?_, fails, by simp [acts]⟩
      rcases List.mem_cons.mp mem with rfl | mem
      exacts [done, ran z mem]

end Loop

/-- The annotation naming the image of a manifest. -/
def imageNameAnnotation : GoString := lit "io.containerd.image.name"

/-- `%v` of a `map[string]string`: `map[k1:v1 k2:v2]`, keys sorted. -/
def formatMap (m : GoMap) : GoString :=
  lit "map[" ++ join ((sortStrings m.keys).map fun k => k ++ lit ":" ++ index m k) (lit " ") ++
    lit "]"

section Run

variable (joinPath : GoString → GoString → GoString) (w : World)

/-- The body of the loop over the manifests of `copyArchiveToRemote`. -/
def pushManifest (path registry : GoString) (m : Manifest) : Trace :=
  let imageTag := index m.annotations imageNameAnnotation
  if imageTag = [] then
    .fail (.text (lit "image tag not found in manifest: " ++ path ++ lit ", annotations: " ++
      formatMap m.annotations))
  else
    match w.parseReference imageTag with
    | .error e => .fail (.wrap (lit "failed to parse image reference") e)
    | .ok localRef =>
      match w.image path m.digest with
      | some e => .fail (.wrap (lit "failed to get image") e)
      | none =>
        let p : ImagePush := ⟨path, m.digest, localRef, registry⟩
        ⟨[.push p], w.pushImage p⟩

/-- `copyArchiveToRemote`: extract the archive by its suffix, then push every manifest of
its image index. -/
def copyArchiveToRemote (path registry : GoString) : Trace :=
  match w.mkdirTemp path with
  | some e => .fail e
  | none =>
    let extracted :=
      if hasSuffix path (lit ".tar.gz") then w.extractTarGz path
      else if hasSuffix path (lit ".tar") then w.extractTar path
      else some (.text (lit "unsupported archive format: " ++ path ++
        lit ", must be .tar or .tar.gz"))
    match extracted with
    | some e => .fail e
    | none =>
      match w.imageIndex path with
      | some e => .fail e
      | none =>
        match w.indexManifest path with
        | .error e => .fail e
        | .ok manifests => forEachUntilError (pushManifest w path registry) manifests

/-- Whether `Run` copies a file it finds in a directory. -/
def isArchiveName (file : GoString) : Bool :=
  hasSuffix file (lit ".tar") || hasSuffix file (lit ".tar.gz")

/-- The body of `Run`'s loop over the archives: a directory's `.tar` and `.tar.gz` files in
turn, or the archive itself. -/
def pushArchive (registry archive : GoString) : Trace :=
  match w.stat archive with
  | .error e => .fail (.wrap (lit "failed to stat archive") e)
  | .ok true =>
    match w.readDir archive with
    | .error e => .fail (.wrap (lit "failed to read directory") e)
    | .ok files =>
      forEachUntilError (fun file => copyArchiveToRemote w (joinPath archive file) registry)
        (files.filter isArchiveName)
  | .ok false => copyArchiveToRemote w archive registry

/-- `Run` from the parse of the vcluster host on: its registry, then the archives in turn. -/
def pushArchives (host : GoString) (archives : List GoString) : Trace :=
  match w.parseURL host with
  | .error e => .fail (.wrap (lit "failed to parse vCluster host") e)
  | .ok vClusterHost =>
    match w.newRegistry vClusterHost with
    | .error e => .fail (.wrap (lit "failed to get remote registry") e)
    | .ok registry => forEachUntilError (pushArchive joinPath w registry) archives

/-- `getClient`: the host of the rest config. -/
def getClient : Except PushError GoString :=
  match w.clientConfig with
  | .error e => .error (.wrap (lit "failed to get client config") e)
  | .ok host => .ok host

/-- `isRegistryEnabled`: whether a GET of `/v2/` answers `200 OK`. -/
def isRegistryEnabled (host : GoString) : Except PushError Bool :=
  let url := host ++ lit "/v2/"
  match w.newRequest url with
  | some e => .error (.wrap (lit "failed to create request") e)
  | none =>
    match w.get url with
    | .error e => .error (.wrap (lit "failed request") e)
    | .ok status => .ok (status == 200)

/-- The error of a cluster that serves no registry. -/
def registryDisabled : GoString :=
  lit "vCluster registry is not enabled or the target cluster is not a vCluster. Please make sure to enable the registry in the vCluster config and run `vcluster connect` to connect to the vCluster before pushing images"

/-- The arguments of `docker save` for the images. -/
def saveArgs (images : List GoString) : List GoString :=
  [lit "docker", lit "save", lit "-o", lit "image.tar"] ++ images

/-- `PushOptions.Run`: the images are the arguments when there are any, else `Images`. -/
def Run (images archives args : List GoString) : Trace :=
  let images := if args ≠ [] then args else images
  if images = [] ∧ archives = [] then .fail (.text (lit "either image or --archive is required"))
  else
    match getClient w with
    | .error e => .fail (.wrap (lit "failed to get client config") e)
    | .ok host =>
      match w.transportFor with
      | some e => .fail (.wrap (lit "failed to get transport") e)
      | none =>
        match isRegistryEnabled w host with
        | .error e => .fail (.wrap (lit "failed to check if registry is enabled") e)
        | .ok false => .fail (.text registryDisabled)
        | .ok true =>
          if images ≠ [] then
            match w.runCommand (saveArgs images) with
            | some e => ⟨[.save (saveArgs images)], some (.wrap (lit "failed to save image") e)⟩
            | none =>
              let rest := pushArchives joinPath w host (archives ++ [lit "image.tar"])
              ⟨.save (saveArgs images) :: rest.actions ++ [.remove (lit "image.tar")], rest.err⟩
          else pushArchives joinPath w host archives

/-! ### What each call does -/

private theorem pushManifest_spec (path registry : GoString) (m : Manifest) :
    (pushManifest w path registry m).Aborted ∨
      ∃ ref, index m.annotations imageNameAnnotation ≠ [] ∧
        w.parseReference (index m.annotations imageNameAnnotation) = .ok ref ∧
        pushManifest w path registry m =
          ⟨[.push ⟨path, m.digest, ref, registry⟩], w.pushImage ⟨path, m.digest, ref, registry⟩⟩ := by
  unfold pushManifest
  dsimp only
  split_ifs with untagged
  · exact .inl (Trace.aborted_fail _)
  split
  · exact .inl (Trace.aborted_fail _)
  rename_i ref parsed
  split
  · exact .inl (Trace.aborted_fail _)
  · exact .inr ⟨ref, untagged, parsed, rfl⟩

private theorem copyArchiveToRemote_spec (path registry : GoString) :
    (copyArchiveToRemote w path registry).Aborted ∨
      isArchiveName path ∧ ∃ manifests, w.indexManifest path = .ok manifests ∧
        copyArchiveToRemote w path registry =
          forEachUntilError (pushManifest w path registry) manifests := by
  unfold copyArchiveToRemote
  split
  · exact .inl (Trace.aborted_fail _)
  dsimp only
  split
  · exact .inl (Trace.aborted_fail _)
  rename_i extracted
  split
  · exact .inl (Trace.aborted_fail _)
  split
  · exact .inl (Trace.aborted_fail _)
  rename_i manifests listed
  refine .inr ⟨?_, manifests, listed, rfl⟩
  split_ifs at extracted with gz tar
  · simp [isArchiveName, gz]
  · simp [isArchiveName, tar]

private theorem pushArchive_spec (registry archive : GoString) :
    (pushArchive joinPath w registry archive).Aborted ∨
      (w.stat archive = .ok false ∧
        pushArchive joinPath w registry archive = copyArchiveToRemote w archive registry) ∨
      ∃ files, w.stat archive = .ok true ∧ w.readDir archive = .ok files ∧
        pushArchive joinPath w registry archive =
          forEachUntilError (fun file => copyArchiveToRemote w (joinPath archive file) registry)
            (files.filter isArchiveName) := by
  unfold pushArchive
  split
  · exact .inl (Trace.aborted_fail _)
  · rename_i dir
    split
    · exact .inl (Trace.aborted_fail _)
    · exact .inr (.inr ⟨_, dir, ‹_›, rfl⟩)
  · exact .inr (.inl ⟨‹_›, rfl⟩)

private theorem pushArchives_spec (host : GoString) (archives : List GoString) :
    (pushArchives joinPath w host archives).Aborted ∨
      ∃ vClusterHost registry, w.parseURL host = .ok vClusterHost ∧
        w.newRegistry vClusterHost = .ok registry ∧
        pushArchives joinPath w host archives = forEachUntilError (pushArchive joinPath w registry) archives := by
  unfold pushArchives
  split
  · exact .inl (Trace.aborted_fail _)
  split
  · exact .inl (Trace.aborted_fail _)
  · exact .inr ⟨_, _, ‹_›, ‹_›, rfl⟩

/-- The archives `Run` copies: `--archive`, then `image.tar` when it saves images. -/
def runArchives (images archives args : List GoString) : List GoString :=
  if (if args ≠ [] then args else images) ≠ [] then archives ++ [lit "image.tar"] else archives

/-- `Run` pushes what copying its archives pushes, once the cluster serves a registry;
every other return makes no push. -/
theorem Run_spec (images archives args : List GoString) :
    ((∀ p, .push p ∉ (Run joinPath w images archives args).actions) ∧
        (Run joinPath w images archives args).err ≠ none) ∨
      ∃ host, getClient w = .ok host ∧ isRegistryEnabled w host = .ok true ∧
        (Run joinPath w images archives args).err =
          (pushArchives joinPath w host (runArchives images archives args)).err ∧
        ∀ p, .push p ∈ (Run joinPath w images archives args).actions ↔
          .push p ∈ (pushArchives joinPath w host (runArchives images archives args)).actions := by
  unfold Run runArchives
  dsimp only
  generalize (if args ≠ [] then args else images) = images
  by_cases empty : images = [] ∧ archives = []
  · rw [if_pos empty]
    exact .inl (Trace.no_push_fail _)
  rw [if_neg empty]
  split
  · exact .inl (Trace.no_push_fail _)
  rename_i host client
  split
  · exact .inl (Trace.no_push_fail _)
  split
  · exact .inl (Trace.no_push_fail _)
  · exact .inl (Trace.no_push_fail _)
  rename_i enabled
  by_cases given : images ≠ []
  · simp only [if_pos given]
    split
    · exact .inl ⟨by simp, nofun⟩
    · exact .inr ⟨host, client, enabled, rfl, fun p => by simp⟩
  · simp only [if_neg given]
    exact .inr ⟨host, client, enabled, rfl, fun p => Iff.rfl⟩

/-! ### Which images a run pushes -/

/-- A run copies `path` for the archive given: the archive itself when it is no directory,
else each `.tar` and `.tar.gz` file the directory lists. -/
def CopiesFrom (archive path : GoString) : Prop :=
  (w.stat archive = .ok false ∧ path = archive) ∨
    ∃ files, w.stat archive = .ok true ∧ w.readDir archive = .ok files ∧
      ∃ file ∈ files, isArchiveName file ∧ path = joinPath archive file

/-- `p` pushes a manifest of its archive's image index that carries a tag, under the
reference the tag parses to. -/
def TaggedImage (p : ImagePush) : Prop :=
  ∃ manifests, w.indexManifest p.archive = .ok manifests ∧ ∃ m ∈ manifests, m.digest = p.digest ∧
    index m.annotations imageNameAnnotation ≠ [] ∧
    w.parseReference (index m.annotations imageNameAnnotation) = .ok p.ref

private theorem copyArchiveToRemote_sound {path registry : GoString} {p : ImagePush}
    (pushed : .push p ∈ (copyArchiveToRemote w path registry).actions) :
    p.archive = path ∧ p.registry = registry ∧ isArchiveName path ∧ TaggedImage w p := by
  rcases copyArchiveToRemote_spec w path registry with ⟨none, -⟩ | ⟨named, manifests, listed, eq⟩
  · rw [none] at pushed; cases pushed
  rw [eq] at pushed
  obtain ⟨m, mem, pushed⟩ := mem_forEachUntilError pushed
  rcases pushManifest_spec w path registry m with ⟨none, -⟩ | ⟨ref, tagged, parsed, eq⟩
  · rw [none] at pushed; cases pushed
  rw [eq, List.mem_singleton] at pushed
  cases pushed
  exact ⟨rfl, rfl, named, manifests, listed, m, mem, rfl, tagged, parsed⟩

private theorem copyArchiveToRemote_ok {path registry : GoString}
    (ok : (copyArchiveToRemote w path registry).err = none) :
    ∃ manifests, w.indexManifest path = .ok manifests ∧ ∀ m ∈ manifests, ∃ ref,
      w.parseReference (index m.annotations imageNameAnnotation) = .ok ref ∧
      .push ⟨path, m.digest, ref, registry⟩ ∈ (copyArchiveToRemote w path registry).actions := by
  rcases copyArchiveToRemote_spec w path registry with ⟨-, failed⟩ | ⟨-, manifests, listed, eq⟩
  · exact absurd ok failed
  refine ⟨manifests, listed, fun m mem => ?_⟩
  rw [eq] at ok ⊢
  obtain ⟨ran, took⟩ := forEachUntilError_ok ok m mem
  rcases pushManifest_spec w path registry m with ⟨-, failed⟩ | ⟨ref, -, parsed, eq⟩
  · exact absurd ran failed
  exact ⟨ref, parsed, took _ (by rw [eq]; exact List.mem_singleton_self _)⟩

private theorem pushArchive_sound {registry archive : GoString} {a : Action}
    (acted : a ∈ (pushArchive joinPath w registry archive).actions) :
    ∃ path, CopiesFrom joinPath w archive path ∧ a ∈ (copyArchiveToRemote w path registry).actions := by
  rcases pushArchive_spec joinPath w registry archive with
    ⟨none, -⟩ | ⟨file, eq⟩ | ⟨files, dir, listed, eq⟩
  · rw [none] at acted; cases acted
  · rw [eq] at acted
    exact ⟨archive, .inl ⟨file, rfl⟩, acted⟩
  · rw [eq] at acted
    obtain ⟨file, mem, acted⟩ := mem_forEachUntilError acted
    obtain ⟨mem, named⟩ := List.mem_filter.mp mem
    exact ⟨_, .inr ⟨files, dir, listed, file, mem, named, rfl⟩, acted⟩

private theorem pushArchive_ok {registry archive : GoString}
    (ok : (pushArchive joinPath w registry archive).err = none) :
    (w.stat archive = .ok false ∨ ∃ files, w.stat archive = .ok true ∧ w.readDir archive = .ok files) ∧
      ∀ path, CopiesFrom joinPath w archive path → (copyArchiveToRemote w path registry).err = none ∧
        ∀ a ∈ (copyArchiveToRemote w path registry).actions,
          a ∈ (pushArchive joinPath w registry archive).actions := by
  rcases pushArchive_spec joinPath w registry archive with
    ⟨-, failed⟩ | ⟨file, eq⟩ | ⟨files, dir, listed, eq⟩
  · exact absurd ok failed
  · refine ⟨.inl file, fun path copies => ?_⟩
    rcases copies with ⟨-, rfl⟩ | ⟨_, dir, -⟩
    · rw [eq] at ok ⊢
      exact ⟨ok, fun a acted => acted⟩
    · rw [file] at dir; cases dir
  · refine ⟨.inr ⟨files, dir, listed⟩, fun path copies => ?_⟩
    rcases copies with ⟨file, -⟩ | ⟨files', -, listed', file, mem, named, rfl⟩
    · rw [file] at dir; cases dir
    · rw [listed] at listed'
      cases listed'
      rw [eq] at ok ⊢
      exact forEachUntilError_ok ok file (List.mem_filter.mpr ⟨mem, named⟩)

/-- Whatever the cluster, the file system and the registry answer, every image a run
pushes goes to the registry of the vcluster host, once `/v2/` answered `200 OK`; it comes
from an archive given that is no directory, or from a `.tar` or `.tar.gz` file of a
directory given, whose own name ends in `.tar` or `.tar.gz`; and it is a manifest of that
archive with a tag, pushed under the reference the tag parses to. -/
theorem run_pushes_only_tagged_images (images archives args : List GoString) (p : ImagePush)
    (pushed : .push p ∈ (Run joinPath w images archives args).actions) :
    ∃ host vClusterHost, getClient w = .ok host ∧ isRegistryEnabled w host = .ok true ∧
      w.parseURL host = .ok vClusterHost ∧ w.newRegistry vClusterHost = .ok p.registry ∧
      (∃ archive ∈ runArchives images archives args, CopiesFrom joinPath w archive p.archive) ∧
      isArchiveName p.archive ∧ TaggedImage w p := by
  rcases Run_spec joinPath w images archives args with ⟨none, -⟩ | ⟨host, client, enabled, -, pushes⟩
  · exact absurd pushed (none p)
  rw [pushes p] at pushed
  rcases pushArchives_spec joinPath w host (runArchives images archives args) with
    ⟨none, -⟩ | ⟨vClusterHost, registry, parsed, named, eq⟩
  · rw [none] at pushed; cases pushed
  rw [eq] at pushed
  obtain ⟨archive, given, pushed⟩ := mem_forEachUntilError pushed
  obtain ⟨path, copies, pushed⟩ := pushArchive_sound joinPath w pushed
  obtain ⟨rfl, rfl, archiveName, tagged⟩ := copyArchiveToRemote_sound w pushed
  exact ⟨host, vClusterHost, client, enabled, parsed, named, ⟨archive, given, copies⟩, archiveName,
    tagged⟩

/-- Whatever the cluster, the file system and the registry answer, a run that returns nil
found every archive it was given, and pushed every manifest of every archive it copies to
the registry of the vcluster host, under the reference its tag parses to. -/
theorem run_pushes_every_tagged_image (images archives args : List GoString)
    (ok : (Run joinPath w images archives args).err = none) :
    ∃ host vClusterHost registry, getClient w = .ok host ∧ isRegistryEnabled w host = .ok true ∧
      w.parseURL host = .ok vClusterHost ∧ w.newRegistry vClusterHost = .ok registry ∧
      ∀ archive ∈ runArchives images archives args,
        (w.stat archive = .ok false ∨
          ∃ files, w.stat archive = .ok true ∧ w.readDir archive = .ok files) ∧
        ∀ path, CopiesFrom joinPath w archive path →
          ∃ manifests, w.indexManifest path = .ok manifests ∧ ∀ m ∈ manifests, ∃ ref,
            w.parseReference (index m.annotations imageNameAnnotation) = .ok ref ∧
            .push ⟨path, m.digest, ref, registry⟩ ∈ (Run joinPath w images archives args).actions := by
  rcases Run_spec joinPath w images archives args with ⟨-, failed⟩ | ⟨host, client, enabled, err, pushes⟩
  · exact absurd ok failed
  rw [err] at ok
  rcases pushArchives_spec joinPath w host (runArchives images archives args) with
    ⟨-, failed⟩ | ⟨vClusterHost, registry, parsed, named, eq⟩
  · exact absurd ok failed
  refine ⟨host, vClusterHost, registry, client, enabled, parsed, named, fun archive given => ?_⟩
  rw [eq] at ok
  obtain ⟨ran, took⟩ := forEachUntilError_ok ok archive given
  obtain ⟨found, copied⟩ := pushArchive_ok joinPath w ran
  refine ⟨found, fun path copies => ?_⟩
  obtain ⟨copyOk, copyTook⟩ := copied path copies
  obtain ⟨manifests, listed, each⟩ := copyArchiveToRemote_ok w copyOk
  refine ⟨manifests, listed, fun m mem => ?_⟩
  obtain ⟨ref, parsedRef, pushed⟩ := each m mem
  exact ⟨ref, parsedRef, (pushes _).mpr (by rw [eq]; exact took _ (copyTook _ pushed))⟩

/-- Whatever the cluster, the file system and the registry answer, a run that returns an
error pushed nothing, or failed in the loop over its archives: it pushed what the archives
before the first failing one pushed, then what the failing one pushed, in that order, and
returns the failing archive's error as its own. -/
theorem run_stops_at_first_failure (images archives args : List GoString) {e : PushError}
    (failed : (Run joinPath w images archives args).err = some e) :
    (∀ p, .push p ∉ (Run joinPath w images archives args).actions) ∨
      ∃ host vClusterHost registry before archive after,
        getClient w = .ok host ∧ w.parseURL host = .ok vClusterHost ∧
        w.newRegistry vClusterHost = .ok registry ∧
        runArchives images archives args = before ++ archive :: after ∧
        (∀ a ∈ before, (pushArchive joinPath w registry a).err = none) ∧
        (pushArchive joinPath w registry archive).err = some e ∧
        ∀ p, .push p ∈ (Run joinPath w images archives args).actions ↔
          .push p ∈ (before.flatMap fun a => (pushArchive joinPath w registry a).actions) ++
            (pushArchive joinPath w registry archive).actions := by
  rcases Run_spec joinPath w images archives args with ⟨none, -⟩ | ⟨host, client, -, err, pushes⟩
  · exact .inl none
  rw [err] at failed
  rcases pushArchives_spec joinPath w host (runArchives images archives args) with
    ⟨empty, -⟩ | ⟨vClusterHost, registry, parsed, named, eq⟩
  · exact .inl fun p pushed => by rw [pushes, empty] at pushed; cases pushed
  rw [eq] at failed pushes
  obtain ⟨before, archive, after, split, ran, fails, acts⟩ := forEachUntilError_stops failed
  refine .inr ⟨host, vClusterHost, registry, before, archive, after, client, parsed, named, split, ran,
    fails, fun p => ?_⟩
  rw [pushes, acts]

end Run

/-! ### A directory of archives -/

/-- `filepath.Join` of a clean directory and a file name. -/
def slashJoin (dir file : GoString) : GoString := dir ++ lit "/" ++ file

/-- A vcluster serving its registry, and a directory `images` listing `app.tar`, whose
index names `nginx:latest`, and `notes.txt`. -/
def imagesWorld : World where
  clientConfig := .ok (lit "https://vc.example")
  transportFor := none
  newRequest := fun _ => none
  get := fun _ => .ok 200
  runCommand := fun _ => none
  parseURL := fun _ => .ok (lit "vc.example")
  newRegistry := fun host => .ok host
  stat := fun path => .ok (path == lit "images")
  readDir := fun _ => .ok [lit "app.tar", lit "notes.txt"]
  mkdirTemp := fun _ => none
  extractTarGz := fun _ => none
  extractTar := fun _ => none
  imageIndex := fun _ => none
  indexManifest := fun _ =>
    .ok [⟨(∅ : GoMap).insert imageNameAnnotation (lit "nginx:latest"), lit "sha256:1"⟩]
  parseReference := fun tag => .ok tag
  image := fun _ _ => none
  pushImage := fun _ => none

/-- The push of `nginx:latest` from `images/app.tar`. -/
def nginxPush : ImagePush := ⟨lit "images/app.tar", lit "sha256:1", lit "nginx:latest", lit "vc.example"⟩

theorem imagesWorld_pushes_nginx :
    .push nginxPush ∈ (Run slashJoin imagesWorld [] [lit "images"] []).actions ∧
      ∃ host vClusterHost, getClient imagesWorld = .ok host ∧
        isRegistryEnabled imagesWorld host = .ok true ∧
        imagesWorld.parseURL host = .ok vClusterHost ∧
        imagesWorld.newRegistry vClusterHost = .ok nginxPush.registry ∧
        (∃ archive ∈ runArchives [] [lit "images"] [],
          CopiesFrom slashJoin imagesWorld archive nginxPush.archive) ∧
        isArchiveName nginxPush.archive ∧ TaggedImage imagesWorld nginxPush :=
  ⟨by decide, run_pushes_only_tagged_images slashJoin imagesWorld [] [lit "images"] [] nginxPush
    (by decide)⟩

theorem imagesWorld_pushes_all :
    (Run slashJoin imagesWorld [] [lit "images"] []).err = none ∧
      ∃ host vClusterHost registry, getClient imagesWorld = .ok host ∧
        isRegistryEnabled imagesWorld host = .ok true ∧
        imagesWorld.parseURL host = .ok vClusterHost ∧
        imagesWorld.newRegistry vClusterHost = .ok registry ∧
        ∀ archive ∈ runArchives [] [lit "images"] [],
          (imagesWorld.stat archive = .ok false ∨
            ∃ files, imagesWorld.stat archive = .ok true ∧ imagesWorld.readDir archive = .ok files) ∧
          ∀ path, CopiesFrom slashJoin imagesWorld archive path →
            ∃ manifests, imagesWorld.indexManifest path = .ok manifests ∧ ∀ m ∈ manifests, ∃ ref,
              imagesWorld.parseReference (index m.annotations imageNameAnnotation) = .ok ref ∧
              .push ⟨path, m.digest, ref, registry⟩ ∈
                (Run slashJoin imagesWorld [] [lit "images"] []).actions :=
  ⟨by decide, run_pushes_every_tagged_image slashJoin imagesWorld [] [lit "images"] [] (by decide)⟩

theorem imagesWorld_stops_at_notes :
    ∃ e, (Run slashJoin imagesWorld [] [lit "images", lit "notes"] []).err = some e ∧
      ((∀ p, .push p ∉ (Run slashJoin imagesWorld [] [lit "images", lit "notes"] []).actions) ∨
        ∃ host vClusterHost registry before archive after,
          getClient imagesWorld = .ok host ∧ imagesWorld.parseURL host = .ok vClusterHost ∧
          imagesWorld.newRegistry vClusterHost = .ok registry ∧
          runArchives [] [lit "images", lit "notes"] [] = before ++ archive :: after ∧
          (∀ a ∈ before, (pushArchive slashJoin imagesWorld registry a).err = none) ∧
          (pushArchive slashJoin imagesWorld registry archive).err = some e ∧
          ∀ p, .push p ∈ (Run slashJoin imagesWorld [] [lit "images", lit "notes"] []).actions ↔
            .push p ∈ (before.flatMap fun a => (pushArchive slashJoin imagesWorld registry a).actions) ++
              (pushArchive slashJoin imagesWorld registry archive).actions) :=
  ⟨_, rfl, run_stops_at_first_failure slashJoin imagesWorld [] [lit "images", lit "notes"] [] rfl⟩

end VClusterTranslate.Registry.Push
