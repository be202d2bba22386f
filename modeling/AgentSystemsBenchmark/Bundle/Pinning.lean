import AgentSystemsBenchmark.Bundle.Verifier

/-!
# A manifest digest pins its bundle

Every regular file of an accepted bundle is the manifest, a bill of materials or an
artifact, and the manifest holds a digest of it; only the detached signature is held by
nothing. Bundles accepted with one manifest digest therefore have the same files, the same
bytes and, where the manifest records a mode, the same mode.
-/

namespace AgentSystemsBenchmark.Bundle

open Effects FileTrees List OrderedSet

variable {platform : Platform} {host : Host} {canonical : String} {config : VerifierConfig}
  {expected : RuntimeTarget} {policy : VerificationPolicy} {verified : VerifiedBundle}
  {root : Tree} {manifest : RuntimeBundleManifest} {manifestBytes : List UInt8}

/-! ## What enumeration finds -/

/-- The set grew by the paths of these files, all of which are texts. -/
def Collects (files : List RegularFile) (before after : OrderedSet String) : Prop :=
  (∀ f ∈ files, ∃ value, pathText f.path = some value) ∧
    ∀ value, value ∈ after.items ↔ value ∈ before.items ∨
      ∃ f ∈ files, pathText f.path = some value

theorem Collects.append (one : Collects first s t) (two : Collects second t u) :
    Collects (first ++ second) s u := by
  refine ⟨forall_mem_append.mpr ⟨one.1, two.1⟩, fun value => ?_⟩
  rw [two.2, one.2, or_assoc]
  simp only [mem_append, or_and_right, exists_or]

theorem visitFile_collects (h : visitFile path s = .ok t) : Collects [⟨path, mode, bytes⟩] s t := by
  simp only [visitFile, bind_eq_ok, getDM_eq_ok, pure_eq_ok] at h
  obtain ⟨value, written, -, -, -, -, rfl⟩ := h
  refine ⟨forall_mem_singleton.mpr ⟨value, written⟩, fun other => ?_⟩
  rw [mem_insert, or_comm, eq_comm]
  simp [written]

mutual
theorem visitEntry_collects (entry : Entry) (h : visitEntry dir s entry = .ok t) :
    Collects (entry.files dir) s t := by
  cases entry with
  | symlink | special => exact nomatch h
  | file name mode bytes => exact visitFile_collects h
  | directory name entries => exact visit_collects entries h

theorem visit_collects (entries : List Entry) (h : visit dir s entries = .ok t) :
    Collects (filesOf dir entries) s t := by
  cases entries with
  | nil =>
    cases h
    exact ⟨fun f mem => absurd mem not_mem_nil, fun value => by simp [filesOf]⟩
  | cons entry rest =>
    obtain ⟨u, first, later⟩ := bind_eq_ok.mp h
    exact (visitEntry_collects entry first).append (visit_collects rest later)
end

theorem enumerateFiles_collects (h : enumerateFiles root = .ok files) :
    Collects root.files .empty files := by
  unfold enumerateFiles at h
  split at h
  case h_1 name entries directory =>
    have found := visit_collects entries h
    rw [Tree.files, directory]
    exact found
  case h_2 => exact nomatch h

/-! ## What acceptance checks -/

theorem openRegular_eq_ok :
    openRegular entry = .ok file ↔ ∃ name, entry = some (.file name file.mode file.bytes) := by
  rcases entry with _ | (⟨name, mode, bytes⟩ | _ | _ | _)
  case some.file =>
    obtain ⟨fileMode, fileBytes⟩ := file
    simp [openRegular]
  all_goals simp [openRegular]

theorem readRegularBounded_eq_ok {entry : Option Entry} {max : Nat} {bytes : List UInt8}
    (h : readRegularBounded entry max = .ok bytes) :
    ∃ name mode, entry = some (.file name mode bytes) := by
  simp only [readRegularBounded, bind_eq_ok, openRegular_eq_ok, pure_eq_ok] at h
  obtain ⟨file, ⟨name, found⟩, -, -, rfl⟩ := h
  exact ⟨name, file.mode, found⟩

theorem validateRoot_eq_ok (h : validateRoot (some root) = .ok tree) : root = tree := by
  unfold validateRoot at h
  split at h
  case h_1 => exact nomatch ‹some root = none›
  case h_2 found =>
    cases found
    split at h
    · exact Except.ok.inj h
    · exact nomatch h

/-- The manifest of a bundle, where there is one. -/
def manifestOf (platform : Platform) (root : Tree) : Option RuntimeBundleManifest :=
  match root.entryAt "manifest.json" with
  | some (.file _ _ bytes) => platform.parseManifest bytes
  | _ => none

/-- What the verifier has checked of a bundle it accepts. -/
structure Accepted (platform : Platform) (root : Tree) (policy : VerificationPolicy)
    (manifest : RuntimeBundleManifest) (manifestBytes : List UInt8) : Prop where
  read : ∃ name mode, root.entryAt "manifest.json" = some (.file name mode manifestBytes)
  parsed : platform.parseManifest manifestBytes = some manifest
  profile : validateProfile manifest policy = .ok ⟨⟩
  inventory : ∃ present files, expectedInventory manifest policy present = .ok files ∧
    enumerateFiles root = .ok files
  artifacts : ∀ artifact ∈ manifest.artifacts, verifyArtifact platform root artifact = .ok ⟨⟩
  sboms : ∀ document ∈ [manifest.spdx, manifest.cyclonedx],
    ∃ value, readAndHashSbom platform root document = .ok value

theorem verifyBundleWithPolicy_accepted
    (h : verifyBundleWithPolicy platform host canonical (some root) config expected policy =
      .ok verified) :
    ∃ manifest manifestBytes, Accepted platform root policy manifest manifestBytes ∧
      verified.manifestSha256 = platform.sha256 manifestBytes := by
  simp only [verifyBundleWithPolicy, bind_eq_ok, getDM_eq_ok, pure_eq_ok, refuse_eq_ok] at h
  obtain ⟨tree, rooted, manifestBytes, read, manifest, parsed, ⟨⟩, profile, -, -, -, -, inventory,
    declared, files, found, -, same, -, -, ⟨⟩, artifacts, -, -, spdx, spdxRead, cyclonedx,
    cyclonedxRead, -, -, -, -, rfl⟩ := h
  obtain rfl := validateRoot_eq_ok rooted
  obtain rfl := not_not.mp same
  refine ⟨manifest, manifestBytes, ⟨?_, parsed, profile, ⟨_, _, declared, found⟩, ?_, ?_⟩, rfl⟩
  · exact readRegularBounded_eq_ok read
  · exact checkAll_eq_ok.mp artifacts
  · simp [spdxRead, cyclonedxRead]

/-! ## What the manifest holds of each file -/

/-- The paths a manifest declares, beside the signature's. -/
theorem mem_expectedInventory (h : expectedInventory manifest policy present = .ok files)
    (unsigned : value ≠ "manifest.json.sig") :
    value ∈ files.items ↔ value = "manifest.json" ∨
      (∃ document ∈ [manifest.spdx, manifest.cyclonedx], value = document.path) ∨
      ∃ artifact ∈ manifest.artifacts, value = artifact.path := by
  simp only [expectedInventory, insertMetadata, bind_eq_ok, pure_eq_ok] at h
  obtain ⟨s, ⟨-, -, rfl⟩, t, ⟨-, -, rfl⟩, h⟩ := h
  have declared : value ∈ (((ofList (manifest.artifacts.map (·.path))).insert
      manifest.spdx.path).insert manifest.cyclonedx.path |>.insert "manifest.json").items ↔
      value = "manifest.json" ∨
        (∃ document ∈ [manifest.spdx, manifest.cyclonedx], value = document.path) ∨
        ∃ artifact ∈ manifest.artifacts, value = artifact.path := by
    simp only [mem_insert, ofList, mem_insertAll]
    simp [empty, eq_comm]
    tauto
  split at h
  · cases h
    rw [mem_insert, or_iff_right unsigned, declared]
  · cases h
    exact declared

/-- What the manifest holds of the file at a path. -/
structure Holding (platform : Platform) (manifest : RuntimeBundleManifest)
    (manifestBytes : List UInt8) (value : String) (f : RegularFile) : Prop where
  itself : value = "manifest.json" → f.bytes = manifestBytes
  sbom : ∀ document ∈ [manifest.spdx, manifest.cyclonedx], value = document.path →
    platform.sha256 f.bytes = document.sha256
  artifact : ∀ artifact ∈ manifest.artifacts, value = artifact.path →
    platform.sha256 f.bytes = artifact.sha256 ∧ f.mode &&& 0o7777 = artifact.mode

section
variable (accepted : Accepted platform root policy manifest manifestBytes)
include accepted

theorem Accepted.holding {f : RegularFile} (mem : f ∈ root.files) {value : String}
    (written : pathText f.path = some value) : Holding platform manifest manifestBytes value f := by
  obtain ⟨name, found⟩ := Tree.entryAt_eq mem written
  constructor
  · rintro rfl
    obtain ⟨other, mode, read⟩ := accepted.read
    have same := Option.mem_unique found read
    exact (Entry.file.inj same).2.2
  · rintro document listed rfl
    obtain ⟨parsed, read⟩ := accepted.sboms document listed
    simp only [readAndHashSbom, bind_eq_ok, refuse_eq_ok, getDM_eq_ok] at read
    obtain ⟨bytes, opened, -, hashed, -⟩ := read
    obtain ⟨other, mode, read⟩ := readRegularBounded_eq_ok opened
    have same := Option.mem_unique found read
    rw [(Entry.file.inj same).2.2]
    exact not_not.mp hashed
  · rintro artifact listed rfl
    have checked := accepted.artifacts artifact listed
    rw [verifyArtifact, hashRegularFile, found] at checked
    simp only [openRegular, bind_eq_ok, refuse_eq_ok, pure_eq_ok, Except.ok.injEq] at checked
    obtain ⟨-, ⟨-, rfl, rfl⟩, -, hashed, -, rfl, moded⟩ := checked
    push Not at hashed moded
    exact ⟨hashed.2, moded⟩

/-! ## Two bundles of one manifest -/

/-- The mode of a file, where the manifest records one for it. -/
def recordedMode (platform : Platform) (root : Tree) (f : RegularFile) : Option Nat :=
  if (manifestOf platform root).any fun manifest =>
      manifest.artifacts.any fun artifact => pathText f.path = some artifact.path
  then some (f.mode &&& 0o7777) else none

/-- The regular files of a bundle with their paths, bytes and recorded modes, apart from the
detached signature. -/
def contentsOf (platform : Platform) (root : Tree) :
    Set (List Name × List UInt8 × Option Nat) :=
  { item | ∃ f ∈ root.files, f.path ≠ [.text "manifest.json.sig"] ∧
    item = (f.path, f.bytes, recordedMode platform root f) }

theorem Accepted.manifestOf_eq :
    manifestOf platform root = some manifest := by
  obtain ⟨name, mode, read⟩ := accepted.read
  rw [manifestOf, read]
  exact accepted.parsed

/-- The manifest is a file of its bundle. -/
theorem Accepted.manifest_mem :
    ∃ f ∈ root.files, f.bytes = manifestBytes := by
  obtain ⟨present, files, declared, found⟩ := accepted.inventory
  have listed : "manifest.json" ∈ files.items :=
    (mem_expectedInventory declared (by decide)).mpr (.inl rfl)
  obtain absent | ⟨f, mem, written⟩ := ((enumerateFiles_collects found).2 _).mp listed
  · exact absurd absent not_mem_nil
  · exact ⟨f, mem, (accepted.holding mem written).itself rfl⟩

end

theorem recordedMode_congr (one : manifestOf platform first = some manifest)
    (two : manifestOf platform second = some manifest)
    (hf : Holding platform manifest manifestBytes value f)
    (hg : Holding platform manifest manifestBytes value g) (here : pathText f.path = some value)
    (there : pathText g.path = some value) :
    recordedMode platform first f = recordedMode platform second g := by
  rw [recordedMode, recordedMode, one, two, here, there]
  split
  case isFalse => rfl
  case isTrue recorded =>
    obtain ⟨artifact, listed, named⟩ := any_eq_true.mp recorded
    have path : value = artifact.path := Option.some.inj (of_decide_eq_true named)
    rw [(hf.artifact artifact listed path).2, (hg.artifact artifact listed path).2]

/-- The byte strings of the regular files of two trees. -/
def bytesOf (first second : Tree) : Set (List UInt8) :=
  { bytes | ∃ f, (f ∈ first.files ∨ f ∈ second.files) ∧ f.bytes = bytes }

theorem bytesOf_comm (first second : Tree) : bytesOf first second = bytesOf second first := by
  simp only [bytesOf, or_comm]

/-- What a manifest declares and holds of one bundle is there in another one it is the
manifest of. -/
theorem Accepted.contents_subset (here : Accepted platform first one manifest manifestBytes)
    (there : Accepted platform second two manifest manifestBytes)
    (free : Set.InjOn platform.sha256 (bytesOf first second)) :
    contentsOf platform first ⊆ contentsOf platform second := by
  rintro _ ⟨f, mem, unsigned, rfl⟩
  obtain ⟨_, files, declared, found⟩ := here.inventory
  obtain ⟨_, others, declared', found'⟩ := there.inventory
  obtain ⟨value, written⟩ := (enumerateFiles_collects found).1 f mem
  have along := Tree.pieces_of_mem_files mem written
  have proper : value ≠ "manifest.json.sig" := by
    rintro rfl
    exact unsigned along
  -- the path is declared, hence found in the other bundle
  have listed := ((enumerateFiles_collects found).2 value).mpr (.inr ⟨f, mem, written⟩)
  have known := (mem_expectedInventory declared proper).mp listed
  have listed' := (mem_expectedInventory declared' proper).mpr known
  obtain absent | ⟨g, mem', written'⟩ := ((enumerateFiles_collects found').2 value).mp listed'
  · exact absurd absent not_mem_nil
  have hf := here.holding mem written
  have hg := there.holding mem' written'
  have paths : f.path = g.path := along.trans (Tree.pieces_of_mem_files mem' written').symm
  have bytes : f.bytes = g.bytes := by
    rcases known with rfl | ⟨document, member, rfl⟩ | ⟨artifact, member, rfl⟩
    · rw [hf.itself rfl, hg.itself rfl]
    · exact free ⟨f, .inl mem, rfl⟩ ⟨g, .inr mem', rfl⟩
        ((hf.sbom document member rfl).trans (hg.sbom document member rfl).symm)
    · exact free ⟨f, .inl mem, rfl⟩ ⟨g, .inr mem', rfl⟩
        ((hf.artifact artifact member rfl).1.trans (hg.artifact artifact member rfl).1.symm)
  refine ⟨g, mem', paths ▸ unsigned, ?_⟩
  rw [paths, bytes,
    recordedMode_congr here.manifestOf_eq there.manifestOf_eq hf hg written written']

/-- Bundles accepted with one manifest digest have the same regular files, apart from the
detached signature, and a bundle whose profile is unsigned is never accepted where a
signature is required. -/
theorem manifest_digest_pins_bundle (platform : Platform) :
    (∀ (first second : Tree) (hostA hostB : Host) (canonicalA canonicalB : String)
      (configA configB : VerifierConfig) (expectedA expectedB : RuntimeTarget)
      (policyA policyB : VerificationPolicy) (verifiedA verifiedB : VerifiedBundle),
      verifyBundleWithPolicy platform hostA canonicalA (some first) configA expectedA policyA =
        .ok verifiedA →
      verifyBundleWithPolicy platform hostB canonicalB (some second) configB expectedB policyB =
        .ok verifiedB →
      verifiedA.manifestSha256 = verifiedB.manifestSha256 →
      Set.InjOn platform.sha256 (bytesOf first second) →
      contentsOf platform first = contentsOf platform second) ∧
    (∀ (root : Tree) (host : Host) (canonical : String) (config : VerifierConfig)
      (expected : RuntimeTarget) (manifest : RuntimeBundleManifest),
      manifestOf platform root = some manifest → manifest.profile ≠ .signed →
      ∀ verified, verifyBundleWithPolicy platform host canonical (some root) config expected
        .requireSignature ≠ .ok verified) := by
  constructor
  · intro first second hostA hostB canonicalA canonicalB configA configB expectedA expectedB
      policyA policyB verifiedA verifiedB hA hB same free
    obtain ⟨manifest, bytes, here, digest⟩ := verifyBundleWithPolicy_accepted hA
    obtain ⟨manifest', bytes', there, digest'⟩ := verifyBundleWithPolicy_accepted hB
    obtain ⟨f, mem, rfl⟩ := here.manifest_mem
    obtain ⟨g, mem', rfl⟩ := there.manifest_mem
    have bytes : f.bytes = g.bytes :=
      free ⟨f, .inl mem, rfl⟩ ⟨g, .inr mem', rfl⟩ (digest.symm.trans (same.trans digest'))
    have parsed : some manifest = some manifest' := by
      rw [← here.parsed, ← there.parsed, bytes]
    cases parsed
    rw [← bytes] at there
    apply Set.Subset.antisymm
    · exact here.contents_subset there free
    · exact there.contents_subset here (bytesOf_comm first second ▸ free)
  · intro root host canonical config expected manifest read unsigned verified h
    obtain ⟨found, bytes, accepted, -⟩ := verifyBundleWithPolicy_accepted h
    obtain rfl := Option.mem_unique accepted.manifestOf_eq read
    have allowed := accepted.profile
    simp only [validateProfile, refuse_eq_ok, Bool.and_eq_true, decide_eq_true_eq, not_not]
      at allowed
    exact unsigned allowed.1

/-! A development bundle of one program, without and with a placeholder signature. -/

/-- A digest that tells the sample's files apart by their first bytes. -/
def sampleDigest (bytes : List UInt8) : String :=
  String.ofList (List.replicate 64 (Nat.digitChar (bytes.headD 0).toNat))

def sampleTarget : RuntimeTarget := ⟨"linux", "x86_64", "glibc", "2.39"⟩

def sampleManifest : RuntimeBundleManifest where
  schemaVersion := 2
  profile := .unsignedDevelopment
  signatureStatus := .unsigned
  bundleId := "sample"
  bundleVersion := "1"
  target := sampleTarget
  entrypoint := "run"
  artifacts := [⟨"run", 1, sampleDigest [2], 0o755, "MIT", ["run"], none⟩]
  runtimeComponents := none
  contentSha256 := sampleDigest [0]
  spdx := ⟨"sbom/spdx.json", sampleDigest [3]⟩
  cyclonedx := ⟨"sbom/cdx.json", sampleDigest [4]⟩

def sampleSpdx : Json.Value := .object [
  ("spdxVersion", .string "SPDX-2.3"),
  ("files", .array [.object [
    ("fileName", .string "run"),
    ("checksums", .array [.object [
      ("algorithm", .string "SHA256"), ("checksumValue", .string (sampleDigest [2]))]]),
    ("licenseConcluded", .string "MIT")]])]

def sampleCyclonedx : Json.Value := .object [
  ("bomFormat", .string "CycloneDX"),
  ("specVersion", .string "1.6"),
  ("components", .array [.object [
    ("type", .string "file"),
    ("bom-ref", .string "run"),
    ("hashes", .array [.object [
      ("alg", .string "SHA-256"), ("content", .string (sampleDigest [2]))]]),
    ("licenses", .array [.object [("expression", .string "MIT")]])]])]

def samplePlatform : Platform where
  sha256 := sampleDigest
  parseManifest _ := some sampleManifest
  parseJson bytes := some (if bytes = [3] then sampleSpdx else sampleCyclonedx)

def sampleHost : Host := ⟨fun _ => none, fun _ _ _ _ => false⟩

def sampleConfig : VerifierConfig := ⟨"", "", "", ""⟩

def sampleSboms : List Entry :=
  [.file (.text "spdx.json") 0o100644 [3], .file (.text "cdx.json") 0o100644 [4]]

def sampleEntries (placeholder : Bool) : List Entry :=
  [.file (.text "manifest.json") 0o100644 [1], .file (.text "run") 0o100755 [2],
    .directory (.text "sbom") sampleSboms] ++
  if placeholder then [.file (.text "manifest.json.sig") 0o100600 [5]] else []

theorem sampleSboms_listing : Listing sampleSboms := by
  refine .mk (by decide) (by decide) fun name inner mem => ?_
  simp [sampleSboms] at mem

theorem sampleEntries_listing (placeholder : Bool) : Listing (sampleEntries placeholder) := by
  refine .mk (by cases placeholder <;> decide) (by cases placeholder <;> decide)
    fun name inner mem => ?_
  have only : inner = sampleSboms := by
    cases placeholder <;> simp [sampleEntries] at mem <;> exact mem.2
  exact only ▸ sampleSboms_listing

def sampleTree (placeholder : Bool) : Tree where
  root := .directory (.text "bundle") (sampleEntries placeholder)
  listed _ _ same := (Entry.directory.inj same).2 ▸ sampleEntries_listing placeholder

def sampleVerified : VerifiedBundle where
  manifestSha256 := sampleDigest [1]
  bundleId := "sample"
  bundleVersion := "1"
  profile := .unsignedDevelopment
  signatureStatus := .unsigned
  contentSha256 := sampleDigest [0]
  artifactCount := 1
  supervisor := none
  sidecar := none

def sampleVerify (placeholder : Bool) : Except VerifyError VerifiedBundle :=
  verifyBundleWithPolicy samplePlatform sampleHost "/bundle" (some (sampleTree placeholder))
    sampleConfig sampleTarget .allowUnsignedDevelopment

theorem sampleVerify_ok : ∀ placeholder, sampleVerify placeholder = .ok sampleVerified := by
  decide +kernel

theorem sampleDigest_injOn :
    Set.InjOn samplePlatform.sha256 (bytesOf (sampleTree false) (sampleTree true)) := by
  have small : ∀ bytes ∈ bytesOf (sampleTree false) (sampleTree true),
      bytes ∈ [[1], [2], [3], [4], [5]] := by
    rintro bytes ⟨f, mem, rfl⟩
    have every : ∀ f ∈ (sampleTree false).files ++ (sampleTree true).files,
        f.bytes ∈ [[1], [2], [3], [4], [5]] := by decide
    exact every f (mem_append.mpr mem)
  have apart : ∀ a ∈ [[1], [2], [3], [4], [5]], ∀ b ∈ [[1], [2], [3], [4], [5]],
      Nat.digitChar (headD a (0 : UInt8)).toNat = Nat.digitChar (b.headD 0).toNat → a = b := by
    decide
  intro a ha b hb same
  have letters := (replicate_inj.mp (String.ofList_injective same)).2
  exact apart a (small a ha) b (small b hb) (letters.resolve_left (by decide))

theorem manifest_digest_pins_bundle_sample :
    contentsOf samplePlatform (sampleTree false) = contentsOf samplePlatform (sampleTree true) ∧
    ∀ verified, verifyBundleWithPolicy samplePlatform sampleHost "/bundle"
      (some (sampleTree false)) sampleConfig sampleTarget .requireSignature ≠ .ok verified :=
  ⟨(manifest_digest_pins_bundle samplePlatform).1 _ _ _ _ _ _ _ _ _ _ _ _ _ _
      (sampleVerify_ok false) (sampleVerify_ok true) rfl sampleDigest_injOn,
    (manifest_digest_pins_bundle samplePlatform).2 _ _ _ _ _ sampleManifest rfl (by decide)⟩

end AgentSystemsBenchmark.Bundle
