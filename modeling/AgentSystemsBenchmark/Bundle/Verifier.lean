import AgentSystemsBenchmark.Library.Effects
import AgentSystemsBenchmark.Library.FileTrees
import AgentSystemsBenchmark.Library.Framing
import AgentSystemsBenchmark.Library.Json
import AgentSystemsBenchmark.Library.OrderedSets

/-!
# Offline verification of runtime bundles

A bundle is a directory with a manifest that lists every regular file. The verifier reads
the manifest, checks its profile and signature against the caller's policy, compares the
inventory it declares with the files it finds, and hashes each of them. The directory does
not change while it is verified, so a file has one content and one mode.
-/

namespace AgentSystemsBenchmark.Bundle

open Effects FileTrees

def schemaVersion : Nat := 2
def signatureNamespace : String := "asb-runtime-bundle-v1"
def maxManifestBytes : Nat := 1024 * 1024
def maxSbomBytes : Nat := 16 * 1024 * 1024
def maxTotalArtifactBytes : Nat := 64 * 1024 * 1024 * 1024
def maxArtifacts : Nat := 100000
def maxSignatureBytes : Nat := 1024 * 1024
def maxAllowedSignersBytes : Nat := 1024 * 1024
def maxStringBytes : Nat := 4096

inductive BundleProfile where
  | signed | unsignedDevelopment | unsignedRelease
  deriving DecidableEq, Repr

inductive SignatureStatus where
  | signed | unsigned
  deriving DecidableEq, Repr

inductive VerificationPolicy where
  | requireSignature | allowUnsignedDevelopment | allowUnsignedRelease
  deriving DecidableEq, Repr

structure RuntimeTarget where
  operatingSystem : String
  architecture : String
  libc : String
  libcVersion : String
  deriving DecidableEq, Repr

inductive BundleArtifactRole where
  | supervisor | sidecar
  deriving DecidableEq, Repr

structure BundleArtifact where
  path : String
  size : Nat
  sha256 : String
  mode : Nat
  licenseExpression : String
  licenseEvidence : List String
  role : Option BundleArtifactRole
  deriving DecidableEq, Repr

structure RuntimeComponents where
  supervisor : String
  sidecar : String
  deriving DecidableEq, Repr

structure SbomDocument where
  path : String
  sha256 : String
  deriving DecidableEq, Repr

structure RuntimeBundleManifest where
  schemaVersion : Nat
  profile : BundleProfile
  signatureStatus : SignatureStatus
  bundleId : String
  bundleVersion : String
  target : RuntimeTarget
  entrypoint : String
  artifacts : List BundleArtifact
  runtimeComponents : Option RuntimeComponents
  contentSha256 : String
  spdx : SbomDocument
  cyclonedx : SbomDocument
  deriving DecidableEq, Repr

structure VerifierConfig where
  sshKeygen : String
  sshKeygenSha256 : String
  allowedSigners : String
  principal : String
  deriving DecidableEq, Repr

structure VerifiedPayload where
  path : String
  sha256 : String
  size : Nat
  mode : Nat
  deriving DecidableEq, Repr

structure VerifiedBundle where
  manifestSha256 : String
  bundleId : String
  bundleVersion : String
  profile : BundleProfile
  signatureStatus : SignatureStatus
  contentSha256 : String
  artifactCount : Nat
  supervisor : Option VerifiedPayload
  sidecar : Option VerifiedPayload
  deriving DecidableEq, Repr

inductive VerifyError where
  | topology (message : String)
  | limit (message : String)
  | metadata (message : String)
  | signature
  | content (message : String)
  | target (message : String)
  | io
  deriving DecidableEq, Repr

/-- The parsers and the hash the verifier is linked with. -/
structure Platform where
  sha256 : List UInt8 → String
  parseManifest : List UInt8 → Option RuntimeBundleManifest
  parseJson : List UInt8 → Option Json.Value

/-- What stands outside the bundle: the entries at absolute paths, and whether the signing
tool accepts a signature of a document under a configuration and a namespace. -/
structure Host where
  entryAt : String → Option Entry
  accepts : VerifierConfig → String → List UInt8 → List UInt8 → Bool

/-! ## Fields -/

def isControl (c : Char) : Bool := c.toNat < 32 || (127 ≤ c.toNat && c.toNat < 160)

def boundedNonempty (name value : String) : Except VerifyError Unit :=
  refuse (value = "" ∨ value.utf8ByteSize > maxStringBytes ∨ value.toList.any isControl)
    (.metadata s!"{name} is empty, oversized, or contains controls")

def validateHash (value : String) : Except VerifyError Unit :=
  refuse (¬ (value.utf8ByteSize = 64 ∧
      value.toList.all fun c => c.isDigit || ('a' ≤ c && c ≤ 'f')))
    (.metadata "SHA-256 is not lowercase hexadecimal")

inductive PathComponent where
  | rootDir | curDir | parentDir
  | normal (name : String)
  deriving DecidableEq, Repr

/-- The components of a path: repeated separators and a `.` behind the first
component are dropped. -/
def components (path : String) : List PathComponent :=
  let pieces := ((path.toList.splitOn '/').map String.ofList).filter (· ≠ "")
  let named := fun piece : String =>
    if piece = ".." then PathComponent.parentDir else .normal piece
  if path.startsWith "/" then
    .rootDir :: (pieces.filter (· ≠ ".")).map named
  else match pieces with
    | [] => []
    | first :: rest =>
      (if first = "." then .curDir else named first) :: (rest.filter (· ≠ ".")).map named

def isNormal : PathComponent → Bool
  | .normal _ => true
  | _ => false

def validateRelativePath (value : String) : Except VerifyError Unit := do
  boundedNonempty "path" value
  refuse (value.startsWith "/" ∨ ¬ (components value).all isNormal)
    (.topology "path is not normalized relative UTF-8")

def validateSbom (sbom : SbomDocument) : Except VerifyError Unit := do
  validateRelativePath sbom.path
  validateHash sbom.sha256

/-! ## The manifest -/

def validateProfile (manifest : RuntimeBundleManifest) (policy : VerificationPolicy) :
    Except VerifyError Unit :=
  let allowed : Bool := match policy with
    | .requireSignature => manifest.profile = .signed && manifest.signatureStatus = .signed
    | .allowUnsignedDevelopment =>
      manifest.profile = .unsignedDevelopment && manifest.signatureStatus = .unsigned
    | .allowUnsignedRelease =>
      manifest.profile = .unsignedRelease && manifest.signatureStatus = .unsigned
  refuse (¬ allowed) .signature

/-- The checks of the artifacts in turn, each above the one before it. -/
def validateArtifacts (prior : Option String) : List BundleArtifact → Except VerifyError Unit
  | [] => .ok ⟨⟩
  | artifact :: rest => do
    validateRelativePath artifact.path
    refuse (artifact.path = "manifest.json" ∨ artifact.path = "manifest.json.sig")
      (.metadata "artifact collides with signed metadata")
    validateHash artifact.sha256
    boundedNonempty "license_expression" artifact.licenseExpression
    refuse (artifact.mode > 0o777 ∨ artifact.mode &&& 0o022 ≠ 0 ∨ artifact.mode &&& 0o400 = 0)
      (.metadata "artifact mode is writable by another principal, special, or unreadable")
    refuse (prior.any fun value => artifact.path ≤ value)
      (.metadata "artifacts are not strictly path-sorted")
    refuse (artifact.licenseEvidence = []) (.metadata "license evidence is empty")
    checkAll validateRelativePath artifact.licenseEvidence
    validateArtifacts (some artifact.path) rest

def RuntimeBundleManifest.artifactAt (manifest : RuntimeBundleManifest) (path : String) :
    Option BundleArtifact := manifest.artifacts.find? (·.path = path)

/-- A helper payload is inventoried, has its role and is executable. -/
def validateComponent (manifest : RuntimeBundleManifest) (path : String)
    (role : BundleArtifactRole) : Except VerifyError Unit := do
  let artifact ← (manifest.artifactAt path).getDM
    (.error (.metadata "runtime component is not inventoried"))
  refuse (artifact.role ≠ some role ∨ artifact.mode &&& 0o111 = 0)
    (.metadata "runtime component role or mode differs")

/-- Both roles are listed below, so their number is never found incomplete. -/
def validateRuntimeComponents (manifest : RuntimeBundleManifest) : Except VerifyError Unit :=
  match manifest.runtimeComponents with
  | none => .ok ⟨⟩
  | some components => do
    validateRelativePath components.supervisor
    validateRelativePath components.sidecar
    refuse (components.supervisor = components.sidecar)
      (.metadata "runtime component paths collide")
    validateComponent manifest components.supervisor .supervisor
    validateComponent manifest components.sidecar .sidecar

def validateManifest (manifest : RuntimeBundleManifest) (expected : RuntimeTarget) :
    Except VerifyError Unit := do
  refuse (manifest.schemaVersion ≠ schemaVersion) (.metadata "unsupported schema version")
  refuse (decide (manifest.profile = .signed) ≠ decide (manifest.signatureStatus = .signed))
    (.metadata "profile and signature_status disagree")
  checkAll (fun field : String × String => boundedNonempty field.1 field.2)
    [("bundle_id", manifest.bundleId),
      ("bundle_version", manifest.bundleVersion),
      ("entrypoint", manifest.entrypoint),
      ("operating_system", manifest.target.operatingSystem),
      ("architecture", manifest.target.architecture),
      ("libc", manifest.target.libc),
      ("libc_version", manifest.target.libcVersion)]
  refuse (manifest.artifacts = [] ∨ manifest.artifacts.length > maxArtifacts)
    (.limit "artifact count")
  refuse (manifest.target ≠ expected) (.target "OS, architecture, or libc differs")
  validateHash manifest.contentSha256
  validateRelativePath manifest.entrypoint
  validateSbom manifest.spdx
  validateSbom manifest.cyclonedx
  refuse (manifest.spdx.path = manifest.cyclonedx.path) (.metadata "SBOM paths collide")
  validateArtifacts none manifest.artifacts
  refuse (¬ manifest.artifacts.all fun artifact =>
      artifact.licenseEvidence.all fun evidence =>
        (manifest.artifacts.map (·.path)).contains evidence)
    (.metadata "license evidence is not inventoried")
  let entrypoint ← (manifest.artifactAt manifest.entrypoint).getDM
    (.error (.metadata "entrypoint is not inventoried"))
  refuse (entrypoint.mode &&& 0o111 = 0) (.metadata "entrypoint is not executable")
  validateRuntimeComponents manifest

/-! ## The inventory -/

/-- A path of the metadata, not one of those before it. -/
def insertMetadata (paths : OrderedSet String) (path : String) :
    Except VerifyError (OrderedSet String) := do
  refuse (path ∈ paths) (.metadata "metadata path collides")
  return paths.insert path

def expectedInventory (manifest : RuntimeBundleManifest) (policy : VerificationPolicy)
    (signaturePresent : Bool) : Except VerifyError (OrderedSet String) := do
  let paths := OrderedSet.ofList (manifest.artifacts.map (·.path))
  let paths ← insertMetadata paths manifest.spdx.path
  let paths ← insertMetadata paths manifest.cyclonedx.path
  let paths := paths.insert "manifest.json"
  if manifest.signatureStatus = .signed ∨
      (policy = .allowUnsignedDevelopment ∧ signaturePresent) then
    return paths.insert "manifest.json.sig"
  else
    return paths

/-- The path of a regular file among those found before it. -/
def visitFile (path : List Name) (result : OrderedSet String) :
    Except VerifyError (OrderedSet String) := do
  let value ← (pathText path).getDM (.error (.topology "bundle path is not UTF-8"))
  validateRelativePath value
  let result := result.insert value
  refuse (result.items.length > maxArtifacts + 4) (.limit "file count")
  return result

mutual
def visitEntry (dir : List Name) (result : OrderedSet String) :
    Entry → Except VerifyError (OrderedSet String)
  | .symlink _ _ => .error (.topology "symlink in bundle")
  | .directory name entries => visit (dir ++ [name]) result entries
  | .file name _ _ => visitFile (dir ++ [name]) result
  | .special _ => .error (.topology "non-regular bundle entry")

def visit (dir : List Name) (result : OrderedSet String) :
    List Entry → Except VerifyError (OrderedSet String)
  | [] => .ok result
  | entry :: rest => do
    let result ← visitEntry dir result entry
    visit dir result rest
end

def enumerateFiles (root : Tree) : Except VerifyError (OrderedSet String) :=
  match root.root with
  | .directory _ entries => visit [] .empty entries
  | _ => .error .io

/-! ## Reading files -/

structure OpenFile where
  mode : Nat
  bytes : List UInt8

/-- A link at the end of the path is not followed. -/
def openRegular : Option Entry → Except VerifyError OpenFile
  | some (.file _ mode bytes) => .ok ⟨mode, bytes⟩
  | some _ => .error (.topology "expected regular file")
  | none => .error .io

def readRegularBounded (entry : Option Entry) (max : Nat) : Except VerifyError (List UInt8) := do
  let file ← openRegular entry
  refuse (file.bytes.length > max) (.limit "file size")
  return file.bytes

def validateRegularFileBounded (entry : Option Entry) (max : Nat) : Except VerifyError Unit := do
  let file ← openRegular entry
  refuse (file.bytes.length > max) (.limit "trusted metadata file size")

/-- Whether something stands at the path, or behind a link there. -/
def entryExists : Option Entry → Bool
  | some (.symlink _ resolves) => resolves
  | some _ => true
  | none => false

/-- The size and the hash of a file. -/
def hashRegularFile (platform : Platform) (entry : Option Entry) :
    Except VerifyError (Nat × String) := do
  let file ← openRegular entry
  return (file.bytes.length, platform.sha256 file.bytes)

/-! ## The signature -/

def verifySignatureWithNamespace (platform : Platform) (host : Host)
    (manifest signature : List UInt8) (config : VerifierConfig) (space : String) :
    Except VerifyError Unit := do
  refuse (space = "" ∨ space.utf8ByteSize > 128 ∨ ¬ space.toList.all (·.toNat < 128)) .signature
  boundedNonempty "principal" config.principal
  validateHash config.sshKeygenSha256
  let (_, sshKeygenSha256) ←
    (hashRegularFile platform (host.entryAt config.sshKeygen)).mapError fun _ => .signature
  refuse (sshKeygenSha256 ≠ config.sshKeygenSha256) .signature
  validateRegularFileBounded (host.entryAt config.allowedSigners) maxAllowedSignersBytes
  refuse (¬ host.accepts config space manifest signature) .signature

def verifySignature (platform : Platform) (host : Host) (manifest signature : List UInt8)
    (config : VerifierConfig) : Except VerifyError Unit :=
  verifySignatureWithNamespace platform host manifest signature config signatureNamespace

/-- The detached signature as the manifest's status asks for it. A development bundle may
carry a file that is bounded and never trusted. -/
def checkSignature (platform : Platform) (host : Host) (root : Tree)
    (manifest : RuntimeBundleManifest) (manifestBytes : List UInt8) (config : VerifierConfig)
    (policy : VerificationPolicy) : Except VerifyError Unit :=
  let signaturePath := root.entryAt "manifest.json.sig"
  match manifest.signatureStatus with
  | .signed => do
    validateRegularFileBounded signaturePath maxSignatureBytes
    let signature ← openRegular signaturePath
    verifySignature platform host manifestBytes signature.bytes config
  | .unsigned =>
    if entryExists signaturePath then do
      refuse (policy ≠ .allowUnsignedDevelopment)
        (.metadata "unsigned profile must not include manifest.json.sig")
      validateRegularFileBounded signaturePath maxSignatureBytes
    else .ok ⟨⟩

/-! ## Contents -/

/-- The sum of the sizes, unless it overflows. -/
def totalBytes (artifacts : List BundleArtifact) : Option Nat :=
  artifacts.foldlM (fun total artifact =>
    if total + artifact.size < 2 ^ 64 then some (total + artifact.size) else none) 0

def verifyArtifact (platform : Platform) (root : Tree) (artifact : BundleArtifact) :
    Except VerifyError Unit := do
  let (size, hash) ← hashRegularFile platform (root.entryAt artifact.path)
  refuse (size ≠ artifact.size ∨ hash ≠ artifact.sha256)
    (.content s!"artifact {artifact.path} differs")
  let file ← openRegular (root.entryAt artifact.path)
  refuse (file.mode &&& 0o7777 ≠ artifact.mode)
    (.content s!"artifact {artifact.path} permission mode differs")

/-- What an artifact adds to the content digest. -/
def updateContentDigest (artifact : BundleArtifact) : List UInt8 :=
  [artifact.path, toString artifact.size, artifact.sha256, toString artifact.mode,
    artifact.licenseExpression].flatMap Framing.beFramed ++
  Framing.beBytes 8 artifact.licenseEvidence.length ++
  artifact.licenseEvidence.flatMap Framing.beFramed

def contentDigest (platform : Platform) (artifacts : List BundleArtifact) : String :=
  platform.sha256 (artifacts.flatMap updateContentDigest)

/-! ## Bills of materials -/

def readAndHashSbom (platform : Platform) (root : Tree) (document : SbomDocument) :
    Except VerifyError Json.Value := do
  let bytes ← readRegularBounded (root.entryAt document.path) maxSbomBytes
  refuse (platform.sha256 bytes ≠ document.sha256) (.content "SBOM digest differs")
  (platform.parseJson bytes).getDM (.error (.metadata "SBOM is not JSON"))

def textAt (value : Json.Value) (field : String) : Option String :=
  (value.get? field).bind Json.Value.text?

def itemsAt (value : Json.Value) (field : String) : Option (List Json.Value) :=
  (value.get? field).bind Json.Value.items?

def requiredString (value : Json.Value) (field context : String) : Except VerifyError String :=
  (textAt value field).getDM (.error (.metadata s!"{context} lacks required {field}"))

/-- The first checksum of an algorithm that has a text. -/
def checksumOf (value : Json.Value) (list algorithm name content : String) : Option String :=
  (itemsAt value list).bind fun checksums => checksums.findSome? fun item =>
    if textAt item algorithm = some name then textAt item content else none

/-- How a format of bills of materials describes a file. -/
structure SbomFormat where
  name : String
  context : String
  pathField : String
  check : Json.Value → Except VerifyError Unit
  checksum : Json.Value → Option String
  license : Json.Value → Option String

/-- The files described, each an artifact and none twice. -/
def validateFiles (format : SbomFormat) (manifest : RuntimeBundleManifest) (seen : List String) :
    List Json.Value → Except VerifyError (List String)
  | [] => .ok seen
  | file :: rest => do
    format.check file
    let path ← requiredString file format.pathField format.context
    let artifact ← (manifest.artifactAt path).getDM
      (.error (.metadata s!"{format.name} has an unknown file"))
    refuse (path ∈ seen) (.metadata s!"{format.name} repeats a file")
    refuse (format.checksum file ≠ some artifact.sha256 ∨
        format.license file ≠ some artifact.licenseExpression)
      (.metadata s!"{format.name} file identity differs")
    validateFiles format manifest (path :: seen) rest

def requireExactParity (name : String) (seen : List String) (manifest : RuntimeBundleManifest) :
    Except VerifyError Unit :=
  refuse (¬ (seen.length = manifest.artifacts.length ∧
      manifest.artifacts.all fun artifact => seen.contains artifact.path))
    (.metadata s!"{name} does not cover the exact artifact inventory")

def spdxFormat : SbomFormat where
  name := "SPDX"
  context := "SPDX file"
  pathField := "fileName"
  check _ := .ok ⟨⟩
  checksum file := checksumOf file "checksums" "algorithm" "SHA256" "checksumValue"
  license file := textAt file "licenseConcluded"

def cyclonedxFormat : SbomFormat where
  name := "CycloneDX"
  context := "CycloneDX component"
  pathField := "bom-ref"
  check component := refuse (textAt component "type" ≠ some "file")
    (.metadata "CycloneDX component is not a file")
  checksum component := checksumOf component "hashes" "alg" "SHA-256" "content"
  license component := (component.pointer "/licenses/0/expression").bind Json.Value.text?

def validateSpdx (document : Json.Value) (manifest : RuntimeBundleManifest) :
    Except VerifyError Unit := do
  refuse (textAt document "spdxVersion" ≠ some "SPDX-2.3") (.metadata "SPDX version is not 2.3")
  let files ← (itemsAt document "files").getDM (.error (.metadata "SPDX files are absent"))
  let seen ← validateFiles spdxFormat manifest [] files
  requireExactParity "SPDX" seen manifest

def validateCyclonedx (document : Json.Value) (manifest : RuntimeBundleManifest) :
    Except VerifyError Unit := do
  refuse (textAt document "bomFormat" ≠ some "CycloneDX" ∨
    textAt document "specVersion" ≠ some "1.6")
    (.metadata "CycloneDX identity is not 1.6")
  let components ← (itemsAt document "components").getDM
    (.error (.metadata "CycloneDX components are absent"))
  let seen ← validateFiles cyclonedxFormat manifest [] components
  requireExactParity "CycloneDX" seen manifest

/-! ## The verifier -/

def validateRoot : Option Tree → Except VerifyError Tree
  | none => .error .io
  | some tree =>
    match tree.root with
    | .directory _ _ => .ok tree
    | _ => .error (.topology "bundle root is not a real directory")

def verifiedComponent (canonical : String) (manifest : RuntimeBundleManifest)
    (role : BundleArtifactRole) : Option VerifiedPayload := do
  let components ← manifest.runtimeComponents
  let path := match role with
    | .supervisor => components.supervisor
    | .sidecar => components.sidecar
  let artifact ← manifest.artifactAt path
  return ⟨s!"{canonical}/{path}", artifact.sha256, artifact.size, artifact.mode⟩

def verifyBundleWithPolicy (platform : Platform) (host : Host) (canonical : String)
    (bundleRoot : Option Tree) (config : VerifierConfig) (expected : RuntimeTarget)
    (policy : VerificationPolicy) : Except VerifyError VerifiedBundle := do
  let root ← validateRoot bundleRoot
  let manifestBytes ← readRegularBounded (root.entryAt "manifest.json") maxManifestBytes
  let manifest ← (platform.parseManifest manifestBytes).getDM
    (.error (.metadata "manifest is not strict schema-v1 JSON"))
  validateProfile manifest policy
  checkSignature platform host root manifest manifestBytes config policy
  validateManifest manifest expected
  let inventory ← expectedInventory manifest policy (entryExists (root.entryAt "manifest.json.sig"))
  let files ← enumerateFiles root
  refuse (inventory ≠ files) (.content "signed inventory does not equal bundle files")
  refuse ((totalBytes manifest.artifacts).all (· > maxTotalArtifactBytes))
    (.limit "total artifact bytes")
  checkAll (verifyArtifact platform root) manifest.artifacts
  refuse (contentDigest platform manifest.artifacts ≠ manifest.contentSha256)
    (.content "content digest differs")
  let spdx ← readAndHashSbom platform root manifest.spdx
  let cyclonedx ← readAndHashSbom platform root manifest.cyclonedx
  validateSpdx spdx manifest
  validateCyclonedx cyclonedx manifest
  return {
    manifestSha256 := platform.sha256 manifestBytes
    bundleId := manifest.bundleId
    bundleVersion := manifest.bundleVersion
    profile := manifest.profile
    signatureStatus := manifest.signatureStatus
    contentSha256 := manifest.contentSha256
    artifactCount := manifest.artifacts.length
    supervisor := verifiedComponent canonical manifest .supervisor
    sidecar := verifiedComponent canonical manifest .sidecar }

end AgentSystemsBenchmark.Bundle
