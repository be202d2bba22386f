import AgentSystemsBenchmark.Library.Effects
import AgentSystemsBenchmark.Library.Framing

/-!
# Experiment identity

An experiment manifest is addressed by the hash of its identity fields, written one after another
behind their lengths. Two manifests are compared dimension by dimension. Which identity field
belongs to which dimension is said once, in `IdentityField.dimension`, and the two ways of
comparing are shown to agree with it.
-/

namespace AgentSystemsBenchmark.Experiments

open Effects Framing List

/-! ## Manifests -/

def maxTextBytes : Nat := 1024

structure AgentIdentity where
  implementation : String
  revision : String
  binarySha256 : String
  deriving DecidableEq, Repr

@[ext] structure ModelSettings where
  temperatureMilli : Option UInt16
  topPMillionth : Option UInt32
  seed : Option UInt64
  maxOutputTokens : Option UInt32
  reasoningEffort : Option String
  additionalSettingsSha256 : Option String
  deriving DecidableEq, Repr

structure ModelIdentity where
  provider : String
  model : String
  settings : ModelSettings
  deriving DecidableEq, Repr

@[ext] structure ToolPolicyIdentity where
  policy : String
  revision : String
  contentSha256 : String
  deriving DecidableEq, Repr

structure WorkloadIdentity where
  workload : String
  workloadRevision : String
  workloadSha256 : String
  scorerRevision : String
  scorerSha256 : String
  deriving DecidableEq, Repr

structure ExecutionIdentity where
  imageSha256 : String
  dependenciesSha256 : String
  deriving DecidableEq, Repr

structure PlatformIdentity where
  kernelRelease : String
  distribution : String
  distributionVersion : String
  architecture : String
  cpuModel : String
  logicalCpuCount : UInt32
  numaNodeCount : UInt32
  scalingGovernor : String
  deriving DecidableEq, Repr

inductive CacheState where
  | cold | warm | uncontrolled
  deriving DecidableEq, Repr

inductive ReplayMode where
  | live | replay
  deriving DecidableEq, Repr

structure ReplaySettings where
  mode : ReplayMode
  cassetteSha256 : Option String
  pacing : String
  cancellationTimeoutMs : UInt64
  deriving DecidableEq, Repr

@[ext] structure RetrySettings where
  limit : UInt16
  strategy : String
  backoffMs : UInt64
  deriving DecidableEq, Repr

structure RunControls where
  cacheState : CacheState
  loadPolicy : String
  retry : RetrySettings
  replay : ReplaySettings
  deriving DecidableEq, Repr

/-- The version has one value and is left out. -/
structure ExperimentManifestV1 where
  experimentSha256 : String
  agent : AgentIdentity
  model : ModelIdentity
  toolPolicy : ToolPolicyIdentity
  workload : WorkloadIdentity
  execution : ExecutionIdentity
  platform : PlatformIdentity
  controls : RunControls
  deriving DecidableEq, Repr

open ExperimentManifestV1

inductive ExperimentManifestError where
  | invalidText (field : String)
  | invalidSha256 (field : String)
  | invalidSettings
  | zeroCount (field : String)
  | inconsistentReplay
  | contentAddressMismatch
  deriving DecidableEq, Repr

/-! ## Validation -/

/-- The characters a text is trimmed of. -/
def isWhitespace (c : Char) : Bool :=
  (9 ≤ c.toNat && c.toNat ≤ 13) || (0x2000 ≤ c.toNat && c.toNat ≤ 0x200a) ||
    [0x20, 0x85, 0xa0, 0x1680, 0x2028, 0x2029, 0x202f, 0x205f, 0x3000].contains c.toNat

def isControl (c : Char) : Bool := c.toNat < 32 || (127 ≤ c.toNat && c.toNat < 160)

def trim (value : String) : String :=
  String.ofList ((value.toList.dropWhile isWhitespace).reverse.dropWhile isWhitespace).reverse

def text (value field : String) : Except ExperimentManifestError Unit :=
  refuse (value = "" ∨ value.utf8ByteSize > maxTextBytes ∨ trim value ≠ value ∨
    value.toList.any isControl) (.invalidText field)

def validSha256 (value field : String) : Except ExperimentManifestError Unit :=
  refuse (value.utf8ByteSize ≠ 64 ∨
    ¬ value.toList.all (fun c => c.isDigit || ('a' ≤ c && c ≤ 'f'))) (.invalidSha256 field)

def positive (value : UInt32) (field : String) : Except ExperimentManifestError Unit :=
  refuse (value = 0) (.zeroCount field)

/-- A check of a value that may be absent. -/
def whenPresent (check : String → String → Except ExperimentManifestError Unit)
    (value : Option String) (field : String) : Except ExperimentManifestError Unit :=
  match value with
  | some value => check value field
  | none => .ok ⟨⟩

def ModelSettings.validate (settings : ModelSettings) : Except ExperimentManifestError Unit := do
  refuse (settings.temperatureMilli.any (· > 2000) ∨ settings.topPMillionth.any (· > 1000000) ∨
    settings.maxOutputTokens = some 0) .invalidSettings
  whenPresent text settings.reasoningEffort "model.settings.reasoning_effort"
  whenPresent validSha256 settings.additionalSettingsSha256
    "model.settings.additional_settings_sha256"

def ReplaySettings.consistent (replay : ReplaySettings) : Except ExperimentManifestError Unit :=
  match replay.mode, replay.cassetteSha256 with
  | .live, none => .ok ⟨⟩
  | .replay, some digest => validSha256 digest "controls.replay.cassette_sha256"
  | _, _ => .error .inconsistentReplay

def ExperimentManifestV1.validateComponents (m : ExperimentManifestV1) :
    Except ExperimentManifestError Unit := do
  text m.agent.implementation "agent.implementation"
  text m.agent.revision "agent.revision"
  validSha256 m.agent.binarySha256 "agent.binary_sha256"
  text m.model.provider "model.provider"
  text m.model.model "model.model"
  m.model.settings.validate
  text m.toolPolicy.policy "tool_policy.policy"
  text m.toolPolicy.revision "tool_policy.revision"
  validSha256 m.toolPolicy.contentSha256 "tool_policy.content_sha256"
  text m.workload.workload "workload.workload"
  text m.workload.workloadRevision "workload.workload_revision"
  validSha256 m.workload.workloadSha256 "workload.workload_sha256"
  text m.workload.scorerRevision "workload.scorer_revision"
  validSha256 m.workload.scorerSha256 "workload.scorer_sha256"
  validSha256 m.execution.imageSha256 "execution.image_sha256"
  validSha256 m.execution.dependenciesSha256 "execution.dependencies_sha256"
  text m.platform.kernelRelease "platform.kernel_release"
  text m.platform.distribution "platform.distribution"
  text m.platform.distributionVersion "platform.distribution_version"
  text m.platform.architecture "platform.architecture"
  text m.platform.cpuModel "platform.cpu_model"
  positive m.platform.logicalCpuCount "platform.logical_cpu_count"
  positive m.platform.numaNodeCount "platform.numa_node_count"
  text m.platform.scalingGovernor "platform.scaling_governor"
  text m.controls.loadPolicy "controls.load_policy"
  text m.controls.retry.strategy "controls.retry.strategy"
  text m.controls.replay.pacing "controls.replay.pacing"
  refuse (m.controls.replay.cancellationTimeoutMs = 0)
    (.zeroCount "controls.replay.cancellation_timeout_ms")
  m.controls.replay.consistent

/-! ## The content address -/

/-- The bytes fed to the hash function so far. -/
structure HashEncoder where
  written : List UInt8

namespace HashEncoder

def new : HashEncoder := ⟨Numerals.bytes "asb-experiment-v1" ++ [0]⟩

def append (encoder : HashEncoder) (code : List UInt8) : HashEncoder := ⟨encoder.written ++ code⟩

def byte (encoder : HashEncoder) (value : UInt8) : HashEncoder := encoder.append [value]

def u16 (encoder : HashEncoder) (value : UInt16) : HashEncoder :=
  encoder.append (beBytes 2 value.toNat)

def u32 (encoder : HashEncoder) (value : UInt32) : HashEncoder :=
  encoder.append (beBytes 4 value.toNat)

def u64 (encoder : HashEncoder) (value : UInt64) : HashEncoder :=
  encoder.append (beBytes 8 value.toNat)

def text (encoder : HashEncoder) (value : String) : HashEncoder :=
  (encoder.u64 (UInt64.ofNat value.utf8ByteSize)).append (Numerals.bytes value)

def optionalWith {α : Type} (write : HashEncoder → α → HashEncoder) (encoder : HashEncoder)
    (value : Option α) : HashEncoder :=
  let encoder := encoder.byte (if value.isSome then 1 else 0)
  match value with
  | some value => write encoder value
  | none => encoder

def optionalText : HashEncoder → Option String → HashEncoder := optionalWith text
def optionalU16 : HashEncoder → Option UInt16 → HashEncoder := optionalWith u16
def optionalU32 : HashEncoder → Option UInt32 → HashEncoder := optionalWith u32
def optionalU64 : HashEncoder → Option UInt64 → HashEncoder := optionalWith u64

end HashEncoder

def CacheState.code : CacheState → UInt8
  | .cold => 0
  | .warm => 1
  | .uncontrolled => 2

def ReplayMode.code : ReplayMode → UInt8
  | .live => 0
  | .replay => 1

/-- The encoder at the end of `compute_content_sha256`. -/
def ExperimentManifestV1.encoder (m : ExperimentManifestV1) : HashEncoder :=
  HashEncoder.new
    |>.text m.agent.implementation
    |>.text m.agent.revision
    |>.text m.agent.binarySha256
    |>.text m.model.provider
    |>.text m.model.model
    |>.optionalU16 m.model.settings.temperatureMilli
    |>.optionalU32 m.model.settings.topPMillionth
    |>.optionalU64 m.model.settings.seed
    |>.optionalU32 m.model.settings.maxOutputTokens
    |>.optionalText m.model.settings.reasoningEffort
    |>.optionalText m.model.settings.additionalSettingsSha256
    |>.text m.toolPolicy.policy
    |>.text m.toolPolicy.revision
    |>.text m.toolPolicy.contentSha256
    |>.text m.workload.workload
    |>.text m.workload.workloadRevision
    |>.text m.workload.workloadSha256
    |>.text m.workload.scorerRevision
    |>.text m.workload.scorerSha256
    |>.text m.execution.imageSha256
    |>.text m.execution.dependenciesSha256
    |>.text m.platform.kernelRelease
    |>.text m.platform.distribution
    |>.text m.platform.distributionVersion
    |>.text m.platform.architecture
    |>.text m.platform.cpuModel
    |>.u32 m.platform.logicalCpuCount
    |>.u32 m.platform.numaNodeCount
    |>.text m.platform.scalingGovernor
    |>.byte m.controls.cacheState.code
    |>.text m.controls.loadPolicy
    |>.u16 m.controls.retry.limit
    |>.text m.controls.retry.strategy
    |>.u64 m.controls.retry.backoffMs
    |>.byte m.controls.replay.mode.code
    |>.optionalText m.controls.replay.cassetteSha256
    |>.text m.controls.replay.pacing
    |>.u64 m.controls.replay.cancellationTimeoutMs

/-- The bytes `compute_content_sha256` hashes. -/
def ExperimentManifestV1.hashed (m : ExperimentManifestV1) : List UInt8 := m.encoder.written

section Address
variable (sha256 : List UInt8 → String) (m : ExperimentManifestV1)

def ExperimentManifestV1.computeContentSha256 : Except ExperimentManifestError String := do
  m.validateComponents
  pure (sha256 m.hashed)

def ExperimentManifestV1.validate : Except ExperimentManifestError Unit := do
  let expected ← m.computeContentSha256 sha256
  validSha256 m.experimentSha256 "experiment_sha256"
  refuse (m.experimentSha256 ≠ expected) .contentAddressMismatch

end Address

/-! ## Comparison -/

/-- The dimensions `compare_experiments` reports. -/
inductive ComparisonField where
  | agent | model | modelSettings | toolPolicy | workload | scorer | image | dependencies | kernel
  | distribution | architecture | cpuModel | logicalCpuCount | numaNodeCount | scalingGovernor
  | cacheState | loadPolicy | retrySettings | replayMode | replayCassette | replayPacing
  | cancellationTimeout
  deriving DecidableEq, Repr

inductive ComparisonQualification where
  | comparable | confounded
  deriving DecidableEq, Repr

structure ComparisonReport where
  qualification : ComparisonQualification
  differences : List ComparisonField
  deriving DecidableEq, Repr

inductive ComparisonError where
  | invalidLeft (error : ExperimentManifestError)
  | invalidRight (error : ExperimentManifestError)
  deriving DecidableEq, Repr

def differing {α : Type} [DecidableEq α] (differences : List ComparisonField)
    (field : ComparisonField) (left right : α) : List ComparisonField :=
  if left ≠ right then differences ++ [field] else differences

/-- The differences `compare_experiments` collects. -/
def differences (left right : ExperimentManifestV1) : List ComparisonField :=
  let d := differing [] .agent
    (left.agent.implementation, left.agent.revision, left.agent.binarySha256)
    (right.agent.implementation, right.agent.revision, right.agent.binarySha256)
  let d := differing d .model (left.model.provider, left.model.model)
    (right.model.provider, right.model.model)
  let d := differing d .modelSettings left.model.settings right.model.settings
  let d := differing d .toolPolicy left.toolPolicy right.toolPolicy
  let d := differing d .workload
    (left.workload.workload, left.workload.workloadRevision, left.workload.workloadSha256)
    (right.workload.workload, right.workload.workloadRevision, right.workload.workloadSha256)
  let d := differing d .scorer (left.workload.scorerRevision, left.workload.scorerSha256)
    (right.workload.scorerRevision, right.workload.scorerSha256)
  let d := differing d .image left.execution.imageSha256 right.execution.imageSha256
  let d := differing d .dependencies left.execution.dependenciesSha256
    right.execution.dependenciesSha256
  let d := differing d .kernel left.platform.kernelRelease right.platform.kernelRelease
  let d := differing d .distribution (left.platform.distribution, left.platform.distributionVersion)
    (right.platform.distribution, right.platform.distributionVersion)
  let d := differing d .architecture left.platform.architecture right.platform.architecture
  let d := differing d .cpuModel left.platform.cpuModel right.platform.cpuModel
  let d := differing d .logicalCpuCount left.platform.logicalCpuCount
    right.platform.logicalCpuCount
  let d := differing d .numaNodeCount left.platform.numaNodeCount right.platform.numaNodeCount
  let d := differing d .scalingGovernor left.platform.scalingGovernor
    right.platform.scalingGovernor
  let d := differing d .cacheState left.controls.cacheState right.controls.cacheState
  let d := differing d .loadPolicy left.controls.loadPolicy right.controls.loadPolicy
  let d := differing d .retrySettings left.controls.retry right.controls.retry
  let d := differing d .replayMode left.controls.replay.mode right.controls.replay.mode
  let d := differing d .replayCassette left.controls.replay.cassetteSha256
    right.controls.replay.cassetteSha256
  let d := differing d .replayPacing left.controls.replay.pacing right.controls.replay.pacing
  differing d .cancellationTimeout left.controls.replay.cancellationTimeoutMs
    right.controls.replay.cancellationTimeoutMs

def compareExperiments (sha256 : List UInt8 → String) (left right : ExperimentManifestV1) :
    Except ComparisonError ComparisonReport := do
  (left.validate sha256).mapError .invalidLeft
  (right.validate sha256).mapError .invalidRight
  let differences := differences left right
  pure ⟨if differences.isEmpty then .comparable else .confounded, differences⟩

/-! ## Identity fields -/

/-- The fields an experiment is identified by. -/
inductive IdentityField where
  | implementation | agentRevision | binarySha256
  | provider | model
  | temperatureMilli | topPMillionth | seed | maxOutputTokens | reasoningEffort
  | additionalSettingsSha256
  | policy | policyRevision | policySha256
  | workload | workloadRevision | workloadSha256
  | scorerRevision | scorerSha256
  | imageSha256 | dependenciesSha256
  | kernelRelease | distribution | distributionVersion | architecture | cpuModel
  | logicalCpuCount | numaNodeCount | scalingGovernor
  | cacheState | loadPolicy | retryLimit | retryStrategy | backoffMs
  | replayMode | cassetteSha256 | pacing | cancellationTimeoutMs
  deriving DecidableEq, Repr

/-- Two experiments agree in a field. -/
def IdentityField.Agree (a b : ExperimentManifestV1) : IdentityField → Prop
  | .implementation => a.agent.implementation = b.agent.implementation
  | .agentRevision => a.agent.revision = b.agent.revision
  | .binarySha256 => a.agent.binarySha256 = b.agent.binarySha256
  | .provider => a.model.provider = b.model.provider
  | .model => a.model.model = b.model.model
  | .temperatureMilli => a.model.settings.temperatureMilli = b.model.settings.temperatureMilli
  | .topPMillionth => a.model.settings.topPMillionth = b.model.settings.topPMillionth
  | .seed => a.model.settings.seed = b.model.settings.seed
  | .maxOutputTokens => a.model.settings.maxOutputTokens = b.model.settings.maxOutputTokens
  | .reasoningEffort => a.model.settings.reasoningEffort = b.model.settings.reasoningEffort
  | .additionalSettingsSha256 =>
    a.model.settings.additionalSettingsSha256 = b.model.settings.additionalSettingsSha256
  | .policy => a.toolPolicy.policy = b.toolPolicy.policy
  | .policyRevision => a.toolPolicy.revision = b.toolPolicy.revision
  | .policySha256 => a.toolPolicy.contentSha256 = b.toolPolicy.contentSha256
  | .workload => a.workload.workload = b.workload.workload
  | .workloadRevision => a.workload.workloadRevision = b.workload.workloadRevision
  | .workloadSha256 => a.workload.workloadSha256 = b.workload.workloadSha256
  | .scorerRevision => a.workload.scorerRevision = b.workload.scorerRevision
  | .scorerSha256 => a.workload.scorerSha256 = b.workload.scorerSha256
  | .imageSha256 => a.execution.imageSha256 = b.execution.imageSha256
  | .dependenciesSha256 => a.execution.dependenciesSha256 = b.execution.dependenciesSha256
  | .kernelRelease => a.platform.kernelRelease = b.platform.kernelRelease
  | .distribution => a.platform.distribution = b.platform.distribution
  | .distributionVersion => a.platform.distributionVersion = b.platform.distributionVersion
  | .architecture => a.platform.architecture = b.platform.architecture
  | .cpuModel => a.platform.cpuModel = b.platform.cpuModel
  | .logicalCpuCount => a.platform.logicalCpuCount = b.platform.logicalCpuCount
  | .numaNodeCount => a.platform.numaNodeCount = b.platform.numaNodeCount
  | .scalingGovernor => a.platform.scalingGovernor = b.platform.scalingGovernor
  | .cacheState => a.controls.cacheState = b.controls.cacheState
  | .loadPolicy => a.controls.loadPolicy = b.controls.loadPolicy
  | .retryLimit => a.controls.retry.limit = b.controls.retry.limit
  | .retryStrategy => a.controls.retry.strategy = b.controls.retry.strategy
  | .backoffMs => a.controls.retry.backoffMs = b.controls.retry.backoffMs
  | .replayMode => a.controls.replay.mode = b.controls.replay.mode
  | .cassetteSha256 => a.controls.replay.cassetteSha256 = b.controls.replay.cassetteSha256
  | .pacing => a.controls.replay.pacing = b.controls.replay.pacing
  | .cancellationTimeoutMs =>
    a.controls.replay.cancellationTimeoutMs = b.controls.replay.cancellationTimeoutMs

/-- The dimension a field is compared in. -/
def IdentityField.dimension : IdentityField → ComparisonField
  | .implementation | .agentRevision | .binarySha256 => .agent
  | .provider | .model => .model
  | .temperatureMilli | .topPMillionth | .seed | .maxOutputTokens | .reasoningEffort
  | .additionalSettingsSha256 => .modelSettings
  | .policy | .policyRevision | .policySha256 => .toolPolicy
  | .workload | .workloadRevision | .workloadSha256 => .workload
  | .scorerRevision | .scorerSha256 => .scorer
  | .imageSha256 => .image
  | .dependenciesSha256 => .dependencies
  | .kernelRelease => .kernel
  | .distribution | .distributionVersion => .distribution
  | .architecture => .architecture
  | .cpuModel => .cpuModel
  | .logicalCpuCount => .logicalCpuCount
  | .numaNodeCount => .numaNodeCount
  | .scalingGovernor => .scalingGovernor
  | .cacheState => .cacheState
  | .loadPolicy => .loadPolicy
  | .retryLimit | .retryStrategy | .backoffMs => .retrySettings
  | .replayMode => .replayMode
  | .cassetteSha256 => .replayCassette
  | .pacing => .replayPacing
  | .cancellationTimeoutMs => .cancellationTimeout

/-! ## The bytes that are hashed -/

namespace HashEncoder
variable (encoder : HashEncoder)

@[simp] theorem written_byte (value : UInt8) :
    (encoder.byte value).written = encoder.written ++ [value] := rfl

@[simp] theorem written_u16 (value : UInt16) :
    (encoder.u16 value).written = encoder.written ++ beBytes 2 value.toNat := rfl

@[simp] theorem written_u32 (value : UInt32) :
    (encoder.u32 value).written = encoder.written ++ beBytes 4 value.toNat := rfl

@[simp] theorem written_u64 (value : UInt64) :
    (encoder.u64 value).written = encoder.written ++ beBytes 8 value.toNat := rfl

@[simp] theorem written_text (value : String) :
    (encoder.text value).written = encoder.written ++ beFramed value := by
  have length : beBytes 8 (UInt64.ofNat value.utf8ByteSize).toNat =
      beBytes 8 value.utf8ByteSize := by
    rw [UInt64.toNat_ofNat', beBytes, beBytes]
    exact congrArg reverse (leBytes_mod 8 _)
  change encoder.written ++ beBytes 8 _ ++ _ = _
  rw [length, beFramed, append_assoc]

theorem written_optionalWith {α : Type} {write : HashEncoder → α → HashEncoder}
    {code : α → List UInt8} (writes : ∀ e value, (write e value).written = e.written ++ code value)
    (value : Option α) :
    (optionalWith write encoder value).written = encoder.written ++ optional code value := by
  cases value with
  | none => rfl
  | some value =>
    change (write (encoder.byte 1) value).written = _
    rw [writes, written_byte, append_assoc]
    rfl

@[simp] theorem written_optionalText (value : Option String) :
    (encoder.optionalText value).written = encoder.written ++ optional beFramed value :=
  written_optionalWith encoder written_text value

@[simp] theorem written_optionalU16 (value : Option UInt16) :
    (encoder.optionalU16 value).written =
      encoder.written ++ optional (fun n => beBytes 2 n.toNat) value :=
  written_optionalWith encoder written_u16 value

@[simp] theorem written_optionalU32 (value : Option UInt32) :
    (encoder.optionalU32 value).written =
      encoder.written ++ optional (fun n => beBytes 4 n.toNat) value :=
  written_optionalWith encoder written_u32 value

@[simp] theorem written_optionalU64 (value : Option UInt64) :
    (encoder.optionalU64 value).written =
      encoder.written ++ optional (fun n => beBytes 8 n.toNat) value :=
  written_optionalWith encoder written_u64 value

end HashEncoder

/-- The bytes of one field. -/
def IdentityField.code (m : ExperimentManifestV1) : IdentityField → List UInt8
  | .implementation => beFramed m.agent.implementation
  | .agentRevision => beFramed m.agent.revision
  | .binarySha256 => beFramed m.agent.binarySha256
  | .provider => beFramed m.model.provider
  | .model => beFramed m.model.model
  | .temperatureMilli => optional (fun n => beBytes 2 n.toNat) m.model.settings.temperatureMilli
  | .topPMillionth => optional (fun n => beBytes 4 n.toNat) m.model.settings.topPMillionth
  | .seed => optional (fun n => beBytes 8 n.toNat) m.model.settings.seed
  | .maxOutputTokens => optional (fun n => beBytes 4 n.toNat) m.model.settings.maxOutputTokens
  | .reasoningEffort => optional beFramed m.model.settings.reasoningEffort
  | .additionalSettingsSha256 => optional beFramed m.model.settings.additionalSettingsSha256
  | .policy => beFramed m.toolPolicy.policy
  | .policyRevision => beFramed m.toolPolicy.revision
  | .policySha256 => beFramed m.toolPolicy.contentSha256
  | .workload => beFramed m.workload.workload
  | .workloadRevision => beFramed m.workload.workloadRevision
  | .workloadSha256 => beFramed m.workload.workloadSha256
  | .scorerRevision => beFramed m.workload.scorerRevision
  | .scorerSha256 => beFramed m.workload.scorerSha256
  | .imageSha256 => beFramed m.execution.imageSha256
  | .dependenciesSha256 => beFramed m.execution.dependenciesSha256
  | .kernelRelease => beFramed m.platform.kernelRelease
  | .distribution => beFramed m.platform.distribution
  | .distributionVersion => beFramed m.platform.distributionVersion
  | .architecture => beFramed m.platform.architecture
  | .cpuModel => beFramed m.platform.cpuModel
  | .logicalCpuCount => beBytes 4 m.platform.logicalCpuCount.toNat
  | .numaNodeCount => beBytes 4 m.platform.numaNodeCount.toNat
  | .scalingGovernor => beFramed m.platform.scalingGovernor
  | .cacheState => [m.controls.cacheState.code]
  | .loadPolicy => beFramed m.controls.loadPolicy
  | .retryLimit => beBytes 2 m.controls.retry.limit.toNat
  | .retryStrategy => beFramed m.controls.retry.strategy
  | .backoffMs => beBytes 8 m.controls.retry.backoffMs.toNat
  | .replayMode => [m.controls.replay.mode.code]
  | .cassetteSha256 => optional beFramed m.controls.replay.cassetteSha256
  | .pacing => beFramed m.controls.replay.pacing
  | .cancellationTimeoutMs => beBytes 8 m.controls.replay.cancellationTimeoutMs.toNat

/-- The fields in the order in which they are written. -/
def identityFields : List IdentityField :=
  [.implementation, .agentRevision, .binarySha256, .provider, .model, .temperatureMilli,
    .topPMillionth, .seed, .maxOutputTokens, .reasoningEffort, .additionalSettingsSha256, .policy,
    .policyRevision, .policySha256, .workload, .workloadRevision, .workloadSha256, .scorerRevision,
    .scorerSha256, .imageSha256, .dependenciesSha256, .kernelRelease, .distribution,
    .distributionVersion, .architecture, .cpuModel, .logicalCpuCount, .numaNodeCount,
    .scalingGovernor, .cacheState, .loadPolicy, .retryLimit, .retryStrategy, .backoffMs,
    .replayMode, .cassetteSha256, .pacing, .cancellationTimeoutMs]

theorem mem_identityFields (field : IdentityField) : field ∈ identityFields := by
  cases field <;> decide

theorem hashed_eq (m : ExperimentManifestV1) :
    m.hashed = HashEncoder.new.written ++ identityFields.flatMap (·.code m) := by
  simp only [hashed, encoder, HashEncoder.written_text,
    HashEncoder.written_byte, HashEncoder.written_u16, HashEncoder.written_u32,
    HashEncoder.written_u64, HashEncoder.written_optionalText, HashEncoder.written_optionalU16,
    HashEncoder.written_optionalU32, HashEncoder.written_optionalU64, identityFields,
    IdentityField.code, flatMap_cons, flatMap_nil, append_assoc, append_nil]

/-- The texts of a manifest. -/
def ExperimentManifestV1.texts (m : ExperimentManifestV1) : List String :=
  [m.agent.implementation, m.agent.revision, m.agent.binarySha256, m.model.provider, m.model.model,
    m.toolPolicy.policy, m.toolPolicy.revision, m.toolPolicy.contentSha256, m.workload.workload,
    m.workload.workloadRevision, m.workload.workloadSha256, m.workload.scorerRevision,
    m.workload.scorerSha256, m.execution.imageSha256, m.execution.dependenciesSha256,
    m.platform.kernelRelease, m.platform.distribution, m.platform.distributionVersion,
    m.platform.architecture, m.platform.cpuModel, m.platform.scalingGovernor, m.controls.loadPolicy,
    m.controls.retry.strategy, m.controls.replay.pacing] ++
  (m.model.settings.reasoningEffort.toList ++
    (m.model.settings.additionalSettingsSha256.toList ++ m.controls.replay.cassetteSha256.toList))

variable {field : String}

theorem fits_of_text (h : text value field = .ok ⟨⟩) : Fits value := by
  have checks := refuse_eq_ok.mp h
  unfold maxTextBytes at checks
  unfold Fits
  omega

theorem fits_of_validSha256 (h : validSha256 value field = .ok ⟨⟩) : Fits value := by
  have checks := refuse_eq_ok.mp h
  unfold Fits
  omega

theorem fits_of_whenPresent (fits : ∀ {value field}, check value field = .ok ⟨⟩ → Fits value)
    (h : whenPresent check value field = .ok ⟨⟩) : ∀ text ∈ value.toList, Fits text := by
  cases value with
  | none => exact fun _ member => nomatch member
  | some value =>
    intro text member
    rw [mem_singleton.mp member]
    exact fits h

theorem fits_of_consistent {replay : ReplaySettings} (h : replay.consistent = .ok ⟨⟩) :
    ∀ text ∈ replay.cassetteSha256.toList, Fits text := by
  unfold ReplaySettings.consistent at h
  split at h
  · rename_i absent
    rw [absent]
    exact fun _ member => nomatch member
  · rename_i digest present
    rw [present]
    intro text member
    rw [mem_singleton.mp member]
    exact fits_of_validSha256 h
  · cases h

theorem fits_of_validateComponents {m : ExperimentManifestV1}
    (h : m.validateComponents = .ok ⟨⟩) : ∀ value ∈ m.texts, Fits value := by
  simp only [validateComponents, ModelSettings.validate, seq_eq_ok] at h
  obtain ⟨c1, c2, c3, c4, c5, ⟨-, effort, additional⟩, c6, c7, c8, c9, c10, c11, c12, c13, c14, c15,
    c16, c17, c18, c19, c20, -, -, c21, c22, c23, c24, -, cassette⟩ := h
  unfold texts
  simp only [forall_mem_append, forall_mem_cons]
  refine ⟨⟨fits_of_text c1, fits_of_text c2, fits_of_validSha256 c3, fits_of_text c4,
    fits_of_text c5, fits_of_text c6, fits_of_text c7, fits_of_validSha256 c8, fits_of_text c9,
    fits_of_text c10, fits_of_validSha256 c11, fits_of_text c12, fits_of_validSha256 c13,
    fits_of_validSha256 c14, fits_of_validSha256 c15, fits_of_text c16, fits_of_text c17,
    fits_of_text c18, fits_of_text c19, fits_of_text c20, fits_of_text c21, fits_of_text c22,
    fits_of_text c23, fits_of_text c24, fun _ member => nomatch member⟩, ?_, ?_, ?_⟩
  · exact fits_of_whenPresent fits_of_text effort
  · exact fits_of_whenPresent fits_of_validSha256 additional
  · exact fits_of_consistent cassette

section Identity
variable {a b : ExperimentManifestV1}

theorem CacheState.code_injective : Function.Injective CacheState.code := by
  intro a b h
  cases a <;> cases b <;> first | rfl | cases h

theorem ReplayMode.code_injective : Function.Injective ReplayMode.code := by
  intro a b h
  cases a <;> cases b <;> first | rfl | cases h

theorem delimits_u16 : Delimits (fun _ => True) fun n : UInt16 => beBytes 2 n.toNat :=
  delimits_word (fun _ _ => UInt16.toNat_inj.mp) fun n => n.toNat_lt

theorem delimits_u32 : Delimits (fun _ => True) fun n : UInt32 => beBytes 4 n.toNat :=
  delimits_word (fun _ _ => UInt32.toNat_inj.mp) fun n => n.toNat_lt

theorem delimits_u64 : Delimits (fun _ => True) fun n : UInt64 => beBytes 8 n.toNat :=
  delimits_word (fun _ _ => UInt64.toNat_inj.mp) fun n => n.toNat_lt

theorem delimits_cacheState : Delimits (fun _ => True) fun state : CacheState => [state.code] :=
  delimits_byte CacheState.code_injective

theorem delimits_replayMode : Delimits (fun _ => True) fun mode : ReplayMode => [mode.code] :=
  delimits_byte ReplayMode.code_injective

/-- A field is read back from its code. -/
theorem IdentityField.code_delimits (ha : ∀ value ∈ a.texts, Fits value)
    (hb : ∀ value ∈ b.texts, Fits value) (field : IdentityField) (s t : List UInt8)
    (h : field.code a ++ s = field.code b ++ t) : field.Agree a b ∧ s = t := by
  have plain : ∀ {x y}, beFramed x ++ s = beFramed y ++ t → x ∈ a.texts → y ∈ b.texts →
      x = y ∧ s = t :=
    fun same first second => delimits_beFramed _ _ s t (ha _ first) (hb _ second) same
  have present : ∀ {x y}, Framing.optional beFramed x ++ s = Framing.optional beFramed y ++ t →
      (∀ value ∈ x, value ∈ a.texts) → (∀ value ∈ y, value ∈ b.texts) → x = y ∧ s = t :=
    fun same first second => delimits_beFramed.optional _ _ s t
      (fun value member => ha _ (first value member))
      (fun value member => hb _ (second value member)) same
  cases field with
  | temperatureMilli => exact delimits_u16.optional _ _ s t (fun _ _ => ⟨⟩) (fun _ _ => ⟨⟩) h
  | topPMillionth | maxOutputTokens =>
    exact delimits_u32.optional _ _ s t (fun _ _ => ⟨⟩) (fun _ _ => ⟨⟩) h
  | seed => exact delimits_u64.optional _ _ s t (fun _ _ => ⟨⟩) (fun _ _ => ⟨⟩) h
  | logicalCpuCount | numaNodeCount => exact delimits_u32 _ _ s t ⟨⟩ ⟨⟩ h
  | retryLimit => exact delimits_u16 _ _ s t ⟨⟩ ⟨⟩ h
  | backoffMs | cancellationTimeoutMs => exact delimits_u64 _ _ s t ⟨⟩ ⟨⟩ h
  | cacheState => exact delimits_cacheState _ _ s t ⟨⟩ ⟨⟩ h
  | replayMode => exact delimits_replayMode _ _ s t ⟨⟩ ⟨⟩ h
  | reasoningEffort | additionalSettingsSha256 | cassetteSha256 =>
    exact present h (by simp +contextual [texts])
      (by simp +contextual [texts])
  | _ =>
    exact plain h (by simp [texts]) (by simp [texts])

theorem IdentityField.code_congr {field : IdentityField} (agree : field.Agree a b) :
    field.code a = field.code b := by
  cases field <;> simp only [IdentityField.code, IdentityField.Agree] at agree ⊢ <;> rw [agree]

/-- The hashed bytes are equal exactly when the experiments agree in every field. -/
theorem hashed_eq_iff (ha : ∀ value ∈ a.texts, Fits value) (hb : ∀ value ∈ b.texts, Fits value) :
    a.hashed = b.hashed ↔ ∀ field : IdentityField, field.Agree a b := by
  rw [hashed_eq, hashed_eq]
  constructor
  · intro h
    have codes := append_cancel_left h
    rw [← append_nil (identityFields.flatMap (·.code a)),
      ← append_nil (identityFields.flatMap (·.code b))] at codes
    have delimited : ∀ field ∈ identityFields, ∀ s t, field.code a ++ s = field.code b ++ t →
        field.Agree a b ∧ s = t := fun field _ => field.code_delimits ha hb
    exact fun field => (flatMap_delimits delimited codes).1 field (mem_identityFields field)
  · intro agree
    congr 1
    apply flatMap_congr
    intro field _
    exact field.code_congr (agree field)

/-! ## The dimensions that differ -/

/-- Two experiments are the same in a dimension. -/
def ComparisonField.same (a b : ExperimentManifestV1) : ComparisonField → Bool
  | .agent => (a.agent.implementation, a.agent.revision, a.agent.binarySha256) =
      (b.agent.implementation, b.agent.revision, b.agent.binarySha256)
  | .model => (a.model.provider, a.model.model) = (b.model.provider, b.model.model)
  | .modelSettings => a.model.settings = b.model.settings
  | .toolPolicy => a.toolPolicy = b.toolPolicy
  | .workload => (a.workload.workload, a.workload.workloadRevision, a.workload.workloadSha256) =
      (b.workload.workload, b.workload.workloadRevision, b.workload.workloadSha256)
  | .scorer => (a.workload.scorerRevision, a.workload.scorerSha256) =
      (b.workload.scorerRevision, b.workload.scorerSha256)
  | .image => a.execution.imageSha256 = b.execution.imageSha256
  | .dependencies => a.execution.dependenciesSha256 = b.execution.dependenciesSha256
  | .kernel => a.platform.kernelRelease = b.platform.kernelRelease
  | .distribution => (a.platform.distribution, a.platform.distributionVersion) =
      (b.platform.distribution, b.platform.distributionVersion)
  | .architecture => a.platform.architecture = b.platform.architecture
  | .cpuModel => a.platform.cpuModel = b.platform.cpuModel
  | .logicalCpuCount => a.platform.logicalCpuCount = b.platform.logicalCpuCount
  | .numaNodeCount => a.platform.numaNodeCount = b.platform.numaNodeCount
  | .scalingGovernor => a.platform.scalingGovernor = b.platform.scalingGovernor
  | .cacheState => a.controls.cacheState = b.controls.cacheState
  | .loadPolicy => a.controls.loadPolicy = b.controls.loadPolicy
  | .retrySettings => a.controls.retry = b.controls.retry
  | .replayMode => a.controls.replay.mode = b.controls.replay.mode
  | .replayCassette => a.controls.replay.cassetteSha256 = b.controls.replay.cassetteSha256
  | .replayPacing => a.controls.replay.pacing = b.controls.replay.pacing
  | .cancellationTimeout =>
    a.controls.replay.cancellationTimeoutMs = b.controls.replay.cancellationTimeoutMs

/-- The dimensions in the order in which they are compared. -/
def dimensions : List ComparisonField :=
  [.agent, .model, .modelSettings, .toolPolicy, .workload, .scorer, .image, .dependencies, .kernel,
    .distribution, .architecture, .cpuModel, .logicalCpuCount, .numaNodeCount, .scalingGovernor,
    .cacheState, .loadPolicy, .retrySettings, .replayMode, .replayCassette, .replayPacing,
    .cancellationTimeout]

theorem differing_filter {α : Type} [DecidableEq α] {p : ComparisonField → Bool}
    {d : List ComparisonField} {count : Nat} {field : ComparisonField} {left right : α}
    (compared : p field = !decide (left = right)) (next : dimensions[count]? = some field)
    (before : d = (dimensions.take count).filter p) :
    differing d field left right = (dimensions.take (count + 1)).filter p := by
  rw [differing, take_add_one, next, filter_append, before]
  by_cases same : left = right
  · simp [same, compared]
  · simp [same, compared]

theorem differences_eq (a b : ExperimentManifestV1) :
    differences a b = dimensions.filter fun dimension => !dimension.same a b := by
  change differences a b = (dimensions.take 22).filter _
  unfold differences
  dsimp only
  iterate 22 refine differing_filter rfl rfl ?_
  rfl

theorem mem_dimensions (dimension : ComparisonField) : dimension ∈ dimensions := by
  cases dimension <;> decide

/-- A dimension is the same when each of its fields is. -/
theorem same_iff (dimension : ComparisonField) :
    dimension.same a b = true ↔
      ∀ field : IdentityField, field.dimension = dimension → field.Agree a b := by
  constructor
  · rintro same field rfl
    cases field <;> simp_all [IdentityField.dimension, ComparisonField.same, IdentityField.Agree]
  · intro agree
    cases dimension with
    | agent =>
      exact decide_eq_true (Prod.ext (agree .implementation rfl)
        (Prod.ext (agree .agentRevision rfl) (agree .binarySha256 rfl)))
    | model => exact decide_eq_true (Prod.ext (agree .provider rfl) (agree .model rfl))
    | modelSettings =>
      have parts := And.intro (agree .temperatureMilli rfl) (And.intro (agree .topPMillionth rfl)
        (And.intro (agree .seed rfl) (And.intro (agree .maxOutputTokens rfl)
          (And.intro (agree .reasoningEffort rfl) (agree .additionalSettingsSha256 rfl)))))
      exact decide_eq_true (ModelSettings.ext_iff.mpr parts)
    | toolPolicy =>
      have parts := And.intro (agree .policy rfl)
        (And.intro (agree .policyRevision rfl) (agree .policySha256 rfl))
      exact decide_eq_true (ToolPolicyIdentity.ext_iff.mpr parts)
    | workload =>
      exact decide_eq_true (Prod.ext (agree .workload rfl)
        (Prod.ext (agree .workloadRevision rfl) (agree .workloadSha256 rfl)))
    | scorer =>
      exact decide_eq_true (Prod.ext (agree .scorerRevision rfl) (agree .scorerSha256 rfl))
    | image => exact decide_eq_true (agree .imageSha256 rfl)
    | dependencies => exact decide_eq_true (agree .dependenciesSha256 rfl)
    | kernel => exact decide_eq_true (agree .kernelRelease rfl)
    | distribution =>
      exact decide_eq_true (Prod.ext (agree .distribution rfl) (agree .distributionVersion rfl))
    | architecture => exact decide_eq_true (agree .architecture rfl)
    | cpuModel => exact decide_eq_true (agree .cpuModel rfl)
    | logicalCpuCount => exact decide_eq_true (agree .logicalCpuCount rfl)
    | numaNodeCount => exact decide_eq_true (agree .numaNodeCount rfl)
    | scalingGovernor => exact decide_eq_true (agree .scalingGovernor rfl)
    | cacheState => exact decide_eq_true (agree .cacheState rfl)
    | loadPolicy => exact decide_eq_true (agree .loadPolicy rfl)
    | retrySettings =>
      have parts := And.intro (agree .retryLimit rfl)
        (And.intro (agree .retryStrategy rfl) (agree .backoffMs rfl))
      exact decide_eq_true (RetrySettings.ext_iff.mpr parts)
    | replayMode => exact decide_eq_true (agree .replayMode rfl)
    | replayCassette => exact decide_eq_true (agree .cassetteSha256 rfl)
    | replayPacing => exact decide_eq_true (agree .pacing rfl)
    | cancellationTimeout => exact decide_eq_true (agree .cancellationTimeoutMs rfl)

/-- The listed dimensions are those with a field that differs. -/
theorem mem_differences (dimension : ComparisonField) :
    dimension ∈ differences a b ↔
      ∃ field : IdentityField, field.dimension = dimension ∧ ¬ field.Agree a b := by
  rw [differences_eq, mem_filter, Bool.not_eq_true', ← Bool.not_eq_true, same_iff]
  push Not
  exact and_iff_right (mem_dimensions dimension)

theorem differences_eq_nil_iff :
    differences a b = [] ↔ ∀ field : IdentityField, field.Agree a b := by
  rw [eq_nil_iff_forall_not_mem]
  constructor
  · intro none field
    by_contra differs
    exact none _ ((mem_differences _).mpr ⟨field, rfl, differs⟩)
  · intro agree dimension listed
    obtain ⟨field, -, differs⟩ := (mem_differences _).mp listed
    exact differs (agree field)

theorem IdentityField.agree_comm (field : IdentityField) : field.Agree a b ↔ field.Agree b a := by
  cases field <;> exact eq_comm

theorem differences_comm (a b : ExperimentManifestV1) : differences a b = differences b a := by
  rw [differences_eq, differences_eq]
  apply filter_congr
  intro dimension _
  congr 1
  rw [Bool.eq_iff_iff, same_iff, same_iff]
  simp only [IdentityField.agree_comm (a := a)]

theorem validate_eq_ok {sha256 : List UInt8 → String} {m : ExperimentManifestV1}
    (h : m.validate sha256 = .ok ⟨⟩) :
    m.validateComponents = .ok ⟨⟩ ∧ m.experimentSha256 = sha256 m.hashed := by
  simp only [validate, computeContentSha256, bind_eq_ok,
    refuse_eq_ok, pure_eq_ok, not_not] at h
  obtain ⟨expected, ⟨_, components, rfl⟩, _, _, address⟩ := h
  exact ⟨components, address⟩

theorem compareExperiments_eq (ha : a.validate sha256 = .ok ⟨⟩) (hb : b.validate sha256 = .ok ⟨⟩) :
    compareExperiments sha256 a b =
      .ok ⟨if (differences a b).isEmpty then .comparable else .confounded, differences a b⟩ := by
  unfold compareExperiments
  rw [ha, hb]
  rfl

end Identity

/-- For valid experiments the hashed bytes are equal exactly when every identity field is, and
without collisions the comparison finds them comparable exactly when their content addresses are
equal. The comparison is symmetric and lists the dimensions with a field that differs, each
once. -/
theorem experiment_identity_exact (sha256 : List UInt8 → String) (a b : ExperimentManifestV1)
    (ha : a.validate sha256 = .ok ⟨⟩) (hb : b.validate sha256 = .ok ⟨⟩)
    (collisionFree : Set.InjOn sha256 {a.hashed, b.hashed}) :
    (a.hashed = b.hashed ↔ ∀ field : IdentityField, field.Agree a b) ∧
      ∃ report, compareExperiments sha256 a b = .ok report ∧
        compareExperiments sha256 b a = .ok report ∧
        (report.qualification = .comparable ↔ a.experimentSha256 = b.experimentSha256) ∧
        report.differences.Nodup ∧
        ∀ dimension, dimension ∈ report.differences ↔
          ∃ field : IdentityField, field.dimension = dimension ∧ ¬ field.Agree a b := by
  obtain ⟨components_a, address_a⟩ := validate_eq_ok ha
  obtain ⟨components_b, address_b⟩ := validate_eq_ok hb
  have hashed := hashed_eq_iff (fits_of_validateComponents components_a)
    (fits_of_validateComponents components_b)
  refine ⟨hashed, _, compareExperiments_eq ha hb, ?_, ?_, ?_, mem_differences⟩
  · rw [compareExperiments_eq hb ha, differences_comm]
  · have addresses : a.experimentSha256 = b.experimentSha256 ↔ a.hashed = b.hashed := by
      rw [address_a, address_b]
      exact collisionFree.eq_iff (.inl rfl) (.inr rfl)
    rw [addresses, hashed, ← differences_eq_nil_iff]
    by_cases empty : differences a b = []
    · simp [empty]
    · simp [empty]
  · rw [differences_eq]
    exact List.Nodup.filter _ (by decide)

section Sample

def sampleDigest (c : Char) : String := String.ofList (List.replicate 64 c)

def sampleManifest (address : Char) (revision : String) : ExperimentManifestV1 where
  experimentSha256 := sampleDigest address
  agent := ⟨"agent", revision, sampleDigest 'c'⟩
  model := ⟨"example", "model", ⟨some 0, none, some 7, some 4096, some "medium", none⟩⟩
  toolPolicy := ⟨"standard", "1", sampleDigest 'c'⟩
  workload := ⟨"patch", "abc", sampleDigest 'c', "def", sampleDigest 'c'⟩
  execution := ⟨sampleDigest 'c', sampleDigest 'c'⟩
  platform := ⟨"6.12", "debian", "13", "x86_64", "cpu", 8, 1, "performance"⟩
  controls := ⟨.cold, "isolated", ⟨0, "none", 0⟩, ⟨.live, none, "provider", 10000⟩⟩

/-- A hash that tells the two samples apart. -/
def sampleSha256 (written : List UInt8) : String :=
  sampleDigest (if written = (sampleManifest 'a' "1").hashed then 'a' else 'b')

theorem experiment_identity_exact_sample :
    ∃ report, compareExperiments sampleSha256 (sampleManifest 'a' "1") (sampleManifest 'b' "2") =
        .ok report ∧
      report.qualification ≠ .comparable ∧ ComparisonField.agent ∈ report.differences := by
  have addresses : sampleSha256 (sampleManifest 'a' "1").hashed ≠
      sampleSha256 (sampleManifest 'b' "2").hashed := by decide +kernel
  have collisionFree : Set.InjOn sampleSha256
      {(sampleManifest 'a' "1").hashed, (sampleManifest 'b' "2").hashed} := by
    rintro x (rfl | rfl) y (rfl | rfl) same
    · rfl
    · exact absurd same addresses
    · exact absurd same.symm addresses
    · rfl
  obtain ⟨-, report, compared, -, qualified, -, listed⟩ :=
    experiment_identity_exact sampleSha256 (sampleManifest 'a' "1") (sampleManifest 'b' "2")
      (by decide +kernel) (by decide +kernel) collisionFree
  refine ⟨report, compared, ?_, ?_⟩
  · rw [Ne, qualified]
    decide +kernel
  · refine (listed .agent).mpr ⟨.agentRevision, rfl, ?_⟩
    change "1" ≠ "2"
    decide

end Sample

end AgentSystemsBenchmark.Experiments
