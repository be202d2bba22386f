import AgentSystemsBenchmark.Library.Effects
import AgentSystemsBenchmark.Library.Numerals

/-!
# Public values of the control protocol

Identities, digests and the results a mutation returns, each with the shape
check the protocol applies to it. States that the source keeps as strings over a
closed vocabulary are inductive types here, so the vocabulary checks hold by
construction. Hash functions and the serialized form of a value are parameters.
-/

namespace AgentSystemsBenchmark.Control

open Effects Numerals

inductive ProtocolError where
  | invalidIdempotencyKey | invalidIdentity | invalidDigest | invalidResponse | unsafePublicValue
  | invalidPage
  | invalidLimit (limit : String)
  deriving DecidableEq

inductive BackendFailure where
  | notFound | staleIdentity | staleCursor | capabilityUnavailable | needsReconciliation | rejected
  deriving DecidableEq

def maxControlIdBytes : Nat := 128
def maxCatalogStringBytes : Nat := 128
def maxProviders : Nat := 32
def maxModelsPerProvider : Nat := 64
def maxAuthMethods : Nat := 8

def isAsciiDigit (byte : UInt8) : Bool := 48 ≤ byte && byte ≤ 57
def isAsciiLowercase (byte : UInt8) : Bool := 97 ≤ byte && byte ≤ 122
def isAsciiUppercase (byte : UInt8) : Bool := 65 ≤ byte && byte ≤ 90

def isAsciiAlphanumeric (byte : UInt8) : Bool :=
  isAsciiDigit byte || isAsciiLowercase byte || isAsciiUppercase byte

/-- The byte of one of these characters. -/
def isOneOf (characters : List Char) (byte : UInt8) : Bool :=
  characters.any fun c => byte == c.toUInt8

/-- Nonempty, bounded text over an alphabet. -/
def checkText (limit : Nat) (accepts : UInt8 → Bool) (error : ProtocolError) (value : String) :
    Except ProtocolError Unit :=
  refuse (value = "" ∨ value.utf8ByteSize > limit ∨ ¬ (bytes value).all accepts) error

def isIdentityByte (byte : UInt8) : Bool :=
  isAsciiAlphanumeric byte || isOneOf ['.', '_', ':', '-'] byte

def validateIdentity : String → Except ProtocolError Unit :=
  checkText maxControlIdBytes isIdentityByte .invalidIdentity

def validateCatalogString : String → Except ProtocolError Unit :=
  checkText maxCatalogStringBytes
    (fun byte => isAsciiAlphanumeric byte || isOneOf ['.', '_', ':', '-', '/'] byte)
    .unsafePublicValue

def isLowerHex (byte : UInt8) : Bool := isAsciiDigit byte || (97 ≤ byte && byte ≤ 102)

/-- A lowercase SHA-256 digest. -/
def validateDigest (value : String) : Except ProtocolError Unit :=
  refuse (value.utf8ByteSize ≠ 64 ∨ ¬ (bytes value).all isLowerHex) .invalidDigest

/-- Text compares byte by byte. -/
def precedes (a b : String) : Bool := decide (bytes a < bytes b)

/-- The next element of an ascending list does not follow the previous one. -/
def outOfOrder (previous : Option String) (value : String) : Bool :=
  previous.any fun last => !precedes last value

def isOk {ε α : Type} : Except ε α → Bool
  | .ok _ => true
  | .error _ => false

theorem isOk_iff {ε α : Type} {x : Except ε α} : isOk x = true ↔ ∃ a, x = .ok a := by
  cases x <;> simp [isOk]

/-- Catalog strings in strictly ascending order. -/
def checkAscending : Option String → List String → Except ProtocolError Unit
  | _, [] => .ok ()
  | previous, value :: rest => do
    validateCatalogString value
    refuse (outOfOrder previous value) .invalidResponse
    checkAscending (some value) rest

def validateSortedIds (values : List String) (allowEmpty : Bool) : Except ProtocolError Unit := do
  refuse ((¬ allowEmpty ∧ values = []) ∨ values.length > maxProviders) .invalidResponse
  checkAscending none values

/-! ## Providers and configuration -/

inductive ProviderAuthMethod where
  | credentialReference | localDaemon | none
  deriving DecidableEq

inductive ProviderAvailability where
  | available
  | unavailable (reason : String)
  deriving DecidableEq

structure ProviderModel where
  modelId : String
  revision : String
  availability : ProviderAvailability
  deriving DecidableEq

structure ProviderCatalogEntry where
  providerId : String
  displayName : String
  authMethods : List ProviderAuthMethod
  models : List ProviderModel
  availability : ProviderAvailability
  deriving DecidableEq

structure ProviderCatalog where
  runnerInstanceId : String
  generation : Nat
  catalogSha256 : String
  providers : List ProviderCatalogEntry
  refreshed : Bool
  deriving DecidableEq

def authorizationRequired : ProviderAvailability := .unavailable "authorization-required"

/-- Models in strictly ascending order; a registration may not claim readiness. -/
def checkModels (registration : Bool) :
    Option String → List ProviderModel → Except ProtocolError Unit
  | _, [] => .ok ()
  | previous, model :: rest => do
    validateCatalogString model.modelId
    validateCatalogString model.revision
    refuse (outOfOrder previous model.modelId) .invalidResponse
    refuse (registration ∧ model.availability ≠ authorizationRequired) .invalidResponse
    checkModels registration (some model.modelId) rest

/-- The reasons under which a provider may list no models. -/
def dynamicPlaceholder (availability : ProviderAvailability) : Bool :=
  availability ∈ ["dynamic-catalog-not-ready", "dynamic-catalog-unavailable",
    "dynamic-catalog-empty"].map ProviderAvailability.unavailable

def validateProviderEntry (provider : ProviderCatalogEntry) (registration : Bool) :
    Except ProtocolError Unit := do
  validateCatalogString provider.providerId
  validateCatalogString provider.displayName
  refuse (provider.authMethods = [] ∨ provider.authMethods.length > maxAuthMethods) .invalidResponse
  refuse (¬ provider.authMethods.Nodup) .invalidResponse
  refuse (provider.models = [] ∧ (registration ∨ ¬ dynamicPlaceholder provider.availability))
    .invalidResponse
  refuse (provider.models.length > maxModelsPerProvider) .invalidResponse
  refuse (registration ∧ provider.availability ≠ authorizationRequired) .invalidResponse
  checkModels registration none provider.models

/-- Provider entries in strictly ascending order; `validate` walks the models of
each entry a second time after `validateProviderEntry` did. -/
def checkProviders : Option String → List ProviderCatalogEntry → Except ProtocolError Unit
  | _, [] => .ok ()
  | previous, provider :: rest => do
    validateProviderEntry provider false
    refuse (outOfOrder previous provider.providerId) .invalidResponse
    checkModels false none provider.models
    checkProviders (some provider.providerId) rest

structure ConfigurationSelection where
  agentIds : List String
  providerId : String
  modelId : String
  authMethod : ProviderAuthMethod
  credentialReferenceSha256 : Option String
  deriving DecidableEq

structure ConfigurationSnapshot where
  runnerInstanceId : String
  generation : Nat
  configured : Bool
  agentIds : List String
  providerId : Option String
  modelId : Option String
  authMethod : Option ProviderAuthMethod
  credentialReferenceSha256 : Option String
  deriving DecidableEq

/-- A check on an optional value. -/
def checkSome {α : Type} (check : α → Except ProtocolError Unit) :
    Option α → Except ProtocolError Unit
  | none => .ok ()
  | some value => check value

def ConfigurationSnapshot.validate (snapshot : ConfigurationSnapshot) :
    Except ProtocolError Unit := do
  validateIdentity snapshot.runnerInstanceId
  refuse (snapshot.generation = 0 ∨ snapshot.agentIds.length > maxProviders) .invalidResponse
  checkAscending none snapshot.agentIds
  checkSome validateCatalogString snapshot.providerId
  checkSome validateCatalogString snapshot.modelId
  checkSome validateDigest snapshot.credentialReferenceSha256
  refuse (snapshot.configured ∧ (snapshot.agentIds = [] ∨ snapshot.providerId = none ∨
    snapshot.modelId = none ∨ snapshot.authMethod = none)) .invalidResponse
  refuse (¬ snapshot.configured ∧ (snapshot.credentialReferenceSha256.isSome ∨
    snapshot.providerId.isSome ∨ snapshot.modelId.isSome ∨ snapshot.authMethod.isSome))
    .invalidResponse

/-! ## Recording campaigns -/

inductive CampaignState where
  | planned | recording | needsReconciliation | complete | cancelled | failed | removed
  deriving DecidableEq

/-- The result of planning a campaign. -/
structure RecordingCampaignPlan where
  runnerInstanceId : String
  generation : Nat
  campaignId : String
  providerId : String
  modelId : String
  agentIds : List String
  workloadIds : List String
  tupleCount : Nat
  state : CampaignState
  offlineReady : Bool
  unavailableReason : Option String
  deriving DecidableEq

/-- The result of every lifecycle transition of a campaign. -/
structure RecordingCampaignLifecycle where
  runnerInstanceId : String
  generation : Nat
  campaignId : String
  providerId : String
  modelId : String
  agentIds : List String
  workloadIds : List String
  tupleCount : Nat
  coveredTupleCount : Nat
  state : CampaignState
  offlineReady : Bool
  unavailableReason : Option String
  deriving DecidableEq

def u16Max : Nat := 2 ^ 16 - 1

/-- The identity fields both results share. -/
def validateCampaignIdentity (runnerInstanceId campaignId providerId modelId : String)
    (agentIds workloadIds : List String) : Except ProtocolError Unit := do
  validateIdentity runnerInstanceId
  validateIdentity campaignId
  validateCatalogString providerId
  validateCatalogString modelId
  validateSortedIds agentIds false
  validateSortedIds workloadIds false
  refuse (agentIds.length * workloadIds.length > u16Max) .invalidResponse

def RecordingCampaignPlan.validate (plan : RecordingCampaignPlan) : Except ProtocolError Unit := do
  validateCampaignIdentity plan.runnerInstanceId plan.campaignId plan.providerId plan.modelId
    plan.agentIds plan.workloadIds
  refuse (plan.generation = 0 ∨ plan.tupleCount ≠ plan.agentIds.length * plan.workloadIds.length ∨
    plan.state ≠ .planned ∨ plan.offlineReady ∨
    plan.unavailableReason ≠ some "recording-required") .invalidResponse

def RecordingCampaignLifecycle.validate (lifecycle : RecordingCampaignLifecycle) :
    Except ProtocolError Unit := do
  validateCampaignIdentity lifecycle.runnerInstanceId lifecycle.campaignId lifecycle.providerId
    lifecycle.modelId lifecycle.agentIds lifecycle.workloadIds
  refuse (lifecycle.generation = 0 ∨
    lifecycle.tupleCount ≠ lifecycle.agentIds.length * lifecycle.workloadIds.length ∨
    lifecycle.coveredTupleCount > lifecycle.tupleCount) .invalidResponse
  refuse (lifecycle.offlineReady ≠ decide (lifecycle.state = .complete ∧
    lifecycle.coveredTupleCount = lifecycle.tupleCount)) .invalidResponse
  refuse (lifecycle.offlineReady ≠ lifecycle.unavailableReason.isNone) .invalidResponse

/-! ## Runs, plans and authentication -/

inductive PublicRunState where
  | planned | prepared | running | collecting | completed | failed | cancelled | needsReconciliation
  deriving DecidableEq

inductive ControlEventKind where
  | runnerReady | planCreated | runStarted | runUpdated | runCompleted | runFailed | runCancelled
  | reconciliationRequired
  deriving DecidableEq

structure ControlEvent where
  revision : Nat
  kind : ControlEventKind
  runId : Option String
  attemptId : Option String
  deriving DecidableEq

structure PlanReference where
  planId : String
  planSha256 : String
  deriving DecidableEq

structure RunSummary where
  runId : String
  attemptId : String
  state : PublicRunState
  createdRevision : Nat
  revision : Nat
  planSha256 : String
  deriving DecidableEq

inductive AuthState where
  | active | revoked | pending
  deriving DecidableEq

structure AuthStatusResponse where
  provider : String
  endpointIdentitySha256 : String
  credentialLocatorSha256 : String
  generation : Nat
  status : AuthState
  deriving DecidableEq

/-- A secret-free receipt for one enrolled credential and generation. -/
structure RuntimeEnrollmentReceipt where
  schemaVersion : Nat
  chainSha256 : String
  provider : String
  endpointIdentitySha256 : String
  credentialRefSha256 : String
  generation : Nat
  target : String
  toolBundleSha256 : String
  leaseRootSha256 : String
  relayRootSha256 : String
  issuedAtUnixMs : Nat
  expiresAtUnixMs : Nat
  nonceSha256 : String
  deriving DecidableEq

/-- The bootstrap response; the enrolled chain is kept in its serialized form. -/
structure RuntimeBootstrapResponse where
  schemaVersion : Nat
  requestNonceSha256 : String
  controlSessionSha256 : String
  restartBindingSha256 : String
  namespaceSha256 : String
  generation : Nat
  expiresAtUnixMs : Nat
  cancellationBindingSha256 : String
  chain : String
  receipt : RuntimeEnrollmentReceipt
  deriving DecidableEq

/-! ## Agents -/

structure AgentTarget where
  operatingSystem : String
  architecture : String
  libc : String
  libcVersion : String
  deriving DecidableEq

structure AgentPackage where
  packageId : String
  version : String
  sha256 : String
  signatureSha256 : String
  signerKeyId : String
  signerPrincipal : String
  deriving DecidableEq

structure AgentProvenance where
  sourceRevision : String
  manifestSha256 : String
  sbomSha256 : String
  licenseRef : String
  deriving DecidableEq

inductive AgentUnavailableReason where
  | incompatibleTarget | incompleteProvenance | unverifiedArtifact | missingCapability
  | staleCatalog
  | policyDenied
  deriving DecidableEq

inductive AgentAvailability where
  | available
  | unavailable (reason : AgentUnavailableReason)
  deriving DecidableEq

structure AgentCatalogEntry where
  agentId : String
  target : AgentTarget
  package : Option AgentPackage
  provenance : Option AgentProvenance
  capabilities : List String
  availability : AgentAvailability
  deriving DecidableEq

structure AgentCatalog where
  runnerInstanceId : String
  generation : Nat
  catalogSha256 : String
  target : AgentTarget
  agents : List AgentCatalogEntry
  refreshed : Bool
  deriving DecidableEq

def maxCatalogAgents : Nat := 32
def maxCapabilities : Nat := 32

def validateIdentifier : String → Except ProtocolError Unit :=
  checkText maxCatalogStringBytes
    (fun byte => isAsciiLowercase byte || isAsciiDigit byte || isOneOf ['-'] byte) .invalidResponse

def validateToken : String → Except ProtocolError Unit :=
  checkText maxCatalogStringBytes
    (fun byte => isAsciiAlphanumeric byte || isOneOf ['.', '_', '+', '-'] byte) .invalidResponse

def validateTarget (target : AgentTarget) : Except ProtocolError Unit := do
  validateToken target.operatingSystem
  validateToken target.architecture
  validateToken target.libc
  validateToken target.libcVersion

def validatePackage (package : AgentPackage) : Except ProtocolError Unit := do
  validateToken package.packageId
  validateToken package.version
  validateDigest package.sha256
  validateDigest package.signatureSha256
  validateToken package.signerKeyId
  validateToken package.signerPrincipal

def validateProvenance (provenance : AgentProvenance) : Except ProtocolError Unit := do
  refuse (provenance.sourceRevision.utf8ByteSize ≠ 40 ∨
    ¬ (bytes provenance.sourceRevision).all isLowerHex) .invalidResponse
  validateDigest provenance.manifestSha256
  validateDigest provenance.sbomSha256
  validateToken provenance.licenseRef

def checkCapabilities : Option String → List String → Except ProtocolError Unit
  | _, [] => .ok ()
  | previous, capability :: rest => do
    validateIdentifier capability
    refuse (outOfOrder previous capability) .invalidResponse
    checkCapabilities (some capability) rest

/-- An available agent is fully described; an unavailable one may lack both
package and provenance, or one of them for the stated reason. -/
def AgentCatalogEntry.validateAvailability (entry : AgentCatalogEntry) :
    Except ProtocolError Unit :=
  match entry.availability with
  | .available =>
    match entry.package, entry.provenance with
    | some package, some provenance => do
      validatePackage package
      validateProvenance provenance
      refuse (entry.capabilities = []) .invalidResponse
    | some package, none => do
      validatePackage package
      .error .invalidResponse
    | none, _ => .error .invalidResponse
  | .unavailable reason => do
    checkSome validatePackage entry.package
    checkSome validateProvenance entry.provenance
    refuse (entry.package.isSome ≠ entry.provenance.isSome ∧ reason ≠ .incompleteProvenance)
      .invalidResponse

def checkAgents (target : AgentTarget) :
    Option String → List AgentCatalogEntry → Except ProtocolError Unit
  | _, [] => .ok ()
  | previous, entry :: rest => do
    validateIdentifier entry.agentId
    refuse (outOfOrder previous entry.agentId) .invalidResponse
    refuse (entry.target ≠ target) .invalidResponse
    refuse (entry.capabilities.length > maxCapabilities) .invalidResponse
    entry.validateAvailability
    checkCapabilities none entry.capabilities
    checkAgents target (some entry.agentId) rest

inductive AgentLifecycleState where
  | pending | staging | active | cancelled | failed | removed
  deriving DecidableEq

inductive AgentLifecycleFailure where
  | staleCatalog | unauthenticatedCatalog | verificationFailed | incompatibleTarget | selfTestFailed
  | busy | needsReconciliation
  deriving DecidableEq

structure AgentLifecycleBinding where
  agentId : String
  runnerInstanceId : String
  catalogSha256 : String
  deriving DecidableEq

structure AgentLifecycleResponse where
  binding : AgentLifecycleBinding
  operationId : String
  state : AgentLifecycleState
  generation : Nat
  progressPercent : Nat
  failure : Option AgentLifecycleFailure
  deriving DecidableEq

def AgentLifecycleBinding.validate (binding : AgentLifecycleBinding) :
    Except ProtocolError Unit := do
  validateIdentity binding.agentId
  validateIdentity binding.runnerInstanceId
  validateDigest binding.catalogSha256

def AgentLifecycleResponse.validate (response : AgentLifecycleResponse) :
    Except ProtocolError Unit := do
  response.binding.validate
  validateIdentity response.operationId
  refuse (response.progressPercent > 100) .invalidResponse
  refuse (response.state ∈ [.active, .cancelled, .failed, .removed] ∧
    response.progressPercent ≠ 100 ∧ response.state ≠ .failed) .invalidResponse
  refuse (decide (response.state = .failed) ≠ response.failure.isSome) .invalidResponse

end AgentSystemsBenchmark.Control
