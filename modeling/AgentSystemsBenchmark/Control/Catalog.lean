import AgentSystemsBenchmark.Control.Protocol

/-!
# The control catalog

The durable catalog of the runner backend, the check that every staged catalog
passes before it is committed, and `mutation`, the one path on which a call with
an idempotency key changes it. Ordered maps are finite maps here; iteration order
only decides which of several errors is reported first.
-/

namespace AgentSystemsBenchmark.Control

open Effects Numerals

inductive ReplayMode where
  | live | replay
  deriving DecidableEq

/-- The parts of a plan file the control plane reads; `definition` is the rest. -/
structure PlanFile where
  runId : String
  resultRoot : String
  workRoot : String
  timeoutMs : Nat
  agentImplementation : String
  provider : String
  model : String
  workload : String
  experimentSha256 : String
  workloadSha256 : String
  scorerSha256 : String
  replayMode : ReplayMode
  cassetteSha256 : Option String
  replayCassettePath : Option String
  definition : String
  deriving DecidableEq

structure RunRecord where
  planId : String
  runId : String
  attemptId : String
  state : PublicRunState
  revision : Nat
  planSha256 : String
  deriving DecidableEq

structure AuthRecord where
  provider : String
  endpointIdentitySha256 : String
  credentialLocatorSha256 : String
  generation : Nat
  status : AuthState
  deriving DecidableEq

/-- Owner-injected authority material, kept in its serialized form. -/
structure RuntimeAuthorityRecord where
  provider : String
  material : String
  deriving DecidableEq

structure RuntimeBootstrapRecord where
  provider : String
  requestNonceSha256 : String
  generation : Nat
  controlSessionSha256 : String
  restartBindingSha256 : String
  cancellationBindingSha256 : String
  expiresAtUnixMs : Nat
  revoked : Bool
  deriving DecidableEq

structure ConfigurationRecord where
  agentIds : List String
  providerId : String
  modelId : String
  authMethod : ProviderAuthMethod
  credentialReferenceSha256 : Option String
  generation : Nat
  deriving DecidableEq

inductive TupleState where
  | ready | inProgress | complete | failed | stale
  deriving DecidableEq

structure RecordingTupleRecord where
  agentId : String
  workloadId : String
  scorerRevision : String
  attemptId : String
  generation : Nat
  state : TupleState
  cassetteSha256 : Option String
  redactionVerified : Bool
  replayVerified : Bool
  deriving DecidableEq

structure RecordingCampaignRecord where
  campaignId : String
  providerId : String
  modelId : String
  agentIds : List String
  workloadIds : List String
  tupleCount : Nat
  generation : Nat
  state : CampaignState
  coveredTupleCount : Nat
  offlineReady : Bool
  unavailableReason : Option String
  coverage : List RecordingTupleRecord
  pendingCassetteRemovals : List String
  deriving DecidableEq

/-- The results a mutation can record. -/
inductive ControlResult where
  | plan (reference : PlanReference)
  | launch (summary : RunSummary)
  | acknowledged (accepted : Bool)
  | authStatus (status : AuthStatusResponse)
  | runtimeBootstrap (response : RuntimeBootstrapResponse)
  | providerProfile (catalog : ProviderCatalog)
  | configuration (snapshot : ConfigurationSnapshot)
  | recordingCampaign (plan : RecordingCampaignPlan)
  | recordingCampaignLifecycle (lifecycle : RecordingCampaignLifecycle)
  deriving DecidableEq

/-- A result bound to the digest of the call it answers. -/
structure BoundControlResult where
  requestSha256 : String
  result : ControlResult
  deriving DecidableEq

inductive MutationTarget where
  | createPlan
  | repeatRun (runId : String)
  | launch (runId attemptId : String)
  | cancel (runId attemptId : String)
  | configurationApply
  | providerProfileUpsert (providerId : String)
  | recordingCampaignPlan
  | recordingCampaignLifecycle (campaignId action : String)
  | authEnroll (provider : String)
  | authHelperInvoke (provider : String)
  | authRotate (provider : String)
  | authRevoke (provider : String)
  | runtimeBootstrap (provider : String)
  | runtimeBootstrapCancel (provider : String)
  deriving DecidableEq

inductive MutationState where
  | intent | committed | needsReconciliation
  deriving DecidableEq

structure MutationRecord where
  requestSha256 : String
  target : MutationTarget
  state : MutationState
  result : Option BoundControlResult
  deriving DecidableEq

/-- A map keyed by text. -/
abbrev Table (α : Type) : Type := AList fun _ : String => α

structure Catalog where
  schemaVersion : Nat
  runnerInstanceId : String
  revision : Nat
  plans : Table PlanFile
  runs : Table RunRecord
  mutations : Table MutationRecord
  events : List ControlEvent
  auth : Table AuthRecord
  runtimeAuthorities : Table RuntimeAuthorityRecord
  runtimeBootstraps : Table RuntimeBootstrapRecord
  configuration : Option ConfigurationRecord
  recordingCampaign : Option RecordingCampaignRecord
  providerGeneration : Nat
  providerProfiles : Table ProviderCatalogEntry
  providerCredentialReferences : Table String
  openrouterCatalog : Option String
  agentCatalogGeneration : Nat
  agentCatalog : Option AgentCatalog
  agentLifecycles : Table AgentLifecycleResponse
  agentLifecycleGeneration : Nat
  agentIdempotency : Table String

def catalogVersion : Nat := 1
def maxCatalogBytes : Nat := 16 * 1024 * 1024

/-- The catalog of an empty state root. -/
def Catalog.fresh (runnerInstanceId : String) : Catalog where
  schemaVersion := catalogVersion
  runnerInstanceId := runnerInstanceId
  revision := 0
  plans := ∅
  runs := ∅
  mutations := ∅
  events := []
  auth := ∅
  runtimeAuthorities := ∅
  runtimeBootstraps := ∅
  configuration := none
  recordingCampaign := none
  providerGeneration := 1
  providerProfiles := ∅
  providerCredentialReferences := ∅
  openrouterCatalog := none
  agentCatalogGeneration := 1
  agentCatalog := none
  agentLifecycles := ∅
  agentLifecycleGeneration := 1
  agentIdempotency := ∅

/-! ## Calls -/

/-- The parts of a provider profile the authentication helper route reads. -/
structure ProviderProfile where
  endpointIdentitySha256 : String
  credentialHelper : Bool
  credentialReferenceSha256 : Option String
  deriving DecidableEq

structure RuntimeBootstrapRequest where
  schemaVersion : Nat
  provider : String
  generation : Nat
  controlSessionSha256 : String
  requestNonceSha256 : String
  restartBindingSha256 : String
  namespaceSha256 : String
  deriving DecidableEq

structure RuntimeBootstrapCancelRequest where
  schemaVersion : Nat
  provider : String
  generation : Nat
  controlSessionSha256 : String
  cancellationBindingSha256 : String
  idempotencyKey : String
  deriving DecidableEq

structure ProviderProfileUpsertParams where
  idempotencyKey : String
  expectedGeneration : Nat
  runnerInstanceId : String
  entry : ProviderCatalogEntry
  credentialReferenceSha256 : Option String
  deriving DecidableEq

structure ConfigurationApplyParams where
  idempotencyKey : String
  expectedGeneration : Nat
  selection : ConfigurationSelection
  deriving DecidableEq

structure RecordingCampaignPlanParams where
  idempotencyKey : String
  expectedGeneration : Nat
  runnerInstanceId : String
  providerId : String
  modelId : String
  agentIds : List String
  workloadIds : List String
  deriving DecidableEq

inductive RecordingLifecycleAction where
  | execute | cancel | reconcile | offlineDefault | seal | reopen | remove | retry
  deriving DecidableEq

def RecordingLifecycleAction.name : RecordingLifecycleAction → String
  | .execute => "execute"
  | .cancel => "cancel"
  | .reconcile => "reconcile"
  | .offlineDefault => "offline_default"
  | .seal => "seal"
  | .reopen => "reopen"
  | .remove => "remove"
  | .retry => "retry"

/-- The parameters of every lifecycle call; only `remove` reads the cassette. -/
structure RecordingLifecycleParams where
  idempotencyKey : String
  expectedGeneration : Nat
  runnerInstanceId : String
  campaignId : String
  cassetteSha256 : Option String
  deriving DecidableEq

/-- The calls that change the catalog. -/
inductive ControlCall where
  | createPlan (idempotencyKey definition : String)
  | launch (idempotencyKey planId : String)
  | cancel (runId attemptId idempotencyKey : String)
  | repeatRun (runId idempotencyKey : String)
  | authEnroll
      (provider endpointIdentitySha256 credentialLocatorSha256 idempotencyKey : String)
  | authRotate (provider credentialLocatorSha256 idempotencyKey : String)
  | authRevoke (provider idempotencyKey : String)
  | authHelperInvoke (provider : String) (profile : ProviderProfile) (idempotencyKey : String)
  | runtimeBootstrap (request : RuntimeBootstrapRequest)
  | runtimeBootstrapCancel (request : RuntimeBootstrapCancelRequest)
  | providerProfileUpsert (params : ProviderProfileUpsertParams)
  | configurationApply (params : ConfigurationApplyParams)
  | recordingCampaignPlan (params : RecordingCampaignPlanParams)
  | recordingCampaign (action : RecordingLifecycleAction) (params : RecordingLifecycleParams)
  deriving DecidableEq

/-- What the backend takes from its surroundings: the hash function, the
serialized forms that are hashed or stored, and the parsers of files it reads. -/
structure Platform where
  sha256 : String → String
  sha256_hex : ∀ text, validateDigest (sha256 text) = .ok ()
  callText : ControlCall → String
  planText : PlanFile → String
  providerText : ProviderCatalog → String
  agentText : AgentCatalog → String
  /-- The certificate chain of a bootstrap response can be issued. -/
  chainIssues : RuntimeBootstrapResponse → Bool
  catalogBytes : Catalog → Nat
  parsePlan : String → Option PlanFile
  /-- The integrity digest of a decoded cassette. -/
  decodeCassette : String → Option String

/-- A polynomial digest of the bytes of a text, padded to the width of a digest. -/
def toyDigest (text : String) : String :=
  hexText 8 ((bytes text).foldl (fun sum byte => (sum * 31337 + byte.toNat) % (2 ^ 31 - 1)) 7) ++
    "00000000000000000000000000000000000000000000000000000000"

theorem toyDigest_hex (text : String) : validateDigest (toyDigest text) = .ok () := by
  have padding : (bytes "00000000000000000000000000000000000000000000000000000000").all isLowerHex =
      true := by decide
  unfold validateDigest toyDigest
  rw [refuse_eq_ok, String.utf8ByteSize_append, hexText_utf8ByteSize, bytes_append, List.all_append,
    hexText_all (by decide), padding]
  decide

def zeroDigest : String := "0000000000000000000000000000000000000000000000000000000000000000"

/-- A live plan of one run, with this definition. -/
def samplePlanFile (definition : String) : PlanFile where
  runId := "sample-run"
  resultRoot := "/results"
  workRoot := "/work"
  timeoutMs := 1000
  agentImplementation := "codex"
  provider := "openrouter"
  model := "model"
  workload := "original.bug-fix"
  experimentSha256 := zeroDigest
  workloadSha256 := zeroDigest
  scorerSha256 := zeroDigest
  replayMode := .live
  cassetteSha256 := none
  replayCassettePath := none
  definition := definition

/-- A small concrete platform: calls are rendered by what distinguishes them here,
and the text of a cassette is its own integrity digest. -/
def Platform.sample : Platform where
  sha256 := toyDigest
  sha256_hex := toyDigest_hex
  callText
    | .createPlan key definition => "create_plan:" ++ key ++ ":" ++ definition
    | .launch key planId => "launch:" ++ key ++ ":" ++ planId
    | .cancel runId attemptId key => "cancel:" ++ key ++ ":" ++ runId ++ ":" ++ attemptId
    | .repeatRun runId key => "repeat:" ++ key ++ ":" ++ runId
    | .authEnroll provider endpoint locator key =>
      "auth_enroll:" ++ key ++ ":" ++ provider ++ ":" ++ endpoint ++ ":" ++ locator
    | .authRotate provider locator key => "auth_rotate:" ++ key ++ ":" ++ provider ++ ":" ++ locator
    | .authRevoke provider key => "auth_revoke:" ++ key ++ ":" ++ provider
    | .authHelperInvoke provider _ key => "auth_helper_invoke:" ++ key ++ ":" ++ provider
    | .runtimeBootstrap request => "runtime_bootstrap:" ++ request.requestNonceSha256
    | .runtimeBootstrapCancel request => "runtime_bootstrap_cancel:" ++ request.idempotencyKey
    | .providerProfileUpsert params => "provider_profile_upsert:" ++ params.idempotencyKey
    | .configurationApply params => "configuration_apply:" ++ params.idempotencyKey
    | .recordingCampaignPlan params => "recording_campaign_plan:" ++ params.idempotencyKey
    | .recordingCampaign action params => action.name ++ ":" ++ params.idempotencyKey
  planText plan := plan.runId ++ ":" ++ plan.definition
  providerText catalog := ":".intercalate (catalog.providers.map (·.providerId))
  agentText catalog := ":".intercalate (catalog.agents.map (·.agentId))
  chainIssues _ := true
  catalogBytes _ := 0
  parsePlan text := some (samplePlanFile text)
  decodeCassette bytes := some bytes

variable (env : Platform)

def canonicalCallSha256 (call : ControlCall) : String := env.sha256 (env.callText call)

def planDigest (plan : PlanFile) : String := env.sha256 (env.planText plan)

/-- The digest of a provider catalog, with its own digest field left out. -/
def ProviderCatalog.computedSha256 (catalog : ProviderCatalog) : String :=
  env.sha256 (env.providerText { catalog with catalogSha256 := "" })

def ProviderCatalog.validate (catalog : ProviderCatalog) : Except ProtocolError Unit := do
  validateIdentity catalog.runnerInstanceId
  validateDigest catalog.catalogSha256
  refuse (catalog.providers = [] ∨ catalog.providers.length > maxProviders) .invalidResponse
  checkProviders none catalog.providers
  refuse (catalog.catalogSha256 ≠ catalog.computedSha256 env) .invalidResponse

/-- The digest of an agent catalog, with its digest and refresh mark left out. -/
def AgentCatalog.computedSha256 (catalog : AgentCatalog) : String :=
  env.sha256 (env.agentText { catalog with catalogSha256 := "", refreshed := false })

def AgentCatalog.validate (catalog : AgentCatalog) : Except ProtocolError Unit := do
  validateIdentity catalog.runnerInstanceId
  validateDigest catalog.catalogSha256
  validateTarget catalog.target
  refuse (catalog.agents = [] ∨ catalog.agents.length > maxCatalogAgents) .invalidResponse
  checkAgents catalog.target none catalog.agents
  refuse (catalog.catalogSha256 ≠ catalog.computedSha256 env) .invalidResponse

def ControlResult.validate : ControlResult → Except ProtocolError Unit
  | .plan reference => do
    validateIdentity reference.planId
    validateDigest reference.planSha256
  | .launch summary => do
    validateIdentity summary.runId
    validateIdentity summary.attemptId
    validateDigest summary.planSha256
    refuse (summary.createdRevision > summary.revision) .invalidResponse
  | .acknowledged accepted => refuse (accepted = false) .invalidResponse
  | .authStatus status => do
    validateIdentity status.provider
    validateDigest status.endpointIdentitySha256
    validateDigest status.credentialLocatorSha256
    refuse (status.generation = 0) .invalidResponse
  | .runtimeBootstrap response =>
    refuse (response.schemaVersion ≠ 1 ∨ ¬ isOk (validateDigest response.requestNonceSha256) ∨
      ¬ isOk (validateDigest response.controlSessionSha256) ∨
      ¬ isOk (validateDigest response.restartBindingSha256) ∨
      ¬ isOk (validateDigest response.cancellationBindingSha256) ∨
      response.generation = 0 ∨ response.expiresAtUnixMs = 0 ∨
      response.receipt.expiresAtUnixMs ≠ response.expiresAtUnixMs ∨
      ¬ env.chainIssues response) .invalidResponse
  | .providerProfile catalog => catalog.validate env
  | .configuration snapshot => snapshot.validate
  | .recordingCampaign planned => planned.validate
  | .recordingCampaignLifecycle lifecycle => lifecycle.validate

def BoundControlResult.validate (bound : BoundControlResult) : Except ProtocolError Unit := do
  validateDigest bound.requestSha256
  bound.result.validate env

end AgentSystemsBenchmark.Control
