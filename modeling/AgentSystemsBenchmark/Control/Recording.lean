import AgentSystemsBenchmark.Control.Configuration

/-!
# Recording campaigns

Planning a campaign and each transition of its lifecycle, as a function of the
campaign record. Every lifecycle mutation replaces the record of the campaign it
names and answers with its projection; which files are valid cassettes is a
parameter of the transitions that look.
-/

namespace AgentSystemsBenchmark.Control

open Effects

/-! ## Planning -/

def fixtureIds : List String :=
  ["original.bug-fix", "original.feature-addition", "original.refactoring",
    "original.test-generation", "original.dependency-migration", "original.build-repair",
    "original.repository-navigation"]

/-- An empty list asks for every built-in workload. -/
def resolveRecordingWorkloads (requested : List String) : Except BackendFailure (List String) :=
  let resolved := (if requested = [] then fixtureIds else requested).insertionSort
    fun left right => ¬ precedes right left
  if resolved = [] ∨ ¬ resolved.Nodup then .error .rejected else .ok resolved

def scorerRevision : String := "scorer-v1"

def tupleAttemptId (campaignId agentId workloadId : String) : String :=
  campaignId ++ "-" ++ agentId ++ "-" ++ workloadId ++ "-attempt"

def plannedTuple (campaignId : String) (generation : Nat) (agentId workloadId : String) :
    RecordingTupleRecord where
  agentId := agentId
  workloadId := workloadId
  scorerRevision := scorerRevision
  attemptId := tupleAttemptId campaignId agentId workloadId
  generation := generation
  state := .ready
  cassetteSha256 := none
  redactionVerified := false
  replayVerified := false

def plannedCoverage (campaignId : String) (generation : Nat) (agentIds workloadIds : List String) :
    List RecordingTupleRecord :=
  agentIds.flatMap fun agentId => workloadIds.map (plannedTuple campaignId generation agentId)

variable (env : Platform)

/-- The campaign a plan request describes, or why it is refused. -/
def prepareCampaign (params : RecordingCampaignPlanParams) (catalog : Catalog) :
    Except BackendFailure RecordingCampaignRecord := do
  refuse (params.runnerInstanceId ≠ catalog.runnerInstanceId) .staleIdentity
  let configuration := configurationStatus catalog
  refuse (¬ configuration.configured ∨ configuration.generation ≠ params.expectedGeneration ∨
    configuration.providerId ≠ some params.providerId ∨
    configuration.modelId ≠ some params.modelId ∨ configuration.agentIds ≠ params.agentIds)
    .staleIdentity
  let workloadIds ← resolveRecordingWorkloads params.workloadIds
  let tupleCount := params.agentIds.length * workloadIds.length
  refuse (tupleCount = 0 ∨ tupleCount > 256) .rejected
  let providers ← providerCatalogStatus env catalog
  let _ ← selectable providers params.providerId params.modelId
  refuse (workloadIds.any fun workload => workload ∉ fixtureIds) .rejected
  let campaignId :=
    "campaign-" ++ shortDigest (canonicalCallSha256 env (.recordingCampaignPlan params))
  pure
    { campaignId := campaignId
      providerId := params.providerId
      modelId := params.modelId
      agentIds := params.agentIds
      workloadIds := workloadIds
      tupleCount := tupleCount
      generation := configuration.generation
      state := .planned
      coveredTupleCount := 0
      offlineReady := false
      unavailableReason := some "recording-required"
      coverage := plannedCoverage campaignId configuration.generation params.agentIds workloadIds
      pendingCassetteRemovals := [] }

def RecordingCampaignRecord.planResult (campaign : RecordingCampaignRecord)
    (runnerInstanceId : String) : RecordingCampaignPlan where
  runnerInstanceId := runnerInstanceId
  generation := campaign.generation
  campaignId := campaign.campaignId
  providerId := campaign.providerId
  modelId := campaign.modelId
  agentIds := campaign.agentIds
  workloadIds := campaign.workloadIds
  tupleCount := campaign.tupleCount
  state := campaign.state
  offlineReady := campaign.offlineReady
  unavailableReason := campaign.unavailableReason

/-- The mutation installs the prepared campaign in place of any earlier one. -/
def installCampaign (campaign : RecordingCampaignRecord) (catalog : Catalog) :
    Except BackendFailure (ControlResult × Catalog) :=
  .ok (.recordingCampaign (campaign.planResult catalog.runnerInstanceId),
    { catalog with recordingCampaign := some campaign })

/-! ## Lifecycle transitions -/

def lifecycleProjection (runnerInstanceId : String) (record : RecordingCampaignRecord) :
    RecordingCampaignLifecycle where
  runnerInstanceId := runnerInstanceId
  generation := record.generation
  campaignId := record.campaignId
  providerId := record.providerId
  modelId := record.modelId
  agentIds := record.agentIds
  workloadIds := record.workloadIds
  tupleCount := record.tupleCount
  coveredTupleCount := record.coveredTupleCount
  state := record.state
  offlineReady := record.offlineReady
  unavailableReason := record.unavailableReason

/-- Apply a transition to the record of the named campaign. -/
def onCampaign (campaignId : String)
    (transition : RecordingCampaignRecord → Except BackendFailure RecordingCampaignRecord)
    (catalog : Catalog) : Except BackendFailure (ControlResult × Catalog) :=
  match catalog.recordingCampaign with
  | none => .error .notFound
  | some record =>
    if record.campaignId ≠ campaignId then .error .notFound
    else do
      let next ← transition record
      pure (.recordingCampaignLifecycle (lifecycleProjection catalog.runnerInstanceId next),
        { catalog with recordingCampaign := some next })

namespace RecordingCampaignRecord

/-- Change the tuples that are not complete. -/
def mapIncomplete (record : RecordingCampaignRecord)
    (change : RecordingTupleRecord → RecordingTupleRecord) : RecordingCampaignRecord :=
  { record with
    coverage := record.coverage.map fun entry =>
      if entry.state = .complete then entry else change entry }

/-- Change the tuples whose capture is in progress. -/
def settleInProgress (record : RecordingCampaignRecord)
    (state : TupleState) : RecordingCampaignRecord :=
  { record with
    coverage := record.coverage.map fun entry =>
      if entry.state = .inProgress then { entry with state := state } else entry }

def recount (record : RecordingCampaignRecord) : RecordingCampaignRecord :=
  { record with coveredTupleCount := record.completeCount }

/-- Every tuple names a valid artifact. -/
def artifactsValid (record : RecordingCampaignRecord)
    (artifactValid : String → Bool) : Bool :=
  record.coverage.all fun entry => entry.cassetteSha256.any artifactValid

end RecordingCampaignRecord

def retryReset (expectedGeneration : Nat) (record : RecordingCampaignRecord) :
    Except BackendFailure RecordingCampaignRecord := do
  refuse (record.generation ≠ expectedGeneration ∨
    record.state ∉ [.failed, .needsReconciliation]) .rejected
  let reset := record.mapIncomplete fun entry =>
    { entry with
      state := .ready, cassetteSha256 := none, redactionVerified := false, replayVerified := false }
  pure
    { reset with
      state := .planned, offlineReady := false, unavailableReason := some "retry-admitted" }

def cancelCampaign (record : RecordingCampaignRecord) :
    Except BackendFailure RecordingCampaignRecord := do
  refuse (record.offlineReady = true) .rejected
  pure { record with state := .cancelled, unavailableReason := some "recording-cancelled" }

def reconcileCampaign (artifactValid : String → Bool) (record : RecordingCampaignRecord) :
    RecordingCampaignRecord :=
  if record.state ∈ [.recording, .needsReconciliation] then
    let settled := record.settleInProgress .stale
    let unresolved := settled.coverage.any fun entry => entry.state = .stale
    let counted :=
      { settled with
        state := if unresolved then .needsReconciliation else .complete
        coveredTupleCount := settled.completeCount }
    let ready :=
      !unresolved && recordingCoverageComplete counted && settled.artifactsValid artifactValid
    { counted with
      offlineReady := ready
      unavailableReason := if ready then none else some "provider-capture-required" }
  else record

def offlineDefault (artifactValid : String → Bool) (record : RecordingCampaignRecord) :
    Except BackendFailure RecordingCampaignRecord := do
  refuse (¬ record.offlineReady ∨ record.state ≠ .complete ∨ ¬ record.artifactsValid artifactValid)
    .capabilityUnavailable
  pure { record with unavailableReason := none }

def sealCampaign (artifactValid : String → Bool) (record : RecordingCampaignRecord) :
    Except BackendFailure RecordingCampaignRecord := do
  let valid := record.coverage.all fun entry =>
    entry.state = .complete ∧ entry.cassetteSha256.any artifactValid
  refuse (¬ valid ∨ record.coverage.length ≠ record.tupleCount) .capabilityUnavailable
  pure
    { record with
      state := .complete
      coveredTupleCount := record.tupleCount
      offlineReady := true
      unavailableReason := none }

/-- Unlike a retry, reopening leaves the verification marks of a tuple alone. -/
def reopenCampaign (record : RecordingCampaignRecord) :
    Except BackendFailure RecordingCampaignRecord := do
  refuse (record.state ∉ [.complete, .failed, .cancelled, .needsReconciliation]) .rejected
  let reset := record.mapIncomplete fun entry =>
    { entry with state := .ready, cassetteSha256 := none }
  pure
    { reset with
      state := .planned, offlineReady := false, unavailableReason := some "capture-reopened" }

/-- Replace the first element that satisfies the predicate. -/
def updateFirst {α : Type} (p : α → Bool) (change : α → α) : List α → Option (List α)
  | [] => none
  | x :: xs => if p x then some (change x :: xs) else (updateFirst p change xs).map (x :: ·)

def RecordingTupleRecord.refersTo (digest : String) (entry : RecordingTupleRecord) : Bool :=
  entry.cassetteSha256 = some digest

/-- The tuple after its cassette was removed. -/
def RecordingTupleRecord.withoutCassette (entry : RecordingTupleRecord) : RecordingTupleRecord :=
  { entry with
    state := .failed, cassetteSha256 := none, redactionVerified := false, replayVerified := false }

/-- Remember the digests to unlink, each once. -/
def rememberRemovals (digests pending : List String) : List String :=
  digests.foldl (fun known digest => if digest ∈ known then known else known ++ [digest]) pending

/-- Remove one cassette, from the first tuple that refers to it, or the whole campaign. -/
def removeFromCampaign (removeDigests : List String) (cassetteSha256 : Option String)
    (record : RecordingCampaignRecord) : Except BackendFailure RecordingCampaignRecord :=
  let noted :=
    { record with
      pendingCassetteRemovals := rememberRemovals removeDigests record.pendingCassetteRemovals }
  match cassetteSha256 with
  | none =>
    .ok { noted with
      state := .removed, offlineReady := false, unavailableReason := some "campaign-removed" }
  | some digest =>
    match updateFirst (RecordingTupleRecord.refersTo digest) RecordingTupleRecord.withoutCassette
      record.coverage with
    | none => .error .notFound
    | some coverage =>
      .ok { RecordingCampaignRecord.recount { noted with coverage := coverage } with
        state := .needsReconciliation
        offlineReady := false
        unavailableReason := some "cassette-removed" }

/-- The transition table of `recording_campaign_lifecycle`; execute and retry never reach it. -/
def lifecycleTransition (artifactValid : String → Bool) (removeDigests : List String)
    (action : RecordingLifecycleAction) (params : RecordingLifecycleParams)
    (record : RecordingCampaignRecord) : Except BackendFailure RecordingCampaignRecord := do
  refuse (record.generation ≠ params.expectedGeneration) .staleIdentity
  match action with
  | .cancel => cancelCampaign record
  | .reconcile => pure (reconcileCampaign artifactValid record)
  | .offlineDefault => offlineDefault artifactValid record
  | .seal => sealCampaign artifactValid record
  | .reopen => reopenCampaign record
  | .remove => do
    refuse (params.cassetteSha256.any fun digest =>
      ¬ record.coverage.any (RecordingTupleRecord.refersTo digest)) .notFound
    removeFromCampaign removeDigests params.cassetteSha256 record
  | .execute | .retry => .error .rejected

/-! ## Execution -/

inductive ProviderCaptureError where
  | unavailable | identityMismatch | bounds | verification | cancelled | deadline
  deriving DecidableEq

def ProviderCaptureError.reason : ProviderCaptureError → String
  | .unavailable => "runtime-capture-unavailable"
  | .identityMismatch => "runtime-capture-identity-mismatch"
  | .bounds => "runtime-capture-bounds"
  | .verification => "runtime-capture-verification-failed"
  | .cancelled => "recording-cancelled"
  | .deadline => "recording-deadline-exceeded"

/-- An interrupted capture is left to reconciliation, any other error is a failure. -/
def ProviderCaptureError.interrupts (error : ProviderCaptureError) : Bool :=
  error ∈ [.cancelled, .deadline]

def executable (state : CampaignState) : Bool :=
  state ∈ [.planned, .recording, .needsReconciliation]

def executeIntent (expectedGeneration : Nat) (record : RecordingCampaignRecord) :
    Except BackendFailure RecordingCampaignRecord := do
  refuse (record.generation ≠ expectedGeneration ∨ ¬ executable record.state) .staleIdentity
  let started := record.mapIncomplete fun entry => { entry with state := .inProgress }
  pure
    { RecordingCampaignRecord.recount started with
      state := .recording
      offlineReady := false
      unavailableReason := some "provider-capture-in-progress" }

structure ProviderCaptureResult where
  cassetteSha256 : String
  cassetteJson : String
  redactionVerified : Bool
  replayVerified : Bool
  deriving DecidableEq

/-- The tuple with a verified capture. -/
def RecordingTupleRecord.withCapture (result : ProviderCaptureResult)
    (entry : RecordingTupleRecord) : RecordingTupleRecord :=
  { entry with
    state := .complete
    cassetteSha256 := some result.cassetteSha256
    redactionVerified := result.redactionVerified
    replayVerified := result.replayVerified }

/-- Record one verified capture; neither the campaign's state nor its generation is checked. -/
def tupleCheckpoint (attemptId : String) (result : ProviderCaptureResult)
    (record : RecordingCampaignRecord) : Except BackendFailure RecordingCampaignRecord :=
  match record.coverage.find? fun entry => entry.attemptId = attemptId with
  | none => .error .notFound
  | some target =>
    if target.state = .complete then .ok record
    else
      match updateFirst (fun entry => entry.attemptId = attemptId)
        (RecordingTupleRecord.withCapture result) record.coverage with
      | none => .error .notFound
      | some coverage => .ok (RecordingCampaignRecord.recount { record with coverage := coverage })

def executeResult (artifactValid : String → Bool) (expectedGeneration : Nat)
    (failure : Option ProviderCaptureError) (record : RecordingCampaignRecord) :
    Except BackendFailure RecordingCampaignRecord := do
  refuse (record.generation ≠ expectedGeneration ∨ record.state ≠ .recording) .needsReconciliation
  match failure with
  | some error =>
    let settled := record.settleInProgress (if error.interrupts then .stale else .failed)
    pure
      { settled with
        state := if error.interrupts then .needsReconciliation else .failed
        offlineReady := false
        coveredTupleCount := settled.completeCount
        unavailableReason := some error.reason }
  | none =>
    let ready := recordingCoverageComplete record && record.artifactsValid artifactValid
    pure
      { record with
        coveredTupleCount := record.tupleCount
        state := .complete
        offlineReady := ready
        unavailableReason := if ready then none else some "coverage-verification-incomplete" }

end AgentSystemsBenchmark.Control
