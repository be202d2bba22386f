import AgentSystemsBenchmark.Control.Catalog

/-!
# Checking and committing a staged catalog

`validateCatalog` re-checks the whole catalog, every recorded mutation result
against the current state included. A mutation stages a copy, records its result
under the digest of its key and commits the copy; a failed commit reloads whatever
the rename left on disk.
-/

namespace AgentSystemsBenchmark.Control

open Effects

/-- Replace whatever error a check reports by one message. -/
def orElseReport {ε : Type} (message : String) : Except ε Unit → Except String Unit
  | .ok () => .ok ()
  | .error _ => .error message

variable (env : Platform)

def validateHeader (catalog : Catalog) : Except String Unit :=
  refuse (catalog.schemaVersion ≠ catalogVersion ∨
    ¬ isOk (validateIdentity catalog.runnerInstanceId) ∨
    catalog.events.length > 1000000 ∨
    catalog.plans.entries.length > 100000 ∨
    catalog.runs.entries.length > 1000000 ∨
    catalog.mutations.entries.length > 1000000 ∨
    catalog.runtimeAuthorities.entries.length > 32 ∨
    (catalog.runtimeAuthorities.keys.any fun provider => ¬ isOk (validateIdentity provider)) ∨
    catalog.revision ≠ (catalog.events.getLast?.map (·.revision)).getD 0)
    "control catalog is invalid"

def validateProviderRegistry (catalog : Catalog) : Except String Unit :=
  refuse (catalog.providerGeneration = 0 ∨
    catalog.providerProfiles.entries.length > 32 ∨
    catalog.providerCredentialReferences.entries.length > 32 ∨
    (catalog.providerCredentialReferences.entries.any fun entry =>
      ¬ isOk (validateIdentity entry.1) ∨ ¬ isOk (validateDigest entry.2)))
    "control provider registry is invalid"

/-- The journal is first bounded by 64 operations and, after the agent catalog, by 32. -/
def validateAgents (catalog : Catalog) : Except String Unit := do
  refuse (catalog.agentCatalogGeneration = 0) "control agent catalog generation is invalid"
  refuse (catalog.agentLifecycleGeneration = 0 ∨ catalog.agentIdempotency.entries.length > 128 ∨
    catalog.agentLifecycles.entries.length > 64)
    "control agent lifecycle generation or journal is invalid"
  checkAll (fun entry : (_ : String) × String =>
    refuse (¬ isOk (validateIdentity entry.1) ∨ ¬ isOk (validateIdentity entry.2) ∨
      entry.2 ∉ catalog.agentLifecycles) "control agent idempotency fence is invalid")
    catalog.agentIdempotency.entries
  match catalog.agentCatalog with
  | none => pure ()
  | some agents =>
    refuse (agents.runnerInstanceId ≠ catalog.runnerInstanceId ∨
      agents.generation ≠ catalog.agentCatalogGeneration)
      "control agent catalog identity is invalid"
    orElseReport "control agent catalog is invalid" (agents.validate env)
  refuse (catalog.agentLifecycles.entries.length > 32)
    "control agent lifecycle journal is oversized"
  checkAll (fun entry : (_ : String) × AgentLifecycleResponse => do
    refuse (entry.1 ≠ entry.2.operationId ∨
      entry.2.binding.runnerInstanceId ≠ catalog.runnerInstanceId)
      "control agent lifecycle identity is invalid"
    orElseReport "control agent lifecycle projection is invalid" entry.2.validate)
    catalog.agentLifecycles.entries

/-- The one-entry catalog a registered profile is checked in. -/
def Catalog.profileSnapshot (catalog : Catalog) (entry : ProviderCatalogEntry) : ProviderCatalog :=
  let snapshot : ProviderCatalog :=
    { runnerInstanceId := catalog.runnerInstanceId
      generation := catalog.providerGeneration
      catalogSha256 := ""
      providers := [entry]
      refreshed := false }
  { snapshot with catalogSha256 := snapshot.computedSha256 env }

def validateProviderProfiles (catalog : Catalog) : Except String Unit :=
  checkAll (fun entry : (_ : String) × ProviderCatalogEntry => do
    refuse (entry.1 ≠ entry.2.providerId ∨ entry.2.availability ≠ authorizationRequired)
      "control provider profile is invalid"
    orElseReport "control provider profile is invalid"
      ((catalog.profileSnapshot env entry.2).validate env))
    catalog.providerProfiles.entries

def ConfigurationRecord.snapshot (configuration : ConfigurationRecord) (runnerInstanceId : String) :
    ConfigurationSnapshot where
  runnerInstanceId := runnerInstanceId
  generation := configuration.generation
  configured := true
  agentIds := configuration.agentIds
  providerId := some configuration.providerId
  modelId := some configuration.modelId
  authMethod := some configuration.authMethod
  credentialReferenceSha256 := configuration.credentialReferenceSha256

def validateConfiguration (catalog : Catalog) : Except String Unit :=
  match catalog.configuration with
  | none => .ok ()
  | some configuration =>
    orElseReport "control configuration is invalid"
      (configuration.snapshot catalog.runnerInstanceId).validate

/-! ## The recording campaign -/

def RecordingTupleRecord.hasDigest (entry : RecordingTupleRecord) : Bool :=
  entry.cassetteSha256.any fun digest => isOk (validateDigest digest)

def recordingCoverageComplete (campaign : RecordingCampaignRecord) : Bool :=
  campaign.coverage.length = campaign.tupleCount ∧
    campaign.coverage.all fun entry =>
      entry.generation = campaign.generation ∧ entry.state = .complete ∧
        entry.redactionVerified ∧ entry.replayVerified ∧ entry.hasDigest

def RecordingCampaignRecord.completeCount (campaign : RecordingCampaignRecord) : Nat :=
  campaign.coverage.countP fun entry => entry.state = .complete

/-- The digest and verification marks stand exactly on complete tuples. -/
def RecordingTupleRecord.marked (entry : RecordingTupleRecord) : Bool :=
  if entry.state = .complete then
    entry.redactionVerified && entry.replayVerified && entry.hasDigest
  else
    !entry.redactionVerified && !entry.replayVerified && entry.cassetteSha256.isNone

/-- Tuples in strictly ascending (agent, workload) order, within the matrix. -/
def checkCoverage (campaign : RecordingCampaignRecord) :
    Option (String × String) → List RecordingTupleRecord → Except String Unit
  | _, [] => .ok ()
  | previous, entry :: rest => do
    orElseReport "recording tuple identity is invalid" (do
      validateIdentity entry.agentId
      validateIdentity entry.workloadId
      validateIdentity entry.scorerRevision
      validateIdentity entry.attemptId)
    refuse (entry.generation ≠ campaign.generation ∨ ¬ entry.marked)
      "recording tuple coverage is invalid"
    refuse ((previous.any fun last => ¬ (precedes last.1 entry.agentId ∨
        (last.1 = entry.agentId ∧ precedes last.2 entry.workloadId))) ∨
      entry.agentId ∉ campaign.agentIds ∨ entry.workloadId ∉ campaign.workloadIds)
      "recording tuple coverage is not an exact ordered matrix"
    checkCoverage campaign (some (entry.agentId, entry.workloadId)) rest

def validateCampaign (campaign : RecordingCampaignRecord) : Except String Unit := do
  orElseReport "control recording campaign identity is invalid" (do
    validateIdentity campaign.campaignId
    validateIdentity campaign.providerId
    validateIdentity campaign.modelId)
  let matrix := campaign.agentIds.length * campaign.workloadIds.length
  refuse (campaign.generation = 0 ∨ campaign.agentIds = [] ∨ campaign.workloadIds = [] ∨
    campaign.tupleCount ≠ if matrix ≤ u16Max then matrix else 0)
    "control recording campaign is invalid"
  refuse (¬ campaign.agentIds.Pairwise (precedes · ·) ∨
    ¬ campaign.workloadIds.Pairwise (precedes · ·))
    "control recording campaign ordering is invalid"
  refuse (campaign.coverage.length ≠ campaign.tupleCount)
    "control recording campaign coverage is incomplete"
  refuse (campaign.pendingCassetteRemovals.length > 256)
    "pending cassette cleanup exceeds its bound"
  refuse (¬ campaign.pendingCassetteRemovals.Nodup ∨
    (campaign.pendingCassetteRemovals.any fun digest => ¬ isOk (validateDigest digest)))
    "pending cassette cleanup identity is invalid"
  checkCoverage campaign none campaign.coverage
  refuse (campaign.coveredTupleCount ≠ campaign.completeCount ∨
    campaign.offlineReady ≠
      decide (campaign.state = .complete ∧ recordingCoverageComplete campaign))
    "recording campaign aggregate does not match tuple coverage"

def validateRecording (catalog : Catalog) : Except String Unit :=
  match catalog.recordingCampaign with
  | none => .ok ()
  | some campaign => validateCampaign campaign

/-! ## Plans, events and runs -/

/-- What one commit meets outside the backend: the files a plan names, the
deadline, and how far the replacement of the catalog file gets. -/
inductive CommitOutcome where
  /-- Staged, renamed and synced. -/
  | synced
  /-- An error before the rename: the old file stays. -/
  | refused
  /-- Renamed, but the directory sync failed. -/
  | renamed
  deriving DecidableEq

structure Moment where
  validatePlan : PlanFile → Except String Unit
  deadlinePassed : Bool
  commit : CommitOutcome

/-- Nothing goes wrong outside. -/
def Moment.calm : Moment := ⟨fun _ => .ok (), false, .synced⟩

def validatePlans (moment : Moment) (catalog : Catalog) : Except String Unit :=
  checkAll (fun entry : (_ : String) × PlanFile => do
    orElseReport "control plan identity is invalid" (validateIdentity entry.1)
    moment.validatePlan entry.2) catalog.plans.entries

def ControlEvent.associated (event : ControlEvent) : Bool :=
  match event.kind with
  | .runnerReady | .planCreated => event.runId.isNone && event.attemptId.isNone
  | _ => event.runId.isSome && event.attemptId.isSome

/-- Revisions count up from `index`. -/
def checkEvents : Nat → List ControlEvent → Except String Unit
  | _, [] => .ok ()
  | index, event :: rest => do
    refuse (event.revision ≠ index + 1) "control event revisions are invalid"
    refuse (¬ event.associated) "control event association is invalid"
    checkEvents (index + 1) rest

/-- The kind of the event that publishes a state. -/
def PublicRunState.eventKind : PublicRunState → ControlEventKind
  | .planned | .prepared | .collecting => .runUpdated
  | .running => .runStarted
  | .completed => .runCompleted
  | .failed => .runFailed
  | .cancelled => .runCancelled
  | .needsReconciliation => .reconciliationRequired

def latestEvent (catalog : Catalog) (runId : String) : Option ControlEvent :=
  catalog.events.reverse.find? fun event => event.runId = some runId

def validateRuns (catalog : Catalog) : Except String Unit :=
  checkAll (fun entry : (_ : String) × RunRecord => do
    let run := entry.2
    refuse (entry.1 ≠ run.runId ∨ ¬ isOk (validateIdentity run.runId) ∨
      ¬ isOk (validateIdentity run.attemptId) ∨ ¬ isOk (validateDigest run.planSha256))
      "control run record is invalid"
    match catalog.plans.lookup run.planId with
    | none => .error "control run plan is missing"
    | some plan =>
      refuse (planDigest env plan ≠ run.planSha256) "control run plan digest is invalid"
      match latestEvent catalog run.runId with
      | none => .error "control run event is missing"
      | some latest =>
        refuse (latest.attemptId ≠ some run.attemptId ∨ latest.revision ≠ run.revision ∨
          latest.kind ≠ run.state.eventKind) "control run event state is invalid")
    catalog.runs.entries

/-! ## Recorded mutations -/

def MutationTarget.validate : MutationTarget → Except String Unit
  | .createPlan | .configurationApply | .recordingCampaignPlan => .ok ()
  | .repeatRun runId =>
    orElseReport "control mutation target is invalid" (validateIdentity runId)
  | .launch runId attemptId | .cancel runId attemptId =>
    orElseReport "control mutation target is invalid" (do
      validateIdentity runId
      validateIdentity attemptId)
  | .authEnroll provider | .authHelperInvoke provider | .authRotate provider
  | .authRevoke provider =>
    orElseReport "control auth mutation target is invalid" (validateIdentity provider)
  | .runtimeBootstrap provider | .runtimeBootstrapCancel provider =>
    orElseReport "control runtime bootstrap mutation target is invalid" (validateIdentity provider)
  | .providerProfileUpsert providerId =>
    orElseReport "control provider mutation target is invalid" (validateIdentity providerId)
  | .recordingCampaignLifecycle campaignId action =>
    orElseReport "control recording mutation target is invalid" (do
      validateIdentity campaignId
      validateIdentity action)

/-- The first 24 characters of a digest. -/
def shortDigest (digest : String) : String := String.ofList (digest.toList.take 24)

/-- The name a plan with this digest gets. -/
def planIdOf (digest : String) : String := "plan-" ++ shortDigest digest

def planMatches (catalog : Catalog) (reference : PlanReference) : Bool :=
  (catalog.plans.lookup reference.planId).any fun plan =>
    reference.planSha256 = planDigest env plan ∧ reference.planId = planIdOf (planDigest env plan)

/-- The launch result still describes the run, and its event is the one that planned it. -/
def launchMatches (catalog : Catalog) (runId attemptId : String) (summary : RunSummary) : Bool :=
  (catalog.runs.lookup runId).any fun run =>
    run.runId = runId ∧ run.attemptId = attemptId ∧ summary.runId = runId ∧
      summary.attemptId = attemptId ∧ summary.state = .planned ∧
      summary.planSha256 = run.planSha256 ∧ summary.revision > 0 ∧
      (catalog.events[summary.revision - 1]?).any fun event =>
        event.revision = summary.revision ∧ event.kind = .runUpdated ∧
          event.runId = some runId ∧ event.attemptId = some attemptId

def AuthRecord.matches (record : AuthRecord) (provider : String) (status : AuthStatusResponse) :
    Bool :=
  record.provider = provider ∧ status.provider = provider ∧
    status.endpointIdentitySha256 = record.endpointIdentitySha256 ∧
    status.credentialLocatorSha256 = record.credentialLocatorSha256 ∧
    status.generation = record.generation ∧ status.status = record.status

def RuntimeBootstrapRecord.matches (record : RuntimeBootstrapRecord) (provider : String)
    (response : RuntimeBootstrapResponse) : Bool :=
  record.provider = provider ∧ record.requestNonceSha256 = response.requestNonceSha256 ∧
    record.generation = response.generation ∧
    record.controlSessionSha256 = response.controlSessionSha256 ∧
    record.restartBindingSha256 = response.restartBindingSha256 ∧
    record.cancellationBindingSha256 = response.cancellationBindingSha256 ∧
    record.expiresAtUnixMs = response.expiresAtUnixMs ∧ ¬ record.revoked

def RecordingCampaignRecord.planMatches (campaign : RecordingCampaignRecord)
    (plan : RecordingCampaignPlan) : Bool :=
  plan.campaignId = campaign.campaignId ∧ plan.generation = campaign.generation ∧
    plan.providerId = campaign.providerId ∧ plan.modelId = campaign.modelId ∧
    plan.agentIds = campaign.agentIds ∧ plan.workloadIds = campaign.workloadIds ∧
    plan.tupleCount = campaign.tupleCount

/-- A lifecycle result is a historical snapshot: only what never changes is compared. -/
def RecordingCampaignRecord.lifecycleMatches (campaign : RecordingCampaignRecord)
    (campaignId : String) (lifecycle : RecordingCampaignLifecycle) : Bool :=
  lifecycle.campaignId = campaignId ∧ lifecycle.campaignId = campaign.campaignId ∧
    lifecycle.generation = campaign.generation ∧ lifecycle.providerId = campaign.providerId ∧
    lifecycle.modelId = campaign.modelId ∧ lifecycle.agentIds = campaign.agentIds ∧
    lifecycle.workloadIds = campaign.workloadIds ∧ lifecycle.tupleCount = campaign.tupleCount ∧
    lifecycle.coveredTupleCount ≤ lifecycle.tupleCount

/-- A recorded result agrees with the current catalog. -/
def targetMatches (catalog : Catalog) (state : MutationState) :
    MutationTarget → ControlResult → Bool
  | .createPlan, .plan reference => planMatches env catalog reference
  | .repeatRun runId, .plan reference => runId ∈ catalog.runs ∧ planMatches env catalog reference
  | .launch runId attemptId, .launch summary => launchMatches catalog runId attemptId summary
  | .cancel runId attemptId, .acknowledged _ =>
    (catalog.runs.lookup runId).any fun run =>
      run.runId = runId ∧ run.attemptId = attemptId ∧
        (state ≠ .committed ∨ run.state = .cancelled)
  | .authEnroll provider, .acknowledged _ | .authRotate provider, .acknowledged _
  | .authRevoke provider, .acknowledged _ =>
    (catalog.auth.lookup provider).any fun record => record.provider = provider
  | .authHelperInvoke provider, .authStatus status =>
    (catalog.auth.lookup provider).any fun record => record.matches provider status
  | .runtimeBootstrap provider, .runtimeBootstrap response =>
    catalog.runtimeBootstraps.entries.any fun entry => entry.2.matches provider response
  | .runtimeBootstrapCancel provider, .acknowledged _ =>
    catalog.runtimeBootstraps.entries.any fun entry =>
      entry.2.provider = provider ∧ entry.2.revoked
  | .configurationApply, .configuration snapshot =>
    catalog.configuration.any fun configuration =>
      snapshot.configured ∧ snapshot.generation = configuration.generation ∧
        snapshot.providerId = some configuration.providerId
  | .providerProfileUpsert providerId, .providerProfile snapshot =>
    snapshot.generation = catalog.providerGeneration ∧
      snapshot.providers.any fun entry =>
        entry.providerId = providerId ∧ catalog.providerProfiles.lookup providerId = some entry
  | .recordingCampaignPlan, .recordingCampaign plan =>
    catalog.recordingCampaign.any fun campaign => campaign.planMatches plan
  | .recordingCampaignLifecycle campaignId _, .recordingCampaignLifecycle lifecycle =>
    catalog.recordingCampaign.any fun campaign => campaign.lifecycleMatches campaignId lifecycle
  | _, _ => false

/-- Every recorded mutation carries a valid result for its own request, in whatever state. -/
def validateMutation (catalog : Catalog) (key : String) (mutation : MutationRecord) :
    Except String Unit := do
  refuse (¬ isOk (validateDigest key) ∨ ¬ isOk (validateDigest mutation.requestSha256))
    "control mutation record is invalid"
  mutation.target.validate
  match mutation.result with
  | none => .error "control mutation outcome is invalid"
  | some result =>
    refuse (result.requestSha256 ≠ mutation.requestSha256 ∨ ¬ isOk (result.validate env))
      "control mutation outcome is invalid"
    refuse (¬ targetMatches env catalog mutation.state mutation.target result.result)
      "control mutation target/result mismatch"

def validateCatalog (moment : Moment) (catalog : Catalog) : Except String Unit := do
  validateHeader catalog
  validateProviderRegistry catalog
  validateAgents env catalog
  validateProviderProfiles env catalog
  validateConfiguration catalog
  validateRecording catalog
  validatePlans moment catalog
  checkEvents 0 catalog.events
  validateRuns env catalog
  checkAll (fun entry : (_ : String) × MutationRecord =>
    validateMutation env catalog entry.1 entry.2) catalog.mutations.entries

/-! ## Committing -/

/-- The catalog in memory and the one the next start would read. -/
structure CatalogStore where
  live : Catalog
  disk : Catalog

open CatalogStore

/-- Read the catalog file back; a catalog that fails its check is not adopted. -/
def CatalogStore.reload (store : CatalogStore) (moment : Moment) : CatalogStore :=
  if validateCatalog env moment store.disk = .ok () then { store with live := store.disk }
    else store

/-- Replace the catalog file and then the catalog in memory. -/
def commitCatalog (moment : Moment) (staged : Catalog) (store : CatalogStore) :
    Bool × CatalogStore :=
  if env.catalogBytes staged > maxCatalogBytes then
    (false, store.reload env moment)
  else
    match moment.commit with
    | .synced => (true, { live := staged, disk := staged })
    | .refused => (false, store.reload env moment)
    | .renamed => (false, reload env { store with disk := staged } moment)

def commitStagedCatalog (moment : Moment) (staged : Catalog) (store : CatalogStore) :
    Bool × CatalogStore :=
  if validateCatalog env moment staged = .ok () then commitCatalog env moment staged store
  else (false, store)

def bindResult (call : ControlCall) (result : ControlResult) : BoundControlResult :=
  ⟨canonicalCallSha256 env call, result⟩

/-- The answer to a call whose key already has a record. -/
def replay (call : ControlCall) (record : MutationRecord) :
    Except BackendFailure BoundControlResult :=
  match decide (record.requestSha256 = canonicalCallSha256 env call), record.state,
    record.result with
  | true, .committed, some result => .ok result
  | _, _, _ => .error .needsReconciliation

/-- The copy a mutation stages: what it builds, with its result recorded. -/
def stage (call : ControlCall) (key : String) (target : MutationTarget) (result : ControlResult)
    (built : Catalog) : Catalog :=
  { built with
    mutations := built.mutations.insert (env.sha256 key)
      { requestSha256 := canonicalCallSha256 env call
        target := target
        state := .committed
        result := some (bindResult env call result) } }

/-- Answer from the record of the key, or build, record and commit. -/
def mutation (moment : Moment) (call : ControlCall) (key : String) (target : MutationTarget)
    (build : Catalog → Except BackendFailure (ControlResult × Catalog)) (store : CatalogStore) :
    Except BackendFailure BoundControlResult × CatalogStore :=
  match store.live.mutations.lookup (env.sha256 key) with
  | some record => (replay env call record, store)
  | none =>
    match build store.live with
    | .error failure => (.error failure, store)
    | .ok (result, built) =>
      if moment.deadlinePassed then (.error .needsReconciliation, store)
      else
        let committed :=
          commitStagedCatalog env moment (stage env call key target result built) store
        if committed.1 then (.ok (bindResult env call result), committed.2)
        else (.error .needsReconciliation, committed.2)

/-! ## What a mutation can leave behind -/

theorem validateCatalog_campaign {env}
    (valid : validateCatalog env moment catalog = .ok ())
    (found : catalog.recordingCampaign = some campaign) : validateCampaign campaign = .ok () := by
  simp only [validateCatalog, seq_eq_ok] at valid
  obtain ⟨-, -, -, -, -, recording, -⟩ := valid
  rw [validateRecording, found] at recording
  exact recording

/-- In a catalog that passes its check every recorded result agrees with the catalog. -/
theorem validateCatalog_mutation {env}
    (valid : validateCatalog env moment catalog = .ok ())
    (found : catalog.mutations.lookup key = some record) :
    ∃ result, record.result = some result ∧
      targetMatches env catalog record.state record.target result.result = true := by
  simp only [validateCatalog, bind_eq_ok] at valid
  obtain ⟨-, -, -, -, -, -, -, -, -, -, -, -, -, -, -, -, -, -, mutations⟩ := valid
  have checked := checkAll_eq_ok.mp mutations ⟨key, record⟩ (AList.mem_lookup_iff.mp found)
  simp only [validateMutation, bind_eq_ok] at checked
  obtain ⟨-, -, -, -, outcome⟩ := checked
  cases answer : record.result with
  | none =>
    rw [answer] at outcome
    cases outcome
  | some result =>
    rw [answer] at outcome
    simp only [bind_eq_ok, refuse_eq_ok, not_not] at outcome
    obtain ⟨-, -, matching⟩ := outcome
    exact ⟨result, rfl, matching⟩

section Invariants

variable {env} {P : Catalog → Prop} {moment : Moment} {store : CatalogStore}

/-- A property of both catalogs of the store. -/
def CatalogStore.Both (P : Catalog → Prop) (store : CatalogStore) : Prop :=
  P store.live ∧ P store.disk

theorem CatalogStore.reload_both (h : store.Both P) : (store.reload env moment).Both P := by
  unfold reload
  by_cases valid : validateCatalog env moment store.disk = .ok ()
  · rw [if_pos valid]
    exact ⟨h.2, h.2⟩
  · rw [if_neg valid]
    exact h

variable {staged : Catalog}

theorem commitCatalog_both (h : store.Both P) (staged_ok : P staged) :
    (commitCatalog env moment staged store).2.Both P := by
  unfold commitCatalog
  by_cases large : env.catalogBytes staged > maxCatalogBytes
  · rw [if_pos large]
    exact reload_both h
  · rw [if_neg large]
    cases moment.commit with
    | synced => exact ⟨staged_ok, staged_ok⟩
    | refused => exact reload_both h
    | renamed => exact reload_both ⟨h.1, staged_ok⟩

theorem commitStagedCatalog_both (h : store.Both P)
    (staged_ok : validateCatalog env moment staged = .ok () → P staged) :
    (commitStagedCatalog env moment staged store).2.Both P := by
  unfold commitStagedCatalog
  by_cases valid : validateCatalog env moment staged = .ok ()
  · rw [if_pos valid]
    exact commitCatalog_both h (staged_ok valid)
  · rw [if_neg valid]
    exact h

theorem commitCatalog_synced (done : (commitCatalog env moment staged store).1 = true) :
    (commitCatalog env moment staged store).2 = ⟨staged, staged⟩ := by
  unfold commitCatalog at done ⊢
  by_cases large : env.catalogBytes staged > maxCatalogBytes
  · rw [if_pos large] at done
    cases done
  · rw [if_neg large] at done ⊢
    cases outcome : moment.commit with
    | synced => rfl
    | refused | renamed => rw [outcome] at done; cases done

/-- A commit that succeeds has checked the staged catalog and left it in both places. -/
theorem commitStagedCatalog_synced (done : (commitStagedCatalog env moment staged store).1 = true) :
    validateCatalog env moment staged = .ok () ∧
      (commitStagedCatalog env moment staged store).2 = ⟨staged, staged⟩ := by
  unfold commitStagedCatalog at done ⊢
  by_cases valid : validateCatalog env moment staged = .ok ()
  · rw [if_pos valid] at done ⊢
    exact ⟨valid, commitCatalog_synced done⟩
  · rw [if_neg valid] at done
    cases done

/-- When both catalogs agree on a projection, they still do after a commit: on the
old value, or on that of the staged catalog, which has passed its check. -/
theorem commitStagedCatalog_project {α : Type} (project : Catalog → α)
    (same : project store.disk = project store.live) :
    let after := (commitStagedCatalog env moment staged store).2
    (project after.live = project store.live ∧ project after.disk = project store.live) ∨
      (validateCatalog env moment staged = .ok () ∧ after = ⟨staged, staged⟩) := by
  have reloaded : project (store.reload env moment).live = project store.live ∧
      project (store.reload env moment).disk = project store.live := by
    unfold reload
    by_cases disk : validateCatalog env moment store.disk = .ok ()
    · rw [if_pos disk]
      exact ⟨same, same⟩
    · rw [if_neg disk]
      exact ⟨rfl, same⟩
  unfold commitStagedCatalog
  by_cases valid : validateCatalog env moment staged = .ok ()
  · rw [if_pos valid]
    unfold commitCatalog
    by_cases large : env.catalogBytes staged > maxCatalogBytes
    · rw [if_pos large]
      exact .inl reloaded
    · rw [if_neg large]
      cases moment.commit with
      | synced => exact .inr ⟨valid, rfl⟩
      | refused => exact .inl reloaded
      | renamed =>
        refine .inr ⟨valid, ?_⟩
        simp only [reload, valid, if_true]
  · rw [if_neg valid]
    exact .inl ⟨rfl, same⟩

variable {call : ControlCall} {key : String} {target : MutationTarget}
  {build : Catalog → Except BackendFailure (ControlResult × Catalog)}

/-- What a mutation can do: answer from the record of its key, fail without a trace,
or bring a checked catalog into both places, whatever it reports. -/
theorem mutation_cases {α : Type} (project : Catalog → α)
    (same : project store.disk = project store.live) :
    let out := mutation env moment call key target build store
    (∃ record, store.live.mutations.lookup (env.sha256 key) = some record ∧
      out = (replay env call record, store)) ∨
    ((∃ failure, out.1 = .error failure) ∧ project out.2.live = project store.live ∧
      project out.2.disk = project store.live) ∨
    (store.live.mutations.lookup (env.sha256 key) = none ∧
      ∃ result built, build store.live = .ok (result, built) ∧
        validateCatalog env moment (stage env call key target result built) = .ok () ∧
        (out.1 = .ok (bindResult env call result) ∨ ∃ failure, out.1 = .error failure) ∧
        out.2 = ⟨stage env call key target result built,
          stage env call key target result built⟩) := by
  unfold mutation
  cases store.live.mutations.lookup (env.sha256 key) with
  | some record => exact .inl ⟨record, rfl, rfl⟩
  | none =>
    refine .inr ?_
    cases built : build store.live with
    | error failure => exact .inl ⟨⟨failure, rfl⟩, rfl, same⟩
    | ok value =>
      obtain ⟨result, next⟩ := value
      dsimp only
      by_cases late : moment.deadlinePassed = true
      · rw [if_pos late]
        exact .inl ⟨⟨_, rfl⟩, rfl, same⟩
      · rw [if_neg late]
        have outcome := @commitStagedCatalog_project env moment store
          (stage env call key target result next) α project same
        by_cases done :
            (commitStagedCatalog env moment (stage env call key target result next) store).1 = true
        · rw [if_pos done]
          obtain ⟨valid, stored⟩ := commitStagedCatalog_synced done
          exact .inr ⟨rfl, result, next, rfl, valid, .inl rfl, stored⟩
        · rw [if_neg done]
          rcases outcome with kept | ⟨valid, stored⟩
          · exact .inl ⟨⟨_, rfl⟩, kept⟩
          · exact .inr ⟨rfl, result, next, rfl, valid, .inr ⟨_, rfl⟩, stored⟩

/-- Both catalogs keep a property that every catalog the mutation may stage has, if
the catalog passes its check. -/
theorem mutation_both (h : store.Both P)
    (staged_ok : ∀ result built, build store.live = .ok (result, built) →
      validateCatalog env moment (stage env call key target result built) = .ok () →
      P (stage env call key target result built)) :
    (mutation env moment call key target build store).2.Both P := by
  unfold mutation
  cases store.live.mutations.lookup (env.sha256 key) with
  | some record => exact h
  | none =>
    cases built : build store.live with
    | error failure => exact h
    | ok value =>
      obtain ⟨result, next⟩ := value
      dsimp only
      by_cases late : moment.deadlinePassed = true
      · rw [if_pos late]
        exact h
      · rw [if_neg late]
        have kept :
            (commitStagedCatalog env moment (stage env call key target result next) store).2.Both
              P :=
          commitStagedCatalog_both h (staged_ok result next built)
        by_cases done :
            (commitStagedCatalog env moment (stage env call key target result next) store).1 = true
        · rw [if_pos done]
          exact kept
        · rw [if_neg done]
          exact kept

/-- When the two catalogs agree on a projection, they still do afterwards, on the old
value or on the staged one. -/
theorem mutation_project {α : Type} (project : Catalog → α)
    (same : project store.disk = project store.live) :
    ∃ value, project (mutation env moment call key target build store).2.live = value ∧
      project (mutation env moment call key target build store).2.disk = value ∧
      (value = project store.live ∨ ∃ result built, build store.live = .ok (result, built) ∧
        value = project (stage env call key target result built)) := by
  rcases mutation_cases project same with ⟨record, _, answered⟩ | ⟨_, live, disk⟩ |
    ⟨_, result, built, done, _, _, stored⟩
  · rw [answered]
    exact ⟨_, rfl, same, .inl rfl⟩
  · exact ⟨_, live, disk, .inl rfl⟩
  · rw [stored]
    exact ⟨_, rfl, rfl, .inr ⟨result, built, done, rfl⟩⟩

/-- A successful mutation is a replay of its record, or what it staged is committed. -/
theorem mutation_ok (success : (mutation env moment call key target build store).1 = .ok bound) :
    (∃ record, store.live.mutations.lookup (env.sha256 key) = some record ∧
      (mutation env moment call key target build store).2 = store) ∨
    (store.live.mutations.lookup (env.sha256 key) = none ∧
      ∃ result built, build store.live = .ok (result, built) ∧
        validateCatalog env moment (stage env call key target result built) = .ok () ∧
        (mutation env moment call key target build store).2 =
          ⟨stage env call key target result built, stage env call key target result built⟩ ∧
        bound = bindResult env call result) := by
  rcases mutation_cases (fun _ => ()) rfl with ⟨record, known, answered⟩ | ⟨⟨_, failed⟩, _⟩ |
    ⟨fresh, result, built, done, valid, reported | ⟨_, failed⟩, stored⟩
  · exact .inl ⟨record, known, by rw [answered]⟩
  · rw [failed] at success
    cases success
  · rw [reported] at success
    exact .inr ⟨fresh, result, built, done, valid, stored, (Except.ok.inj success).symm⟩
  · rw [failed] at success
    cases success

/-- A first mutation that would succeed with its directory synced leaves what it staged in both
places also where only that sync fails. -/
theorem mutation_renamed (fresh : store.live.mutations.lookup (env.sha256 key) = none)
    (renamed : moment.commit ≠ .refused)
    (success : (mutation env { moment with commit := .synced } call key target build store).1 =
      .ok bound) :
    ∃ result built, build store.live = .ok (result, built) ∧
      (mutation env moment call key target build store).2 =
        ⟨stage env call key target result built, stage env call key target result built⟩ := by
  unfold mutation at success ⊢
  simp only [fresh] at success ⊢
  cases built : build store.live with
  | error failure =>
    rw [built] at success
    cases success
  | ok value =>
    obtain ⟨result, next⟩ := value
    refine ⟨result, next, rfl, ?_⟩
    simp only [built] at success ⊢
    split_ifs at success with late done
    rw [if_neg late]
    -- the check and the size limit have passed: only the outcome of the commit is left
    unfold commitStagedCatalog commitCatalog at done ⊢
    split_ifs at done with valid large
    have checked : validateCatalog env moment (stage env call key target result next) = .ok () :=
      valid
    simp only [if_pos checked, if_neg large]
    cases outcome : moment.commit with
    | synced => rfl
    | refused => exact absurd outcome renamed
    | renamed => simp [reload, checked]

end Invariants

end AgentSystemsBenchmark.Control
