import AgentSystemsBenchmark.Control.Recording

/-!
# The recording service as a transition system

Calls on a recording campaign run concurrently: the catalog lock is held for one
mutation or one read at a time, and provider captures and file operations happen
outside it. A job is a call together with how far it has come; a step advances one
job by one such section, delivers a new call, lets another part of the backend
touch the catalog, or stops and reopens the process. Everything the backend does
not decide is an input of the step.
-/

namespace AgentSystemsBenchmark.Control

open Effects AList

/-- How an attempt to write a file ends. -/
inductive WriteOutcome where
  | written
  /-- Nothing was created. -/
  | failed
  /-- The file was created, but writing it failed. -/
  | torn
  deriving DecidableEq

/-- Everything one step takes from outside the backend. -/
structure Outside extends Moment where
  /-- The cassette files that cannot be read. -/
  unreadable : List String
  write : WriteOutcome
  /-- An unlink or a rename goes through. -/
  moves : Bool
  capture : Except ProviderCaptureError ProviderCaptureResult

/-- One execution of a campaign: the call, the key its mutations derive from and
the identity it checks. -/
structure Execution where
  call : ControlCall
  key : String
  expectedGeneration : Nat
  campaignId : String
  deriving DecidableEq

/-- A call in flight. -/
inductive Job where
  | planning (params : RecordingCampaignPlanParams)
  | installing (params : RecordingCampaignPlanParams) (campaign : RecordingCampaignRecord)
  | resetting (params : RecordingLifecycleParams)
  | flagging (params : RecordingLifecycleParams)
  | collecting (params : RecordingLifecycleParams)
  | committing (action : RecordingLifecycleAction) (params : RecordingLifecycleParams)
      (removeDigests : List String)
  | unlinking (digests : List String)
  | admitting (execution : Execution)
  | clearing (execution : Execution)
  | intending (execution : Execution)
  | snapshotting (execution : Execution)
  /-- Inside the capture loop, before the next tuple of the snapshot. -/
  | capturing (execution : Execution) (tuples : List RecordingTupleRecord)
  /-- A provider capture of `tuple` is outstanding. -/
  | awaiting (execution : Execution) (tuple : RecordingTupleRecord)
      (tuples : List RecordingTupleRecord)
  | persisting (execution : Execution) (tuple : RecordingTupleRecord)
      (result : ProviderCaptureResult) (tuples : List RecordingTupleRecord)
  | publishing (execution : Execution) (tuple : RecordingTupleRecord)
      (result : ProviderCaptureResult) (tuples : List RecordingTupleRecord)
  | checkpointing (execution : Execution) (tuple : RecordingTupleRecord)
      (result : ProviderCaptureResult) (tuples : List RecordingTupleRecord)
  | finishing (execution : Execution) (failure : Option ProviderCaptureError)
  deriving DecidableEq

structure System where
  /-- The process is up; otherwise only the disk part of the store counts. -/
  running : Bool
  store : CatalogStore
  /-- The files `<digest>.json` of the cassette directory. -/
  cassettes : Table String
  /-- The files `.<digest>.tmp`. -/
  temporaries : List String
  /-- The cancellation flag of each campaign that was executed. -/
  flags : Table Bool
  jobs : AList fun _ : Nat => Job

/-- A new service on an empty state root. -/
def System.fresh (runnerInstanceId : String) : System where
  running := true
  store := ⟨Catalog.fresh runnerInstanceId, Catalog.fresh runnerInstanceId⟩
  cassettes := ∅
  temporaries := []
  flags := ∅
  jobs := ∅

variable (env : Platform)

/-- The bytes decode to a cassette with this integrity digest. -/
def cassetteArtifactValidBytes (bytes digest : String) : Bool :=
  env.decodeCassette bytes = some digest

def cassetteArtifactValid (cassettes : Table String) (digest : String) : Bool :=
  isOk (validateDigest digest) &&
    (cassettes.lookup digest).any fun bytes => cassetteArtifactValidBytes env bytes digest

/-- What a transition that looks at the cassette directory sees. -/
def System.sees (s : System) (outside : Outside) (digest : String) : Bool :=
  digest ∉ outside.unreadable && cassetteArtifactValid env s.cassettes digest

/-- Leave the slot with the next job of the call, or free it. -/
def System.put (s : System) (id : Nat) : Option Job → System
  | some job => { s with jobs := s.jobs.insert id job }
  | none => { s with jobs := s.jobs.erase id }

/-- Run one mutation under the catalog lock and continue with the job it leads to. -/
def System.mutate (s : System) (outside : Outside) (id : Nat) (call : ControlCall) (key : String)
    (target : MutationTarget) (build : Catalog → Except BackendFailure (ControlResult × Catalog))
    (next : Except BackendFailure BoundControlResult → Option Job) : System :=
  let outcome := mutation env outside.toMoment call key target build s.store
  System.put { s with store := outcome.2 } id (next outcome.1)

/-- Continue only after success. -/
def onSuccess (job : Option Job) : Except BackendFailure BoundControlResult → Option Job
  | .ok _ => job
  | .error _ => none

def lifecycleTarget (campaignId action : String) : MutationTarget :=
  .recordingCampaignLifecycle campaignId action

def Catalog.campaign (catalog : Catalog) (campaignId : String) : Option RecordingCampaignRecord :=
  catalog.recordingCampaign.filter fun record => record.campaignId = campaignId

/-- The digests a removal collects before its mutation. -/
def removeDigests (cassetteSha256 : Option String) (record : RecordingCampaignRecord) :
    List String :=
  match cassetteSha256 with
  | some digest =>
    (record.coverage.filter (RecordingTupleRecord.refersTo digest)).filterMap (·.cassetteSha256)
  | none => record.coverage.filterMap (·.cassetteSha256)

/-! ## One section of one job -/

/-- The job a lifecycle call starts as. -/
def startLifecycle (action : RecordingLifecycleAction) (params : RecordingLifecycleParams) : Job :=
  match action with
  | .execute =>
    .admitting ⟨.recordingCampaign .execute params, params.idempotencyKey,
      params.expectedGeneration, params.campaignId⟩
  | .retry => .resetting params
  | .cancel => .flagging params
  | .remove => .collecting params
  | .reconcile | .offlineDefault | .seal | .reopen => .committing action params []

def retryExecution (params : RecordingLifecycleParams) : Execution :=
  ⟨.recordingCampaign .retry params, params.idempotencyKey ++ ":retry-execute",
    params.expectedGeneration, params.campaignId⟩

/-- The admission read of an execution: only an executable campaign goes on. -/
def admitExecution (execution : Execution) (catalog : Catalog) : Option Job :=
  match catalog.campaign execution.campaignId with
  | none => none
  | some record =>
    if record.generation = execution.expectedGeneration ∧ executable record.state then
      some (.clearing execution)
    else none

/-- Whether a capture result is worth persisting. -/
def ProviderCaptureResult.verified (result : ProviderCaptureResult) : Bool :=
  result.redactionVerified && result.replayVerified && isOk (validateDigest result.cassetteSha256)

/-- The next tuple of the capture loop, after the cancellation flag was read. -/
def nextCapture (execution : Execution) (cancelled : Bool) : List RecordingTupleRecord → Job
  | [] => .finishing execution none
  | tuple :: tuples =>
    if tuple.state = .complete then .capturing execution tuples
    else if cancelled then .finishing execution (some .cancelled)
    else .awaiting execution tuple tuples

def System.persist (s : System) (outside : Outside) (id : Nat) (execution : Execution)
    (tuple : RecordingTupleRecord) (result : ProviderCaptureResult)
    (tuples : List RecordingTupleRecord) : System :=
  let digest := result.cassetteSha256
  if result.cassetteJson = "" ∨ ¬ cassetteArtifactValidBytes env result.cassetteJson digest then
    s.put id (some (.finishing execution (some .verification)))
  else if digest ∈ s.temporaries then
    -- another writer, or a crash, left the temporary file behind
    if s.sees env outside digest then s.put id (some (.checkpointing execution tuple result tuples))
    else s.put id (some (.finishing execution (some .verification)))
  else
    match outside.write with
    | .written =>
      System.put { s with temporaries := digest :: s.temporaries } id
        (some (.publishing execution tuple result tuples))
    | .failed => s.put id (some (.finishing execution (some .verification)))
    | .torn =>
      System.put { s with temporaries := digest :: s.temporaries } id
        (some (.finishing execution (some .verification)))

def System.publish (s : System) (outside : Outside) (id : Nat) (execution : Execution)
    (tuple : RecordingTupleRecord) (result : ProviderCaptureResult)
    (tuples : List RecordingTupleRecord) : System :=
  if outside.moves then
    System.put
      { s with
        cassettes := s.cassettes.insert result.cassetteSha256 result.cassetteJson
        temporaries := s.temporaries.erase result.cassetteSha256 } id
      (some (.checkpointing execution tuple result tuples))
  else s.put id (some (.finishing execution (some .verification)))

/-- Advance a job by one section. -/
def System.advance (s : System) (outside : Outside) (id : Nat) : Job → System
  | .planning params =>
    match prepareCampaign env params s.store.live with
    | .error _ => s.put id none
    | .ok campaign => s.put id (some (.installing params campaign))
  | .installing params campaign =>
    s.mutate env outside id (.recordingCampaignPlan params) params.idempotencyKey
      .recordingCampaignPlan (installCampaign campaign) fun _ => none
  | .resetting params =>
    s.mutate env outside id (.recordingCampaign .retry params)
      (params.idempotencyKey ++ ":retry-reset") (lifecycleTarget params.campaignId "retry_reset")
      (onCampaign params.campaignId (retryReset params.expectedGeneration))
      (onSuccess (some (.admitting (retryExecution params))))
  | .flagging params =>
    let flags :=
      if params.campaignId ∈ s.flags then s.flags.insert params.campaignId true else s.flags
    System.put { s with flags := flags } id (some (.committing .cancel params []))
  | .collecting params =>
    match s.store.live.campaign params.campaignId with
    | none => s.put id none
    | some record =>
      s.put id (some (.committing .remove params (removeDigests params.cassetteSha256 record)))
  | .committing action params digests =>
    s.mutate env outside id (.recordingCampaign action params) params.idempotencyKey
      (lifecycleTarget params.campaignId action.name)
      (onCampaign params.campaignId
        (lifecycleTransition (s.sees env outside) digests action params))
      (onSuccess (if action = .remove then some (.unlinking digests) else none))
  | .unlinking [] => s.put id none
  | .unlinking (digest :: digests) =>
    -- a failed unlink is left to the pending removals of the next start
    let cassettes :=
      if isOk (validateDigest digest) ∧ outside.moves then s.cassettes.erase digest
      else s.cassettes
    System.put { s with cassettes := cassettes } id (some (.unlinking digests))
  | .admitting execution => s.put id (admitExecution execution s.store.live)
  | .clearing execution =>
    System.put { s with flags := s.flags.insert execution.campaignId false } id
      (some (.intending execution))
  | .intending execution =>
    s.mutate env outside id execution.call execution.key
      (lifecycleTarget execution.campaignId "execute_intent")
      (onCampaign execution.campaignId (executeIntent execution.expectedGeneration))
      (onSuccess (some (.snapshotting execution)))
  | .snapshotting execution =>
    s.put id (s.store.live.recordingCampaign.map fun record => .capturing execution record.coverage)
  | .capturing execution tuples =>
    s.put id
      (some (nextCapture execution ((s.flags.lookup execution.campaignId).getD false) tuples))
  | .awaiting execution tuple tuples =>
    match outside.capture with
    | .error error => s.put id (some (.finishing execution (some error)))
    | .ok result =>
      if result.verified then s.put id (some (.persisting execution tuple result tuples))
      else s.put id (some (.finishing execution (some .verification)))
  | .persisting execution tuple result tuples =>
    s.persist env outside id execution tuple result tuples
  | .publishing execution tuple result tuples => s.publish outside id execution tuple result tuples
  | .checkpointing execution tuple result tuples =>
    s.mutate env outside id execution.call (execution.key ++ ":tuple:" ++ tuple.attemptId)
      (lifecycleTarget execution.campaignId "tuple_checkpoint")
      (onCampaign execution.campaignId (tupleCheckpoint tuple.attemptId result))
      fun
      | .ok _ => some (.capturing execution tuples)
      | .error _ => some (.finishing execution (some .verification))
  | .finishing execution failure =>
    s.mutate env outside id execution.call (execution.key ++ ":capture")
      (lifecycleTarget execution.campaignId "execute_result")
      (onCampaign execution.campaignId
        (executeResult (s.sees env outside) execution.expectedGeneration failure))
      fun _ => none

/-! ## Startup -/

/-- The campaign part of startup reconciliation: no capture survives a restart. -/
def interruptCampaign (record : RecordingCampaignRecord) : RecordingCampaignRecord :=
  if record.state = .recording then
    { RecordingCampaignRecord.recount (record.settleInProgress .stale) with
      state := .needsReconciliation
      offlineReady := false
      unavailableReason := some "provider-capture-interrupted" }
  else record

/-- Unlink each digest; the files in `stuck` cannot be unlinked. -/
def unlinkAll (stuck digests : List String) (cassettes : Table String) : Table String :=
  digests.foldl (fun files digest => if digest ∈ stuck then files else files.erase digest) cassettes

def RecordingCampaignRecord.digests (record : RecordingCampaignRecord) : List String :=
  record.coverage.filterMap (·.cassetteSha256)

/-- Unlink up to the first file that cannot be unlinked; whether all went. -/
def unlinkUntil (stuck : List String) : List String → Table String → Bool × Table String
  | [], cassettes => (true, cassettes)
  | digest :: digests, cassettes =>
    if digest ∈ stuck then (false, cassettes)
    else unlinkUntil stuck digests (cassettes.erase digest)

/-- Finish the removals a crash interrupted. The tombstone of a removed campaign
loses all its files; a pending removal skips digests the campaign refers to again. -/
def cleanupRemovedCampaignArtifacts (stuck : List String)
    (campaign : Option RecordingCampaignRecord) (cassettes : Table String) :
    Bool × Option RecordingCampaignRecord × Table String :=
  match campaign with
  | none => (true, none, cassettes)
  | some record =>
    let tombstone :=
      if record.state = .removed then unlinkUntil stuck record.digests cassettes
      else (true, cassettes)
    if tombstone.1 then
      let dead := record.pendingCassetteRemovals.filter fun digest => digest ∉ record.digests
      let pending := dead.filter fun digest => digest ∈ stuck
      (pending = [], some { record with pendingCassetteRemovals := pending },
        unlinkAll stuck dead tombstone.2)
    else (false, some record, tombstone.2)

/-- What a start takes from outside, with the rest of startup reconciliation. -/
structure Startup extends Moment where
  /-- Files that cannot be unlinked. -/
  stuck : List String
  /-- The catalog after the reconciliation of everything but the campaign. -/
  reconcile : Catalog → Catalog

/-- Read the catalog, reconcile it, clean up and write it back unchecked. -/
def System.reopen (s : System) (startup : Startup) : System :=
  if validateCatalog env startup.toMoment s.store.disk = .ok () then
    let interrupted := s.store.disk.recordingCampaign.map interruptCampaign
    let cleaned := cleanupRemovedCampaignArtifacts startup.stuck interrupted s.cassettes
    let opened := { startup.reconcile s.store.disk with recordingCampaign := cleaned.2.1 }
    let swept := { s with cassettes := cleaned.2.2, flags := ∅, jobs := ∅ }
    if ¬ cleaned.1 ∨ env.catalogBytes opened > maxCatalogBytes then swept
    else
      match startup.commit with
      | .synced =>
        { swept with running := true, store := ⟨opened, opened⟩ }
      | .refused => swept
      | .renamed => { swept with store := { s.store with disk := opened } }
  else s

/-! ## Steps -/

inductive Event where
  /-- A call arrives and is given a free slot. -/
  | submit (id : Nat) (call : ControlCall)
  /-- A job runs its next section. -/
  | advance (id : Nat) (outside : Outside)
  /-- Another operation of the backend, which leaves the campaign alone. -/
  | others (store : CatalogStore) (flags : Table Bool)
  | crash
  | reopen (startup : Startup)

def System.submit (s : System) (id : Nat) (call : ControlCall) : System :=
  if s.running ∧ id ∉ s.jobs then
    match call with
    | .recordingCampaignPlan params => s.put id (some (.planning params))
    | .recordingCampaign action params =>
      if params.runnerInstanceId = s.store.live.runnerInstanceId then
        s.put id (some (startLifecycle action params))
      else s
    | _ => s
  else s

/-- Both catalogs keep a campaign the store already had: a commit moves the live
one to disk, a failed commit may bring the one on disk back. -/
def CatalogStore.sameCampaigns (before after : CatalogStore) : Bool :=
  let campaigns := [before.live.recordingCampaign, before.disk.recordingCampaign]
  after.live.recordingCampaign ∈ campaigns ∧ after.disk.recordingCampaign ∈ campaigns

def System.step (s : System) : Event → System
  | .submit id call => s.submit id call
  | .advance id outside =>
    match s.jobs.lookup id with
    | some job => if s.running then s.advance env outside id job else s
    | none => s
  | .others store flags =>
    if s.running ∧ s.store.sameCampaigns store then { s with store := store, flags := flags } else s
  | .crash => { s with running := false, flags := ∅, jobs := ∅ }
  | .reopen startup => if s.running then s else s.reopen env startup

open Control.System

/-! ## What a step can do to the campaign -/

/-- The transition a job applies in its next section, with the campaign it names. -/
def System.transition (s : System) (outside : Outside) :
    Job → Option
      (String × (RecordingCampaignRecord → Except BackendFailure RecordingCampaignRecord))
  | .resetting params => some (params.campaignId, retryReset params.expectedGeneration)
  | .committing action params digests =>
    some (params.campaignId, lifecycleTransition (s.sees env outside) digests action params)
  | .intending execution =>
    some (execution.campaignId, executeIntent execution.expectedGeneration)
  | .checkpointing execution tuple result _ =>
    some (execution.campaignId, tupleCheckpoint tuple.attemptId result)
  | .finishing execution failure =>
    some (execution.campaignId,
      executeResult (s.sees env outside) execution.expectedGeneration failure)
  | _ => none

/-- A property of the campaign in both catalogs. -/
def System.Campaigns (P : Option RecordingCampaignRecord → Prop) (s : System) : Prop :=
  s.store.Both fun catalog => P catalog.recordingCampaign

section Campaigns

variable {env} {P : Option RecordingCampaignRecord → Prop} {s : System} {outside : Outside}

@[simp] theorem System.put_store (id : Nat) (job : Option Job) :
    (s.put id job).store = s.store := by
  cases job <;> rfl

theorem System.put_campaigns {id : Nat} : (s.put id job).Campaigns P ↔ s.Campaigns P := by
  rw [Campaigns, put_store, Campaigns]

theorem onCampaign_eq_ok {campaignId : String}
    {transition : RecordingCampaignRecord → Except BackendFailure RecordingCampaignRecord}
    {catalog built : Catalog} {result : ControlResult}
    (h : onCampaign campaignId transition catalog = .ok (result, built)) :
    ∃ record next, catalog.recordingCampaign = some record ∧ record.campaignId = campaignId ∧
      transition record = .ok next ∧
      result = .recordingCampaignLifecycle (lifecycleProjection catalog.runnerInstanceId next) ∧
      built = { catalog with recordingCampaign := some next } := by
  unfold onCampaign at h
  cases found : catalog.recordingCampaign with
  | none => rw [found] at h; cases h
  | some record =>
    rw [found] at h
    dsimp only at h
    by_cases named : record.campaignId = campaignId
    · rw [if_neg (not_not_intro named)] at h
      obtain ⟨next, moved, same⟩ := bind_eq_ok.mp h
      cases same
      exact ⟨record, next, rfl, named, moved, rfl, rfl⟩
    · rw [if_pos named] at h
      cases h

theorem System.mutate_campaigns {id : Nat} (h : s.Campaigns P)
    (built_ok : ∀ result built, build s.store.live = .ok (result, built) →
      (∀ campaign, built.recordingCampaign = some campaign → validateCampaign campaign = .ok ()) →
      P built.recordingCampaign) :
    (s.mutate env outside id call key target build next).Campaigns P := by
  apply put_campaigns.mpr
  apply mutation_both h
  intro result built done valid
  exact built_ok result built done fun campaign found => validateCatalog_campaign valid found

/-- A section of a job keeps a property of the campaign that its transition, or the
campaign it installs, has. -/
theorem System.advance_campaigns {id : Nat} (h : s.Campaigns P)
    (moved : ∀ campaignId transition record next,
      s.transition env outside job = some (campaignId, transition) →
      s.store.live.recordingCampaign = some record → record.campaignId = campaignId →
      transition record = .ok next → validateCampaign next = .ok () → P (some next))
    (installed : ∀ params campaign, job = .installing params campaign →
      validateCampaign campaign = .ok () → P (some campaign)) :
    (s.advance env outside id job).Campaigns P := by
  -- the builders of all campaign mutations have one shape
  have named : ∀ campaignId transition,
      s.transition env outside job = some (campaignId, transition) →
      ∀ result built, onCampaign campaignId transition s.store.live = .ok (result, built) →
        (∀ campaign, built.recordingCampaign = some campaign → validateCampaign campaign = .ok ()) →
        P built.recordingCampaign := by
    intro campaignId transition isNext result built done valid
    obtain ⟨record, next, found, same, ok, -, rfl⟩ := onCampaign_eq_ok done
    exact moved campaignId transition record next isNext found same ok (valid next rfl)
  cases job with
  | planning params =>
    simp only [advance]
    cases prepareCampaign env params s.store.live <;> exact h
  | installing params campaign =>
    apply mutate_campaigns h
    intro result built done valid
    cases done
    exact installed params campaign rfl (valid campaign rfl)
  | resetting | committing | intending | checkpointing | finishing =>
    exact mutate_campaigns h (named _ _ rfl)
  | flagging | clearing | capturing => exact h
  | collecting params =>
    simp only [advance]
    cases s.store.live.campaign params.campaignId <;> exact h
  | unlinking digests =>
    cases digests with
    | nil => exact h
    | cons digest digests => exact h
  | admitting | snapshotting => exact put_campaigns.mpr h
  | awaiting execution tuple tuples =>
    simp only [advance]
    cases outside.capture with
    | error error => exact h
    | ok result =>
      dsimp only
      by_cases verified : result.verified = true
      · rw [if_pos verified]; exact h
      · rw [if_neg verified]; exact h
  | persisting execution tuple result tuples =>
    show (s.persist env outside id execution tuple result tuples).Campaigns P
    unfold persist
    dsimp only
    split_ifs
    · exact h
    · exact h
    · exact h
    · cases outside.write <;> exact h
  | publishing execution tuple result tuples =>
    show (s.publish outside id execution tuple result tuples).Campaigns P
    unfold publish
    by_cases moves : outside.moves = true
    · rw [if_pos moves]; exact h
    · rw [if_neg moves]; exact h

/-- Startup cleanup changes nothing of the record but its pending removals. -/
theorem cleanupRemovedCampaignArtifacts_campaign (stuck : List String)
    (campaign : Option RecordingCampaignRecord) (cassettes : Table String) :
    ∃ pending, (cleanupRemovedCampaignArtifacts stuck campaign cassettes).2.1 =
      campaign.map fun record => { record with pendingCassetteRemovals := pending } := by
  cases campaign with
  | none => exact ⟨[], rfl⟩
  | some record =>
    simp only [cleanupRemovedCampaignArtifacts]
    generalize (if record.state = .removed then unlinkUntil stuck record.digests cassettes
      else (true, cassettes)) = tombstone
    by_cases swept : tombstone.1 = true
    · rw [if_pos swept]
      exact ⟨_, rfl⟩
    · rw [if_neg swept]
      exact ⟨record.pendingCassetteRemovals, rfl⟩

theorem System.reopen_campaigns (h : s.Campaigns P)
    (interrupted : ∀ pending, P (s.store.disk.recordingCampaign.map fun record =>
      { interruptCampaign record with pendingCassetteRemovals := pending })) :
    (s.reopen env startup).Campaigns P := by
  obtain ⟨pending, cleaned⟩ := cleanupRemovedCampaignArtifacts_campaign startup.stuck
    (s.store.disk.recordingCampaign.map interruptCampaign) s.cassettes
  have opened := interrupted pending
  rw [Option.map_map] at cleaned
  unfold reopen
  split_ifs
  · dsimp only
    split_ifs
    · exact h
    · cases startup.commit with
      | synced => exact ⟨cleaned ▸ opened, cleaned ▸ opened⟩
      | refused => exact h
      | renamed => exact ⟨h.1, cleaned ▸ opened⟩
  · exact h

/-- A property of the campaign survives a step if the transition of the job that
runs, an installation and the interruption at startup keep it. -/
theorem System.step_campaigns (h : s.Campaigns P)
    (moved : ∀ id outside job campaignId transition record next,
      event = .advance id outside → s.jobs.lookup id = some job →
      s.transition env outside job = some (campaignId, transition) →
      s.store.live.recordingCampaign = some record → record.campaignId = campaignId →
      transition record = .ok next → validateCampaign next = .ok () → P (some next))
    (installed : ∀ id outside params campaign, event = .advance id outside →
      s.jobs.lookup id = some (.installing params campaign) →
      validateCampaign campaign = .ok () → P (some campaign))
    (interrupted : ∀ pending, P (s.store.disk.recordingCampaign.map fun record =>
      { interruptCampaign record with pendingCassetteRemovals := pending })) :
    (s.step env event).Campaigns P := by
  cases event with
  | submit id call =>
    simp only [step, submit]
    split_ifs
    · cases call with
      | recordingCampaign action params =>
        dsimp only
        split_ifs <;> exact h
      | _ => exact h
    · exact h
  | advance id outside =>
    simp only [step]
    cases slot : s.jobs.lookup id with
    | none => exact h
    | some job =>
      dsimp only
      split_ifs
      · apply advance_campaigns h
        · intro campaignId transition record next isNext
          exact moved id outside job campaignId transition record next rfl slot isNext
        · rintro params campaign rfl
          exact installed id outside params campaign rfl slot
      · exact h
  | others store flags =>
    simp only [step]
    split_ifs with same
    · have kept : store.live.recordingCampaign ∈
          [s.store.live.recordingCampaign, s.store.disk.recordingCampaign] ∧
          store.disk.recordingCampaign ∈
          [s.store.live.recordingCampaign, s.store.disk.recordingCampaign] := by
        simpa [CatalogStore.sameCampaigns] using same.2
      have old : ∀ campaign ∈ [s.store.live.recordingCampaign, s.store.disk.recordingCampaign],
          P campaign := by
        intro campaign member
        rcases List.mem_pair.mp member with rfl | rfl
        · exact h.1
        · exact h.2
      exact ⟨old _ kept.1, old _ kept.2⟩
    · exact h
  | crash => exact h
  | reopen startup =>
    simp only [step]
    split_ifs
    · exact h
    · exact reopen_campaigns h interrupted

end Campaigns

/-! ## Where a job goes next -/

/-- Some call in flight has the property. -/
def System.busy (s : System) (p : Job → Bool) : Bool := s.jobs.entries.any fun entry => p entry.2

/-- The sections a job may go on to. -/
inductive System.Continues (s : System) (outside : Outside) : Job → Job → Prop where
  | plan {params} {campaign} :
      prepareCampaign env params s.store.live = .ok campaign →
      s.Continues outside (.planning params) (.installing params campaign)
  | reset {params} :
      s.Continues outside (.resetting params) (.admitting (retryExecution params))
  | flag {params} :
      s.Continues outside (.flagging params) (.committing .cancel params [])
  | collect {params} {record} :
      s.store.live.campaign params.campaignId = some record →
      s.Continues outside (.collecting params)
        (.committing .remove params (removeDigests params.cassetteSha256 record))
  | remove {params} {digests} :
      s.Continues outside (.committing .remove params digests) (.unlinking digests)
  | unlink {digest} {digests} :
      s.Continues outside (.unlinking (digest :: digests)) (.unlinking digests)
  | accept {execution} :
      s.Continues outside (.admitting execution) (.clearing execution)
  | clear {execution} :
      s.Continues outside (.clearing execution) (.intending execution)
  | intend {execution} :
      s.Continues outside (.intending execution) (.snapshotting execution)
  | snapshot {execution} {record} :
      s.store.live.recordingCampaign = some record →
      s.Continues outside (.snapshotting execution) (.capturing execution record.coverage)
  | capture {execution} {tuples} :
      s.Continues outside (.capturing execution tuples)
        (nextCapture execution ((s.flags.lookup execution.campaignId).getD false) tuples)
  | captured {execution} {tuple}
      {result} {tuples} :
      result.verified = true →
      s.Continues outside (.awaiting execution tuple tuples)
        (.persisting execution tuple result tuples)
  | persisted {execution} {tuple}
      {result} {tuples} :
      s.Continues outside (.persisting execution tuple result tuples)
        (.publishing execution tuple result tuples)
  | present {execution} {tuple}
      {result} {tuples} :
      s.Continues outside (.persisting execution tuple result tuples)
        (.checkpointing execution tuple result tuples)
  | publish {execution} {tuple}
      {result} {tuples} :
      s.Continues outside (.publishing execution tuple result tuples)
        (.checkpointing execution tuple result tuples)
  | checkpoint {execution} {tuple}
      {result} {tuples} :
      s.Continues outside (.checkpointing execution tuple result tuples)
        (.capturing execution tuples)
  | fail {job} {execution} {failure} :
      s.Continues outside job (.finishing execution (some failure))

section Jobs

variable {env} {s t : System} {outside : Outside} {id other : Nat} {job : Job} {next : Option Job}

theorem System.not_busy (quiet : (!s.busy p) = true) (found : s.jobs.lookup id = some job) :
    p job = false := by
  simp only [busy, Bool.not_eq_true', List.any_eq_false] at quiet
  have member := mem_lookup_iff.mp found
  simpa using quiet _ member

theorem System.put_lookup_self : (s.put id next).jobs.lookup id = next := by
  cases next with
  | none => exact lookup_erase ..
  | some job => exact lookup_insert ..

theorem System.put_lookup_ne (h : other ≠ id) :
    (s.put id next).jobs.lookup other = s.jobs.lookup other := by
  cases next with
  | none => exact AList.lookup_erase_ne h
  | some job => exact lookup_insert_ne h

/-- What a slot holds after one slot has been written. -/
theorem System.slot_cases (jobs : t.jobs = (s.put id next).jobs)
    (found : t.jobs.lookup other = some job) :
    (other = id ∧ next = some job) ∨ (other ≠ id ∧ s.jobs.lookup other = some job) := by
  rw [jobs] at found
  by_cases own : other = id
  · rw [own, put_lookup_self] at found
    exact .inl ⟨own, found⟩
  · rw [put_lookup_ne own] at found
    exact .inr ⟨own, found⟩

theorem System.put_jobs (jobs : t.jobs = s.jobs) :
    (t.put id next).jobs = (s.put id next).jobs := by
  cases next with
  | none => exact congrArg (AList.erase id) jobs
  | some job => exact congrArg (AList.insert id job) jobs

theorem System.put_cassettes : (s.put id next).cassettes = s.cassettes := by
  cases next <;> rfl

theorem System.mutate_jobs {call : ControlCall} {key : String} {target : MutationTarget}
    {build : Catalog → Except BackendFailure (ControlResult × Catalog)}
    {next : Except BackendFailure BoundControlResult → Option Job} :
    (s.mutate env outside id call key target build next).jobs = (s.put id (next
      (mutation env outside.toMoment call key target build s.store).1)).jobs ∧
    (s.mutate env outside id call key target build next).cassettes = s.cassettes := by
  simp only [mutate]
  generalize next (mutation env outside.toMoment call key target build s.store).1 = left
  cases left <;> exact ⟨rfl, rfl⟩

theorem onSuccess_eq_some (goes : onSuccess left answer = some job) : left = some job := by
  cases answer with
  | error failure => cases goes
  | ok bound => exact goes

theorem admitExecution_eq_some (goes : admitExecution execution catalog = some left) :
    left = .clearing execution := by
  unfold admitExecution at goes
  split at goes
  · cases goes
  · split_ifs at goes
    exact (Option.some.inj goes).symm

/-- A step of a job changes its own slot only. -/
theorem System.advance_jobs :
    ∃ next, (s.advance env outside id job).jobs = (s.put id next).jobs ∧
      ∀ left, next = some left → s.Continues env outside job left := by
  have ends : ∃ next, (s.put id none).jobs = (s.put id next).jobs ∧
      ∀ left, next = some left → s.Continues env outside job left :=
    ⟨none, rfl, by rintro left ⟨⟩⟩
  have goesOn : ∀ {t : System} {left : Job}, t.jobs = s.jobs →
      s.Continues env outside job left →
      ∃ next, (t.put id (some left)).jobs = (s.put id next).jobs ∧
        ∀ left, next = some left → s.Continues env outside job left := by
    intro t left jobs continues
    refine ⟨some left, put_jobs jobs, ?_⟩
    rintro after ⟨⟩
    exact continues
  cases job with
  | planning params =>
    simp only [advance]
    cases prepared : prepareCampaign env params s.store.live with
    | error failure => exact ends
    | ok campaign => exact goesOn rfl (.plan prepared)
  | installing | finishing => exact ⟨_, mutate_jobs.1, by rintro left ⟨⟩⟩
  | resetting params =>
    refine ⟨_, mutate_jobs.1, fun left goes => ?_⟩
    obtain rfl := Option.some.inj (onSuccess_eq_some goes)
    exact .reset
  | flagging params => exact goesOn rfl .flag
  | collecting params =>
    simp only [advance]
    cases found : s.store.live.campaign params.campaignId with
    | none => exact ends
    | some record => exact goesOn rfl (.collect found)
  | committing action params digests =>
    refine ⟨_, mutate_jobs.1, fun left goes => ?_⟩
    have continued := onSuccess_eq_some goes
    by_cases removing : action = .remove
    · subst removing
      cases continued
      exact .remove
    · rw [if_neg removing] at continued
      cases continued
  | unlinking digests =>
    cases digests with
    | nil => exact ends
    | cons digest digests => exact goesOn rfl .unlink
  | admitting execution =>
    refine ⟨_, rfl, fun left goes => ?_⟩
    obtain rfl := admitExecution_eq_some goes
    exact .accept
  | clearing execution => exact goesOn rfl .clear
  | intending execution =>
    refine ⟨_, mutate_jobs.1, fun left goes => ?_⟩
    obtain rfl := Option.some.inj (onSuccess_eq_some goes)
    exact .intend
  | snapshotting execution =>
    refine ⟨_, rfl, fun left goes => ?_⟩
    obtain ⟨record, live, rfl⟩ := Option.map_eq_some_iff.mp goes
    exact .snapshot live
  | capturing execution tuples => exact goesOn rfl .capture
  | awaiting execution tuple tuples =>
    simp only [advance]
    cases outside.capture with
    | error error => exact goesOn rfl .fail
    | ok result =>
      dsimp only
      by_cases verified : result.verified = true
      · rw [if_pos verified]
        exact goesOn rfl (.captured verified)
      · rw [if_neg verified]
        exact goesOn rfl .fail
  | persisting execution tuple result tuples =>
    simp only [advance, persist]
    split_ifs
    · exact goesOn rfl .fail
    · exact goesOn rfl .present
    · exact goesOn rfl .fail
    · cases outside.write with
      | written => exact goesOn rfl .persisted
      | failed => exact goesOn rfl .fail
      | torn => exact goesOn rfl .fail
  | publishing execution tuple result tuples =>
    simp only [advance, publish]
    split_ifs
    · exact goesOn rfl .publish
    · exact goesOn rfl .fail
  | checkpointing execution tuple result tuples =>
    refine ⟨_, mutate_jobs.1, fun left goes => ?_⟩
    split at goes
    · cases goes
      exact .checkpoint
    · cases goes
      exact .fail

theorem System.reopen_jobs :
    (s.reopen env startup).jobs = s.jobs ∨ (s.reopen env startup).jobs = ∅ := by
  unfold reopen
  dsimp only
  split_ifs
  · exact .inr rfl
  · cases startup.commit <;> exact .inr rfl
  · exact .inl rfl

end Jobs

/-! ## A small service -/

/-- Nothing outside fails, except that no capture is available. -/
def Outside.calm : Outside where
  validatePlan _ := .ok ()
  deadlinePassed := false
  commit := .synced
  unreadable := []
  write := .written
  moves := true
  capture := .error .unavailable

def sampleConfiguration : ConfigurationApplyParams where
  idempotencyKey := "setup"
  expectedGeneration := 1
  selection :=
    { agentIds := ["codex"]
      providerId := "openai"
      modelId := openaiModel
      authMethod := .credentialReference
      credentialReferenceSha256 := some (toyDigest "credential") }

def samplePlan : RecordingCampaignPlanParams where
  idempotencyKey := "plan"
  expectedGeneration := 2
  runnerInstanceId := "runner-1"
  providerId := "openai"
  modelId := openaiModel
  agentIds := ["codex"]
  workloadIds := ["original.bug-fix"]

/-- A lifecycle call on the campaign `samplePlan` plans. -/
def sampleCall (key : String) (cassetteSha256 : Option String) : RecordingLifecycleParams where
  idempotencyKey := key
  expectedGeneration := 2
  runnerInstanceId := "runner-1"
  campaignId := "campaign-57b578dc0000000000000000"
  cassetteSha256 := cassetteSha256

/-- Configure a new service and plan a campaign of one tuple. -/
def samplePlanned : List Event :=
  [.others (configurationApply Platform.sample Outside.calm.toMoment sampleConfiguration
      (fresh "runner-1").store).2 ∅,
   .submit 0 (.recordingCampaignPlan samplePlan), .advance 0 .calm, .advance 0 .calm]

/-- A cassette that is verified and decodes to its own digest. -/
def sampleCassette : ProviderCaptureResult where
  cassetteSha256 := "abcdef0123456789abcdef0123456789abcdef0123456789abcdef0123456789"
  cassetteJson := "abcdef0123456789abcdef0123456789abcdef0123456789abcdef0123456789"
  redactionVerified := true
  replayVerified := true

/-- Nothing outside fails, and every capture yields the same cassette. -/
def Outside.captures : Outside := { Outside.calm with capture := .ok sampleCassette }

/-- The state a new service reaches by these events. -/
def System.sample (events : List Event) : System :=
  events.foldl (step Platform.sample) (fresh "runner-1")

end AgentSystemsBenchmark.Control
