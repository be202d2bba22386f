import AgentSystemsBenchmark.Control.RecordingSystem
import AgentSystemsBenchmark.Library.Runs

/-!
# A removed campaign

Removing a whole campaign leaves a tombstone: its state is `removed` and it is not
ready for offline use. The transition table guards its source states one action at
a time, and three actions leave the tombstone: a cancel, the removal of one of its
cassettes, and a seal while every artifact is still there. Apart from those no
sequence of sections, failed commits, crashes and restarts brings the campaign back.
-/

namespace AgentSystemsBenchmark.Control

open Effects Runs

/-- The campaign of this identity is a tombstone. -/
def Tombstone (campaignId : String) (generation : Nat)
    (campaign : Option RecordingCampaignRecord) : Prop :=
  ∃ record, campaign = some record ∧ record.campaignId = campaignId ∧
    record.generation = generation ∧ record.state = .removed ∧ record.offlineReady = false

/-- The lifecycle actions that lead out of a tombstone. -/
def revives (artifactValid : String → Bool) (action : RecordingLifecycleAction)
    (params : RecordingLifecycleParams) (record : RecordingCampaignRecord) : Bool :=
  match action with
  | .cancel => true
  | .remove => params.cassetteSha256.any fun digest =>
      record.coverage.any (RecordingTupleRecord.refersTo digest)
  | .seal => record.coverage.all fun entry =>
      entry.state = .complete ∧ entry.cassetteSha256.any artifactValid
  | _ => false

/-! ## One transition -/

section Transitions

variable {record next : RecordingCampaignRecord} {artifactValid : String → Bool}

/-- What a transition keeps of a tombstone. -/
structure KeepsTombstone (record next : RecordingCampaignRecord) : Prop where
  campaignId : next.campaignId = record.campaignId
  generation : next.generation = record.generation
  state : next.state = .removed
  offlineReady : next.offlineReady = false

theorem KeepsTombstone.refl (removed : record.state = .removed)
    (unready : record.offlineReady = false) : KeepsTombstone record record :=
  ⟨rfl, rfl, removed, unready⟩

theorem KeepsTombstone.tombstone (kept : KeepsTombstone record next) {campaignId : String}
    {generation : Nat} (named : record.campaignId = campaignId)
    (current : record.generation = generation) : Tombstone campaignId generation (some next) :=
  ⟨next, rfl, kept.campaignId.trans named, kept.generation.trans current, kept.state,
    kept.offlineReady⟩

section
variable (removed : record.state = .removed)
include removed

variable {generation : Nat}

theorem retryReset_of_removed :
    retryReset generation record ≠ .ok next := by
  intro ok
  obtain ⟨allowed, -⟩ := guard_eq_ok.mp ok
  simp [removed] at allowed

theorem executeIntent_of_removed :
    executeIntent generation record ≠ .ok next := by
  intro ok
  obtain ⟨allowed, -⟩ := guard_eq_ok.mp ok
  simp [removed, executable] at allowed

theorem executeResult_of_removed {failure : Option ProviderCaptureError} :
    executeResult artifactValid generation failure record ≠ .ok next := by
  intro ok
  obtain ⟨allowed, -⟩ := guard_eq_ok.mp ok
  simp [removed] at allowed

/-- A late checkpoint changes the coverage of a tombstone, nothing else. -/
theorem tupleCheckpoint_of_removed {attemptId : String} {result : ProviderCaptureResult}
    (unready : record.offlineReady = false)
    (ok : tupleCheckpoint attemptId result record = .ok next) : KeepsTombstone record next := by
  unfold tupleCheckpoint at ok
  split at ok
  · cases ok
  · split_ifs at ok
    · cases ok
      exact .refl removed unready
    · split at ok
      · cases ok
      · cases ok
        exact ⟨rfl, rfl, removed, unready⟩

theorem lifecycleTransition_of_removed {digests : List String}
    (unready : record.offlineReady = false)
    (quiet : revives artifactValid action params record = false)
    (ok : lifecycleTransition artifactValid digests action params record = .ok next) :
    KeepsTombstone record next := by
  obtain ⟨_, -, ok⟩ := bind_eq_ok.mp ok
  cases action with
  | cancel => cases quiet
  | reconcile =>
    have same : reconcileCampaign artifactValid record = record := by
      simp [reconcileCampaign, removed]
    have isNext : record = next := same ▸ pure_eq_ok.mp ok
    exact isNext ▸ .refl removed unready
  | offlineDefault =>
    obtain ⟨allowed, -⟩ := guard_eq_ok.mp ok
    simp [unready] at allowed
  | «seal» =>
    obtain ⟨allowed, -⟩ := guard_eq_ok.mp ok
    have invalid : ¬ (record.coverage.all fun entry =>
        entry.state = .complete ∧ entry.cassetteSha256.any artifactValid) = true := by
      simpa [revives] using quiet
    exact absurd (.inl invalid) allowed
  | reopen =>
    obtain ⟨allowed, -⟩ := guard_eq_ok.mp ok
    simp [removed] at allowed
  | remove =>
    obtain ⟨found, ok⟩ := guard_eq_ok.mp ok
    cases cassette : params.cassetteSha256 with
    | some digest =>
      -- the guard wants a reference to the digest, the hypothesis excludes one
      rw [cassette] at found
      have referenced : ¬ (record.coverage.any (RecordingTupleRecord.refersTo digest)) = true := by
        simpa [revives, cassette] using quiet
      exact absurd (by simpa using referenced) found
    | none =>
      rw [cassette] at ok
      cases ok
      exact ⟨rfl, rfl, rfl, rfl⟩
  | execute | retry => cases ok

end

end Transitions

/-! ## Runs -/

/-- The step installs a planned campaign. -/
def System.plans (s : System) : Event → Bool
  | .advance id _ =>
    match s.jobs.lookup id with
    | some (.installing _ _) => true
    | _ => false
  | _ => false

variable (env : Platform)

/-- The step is a lifecycle action that leads out of the tombstone it names. -/
def System.revives (s : System) : Event → Bool
  | .advance id outside =>
    match s.jobs.lookup id, s.store.live.recordingCampaign with
    | some (.committing action params _), some record =>
      record.state = .removed ∧ record.campaignId = params.campaignId ∧
        record.generation = params.expectedGeneration ∧
        Control.revives (s.sees env outside) action params record
    | _, _ => false
  | _ => false

/-- The mutation of a lifecycle call, at the moment its job commits. -/
def System.commit (s : System) (outside : Outside) (action : RecordingLifecycleAction)
    (params : RecordingLifecycleParams) (digests : List String) :
    Except BackendFailure BoundControlResult × CatalogStore :=
  mutation env outside.toMoment (.recordingCampaign action params) params.idempotencyKey
    (lifecycleTarget params.campaignId action.name)
    (onCampaign params.campaignId (lifecycleTransition (s.sees env outside) digests action params))
    s.store

/-- The next section of the job commits the removal of a whole campaign. It answers with
success, or only the directory sync fails and a later call with its key is answered with
success from its record. -/
structure System.CommitsRemoval (s : System) (id : Nat) (outside : Outside)
    (params : RecordingLifecycleParams) : Prop where
  running : s.running = true
  job : ∃ digests, s.jobs.lookup id = some (.committing .remove params digests) ∧
    isOk (s.commit env { outside with commit := .synced } .remove params digests).1 = true
  renamed : outside.commit ≠ .refused
  whole : params.cassetteSha256 = none
  first : s.store.live.mutations.lookup (env.sha256 params.idempotencyKey) = none

variable {env} {s : System}

theorem interruptCampaign_of_removed {record : RecordingCampaignRecord}
    (removed : record.state = .removed) : interruptCampaign record = record := by
  simp [interruptCampaign, removed]

/-- One step keeps a tombstone, unless it plans or leads out of it. -/
theorem System.step_tombstone {campaignId : String} {generation : Nat}
    (h : s.Campaigns (Tombstone campaignId generation)) (unplanned : s.plans event = false)
    (quiet : s.revives env event = false) :
    (s.step env event).Campaigns (Tombstone campaignId generation) := by
  obtain ⟨record, live, named, current, removed, unready⟩ := h.1
  obtain ⟨durable, disk, durableNamed, durableCurrent, durableRemoved, durableUnready⟩ := h.2
  apply System.step_campaigns h
  · rintro id outside job campaign transition found next rfl slot isNext isLive same ok -
    obtain rfl := Option.mem_unique live isLive
    cases job with
    | resetting params =>
      cases isNext
      exact absurd ok (retryReset_of_removed removed)
    | committing action params digests =>
      cases isNext
      obtain ⟨guarded, -⟩ := guard_eq_ok.mp ok
      have generationMatches := not_not.mp guarded
      have leaves : Control.revives (s.sees env outside) action params record = false := by
        simpa [System.revives, slot, live, removed, same, generationMatches] using quiet
      exact (lifecycleTransition_of_removed removed unready leaves ok).tombstone named current
    | intending execution =>
      cases isNext
      exact absurd ok (executeIntent_of_removed removed)
    | checkpointing execution tuple result tuples =>
      cases isNext
      exact (tupleCheckpoint_of_removed removed unready ok).tombstone named current
    | finishing execution failure =>
      cases isNext
      exact absurd ok (executeResult_of_removed removed)
    | _ => cases isNext
  · rintro id outside params campaign rfl slot
    simp [System.plans, slot] at unplanned
  · intro pending
    rw [disk, Option.map_some, interruptCampaign_of_removed durableRemoved]
    exact ⟨_, rfl, durableNamed, durableCurrent, durableRemoved, durableUnready⟩

/-- The committed removal leaves the tombstone in memory and on disk. -/
theorem System.CommitsRemoval.tombstone {id : Nat} {params : RecordingLifecycleParams}
    (h : s.CommitsRemoval env id outside params) :
    (s.step env (.advance id outside)).Campaigns
      (Tombstone params.campaignId params.expectedGeneration) := by
  obtain ⟨digests, slot, success⟩ := h.job
  obtain ⟨bound, answer⟩ := isOk_iff.mp success
  have stepped : (s.step env (.advance id outside)).store =
      (s.commit env outside .remove params digests).2 := by
    simp only [System.step, slot, h.running, if_true]
    exact System.put_store _ _
  obtain ⟨result, built, done, stored⟩ := mutation_renamed h.first h.renamed answer
  obtain ⟨record, next, -, named, ok, -, rfl⟩ := onCampaign_eq_ok done
  obtain ⟨guarded, ok⟩ := guard_eq_ok.mp ok
  have current := not_not.mp guarded
  obtain ⟨_, -, ok⟩ := bind_eq_ok.mp ok
  rw [h.whole] at ok
  cases ok
  have left : Tombstone params.campaignId params.expectedGeneration
      (some { record with
        pendingCassetteRemovals := rememberRemovals digests record.pendingCassetteRemovals
        state := .removed
        offlineReady := false
        unavailableReason := some "campaign-removed" }) :=
    ⟨_, rfl, named, current, rfl, rfl⟩
  have kept : (s.commit env outside .remove params digests).2 = _ := stored
  unfold System.Campaigns
  rw [stepped, kept]
  exact ⟨left, left⟩

/-- After a committed removal of the whole campaign, and as long as no campaign
is planned and no action leads out of the tombstone, the campaign stays removed. -/
theorem removal_is_final {t : System} {id : Nat} {outside : Outside}
    {params : RecordingLifecycleParams} {after : List Event}
    (removal : s.CommitsRemoval env id outside params)
    (run : Run (Guarded (System.step env) fun state event =>
      !state.plans event && !state.revives env event) (s.step env (.advance id outside)) after t) :
    t.Campaigns (Tombstone params.campaignId params.expectedGeneration) := by
  refine Run.invariant (fun before event next h stepped => ?_) run removal.tombstone
  obtain ⟨rfl, allowed⟩ := stepped
  rw [Bool.and_eq_true, Bool.not_eq_true', Bool.not_eq_true'] at allowed
  exact System.step_tombstone h allowed.1 allowed.2

/-- The service of one planned campaign, about to commit its removal. -/
def sampleRemoving : System :=
  System.sample (samplePlanned ++
    [.submit 0 (.recordingCampaign .remove (sampleCall "remove" none)), .advance 0 .calm])

theorem sampleRemoving_commits :
    sampleRemoving.CommitsRemoval Platform.sample 0 .calm (sampleCall "remove" none) := by
  have checked : sampleRemoving.running = true ∧
      sampleRemoving.jobs.lookup 0 = some (.committing .remove (sampleCall "remove" none) []) ∧
      isOk (sampleRemoving.commit Platform.sample .calm .remove (sampleCall "remove" none) []).1 =
        true ∧
      sampleRemoving.store.live.mutations.lookup (Platform.sample.sha256 "remove") = none := by
    decide +kernel
  obtain ⟨running, slot, success, first⟩ := checked
  exact ⟨running, ⟨[], slot, success⟩, nofun, rfl, first⟩

/-- Finish the removal, then ask to reopen the campaign. -/
def sampleReopen : List Event :=
  [.advance 0 .calm, .submit 1 (.recordingCampaign .reopen (sampleCall "reopen" none)),
    .advance 1 .calm]

theorem removal_is_final_sample :
    (sampleReopen.foldl (System.step Platform.sample)
      (sampleRemoving.step Platform.sample (.advance 0 .calm))).Campaigns
        (Tombstone (sampleCall "remove" none).campaignId
          (sampleCall "remove" none).expectedGeneration) :=
  removal_is_final sampleRemoving_commits (Run.of_allows (by decide +kernel))

/-- Finish the removal, cancel the campaign and reopen it. -/
def sampleRevival : List Event :=
  [.advance 0 .calm, .submit 1 (.recordingCampaign .cancel (sampleCall "cancel" none)),
    .advance 1 .calm, .advance 1 .calm,
    .submit 1 (.recordingCampaign .reopen (sampleCall "reopen" none)), .advance 1 .calm]

/-- A cancel turns the tombstone into a cancelled campaign, and a reopen makes that
one executable. -/
theorem not_removal_is_final :
    ¬ ∀ (env : Platform) (runner : String) (s t : System) (before after : List Event) (id : Nat)
      (outside : Outside) (params : RecordingLifecycleParams) (record : RecordingCampaignRecord),
      Run (fun a event b => b = a.step env event) (System.fresh runner) before s →
      s.CommitsRemoval env id outside params → outside.commit = .synced →
      Run (Guarded (System.step env) fun state event => !state.plans event)
        (s.step env (.advance id outside)) after t →
      t.store.live.recordingCampaign = some record → record.campaignId = params.campaignId →
      record.generation = params.expectedGeneration →
      executable record.state = false ∧ record.state ≠ .complete ∧ record.offlineReady = false := by
  intro claim
  have checked : (sampleRevival.foldl (System.step Platform.sample)
      (sampleRemoving.step Platform.sample (.advance 0 .calm))).store.live.recordingCampaign.map
        (fun record => (record.campaignId, record.generation, record.state)) =
      some ((sampleCall "remove" none).campaignId, (sampleCall "remove" none).expectedGeneration,
        .planned) ∧
      allows (System.step Platform.sample) (fun state event => !state.plans event)
        (sampleRemoving.step Platform.sample (.advance 0 .calm)) sampleRevival = true := by
    decide +kernel
  obtain ⟨record, found, fields⟩ := Option.map_eq_some_iff.mp checked.1
  obtain ⟨named, rest⟩ := Prod.mk.inj fields
  obtain ⟨current, state⟩ := Prod.mk.inj rest
  have final := claim Platform.sample "runner-1" sampleRemoving _ _ sampleRevival 0 .calm
    (sampleCall "remove" none) record (Run.foldl _ _ _) sampleRemoving_commits
    rfl (Run.of_allows checked.2) found named current
  rw [state] at final
  exact absurd final.1 (by decide)

end AgentSystemsBenchmark.Control
