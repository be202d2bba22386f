import AgentSystemsBenchmark.Control.Transitions
import AgentSystemsBenchmark.Library.Runs

/-!
# Complete campaigns

The count of covered tuples is checked against the coverage at every commit, the state of
the campaign is not. It becomes `complete` in three places: a seal and the end of an
execution set the count to the number of tuples, which the check then holds them to; a
reconciliation goes by the absence of stale tuples alone.
-/

namespace AgentSystemsBenchmark.Control

open Effects Runs List

/-- A complete campaign has only complete tuples, and the count is the count of those. -/
def RecordingCampaignRecord.Truthful (record : RecordingCampaignRecord) : Prop :=
  record.coveredTupleCount = record.completeCount ∧
    (record.state = .complete → record.coveredTupleCount = record.tupleCount ∧
      ∀ entry ∈ record.coverage, entry.state = .complete)

/-- A tuple is stale or in progress, or all are complete. -/
def RecordingCampaignRecord.Reconcilable (record : RecordingCampaignRecord) : Prop :=
  (∃ entry ∈ record.coverage, entry.state ∈ [.stale, .inProgress]) ∨
    ∀ entry ∈ record.coverage, entry.state = .complete

instance (record : RecordingCampaignRecord) : Decidable record.Reconcilable :=
  inferInstanceAs (Decidable (_ ∨ _))

/-- A reconciliation that would change its campaign finds it reconcilable. -/
def System.reconcilesWhole (s : System) : Event → Bool
  | .advance id _ =>
    match s.jobs.lookup id, s.store.live.recordingCampaign with
    | some (.committing .reconcile params _), some record =>
      record.campaignId = params.campaignId → record.state ∈ [.recording, .needsReconciliation] →
        record.Reconcilable
    | _, _ => true
  | _ => true

/-- What every check of a catalog ensures of its campaign. -/
structure Counted (record : RecordingCampaignRecord) : Prop where
  counted : record.coveredTupleCount = record.completeCount
  sized : record.coverage.length = record.tupleCount

structure Fulfilled (record : RecordingCampaignRecord) : Prop extends Counted record where
  whole : record.state = .complete → record.coveredTupleCount = record.tupleCount

section Counts

variable {env : Platform} {s : System} {outside : Outside} {record next : RecordingCampaignRecord}

theorem Fulfilled.complete (h : Fulfilled record) (complete : record.state = .complete) :
    ∀ entry ∈ record.coverage, entry.state = .complete := by
  have all : record.completeCount = record.coverage.length :=
    h.counted.symm.trans ((h.whole complete).trans h.sized.symm)
  simpa using countP_eq_length.mp all

theorem Counted.of_valid (valid : validateCampaign record = .ok ()) : Counted record := by
  simp only [validateCampaign, seq_eq_ok, refuse_eq_ok, not_or, not_not] at valid
  obtain ⟨-, -, -, sized, -, -, -, counted, -⟩ := valid
  exact ⟨counted, sized⟩

/-- A reconciliation without a stale tuple finds all of them complete. -/
theorem reconcileCampaign_whole (h : Fulfilled record)
    (whole : record.state ∈ [.recording, .needsReconciliation] → record.Reconcilable)
    (complete : (reconcileCampaign artifactValid record).state = .complete) :
    (reconcileCampaign artifactValid record).coveredTupleCount = record.tupleCount := by
  unfold reconcileCampaign at complete ⊢
  split_ifs at complete ⊢ with active
  · dsimp only at complete ⊢
    split at complete
    case isTrue => cases complete
    case isFalse resolved =>
      rw [Bool.not_eq_true, any_eq_false] at resolved
      have all : ∀ entry ∈ record.coverage, entry.state = .complete := by
        refine (whole active).resolve_left ?_
        rintro ⟨entry, member, state⟩
        refine resolved _ (mem_map_of_mem member) ?_
        by_cases active : entry.state = .inProgress
        · simp [active]
        · simpa [active] using state
      have kept : (record.settleInProgress .stale).coverage = record.coverage :=
        (map_congr_left fun entry member => if_neg (by simp [all entry member])).trans
          (map_id _)
      rw [RecordingCampaignRecord.completeCount, kept]
      exact (countP_eq_length.mpr (by simpa using all)).trans h.sized
  · exact h.whole complete

/-- A transition of a covered campaign leaves it complete only with every tuple covered. -/
theorem System.transition_whole {id : Nat} {job : Job} {campaignId : String}
    {transition : RecordingCampaignRecord → Except BackendFailure RecordingCampaignRecord}
    (h : Fulfilled record) (allowed : s.reconcilesWhole (.advance id outside) = true)
    (slot : s.jobs.lookup id = some job) (live : s.store.live.recordingCampaign = some record)
    (isNext : s.transition env outside job = some (campaignId, transition))
    (own : record.campaignId = campaignId) (ok : transition record = .ok next)
    (complete : next.state = .complete) :
    next.coveredTupleCount = next.tupleCount := by
  cases job with
  | resetting | intending =>
    cases isNext
    obtain ⟨_, -, ok⟩ := bind_eq_ok.mp ok
    cases ok
    cases complete
  | committing action params digests =>
    cases isNext
    obtain ⟨_, -, ok⟩ := bind_eq_ok.mp ok
    cases action with
    | reconcile =>
      cases ok
      have kept :
          (reconcileCampaign (s.sees env outside) record).tupleCount = record.tupleCount := by
        unfold reconcileCampaign
        split_ifs <;> rfl
      rw [kept]
      refine reconcileCampaign_whole h ?_ complete
      simp only [reconcilesWhole, slot, live, decide_eq_true_eq] at allowed
      exact allowed own
    | offlineDefault =>
      obtain ⟨_, -, ok⟩ := bind_eq_ok.mp ok
      cases ok
      exact h.whole complete
    | «seal» =>
      obtain ⟨_, -, ok⟩ := bind_eq_ok.mp ok
      cases ok
      rfl
    | remove =>
      obtain ⟨_, -, ok⟩ := bind_eq_ok.mp ok
      unfold removeFromCampaign at ok
      split at ok
      · cases ok
        cases complete
      · split at ok <;> cases ok
        cases complete
    | cancel | reopen =>
      obtain ⟨_, -, ok⟩ := bind_eq_ok.mp ok
      cases ok
      cases complete
    | execute | retry => cases ok
  | checkpointing execution tuple result tuples =>
    cases isNext
    obtain ⟨target, found, ⟨-, rfl⟩ | ⟨incomplete, coverage, -, rfl⟩⟩ := tupleCheckpoint_eq_ok ok
    · exact h.whole complete
    · exact absurd (h.complete complete target (mem_of_find?_eq_some found)) incomplete
  | finishing execution failure =>
    cases isNext
    obtain ⟨_, -, ok⟩ := bind_eq_ok.mp ok
    cases failure with
    | none =>
      cases ok
      rfl
    | some error =>
      cases ok
      dsimp only at complete
      split_ifs at complete
  | _ => cases isNext

theorem Counted.interrupted (h : Counted record) (pending : List String) :
    Counted { interruptCampaign record with pendingCassetteRemovals := pending } := by
  unfold interruptCampaign
  split_ifs
  · exact ⟨rfl, (length_map _).trans h.sized⟩
  · exact ⟨h.counted, h.sized⟩

theorem Fulfilled.interrupted (h : Fulfilled record) (pending : List String) :
    Fulfilled { interruptCampaign record with pendingCassetteRemovals := pending } := by
  refine ⟨h.toCounted.interrupted pending, ?_⟩
  unfold interruptCampaign
  split_ifs
  · rintro ⟨⟩
  · exact h.whole

/-- Campaigns are covered, and those about to be installed are not complete. -/
structure System.Counts (s : System) : Prop where
  campaigns : s.Campaigns fun campaign => ∀ record, campaign = some record → Fulfilled record
  planned : ∀ id params campaign, s.jobs.lookup id = some (.installing params campaign) →
    campaign.state = .planned

theorem System.Continues.planned (continues : s.Continues env outside job left)
    (installs : left = .installing params campaign) : campaign.state = .planned := by
  cases continues with
  | plan prepared =>
    cases installs
    exact (prepareCampaign_planned prepared).1
  | @capture _ tuples =>
    cases tuples with
    | nil => cases installs
    | cons =>
      simp only [nextCapture] at installs
      split_ifs at installs
  | _ => cases installs

variable {event : Event}

theorem System.counted_step
    (h : s.Campaigns fun campaign => ∀ record, campaign = some record → Counted record) :
    (s.step env event).Campaigns fun campaign =>
      ∀ record, campaign = some record → Counted record := by
  apply System.step_campaigns h
  · rintro - - - - - - next - - - - - - valid _ ⟨⟩
    exact .of_valid valid
  · rintro - - - campaign - - valid _ ⟨⟩
    exact .of_valid valid
  · intro pending record found
    obtain ⟨old, held, rfl⟩ := Option.map_eq_some_iff.mp found
    exact (h.2 old held).interrupted pending

theorem System.Counts.step_campaigns (h : s.Counts) (allowed : s.reconcilesWhole event = true) :
    (s.step env event).Campaigns fun campaign =>
      ∀ record, campaign = some record → Fulfilled record := by
  apply System.step_campaigns h.campaigns
  · rintro id outside job campaignId transition record next rfl slot isNext live own ok valid _ ⟨⟩
    exact ⟨.of_valid valid,
      transition_whole (h.campaigns.1 record live) allowed slot live isNext own ok⟩
  · rintro id outside params campaign rfl slot valid _ ⟨⟩
    refine ⟨.of_valid valid, fun complete => ?_⟩
    rw [h.planned id params campaign slot] at complete
    cases complete
  · intro pending record found
    obtain ⟨old, held, rfl⟩ := Option.map_eq_some_iff.mp found
    exact (h.campaigns.2 old held).interrupted pending

theorem System.Counts.step_planned (h : s.Counts) (id : Nat) (params : RecordingCampaignPlanParams)
    (campaign : RecordingCampaignRecord)
    (found : (s.step env event).jobs.lookup id = some (.installing params campaign)) :
    campaign.state = .planned := by
  have old := h.planned id params campaign
  -- a slot is only ever written with what a call starts as or goes on to
  have filled : ∀ slot next, (∀ params campaign, next = some (.installing params campaign) →
      campaign.state = .planned) →
      (s.put slot next).jobs.lookup id = some (.installing params campaign) →
      campaign.state = .planned := by
    intro slot next own found
    rcases System.slot_cases rfl found with ⟨-, goes⟩ | ⟨-, found⟩
    · exact own params campaign goes
    · exact old found
  cases event with
  | submit slot call =>
    simp only [System.step, System.submit] at found
    split_ifs at found
    · cases call with
      | recordingCampaignPlan =>
        refine filled _ _ ?_ found
        rintro _ _ ⟨⟩
      | recordingCampaign action =>
        dsimp only at found
        split_ifs at found
        · refine filled _ _ (fun _ _ goes => ?_) found
          cases action <;> cases goes
        · exact old found
      | _ => exact old found
    · exact old found
  | advance slot outside =>
    simp only [System.step] at found
    split at found
    · split_ifs at found
      · obtain ⟨next, jobs, continues⟩ := System.advance_jobs
        rw [jobs] at found
        exact filled slot next (fun _ _ goes => (continues _ goes).planned rfl) found
      · exact old found
    · exact old found
  | others store flags =>
    simp only [System.step] at found
    split_ifs at found <;> exact old found
  | crash => cases found
  | reopen startup =>
    simp only [System.step] at found
    split_ifs at found
    · exact old found
    · rcases @System.reopen_jobs env s startup with kept | cleared
      · exact old (kept ▸ found)
      · rw [cleared] at found
        cases found

/-- In every catalog a service comes to, the count is the count of the complete tuples; where
each reconciliation finds its campaign reconcilable, a complete campaign is covered whole. -/
theorem completion_truthful (env : Platform) (runner : String) (events : List Event) :
    let t := events.foldl (System.step env) (System.fresh runner)
    (t.Campaigns fun campaign => ∀ record, campaign = some record →
      record.coveredTupleCount = record.completeCount) ∧
    (allows (System.step env) System.reconcilesWhole (System.fresh runner) events = true →
      t.Campaigns fun campaign => ∀ record, campaign = some record → record.Truthful) := by
  intro t
  constructor
  · have counted :
        t.Campaigns fun campaign => ∀ record, campaign = some record → Counted record := by
      refine (Run.foldl (System.step env) _ events).invariant
        (fun before event after h stepped => ?_)
        ⟨nofun, nofun⟩
      rw [stepped]
      exact System.counted_step h
    exact ⟨fun record live => (counted.1 record live).counted,
      fun record disk => (counted.2 record disk).counted⟩
  · intro allowed
    have counts : t.Counts := allows_invariant
      (fun _ _ h allowed => ⟨h.step_campaigns allowed, h.step_planned⟩) allowed
      ⟨⟨nofun, nofun⟩, nofun⟩
    have truthful : ∀ record, Fulfilled record → record.Truthful := fun record covered =>
      ⟨covered.counted, fun complete => ⟨covered.whole complete, covered.complete complete⟩⟩
    exact ⟨fun record live => truthful record (counts.campaigns.1 record live),
      fun record disk => truthful record (counts.campaigns.2 record disk)⟩

end Counts

/-- Plan a campaign of one tuple and capture it. -/
def sampleCompleted : List Event :=
  samplePlanned ++ [.submit 0 (.recordingCampaign .execute (sampleCall "execute" none))] ++
  List.replicate 11 (.advance 0 .captures)

theorem completion_truthful_sample :
    (System.sample sampleCompleted).store.live.recordingCampaign.map (·.state) = some .complete ∧
      (System.sample sampleCompleted).Campaigns fun campaign =>
        ∀ record, campaign = some record → record.Truthful :=
  ⟨by decide +kernel, (completion_truthful .sample _ _).2 (by decide +kernel)⟩

/-- Remove the cassette of the only tuple, then reconcile. -/
def sampleReconciled : List Event :=
  sampleCompleted ++
  [.submit 0
    (.recordingCampaign .remove (sampleCall "remove" (some sampleCassette.cassetteSha256)))] ++
  List.replicate 4 (.advance 0 .calm) ++
  [.submit 0 (.recordingCampaign .reconcile (sampleCall "reconcile" none)), .advance 0 .calm]

/-- The campaign is complete without a single complete tuple. -/
theorem not_completion_truthful :
    (System.sample sampleReconciled).store.live.recordingCampaign.map
      (fun record => (record.state, record.coveredTupleCount, record.tupleCount)) =
        some (.complete, 0, 1) := by
  decide +kernel

end AgentSystemsBenchmark.Control
