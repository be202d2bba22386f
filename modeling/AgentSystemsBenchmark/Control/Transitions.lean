import AgentSystemsBenchmark.Control.RecordingSystem

/-!
# What a lifecycle transition does to the tuples

Most transitions only move tuples away from completion; a checkpoint brings in one
complete tuple and a seal vouches for all of them.
-/

namespace AgentSystemsBenchmark.Control

open Effects List RecordingTupleRecord

/-! ## What the tuples of a campaign refer to -/

/-- Every complete tuple of the campaign, unless it is removed, refers to a digest in `Q`. -/
def RecordingCampaignRecord.Refers (Q : String → Prop) (record : RecordingCampaignRecord) : Prop :=
  record.state ≠ .removed → ∀ entry ∈ record.coverage, ∀ digest,
    entry.state = .complete → entry.cassetteSha256 = some digest → Q digest

/-- A campaign is ready for offline use only with a digest on every tuple. -/
def RecordingCampaignRecord.Ready (record : RecordingCampaignRecord) : Prop :=
  record.offlineReady = true → record.state = .complete ∧
    ∀ entry ∈ record.coverage, entry.state = .complete ∧ entry.cassetteSha256.isSome = true

section Transitions

variable {Q : String → Prop} {record next : RecordingCampaignRecord} {artifactValid : String → Bool}

/-- The transition brings in no complete tuple, leads out of no removal and makes
nothing ready without its digests. -/
structure Moves (record next : RecordingCampaignRecord) : Prop where
  removed : record.state = .removed → next.state = .removed
  old : ∀ entry ∈ next.coverage, entry.state = .complete → entry ∈ record.coverage
  ready : record.Ready → next.Ready

theorem Moves.refers (moves : Moves record next) (h : record.Refers Q) : next.Refers Q := by
  intro kept entry member digest complete refers
  have present : record.state ≠ .removed := fun gone => kept (moves.removed gone)
  exact h present entry (moves.old entry member complete) digest complete refers

theorem RecordingCampaignRecord.Ready.of_unready (h : next.offlineReady = false) : next.Ready := by
  intro ready
  rw [h] at ready
  cases ready

variable {entry : RecordingTupleRecord}

theorem mem_mapIncomplete (incomplete : ∀ entry, (change entry).state ≠ .complete)
    (member : entry ∈ (record.mapIncomplete change).coverage) (complete : entry.state = .complete) :
    entry ∈ record.coverage := by
  obtain ⟨source, old, rfl⟩ := mem_map.mp member
  by_cases done : source.state = .complete
  · rw [if_pos done]
    exact old
  · rw [if_neg done] at complete
    exact absurd complete (incomplete source)

theorem mem_settleInProgress {state : TupleState} (incomplete : state ≠ .complete)
    (member : entry ∈ (record.settleInProgress state).coverage)
    (complete : entry.state = .complete) : entry ∈ record.coverage := by
  obtain ⟨source, old, rfl⟩ := mem_map.mp member
  by_cases active : source.state = .inProgress
  · rw [if_pos active] at complete
    exact absurd complete incomplete
  · rw [if_neg active]
    exact old

/-- The first match is the only element that changes. -/
theorem updateFirst_eq_some {α : Type} {p : α → Bool} {change : α → α} {xs ys : List α}
    (updated : updateFirst p change xs = some ys) : ∃ before x after,
      xs = before ++ x :: after ∧ (∀ y ∈ before, p y = false) ∧ p x = true ∧
        ys = before ++ change x :: after := by
  induction xs generalizing ys with
  | nil => cases updated
  | cons x xs ih =>
    rw [updateFirst] at updated
    by_cases hit : p x = true
    · rw [if_pos hit] at updated
      exact ⟨[], x, xs, rfl, nofun, hit, (Option.some.inj updated).symm⟩
    · rw [if_neg hit] at updated
      obtain ⟨zs, rest, rfl⟩ := Option.map_eq_some_iff.mp updated
      obtain ⟨before, y, after, rfl, missed, hit', rfl⟩ := ih rest
      exact ⟨x :: before, y, after, rfl, forall_mem_cons.mpr ⟨by simpa using hit, missed⟩,
        hit', rfl⟩

theorem mem_of_updateFirst {α : Type} {p : α → Bool} {change : α → α} {xs ys : List α}
    (updated : updateFirst p change xs = some ys) {y : α} (member : y ∈ ys) :
    y ∈ xs ∨ ∃ x, y = change x := by
  obtain ⟨before, x, after, rfl, -, -, rfl⟩ := updateFirst_eq_some updated
  simp only [mem_append, mem_cons] at member ⊢
  rcases member with old | rfl | old
  · exact .inl (.inl old)
  · exact .inr ⟨x, rfl⟩
  · exact .inl (.inr (.inr old))

theorem ready_of_coverageComplete (complete : recordingCoverageComplete record = true) :
    ∀ entry ∈ record.coverage, entry.state = .complete ∧ entry.cassetteSha256.isSome = true := by
  have parts := complete
  simp only [recordingCoverageComplete, Bool.decide_and, Bool.and_eq_true, decide_eq_true_eq,
    all_eq_true] at parts
  intro entry member
  obtain ⟨-, state, -, -, digest⟩ := parts.2 entry member
  constructor
  · exact state
  · cases known : entry.cassetteSha256 with
    | none => simp [hasDigest, known] at digest
    | some value => rfl

/-- A new campaign has no complete tuple. -/
theorem prepareCampaign_planned (ok : prepareCampaign env params catalog = .ok record) :
    record.state = .planned ∧ (∀ entry ∈ record.coverage, entry.state = .ready) ∧
      record.offlineReady = false := by
  unfold prepareCampaign at ok
  obtain ⟨_, -, ok⟩ := bind_eq_ok.mp ok
  obtain ⟨_, -, ok⟩ := bind_eq_ok.mp ok
  obtain ⟨workloadIds, -, ok⟩ := bind_eq_ok.mp ok
  obtain ⟨_, -, ok⟩ := bind_eq_ok.mp ok
  obtain ⟨providers, -, ok⟩ := bind_eq_ok.mp ok
  obtain ⟨_, -, ok⟩ := bind_eq_ok.mp ok
  obtain ⟨_, -, ok⟩ := bind_eq_ok.mp ok
  cases ok
  refine ⟨rfl, fun entry member => ?_, rfl⟩
  obtain ⟨agentId, -, workload⟩ := mem_flatMap.mp member
  obtain ⟨workloadId, -, rfl⟩ := mem_map.mp workload
  rfl

variable {generation : Nat}

theorem retryReset_moves (ok : retryReset generation record = .ok next) :
    Moves record next := by
  obtain ⟨allowed, ok⟩ := guard_eq_ok.mp ok
  cases ok
  constructor
  · intro removed
    simp [removed] at allowed
  · intro entry member complete
    exact mem_mapIncomplete (by intro source; simp) member complete
  · intro _
    exact .of_unready rfl

theorem cancelCampaign_moves (present : record.state ≠ .removed)
    (ok : cancelCampaign record = .ok next) : Moves record next := by
  obtain ⟨guarded, ok⟩ := guard_eq_ok.mp ok
  have unready : record.offlineReady = false := by simpa using guarded
  cases ok
  exact ⟨fun removed => absurd removed present, fun _ member _ => member,
    fun _ => .of_unready unready⟩

theorem reconcileCampaign_moves : Moves record (reconcileCampaign artifactValid record) := by
  unfold reconcileCampaign
  by_cases active : record.state ∈ [.recording, .needsReconciliation]
  · rw [if_pos active]
    constructor
    · intro removed
      simp [removed] at active
    · intro entry member complete
      exact mem_settleInProgress (by decide) member complete
    · intro _ ready
      have complete := (Bool.and_eq_true_iff.mp (Bool.and_eq_true_iff.mp ready).1)
      have resolved : ((record.settleInProgress .stale).coverage.any fun entry =>
          entry.state = .stale) = false := by simpa using complete.1
      exact ⟨by simp [resolved], ready_of_coverageComplete complete.2⟩
  · rw [if_neg active]
    exact ⟨id, fun _ member _ => member, id⟩

theorem offlineDefault_moves (ok : offlineDefault artifactValid record = .ok next) :
    Moves record next := by
  obtain ⟨_, -, ok⟩ := bind_eq_ok.mp ok
  cases ok
  exact ⟨id, fun _ member _ => member, id⟩

section
variable (ok : sealCampaign artifactValid record = .ok next)
include ok

/-- A seal has looked at the artifact of every tuple. -/
theorem sealCampaign_valid :
    next.coverage = record.coverage ∧ next.state = .complete ∧
      ∀ entry ∈ record.coverage, entry.state = .complete ∧
        entry.cassetteSha256.any artifactValid = true := by
  obtain ⟨allowed, ok⟩ := guard_eq_ok.mp ok
  cases ok
  refine ⟨rfl, rfl, ?_⟩
  push Not at allowed
  simpa using allowed.1

theorem sealCampaign_refers (valid : ∀ digest, artifactValid digest = true → Q digest) :
    next.Refers Q := by
  obtain ⟨same, -, seen⟩ := sealCampaign_valid ok
  intro _ entry member digest _ refers
  have looked := (seen entry (same ▸ member)).2
  rw [refers] at looked
  exact valid digest looked

theorem sealCampaign_ready : next.Ready := by
  obtain ⟨same, state, seen⟩ := sealCampaign_valid ok
  intro _
  refine ⟨state, fun entry member => ?_⟩
  obtain ⟨complete, looked⟩ := seen entry (same ▸ member)
  exact ⟨complete, by cases known : entry.cassetteSha256 <;> simp [known] at looked ⊢⟩

end

theorem reopenCampaign_moves (ok : reopenCampaign record = .ok next) : Moves record next := by
  obtain ⟨allowed, ok⟩ := guard_eq_ok.mp ok
  cases ok
  constructor
  · intro removed
    simp [removed] at allowed
  · intro entry member complete
    exact mem_mapIncomplete (by intro source; simp) member complete
  · intro _
    exact .of_unready rfl

variable {digests : List String}

theorem removeWhole_moves (ok : removeFromCampaign digests none record = .ok next) :
    next.state = .removed ∧ Moves record next := by
  cases ok
  exact ⟨rfl, fun _ => rfl, fun _ member _ => member, fun _ => .of_unready rfl⟩

variable {digest : String}

section
variable (ok : removeFromCampaign digests (some digest) record = .ok next)
include ok

theorem removeCassette_eq_ok :
    updateFirst (refersTo digest) withoutCassette
      record.coverage = some next.coverage ∧ next.offlineReady = false := by
  simp only [removeFromCampaign] at ok
  split at ok
  · cases ok
  · rename_i coverage updated
    cases ok
    exact ⟨updated, rfl⟩

theorem removeCassette_moves (present : record.state ≠ .removed) : Moves record next := by
  obtain ⟨updated, unready⟩ := removeCassette_eq_ok ok
  constructor
  · intro removed
    exact absurd removed present
  · intro entry member complete
    rcases mem_of_updateFirst updated member with old | ⟨source, rfl⟩
    · exact old
    · cases complete
  · intro _
    exact .of_unready unready

/-- After a digest that only one tuple has is removed, no tuple refers to it. -/
theorem removeCassette_unreferenced
    (single : record.coverage.countP (refersTo digest) ≤ 1) :
    ∀ entry ∈ next.coverage, entry.cassetteSha256 ≠ some digest := by
  obtain ⟨before, target, after, coverage, missed, hit, changed⟩ :=
    updateFirst_eq_some (removeCassette_eq_ok ok).1
  have others : after.countP (refersTo digest) = 0 := by
    rw [coverage, countP_append, countP_cons_of_pos hit] at single
    omega
  have elsewhere : ∀ entry, refersTo digest entry = false →
      entry.cassetteSha256 ≠ some digest := by
    intro entry spared refers
    simp [refersTo, refers] at spared
  intro entry member
  rw [changed, mem_append, mem_cons] at member
  rcases member with first | rfl | later
  · exact elsewhere entry (missed entry first)
  · nofun
  · exact elsewhere entry (by simpa using countP_eq_zero.mp others entry later)

end

theorem executeIntent_moves (ok : executeIntent generation record = .ok next) :
    Moves record next := by
  obtain ⟨allowed, ok⟩ := guard_eq_ok.mp ok
  cases ok
  constructor
  · intro removed
    simp [removed, executable] at allowed
  · intro entry member complete
    exact mem_mapIncomplete (by intro source; simp) member complete
  · intro _
    exact .of_unready rfl

theorem executeResult_moves {failure : Option ProviderCaptureError}
    (ok : executeResult artifactValid generation failure record = .ok next) :
    Moves record next := by
  obtain ⟨allowed, ok⟩ := guard_eq_ok.mp ok
  have recording : record.state = .recording := by
    by_contra other
    exact allowed (.inr other)
  have present : record.state = .removed → next.state = .removed := by
    intro removed
    rw [recording] at removed
    cases removed
  cases failure with
  | some error =>
    cases ok
    refine ⟨present, fun entry member complete => ?_, fun _ => .of_unready rfl⟩
    refine mem_settleInProgress ?_ member complete
    split_ifs <;> decide
  | none =>
    cases ok
    refine ⟨present, fun entry member _ => member, fun _ ready => ⟨rfl, ?_⟩⟩
    exact ready_of_coverageComplete (Bool.and_eq_true_iff.mp ready).1

variable {result : ProviderCaptureResult} {attemptId : String}

section
variable (ok : tupleCheckpoint attemptId result record = .ok next)
include ok

/-- A checkpoint leaves the record alone or completes the first tuple of the attempt. -/
theorem tupleCheckpoint_eq_ok :
    ∃ target, (record.coverage.find? fun entry => entry.attemptId = attemptId) = some target ∧
      ((target.state = .complete ∧ next = record) ∨
        target.state ≠ .complete ∧ ∃ coverage,
          updateFirst (fun entry => entry.attemptId = attemptId)
            (withCapture result) record.coverage = some coverage ∧
          next = RecordingCampaignRecord.recount { record with coverage := coverage }) := by
  unfold tupleCheckpoint at ok
  split at ok
  · cases ok
  · rename_i target found
    by_cases complete : target.state = .complete
    · rw [if_pos complete] at ok
      exact ⟨target, found, .inl ⟨complete, (Except.ok.inj ok).symm⟩⟩
    · rw [if_neg complete] at ok
      split at ok
      · cases ok
      · rename_i coverage updated
        exact ⟨target, found, .inr ⟨complete, coverage, updated, (Except.ok.inj ok).symm⟩⟩

theorem tupleCheckpoint_refers (h : record.Refers Q) (fresh : Q result.cassetteSha256) :
    next.Refers Q := by
  obtain ⟨target, -, ⟨-, rfl⟩ | ⟨-, coverage, updated, rfl⟩⟩ := tupleCheckpoint_eq_ok ok
  · exact h
  · intro kept entry member digest complete refers
    rcases mem_of_updateFirst updated member with old | ⟨source, rfl⟩
    · exact h kept entry old digest complete refers
    · cases refers
      exact fresh

theorem tupleCheckpoint_ready (h : record.Ready) : next.Ready := by
  obtain ⟨target, found, ⟨-, rfl⟩ | ⟨incomplete, coverage, -, rfl⟩⟩ := tupleCheckpoint_eq_ok ok
  · exact h
  · intro ready
    have complete := (h ready).2 target (mem_of_find?_eq_some found)
    exact absurd complete.1 incomplete

end

theorem interruptCampaign_moves : Moves record (interruptCampaign record) := by
  unfold interruptCampaign
  by_cases recording : record.state = .recording
  · rw [if_pos recording]
    refine ⟨fun removed => ?_, fun entry member complete => ?_, fun _ => .of_unready rfl⟩
    · rw [recording] at removed
      cases removed
    · exact mem_settleInProgress (by decide) member complete
  · rw [if_neg recording]
    exact ⟨id, fun _ member _ => member, id⟩

end Transitions

end AgentSystemsBenchmark.Control
