import AgentSystemsBenchmark.Control.Transitions
import AgentSystemsBenchmark.Library.Runs

/-!
# Provider captures

An execution works through a snapshot of the coverage, outside the catalog lock. The
result below says when no capture is paid for twice: if an execution takes its
snapshot only while no other one is in its capture loop, then at most one capture is
outstanding for a tuple, and none is started for a tuple whose capture was
checkpointed, unless a removal took the tuple back.
-/

namespace AgentSystemsBenchmark.Control

open Effects Numerals Runs List Control.System

/-! ## Attempts

The attempt id names a tuple of a campaign: the built-in workloads are no suffixes of
one another, so agent and workload can be read off it. -/

theorem fixtureIds_suffix : ∀ left ∈ fixtureIds, ∀ right ∈ fixtureIds,
    (bytes ("-" ++ left)).isSuffixOf (bytes ("-" ++ right)) = true → left = right := by
  decide +kernel

theorem tupleAttemptId_inj (known : workload ∈ fixtureIds) (known' : workload' ∈ fixtureIds)
    (same : tupleAttemptId campaignId agent workload = tupleAttemptId campaignId agent' workload') :
    agent = agent' ∧ workload = workload' := by
  have equal : bytes agent ++ bytes ("-" ++ workload) =
      bytes agent' ++ bytes ("-" ++ workload') := by
    have texts := congrArg bytes same
    refine append_cancel_right (?_ : _ ++ bytes "-attempt" = _ ++ bytes "-attempt")
    simpa [tupleAttemptId] using texts
  have first : bytes ("-" ++ workload) <:+ bytes agent' ++ bytes ("-" ++ workload') := ⟨_, equal⟩
  have second : bytes ("-" ++ workload') <:+ bytes agent' ++ bytes ("-" ++ workload') := ⟨_, rfl⟩
  have equalWorkloads : workload = workload' := by
    rcases le_total (bytes ("-" ++ workload)).length (bytes ("-" ++ workload')).length with
      shorter | longer
    · have suffix := suffix_of_suffix_length_le first second shorter
      exact fixtureIds_suffix workload known workload' known' (isSuffixOf_iff_suffix.mpr suffix)
    · have suffix := suffix_of_suffix_length_le second first longer
      exact (fixtureIds_suffix workload' known' workload known
        (isSuffixOf_iff_suffix.mpr suffix)).symm
  subst equalWorkloads
  exact ⟨bytes_injective (append_cancel_right equal), rfl⟩

/-- The coverage of the campaign is the matrix of its agents and built-in workloads. -/
structure RecordingCampaignRecord.Planned (campaign : RecordingCampaignRecord) : Prop where
  coverage : campaign.coverage =
    plannedCoverage campaign.campaignId campaign.generation campaign.agentIds campaign.workloadIds
  builtin : ∀ workload ∈ campaign.workloadIds, workload ∈ fixtureIds
  nodup : campaign.workloadIds.Nodup

variable {campaign : RecordingCampaignRecord}

theorem prepareCampaign_matrix (ok : prepareCampaign env params catalog = .ok campaign) :
    campaign.Planned := by
  unfold prepareCampaign at ok
  obtain ⟨_, -, ok⟩ := bind_eq_ok.mp ok
  obtain ⟨_, -, ok⟩ := bind_eq_ok.mp ok
  obtain ⟨workloadIds, resolved, ok⟩ := bind_eq_ok.mp ok
  obtain ⟨_, -, ok⟩ := bind_eq_ok.mp ok
  obtain ⟨providers, -, ok⟩ := bind_eq_ok.mp ok
  obtain ⟨_, -, ok⟩ := bind_eq_ok.mp ok
  obtain ⟨_, known, ok⟩ := bind_eq_ok.mp ok
  cases ok
  have nodup : workloadIds.Nodup := by
    unfold resolveRecordingWorkloads at resolved
    extract_lets sorted at resolved
    split_ifs at resolved with refused
    rw [← Except.ok.inj resolved]
    exact not_not.mp (not_or.mp refused).2
  have builtin : ∀ workload ∈ workloadIds, workload ∈ fixtureIds := by
    have allKnown := refuse_eq_ok.mp known
    simpa using allKnown
  exact ⟨rfl, builtin, nodup⟩

theorem precedes_irrefl (text : String) : precedes text text = false := by
  simp [precedes]

theorem validateCampaign_agents
    (valid : validateCampaign campaign = .ok ()) : campaign.agentIds.Nodup := by
  simp only [validateCampaign, seq_eq_ok, refuse_eq_ok, not_or, not_not] at valid
  obtain ⟨-, -, ⟨ascending, -⟩, -⟩ := valid
  refine ascending.imp ?_
  rintro agent other before rfl
  rw [precedes_irrefl] at before
  cases before

def RecordingCampaignRecord.attemptIds (record : RecordingCampaignRecord) : List String :=
  record.coverage.map (·.attemptId)

theorem RecordingCampaignRecord.Planned.attemptIds_nodup
    (planned : campaign.Planned) (valid : validateCampaign campaign = .ok ()) :
    campaign.attemptIds.Nodup := by
  have agents := validateCampaign_agents valid
  rw [RecordingCampaignRecord.attemptIds, planned.coverage, plannedCoverage, map_flatMap,
    nodup_flatMap]
  constructor
  · intro agent _
    rw [map_map]
    refine planned.nodup.map_on ?_
    intro workload known workload' known' same
    exact (tupleAttemptId_inj (planned.builtin _ known) (planned.builtin _ known') same).2
  · refine agents.imp ?_
    intro agent agent' distinct attempt first second
    simp only [map_map, mem_map, Function.comp_apply] at first second
    obtain ⟨workload, known, rfl⟩ := first
    obtain ⟨workload', known', same⟩ := second
    exact distinct
      (tupleAttemptId_inj (planned.builtin _ known) (planned.builtin _ known') same.symm).1

/-! ## What a transition does to the tuples -/

/-- The same tuple after a transition; unless one was taken back, a complete tuple
stays complete. -/
def RecordingTupleRecord.Follows (takenBack : Bool) (old new : RecordingTupleRecord) : Prop :=
  new.attemptId = old.attemptId ∧
    (takenBack = false → old.state = .complete → new.state = .complete)

def RecordingCampaignRecord.Follows (takenBack : Bool) (record next : RecordingCampaignRecord) :
    Prop :=
  List.Forall₂ (RecordingTupleRecord.Follows takenBack) record.coverage next.coverage

section Follows

variable {takenBack : Bool} {record next : RecordingCampaignRecord} {artifactValid : String → Bool}

theorem RecordingCampaignRecord.Follows.of_coverage (same : next.coverage = record.coverage) :
    record.Follows takenBack next := by
  unfold RecordingCampaignRecord.Follows
  rw [same]
  exact forall₂_same.mpr fun entry _ => ⟨rfl, fun _ complete => complete⟩

variable {change : RecordingTupleRecord → RecordingTupleRecord}

theorem RecordingCampaignRecord.Follows.of_map
    (changed : next.coverage = record.coverage.map change)
    (kept : ∀ entry, RecordingTupleRecord.Follows takenBack entry (change entry)) :
    record.Follows takenBack next := by
  unfold RecordingCampaignRecord.Follows
  rw [changed, forall₂_map_right_iff]
  exact forall₂_same.mpr fun entry _ => kept entry

theorem updateFirst_follows {before after : List RecordingTupleRecord}
    (updated : updateFirst p change before = some after)
    (kept : ∀ entry, RecordingTupleRecord.Follows takenBack entry (change entry)) :
    List.Forall₂ (RecordingTupleRecord.Follows takenBack) before after := by
  have same : ∀ entries : List RecordingTupleRecord,
      List.Forall₂ (RecordingTupleRecord.Follows takenBack) entries entries :=
    fun entries => forall₂_same.mpr fun _ _ => ⟨rfl, fun _ complete => complete⟩
  obtain ⟨first, entry, later, rfl, -, -, rfl⟩ := updateFirst_eq_some updated
  exact rel_append (same first) (.cons (kept entry) (same later))

theorem mapIncomplete_follows (changed : next.coverage = (record.mapIncomplete change).coverage)
    (kept : ∀ entry, (change entry).attemptId = entry.attemptId) :
    record.Follows takenBack next := by
  refine .of_map changed fun entry => ?_
  by_cases complete : entry.state = .complete
  · rw [if_pos complete]
    exact ⟨rfl, fun _ _ => complete⟩
  · rw [if_neg complete]
    exact ⟨kept entry, fun _ claimed => absurd claimed complete⟩

theorem settleInProgress_follows
    (changed : next.coverage = (record.settleInProgress state).coverage) :
    record.Follows takenBack next := by
  refine .of_map changed fun entry => ?_
  by_cases active : entry.state = .inProgress
  · rw [if_pos active]
    refine ⟨rfl, fun _ complete => ?_⟩
    rw [active] at complete
    cases complete
  · rw [if_neg active]
    exact ⟨rfl, fun _ complete => complete⟩

theorem reconcileCampaign_follows :
    record.Follows takenBack (reconcileCampaign artifactValid record) := by
  unfold reconcileCampaign
  by_cases active : record.state ∈ [.recording, .needsReconciliation]
  · rw [if_pos active]
    exact settleInProgress_follows rfl
  · rw [if_neg active]
    exact .of_coverage rfl

theorem interruptCampaign_follows : record.Follows takenBack (interruptCampaign record) := by
  unfold interruptCampaign
  by_cases recording : record.state = .recording
  · rw [if_pos recording]
    exact settleInProgress_follows rfl
  · rw [if_neg recording]
    exact .of_coverage rfl

theorem executeResult_follows {generation : Nat} {failure : Option ProviderCaptureError}
    (ok : executeResult artifactValid generation failure record = .ok next) :
    record.Follows takenBack next := by
  obtain ⟨_, -, ok⟩ := bind_eq_ok.mp ok
  cases failure with
  | some error =>
    cases ok
    exact settleInProgress_follows rfl
  | none =>
    cases ok
    exact .of_coverage rfl

theorem tupleCheckpoint_follows {attemptId : String} {result : ProviderCaptureResult}
    (ok : tupleCheckpoint attemptId result record = .ok next) : record.Follows takenBack next := by
  obtain ⟨target, -, ⟨-, rfl⟩ | ⟨-, coverage, updated, rfl⟩⟩ := tupleCheckpoint_eq_ok ok
  · exact .of_coverage rfl
  · exact updateFirst_follows updated fun entry => ⟨rfl, fun _ _ => rfl⟩

theorem removeFromCampaign_follows {digests : List String}
    (ok : removeFromCampaign digests cassette record = .ok next) : record.Follows true next := by
  unfold removeFromCampaign at ok
  cases cassette with
  | none =>
    cases ok
    exact .of_coverage rfl
  | some digest =>
    dsimp only at ok
    split at ok
    · cases ok
    · rename_i coverage updated
      cases ok
      exact updateFirst_follows updated fun entry => ⟨rfl, nofun⟩

/-- The call takes cassettes back. -/
def Job.takesBack : Job → Bool
  | .committing action _ _ => action = .remove
  | _ => false

theorem System.transition_follows {s : System} {job : Job} {campaignId : String}
    {transition : RecordingCampaignRecord → Except BackendFailure RecordingCampaignRecord}
    (isNext : s.transition env outside job = some (campaignId, transition))
    (ok : transition record = .ok next) : record.Follows job.takesBack next := by
  cases job with
  | resetting | intending =>
    cases isNext
    obtain ⟨_, -, ok⟩ := bind_eq_ok.mp ok
    cases ok
    exact mapIncomplete_follows rfl fun _ => rfl
  | committing action params digests =>
    cases isNext
    obtain ⟨_, -, ok⟩ := bind_eq_ok.mp ok
    cases action with
    | cancel =>
      obtain ⟨_, -, ok⟩ := bind_eq_ok.mp ok
      cases ok
      exact .of_coverage rfl
    | reconcile =>
      cases ok
      exact reconcileCampaign_follows
    | offlineDefault =>
      obtain ⟨_, -, ok⟩ := bind_eq_ok.mp ok
      cases ok
      exact .of_coverage rfl
    | «seal» =>
      obtain ⟨_, -, ok⟩ := bind_eq_ok.mp ok
      cases ok
      exact .of_coverage rfl
    | reopen =>
      obtain ⟨_, -, ok⟩ := bind_eq_ok.mp ok
      cases ok
      exact mapIncomplete_follows rfl fun _ => rfl
    | remove =>
      obtain ⟨_, -, ok⟩ := bind_eq_ok.mp ok
      exact removeFromCampaign_follows ok
    | execute => cases ok
    | retry => cases ok
  | checkpointing execution tuple result tuples =>
    cases isNext
    exact tupleCheckpoint_follows ok
  | finishing execution failure =>
    cases isNext
    exact executeResult_follows ok
  | _ => cases isNext

end Follows

/-! ## The ledger -/

/-- The execution is in its capture loop. -/
def Job.inLoop : Job → Bool
  | .capturing _ _ | .awaiting _ _ _ | .persisting _ _ _ _ | .publishing _ _ _ _
  | .checkpointing _ _ _ _ => true
  | _ => false

/-- An execution takes its snapshot only while no other one is in its capture loop. -/
def System.solitary (s : System) : Event → Bool
  | .advance id _ =>
    match s.jobs.lookup id with
    | some (.snapshotting _) => !s.busy Job.inLoop
    | _ => true
  | _ => true

/-- Every tuple with this attempt id is complete. -/
def completeIn (attemptId : String) (campaign : Option RecordingCampaignRecord) : Bool :=
  campaign.all fun record => record.coverage.all fun entry =>
    entry.attemptId ≠ attemptId ∨ entry.state = .complete

variable (env : Platform)

/-- The checkpoint mutation of a verified capture. -/
def System.checkpoint (s : System) (outside : Outside) (execution : Execution)
    (tuple : RecordingTupleRecord) (result : ProviderCaptureResult) :
    Except BackendFailure BoundControlResult × CatalogStore :=
  mutation env outside.toMoment execution.call (execution.key ++ ":tuple:" ++ tuple.attemptId)
    (lifecycleTarget execution.campaignId "tuple_checkpoint")
    (onCampaign execution.campaignId (tupleCheckpoint tuple.attemptId result)) s.store

/-- The attempt whose checkpoint this step acknowledges, other than as a replay. -/
def System.checkpoints (s : System) : Event → Option String
  | .advance id outside =>
    match s.jobs.lookup id with
    | some (.checkpointing execution tuple result _) =>
      if s.running ∧
          env.sha256 (execution.key ++ ":tuple:" ++ tuple.attemptId) ∉ s.store.live.mutations ∧
          isOk (s.checkpoint env outside execution tuple result).1 then
        some tuple.attemptId
      else none
    | _ => none
  | _ => none

/-- The step commits a removal, or replaces the campaign. -/
def System.resets (s : System) : Event → Bool
  | .advance id _ =>
    match s.jobs.lookup id with
    | some (.committing .remove _ _) | some (.installing _ _) => true
    | _ => false
  | _ => false

/-- The tuple whose capture this step starts. -/
def System.starts (s : System) : Event → Option RecordingTupleRecord
  | .advance id outside =>
    match s.jobs.lookup id, (s.step env (.advance id outside)).jobs.lookup id with
    | some (.capturing _ _), some (.awaiting _ tuple _) => some tuple
    | _, _ => none
  | _ => none

/-- The attempt whose capture is outstanding. -/
def Job.outstanding : Job → Option String
  | .awaiting _ tuple _ => some tuple.attemptId
  | _ => none

/-- The service with the attempts that were checkpointed and not taken back since. -/
structure Ledger where
  system : System
  checkpointed : List String

def Ledger.step (ledger : Ledger) (event : Event) : Ledger where
  system := ledger.system.step env event
  checkpointed :=
    match ledger.system.checkpoints env event with
    | some attemptId => attemptId :: ledger.checkpointed
    | none =>
      if ledger.system.resets event then
        let store := (ledger.system.step env event).store
        ledger.checkpointed.filter fun attemptId =>
          completeIn attemptId store.live.recordingCampaign &&
            completeIn attemptId store.disk.recordingCampaign
      else ledger.checkpointed

/-! ## The invariant -/

/-- The campaign knows its tuples apart, and every checkpointed one is complete. -/
def Settled (checkpointed : List String) (campaign : Option RecordingCampaignRecord) : Prop :=
  ∀ record, campaign = some record → record.attemptIds.Nodup ∧
    ∀ entry ∈ record.coverage, entry.attemptId ∈ checkpointed → entry.state = .complete

/-- What is left of a snapshot: the tuples still to capture are not checkpointed. -/
def Pending (checkpointed : List String) (tuples : List RecordingTupleRecord) : Prop :=
  ∀ entry ∈ tuples, entry.state ≠ .complete → entry.attemptId ∉ checkpointed

def attempts (tuples : List RecordingTupleRecord) : List String := tuples.map (·.attemptId)

def JobFresh (checkpointed : List String) : Job → Prop
  | .installing _ campaign => campaign.Planned
  | .capturing _ tuples => (attempts tuples).Nodup ∧ Pending checkpointed tuples
  | .awaiting _ tuple tuples | .persisting _ tuple _ tuples | .publishing _ tuple _ tuples
  | .checkpointing _ tuple _ tuples =>
    (attempts (tuple :: tuples)).Nodup ∧ Pending checkpointed tuples
  | _ => True

/-- One capture loop at a time, over tuples that are not checkpointed. -/
structure Ledger.Exact (ledger : Ledger) : Prop where
  settled : ledger.system.Campaigns (Settled ledger.checkpointed)
  jobs : ∀ id job, ledger.system.jobs.lookup id = some job → JobFresh ledger.checkpointed job
  single : ∀ id job other rival, ledger.system.jobs.lookup id = some job →
    ledger.system.jobs.lookup other = some rival → job.inLoop = true → rival.inLoop = true →
    other = id

section Steps

variable {env} {s : System} {event : Event} {checkpointed : List String}
  {record next : RecordingCampaignRecord}

theorem RecordingCampaignRecord.Follows.attemptIds (follows : record.Follows takenBack next) :
    next.attemptIds = record.attemptIds := by
  unfold RecordingCampaignRecord.Follows at follows
  unfold RecordingCampaignRecord.attemptIds
  generalize record.coverage = before at follows
  generalize next.coverage = after at follows
  induction follows with
  | nil => rfl
  | cons kept _ ih => rw [map_cons, map_cons, kept.1, ih]

theorem RecordingCampaignRecord.Follows.origin (follows : record.Follows takenBack next)
    (member : entry ∈ next.coverage) :
    ∃ old ∈ record.coverage, RecordingTupleRecord.Follows takenBack old entry := by
  unfold RecordingCampaignRecord.Follows at follows
  generalize record.coverage = before at follows
  generalize next.coverage = after at follows member
  induction follows with
  | nil => cases member
  | @cons old new _ _ kept _ ih =>
    rcases mem_cons.mp member with rfl | later
    · exact ⟨old, mem_cons_self .., kept⟩
    · obtain ⟨source, sourceMember, sourceKept⟩ := ih later
      exact ⟨source, mem_cons_of_mem _ sourceMember, sourceKept⟩

/-- A transition keeps the checkpointed tuples complete, or there are none to keep. -/
theorem RecordingCampaignRecord.Follows.settled (follows : record.Follows takenBack next)
    (keeps : checkpointed = [] ∨ takenBack = false) (h : Settled checkpointed (some record)) :
    Settled checkpointed (some next) := by
  obtain ⟨nodup, complete⟩ := h record rfl
  rintro _ ⟨⟩
  refine ⟨follows.attemptIds ▸ nodup, fun entry member known => ?_⟩
  rcases keeps with rfl | kept
  · cases known
  · obtain ⟨old, oldMember, same, stays⟩ := follows.origin member
    exact stays kept (complete old oldMember (same ▸ known))

variable {fewer : List String}

theorem Settled.mono {campaign : Option RecordingCampaignRecord}
    (h : Settled checkpointed campaign) (subset : fewer ⊆ checkpointed) :
    Settled fewer campaign := by
  intro record found
  obtain ⟨nodup, complete⟩ := h record found
  exact ⟨nodup, fun entry member known => complete entry member (subset known)⟩

/-- A step keeps the checkpointed tuples complete unless it takes them back. -/
theorem System.step_settled (h : s.Campaigns (Settled checkpointed))
    (keeps : checkpointed = [] ∨ s.resets event = false)
    (planned : ∀ id params campaign, s.jobs.lookup id = some (.installing params campaign) →
      campaign.Planned) : (s.step env event).Campaigns (Settled checkpointed) := by
  apply step_campaigns h
  · rintro id outside job campaignId transition record next rfl slot isNext live - ok -
    have follows := transition_follows isNext ok
    refine follows.settled ?_ (live ▸ h.1)
    rcases keeps with none_known | kept
    · exact .inl none_known
    · right
      cases job with
      | committing action params digests =>
        cases action <;> first | rfl | simp [resets, slot] at kept
      | _ => rfl
  · rintro id outside params campaign rfl slot valid
    have nothing : checkpointed = [] := by
      rcases keeps with none_known | kept
      · exact none_known
      · simp [resets, slot] at kept
    subst nothing
    rintro _ ⟨⟩
    exact ⟨(planned id params campaign slot).attemptIds_nodup valid, nofun⟩
  · intro pending
    cases disk : s.store.disk.recordingCampaign with
    | none => exact nofun
    | some record =>
      have follows : record.Follows false
          { interruptCampaign record with pendingCassetteRemovals := pending } :=
        interruptCampaign_follows
      exact follows.settled (.inr rfl) (disk ▸ h.2)

/-! ## Jobs -/

variable {job left : Job} {outside : Outside}

variable {tuples : List RecordingTupleRecord}

theorem Pending.mono
    (h : Pending checkpointed tuples) (subset : fewer ⊆ checkpointed) : Pending fewer tuples :=
  fun entry member incomplete known => h entry member incomplete (subset known)

theorem JobFresh.mono (h : JobFresh checkpointed job)
    (subset : fewer ⊆ checkpointed) : JobFresh fewer job := by
  cases job with
  | installing params campaign => exact h
  | capturing | awaiting | persisting | publishing | checkpointing => exact ⟨h.1, h.2.mono subset⟩
  | _ => trivial

/-- A job outside the loop knows nothing about checkpoints. -/
theorem JobFresh.of_not_inLoop (h : JobFresh checkpointed job) (outsideLoop : job.inLoop = false) :
    JobFresh others job := by
  cases job with
  | installing params campaign => exact h
  | capturing | awaiting | persisting | publishing | checkpointing => cases outsideLoop
  | _ => trivial

variable {tuple : RecordingTupleRecord}

theorem Pending.tail (h : Pending checkpointed (tuple :: tuples)) : Pending checkpointed tuples :=
  fun entry member => h entry (mem_cons_of_mem _ member)

variable {execution : Execution}

/-- The next capture of the loop is of a tuple that is not complete in the snapshot. -/
theorem nextCapture_fresh (h : JobFresh checkpointed (.capturing execution tuples)) :
    JobFresh checkpointed (nextCapture execution cancelled tuples) := by
  obtain ⟨nodup, pending⟩ := h
  cases tuples with
  | nil => trivial
  | cons tuple tuples =>
    simp only [nextCapture]
    split_ifs
    · exact ⟨(nodup_cons.mp nodup).2, pending.tail⟩
    · trivial
    · exact ⟨nodup, pending.tail⟩

theorem System.Continues.fresh (continues : s.Continues env outside job left)
    (live : Settled checkpointed s.store.live.recordingCampaign)
    (h : JobFresh checkpointed job) : JobFresh checkpointed left := by
  cases continues with
  | plan prepared => exact prepareCampaign_matrix prepared
  | snapshot found =>
    obtain ⟨nodup, complete⟩ := live _ found
    refine ⟨nodup, fun entry member incomplete known => ?_⟩
    exact incomplete (complete entry member known)
  | capture => exact nextCapture_fresh h
  | captured | persisted | present | publish => exact h
  | checkpoint => exact ⟨(nodup_cons.mp h.1).2, h.2⟩
  | _ => trivial

variable {result : ProviderCaptureResult}

/-- After its checkpoint the tuple is not in the rest of the snapshot. -/
theorem System.Continues.fresh_checkpointed
    (continues : s.Continues env outside (.checkpointing execution tuple result tuples) left)
    (h : JobFresh checkpointed (.checkpointing execution tuple result tuples)) :
    JobFresh (tuple.attemptId :: checkpointed) left := by
  obtain ⟨nodup, pending⟩ := h
  obtain ⟨other, rest⟩ := nodup_cons.mp nodup
  cases continues with
  | checkpoint =>
    refine ⟨rest, fun entry member incomplete known => ?_⟩
    rcases mem_cons.mp known with same | known
    · exact other (mem_map.mpr ⟨entry, member, same⟩)
    · exact pending entry member incomplete known
  | fail => trivial

theorem System.Continues.inLoop (continues : s.Continues env outside job left)
    (looping : left.inLoop = true) :
    job.inLoop = true ∨ ∃ execution, job = .snapshotting execution := by
  cases continues with
  | snapshot => exact .inr ⟨_, rfl⟩
  | capture | captured | persisted | present | publish | checkpoint => exact .inl rfl
  | _ => cases looping

/-! ## Steps -/

variable {ledger : Ledger} {id : Nat} {next : Option Job}

/-- A change of one slot keeps the jobs exact if what it leaves there is, and is in the
loop only if no other job is. -/
theorem Ledger.Exact.put (h : ledger.Exact) {t : System}
    (settled : t.Campaigns (Settled checkpointed))
    (jobs : t.jobs = (ledger.system.put id next).jobs)
    (own : ∀ left, next = some left → JobFresh checkpointed left ∧ (left.inLoop = true →
      ∀ other rival, other ≠ id → ledger.system.jobs.lookup other = some rival →
        rival.inLoop = false))
    (others : ∀ other rival, other ≠ id → ledger.system.jobs.lookup other = some rival →
      JobFresh checkpointed rival) : Ledger.Exact ⟨t, checkpointed⟩ := by
  constructor
  · exact settled
  · intro other rival found
    rcases slot_cases jobs found with ⟨rfl, goes⟩ | ⟨distinct, found⟩
    · exact (own rival goes).1
    · exact others other rival distinct found
  · intro first job other rival found found' looping looping'
    rcases slot_cases jobs found with ⟨rfl, goes⟩ | ⟨distinct, found⟩
    · rcases slot_cases jobs found' with ⟨rfl, -⟩ | ⟨distinct, found'⟩
      · rfl
      · rw [(own job goes).2 looping other rival distinct found'] at looping'
        cases looping'
    · rcases slot_cases jobs found' with ⟨rfl, goes⟩ | ⟨-, found'⟩
      · rw [(own rival goes).2 looping' first job distinct found] at looping
        cases looping
      · exact h.single first job other rival found found' looping looping'

/-- While one job is in the loop, or about to enter it alone, no other one is. -/
theorem Ledger.Exact.alone (h : ledger.Exact) (slot : ledger.system.jobs.lookup id = some job)
    (solitary : ledger.system.solitary (.advance id outside) = true)
    (continues : ledger.system.Continues env outside job left) (looping : left.inLoop = true)
    {rival : Job} (distinct : other ≠ id) (found : ledger.system.jobs.lookup other = some rival) :
    rival.inLoop = false := by
  rcases continues.inLoop looping with before | ⟨execution, rfl⟩
  · by_contra still
    exact distinct (h.single id job other rival slot found before (by simpa using still))
  · have quiet : (!ledger.system.busy Job.inLoop) = true := by
      simpa [System.solitary, slot] using solitary
    exact System.not_busy quiet found

theorem Ledger.Exact.planned (h : ledger.Exact) (slot : Nat) (params : RecordingCampaignPlanParams)
    (campaign : RecordingCampaignRecord)
    (found : ledger.system.jobs.lookup slot = some (.installing params campaign)) :
    campaign.Planned :=
  h.jobs slot _ found

/-- The acknowledged checkpoint makes the tuple complete in both catalogs. -/
theorem tupleCheckpoint_complete {record next : RecordingCampaignRecord} {attemptId : String}
    (nodup : record.attemptIds.Nodup) (ok : tupleCheckpoint attemptId result record = .ok next) :
    ∀ entry ∈ next.coverage, entry.attemptId = attemptId → entry.state = .complete := by
  have follows : record.Follows false next := tupleCheckpoint_follows ok
  have nodup' : next.attemptIds.Nodup := follows.attemptIds ▸ nodup
  -- one complete tuple with this attempt id suffices, since there is no other
  have captured : ∃ target ∈ next.coverage, target.attemptId = attemptId ∧
      target.state = .complete := by
    obtain ⟨target, found, ⟨complete, rfl⟩ | ⟨-, coverage, updated, rfl⟩⟩ :=
      tupleCheckpoint_eq_ok ok
    · have named := find?_some found
      exact ⟨target, mem_of_find?_eq_some found, by simpa using named, complete⟩
    · obtain ⟨before, source, after, -, -, named, rfl⟩ := updateFirst_eq_some updated
      exact ⟨_, mem_append_right _ mem_cons_self, of_decide_eq_true named, rfl⟩
  obtain ⟨target, member, named, complete⟩ := captured
  intro entry entryMember entryNamed
  have same : entry = target :=
    inj_on_of_nodup_map nodup' entryMember member (entryNamed.trans named.symm)
  rw [same]
  exact complete

/-- The step of the job in slot `id`, when the service is up. -/
theorem System.step_advance (slot : s.jobs.lookup id = some job) (up : s.running = true) :
    s.step env (.advance id outside) = s.advance env outside id job := by
  simp only [step, slot, up, if_true]

theorem System.step_stopped (stopped : s.running = false) :
    s.step env (.advance id outside) = s := by
  simp only [step, stopped]
  cases s.jobs.lookup id <;> rfl

/-- An acknowledged checkpoint settles its tuple in both catalogs. -/
theorem System.checkpoint_settled
    (slot : s.jobs.lookup id = some (.checkpointing execution tuple result tuples))
    (up : s.running = true)
    (first : env.sha256 (execution.key ++ ":tuple:" ++ tuple.attemptId) ∉ s.store.live.mutations)
    (acknowledged : isOk (s.checkpoint env outside execution tuple result).1 = true)
    (h : s.Campaigns (Settled checkpointed))
    (after : (s.step env (.advance id outside)).Campaigns (Settled checkpointed)) :
    (s.step env (.advance id outside)).Campaigns (Settled (tuple.attemptId :: checkpointed)) := by
  have stored : (s.step env (.advance id outside)).store =
      (s.checkpoint env outside execution tuple result).2 := by
    rw [step_advance slot up]
    exact put_store _ _
  obtain ⟨bound, answer⟩ := isOk_iff.mp acknowledged
  rcases mutation_ok answer with ⟨known, isKnown, -⟩ | ⟨-, value, built, done, -, committed, -⟩
  · exact absurd (AList.lookup_isSome.mp (isKnown ▸ rfl)) first
  · obtain ⟨record, next, live, -, ok, -, rfl⟩ := onCampaign_eq_ok done
    have complete := tupleCheckpoint_complete (h.1 record live).1 ok
    unfold Campaigns at after ⊢
    rw [stored, checkpoint, committed] at after ⊢
    have settled : Settled (tuple.attemptId :: checkpointed) (some next) := by
      obtain ⟨nodup, old⟩ := after.1 next rfl
      rintro _ ⟨⟩
      refine ⟨nodup, fun entry member known => ?_⟩
      rcases mem_cons.mp known with same | known
      · exact complete entry member same
      · exact old entry member known
    exact ⟨settled, settled⟩

theorem completeIn_settled {campaign : Option RecordingCampaignRecord}
    (nodup : Settled [] campaign) (complete : ∀ attempt ∈ checkpointed,
      completeIn attempt campaign = true) : Settled checkpointed campaign := by
  intro record found
  refine ⟨(nodup record found).1, fun entry member known => ?_⟩
  have all := complete entry.attemptId known
  rw [found, completeIn, Option.all_some, all_eq_true] at all
  have one := of_decide_eq_true (all entry member)
  exact one.resolve_left (not_not_intro rfl)

theorem Ledger.Exact.idle (settled : t.Campaigns (Settled checkpointed)) (jobs : t.jobs = ∅) :
    Ledger.Exact ⟨t, checkpointed⟩ := by
  constructor
  · exact settled
  · intro id job found
    dsimp only at found
    rw [jobs] at found
    cases found
  · intro id job other rival found
    dsimp only at found
    rw [jobs] at found
    cases found

/-- The jobs stay exact over another catalog and fewer checkpoints. -/
theorem Ledger.Exact.still (h : ledger.Exact) {t : System}
    (settled : t.Campaigns (Settled checkpointed)) (jobs : t.jobs = ledger.system.jobs)
    (subset : checkpointed ⊆ ledger.checkpointed) : Ledger.Exact ⟨t, checkpointed⟩ := by
  constructor
  · exact settled
  · intro id job found
    exact (h.jobs id job (jobs ▸ found)).mono subset
  · intro id job other rival found found'
    exact h.single id job other rival (jobs ▸ found) (jobs ▸ found')

theorem startLifecycle_fresh : JobFresh checkpointed (startLifecycle action params) ∧
      (startLifecycle action params).inLoop = false := by
  cases action <;> exact ⟨trivial, rfl⟩

theorem Ledger.Exact.submit (h : ledger.Exact) {call : ControlCall} :
    (ledger.step env (.submit id call)).Exact := by
  have starts : ∀ job, JobFresh ledger.checkpointed job ∧ job.inLoop = false →
      Ledger.Exact ⟨ledger.system.put id (some job), ledger.checkpointed⟩ := by
    intro job fresh
    refine h.put h.settled rfl ?_ fun other rival _ found => h.jobs other rival found
    rintro left ⟨⟩
    refine ⟨fresh.1, fun looping => ?_⟩
    rw [fresh.2] at looping
    cases looping
  show Ledger.Exact ⟨ledger.system.submit id call, ledger.checkpointed⟩
  unfold System.submit
  split_ifs
  · cases call with
    | recordingCampaignPlan params => exact starts _ ⟨trivial, rfl⟩
    | recordingCampaign action params =>
      dsimp only
      split_ifs
      · exact starts _ startLifecycle_fresh
      · exact h
    | _ => exact h
  · exact h

theorem Ledger.Exact.advance (h : ledger.Exact) (slot : ledger.system.jobs.lookup id = some job)
    (up : ledger.system.running = true)
    (solitary : ledger.system.solitary (.advance id outside) = true) :
    (ledger.step env (.advance id outside)).Exact := by
  obtain ⟨next, jobs, continues⟩ := @advance_jobs env ledger.system outside id job
  rw [← step_advance slot up] at jobs
  have distinct : (ledger.system.step env (.advance id outside)).Campaigns (Settled []) :=
    step_settled ⟨h.settled.1.mono (nil_subset _), h.settled.2.mono (nil_subset _)⟩
      (.inl rfl) h.planned
  have alone : ∀ left, next = some left → left.inLoop = true → ∀ other rival, other ≠ id →
      ledger.system.jobs.lookup other = some rival → rival.inLoop = false :=
    fun left goes looping other rival differs found =>
      h.alone slot solitary (continues left goes) looping differs found
  have fresh : ∀ left, next = some left → JobFresh ledger.checkpointed left :=
    fun left goes => (continues left goes).fresh h.settled.1 (h.jobs id job slot)
  -- a step that takes checkpoints back, or makes none
  have fewer : ∀ checkpointed ⊆ ledger.checkpointed,
      (ledger.system.step env (.advance id outside)).Campaigns (Settled checkpointed) →
      Ledger.Exact ⟨ledger.system.step env (.advance id outside), checkpointed⟩ := by
    intro checkpointed subset settled
    refine h.put settled jobs ?_ ?_
    · exact fun left goes => ⟨(fresh left goes).mono subset, alone left goes⟩
    · exact fun other rival _ found => (h.jobs other rival found).mono subset
  cases made : ledger.system.checkpoints env (.advance id outside) with
  | none =>
    by_cases reset : ledger.system.resets (.advance id outside) = true
    · simp only [Ledger.step, made, reset, if_true]
      refine fewer _ filter_sublist.subset ⟨completeIn_settled distinct.1 ?_,
        completeIn_settled distinct.2 ?_⟩
      · exact fun attempt member => (Bool.and_eq_true_iff.mp (mem_filter.mp member).2).1
      · exact fun attempt member => (Bool.and_eq_true_iff.mp (mem_filter.mp member).2).2
    · simp only [Ledger.step, made, reset]
      exact fewer _ (List.Subset.refl _)
        (step_settled h.settled (.inr (by simpa using reset)) h.planned)
  | some attemptId =>
    simp only [Ledger.step, made]
    cases job with
    | checkpointing execution tuple result tuples =>
      simp only [checkpoints, slot] at made
      split_ifs at made with acknowledged
      cases made
      have unreset : ledger.system.resets (.advance id outside) = false := by
        simp [resets, slot]
      have kept : (ledger.system.step env (.advance id outside)).Campaigns
          (Settled ledger.checkpointed) := step_settled h.settled (.inr unreset) h.planned
      have settled := checkpoint_settled slot up acknowledged.2.1 acknowledged.2.2
        h.settled kept
      refine h.put settled jobs ?_ ?_
      · exact fun left goes =>
          ⟨(continues left goes).fresh_checkpointed (h.jobs id _ slot), alone left goes⟩
      · intro other rival differs found
        refine (h.jobs other rival found).of_not_inLoop ?_
        by_contra looping
        exact differs (h.single id _ other rival slot found rfl (by simpa using looping))
    | _ => simp [checkpoints, slot] at made

/-- One step in which an execution enters its loop alone keeps the ledger exact. -/
theorem Ledger.Exact.step (h : ledger.Exact) (solitary : ledger.system.solitary event = true) :
    (ledger.step env event).Exact := by
  cases event with
  | submit id call => exact h.submit
  | advance id outside =>
    cases slot : ledger.system.jobs.lookup id with
    | none =>
      have same : ledger.step env (.advance id outside) = ledger := by
        simp [Ledger.step, System.step, System.checkpoints, System.resets, slot]
      rw [same]
      exact h
    | some job =>
      by_cases up : ledger.system.running = true
      · exact h.advance slot up solitary
      · have same : (ledger.step env (.advance id outside)).system = ledger.system :=
          step_stopped (by simpa using up)
        have subset : (ledger.step env (.advance id outside)).checkpointed ⊆
            ledger.checkpointed := by
          have unmade : ledger.system.checkpoints env (.advance id outside) = none := by
            cases job <;> simp [checkpoints, slot, up]
          simp only [Ledger.step, unmade]
          split_ifs
          · exact filter_sublist.subset
          · exact List.Subset.refl _
        have settled : (ledger.step env (.advance id outside)).system.Campaigns
            (Settled (ledger.step env (.advance id outside)).checkpointed) := by
          rw [same]
          exact ⟨h.settled.1.mono subset, h.settled.2.mono subset⟩
        exact h.still settled (congrArg System.jobs same) subset
  | others store flags =>
    have settled : (ledger.system.step env (.others store flags)).Campaigns
        (Settled ledger.checkpointed) := System.step_settled h.settled (.inr rfl) h.planned
    refine h.still settled ?_ (List.Subset.refl _)
    simp only [System.step]
    split_ifs <;> rfl
  | crash => exact .idle (System.step_settled h.settled (.inr rfl) h.planned) rfl
  | reopen startup =>
    have settled : (ledger.system.step env (.reopen startup)).Campaigns
        (Settled ledger.checkpointed) := System.step_settled h.settled (.inr rfl) h.planned
    have jobs : (ledger.system.step env (.reopen startup)).jobs = ledger.system.jobs ∨
        (ledger.system.step env (.reopen startup)).jobs = ∅ := by
      simp only [System.step]
      by_cases up : ledger.system.running = true
      · rw [if_pos up]
        exact .inl rfl
      · rw [if_neg up]
        exact reopen_jobs
    rcases jobs with kept | cleared
    · exact h.still settled kept (List.Subset.refl _)
    · exact .idle settled cleared

end Steps

/-! ## The result -/

variable {env}

variable {tuple : RecordingTupleRecord}

theorem nextCapture_eq_awaiting
    (h : nextCapture execution cancelled tuples = .awaiting started tuple rest) :
    tuple ∈ tuples ∧ tuple.state ≠ .complete := by
  cases tuples with
  | nil => cases h
  | cons head tuples =>
    simp only [nextCapture] at h
    split_ifs at h with complete
    cases h
    exact ⟨mem_cons_self .., complete⟩

theorem System.Continues.starts {s : System} {execution started : Execution}
    (continues : s.Continues env outside (.capturing execution tuples) left)
    (isAwaiting : left = .awaiting started tuple rest) :
    tuple ∈ tuples ∧ tuple.state ≠ .complete := by
  cases continues with
  | capture => exact nextCapture_eq_awaiting isAwaiting
  | fail => cases isAwaiting

theorem Ledger.Exact.starts {ledger : Ledger} (h : ledger.Exact)
    (starts : ledger.system.starts env event = some tuple) :
    tuple.attemptId ∉ ledger.checkpointed := by
  cases event with
  | advance id outside =>
    simp only [System.starts] at starts
    split at starts
    · rename_i execution tuples execution' started rest slot after
      obtain rfl := Option.some.inj starts
      have up : ledger.system.running = true := by
        by_contra stopped
        rw [step_stopped (by simpa using stopped), slot] at after
        cases after
      obtain ⟨next, jobs, continues⟩ := @advance_jobs env ledger.system outside id
        (.capturing execution tuples)
      rw [step_advance slot up, jobs, put_lookup_self] at after
      obtain ⟨member, incomplete⟩ := (continues _ after).starts rfl
      obtain ⟨-, pending⟩ : JobFresh ledger.checkpointed (.capturing execution tuples) :=
        h.jobs id _ slot
      exact pending started member incomplete
    · cases starts
  | _ => cases starts

/-- At most one capture of an attempt is outstanding, and no step starts one for an
attempt that is checkpointed. -/
def Ledger.CapturesOnce (env : Platform) (ledger : Ledger) : Prop :=
  (∀ id other job rival attemptId, ledger.system.jobs.lookup id = some job →
    ledger.system.jobs.lookup other = some rival → job.outstanding = some attemptId →
    rival.outstanding = some attemptId → other = id) ∧
  ∀ event tuple, ledger.system.starts env event = some tuple →
    tuple.attemptId ∉ ledger.checkpointed

theorem Job.inLoop_of_outstanding {job : Job} {attemptId : String}
    (outstanding : job.outstanding = some attemptId) : job.inLoop = true := by
  cases job with
  | awaiting execution tuple tuples => rfl
  | _ => cases outstanding

/-- If executions enter their capture loops alone, no capture is paid for twice. -/
theorem captures_are_not_duplicated {runner : String} {ledger : Ledger} {events : List Event}
    (run : Run (Guarded (Ledger.step env) fun ledger event => ledger.system.solitary event)
      ⟨fresh runner, []⟩ events ledger) : ledger.CapturesOnce env := by
  have exactly : ledger.Exact := by
    refine Run.invariant (fun before event next h stepped => ?_) run ?_
    · obtain ⟨rfl, allowed⟩ := stepped
      exact h.step allowed
    · exact .idle ⟨nofun, nofun⟩ rfl
  constructor
  · intro id other job rival attemptId found found' outstanding outstanding'
    exact exactly.single id job other rival found found' (Job.inLoop_of_outstanding outstanding)
      (Job.inLoop_of_outstanding outstanding')
  · intro event tuple starts
    exact exactly.starts starts

def Ledger.sample (events : List Event) : Ledger :=
  events.foldl (Ledger.step Platform.sample) ⟨fresh "runner-1", []⟩

/-- Capture the only tuple of a campaign, remove its cassette and capture it again. -/
def sampleRecapture : List Event :=
  samplePlanned ++ [.submit 0 (.recordingCampaign .execute (sampleCall "execute" none))] ++
  List.replicate 11 (.advance 0 .captures) ++
  [.submit 0
    (.recordingCampaign .remove (sampleCall "remove" (some sampleCassette.cassetteSha256)))] ++
  List.replicate 4 (.advance 0 .calm) ++
  [.submit 0 (.recordingCampaign .execute (sampleCall "again" none))] ++
  List.replicate 11 (.advance 0 .captures)

theorem captures_are_not_duplicated_sample :
    (Ledger.sample sampleRecapture).checkpointed.length = 1 ∧
      (Ledger.sample sampleRecapture).CapturesOnce Platform.sample := by
  have checked : (Ledger.sample sampleRecapture).checkpointed.length = 1 ∧
      allows (Ledger.step Platform.sample) (fun ledger event => ledger.system.solitary event)
        ⟨fresh "runner-1", []⟩ sampleRecapture = true := by
    decide +kernel
  exact ⟨checked.1, captures_are_not_duplicated (Run.of_allows checked.2)⟩

/-- Two executions of one campaign, under different keys. -/
def sampleOverlap : List Event :=
  samplePlanned ++ [.submit 0 (.recordingCampaign .execute (sampleCall "execute" none))] ++
  List.replicate 5 (.advance 0 .calm) ++
  [.submit 1 (.recordingCampaign .execute (sampleCall "again" none))] ++
  List.replicate 5 (.advance 1 .calm)

/-- The campaign that is recording admits a second execution, and both capture the
same tuple at the same time. -/
theorem not_captures_are_not_duplicated :
    ¬ ∀ (env : Platform) (runner : String) (events : List Event) (ledger : Ledger),
      Run (fun before event after => after = Ledger.step env before event)
        ⟨fresh runner, []⟩ events ledger → ledger.CapturesOnce env := by
  intro claim
  have checked : ∃ attemptId,
      ((Ledger.sample sampleOverlap).system.jobs.lookup 0).bind Job.outstanding = some attemptId ∧
      ((Ledger.sample sampleOverlap).system.jobs.lookup 1).bind Job.outstanding = some attemptId :=
    ⟨"campaign-57b578dc0000000000000000-codex-original.bug-fix-attempt", by decide +kernel⟩
  obtain ⟨attemptId, first, second⟩ := checked
  obtain ⟨job, found, outstanding⟩ := Option.bind_eq_some_iff.mp first
  obtain ⟨rival, found', outstanding'⟩ := Option.bind_eq_some_iff.mp second
  have once := claim Platform.sample "runner-1" sampleOverlap _ (Run.foldl _ _ _)
  have same := once.1 0 1 job rival attemptId found found' outstanding outstanding'
  exact absurd same (by decide)

end AgentSystemsBenchmark.Control
