import AgentSystemsBenchmark.Control.Transitions
import AgentSystemsBenchmark.Library.Runs

/-!
# Referenced cassettes

Artifacts are content-addressed, so several tuples may refer to one file, and a
removal collects the digests to unlink before its mutation and unlinks them after
it. The result below says when every complete tuple of a campaign that is not
removed keeps a valid artifact: a removal must not be a replay, must not name a
digest two tuples share, and must not overlap an execution, a seal or another
removal; and nothing may lead a removed campaign back.
-/

namespace AgentSystemsBenchmark.Control

open Effects Runs List Control.System

/-! ## The condition -/

def Outside.filesSucceed (outside : Outside) : Bool :=
  outside.commit = .synced ∧ outside.unreadable = [] ∧ outside.write = .written ∧ outside.moves

/-- All file operations of the step succeed. -/
def Event.filesSucceed : Event → Bool
  | .advance _ outside => outside.filesSucceed
  | .reopen startup => startup.commit = .synced ∧ startup.stuck = []
  | _ => true

/-- The call captures cassettes, or vouches for the ones that are there. -/
def Job.records : Job → Bool
  | .resetting _ | .admitting _ | .clearing _ | .intending _ | .snapshotting _ | .capturing _ _
  | .awaiting _ _ _ | .persisting _ _ _ _ | .publishing _ _ _ _ | .checkpointing _ _ _ _
  | .finishing _ _ => true
  | .committing action _ _ => action = .seal
  | .planning _ | .installing _ _ | .flagging _ | .collecting _ | .unlinking _ => false

/-- The call removes cassettes. -/
def Job.removes : Job → Bool
  | .collecting _ | .unlinking _ => true
  | .committing action _ _ => action = .remove
  | _ => false

/-- The campaign a call names is removed. -/
def System.namesRemoved (s : System) (params : RecordingLifecycleParams) : Bool :=
  s.store.live.recordingCampaign.any fun record =>
    record.state = .removed ∧ record.campaignId = params.campaignId

/-- At most one tuple refers to the digest. -/
def System.unshared (s : System) (digest : String) : Bool :=
  s.store.live.recordingCampaign.all fun record =>
    record.coverage.countP (RecordingTupleRecord.refersTo digest) ≤ 1

variable (env : Platform)

/-- Removals stay apart from executions, seals and each other, and commit only for
the first time and on an unshared digest; a removed campaign is not cancelled and
loses no further cassette. -/
def System.orderly (s : System) : Event → Bool
  | .submit _ (.recordingCampaign action _) =>
    if action = .remove then !s.busy fun job => job.records || job.removes
    else if action ∈ [.execute, .retry, .seal] then !s.busy Job.removes
    else true
  | .advance id _ =>
    match s.jobs.lookup id with
    | some (.committing .cancel params _) => !s.namesRemoved params
    | some (.committing .remove params _) =>
      env.sha256 params.idempotencyKey ∉ s.store.live.mutations ∧
        params.cassetteSha256.all fun digest => !s.namesRemoved params && s.unshared digest
    | _ => true
  | _ => true

/-! ## The invariant -/

/-- What a job in flight knows about the files and the campaign. -/
def JobSound (campaign : Option RecordingCampaignRecord) (cassettes : Table String) : Job → Prop
  | .installing _ planned =>
    (∀ entry ∈ planned.coverage, entry.state = .ready) ∧ planned.offlineReady = false
  | .committing action params digests =>
    action = .remove → ∀ digest ∈ digests, params.cassetteSha256.all (· = digest) = true
  | .unlinking digests => ∀ record, campaign = some record → record.Refers (· ∉ digests)
  | .persisting _ _ result _ => isOk (validateDigest result.cassetteSha256) = true
  | .publishing _ _ result _ =>
    isOk (validateDigest result.cassetteSha256) = true ∧
      cassetteArtifactValidBytes env result.cassetteJson result.cassetteSha256 = true
  | .checkpointing _ _ result _ =>
    cassetteArtifactValid env cassettes result.cassetteSha256 = true
  | _ => True

/-- Every complete tuple has its artifact, and the jobs in flight will keep it so. -/
structure System.Sound (s : System) : Prop where
  same : s.store.disk.recordingCampaign = s.store.live.recordingCampaign
  covered : ∀ record, s.store.live.recordingCampaign = some record →
    record.Refers (fun digest => cassetteArtifactValid env s.cassettes digest = true) ∧ record.Ready
  jobs : ∀ id job, s.jobs.lookup id = some job →
    JobSound env s.store.live.recordingCampaign s.cassettes job
  apart : ∀ id job, s.jobs.lookup id = some job → job.removes = true →
    ∀ other rival, s.jobs.lookup other = some rival → other ≠ id →
      rival.removes = false ∧ rival.records = false

/-- The campaign's artifacts are there. -/
def System.Covered (s : System) : Prop :=
  ∀ record, s.store.live.recordingCampaign = some record →
    record.Refers (fun digest => cassetteArtifactValid env s.cassettes digest = true) ∧ record.Ready

/-- What a job leaves in its slot is sound, and no more of a removal or an execution. -/
structure System.Leads (s : System) (job left : Job) : Prop where
  sound : JobSound env s.store.live.recordingCampaign s.cassettes left
  removing : left.removes ≤ job.removes
  recording : left.records ≤ job.records

section Frames

variable {s t : System} {id other : Nat} {job : Job} {next : Option Job}

variable {env}

namespace System

/-- A change of one slot: what is left there is sound and keeps apart from the other
jobs, and what those know still holds. -/
theorem Sound.fill (h : s.Sound env) (jobs : t.jobs = (s.put id next).jobs)
    (same : t.store.disk.recordingCampaign = t.store.live.recordingCampaign)
    (covered : t.Covered env)
    (own : ∀ left, next = some left →
      JobSound env t.store.live.recordingCampaign t.cassettes left ∧
        ∀ other rival, other ≠ id → s.jobs.lookup other = some rival →
          (left.removes = true → rival.removes = false ∧ rival.records = false) ∧
          (rival.removes = true → left.removes = false ∧ left.records = false))
    (others : ∀ other rival, other ≠ id → s.jobs.lookup other = some rival →
      JobSound env t.store.live.recordingCampaign t.cassettes rival) : t.Sound env := by
  refine ⟨same, covered, ?_, ?_⟩
  · intro other rival found
    rcases slot_cases jobs found with ⟨rfl, goes⟩ | ⟨distinct, found⟩
    · exact (own rival goes).1
    · exact others other rival distinct found
  · intro first left found removes other rival found' distinct
    rcases slot_cases jobs found with ⟨rfl, goes⟩ | ⟨differs, found⟩
    · have found' := (slot_cases jobs found').resolve_left fun own => distinct own.1
      exact ((own left goes).2 other rival distinct found'.2).1 removes
    · rcases slot_cases jobs found' with ⟨rfl, goes⟩ | ⟨-, found'⟩
      · exact ((own rival goes).2 first left differs found).2 removes
      · exact h.apart first left found removes other rival found' distinct

/-- A step of one job: what it leaves in its slot is sound and no more of a removal or
an execution than before, and what the other jobs know still holds. -/
theorem Sound.advance (h : s.Sound env) (slot : s.jobs.lookup id = some job)
    (jobs : t.jobs = (s.put id next).jobs)
    (same : t.store.disk.recordingCampaign = t.store.live.recordingCampaign)
    (covered : t.Covered env)
    (own : ∀ left, next = some left → t.Leads env job left)
    (others : ∀ other rival, other ≠ id → s.jobs.lookup other = some rival →
      JobSound env t.store.live.recordingCampaign t.cassettes rival) : t.Sound env := by
  refine h.fill jobs same covered (fun left goes => ?_) others
  obtain ⟨sound, removing, recording⟩ := own left goes
  refine ⟨sound, fun other rival distinct found => ⟨fun removes => ?_, fun removes => ?_⟩⟩
  · exact h.apart id job slot (removing removes) other rival found distinct
  · obtain ⟨unremoving, unrecording⟩ := h.apart other rival found removes id job slot distinct.symm
    rw [unremoving] at removing
    rw [unrecording] at recording
    exact ⟨le_bot_iff.mp removing, le_bot_iff.mp recording⟩

/-! ## Mutations -/

variable {outside : Outside} {call : ControlCall}

/-- The campaign after a mutation. -/
theorem mutate_campaign {key : String} {target : MutationTarget}
    {build : Catalog → Except BackendFailure (ControlResult × Catalog)}
    {next : Except BackendFailure BoundControlResult → Option Job}
    (same : s.store.disk.recordingCampaign = s.store.live.recordingCampaign)
    (moved : t = s.mutate env outside id call key target build next) :
    t.store.disk.recordingCampaign = t.store.live.recordingCampaign ∧
      (t.store.live.recordingCampaign = s.store.live.recordingCampaign ∨
        ∃ result built, build s.store.live = .ok (result, built) ∧
          t.store.live.recordingCampaign = built.recordingCampaign) := by
  subst moved
  have outcome := @mutation_project env outside.toMoment s.store call key target build _
    Catalog.recordingCampaign same
  obtain ⟨campaign, live, disk, origin⟩ := outcome
  simp only [mutate, put_store]
  refine ⟨disk.trans live.symm, ?_⟩
  rcases origin with rfl | ⟨result, built, done, rfl⟩
  · exact .inl live
  · exact .inr ⟨result, built, done, live⟩

variable {transition : RecordingCampaignRecord → Except BackendFailure RecordingCampaignRecord}

/-- Under the condition a transition moves tuples away from completion, records a
capture, or seals. -/
theorem transition_cases {campaignId : String}
    {record after : RecordingCampaignRecord} (slot : s.jobs.lookup id = some job)
    (ordered : s.orderly env (.advance id outside) = true)
    (isNext : s.transition env outside job = some (campaignId, transition))
    (live : s.store.live.recordingCampaign = some record) (named : record.campaignId = campaignId)
    (ok : transition record = .ok after) :
    Moves record after ∨
    (∃ execution tuple result tuples, job = .checkpointing execution tuple result tuples ∧
      tupleCheckpoint tuple.attemptId result record = .ok after) ∨
    (job.records = true ∧ sealCampaign (s.sees env outside) record = .ok after) := by
  cases job with
  | resetting params =>
    cases isNext
    exact .inl (retryReset_moves ok)
  | committing action params digests =>
    cases isNext
    obtain ⟨_, -, ok⟩ := bind_eq_ok.mp ok
    cases action with
    | cancel =>
      have present : record.state ≠ .removed := by
        intro removed
        simp [orderly, slot, namesRemoved, live, removed, named] at ordered
      exact .inl (cancelCampaign_moves present ok)
    | reconcile =>
      cases ok
      exact .inl reconcileCampaign_moves
    | offlineDefault => exact .inl (offlineDefault_moves ok)
    | «seal» => exact .inr (.inr ⟨by simp [Job.records], ok⟩)
    | reopen => exact .inl (reopenCampaign_moves ok)
    | remove =>
      obtain ⟨_, -, ok⟩ := bind_eq_ok.mp ok
      cases cassette : params.cassetteSha256 with
      | none =>
        rw [cassette] at ok
        exact .inl (removeWhole_moves ok).2
      | some digest =>
        rw [cassette] at ok
        have present : record.state ≠ .removed := by
          intro removed
          simp [orderly, slot, namesRemoved, live, removed, named, cassette] at ordered
        exact .inl (removeCassette_moves ok present)
    | execute => cases ok
    | retry => cases ok
  | intending execution =>
    cases isNext
    exact .inl (executeIntent_moves ok)
  | checkpointing execution tuple result tuples =>
    cases isNext
    exact .inr (.inl ⟨execution, tuple, result, tuples, rfl, ok⟩)
  | finishing execution failure =>
    cases isNext
    exact .inl (executeResult_moves ok)
  | _ => cases isNext

variable {digest : String}

theorem sees_valid (seen : s.sees env outside digest = true) :
    cassetteArtifactValid env s.cassettes digest = true :=
  (Bool.and_eq_true_iff.mp seen).2

section
variable (h : s.Sound env) (slot : s.jobs.lookup id = some job)
include h slot

/-- A campaign mutation keeps the invariant if the job it leads to is sound. -/
theorem Sound.mutate (ordered : s.orderly env (.advance id outside) = true) {campaignId : String}
    (isNext : s.transition env outside job = some (campaignId, transition))
    {key : String} {target : MutationTarget}
    {next : Except BackendFailure BoundControlResult → Option Job}
    (moved : t = s.mutate env outside id call key target (onCampaign campaignId transition) next)
    (own : ∀ left, next (mutation env outside.toMoment call key target
        (onCampaign campaignId transition) s.store).1 = some left → t.Leads env job left) :
    t.Sound env := by
  obtain ⟨same, origin⟩ := System.mutate_campaign h.same moved
  have kept : t.cassettes = s.cassettes := by
    rw [moved]
    exact mutate_jobs.2
  have jobs := System.mutate_jobs.1 ▸ congrArg System.jobs moved
  -- the campaign is the old one, or the transition was applied to it
  have outcome : t.store.live.recordingCampaign = s.store.live.recordingCampaign ∨
      ∃ record after, s.store.live.recordingCampaign = some record ∧
        record.campaignId = campaignId ∧ transition record = .ok after ∧
        t.store.live.recordingCampaign = some after := by
    rcases origin with unchanged | ⟨result, built, done, live⟩
    · exact .inl unchanged
    · obtain ⟨record, after, found, named, ok, -, rfl⟩ := onCampaign_eq_ok done
      exact .inr ⟨record, after, found, named, ok, live⟩
  refine h.advance slot jobs same ?_ own ?_
  · rw [Covered, kept]
    rcases outcome with unchanged | ⟨record, after, found, named, ok, live⟩
    · rw [unchanged]
      exact h.covered
    · intro current isCurrent
      obtain rfl := Option.mem_unique live isCurrent
      obtain ⟨refers, ready⟩ := h.covered record found
      rcases transition_cases slot ordered isNext found named ok with
        moves | ⟨execution, tuple, result, tuples, rfl, ok⟩ | ⟨-, ok⟩
      · exact ⟨moves.refers refers, moves.ready ready⟩
      · exact ⟨tupleCheckpoint_refers ok refers (h.jobs id _ slot), tupleCheckpoint_ready ok ready⟩
      · exact ⟨sealCampaign_refers ok fun _ => sees_valid, sealCampaign_ready ok⟩
  · intro other rival distinct found
    rw [kept]
    rcases outcome with unchanged | ⟨record, after, live, named, ok, live'⟩
    · rw [unchanged]
      exact h.jobs other rival found
    · have before := h.jobs other rival found
      cases rival with
      | unlinking digests =>
        -- a removal in flight: this job neither records nor removes
        have idle := h.apart other _ found rfl id job slot distinct.symm
        intro current isCurrent
        obtain rfl := Option.mem_unique live' isCurrent
        rcases transition_cases slot ordered isNext live named ok with
          moves | ⟨execution, tuple, result, tuples, rfl, -⟩ | ⟨recording, -⟩
        · exact moves.refers (before record live)
        · cases idle.2
        · rw [recording] at idle
          cases idle.2
      | _ => exact before

/-! ## Sections outside the catalog lock -/

/-- A section that touches neither the catalog nor the cassette files. -/
theorem Sound.still (store : t.store = s.store) (cassettes : t.cassettes = s.cassettes)
    (jobs : t.jobs = (s.put id next).jobs)
    (own : ∀ left, next = some left → s.Leads env job left) :
    t.Sound env := by
  refine h.advance slot jobs ?_ ?_ ?_ ?_
  · rw [store]
    exact h.same
  · rw [Covered, store, cassettes]
    exact h.covered
  · intro left goes
    obtain ⟨sound, removing, recording⟩ := own left goes
    exact ⟨by rw [store, cassettes]; exact sound, removing, recording⟩
  · intro other rival _ found
    rw [store, cassettes]
    exact h.jobs other rival found

theorem Sound.put (own : ∀ left, next = some left → s.Leads env job left) :
    (s.put id next).Sound env :=
  h.still slot (put_store id next) put_cassettes rfl own

theorem Sound.goOn (sound : JobSound env s.store.live.recordingCampaign s.cassettes left)
    (removes : left.removes ≤ job.removes) (records : left.records ≤ job.records) :
    (s.put id (some left)).Sound env := by
  refine h.put slot ?_
  rintro _ ⟨⟩
  exact ⟨sound, removes, records⟩

end

end System

variable {cassettes : Table String}

theorem cassetteArtifactValid_erase (distinct : kept ≠ digest) :
    cassetteArtifactValid env (cassettes.erase digest) kept =
      cassetteArtifactValid env cassettes kept := by
  unfold cassetteArtifactValid
  rw [AList.lookup_erase_ne distinct]

/-- Publishing a valid artifact makes its digest valid and no other digest invalid. -/
theorem cassetteArtifactValid_insert {bytes other : String}
    (hex : isOk (validateDigest digest) = true)
    (valid : cassetteArtifactValidBytes env bytes digest = true)
    (old : other = digest ∨ cassetteArtifactValid env cassettes other = true) :
    cassetteArtifactValid env (cassettes.insert digest bytes) other = true := by
  unfold cassetteArtifactValid at old ⊢
  by_cases same : other = digest
  · rw [same, AList.lookup_insert, hex]
    simpa using valid
  · rw [AList.lookup_insert_ne same]
    exact old.resolve_left same

variable {tuples : List RecordingTupleRecord} {result : ProviderCaptureResult}

variable {tuple : RecordingTupleRecord}

theorem System.Sound.publish (h : s.Sound env)
    (slot : s.jobs.lookup id = some (.publishing execution tuple result tuples)) :
    (s.publish outside id execution tuple result tuples).Sound env := by
  obtain ⟨hex, valid⟩ := h.jobs id _ slot
  unfold System.publish
  by_cases moves : outside.moves = true
  · rw [if_pos moves]
    refine h.advance slot (System.put_jobs rfl) h.same ?_ ?_ ?_
    · intro record live
      obtain ⟨refers, ready⟩ := h.covered record live
      refine ⟨fun present entry member digest complete refers' => ?_, ready⟩
      exact cassetteArtifactValid_insert hex valid
        (.inr (refers present entry member digest complete refers'))
    · rintro left ⟨⟩
      exact ⟨cassetteArtifactValid_insert hex valid (.inl rfl), le_rfl, le_rfl⟩
    · intro other rival _ found
      have before := h.jobs other rival found
      cases rival with
      | checkpointing execution' tuple' result' tuples' =>
        exact cassetteArtifactValid_insert hex valid (.inr before)
      | _ => exact before
  · rw [if_neg moves]
    exact h.goOn slot trivial le_rfl le_rfl

theorem System.Sound.persist (h : s.Sound env)
    (slot : s.jobs.lookup id = some (.persisting execution tuple result tuples)) :
    (s.persist env outside id execution tuple result tuples).Sound env := by
  have hex : isOk (validateDigest result.cassetteSha256) = true := h.jobs id _ slot
  have fails : (s.put id (some (.finishing execution (some .verification)))).Sound env :=
    h.goOn slot trivial le_rfl le_rfl
  unfold System.persist
  dsimp only
  split_ifs with rejected leftover seen
  · exact fails
  · exact h.goOn slot (sees_valid seen) le_rfl le_rfl
  · exact fails
  · push Not at rejected
    cases outside.write with
    | written =>
      dsimp only
      refine h.still slot rfl rfl (put_jobs rfl) ?_
      rintro left ⟨⟩
      exact ⟨⟨hex, rejected.2⟩, le_rfl, le_rfl⟩
    | failed => exact fails
    | torn =>
      dsimp only
      refine h.still slot rfl rfl (put_jobs rfl) ?_
      rintro left ⟨⟩
      exact ⟨trivial, le_rfl, le_rfl⟩

variable {digests : List String}

/-- Unlinking a digest of a committed removal takes the artifact of no complete tuple. -/
theorem System.Sound.unlink (h : s.Sound env)
    (slot : s.jobs.lookup id = some (.unlinking (digest :: digests))) :
    (s.advance env outside id (.unlinking (digest :: digests))).Sound env := by
  have known : ∀ record, s.store.live.recordingCampaign = some record →
      record.Refers (· ∉ digest :: digests) := h.jobs id _ slot
  have rest : ∀ record, s.store.live.recordingCampaign = some record →
      record.Refers (· ∉ digests) := by
    intro record live present entry member kept complete refers later
    exact known record live present entry member kept complete refers
      (mem_cons_of_mem _ later)
  simp only [System.advance]
  by_cases erases : isOk (validateDigest digest) = true ∧ outside.moves = true
  · rw [if_pos erases]
    refine h.advance slot (System.put_jobs rfl) h.same ?_ ?_ ?_
    · intro record live
      obtain ⟨refers, ready⟩ := h.covered record live
      refine ⟨fun present entry member kept complete refers' => ?_, ready⟩
      have apart := known record live present entry member kept complete refers'
      have distinct : kept ≠ digest := by
        rintro rfl
        exact apart (mem_cons_self ..)
      show cassetteArtifactValid env (s.cassettes.erase digest) kept = true
      rw [cassetteArtifactValid_erase distinct]
      exact refers present entry member kept complete refers'
    · rintro left ⟨⟩
      exact ⟨rest, le_rfl, le_rfl⟩
    · intro other rival distinct found
      have before := h.jobs other rival found
      have idle := h.apart id _ slot rfl other rival found distinct
      cases rival with
      | checkpointing execution tuple result tuples => cases idle.2
      | _ => exact before
  · rw [if_neg erases]
    refine h.still slot rfl rfl (put_jobs rfl) ?_
    rintro left ⟨⟩
    exact ⟨rest, le_rfl, le_rfl⟩

/-! ## Steps -/

variable {record : RecordingCampaignRecord}

theorem removeDigests_named :
    ∀ digest ∈ removeDigests cassette record, cassette.all (· = digest) = true := by
  intro digest member
  cases cassette with
  | none => rfl
  | some named =>
    obtain ⟨entry, kept, refers⟩ := mem_filterMap.mp member
    have same : entry.cassetteSha256 = some named := by
      simpa [RecordingTupleRecord.refersTo] using (mem_filter.mp kept).2
    rw [same] at refers
    simpa using refers

variable {params : RecordingLifecycleParams}

/-- A committed removal leaves no complete tuple that refers to a digest it will unlink. -/
theorem System.Sound.committed_removal (h : s.Sound env)
    (slot : s.jobs.lookup id = some (.committing .remove params digests))
    (ordered : s.orderly env (.advance id outside) = true)
    (goes : onSuccess (some (.unlinking digests)) (mutation env outside.toMoment
      (.recordingCampaign .remove params) params.idempotencyKey
      (lifecycleTarget params.campaignId RecordingLifecycleAction.remove.name)
      (onCampaign params.campaignId
        (lifecycleTransition (s.sees env outside) digests .remove params)) s.store).1 = some left) :
    JobSound env (s.advance env outside id
      (.committing .remove params digests)).store.live.recordingCampaign s.cassettes left := by
  have named := h.jobs id _ slot rfl
  cases answer : (mutation env outside.toMoment (.recordingCampaign .remove params)
      params.idempotencyKey (lifecycleTarget params.campaignId RecordingLifecycleAction.remove.name)
      (onCampaign params.campaignId
        (lifecycleTransition (s.sees env outside) digests .remove params)) s.store).1 with
  | error failure =>
    rw [answer] at goes
    cases goes
  | ok bound =>
    rw [answer] at goes
    obtain rfl : Job.unlinking digests = left := Option.some.inj goes
    have first : env.sha256 params.idempotencyKey ∉ s.store.live.mutations := by
      have parts := ordered
      simp only [orderly, slot, Bool.decide_and, Bool.and_eq_true, decide_eq_true_eq] at parts
      exact parts.1
    rcases mutation_ok answer with ⟨record, known, -⟩ | ⟨-, result, built, done, -, stored, -⟩
    · exact absurd (AList.lookup_isSome.mp (known ▸ rfl)) first
    · obtain ⟨record, after, live, isNamed, ok, -, rfl⟩ := onCampaign_eq_ok done
      intro current isCurrent
      simp only [System.advance, System.mutate, System.put_store, stored] at isCurrent
      obtain rfl : after = current := Option.some.inj isCurrent
      obtain ⟨_, -, ok⟩ := bind_eq_ok.mp ok
      obtain ⟨_, -, ok⟩ := bind_eq_ok.mp ok
      cases cassette : params.cassetteSha256 with
      | none =>
        rw [cassette] at ok
        intro present
        exact absurd (removeWhole_moves ok).1 present
      | some digest =>
        rw [cassette] at ok named
        have single : record.coverage.countP (RecordingTupleRecord.refersTo digest) ≤ 1 := by
          have parts := ordered
          simp only [orderly, slot, cassette, Bool.decide_and, Bool.and_eq_true,
            Option.all_some, unshared, live, decide_eq_true_eq] at parts
          exact parts.2.2
        intro _ entry member kept _ refers listed
        obtain rfl : digest = kept := by simpa using named kept listed
        exact removeCassette_unreferenced ok single entry member refers

/-- A newly planned campaign refers to nothing. -/
theorem System.Sound.install (h : s.Sound env) {params : RecordingCampaignPlanParams}
    {campaign : RecordingCampaignRecord}
    (slot : s.jobs.lookup id = some (.installing params campaign)) :
    (s.advance env outside id (.installing params campaign)).Sound env := by
  obtain ⟨ready, unready⟩ : (∀ entry ∈ campaign.coverage, entry.state = .ready) ∧
      campaign.offlineReady = false := h.jobs id _ slot
  have refersNothing : ∀ Q, campaign.Refers Q := by
    intro Q _ entry member digest complete
    rw [ready entry member] at complete
    cases complete
  have moved : s.advance env outside id (.installing params campaign) =
      s.mutate env outside id _ _ _ (installCampaign campaign) fun _ => none := rfl
  obtain ⟨same, origin⟩ := mutate_campaign h.same moved
  have live :
      (s.advance env outside id (.installing params campaign)).store.live.recordingCampaign =
      s.store.live.recordingCampaign ∨
      (s.advance env outside id (.installing params campaign)).store.live.recordingCampaign =
        some campaign := by
    rcases origin with unchanged | ⟨result, built, done, installed⟩
    · exact .inl unchanged
    · cases done
      exact .inr installed
  have kept : (s.advance env outside id (.installing params campaign)).cassettes = s.cassettes :=
    mutate_jobs.2
  refine h.advance slot mutate_jobs.1 same ?_ (by rintro left ⟨⟩) ?_
  · rw [Covered, kept]
    intro record isLive
    rcases live with unchanged | installed
    · exact h.covered record (unchanged ▸ isLive)
    · obtain rfl := Option.mem_unique installed isLive
      exact ⟨refersNothing _, .of_unready unready⟩
  · intro other rival _ found
    rw [kept]
    have before := h.jobs other rival found
    rcases live with unchanged | installed
    · rw [unchanged]
      exact before
    · cases rival with
      | unlinking digests =>
        intro record isLive
        obtain rfl := Option.mem_unique installed isLive
        exact refersNothing _
      | _ => exact before

theorem System.Sound.run (h : s.Sound env) (slot : s.jobs.lookup id = some job)
    (ordered : s.orderly env (.advance id outside) = true) :
    (s.advance env outside id job).Sound env := by
  have ends : (s.put id none).Sound env := h.put slot (by rintro _ ⟨⟩)
  cases job with
  | planning params =>
    simp only [System.advance]
    cases prepared : prepareCampaign env params s.store.live with
    | error failure => exact ends
    | ok campaign =>
      exact h.goOn slot (prepareCampaign_planned prepared).2 le_rfl le_rfl
  | installing params campaign => exact h.install slot
  | resetting | intending =>
    refine h.mutate slot ordered rfl rfl ?_
    intro left goes
    obtain rfl := Option.some.inj (onSuccess_eq_some goes)
    exact ⟨trivial, le_rfl, le_rfl⟩
  | flagging params =>
    refine h.still slot (put_store ..) put_cassettes (put_jobs rfl) ?_
    rintro left ⟨⟩
    exact ⟨by simp [JobSound], le_rfl, le_rfl⟩
  | collecting params =>
    simp only [System.advance]
    cases s.store.live.campaign params.campaignId with
    | none => exact ends
    | some record => exact h.goOn slot (fun _ => removeDigests_named) le_rfl le_rfl
  | committing action params digests =>
    refine h.mutate slot ordered rfl rfl ?_
    intro left goes
    by_cases removing : action = .remove
    · subst removing
      rw [if_pos rfl] at goes
      have sound := h.committed_removal slot ordered goes
      obtain rfl := Option.some.inj (onSuccess_eq_some goes)
      exact ⟨sound, le_rfl, le_rfl⟩
    · rw [if_neg removing] at goes
      cases (onSuccess_eq_some goes)
  | unlinking digests =>
    cases digests with
    | nil => exact ends
    | cons digest digests => exact h.unlink slot
  | admitting execution =>
    refine h.put slot ?_
    intro left goes
    obtain rfl := admitExecution_eq_some goes
    exact ⟨trivial, le_rfl, le_rfl⟩
  | clearing execution =>
    refine h.still slot (put_store ..) put_cassettes (put_jobs rfl) ?_
    rintro left ⟨⟩
    exact ⟨trivial, le_rfl, le_rfl⟩
  | snapshotting execution =>
    refine h.put slot ?_
    intro left goes
    obtain ⟨record, -, rfl⟩ := Option.map_eq_some_iff.mp goes
    exact ⟨trivial, le_rfl, le_rfl⟩
  | capturing execution tuples =>
    cases tuples with
    | nil => exact h.goOn slot trivial le_rfl le_rfl
    | cons tuple tuples =>
      simp only [System.advance, nextCapture]
      split_ifs <;> exact h.goOn slot trivial le_rfl le_rfl
  | awaiting execution tuple tuples =>
    simp only [System.advance]
    cases outside.capture with
    | error error => exact h.goOn slot trivial le_rfl le_rfl
    | ok result =>
      dsimp only
      by_cases verified : result.verified = true
      · rw [if_pos verified]
        exact h.goOn slot (Bool.and_eq_true_iff.mp verified).2 le_rfl le_rfl
      · rw [if_neg verified]
        exact h.goOn slot trivial le_rfl le_rfl
  | persisting execution tuple result tuples => exact h.persist slot
  | publishing execution tuple result tuples => exact h.publish slot
  | checkpointing execution tuple result tuples =>
    have moved :=
      System.advance.eq_def env s outside id (.checkpointing execution tuple result tuples)
    dsimp only at moved
    refine h.mutate slot ordered rfl moved ?_
    intro left goes
    split at goes
    · cases goes
      exact ⟨trivial, le_rfl, le_rfl⟩
    · cases goes
      exact ⟨trivial, le_rfl, le_rfl⟩
  | finishing execution failure =>
    have moved : s.advance env outside id (.finishing execution failure) =
      s.mutate env outside id _ _ _ (onCampaign execution.campaignId _) fun _ => none := rfl
    refine h.mutate slot ordered rfl moved ?_
    rintro left ⟨⟩

/-! ## Startup -/

/-- Without jobs the invariant is about the campaign and its files alone. -/
theorem System.Sound.idle (jobs : t.jobs = ∅)
    (same : t.store.disk.recordingCampaign = t.store.live.recordingCampaign)
    (covered : t.Covered env) : t.Sound env := by
  constructor
  · exact same
  · exact covered
  · intro id job found
    rw [jobs] at found
    cases found
  · intro id job found
    rw [jobs] at found
    cases found

theorem unlinkAll_kept (spared : kept ∉ digests) :
    cassetteArtifactValid env (unlinkAll stuck digests cassettes) kept =
      cassetteArtifactValid env cassettes kept := by
  induction digests generalizing cassettes with
  | nil => rfl
  | cons digest digests ih =>
    rw [mem_cons, not_or] at spared
    rw [unlinkAll, foldl_cons, ← unlinkAll, ih spared.2]
    by_cases held : digest ∈ stuck
    · rw [if_pos held]
    · rw [if_neg held, cassetteArtifactValid_erase spared.1]

/-- The cleanup at startup spares what a campaign that is not removed names. -/
theorem cleanupRemovedCampaignArtifacts_spares (present : record.state ≠ .removed)
    (named : digest ∈ record.digests) :
    cassetteArtifactValid env
      (cleanupRemovedCampaignArtifacts stuck (some record) cassettes).2.2 digest =
        cassetteArtifactValid env cassettes digest := by
  simp only [cleanupRemovedCampaignArtifacts, if_neg present, if_true]
  apply unlinkAll_kept
  intro dead
  have unnamed := (mem_filter.mp dead).2
  rw [decide_eq_true_eq] at unnamed
  exact unnamed named

theorem settleInProgress_digests : (record.settleInProgress state).digests = record.digests := by
  simp only [RecordingCampaignRecord.digests, RecordingCampaignRecord.settleInProgress,
    filterMap_map]
  congr 1
  funext entry
  simp only [Function.comp_apply]
  split_ifs <;> rfl

theorem interruptCampaign_digests : (interruptCampaign record).digests = record.digests := by
  unfold interruptCampaign
  by_cases recording : record.state = .recording
  · rw [if_pos recording]
    exact settleInProgress_digests
  · rw [if_neg recording]

theorem interruptCampaign_present
    (present : record.state ≠ .removed) : (interruptCampaign record).state ≠ .removed := by
  unfold interruptCampaign
  by_cases recording : record.state = .recording
  · rw [if_pos recording]
    simp
  · rw [if_neg recording]
    exact present

theorem System.Sound.reopen (h : s.Sound env)
    (files : Event.filesSucceed (.reopen startup) = true) :
    (s.reopen env startup).Sound env := by
  have synced : startup.commit = .synced := (of_decide_eq_true files).1
  unfold System.reopen
  dsimp only
  by_cases valid : validateCatalog env startup.toMoment s.store.disk = .ok ()
  swap
  · rw [if_neg valid]
    exact h
  rw [if_pos valid, synced, h.same]
  cases live : s.store.live.recordingCampaign with
  | none =>
    split_ifs
    · exact .idle rfl h.same fun record found => by rw [live] at found; cases found
    · exact .idle rfl rfl fun record found => by cases found
  | some record =>
    obtain ⟨refers, ready⟩ := h.covered record live
    rw [Option.map_some]
    -- whether or not the start succeeds, the files the campaign refers to are left
    have spared : record.Refers fun digest => cassetteArtifactValid env
        (cleanupRemovedCampaignArtifacts startup.stuck (some (interruptCampaign record))
          s.cassettes).2.2 digest = true := by
      intro present entry member digest complete names
      have named : digest ∈ (interruptCampaign record).digests := by
        rw [interruptCampaign_digests]
        exact mem_filterMap.mpr ⟨entry, member, names⟩
      rw [cleanupRemovedCampaignArtifacts_spares (interruptCampaign_present present) named]
      exact refers present entry member digest complete names
    split_ifs
    · refine .idle rfl h.same fun current isCurrent => ?_
      obtain rfl := Option.mem_unique live isCurrent
      exact ⟨spared, ready⟩
    · refine .idle rfl rfl fun current isCurrent => ?_
      obtain ⟨pending, cleaned⟩ := cleanupRemovedCampaignArtifacts_campaign startup.stuck
        (some (interruptCampaign record)) s.cassettes
      obtain rfl := Option.mem_unique cleaned isCurrent
      have moves : Moves record (interruptCampaign record) := interruptCampaign_moves
      exact ⟨moves.refers spared, moves.ready ready⟩

/-! ## Calls and other operations -/

theorem startLifecycle_sound : JobSound env campaign cassettes (startLifecycle action params) := by
  cases action <;> simp [startLifecycle, JobSound]

/-- A new call keeps the invariant if it stays apart from the calls in flight. -/
theorem System.Sound.start (h : s.Sound env)
    (sound : JobSound env s.store.live.recordingCampaign s.cassettes job)
    (removal : job.removes = true → ∀ other rival, s.jobs.lookup other = some rival →
      rival.removes = false ∧ rival.records = false)
    (recording : job.removes = true ∨ job.records = true → ∀ other rival,
      s.jobs.lookup other = some rival → rival.removes = false) :
    (s.put id (some job)).Sound env := by
  refine h.fill rfl h.same h.covered (fun left goes => ?_) fun other rival _ => h.jobs other rival
  cases goes
  refine ⟨sound, fun other rival _ found => ⟨fun removes => ?_, fun removes => ?_⟩⟩
  · exact removal removes other rival found
  · have clash : ¬ (job.removes = true ∨ job.records = true) := by
      intro joins
      rw [recording joins other rival found] at removes
      cases removes
    simpa using clash

theorem System.Sound.submit (h : s.Sound env)
    (ordered : s.orderly env (.submit id call) = true) : (s.submit id call).Sound env := by
  unfold System.submit
  by_cases admissible : s.running = true ∧ id ∉ s.jobs
  swap
  · rw [if_neg admissible]
    exact h
  rw [if_pos admissible]
  cases call with
  | recordingCampaignPlan params =>
    exact h.start trivial (by simp [Job.removes]) (by simp [Job.removes, Job.records])
  | recordingCampaign action params =>
    dsimp only
    by_cases named : params.runnerInstanceId = s.store.live.runnerInstanceId
    swap
    · rw [if_neg named]
      exact h
    rw [if_pos named]
    simp only [orderly] at ordered
    refine h.start startLifecycle_sound ?_ ?_
    · intro removes other rival found
      have removing : action = .remove := by
        cases action <;> simp_all [startLifecycle, Job.removes]
      rw [if_pos removing] at ordered
      simpa [and_comm] using not_busy ordered found
    · intro joins other rival found
      by_cases removing : action = .remove
      · rw [if_pos removing] at ordered
        have quiet := not_busy ordered found
        simp only [Bool.or_eq_false_iff] at quiet
        exact quiet.2
      · rw [if_neg removing] at ordered
        have recording : action ∈ [.execute, .retry, .seal] := by
          cases action <;> simp_all [startLifecycle, Job.removes, Job.records]
        rw [if_pos recording] at ordered
        exact not_busy ordered found
  | _ => exact h

theorem System.Sound.others (h : s.Sound env) {store : CatalogStore} {flags : Table Bool}
    (same : s.store.sameCampaigns store = true) :
    Sound env { s with store := store, flags := flags } := by
  have kept : store.live.recordingCampaign = s.store.live.recordingCampaign ∧
      store.disk.recordingCampaign = s.store.live.recordingCampaign := by
    simpa [CatalogStore.sameCampaigns, h.same] using same
  constructor
  · exact kept.2.trans kept.1.symm
  · rw [kept.1]
    exact h.covered
  · rw [kept.1]
    exact h.jobs
  · exact h.apart

/-- One step under the condition keeps the invariant. -/
theorem System.Sound.step (h : s.Sound env) (files : event.filesSucceed = true)
    (ordered : s.orderly env event = true) : (s.step env event).Sound env := by
  cases event with
  | submit id call => exact h.submit ordered
  | advance id outside =>
    simp only [System.step]
    cases slot : s.jobs.lookup id with
    | none => exact h
    | some job =>
      dsimp only
      by_cases up : s.running = true
      · rw [if_pos up]
        exact h.run slot ordered
      · rw [if_neg up]
        exact h
  | others store flags =>
    simp only [System.step]
    by_cases kept : s.running = true ∧ s.store.sameCampaigns store = true
    · rw [if_pos kept]
      exact h.others kept.2
    · rw [if_neg kept]
      exact h
  | crash => exact .idle rfl h.same h.covered
  | reopen startup =>
    simp only [System.step]
    by_cases up : s.running = true
    · rw [if_pos up]
      exact h
    · rw [if_neg up]
      exact h.reopen files

theorem System.fresh_sound : (fresh runner).Sound env :=
  .idle rfl rfl fun _ found => by cases found

end Frames

/-! ## The result -/

variable {env}

/-- Every complete tuple of a campaign that is not removed has a valid artifact, and so
has every tuple of a campaign that is ready for offline use. -/
def System.CassettesSurvive (env : Platform) (s : System) : Prop :=
  s.Campaigns fun campaign => ∀ record, campaign = some record →
    (record.state ≠ .removed → ∀ entry ∈ record.coverage, ∀ digest, entry.state = .complete →
      entry.cassetteSha256 = some digest → cassetteArtifactValid env s.cassettes digest = true) ∧
    (record.offlineReady = true → ∀ entry ∈ record.coverage, ∃ digest,
      entry.cassetteSha256 = some digest ∧ cassetteArtifactValid env s.cassettes digest = true)

/-- How the second tuple of a shared cassette refutes the property. -/
theorem System.not_survive_of_missing {s : System} {digest : String}
    (referenced : (s.store.live.recordingCampaign.any fun record =>
      record.state ≠ .removed ∧ record.coverage.any fun entry =>
        entry.state = .complete ∧ entry.cassetteSha256 = some digest) = true)
    (missing : cassetteArtifactValid env s.cassettes digest = false) :
    ¬ s.CassettesSurvive env := by
  intro survive
  obtain ⟨record, isLive, found⟩ := (Option.any_eq_true _ _).mp referenced
  obtain ⟨present, tuple⟩ := of_decide_eq_true found
  obtain ⟨entry, member, matching⟩ := any_eq_true.mp tuple
  obtain ⟨complete, names⟩ := of_decide_eq_true matching
  have valid := (survive.1 record isLive).1 present entry member digest complete names
  rw [missing] at valid
  cases valid

theorem System.Sound.survive {s : System} (h : s.Sound env) : s.CassettesSurvive env := by
  have live : ∀ record, s.store.live.recordingCampaign = some record →
      (record.Refers fun digest => cassetteArtifactValid env s.cassettes digest = true) ∧
      (record.offlineReady = true → ∀ entry ∈ record.coverage, ∃ digest,
        entry.cassetteSha256 = some digest ∧
          cassetteArtifactValid env s.cassettes digest = true) := by
    intro record isLive
    obtain ⟨refers, ready⟩ := h.covered record isLive
    refine ⟨refers, fun offline entry member => ?_⟩
    obtain ⟨isComplete, tuples⟩ := ready offline
    obtain ⟨complete, captured⟩ := tuples entry member
    obtain ⟨digest, names⟩ := Option.isSome_iff_exists.mp captured
    have present : record.state ≠ .removed := by
      rw [isComplete]
      decide
    exact ⟨digest, names, refers present entry member digest complete names⟩
  constructor
  · exact live
  · show ∀ record, s.store.disk.recordingCampaign = some record → _
    rw [h.same]
    exact live

/-- When file operations succeed and removals are orderly, referenced cassettes survive. -/
theorem referenced_cassettes_survive {runner : String} {t : System} {events : List Event}
    (run : Run (Guarded (step env) fun state event =>
      event.filesSucceed && state.orderly env event) (fresh runner) events t) :
    t.CassettesSurvive env := by
  have sound : t.Sound env := by
    refine Run.invariant (fun before event next h stepped => ?_) run fresh_sound
    obtain ⟨rfl, allowed⟩ := stepped
    obtain ⟨files, ordered⟩ := Bool.and_eq_true_iff.mp allowed
    exact h.step files ordered
  exact sound.survive

/-- Plan a campaign of two tuples and capture both. -/
def sampleRecorded : List Event :=
  [.others (configurationApply Platform.sample Outside.calm.toMoment sampleConfiguration
      (fresh "runner-1").store).2 ∅,
    .submit 0 (.recordingCampaignPlan
      { samplePlan with workloadIds := ["original.bug-fix", "original.refactoring"] }),
    .advance 0 .calm, .advance 0 .calm,
    .submit 0 (.recordingCampaign .execute (sampleCall "execute" none))] ++
  List.replicate 16 (.advance 0 .captures)

/-- Remove the cassette the two tuples share. -/
def sampleRemoval : List Event :=
  [.submit 0
    (.recordingCampaign .remove (sampleCall "remove" (some sampleCassette.cassetteSha256))),
    .advance 0 .calm, .advance 0 .calm, .advance 0 .calm]

theorem referenced_cassettes_survive_sample :
    (sampleRecorded.foldl (step Platform.sample)
      (fresh "runner-1")).CassettesSurvive Platform.sample :=
  referenced_cassettes_survive (Run.of_allows (by decide +kernel))

/-- Removing a cassette that two tuples refer to resets one of them and unlinks the
artifact of both. -/
theorem not_referenced_cassettes_survive :
    ¬ ∀ (env : Platform) (runner : String) (events : List Event) (t : System),
      Run (Guarded (step env) fun _ event => event.filesSucceed) (fresh runner)
        events t → t.CassettesSurvive env := by
  intro claim
  have checked : allows (step Platform.sample) (fun _ event => event.filesSucceed)
        (fresh "runner-1") (sampleRecorded ++ sampleRemoval) = true ∧
      ((sample (sampleRecorded ++ sampleRemoval)).store.live.recordingCampaign.any fun record =>
        record.state ≠ .removed ∧ record.coverage.any fun entry =>
          entry.state = .complete ∧ entry.cassetteSha256 = some sampleCassette.cassetteSha256) =
            true ∧
      cassetteArtifactValid Platform.sample (sample (sampleRecorded ++ sampleRemoval)).cassettes
        sampleCassette.cassetteSha256 = false := by
    decide +kernel
  obtain ⟨allowed, referenced, missing⟩ := checked
  exact not_survive_of_missing referenced missing
    (claim Platform.sample "runner-1" _ _ (Run.of_allows allowed))

end AgentSystemsBenchmark.Control
