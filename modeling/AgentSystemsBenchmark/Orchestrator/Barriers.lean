import AgentSystemsBenchmark.Orchestrator.AtMostOnce

/-!
# Reconciliation barriers across restarts

The barrier of a run is a flag in memory; a restart derives the run's status from the
end of its journal. The barrier survives exactly when the journal has left preparation
before it is raised. This fails where a run is demoted while its journal still ends in
`planned` or `prepared`: when preparation or start cannot be journaled, and when a run
is cancelled before it has started.
-/

namespace AgentSystemsBenchmark

open Effects

/-- The journal is where the status says: a prepared run has a prepared journal, and a run
past preparation has a journal that left it. -/
def Behind (status : RunStatus) (journal : List (JournalEvent RunStatus)) : Prop :=
  (status = .prepared → lastState journal = some .prepared) ∧
    (status.begun = true → Started journal)

theorem Behind.of_started {status : RunStatus} {journal : List (JournalEvent RunStatus)}
    (begun : status.begun = true) (started : Started journal) : Behind status journal :=
  ⟨fun prepared => absurd begun (by rw [prepared]; decide), fun _ => started⟩

section Backing
variable {S α : Type} {env : Environment S} {w t : World S} {id : String} {handle : RunHandle}
  {attemptHandle : AttemptHandle}

/-- Every record has a directory of its attempt with a journal to match. -/
def Backed (o : Orchestrator S) (disk : Disk RunRequest RunStatus) : Prop :=
  Paired (fun record dir => dir.manifest.attemptId = record.attempt.id ∧
    Behind record.status dir.journal) o disk

theorem Backed.touched (backed : Backed w.service w.disk) (h : Local env id w t)
    (begun : Begun id t) (underway : Underway id t.disk) : Backed t.service t.disk := by
  refine Paired.touched backed h fun _ found _ stored moves grown held => ⟨?_, ?_⟩
  · rw [grown.manifest, held.1, moves.attempt]
  · obtain ⟨dir, there, started⟩ := underway
    obtain rfl := Option.mem_unique stored there
    exact .of_started (begun _ found) started

/-- A run that has left preparation may be worked on. -/
theorem Backed.begun (backed : Backed w.service w.disk) (h : Local env id w t)
    (begun : Begun id w) : Backed t.service t.disk := by
  refine Paired.touched backed h fun found found' _ _ moves grown held => ⟨?_, ?_⟩
  · rw [grown.manifest, held.1, moves.attempt]
  · exact .of_started (h.begun begun _ found') ((held.2.2 (begun _ found)).grows grown.journal)

/-- The operation keeps the journals behind the records, unless the process dies in it. -/
def Guards (x : Op S α) (w : World S) : Prop :=
  wp x (fun _ t => Backed t.service t.disk) (Returning fun t => Backed t.service t.disk) w

theorem Touches.guards (touches : Touches env id x) (backed : Backed w.service w.disk)
    (begun : Begun id w) : Guards x w := by
  refine wp_mono (touches.local w) (fun _ t h => backed.begun h begun) fun stop t h => ?_
  cases stop with
  | error e => exact backed.begun h begun
  | crash => trivial

/-- An operation that only fails changes nothing. -/
theorem Guards.of_refusal (backed : Backed w.service w.disk)
    (refused : wp x (fun _ _ => False) (fun _ t => t = w) w) : Guards x w := by
  refine wp_mono refused (fun _ _ h => h.elim) fun stop t h => ?_
  cases stop with
  | error e => exact h ▸ backed
  | crash => trivial

/-! ## Publishing without a reported fault -/

theorem sure_two {faults : List Fault} (sure : (faults.take 2).any Fault.reports = false) :
    (faults.headD .none).reports = false ∧ (faults.tail.headD .none).reports = false := by
  rcases faults with _ | ⟨first, _ | ⟨second, rest⟩⟩
  · exact ⟨rfl, rfl⟩
  · simp only [List.take, List.any_cons, List.any_nil, Bool.or_false] at sure
    exact ⟨sure, rfl⟩
  · simp only [List.take, List.any_cons, List.any_nil, Bool.or_false, Bool.or_eq_false_iff] at sure
    exact sure

/-- A status the table allows is journaled when neither access reports a fault. -/
theorem persistFor_sure {status : RunStatus} {record : RunRecord} {dir : RunDirectory}
    (durable : w.service.durable = true) (found : w.service.runs.lookup (runIdOf n) = some record)
    (stored : w.disk.runs.lookup (runIdOf n) = some dir) (housed : Housed env n dir)
    (attempt : dir.manifest.attemptId = record.attempt.id)
    (allowed : allowedTransition (lastState dir.journal) (toState status) = true)
    (fresh : lastState dir.journal ≠ some (toState status))
    (sure : (w.faults.take 2).any Fault.reports = false) :
    wp (persistFor env (runIdOf n) status)
      (fun _ t => t.service = w.service ∧ Journaled t (runIdOf n) (toState status))
      (fun stop _ => stop = .crash) w := by
  obtain ⟨first, second⟩ := sure_two sure
  simp only [persistFor, wp_bind, wp_get, durable, if_true, found, journalStatus]
  refine wp_readStore_sure first ?_ rfl
  simp only [housed.sound.loadJournal stored, if_neg fresh]
  rw [← attempt]
  exact wp_writeStore_sure second (housed.extend stored allowed).1
    (fun _ => ⟨rfl, _, AList.lookup_insert _, dir.lastState_extend status⟩) fun _ => rfl

section
variable (backed : Backed w.service w.disk) (all : AllHoused env w.disk)
  (durable : w.service.durable = true) (sure : (w.faults.take 2).any Fault.reports = false)
include backed all durable sure

theorem start_sure :
    wp (start env handle) (fun _ _ => True) (Returning fun t => t = w) w := by
  simp only [start, wp_bind]
  refine wp_recordMut (fun old found _ => ?_) fun _ => rfl
  simp only [wp_failIf, wp_require, putRecord, wp_updateService, wp_pure]
  refine ⟨fun _ => rfl, fun prepared => ⟨fun new pushed => ?_, fun _ _ => rfl⟩⟩
  obtain ⟨dir, stored, attempt, behind⟩ := backed handle.id old found
  have last : lastState dir.journal = some .prepared := behind.1 (not_not.mp prepared)
  obtain ⟨n, named, housed, _⟩ := all handle.id dir stored
  rw [named] at stored ⊢
  refine wp_mono (persistFor_sure durable (AList.lookup_insert _) stored housed
    (by rw [(pushEvent_ok pushed).2.1]; exact attempt) (by rw [last]; rfl)
      (by rw [last]; decide) sure)
    (fun _ _ _ => trivial) ?_
  rintro stop t rfl
  trivial

theorem start_guards :
    wp (start env handle) (fun _ t => Backed t.service t.disk ∧ Begun handle.id t)
      (Returning fun t => Backed t.service t.disk) w := by
  refine wp_mono (wp_and start_spec (start_sure backed all durable sure)) ?_ fun stop t h => ?_
  · rintro _ t ⟨⟨worked, _, begun, journaled⟩, _⟩
    exact ⟨backed.touched worked.toLocal begun ((journaled durable).underway rfl), begun⟩
  · cases stop with
    | error e => exact (h.2 : t = w) ▸ backed
    | crash => trivial

theorem execute_guards :
    Guards (execute env handle attemptHandle) w := by
  simp only [Guards, execute, wp_bind]
  refine wp_record (fun prepared _ _ => ?_) fun _ => backed
  simp only [wp_failIf]
  refine ⟨fun _ => backed, fun _ => ?_⟩
  cases prepared.capability with
  | none => exact backed
  | some held =>
    simp only [wp_bind]
    refine wp_mono (start_guards backed all durable sure) ?_ fun _ _ h => h
    rintro _ t ⟨backed', begun⟩
    exact wp_invoke (conclude_touches.guards backed' begun) trivial trivial

end

/-- Only a run past preparation can be completed. -/
theorem complete_guards (backed : Backed w.service w.disk) :
    Guards (complete env handle attemptHandle) w := by
  by_cases begun : Begun handle.id w
  · exact complete_touches.guards backed begun
  · refine .of_refusal backed ?_
    unfold Begun at begun
    push Not at begun
    obtain ⟨old, found, waiting⟩ := begun
    have uncollectable : ¬ old.status.collectable = true := by
      cases status : old.status <;> rw [status] at waiting <;>
        simp_all [RunStatus.begun, RunStatus.collectable]
    simp only [complete, wp_bind]
    refine wp_record (fun record found' _ => ?_) fun _ => rfl
    obtain rfl := Option.mem_unique found found'
    simp only [wp_failIf]
    exact ⟨fun _ => trivial, fun _ => ⟨fun _ => trivial, fun h => absurd uncollectable h⟩⟩

/-- Only a run behind the barrier can be reconciled. -/
theorem reconcile_guards (backed : Backed w.service w.disk) :
    Guards (reconcile env handle attemptHandle) w := by
  by_cases begun : Begun handle.id w
  · exact reconcile_touches.guards backed begun
  · refine .of_refusal backed ?_
    unfold Begun at begun
    push Not at begun
    obtain ⟨old, found, waiting⟩ := begun
    have unbarred : old.status ≠ .needsReconciliation := by
      intro barred
      rw [barred] at waiting
      exact waiting rfl
    simp only [reconcile, wp_bind, wp_get, found, wp_failIf]
    exact ⟨fun _ => trivial, fun h => absurd (.inr (.inr unbarred)) h⟩

/-! ## Admission -/

variable {request : RunRequest}

/-- The intent of a new run uses two outcomes and ends in `planned`. -/
theorem journalIntent_planned {run : RunHandle} {attempt : AttemptHandle}
    (durable : w.service.durable = true) :
    wp (journalIntent env request run attempt)
      (fun _ t => t.faults = w.faults.drop 2 ∧ Journaled t run.id .planned)
      (fun _ _ => True) w := by
  have two : w.faults.tail.tail = w.faults.drop 2 := by
    rcases w.faults with _ | ⟨_, _ | _⟩ <;> rfl
  simp only [journalIntent, wp_bind, wp_get, durable, if_true]
  refine wp_writeStore (P := fun _ => True) trivial (fun _ _ => trivial) (fun _ => trivial)
    (fun _ _ _ _ => ?_) (fun refusals disk _ => ?_) fun _ _ _ => trivial
  · simp only [wp_check, reduceCtorEq, false_implies, implies_true, and_self]
  · simp only [wp_check, implies_true, and_true]
    intro _ _
    refine wp_writeStore (P := fun _ => True) trivial (fun _ _ => trivial) (fun _ => trivial)
      (fun _ _ _ _ => ?_) (fun refusals disk appended => ?_) fun _ _ _ => trivial
    · simp only [reduceCtorEq, false_implies, implies_true]
    · intro _ _
      obtain ⟨dir, _, _, rfl⟩ := append_ok appended
      exact ⟨two, _, AList.lookup_insert _, lastState_append _ _⟩

/-- An admission registers no run it cannot publish, when neither access that publishes its
preparation reports a fault. -/
theorem admitAs_sure (numbered : n + 2 ≤ u64Max) (valid : validateRequest request = .ok ())
    (durable : w.service.durable = true)
    (sure : ((w.faults.drop 3).take 2).any Fault.reports = false) :
    wp (admitAs env request (env.requestDigest request) n) (fun _ _ => True)
      (Returning fun t => t.service.runs = w.service.runs) w := by
  simp only [admitAs, wp_bind]
  refine wp_mono
    (wp_and (journalIntent_spec rfl rfl numbered valid) (journalIntent_planned durable)) ?_ ?_
  · rintro _ t ⟨⟨intends, founded⟩, faults, dir, stored, last⟩
    have same := intends.service
    obtain ⟨dir', stored', manifest, housed⟩ := (founded durable).1.own
    obtain rfl := Option.mem_unique stored stored'
    refine wp_invoke ?_ trivial trivial
    dsimp only
    cases (env.authority.prepare request t.service.source).1 with
    | error e =>
      simp only [wp_bind]
      refine wp_attempt ?_
      simp only [persistRecord, wp_bind, wp_get, wp_ite]
      refine ⟨fun _ => ?_, fun _ => by rw [← same]; trivial⟩
      refine wp_mono (journalStatus_writes _ _) (fun result v h => ?_) fun stop v h => ?_
      · have left : v.service.runs = w.service.runs := by rw [h.1.service, ← same]
        rw [wp_check]
        exact ⟨fun _ _ => left, fun _ _ => left⟩
      · rw [h.1]
        trivial
    | ok capability =>
      simp only [wp_bind, wp_require, wp_updateService]
      refine ⟨fun prepared pushed => ?_, fun _ _ => by rw [← same]; trivial⟩
      have calm : ((t.faults.tail).take 2).any Fault.reports = false := by
        rw [faults, List.tail_drop]
        exact sure
      refine wp_mono
        (persistFor_sure (by rw [← durable, ← same]) (AList.lookup_insert _) stored housed
        (by rw [manifest, (prepared_ready pushed).1.attempt]; rfl) (by rw [last]; rfl)
        (by rw [last]; decide) calm) (fun _ _ _ => trivial) ?_
      rintro stop v rfl
      trivial
  · rintro stop t ⟨intends, _⟩
    cases stop with
    | error e => exact congrArg Orchestrator.runs intends.service
    | crash => trivial

/-- An admission that returns has journaled the run it answers with. -/
theorem admitRun_backed (durable : w.service.durable = true) (backed : Backed w.service w.disk) :
    wp (admitRun env request) (fun _ t => Backed t.service t.disk ∧ t.service.durable = true)
      (fun _ _ => True) w := by
  refine wp_mono admitRun_answers (fun _ t h => ?_) fun _ _ _ => trivial
  obtain ⟨rfl, _⟩ | ⟨registered, _, journaled⟩ := h
  · exact ⟨backed, durable⟩
  · refine ⟨Paired.registered backed durable registered fun _ stored stands manifest ready =>
      ⟨?_, ?_⟩, registered.durable.trans durable⟩
    · rw [manifest, stands.attempt]
      rfl
    · obtain ⟨dir, there, last⟩ := journaled durable
      obtain rfl := Option.mem_unique stored there
      rw [ready.status]
      exact ⟨fun _ => last, nofun⟩

theorem admitMembers_backed {requests : List RunRequest} : ∀ {index members} {w : World S},
    w.service.durable = true → Backed w.service w.disk →
    wp (admitMembers env key index requests members) (fun _ t => Backed t.service t.disk)
      (fun _ _ => True) w := by
  induction requests with
  | nil => exact fun _ backed => backed
  | cons request rest ih =>
    intro index members w durable backed
    simp only [admitMembers, wp_ite, wp_bind]
    refine ⟨fun _ => wp_trivial (fun _ _ => trivial) fun _ _ => trivial,
      fun _ => wp_attempt (wp_mono (admitRun_backed durable backed) ?_ ?_)⟩
    · rintro run t ⟨backed', durable'⟩
      simp only [wp_bind, wp_get]
      cases t.service.runs.lookup run.id with
      | none => trivial
      | some record => exact ih durable' backed'
    · intro stop t _
      cases stop with
      | crash => trivial
      | error e =>
        simp only [wp_bind]
        exact wp_trivial (fun _ _ => trivial) fun _ _ => trivial

section
variable (durable : w.service.durable = true)
  (sure : ((w.faults.drop 3).take 2).any Fault.reports = false)
include durable sure

theorem admitRun_sure :
    wp (admitRun env request) (fun _ _ => True)
      (Returning fun t => t.service.runs = w.service.runs) w := by
  simp only [admitRun, wp_bind, wp_require, wp_get]
  refine ⟨fun _ valid => ?_, fun _ _ => rfl⟩
  split
  · split
    · rfl
    · simp only [wp_bind, wp_failIf, wp_pure]
      exact ⟨fun _ => rfl, fun _ => trivial⟩
  · simp only [wp_bind, wp_failIf, wp_updateService]
    refine ⟨fun _ => rfl, fun _ => ⟨fun _ => rfl, fun _ => ⟨fun _ => rfl, fun left => ?_⟩⟩⟩
    exact admitAs_sure (not_lt.mp left) valid durable sure

theorem admitRun_guards (backed : Backed w.service w.disk) :
    Guards (admitRun env request) w := by
  refine wp_mono (wp_and (admitRun_backed durable backed)
    (wp_and admitRun_answers (admitRun_sure durable sure))) (fun _ _ h => h.1.1) fun stop t h => ?_
  cases stop with
  | crash => trivial
  | error e =>
    obtain ⟨-, unregistered | registered, unchanged⟩ := h
    · exact Paired.unregistered backed unregistered
    · -- the new run has no record, since it had no directory
      have free := registered.fresh durable fun id record found =>
        (backed id record found).imp fun _ h => h.1
      obtain ⟨record, found, _⟩ := registered.own
      rw [(unchanged : t.service.runs = w.service.runs), free] at found
      cases found

end

/-- The operation returns an error. -/
def refuses (x : Op S α) (w : World S) : Bool :=
  match x w with
  | .error (.error _) _ => true
  | _ => false

theorem wp_of_refuses {x : Op S α} (refused : refuses x w = true) :
    wp x (fun _ _ => False) (fun _ _ => True) w := by
  unfold refuses at refused
  unfold wp
  split at refused
  case h_1 error t failed =>
    rw [failed]
    trivial
  case h_2 => cases refused

/-- The fan-out passes the checks made before its first member is admitted. -/
def FanoutRequest.Checked (fanout : FanoutRequest) : Prop :=
  ¬ (fanout.idempotencyKey = "" ∨ fanout.idempotencyKey.utf8ByteSize > maxIdempotencyKey ∨
    fanout.requests = [] ∨ fanout.requests.length > maxActiveRuns) ∧
  fanout.requests.forM validateRequest = .ok () ∧
  (fanout.requests.map fun request => (request.agentId, request.workloadId)).Nodup

instance (fanout : FanoutRequest) : Decidable fanout.Checked := inferInstanceAs (Decidable (_ ∧ _))

/-- A rejection of the fan-out finds its first member admitted, and cancels it. -/
def FanoutRequest.rollsBack (env : Environment S) (fanout : FanoutRequest) (w : World S) : Bool :=
  match fanout.requests with
  | request :: _ :: _ => fanout.Checked ∧ ¬ refuses (admitRun env
      { request with idempotencyKey := fanout.idempotencyKey ++ ":" ++ (0).repr }) w
  | _ => false

theorem admitFanout_guards (durable : w.service.durable = true) (backed : Backed w.service w.disk)
    (kept : refuses (admitFanout env fanout) w = true →
      fanout.rollsBack env w = false ∧ ((w.faults.drop 3).take 2).any Fault.reports = false) :
    Guards (admitFanout env fanout) w := by
  by_cases refused : refuses (admitFanout env fanout) w = true
  · obtain ⟨alone, sure⟩ := kept refused
    simp only [Guards, admitFanout, wp_bind, wp_failIf, wp_require, wp_pure]
    refine ⟨fun _ => backed, fun formed => ⟨fun _ valid => ⟨fun _ => backed, fun distinct => ?_⟩,
      fun _ _ => backed⟩⟩
    obtain ⟨key, requests⟩ := fanout
    rcases requests with _ | ⟨request, rest⟩
    · exact backed
    · simp only [admitMembers, wp_ite, wp_bind]
      refine ⟨fun _ => backed, fun _ => wp_attempt ?_⟩
      -- a first member that others follow is refused, so there is nothing to cancel
      have last : wp (admitRun env { request with idempotencyKey := key ++ ":" ++ (0).repr })
          (fun _ _ => rest = []) (fun _ _ => True) w := by
        cases rest with
        | nil => exact wp_trivial (fun _ _ => rfl) fun _ _ => trivial
        | cons other rest =>
          simp only [FanoutRequest.rollsBack, decide_eq_false_iff_not, not_and, not_not] at alone
          exact wp_mono (wp_of_refuses (alone ⟨formed, valid, not_not.mp distinct⟩))
            (fun _ _ => False.elim) fun _ _ h => h
      refine wp_mono (wp_and (admitRun_guards durable sure backed) last) ?_ fun stop t h => ?_
      · rintro run t ⟨backed', rfl⟩
        simp only [wp_bind, wp_get]
        cases t.service.runs.lookup run.id with
        | none | some => exact backed'
      · cases stop with
        | error e => exact h.1
        | crash => trivial
  · have members : wp (admitFanout env fanout) (fun _ t => Backed t.service t.disk)
        (fun _ _ => True) w := by
      simp only [admitFanout, wp_bind, wp_failIf, wp_require, wp_pure]
      exact ⟨fun _ => trivial, fun _ => ⟨fun _ _ => ⟨fun _ => trivial,
        fun _ => admitMembers_backed durable backed⟩, fun _ _ => trivial⟩⟩
    unfold Guards wp
    rcases hx : admitFanout env fanout w with ⟨handle, t⟩ | ⟨e | _, t⟩
    · have backed' := wp_ok members hx
      exact backed'
    · simp [refuses, hx] at refused
    · trivial

/-- The accesses that publish preparation or start report no fault, no run is cancelled before it
has started, and no fan-out is rejected after a member of it was admitted. -/
def Call.keepsBarrier (env : Environment S) (w : World S) : Call → Bool
  | .admitRun _ => !((w.faults.drop 3).take 2).any Fault.reports
  | .admitFanout fanout => refuses (AgentSystemsBenchmark.admitFanout env fanout) w →
      fanout.rollsBack env w = false ∧ ((w.faults.drop 3).take 2).any Fault.reports = false
  | .start _ | .execute _ _ => !(w.faults.take 2).any Fault.reports
  | .cancel run _ => (w.service.runs.lookup run.id).all fun record => record.status.begun
  | .complete _ _ | .reconcile _ _ => true

theorem perform_guards (backed : Backed w.service w.disk) (all : AllHoused env w.disk)
    (durable : w.service.durable = true) (keeps : call.keepsBarrier env w = true) :
    Guards (perform env call) w := by
  have replied : ∀ {β : Type} {x : Op S β} {f : β → Reply}, Guards x w →
      Guards (x >>= fun a => pure (f a)) w := by
    intro β x f guards
    simpa only [Guards, wp_bind, wp_pure] using guards
  cases call with
  | admitRun request =>
    exact replied (admitRun_guards durable (by simpa [Call.keepsBarrier] using keeps) backed)
  | admitFanout fanout =>
    exact replied (admitFanout_guards durable backed (of_decide_eq_true keeps))
  | start handle =>
    simp only [Call.keepsBarrier, Bool.not_eq_true'] at keeps
    exact replied
      (wp_mono (start_guards backed all durable keeps) (fun _ _ h => h.1) fun _ _ h => h)
  | execute run attempt =>
    simp only [Call.keepsBarrier, Bool.not_eq_true'] at keeps
    exact replied (execute_guards backed all durable keeps)
  | cancel run attempt =>
    refine replied (cancel_touches.guards backed fun old found => ?_)
    simpa [Call.keepsBarrier, found] using keeps
  | complete run attempt => exact replied (complete_guards backed)
  | reconcile run attempt => exact replied (reconcile_guards backed)

/-- Opening gives each run the status its journal ends in. -/
theorem Restored.backed {disk : Disk RunRequest RunStatus} {read : List String}
    (restored : Restored env disk read o) : Backed o disk := by
  refine restored.paired fun {_ dir _} _ => ⟨rfl, ?_⟩
  change Behind (((lastState dir.journal).map fromState).getD .admitted) dir.journal
  cases last : lastState dir.journal with
  | none => exact ⟨nofun, nofun⟩
  | some state =>
    refine ⟨fun prepared => ?_, fun begun => started_of_lastState last ?_⟩
    · cases state <;> first | exact last | cases prepared
    · cases state <;> first | rfl | cases begun

end Backing

section Hosts
variable {S : Type} (env : Environment S)

def Host.Backed (host : Host S) : Prop :=
  host.Holds (AllHoused env) ∧
    ∀ o, host.service = some o → AgentSystemsBenchmark.Backed o host.disk

open Host

def Host.keepsBarrier (host : Host S) : HostEvent S → Bool
  | .call call faults => host.service.all fun o => call.keepsBarrier env (host.world o faults)
  | .restart _ _ => true

theorem Host.step_backed {host : Host S} (backed : host.Backed env)
    (keeps : host.keepsBarrier env event = true) : (host.step env event).Backed env := by
  refine ⟨step_holds env allHoused_stable backed.1 event, fun o live => ?_⟩
  cases event with
  | restart source faults =>
    rw [(host.restarted_disk env source faults).1]
    exact (reopened env live).backed
  | call call faults =>
    cases served : host.service with
    | none =>
      simp only [step, served] at live
      cases live
    | some service =>
      rw [step_call env served] at live ⊢
      have keeps' : call.keepsBarrier env (host.world service faults) = true := by
        simpa [keepsBarrier, served] using keeps
      obtain ⟨t, backed', rfl, disk, _⟩ := after_returns
        (@perform_guards S env (host.world service faults) call (backed.2 service served) backed.1.1
          (backed.1.2 service served) keeps') live
      exact disk ▸ backed'

theorem Host.Run.backed
    (run : Runs.Run (Runs.Guarded (step env) (keepsBarrier env)) fresh events host) :
    host.Backed env := by
  refine Runs.Run.invariant (P := Host.Backed env) ?_ run ⟨fresh_housed env, nofun⟩
  rintro before event after backed ⟨rfl, keeps⟩
  exact step_backed env backed keeps

/-- A run behind the barrier is behind it, or terminal, after a restart, and no execution of
it is ever accepted again. -/
theorem barrier_survives_restart (events : List (HostEvent S)) (host : Host S)
    (run : Runs.Run (Runs.Guarded (step env) (keepsBarrier env)) fresh events host)
    (o : Orchestrator S) (live : host.service = some o) (id : String) (record : RunRecord)
    (known : o.runs.lookup id = some record) (barred : record.status = .needsReconciliation)
    (source : S) (faults : List Fault) (o' : Orchestrator S)
    (reopened : (host.step env (.restart source faults)).service = some o') :
    (∃ record', o'.runs.lookup id = some record' ∧
      (record'.status = .needsReconciliation ∨ record'.status.terminal = true)) ∧
    ∀ (later : List (HostEvent S)) (host' : Host S),
      Runs.Run (fun before event after => after = step env before event)
        (host.step env (.restart source faults)) later host' →
      ∀ o'', host'.service = some o'' → ∀ handle attempt faults, handle.id = id →
        ∃ error, execute env handle attempt (host'.world o'' faults) =
          .error (.error error) (host'.world o'' faults) := by
  have backed := Host.Run.backed env run
  obtain ⟨dir, stored, _, behind⟩ := backed.2 o live id record known
  have started : Started dir.journal := behind.2 (by rw [barred]; rfl)
  constructor
  · have restored := Host.reopened env reopened
    obtain ⟨dir', capability, stored', sound, _, held⟩ := restored.housed id (mem_runIds stored)
    obtain rfl := Option.mem_unique stored stored'
    refine ⟨_, held, ?_⟩
    obtain ⟨event, mem, state⟩ := started
    obtain ⟨last, ends, begun⟩ := lastState_started sound.decoded mem state
    change (((lastState dir.journal).map fromState).getD .admitted) = _ ∨
      (((lastState dir.journal).map fromState).getD .admitted).terminal = _
    rw [ends]
    cases last <;> first | exact .inl rfl | exact .inr rfl | cases begun
  · -- The journal keeps its start through any later run, so no service holds the run prepared.
    intro later host' continued o'' live' handle attempt faults' named
    have stable := @extends_stable S env id dir
    have housed := step_holds env stable ⟨⟨dir, stored, .refl env dir⟩, backed.1.2⟩
      (.restart source faults)
    obtain ⟨⟨dir', stored', grown⟩, _⟩ := run_holds env stable housed continued
    have safe : host'.Safe env := run_safe env
      (step_safe env (run_safe env (fresh_safe env) run.unguarded) _).1 continued
    have refused := @execute_unprepared S env (host'.world o'' faults') handle attempt
    specialize refused fun record' found prepared => by
      obtain ⟨own, held, _, quiet⟩ := (safe.2 o'' live').1 _ record' found
      rw [named] at held
      obtain rfl := Option.mem_unique stored' held
      exact quiet prepared (started.grows grown.journal)
    rcases hx : execute env handle attempt (host'.world o'' faults') with ⟨_, t⟩ | ⟨stop, t⟩
    · exact (wp_ok refused hx).elim
    · obtain ⟨rfl, error, rfl⟩ := wp_error refused hx
      exact ⟨error, rfl⟩

end Hosts

/-- The status a live service gives a run. -/
def Host.status {S : Type} (host : Host S) (id : String) : Option RunStatus :=
  host.service.bind fun o => (o.runs.lookup id).map RunRecord.status

theorem Host.status_eq_some {S : Type} {host : Host S} {id : String} {status : RunStatus}
    (h : host.status id = some status) : ∃ o record, host.service = some o ∧
      o.runs.lookup id = some record ∧ record.status = status := by
  obtain ⟨o, live, rest⟩ := Option.bind_eq_some_iff.mp h
  obtain ⟨record, known, named⟩ := Option.map_eq_some_iff.mp rest
  exact ⟨o, record, live, known, named⟩

/-- The store fails after the execution; the barrier it raises is there after a restart. -/
theorem barrier_survives_restart_sample :
    let events : List (HostEvent Unit) := [.restart () [], .call (.admitRun sampleRequest) [],
      .call (.execute sampleRun sampleAttempt) [.none, .none, .none, .none, .failBefore]]
    let host := events.foldl (Host.step sampleEnvironment) Host.fresh
    host.status "run-1" = some .needsReconciliation ∧
      ∃ o record, (host.step sampleEnvironment (.restart () [])).service = some o ∧
        o.runs.lookup "run-1" = some record ∧
        (record.status = .needsReconciliation ∨ record.status.terminal = true) := by
  intro events host
  have run : Runs.Run (Runs.Guarded (Host.step sampleEnvironment)
      (Host.keepsBarrier sampleEnvironment)) Host.fresh
      events host := Runs.Run.of_allows (by decide +kernel)
  have barred : host.status "run-1" = some .needsReconciliation := by decide +kernel
  have opens : (host.step sampleEnvironment (.restart () [])).service.isSome = true := by
    decide +kernel
  obtain ⟨o, record, live, known, status⟩ := Host.status_eq_some barred
  obtain ⟨o', reopened⟩ := Option.isSome_iff_exists.mp opens
  obtain ⟨record', found, kept⟩ :=
    (barrier_survives_restart sampleEnvironment events host run o live
    "run-1" record known status () [] o' reopened).1
  exact ⟨barred, o', record', reopened, found, kept⟩

/-- Cancelling a prepared run raises the barrier in memory only: the journal has no transition
from prepared to cancelled, and a restart gives the run back prepared. -/
theorem not_barrier_survives_restart :
    ¬ ∀ (S : Type) (env : Environment S) (events : List (HostEvent S)) (host : Host S),
      Host.Run env events host → ∀ (o : Orchestrator S), host.service = some o →
      ∀ (id : String) (record : RunRecord), o.runs.lookup id = some record →
      record.status = .needsReconciliation → ∀ (source : S) (o' : Orchestrator S),
      (host.step env (.restart source [])).service = some o' →
      ∃ record', o'.runs.lookup id = some record' ∧
        (record'.status = .needsReconciliation ∨ record'.status.terminal = true) := by
  intro survives
  let events : List (HostEvent Unit) := [.restart () [], .call (.admitRun sampleRequest) [],
    .call (.cancel sampleRun sampleAttempt) []]
  let host := events.foldl (Host.step sampleEnvironment) Host.fresh
  have run : Host.Run sampleEnvironment events host := Runs.Run.foldl _ _ events
  have barred : host.status "run-1" = some .needsReconciliation := by decide +kernel
  have prepared :
      (host.step sampleEnvironment (.restart () [])).status "run-1" = some .prepared := by
    decide +kernel
  obtain ⟨o, record, live, known, status⟩ := Host.status_eq_some barred
  obtain ⟨o', record', reopened, known', status'⟩ := Host.status_eq_some prepared
  obtain ⟨other, found, kept⟩ :=
    survives Unit sampleEnvironment events host run o live "run-1" record
    known status () o' reopened
  obtain rfl := Option.mem_unique known' found
  rw [status'] at kept
  rcases kept with barred | terminal
  · cases barred
  · cases terminal

end AgentSystemsBenchmark
