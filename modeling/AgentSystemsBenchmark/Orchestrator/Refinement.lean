import AgentSystemsBenchmark.Library.Lockstep
import AgentSystemsBenchmark.Orchestrator.Directories
import AgentSystemsBenchmark.Orchestrator.Host

/-!
# The durable service against the in-memory one

`World.forget` drops the store from a world. An operation of the durable service
over a store that never fails is in lockstep with the same operation of the
in-memory service as long as every status it publishes is a change the store's
table allows. The invariant says which state a journal ends in for each status a
record can have; the table refuses three changes the service makes, and those
are the calls `Journalable` excludes.
-/

namespace AgentSystemsBenchmark

open Effects Numerals AList

variable {S α : Type}

/-- The same service without its store. -/
def Orchestrator.forget (o : Orchestrator S) : Orchestrator S := { o with durable := false }

def World.forget (w : World S) : World S :=
  { w with service := w.service.forget, disk := Disk.empty, refusals := 0 }

open World

section Rules
variable {E : Stop → World S → Prop} {w : World S} {handle : RunHandle} {Q : α → World S → Prop}

theorem lockstep_fail (h : E (.error error) w) : lockstep forget (fail error) Q E w := .throw h

theorem lockstep_failIf {Q : Unit → World S → Prop} {c : Prop} [Decidable c]
    (stopped : E (.error error) w) (passed : ¬ c → Q () w) :
    lockstep forget (failIf c error) Q E w := by
  by_cases h : c
  · rw [failIf, if_pos h]
    exact lockstep_fail stopped
  · rw [failIf, if_neg h]
    exact .pure (passed h)

theorem lockstep_require (passed : ∀ a, result = .ok a → Q a w)
    (stopped : ∀ e, result = .error e → E (.error e) w) :
    lockstep forget (require result) Q E w := by
  cases result with
  | ok a => exact .pure (passed a rfl)
  | error e => exact lockstep_fail (stopped e rfl)

theorem lockstep_updateService {Q : Unit → World S → Prop}
    (blind : f w.service.forget = (f w.service).forget)
    (post : Q () { w with service := f w.service }) : lockstep forget (updateService f) Q E w := by
  refine .of_ok rfl ?_ post
  change EStateM.Result.ok () { w.forget with service := f w.service.forget } = _
  rw [blind]
  rfl

theorem lockstep_updateRecord {Q : Unit → World S → Prop} {id : String}
    (found : w.service.runs.lookup id = some old)
    (post : Q ()
      { w with service := { w.service with runs := w.service.runs.insert id (f old) } }) :
    lockstep forget (updateRecord id f) Q E w := by
  have erased : w.service.forget.runs.lookup id = some old := found
  refine lockstep_updateService ?_ ?_
  · simp only [found, erased]
    rfl
  · simp only [found]
    exact post

theorem lockstep_invoke (calm : w.faults = [])
    (blind : call w.forget = ((call w).1, (call w).2.forget)) (post : Q (call w).1 (call w).2) :
    lockstep forget (invoke call) Q E w := by
  have erased := invoke_calm (w := w.forget) calm call
  rw [blind] at erased
  exact .of_ok (invoke_calm calm call) erased post

theorem lockstep_askSource (calm : w.faults = []) (post : Q (call w.service.source).1
      { w with service := { w.service with source := (call w.service.source).2 } }) :
    lockstep forget (askSource call) Q E w :=
  lockstep_invoke calm rfl post

theorem lockstep_record {Q : RunRecord → World S → Prop}
    (found : ∀ r, w.service.runs.lookup handle.id = some r → r.run = handle → Q r w)
    (missing : ∀ e, E (.error e) w) : lockstep forget (record handle) Q E w := by
  refine .get rfl ?_
  cases hr : w.service.runs.lookup handle.id with
  | none => exact lockstep_fail (missing _)
  | some r =>
    refine .bind (lockstep_failIf (missing _) fun same => .pure ?_)
    exact found r hr (not_not.mp same)

theorem lockstep_recordMut {Q : RunRecord → World S → Prop}
    (found : ∀ r, w.service.runs.lookup handle.id = some r → r.run = handle → Q r w)
    (missing : ∀ e, E (.error e) w) : lockstep forget (recordMut handle) Q E w := by
  refine .bind (lockstep_record (fun r hr hh => ?_) missing)
  exact .bind (lockstep_failIf (missing _) fun _ => .pure (found r hr hh))

end Rules

/-- The state a journal ends in, for each status of its record. A record stays in
collection only when its event list is full, so that no call can move it on. -/
def Agrees (record : RunRecord) (last : Option ExecutionState) : Prop :=
  match record.status with
  | .admitted => False
  | .prepared => last = some .prepared
  | .running | .needsReconciliation => last = some .running
  | .collecting => last = some .running ∧ ∀ status next, pushEvent record status ≠ .ok next
  | .completed | .failed | .cancelled => True

/-- The durable service and its store agree on every run, except perhaps on the
one whose change is being published. -/
structure Mirrored (env : Environment S) (pending : Option String) (w : World S) : Prop where
  durable : w.service.durable = true
  calm : w.faults = []
  accepted : w.refusals = 0
  dirs : ∀ id dir, w.disk.runs.lookup id = some dir →
    ∃ n, n < w.service.nextId ∧ id = runIdOf n ∧ Housed env n dir
  records : ∀ id record, w.service.runs.lookup id = some record →
    ∃ dir, w.disk.runs.lookup id = some dir ∧ dir.manifest.attemptId = record.attempt.id ∧
      (pending ≠ some id → Agrees record (lastState dir.journal))

/-- An error leaves a settled world; a store that never fails does not crash. -/
def Halted (env : Environment S) : Stop → World S → Prop
  | .error _, w => Mirrored env none w
  | .crash, _ => False

section Invariant
variable {env : Environment S} {w : World S} {id : String} {pending : Option String}

namespace Mirrored

theorem weaken (mirrored : Mirrored env none w) (id : String) :
    Mirrored env (some id) w := by
  refine { mirrored with records := fun other record found => ?_ }
  obtain ⟨dir, hd, ha, agrees⟩ := mirrored.records other record found
  exact ⟨dir, hd, ha, fun _ => agrees (by simp)⟩

/-- The published change settles the run when record and journal agree again. -/
theorem settled (mirrored : Mirrored env (some id) w) {record : RunRecord}
    (found : w.service.runs.lookup id = some record) {state : ExecutionState}
    (journaled : Journaled w id state) (agrees : Agrees record (some state)) :
    Mirrored env none w := by
  refine { mirrored with records := fun other found' hf => ?_ }
  obtain ⟨dir, hd, ha, others⟩ := mirrored.records other found' hf
  refine ⟨dir, hd, ha, fun _ => ?_⟩
  by_cases same : other = id
  · subst same
    obtain ⟨dir', hd', hl⟩ := journaled
    obtain rfl := Option.mem_unique hd hd'
    obtain rfl := Option.mem_unique found hf
    rw [hl]
    exact agrees
  · exact others (by simpa using Ne.symm same)

theorem vacant (mirrored : Mirrored env (some id) w)
    (absent : w.service.runs.lookup id = none) : Mirrored env none w := by
  refine { mirrored with records := fun other record found => ?_ }
  obtain ⟨dir, hd, ha, agrees⟩ := mirrored.records other record found
  refine ⟨dir, hd, ha, fun _ => agrees ?_⟩
  rintro ⟨rfl⟩
  simp [absent] at found

theorem agrees (mirrored : Mirrored env none w) {record : RunRecord}
    (found : w.service.runs.lookup id = some record) :
    ∃ dir, w.disk.runs.lookup id = some dir ∧ Agrees record (lastState dir.journal) := by
  obtain ⟨dir, hd, _, agrees⟩ := mirrored.records id record found
  exact ⟨dir, hd, agrees (by simp)⟩

/-- Nothing in the invariant depends on the authority or on the executions so far. -/
theorem answered (mirrored : Mirrored env pending w) (source : S) (calls : List String) :
    Mirrored env pending
      { w with service := { w.service with source := source }, calls := calls } :=
  ⟨mirrored.durable, mirrored.calm, mirrored.accepted, mirrored.dirs, mirrored.records⟩

variable {dir : RunDir RunRequest RunStatus}

/-- A record may be stored over any directory of its attempt, while it is pending. -/
theorem insert (mirrored : Mirrored env (some id) w) (housed : w.disk.runs.lookup id = some dir)
    (attempt : dir.manifest.attemptId = new.attempt.id)
    (idempotency : AList (fun _ : String => String)) :
    Mirrored env (some id) { w with service := { w.service with
      idempotency := idempotency, runs := w.service.runs.insert id new } } := by
  refine { mirrored with records := fun other record hr => ?_ }
  rcases insert_cases hr with ⟨rfl, rfl⟩ | ⟨-, hr⟩
  · exact ⟨dir, housed, attempt, fun h => absurd rfl h⟩
  · exact mirrored.records other record hr

theorem put (mirrored : Mirrored env (some id) w) (found : w.service.runs.lookup id = some old)
    (attempt : new.attempt = old.attempt) :
    Mirrored env (some id)
      { w with service := { w.service with runs := w.service.runs.insert id new } } := by
  obtain ⟨dir, hd, ha, _⟩ := mirrored.records id old found
  exact mirrored.insert hd (ha.trans (by rw [attempt])) w.service.idempotency

theorem allocate (mirrored : Mirrored env pending w) (next : Nat)
    (grows : w.service.nextId ≤ next) :
    Mirrored env pending { w with service := { w.service with nextId := next } } := by
  refine { mirrored with dirs := fun id dir hd => ?_ }
  obtain ⟨n, old, named, housed⟩ := mirrored.dirs id dir hd
  exact ⟨n, Nat.lt_of_lt_of_le old grows, named, housed⟩

/-- The next identity names no directory yet. -/
theorem fresh (mirrored : Mirrored env pending w) :
    w.disk.runs.lookup (runIdOf w.service.nextId) = none := by
  cases h : w.disk.runs.lookup (runIdOf w.service.nextId) with
  | none => rfl
  | some dir =>
    obtain ⟨n, old, named, _⟩ := mirrored.dirs _ dir h
    have same := runIdOf_injective named
    omega

/-- A directory may be created or gain an event, while its record is pending. -/
theorem place (mirrored : Mirrored env (some id) w) (hid : id = runIdOf n)
    (allocated : n < w.service.nextId) (housed : Housed env n dir)
    (same : ∀ old, w.disk.runs.lookup id = some old → dir.manifest = old.manifest) :
    Mirrored env (some id)
      { w with disk := { w.disk with runs := w.disk.runs.insert id dir } } where
  durable := mirrored.durable
  calm := mirrored.calm
  accepted := mirrored.accepted
  dirs other dir' hd := by
    rcases insert_cases hd with ⟨rfl, rfl⟩ | ⟨-, hd⟩
    · exact ⟨n, allocated, hid, housed⟩
    · exact mirrored.dirs other dir' hd
  records other record hr := by
    change ∃ dir', (w.disk.runs.insert id dir).lookup other = some dir' ∧ _
    obtain ⟨old, ho, ha, agrees⟩ := mirrored.records other record hr
    by_cases he : other = id
    · subst he
      rw [← same old ho] at ha
      exact ⟨dir, lookup_insert _, ha, fun h => absurd rfl h⟩
    · exact ⟨old, by rwa [lookup_insert_ne he], ha, agrees⟩

end Mirrored

end Invariant

section Publishing
variable {env : Environment S} {w : World S} {id : String}

theorem allowedTransition_ne (h : allowedTransition (some s) t = true) : s ≠ t := by
  rintro rfl
  cases s <;> simp [allowedTransition] at h

variable {status : RunStatus}

/-- Every change the table allows is appended to the journal of a pending run. -/
theorem appendEvent_calm (mirrored : Mirrored env (some id) w)
    (found : w.disk.runs.lookup id = some dir)
    (allowed : allowedTransition (lastState dir.journal) (toState status) = true) :
    ∃ t, appendEvent env id dir.manifest.attemptId status dir.journal.length w = .ok (.ok ()) t ∧
      Mirrored env (some id) t ∧ t.service = w.service ∧ t.forget = w.forget ∧
      t.disk.runs.lookup id = some (dir.extend status) := by
  obtain ⟨n, allocated, rfl, housed⟩ := mirrored.dirs id dir found
  obtain ⟨appended, housed'⟩ := housed.extend found allowed
  have placed := mirrored.place rfl allocated housed' fun old ho => by
    obtain rfl := Option.mem_unique found ho
    rfl
  exact ⟨_, writeStore_calm mirrored.calm _ appended, placed, rfl, rfl, lookup_insert _⟩

/-- A pending change that the table allows is made durable; without a store
nothing happens. -/
theorem lockstep_persistFor {Q : Unit → World S → Prop} {E : Stop → World S → Prop}
    (mirrored : Mirrored env (some id) w) {record : RunRecord}
    (found : w.service.runs.lookup id = some record) {state : ExecutionState}
    (journaled : Journaled w id state)
    (allowed : allowedTransition (some state) (toState status) = true)
    (post : ∀ t, Mirrored env (some id) t → t.service = w.service →
      Journaled t id (toState status) → Q () t) :
    lockstep forget (persistFor env id status) Q E w := by
  obtain ⟨dir, hd, hl⟩ := journaled
  obtain ⟨dir', hd', ha, _⟩ := mirrored.records id record found
  obtain rfl := Option.mem_unique hd hd'
  obtain ⟨t, appended, mirrored', same, forgotten, stored⟩ :=
    appendEvent_calm mirrored hd (hl ▸ allowed)
  have moves : lastState dir.journal ≠ some (toState status) := by
    rw [hl]
    exact fun same => allowedTransition_ne allowed (Option.some.inj same)
  have loaded : readStore (loadJournal env.codec {} · id) w = .ok (.ok dir.journal) w := by
    obtain ⟨n, _, rfl, housed⟩ := mirrored.dirs id dir hd
    rw [readStore_calm mirrored.calm, housed.sound.loadJournal hd]
  have full : persistFor env id status w = .ok () t := by
    rw [ha] at appended
    simp [persistFor, journalStatus, bind, EStateM.bind, get, getThe, MonadStateOf.get, EStateM.get,
      mirrored.durable, found, loaded, moves, appended, pure, EStateM.pure]
  have erased : persistFor env id status w.forget = .ok () t.forget := by
    rw [forgotten]
    rfl
  exact .of_ok full erased
    (post t mirrored' same ⟨_, stored, dir.lastState_extend status⟩)

/-- Replace a record and make the change durable. -/
theorem lockstep_publish {Q : Unit → World S → Prop} {E : Stop → World S → Prop}
    (mirrored : Mirrored env none w) (found : w.service.runs.lookup id = some old)
    (attempt : new.attempt = old.attempt) (journaled : Journaled w id state)
    (allowed : allowedTransition (some state) (toState status) = true)
    (agrees : Agrees new (some (toState status))) (post : ∀ t, Mirrored env none t →
      t.service = { w.service with runs := w.service.runs.insert id new } → Q () t) :
    lockstep forget (putRecord id new >>= fun _ => persistFor env id status) Q E w := by
  have stored : (w.service.runs.insert id new).lookup id = some new := lookup_insert _
  refine .bind (lockstep_updateService rfl ?_)
  refine lockstep_persistFor ((mirrored.weaken id).put found attempt) stored journaled allowed ?_
  intro t mirrored' same journaled'
  exact post t (mirrored'.settled (by rw [same]; exact stored) journaled' agrees) same

end Publishing

section Operations
variable {env : Environment S} {w : World S} {id : String} {handle : RunHandle}
  {record : RunRecord} {Q : Unit → World S → Prop}

theorem pushEvent_full {status : RunStatus} (full : pushEvent record status = .error e)
    (other : RunStatus) (next : RunRecord) : pushEvent record other ≠ .ok next := by
  unfold pushEvent at full ⊢
  split at full
  · rename_i limit
    rw [if_pos limit]
    simp
  · cases full

/-- What a new run needs from the store and from the authority. -/
def Admissible (env : Environment S) (o : Orchestrator S) (request : RunRequest) : Prop :=
  env.manifestBytes (intendedManifest o.nextId request) ≤ 16 * 1024 * 1024 ∧
    ∃ capability, (env.authority.prepare request o.source).1 = .ok capability

variable (mirrored : Mirrored env none w)
include mirrored

theorem Mirrored.journaled_prepared
    (found : w.service.runs.lookup id = some record) (status : record.status = .prepared) :
    Journaled w id .prepared := by
  obtain ⟨dir, hd, agrees⟩ := mirrored.agrees found
  simp only [Agrees, status] at agrees
  exact ⟨dir, hd, agrees⟩

/-- The statuses of a run whose effects may have begun and which is not over. -/
def RunStatus.underway : RunStatus → Bool
  | running | collecting | needsReconciliation => true
  | _ => false

theorem Mirrored.journaled_running
    (found : w.service.runs.lookup id = some record) (status : record.status.underway = true) :
    Journaled w id .running := by
  obtain ⟨dir, hd, agrees⟩ := mirrored.agrees found
  refine ⟨dir, hd, ?_⟩
  cases hs : record.status <;> simp only [hs, RunStatus.underway, Bool.false_eq_true] at status <;>
    simp only [Agrees, hs] at agrees
  · exact agrees
  · exact agrees.1
  · exact agrees

theorem lockstep_start {Q : RunStatus → World S → Prop}
    (post : ∀ t new, Mirrored env none t → t.service.runs.lookup handle.id = some new →
      new.status = .running → Q .running t) :
    lockstep forget (start env handle) Q (Halted env) w := by
  refine .bind (lockstep_recordMut (fun old found _ => ?_) fun _ => mirrored)
  refine .bind (lockstep_failIf mirrored fun prepared => ?_)
  refine .bind (lockstep_require (fun new pushed => ?_) fun _ _ => mirrored)
  obtain ⟨_, attempt, moved⟩ := pushEvent_ok pushed
  have journaled := mirrored.journaled_prepared found (not_not.mp prepared)
  have agrees : Agrees new (some (toState .running)) := by
    simp only [Agrees, moved]
    rfl
  refine .seq (lockstep_publish mirrored found attempt journaled rfl agrees ?_)
  intro t mirrored' same
  refine .pure (post t new mirrored' ?_ moved)
  rw [same]
  exact lookup_insert _

/-- A terminal status is published from any status whose journal is `running`. -/
theorem lockstep_settle {status : RunStatus}
    (found : w.service.runs.lookup handle.id = some record)
    (underway : record.status.underway = true)
    (allowed : allowedTransition (some .running) (toState status) = true)
    (terminal : status.terminal = true) (post : ∀ t, Mirrored env none t → Q () t) :
    lockstep forget (settle env handle status) Q (Halted env) w := by
  refine .bind (lockstep_recordMut (fun old found' _ => ?_) fun _ => mirrored)
  obtain rfl := Option.mem_unique found found'
  refine .bind (lockstep_require (fun new pushed => ?_) fun _ _ => mirrored)
  obtain ⟨_, attempt, moved⟩ := pushEvent_ok pushed
  have journaled := mirrored.journaled_running found underway
  have agrees : Agrees { new with capability := none } (some (toState status)) := by
    cases status <;> simp_all [Agrees, RunStatus.terminal]
  exact lockstep_publish mirrored found attempt journaled allowed agrees
    fun t mirrored' _ => post t mirrored'

variable {request : RunRequest} {capability : AttemptCapability}

/-- A failed revocation demotes a run whose journal is `running`. -/
theorem lockstep_revoke
    (found : w.service.runs.lookup id = some record) (underway : record.status.underway = true)
    (post : ∀ t, Mirrored env none t → t.service.runs.lookup id = some record → Q () t) :
    lockstep forget (revoke env id request capability) Q (Halted env) w := by
  have answered := mirrored.answered (env.authority.cancel request capability w.service.source).2
    w.calls
  refine .bind (lockstep_askSource mirrored.calm ?_)
  cases (env.authority.cancel request capability w.service.source).1 with
  | ok u => exact .pure (post _ answered found)
  | error e =>
    have journaled := mirrored.journaled_running found underway
    refine .bind (lockstep_updateRecord found (lockstep_fail ?_))
    have stored :=
      (answered.weaken id).put found (rfl : record.interrupted.attempt = record.attempt)
    exact stored.settled (lookup_insert _) journaled rfl

theorem lockstep_failAttempt {Q : α → World S → Prop}
    {error : OrchestratorError} (found : w.service.runs.lookup handle.id = some record)
    (underway : record.status.underway = true) :
    lockstep forget (failAttempt env handle request capability error) Q (Halted env) w := by
  refine .bind (lockstep_revoke mirrored found underway fun t mirrored' found' => ?_)
  exact .bind (lockstep_settle mirrored' found' underway rfl rfl fun _ settled =>
    lockstep_fail settled)

theorem lockstep_collect {Q : ExecutionOutcome → World S → Prop} {outcome : ExecutionOutcome}
    (found : w.service.runs.lookup handle.id = some record)
    (running : record.status = .running) (post : ∀ t, Mirrored env none t → Q outcome t) :
    lockstep forget (collect env handle outcome) Q (Halted env) w := by
  have journaled : Journaled w handle.id .running :=
    mirrored.journaled_running found (by rw [running]; rfl)
  refine .bind (lockstep_recordMut (fun old found' _ => ?_) fun _ => mirrored)
  obtain rfl := Option.mem_unique found found'
  refine .bind (lockstep_require (fun collecting pushed => ?_) fun _ _ => mirrored)
  obtain ⟨_, attempt, collected⟩ := pushEvent_ok pushed
  have held := (mirrored.weaken handle.id).put found attempt
  have stored : (w.service.runs.insert handle.id collecting).lookup handle.id = some collecting :=
    lookup_insert _
  refine .bind (lockstep_updateService rfl ?_)
  refine .bind (lockstep_require (fun completed pushed' => ?_) fun e full => ?_)
  · obtain ⟨_, attempt', finished⟩ := pushEvent_ok pushed'
    have ended := held.put stored (show ({ completed with
      capability := none, artifactBytes := outcome.artifactBytes } : RunRecord).attempt =
        collecting.attempt from attempt')
    refine .bind (lockstep_updateService rfl ?_)
    refine .bind (lockstep_persistFor ended (lookup_insert _) journaled rfl ?_)
    intro t mirrored₁ same₁ journaled₁
    have found₁ : t.service.runs.lookup handle.id = some { completed with
        capability := none, artifactBytes := outcome.artifactBytes } := by
      rw [same₁]
      exact lookup_insert _
    refine .bind (lockstep_persistFor mirrored₁ found₁ journaled₁ rfl ?_)
    intro t' mirrored₂ same₂ journaled₂
    have agrees :
        Agrees { completed with capability := none, artifactBytes := outcome.artifactBytes }
        (some .completed) := by
      simp only [Agrees, finished]
    exact .pure (post t' (mirrored₂.settled (by rw [same₂]; exact found₁) journaled₂ agrees))
  · have agrees : Agrees collecting (some .running) := by
      simp only [Agrees, collected]
      exact ⟨trivial, pushEvent_full full⟩
    exact held.settled stored journaled agrees

/-- Every answer of the authority leaves a settled run. -/
theorem lockstep_conclude {Q : ExecutionOutcome → World S → Prop}
    {answer : Except AuthorityError ExecutionOutcome × Nat}
    (found : w.service.runs.lookup handle.id = some record) (running : record.status = .running)
    (post : ∀ t outcome, Mirrored env none t → Q outcome t) :
    lockstep forget (conclude env handle request capability answer) Q (Halted env) w := by
  have underway : record.status.underway = true := by rw [running]; rfl
  have failed : ∀ error, lockstep forget
      (failAttempt env handle request capability error) Q (Halted env) w :=
    fun error => lockstep_failAttempt mirrored found underway
  unfold conclude
  split
  · exact .bind (lockstep_settle mirrored found underway rfl rfl fun _ settled =>
      lockstep_fail settled)
  · exact failed _
  · split
    · exact failed _
    · split
      · exact failed _
      · refine .bind (lockstep_revoke mirrored found underway fun t mirrored' found' => ?_)
        exact lockstep_collect mirrored' found' running fun t' settled => post t' _ settled

variable {attempt : AttemptHandle}

theorem lockstep_execute {Q : ExecutionOutcome → World S → Prop}
    (post : ∀ t outcome, Mirrored env none t → Q outcome t) :
    lockstep forget (execute env handle attempt) Q (Halted env) w := by
  refine .bind (lockstep_record (fun prepared _ _ => ?_) fun _ => mirrored)
  refine .bind (lockstep_failIf mirrored fun _ => ?_)
  cases prepared.capability with
  | none => exact lockstep_fail mirrored
  | some held =>
    refine .bind (lockstep_start mirrored fun t new mirrored' found running => ?_)
    refine .bind (lockstep_invoke mirrored'.calm rfl ?_)
    exact lockstep_conclude (mirrored'.answered _ _) found running post

theorem lockstep_revokeHeld (found : w.service.runs.lookup handle.id = some record)
    (underway : record.status.underway = true)
    (post : ∀ t, Mirrored env none t → t.service.runs.lookup handle.id = some record → Q () t) :
    lockstep forget (revokeHeld env handle record) Q (Halted env) w := by
  unfold revokeHeld
  split
  · exact .pure (post w mirrored found)
  · exact lockstep_revoke mirrored found underway post

/-- A settled record that accepts an event is not in collection. -/
theorem Mirrored.not_collecting {record next : RunRecord}
    (found : w.service.runs.lookup id = some record) {status : RunStatus}
    (pushed : pushEvent record status = .ok next) :
    record.status ≠ .collecting := by
  intro collecting
  obtain ⟨_, _, agrees⟩ := mirrored.agrees found
  simp only [Agrees, collecting] at agrees
  exact agrees.2 _ _ pushed

theorem lockstep_cancel {Q : RunStatus → World S → Prop}
    (journalable : ∀ record, w.service.runs.lookup handle.id = some record →
      record.run = handle → record.attempt = attempt → record.status ≠ .prepared)
    (post : ∀ t status, Mirrored env none t → Q status t) :
    lockstep forget (cancel env handle attempt) Q (Halted env) w := by
  refine .bind (lockstep_record (fun before found named => ?_) fun _ => mirrored)
  refine .bind (lockstep_failIf mirrored fun owned => ?_)
  by_cases ended : before.status.terminal = true
  · rw [if_pos ended]
    exact .pure (post w _ mirrored)
  rw [if_neg ended]
  refine .bind (lockstep_failIf mirrored fun known => ?_)
  have unprepared := journalable before found named (not_not.mp owned)
  have underway : before.status.underway = true := by
    obtain ⟨dir, _, agrees⟩ := mirrored.agrees found
    cases hs : before.status <;> simp_all [Agrees, RunStatus.terminal, RunStatus.underway]
  refine .bind (lockstep_revokeHeld mirrored found underway fun t mirrored' found' => ?_)
  refine .bind (lockstep_recordMut (fun record hr _ => ?_) fun _ => mirrored')
  obtain rfl := Option.mem_unique found' hr
  refine .bind (lockstep_failIf mirrored' fun _ => ?_)
  rw [if_neg ended]
  refine .bind (lockstep_require (fun new pushed => ?_) fun _ _ => mirrored')
  obtain ⟨_, kept, moved⟩ := pushEvent_ok pushed
  have journaled := mirrored'.journaled_running found' underway
  have agrees : Agrees { new with capability := none } (some (toState .cancelled)) := by
    simp only [Agrees, moved]
  refine .seq (lockstep_publish mirrored' found' kept journaled rfl agrees ?_)
  exact fun t' settled _ => .pure (post t' _ settled)

theorem lockstep_complete {Q : RunStatus → World S → Prop}
    (journalable : ∀ record, w.service.runs.lookup handle.id = some record →
      record.run = handle → record.attempt = attempt → record.status ≠ .running) :
    lockstep forget (complete env handle attempt) Q (Halted env) w := by
  refine .bind (lockstep_record (fun before found named => ?_) fun _ => mirrored)
  refine .bind (lockstep_failIf mirrored fun owned => ?_)
  refine .bind (lockstep_failIf mirrored fun collectable => ?_)
  have unstarted := journalable before found named (not_not.mp owned)
  have collecting : before.status = .collecting := by
    cases hs : before.status <;> simp_all [RunStatus.collectable]
  have underway : before.status.underway = true := by rw [collecting]; rfl
  refine .bind (lockstep_revokeHeld mirrored found underway fun t mirrored' found' => ?_)
  refine .bind (lockstep_recordMut (fun record hr _ => ?_) fun _ => mirrored')
  obtain rfl := Option.mem_unique found' hr
  refine .bind (lockstep_failIf mirrored' fun _ => ?_)
  refine .bind (lockstep_failIf mirrored' fun _ => ?_)
  -- A run waits in collection only when its event list is full.
  refine .bind (lockstep_require (fun new pushed => ?_) fun _ _ => mirrored')
  exact absurd collecting (mirrored'.not_collecting found' pushed)

theorem lockstep_inspectAttempt (found : w.service.runs.lookup id = some record)
    (post : ∀ t, Mirrored env none t → t.service.runs.lookup id = some record → Q () t) :
    lockstep forget (inspectAttempt env record attempt) Q (Halted env) w := by
  refine .bind (lockstep_askSource mirrored.calm ?_)
  have inspected := mirrored.answered
    (env.authority.reconcile record.request attempt w.service.source).2 w.calls
  cases (env.authority.reconcile record.request attempt w.service.source).1 with
  | error e => exact lockstep_fail inspected
  | ok u =>
    cases hc : record.capability with
    | none => exact .pure (post _ inspected found)
    | some capability =>
      refine .bind (lockstep_askSource inspected.calm ?_)
      split
      · exact lockstep_fail (inspected.answered _ _)
      · exact .pure (post _ (inspected.answered _ _) found)

theorem lockstep_reconcile {Q : RunStatus → World S → Prop}
    (post : ∀ t status, Mirrored env none t → Q status t) :
    lockstep forget (reconcile env handle attempt) Q (Halted env) w := by
  refine .get rfl ?_
  cases hr : w.service.runs.lookup handle.id with
  | none => exact lockstep_fail mirrored
  | some record =>
    refine .bind (lockstep_failIf mirrored fun matched => ?_)
    have interrupted : record.status = .needsReconciliation := by
      by_contra other
      exact matched (.inr (.inr other))
    refine .bind (lockstep_inspectAttempt mirrored hr fun t mirrored₁ found => ?_)
    have journaled := mirrored₁.journaled_running found (by rw [interrupted]; rfl)
    have failed := (mirrored₁.weaken handle.id).put found
      (rfl : ({ record with capability := none, status := .failed } : RunRecord).attempt = _)
    refine .bind (lockstep_updateRecord found ?_)
    refine .bind (lockstep_persistFor failed (lookup_insert _) journaled rfl ?_)
    intro t₂ mirrored₂ same₂ journaled₂
    have found₂ : t₂.service.runs.lookup handle.id =
        some { record with capability := none, status := .failed } := by
      rw [same₂]
      exact lookup_insert _
    refine .bind (lockstep_updateRecord found₂ (.pure (post _ _ ?_)))
    have lifted := mirrored₂.put found₂ (rfl : ({ record with
      capability := none, status := .failed, durabilityBarrier := false } : RunRecord).attempt = _)
    exact lifted.settled (lookup_insert _) journaled₂ trivial

/-- The durable intent of a fresh run whose manifest fits. -/
theorem lockstep_journalIntent {E : Stop → World S → Prop} (hrun : run.id = runIdOf n)
    (hattempt : attempt.id = attemptIdOf (n + 1)) (allocated : n < w.service.nextId)
    (numbered : n + 2 ≤ u64Max) (fresh : w.disk.runs.lookup (runIdOf n) = none)
    (fits : env.manifestBytes (intendedManifest n request) ≤ 16 * 1024 * 1024)
    (post : ∀ t dir, Mirrored env none t → t.service = w.service →
      t.disk.runs.lookup (runIdOf n) = some dir → dir.manifest.attemptId = attempt.id →
      lastState dir.journal = some .planned → Q () t) :
    lockstep forget (journalIntent env request run attempt) Q E w := by
  have housed : Housed env n ⟨intendedManifest n request, []⟩ := housed_created numbered fits
  have absent : w.service.runs.lookup (runIdOf n) = none := by
    by_contra present
    obtain ⟨record, found⟩ := Option.ne_none_iff_exists'.mp present
    obtain ⟨dir, hd, _⟩ := mirrored.records _ record found
    simp [fresh] at hd
  have created : createRun env.codec {} w.disk (intendedManifest n request) =
      .ok { w.disk with runs := w.disk.runs.insert (runIdOf n) ⟨intendedManifest n request, []⟩ } :=
    createRun_of_free housed.sound.manifest fresh fits
  have placed := mirrored.weaken (runIdOf n) |>.place rfl allocated housed fun old ho => by
    simp [fresh] at ho
  obtain ⟨t, appended, mirrored', same, forgotten, stored⟩ :=
    appendEvent_calm placed (lookup_insert _)
      (rfl : allowedTransition none (toState .admitted) = true)
  have settled : Mirrored env none t := mirrored'.vacant (by rw [same]; exact absent)
  have written : ∀ staged, writeStore staged
      (fun disk => createRun env.codec {} disk (intendedManifest n request)) w =
        .ok (.ok ()) _ := fun staged => writeStore_calm mirrored.calm staged created
  have full : journalIntent env request run attempt w = .ok () t := by
    change appendEvent env (runIdOf n) (attemptIdOf (n + 1)) .admitted 0 _ = _ at appended
    simp only [intendedManifest] at written appended
    simp [journalIntent, bind, EStateM.bind, get, getThe, MonadStateOf.get, EStateM.get,
      mirrored.durable, hrun, hattempt, written, appended, check, pure, EStateM.pure]
  have erased : journalIntent env request run attempt w.forget = .ok () t.forget := by
    rw [forgotten]
    rfl
  exact .of_ok full erased (post t _ settled same stored hattempt.symm
    (RunDir.lastState_extend _ _))

theorem lockstep_admitAs {Q : RunHandle → World S → Prop} {digest : String}
    (allocated : n < w.service.nextId) (numbered : n + 2 ≤ u64Max)
    (fresh : w.disk.runs.lookup (runIdOf n) = none)
    (fits : env.manifestBytes (intendedManifest n request) ≤ 16 * 1024 * 1024)
    (granted : (env.authority.prepare request w.service.source).1 = .ok capability)
    (post : ∀ t run, Mirrored env none t → Q run t) :
    lockstep forget (admitAs env request digest n) Q (Halted env) w := by
  refine .bind (lockstep_journalIntent mirrored rfl rfl allocated numbered fresh fits ?_)
  intro t dir mirrored₁ same hd attempt planned
  rw [← same] at granted
  have answered := mirrored₁.answered (env.authority.prepare request t.service.source).2 t.calls
  refine .bind (lockstep_askSource mirrored₁.calm ?_)
  rw [granted]
  refine .bind (lockstep_require (fun prepared pushed => ?_) fun _ _ => answered)
  obtain ⟨_, kept, moved⟩ := pushEvent_ok pushed
  have inserted := (answered.weaken (runIdOf n)).insert hd (attempt.trans (by rw [kept]))
    (t.service.idempotency.insert request.idempotencyKey (runIdOf n))
  refine .bind (lockstep_updateService rfl ?_)
  refine .bind (lockstep_persistFor inserted (lookup_insert _) ⟨dir, hd, planned⟩ rfl
    fun t' mirrored₂ same₂ journaled => .pure (post t' _ ?_))
  have agrees : Agrees prepared (some (toState .prepared)) := by
    simp only [Agrees, moved]
    rfl
  refine mirrored₂.settled ?_ journaled agrees
  rw [same₂]
  exact lookup_insert _

theorem lockstep_admitRun {Q : RunHandle → World S → Prop}
    (admissible : validateRequest request = .ok () →
      w.service.idempotency.lookup request.idempotencyKey = none →
      activeRuns w.service < maxActiveRuns → w.service.nextId + 2 ≤ u64Max →
      Admissible env w.service request) (post : ∀ t run, Mirrored env none t → Q run t) :
    lockstep forget (admitRun env request) Q (Halted env) w := by
  refine .bind (lockstep_require (fun _ valid => ?_) fun _ _ => mirrored)
  refine .get rfl ?_
  dsimp only
  cases hk : w.service.idempotency.lookup request.idempotencyKey with
  | some existing =>
    dsimp only
    cases hr : w.service.runs.lookup existing with
    | none =>
      exact lockstep_fail mirrored
    | some record =>
      refine .bind (lockstep_failIf mirrored fun _ => ?_)
      exact .pure (post w _ mirrored)
  | none =>
    refine .bind (lockstep_failIf mirrored fun active => ?_)
    refine .bind (lockstep_failIf mirrored fun _ => ?_)
    have first := mirrored.allocate (w.service.nextId + 1) (by omega)
    refine .bind (lockstep_updateService rfl ?_)
    refine .bind (lockstep_failIf first fun numbered => ?_)
    have second := first.allocate (w.service.nextId + 2) (Nat.le_succ _)
    have allocated : w.service.nextId < w.service.nextId + 2 := by omega
    obtain ⟨fits, capability, granted⟩ := admissible valid hk (by omega) (by omega)
    refine .bind (lockstep_updateService rfl ?_)
    exact lockstep_admitAs second allocated (by omega) mirrored.fresh fits granted post

end Operations

/-- The calls after which the store still follows the service: a new run needs a
manifest that fits and an authority that grants it, a prepared run is not
cancelled, and a running one is not completed by hand. -/
def Journalable (env : Environment S) (w : World S) : Call → Prop
  | .admitRun request =>
    validateRequest request = .ok () →
    w.service.idempotency.lookup request.idempotencyKey = none →
    activeRuns w.service < maxActiveRuns → w.service.nextId + 2 ≤ u64Max →
    Admissible env w.service request
  | .cancel run attempt => ∀ record, w.service.runs.lookup run.id = some record →
    record.run = run → record.attempt = attempt → record.status ≠ .prepared
  | .complete run attempt => ∀ record, w.service.runs.lookup run.id = some record →
    record.run = run → record.attempt = attempt → record.status ≠ .running
  | .start _ | .execute _ _ | .reconcile _ _ => True
  | .admitFanout _ => False

theorem lockstep_perform (mirrored : Mirrored env none w) (journalable : Journalable env w call) :
    lockstep forget (perform env call) (fun _ => Mirrored env none) (Halted env) w := by
  cases call with
  | admitRun request =>
    exact .bind (lockstep_admitRun mirrored journalable fun _ _ h => .pure h)
  | admitFanout fanout => exact journalable.elim
  | start handle => exact .bind (lockstep_start mirrored fun _ _ h _ _ => .pure h)
  | execute run attempt =>
    exact .bind (lockstep_execute mirrored fun _ _ h => .pure h)
  | cancel run attempt =>
    exact .bind (lockstep_cancel mirrored journalable fun _ _ h => .pure h)
  | complete run attempt => exact .bind (lockstep_complete mirrored journalable)
  | reconcile run attempt =>
    exact .bind (lockstep_reconcile mirrored fun _ _ h => .pure h)

/-- The reply of a call and the world after it. -/
def respond (env : Environment S) (call : Call) (w : World S) : Except Stop Reply × World S :=
  match perform env call w with
  | .ok reply t => (.ok reply, t)
  | .error stop t => (.error stop, t)

theorem respond_forget (mirrored : Mirrored env none w) (journalable : Journalable env w call) :
    respond env call w.forget = ((respond env call w).1, (respond env call w).2.forget) ∧
      Mirrored env none (respond env call w).2 := by
  rcases (lockstep_perform mirrored journalable).run with
    ⟨reply, t, full, erased, settled⟩ | ⟨stop, t, full, erased, settled⟩
  · simp only [respond, full, erased]
    exact ⟨trivial, settled⟩
  · cases stop with
    | crash => exact settled.elim
    | error e =>
      simp only [respond, full, erased]
      exact ⟨trivial, settled⟩

/-- A durable and an in-memory service that receive the same calls, and their replies. -/
structure Twin (S : Type) where
  durable : World S
  memory : World S
  replies : List (Except Stop Reply × Except Stop Reply)

/-- One service opened on an unused root, the other made without a store. -/
def Twin.opened (env : Environment S) (source : S) : Twin S where
  durable := match openStore env ⟨{ Orchestrator.new source with durable := true }, Disk.empty, [],
      [], 0⟩ with
    | .ok _ w => w
    | .error _ w => w
  memory := ⟨Orchestrator.new source, Disk.empty, [], [], 0⟩
  replies := []

def Twin.step (env : Environment S) (twin : Twin S) (call : Call) : Twin S where
  durable := (respond env call twin.durable).2
  memory := (respond env call twin.memory).2
  replies := twin.replies ++ [((respond env call twin.durable).1, (respond env call twin.memory).1)]

/-- The same replies, the same statuses, and no change refused by the store's table. -/
def Twin.Agree (twin : Twin S) : Prop :=
  (∀ pair ∈ twin.replies, pair.1 = pair.2) ∧
    (∀ handle, status twin.durable.service handle = status twin.memory.service handle) ∧
    twin.durable.refusals = 0

structure Twin.Aligned (env : Environment S) (twin : Twin S) : Prop where
  mirrored : Mirrored env none twin.durable
  memory : twin.memory = twin.durable.forget
  replies : ∀ pair ∈ twin.replies, pair.1 = pair.2

theorem Twin.opened_aligned (env : Environment S) (source : S) :
    (Twin.opened env source).Aligned env where
  mirrored :=
    { durable := rfl, calm := rfl, accepted := rfl
      dirs := fun _ _ found => nomatch found
      records := fun _ _ found => nomatch found }
  memory := rfl
  replies := by simp [Twin.opened]

theorem Twin.Aligned.step {twin : Twin S} (aligned : twin.Aligned env) {call : Call}
    (journalable : Journalable env twin.durable call) : (twin.step env call).Aligned env := by
  obtain ⟨same, mirrored⟩ := respond_forget aligned.mirrored journalable
  have erased : respond env call twin.memory = _ := aligned.memory ▸ same
  refine ⟨mirrored, congrArg Prod.snd erased, ?_⟩
  intro pair hp
  rcases List.mem_append.mp hp with old | new
  · exact aligned.replies pair old
  · rw [List.mem_singleton.mp new]
    exact (congrArg Prod.fst erased).symm

theorem Twin.Aligned.agree {twin : Twin S} (aligned : twin.Aligned env) : twin.Agree := by
  refine ⟨aligned.replies, fun handle => ?_, aligned.mirrored.accepted⟩
  rw [aligned.memory]
  rfl

/-- In every run whose calls the store can follow, the durable service returns
what the in-memory one returns and reports the same statuses. -/
theorem durable_refines_memory (env : Environment S) (source : S) {calls : List Call}
    {twin : Twin S}
    (run : Runs.Run (fun before call after =>
      Journalable env before.durable call ∧ after = before.step env call)
      (Twin.opened env source) calls twin) : twin.Agree := by
  have aligned : twin.Aligned env := by
    refine run.invariant ?_ (Twin.opened_aligned env source)
    rintro before call _ aligned ⟨journalable, rfl⟩
    exact aligned.step journalable
  exact aligned.agree

/-- Admit one request and execute its attempt. -/
def sampleCalls : List Call := [.admitRun sampleRequest, .execute sampleRun sampleAttempt]

theorem durable_refines_memory_sample :
    (sampleCalls.foldl (Twin.step sampleEnvironment) (Twin.opened sampleEnvironment ())).Agree := by
  have admitted : Journalable sampleEnvironment (Twin.opened sampleEnvironment ()).durable
      (.admitRun sampleRequest) := fun _ _ _ _ => ⟨by decide, _, rfl⟩
  have executed : Journalable sampleEnvironment
      ((Twin.opened sampleEnvironment ()).step sampleEnvironment (.admitRun sampleRequest)).durable
      (.execute sampleRun sampleAttempt) := trivial
  exact durable_refines_memory sampleEnvironment ()
    (.snoc (.snoc (.nil _) ⟨admitted, rfl⟩) ⟨executed, rfl⟩)

/-- The six calls of a single run. -/
def Call.single : Call → Prop
  | .admitFanout _ => False
  | _ => True

/-- A prepared run can be cancelled only without a store. -/
theorem not_durable_refines_memory :
    ¬ ∀ (S : Type) (env : Environment S) (source : S) (calls : List Call),
      (∀ call ∈ calls, call.single) →
      (calls.foldl (Twin.step env) (Twin.opened env source)).Agree := by
  intro refines
  have agree := refines Unit sampleEnvironment ()
    [.admitRun sampleRequest, .cancel sampleRun sampleAttempt] (by simp [Call.single])
  have refused : (.error (.error (.storage .invalidTransition)), .ok (.status .cancelled)) ∈
      ([.admitRun sampleRequest, .cancel sampleRun sampleAttempt].foldl
        (Twin.step sampleEnvironment) (Twin.opened sampleEnvironment ())).replies := by
    decide +kernel
  exact nomatch agree.1 _ refused

end AgentSystemsBenchmark
