import AgentSystemsBenchmark.Orchestrator.Model

/-!
# Orchestrator operations

Each operation follows the statements of its source method in order. Store
accesses and authority calls take the next outcome from `World.faults`; an
exhausted list means that nothing goes wrong any more. `World.calls` records the
attempt identity of every invocation of `executeUntil`, and `World.refusals`
counts the events the store's transition table turned down.
-/

namespace AgentSystemsBenchmark

/-- Why an operation stopped early: it returned an error, or the process died. -/
inductive Stop where
  | error (error : OrchestratorError)
  | crash
  deriving DecidableEq, Repr

structure World (S : Type) where
  service : Orchestrator S
  disk : Disk RunRequest RunStatus
  faults : List Fault
  calls : List String
  refusals : Nat

/-- The journal under this name ends in the given state. -/
def Journaled {S : Type} (w : World S) (id : String) (state : ExecutionState) : Prop :=
  ∃ dir, w.disk.runs.lookup id = some dir ∧ lastState dir.journal = some state

abbrev Op (S : Type) := EStateM Stop (World S)

/-- What holds whenever the operation returns; a crash returns nothing. -/
def Returning {S : Type} (P : World S → Prop) : Stop → World S → Prop
  | .error _, w => P w
  | .crash, _ => True

/-- The runtime adapter, the request digest and the size of a serialized manifest. -/
structure Environment (S : Type) where
  authority : AuthoritySource S
  requestDigest : RunRequest → String
  manifestBytes : RunManifest RunRequest → Nat

def Environment.codec {S : Type} (env : Environment S) : Codec RunRequest RunStatus :=
  ⟨env.manifestBytes, fun event => (encodeEvent event).utf8ByteSize⟩

section Primitives
variable {S α : Type}

def fail (error : OrchestratorError) : Op S α := throw (.error error)

/-- Return an error when the condition holds. -/
def failIf (c : Prop) [Decidable c] (error : OrchestratorError) : Op S Unit :=
  if c then fail error else pure ()

/-- The `?` operator on a store result. -/
def check : Except StoreError α → Op S α
  | .ok a => pure a
  | .error e => fail (.storage e)

/-- The `?` operator on an orchestrator result. -/
def require : Except OrchestratorError α → Op S α
  | .ok a => pure a
  | .error e => fail e

/-- Inspect an error instead of returning it; a crash is not an error. -/
def attempt (x : Op S α) : Op S (Except OrchestratorError α) := fun w =>
  match x w with
  | .ok a t => .ok (.ok a) t
  | .error (.error e) t => .ok (.error e) t
  | .error .crash t => .error .crash t

def nextFault : Op S Fault := fun w =>
  .ok (w.faults.headD .none) { w with faults := w.faults.tail }

def readStore (value : Disk RunRequest RunStatus → Except StoreError α) :
    Op S (Except StoreError α) := do
  let fault ← nextFault
  match fault.read (value (← get).disk) with
  | some result => return result
  | none => throw .crash

/-- One when the transition table turned the write down. -/
def refusal : Except StoreError α → Nat
  | .error .invalidTransition => 1
  | _ => 0

def writeStore (staged : String → Disk RunRequest RunStatus → Disk RunRequest RunStatus)
    (intended : Disk RunRequest RunStatus → Except StoreError (Disk RunRequest RunStatus)) :
    Op S (Except StoreError Unit) := do
  let fault ← nextFault
  let w ← get
  let outcome := fault.write w.disk (fun tag => staged tag w.disk) (intended w.disk)
  set { w with disk := outcome.2, refusals := w.refusals + refusal (intended w.disk) }
  match outcome.1 with
  | some result => return result
  | none => throw .crash

/-- A call into the authority; the process may die before or after it. -/
def invoke (call : World S → α × World S) : Op S α := do
  let fault ← nextFault
  if fault = .crashBefore then throw .crash
  else
    let answer := call (← get)
    set answer.2
    if fault = .crashAfter then throw .crash else return answer.1

def askSource (call : S → α × S) : Op S α :=
  invoke fun w => ((call w.service.source).1,
    { w with service := { w.service with source := (call w.service.source).2 } })

def updateService (f : Orchestrator S → Orchestrator S) : Op S Unit :=
  modify fun w => { w with service := f w.service }

def putRecord (runId : String) (record : RunRecord) : Op S Unit :=
  updateService fun o => { o with runs := o.runs.insert runId record }

/-- Change a record in place; nothing happens when there is none. -/
def updateRecord (runId : String) (f : RunRecord → RunRecord) : Op S Unit :=
  updateService fun o =>
    match o.runs.lookup runId with
    | none => o
    | some record => { o with runs := o.runs.insert runId (f record) }

def record (handle : RunHandle) : Op S RunRecord := do
  match (← get).service.runs.lookup handle.id with
  | none => fail .notFound
  | some record =>
    failIf (record.run ≠ handle) .staleHandle
    return record

def recordMut (handle : RunHandle) : Op S RunRecord := do
  let record ← record handle
  failIf record.durabilityBarrier .needsReconciliation
  return record

def RunRecord.interrupted (record : RunRecord) : RunRecord :=
  { record with status := .needsReconciliation, capability := none, durabilityBarrier := true }

/-- Demote a run whose cleanup failed; the error is returned to the caller. -/
def cleanupBarrier (runId : String) : Op S α := do
  updateRecord runId RunRecord.interrupted
  fail .needsReconciliation

end Primitives

section Rules
open Effects
variable {S α : Type} {E : Stop → World S → Prop} {w : World S} {Q : α → World S → Prop}

@[simp] theorem wp_fail (error : OrchestratorError) :
    wp (fail error) Q E w ↔ E (.error error) w := Iff.rfl

@[simp] theorem wp_failIf {Q : Unit → World S → Prop} (c : Prop) [Decidable c]
    (error : OrchestratorError) :
    wp (failIf c error) Q E w ↔ (c → E (.error error) w) ∧ (¬ c → Q () w) := by
  by_cases h : c <;> simp [failIf, h]

@[simp] theorem wp_check (result : Except StoreError α) :
    wp (check result) Q E w ↔
      (∀ a, result = .ok a → Q a w) ∧ ∀ e, result = .error e → E (.error (.storage e)) w := by
  cases result <;> simp [check]

@[simp] theorem wp_require (result : Except OrchestratorError α) :
    wp (require result) Q E w ↔
      (∀ a, result = .ok a → Q a w) ∧ ∀ e, result = .error e → E (.error e) w := by
  cases result <;> simp [require]

theorem wp_attempt {Q : Except OrchestratorError α → World S → Prop}
    (h : wp x (fun a t => Q (.ok a) t)
      (fun stop t => match stop with | .error e => Q (.error e) t | .crash => E .crash t) w) :
    wp (attempt x) Q E w := by
  unfold wp at h ⊢
  unfold attempt
  rcases hx : x w with ⟨a, t⟩ | ⟨_ | _, t⟩ <;> simpa only [hx] using h

@[simp] theorem wp_updateService {Q : Unit → World S → Prop}
    (f : Orchestrator S → Orchestrator S) :
    wp (updateService f) Q E w ↔ Q () { w with service := f w.service } := Iff.rfl

/-- A read uses up one outcome and leaves everything else. -/
theorem wp_readStore {Q : Except StoreError α → World S → Prop}
    (returned : ∀ result, (∀ a, result = .ok a → value w.disk = .ok a) →
      Q result { w with faults := w.faults.tail })
    (crashed : E .crash { w with faults := w.faults.tail }) : wp (readStore value) Q E w := by
  simp only [readStore, wp_bind]
  refine wp_of_ok rfl ?_
  simp only [wp_get]
  split
  · rename_i result hr
    refine returned result fun a ha => ?_
    exact Fault.read_ok (hr.trans (congrArg some ha))
  · exact crashed

/-- A write changes the disk to the old, the intended or the staged one, and
reports success only for the intended one. -/
theorem wp_writeStore {Q : Except StoreError Unit → World S → Prop}
    {P : Disk RunRequest RunStatus → Prop} (old : P w.disk)
    (new : ∀ disk, intended w.disk = .ok disk → P disk) (leftover : ∀ tag, P (staged tag w.disk))
    (returned : ∀ refusals disk e, P disk → Q (.error e) { w with
      disk := disk, faults := w.faults.tail, refusals := refusals })
    (succeeded : ∀ refusals disk, intended w.disk = .ok disk → Q (.ok ()) { w with
      disk := disk, faults := w.faults.tail, refusals := refusals })
    (crashed : ∀ refusals disk, P disk → E .crash { w with
      disk := disk, faults := w.faults.tail, refusals := refusals }) :
    wp (writeStore staged intended) Q E w := by
  simp only [writeStore, wp_bind]
  refine wp_of_ok rfl ?_
  simp only [wp_get, wp_set]
  generalize hf : w.faults.headD .none = fault
  have after : P (fault.write w.disk (fun tag => staged tag w.disk) (intended w.disk)).2 := by
    rcases fault.write_disk_cases w.disk (fun tag => staged tag w.disk) (intended w.disk) with
      h | ⟨disk, hi, h⟩ | ⟨tag, h⟩
    · rw [h]; exact old
    · rw [h]; exact new disk hi
    · rw [h]; exact leftover tag
  split
  · rename_i result hr
    cases result with
    | error e => exact returned _ _ e after
    | ok u =>
      obtain ⟨disk, hi, h⟩ := Fault.write_ok hr
      rw [h]
      exact succeeded _ disk hi
  · exact crashed _ _ after

/-- The answer of a call depends on the service it is made in; a crash may come
before or after the call. -/
theorem wp_invoke (returned : let answer := call { w with faults := w.faults.tail }
      Q answer.1 answer.2) (before : E .crash { w with faults := w.faults.tail })
    (after : E .crash (call { w with faults := w.faults.tail }).2) : wp (invoke call) Q E w := by
  simp only [invoke, wp_bind]
  refine wp_of_ok rfl ?_
  simp only [wp_ite, wp_bind, wp_throw, wp_get, wp_set, wp_pure]
  exact ⟨fun _ => before, fun _ => ⟨fun _ => after, fun _ => returned⟩⟩

theorem wp_record {Q : RunRecord → World S → Prop}
    (found : ∀ r, w.service.runs.lookup handle.id = some r → r.run = handle → Q r w)
    (missing : ∀ e, E (.error e) w) : wp (record handle) Q E w := by
  simp only [record, wp_bind, wp_get]
  cases hr : w.service.runs.lookup handle.id with
  | none => exact missing _
  | some r =>
    simp only [wp_bind, wp_failIf, wp_pure]
    exact ⟨fun _ => missing _, fun h => found r hr (not_not.mp h)⟩

theorem wp_recordMut {Q : RunRecord → World S → Prop}
    (found : ∀ r, w.service.runs.lookup handle.id = some r → r.run = handle → Q r w)
    (missing : ∀ e, E (.error e) w) : wp (recordMut handle) Q E w := by
  simp only [recordMut, wp_bind]
  refine wp_record (fun r hr hh => ?_) missing
  simp only [wp_failIf, wp_pure]
  exact ⟨fun _ => missing _, fun _ => found r hr hh⟩

end Rules

section Calm
variable {S α : Type} {w : World S}

section
variable (calm : w.faults = [])
include calm

theorem nextFault_calm : nextFault w = .ok .none w := by
  obtain ⟨service, disk, faults, calls, refusals⟩ := w
  obtain rfl : faults = [] := calm
  rfl

theorem readStore_calm (value : Disk RunRequest RunStatus → Except StoreError α) :
    readStore value w = .ok (value w.disk) w := by
  simp [readStore, bind, EStateM.bind, nextFault_calm calm, get, getThe, MonadStateOf.get,
    EStateM.get, pure, EStateM.pure, Fault.read]

/-- A write that succeeds changes the disk alone. -/
theorem writeStore_calm (staged : String → Disk RunRequest RunStatus → Disk RunRequest RunStatus)
    (success : intended w.disk = .ok disk) :
    writeStore staged intended w = .ok (.ok ()) { w with disk := disk } := by
  simp [writeStore, bind, EStateM.bind, nextFault_calm calm, get, getThe, MonadStateOf.get,
    EStateM.get, set, EStateM.set, pure, EStateM.pure, Fault.write, success, refusal]

theorem invoke_calm (call : World S → α × World S) :
    invoke call w = .ok (call w).1 (call w).2 := by
  simp [invoke, bind, EStateM.bind, nextFault_calm calm, get, getThe, MonadStateOf.get,
    EStateM.get, set, EStateM.set, pure, EStateM.pure]

end

/-- A fault that the access reports to its caller. -/
def Fault.reports : Fault → Bool
  | failBefore | failAfter | failStaged _ => true
  | _ => false

/-- A read that reports no fault returns what is stored, unless the process dies. -/
theorem wp_readStore_sure {Q : Except StoreError α → World S → Prop} {E : Stop → World S → Prop}
    (sure : (w.faults.headD .none).reports = false)
    (returned : Q (value w.disk) { w with faults := w.faults.tail })
    (crashed : E .crash { w with faults := w.faults.tail }) :
    Effects.wp (readStore value) Q E w := by
  simp only [readStore, Effects.wp_bind]
  refine Effects.wp_of_ok rfl ?_
  simp only [Effects.wp_get]
  cases fault : w.faults.headD .none <;> rw [fault] at sure <;>
    first | exact returned | exact crashed | cases sure

/-- A write that reports no fault takes effect, unless the process dies. -/
theorem wp_writeStore_sure {Q : Except StoreError Unit → World S → Prop} {E : Stop → World S → Prop}
    (sure : (w.faults.headD .none).reports = false) (success : intended w.disk = .ok disk)
    (returned : ∀ refusals, Q (.ok ()) { w with
      disk := disk, faults := w.faults.tail, refusals := refusals }) (crashed : ∀ t, E .crash t) :
    Effects.wp (writeStore staged intended) Q E w := by
  simp only [writeStore, Effects.wp_bind]
  refine Effects.wp_of_ok rfl ?_
  simp only [Effects.wp_get, Effects.wp_set, success]
  cases fault : w.faults.headD .none <;> rw [fault] at sure <;>
    first | exact returned _ | exact crashed _ | cases sure

end Calm

section Operations
variable {S : Type} (env : Environment S)

/-- `append` leaves at most a temporary file behind, which no read lists. -/
def appendEvent (runId attemptId : String) (status : RunStatus) (sequence : Nat) :
    Op S (Except StoreError Unit) :=
  writeStore (fun _ disk => disk) fun disk => append env.codec {} disk runId
    ⟨journalSchemaVersion, sequence, attemptId, sequence, toState status, status⟩

/-- Load the journal and append the state unless it is already the last one. -/
def journalStatus (runId attemptId : String) (status : RunStatus) :
    Op S (Except StoreError Unit) := do
  match ← readStore (loadJournal env.codec {} · runId) with
  | .error e => return .error e
  | .ok events =>
    if lastState events = some (toState status) then return .ok ()
    else appendEvent env runId attemptId status events.length

def persistRecord (record : RunRecord) (status : RunStatus) : Op S Unit := do
  if (← get).service.durable then
    check (← journalStatus env record.run.id record.attempt.id status)

/-- The event that could not be made durable is taken back. -/
def RunRecord.unpersisted (record : RunRecord) (status : RunStatus) : RunRecord :=
  let events := if record.events.getLast?.map RunEvent.status = some status
    then record.events.dropLast else record.events
  { record with events := events }.interrupted

def persistFor (runId : String) (status : RunStatus) : Op S Unit := do
  let service := (← get).service
  if service.durable then
    match service.runs.lookup runId with
    | none => fail .notFound
    | some record =>
      match ← journalStatus env runId record.attempt.id status with
      | .ok () => return
      | .error e =>
        updateRecord runId (·.unpersisted status)
        fail (.storage e)

def openRun (id : String) : Op S Unit := do
  let manifest ← check (← readStore (loadManifest env.codec {} · id))
  let request := manifest.definition
  require (validateRequest request)
  let digest := env.requestDigest request
  let events ← check (← readStore (loadJournal env.codec {} · id))
  let status := ((lastState events).map fromState).getD .admitted
  let run : RunHandle := ⟨manifest.runId, 1, digest⟩
  let attemptHandle : AttemptHandle := ⟨manifest.attemptId, 1, digest⟩
  let decision ← check (← readStore (recoveryDecision env.codec {} · id))
  let capability ←
    if decision = .resume .prepared then
      match ← askSource (env.authority.prepare request) with
      | .ok capability => pure (some { capability with attemptId := manifest.attemptId })
      | .error e => fail (.authority e)
    else pure none
  let restored := events.mapIdx fun index event =>
    (⟨index + 1, fromState event.state, some run, some attemptHandle, "lifecycle"⟩ : RunEvent)
  updateService fun o => { o with
    idempotency := o.idempotency.insert request.idempotencyKey run.id
    runs := o.runs.insert run.id
      ⟨request, digest, run, attemptHandle, status, capability, restored, 0, false⟩
    nextId := max o.nextId (min (parseIdNumber id + 1) u64Max) }

/-- Open the journal root: one record for each run directory, in lexical order. -/
def openStore : Op S Unit := do
  check (← readStore fun _ => .ok ())
  let ids ← check (← readStore fun disk => .ok (runIds disk))
  ids.forM (openRun env)

def activeRuns (o : Orchestrator S) : Nat :=
  (o.runs.entries.filter fun entry => !entry.2.status.terminal).length

/-- The durable intent of a new run: its manifest, then the planned event. -/
def journalIntent (request : RunRequest) (run : RunHandle) (attemptHandle : AttemptHandle) :
    Op S Unit := do
  if (← get).service.durable then
    check (← writeStore
      (fun tag disk => { disk with stages := ("." ++ run.id ++ "." ++ tag) :: disk.stages })
      fun disk => createRun env.codec {} disk
        ⟨manifestSchemaVersion, run.id, attemptHandle.id, request⟩)
    check (← appendEvent env run.id attemptHandle.id .admitted 0)

/-- The tail of `admit` once both identities are allocated. -/
def admitAs (request : RunRequest) (digest : String) (n : Nat) : Op S RunHandle := do
  let run : RunHandle := ⟨runIdOf n, 1, digest⟩
  let attemptHandle : AttemptHandle := ⟨attemptIdOf (n + 1), 1, digest⟩
  let fresh : RunRecord :=
    ⟨request, digest, run, attemptHandle, .admitted, none, [], 0, false⟩
  journalIntent env request run attemptHandle
  match ← askSource (env.authority.prepare request) with
  | .error e =>
    -- The failed record is never stored in memory, and a refused write is ignored.
    let _ ← attempt (persistRecord env fresh .failed)
    fail (.authority e)
  | .ok capability =>
    let prepared ← require
      (pushEvent { fresh with capability := some { capability with attemptId := attemptHandle.id } }
        .prepared)
    updateService fun o => { o with
      idempotency := o.idempotency.insert request.idempotencyKey run.id
      runs := o.runs.insert run.id prepared }
    persistFor env run.id .prepared
    return run

def admitRun (request : RunRequest) : Op S RunHandle := do
  require (validateRequest request)
  let digest := env.requestDigest request
  let o := (← get).service
  match o.idempotency.lookup request.idempotencyKey with
  | some existing =>
    match o.runs.lookup existing with
    | none => fail .notFound
    | some record =>
      failIf (record.requestDigest ≠ digest) .idempotencyConflict
      return record.run
  | none =>
    failIf (activeRuns o ≥ maxActiveRuns) (.invalidLimit "active_runs")
    failIf (o.nextId + 1 > u64Max) (.invalidRequest "run id")
    updateService fun o => { o with nextId := o.nextId + 1 }
    failIf (o.nextId + 2 > u64Max) (.invalidRequest "attempt id")
    updateService fun o => { o with nextId := o.nextId + 1 }
    admitAs env request digest o.nextId

def start (handle : RunHandle) : Op S RunStatus := do
  let record ← recordMut handle
  failIf (record.status ≠ .prepared) .invalidTransition
  let record ← require (pushEvent record .running)
  putRecord handle.id record
  persistFor env handle.id .running
  return .running

/-- Record a terminal status, drop the capability and make the status durable. -/
def settle (handle : RunHandle) (status : RunStatus) : Op S Unit := do
  let record ← recordMut handle
  let record ← require (pushEvent record status)
  putRecord handle.id { record with capability := none }
  persistFor env handle.id status

/-- Revoke the attempt's resources; a failed revocation demotes the run. -/
def revoke (runId : String) (request : RunRequest) (capability : AttemptCapability) :
    Op S Unit := do
  match ← askSource (env.authority.cancel request capability) with
  | .ok () => return
  | .error _ => cleanupBarrier runId

/-- The first evidence bound the outcome exceeds. -/
def evidenceLimit (limits : RunLimits) (outcome : ExecutionOutcome) : Option String :=
  if outcome.outputBytes > limits.maxOutputBytes then some "max_output_bytes"
  else if outcome.artifactBytes > limits.maxArtifactTotalBytes then some "max_artifact_total_bytes"
  else if outcome.artifactCount > limits.maxArtifacts then some "max_artifacts"
  else if outcome.largestArtifactBytes > limits.maxArtifactBytes then some "max_artifact_bytes"
  else none

/-- A failed attempt: revoke, settle as failed, return the error. -/
def failAttempt {α : Type} (run : RunHandle) (request : RunRequest)
    (capability : AttemptCapability) (error : OrchestratorError) : Op S α := do
  revoke env run.id request capability
  settle env run .failed
  fail error

def collect (run : RunHandle) (outcome : ExecutionOutcome) : Op S ExecutionOutcome := do
  let record ← recordMut run
  let record ← require (pushEvent record .collecting)
  putRecord run.id record
  let record ← require (pushEvent record .completed)
  putRecord run.id { record with capability := none, artifactBytes := outcome.artifactBytes }
  persistFor env run.id .collecting
  persistFor env run.id .completed
  return outcome

/-- What `execute` does with the authority's answer. -/
def conclude (run : RunHandle) (request : RunRequest) (capability : AttemptCapability)
    (answer : Except AuthorityError ExecutionOutcome × Nat) : Op S ExecutionOutcome := do
  match answer.1 with
  | .error .cancelled =>
    settle env run .cancelled
    fail (.authority .cancelled)
  | .error e => failAttempt env run request capability (.authority e)
  | .ok outcome =>
    if answer.2 > request.limits.timeoutMs then
      failAttempt env run request capability (.evidenceLimit "timeout_ms")
    else match evidenceLimit request.limits outcome with
      | some kind => failAttempt env run request capability (.evidenceLimit kind)
      | none =>
        revoke env run.id request capability
        collect env run outcome

/-- Invoke the authority's deadline-aware execution. -/
def executeUntil (request : RunRequest) (capability : AttemptCapability) :
    Op S (Except AuthorityError ExecutionOutcome × Nat) :=
  invoke fun w =>
    let answer := env.authority.executeUntil request capability request.limits.timeoutMs
      w.service.source
    (answer.1, { w with
      service := { w.service with source := answer.2 }
      calls := w.calls ++ [capability.attemptId] })

def execute (run : RunHandle) (attemptHandle : AttemptHandle) : Op S ExecutionOutcome := do
  let prepared ← record run
  failIf (prepared.attempt ≠ attemptHandle ∨ prepared.status ≠ .prepared) .staleHandle
  match prepared.capability with
  | none => fail .staleHandle
  | some held =>
    let _ ← start env run
    let capability : AttemptCapability :=
      ⟨prepared.request.mode, held.binding, attemptHandle.id⟩
    let answer ← executeUntil env prepared.request capability
    conclude env run prepared.request capability answer

/-- The revocation both terminal requests make first, when a capability is held. -/
def revokeHeld (handle : RunHandle) (record : RunRecord) : Op S Unit :=
  match record.capability with
  | none => return
  | some capability => revoke env handle.id record.request capability

def cancel (handle : RunHandle) (attemptHandle : AttemptHandle) : Op S RunStatus := do
  let before ← record handle
  failIf (before.attempt ≠ attemptHandle) .staleHandle
  if before.status.terminal then return before.status
  else
    failIf (before.status = .needsReconciliation) .needsReconciliation
    revokeHeld env handle before
    let record ← recordMut handle
    failIf (record.attempt ≠ attemptHandle) .staleHandle
    if record.status.terminal then return record.status
    else
      let record ← require (pushEvent record .cancelled)
      putRecord handle.id { record with capability := none }
      persistFor env handle.id .cancelled
      return .cancelled

def RunStatus.collectable : RunStatus → Bool
  | running | collecting => true
  | _ => false

def complete (handle : RunHandle) (attemptHandle : AttemptHandle) : Op S RunStatus := do
  let before ← record handle
  failIf (before.attempt ≠ attemptHandle) .staleHandle
  failIf (¬ before.status.collectable) .invalidTransition
  revokeHeld env handle before
  let record ← recordMut handle
  failIf (record.attempt ≠ attemptHandle) .staleHandle
  failIf (¬ record.status.collectable) .invalidTransition
  let record ← require (pushEvent record .completed)
  putRecord handle.id { record with capability := none }
  persistFor env handle.id .completed
  return .completed

/-- The authority calls of `reconcile`, each of whose errors is returned. -/
def inspectAttempt (record : RunRecord) (attemptHandle : AttemptHandle) : Op S Unit := do
  match ← askSource (env.authority.reconcile record.request attemptHandle) with
  | .error e => fail (.authority e)
  | .ok () =>
    match record.capability with
    | none => return
    | some capability =>
      match ← askSource (env.authority.cancel record.request capability) with
      | .error e => fail (.authority e)
      | .ok () => return

def reconcile (handle : RunHandle) (attemptHandle : AttemptHandle) : Op S RunStatus := do
  match (← get).service.runs.lookup handle.id with
  | none => fail .notFound
  | some record =>
    failIf (record.run ≠ handle ∨ record.attempt ≠ attemptHandle ∨
      record.status ≠ .needsReconciliation) .staleHandle
    inspectAttempt env record attemptHandle
    updateRecord handle.id fun record => { record with capability := none, status := .failed }
    persistFor env handle.id .failed
    updateRecord handle.id fun record => { record with durabilityBarrier := false }
    return .failed

/-- Cancel the members admitted so far; failures are ignored. -/
def cancelMembers (members : List (RunHandle × AttemptHandle)) : Op S Unit :=
  members.forM fun member => do
    let _ ← attempt (cancel env member.1 member.2)
    return

def admitMembers (key : String) : Nat → List RunRequest → List (RunHandle × AttemptHandle) →
    Op S (List (RunHandle × AttemptHandle))
  | _, [], members => return members
  | index, request :: rest, members => do
    let memberKey := key ++ ":" ++ index.repr
    if memberKey.utf8ByteSize > maxIdempotencyKey then
      cancelMembers env members
      fail (.invalidLimit "fanout_idempotency_key")
    else
      match ← attempt (admitRun env { request with idempotencyKey := memberKey }) with
      | .error e =>
        cancelMembers env members
        fail e
      | .ok run =>
        match (← get).service.runs.lookup run.id with
        | none => fail .notFound
        | some record => admitMembers key (index + 1) rest (members ++ [(run, record.attempt)])

def admitFanout (fanout : FanoutRequest) : Op S FanoutHandle := do
  failIf (fanout.idempotencyKey = "" ∨ fanout.idempotencyKey.utf8ByteSize > maxIdempotencyKey ∨
    fanout.requests = [] ∨ fanout.requests.length > maxActiveRuns) (.invalidLimit "fanout")
  require (fanout.requests.forM validateRequest)
  failIf (¬ (fanout.requests.map fun request => (request.agentId, request.workloadId)).Nodup)
    (.invalidRequest "duplicate fanout tuple")
  let members ← admitMembers env fanout.idempotencyKey 0 fanout.requests []
  return ⟨fanout.idempotencyKey, members⟩

end Operations

/-- Read the authoritative current status. -/
def status {S : Type} (o : Orchestrator S) (handle : RunHandle) :
    Except OrchestratorError RunStatus :=
  match o.runs.lookup handle.id with
  | none => .error .notFound
  | some record => if record.run ≠ handle then .error .staleHandle else .ok record.status

end AgentSystemsBenchmark
