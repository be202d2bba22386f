import AgentSystemsBenchmark.Library.Numerals
import AgentSystemsBenchmark.Store

/-!
# The admission and lifecycle orchestrator

The service owns the run records; a runtime adapter supplies the effects behind
`AuthoritySource`. Every operation is a state-and-exception step over `World`:
an error leaves the state it had reached, as an early return from a mutable
method does, and a crash leaves only the disk. The same operations serve a
service with a store (`durable`) and one without.

The request digest and the size of a serialized manifest enter as functions of
the value they are computed from; a journal event is serialized here. Elapsed
time is part of what the authority returns from `executeUntil`.
-/

namespace AgentSystemsBenchmark

open Effects Numerals

def maxIdempotencyKey : Nat := 128
def maxEvents : Nat := 1024
def maxArtifacts : Nat := 1024
def maxArtifactBytes : Nat := 64 * 1024 * 1024
def maxArtifactTotalBytes : Nat := 256 * 1024 * 1024
def maxTimeoutMs : Nat := 86400000
def maxOutputBytes : Nat := 64 * 1024 * 1024
def maxActiveRuns : Nat := 256
def u64Max : Nat := 2 ^ 64 - 1

inductive ExecutionMode where
  | localMock | strictReplay | live
  deriving DecidableEq, Repr

structure RunLimits where
  timeoutMs : Nat
  maxOutputBytes : Nat
  maxEvents : Nat
  maxArtifacts : Nat
  maxArtifactBytes : Nat
  maxArtifactTotalBytes : Nat
  deriving DecidableEq, Repr

structure RunRequest where
  kind : String
  schemaVersion : Nat
  idempotencyKey : String
  agentId : String
  providerId : String
  modelId : String
  workloadId : String
  catalogDigest : String
  workloadRevision : String
  scorerRevision : String
  mode : ExecutionMode
  cassetteDigest : Option String
  credentialRefDigest : Option String
  limits : RunLimits
  deriving DecidableEq, Repr

/-- Server-issued handle with a causal fence; runs and attempts have the same shape. -/
structure Handle where
  id : String
  generation : Nat
  fence : String
  deriving DecidableEq, Repr

abbrev RunHandle := Handle
abbrev AttemptHandle := Handle

structure FanoutRequest where
  idempotencyKey : String
  requests : List RunRequest

structure FanoutHandle where
  idempotencyKey : String
  members : List (RunHandle × AttemptHandle)
  deriving DecidableEq, Repr

inductive RunStatus where
  | admitted | prepared | running | collecting | completed | failed | cancelled
  | needsReconciliation
  deriving DecidableEq, Repr

def RunStatus.terminal : RunStatus → Bool
  | completed | failed | cancelled => true
  | _ => false

structure RunEvent where
  sequence : Nat
  status : RunStatus
  run : Option RunHandle
  attempt : Option AttemptHandle
  kind : String
  deriving DecidableEq, Repr

structure AttemptCapability where
  mode : ExecutionMode
  binding : String
  attemptId : String
  deriving DecidableEq, Repr

structure ExecutionOutcome where
  resultDigest : String
  outputBytes : Nat
  artifactBytes : Nat
  artifactCount : Nat
  largestArtifactBytes : Nat
  deriving DecidableEq, Repr

inductive AuthorityError where
  | liveUnavailable | missingCassette | invalidBinding | localUnavailable
  | localExecution | timeout | cancelled
  deriving DecidableEq, Repr

inductive OrchestratorError where
  | invalidRequest (field : String)
  | invalidLimit (limit : String)
  | idempotencyConflict
  | staleHandle
  | invalidTransition
  | authority (error : AuthorityError)
  | storage (error : StoreError)
  | evidenceLimit (limit : String)
  | needsReconciliation
  | notFound
  deriving DecidableEq, Repr

/-- Runtime-owned source of authority: an arbitrary state machine. `executeUntil`
receives the timeout and also returns the elapsed milliseconds. -/
structure AuthoritySource (S : Type) where
  prepare : RunRequest → S → Except AuthorityError AttemptCapability × S
  executeUntil : RunRequest → AttemptCapability → Nat → S →
    (Except AuthorityError ExecutionOutcome × Nat) × S
  cancel : RunRequest → AttemptCapability → S → Except AuthorityError Unit × S
  reconcile : RunRequest → AttemptHandle → S → Except AuthorityError Unit × S

structure RunRecord where
  request : RunRequest
  requestDigest : String
  run : RunHandle
  attempt : AttemptHandle
  status : RunStatus
  capability : Option AttemptCapability
  events : List RunEvent
  artifactBytes : Nat
  durabilityBarrier : Bool
  deriving DecidableEq

/-- The service; `durable` says that it holds a store. -/
structure Orchestrator (S : Type) where
  source : S
  nextId : Nat
  runs : AList (fun _ : String => RunRecord)
  idempotency : AList (fun _ : String => String)
  durable : Bool

def Orchestrator.new {S : Type} (source : S) : Orchestrator S := ⟨source, 1, ∅, ∅, false⟩

def validDigest (value : String) : Bool :=
  value.utf8ByteSize == 64 && value.toList.all fun c =>
    c.isDigit || ('a' ≤ c && c ≤ 'f') || ('A' ≤ c && c ≤ 'F')

/-- One ceiling check of `RunLimits::validate`. -/
def checkLimit (name : String) (value ceiling : Nat) : Except OrchestratorError Unit :=
  refuse (value = 0 ∨ value > ceiling) (.invalidLimit name)

def RunLimits.validate (limits : RunLimits) : Except OrchestratorError Unit := do
  checkLimit "timeout_ms" limits.timeoutMs maxTimeoutMs
  checkLimit "max_output_bytes" limits.maxOutputBytes AgentSystemsBenchmark.maxOutputBytes
  checkLimit "max_events" limits.maxEvents AgentSystemsBenchmark.maxEvents
  checkLimit "max_artifacts" limits.maxArtifacts AgentSystemsBenchmark.maxArtifacts
  checkLimit "max_artifact_bytes" limits.maxArtifactBytes AgentSystemsBenchmark.maxArtifactBytes
  checkLimit "max_artifact_total_bytes" limits.maxArtifactTotalBytes
    AgentSystemsBenchmark.maxArtifactTotalBytes

/-- The authority fields each mode requires and forbids. -/
def checkAuthorityFields (request : RunRequest) : Except OrchestratorError Unit :=
  match request.mode with
  | .localMock =>
    refuse (request.cassetteDigest.isSome ∨ request.credentialRefDigest.isSome)
      (.invalidRequest "local authority fields")
  | .strictReplay =>
    refuse (¬ request.cassetteDigest.any validDigest ∨ request.credentialRefDigest.isSome)
      (.invalidRequest "replay authority fields")
  | .live =>
    refuse (¬ request.credentialRefDigest.any validDigest ∨ request.cassetteDigest.isSome)
      (.invalidRequest "live authority fields")

def validateRequest (request : RunRequest) : Except OrchestratorError Unit := do
  refuse (request.kind ≠ "run_request") (.invalidRequest "kind")
  refuse (request.schemaVersion ≠ 1) (.invalidRequest "schema_version")
  refuse (request.idempotencyKey = "" ∨ request.idempotencyKey.utf8ByteSize > maxIdempotencyKey)
    (.invalidRequest "idempotency_key")
  refuse (¬ validDigest request.catalogDigest) (.invalidRequest "catalog_digest")
  refuse (¬ validDigest request.workloadRevision) (.invalidRequest "workload_revision")
  refuse (¬ validDigest request.scorerRevision) (.invalidRequest "scorer_revision")
  checkAuthorityFields request
  request.limits.validate

def toState : RunStatus → ExecutionState
  | .admitted => .planned
  | .prepared => .prepared
  | .running => .running
  | .collecting => .collecting
  | .completed => .completed
  | .failed => .failed
  | .cancelled => .cancelled
  | .needsReconciliation => .failed

def fromState : ExecutionState → RunStatus
  | .planned => .admitted
  | .prepared => .prepared
  | .running => .needsReconciliation
  | .collecting => .needsReconciliation
  | .completed => .completed
  | .failed => .failed
  | .cancelled => .cancelled

def ExecutionState.text : ExecutionState → String
  | planned => "planned"
  | prepared => "prepared"
  | running => "running"
  | collecting => "collecting"
  | completed => "completed"
  | failed => "failed"
  | cancelled => "cancelled"

def RunStatus.text : RunStatus → String
  | admitted => "admitted"
  | prepared => "prepared"
  | running => "running"
  | collecting => "collecting"
  | completed => "completed"
  | failed => "failed"
  | cancelled => "cancelled"
  | needsReconciliation => "needs_reconciliation"

/-- The serialized event; attempt identities need no escaping. -/
def encodeEvent (event : JournalEvent RunStatus) : String :=
  "\x7b\"schema_version\":" ++ event.schemaVersion.repr ++
  ",\"sequence\":" ++ event.sequence.repr ++
  ",\"attempt_id\":\"" ++ event.attemptId ++
  "\",\"monotonic_offset_ns\":" ++ event.monotonicOffsetNs.repr ++
  ",\"state\":\"" ++ event.state.text ++
  "\",\"evidence\":\x7b\"status\":\"" ++ event.evidence.text ++ "\"\x7d\x7d"

def runIdOf (n : Nat) : String := "run-" ++ n.repr
def attemptIdOf (n : Nat) : String := "attempt-" ++ n.repr

/-- Unsigned decimal parsing: an optional plus sign, then digits that fit 64 bits. -/
def parseU64 (text : List Char) : Option Nat :=
  let digits := match text with
    | '+' :: rest => rest
    | _ => text
  if digits = [] ∨ ¬ digits.all Char.isDigit then none
  else
    let value := Nat.ofDigitChars 10 digits 0
    if value ≤ u64Max then some value else none

def parseIdNumber (id : String) : Nat :=
  match id.toList with
  | 'r' :: 'u' :: 'n' :: '-' :: rest => (parseU64 rest).getD 0
  | _ => 0

def pushEvent (record : RunRecord) (status : RunStatus) : Except OrchestratorError RunRecord :=
  if record.events.length ≥ record.request.limits.maxEvents ∨
      record.events.length ≥ AgentSystemsBenchmark.maxEvents then
    .error (.invalidLimit "max_events")
  else .ok { record with
    status := status
    events := record.events ++
      [⟨record.events.length + 1, status, some record.run, some record.attempt, "lifecycle"⟩] }

theorem pushEvent_ok (h : pushEvent record status = .ok next) :
    next.run = record.run ∧ next.attempt = record.attempt ∧ next.status = status := by
  unfold pushEvent at h
  split at h
  · cases h
  · cases h
    exact ⟨rfl, rfl, rfl⟩

theorem pushEvent_request (h : pushEvent record status = .ok next) :
    next.request = record.request := by
  unfold pushEvent at h
  split at h
  · cases h
  · cases h
    rfl

theorem runIdOf_injective (h : runIdOf m = runIdOf n) : m = n :=
  repr_injective ((String.append_right_inj _).mp h)

theorem attemptIdOf_injective (h : attemptIdOf m = attemptIdOf n) : m = n :=
  repr_injective ((String.append_right_inj _).mp h)

theorem validateComponent_runIdOf (n : Nat) : validateComponent "run_id" (runIdOf n) = .ok () := by
  have chars : (runIdOf n).toList = 'r' :: 'u' :: 'n' :: '-' :: n.repr.toList := by
    simp [runIdOf, String.toList_append]
  have digits : n.repr.toList.all
      (fun c => c.isAlphanum || c == '-' || c == '_' || c == '.') = true := by
    rw [List.all_eq_true]
    intro c hc
    simp [Char.isAlphanum, isDigit_of_mem_repr hc]
  have longer : ∀ s : String, s.toList.length < 4 → runIdOf n ≠ s := by
    intro s hs he
    rw [← he, chars] at hs
    simp only [List.length_cons] at hs
    omega
  rw [validateComponent, refuse_eq_ok]
  rintro (h | h | h | h)
  · exact longer "" (by decide) h
  · exact longer "." (by decide) h
  · exact longer ".." (by decide) h
  · apply h
    rw [chars]
    simp only [List.all_cons, digits]
    decide

theorem attemptIdOf_size (h : n < 10 ^ 20) : (attemptIdOf n).utf8ByteSize ≤ 28 := by
  have stem : ("attempt-").utf8ByteSize ≤ 8 := by decide
  exact utf8ByteSize_append_le stem (repr_utf8ByteSize_le (by decide) h)

theorem ExecutionState.text_size (state : ExecutionState) : state.text.utf8ByteSize ≤ 10 := by
  cases state <;> decide

theorem RunStatus.text_size (status : RunStatus) : status.text.utf8ByteSize ≤ 20 := by
  cases status <;> decide

/-- A lifecycle event is small: its journal positions have one digit. -/
theorem encodeEvent_size (version : event.schemaVersion < 10 ^ 1)
    (sequence : event.sequence < 10 ^ 1) (offset : event.monotonicOffsetNs < 10 ^ 1)
    (attempt : event.attemptId.utf8ByteSize ≤ 28) : (encodeEvent event).utf8ByteSize ≤ 200 := by
  have h₁ : ("\x7b\"schema_version\":").utf8ByteSize ≤ 18 := by decide
  have h₂ : (",\"sequence\":").utf8ByteSize ≤ 12 := by decide
  have h₃ : (",\"attempt_id\":\"").utf8ByteSize ≤ 15 := by decide
  have h₄ : ("\",\"monotonic_offset_ns\":").utf8ByteSize ≤ 24 := by decide
  have h₅ : (",\"state\":\"").utf8ByteSize ≤ 10 := by decide
  have h₆ : ("\",\"evidence\":\x7b\"status\":\"").utf8ByteSize ≤ 24 := by decide
  have h₇ : ("\"\x7d\x7d").utf8ByteSize ≤ 3 := by decide
  have head := utf8ByteSize_append_le (utf8ByteSize_append_le (utf8ByteSize_append_le
    h₁ (repr_utf8ByteSize_le Nat.one_pos version)) h₂) (repr_utf8ByteSize_le Nat.one_pos sequence)
  have middle := utf8ByteSize_append_le (utf8ByteSize_append_le (utf8ByteSize_append_le
    (utf8ByteSize_append_le head h₃) attempt) h₄) (repr_utf8ByteSize_le Nat.one_pos offset)
  have whole := utf8ByteSize_append_le (utf8ByteSize_append_le (utf8ByteSize_append_le
    (utf8ByteSize_append_le (utf8ByteSize_append_le middle h₅) event.state.text_size) h₆)
    event.evidence.text_size) h₇
  exact whole.trans (by decide)

end AgentSystemsBenchmark
