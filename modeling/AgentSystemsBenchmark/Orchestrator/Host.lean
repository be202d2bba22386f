import AgentSystemsBenchmark.Library.Runs
import AgentSystemsBenchmark.Orchestrator.Operations

/-!
# A service process over one store root

A host is a root directory with at most one live service. A call is served by
the live service under any store and authority outcomes; a crash, in the middle
of a call or between two calls, loses everything but the root, and a restart
opens a new service on it with any authority.
-/

namespace AgentSystemsBenchmark

inductive Call where
  | admitRun (request : RunRequest)
  | admitFanout (fanout : FanoutRequest)
  | start (handle : RunHandle)
  | execute (run : RunHandle) (attempt : AttemptHandle)
  | cancel (run : RunHandle) (attempt : AttemptHandle)
  | complete (run : RunHandle) (attempt : AttemptHandle)
  | reconcile (run : RunHandle) (attempt : AttemptHandle)

inductive Reply where
  | admitted (run : RunHandle)
  | fanout (handle : FanoutHandle)
  | executed (outcome : ExecutionOutcome)
  | status (status : RunStatus)
  deriving DecidableEq, Repr

variable {S : Type} (env : Environment S)

def perform : Call → Op S Reply
  | .admitRun request => do return .admitted (← admitRun env request)
  | .admitFanout fanout => do return .fanout (← admitFanout env fanout)
  | .start handle => do return .status (← start env handle)
  | .execute run attempt => do return .executed (← execute env run attempt)
  | .cancel run attempt => do return .status (← cancel env run attempt)
  | .complete run attempt => do return .status (← complete env run attempt)
  | .reconcile run attempt => do return .status (← reconcile env run attempt)

structure Host (S : Type) where
  service : Option (Orchestrator S)
  disk : Disk RunRequest RunStatus
  calls : List String

open Host

/-- An unused root: nothing on disk, no process, nothing executed. -/
def Host.fresh : Host S := ⟨none, Disk.empty, []⟩

inductive HostEvent (S : Type) where
  | call (call : Call) (faults : List Fault)
  | restart (source : S) (faults : List Fault)

/-- What survives an operation: an error keeps the service, a crash does not. -/
def Host.after {α : Type} : EStateM.Result Stop (World S) α → Host S
  | .ok _ w => ⟨some w.service, w.disk, w.calls⟩
  | .error (.error _) w => ⟨some w.service, w.disk, w.calls⟩
  | .error .crash w => ⟨none, w.disk, w.calls⟩

/-- Opening fails as a whole: a service exists only after a normal return. -/
def Host.opened : EStateM.Result Stop (World S) Unit → Host S
  | .ok _ w => ⟨some w.service, w.disk, w.calls⟩
  | .error _ w => ⟨none, w.disk, w.calls⟩

def Host.step (host : Host S) : HostEvent S → Host S
  | .call call faults =>
    match host.service with
    | none => host
    | some service => after (perform env call ⟨service, host.disk, faults, host.calls, 0⟩)
  | .restart source faults =>
    opened (openStore env
      ⟨{ Orchestrator.new source with durable := true }, host.disk, faults, host.calls, 0⟩)

/-- The world in which a live service serves its next call. -/
def Host.world {S : Type} (host : Host S) (o : Orchestrator S) (faults : List Fault) : World S :=
  ⟨o, host.disk, faults, host.calls, 0⟩

theorem Host.step_call {host : Host S} {service : Orchestrator S}
    (live : host.service = some service)
    (call : Call) (faults : List Fault) :
    host.step env (.call call faults) = after (perform env call (host.world service faults)) := by
  simp only [step, live, world]

/-- What holds however an operation ends holds of what is left. -/
theorem Host.after_wp {P : World S → Prop} (h : Effects.wp x (fun _ => P) (fun _ => P) w) :
    ∃ t, P t ∧ (after (x w)).disk = t.disk ∧ (after (x w)).calls = t.calls ∧
      ∀ o, (after (x w)).service = some o → t.service = o := by
  rcases hx : x w with ⟨a, t⟩ | ⟨e | _, t⟩
  · exact ⟨t, Effects.wp_ok h hx, rfl, rfl, fun _ live => Option.some.inj live⟩
  · exact ⟨t, Effects.wp_error h hx, rfl, rfl, fun _ live => Option.some.inj live⟩
  · exact ⟨t, Effects.wp_error h hx, rfl, rfl, nofun⟩

/-- What an operation guarantees on return holds of the service that is left. -/
theorem Host.after_returns {P : World S → Prop}
    (h : Effects.wp x (fun _ => P) (Returning P) w) (live : (after (x w)).service = some o) :
    ∃ t, P t ∧ t.service = o ∧ (after (x w)).disk = t.disk ∧
      (after (x w)).calls = t.calls := by
  rcases hx : x w with ⟨a, t⟩ | ⟨e | _, t⟩ <;> rw [hx] at live
  · exact ⟨t, Effects.wp_ok h hx, Option.some.inj live, rfl, rfl⟩
  · exact ⟨t, Effects.wp_error h hx, Option.some.inj live, rfl, rfl⟩
  · cases live

theorem Host.opened_returns {Q : Unit → World S → Prop} {E : Stop → World S → Prop}
    (h : Effects.wp x Q E w) (live : (opened (x w)).service = some o) :
    ∃ t, Q () t ∧ t.service = o ∧ (opened (x w)).disk = t.disk ∧
      (opened (x w)).calls = t.calls := by
  rcases hx : x w with ⟨a, t⟩ | ⟨e, t⟩ <;> rw [hx] at live
  · exact ⟨t, Effects.wp_ok h hx, Option.some.inj live, rfl, rfl⟩
  · cases live

/-- A run of a host from an unused root. -/
def Host.Run (events : List (HostEvent S)) (host : Host S) : Prop :=
  Runs.Run (fun before event after => after = step env before event) fresh events host

/-- The credential-free authority used by development and continuous integration. -/
def deterministicSource (requestDigest : RunRequest → String) : AuthoritySource Unit where
  prepare request _ :=
    (if request.mode = .live then .error .liveUnavailable
      else if request.mode = .strictReplay ∧ request.cassetteDigest = none then
        .error .missingCassette
      else .ok ⟨request.mode, requestDigest request, ""⟩, ())
  executeUntil request capability timeout _ :=
    ((if timeout = 0 then .error .timeout
      else if request.mode = .live ∨ capability.mode ≠ request.mode then .error .liveUnavailable
      else .ok ⟨capability.binding, 0, 0, 0, 0⟩, 0), ())
  cancel _ _ _ := (.ok (), ())
  reconcile _ _ _ := (.ok (), ())

def sampleDigest : String := "0000000000000000000000000000000000000000000000000000000000000000"

def sampleEnvironment : Environment Unit :=
  ⟨deterministicSource fun _ => sampleDigest, fun _ => sampleDigest, fun _ => 0⟩

def sampleRequest : RunRequest :=
  ⟨"run_request", 1, "key", "agent", "provider", "model", "workload", sampleDigest, sampleDigest,
    sampleDigest, .localMock, none, none, ⟨1000, 1000, 16, 4, 1000, 1000⟩⟩

def sampleRun : RunHandle := ⟨"run-1", 1, sampleDigest⟩
def sampleAttempt : AttemptHandle := ⟨"attempt-2", 1, sampleDigest⟩

/-- Open an unused root, admit one request and execute its attempt. -/
def sampleEvents : List (HostEvent Unit) :=
  [.restart () [], .call (.admitRun sampleRequest) [], .call (.execute sampleRun sampleAttempt) []]

/-- One admission on an unused root. -/
def admittedHost (request : RunRequest) : Host Unit :=
  [.restart () [], .call (.admitRun request) []].foldl (step sampleEnvironment) fresh

end AgentSystemsBenchmark
