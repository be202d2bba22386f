import Mathlib

/-!
# The capacity point scheduler

A point runs its warmups and then its measured attempts. Each phase is one loop that drains
the events of its worker threads, samples the clock, looks at the deadlines and admits work.
The loop and the threads interleave: a phase is a machine whose scheduler thread has a program
counter, whose workers have a stage each, and whose environment chooses which thread moves,
what the clock shows, which spawn fails and how an attempt ends. A phase that reaches `panicked`
never returns.

Durations are natural numbers of nanoseconds.
-/

namespace AgentSystemsBenchmark.Scheduler

def maxAttempts : Nat := 1000000
def maxInFlight : Nat := 65536
def maxQueue : Nat := 1000000
def maxPointDuration : Nat := 86400 * 1000000000

/-- The largest duration: all seconds a `u64` counts, and a fraction. -/
def durationMax : Nat := (2 ^ 64 - 1) * 1000000000 + 999999999

def checked (value : Nat) : Option Nat := if value ≤ durationMax then some value else none

/-! ## Plans -/

inductive LoadModel where
  | closedLoop
  | openLoop (interArrival : Nat)
  deriving DecidableEq, Repr

inductive PlanError where
  | noMeasuredAttempts | tooManyAttempts | invalidInFlight | invalidQueue | invalidInterArrival
  | invalidDuration | scheduleOverflow
  deriving DecidableEq, Repr

/-- The arguments of a plan before they are checked. -/
structure PlanArguments where
  model : LoadModel
  measured : Nat
  warmups : Nat
  inFlight : Nat
  queue : Nat
  maxFailures : Nat
  maxDuration : Nat
  poll : Nat
  seed : UInt64
  deriving DecidableEq

/-- The first bound the arguments violate. -/
def PlanArguments.violation (plan : PlanArguments) : Option PlanError :=
  if plan.measured = 0 then some .noMeasuredAttempts
  else if plan.measured + plan.warmups > maxAttempts then some .tooManyAttempts
  else if plan.inFlight = 0 ∨ plan.inFlight > maxInFlight then some .invalidInFlight
  else if plan.queue > maxQueue ∨ plan.model = .closedLoop ∧ plan.queue ≠ 0 then
    some .invalidQueue
  else if plan.maxDuration = 0 ∨ plan.maxDuration > maxPointDuration ∨ plan.poll = 0 ∨
      plan.poll > plan.maxDuration then
    some .invalidDuration
  else match plan.model with
    | .closedLoop => none
    | .openLoop interArrival =>
      if interArrival = 0 then some .invalidInterArrival
      else if interArrival * (max plan.measured plan.warmups - 1) > plan.maxDuration then
        some .scheduleOverflow
      else none

structure PointPlan extends PlanArguments where
  valid : toPlanArguments.violation = none

def PointPlan.new (plan : PlanArguments) : Except PlanError PointPlan :=
  match h : plan.violation with
  | some e => .error e
  | none => .ok ⟨plan, h⟩

/-! ## The seeded order -/

def swap (values : List Nat) (i j : Nat) : List Nat :=
  match values[i]?, values[j]? with
  | some a, some b => (values.set i b).set j a
  | _, _ => values

def xorshift (state : UInt64) : UInt64 :=
  let state := state ^^^ (state <<< 13)
  let state := state ^^^ (state >>> 7)
  state ^^^ (state <<< 17)

/-- Swap each position from the last down to the second with one chosen at or below it. -/
def shuffleFrom : Nat → UInt64 → List Nat → List Nat
  | 0, _, values => values
  | index + 1, state, values =>
    let state := xorshift state
    shuffleFrom index state (swap values (index + 1) (state.toNat % (index + 2)))

def shuffle (values : List Nat) (seed : UInt64) : List Nat :=
  shuffleFrom (values.length - 1) (if seed = 0 then 0x9e3779b97f4a7c15 else seed) values

/-! ## The checked clock -/

structure ClockState where
  last : Option Nat
  initial : Option Nat
  advanced : Bool
  failed : Bool
  deriving DecidableEq, Repr

def ClockState.new : ClockState := ⟨none, none, false, false⟩

/-- What a sample meets: the reading of the inner clock, absent when it panics; the elapsed real
time with the stall limit; and whether the reading has stood still for that long. -/
structure Reading where
  value : Option Nat
  allowed : Nat
  stalled : Bool
  deriving DecidableEq, Repr

def ClockState.invalidate (clock : ClockState) : ClockState := { clock with failed := true }

/-- A sample, absent when it fails; a failure is final. -/
def ClockState.sample (clock : ClockState) (reading : Reading) : Option Nat × ClockState :=
  if clock.failed then (none, clock)
  else match reading.value with
    | none => (none, clock.invalidate)
    | some value =>
      if clock.last.any (fun last => value < last) then (none, clock.invalidate)
      else if clock.initial.any (fun initial => value - initial > reading.allowed) then
        (none, clock.invalidate)
      else
        let clock := { clock with initial := some (clock.initial.getD value) }
        match clock.last with
        | none => (some value, { clock with last := some value })
        | some last =>
          if value > last then (some value, { clock with advanced := true, last := some value })
          else if reading.stalled then (none, clock.invalidate)
          else (some value, clock)

def ClockState.lastSample (clock : ClockState) : Nat := clock.last.getD 0

/-! ## Records -/

inductive AttemptOutcome where
  | completed | failed | timedOut | cancelled | infrastructureFailure
  deriving DecidableEq, Repr

inductive StopReason where
  | completed | failureLimit | durationLimit | contaminated
  deriving DecidableEq, Repr

inductive MissReason where
  | backpressure
  | pointStopped (reason : StopReason)
  deriving DecidableEq, Repr

structure AttemptRecord where
  inputId : Nat
  warmup : Bool
  scheduledAt : Nat
  startedAt : Option Nat
  finishedAt : Option Nat
  outcome : Option AttemptOutcome
  queueDelay : Nat
  missed : Bool
  missReason : Option MissReason
  deriving DecidableEq, Repr

/-- The record an arrival pushes. -/
def arrival (id : Nat) (warmup : Bool) (time : Nat) : AttemptRecord :=
  ⟨id, warmup, time, none, none, none, 0, false, none⟩

def AttemptRecord.miss (record : AttemptRecord) (reason : MissReason) : AttemptRecord :=
  { record with missed := true, missReason := some reason }

/-- Change the last record that satisfies a condition. -/
def modifyLast (p : AttemptRecord → Bool) (f : AttemptRecord → AttemptRecord) :
    List AttemptRecord → List AttemptRecord
  | [] => []
  | record :: rest =>
    if rest.any p then record :: modifyLast p f rest
    else if p record then f record :: rest
    else record :: rest

def finish (records : List AttemptRecord) (id time : Nat) (outcome : AttemptOutcome) :
    List AttemptRecord :=
  modifyLast (fun r => r.inputId = id ∧ r.startedAt.isSome ∧ r.outcome.isNone)
    (fun r => { r with finishedAt := some time, outcome := some outcome }) records

def start (records : List AttemptRecord) (id time : Nat) : List AttemptRecord :=
  modifyLast (fun r => r.inputId = id ∧ r.startedAt.isNone ∧ r.outcome.isNone)
    (fun r => { r with startedAt := some time, queueDelay := time - r.scheduledAt }) records

def clockFault (records : List AttemptRecord) (id : Nat) : List AttemptRecord :=
  modifyLast (fun r => r.inputId = id ∧ r.outcome.isNone)
    (fun r => { r with outcome := some .infrastructureFailure }) records

/-! ## Rejections -/

/-- The declared arrival of a rejected or open-loop attempt; absent where the source panics. -/
def scheduledAt (model : LoadModel) (phaseStarted now next : Nat) : Option Nat :=
  match model with
  | .closedLoop => some now
  | .openLoop interArrival =>
    (checked (interArrival * next)).bind fun offset => checked (phaseStarted + offset)

/-- The records of the arrivals that are rejected from `next` on. -/
def rejectArrivals (model : LoadModel) (warmup : Bool) (phaseStarted now : Nat)
    (reason : StopReason) : Nat → List Nat → Option (List AttemptRecord)
  | _, [] => some []
  | next, id :: rest =>
    (scheduledAt model phaseStarted now next).bind fun scheduled =>
      (rejectArrivals model warmup phaseStarted now reason (next + 1) rest).map fun rejected =>
        (arrival id warmup scheduled).miss (.pointStopped reason) :: rejected

/-- The queued records are missed, then those that have not arrived. -/
def rejectRemaining (attempts : List AttemptRecord) (queue order : List Nat) (next : Nat)
    (warmup : Bool) (model : LoadModel) (phaseStarted now : Nat) (reason : StopReason) :
    Option (List AttemptRecord) :=
  let drained := queue.foldl
    (fun records index => records.modify index (·.miss (.pointStopped reason))) attempts
  (rejectArrivals model warmup phaseStarted now reason next (order.drop next)).map
    fun rejected => drained ++ rejected

def observeOutcome (stop : StopReason) (outcome : AttemptOutcome) (failures maxFailures : Nat) :
    StopReason :=
  if outcome = .infrastructureFailure then .contaminated
  else if stop ≠ .contaminated ∧ maxFailures ≠ 0 ∧ failures ≥ maxFailures then .failureLimit
  else stop

/-! ## A phase -/

inductive WorkerEvent where
  | started (id time : Nat)
  | finished (id time : Nat) (outcome : AttemptOutcome)
  | clockFault (id : Nat)
  deriving DecidableEq, Repr

/-- Where a worker thread is: what it has sampled, and which event it will send next. -/
inductive Stage where
  | spawned
  | starting (time : Nat)
  | running
  | ending (event : WorkerEvent)
  | exited
  deriving DecidableEq, Repr

structure Worker where
  id : Nat
  stage : Stage
  deriving DecidableEq, Repr

/-- The statement of the loop the scheduler thread is at. -/
inductive Pc where
  | loop | drain | sampling
  | checking (now : Nat)
  | settling (now : Nat)
  | refilling (now : Nat)
  | admitting (now : Nat)
  | returned | panicked
  deriving DecidableEq, Repr

/-- What a phase is given. -/
structure PhaseContext where
  plan : PointPlan
  warmup : Bool
  order : List Nat
  deadline : Nat
  started : Nat

/-- The variables of the loop, its threads and their channel; `launches` lists the records passed
to `launch`, in order. -/
structure PhaseState where
  attempts : List AttemptRecord
  queue : List Nat
  next : Nat
  active : Nat
  failures : Nat
  stop : StopReason
  admissionStop : Option StopReason
  channel : List WorkerEvent
  workers : List Worker
  clock : ClockState
  pc : Pc
  launches : List Nat
  deriving DecidableEq, Repr

/-- Admission stops for this reason unless it has stopped. -/
def PhaseState.cease (s : PhaseState) (reason : StopReason) : PhaseState :=
  { s with stop := reason, admissionStop := some (s.admissionStop.getD reason) }

def idAt (records : List AttemptRecord) (index : Nat) : Nat :=
  (records[index]?.map (·.inputId)).getD 0

namespace PhaseState

/-- `launch` with what its callers do on its result: go on, or contaminate the point and leave
the loop they are in. -/
def launch (s : PhaseState) (index time : Nat) (spawned : Bool) (onward fallback : Pc) :
    PhaseState :=
  let s := { s with launches := s.launches ++ [index] }
  if spawned then
    { s with
      active := s.active + 1
      workers := s.workers ++ [⟨idAt s.attempts index, .spawned⟩]
      pc := onward }
  else
    ({ s with
      attempts := s.attempts.modify index fun record =>
        { record with finishedAt := some time, outcome := some .infrastructureFailure }
      failures := s.failures + 1
      pc := fallback } : PhaseState).cease .contaminated

def arrive (s : PhaseState) (ctx : PhaseContext) (id time : Nat) : PhaseState :=
  { s with attempts := s.attempts ++ [arrival id ctx.warmup time], next := s.next + 1 }

/-- One event taken from the channel. -/
def receive (ctx : PhaseContext) (s : PhaseState) : WorkerEvent → PhaseState
  | .started id time => { s with attempts := start s.attempts id time }
  | .finished id time outcome =>
    let failures := if outcome ≠ .completed then s.failures + 1 else s.failures
    let stop := observeOutcome s.stop outcome failures ctx.plan.maxFailures
    { s with
      active := s.active - 1
      attempts := finish s.attempts id time outcome
      failures
      stop
      admissionStop := if s.admissionStop.isNone ∧ stop ≠ .completed then some stop
        else s.admissionStop }
  | .clockFault id =>
    ({ s with
      active := s.active - 1
      attempts := clockFault s.attempts id
      failures := s.failures + 1 } : PhaseState).cease .contaminated

/-- The deadline of the clock, then that of the real time. -/
def observeDeadlines (ctx : PhaseContext) (s : PhaseState) (now : Nat)
    (realPassed : Bool) : PhaseState :=
  let s := { s with pc := .settling now }
  if now ≥ ctx.deadline ∧ s.admissionStop = none then s.cease .durationLimit
  else if realPassed = true ∧ s.admissionStop = none then
    ({ s with clock := s.clock.invalidate } : PhaseState).cease .contaminated
  else s

/-- Admission has stopped: reject what is left; otherwise admit. -/
def settleAdmission (ctx : PhaseContext) (s : PhaseState) (now : Nat) : PhaseState :=
  match s.admissionStop with
  | some reason =>
    match rejectRemaining s.attempts s.queue ctx.order s.next ctx.warmup ctx.plan.model ctx.started
        now reason with
    | some attempts =>
      { s with attempts, queue := [], next := max s.next ctx.order.length, pc := .loop }
    | none => { s with pc := .panicked }
  | none => { s with pc := .refilling now }

/-- Launch the oldest queued record while a slot is free. -/
def refill (ctx : PhaseContext) (s : PhaseState) (now : Nat) (spawned : Bool) :
    PhaseState :=
  match s.queue with
  | index :: rest =>
    if s.active < ctx.plan.inFlight then
      ({ s with queue := rest } : PhaseState).launch index now spawned (.refilling now) .loop
    else { s with pc := if s.stop ≠ .completed then .loop else .admitting now }
  | [] => { s with pc := if s.stop ≠ .completed then .loop else .admitting now }

/-- Admit the next arrival, if there is one and it is due. -/
def admitNext (ctx : PhaseContext) (s : PhaseState) (now : Nat) (spawned : Bool) :
    PhaseState :=
  match ctx.order[s.next]? with
  | none => { s with pc := .loop }
  | some id =>
    match ctx.plan.model with
    | .closedLoop =>
      if s.active < ctx.plan.inFlight then
        (s.arrive ctx id now).launch s.attempts.length now spawned (.admitting now) .loop
      else { s with pc := .loop }
    | .openLoop _ =>
      match scheduledAt ctx.plan.model ctx.started now s.next with
      | none => { s with pc := .panicked }
      | some scheduled =>
        if scheduled > now then { s with pc := .loop }
        else if s.active < ctx.plan.inFlight then
          (s.arrive ctx id scheduled).launch s.attempts.length now spawned (.admitting now) .loop
        else if s.queue.length < ctx.plan.queue then
          { s.arrive ctx id scheduled with queue := s.queue ++ [s.attempts.length] }
        else
          { s.arrive ctx id scheduled with
            attempts := (s.arrive ctx id scheduled).attempts.modify s.attempts.length
              (·.miss .backpressure) }

/-- The next statement of the scheduler thread. -/
def schedule (ctx : PhaseContext) (s : PhaseState) (reading : Reading)
    (realPassed spawned : Bool) : PhaseState :=
  match s.pc with
  | .loop =>
    if s.next < ctx.order.length ∨ s.active > 0 ∨ s.queue ≠ [] then { s with pc := .drain }
    else { s with pc := .returned }
  | .drain =>
    match s.channel with
    | [] => { s with pc := .sampling }
    | event :: rest => ({ s with channel := rest } : PhaseState).receive ctx event
  | .sampling =>
    match s.clock.sample reading with
    | (some now, clock) => { s with clock, pc := .checking now }
    | (none, clock) =>
      ({ s with clock, pc := .checking clock.lastSample } : PhaseState).cease .contaminated
  | .checking now => s.observeDeadlines ctx now realPassed
  | .settling now => s.settleAdmission ctx now
  | .refilling now => s.refill ctx now spawned
  | .admitting now => s.admitNext ctx now spawned
  | .returned => s
  | .panicked => s

/-- The next statement of a worker thread. A clock that fails ends it with a fault. -/
def work (s : PhaseState) (index : Nat) (reading : Reading) (outcome : AttemptOutcome) :
    PhaseState :=
  match s.workers[index]? with
  | none => s
  | some worker =>
    let move := fun stage => s.workers.set index { worker with stage }
    match worker.stage with
    | .spawned =>
      match s.clock.sample reading with
      | (some time, clock) => { s with clock, workers := move (.starting time) }
      | (none, clock) => { s with clock, workers := move (.ending (.clockFault worker.id)) }
    | .starting time =>
      { s with channel := s.channel ++ [.started worker.id time], workers := move .running }
    | .running =>
      match s.clock.sample reading with
      | (some time, clock) =>
        { s with clock, workers := move (.ending (.finished worker.id time outcome)) }
      | (none, clock) => { s with clock, workers := move (.ending (.clockFault worker.id)) }
    | .ending event => { s with channel := s.channel ++ [event], workers := move .exited }
    | .exited => s

end PhaseState

/-- Which thread moves, and what it meets. -/
inductive Choice where
  | scheduler (reading : Reading) (realPassed spawned : Bool)
  | worker (index : Nat) (reading : Reading) (outcome : AttemptOutcome)

def PhaseState.step (ctx : PhaseContext) (s : PhaseState) : Choice → PhaseState
  | .scheduler reading realPassed spawned => s.schedule ctx reading realPassed spawned
  | .worker index reading outcome => s.work index reading outcome

/-- A phase that returns before its loop: every arrival is rejected. -/
def rejectedPhase (order : List Nat) (warmup : Bool) (model : LoadModel) (now failures : Nat)
    (reason : StopReason) (clock : ClockState) : PhaseState :=
  let attempts := rejectRemaining [] [] order 0 warmup model now now reason
  { attempts := attempts.getD []
    queue := []
    next := (attempts.getD []).length
    active := 0
    failures
    stop := reason
    admissionStop := some reason
    channel := []
    workers := []
    clock
    pc := if attempts.isSome then .returned else .panicked
    launches := [] }

/-- The state in which the loop of a phase is entered, with the time it started. -/
def PhaseState.begin (plan : PointPlan) (warmup : Bool) (order : List Nat) (deadline failures : Nat)
    (clock : ClockState) (reading : Reading) : Nat × PhaseState :=
  match clock.sample reading with
  | (none, clock) =>
    (0, rejectedPhase order warmup plan.model clock.lastSample failures .contaminated clock)
  | (some started, clock) =>
    if started ≥ deadline then
      (0, rejectedPhase order warmup plan.model deadline failures .durationLimit clock)
    else
      (started, ⟨[], [], 0, 0, failures, .completed, none, [], [], clock, .loop, []⟩)

/-- What the environment does in one phase. -/
structure PhaseRun where
  reading : Reading
  choices : List Choice

/-- A phase under the choices of its environment. -/
def phaseReached (plan : PointPlan) (warmup : Bool) (order : List Nat) (deadline failures : Nat)
    (clock : ClockState) (run : PhaseRun) : PhaseState :=
  let entered := PhaseState.begin plan warmup order deadline failures clock run.reading
  run.choices.foldl (PhaseState.step ⟨plan, warmup, order, deadline, entered.1⟩) entered.2

/-! ## The point -/

structure PointResult where
  attempts : List AttemptRecord
  stopReason : StopReason
  admissionStopReason : StopReason
  contaminated : Bool
  deriving DecidableEq, Repr

def warmupOrder (plan : PointPlan) : List Nat := shuffle (List.range plan.warmups) (~~~plan.seed)
def measuredOrder (plan : PointPlan) : List Nat := shuffle (List.range plan.measured) plan.seed

def rejectedPoint (plan : PointPlan) (reason : StopReason) (now : Nat) : Option PointResult :=
  (rejectRemaining [] [] (warmupOrder plan) 0 true plan.model now now reason).bind fun warmups =>
    (rejectRemaining [] [] (measuredOrder plan) 0 false plan.model now now reason).map
      fun measured => ⟨warmups ++ measured, reason, reason, reason = .contaminated⟩

/-- The variables `run_with_spawner` carries from phase to phase. -/
structure PointState where
  attempts : List AttemptRecord
  failures : Nat
  stop : StopReason
  admissionStop : Option StopReason
  clock : ClockState

/-- One phase of the point, if the environment lets it return. -/
def runPhase (plan : PointPlan) (deadline : Nat) (s : PointState) (warmup : Bool)
    (order : List Nat) (run : PhaseRun) : Option PointState :=
  if order = [] then some s
  else match s.admissionStop with
    | some reason =>
      let now := min s.clock.lastSample deadline
      (rejectRemaining [] [] order 0 warmup plan.model now now reason).map fun rejected =>
        { s with attempts := s.attempts ++ rejected }
    | none =>
      let reached := phaseReached plan warmup order deadline s.failures s.clock run
      if reached.pc = .returned then
        some ⟨s.attempts ++ reached.attempts, reached.failures, reached.stop,
          reached.admissionStop, reached.clock⟩
      else none

/-- Sample until the clock has been seen to advance; absent when the readings end before. -/
def awaitProgress : List Reading → StopReason → ClockState → Option (StopReason × ClockState)
  | readings, stop, clock =>
    if clock.advanced then some (stop, clock)
    else match readings with
      | [] => none
      | reading :: rest =>
        match clock.sample reading with
        | (none, clock) => some (.contaminated, clock)
        | (some _, clock) => awaitProgress rest stop clock

/-- What the environment does in a whole run. `deadlineFits` says that the real deadline can be
represented. -/
structure Surroundings where
  deadlineFits : Bool
  initial : Reading
  warmup : PhaseRun
  measured : PhaseRun
  final : List Reading

/-- The result of a run that returns, with the clock it leaves. -/
def runWithSpawner (plan : PointPlan) (env : Surroundings) : Option (PointResult × ClockState) :=
  if env.deadlineFits = false then
    (rejectedPoint plan .contaminated 0).map fun result => (result, .new)
  else match ClockState.new.sample env.initial with
    | (none, clock) => (rejectedPoint plan .contaminated 0).map fun result => (result, clock)
    | (some initial, clock) =>
      if initial + plan.maxDuration * 2 > durationMax then
        (rejectedPoint plan .contaminated initial).map fun result => (result, clock)
      else do
        let deadline := initial + plan.maxDuration
        let s ← runPhase plan deadline ⟨[], 0, .completed, none, clock⟩ true (warmupOrder plan)
          env.warmup
        let s ← runPhase plan deadline s false (measuredOrder plan) env.measured
        let (stop, clock) ← awaitProgress env.final s.stop s.clock
        pure (⟨s.attempts, stop, s.admissionStop.getD .completed, stop = .contaminated⟩, clock)

/-! ## What a step can do -/

/-- A sample that succeeds is the new last one and no earlier than the old; after one that fails
the last one stands. -/
def ClockState.Answers (clock : ClockState) : Option Nat × ClockState → Prop
  | (some value, after) =>
    after.failed = false ∧ after.last = some value ∧ clock.lastSample ≤ value
  | (none, after) => after.failed = true ∧ after.last = clock.last

theorem sample_answers (clock : ClockState) (reading : Reading) :
    clock.Answers (clock.sample reading) := by
  unfold ClockState.sample
  split
  · rename_i failed
    exact ⟨failed, rfl⟩
  · rename_i sound
    have sound : clock.failed = false := by simpa using sound
    split
    · exact ⟨rfl, rfl⟩
    · rename_i value _
      split
      · exact ⟨rfl, rfl⟩
      · rename_i later
        split
        · exact ⟨rfl, rfl⟩
        · dsimp only
          cases held : clock.last with
          | none => exact ⟨sound, rfl, by simp [ClockState.lastSample, held]⟩
          | some last =>
            have later : last ≤ value := by simpa [held] using later
            have order : clock.lastSample ≤ value := by simpa [ClockState.lastSample, held]
            dsimp only
            split
            · exact ⟨sound, rfl, order⟩
            · rename_i same
              split
              · exact ⟨rfl, held.symm⟩
              · exact ⟨sound, congrArg some (by omega), order⟩

section Samples
variable {clock after : ClockState} {reading : Reading} {value : Nat}

theorem sample_ok (h : clock.sample reading = (some value, after)) : after.failed = false :=
  (h ▸ sample_answers clock reading : clock.Answers (some value, after)).1

theorem sample_failed (h : clock.sample reading = (none, after)) : after.failed = true :=
  (h ▸ sample_answers clock reading : clock.Answers (none, after)).1

theorem sample_last (h : clock.sample reading = (some value, after)) :
    after.lastSample = value := by
  have last := (h ▸ sample_answers clock reading : clock.Answers (some value, after)).2.1
  rw [ClockState.lastSample, last, Option.getD_some]

theorem sample_ge (h : clock.sample reading = (some value, after)) :
    clock.lastSample ≤ after.lastSample := by
  rw [sample_last h]
  exact (h ▸ sample_answers clock reading : clock.Answers (some value, after)).2.2

theorem sample_kept (h : clock.sample reading = (none, after)) :
    after.lastSample = clock.lastSample := by
  have last := (h ▸ sample_answers clock reading : clock.Answers (none, after)).2
  rw [ClockState.lastSample, last, ClockState.lastSample]

/-- No sample succeeds after one has failed. -/
theorem sample_of_failed (failed : clock.failed = true) (reading : Reading) :
    clock.sample reading = (none, clock) := by
  rw [ClockState.sample, if_pos failed]

end Samples

/-- The jumps of the scheduler thread that change nothing else. -/
inductive Jump (ctx : PhaseContext) (s : PhaseState) : Pc → Prop where
  | drain (pc : s.pc = .loop) : Jump ctx s .drain
  | returned (pc : s.pc = .loop) (arrived : ctx.order.length ≤ s.next) (idle : s.active = 0)
      (empty : s.queue = []) : Jump ctx s .returned
  | sampling (pc : s.pc = .drain) : Jump ctx s .sampling
  | settling {now} (pc : s.pc = .checking now)
      (early : s.admissionStop = none → now < ctx.deadline) : Jump ctx s (.settling now)
  | refilling {now} (pc : s.pc = .settling now) (unstopped : s.admissionStop = none) :
      Jump ctx s (.refilling now)
  | admitting {now} (pc : s.pc = .refilling now)
      (full : s.active < ctx.plan.inFlight → s.queue = []) : Jump ctx s (.admitting now)
  | loop {now} (pc : s.pc = .refilling now ∨ s.pc = .admitting now) : Jump ctx s .loop
  | panicked {now index} (pc : s.pc = .settling now ∨ s.pc = .admitting now)
      (planned : index < ctx.order.length)
      (unscheduled : scheduledAt ctx.plan.model ctx.started now index = none) : Jump ctx s .panicked

/-- The arrival at this place is declared for a time that has come. -/
def Arrives (ctx : PhaseContext) (now index time : Nat) : Prop :=
  scheduledAt ctx.plan.model ctx.started now index = some time ∧ time ≤ now

/-- What a thread of a phase does when it moves. -/
inductive Move (ctx : PhaseContext) (s : PhaseState) : PhaseState → Prop where
  | idle : Move ctx s s
  | jump {pc} (jump : Jump ctx s pc) : Move ctx s { s with pc }
  | receive {event} {rest} (pc : s.pc = .drain)
      (sent : s.channel = event :: rest) :
      Move ctx s (({ s with channel := rest } : PhaseState).receive ctx event)
  | sampled {now} {reading} {clock} (pc : s.pc = .sampling)
      (sample : s.clock.sample reading = (some now, clock)) :
      Move ctx s { s with clock, pc := .checking now }
  | faulted {reading} {clock} (pc : s.pc = .sampling)
      (sample : s.clock.sample reading = (none, clock)) :
      Move ctx s
        (({ s with clock, pc := .checking clock.lastSample } : PhaseState).cease .contaminated)
  | expired {now} (pc : s.pc = .checking now) (unstopped : s.admissionStop = none) :
      Move ctx s (({ s with pc := .settling now } : PhaseState).cease .durationLimit)
  | overdue {now} (pc : s.pc = .checking now) (unstopped : s.admissionStop = none) :
      Move ctx s (({ s with pc := .settling now, clock := s.clock.invalidate } :
        PhaseState).cease .contaminated)
  | rejected {now} {reason} {attempts}
      (pc : s.pc = .settling now) (stopped : s.admissionStop = some reason)
      (rejected : rejectRemaining s.attempts s.queue ctx.order s.next ctx.warmup ctx.plan.model
        ctx.started now reason = some attempts) :
      Move ctx s
        { s with attempts, queue := [], next := max s.next ctx.order.length, pc := .loop }
  | refilled {now index} {rest} (spawned : Bool) (pc : s.pc = .refilling now)
      (queued : s.queue = index :: rest) (free : s.active < ctx.plan.inFlight) :
      Move ctx s
        (({ s with queue := rest } : PhaseState).launch index now spawned (.refilling now) .loop)
  | admitted {now id time} (spawned : Bool) (pc : s.pc = .admitting now)
      (due : ctx.order[s.next]? = some id) (arrives : Arrives ctx now s.next time)
      (free : s.active < ctx.plan.inFlight) :
      Move ctx s
        ((s.arrive ctx id time).launch s.attempts.length now spawned (.admitting now) .loop)
  | queued {now id time} (pc : s.pc = .admitting now) (due : ctx.order[s.next]? = some id)
      (arrives : Arrives ctx now s.next time) (full : ctx.plan.inFlight ≤ s.active)
      (room : s.queue.length < ctx.plan.queue) :
      Move ctx s { s.arrive ctx id time with queue := s.queue ++ [s.attempts.length] }
  | missed {now id time interArrival} (pc : s.pc = .admitting now)
      (due : ctx.order[s.next]? = some id) (arrives : Arrives ctx now s.next time)
      (model : ctx.plan.model = .openLoop interArrival) (full : ctx.plan.inFlight ≤ s.active)
      (crowded : ctx.plan.queue ≤ s.queue.length) :
      Move ctx s
        { s.arrive ctx id time with
          attempts := s.attempts ++ [(arrival id ctx.warmup time).miss .backpressure] }
  | entered {index} {worker} {time} {reading} {clock}
      (held : s.workers[index]? = some worker) (stage : worker.stage = .spawned)
      (sample : s.clock.sample reading = (some time, clock)) :
      Move ctx s
        { s with clock, workers := s.workers.set index { worker with stage := .starting time } }
  | ended {index} {worker} {time} {reading} {clock}
      (outcome : AttemptOutcome) (held : s.workers[index]? = some worker)
      (stage : worker.stage = .running) (sample : s.clock.sample reading = (some time, clock)) :
      Move ctx s
        { s with
          clock
          workers := s.workers.set index
            { worker with stage := .ending (.finished worker.id time outcome) } }
  | failed {index} {worker} {reading} {clock}
      (held : s.workers[index]? = some worker)
      (stage : worker.stage = .spawned ∨ worker.stage = .running)
      (sample : s.clock.sample reading = (none, clock)) :
      Move ctx s
        { s with
          clock
          workers := s.workers.set index
            { worker with stage := .ending (.clockFault worker.id) } }
  | announced {index} {worker} {time}
      (held : s.workers[index]? = some worker) (stage : worker.stage = .starting time) :
      Move ctx s
        { s with
          channel := s.channel ++ [.started worker.id time]
          workers := s.workers.set index { worker with stage := .running } }
  | reported {index} {worker} {event}
      (held : s.workers[index]? = some worker) (stage : worker.stage = .ending event) :
      Move ctx s
        { s with
          channel := s.channel ++ [event]
          workers := s.workers.set index { worker with stage := .exited } }

theorem modify_concat (records : List AttemptRecord) (record : AttemptRecord)
    (f : AttemptRecord → AttemptRecord) :
    (records ++ [record]).modify records.length f = records ++ [f record] := by
  induction records with
  | nil => rfl
  | cons first rest ih => exact congrArg (first :: ·) ih

section Moves
variable (ctx : PhaseContext) (s : PhaseState) {now : Nat}

theorem observeDeadlines_moves (pc : s.pc = .checking now) (realPassed : Bool) :
    Move ctx s (s.observeDeadlines ctx now realPassed) := by
  unfold PhaseState.observeDeadlines
  dsimp only
  split
  · rename_i due
    exact .expired pc due.2
  · split
    · rename_i due
      exact .overdue pc due.2
    · rename_i fresh _
      exact .jump (.settling pc fun unstopped => Nat.lt_of_not_le fun due => fresh ⟨due, unstopped⟩)

/-- A rejection fails at an arrival that has no time. -/
theorem rejectArrivals_eq_none
    (h : rejectArrivals model warmup phaseStarted now reason next ids = none) :
    ∃ index, next ≤ index ∧ index < next + ids.length ∧
      scheduledAt model phaseStarted now index = none := by
  induction ids generalizing next with
  | nil => cases h
  | cons id rest ih =>
    rw [rejectArrivals] at h
    cases scheduled : scheduledAt model phaseStarted now next with
    | none => exact ⟨next, Nat.le_refl _, by simp, scheduled⟩
    | some time =>
      rw [scheduled, Option.bind_some, Option.map_eq_none_iff] at h
      obtain ⟨index, after, within, none⟩ := ih h
      refine ⟨index, by omega, ?_, none⟩
      rw [List.length_cons]
      omega

theorem rejectRemaining_eq_none
    (h : rejectRemaining records queue order next warmup model phaseStarted now reason = none) :
    ∃ index, index < order.length ∧ scheduledAt model phaseStarted now index = none := by
  obtain ⟨index, after, within, unscheduled⟩ := rejectArrivals_eq_none (Option.map_eq_none_iff.mp h)
  rw [List.length_drop] at within
  exact ⟨index, by omega, unscheduled⟩

theorem settleAdmission_moves (pc : s.pc = .settling now) :
    Move ctx s (s.settleAdmission ctx now) := by
  unfold PhaseState.settleAdmission
  split
  · rename_i reason stopped
    split
    · rename_i attempts rejected
      exact .rejected pc stopped rejected
    · rename_i failed
      obtain ⟨index, planned, unscheduled⟩ := rejectRemaining_eq_none failed
      exact .jump (.panicked (.inl pc) planned unscheduled)
  · rename_i unstopped
    exact .jump (.refilling pc unstopped)

theorem refill_moves (pc : s.pc = .refilling now) (spawned : Bool) :
    Move ctx s (s.refill ctx now spawned) := by
  have onward : (s.active < ctx.plan.inFlight → s.queue = []) →
      Move ctx s { s with pc := if s.stop ≠ .completed then .loop else .admitting now } := by
    intro full
    split
    · exact .jump (.loop (.inl pc))
    · exact .jump (.admitting pc full)
  unfold PhaseState.refill
  split
  · rename_i index rest queued
    split
    · rename_i free
      exact .refilled spawned pc queued free
    · rename_i busy
      exact onward fun free => absurd free busy
  · rename_i empty
    exact onward fun _ => empty

theorem admitNext_moves (pc : s.pc = .admitting now) (spawned : Bool) :
    Move ctx s (s.admitNext ctx now spawned) := by
  unfold PhaseState.admitNext
  split
  · exact .jump (.loop (.inr pc))
  · rename_i id due
    split
    · rename_i model
      have arrives : Arrives ctx now s.next now := ⟨by rw [model]; rfl, Nat.le_refl _⟩
      split
      · rename_i free
        exact .admitted spawned pc due arrives free
      · exact .jump (.loop (.inr pc))
    · rename_i interArrival model
      split
      · rename_i unscheduled
        exact .jump (.panicked (.inr pc) (List.getElem?_eq_some_iff.mp due).1 unscheduled)
      · rename_i scheduled found
        split
        · exact .jump (.loop (.inr pc))
        · rename_i come
          have arrives : Arrives ctx now s.next scheduled := ⟨found, Nat.le_of_not_lt come⟩
          split
          · rename_i free
            exact .admitted spawned pc due arrives free
          · rename_i busy
            split
            · rename_i room
              exact .queued pc due arrives (Nat.le_of_not_lt busy) room
            · rename_i crowded
              have pushed : (s.arrive ctx id scheduled).attempts.modify s.attempts.length
                  (·.miss .backpressure) =
                  s.attempts ++ [(arrival id ctx.warmup scheduled).miss .backpressure] :=
                modify_concat s.attempts _ _
              rw [pushed]
              exact .missed pc due arrives model (Nat.le_of_not_lt busy)
                (Nat.le_of_not_lt crowded)

theorem schedule_moves (reading : Reading) (realPassed spawned : Bool) :
    Move ctx s (s.schedule ctx reading realPassed spawned) := by
  unfold PhaseState.schedule
  split
  · rename_i pc
    split
    · exact .jump (.drain pc)
    · rename_i finished
      simp only [not_or, Classical.not_not, Nat.not_lt] at finished
      exact .jump (.returned pc finished.1 (Nat.le_zero.mp finished.2.1) finished.2.2)
  · rename_i pc
    split
    · exact .jump (.sampling pc)
    · rename_i event rest sent
      exact .receive pc sent
  · rename_i pc
    split
    · rename_i now clock sample
      exact .sampled pc sample
    · rename_i clock sample
      exact .faulted pc sample
  · rename_i now pc
    exact observeDeadlines_moves ctx s pc realPassed
  · rename_i now pc
    exact settleAdmission_moves ctx s pc
  · rename_i now pc
    exact refill_moves ctx s pc spawned
  · rename_i now pc
    exact admitNext_moves ctx s pc spawned
  · exact .idle
  · exact .idle

theorem work_moves (index : Nat) (reading : Reading) (outcome : AttemptOutcome) :
    Move ctx s (s.work index reading outcome) := by
  unfold PhaseState.work
  split
  · exact .idle
  · rename_i worker held
    dsimp only
    split
    · rename_i stage
      split
      · rename_i time clock sample
        exact .entered held stage sample
      · rename_i clock sample
        exact .failed held (.inl stage) sample
    · rename_i time stage
      exact .announced held stage
    · rename_i stage
      split
      · rename_i time clock sample
        exact .ended outcome held stage sample
      · rename_i clock sample
        exact .failed held (.inr stage) sample
    · rename_i event stage
      exact .reported held stage
    · exact .idle

theorem PhaseState.step_moves (choice : Choice) : Move ctx s (s.step ctx choice) := by
  cases choice with
  | scheduler reading realPassed spawned => exact schedule_moves ctx s reading realPassed spawned
  | worker index reading outcome => exact work_moves ctx s index reading outcome

end Moves

/-! ## The states of a phase -/

/-- Why a phase rejects every arrival before its loop, and the time it takes for its start. -/
inductive Refuses (deadline : Nat) (clock : ClockState) (reading : Reading) (after : ClockState) :
    Nat → StopReason → Prop where
  | faulted (sample : clock.sample reading = (none, after)) :
      Refuses deadline clock reading after after.lastSample .contaminated
  | late {started} (sample : clock.sample reading = (some started, after))
      (late : deadline ≤ started) : Refuses deadline clock reading after deadline .durationLimit

/-- The states that a phase goes through. -/
inductive Reaches (ctx : PhaseContext) (failures : Nat) (clock : ClockState) (reading : Reading) :
    PhaseState → Prop where
  | rejected {after} {now} {reason}
      (refuses : Refuses ctx.deadline clock reading after now reason) :
      Reaches ctx failures clock reading
        (rejectedPhase ctx.order ctx.warmup ctx.plan.model now failures reason after)
  | entered {after} (sample : clock.sample reading = (some ctx.started, after))
      (early : ctx.started < ctx.deadline) :
      Reaches ctx failures clock reading
        ⟨[], [], 0, 0, failures, .completed, none, [], [], after, .loop, []⟩
  | moved {s t} (reached : Reaches ctx failures clock reading s)
      (move : Move ctx s t) : Reaches ctx failures clock reading t

/-- A phase that has halted without threads stays as it is. -/
theorem Move.halted (move : Move ctx s t) (halted : s.pc = .returned ∨ s.pc = .panicked)
    (alone : s.workers = []) : t = s := by
  have away : ∀ {pc}, s.pc = pc → pc = .returned ∨ pc = .panicked := fun same => same ▸ halted
  have none : ∀ {index : Nat} {worker}, s.workers[index]? ≠ some worker := by
    intro index worker held
    rw [alone] at held
    cases held
  cases move with
  | idle => rfl
  | jump jump =>
    cases jump with
    | loop pc => rcases pc with pc | pc <;> cases away pc <;> contradiction
    | panicked pc planned unscheduled => rcases pc with pc | pc <;> cases away pc <;> contradiction
    | _ pc => cases away pc <;> contradiction
  | entered held _ _ => exact absurd held none
  | ended _ held _ _ => exact absurd held none
  | failed held _ _ => exact absurd held none
  | announced held _ => exact absurd held none
  | reported held _ => exact absurd held none
  | refilled spawned pc _ _ => cases away pc <;> contradiction
  | admitted spawned pc _ _ _ => cases away pc <;> contradiction
  | _ pc => cases away pc <;> contradiction

variable {failures : Nat}

theorem Move.of_rejectedPhase
    (move : Move ctx (rejectedPhase order warmup model now failures reason clock) t) :
    t = rejectedPhase order warmup model now failures reason clock := by
  refine move.halted ?_ rfl
  unfold rejectedPhase
  dsimp only
  split
  · exact .inl rfl
  · exact .inr rfl

/-- A phase rejects everything at once, or enters its loop before the deadline. -/
theorem Reaches.start (reached : Reaches ctx failures clock reading s) :
    (∃ after now reason, Refuses ctx.deadline clock reading after now reason ∧
        s = rejectedPhase ctx.order ctx.warmup ctx.plan.model now failures reason after) ∨
      ctx.started < ctx.deadline ∧ ∃ after, clock.sample reading = (some ctx.started, after) := by
  induction reached with
  | rejected refuses => exact .inl ⟨_, _, _, refuses, rfl⟩
  | entered sample early => exact .inr ⟨early, _, sample⟩
  | moved reached move ih =>
    rcases ih with ⟨after, now, reason, refuses, rfl⟩ | entered
    · exact .inl ⟨after, now, reason, refuses, move.of_rejectedPhase⟩
    · exact .inr entered

theorem Reaches.steps (reached : Reaches ctx failures clock reading s) (choices : List Choice) :
    Reaches ctx failures clock reading (choices.foldl (PhaseState.step ctx) s) := by
  induction choices generalizing s with
  | nil => exact reached
  | cons choice rest ih => exact ih (reached.moved (s.step_moves ctx choice))

theorem phaseReached_reaches (plan : PointPlan) (warmup : Bool) (order : List Nat)
    (deadline failures : Nat) (clock : ClockState) (run : PhaseRun) :
    Reaches ⟨plan, warmup, order, deadline,
        (PhaseState.begin plan warmup order deadline failures clock run.reading).1⟩
      failures clock run.reading (phaseReached plan warmup order deadline failures clock run) := by
  refine Reaches.steps ?_ run.choices
  unfold PhaseState.begin
  split
  · rename_i after sample
    exact .rejected (.faulted sample)
  · rename_i started after sample
    split
    · rename_i late
      exact .rejected (.late sample late)
    · rename_i early
      exact .entered sample (Nat.lt_of_not_le early)

/-! ## The ends of a phase and of a point -/

/-- How a phase of the point can end. -/
inductive PhaseEnds (plan : PointPlan) (deadline : Nat) (s : PointState) (warmup : Bool)
    (order : List Nat) (reading : Reading) : PointState → Prop where
  | empty (empty : order = []) : PhaseEnds plan deadline s warmup order reading s
  | stopped {reason} {rejected}
      (held : s.admissionStop = some reason)
      (records : rejectRemaining [] [] order 0 warmup plan.model (min s.clock.lastSample deadline)
        (min s.clock.lastSample deadline) reason = some rejected) :
      PhaseEnds plan deadline s warmup order reading { s with attempts := s.attempts ++ rejected }
  | ran {started} {reached} (unstopped : s.admissionStop = none)
      (reaches :
        Reaches ⟨plan, warmup, order, deadline, started⟩ s.failures s.clock reading reached)
      (returned : reached.pc = .returned) :
      PhaseEnds plan deadline s warmup order reading
        ⟨s.attempts ++ reached.attempts, reached.failures, reached.stop, reached.admissionStop,
          reached.clock⟩

theorem runPhase_ends (h : runPhase plan deadline s warmup order run = some t) :
    PhaseEnds plan deadline s warmup order run.reading t := by
  unfold runPhase at h
  split at h
  · rename_i empty
    cases h
    exact .empty empty
  · split at h
    · rename_i reason stopped
      obtain ⟨rejected, records, rfl⟩ := Option.map_eq_some_iff.mp h
      exact .stopped stopped records
    · rename_i unstopped
      dsimp only at h
      split at h
      · rename_i returned
        cases h
        exact .ran unstopped (phaseReached_reaches ..) returned
      · cases h

/-- The time a phase takes for its start. -/
def phaseStart (deadline : Nat) (clock : ClockState) (reading : Reading) : Nat :=
  match clock.sample reading with
  | (none, after) => after.lastSample
  | (some started, _) => min started deadline

def PointState.phaseStart (s : PointState) (deadline : Nat) (reading : Reading) : Nat :=
  if s.admissionStop.isSome then min s.clock.lastSample deadline
  else Scheduler.phaseStart deadline s.clock reading

/-- The times at which the warmups and the measured attempts of a run begin. -/
def phaseStarts (plan : PointPlan) (env : Surroundings) : Nat × Nat :=
  if env.deadlineFits = false then (0, 0)
  else match ClockState.new.sample env.initial with
    | (none, _) => (0, 0)
    | (some initial, clock) =>
      if initial + plan.maxDuration * 2 > durationMax then (initial, initial)
      else
        let deadline := initial + plan.maxDuration
        let s : PointState := ⟨[], 0, .completed, none, clock⟩
        let warmed := (runPhase plan deadline s true (warmupOrder plan) env.warmup).getD s
        (s.phaseStart deadline env.warmup.reading, warmed.phaseStart deadline env.measured.reading)

/-- How a run can end. -/
inductive PointEnds (plan : PointPlan) (env : Surroundings) : PointResult → ClockState → Prop where
  | rejected {now} {clock} {result}
      (starts : phaseStarts plan env = (now, now))
      (found : rejectedPoint plan .contaminated now = some result) : PointEnds plan env result clock
  | ran {initial} {first after} {warmed measured} {stop}
      (sample : ClockState.new.sample env.initial = (some initial, first))
      (fits : initial + plan.maxDuration * 2 ≤ durationMax)
      (warmups : PhaseEnds plan (initial + plan.maxDuration) ⟨[], 0, .completed, none, first⟩ true
        (warmupOrder plan) env.warmup.reading warmed)
      (measures : PhaseEnds plan (initial + plan.maxDuration) warmed false (measuredOrder plan)
        env.measured.reading measured)
      (starts : phaseStarts plan env =
        (PointState.phaseStart ⟨[], 0, .completed, none, first⟩ (initial + plan.maxDuration)
          env.warmup.reading,
        warmed.phaseStart (initial + plan.maxDuration) env.measured.reading))
      (awaited : awaitProgress env.final measured.stop measured.clock = some (stop, after)) :
      PointEnds plan env
        ⟨measured.attempts, stop, measured.admissionStop.getD .completed,
          stop = .contaminated⟩ after

theorem runWithSpawner_ends (returned : runWithSpawner plan env = some (result, clock)) :
    PointEnds plan env result clock := by
  have rejects : ∀ {now clock'}, phaseStarts plan env = (now, now) →
      (rejectedPoint plan .contaminated now).map (fun result => (result, clock')) =
        some (result, clock) → PointEnds plan env result clock := by
    intro now clock' starts h
    obtain ⟨rejected, found, same⟩ := Option.map_eq_some_iff.mp h
    cases same
    exact .rejected starts found
  unfold runWithSpawner at returned
  split at returned
  · rename_i unfit
    exact rejects (by rw [phaseStarts, if_pos unfit]) returned
  · rename_i deadline
    split at returned
    · rename_i sample
      exact rejects (by rw [phaseStarts, if_neg deadline, sample]) returned
    · rename_i initial first sample
      split at returned
      · rename_i crowded
        exact rejects (by rw [phaseStarts, if_neg deadline, sample]; exact if_pos crowded) returned
      · rename_i fits
        simp only [bind, Option.bind_eq_some_iff, pure, Option.some.injEq] at returned
        obtain ⟨warmed, warmups, measured, measures, ⟨stop, after⟩, awaited, same⟩ := returned
        cases same
        refine .ran sample (Nat.le_of_not_lt fits) (runPhase_ends warmups)
          (runPhase_ends measures) ?_
          awaited
        rw [phaseStarts, if_neg deadline, sample]
        simp only [if_neg fits, warmups, Option.getD_some]

end AgentSystemsBenchmark.Scheduler
