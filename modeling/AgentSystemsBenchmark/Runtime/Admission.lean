import AgentSystemsBenchmark.Library.Runs
import AgentSystemsBenchmark.Runtime.Scheduler

/-!
# Admission within a phase

The slots, the queue and the order of launches along every run of a phase. Queued records are
launched before new arrivals are looked at, so an arrival is launched past no record that waits.
-/

namespace AgentSystemsBenchmark.Scheduler

open List

def Worker.live (worker : Worker) : Bool := worker.stage ≠ .exited

/-- The last event of a worker. -/
def WorkerEvent.terminal : WorkerEvent → Bool
  | .started _ _ => false
  | .finished _ _ _ => true
  | .clockFault _ => true

/-- The scheduler thread is where it launches. -/
def Pc.admits : Pc → Bool
  | .refilling _ => true
  | .admitting _ => true
  | _ => false

section Fields
variable (ctx : PhaseContext) (s : PhaseState) (reason : StopReason) (event : WorkerEvent)

@[simp] theorem cease_attempts : (s.cease reason).attempts = s.attempts := rfl
@[simp] theorem cease_queue : (s.cease reason).queue = s.queue := rfl
@[simp] theorem cease_next : (s.cease reason).next = s.next := rfl
@[simp] theorem cease_active : (s.cease reason).active = s.active := rfl
@[simp] theorem cease_channel : (s.cease reason).channel = s.channel := rfl
@[simp] theorem cease_workers : (s.cease reason).workers = s.workers := rfl
@[simp] theorem cease_clock : (s.cease reason).clock = s.clock := rfl
@[simp] theorem cease_pc : (s.cease reason).pc = s.pc := rfl
@[simp] theorem cease_launches : (s.cease reason).launches = s.launches := rfl
@[simp] theorem cease_stop : (s.cease reason).stop = reason := rfl

@[simp] theorem receive_queue : (s.receive ctx event).queue = s.queue := by cases event <;> rfl
@[simp] theorem receive_next : (s.receive ctx event).next = s.next := by cases event <;> rfl
@[simp] theorem receive_channel : (s.receive ctx event).channel = s.channel := by
  cases event <;> rfl
@[simp] theorem receive_workers : (s.receive ctx event).workers = s.workers := by
  cases event <;> rfl
@[simp] theorem receive_clock : (s.receive ctx event).clock = s.clock := by cases event <;> rfl
@[simp] theorem receive_pc : (s.receive ctx event).pc = s.pc := by cases event <;> rfl
@[simp] theorem receive_launches : (s.receive ctx event).launches = s.launches := by
  cases event <;> rfl

theorem receive_active :
    (s.receive ctx event).active = s.active - if event.terminal then 1 else 0 := by
  cases event <;> rfl

end Fields

theorem getElem?_concat_some {α : Type} {xs : List α} {x y : α} {index : Nat}
    (h : (xs ++ [x])[index]? = some y) : xs[index]? = some y ∨ index = xs.length ∧ y = x := by
  rw [getElem?_append] at h
  split at h
  · exact .inl h
  · rename_i outside
    have here := (List.getElem?_eq_some_iff.mp h).1
    rw [length_singleton] at here
    exact .inr ⟨by omega, mem_singleton.mp (mem_of_getElem? h)⟩

section Records
variable {records rejected : List AttemptRecord} {queue order : List Nat}
  {next phaseStarted now : Nat} {warmup : Bool} {model : LoadModel} {reason : StopReason}

variable {f : AttemptRecord → AttemptRecord}

/-- A record of the changed list is an old one, or an old one changed. -/
theorem getElem?_modifyLast {index : Nat} {record : AttemptRecord}
    (h : (modifyLast p f records)[index]? = some record) :
    ∃ old, records[index]? = some old ∧ (record = old ∨ p old = true ∧ record = f old) := by
  induction records generalizing index with
  | nil => cases h
  | cons first rest ih =>
    rw [modifyLast] at h
    split at h
    · cases index with
      | zero => exact ⟨first, rfl, .inl (Option.some.inj h).symm⟩
      | succ index => exact ih h
    · split at h
      · rename_i chosen
        cases index with
        | zero => exact ⟨first, rfl, .inr ⟨chosen, (Option.some.inj h).symm⟩⟩
        | succ index => exact ⟨record, h, .inl rfl⟩
      · exact ⟨record, h, .inl rfl⟩

variable {g : AttemptRecord → α} {α : Type}

theorem map_modifyLast (p : AttemptRecord → Bool) (kept : ∀ record, g (f record) = g record)
    (records : List AttemptRecord) : (modifyLast p f records).map g = records.map g := by
  induction records with
  | nil => rfl
  | cons first rest ih =>
    rw [modifyLast]
    split
    · rw [map_cons, ih, map_cons]
    · split
      · rw [map_cons, kept, map_cons]
      · rfl

theorem map_modify
    (kept : ∀ record, g (f record) = g record) (records : List AttemptRecord) (index : Nat) :
    (records.modify index f).map g = records.map g := by
  apply ext_getElem?
  intro i
  rw [getElem?_map, getElem?_map, getElem?_modify]
  cases records[i]? with
  | none => rfl
  | some record =>
    by_cases same : index = i
    · simp [same, kept]
    · simp [same]

theorem receive_map
    (started : ∀ record time delay, g { record with startedAt := some time, queueDelay := delay } =
      g record)
    (finished : ∀ record time outcome, g { record with finishedAt := time, outcome := outcome } =
      g record) (ctx : PhaseContext) (s : PhaseState) (event : WorkerEvent) :
    (s.receive ctx event).attempts.map g = s.attempts.map g := by
  cases event with
  | started id time => exact map_modifyLast _ (fun record => started record _ _) _
  | finished id time outcome => exact map_modifyLast _ (fun record => finished record _ _) _
  | clockFault id =>
    exact map_modifyLast _ (fun record => finished record record.finishedAt _) _

theorem receive_length (ctx : PhaseContext) (s : PhaseState) (event : WorkerEvent) :
    (s.receive ctx event).attempts.length = s.attempts.length := by
  rw [← length_map (·.inputId), receive_map (fun _ _ _ => rfl) (fun _ _ _ => rfl),
    length_map]

/-- Rejected arrivals are missed records of the ids in order, each at its declared time. -/
theorem rejectArrivals_spec {ids : List Nat}
    (h : rejectArrivals model warmup phaseStarted now reason next ids = some rejected) :
    rejected.map (·.inputId) = ids ∧
      ∀ (k : Nat) record, rejected[k]? = some record → ∃ id time,
        scheduledAt model phaseStarted now (next + k) = some time ∧
          record = (arrival id warmup time).miss (.pointStopped reason) := by
  induction ids generalizing next rejected with
  | nil =>
    cases h
    exact ⟨rfl, fun _ _ found => nomatch found⟩
  | cons id rest ih =>
    rw [rejectArrivals, Option.bind_eq_some_iff] at h
    obtain ⟨time, scheduled, h⟩ := h
    obtain ⟨others, later, rfl⟩ := Option.map_eq_some_iff.mp h
    obtain ⟨listed, missed⟩ := ih later
    constructor
    · rw [map_cons, listed]
      rfl
    · intro k record found
      cases k with
      | zero =>
        cases found
        exact ⟨id, time, scheduled, rfl⟩
      | succ k =>
        rw [← Nat.add_assoc, Nat.add_right_comm]
        exact missed k record found

/-- The queued records are missed, each other record is as it was. -/
theorem getElem?_drained (queue : List Nat) (reason : MissReason) (records : List AttemptRecord)
    (index : Nat) :
    (queue.foldl (fun records i => records.modify i (·.miss reason)) records)[index]? =
      records[index]?.map fun record => if index ∈ queue then record.miss reason else record := by
  induction queue generalizing records with
  | nil => simp
  | cons first rest ih =>
    rw [foldl_cons, ih, getElem?_modify]
    cases records[index]? with
    | none => rfl
    | some record =>
      by_cases same : first = index
      · subst same
        by_cases again : first ∈ rest <;> simp [again, AttemptRecord.miss]
      · have other : index ≠ first := Ne.symm same
        simp [same, other]

theorem map_drained (queue : List Nat) {reason : MissReason}
    (kept : ∀ record, g (record.miss reason) = g record) (records : List AttemptRecord) :
    (queue.foldl (fun records i => records.modify i (·.miss reason)) records).map g =
      records.map g := by
  induction queue generalizing records with
  | nil => rfl
  | cons first rest ih => rw [foldl_cons, ih, map_modify kept]

section
variable (h : rejectRemaining records queue order next warmup model phaseStarted now reason =
  some rejected)
include h

theorem rejectRemaining_ids
    :
    rejected.map (·.inputId) = records.map (·.inputId) ++ order.drop next := by
  obtain ⟨arrivals, later, rfl⟩ := Option.map_eq_some_iff.mp h
  rw [map_append, map_drained queue (fun _ => rfl), (rejectArrivals_spec later).1]

/-- A record after the rejection is the old one, the old one missed, or a missed arrival. -/
theorem rejectRemaining_getElem? {record : AttemptRecord} (held : rejected[index]? = some record) :
    (∃ old, records[index]? = some old ∧ index ∈ queue ∧
        record = old.miss (.pointStopped reason)) ∨
      (index ∉ queue ∧ records[index]? = some record) ∨
      (records.length ≤ index ∧ ∃ id time,
        scheduledAt model phaseStarted now (next + (index - records.length)) = some time ∧
          record = (arrival id warmup time).miss (.pointStopped reason)) := by
  obtain ⟨arrivals, later, rfl⟩ := Option.map_eq_some_iff.mp h
  have length : (queue.foldl (fun records i => records.modify i
      (·.miss (.pointStopped reason))) records).length = records.length := by
    simpa using congrArg List.length
      (@map_drained _ (fun _ => ()) queue (.pointStopped reason) (fun _ => rfl) records)
  by_cases inside : index < records.length
  · rw [getElem?_append_left (by rw [length]; exact inside), getElem?_drained] at held
    obtain ⟨old, before, rfl⟩ := Option.map_eq_some_iff.mp held
    by_cases queued : index ∈ queue
    · exact .inl ⟨old, before, queued, by rw [if_pos queued]⟩
    · exact .inr (.inl ⟨queued, by rw [if_neg queued]; exact before⟩)
  · rw [getElem?_append_right (by rw [length]; exact Nat.le_of_not_lt inside), length] at held
    exact .inr (.inr ⟨Nat.le_of_not_lt inside, (rejectArrivals_spec later).2 _ record held⟩)

end

/-- A phase that rejects everything has a missed record for each arrival. -/
theorem rejectRemaining_missed
    (h : rejectRemaining [] [] order 0 warmup model phaseStarted now reason = some rejected)
    {record : AttemptRecord} (held : rejected[index]? = some record) :
    ∃ id time, scheduledAt model phaseStarted now index = some time ∧
      record = (arrival id warmup time).miss (.pointStopped reason) := by
  rcases rejectRemaining_getElem? h held with ⟨old, before, -⟩ | ⟨-, before⟩ | ⟨-, id, time, missed⟩
  · cases before
  · cases before
  · rw [length_nil, Nat.sub_zero, Nat.zero_add] at missed
    exact ⟨id, time, missed⟩

theorem rejectedPhase_missed {failures : Nat} {clock : ClockState} {record : AttemptRecord}
    (held : (rejectedPhase order warmup model now failures reason clock).attempts[index]? =
      some record) :
    ∃ id time, scheduledAt model now now index = some time ∧
      record = (arrival id warmup time).miss (.pointStopped reason) := by
  change ((rejectRemaining [] [] order 0 warmup model now now reason).getD [])[index]? = _ at held
  cases rejected : rejectRemaining [] [] order 0 warmup model now now reason with
  | none =>
    rw [rejected] at held
    cases held
  | some records =>
    rw [rejected] at held
    exact rejectRemaining_missed rejected held

end Records

/-- What holds of admission in every state of a phase. -/
structure Disciplined (ctx : PhaseContext) (s : PhaseState) : Prop where
  slots : s.active ≤ ctx.plan.inFlight
  /-- A slot is taken by a thread that has not exited, or by its report on the way. -/
  counted : s.workers.countP Worker.live + s.channel.countP WorkerEvent.terminal = s.active
  ends : ∀ worker ∈ s.workers, ∀ event, worker.stage = .ending event → event.terminal = true
  waiting : s.queue.length ≤ ctx.plan.queue
  bounded : s.next ≤ ctx.order.length
  /-- The records are those of the arrivals, in order. -/
  listed : s.attempts.map (·.inputId) = ctx.order.take s.next
  ascending : (s.launches ++ s.queue).Pairwise (· < ·)
  within : ∀ index ∈ s.launches ++ s.queue, index < s.attempts.length
  unstopped : s.pc.admits = true → s.admissionStop = none
  drained : ∀ now, s.pc = .admitting now → s.active < ctx.plan.inFlight → s.queue = []

section Discipline
variable {ctx : PhaseContext} {s : PhaseState}

section
variable (d : Disciplined ctx s)
include d

namespace Disciplined

theorem arrived : s.attempts.length = s.next := by
  rw [← length_map (·.inputId), d.listed, length_take]
  exact Nat.min_eq_left d.bounded

variable {t : PhaseState}

/-- A move that changes neither the slots nor the order, to a place where nothing is launched. -/
theorem framed (active : t.active = s.active)
    (workers : t.workers = s.workers) (channel : t.channel = s.channel) (queue : t.queue = s.queue)
    (launches : t.launches = s.launches) (attempts : t.attempts = s.attempts)
    (next : t.next = s.next) (away : t.pc.admits = false) : Disciplined ctx t where
  slots := active ▸ d.slots
  counted := by rw [workers, channel, active, d.counted]
  ends := workers ▸ d.ends
  waiting := queue ▸ d.waiting
  bounded := next ▸ d.bounded
  listed := by rw [attempts, next, d.listed]
  ascending := by rw [launches, queue]; exact d.ascending
  within := by rw [launches, queue, attempts]; exact d.within
  unstopped here := by rw [away] at here; cases here
  drained now here := by rw [here] at away; cases away

theorem jump {pc : Pc} (jump : Jump ctx s pc) :
    Disciplined ctx { s with pc } := by
  cases jump with
  | refilling _ unstopped =>
    exact { d with unstopped := fun _ => unstopped, drained := fun _ here => nomatch here }
  | admitting pc full =>
    have unstopped := d.unstopped (by rw [pc]; rfl)
    exact { d with unstopped := fun _ => unstopped, drained := fun _ _ => full }
  | _ => exact d.framed rfl rfl rfl rfl rfl rfl rfl rfl

variable {index : Nat} {worker : Worker}

/-- A worker moves between stages it has not left. -/
theorem moved
    (clock : ClockState) (stage : Stage) (held : s.workers[index]? = some worker)
    (busy : worker.stage ≠ .exited) (still : stage ≠ .exited)
    (ends : ∀ event, stage = .ending event → event.terminal = true) :
    Disciplined ctx { s with clock, workers := s.workers.set index { worker with stage } } := by
  obtain ⟨inside, here⟩ := List.getElem?_eq_some_iff.mp held
  have live : worker.live = true := decide_eq_true busy
  have positive : 0 < s.workers.countP Worker.live :=
    countP_pos_iff.mpr ⟨worker, mem_of_getElem? held, live⟩
  have alive : Worker.live { worker with stage } = true := decide_eq_true still
  refine { d with counted := ?_, ends := ?_ }
  · have counted := d.counted
    simp only [countP_set inside, here, live, alive, if_true]
    omega
  · intro other member event stage'
    rcases mem_or_eq_of_mem_set member with member | rfl
    · exact d.ends other member event stage'
    · exact ends event stage'

theorem announced {time : Nat}
    (held : s.workers[index]? = some worker) (stage : worker.stage = .starting time) :
    Disciplined ctx
      { s with
        channel := s.channel ++ [.started worker.id time]
        workers := s.workers.set index { worker with stage := .running } } := by
  have moved := d.moved s.clock .running held (by simp [stage]) (by simp) (by simp)
  refine { moved with counted := ?_ }
  have counted := moved.counted
  simpa [WorkerEvent.terminal, countP_append] using counted

variable {event : WorkerEvent}

theorem reported
    (held : s.workers[index]? = some worker) (stage : worker.stage = .ending event) :
    Disciplined ctx
      { s with
        channel := s.channel ++ [event]
        workers := s.workers.set index { worker with stage := .exited } } := by
  obtain ⟨inside, here⟩ := List.getElem?_eq_some_iff.mp held
  have member := mem_of_getElem? held
  have live : worker.live = true := by simp [Worker.live, stage]
  have last : event.terminal = true := d.ends worker member event stage
  have positive : 0 < s.workers.countP Worker.live := countP_pos_iff.mpr ⟨worker, member, live⟩
  have gone : Worker.live { worker with stage := .exited } = false := by simp [Worker.live]
  refine { d with counted := ?_, ends := ?_ }
  · have counted := d.counted
    simp only [countP_set inside, here, live, gone, countP_append, countP_singleton,
      last, if_true]
    simp only [Bool.false_eq_true, if_false]
    omega
  · intro other held' event' stage'
    rcases mem_or_eq_of_mem_set held' with held' | rfl
    · exact d.ends other held' event' stage'
    · cases stage'

theorem received (pc : s.pc = .drain) (sent : s.channel = event :: rest) :
    Disciplined ctx (({ s with channel := rest } : PhaseState).receive ctx event) := by
  have counted := d.counted
  rw [sent, countP_cons] at counted
  have active := receive_active ctx ({ s with channel := rest } : PhaseState) event
  constructor
  · have slots := d.slots
    rw [active]
    simp only
    omega
  · rw [active, receive_workers, receive_channel]
    simp only
    omega
  · rw [receive_workers]
    exact d.ends
  · rw [receive_queue]
    exact d.waiting
  · rw [receive_next]
    exact d.bounded
  · rw [receive_next, receive_map (fun _ _ _ => rfl) (fun _ _ _ => rfl)]
    exact d.listed
  · rw [receive_launches, receive_queue]
    exact d.ascending
  · rw [receive_launches, receive_queue, receive_length]
    exact d.within
  · intro here
    rw [receive_pc, pc] at here
    cases here
  · intro now here
    rw [receive_pc, pc] at here
    cases here

/-- A record is launched that none waits before. -/
theorem launch (time : Nat) (spawned : Bool) (free : s.active < ctx.plan.inFlight)
    (ordered : (s.launches ++ index :: s.queue).Pairwise (· < ·))
    (inside : index < s.attempts.length) (unstopped : s.admissionStop = none)
    (empty : ∀ now, onward = .admitting now → s.queue = []) :
    Disciplined ctx (s.launch index time spawned onward .loop) := by
  have ascending : ((s.launches ++ [index]) ++ s.queue).Pairwise (· < ·) := by
    rwa [append_assoc]
  have within : ∀ i ∈ (s.launches ++ [index]) ++ s.queue, i < s.attempts.length := by
    intro i member
    rw [append_assoc, mem_append, singleton_append, mem_cons] at member
    rcases member with member | rfl | member
    · exact d.within i (mem_append_left _ member)
    · exact inside
    · exact d.within i (mem_append_right _ member)
  cases spawned with
  | true =>
    have counted := d.counted
    refine { d with
      slots := free, counted := ?_, ends := ?_, ascending := ascending, within := within
      unstopped := fun _ => unstopped, drained := fun now here _ => empty now here }
    · simp only [PhaseState.launch, if_true, countP_append, countP_singleton,
        Worker.live]
      simp only [ne_eq, reduceCtorEq, not_false_eq_true, decide_true, if_true]
      omega
    · intro worker member event stage
      rcases mem_append.mp member with member | member
      · exact d.ends worker member event stage
      · rw [mem_singleton.mp member] at stage
        cases stage
  | false =>
    refine { d with
      listed := ?_, ascending := ascending, within := ?_, unstopped := nofun, drained := nofun }
    · have kept : (s.attempts.modify index fun record =>
          { record with finishedAt := some time, outcome := some .infrastructureFailure }).map
            (·.inputId) = s.attempts.map (·.inputId) := by
        apply map_modify
        exact fun _ => rfl
      exact kept.trans d.listed
    · intro i member
      have bound := within i member
      exact Nat.lt_of_lt_of_eq bound (length_modify ..).symm

theorem arrive {id : Nat} (time : Nat)
    (due : ctx.order[s.next]? = some id) : Disciplined ctx (s.arrive ctx id time) := by
  refine { d with bounded := (List.getElem?_eq_some_iff.mp due).1, listed := ?_, within := ?_ }
  · simp only [PhaseState.arrive, map_append, d.listed]
    rw [take_add_one, due]
    rfl
  · intro index member
    have bound := d.within index member
    rw [PhaseState.arrive, length_append]
    exact Nat.lt_add_right _ bound

/-- Every launched or queued record comes before one that has just arrived. -/
theorem last :
    (s.launches ++ s.queue ++ [s.attempts.length]).Pairwise (· < ·) := by
  rw [pairwise_append]
  refine ⟨d.ascending, pairwise_singleton _ _, ?_⟩
  intro index member last here
  rw [mem_singleton.mp here]
  exact d.within index member

theorem move (move : Move ctx s t) :
    Disciplined ctx t := by
  cases move with
  | idle => exact d
  | jump jump => exact d.jump jump
  | receive pc sent => exact d.received pc sent
  | sampled | faulted | expired | overdue => exact d.framed rfl rfl rfl rfl rfl rfl rfl rfl
  | rejected pc stopped rejected =>
    have ids := rejectRemaining_ids rejected
    rw [d.listed, take_append_drop] at ids
    have total : max s.next ctx.order.length = ctx.order.length := Nat.max_eq_right d.bounded
    have length := congrArg List.length ids
    rw [length_map] at length
    have arrived := d.arrived
    have bounded := d.bounded
    have launched := (pairwise_append.mp d.ascending).1
    refine { d with
      waiting := Nat.zero_le _, bounded := Nat.le_of_eq total, listed := ?_
      ascending := by simpa using launched, within := ?_, unstopped := nofun, drained := nofun }
    · simp only [total, take_length]
      exact ids
    · intro index member
      have bound := d.within index (mem_append_left _ (by simpa using member))
      simp only
      omega
  | refilled spawned pc queued free =>
    rename_i now index rest
    have shorter : Disciplined ctx { s with queue := rest } := by
      have waiting := d.waiting
      have ascending := d.ascending
      have within := d.within
      rw [queued] at waiting ascending within
      refine { d with waiting := ?_, ascending := ?_, within := ?_, drained := ?_ }
      · exact Nat.le_of_succ_le waiting
      · exact ascending.sublist (List.Sublist.append_left (sublist_cons_self _ _) _)
      · intro i member
        apply within i
        rcases mem_append.mp member with member | member
        · exact mem_append_left _ member
        · exact mem_append_right _ (mem_cons_of_mem _ member)
      · intro now' here
        simp [pc] at here
    apply shorter.launch now spawned free
    · exact queued ▸ d.ascending
    · exact d.within index (mem_append_right _ (queued ▸ mem_cons_self))
    · exact d.unstopped (by rw [pc]; rfl)
    · intro now' here
      cases here
  | admitted spawned pc due arrives free =>
    rename_i now id time
    have empty : s.queue = [] := d.drained now pc free
    have last := d.last
    rw [empty, append_nil] at last
    apply (d.arrive time due).launch now spawned free
    · change (s.launches ++ s.attempts.length :: s.queue).Pairwise (· < ·)
      rw [empty]
      exact last
    · simp [PhaseState.arrive]
    · exact d.unstopped (by rw [pc]; rfl)
    · intro now' _
      exact empty
  | queued pc due arrives full room =>
    rename_i now id time
    have arrived := d.arrive time due
    refine { arrived with waiting := ?_, ascending := ?_, within := ?_, drained := ?_ }
    · rw [length_append]
      exact room
    · change (s.launches ++ (s.queue ++ [s.attempts.length])).Pairwise (· < ·)
      rw [← append_assoc]
      exact d.last
    · intro index member
      change index ∈ s.launches ++ (s.queue ++ [s.attempts.length]) at member
      rw [← append_assoc, mem_append, mem_singleton] at member
      rcases member with member | rfl
      · exact arrived.within index member
      · simp [PhaseState.arrive]
    · intro now' _ free
      exact absurd free (Nat.not_lt.mpr full)
  | missed pc due arrives model full crowded =>
    rename_i now id time interArrival
    have arrived := d.arrive time due
    refine { arrived with listed := ?_, within := ?_ }
    · have listed := arrived.listed
      simpa [PhaseState.arrive, AttemptRecord.miss] using listed
    · intro index member
      have bound := arrived.within index member
      simpa [PhaseState.arrive] using bound
  | entered held stage sample =>
    exact d.moved _ _ held (by simp [stage]) (by simp) (by simp)
  | ended outcome held stage sample =>
    refine d.moved _ _ held (by simp [stage]) (by simp) ?_
    rintro event ⟨⟩
    rfl
  | failed held stage sample =>
    refine d.moved _ _ held (by rcases stage with stage | stage <;> simp [stage]) (by simp) ?_
    rintro event ⟨⟩
    rfl
  | announced held stage => exact d.announced held stage
  | reported held stage => exact d.reported held stage

end Disciplined

end

theorem Disciplined.rejectedPhase (plan : PointPlan) (warmup : Bool) (order : List Nat)
    (deadline started now failures : Nat) (reason : StopReason) (clock : ClockState) :
    Disciplined ⟨plan, warmup, order, deadline, started⟩
      (rejectedPhase order warmup plan.model now failures reason clock) := by
  have listed : ((rejectRemaining [] [] order 0 warmup plan.model now now reason).getD []).map
      (·.inputId) = order.take
        ((rejectRemaining [] [] order 0 warmup plan.model now now reason).getD []).length := by
    cases rejected : rejectRemaining [] [] order 0 warmup plan.model now now reason with
    | none => rfl
    | some records =>
      have ids : records.map (·.inputId) = order := rejectRemaining_ids rejected
      have length := congrArg List.length ids
      rw [length_map] at length
      rw [Option.getD_some, ids, length, take_length]
  have bounded := congrArg List.length listed
  rw [length_map, length_take] at bounded
  constructor
  · exact Nat.zero_le _
  · rfl
  · exact fun _ member => nomatch member
  · exact Nat.zero_le _
  · exact Nat.le_trans (Nat.le_of_eq bounded) (Nat.min_le_right _ _)
  · exact listed
  · exact .nil
  · exact fun _ member => nomatch member
  · intro here
    unfold Scheduler.rejectedPhase at here
    dsimp only at here
    split at here <;> cases here
  · intro now here
    unfold Scheduler.rejectedPhase at here
    dsimp only at here
    split at here <;> cases here

theorem Reaches.disciplined {failures : Nat} {clock : ClockState} {reading : Reading}
    (reached : Reaches ctx failures clock reading s) : Disciplined ctx s := by
  induction reached with
  | rejected refuses => exact .rejectedPhase ..
  | entered sample early =>
    constructor
    · exact Nat.zero_le _
    · rfl
    · exact fun _ member => nomatch member
    · exact Nat.zero_le _
    · exact Nat.zero_le _
    · rfl
    · exact .nil
    · exact fun _ member => nomatch member
    · exact fun here => nomatch here
    · exact fun _ here => nomatch here
  | moved _ move d => exact d.move move

/-- A record that was there, or the arrival at this place. -/
inductive Stems (ctx : PhaseContext) (s : PhaseState) (index : Nat) : AttemptRecord → Prop where
  | old {record} (before : s.attempts[index]? = some record) : Stems ctx s index record
  | new {now time} (id : Nat)
      (declared : scheduledAt ctx.plan.model ctx.started now index = some time) :
      Stems ctx s index (arrival id ctx.warmup time)

/-- Where a record comes from that is found after a move. -/
inductive Evolves (ctx : PhaseContext) (s t : PhaseState) (index : Nat) : AttemptRecord → Prop where
  | kept {record} (stems : Stems ctx s index record) : Evolves ctx s t index record
  | started {old} {time} (before : s.attempts[index]? = some old) :
      Evolves ctx s t index
        { old with startedAt := some time, queueDelay := time - old.scheduledAt }
  | finished {old} {time} {outcome}
      (before : s.attempts[index]? = some old)
      (observed : outcome = .infrastructureFailure → t.stop = .contaminated) :
      Evolves ctx s t index { old with finishedAt := some time, outcome := some outcome }
  | faulted {old} (before : s.attempts[index]? = some old)
      (stop : t.stop = .contaminated) :
      Evolves ctx s t index { old with outcome := some .infrastructureFailure }
  | unspawned {old} {time} (stop : t.stop = .contaminated)
      (stems : Stems ctx s index old) :
      Evolves ctx s t index
        { old with finishedAt := some time, outcome := some .infrastructureFailure }
  | stopped {old} {reason} (stems : Stems ctx s index old)
      (stopped : s.admissionStop = some reason) :
      Evolves ctx s t index (old.miss (.pointStopped reason))
  | missed {old} (stems : Stems ctx s index old) (unclosed : ctx.plan.model ≠ .closedLoop)
      (full : ctx.plan.inFlight ≤ s.active) (crowded : ctx.plan.queue ≤ s.queue.length) :
      Evolves ctx s t index (old.miss .backpressure)

variable {record : AttemptRecord}

theorem receive_evolves {rest : List WorkerEvent}
    (held : (({ s with channel := rest } : PhaseState).receive ctx event).attempts[index]? =
      some record) :
    Evolves ctx s (({ s with channel := rest } : PhaseState).receive ctx event) index record := by
  cases event with
  | started id time =>
    obtain ⟨old, before, rfl | ⟨-, rfl⟩⟩ := getElem?_modifyLast held
    · exact .kept (.old before)
    · exact .started before
  | finished id time outcome =>
    obtain ⟨old, before, rfl | ⟨-, rfl⟩⟩ := getElem?_modifyLast held
    · exact .kept (.old before)
    · exact .finished before fun infrastructure => if_pos infrastructure
  | clockFault id =>
    obtain ⟨old, before, rfl | ⟨-, rfl⟩⟩ := getElem?_modifyLast held
    · exact .kept (.old before)
    · exact .faulted before rfl

/-- Launching changes a record only when the spawn fails, and then contaminates the point. -/
theorem launch_getElem? {index i time : Nat} {spawned : Bool}
    (held : (s.launch i time spawned onward .loop).attempts[index]? = some record) :
    s.attempts[index]? = some record ∨
      (s.launch i time spawned onward .loop).stop = .contaminated ∧
        ∃ old, s.attempts[index]? = some old ∧
          record =
            { old with finishedAt := some time, outcome := some .infrastructureFailure } := by
  cases spawned with
  | true => exact .inl held
  | false =>
    change (s.attempts.modify i _)[index]? = some record at held
    rw [getElem?_modify] at held
    obtain ⟨old, before, rfl⟩ := Option.map_eq_some_iff.mp held
    by_cases same : i = index
    · exact .inr ⟨rfl, old, before, by rw [if_pos same]⟩
    · rw [if_neg same]
      exact .inl before

theorem Disciplined.stems (d : Disciplined ctx s) {now id time : Nat}
    (arrives : Arrives ctx now s.next time)
    (held : (s.arrive ctx id time).attempts[index]? = some record) : Stems ctx s index record := by
  rcases getElem?_concat_some held with before | ⟨rfl, rfl⟩
  · exact .old before
  · exact .new id (d.arrived ▸ arrives.1)

theorem Disciplined.evolves (d : Disciplined ctx s) (move : Move ctx s t)
    (held : t.attempts[index]? = some record) : Evolves ctx s t index record := by
  cases move with
  | receive pc sent => exact receive_evolves held
  | rejected pc stopped rejected =>
    rcases rejectRemaining_getElem? rejected held with
      ⟨old, before, queued, rfl⟩ | ⟨-, before⟩ | ⟨late, id, time, scheduled, rfl⟩
    · exact .stopped (.old before) stopped
    · exact .kept (.old before)
    · rw [d.arrived, Nat.add_sub_cancel' (d.arrived ▸ late)] at scheduled
      exact .stopped (.new id scheduled) stopped
  | refilled spawned pc queued free =>
    rcases launch_getElem? held with before | ⟨stop, old, before, rfl⟩
    · exact .kept (.old before)
    · exact .unspawned stop (.old before)
  | admitted spawned pc due arrives free =>
    rcases launch_getElem? held with found | ⟨stop, old, found, rfl⟩
    · exact .kept (d.stems arrives found)
    · exact .unspawned stop (d.stems arrives found)
  | queued pc due arrives full room => exact .kept (d.stems arrives held)
  | missed pc due arrives model full crowded =>
    rcases getElem?_concat_some held with before | ⟨rfl, rfl⟩
    · exact .kept (.old before)
    · exact .missed (.new _ (d.arrived ▸ arrives.1)) (by simp [model]) full crowded
  | _ => exact .kept (.old held)

/-- A record is marked for backpressure only when every slot is taken and the queue is full. -/
theorem Evolves.backpressure
    (evolves : Evolves ctx s t index record) (marked : record.missReason = some .backpressure) :
    (∃ old, s.attempts[index]? = some old ∧ old.missReason = some .backpressure) ∨
      ctx.plan.inFlight ≤ s.active ∧ ctx.plan.queue ≤ s.queue.length ∧
        ctx.plan.model ≠ .closedLoop := by
  have stemmed : ∀ {old}, Stems ctx s index old → old.missReason = some .backpressure →
      ∃ old, s.attempts[index]? = some old ∧ old.missReason = some .backpressure := by
    intro old stems marked
    cases stems with
    | old before => exact ⟨_, before, marked⟩
    | new id declared => cases marked
  cases evolves with
  | kept stems => exact .inl (stemmed stems marked)
  | started before => exact .inl ⟨_, before, marked⟩
  | finished before _ => exact .inl ⟨_, before, marked⟩
  | faulted before _ => exact .inl ⟨_, before, marked⟩
  | unspawned stop stems => exact .inl (stemmed stems marked)
  | stopped stems stopped => cases marked
  | missed stems unclosed full crowded => exact .inr ⟨full, crowded, unclosed⟩

/-- Nothing is launched once admission has stopped. -/
theorem Disciplined.no_launch (d : Disciplined ctx s) (move : Move ctx s t)
    (stopped : s.admissionStop.isSome) : t.launches = s.launches := by
  have away : s.pc.admits = false := by
    by_contra here
    rw [Bool.not_eq_false] at here
    rw [d.unstopped here] at stopped
    cases stopped
  cases move with
  | refilled spawned pc queued free =>
    rw [pc] at away
    cases away
  | admitted spawned pc due arrives free =>
    rw [pc] at away
    cases away
  | receive pc sent => rw [receive_launches]
  | _ => rfl

end Discipline

/-- A valid closed-loop plan has no queue. -/
theorem PointPlan.queue_closed (plan : PointPlan) (closed : plan.model = .closedLoop) :
    plan.queue = 0 := by
  have valid := plan.valid
  by_contra some
  unfold PlanArguments.violation at valid
  simp only [closed, true_and, ne_eq, some, not_false_eq_true, or_true, if_true] at valid
  split at valid
  · cases valid
  · split at valid
    · cases valid
    · split at valid <;> cases valid

/-- A phase that is entered after a stop only adds records that were never started. -/
theorem runPhase_after_stop {plan : PointPlan} {deadline : Nat} {s t : PointState} {warmup : Bool}
    {order : List Nat} {run : PhaseRun} {reason : StopReason}
    (stopped : s.admissionStop = some reason)
    (ended : runPhase plan deadline s warmup order run = some t) :
    ∃ rejected, t = { s with attempts := s.attempts ++ rejected } ∧ ∀ record ∈ rejected,
      record.startedAt = none ∧ record.missReason = some (.pointStopped reason) := by
  cases runPhase_ends ended with
  | empty => exact ⟨[], by rw [append_nil], by simp⟩
  | @stopped reason' rejected held records =>
    obtain rfl : reason' = reason := Option.some.inj (held.symm.trans stopped)
    refine ⟨rejected, rfl, fun record member => ?_⟩
    obtain ⟨index, found⟩ := getElem?_of_mem member
    obtain ⟨id, time, -, rfl⟩ := rejectRemaining_missed records found
    exact ⟨rfl, rfl⟩
  | ran unstopped =>
    rw [unstopped] at stopped
    cases stopped

/-- In every state a phase reaches: no more attempts are active than there are slots and no more
arrivals wait than the queue holds, none in a closed loop; records are launched in the order of
their arrivals. The next step marks an arrival for backpressure only while every slot is taken
and the queue is full, and launches nothing once admission has stopped; nor does a phase that the
point enters after a stop. -/
theorem admission_disciplined (plan : PointPlan) (warmup : Bool) (order : List Nat)
    (deadline failures : Nat) (clock : ClockState) (run : PhaseRun) :
    let started := (PhaseState.begin plan warmup order deadline failures clock run.reading).1
    let s := phaseReached plan warmup order deadline failures clock run
    s.active ≤ plan.inFlight ∧ s.workers.countP Worker.live ≤ plan.inFlight ∧
      s.queue.length ≤ plan.queue ∧ (plan.model = .closedLoop → s.queue = []) ∧
      s.attempts.map (·.inputId) = order.take s.next ∧ s.launches.Pairwise (· < ·) ∧
      (∀ index ∈ s.launches, index < s.attempts.length) ∧
      (∀ choice,
        let t := s.step ⟨plan, warmup, order, deadline, started⟩ choice
        (∀ (index : Nat) (record : AttemptRecord), t.attempts[index]? = some record →
          record.missReason = some .backpressure →
          (∃ old : AttemptRecord, s.attempts[index]? = some old ∧
              old.missReason = some .backpressure) ∨
            s.active = plan.inFlight ∧ s.queue.length = plan.queue ∧
              plan.model ≠ .closedLoop) ∧
        (s.admissionStop.isSome → t.launches = s.launches)) ∧
      ∀ (point ended : PointState) (reason : StopReason), point.admissionStop = some reason →
        runPhase plan deadline point warmup order run = some ended →
        ∃ rejected, ended = { point with attempts := point.attempts ++ rejected } ∧
          ∀ record ∈ rejected,
            record.startedAt = none ∧ record.missReason = some (.pointStopped reason) := by
  intro started s
  have d : Disciplined ⟨plan, warmup, order, deadline, started⟩ s :=
    (phaseReached_reaches plan warmup order deadline failures clock run).disciplined
  refine ⟨d.slots, ?_, d.waiting, ?_, d.listed, (pairwise_append.mp d.ascending).1, ?_, ?_,
    fun _ _ _ => runPhase_after_stop⟩
  · have slots : s.active ≤ plan.inFlight := d.slots
    have counted := d.counted
    omega
  · intro closed
    have waiting : s.queue.length ≤ plan.queue := d.waiting
    rw [plan.queue_closed closed] at waiting
    exact length_eq_zero_iff.mp (Nat.le_zero.mp waiting)
  · intro index member
    exact d.within index (mem_append_left _ member)
  · intro choice t
    have move := s.step_moves ⟨plan, warmup, order, deadline, started⟩ choice
    constructor
    · intro index record held marked
      rcases (d.evolves move held).backpressure marked with old | ⟨full, crowded, unclosed⟩
      · exact .inl old
      · exact .inr ⟨Nat.le_antisymm d.slots full, Nat.le_antisymm d.waiting crowded, unclosed⟩
    · exact d.no_launch move

section Sample

/-- One slot, one place in the queue, an arrival each nanosecond. -/
def samplePlan : PointPlan :=
  ⟨⟨.openLoop 1, 3, 0, 1, 1, 0, 10, 1, 1⟩, by decide⟩

def sampleReading (value : Nat) : Reading := ⟨some value, 100, false⟩

/-- The scheduler thread moves alone, with the clock at 2. -/
def sampleRun (steps : Nat) : PhaseRun :=
  ⟨sampleReading 0, List.replicate steps (.scheduler (sampleReading 2) false true)⟩

theorem admission_disciplined_sample :
    let s := phaseReached samplePlan false [2, 0, 1] 10 0 .new (sampleRun 8)
    let t := phaseReached samplePlan false [2, 0, 1] 10 0 .new (sampleRun 9)
    s.launches = [0] ∧ s.queue = [1] ∧
      t.attempts.map (·.missReason) = [none, none, some .backpressure] ∧
      s.active ≤ samplePlan.inFlight ∧ s.queue.length ≤ samplePlan.queue := by
  have bounds := admission_disciplined samplePlan false [2, 0, 1] 10 0 .new (sampleRun 8)
  exact ⟨by decide +kernel, by decide +kernel, by decide +kernel, bounds.1, bounds.2.2.1⟩

end Sample

end AgentSystemsBenchmark.Scheduler
