import AgentSystemsBenchmark.Runtime.Admission

/-!
# Why a point stopped

Two variables say why a phase stopped: the reason admission ceased, which is written once, and
the terminal reason, which later evidence may replace until it is contamination. A clock that
fails contaminates the point at once, or through the fault its worker is about to report.
-/

namespace AgentSystemsBenchmark.Scheduler

open List

/-- A worker is about to report a failed clock, or has. -/
def Faulting (s : PhaseState) : Prop :=
  (∃ (index : Nat) (worker : Worker) (id : Nat), s.workers[index]? = some worker ∧
      worker.stage = .ending (.clockFault id)) ∨
    ∃ id, WorkerEvent.clockFault id ∈ s.channel

structure Consistent (s : PhaseState) : Prop where
  agreed : s.stop = .completed ↔ s.admissionStop = none
  reasons : ∀ record ∈ s.attempts, ∀ reason, record.missReason = some (.pointStopped reason) →
    s.admissionStop = some reason
  infrastructure : ∀ record ∈ s.attempts, record.outcome = some .infrastructureFailure →
    s.stop = .contaminated
  faults : s.clock.failed = true → s.stop = .contaminated ∨ Faulting s

/-- What a move does to the two variables and to the clock. -/
structure Settles (s t : PhaseState) : Prop where
  fixed : ∀ reason, s.admissionStop = some reason → t.admissionStop = some reason
  absorbing : s.stop = .contaminated → t.stop = .contaminated
  failing : s.clock.failed = true → t.clock.failed = true
  agreed : t.stop = .completed ↔ t.admissionStop = none

section Settling
variable {ctx : PhaseContext} {s t : PhaseState}

theorem Settles.same (agreed : s.stop = .completed ↔ s.admissionStop = none)
    (stop : t.stop = s.stop) (admission : t.admissionStop = s.admissionStop)
    (failing : s.clock.failed = true → t.clock.failed = true) : Settles s t where
  fixed := by
    rw [admission]
    exact fun _ => id
  absorbing := by
    rw [stop]
    exact id
  failing := failing
  agreed := by
    rw [stop, admission]
    exact agreed

variable {u : PhaseState}

theorem Settles.trans (first : Settles s t) (second : Settles t u) : Settles s u where
  fixed reason held := second.fixed reason (first.fixed reason held)
  absorbing held := second.absorbing (first.absorbing held)
  failing held := second.failing (first.failing held)
  agreed := second.agreed

/-- A phase that ceases for contamination, or for another reason while it has none. -/
theorem Settles.cease (agreed : s.stop = .completed ↔ s.admissionStop = none)
    (admission : u.admissionStop = s.admissionStop)
    (failing : s.clock.failed = true → u.clock.failed = true)
    (allowed : reason = .contaminated ∨ reason ≠ .completed ∧ s.admissionStop = none) :
    Settles s (u.cease reason) where
  fixed r held := by
    change some (u.admissionStop.getD reason) = some r
    rw [admission, held]
    rfl
  absorbing held := by
    rcases allowed with rfl | ⟨_, unstopped⟩
    · rfl
    · rw [agreed.mpr unstopped] at held
      cases held
  failing := failing
  agreed := by
    have ceased : reason ≠ .completed := by
      rcases allowed with rfl | ⟨ceased, _⟩
      · decide
      · exact ceased
    exact ⟨fun same => absurd same ceased, fun none => nomatch none⟩

theorem observeOutcome_absorbing (outcome : AttemptOutcome) (failures maxFailures : Nat) :
    observeOutcome .contaminated outcome failures maxFailures = .contaminated := by
  unfold observeOutcome
  split <;> simp

theorem observeOutcome_stopped (stopped : stop ≠ .completed) (outcome : AttemptOutcome)
    (failures maxFailures : Nat) :
    observeOutcome stop outcome failures maxFailures ≠ .completed := by
  unfold observeOutcome
  split
  · decide
  · split
    · decide
    · exact stopped

section
variable (agreed : s.stop = .completed ↔ s.admissionStop = none)
include agreed

theorem receive_settles
    (event : WorkerEvent) (rest : List WorkerEvent) :
    Settles s (({ s with channel := rest } : PhaseState).receive ctx event) := by
  cases event with
  | started _ _ => exact .same agreed rfl rfl id
  | clockFault id =>
    exact .cease (u := { s with
      channel := rest
      active := s.active - 1
      attempts := clockFault s.attempts id
      failures := s.failures + 1 }) agreed rfl (fun failed => failed) (.inl rfl)
  | finished _ _ outcome =>
    simp only [PhaseState.receive]
    generalize (if outcome ≠ .completed then s.failures + 1 else s.failures) = failures
    cases held : s.admissionStop with
    | none =>
      have before := agreed.mpr held
      refine ⟨?_, ?_, id, ?_⟩
      · intro reason none
        rw [held] at none
        cases none
      · intro stop
        rw [before] at stop
        cases stop
      · by_cases stays : observeOutcome s.stop outcome failures ctx.plan.maxFailures = .completed
        · simp [stays]
        · simp [stays]
    | some reason =>
      have before : s.stop ≠ .completed := fun stop => by
        rw [agreed.mp stop] at held
        cases held
      refine ⟨?_, ?_, id, ?_⟩
      · intro other same
        simpa [held] using same
      · intro stop
        simp only [stop]
        exact observeOutcome_absorbing _ _ _
      · simpa using observeOutcome_stopped before outcome failures ctx.plan.maxFailures

theorem launch_settles
    (stop : u.stop = s.stop) (admission : u.admissionStop = s.admissionStop)
    (clock : u.clock = s.clock) (index time : Nat) (spawned : Bool) (onward : Pc) :
    Settles s (u.launch index time spawned onward .loop) := by
  have failing : s.clock.failed = true → u.clock.failed = true := by
    rw [clock]
    exact id
  cases spawned with
  | true => exact .same agreed stop admission failing
  | false =>
    have ceased := Settles.cease (u := { u with
      launches := u.launches ++ [index]
      attempts := u.attempts.modify index fun record =>
        { record with finishedAt := some time, outcome := some .infrastructureFailure }
      failures := u.failures + 1
      pc := .loop }) agreed admission failing (.inl rfl)
    exact ceased

theorem Move.settles (move : Move ctx s t) : Settles s t := by
  have impossible : ∀ {reading : Reading} {value : Nat} {clock : ClockState},
      s.clock.sample reading = (some value, clock) → s.clock.failed = true →
        clock.failed = true := by
    intro reading value clock sample failed
    rw [sample_of_failed failed] at sample
    cases sample
  cases move with
  | receive pc sent => exact receive_settles agreed _ _
  | sampled pc sample => exact .same agreed rfl rfl (impossible sample)
  | faulted pc sample => exact .cease agreed rfl (fun _ => sample_failed sample) (.inl rfl)
  | expired pc unstopped => exact .cease agreed rfl id (.inr ⟨by decide, unstopped⟩)
  | overdue pc unstopped => exact .cease agreed rfl (fun _ => rfl) (.inl rfl)
  | refilled | admitted => apply launch_settles agreed <;> rfl
  | entered held stage sample => exact .same agreed rfl rfl (impossible sample)
  | ended outcome held stage sample => exact .same agreed rfl rfl (impossible sample)
  | failed held stage sample => exact .same agreed rfl rfl fun _ => sample_failed sample
  | _ => exact .same agreed rfl rfl id

end

/-- The records of the phase carry the reason admission ceased for. -/
theorem Evolves.consistent (c : Consistent s) (settles : Settles s t)
    (evolves : Evolves ctx s t index record) :
    (∀ reason, record.missReason = some (.pointStopped reason) → t.admissionStop = some reason) ∧
      (record.outcome = some .infrastructureFailure → t.stop = .contaminated) := by
  have old : ∀ {before}, Stems ctx s index before →
      (∀ reason, before.missReason = some (.pointStopped reason) →
        t.admissionStop = some reason) ∧
      (before.outcome = some .infrastructureFailure → t.stop = .contaminated) := by
    intro before stems
    cases stems with
    | old held =>
      have member := mem_of_getElem? held
      constructor
      · intro reason marked
        exact settles.fixed reason (c.reasons before member reason marked)
      · intro failed
        exact settles.absorbing (c.infrastructure before member failed)
    | new id declared => exact ⟨fun _ marked => (nomatch marked), fun failed => nomatch failed⟩
  cases evolves with
  | kept stems => exact old stems
  | started before =>
    have known := old (.old before)
    exact ⟨known.1, known.2⟩
  | finished before observed =>
    exact ⟨(old (.old before)).1, fun failed => observed (Option.some.inj failed)⟩
  | faulted before stop => exact ⟨(old (.old before)).1, fun _ => stop⟩
  | unspawned stop stems => exact ⟨(old stems).1, fun _ => stop⟩
  | stopped stems stopped =>
    refine ⟨?_, (old stems).2⟩
    rintro reason ⟨⟩
    exact settles.fixed _ stopped
  | missed stems unclosed full crowded =>
    refine ⟨?_, (old stems).2⟩
    intro reason marked
    cases marked

theorem Faulting.set (faulting : Faulting s) (stage : Stage)
    (held : s.workers[index]? = some worker)
    (other : ∀ id, worker.stage ≠ .ending (.clockFault id)) :
    Faulting { s with workers := s.workers.set index { worker with stage } } := by
  rcases faulting with ⟨i, faulty, id, there, stage'⟩ | sent
  · refine .inl ⟨i, faulty, id, ?_, stage'⟩
    have apart : index ≠ i := by
      rintro rfl
      rw [held] at there
      cases there
      exact other id stage'
    rw [getElem?_set_ne apart]
    exact there
  · exact .inr sent

/-- A thread that is spawned leaves the others where they are. -/
theorem Faulting.launch (faulting : Faulting s) (workers : u.workers = s.workers)
    (channel : u.channel = s.channel) : Faulting (u.launch index time true onward .loop) := by
  rcases faulting with ⟨i, faulty, id, there, stage⟩ | sent
  · refine .inl ⟨i, faulty, id, ?_, stage⟩
    change (u.workers ++ _)[i]? = _
    rw [workers]
    exact List.getElem?_append_left (List.getElem?_eq_some_iff.mp there).1 ▸ there
  · exact .inr (channel ▸ sent)

theorem Move.faults (move : Move ctx s t) (c : Consistent s) (settles : Settles s t) :
    t.clock.failed = true → t.stop = .contaminated ∨ Faulting t := by
  have sound : ∀ {reading value after}, s.clock.sample reading = (some value, after) →
      after.failed = true → t.stop = .contaminated ∨ Faulting t := by
    intro reading value after sample failed
    rw [sample_ok sample] at failed
    cases failed
  have still : s.clock.failed = true → (Faulting s → Faulting t) →
      t.stop = .contaminated ∨ Faulting t := fun failed carried =>
    (c.faults failed).imp settles.absorbing carried
  cases move with
  | receive pc sent =>
    rename_i event rest
    intro failed
    rw [receive_clock] at failed
    cases event with
    | clockFault id => exact .inl rfl
    | started id time =>
      apply still failed
      rintro (worker | ⟨other, member⟩)
      · exact .inl worker
      · rw [sent] at member
        exact .inr ⟨other, (mem_cons.mp member).resolve_left (by simp)⟩
    | finished id time outcome =>
      apply still failed
      rintro (worker | ⟨other, member⟩)
      · exact .inl worker
      · rw [sent] at member
        exact .inr ⟨other, (mem_cons.mp member).resolve_left (by simp)⟩
  | sampled pc sample => exact sound sample
  | faulted | overdue => exact fun _ => .inl rfl
  | entered held stage sample => exact sound sample
  | ended outcome held stage sample => exact sound sample
  | failed held stage sample =>
    rename_i index worker reading clock
    intro _
    obtain ⟨inside, _⟩ := List.getElem?_eq_some_iff.mp held
    exact .inr (.inl ⟨index, _, worker.id, getElem?_set_self inside, rfl⟩)
  | announced held stage =>
    intro failed
    apply still failed
    intro faulting
    rcases faulting.set .running held (by simp [stage]) with worker | ⟨id, member⟩
    · exact .inl worker
    · exact .inr ⟨id, mem_append_left _ member⟩
  | reported held stage =>
    rename_i index worker event
    intro failed
    apply still failed
    rintro (⟨i, faulty, id, there, stage'⟩ | ⟨id, member⟩)
    · by_cases same : index = i
      · subst same
        rw [held] at there
        cases there
        rw [stage] at stage'
        cases stage'
        exact .inr ⟨id, mem_append_right _ (mem_singleton_self _)⟩
      · exact .inl ⟨i, faulty, id, by rw [getElem?_set_ne same]; exact there, stage'⟩
    · exact .inr ⟨id, mem_append_left _ member⟩
  | refilled spawned pc queued free =>
    intro failed
    cases spawned with
    | false => exact .inl rfl
    | true => exact still failed fun faulting => faulting.launch rfl rfl
  | admitted spawned pc due arrives free =>
    intro failed
    cases spawned with
    | false => exact .inl rfl
    | true => exact still failed fun faulting => faulting.launch rfl rfl
  | _ => exact fun failed => still failed fun faulting => faulting

theorem Consistent.move (c : Consistent s) (d : Disciplined ctx s) (move : Move ctx s t) :
    Consistent t where
  agreed := (move.settles c.agreed).agreed
  reasons record member := by
    obtain ⟨index, held⟩ := getElem?_of_mem member
    exact ((d.evolves move held).consistent c (move.settles c.agreed)).1
  infrastructure record member := by
    obtain ⟨index, held⟩ := getElem?_of_mem member
    exact ((d.evolves move held).consistent c (move.settles c.agreed)).2
  faults := move.faults c (move.settles c.agreed)

end Settling

/-! ## Whole phases -/

/-- A phase returns with every arrival handled and every thread reported. -/
structure Ended (ctx : PhaseContext) (s : PhaseState) : Prop where
  idle : s.active = 0
  empty : s.queue = []
  arrived : ctx.order.length ≤ s.next

section Phases
variable {ctx : PhaseContext} {s t : PhaseState}

theorem Ended.move (ended : s.pc = .returned → Ended ctx s) (move : Move ctx s t) :
    t.pc = .returned → Ended ctx t := by
  cases move with
  | jump jump =>
    rintro ⟨⟩
    cases jump with
    | returned pc arrived idle empty => exact ⟨idle, empty, arrived⟩
  | receive pc sent =>
    intro here
    rw [receive_pc] at here
    simp [pc] at here
  | sampled | faulted | expired | overdue | rejected => exact fun here => nomatch here
  | refilled spawned pc queued free =>
    intro here
    cases spawned <;> cases here
  | admitted spawned pc due arrives free =>
    intro here
    cases spawned <;> cases here
  | queued pc due arrives full room =>
    intro here
    change s.pc = .returned at here
    simp [pc] at here
  | missed pc due arrives model full crowded =>
    intro here
    change s.pc = .returned at here
    simp [pc] at here
  | _ =>
    intro here
    obtain ⟨idle, empty, arrived⟩ := ended here
    exact ⟨idle, empty, arrived⟩

/-- Once a phase has ended no report is on its way. -/
theorem Ended.silent (ended : Ended ctx s) (d : Disciplined ctx s) :
    (∀ worker ∈ s.workers, worker.stage = .exited) ∧
      ∀ event ∈ s.channel, event.terminal = false := by
  have counted := d.counted
  rw [ended.idle, Nat.add_eq_zero_iff, countP_eq_zero, countP_eq_zero] at counted
  constructor
  · intro worker member
    have gone := counted.1 worker member
    simpa [Worker.live] using gone
  · intro event member
    simpa using counted.2 event member

theorem Ended.not_faulting (ended : Ended ctx s) (d : Disciplined ctx s) : ¬ Faulting s := by
  obtain ⟨exited, quiet⟩ := ended.silent d
  rintro (⟨index, worker, id, held, stage⟩ | ⟨id, member⟩)
  · rw [exited worker (mem_of_getElem? held)] at stage
    cases stage
  · cases quiet _ member

variable {failures : Nat} {clock : ClockState} {reading : Reading}

theorem Consistent.rejectedPhase {after : ClockState} {now : Nat} {reason : StopReason}
    (refuses : Refuses ctx.deadline clock reading after now reason) :
    Consistent (rejectedPhase ctx.order ctx.warmup ctx.plan.model now failures reason after) := by
  have ceased : reason ≠ .completed := by cases refuses <;> decide
  constructor
  · exact ⟨fun same => absurd same ceased, fun none => nomatch none⟩
  · intro record member other marked
    obtain ⟨index, held⟩ := getElem?_of_mem member
    obtain ⟨id, time, -, rfl⟩ := rejectedPhase_missed held
    cases marked
    rfl
  · intro record member failed
    obtain ⟨index, held⟩ := getElem?_of_mem member
    obtain ⟨id, time, -, rfl⟩ := rejectedPhase_missed held
    cases failed
  · intro failed
    change after.failed = true at failed
    cases refuses with
    | faulted sample => exact .inl rfl
    | late sample late =>
      rw [sample_ok sample] at failed
      cases failed

theorem Reaches.consistent (reached : Reaches ctx failures clock reading s) : Consistent s := by
  induction reached with
  | rejected refuses => exact .rejectedPhase refuses
  | entered sample early =>
    refine ⟨⟨fun _ => rfl, fun _ => rfl⟩, fun _ member => (nomatch member),
      fun _ member => (nomatch member), fun failed => ?_⟩
    rw [sample_ok sample] at failed
    cases failed
  | moved reached move c => exact c.move reached.disciplined move

theorem Ended.rejectedPhase
    (returned : (rejectedPhase ctx.order ctx.warmup ctx.plan.model now failures reason clock).pc =
      .returned) :
    Ended ctx (rejectedPhase ctx.order ctx.warmup ctx.plan.model now failures reason clock) := by
  refine ⟨rfl, rfl, ?_⟩
  cases records : rejectRemaining [] [] ctx.order 0 ctx.warmup ctx.plan.model now now reason with
  | none => simp [Scheduler.rejectedPhase, records] at returned
  | some attempts =>
    have ids : attempts.map (·.inputId) = ctx.order := rejectRemaining_ids records
    have length := congrArg List.length ids
    rw [length_map] at length
    simp only [Scheduler.rejectedPhase, records, Option.getD_some, length, Nat.le_refl]

section
variable (reached : Reaches ctx failures clock reading s)
include reached

theorem Reaches.ended (returned : s.pc = .returned) :
    Ended ctx s := by
  induction reached with
  | rejected refuses => exact .rejectedPhase returned
  | entered sample early => cases returned
  | moved reached move ended => exact Ended.move ended move returned

/-- The failure of the clock is final. -/
theorem Reaches.clock_failed (failed : clock.failed = true) :
    s.clock.failed = true := by
  induction reached with
  | rejected refuses =>
    cases refuses with
    | faulted sample => exact sample_failed sample
    | late sample late =>
      rw [sample_of_failed failed] at sample
      cases sample
  | entered sample early =>
    rw [sample_of_failed failed] at sample
    cases sample
  | moved reached move failed => exact (move.settles reached.consistent.agreed).failing failed

/-- Along the choices of a phase the reason admission ceased for is kept, and so are contamination
and the failure of the clock. -/
theorem Reaches.settles (choices : List Choice) :
    Settles s (choices.foldl (PhaseState.step ctx) s) := by
  induction choices generalizing s with
  | nil => exact .same reached.consistent.agreed rfl rfl id
  | cons choice rest ih =>
    have move := s.step_moves ctx choice
    exact (move.settles reached.consistent.agreed).trans (ih (reached.moved move))

end

end Phases

/-! ## The point -/

structure PointConsistent (s : PointState) : Prop where
  agreed : s.stop = .completed ↔ s.admissionStop = none
  reasons : ∀ record ∈ s.attempts, ∀ reason, record.missReason = some (.pointStopped reason) →
    s.admissionStop = some reason
  infrastructure : ∀ record ∈ s.attempts, record.outcome = some .infrastructureFailure →
    s.stop = .contaminated
  faults : s.clock.failed = true → s.stop = .contaminated

section Point
variable {plan : PointPlan} {deadline : Nat} {s t : PointState} {warmup : Bool} {order : List Nat}
  {reading : Reading}

section
variable (ends : PhaseEnds plan deadline s warmup order reading t)
include ends

/-- A phase entered after admission has ceased changes none of the two variables. -/
theorem PhaseEnds.unchanged (held : s.admissionStop = some reason) :
    t.admissionStop = some reason ∧ t.stop = s.stop := by
  cases ends with
  | empty | stopped => exact ⟨held, rfl⟩
  | ran unstopped _ _ =>
    rw [unstopped] at held
    cases held

theorem PhaseEnds.clock_failed
    (failed : s.clock.failed = true) : t.clock.failed = true := by
  cases ends with
  | empty | stopped => exact failed
  | ran _ reaches _ => exact reaches.clock_failed failed

theorem PointConsistent.phase (c : PointConsistent s) : PointConsistent t := by
  cases ends with
  | empty _ => exact c
  | stopped held records =>
    refine ⟨c.agreed, ?_, ?_, c.faults⟩
    · intro record member other marked
      rcases mem_append.mp member with member | member
      · exact c.reasons record member other marked
      · obtain ⟨index, found⟩ := getElem?_of_mem member
        obtain ⟨id, time, -, rfl⟩ := rejectRemaining_missed records found
        cases marked
        exact held
    · intro record member failed
      rcases mem_append.mp member with member | member
      · exact c.infrastructure record member failed
      · obtain ⟨index, found⟩ := getElem?_of_mem member
        obtain ⟨id, time, -, rfl⟩ := rejectRemaining_missed records found
        cases failed
  | ran unstopped reaches returned =>
    -- nothing had stopped before this phase, so what holds of its own records is enough
    have inner := reaches.consistent
    have sound := c.agreed.mpr unstopped
    refine ⟨inner.agreed, ?_, ?_, ?_⟩
    · intro record member reason marked
      rcases mem_append.mp member with member | member
      · have held := c.reasons record member reason marked
        rw [unstopped] at held
        cases held
      · exact inner.reasons record member reason marked
    · intro record member failed
      rcases mem_append.mp member with member | member
      · have held := c.infrastructure record member failed
        rw [sound] at held
        cases held
      · exact inner.infrastructure record member failed
    · intro failed
      exact (inner.faults failed).resolve_right
        ((reaches.ended returned).not_faulting reaches.disciplined)

end

theorem awaitProgress_spec {readings : List Reading} {stop final : StopReason}
    {clock after : ClockState} (h : awaitProgress readings stop clock = some (final, after)) :
    (final = stop ∧ (after.failed = true → clock.failed = true)) ∨ final = .contaminated := by
  induction readings generalizing clock with
  | nil =>
    unfold awaitProgress at h
    split at h
    · cases h
      exact .inl ⟨rfl, id⟩
    · cases h
  | cons reading rest ih =>
    unfold awaitProgress at h
    split at h
    · cases h
      exact .inl ⟨rfl, id⟩
    · dsimp only at h
      split at h
      · cases h
        exact .inr rfl
      · rename_i next sample
        rcases ih h with ⟨same, failed⟩ | contaminated
        · refine .inl ⟨same, ?_⟩
          intro fault
          rw [sample_ok sample] at failed
          cases failed fault
        · exact .inr contaminated

theorem rejectedPoint_missed (h : rejectedPoint plan reason now = some result) :
    result.stopReason = reason ∧ result.admissionStopReason = reason ∧
      result.contaminated = decide (reason = .contaminated) ∧
      ∀ record ∈ result.attempts, ∃ id warmup time,
        record = (arrival id warmup time).miss (.pointStopped reason) := by
  obtain ⟨warmups, first, h⟩ := Option.bind_eq_some_iff.mp h
  obtain ⟨measured, second, rfl⟩ := Option.map_eq_some_iff.mp h
  refine ⟨rfl, rfl, rfl, ?_⟩
  intro record member
  rcases mem_append.mp member with member | member
  · obtain ⟨index, found⟩ := getElem?_of_mem member
    obtain ⟨id, time, -, rfl⟩ := rejectRemaining_missed first found
    exact ⟨id, true, time, rfl⟩
  · obtain ⟨index, found⟩ := getElem?_of_mem member
    obtain ⟨id, time, -, rfl⟩ := rejectRemaining_missed second found
    exact ⟨id, false, time, rfl⟩

end Point

/-- What a result says about why it stopped. -/
structure Explained (result : PointResult) (clock : ClockState) : Prop where
  reasons : ∀ record ∈ result.attempts, ∀ reason,
    record.missReason = some (.pointStopped reason) → reason = result.admissionStopReason
  infrastructure : (∃ record ∈ result.attempts, record.outcome = some .infrastructureFailure) ∨
    clock.failed = true → result.contaminated = true
  contaminated : result.contaminated = true ↔ result.stopReason = .contaminated
  completed : result.stopReason = .completed → ∀ record ∈ result.attempts, ∀ reason,
    record.missReason ≠ some (.pointStopped reason)

theorem rejectedPoint_explained (h : rejectedPoint plan .contaminated now = some result)
    (clock : ClockState) : Explained result clock := by
  obtain ⟨stop, admission, contaminated, missed⟩ := rejectedPoint_missed h
  constructor
  · intro record member reason marked
    obtain ⟨id, warmup, time, rfl⟩ := missed record member
    cases marked
    exact admission.symm
  · intro _
    rw [contaminated]
    rfl
  · rw [contaminated, stop]
    simp
  · intro completed
    rw [stop] at completed
    cases completed

theorem PointEnds.explained {plan : PointPlan} {env : Surroundings} {result : PointResult}
    {clock : ClockState} (ends : PointEnds plan env result clock) : Explained result clock := by
  cases ends with
  | rejected starts found => exact rejectedPoint_explained found _
  | ran sample fits warmups measures starts awaited =>
    rename_i initial first warmed measured stop
    have start : PointConsistent ⟨[], 0, .completed, none, first⟩ := by
      refine ⟨⟨fun _ => rfl, fun _ => rfl⟩, fun _ member => (nomatch member),
        fun _ member => (nomatch member), ?_⟩
      intro failed
      change first.failed = true at failed
      rw [sample_ok sample] at failed
      cases failed
    have c := (start.phase warmups).phase measures
    constructor
    · intro record member reason marked
      have held := c.reasons record member reason marked
      change reason = measured.admissionStop.getD .completed
      rw [held]
      rfl
    · intro evidence
      apply decide_eq_true
      rcases awaitProgress_spec awaited with ⟨rfl, failed⟩ | contaminated
      · rcases evidence with ⟨record, member, infrastructure⟩ | fault
        · exact c.infrastructure record member infrastructure
        · exact c.faults (failed fault)
      · exact contaminated
    · simp
    · intro completed record member reason marked
      have held := c.reasons record member reason marked
      rcases awaitProgress_spec awaited with ⟨same, -⟩ | contaminated
      · rw [c.agreed.mp (same ▸ completed)] at held
        cases held
      · change stop = .completed at completed
        rw [contaminated] at completed
        cases completed

/-- Along a phase, and from one phase to the next, the reason admission ceased for is kept once
it is set, contamination is final, and so is the failure of a clock sample. In every result the
records missed by a stop carry that reason; an infrastructure failure or a failed clock
contaminates the result; it is contaminated exactly when it stopped for contamination; and a
completed point has no record missed by a stop. -/
theorem stop_reasons_consistent (plan : PointPlan) :
    (∀ (clock : ClockState) (reading : Reading), (clock.sample reading).1 = none →
      (clock.sample reading).2.failed = true) ∧
    (∀ (warmup : Bool) (order : List Nat) (deadline failures : Nat) (clock : ClockState)
        (run : PhaseRun) (more : List Choice),
      let s := phaseReached plan warmup order deadline failures clock run
      let t := phaseReached plan warmup order deadline failures clock
        ⟨run.reading, run.choices ++ more⟩
      (∀ reason, s.admissionStop = some reason → t.admissionStop = some reason) ∧
        (s.stop = .contaminated → t.stop = .contaminated) ∧
        (s.clock.failed = true → t.clock.failed = true)) ∧
    (∀ (deadline : Nat) (s t : PointState) (warmup : Bool) (order : List Nat) (run : PhaseRun),
      runPhase plan deadline s warmup order run = some t →
        (∀ reason, s.admissionStop = some reason →
          t.admissionStop = some reason ∧ t.stop = s.stop) ∧
        (s.clock.failed = true → t.clock.failed = true)) ∧
    ∀ (env : Surroundings) (result : PointResult) (clock : ClockState),
      runWithSpawner plan env = some (result, clock) →
        (∀ record ∈ result.attempts, ∀ reason,
          record.missReason = some (.pointStopped reason) →
            reason = result.admissionStopReason) ∧
        ((∃ record ∈ result.attempts, record.outcome = some .infrastructureFailure) ∨
          clock.failed = true → result.contaminated = true) ∧
        (result.contaminated = true ↔ result.stopReason = .contaminated) ∧
        (result.stopReason = .completed → ∀ record ∈ result.attempts, ∀ reason,
          record.missReason ≠ some (.pointStopped reason)) := by
  refine ⟨?_, ?_, ?_, ?_⟩
  · intro clock reading failed
    exact sample_failed (Prod.ext failed rfl)
  · intro warmup order deadline failures clock run more s t
    have further : t = more.foldl (PhaseState.step _) s := foldl_append
    rw [further]
    have settles :=
      (phaseReached_reaches plan warmup order deadline failures clock run).settles more
    exact ⟨settles.fixed, settles.absorbing, settles.failing⟩
  · intro deadline s t warmup order run h
    exact ⟨fun reason held => (runPhase_ends h).unchanged held, (runPhase_ends h).clock_failed⟩
  · intro env result clock returned
    have explained := (runWithSpawner_ends returned).explained
    exact ⟨explained.reasons, explained.infrastructure, explained.contaminated,
      explained.completed⟩

section Sample

/-- The clock passes the deadline before the first arrival is admitted. -/
def sampleSurroundings : Surroundings :=
  ⟨true, sampleReading 0, ⟨sampleReading 0, []⟩,
    ⟨sampleReading 1, List.replicate 7 (.scheduler (sampleReading 12) false true)⟩, []⟩

theorem stop_reasons_consistent_sample :
    ∃ result clock, runWithSpawner samplePlan sampleSurroundings = some (result, clock) ∧
      result.attempts.map (·.missReason) =
        List.replicate 3 (some (.pointStopped .durationLimit)) ∧
      ∀ record ∈ result.attempts, ∀ reason,
        record.missReason = some (.pointStopped reason) → reason = result.admissionStopReason := by
  have ⟨run, returned⟩ : ∃ run ∈ runWithSpawner samplePlan sampleSurroundings,
      run.1.attempts.map (·.missReason) =
        List.replicate 3 (some (.pointStopped .durationLimit)) := by decide +kernel
  exact ⟨run.1, run.2, returned.1, returned.2,
    ((stop_reasons_consistent samplePlan).2.2.2 _ _ _ returned.1).1⟩

end Sample

end AgentSystemsBenchmark.Scheduler
