import AgentSystemsBenchmark.Runtime.StopReasons

/-!
# One record for each planned attempt

Records are found by the id of their input, so what makes the accounting exact is that the ids of
a phase are distinct: each thread reports on one record, and its events take that record through
start and end in the order in which they were sent. The times they carry were sampled in that
order, by one clock, after the record was due.
-/

namespace AgentSystemsBenchmark.Scheduler

open List

/-! ## The seeded order is a permutation -/

theorem swap_perm (values : List Nat) (i j : Nat) : (swap values i j).Perm values := by
  unfold swap
  split
  · rename_i a b first second
    obtain ⟨left, rfl⟩ := List.getElem?_eq_some_iff.mp first
    obtain ⟨right, rfl⟩ := List.getElem?_eq_some_iff.mp second
    exact set_set_perm left right
  · exact .refl _

theorem shuffleFrom_perm (index : Nat) (state : UInt64) (values : List Nat) :
    (shuffleFrom index state values).Perm values := by
  induction index generalizing state values with
  | zero => exact .refl _
  | succ index ih => exact (ih _ _).trans (swap_perm _ _ _)

theorem shuffle_perm (values : List Nat) (seed : UInt64) : (shuffle values seed).Perm values :=
  shuffleFrom_perm _ _ _

theorem nodup_warmupOrder (plan : PointPlan) : (warmupOrder plan).Nodup :=
  (shuffle_perm _ _).nodup_iff.mpr nodup_range

theorem nodup_measuredOrder (plan : PointPlan) : (measuredOrder plan).Nodup :=
  (shuffle_perm _ _).nodup_iff.mpr nodup_range

/-! ## What the events of a thread do to its record -/

/-- How far a record has come. -/
inductive Standing where
  | waiting | begun | closed
  deriving DecidableEq, Repr

def AttemptRecord.standing (record : AttemptRecord) : Standing :=
  if record.outcome.isSome then .closed
  else if record.startedAt.isSome then .begun
  else .waiting

def WorkerEvent.id : WorkerEvent → Nat
  | .started id _ => id
  | .finished id _ _ => id
  | .clockFault id => id

/-- The events a record can take, and where they lead. -/
def Standing.advance : Standing → WorkerEvent → Option Standing
  | .waiting, .started _ _ => some .begun
  | .waiting, .clockFault _ => some .closed
  | .begun, .finished _ _ _ => some .closed
  | .begun, .clockFault _ => some .closed
  | _, _ => none

/-- What an event writes into the record it finds. -/
def WorkerEvent.write : WorkerEvent → AttemptRecord → AttemptRecord
  | .started _ time, r => { r with startedAt := some time, queueDelay := time - r.scheduledAt }
  | .finished _ time outcome, r => { r with finishedAt := some time, outcome := some outcome }
  | .clockFault _, r => { r with outcome := some .infrastructureFailure }

variable {record : AttemptRecord}

/-- What the standing of a record says about its fields. -/
theorem standing_fields (record : AttemptRecord) :
    match record.standing with
    | .waiting => record.startedAt = none ∧ record.outcome = none
    | .begun => record.startedAt.isSome ∧ record.outcome = none
    | .closed => record.outcome.isSome := by
  unfold AttemptRecord.standing
  cases outcome : record.outcome with
  | some outcome => rfl
  | none => cases record.startedAt <;> exact ⟨rfl, rfl⟩

theorem standing_waiting (h : record.standing = .waiting) :
    record.startedAt = none ∧ record.outcome = none := by
  simpa only [h] using standing_fields record

theorem standing_begun (h : record.standing = .begun) :
    record.startedAt.isSome ∧ record.outcome = none := by
  simpa only [h] using standing_fields record

theorem standing_closed (h : record.standing = .closed) : record.outcome.isSome := by
  simpa only [h] using standing_fields record

theorem write_standing {event : WorkerEvent} {next : Standing}
    (h : record.standing.advance event = some next) : (event.write record).standing = next := by
  cases standing : record.standing with
  | waiting =>
    obtain ⟨-, unsettled⟩ := standing_waiting standing
    rw [standing] at h
    cases event <;> cases h <;> simp [WorkerEvent.write, AttemptRecord.standing, unsettled]
  | begun =>
    rw [standing] at h
    cases event <;> cases h <;> rfl
  | closed =>
    rw [standing] at h
    cases event <;> cases h

/-- Only a terminal event ends a record. -/
theorem advance_over {standing : Standing} {event : WorkerEvent}
    (h : standing.advance event = some .closed) : event.terminal = true := by
  cases standing <;> cases event <;> cases h <;> rfl

/-- Events with no terminal one among them leave a record that is not closed so. -/
theorem foldlM_not_closed {events : List WorkerEvent} {standing : Standing}
    (quiet : ∀ event ∈ events, event.terminal = false)
    (h : events.foldlM Standing.advance standing = some .closed) : standing = .closed := by
  induction events generalizing standing with
  | nil => exact Option.some.inj h
  | cons event rest ih =>
    rw [foldlM_cons] at h
    obtain ⟨next, first, later⟩ := Option.bind_eq_some_iff.mp h
    have closed := ih (fun other member => quiet other (mem_cons_of_mem _ member)) later
    rw [closed] at first
    have terminal := advance_over first
    rw [quiet event mem_cons_self] at terminal
    cases terminal

/-- What a thread has sent by the time it is at a stage. -/
def Worker.Fits (worker : Worker) (standing : Standing) : Prop :=
  match worker.stage with
  | .spawned => standing = .waiting
  | .starting _ => standing = .waiting
  | .running => standing = .begun
  | .ending event => event.id = worker.id ∧ standing.advance event = some .closed
  | .exited => standing = .closed

def WorkerEvent.time : WorkerEvent → Option Nat
  | .started _ time => some time
  | .finished _ time _ => some time
  | .clockFault _ => none

/-- The time that a thread has sampled and not sent yet. -/
def Stage.times : Stage → List Nat
  | .starting time => [time]
  | .ending event => event.time.toList
  | _ => []

/-- Times in order, up to the last sample of the clock. -/
def Ascends (last : Nat) (times : List Nat) : Prop :=
  times.Pairwise (· ≤ ·) ∧ ∀ time ∈ times, time ≤ last

theorem Ascends.later {last last' : Nat} {times : List Nat} (h : Ascends last times)
    (later : last ≤ last') : Ascends last' times :=
  ⟨h.1, fun time member => Nat.le_trans (h.2 time member) later⟩

theorem Ascends.push (h : Ascends last times) (later : last ≤ time) :
    Ascends time (times ++ [time]) := by
  constructor
  · rw [pairwise_append]
    refine ⟨h.1, pairwise_singleton _ _, fun earlier member new single => ?_⟩
    rw [mem_singleton.mp single]
    exact Nat.le_trans (h.2 earlier member) later
  · intro other member
    rcases mem_append.mp member with member | single
    · exact Nat.le_trans (h.2 other member) later
    · exact Nat.le_of_eq (mem_singleton.mp single)

theorem Ascends.sampled {clock after : ClockState} {reading : Reading} {time : Nat}
    (sample : clock.sample reading = (some time, after))
    (h : Ascends clock.lastSample (past ++ [])) :
    Ascends after.lastSample (past ++ [time]) := by
  rw [append_nil] at h
  have later := sample_ge sample
  rw [sample_last sample] at later ⊢
  exact h.push later

/-- The times of a thread: those in its record, then those on their way. -/
def trail (channel : List WorkerEvent) (worker : Worker) (record : AttemptRecord) : List Nat :=
  record.scheduledAt :: record.startedAt.toList ++
    ((channel.filter (·.id = worker.id)).filterMap WorkerEvent.time ++ worker.stage.times)

/-- The events of a thread that are on their way take its record to where the thread is. -/
structure Tracks (last : Nat) (channel : List WorkerEvent) (worker : Worker)
    (record : AttemptRecord) : Prop where
  follows : ∃ standing, (channel.filter (·.id = worker.id)).foldlM Standing.advance
    record.standing = some standing ∧ worker.Fits standing
  timely : Ascends last (trail channel worker record)

namespace AttemptRecord

def Fresh (record : AttemptRecord) : Prop :=
  ∃ id warmup time, record = arrival id warmup time

def Missed (record : AttemptRecord) : Prop :=
  record.missed = true ∧ record.missReason.isSome ∧ record.startedAt = none ∧
    record.finishedAt = none ∧ record.outcome = none

def Settled (record : AttemptRecord) : Prop :=
  record.missed = false ∧ record.missReason = none ∧ record.outcome.isSome

/-- The times of a record are in order, and its delay is their difference. -/
structure Timed (record : AttemptRecord) : Prop where
  started : ∀ started, record.startedAt = some started → record.scheduledAt ≤ started ∧
    record.queueDelay = started - record.scheduledAt ∧
      ∀ finished, record.finishedAt = some finished → started ≤ finished
  unfinished : record.outcome = none → record.finishedAt = none

theorem Timed.unstarted (unstarted : record.startedAt = none)
    (unfinished : record.outcome = none → record.finishedAt = none) : record.Timed := by
  refine ⟨fun started found => ?_, unfinished⟩
  rw [unstarted] at found
  cases found

theorem Missed.timed (missed : record.Missed) : record.Timed :=
  .unstarted missed.2.2.1 fun _ => missed.2.2.2.1

end AttemptRecord

/-- An event takes its time from the way into the record. -/
theorem write_timed {event : WorkerEvent} {next : Standing} {last : Nat} (timed : record.Timed)
    (taken : record.standing.advance event = some next)
    (timely : Ascends last (record.scheduledAt :: record.startedAt.toList ++
      (event.time.toList ++ rest))) :
    (event.write record).Timed ∧ Ascends last ((event.write record).scheduledAt ::
      (event.write record).startedAt.toList ++ rest) := by
  cases event with
  | started id time =>
    have unstarted : record.startedAt = none ∧ record.outcome = none := by
      cases standing : record.standing with
      | waiting => exact standing_waiting standing
      | _ => rw [standing] at taken; cases taken
    rw [unstarted.1] at timely
    refine ⟨⟨?_, timed.unfinished⟩, timely⟩
    rintro started ⟨⟩
    refine ⟨(pairwise_cons.mp timely.1).1 time mem_cons_self, rfl, fun finished found => ?_⟩
    cases (timed.unfinished unstarted.2).symm.trans found
  | finished id time outcome =>
    refine ⟨⟨fun started found => ?_, fun none => nomatch none⟩, timely.1.sublist ?_, ?_⟩
    · obtain ⟨order, delay, -⟩ := timed.started started found
      refine ⟨order, delay, ?_⟩
      rintro finished ⟨⟩
      rw [show record.startedAt = some started from found] at timely
      exact (pairwise_cons.mp (pairwise_cons.mp timely.1).2).1 time mem_cons_self
    · exact List.Sublist.append_left (sublist_append_right _ _) _
    · intro other member
      apply timely.2 other
      rcases mem_append.mp member with here | there
      · exact mem_append_left _ here
      · exact mem_append_right _ (mem_append_right _ there)
  | clockFault id => exact ⟨⟨timed.started, fun none => nomatch none⟩, timely⟩

/-- Each record waits, has been launched, or is missed; each thread has one that follows it. -/
structure Accounts (last : Nat) (attempts : List AttemptRecord) (queue launches : List Nat)
    (channel : List WorkerEvent) (workers : List Worker) : Prop where
  distinct : (workers.map (·.id)).Nodup
  senders : ∀ event ∈ channel, event.id ∈ workers.map (·.id)
  owned : ∀ worker ∈ workers, ∃ index ∈ launches, ∃ record, attempts[index]? = some record ∧
    record.inputId = worker.id ∧ Tracks last channel worker record
  launched : ∀ index ∈ launches, ∀ record, attempts[index]? = some record →
    record.missed = false ∧ record.missReason = none ∧ record.Timed ∧
      (record.outcome.isSome ∨ record.inputId ∈ workers.map (·.id))
  fresh : ∀ index ∈ queue, ∀ record, attempts[index]? = some record →
    record.Fresh ∧ record.scheduledAt ≤ last
  missed : ∀ index record, attempts[index]? = some record → index ∉ launches →
    index ∉ queue → record.Missed

abbrev Accounted (s : PhaseState) : Prop :=
  Accounts s.clock.lastSample s.attempts s.queue s.launches s.channel s.workers

theorem index_eq_of_key {α β : Type} {key : α → β} {items : List α}
    (distinct : (items.map key).Nodup) {i j : Nat} {a b : α} (first : items[i]? = some a)
    (second : items[j]? = some b) (same : key a = key b) : i = j := by
  have inside : i < (items.map key).length := by
    rw [length_map]
    exact (List.getElem?_eq_some_iff.mp first).1
  apply (getElem?_inj inside distinct).mp
  rw [getElem?_map, getElem?_map, first, second]
  exact congrArg some same

section Accounts
variable {last last' : Nat} {attempts attempts' : List AttemptRecord} {queue launches : List Nat}
  {channel : List WorkerEvent} {workers : List Worker} {index : Nat} {record next : AttemptRecord}

theorem Accounts.later (a : Accounts last attempts queue launches channel workers)
    (later : last ≤ last') : Accounts last' attempts queue launches channel workers where
  distinct := a.distinct
  senders := a.senders
  owned worker member := by
    obtain ⟨index, launched, record, found, named, tracks⟩ := a.owned worker member
    exact ⟨index, launched, record, found, named, tracks.follows, tracks.timely.later later⟩
  launched := a.launched
  fresh index member record found := by
    obtain ⟨fresh, due⟩ := a.fresh index member record found
    exact ⟨fresh, Nat.le_trans due later⟩
  missed := a.missed

variable {worker : Worker}

theorem map_id_set (stage : Stage) (held : workers[index]? = some worker) :
    (workers.set index { worker with stage }).map (·.id) = workers.map (·.id) := by
  obtain ⟨inside, rfl⟩ := List.getElem?_eq_some_iff.mp held
  rw [map_set]
  apply ext_getElem?
  intro i
  rw [getElem?_set]
  split
  · rename_i same
    subst same
    simp [inside]
  · rfl

/-- A thread goes on to another stage, with the events that takes. -/
theorem Accounts.worked (a : Accounts last attempts queue launches channel workers)
    (held : workers[index]? = some worker) (stage : Stage)
    (sent : List WorkerEvent) (own : ∀ event ∈ sent, event.id = worker.id)
    (fits : ∀ standing, worker.Fits standing → ∃ next,
      sent.foldlM Standing.advance standing = some next ∧ Worker.Fits { worker with stage } next)
    (times : ∀ past, Ascends last (past ++ worker.stage.times) →
      Ascends last' (past ++ (sent.filterMap WorkerEvent.time ++ stage.times)))
    (later : last ≤ last') :
    Accounts last' attempts queue launches (channel ++ sent)
      (workers.set index { worker with stage }) := by
  have member := mem_of_getElem? held
  have ids := map_id_set stage held
  have onward := a.later later
  refine { onward with distinct := ids ▸ a.distinct, senders := ?_, owned := ?_, launched := ?_ }
  · intro event sent'
    rw [ids]
    rcases mem_append.mp sent' with old | new
    · exact a.senders event old
    · rw [own event new]
      exact mem_map_of_mem member
  · intro other member'
    obtain ⟨i, here⟩ := getElem?_of_mem member'
    rw [getElem?_set] at here
    split at here
    · split at here
      · cases here
        obtain ⟨j, launched, record, found, named, ⟨standing, reached, fit⟩, timely⟩ :=
          a.owned worker member
        obtain ⟨next, moved, fit⟩ := fits standing fit
        have all : sent.filter (·.id = worker.id) = sent := by
          rw [filter_eq_self]
          intro event new
          exact decide_eq_true (own event new)
        refine ⟨j, launched, record, found, named, ⟨next, ?_, fit⟩, ?_⟩
        · rw [filter_append, all, foldlM_append]
          exact Option.bind_eq_some_iff.mpr ⟨standing, reached, moved⟩
        · rw [trail, ← append_assoc] at timely
          have moved := times _ timely
          rw [trail, filter_append, all, filterMap_append]
          simpa only [append_assoc] using moved
      · cases here
    · rename_i elsewhere
      have differs : other.id ≠ worker.id := by
        intro same
        exact elsewhere (index_eq_of_key a.distinct held here same.symm)
      obtain ⟨j, launched, record, found, named, tracks⟩ :=
        onward.owned other (mem_of_getElem? here)
      have same : (channel ++ sent).filter (·.id = other.id) =
          channel.filter (·.id = other.id) := by
        rw [filter_append, append_right_eq_self, filter_eq_nil_iff]
        intro event new
        rw [own event new]
        simpa using differs.symm
      refine ⟨j, launched, record, found, named, ?_, ?_⟩
      · rw [same]
        exact tracks.follows
      · rw [trail, same]
        exact tracks.timely
  · rw [ids]
    exact a.launched

/-- A thread samples the clock and goes on. -/
theorem Accounts.sampled (a : Accounts last attempts queue launches channel workers)
    (held : workers[index]? = some worker) (stage : Stage)
    (fits : ∀ standing, worker.Fits standing → Worker.Fits { worker with stage } standing)
    (times : ∀ past, Ascends last (past ++ worker.stage.times) →
      Ascends last' (past ++ stage.times))
    (later : last ≤ last') :
    Accounts last' attempts queue launches channel (workers.set index { worker with stage }) := by
  have moved := a.worked held stage [] (fun _ new => nomatch new)
    (fun standing fit => ⟨standing, rfl, fits standing fit⟩) times later
  rwa [append_nil] at moved

/-- One record is replaced. -/
structure Replaces (attempts attempts' : List AttemptRecord) (index : Nat) (next : AttemptRecord) :
    Prop where
  here : attempts'[index]? = some next
  kept : ∀ j, j ≠ index → attempts'[j]? = attempts[j]?

theorem Replaces.cases (replaces : Replaces attempts attempts' index next)
    (found : attempts'[j]? = some record) :
    (j = index ∧ record = next) ∨ (j ≠ index ∧ attempts[j]? = some record) := by
  by_cases same : j = index
  · subst same
    exact .inl ⟨rfl, Option.some.inj (found.symm.trans replaces.here)⟩
  · rw [replaces.kept j same] at found
    exact .inr ⟨same, found⟩

theorem Replaces.modify (found : attempts[index]? = some record)
    (f : AttemptRecord → AttemptRecord) :
    Replaces attempts (attempts.modify index f) index (f record) where
  here := by
    rw [getElem?_modify_eq, found]
    rfl
  kept j other := getElem?_modify_ne _ _ (Ne.symm other)

/-- A change made to the last record that allows it, when only one does. -/
theorem modifyLast_eq_modify (held : records[index]? = some record) (chosen : p record = true)
    (only : ∀ i r, records[i]? = some r → p r = true → i = index) :
    modifyLast p f records = records.modify index f := by
  induction records generalizing index with
  | nil => cases held
  | cons first rest ih =>
    rw [modifyLast]
    cases index with
    | zero =>
      cases held
      have none : rest.any p = false := by
        rw [any_eq_false]
        intro other member allowed
        obtain ⟨i, here⟩ := getElem?_of_mem member
        cases only (i + 1) other here allowed
      rw [if_neg (by simp [none]), if_pos chosen]
      rfl
    | succ index =>
      have some : rest.any p = true :=
        any_eq_true.mpr ⟨record, mem_of_getElem? held, chosen⟩
      have later : modifyLast p f rest = rest.modify index f := by
        apply ih held
        intro i r here allowed
        exact Nat.succ.inj (only (i + 1) r here allowed)
      rw [if_pos some, later]
      rfl

theorem filterMap_cons_toList {α β : Type} (f : α → Option β) (x : α) (xs : List α) :
    (x :: xs).filterMap f = (f x).toList ++ xs.filterMap f := by
  cases found : f x <;> simp [found]

variable {event : WorkerEvent}

/-- An event the record of its id can take is written into that record. -/
theorem receive_attempts {s : PhaseState} {next : Standing}
    (held : s.attempts[index]? = some record) (named : record.inputId = event.id)
    (taken : record.standing.advance event = some next)
    (only : ∀ i r, s.attempts[i]? = some r → r.inputId = event.id → i = index) :
    (s.receive ctx event).attempts = s.attempts.modify index event.write := by
  cases event with
  | started id time =>
    apply modifyLast_eq_modify held
    · cases standing : record.standing with
      | waiting =>
        obtain ⟨unstarted, unsettled⟩ := standing_waiting standing
        exact decide_eq_true ⟨named, by rw [unstarted]; rfl, by rw [unsettled]; rfl⟩
      | _ =>
        rw [standing] at taken
        cases taken
    · intro i r here allowed
      exact only i r here (of_decide_eq_true allowed).1
  | finished id time outcome =>
    apply modifyLast_eq_modify held
    · cases standing : record.standing with
      | begun =>
        obtain ⟨started, unsettled⟩ := standing_begun standing
        exact decide_eq_true ⟨named, started, by rw [unsettled]; rfl⟩
      | _ =>
        rw [standing] at taken
        cases taken
    · intro i r here allowed
      exact only i r here (of_decide_eq_true allowed).1
  | clockFault id =>
    apply modifyLast_eq_modify held
    · have unsettled : record.outcome = none := by
        cases standing : record.standing with
        | waiting => exact (standing_waiting standing).2
        | begun => exact (standing_begun standing).2
        | closed =>
          rw [standing] at taken
          cases taken
      exact decide_eq_true ⟨named, by rw [unsettled]; rfl⟩
    · intro i r here allowed
      exact only i r here (of_decide_eq_true allowed).1

@[simp] theorem write_inputId (event : WorkerEvent) (record : AttemptRecord) :
    (event.write record).inputId = record.inputId := by cases event <;> rfl

@[simp] theorem write_missed (event : WorkerEvent) (record : AttemptRecord) :
    (event.write record).missed = record.missed := by cases event <;> rfl

@[simp] theorem write_missReason (event : WorkerEvent) (record : AttemptRecord) :
    (event.write record).missReason = record.missReason := by cases event <;> rfl

theorem write_settled (settled : record.outcome.isSome) : (event.write record).outcome.isSome := by
  cases event with
  | started id time => exact settled
  | finished | clockFault => rfl

/-- The first event on its way can be taken by the record of its thread, and is written there. -/
theorem Accounts.received (a : Accounts last attempts queue launches (event :: rest) workers)
    (apart : ∀ i ∈ launches, i ∉ queue)
    (written : ∀ {index record standing}, attempts[index]? = some record →
      record.inputId = event.id → record.standing.advance event = some standing →
        attempts' = attempts.modify index event.write) :
    Accounts last attempts' queue launches rest workers := by
  obtain ⟨worker, member, from'⟩ := mem_map.mp (a.senders event mem_cons_self)
  obtain ⟨index, launched, record, found, named, ⟨standing, reached, fit⟩, timely⟩ :=
    a.owned worker member
  have chosen :
      (event :: rest).filter (·.id = worker.id) = event :: rest.filter (·.id = worker.id) :=
    filter_cons_of_pos (by simp [from'])
  rw [chosen, foldlM_cons] at reached
  obtain ⟨next, taken, later⟩ := Option.bind_eq_some_iff.mp reached
  obtain ⟨unmissed, unmarked, timed, ended⟩ := a.launched index launched record found
  rw [trail, chosen, filterMap_cons_toList, append_assoc] at timely
  obtain ⟨timed', timely'⟩ := write_timed timed taken timely
  have replaces : Replaces attempts attempts' index (event.write record) :=
    written found (named.trans from') taken ▸ .modify found _
  refine ⟨a.distinct, fun other sent => a.senders other (mem_cons_of_mem _ sent), ?_, ?_, ?_, ?_⟩
  · intro other member'
    by_cases same : other = worker
    · subst same
      refine ⟨index, launched, event.write record, replaces.here, ?_, ⟨standing, ?_, fit⟩, timely'⟩
      · rw [write_inputId, named]
      · rw [write_standing taken]
        exact later
    · obtain ⟨j, launched', record', found', named', follows', timely''⟩ := a.owned other member'
      have differs : other.id ≠ worker.id :=
        fun equal => same (inj_on_of_nodup_map a.distinct member' member equal)
      have elsewhere : j ≠ index := by
        rintro rfl
        rw [found] at found'
        cases found'
        exact differs (named'.symm.trans named)
      have kept : (event :: rest).filter (·.id = other.id) = rest.filter (·.id = other.id) :=
        filter_cons_of_neg (by simpa [← from'] using differs.symm)
      rw [trail, kept] at timely''
      rw [kept] at follows'
      exact ⟨j, launched', record', (replaces.kept j elsewhere).trans found', named', follows',
        timely''⟩
  · intro j member' r here
    rcases replaces.cases here with ⟨rfl, rfl⟩ | ⟨-, before⟩
    · refine ⟨?_, ?_, timed', ended.imp write_settled ?_⟩
      · rw [write_missed, unmissed]
      · rw [write_missReason, unmarked]
      · rw [write_inputId]
        exact id
    · exact a.launched j member' r before
  · intro j queued r here
    rcases replaces.cases here with ⟨rfl, -⟩ | ⟨-, before⟩
    · exact absurd queued (apart j launched)
    · exact a.fresh j queued r before
  · intro j r here unlaunched unqueued
    rcases replaces.cases here with ⟨rfl, -⟩ | ⟨-, before⟩
    · exact absurd launched unlaunched
    · exact a.missed j r before unlaunched unqueued

/-- A record that waits is passed to a new thread, or is ended where it is. -/
theorem Accounts.enlist (a : Accounts last attempts queue launches channel workers)
    (found : attempts[index]? = some record)
    (only : ∀ i r, attempts[i]? = some r → r.inputId = record.inputId → i = index)
    (unlaunched : index ∉ launches) (queued : ∀ i, i ∈ queue ↔ i = index ∨ i ∈ rest)
    (once : index ∉ rest) (replaces : Replaces attempts attempts' index next)
    (ends : next = record ∧ new = [⟨record.inputId, .spawned⟩] ∨
      new = [] ∧ next.missed = record.missed ∧ next.missReason = record.missReason ∧
        next.startedAt = record.startedAt ∧ next.outcome.isSome) :
    Accounts last attempts' rest (launches ++ [index]) channel (workers ++ new) := by
  obtain ⟨⟨id, warmup, time, rfl⟩, due⟩ :=
    a.fresh index ((queued index).mpr (.inl rfl)) record found
  have unclaimed : id ∉ workers.map (·.id) := by
    intro claimed
    obtain ⟨worker, member, same⟩ := mem_map.mp claimed
    obtain ⟨j, launched, r, here, named, -⟩ := a.owned worker member
    exact unlaunched (only j r here (named.trans same) ▸ launched)
  have last := mem_append_right launches (mem_singleton_self index)
  constructor
  · rcases ends with ⟨-, rfl⟩ | ⟨rfl, -⟩
    · rw [map_append, nodup_append]
      refine ⟨a.distinct, nodup_singleton _, ?_⟩
      rintro x member y here rfl
      obtain rfl := mem_singleton.mp here
      exact unclaimed member
    · rw [append_nil]
      exact a.distinct
  · intro event sent
    rw [map_append]
    exact mem_append_left _ (a.senders event sent)
  · intro worker member
    rcases mem_append.mp member with old | new
    · obtain ⟨j, launched, r, here, owner, tracks⟩ := a.owned worker old
      have other : j ≠ index := by
        rintro rfl
        exact unlaunched launched
      exact ⟨j, mem_append_left _ launched, r, (replaces.kept j other).trans here, owner, tracks⟩
    · rcases ends with ⟨rfl, rfl⟩ | ⟨rfl, -⟩
      · -- no event of the new thread is on its way
        obtain rfl := mem_singleton.mp new
        have silent : channel.filter (·.id = id) = [] := by
          rw [filter_eq_nil_iff]
          intro event sent same
          exact unclaimed (of_decide_eq_true same ▸ a.senders event sent)
        refine ⟨index, last, _, replaces.here, rfl, ⟨.waiting, ?_, rfl⟩, ?_⟩
        · change (channel.filter (·.id = id)).foldlM _ _ = _
          rw [silent]
          rfl
        · change Ascends _ (_ :: [] ++ ((channel.filter (·.id = id)).filterMap _ ++ []))
          rw [silent]
          exact ⟨pairwise_singleton _ _, fun time single => mem_singleton.mp single ▸ due⟩
      · cases new
  · intro j launched r here
    rw [map_append]
    rcases replaces.cases here with ⟨rfl, rfl⟩ | ⟨other, before⟩
    · rcases ends with ⟨rfl, rfl⟩ | ⟨-, unmissed, unmarked, unstarted, settled⟩
      · exact ⟨rfl, rfl, .unstarted rfl fun _ => rfl,
          .inr (mem_append_right _ (mem_singleton_self _))⟩
      · refine ⟨unmissed, unmarked, .unstarted unstarted fun none => ?_, .inl settled⟩
        rw [none] at settled
        cases settled
    · rcases mem_append.mp launched with launched | launched
      · obtain ⟨unmissed, unmarked, timed, ended⟩ := a.launched j launched r before
        exact ⟨unmissed, unmarked, timed, ended.imp_right (mem_append_left _)⟩
      · exact absurd (mem_singleton.mp launched) other
  · intro j member r here
    rcases replaces.cases here with ⟨rfl, -⟩ | ⟨-, before⟩
    · exact absurd member once
    · exact a.fresh j ((queued j).mpr (.inr member)) r before
  · intro j r here unlaunched' unqueued
    rcases replaces.cases here with ⟨rfl, -⟩ | ⟨other, before⟩
    · exact absurd last unlaunched'
    · refine a.missed j r before (fun launched => unlaunched' (mem_append_left _ launched)) ?_
      intro member
      exact ((queued j).mp member).elim other unqueued

theorem missed_of_fresh (fresh : record.Fresh) (reason : MissReason) :
    (record.miss reason).Missed := by
  obtain ⟨id, warmup, time, rfl⟩ := fresh
  exact ⟨rfl, rfl, rfl, rfl, rfl⟩

/-- A new record joins those that wait, or those that are missed. -/
theorem Accounts.arrived (a : Accounts last attempts queue launches channel workers)
    (within : ∀ i ∈ launches ++ queue, i < attempts.length)
    (joins : queue' = queue ++ [attempts.length] ∧ record.Fresh ∧ record.scheduledAt ≤ last ∨
      queue' = queue ∧ record.Missed) :
    Accounts last (attempts ++ [record]) queue' launches channel workers := by
  have older : ∀ {i}, i ∈ launches ++ queue → i ≠ attempts.length :=
    fun member => Nat.ne_of_lt (within _ member)
  refine ⟨a.distinct, a.senders, ?_, ?_, ?_, ?_⟩
  · intro worker member
    obtain ⟨index, launched, r, here, rest⟩ := a.owned worker member
    refine ⟨index, launched, r, ?_, rest⟩
    rw [List.getElem?_append_left (List.getElem?_eq_some_iff.mp here).1]
    exact here
  · intro index launched r here
    rcases getElem?_concat_some here with before | ⟨last, -⟩
    · exact a.launched index launched r before
    · exact absurd last (older (mem_append_left _ launched))
  · intro index member r here
    rcases getElem?_concat_some here with before | ⟨last, rfl⟩
    · apply a.fresh index ?_ r before
      rcases joins with ⟨rfl, -⟩ | ⟨rfl, -⟩
      · rw [mem_append, mem_singleton] at member
        exact member.resolve_right (Nat.ne_of_lt (List.getElem?_eq_some_iff.mp before).1)
      · exact member
    · rcases joins with ⟨-, fresh⟩ | ⟨rfl, -⟩
      · exact fresh
      · exact absurd last (older (mem_append_right _ member))
  · intro index r here unlaunched unqueued
    rcases getElem?_concat_some here with before | ⟨last, rfl⟩
    · apply a.missed index r before unlaunched
      intro member
      apply unqueued
      rcases joins with ⟨rfl, -⟩ | ⟨rfl, -⟩
      · exact mem_append_left _ member
      · exact member
    · rcases joins with ⟨rfl, -⟩ | ⟨-, missed⟩
      · exact absurd (mem_append_right _ (mem_singleton.mpr last)) unqueued
      · exact missed

end Accounts

section Accounts
variable {ctx : PhaseContext} {s t : PhaseState} {index : Nat} {record : AttemptRecord}

/-- The ids of the records that have arrived are distinct. -/
theorem Disciplined.unique (d : Disciplined ctx s) (distinct : ctx.order.Nodup) {i j : Nat}
    {r r' : AttemptRecord} (first : s.attempts[i]? = some r) (second : s.attempts[j]? = some r')
    (same : r.inputId = r'.inputId) : i = j := by
  have nodup : (s.attempts.map (·.inputId)).Nodup := by
    rw [d.listed]
    exact distinct.sublist (take_sublist _ _)
  exact index_eq_of_key nodup first second same

theorem Disciplined.apart (d : Disciplined ctx s) (launched : index ∈ s.launches) :
    index ∉ s.queue := by
  intro queued
  exact Nat.lt_irrefl _ ((pairwise_append.mp d.ascending).2.2 index launched index queued)

theorem Accounts.launch
    (a : Accounts s.clock.lastSample s.attempts queue s.launches s.channel s.workers) (time : Nat)
    (spawned : Bool) (onward : Pc) (found : s.attempts[index]? = some record)
    (only : ∀ i r, s.attempts[i]? = some r → r.inputId = record.inputId → i = index)
    (unlaunched : index ∉ s.launches) (queued : ∀ i, i ∈ queue ↔ i = index ∨ i ∈ rest)
    (once : index ∉ rest) (waiting : s.queue = rest) :
    Accounted (s.launch index time spawned onward .loop) := by
  subst waiting
  have named : idAt s.attempts index = record.inputId := by
    rw [idAt, found]
    rfl
  cases spawned with
  | true =>
    have kept : Replaces s.attempts s.attempts index record := ⟨found, fun _ _ => rfl⟩
    exact a.enlist found only unlaunched queued once kept (.inl ⟨rfl, named ▸ rfl⟩)
  | false =>
    have ended := a.enlist found only unlaunched queued once (.modify found fun record =>
      { record with finishedAt := some time, outcome := some .infrastructureFailure })
      (.inr ⟨rfl, rfl, rfl, rfl, rfl⟩)
    rwa [append_nil] at ended

theorem Accounted.rejected (a : Accounted s) (d : Disciplined ctx s) {now : Nat}
    {reason : StopReason} {attempts : List AttemptRecord}
    (rejected : rejectRemaining s.attempts s.queue ctx.order s.next ctx.warmup ctx.plan.model
      ctx.started now reason = some attempts) :
    Accounts s.clock.lastSample attempts [] s.launches s.channel s.workers := by
  have kept : ∀ {index : Nat} {r}, index ∉ s.queue → s.attempts[index]? = some r →
      attempts[index]? = some r := by
    intro index r unqueued here
    obtain ⟨arrivals, later, rfl⟩ := Option.map_eq_some_iff.mp rejected
    have drained := getElem?_drained s.queue (.pointStopped reason) s.attempts index
    rw [here, Option.map_some, if_neg unqueued] at drained
    rw [List.getElem?_append_left (List.getElem?_eq_some_iff.mp drained).1]
    exact drained
  refine ⟨a.distinct, a.senders, ?_, ?_, fun _ member => (nomatch member), ?_⟩
  · intro worker member
    obtain ⟨index, launched, r, here, rest⟩ := a.owned worker member
    exact ⟨index, launched, r, kept (d.apart launched) here, rest⟩
  · intro index launched r here
    apply a.launched index launched r
    rcases rejectRemaining_getElem? rejected here with ⟨_, _, queued, _⟩ | ⟨_, before⟩ | ⟨late, _⟩
    · exact absurd queued (d.apart launched)
    · exact before
    · exact absurd (d.within index (mem_append_left _ launched)) (Nat.not_lt.mpr late)
  · intro index r here unlaunched _
    rcases rejectRemaining_getElem? rejected here with
      ⟨old, before, queued, rfl⟩ | ⟨unqueued, before⟩ | ⟨-, id, time, -, rfl⟩
    · exact missed_of_fresh (a.fresh index queued old before).1 _
    · exact a.missed index r before unlaunched unqueued
    · exact missed_of_fresh ⟨id, ctx.warmup, time, rfl⟩ _

/-- The time that the scheduler thread has sampled. -/
def Pc.now : Pc → Nat
  | .checking now => now
  | .settling now => now
  | .refilling now => now
  | .admitting now => now
  | _ => 0

theorem Move.lastSample_le (move : Move ctx s t) : s.clock.lastSample ≤ t.clock.lastSample := by
  cases move with
  | receive pc sent => exact Nat.le_of_eq (by rw [receive_clock])
  | sampled pc sample => exact sample_ge sample
  | faulted pc sample => exact Nat.le_of_eq (sample_kept sample).symm
  | refilled spawned pc queued free => cases spawned <;> exact Nat.le_refl _
  | admitted spawned pc due arrives free => cases spawned <;> exact Nat.le_refl _
  | entered held stage sample => exact sample_ge sample
  | ended outcome held stage sample => exact sample_ge sample
  | failed held stage sample => exact Nat.le_of_eq (sample_kept sample).symm
  | _ => exact Nat.le_refl _

/-- No time that the scheduler thread holds is after the last sample. -/
theorem Move.clocked (move : Move ctx s t) (clocked : s.pc.now ≤ s.clock.lastSample) :
    t.pc.now ≤ t.clock.lastSample := by
  have later := move.lastSample_le
  cases move with
  | jump jump =>
    cases jump with
    | settling pc early => rw [pc] at clocked; exact clocked
    | refilling pc unstopped => rw [pc] at clocked; exact clocked
    | admitting pc full => rw [pc] at clocked; exact clocked
    | _ => exact Nat.zero_le _
  | receive pc sent =>
    rw [receive_pc, receive_clock]
    exact clocked
  | sampled pc sample => exact Nat.le_of_eq (sample_last sample).symm
  | faulted pc sample => exact Nat.le_refl _
  | expired pc unstopped => rw [pc] at clocked; exact clocked
  | overdue pc unstopped => rw [pc] at clocked; exact clocked
  | rejected pc stopped rejected => exact Nat.zero_le _
  | refilled spawned pc queued free =>
    rw [pc] at clocked
    cases spawned
    · exact Nat.zero_le _
    · exact clocked
  | admitted spawned pc due arrives free =>
    rw [pc] at clocked
    cases spawned
    · exact Nat.zero_le _
    · exact clocked
  | _ => exact Nat.le_trans clocked later

theorem Accounted.move (a : Accounted s) (d : Disciplined ctx s) (distinct : ctx.order.Nodup)
    (clocked : s.pc.now ≤ s.clock.lastSample) (move : Move ctx s t) : Accounted t := by
  have later := move.lastSample_le
  cases move with
  | receive pc sent =>
    rename_i event rest
    have a : Accounts s.clock.lastSample s.attempts s.queue s.launches (event :: rest) s.workers :=
      sent ▸ a
    have received := a.received (fun i launched => d.apart launched)
      fun {index record standing} found named taken =>
        @receive_attempts _ _ _ ctx { s with channel := rest } _ found named taken
          fun i r here same => d.unique distinct here found (same.trans named.symm)
    rw [Accounted, receive_clock, receive_queue, receive_launches, receive_channel, receive_workers]
    exact received
  | sampled | faulted => exact a.later later
  | rejected pc stopped rejected => exact Accounted.rejected a d rejected
  | refilled spawned pc queued free =>
    rename_i now index rest
    have waiting : index ∈ s.queue := queued ▸ mem_cons_self
    have inside := d.within index (mem_append_right _ waiting)
    have found : s.attempts[index]? = some _ := getElem?_eq_getElem inside
    refine Accounts.launch (s := { s with queue := rest }) a now spawned _ found ?_ ?_ ?_ ?_ rfl
    · exact fun i r here same => d.unique distinct here found same
    · exact fun launched => d.apart launched waiting
    · intro i
      rw [queued, mem_cons]
    · have ascending := (pairwise_append.mp d.ascending).2.1
      rw [queued] at ascending
      intro again
      exact Nat.lt_irrefl _ ((pairwise_cons.mp ascending).1 _ again)
  | admitted spawned pc due arrives free =>
    -- the new record joins the queue, and is launched from it
    rename_i now id time
    rw [pc] at clocked
    have fresh : (arrival id ctx.warmup time).Fresh := ⟨id, ctx.warmup, time, rfl⟩
    have joined := a.arrived d.within (.inl ⟨rfl, fresh, Nat.le_trans arrives.2 clocked⟩)
    have found : (s.arrive ctx id time).attempts[s.attempts.length]? =
        some (arrival id ctx.warmup time) := getElem?_concat_length
    refine Accounts.launch (s := s.arrive ctx id time) joined now spawned _ found ?_ ?_ ?_ ?_ rfl
    · exact fun i r here same => (d.arrive time due).unique distinct here found same
    · intro launched
      exact Nat.lt_irrefl _ (d.within _ (mem_append_left _ launched))
    · intro i
      rw [mem_append, mem_singleton, or_comm]
      rfl
    · intro queued
      exact Nat.lt_irrefl _ (d.within _ (mem_append_right _ queued))
  | queued pc due arrives full room =>
    rw [pc] at clocked
    exact a.arrived d.within (.inl ⟨rfl, ⟨_, _, _, rfl⟩, Nat.le_trans arrives.2 clocked⟩)
  | missed pc due arrives model full crowded =>
    exact a.arrived d.within (.inr ⟨rfl, missed_of_fresh ⟨_, _, _, rfl⟩ _⟩)
  | entered held stage sample =>
    refine a.sampled held _ ?_ ?_ later
    · intro standing fit
      rw [Worker.Fits, stage] at fit
      exact fit
    · intro past timely
      rw [stage] at timely
      exact Ascends.sampled sample timely
  | ended outcome held stage sample =>
    refine a.sampled held _ ?_ ?_ later
    · intro standing fit
      rw [Worker.Fits, stage] at fit
      subst fit
      exact ⟨rfl, rfl⟩
    · intro past timely
      rw [stage] at timely
      exact Ascends.sampled sample timely
  | failed held stage sample =>
    refine a.sampled held _ ?_ ?_ later
    · intro standing fit
      rcases stage with stage | stage <;> rw [Worker.Fits, stage] at fit <;> subst fit <;>
        exact ⟨rfl, rfl⟩
    · intro past timely
      rcases stage with stage | stage <;> rw [stage] at timely <;> exact timely.later later
  | announced held stage =>
    refine a.worked held _ _ ?_ ?_ ?_ later
    · intro event new
      rw [mem_singleton.mp new]
      rfl
    · intro standing fit
      rw [Worker.Fits, stage] at fit
      subst fit
      exact ⟨.begun, rfl, rfl⟩
    · intro past timely
      rw [stage] at timely
      exact timely
  | reported held stage =>
    rename_i index worker event
    obtain ⟨-, -, -, -, -, ⟨standing, -, fit⟩, -⟩ := a.owned worker (mem_of_getElem? held)
    rw [Worker.Fits, stage] at fit
    refine a.worked held _ _ ?_ ?_ ?_ later
    · intro other new
      rw [mem_singleton.mp new]
      exact fit.1
    · intro standing fit
      rw [Worker.Fits, stage] at fit
      refine ⟨.closed, ?_, rfl⟩
      rw [foldlM_cons, fit.2]
      rfl
    · intro past timely
      have same : [event].filterMap WorkerEvent.time ++ Stage.times .exited =
          Stage.times (.ending event) := by cases event <;> rfl
      rw [same, ← stage]
      exact timely
  | _ => exact a

/-- In a phase that has returned each record is missed or settled. -/
theorem Accounted.ended (a : Accounted s) (d : Disciplined ctx s) (distinct : ctx.order.Nodup)
    (ended : Ended ctx s) :
    ∀ record ∈ s.attempts, (record.Missed ∨ record.Settled) ∧ record.Timed := by
  intro record member
  obtain ⟨index, here⟩ := getElem?_of_mem member
  by_cases launched : index ∈ s.launches
  · obtain ⟨unmissed, unmarked, timed, settled | claimed⟩ := a.launched index launched record here
    · exact ⟨.inr ⟨unmissed, unmarked, settled⟩, timed⟩
    · -- its thread has exited and left no last event behind
      obtain ⟨exited, quiet⟩ := ended.silent d
      obtain ⟨worker, member', same⟩ := mem_map.mp claimed
      obtain ⟨j, -, other, there, named, ⟨standing, reached, fit⟩, -⟩ := a.owned worker member'
      have index_eq : j = index := d.unique distinct there here (named.trans same)
      rw [index_eq, here] at there
      cases there
      rw [Worker.Fits, exited worker member'] at fit
      subst fit
      have closed :=
        foldlM_not_closed (fun event sent => quiet event (mem_filter.mp sent).1) reached
      exact ⟨.inr ⟨unmissed, unmarked, standing_closed closed⟩, timed⟩
  · have missed : record.Missed := by
      refine a.missed index record here launched ?_
      rw [ended.empty]
      exact not_mem_nil
    exact ⟨.inl missed, missed.timed⟩

variable {failures : Nat} {clock : ClockState} {reading : Reading}

/-- Without threads, events and waiting records it is enough that every record is missed. -/
theorem Accounted.idle (workers : s.workers = []) (channel : s.channel = [])
    (queue : s.queue = []) (launches : s.launches = [])
    (missed : ∀ (index : Nat) record, s.attempts[index]? = some record → record.Missed) :
    Accounted s := by
  constructor
  · rw [workers]
    exact nodup_nil
  · rw [channel]
    exact fun _ member => nomatch member
  · rw [workers]
    exact fun _ member => nomatch member
  · rw [launches]
    exact fun _ member => nomatch member
  · rw [queue]
    exact fun _ member => nomatch member
  · exact fun index record here _ _ => missed index record here

theorem Reaches.clocked (reached : Reaches ctx failures clock reading s) :
    s.pc.now ≤ s.clock.lastSample := by
  induction reached with
  | rejected refuses =>
    unfold rejectedPhase
    dsimp only
    split <;> exact Nat.zero_le _
  | entered sample early => exact Nat.zero_le _
  | moved _ move clocked => exact move.clocked clocked

theorem Reaches.accounted (reached : Reaches ctx failures clock reading s)
    (distinct : ctx.order.Nodup) : Accounted s := by
  induction reached with
  | rejected refuses =>
    refine .idle rfl rfl rfl rfl fun index record held => ?_
    obtain ⟨id, time, -, rfl⟩ := rejectedPhase_missed held
    exact missed_of_fresh ⟨id, _, time, rfl⟩ _
  | entered sample early => exact .idle rfl rfl rfl rfl fun _ _ held => nomatch held
  | moved reached move a => exact a.move reached.disciplined distinct reached.clocked move

/-! ## Declared arrivals -/

/-- A record has the kind and the time of the arrival that it stems from. -/
theorem Evolves.origin (evolves : Evolves ctx s t index record) :
    ∃ old, Stems ctx s index old ∧ record.warmup = old.warmup ∧
      record.scheduledAt = old.scheduledAt := by
  cases evolves with
  | kept stems => exact ⟨_, stems, rfl, rfl⟩
  | started before => exact ⟨_, .old before, rfl, rfl⟩
  | finished before _ => exact ⟨_, .old before, rfl, rfl⟩
  | faulted before _ => exact ⟨_, .old before, rfl, rfl⟩
  | unspawned _ stems => exact ⟨_, stems, rfl, rfl⟩
  | stopped stems _ => exact ⟨_, stems, rfl, rfl⟩
  | missed stems _ _ _ => exact ⟨_, stems, rfl, rfl⟩

/-- Each record carries the kind of its phase and the time declared for its place. -/
def Declared (model : LoadModel) (warmup : Bool) (start : Nat) (records : List AttemptRecord) :
    Prop :=
  ∀ (index : Nat) record, records[index]? = some record →
    record.warmup = warmup ∧ ∃ now, scheduledAt model start now index = some record.scheduledAt

theorem Reaches.declared (reached : Reaches ctx failures clock reading s) :
    Declared ctx.plan.model ctx.warmup (phaseStart ctx.deadline clock reading) s.attempts := by
  induction reached with
  | rejected refuses =>
    intro index record held
    obtain ⟨id, time, scheduled, rfl⟩ := rejectedPhase_missed held
    refine ⟨rfl, ?_⟩
    cases refuses with
    | faulted sample =>
      rw [phaseStart, sample]
      exact ⟨_, scheduled⟩
    | late sample late =>
      rw [phaseStart, sample]
      simp only [Nat.min_eq_right late]
      exact ⟨_, scheduled⟩
  | entered sample early => exact fun _ _ held => nomatch held
  | moved reached move ih =>
    rcases reached.start with ⟨after, now, reason, refuses, rfl⟩ | ⟨early, after, sample⟩
    · obtain rfl := move.of_rejectedPhase
      exact ih
    · intro index record held
      obtain ⟨old, stems, kind, time⟩ := (reached.disciplined.evolves move held).origin
      rw [kind, time]
      cases stems with
      | old before => exact ih index _ before
      | new id declared =>
        rw [phaseStart, sample]
        simp only [Nat.min_eq_left (Nat.le_of_lt early)]
        exact ⟨rfl, _, declared⟩

end Accounts

/-! ## The point -/

/-- The records are one for each id of the order, each missed or settled, with its times in order
and its arrival declared from the start of the phase. -/
structure Complete (model : LoadModel) (warmup : Bool) (order : List Nat) (start : Nat)
    (records : List AttemptRecord) : Prop where
  ids : records.map (·.inputId) = order
  closed : ∀ record ∈ records, (record.Missed ∨ record.Settled) ∧ record.Timed
  declared : Declared model warmup start records

section Point
variable {plan : PointPlan} {warmup : Bool} {order : List Nat} {model : LoadModel}
  {records : List AttemptRecord} {start : Nat}

theorem Complete.listed (complete : Complete model warmup order start records) :
    records.map (fun record => (record.warmup, record.inputId)) = order.map (warmup, ·) := by
  rw [← complete.ids, map_map]
  apply map_congr_left
  intro record member
  obtain ⟨index, held⟩ := getElem?_of_mem member
  exact Prod.ext (complete.declared index record held).1 rfl

theorem Complete.length_eq (complete : Complete model warmup order start records) :
    records.length = order.length := by
  rw [← complete.ids, length_map]

/-- In open loop the arrivals are spaced evenly from the start of the phase. -/
theorem Complete.spaced (complete : Complete (.openLoop interArrival) warmup order start records)
    (held : records[k]? = some record) : record.scheduledAt = start + k * interArrival := by
  obtain ⟨-, now, scheduled⟩ := complete.declared k record held
  obtain ⟨offset, first, second⟩ := Option.bind_eq_some_iff.mp scheduled
  obtain ⟨-, ⟨⟩⟩ := Option.ite_none_right_eq_some.mp first
  obtain ⟨-, same⟩ := Option.ite_none_right_eq_some.mp second
  rw [← Option.some.inj same, Nat.mul_comm]

theorem rejectRemaining_complete
    (h : rejectRemaining [] [] order 0 warmup model start start reason = some records) :
    Complete model warmup order start records where
  ids := rejectRemaining_ids h
  closed record member := by
    obtain ⟨index, held⟩ := getElem?_of_mem member
    obtain ⟨id, time, -, rfl⟩ := rejectRemaining_missed h held
    have missed := missed_of_fresh ⟨id, warmup, time, rfl⟩ (.pointStopped reason)
    exact ⟨.inl missed, missed.timed⟩
  declared index record held := by
    obtain ⟨id, time, scheduled, rfl⟩ := rejectRemaining_missed h held
    exact ⟨rfl, start, scheduled⟩

theorem PhaseEnds.complete (distinct : order.Nodup)
    (ends : PhaseEnds plan deadline s warmup order reading t) :
    ∃ records, t.attempts = s.attempts ++ records ∧
      Complete plan.model warmup order (s.phaseStart deadline reading) records := by
  cases ends with
  | empty none =>
    subst none
    exact ⟨[], (append_nil _).symm, rfl, fun _ member => (nomatch member),
      fun _ _ held => nomatch held⟩
  | stopped held found =>
    refine ⟨_, rfl, ?_⟩
    rw [PointState.phaseStart, held]
    exact rejectRemaining_complete found
  | ran unstopped reaches returned =>
    have d := reaches.disciplined
    have ended := reaches.ended returned
    refine ⟨_, rfl, ?_, (reaches.accounted distinct).ended d distinct ended, ?_⟩
    · rw [d.listed, take_of_length_le ended.arrived]
    · rw [PointState.phaseStart, unstopped]
      exact reaches.declared

theorem rejectedPoint_complete (h : rejectedPoint plan reason now = some result) :
    ∃ warmups measured, result.attempts = warmups ++ measured ∧
      Complete plan.model true (warmupOrder plan) now warmups ∧
      Complete plan.model false (measuredOrder plan) now measured := by
  obtain ⟨warmups, first, h⟩ := Option.bind_eq_some_iff.mp h
  obtain ⟨measured, second, rfl⟩ := Option.map_eq_some_iff.mp h
  exact ⟨warmups, measured, rfl, rejectRemaining_complete first, rejectRemaining_complete second⟩

theorem PointEnds.complete (ends : PointEnds plan env result clock) :
    ∃ warmups measured, result.attempts = warmups ++ measured ∧
      Complete plan.model true (warmupOrder plan) (phaseStarts plan env).1 warmups ∧
      Complete plan.model false (measuredOrder plan) (phaseStarts plan env).2 measured := by
  cases ends with
  | rejected starts found =>
    rw [starts]
    exact rejectedPoint_complete found
  | ran sample fits warmups measures starts awaited =>
    obtain ⟨early, before, first⟩ := warmups.complete (nodup_warmupOrder plan)
    obtain ⟨late, after, second⟩ := measures.complete (nodup_measuredOrder plan)
    rw [starts]
    refine ⟨early, late, ?_, first, second⟩
    rw [after, before, nil_append]

end Point

/-- A run that returns has one record for each planned attempt: the warmups first, then the
measured attempts, each in its seeded order, which permutes the inputs of the plan. Each record
is missed, without start, end or outcome, or has its outcome and no reason for a miss. -/
theorem attempts_accounted (plan : PointPlan) (env : Surroundings) (result : PointResult)
    (clock : ClockState) (returned : runWithSpawner plan env = some (result, clock)) :
    result.attempts.map (fun record => (record.warmup, record.inputId)) =
        (warmupOrder plan).map (true, ·) ++ (measuredOrder plan).map (false, ·) ∧
      (warmupOrder plan).Perm (List.range plan.warmups) ∧
      (measuredOrder plan).Perm (List.range plan.measured) ∧
      ∀ record ∈ result.attempts,
        (record.missed = true ∧ record.missReason.isSome ∧ record.startedAt = none ∧
            record.finishedAt = none ∧ record.outcome = none) ∨
          (record.missed = false ∧ record.missReason = none ∧ record.outcome.isSome) := by
  obtain ⟨warmups, measured, joined, first, second⟩ := (runWithSpawner_ends returned).complete
  refine ⟨?_, shuffle_perm _ _, shuffle_perm _ _, ?_⟩
  · rw [joined, map_append, first.listed, second.listed]
  · intro record member
    rw [joined] at member
    rcases mem_append.mp member with member | member
    · exact (first.closed record member).1
    · exact (second.closed record member).1

/-- In every run a record that has started did so no earlier than it was scheduled, its delay is
the difference, and it finished no earlier than it started. In open loop the records of a phase,
launched or missed, are scheduled from the time the phase began, one interval apart. -/
theorem timing_ordered (plan : PointPlan) (env : Surroundings) (result : PointResult)
    (clock : ClockState) (returned : runWithSpawner plan env = some (result, clock)) :
    (∀ record ∈ result.attempts, ∀ started, record.startedAt = some started →
        record.scheduledAt ≤ started ∧ record.queueDelay = started - record.scheduledAt ∧
          ∀ finished, record.finishedAt = some finished → started ≤ finished) ∧
      ∃ warmups measured, result.attempts = warmups ++ measured ∧
        warmups.length = plan.warmups ∧ measured.length = plan.measured ∧
        ∀ interArrival, plan.model = .openLoop interArrival →
          (∀ (k : Nat) record, warmups[k]? = some record →
            record.scheduledAt = (phaseStarts plan env).1 + k * interArrival) ∧
          ∀ (k : Nat) record, measured[k]? = some record →
            record.scheduledAt = (phaseStarts plan env).2 + k * interArrival := by
  obtain ⟨warmups, measured, joined, first, second⟩ := (runWithSpawner_ends returned).complete
  refine ⟨?_, warmups, measured, joined, ?_, ?_, ?_⟩
  · intro record member
    rw [joined] at member
    rcases mem_append.mp member with member | member
    · exact (first.closed record member).2.started
    · exact (second.closed record member).2.started
  · rw [first.length_eq, warmupOrder, (shuffle_perm _ _).length_eq, length_range]
  · rw [second.length_eq, measuredOrder, (shuffle_perm _ _).length_eq, length_range]
  · intro interArrival model
    rw [model] at first second
    exact ⟨fun k record held => first.spaced held, fun k record held => second.spaced held⟩

section Sample

/-- One attempt runs to its end before the clock passes the deadline; the others are rejected. -/
def sampleLaunch : Surroundings :=
  let scheduler := fun time => Choice.scheduler (sampleReading time) false true
  let worker := Choice.worker 0 (sampleReading 3) .completed
  ⟨true, sampleReading 0, ⟨sampleReading 0, []⟩,
    ⟨sampleReading 1, List.replicate 7 (scheduler 1) ++ List.replicate 5 worker ++
      List.replicate 16 (scheduler 12)⟩, []⟩

theorem attempts_accounted_sample :
    ∃ result clock, runWithSpawner samplePlan sampleLaunch = some (result, clock) ∧
      result.attempts.map (·.outcome) = [some .completed, none, none] ∧
      result.attempts.map (fun record => (record.warmup, record.inputId)) =
        (warmupOrder samplePlan).map (true, ·) ++ (measuredOrder samplePlan).map (false, ·) := by
  have ⟨run, returned⟩ : ∃ run ∈ runWithSpawner samplePlan sampleLaunch,
      run.1.attempts.map (·.outcome) = [some .completed, none, none] := by decide +kernel
  exact ⟨run.1, run.2, returned.1, returned.2, (attempts_accounted _ _ _ _ returned.1).1⟩

theorem timing_ordered_sample :
    ∃ result clock, runWithSpawner samplePlan sampleLaunch = some (result, clock) ∧
      result.attempts.map
        (fun record => (record.scheduledAt, record.startedAt, record.queueDelay)) =
        [(1, some 3, 2), (2, none, 0), (3, none, 0)] ∧
      phaseStarts samplePlan sampleLaunch = (0, 1) ∧
      ∀ record ∈ result.attempts, ∀ started, record.startedAt = some started →
        record.scheduledAt ≤ started := by
  have ⟨run, returned, times⟩ : ∃ run ∈ runWithSpawner samplePlan sampleLaunch,
      run.1.attempts.map (fun record => (record.scheduledAt, record.startedAt, record.queueDelay)) =
        [(1, some 3, 2), (2, none, 0), (3, none, 0)] := by decide +kernel
  refine ⟨run.1, run.2, returned, times, by decide +kernel, fun record member started found => ?_⟩
  exact ((timing_ordered _ _ _ _ returned).1 record member started found).1

end Sample

end AgentSystemsBenchmark.Scheduler
