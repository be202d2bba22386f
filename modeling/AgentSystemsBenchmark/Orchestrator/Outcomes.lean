import AgentSystemsBenchmark.Orchestrator.Admissions

/-!
# The first terminal outcome of a run is its last

No operation works on a terminal run, and no admission takes a name that is in use, so
a terminal status stays for as long as the service lives. A durable service reports a
terminal status only when the journal ends in it; an ended journal takes no further
event, and a restart reads the status from its end.
-/

namespace AgentSystemsBenchmark

open Effects

/-- The journal ends in a terminal state. -/
def Ended (journal : List (JournalEvent RunStatus)) : Prop :=
  ∃ state, lastState journal = some state ∧ state.isTerminal = true

theorem allowedTransition_terminal (terminal : s.isTerminal = true) :
    allowedTransition (some s) t = false := by
  cases s <;> cases t <;> first | rfl | cases terminal

/-- Nothing follows a terminal state in a journal that reads back. -/
theorem decodeJournal_ended {D E : Type} {codec : Codec D E} {limits : StoreLimits} {n : Nat}
    {last : Option ExecutionState} {events rest : List (JournalEvent E)} {state : ExecutionState}
    (h : decodeJournal codec limits n last (events ++ rest) = .ok ())
    (ended : lastState events = some state) (terminal : state.isTerminal = true) : rest = [] := by
  induction events generalizing n last with
  | nil => cases ended
  | cons event events ih =>
    obtain ⟨_, decoded⟩ := decodeJournal_cons h
    cases events with
    | cons second events => exact ih decoded (by simpa [lastState] using ended)
    | nil =>
      obtain rfl : event.state = state := Option.some.inj ended
      cases rest with
      | nil => rfl
      | cons next rest =>
        obtain ⟨allowed, _⟩ := decodeJournal_cons decoded
        rw [allowedTransition_terminal terminal] at allowed
        cases allowed

/-- The journal of an ended run is final. -/
theorem Housed.final {S : Type} {env : Environment S} {n : Nat} {before after : RunDirectory}
    (housed : Housed env n before) (grown : before.Extends env after)
    (ended : Ended before.journal) :
    after.journal = before.journal := by
  obtain ⟨rest, whole⟩ := grown.journal
  obtain ⟨state, last, terminal⟩ := ended
  have decoded := (grown.housed n housed).sound.decoded
  rw [← whole] at decoded
  obtain rfl := decodeJournal_ended decoded last terminal
  rw [← whole, List.append_nil]

theorem toState_terminal {status : RunStatus} (terminal : status.terminal = true) :
    (toState status).isTerminal = true ∧ fromState (toState status) = status := by
  cases status with
  | completed | failed | cancelled => exact ⟨rfl, rfl⟩
  | admitted | prepared | running | collecting | needsReconciliation => cases terminal

theorem uncollectable_of_terminal {status : RunStatus} (terminal : status.terminal = true) :
    status.collectable = false := by
  cases status with
  | completed | failed | cancelled => rfl
  | admitted | prepared | running | collecting | needsReconciliation => cases terminal

section Terminal
variable {S α : Type} {env : Environment S} {w t : World S} {handle run : RunHandle}
  {attempt : AttemptHandle} {status : RunStatus}

/-- The run is in this status. -/
def Finished (handle : RunHandle) (status : RunStatus) (o : Orchestrator S) : Prop :=
  ∃ record, o.runs.lookup handle.id = some record ∧ record.run = handle ∧ record.status = status

/-- The operation changes nothing, whatever it answers. -/
def Inert (x : Op S α) (w : World S) : Prop := wp x (fun _ t => t = w) (fun _ t => t = w) w

/-- The run under this name, if there is one, is terminal. -/
def Terminated (id : String) (w : World S) : Prop :=
  ∀ record, w.service.runs.lookup id = some record → record.status.terminal = true

section
variable (terminated : Terminated run.id w)
include terminated

theorem start_inert : Inert (start env run) w := by
  simp only [Inert, start, wp_bind]
  refine wp_recordMut (fun record found _ => ?_) fun _ => rfl
  simp only [wp_failIf]
  refine ⟨fun _ => trivial, fun prepared => ?_⟩
  have terminal := terminated record found
  rw [not_not.mp prepared] at terminal
  cases terminal

theorem execute_inert : Inert (execute env run attempt) w := by
  refine wp_mono (execute_unprepared fun record found prepared => ?_) (fun _ _ h => h.elim)
    fun _ _ h => h.1
  have terminal := terminated record found
  rw [prepared] at terminal
  cases terminal

theorem cancel_inert : Inert (cancel env run attempt) w := by
  simp only [Inert, cancel, wp_bind]
  refine wp_record (fun record found _ => ?_) fun _ => rfl
  simp only [wp_failIf, terminated record found, if_true, wp_pure]
  exact ⟨fun _ => trivial, fun _ => trivial⟩

theorem complete_inert : Inert (complete env run attempt) w := by
  simp only [Inert, complete, wp_bind]
  refine wp_record (fun record found _ => ?_) fun _ => rfl
  have terminal := terminated record found
  simp only [wp_failIf]
  refine ⟨fun _ => trivial, fun _ => ⟨fun _ => trivial, fun collectable => ?_⟩⟩
  rw [uncollectable_of_terminal terminal] at collectable
  exact absurd nofun collectable

theorem reconcile_inert : Inert (reconcile env run attempt) w := by
  simp only [Inert, reconcile, wp_bind, wp_get]
  cases found : w.service.runs.lookup run.id with
  | none => rfl
  | some record =>
    have terminal := terminated record found
    simp only [wp_bind, wp_failIf]
    refine ⟨fun _ => trivial, fun barred => ?_⟩
    push Not at barred
    rw [barred.2.2] at terminal
    cases terminal

end

/-- The names are in order, and this run has ended. -/
def Rests (env : Environment S) (handle : RunHandle) (status : RunStatus) (w : World S) : Prop :=
  WellNamed env w.service ∧ Finished handle status w.service

/-- An operation on one run leaves an ended run as it is. -/
theorem Touches.rests (touches : Touches env run.id x)
    (inert : ∀ w, Terminated run.id w → Inert x w) (terminal : status.terminal = true) :
    Upholds (Rests env handle status) x := by
  rintro w ⟨orderly, record, found, own, reached⟩
  by_cases here : run.id = handle.id
  · have terminated : Terminated run.id w := by
      intro other stored
      rw [here, found, Option.some.injEq] at stored
      rw [← stored, reached]
      exact terminal
    refine wp_mono (inert w terminated) (fun _ t same => ?_) fun stop t same => ?_
    · rw [same]
      exact ⟨orderly, record, found, own, reached⟩
    · cases stop with
      | crash => trivial
      | error e =>
        rw [same]
        exact ⟨orderly, record, found, own, reached⟩
  · have kept : ∀ t, Local env run.id w t → Rests env handle status t := by
      intro t h
      refine ⟨orderly.touched h, record, ?_, own, reached⟩
      rw [h.others handle.id (Ne.symm here), found]
    refine wp_mono (touches.local w) (fun _ t h => kept t h) fun stop t h => ?_
    cases stop with
    | crash => trivial
    | error e => exact kept t h

theorem admitRun_rests (request : RunRequest) :
    Upholds (Rests env handle status) (admitRun env request) := by
  rintro w ⟨orderly, record, found, own, reached⟩
  have fresh := orderly.fresh w.service.nextId (le_refl _)
  refine wp_mono (wp_and (admitRun_orderly request w orderly) admitRun_answers)
    (fun answer t h => ?_) fun stop t h => ?_
  · obtain ⟨orderly', ⟨rfl, _⟩ | ⟨registered, _⟩⟩ := h
    · exact ⟨orderly', record, found, own, reached⟩
    · exact ⟨orderly', record, registered.keeps fresh found, own, reached⟩
  · cases stop with
    | crash => trivial
    | error e =>
      obtain ⟨orderly', unregistered | registered⟩ := h
      · exact ⟨orderly', record, by rw [unregistered.runs, found], own, reached⟩
      · exact ⟨orderly', record, registered.keeps fresh found, own, reached⟩

theorem perform_rests (terminal : status.terminal = true) (call : Call) :
    Upholds (Rests env handle status) (perform env call) :=
  perform_sustains (fun _ _ => Iff.rfl)
    (fun _ _ => cancel_touches.rests (fun _ => cancel_inert) terminal) admitRun_rests
    (fun _ => start_touches.rests (fun _ => start_inert) terminal)
    (fun _ _ => execute_touches.rests (fun _ => execute_inert) terminal)
    (fun _ _ => complete_touches.rests (fun _ => complete_inert) terminal)
    (fun _ _ => reconcile_touches.rests (fun _ => reconcile_inert) terminal) call

/-! ## What the journals say -/

/-- The service has a store, and each record a directory that holds its request; a terminal
record agrees with the end of its journal. -/
def Attested (o : Orchestrator S) (disk : Disk RunRequest RunStatus) : Prop :=
  o.durable = true ∧ Paired (fun record dir => dir.manifest.definition = record.request ∧
    (record.status.terminal = true → lastState dir.journal = some (toState record.status))) o disk

theorem Attested.touched {id : String} (attested : Attested w.service w.disk)
    (h : Works env id w t) :
    Attested t.service t.disk := by
  have certified : Certified id w := fun record found terminal _ => by
    obtain ⟨dir, stored, _, journaled⟩ := attested.2 id record found
    exact ⟨dir, stored, journaled terminal⟩
  refine ⟨h.durable.trans attested.1, attested.2.touched h.toLocal
    fun _ found _ stored moves grown held => ⟨?_, fun terminal => ?_⟩⟩
  · rw [grown.manifest, held.1, moves.request]
  · obtain ⟨dir, there, last⟩ := h.certified certified _ found terminal (h.durable.trans attested.1)
    obtain rfl := Option.mem_unique stored there
    exact last

theorem admitRun_attested (request : RunRequest) :
    Upholds (fun w => Attested w.service w.disk) (admitRun env request) := by
  rintro w ⟨durable, paired⟩
  have kept := admitRun_paired env request paired durable
  specialize kept fun _ _ stands manifest _ waiting =>
    ⟨by rw [manifest, stands.request]; rfl, fun terminal =>
      absurd (waiting.symm.trans terminal) nofun⟩
  refine wp_mono (wp_and (admitRun_founding durable) kept) (fun _ t h => ?_) fun stop t h => ?_
  · exact ⟨h.1.durable.trans durable, h.2⟩
  · cases stop with
    | crash => trivial
    | error e => exact ⟨h.1.durable.trans durable, h.2⟩

theorem perform_attested (call : Call) :
    Upholds (fun w => Attested w.service w.disk) (perform env call) :=
  perform_upholds admitRun_attested (fun _ _ _ h attested => attested.touched h) call

variable {disk : Disk RunRequest RunStatus} {o : Orchestrator S}

theorem Restored.attested {read : List String}
    (restored : Restored env disk read o) : Attested o disk := by
  refine ⟨restored.durable, restored.paired fun {_ dir _} _ => ⟨rfl, fun terminal => ?_⟩⟩
  change (((lastState dir.journal).map fromState).getD .admitted).terminal = true at terminal
  change _ = some (toState (((lastState dir.journal).map fromState).getD .admitted))
  cases last : lastState dir.journal with
  | none =>
    rw [last] at terminal
    cases terminal
  | some state =>
    rw [last] at terminal
    cases state <;> first | rfl | cases terminal

variable {host : Host S}

theorem Host.Run.attested (run : Host.Run env events host) : host.Lives Attested := by
  unfold Host.Run at run
  induction run with
  | nil => exact fun o live => by cases live
  | @snoc before _ events event prior last ih =>
    subst last
    cases event with
    | call call faults => exact Host.call_lives perform_attested ih call faults
    | restart source faults =>
      intro o live
      rw [(before.restarted_disk env source faults).1]
      exact (Host.reopened env live).attested

/-- The journal of the run ends in this status, under the request of the handle. -/
def Final (env : Environment S) (handle : RunHandle) (status : RunStatus)
    (disk : Disk RunRequest RunStatus) : Prop :=
  AllHoused env disk ∧ ∃ dir, disk.runs.lookup handle.id = some dir ∧
    lastState dir.journal = some (toState status) ∧
    handle = ⟨handle.id, 1, env.requestDigest dir.manifest.definition⟩

theorem final_stable (terminal : status.terminal = true) :
    Stable env (Final env handle status) where
  grown h := by
    rintro ⟨all, dir, found, last, own⟩
    obtain ⟨dir', found', grown⟩ := h.directory found
    obtain ⟨n, _, housed, _⟩ := all handle.id dir found
    have same := housed.final grown ⟨_, last, (toState_terminal terminal).1⟩
    refine ⟨allHoused_stable.grown h all, dir', found', by rw [same, last], ?_⟩
    rw [grown.manifest]
    exact own
  founds founds := by
    rintro ⟨all, dir, found, last, own⟩
    exact ⟨allHoused_stable.founds founds all, dir, founds.keeps found, last, own⟩

/-- A terminal status that is reported stands at the end of the journal. -/
theorem Attested.final
    (attested : Attested o disk) (orderly : WellNamed env o) (housed : AllHoused env disk)
    (finished : Finished handle status o) (terminal : status.terminal = true) :
    Final env handle status disk := by
  obtain ⟨record, found, own, reached⟩ := finished
  obtain ⟨dir, stored, definition, journaled⟩ := attested.2 handle.id record found
  have last := journaled (reached ▸ terminal)
  refine ⟨housed, dir, stored, reached ▸ last, ?_⟩
  rw [definition]
  exact own.symm.trans (orderly.handles _ record found)

/-- A restart reads the terminal status back. -/
theorem Restored.finished
    (restored : Restored env disk (runIds disk) o) (final : Final env handle status disk)
    (terminal : status.terminal = true) : Finished handle status o := by
  obtain ⟨_, dir, found, last, own⟩ := final
  obtain ⟨dir', capability, found', sound, _, stored⟩ := restored.housed _ (mem_runIds found)
  obtain rfl := Option.mem_unique found found'
  refine ⟨_, stored, ?_, ?_⟩
  · rw [own]
    simp only [restoredRecord, sound.name]
  · simp only [restoredRecord, last, Option.map_some, Option.getD_some]
    exact (toState_terminal terminal).2

theorem status_eq_ok :
    AgentSystemsBenchmark.status o handle = .ok status ↔ Finished handle status o := by
  unfold AgentSystemsBenchmark.status Finished
  cases o.runs.lookup handle.id with
  | none => simp
  | some record => by_cases own : record.run = handle <;> simp [own]

/-- The run has ended: on disk, and in the live service if there is one. -/
def Host.Ended (env : Environment S) (handle : RunHandle) (status : RunStatus) (host : Host S) :
    Prop :=
  host.Holds (Final env handle status) ∧
    host.Lives fun o _ => WellNamed env o ∧ Finished handle status o

theorem Host.Ended.step (ended : host.Ended env handle status)
    (terminal : status.terminal = true) (event : HostEvent S) :
    (host.step env event).Ended env handle status := by
  refine ⟨Host.step_holds env (final_stable terminal) ended.1 event, ?_⟩
  cases event with
  | call call faults => exact Host.call_lives (perform_rests terminal) ended.2 call faults
  | restart source faults =>
    intro o live
    exact ⟨Host.restarted_orderly ended.1.1.1 o live,
      (Host.reopened env live).finished ended.1.1 terminal⟩

theorem Host.Ended.fold (ended : host.Ended env handle status)
    (terminal : status.terminal = true) (events : List (HostEvent S)) :
    (events.foldl (Host.step env) host).Ended env handle status := by
  induction events generalizing host with
  | nil => exact ended
  | cons event rest ih => exact ih (ended.step terminal event)

end Terminal

/-- Once a status report is terminal, every later report for the run is the same, through any
calls, authority answers, storage faults, crashes and restarts. -/
theorem first_outcome_wins {S : Type} (env : Environment S) {start : Host S}
    {events later : List (HostEvent S)} (life : Lifetime start (events ++ later))
    {first last : Orchestrator S} {handle : RunHandle} {reported : RunStatus}
    (live : (events.foldl (Host.step env) start).service = some first)
    (reports : status first handle = .ok reported) (terminal : reported.terminal = true)
    (alive : ((events ++ later).foldl (Host.step env) start).service = some last) :
    status last handle = .ok reported := by
  rw [status_eq_ok] at reports ⊢
  rw [List.foldl_append] at alive
  generalize whole : events ++ later = all at life
  cases life with
  | root all =>
    have run := Host.fold_run env events
    have orderly := run.orderly first live
    have housed := Host.Run.housed env run
    have final := (run.attested first live).final orderly housed.1 reports terminal
    have ended : (events.foldl (Host.step env) Host.fresh).Ended env handle reported := by
      refine ⟨⟨final, housed.2⟩, fun o served => ?_⟩
      obtain rfl := Option.mem_unique live served
      exact ⟨orderly, reports⟩
    exact ((ended.fold terminal later).2 last alive).2
  | memory source calls =>
    obtain ⟨before, after, rfl, rfl, rfl⟩ := List.map_eq_append_iff.mp whole.symm
    have orderly := Lifetime.orderly env (.memory source before) first live
    refine (Host.calls_live (P := fun o _ => WellNamed env o ∧ Finished handle reported o)
      (perform_rests terminal) (fun o served => ?_) after last alive).2
    obtain rfl := Option.mem_unique live served
    exact ⟨orderly, reports⟩

/-- A run that was executed is reported as completed after its root is opened again. -/
theorem first_outcome_wins_sample :
    ∃ o, ((sampleEvents ++ [HostEvent.restart () []]).foldl (Host.step sampleEnvironment)
        Host.fresh).service = some o ∧ status o sampleRun = .ok .completed := by
  have ⟨first, live, completed⟩ :
      ∃ o ∈ (sampleEvents.foldl (Host.step sampleEnvironment) Host.fresh).service,
        status o sampleRun = .ok .completed := by decide +kernel
  have opens : ((sampleEvents ++ [HostEvent.restart () []]).foldl (Host.step sampleEnvironment)
      Host.fresh).service.isSome = true := by decide +kernel
  obtain ⟨last, reopened⟩ := Option.isSome_iff_exists.mp opens
  exact ⟨last, reopened,
    first_outcome_wins sampleEnvironment (.root _) live completed rfl reopened⟩

end AgentSystemsBenchmark
