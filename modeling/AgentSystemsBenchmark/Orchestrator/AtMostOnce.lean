import AgentSystemsBenchmark.Orchestrator.Reopening

/-!
# An attempt is executed at most once

The invariant has a part that survives a crash and a part about the live
service. On disk, every attempt that was ever executed has a journal with an
event beyond preparation, and the attempt identities of two runs differ. In
memory, a run is `prepared` only while its journal holds no such event. An
operation may execute only a `prepared` run, and only after its journal has
left preparation, so the two parts exclude a second execution.
-/

namespace AgentSystemsBenchmark

open Effects Numerals List

section Executions
variable {S : Type} {env : Environment S} {w₀ w t : World S} {id : String}

/-- The durable part: each directory belongs to its run, and every executed attempt has left
preparation in its journal. -/
structure Fenced (env : Environment S) (disk : Disk RunRequest RunStatus) (calls : List String) :
    Prop where
  housed : AllHoused env disk
  once : calls.Nodup
  held : ∀ a ∈ calls, ∃ id dir, disk.runs.lookup id = some dir ∧
    dir.manifest.attemptId = a ∧ Started dir.journal

/-- The live part: a record stands for the directory of its attempt, and a prepared record for
one whose journal has not left preparation. -/
def Tracked (o : Orchestrator S) (disk : Disk RunRequest RunStatus) : Prop :=
  Paired (fun record dir => dir.manifest.attemptId = record.attempt.id ∧
    (record.status = .prepared → ¬ Started dir.journal)) o disk

variable {disk : Disk RunRequest RunStatus}

theorem AllHoused.same_run (housed : AllHoused env disk) (h : disk.runs.lookup id = some dir)
    (h' : disk.runs.lookup id' = some dir')
    (same : dir.manifest.attemptId = dir'.manifest.attemptId) : dir = dir' := by
  obtain ⟨n, rfl, house, _⟩ := housed id dir h
  obtain ⟨m, rfl, house', _⟩ := housed id' dir' h'
  have := attemptIdOf_injective (house.attempt.symm.trans (same.trans house'.attempt))
  obtain rfl : n = m := by omega
  exact Option.some.inj (h.symm.trans h')

/-- What has happened since `w₀`: its directories have grown, and only attempts whose journals
had not left preparation have been executed. -/
structure Since (env : Environment S) (w₀ t : World S) :
    Prop extends Fenced env t.disk t.calls where
  grown : ∀ id dir, w₀.disk.runs.lookup id = some dir →
    ∃ dir', t.disk.runs.lookup id = some dir' ∧ dir.Extends env dir'
  fresh : ∃ new, t.calls = w₀.calls ++ new ∧ ∀ a ∈ new, ∀ id dir,
    w₀.disk.runs.lookup id = some dir → dir.manifest.attemptId = a → ¬ Started dir.journal

theorem Since.start (fenced : Fenced env w.disk w.calls) : Since env w w :=
  ⟨fenced, fun _ dir found => ⟨dir, found, .refl env dir⟩, [], (append_nil _).symm, nofun⟩

/-- The directories may change in any way that keeps them, while nothing is executed. -/
theorem Since.kept (since : Since env w₀ w) (calls : t.calls = w.calls)
    (kept : ∀ {P}, Stable env P → P w.disk → P t.disk) : Since env w₀ t where
  housed := kept allHoused_stable since.housed
  once := calls ▸ since.once
  held a mem := by
    obtain ⟨id, dir, found, own, started⟩ := since.held a (calls ▸ mem)
    obtain ⟨dir', found', grown⟩ := kept (extends_stable id dir) ⟨dir, found, .refl env dir⟩
    exact ⟨id, dir', found', grown.manifest ▸ own, started.grows grown.journal⟩
  grown id dir found := kept (extends_stable id dir) (since.grown id dir found)
  fresh := calls ▸ since.fresh

/-- The work on one run executes it at most once, and only while it is prepared. -/
theorem Since.touched (since : Since env w₀ w) (tracked : Tracked w.service w.disk)
    (durable : w.service.durable = true) (h : Local env id w t) : Since env w₀ t := by
  rcases h.calls with same | ⟨record, found, prepared, called, _, underway⟩
  · exact since.kept same fun stable => stable.grown h.toGrown
  · have idle : Since env w₀ { t with calls := w.calls } :=
      since.kept rfl fun stable => stable.grown h.toGrown
    obtain ⟨dir, stored, own, waits⟩ := tracked id record found
    obtain ⟨dir', stored', started⟩ := underway durable
    obtain ⟨dir'', stored'', grown⟩ := h.directory stored
    obtain rfl := Option.mem_unique stored' stored''
    have quiet := waits prepared
    have new : record.attempt.id ∉ w.calls := by
      intro mem
      obtain ⟨other, held, there, same, begun⟩ := since.held _ mem
      obtain rfl := since.housed.same_run stored there (own.trans same.symm)
      exact quiet begun
    obtain ⟨added, before, silent⟩ := since.fresh
    refine ⟨⟨idle.housed, ?_, fun a mem => ?_⟩, idle.grown, added ++ [record.attempt.id], ?_,
      fun a mem other first there same => ?_⟩
    · rw [called, ← concat_eq_append]
      exact since.once.concat new
    · rw [called] at mem
      rcases mem_append.mp mem with old | last
      · exact idle.held a old
      · obtain rfl := mem_singleton.mp last
        exact ⟨id, dir', stored', grown.manifest ▸ own, started⟩
    · rw [called, before, append_assoc]
    · rcases mem_append.mp mem with old | last
      · exact silent a old other first there same
      · obtain rfl := mem_singleton.mp last
        obtain ⟨now, there', grown'⟩ := since.grown other first there
        have ours : now.manifest.attemptId = record.attempt.id := grown'.manifest ▸ same
        obtain rfl := since.housed.same_run stored there' (own.trans ours.symm)
        exact fun begun => quiet (begun.grows grown'.journal)

theorem Tracked.touched (tracked : Tracked w.service w.disk) (h : Local env id w t) :
    Tracked t.service t.disk := by
  refine Paired.touched tracked h fun _ found stored stored' moves grown held => ?_
  refine ⟨by rw [grown.manifest, held.1, moves.attempt], fun prepared started => ?_⟩
  rcases h.quiet with begun | back
  · have later := begun _ found
    rw [prepared] at later
    cases later
  · obtain ⟨dir, there, begun⟩ := back ⟨_, stored', started⟩
    obtain rfl := Option.mem_unique stored there
    refine held.2 ?_ begun
    rcases moves.status with same | later
    · exact same.symm.trans prepared
    · rw [prepared] at later
      cases later

/-- Both parts of the invariant. -/
structure Serves (env : Environment S) (w₀ w : World S) : Prop extends Since env w₀ w where
  tracked : Tracked w.service w.disk
  durable : w.service.durable = true

/-- An error keeps both parts; a crash keeps the durable one. -/
def Lost (env : Environment S) (w₀ : World S) : Stop → World S → Prop
  | .error _, w => Serves env w₀ w
  | .crash, w => Since env w₀ w

theorem admitRun_serves (request : RunRequest) :
    Sustains (Serves env w₀) (Lost env w₀) (admitRun env request) := by
  intro w serves
  have kept : ∀ {t}, Founding env request w t → Since env w₀ t :=
    fun h => serves.toSince.kept h.calls fun stable => stable.founds h.founds
  have tracked := admitRun_paired env request serves.tracked serves.durable
  specialize tracked fun {_ record dir} held stored stands manifest quiet _ => by
    refine ⟨by rw [manifest, stands.attempt]; rfl, fun prepared started => ?_⟩
    rcases quiet with begun | waits
    · have later := begun record held
      rw [prepared] at later
      cases later
    · exact waits ⟨dir, stored, started⟩
  refine wp_mono (wp_and (admitRun_founding serves.durable) tracked)
    (fun _ t h => ?_) fun stop t h => ?_
  · exact ⟨kept h.1, h.2, h.1.durable.trans serves.durable⟩
  · cases stop with
    | error e => exact ⟨kept h.1, h.2, h.1.durable.trans serves.durable⟩
    | crash => exact kept h.1

theorem perform_serves (call : Call) :
    Sustains (Serves env w₀) (Lost env w₀) (perform env call) := by
  refine perform_sustains_touched (fun _ _ => Iff.rfl) admitRun_serves
    (fun id w t stop h serves => ?_) call
  have since := serves.toSince.touched serves.tracked serves.durable h.local
  cases stop with
  | error e => exact ⟨since, serves.tracked.touched h.local, h.local.durable.trans serves.durable⟩
  | crash => exact since

/-- A journal read back as prepared has no event beyond preparation. -/
theorem Restored.tracked {o : Orchestrator S} {read : List String}
    (restored : Restored env disk read o) : Tracked o disk := by
  refine restored.paired fun {_ dir _} sound => ⟨rfl, fun prepared started => ?_⟩
  obtain ⟨event, mem, begun⟩ := started
  obtain ⟨state, last, later⟩ := lastState_started sound.decoded mem begun
  change ((lastState dir.journal).map fromState).getD .admitted = .prepared at prepared
  rw [last] at prepared
  cases state <;> simp [fromState, ExecutionState.started] at prepared later

end Executions

section Hosts
variable {S : Type} (env : Environment S)

/-- The invariant of a host, live or not. -/
def Host.Safe (host : Host S) : Prop :=
  Fenced env host.disk host.calls ∧
    ∀ o, host.service = some o → Tracked o host.disk ∧ o.durable = true

/-- One event keeps the invariant and executes quiet attempts only. -/
theorem Host.step_safe {host : Host S} (safe : host.Safe env) (event : HostEvent S) :
    (host.step env event).Safe env ∧ ∃ new, (host.step env event).calls = host.calls ++ new ∧
      ∀ a ∈ new, ∀ id dir, host.disk.runs.lookup id = some dir → dir.manifest.attemptId = a →
        ¬ Started dir.journal := by
  cases event with
  | call call faults =>
    cases served : host.service with
    | none =>
      simp only [Host.step, served]
      exact ⟨safe, [], (append_nil _).symm, by rintro _ ⟨⟩⟩
    | some service =>
      obtain ⟨tracked, durable⟩ := safe.2 service served
      rw [Host.step_call env served]
      have serves :=
        perform_serves call (host.world service faults) ⟨.start safe.1, tracked, durable⟩
      rcases hx : perform env call (host.world service faults) with ⟨a, t⟩ | ⟨_ | _, t⟩
      · have kept := wp_ok serves hx
        exact ⟨⟨kept.toFenced, by rintro o ⟨⟩; exact ⟨kept.tracked, kept.durable⟩⟩, kept.fresh⟩
      · have kept := wp_error serves hx
        change Serves env _ t at kept
        exact ⟨⟨kept.toFenced, by rintro o ⟨⟩; exact ⟨kept.tracked, kept.durable⟩⟩, kept.fresh⟩
      · have kept := wp_error serves hx
        change Since env _ t at kept
        exact ⟨⟨kept.toFenced, by rintro _ ⟨⟩⟩, kept.fresh⟩
  | restart source faults =>
    obtain ⟨disk, calls⟩ := host.restarted_disk env source faults
    refine ⟨⟨by rw [disk, calls]; exact safe.1, fun o live => ?_⟩, [],
      by rw [calls, append_nil], by rintro _ ⟨⟩⟩
    have restored := Host.reopened env live
    exact ⟨disk ▸ restored.tracked, restored.durable⟩

theorem Host.fresh_safe : (Host.fresh : Host S).Safe env :=
  ⟨⟨(Host.fresh_housed env).1, nodup_nil, nofun⟩, nofun⟩

variable {events : List (HostEvent S)}

theorem Host.run_safe {before after : Host S} (safe : before.Safe env)
    (run : Runs.Run (fun before event after => after = Host.step env before event) before events
      after) : after.Safe env := by
  refine Runs.Run.invariant (P := Host.Safe env) ?_ run safe
  rintro first event second safe rfl
  exact (Host.step_safe env safe event).1

theorem Host.Run.safe {host : Host S} (run : Host.Run env events host) : host.Safe env :=
  Host.run_safe env (Host.fresh_safe env) run

/-- Across operations, failed writes and crashes, no attempt is executed twice,
and none whose journal already holds an event beyond preparation. -/
theorem executeUntil_at_most_once (events : List (HostEvent S))
    (host : Host S) (run : Host.Run env events host) :
    host.calls.Nodup ∧ ∀ event attempt,
      attempt ∈ (host.step env event).calls.drop host.calls.length →
      attempt ∉ host.calls ∧
      ∀ id dir, host.disk.runs.lookup id = some dir → dir.manifest.attemptId = attempt →
        ∀ e ∈ dir.journal, e.state.started = false := by
  have safe := Host.Run.safe env run
  refine ⟨safe.1.once, fun event attempt new => ?_⟩
  obtain ⟨safe', added, called, quiet⟩ := Host.step_safe env safe event
  rw [called, drop_left] at new
  refine ⟨fun old => ?_, fun id dir found same e mem => ?_⟩
  · have once := safe'.1.once
    rw [called] at once
    exact (nodup_append.mp once).2.2 attempt old attempt new rfl
  · have waits := quiet attempt new id dir found same
    by_contra started
    exact waits ⟨e, mem, by simpa using started⟩

/-- The process dies once the attempt was executed, before that is journaled. After the restart
the attempt is not executed again. -/
theorem executeUntil_at_most_once_sample :
    let events : List (HostEvent Unit) := [.restart () [], .call (.admitRun sampleRequest) [],
      .call (.execute sampleRun sampleAttempt) [.none, .none, .none, .crashBefore],
      .restart () [], .call (.execute sampleRun sampleAttempt) []]
    ∃ host, Host.Run sampleEnvironment events host ∧ host.calls = ["attempt-2"] ∧
      host.calls.Nodup := by
  intro events
  have run := Runs.Run.foldl (Host.step sampleEnvironment) Host.fresh events
  exact ⟨_, run, by decide +kernel, (executeUntil_at_most_once sampleEnvironment events _ run).1⟩

end Hosts

end AgentSystemsBenchmark
